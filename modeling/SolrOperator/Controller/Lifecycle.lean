/-
  SolrOperator.Controller.Lifecycle

  One set's life on the API server: the controller's passes, interleaved with what
  the user does to the set between them (writes its spec through the main
  resource, which leaves the status subresource as it is, creates it with an empty
  status, deletes it). Over any such history the conditions the server holds stay
  as the operator writes them: no two of one type, each stamped with a transition
  time, and a `Stable` one among any. These are the premises under which
  `populateCollectionSetStatus` reports `Stable` as `SetStatusCondition` would, so
  they hold in every state a history reaches.

  The proof follows the writes: what `SetStatusCondition` and the reporter leave,
  what each Kubernetes write does to the stored set, then each stage that writes
  (`initializeConditions`, `UpdateStatus`, `RequeueOnError`), a pass, a run. The
  set a pass works on is a copy it read from the server, or one it wrote there, so
  the stage lemmas carry the copy's conditions along with the server's.

  The rest of the set, its status aside, is the user's: a pass leaves it as it was
  or persists `WithDefaults` of it, and `WithDefaults` changes nothing a second time.
  So over any history the server holds the set the user's writes alone would leave,
  or its defaults (`runSet_held_user_writes`).
-/
import SolrOperator.Controller.Report
import SolrOperator.Controller.Process

namespace SolrOperator

/-! ## Conditions as `SetStatusCondition` keeps them -/

/-- No two conditions of one type, each stamped with a transition time. -/
structure ConditionsWF (conds : List Condition) : Prop where
  nodup : (conds.map Condition.type).Nodup
  stamped : ∀ c ∈ conds, c.lastTransitionTime ≠ 0

/-- The conditions the operator leaves on a set: kept as `SetStatusCondition` keeps
    them, with a `Stable` one among any. -/
structure SetConditions (conds : List Condition) extends ConditionsWF conds : Prop where
  stable : conds ≠ [] → typeSolrCollectionSetStable ∈ conds.map Condition.type

theorem ConditionsWF.nil : ConditionsWF [] := ⟨List.nodup_nil, by simp⟩

theorem SetConditions.nil : SetConditions [] := ⟨.nil, fun h => absurd rfl h⟩

theorem mergeCondition_lastTransitionTime (now : Nat) (existing new : Condition) :
    (mergeCondition now existing new).1.lastTransitionTime = existing.lastTransitionTime ∨
      (mergeCondition now existing new).1.lastTransitionTime =
        if new.lastTransitionTime ≠ 0 then new.lastTransitionTime else now := by
  unfold mergeCondition
  by_cases h1 : existing.status = new.status <;> by_cases h2 : existing.reason = new.reason <;>
    by_cases h3 : existing.message = new.message <;> simp [h1, h2, h3]

section
variable {now : Nat} (hnow : now ≠ 0)
include hnow

/-- `SetStatusCondition` at a nonzero clock keeps conditions well formed. -/
theorem setStatusCondition_wf (new : Condition) :
    ∀ conds, ConditionsWF conds → ConditionsWF (setStatusCondition now conds new).1
  | [], _ => by
    refine ⟨List.nodup_singleton _, ?_⟩
    simp only [setStatusCondition, List.mem_singleton, forall_eq]
    split
    · exact hnow
    · assumption
  | c :: cs, h => by
    have hc := List.nodup_cons.1 h.nodup
    simp only [setStatusCondition]
    split
    next ht =>
      refine ⟨by simpa [mergeCondition_type] using h.nodup, fun x hx => ?_⟩
      rcases List.mem_cons.1 hx with rfl | hx
      · rcases mergeCondition_lastTransitionTime now c new with he | he <;> rw [he]
        · exact h.stamped c (List.mem_cons_self _ _)
        · split <;> assumption
      · exact h.stamped x (List.mem_cons_of_mem _ hx)
    next ht =>
      have ih := setStatusCondition_wf new cs
        ⟨hc.2, fun x hx => h.stamped x (List.mem_cons_of_mem _ hx)⟩
      refine ⟨List.nodup_cons.2 ⟨fun hm => ?_, ih.nodup⟩, fun x hx => ?_⟩
      · obtain ⟨x, hx, hxt⟩ := List.mem_map.1 hm
        rcases mem_setStatusCondition now new cs hx with hx | hx
        · exact hc.1 (List.mem_map.2 ⟨x, hx, hxt⟩)
        · exact ht (hxt ▸ hx)
      · rcases List.mem_cons.1 hx with rfl | hx
        · exact h.stamped x (List.mem_cons_self _ _)
        · exact ih.stamped x hx

omit hnow in
/-- `SetStatusCondition` leaves a condition of the new one's type. -/
theorem type_mem_setStatusCondition (new : Condition) :
    ∀ conds : List Condition, new.type ∈ (setStatusCondition now conds new).1.map Condition.type
  | [] => by simp only [setStatusCondition]; split <;> simp
  | c :: cs => by
    simp only [setStatusCondition]
    split
    next ht => exact List.mem_cons.2 (.inl ((mergeCondition_type now c new).trans ht).symm)
    · exact List.mem_cons_of_mem _ (type_mem_setStatusCondition new cs)

/-- `SetStatusCondition` of a `Stable` condition leaves conditions as the operator
    leaves them. -/
theorem setStatusCondition_setConditions {conds : List Condition} (h : ConditionsWF conds)
    {new : Condition} (hnew : new.type = typeSolrCollectionSetStable) :
    SetConditions (setStatusCondition now conds new).1 :=
  ⟨setStatusCondition_wf hnow new conds h, fun _ => hnew ▸ type_mem_setStatusCondition new conds⟩

theorem foldl_setStatusCondition_wf (m : GoMap Condition) :
    ∀ (l : List (String × Condition)) (conds : List Condition), ConditionsWF conds →
      ConditionsWF (l.foldl (fun conds kv => if kv.1 ∈ m then conds
        else (setStatusCondition now conds kv.2).1) conds)
  | [], _, h => h
  | kv :: l, conds, h => by
    rw [List.foldl_cons]
    refine foldl_setStatusCondition_wf m l _ ?_
    split
    · exact h
    · exact setStatusCondition_wf hnow kv.2 conds h

/-- Whatever conditions the set held, duplicated or unstamped, the reporter writes
    them as the operator leaves them. -/
theorem statusConditions_setConditions (ord : MapOrder Site) (existing : List Condition)
    {stable : Condition} (hs : stable.type = typeSolrCollectionSetStable) :
    SetConditions (statusConditions ord now existing stable) := by
  simp only [statusConditions, GoMap.range_singleton, List.foldl_cons, List.foldl_nil]
  generalize hE : existing.foldl (fun (m : GoMap Condition) c => m.insert c.type c) ∅ = E
  have hC := foldl_setStatusCondition_wf hnow ((∅ : GoMap Condition).insert stable.type stable)
    (E.range ord .statusExistingConditions) [] .nil
  cases hl : E.lookup stable.type with
  | none => exact setStatusCondition_setConditions hnow hC hs
  | some ec =>
    have hect : ec.type = stable.type := ((lookup_foldl_byType existing ∅ (by rw [hE]; exact hl)
      ).resolve_right (by simp [AList.lookup_empty])).2
    dsimp only
    split
    · exact setStatusCondition_setConditions hnow hC (hect.trans hs)
    · exact setStatusCondition_setConditions hnow hC hs

theorem populateCollectionSetStatus_setConditions (ord : MapOrder Site) (cs : SolrCollectionSet)
    (clusterStatus : ClusterStatus) :
    SetConditions (populateCollectionSetStatus ord now cs clusterStatus).1.conditions :=
  statusConditions_setConditions hnow ord _ (by split <;> rfl)

end

/-! ## What each write does to the stored set's conditions -/

/-- The set the server holds, if any, has its conditions as the operator leaves them. -/
def ApiServer.ConditionsKept (api : ApiServer) : Prop :=
  ∀ obj, api.stored = some obj → SetConditions obj.status.conditions

namespace ApiServer.ConditionsKept

variable {api : ApiServer} (h : api.ConditionsKept)
include h

theorem statusPatch (fault : Option String) (old obj : SolrCollectionSet)
    (hobj : SetConditions obj.status.conditions) : (api.statusPatch fault old obj).2.ConditionsKept := by
  intro o ho
  rcases ApiServer.stored_statusPatch fault old obj api with hs | ⟨s, hs, -, hs'⟩
  · exact h o (hs ▸ ho)
  · rw [hs'] at ho
    cases ho
    simp only [mergeStatus]
    split
    · exact h s hs
    · exact hobj

theorem statusUpdate (fault : Option String) (obj : SolrCollectionSet)
    (hobj : SetConditions obj.status.conditions) : (api.statusUpdate fault obj).2.ConditionsKept := by
  intro o ho
  rcases ApiServer.stored_statusUpdate fault obj api with hs | ⟨s, -, -, hs⟩ <;> rw [hs] at ho
  · exact h o ho
  · cases ho
    exact hobj

theorem update (fault : Option String) (obj : SolrCollectionSet) :
    (api.update fault obj).2.ConditionsKept := by
  intro o ho
  cases fault with
  | some _ => exact h o ho
  | none =>
    obtain ⟨s, hs, rfl⟩ := Option.map_eq_some'.1 ho
    exact h s hs

theorem event (obj : SolrCollectionSet) (reason message : String) :
    (api.event obj reason message).ConditionsKept := h

theorem recordEvents (ord : MapOrder Site) (cs : SolrCollectionSet) (events : GoMap String) :
    (SolrOperator.recordEvents ord cs events api).ConditionsKept := by
  rw [SolrOperator.recordEvents]
  generalize events.range ord .updateStatusEvents = l
  induction l generalizing api with
  | nil => exact h
  | cons _ _ ih => exact ih (h.event _ _ _)

/-- A read returns the stored set, so its conditions are the server's. -/
theorem get {fault : Option String} {cs : SolrCollectionSet} (hget : api.get fault = .ok cs) :
    SetConditions cs.status.conditions :=
  h cs (ApiServer.stored_of_get hget)

end ApiServer.ConditionsKept

/-! ## What each stage leaves -/

section
variable {now : Nat} (hnow : now ≠ 0) (faults : KubeFaults)
include hnow

open ApiServer in
/-- `RequeueOnError` writes `Stable=False` onto the conditions of the set it is given. -/
theorem requeueOnError_conditionsKept (cs : SolrCollectionSet) (error : String) {api : ApiServer}
    (h : api.ConditionsKept) (hcs : ConditionsWF cs.status.conditions) :
    (requeueOnError now faults cs error api).2.ConditionsKept := by
  let stableCondition : Condition :=
    ⟨typeSolrCollectionSetStable, .conditionFalse, 0, reasonSolrCollectionSetReconcileError, error⟩
  have hp := h.statusPatch faults.errorPatch cs { cs with status := { cs.status with
    conditions := (setStatusCondition now cs.status.conditions stableCondition).1 } }
    (setStatusCondition_setConditions hnow hcs rfl)
  simp only [requeueOnError]
  split
  · split <;> rename_i heq <;> rw [heq] at hp
    · exact hp
    · split <;> exact hp
  · exact h

/-- `UpdateStatus` writes the reporter's conditions, and goes on with a set whose
    conditions are the server's or the reporter's. -/
theorem updateStatus_conditionsKept (ord : MapOrder Site) (cs : SolrCollectionSet)
    (clusterStatus : ClusterStatus) {api : ApiServer} (h : api.ConditionsKept)
    (hcs : SetConditions cs.status.conditions) :
    (updateStatus ord now faults cs clusterStatus api).2.ConditionsKept ∧
      SetConditions (updateStatus ord now faults cs clusterStatus api).1.2.status.conditions := by
  have hnew := populateCollectionSetStatus_setConditions hnow ord cs clusterStatus
  have he := h.recordEvents ord cs (populateCollectionSetStatus ord now cs clusterStatus).2
  have hp : (patchChangedStatus faults.statusPatch cs (populateCollectionSetStatus ord now cs
      clusterStatus).1 (recordEvents ord cs (populateCollectionSetStatus ord now cs
        clusterStatus).2 api)).2.2.ConditionsKept ∧
      SetConditions (patchChangedStatus faults.statusPatch cs (populateCollectionSetStatus ord now cs
        clusterStatus).1 (recordEvents ord cs (populateCollectionSetStatus ord now cs
          clusterStatus).2 api)).2.1.status.conditions := by
    rw [patchChangedStatus]
    split
    · exact ⟨he.statusPatch _ _ _ hnew, hnew⟩
    · exact ⟨he, hcs⟩
  simp only [updateStatus]
  split <;> rename_i heq <;> rw [heq] at hp
  · exact hp
  · split <;> rename_i hget
    · exact hp
    · exact ⟨hp.1, hp.1.get hget⟩

/-- Seeding the conditions writes `Stable=Unknown`, and the pass goes on with the
    seeded set as the server holds it. -/
theorem initializeConditions_conditionsKept (env : PassEnv) (henv : env.now = now)
    (cs : SolrCollectionSet) {api : ApiServer} (h : api.ConditionsKept)
    (hcs : SetConditions cs.status.conditions) :
    (initializeConditions env cs api).2.ConditionsKept ∧
      ∀ cs', (initializeConditions env cs api).1 = .ok cs' → SetConditions cs'.status.conditions := by
  subst henv
  simp only [initializeConditions]
  split
  · let seed : Condition := ⟨typeSolrCollectionSetStable, .conditionUnknown, 0,
      reasonSolrCollectionSetInitializing, "Bootstrapping the operator"⟩
    have hseed : SetConditions (setStatusCondition env.now [] seed).1 :=
      setStatusCondition_setConditions hnow .nil rfl
    have hu := h.statusUpdate env.faults.statusUpdate
      { cs with status := { cs.status with conditions := (setStatusCondition env.now [] seed).1 } } hseed
    split <;> rename_i heq <;> rw [heq] at hu
    · exact ⟨hu, by simp⟩
    · split <;> rename_i hget
      · exact ⟨requeueOnError_conditionsKept hnow env.faults _ _ hu hseed.toConditionsWF, by simp⟩
      · exact ⟨hu, fun cs' h' => by cases h'; exact hu.get hget⟩
  · exact ⟨h, fun cs' h' => by cases h'; exact hcs⟩

end

@[simp] theorem SolrCollectionSet.withDefaults_status (sc : SolrCollectionSet) :
    sc.withDefaults.1.status = sc.status := by
  simp [SolrCollectionSet.withDefaults, SolrCollectionSet.setCollectionDefaults]

section
variable {σ : Type} (sv : Solr σ) (lib : Lib) (env : PassEnv) (hnow : env.now ≠ 0)
include hnow

/-- The stages from `InitializeSolrCluster` on write only through `UpdateStatus` and
    `RequeueOnError`. -/
theorem reconcileSolr_conditionsKept (cs : SolrCollectionSet) (s : PassState σ)
    (h : s.api.ConditionsKept) (hcs : SetConditions cs.status.conditions) :
    (reconcileSolr sv lib env cs s).2.api.ConditionsKept := by
  simp only [reconcileSolr]
  split
  · exact requeueOnError_conditionsKept hnow _ _ _ h hcs.toConditionsWF
  next clusterStatus isInitializing cl conn heq =>
    have hev : (if isInitializing then
        s.api.event cs eventSolrCollectionSetInitializing ("SolrCollectionSpec [" ++ cs.name ++
          "] is being initialized in namespace [" ++ cs.namespace ++ "]") else s.api).ConditionsKept := by
      split
      · exact h.event _ _ _
      · exact h
    have hu := updateStatus_conditionsKept hnow env.faults env.ord cs clusterStatus hev hcs
    split <;> rename_i heq2 <;> rw [heq2] at hu
    · exact requeueOnError_conditionsKept hnow _ _ _ hu.1 hu.2.toConditionsWF
    · split <;> (try split) <;> (try split) <;> first
        | exact hu.1
        | exact requeueOnError_conditionsKept hnow _ _ _ hu.1 hu.2.toConditionsWF

/-- A pass keeps the stored set's conditions as the operator leaves them. -/
theorem reconcile_conditionsKept (s : PassState σ) (h : s.api.ConditionsKept) :
    (reconcile sv lib env s).2.api.ConditionsKept := by
  simp only [reconcile]
  split
  · exact h
  next cs hget =>
    have hi := initializeConditions_conditionsKept hnow env rfl cs h (h.get hget)
    split <;> rename_i heq <;> rw [heq] at hi
    · exact hi.1
    next cs' api =>
      have hcs' := hi.2 cs' rfl
      split
      next cs'' hdef =>
        have hcs'' : SetConditions cs''.status.conditions := by
          rw [← show cs'.withDefaults.1 = cs'' by rw [hdef], SolrCollectionSet.withDefaults_status]
          exact hcs'
        have hup := hi.1.update env.faults.update cs''
        split <;> rename_i heq2 <;> rw [heq2] at hup
        · exact requeueOnError_conditionsKept hnow _ _ _ hup hcs''.toConditionsWF
        · exact hup
      next cs'' hdef =>
        have hcs'' : SetConditions cs''.status.conditions := by
          rw [← show cs'.withDefaults.1 = cs'' by rw [hdef], SolrCollectionSet.withDefaults_status]
          exact hcs'
        split
        · exact hi.1
        · exact reconcileSolr_conditionsKept sv lib env hnow cs'' _ hi.1 hcs''

end

/-! ## What a pass leaves of the set

`WithDefaults` fills the spec's unset fields and `Update` writes the result; every
other write of a pass goes to the status subresource. -/

/-- The spec `WithDefaults` leaves: it depends on the spec alone. -/
def SolrCollectionSetSpec.defaults (spec : SolrCollectionSetSpec) : SolrCollectionSetSpec :=
  { spec.withDefaults.1 with collections := spec.collections.map fun c => c.withDefaults.1 }

/-- `WithDefaults` changes the spec only. -/
theorem SolrCollectionSet.withDefaults_eq (sc : SolrCollectionSet) :
    sc.withDefaults.1 = { sc with spec := sc.spec.defaults } := by
  simp [SolrCollectionSet.withDefaults, SolrCollectionSet.setCollectionDefaults,
    SolrCollectionSetSpec.defaults, SolrCollectionSetSpec.withDefaults]

theorem SolrCollection.withDefaults_withDefaults (c : SolrCollection) :
    c.withDefaults.1.withDefaults.1 = c.withDefaults.1 := by
  unfold SolrCollection.withDefaults
  by_cases h1 : c.configsetName = "" <;> by_cases h2 : c.alias = "" <;> by_cases h3 : c.name = "" <;>
    simp [h1, h2, h3]

theorem SolrCollectionSetSpec.defaults_defaults (spec : SolrCollectionSetSpec) :
    spec.defaults.defaults = spec.defaults := by
  simp [SolrCollectionSetSpec.defaults, SolrCollectionSetSpec.withDefaults, defaultPtr_idem,
    SolrCollection.withDefaults_withDefaults]

/-- Defaults once filled stay: a second `WithDefaults` leaves the set as the first did,
    whether or not it reports a change. -/
theorem SolrCollectionSet.withDefaults_withDefaults (sc : SolrCollectionSet) :
    sc.withDefaults.1.withDefaults.1 = sc.withDefaults.1 := by
  rw [withDefaults_eq, withDefaults_eq, SolrCollectionSetSpec.defaults_defaults]

namespace ApiServer

/-- The set the server holds, its status aside: the part only `Update` and the
    user's writes change. -/
def held (api : ApiServer) : Option SolrCollectionSet :=
  api.stored.map fun o => { o with status := .empty }

variable (fault : Option String) (obj : SolrCollectionSet) (api : ApiServer)

@[simp] theorem held_statusPatch (old : SolrCollectionSet) :
    (api.statusPatch fault old obj).2.held = api.held := by
  rcases stored_statusPatch fault old obj api with hs | ⟨s, hs, -, hs'⟩ <;> simp [held, hs, *]

@[simp] theorem held_statusUpdate : (api.statusUpdate fault obj).2.held = api.held := by
  rcases stored_statusUpdate fault obj api with hs | ⟨s, hs, -, hs'⟩ <;> simp [held, hs, *]

@[simp] theorem held_event (reason message : String) : (api.event obj reason message).held = api.held :=
  rfl

/-- `Update` writes the spec it is given onto the set the server holds, if it succeeds. -/
theorem held_update : (api.update fault obj).2.held = api.held ∨
    (api.update fault obj).2.held = api.held.map fun o => { o with spec := obj.spec } := by
  cases fault <;> simp [update, held, Option.map_map, Function.comp_def]

end ApiServer

theorem ApiServer.held_of_eq {α : Type} {f : ApiServer → α × ApiServer}
    (hf : ∀ api, (f api).2.held = api.held) {api api' : ApiServer} {a : α} (h : f api = (a, api')) :
    api'.held = api.held := by
  rw [← hf api, h]

open ApiServer

@[simp] theorem held_recordEvents (ord : MapOrder Site) (cs : SolrCollectionSet) (events : GoMap String)
    (api : ApiServer) : (recordEvents ord cs events api).held = api.held := by
  simp only [ApiServer.held, recordEvents_stored]

@[simp] theorem held_patchChangedStatus (fault : Option String) (cs : SolrCollectionSet)
    (newStatus : SolrCollectionSetStatus) (api : ApiServer) :
    (patchChangedStatus fault cs newStatus api).2.2.held = api.held := by
  rw [patchChangedStatus]
  split <;> simp

@[simp] theorem held_updateStatus (ord : MapOrder Site) (now : Nat) (faults : KubeFaults)
    (cs : SolrCollectionSet) (clusterStatus : ClusterStatus) (api : ApiServer) :
    (updateStatus ord now faults cs clusterStatus api).2.held = api.held := by
  have hp := held_patchChangedStatus faults.statusPatch cs
    (populateCollectionSetStatus ord now cs clusterStatus).1
    (recordEvents ord cs (populateCollectionSetStatus ord now cs clusterStatus).2 api)
  rw [held_recordEvents] at hp
  simp only [updateStatus]
  split <;> rename_i heq <;> rw [heq] at hp
  · exact hp
  · split <;> exact hp

@[simp] theorem held_requeueOnError (now : Nat) (faults : KubeFaults) (cs : SolrCollectionSet)
    (error : String) (api : ApiServer) : (requeueOnError now faults cs error api).2.held = api.held := by
  simp only [requeueOnError]
  split
  · split <;> rename_i heq
    · exact held_of_eq (fun _ => held_statusPatch _ _ _ _) heq
    · split <;> exact held_of_eq (fun _ => held_statusPatch _ _ _ _) heq
  · rfl

section
variable {σ : Type} (sv : Solr σ) (lib : Lib) (env : PassEnv)

@[simp] theorem held_initializeConditions (cs : SolrCollectionSet) (api : ApiServer) :
    (initializeConditions env cs api).2.held = api.held := by
  simp only [initializeConditions]
  split
  · split <;> rename_i heq
    · exact held_of_eq (fun _ => held_statusUpdate _ _ _) heq
    · split
      · exact (held_requeueOnError _ _ _ _ _).trans (held_of_eq (fun _ => held_statusUpdate _ _ _) heq)
      · exact held_of_eq (fun _ => held_statusUpdate _ _ _) heq
  · rfl

/-- The pass from `InitializeSolrCluster` on leaves the set the server holds as it
    was, status aside. -/
@[simp] theorem held_reconcileSolr (cs : SolrCollectionSet) (s : PassState σ) :
    (reconcileSolr sv lib env cs s).2.api.held = s.api.held := by
  simp only [reconcileSolr]
  split
  · simp
  next clusterStatus isInitializing cl conn heq =>
    have hev : (if isInitializing then
        s.api.event cs eventSolrCollectionSetInitializing ("SolrCollectionSpec [" ++ cs.name ++
          "] is being initialized in namespace [" ++ cs.namespace ++ "]") else s.api).held = s.api.held := by
      split <;> rfl
    split <;> rename_i heq2 <;> have hu := (held_of_eq (fun _ => held_updateStatus _ _ _ _ _ _) heq2).trans hev
    · simpa using hu
    · split <;> (try split) <;> (try split) <;> simpa using hu

/-- A pass neither creates, deletes nor renames the set: it leaves the set the server
    holds as it was, status aside, or persists `WithDefaults` of it. -/
theorem reconcile_held (s : PassState σ) :
    (reconcile sv lib env s).2.api.held = s.api.held ∨
      (reconcile sv lib env s).2.api.held = s.api.held.map (·.withDefaults.1) := by
  simp only [reconcile]
  split
  · exact .inl rfl
  next cs hget =>
    have hs := ApiServer.stored_of_get hget
    have hi := held_initializeConditions env cs s.api
    split <;> rename_i heq <;> rw [heq] at hi
    · exact .inl hi
    next cs' api =>
      have hcs' : cs'.spec = cs.spec :=
        (initializeConditions_holds env (⟨cs, hs, rfl, rfl⟩ : s.api.Holds cs.name cs.spec) heq).2.1
      split
      next cs'' hdef =>
        have hspec : cs''.spec = cs.spec.defaults := by
          rw [← show cs'.withDefaults.1 = cs'' by rw [hdef], SolrCollectionSet.withDefaults_eq, hcs']
        have hup : ∀ api', (api.update env.faults.update cs'').2 = api' →
            api'.held = s.api.held ∨ api'.held = s.api.held.map (·.withDefaults.1) := by
          rintro _ rfl
          rcases ApiServer.held_update env.faults.update cs'' api with h | h <;> rw [h, hi]
          · exact .inl rfl
          · refine .inr ?_
            simp [ApiServer.held, hs, hspec, SolrCollectionSet.withDefaults_eq]
        split <;> rename_i heq2
        · simpa using hup _ (congrArg Prod.snd heq2)
        · exact hup _ (congrArg Prod.snd heq2)
      next cs'' hdef =>
        split
        · exact .inl hi
        · exact .inl ((held_reconcileSolr sv lib env cs'' _).trans hi)

end

/-! ## One set's history -/

/-- What the user does to the set between passes: write its spec through the main
    resource, which leaves the status subresource as it is; create it, with an
    empty status, unless it exists; delete it. -/
inductive UserWrite where
  | apply (spec : SolrCollectionSetSpec)
  | create (name «namespace» : String) (spec : SolrCollectionSetSpec)
  | delete

/-- The server after a user's write. -/
def UserWrite.run : UserWrite → ApiServer → ApiServer
  | .apply spec, api => { api with stored := api.stored.map fun o => { o with spec := spec } }
  | .create name «namespace» spec, api =>
    { api with stored := api.stored.or (some ⟨name, «namespace», spec, .empty⟩) }
  | .delete, api => { api with stored := none }

/-- A step of the set's history: a pass of the controller, or a user's write. -/
inductive SetStep where
  | pass (env : PassEnv)
  | user (w : UserWrite)

section
variable {σ : Type} (sv : Solr σ) (lib : Lib)

/-- One step: a pass carries the client and the Solr side on; a user's write only
    changes the server. -/
def SetStep.run : SetStep → PassState σ → PassState σ
  | .pass env, s => (reconcile sv lib env s).2
  | .user w, s => { s with api := w.run s.api }

/-- A history of the set, step after step. -/
def runSet (steps : List SetStep) (s : PassState σ) : PassState σ :=
  steps.foldl (fun s step => step.run sv lib s) s

theorem UserWrite.conditionsKept (w : UserWrite) {api : ApiServer} (h : api.ConditionsKept) :
    (w.run api).ConditionsKept := by
  intro o ho
  cases w with
  | apply spec =>
    obtain ⟨s, hs, rfl⟩ := Option.map_eq_some'.1 ho
    exact h s hs
  | create name «namespace» spec =>
    cases hs : api.stored with
    | some s =>
      simp only [UserWrite.run, hs, Option.or_some, Option.some.injEq] at ho
      exact ho ▸ h s hs
    | none =>
      simp only [UserWrite.run, hs, Option.none_or, Option.some.injEq] at ho
      exact ho ▸ SetConditions.nil
  | delete => cases ho

/-- Over any history of passes at a running clock and of the user's writes, the
    conditions of the set the server holds stay as the operator writes them: no two
    of one type, each stamped with a transition time, and a `Stable` one among any. -/
theorem runSet_keeps_conditions (steps : List SetStep) (s : PassState σ)
    (hnow : ∀ env, SetStep.pass env ∈ steps → env.now ≠ 0) (h : s.api.ConditionsKept) :
    (runSet sv lib steps s).api.ConditionsKept := by
  induction steps generalizing s with
  | nil => exact h
  | cons step steps ih =>
    refine ih _ (fun env he => hnow env (List.mem_cons_of_mem _ he)) ?_
    cases step with
    | pass env => exact reconcile_conditionsKept sv lib env (hnow env (List.mem_cons_self _ _)) s h
    | user w => exact w.conditionsKept h

end

/-- A set created and then reconciled twice at clock 1, against a cluster that fails
    every call. -/
theorem runSet_keeps_conditions_created :
    let env : PassEnv := ⟨MapOrder.stored Site, 1, KubeFaults.none, fun _ => none, .ok []⟩
    let steps : List SetStep :=
      [.user (.create "set" "ns" ⟨"http://solr", "auth", none, none, none, none, []⟩), .pass env, .pass env]
    let lib : Lib := ⟨Codec.go, .ok []⟩
    let s : PassState Unit := ⟨SolrClient.zero, ⟨(), []⟩, ⟨none, [], []⟩⟩
    ((∀ e, SetStep.pass e ∈ steps → e.now ≠ 0) ∧ s.api.ConditionsKept) ∧
      (runSet (Solr.failing "down") lib steps s).api.ConditionsKept := by
  intro env steps lib s
  have h1 : ∀ e, SetStep.pass e ∈ steps → e.now ≠ 0 := by
    intro e he
    simp only [steps, List.mem_cons, SetStep.pass.injEq, reduceCtorEq, List.mem_nil_iff, or_false,
      false_or] at he
    rcases he with rfl | rfl <;> decide
  have h2 : s.api.ConditionsKept := fun o ho => by cases ho
  exact ⟨⟨h1, h2⟩, runSet_keeps_conditions (Solr.failing "down") lib steps s h1 h2⟩

/-! ## The set over a history

Leave the passes out of a history and run the user's writes alone: the set the
server holds is the same, or `WithDefaults` of it. -/

/-- A step with the controller left out: a pass does nothing, a user's write what it
    does. -/
def SetStep.userRun : SetStep → ApiServer → ApiServer
  | .pass _, api => api
  | .user w, api => w.run api

/-- The server after the user's writes of a history alone. -/
def runUserWrites (steps : List SetStep) (api : ApiServer) : ApiServer :=
  steps.foldl (fun api step => step.userRun api) api

/-- The set the server holds is `written`, or `WithDefaults` of it. -/
def HeldAsWritten (held written : Option SolrCollectionSet) : Prop :=
  held = written ∨ held = written.map (·.withDefaults.1)

namespace HeldAsWritten

variable {held written : Option SolrCollectionSet}

theorem defaults (h : HeldAsWritten held written) :
    HeldAsWritten (held.map (·.withDefaults.1)) written := by
  rcases h with rfl | rfl
  · exact .inr rfl
  · exact .inr (by simp [Option.map_map, Function.comp_def, SolrCollectionSet.withDefaults_withDefaults])

theorem userWrite (w : UserWrite) {api api' : ApiServer} (h : HeldAsWritten api.held api'.held) :
    HeldAsWritten (w.run api).held (w.run api').held := by
  cases w with
  | apply spec =>
    have hrun : ∀ api : ApiServer, (UserWrite.run (.apply spec) api).held =
        api.held.map fun o => { o with spec := spec } := fun _ => by
      simp [UserWrite.run, ApiServer.held, Option.map_map, Function.comp_def]
    rw [hrun, hrun]
    rcases h with h | h <;> rw [h]
    · exact .inl rfl
    · exact .inl (by simp [Option.map_map, Function.comp_def, SolrCollectionSet.withDefaults_eq])
  | create name «namespace» spec =>
    have hrun : ∀ api : ApiServer, (UserWrite.run (.create name «namespace» spec) api).held =
        api.held.or (some ⟨name, «namespace», spec, .empty⟩) := fun api => by
      cases hs : api.stored <;> simp [UserWrite.run, ApiServer.held, hs]
    rw [hrun, hrun]
    cases hw : api'.held <;> rcases h with h | h <;> rw [h, hw]
    · exact .inl rfl
    · exact .inl rfl
    · exact .inl rfl
    · exact .inr rfl
  | delete => exact .inl rfl

end HeldAsWritten

section
variable {σ : Type} (sv : Solr σ) (lib : Lib)

theorem runSet_heldAsWritten (steps : List SetStep) (s : PassState σ) (api : ApiServer)
    (h : HeldAsWritten s.api.held api.held) :
    HeldAsWritten (runSet sv lib steps s).api.held (runUserWrites steps api).held := by
  induction steps generalizing s api with
  | nil => exact h
  | cons step steps ih =>
    refine ih _ _ ?_
    cases step with
    | pass env =>
      show HeldAsWritten (reconcile sv lib env s).2.api.held api.held
      rcases reconcile_held sv lib env s with h' | h' <;> rw [h']
      · exact h
      · exact h.defaults
    | user w => exact h.userWrite w

/-- Over any history of passes and user's writes, the set the server holds, status
    aside, is the one the user's writes alone would leave, or `WithDefaults` of it:
    the operator creates, deletes and renames nothing, and writes no spec but the
    defaults of the user's. -/
theorem runSet_held_user_writes (steps : List SetStep) (s : PassState σ) :
    (runSet sv lib steps s).api.held = (runUserWrites steps s.api).held ∨
      (runSet sv lib steps s).api.held = (runUserWrites steps s.api).held.map (·.withDefaults.1) :=
  runSet_heldAsWritten sv lib steps s s.api (.inl rfl)

end

end SolrOperator
