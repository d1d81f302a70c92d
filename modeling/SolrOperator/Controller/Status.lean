/-
  SolrOperator.Controller.Status

  The status reporter: `populateCollectionSetStatus` computes the set's status
  and the events to record from the spec and a cluster snapshot;
  `UpdateStatus` records the events and patches the status when it differs from
  the stored one; `RequeueOnError` writes the `Stable=False/errorEncountered`
  condition on the error path.

  `meta.SetStatusCondition` is apimachinery library code; it is modelled as that
  library defines it, with `now` for `time.Now()`. The reporter ranges over
  several maps, and both the order of `SolrCollections` and the winning
  `unstableReason` follow the visiting order.
-/
import SolrOperator.Controller.Collections
import SolrOperator.Kube.Core

namespace SolrOperator

/-! ## Conditions -/

/-- The field updates `SetStatusCondition` makes to an existing condition of the
    new condition's type, and whether any field changed. -/
def mergeCondition (now : Nat) (existing new : Condition) : Condition × Bool :=
  let (c, ch1) :=
    if existing.status ≠ new.status then
      ({ existing with
          status := new.status
          lastTransitionTime := if new.lastTransitionTime ≠ 0 then new.lastTransitionTime else now },
        true)
    else (existing, false)
  let (c, ch2) := if c.reason ≠ new.reason then ({ c with reason := new.reason }, true) else (c, false)
  let (c, ch3) := if c.message ≠ new.message then ({ c with message := new.message }, true)
    else (c, false)
  (c, ch1 || ch2 || ch3)

/-- `meta.SetStatusCondition`: update the first condition of the new one's type,
    or append the new one, stamped `now` if it has no transition time. -/
def setStatusCondition (now : Nat) : List Condition → Condition → List Condition × Bool
  | [], new =>
    ([if new.lastTransitionTime = 0 then { new with lastTransitionTime := now } else new], true)
  | c :: cs, new =>
    if c.type = new.type then
      let (c', changed) := mergeCondition now c new
      (c' :: cs, changed)
    else
      let (cs', changed) := setStatusCondition now cs new
      (c :: cs', changed)

theorem mergeCondition_type (now : Nat) (existing new : Condition) :
    (mergeCondition now existing new).1.type = existing.type := by
  unfold mergeCondition
  by_cases h1 : existing.status = new.status <;> by_cases h2 : existing.reason = new.reason <;>
    by_cases h3 : existing.message = new.message <;> simp [h1, h2, h3]

/-- `SetStatusCondition` keeps the conditions' types, adding the new one's at the
    end when none has it. -/
theorem types_setStatusCondition (now : Nat) (new : Condition) :
    ∀ conds : List Condition, (setStatusCondition now conds new).1.map Condition.type =
      if new.type ∈ conds.map Condition.type then conds.map Condition.type
      else conds.map Condition.type ++ [new.type]
  | [] => by simp only [setStatusCondition]; split <;> rfl
  | c :: cs => by
    simp only [setStatusCondition]
    split
    next ht => simp [mergeCondition_type, ht]
    next ht =>
      simp only [List.map_cons, types_setStatusCondition now new cs, List.mem_cons, Ne.symm ht,
        false_or]
      split <;> rfl

theorem nodup_types_setStatusCondition (now : Nat) (new : Condition) {conds : List Condition}
    (h : (conds.map Condition.type).Nodup) :
    ((setStatusCondition now conds new).1.map Condition.type).Nodup := by
  rw [types_setStatusCondition]
  split
  · exact h
  next hn => exact h.append (List.nodup_singleton _) (List.disjoint_singleton.2 hn)

/-- `conditionsEqual`: equal type, status, message and reason. -/
def conditionsEqual (c1 c2 : Condition) : Bool :=
  c1.type = c2.type && c1.status = c2.status && c1.message = c2.message && c1.reason = c2.reason

/-! ## `populateCollectionSetStatus` -/

/-- `newSolrSectionStatus`: a collection status with only the spec's data. -/
def newSolrSectionStatus (collectionSpec : SolrCollection) (instanceName : String) :
    SolrCollectionStatus where
  name := collectionSpec.name
  instanceName := instanceName
  configSet := collectionSpec.configsetName
  «exists» := false
  active := false
  blueGreen := instanceName ≠ ""
  replicationFactor := 0
  replicaCount := 0
  replicationStatus := "--"

/-- The loop over the spec's collections: a status per instance, keyed as the
    instance name (the spec name without blue/green, where `InstanceName` is `""`). -/
def specStatusMap (collections : List SolrCollection) (isBlueGreenEnabled : Bool) :
    GoMap SolrCollectionStatus :=
  collections.foldl (fun m collectionSpec =>
    if isBlueGreenEnabled then
      ["_blue", "_green"].foldl (fun m suffix =>
        m.insert (collectionSpec.name ++ suffix)
          (newSolrSectionStatus collectionSpec (collectionSpec.name ++ suffix))) m
    else m.insert collectionSpec.name (newSolrSectionStatus collectionSpec "")) ∅

/-- What `populateCollectionSetStatus` accumulates while it looks at the cluster. -/
structure StatusScan where
  isStable : Bool
  unstableReason : String
  events : GoMap String
  collectionStatusMap : GoMap SolrCollectionStatus

/-- The message of the `AddingCollection` and `RemovingCollection` events. -/
def collectionsEventMessage (cs : SolrCollectionSet) (verb : String) (number : Int32) : String :=
  "SolrCollectionSpec [" ++ cs.name ++ "] is in namespace [" ++ cs.namespace ++ "] is " ++ verb ++
    " [" ++ fmtInt32 number ++ "] collections"

/-- The message of the `ScaleOut` and `ScaleIn` events. -/
def scaleEventMessage (cs : SolrCollectionSet) (verb : String) (collection : Collection) :
    String :=
  "SolrCollectionSpec [" ++ cs.name ++ "] is in namespace [" ++ cs.namespace ++ "] is " ++ verb ++
    " from [" ++ fmtInt32 collection.replicaCount ++ "] replicas to [" ++
    fmtInt32 collection.replicationFactor ++ "]"

/-- The count comparison that opens the reporter. -/
def scanCounts (cs : SolrCollectionSet) (specifiedCollectionCount solrCollectionsCount : Nat)
    (st : StatusScan) : StatusScan :=
  if specifiedCollectionCount ≠ solrCollectionsCount then
    let number := abs (BitVec.ofInt 32 ((specifiedCollectionCount : Int) - solrCollectionsCount))
    let number := if cs.spec.blueGreen then number.sdiv 2 else number
    let st := { st with isStable := false }
    let st := if specifiedCollectionCount < solrCollectionsCount then
        { st with
          unstableReason := reasonSolrCollectionRemovingCollections
          events := st.events.insert eventSolrCollectionSetRemovingCollection
            (collectionsEventMessage cs "removing" number) }
      else st
    if specifiedCollectionCount > solrCollectionsCount then
      { st with
        unstableReason := reasonSolrCollectionAddingCollections
        events := st.events.insert eventSolrCollectionSetAddingCollection
          (collectionsEventMessage cs "adding" number) }
    else st
  else st

/-- The body of the loop over the cluster's collections. The suffix strip
    computes `TrimSuffix(name, "_blue")` and then overwrites it with
    `TrimSuffix(name, "_green")`. -/
def scanCollection (cs : SolrCollectionSet) (collectionsToAliasesMap : GoMap String)
    (st : StatusScan) (kv : String × Collection) : StatusScan :=
  let name := kv.1
  let collection := kv.2
  if hasPrefix collection.name "_" then st
  else
    let isActive := if cs.spec.blueGreen then trimSuffix name "_green" ∈ collectionsToAliasesMap
      else true
    let st := if cs.spec.rf ≠ collection.replicationFactor then
        { st with isStable := false, unstableReason := reasonSolrCollectionReplicationFactorMismatch }
      else st
    let replicationStatus :=
      fmtInt32 collection.replicaCount ++ "/" ++ fmtInt32 collection.replicationFactor
    let st :=
      if collection.replicaCount ≠ collection.replicationFactor then
        let st := { st with isStable := false }
        if collection.replicaCount.slt collection.replicationFactor then
          { st with
            unstableReason := reasonSolrCollectionSetScalingOut
            events := st.events.insert eventSolrCollectionSetScaleOut
              (scaleEventMessage cs "scaling out" collection) }
        else if collection.replicationFactor.slt collection.replicaCount then
          { st with
            unstableReason := reasonSolrCollectionSetScalingIn
            events := st.events.insert eventSolrCollectionSetScaleIn
              (scaleEventMessage cs "scaling in" collection) }
        else st
      else st
    match st.collectionStatusMap.lookup name with
    | none => st
    | some item =>
      { st with
        collectionStatusMap := st.collectionStatusMap.insert name
          { item with
            replicationFactor := collection.replicationFactor
            replicaCount := collection.replicaCount
            replicationStatus := replicationStatus
            active := isActive
            «exists» := true } }

/-- The conditions the reporter writes: carry forward the existing conditions of
    other types, then apply `Stable`, keeping the existing one when it is equal
    by `conditionsEqual`. -/
def statusConditions (ord : MapOrder Site) (now : Nat) (existing : List Condition)
    (stable : Condition) : List Condition :=
  let existingConditions : GoMap Condition := existing.foldl (fun m c => m.insert c.type c) ∅
  let newConditions : GoMap Condition := (∅ : GoMap Condition).insert stable.type stable
  let carried := (existingConditions.range ord .statusExistingConditions).foldl
    (fun conds kv => if kv.1 ∈ newConditions then conds
      else (setStatusCondition now conds kv.2).1) []
  (newConditions.range ord .statusNewConditions).foldl (fun conds kv =>
    match existingConditions.lookup kv.1 with
    | some existingCondition =>
      if conditionsEqual kv.2 existingCondition then (setStatusCondition now conds existingCondition).1
      else (setStatusCondition now conds kv.2).1
    | none => (setStatusCondition now conds kv.2).1) carried

/-- `populateCollectionSetStatus`: the new status and the events to record. -/
def populateCollectionSetStatus (ord : MapOrder Site) (now : Nat) (cs : SolrCollectionSet)
    (clusterStatus : ClusterStatus) : SolrCollectionSetStatus × GoMap String :=
  let specifiedCollectionCount := countSpecifiedCollections cs.spec.collections cs.spec.blueGreen
  let solrCollectionsCount := countSolrCollections clusterStatus.collections
  let st := scanCounts cs specifiedCollectionCount solrCollectionsCount
    ⟨true, "", ∅, specStatusMap cs.spec.collections cs.spec.blueGreen⟩
  let collectionsToAliasesMap := clusterStatus.aliases.reverse ord .statusAliases
  let st := (clusterStatus.collections.range ord .statusCollections).foldl
    (scanCollection cs collectionsToAliasesMap) st
  let stable : Condition :=
    if st.isStable then
      ⟨typeSolrCollectionSetStable, .conditionTrue, 0, reasonSolrCollectionSetStable, ""⟩
    else
      ⟨typeSolrCollectionSetStable, .conditionFalse, 0, st.unstableReason,
        "Spec and cluster status are not aligned"⟩
  ({ conditions := statusConditions ord now cs.status.conditions stable
     replicationFactor := cs.spec.rf
     readyRatio := toString solrCollectionsCount ++ "/" ++ toString specifiedCollectionCount
     scaleStatus := ""
     solrCollections := (st.collectionStatusMap.range ord .statusCollectionMap).map Prod.snd },
    st.events)

/-! ## `UpdateStatus` and `RequeueOnError` -/

/-- The events loop of `UpdateStatus`. -/
def recordEvents (ord : MapOrder Site) (cs : SolrCollectionSet) (events : GoMap String)
    (api : ApiServer) : ApiServer :=
  (events.range ord .updateStatusEvents).foldl (fun api kv => api.event cs kv.1 kv.2) api

/-- The patch of `UpdateStatus`, made only when the new status differs from the
    set's: the error, the set as the pass now holds it, and the server. -/
def patchChangedStatus (fault : Option String) (cs : SolrCollectionSet)
    (newStatus : SolrCollectionSetStatus) (api : ApiServer) :
    Option String × SolrCollectionSet × ApiServer :=
  if cs.status ≠ newStatus then
    let cs' := { cs with status := newStatus }
    let r := api.statusPatch fault cs cs'
    (r.1, cs', r.2)
  else (none, cs, api)

/-- `UpdateStatus`: record the events, patch the status if it changed, re-read
    the set. Returns the error, if any, and the set as the pass now holds it. -/
def updateStatus (ord : MapOrder Site) (now : Nat) (faults : KubeFaults) (cs : SolrCollectionSet)
    (clusterStatus : ClusterStatus) (api : ApiServer) :
    (Option String × SolrCollectionSet) × ApiServer :=
  let r := populateCollectionSetStatus ord now cs clusterStatus
  let api := recordEvents ord cs r.2 api
  match patchChangedStatus faults.statusPatch cs r.1 api with
  | (some err, cs, api) => ((some err, cs), api)
  | (none, cs, api) =>
    match api.get faults.statusRefetch with
    | .error err => ((some err, cs), api)
    | .ok cs => ((none, cs), api)

/-- `RequeueOnError`: set `Stable=False/errorEncountered` with the error as message,
    patching and re-reading when that changes the status. -/
def requeueOnError (now : Nat) (faults : KubeFaults) (cs : SolrCollectionSet) (error : String)
    (api : ApiServer) : Result × ApiServer :=
  let stableCondition : Condition :=
    ⟨typeSolrCollectionSetStable, .conditionFalse, 0, reasonSolrCollectionSetReconcileError, error⟩
  let statusCopy := { cs.status with
    conditions := (setStatusCondition now cs.status.conditions stableCondition).1 }
  if cs.status ≠ statusCopy then
    match api.statusPatch faults.errorPatch cs { cs with status := statusCopy } with
    | (some _, api) => (requeueWithBackoff, api)
    | (none, api) =>
      match api.get faults.errorRefetch with
      | .error _ => (requeueWithBackoff, api)
      | .ok _ => (requeue, api)
  else (requeue, api)

/-! ## What the reporter leaves on the server -/

section
variable {name : String} {spec : SolrCollectionSetSpec}

theorem ApiServer.Holds.recordEvents {api : ApiServer} (h : api.Holds name spec)
    (ord : MapOrder Site) (cs : SolrCollectionSet) (events : GoMap String) :
    (recordEvents ord cs events api).Holds name spec := by
  rw [SolrOperator.recordEvents]
  generalize events.range ord .updateStatusEvents = l
  induction l generalizing api with
  | nil => exact h
  | cons _ _ ih => exact ih (h.event _ _ _)

theorem ApiServer.Holds.patchChangedStatus {api : ApiServer} (h : api.Holds name spec)
    (fault : Option String) (cs : SolrCollectionSet) (newStatus : SolrCollectionSetStatus) :
    (SolrOperator.patchChangedStatus fault cs newStatus api).2.2.Holds name spec := by
  rw [SolrOperator.patchChangedStatus]
  split
  · exact h.statusPatch _ _ _
  · exact h

/-- `UpdateStatus` writes only the status: the server keeps the set's name and
    spec, and the set the pass goes on with is the one the server holds. -/
theorem updateStatus_holds (ord : MapOrder Site) (now : Nat) (faults : KubeFaults)
    (cs : SolrCollectionSet) (clusterStatus : ClusterStatus) {api : ApiServer}
    (h : api.Holds name spec) :
    (updateStatus ord now faults cs clusterStatus api).2.Holds name spec ∧
      ∀ cs', (updateStatus ord now faults cs clusterStatus api).1 = (none, cs') →
        cs'.name = name ∧ cs'.spec = spec := by
  have hp := (h.recordEvents ord cs (populateCollectionSetStatus ord now cs clusterStatus).2
    ).patchChangedStatus faults.statusPatch cs (populateCollectionSetStatus ord now cs clusterStatus).1
  simp only [updateStatus]
  split <;> rename_i heq <;> rw [heq] at hp
  · exact ⟨hp, by simp⟩
  · split <;> rename_i hget
    · exact ⟨hp, by simp⟩
    · exact ⟨hp, fun cs' h' => by cases h'; exact hp.get hget⟩

@[simp] theorem stored_recordEvents (ord : MapOrder Site) (cs : SolrCollectionSet)
    (events : GoMap String) (api : ApiServer) : (recordEvents ord cs events api).stored = api.stored := by
  rw [recordEvents]
  generalize events.range ord .updateStatusEvents = l
  induction l generalizing api with
  | nil => rfl
  | cons _ _ ih => exact ih _

theorem ApiServer.Valid.recordEvents {api : ApiServer} (h : api.Valid) (ord : MapOrder Site)
    (cs : SolrCollectionSet) (events : GoMap String) : (recordEvents ord cs events api).Valid :=
  fun s hs => h s (by rwa [stored_recordEvents] at hs)

/-- With its patch and its read succeeding, `UpdateStatus` on a server holding the
    set reports no error when the server's status and the new one pass the key
    check. -/
theorem updateStatus_ok (ord : MapOrder Site) (now : Nat) {faults : KubeFaults}
    (cs : SolrCollectionSet) (clusterStatus : ClusterStatus) {api : ApiServer}
    (h : api.Holds name spec) (hvalid : api.Valid)
    (hnew : (populateCollectionSetStatus ord now cs clusterStatus).1.keyError = none)
    (hpatch : faults.statusPatch = none) (hrefetch : faults.statusRefetch = none) :
    (updateStatus ord now faults cs clusterStatus api).1.1 = none := by
  set new := populateCollectionSetStatus ord now cs clusterStatus
  have he := h.recordEvents ord cs new.2
  have hp := he.patchChangedStatus faults.statusPatch cs new.1
  have hnone : (patchChangedStatus faults.statusPatch cs new.1 (recordEvents ord cs new.2 api)).1 = none := by
    obtain ⟨o, ho, -, -⟩ := he
    rw [patchChangedStatus, hpatch]
    split
    · exact ApiServer.statusPatch_of_keyError _ _ ho
        (keyError_mergeStatus (hvalid.recordEvents ord cs new.2 o ho) hnew)
    · rfl
  simp only [updateStatus]
  split <;> rename_i heq <;> rw [heq] at hnone hp
  · cases hnone
  · obtain ⟨o, ho, -, -⟩ := hp
    dsimp only at ho
    simp only [ApiServer.get, hrefetch, ho]

end

theorem ApiServer.StatusWrites.recordEvents (ord : MapOrder Site) (cs : SolrCollectionSet)
    (events : GoMap String) (api : ApiServer) :
    ApiServer.StatusWrites api (recordEvents ord cs events api) := by
  rw [SolrOperator.recordEvents]
  generalize events.range ord .updateStatusEvents = l
  induction l generalizing api with
  | nil => exact .refl _
  | cons _ _ ih => exact (ApiServer.StatusWrites.event _ _ _ _).trans (ih _)

/-- `UpdateStatus` writes the status only. -/
theorem updateStatus_statusWrites (ord : MapOrder Site) (now : Nat) (faults : KubeFaults)
    (cs : SolrCollectionSet) (clusterStatus : ClusterStatus) (api : ApiServer) :
    ApiServer.StatusWrites api (updateStatus ord now faults cs clusterStatus api).2 := by
  have he := ApiServer.StatusWrites.recordEvents ord cs
    (populateCollectionSetStatus ord now cs clusterStatus).2 api
  have hp : ∀ api', ApiServer.StatusWrites api' (patchChangedStatus faults.statusPatch cs
      (populateCollectionSetStatus ord now cs clusterStatus).1 api').2.2 := fun api' => by
    rw [patchChangedStatus]
    split
    · exact .statusPatch _ _ _ _
    · exact .refl _
  simp only [updateStatus]
  split <;> rename_i heq <;> have hp := hp (recordEvents ord cs
    (populateCollectionSetStatus ord now cs clusterStatus).2 api) <;> rw [heq] at hp
  · exact he.trans hp
  · split <;> exact he.trans hp

/-- `RequeueOnError` writes the status only. -/
theorem requeueOnError_statusWrites (now : Nat) (faults : KubeFaults) (cs : SolrCollectionSet)
    (error : String) (api : ApiServer) :
    ApiServer.StatusWrites api (requeueOnError now faults cs error api).2 := by
  simp only [requeueOnError]
  split
  · split <;> rename_i heq
    · exact .of_snd_eq (.statusPatch _ _ _) heq
    · split <;> exact .of_snd_eq (.statusPatch _ _ _) heq
  · exact .refl _

/-- `RequeueOnError` keeps the server holding only what it admits. -/
theorem ApiServer.Valid.requeueOnError {api : ApiServer} (h : api.Valid) (now : Nat)
    (faults : KubeFaults) (cs : SolrCollectionSet) (error : String) :
    (SolrOperator.requeueOnError now faults cs error api).2.Valid := by
  have hp := h.statusPatch faults.errorPatch cs { cs with status := { cs.status with conditions :=
    (setStatusCondition now cs.status.conditions ⟨typeSolrCollectionSetStable, .conditionFalse, 0,
      reasonSolrCollectionSetReconcileError, error⟩).1 } }
  simp only [SolrOperator.requeueOnError]
  split
  · split <;> rename_i heq <;> rw [heq] at hp
    · exact hp
    · split <;> exact hp
  · exact h

/-! ## Where the reporter and the planner part -/

/-- `SolrCollections` is appended while ranging over `collectionStatusMap`: a second
    pass over the same set and cluster that visits the map in another order computes
    a status that differs from the one the first pass persisted, and patches it. -/
theorem updateStatus_repatches_on_reorder :
    let cs : SolrCollectionSet := ⟨"set", "ns", ⟨"http://solr", "secret", some true, some 1,
      some true, some false, [⟨"x", "x", "x"⟩]⟩, .empty⟩
    let clusterStatus : ClusterStatus := ⟨∅, ∅⟩
    let reversed : MapOrder Site := ⟨fun _ keys => keys.reverse, fun _ keys => List.reverse_perm keys⟩
    let first := updateStatus (MapOrder.stored Site) 0 KubeFaults.none cs clusterStatus
      ⟨some cs, [], []⟩
    let second := updateStatus reversed 0 KubeFaults.none first.1.2 clusterStatus first.2
    first.1.1 = none ∧ first.2.stored = some first.1.2 ∧
      (populateCollectionSetStatus reversed 0 first.1.2 clusterStatus).1 ≠ first.1.2.status ∧
      second.2.writes.length = first.2.writes.length + 1 := by
  decide

/-- The reporter compares counts where the planner compares names: a missing
    instance offset by a foreign collection leaves the counts equal, and the
    reporter says `Stable=True` while `ManageCollections` creates the instance. -/
theorem stable_while_collection_missing :
    let cs : SolrCollectionSet := ⟨"set", "ns", ⟨"http://solr", "secret", some true, some 1,
      some false, some false, [⟨"x", "x", "x"⟩]⟩, .empty⟩
    let sc : GoMap Collection := (∅ : GoMap Collection).insert "y" ⟨"y", 1, 1, "y"⟩
    (populateCollectionSetStatus (MapOrder.stored Site) 0 cs ⟨sc, ∅⟩).1.conditions.map
        (fun c => (c.type, c.status)) = [(typeSolrCollectionSetStable, .conditionTrue)] ∧
    (manageCollections (MapOrder.stored Site) (Solr.frozen ⟨sc, ∅⟩ [] []) SolrClient.zero cs sc ∅
      ⟨(), []⟩).1 = true := by
  decide

end SolrOperator
