/-
  SolrOperator.Controller.Collections

  `ManageCollections` and `AdjustReplicas`: the drift planner and executor for
  collections, aliases, replication factors and replica counts.

  `ManageCollections` fills four Go maps from the spec and a cluster snapshot,
  then ranges over each of them making calls. It logs the error of every call
  and goes on, so the calls it makes are a function of its inputs alone
  (`CollectionPlan.calls`); `manageCollections` makes them through `Solr.issue`.
  `AdjustReplicas` stops at the first failed call or backpressure signal, so
  its loop threads the answers (`adjustLoop`).
-/
import SolrOperator.Controller.Basic

namespace SolrOperator

/-- The zero value `SolrCollection{}`. -/
def SolrCollection.zero : SolrCollection := ⟨"", "", ""⟩

/-- The four maps `ManageCollections` fills before it makes any call. -/
structure CollectionPlan where
  createCollectionsMap : GoMap SolrCollection
  deleteAliasesMap : GoMap String
  deleteCollectionsMap : GoMap SolrCollection
  adjustReplicationFactorMap : GoMap Collection

section
variable (ord : MapOrder Site)

/-- The planning half of `ManageCollections`. The cleanup loop fills two maps at
    once; each is written as its own selection over the same `range`. -/
def planCollections (cs : SolrCollectionSet) (solrCollections : GoMap Collection)
    (aliases : GoMap String) : CollectionPlan :=
  let collectionsToAliasesMap := aliases.reverse ord .collectionsAliases
  let specCollectionsMap := mapCollections cs.spec.collections ∅ cs.spec.blueGreen
  { createCollectionsMap := specCollectionsMap.select ord .creates fun collectionName spec =>
      if collectionName ∈ solrCollections then none else some spec
    deleteAliasesMap :=
      if cs.spec.cleanup then
        solrCollections.select ord .cleanup fun collectionName _ =>
          if collectionName ∉ specCollectionsMap ∧ hasPrefix collectionName "_" = false then
            collectionsToAliasesMap.lookup collectionName
          else none
      else ∅
    deleteCollectionsMap :=
      if cs.spec.cleanup then
        solrCollections.select ord .cleanup fun collectionName _ =>
          if collectionName ∉ specCollectionsMap ∧ hasPrefix collectionName "_" = false then
            some SolrCollection.zero
          else none
      else ∅
    adjustReplicationFactorMap := solrCollections.select ord .replicationFactors
      fun collectionName collection =>
        if collectionName ∈ specCollectionsMap ∧ collection.replicationFactor ≠ cs.spec.rf then
          some collection
        else none }

/-- The calls of one iteration of the creation loop: create the collection, and
    with blue/green on assign the entry's alias to it unless the snapshot has it. -/
def createCalls (cs : SolrCollectionSet) (aliases : GoMap String) (kv : String × SolrCollection) :
    List Rpc :=
  Rpc.createCollection kv.1 kv.2.configsetName cs.spec.rf ::
    if cs.spec.blueGreen = true ∧ kv.2.alias ∉ aliases then [Rpc.assignAlias kv.2.alias kv.1] else []

/-- The calls of `ManageCollections`' four execution loops, in order. The alias
    loop is `for alias, _ := range deleteAliasesMap`: its `alias` is the map's
    key, a collection name. -/
def CollectionPlan.calls (p : CollectionPlan) (cs : SolrCollectionSet) (aliases : GoMap String) :
    List Rpc :=
  (p.createCollectionsMap.range ord .createCalls).flatMap (createCalls cs aliases)
    ++ (p.deleteAliasesMap.range ord .deleteAliasCalls).map (fun kv => Rpc.deleteAlias kv.1)
    ++ (p.deleteCollectionsMap.range ord .deleteCollectionCalls).map
        (fun kv => Rpc.deleteCollection kv.1)
    ++ (p.adjustReplicationFactorMap.range ord .replicationFactorCalls).map
        (fun kv => Rpc.setReplicationFactor kv.1 cs.spec.rf)

/-- `changed`: set by every execution loop whose map is not empty. -/
def CollectionPlan.changed (p : CollectionPlan) : Bool :=
  0 < p.createCollectionsMap.entries.length || 0 < p.deleteAliasesMap.entries.length ||
    0 < p.deleteCollectionsMap.entries.length || 0 < p.adjustReplicationFactorMap.entries.length

/-- `AdjustReplicas`' first loop: an adjustment for every desired instance in the
    snapshot whose replica count differs from the spec's replication factor. -/
def replicaAdjustments (cs : SolrCollectionSet) (solrCollections : GoMap Collection) :
    GoMap ReplicationAdjustment :=
  (mapCollections cs.spec.collections ∅ cs.spec.blueGreen).select ord .adjustSpecs
    fun collectionName _ =>
      match solrCollections.lookup collectionName with
      | none => none
      | some collection =>
        if cs.spec.rf - collection.replicaCount ≠ 0 then
          some ⟨collection.replicaCount, cs.spec.rf⟩
        else none

variable {σ : Type} (sv : Solr σ)

/-- `ManageCollections`: plan, then make the planned calls through `solrClient`. -/
def manageCollections (solrClient : SolrClient) (cs : SolrCollectionSet)
    (solrCollections : GoMap Collection) (aliases : GoMap String) (c : Conn σ) :
    Bool × Conn σ :=
  let p := planCollections ord cs solrCollections aliases
  (p.changed, sv.issue solrClient (p.calls ord cs aliases) c)

/-- `AdjustReplicas`' second loop: add or remove replicas, returning `(isScaling, err)`
    at the first error or backpressure signal. -/
def adjustLoop (solrClient : SolrClient) :
    List (String × ReplicationAdjustment) → Conn σ → (Bool × Option String) × Conn σ
  | [], c => ((false, none), c)
  | (collection, adjustment) :: rest, c =>
    let diff := adjustment.targetCount - adjustment.currentCount
    if BitVec.slt 0 diff then
      match sv.call solrClient (.addReplicas collection diff) c with
      | ((_, some err), c) => ((false, some err), c)
      | ((isScaling, none), c) => if isScaling then ((true, none), c) else adjustLoop solrClient rest c
    else
      match sv.call solrClient (.removeReplicas collection (abs diff)) c with
      | (some err, c) => ((false, some err), c)
      | (none, c) => adjustLoop solrClient rest c

/-- `AdjustReplicas`. -/
def adjustReplicas (solrClient : SolrClient) (cs : SolrCollectionSet)
    (solrCollections : GoMap Collection) (c : Conn σ) : (Bool × Option String) × Conn σ :=
  adjustLoop sv solrClient ((replicaAdjustments ord cs solrCollections).range ord .adjustCalls) c

end

/-! ## What `ManageCollections` plans -/

@[simp] theorem mapCollections_spec (spec : SolrCollectionSetSpec) :
    mapCollections spec.collections ∅ spec.blueGreen = spec.instances := rfl

section
variable (ord : MapOrder Site) (cs : SolrCollectionSet) (solrCollections : GoMap Collection)
  (aliases : GoMap String)

/-- A collection the cleanup deletes: cleanup is on, and the collection is in the
    snapshot, is no desired instance, and does not begin with `_`. -/
def CleanupTarget (name : String) : Prop :=
  cs.spec.cleanup = true ∧ name ∈ solrCollections ∧ name ∉ cs.spec.instances ∧
    hasPrefix name "_" = false

theorem lookup_createCollectionsMap (k : String) :
    (planCollections ord cs solrCollections aliases).createCollectionsMap.lookup k =
      if k ∈ solrCollections then none else cs.spec.instances.lookup k := by
  simp only [planCollections, mapCollections_spec, GoMap.lookup_select]
  cases cs.spec.instances.lookup k <;> by_cases h : k ∈ solrCollections <;> simp [h]

theorem mem_deleteCollectionsMap (k : String) :
    k ∈ (planCollections ord cs solrCollections aliases).deleteCollectionsMap ↔
      CleanupTarget cs solrCollections k := by
  simp only [planCollections, mapCollections_spec, CleanupTarget]
  cases cs.spec.cleanup
  · simp [AList.not_mem_empty]
  · simp only [if_true, GoMap.mem_select, GoMap.mem_iff_lookup (m := solrCollections)]
    by_cases h : k ∉ cs.spec.instances ∧ hasPrefix k "_" = false <;> simp_all

theorem lookup_deleteAliasesMap {k a : String}
    (h : (planCollections ord cs solrCollections aliases).deleteAliasesMap.lookup k = some a) :
    CleanupTarget cs solrCollections k ∧ aliases.lookup a = some k := by
  simp only [planCollections, mapCollections_spec] at h
  split at h
  · rename_i hc
    rw [GoMap.lookup_select] at h
    cases hk : solrCollections.lookup k with
    | none => simp [hk] at h
    | some v =>
      simp only [hk, Option.some_bind] at h
      split at h
      · rename_i hn
        exact ⟨⟨hc, GoMap.mem_iff_lookup.mpr ⟨v, hk⟩, hn.1, hn.2⟩, GoMap.lookup_reverse h⟩
      · cases h
  · simp [AList.lookup_empty] at h

theorem lookup_adjustReplicationFactorMap {k : String} {collection : Collection} :
    (planCollections ord cs solrCollections aliases).adjustReplicationFactorMap.lookup k =
        some collection ↔
      solrCollections.lookup k = some collection ∧ k ∈ cs.spec.instances ∧
        collection.replicationFactor ≠ cs.spec.rf := by
  simp only [planCollections, mapCollections_spec, GoMap.lookup_select]
  cases hk : solrCollections.lookup k with
  | none => simp
  | some v =>
    rw [Option.some_bind]
    by_cases h : k ∈ cs.spec.instances ∧ v.replicationFactor ≠ cs.spec.rf
    · rw [if_pos h, Option.some.injEq]
      exact ⟨fun e => ⟨e, e ▸ h⟩, fun ⟨e, _⟩ => e⟩
    · rw [if_neg h]
      exact ⟨nofun, fun ⟨e, hi, hr⟩ => absurd ⟨hi, Option.some.inj e ▸ hr⟩ h⟩

/-- The calls `ManageCollections` can make, with what its inputs say for each. -/
inductive CollectionCall : Rpc → Prop
  | createCollection {name : String} {spec : SolrCollection} :
      cs.spec.instances.lookup name = some spec → name ∉ solrCollections →
      CollectionCall (.createCollection name spec.configsetName cs.spec.rf)
  | assignAlias {name : String} {spec : SolrCollection} :
      cs.spec.instances.lookup name = some spec → name ∉ solrCollections →
      cs.spec.blueGreen = true → spec.alias ∉ aliases →
      CollectionCall (.assignAlias spec.alias name)
  | deleteAlias {name : String} : CleanupTarget cs solrCollections name →
      (∃ a, aliases.lookup a = some name) → CollectionCall (.deleteAlias name)
  | deleteCollection {name : String} : CleanupTarget cs solrCollections name →
      CollectionCall (.deleteCollection name)
  | setReplicationFactor {name : String} {collection : Collection} :
      solrCollections.lookup name = some collection → name ∈ cs.spec.instances →
      collection.replicationFactor ≠ cs.spec.rf →
      CollectionCall (.setReplicationFactor name cs.spec.rf)

theorem collectionCall_of_mem_calls {r : Rpc}
    (h : r ∈ (planCollections ord cs solrCollections aliases).calls ord cs aliases) :
    CollectionCall cs solrCollections aliases r := by
  simp only [CollectionPlan.calls, createCalls, List.mem_append, List.mem_flatMap, List.mem_map] at h
  rcases h with ((⟨⟨name, spec⟩, hmem, hr⟩ | ⟨⟨name, a⟩, hmem, rfl⟩) | ⟨⟨name, z⟩, hmem, rfl⟩) |
    ⟨⟨name, col⟩, hmem, rfl⟩
  · rw [GoMap.mem_range, lookup_createCollectionsMap] at hmem
    split at hmem
    · cases hmem
    · rename_i hn
      rcases List.mem_cons.mp hr with rfl | hr
      · exact .createCollection hmem hn
      · split at hr
        · rename_i ha
          rw [List.mem_singleton] at hr
          subst hr
          exact .assignAlias hmem hn ha.1 ha.2
        · cases hr
  · obtain ⟨ht, ha⟩ := lookup_deleteAliasesMap ord cs solrCollections aliases (GoMap.mem_range.mp hmem)
    exact .deleteAlias ht ⟨a, ha⟩
  · exact .deleteCollection ((mem_deleteCollectionsMap ord cs solrCollections aliases name).mp
      (GoMap.mem_iff_lookup.mpr ⟨z, GoMap.mem_range.mp hmem⟩))
  · obtain ⟨h1, h2, h3⟩ :=
      (lookup_adjustReplicationFactorMap ord cs solrCollections aliases).mp (GoMap.mem_range.mp hmem)
    exact .setReplicationFactor h1 h2 h3

/-- Every call `ManageCollections` makes goes through its client and is a `CollectionCall`. -/
theorem manageCollections_steps {σ : Type} (sv : Solr σ) (cl : SolrClient) (c : Conn σ) :
    sv.Steps (fun x => x.1 = cl ∧ CollectionCall cs solrCollections aliases x.2) c
      (manageCollections ord sv cl cs solrCollections aliases c).2 :=
  sv.issue_steps cl _ c fun _ hr =>
    ⟨rfl, collectionCall_of_mem_calls ord cs solrCollections aliases hr⟩

/-- `ManageCollections` reports no change exactly when every desired instance is in
    the snapshot with the spec's replication factor and no collection is a cleanup
    target. -/
theorem changed_eq_false_iff :
    (planCollections ord cs solrCollections aliases).changed = false ↔
      (∀ k ∈ cs.spec.instances, k ∈ solrCollections) ∧
      (∀ k, ¬CleanupTarget cs solrCollections k) ∧
      (∀ k collection, solrCollections.lookup k = some collection → k ∈ cs.spec.instances →
        collection.replicationFactor = cs.spec.rf) := by
  have hcreate : ¬0 < (planCollections ord cs solrCollections aliases).createCollectionsMap.entries.length
      ↔ ∀ k ∈ cs.spec.instances, k ∈ solrCollections := by
    rw [GoMap.entries_length_pos, not_exists]
    refine forall_congr' fun k => ?_
    rw [GoMap.mem_iff_lookup, lookup_createCollectionsMap, GoMap.mem_iff_lookup (m := cs.spec.instances)]
    split <;> simp_all
  have hdelete : ¬0 < (planCollections ord cs solrCollections aliases).deleteCollectionsMap.entries.length
      ↔ ∀ k, ¬CleanupTarget cs solrCollections k := by
    rw [GoMap.entries_length_pos, not_exists]
    exact forall_congr' fun k => not_congr (mem_deleteCollectionsMap ord cs solrCollections aliases k)
  have haliases : ¬0 < (planCollections ord cs solrCollections aliases).deleteCollectionsMap.entries.length →
      ¬0 < (planCollections ord cs solrCollections aliases).deleteAliasesMap.entries.length := by
    rw [hdelete, GoMap.entries_length_pos]
    rintro h ⟨k, hk⟩
    obtain ⟨a, ha⟩ := GoMap.mem_iff_lookup.mp hk
    exact h k (lookup_deleteAliasesMap ord cs solrCollections aliases ha).1
  have hrf : ¬0 < (planCollections ord cs solrCollections aliases).adjustReplicationFactorMap.entries.length
      ↔ ∀ k collection, solrCollections.lookup k = some collection → k ∈ cs.spec.instances →
        collection.replicationFactor = cs.spec.rf := by
    rw [GoMap.entries_length_pos, not_exists]
    refine forall_congr' fun k => ?_
    rw [GoMap.mem_iff_lookup, not_exists]
    refine forall_congr' fun col => ?_
    rw [lookup_adjustReplicationFactorMap, ne_eq, not_and, not_and, not_not]
  simp only [CollectionPlan.changed, Bool.or_eq_false_iff, decide_eq_false_iff_not]
  constructor
  · rintro ⟨⟨⟨h1, -⟩, h3⟩, h4⟩
    exact ⟨hcreate.mp h1, hdelete.mp h3, hrf.mp h4⟩
  · rintro ⟨h1, h3, h4⟩
    exact ⟨⟨⟨hcreate.mpr h1, haliases (hdelete.mpr h3)⟩, hdelete.mpr h3⟩, hrf.mpr h4⟩

/-- A plan that reports no change makes no call. -/
theorem CollectionPlan.calls_eq_nil {p : CollectionPlan} (h : p.changed = false) :
    p.calls ord cs aliases = [] := by
  simp only [CollectionPlan.changed, Bool.or_eq_false_iff, decide_eq_false_iff_not, Nat.not_lt,
    Nat.le_zero, List.length_eq_zero] at h
  have hnil : ∀ {V : Type} {m : GoMap V} {site : Site}, m.entries = [] → m.range ord site = [] :=
    fun he => GoMap.range_eq_nil.mpr fun k hk => by rw [AList.mem_keys, AList.keys, he] at hk; cases hk
  simp [CollectionPlan.calls, hnil h.1.1.1, hnil h.1.1.2, hnil h.1.2, hnil h.2]

/-- `ManageCollections` calls nothing when it reports no change. -/
theorem manageCollections_unchanged {σ : Type} (sv : Solr σ) (cl : SolrClient) (c : Conn σ)
    (h : (manageCollections ord sv cl cs solrCollections aliases c).1 = false) :
    (manageCollections ord sv cl cs solrCollections aliases c).2 = c := by
  simp only [manageCollections, CollectionPlan.calls_eq_nil ord cs aliases h]
  rfl

end

/-! ## What `AdjustReplicas` does -/

section
variable (ord : MapOrder Site) (cs : SolrCollectionSet) (solrCollections : GoMap Collection)

theorem lookup_replicaAdjustments {k : String} {adjustment : ReplicationAdjustment} :
    (replicaAdjustments ord cs solrCollections).lookup k = some adjustment ↔
      k ∈ cs.spec.instances ∧ ∃ collection, solrCollections.lookup k = some collection ∧
        cs.spec.rf - collection.replicaCount ≠ 0 ∧
        adjustment = ⟨collection.replicaCount, cs.spec.rf⟩ := by
  simp only [replicaAdjustments, mapCollections_spec, GoMap.lookup_select]
  rw [GoMap.mem_iff_lookup]
  cases cs.spec.instances.lookup k <;> cases solrCollections.lookup k <;> simp [eq_comm]

/-- The call `AdjustReplicas`' loop makes for one adjustment. -/
def adjustCall (collection : String) (adjustment : ReplicationAdjustment) : Rpc :=
  let diff := adjustment.targetCount - adjustment.currentCount
  if BitVec.slt 0 diff then .addReplicas collection diff else .removeReplicas collection (abs diff)

theorem adjustCall_cases (collection : String) (adjustment : ReplicationAdjustment) :
    adjustCall collection adjustment =
        .addReplicas collection (adjustment.targetCount - adjustment.currentCount) ∨
      adjustCall collection adjustment =
        .removeReplicas collection (abs (adjustment.targetCount - adjustment.currentCount)) := by
  simp only [adjustCall]
  split <;> simp

variable {σ : Type} (sv : Solr σ) (cl : SolrClient)

/-- One step of the loop: it makes the first adjustment's call and then stops
    or goes on with the rest. -/
theorem adjustLoop_cons (collection : String) (adjustment : ReplicationAdjustment)
    (rest : List (String × ReplicationAdjustment)) (c : Conn σ) :
    (adjustLoop sv cl ((collection, adjustment) :: rest) c).2 ∈
      [(sv.call cl (adjustCall collection adjustment) c).2,
        (adjustLoop sv cl rest (sv.call cl (adjustCall collection adjustment) c).2).2] := by
  by_cases hpos : BitVec.slt 0 (adjustment.targetCount - adjustment.currentCount)
  · rw [show adjustCall collection adjustment = _ from if_pos hpos]
    simp only [adjustLoop, hpos, ite_true]
    split <;> rename_i heq <;> simp only [heq] <;> (try split) <;> simp
  · rw [show adjustCall collection adjustment = _ from if_neg hpos]
    simp only [adjustLoop, hpos, Bool.false_eq_true, ite_false]
    split <;> rename_i heq <;> simp [heq]

/-- A step of the loop whose call succeeds without backpressure goes on with the rest. -/
theorem adjustLoop_cons_of_ok (collection : String) (adjustment : ReplicationAdjustment)
    (rest : List (String × ReplicationAdjustment)) (c : Conn σ)
    (hadd : ∀ n, (sv.call cl (.addReplicas collection n) c).1 = (false, none))
    (hremove : ∀ n, (sv.call cl (.removeReplicas collection n) c).1 = none) :
    adjustLoop sv cl ((collection, adjustment) :: rest) c =
      adjustLoop sv cl rest (sv.call cl (adjustCall collection adjustment) c).2 := by
  by_cases h : BitVec.slt 0 (adjustment.targetCount - adjustment.currentCount)
  · rw [show adjustCall collection adjustment = _ from if_pos h]
    simp only [adjustLoop, h, if_true]
    rw [← Prod.mk.eta (p := sv.call cl _ c), hadd]
    rfl
  · rw [show adjustCall collection adjustment = _ from if_neg h]
    simp only [adjustLoop, h, Bool.false_eq_true, if_false]
    rw [← Prod.mk.eta (p := sv.call cl _ c), hremove]

/-- The loop makes, through its client, the call of some of its adjustments. -/
theorem adjustLoop_steps : ∀ (adjustments : List (String × ReplicationAdjustment)) (c : Conn σ),
    sv.Steps (fun x => x.1 = cl ∧ ∃ kv ∈ adjustments, x.2 = adjustCall kv.1 kv.2) c
      (adjustLoop sv cl adjustments c).2
  | [], c => .refl _ c
  | (collection, adjustment) :: rest, c => by
    have first := sv.call_steps cl (adjustCall collection adjustment) c
      (P := fun x => x.1 = cl ∧ ∃ kv ∈ (collection, adjustment) :: rest, x.2 = adjustCall kv.1 kv.2)
      ⟨rfl, _, List.mem_cons_self _ _, rfl⟩
    rcases List.mem_pair.mp (adjustLoop_cons sv cl collection adjustment rest c) with h | h <;>
      rw [h]
    · exact first
    · exact first.trans ((adjustLoop_steps rest _).mono fun x ⟨h1, kv, hkv, h2⟩ =>
        ⟨h1, kv, List.mem_cons_of_mem _ hkv, h2⟩)

/-- The loop calls nothing only when it has nothing to adjust: its first
    adjustment is always attempted. -/
theorem adjustLoop_log_eq_iff (adjustments : List (String × ReplicationAdjustment)) (c : Conn σ) :
    (adjustLoop sv cl adjustments c).2.log = c.log ↔ adjustments = [] := by
  refine ⟨fun h => ?_, by rintro rfl; rfl⟩
  obtain _ | ⟨⟨collection, adjustment⟩, rest⟩ := adjustments
  · rfl
  · have hrest : Conn.Extends (fun _ => True) (sv.call cl (adjustCall collection adjustment) c).2
        (adjustLoop sv cl ((collection, adjustment) :: rest) c).2 := by
      rcases List.mem_pair.mp (adjustLoop_cons sv cl collection adjustment rest c) with h | h <;>
        rw [h]
      · exact .refl _ _
      · exact (adjustLoop_steps sv cl rest _).toExtends.mono fun _ _ => trivial
    obtain ⟨l, hl, -⟩ := hrest
    rw [h, Solr.call_log, List.append_assoc] at hl
    simp at hl

/-- `AdjustReplicas` calls, through its client, the call of an adjustment it planned. -/
theorem adjustReplicas_steps (c : Conn σ) :
    sv.Steps (fun x => x.1 = cl ∧ ∃ k adjustment,
        (replicaAdjustments ord cs solrCollections).lookup k = some adjustment ∧
          x.2 = adjustCall k adjustment) c
      (adjustReplicas ord sv cl cs solrCollections c).2 :=
  (adjustLoop_steps sv cl _ c).mono fun _ ⟨h1, kv, hkv, h2⟩ =>
    ⟨h1, kv.1, kv.2, GoMap.mem_range.mp hkv, h2⟩

theorem adjustReplicas_extends (c : Conn σ) :
    Conn.Extends (fun x => x.1 = cl ∧ ∃ k adjustment,
        (replicaAdjustments ord cs solrCollections).lookup k = some adjustment ∧
          x.2 = adjustCall k adjustment) c
      (adjustReplicas ord sv cl cs solrCollections c).2 :=
  (adjustReplicas_steps ord cs solrCollections sv cl c).toExtends

/-- `AdjustReplicas` calls nothing exactly when every desired instance Solr holds
    has as many replicas as the spec's replication factor. -/
theorem adjustReplicas_log_eq_iff (c : Conn σ) :
    (adjustReplicas ord sv cl cs solrCollections c).2.log = c.log ↔
      ∀ k ∈ cs.spec.instances, ∀ collection, solrCollections.lookup k = some collection →
        collection.replicaCount = cs.spec.rf := by
  rw [adjustReplicas, adjustLoop_log_eq_iff, GoMap.range_eq_nil]
  simp only [GoMap.mem_iff_lookup, lookup_replicaAdjustments, ne_eq, sub_eq_zero]
  constructor
  · intro h k hk collection hc
    by_contra hne
    exact h k ⟨_, hk, collection, hc, Ne.symm hne, rfl⟩
  · rintro h k ⟨_, hk, collection, hc, hne, -⟩
    exact hne (h k hk collection hc).symm

/-- Over desired instances each with as many replicas as the spec's factor,
    `AdjustReplicas` calls nothing and reports no error. -/
theorem adjustReplicas_of_aligned (c : Conn σ)
    (h : ∀ k ∈ cs.spec.instances, ∀ collection, solrCollections.lookup k = some collection →
      collection.replicaCount = cs.spec.rf) :
    adjustReplicas ord sv cl cs solrCollections c = ((false, none), c) := by
  have hnil : (replicaAdjustments ord cs solrCollections).range ord .adjustCalls = [] :=
    GoMap.range_eq_nil.2 fun k hk => by
      obtain ⟨_, hadj⟩ := GoMap.mem_iff_lookup.1 hk
      obtain ⟨hk, collection, hc, hne, -⟩ := (lookup_replicaAdjustments ord cs solrCollections).1 hadj
      exact hne (by rw [h k hk collection hc, sub_self])
  rw [adjustReplicas, hnil, adjustLoop]

/-! ## The counts `AdjustReplicas` asks for -/

/-- For a nonnegative target and replica count, the call asks for at least one
    replica, exactly the difference, and never more replicas than there are; the
    `int32` arithmetic does not wrap. -/
theorem adjustCall_counts (collection : String) {currentCount targetCount : Int32}
    (ht : 0 ≤ targetCount.toInt) (hc : 0 ≤ currentCount.toInt)
    (hne : targetCount - currentCount ≠ 0) :
    (∃ n, adjustCall collection ⟨currentCount, targetCount⟩ = .addReplicas collection n ∧
        1 ≤ n.toInt ∧ currentCount.toInt + n.toInt = targetCount.toInt) ∨
    (∃ n, adjustCall collection ⟨currentCount, targetCount⟩ = .removeReplicas collection n ∧
        1 ≤ n.toInt ∧ n.toInt ≤ currentCount.toInt ∧
        currentCount.toInt - n.toInt = targetCount.toInt) := by
  have hd := Int32.toInt_sub_of_nonneg ht hc
  have hne' : (targetCount - currentCount).toInt ≠ 0 := fun h =>
    hne (BitVec.eq_of_toInt_eq (by simpa using h))
  have h0 : (0 : Int32).toInt = 0 := rfl
  simp only [adjustCall]
  split
  next hpos =>
    simp only [BitVec.slt, decide_eq_true_eq, h0] at hpos
    exact .inl ⟨_, rfl, by omega, by omega⟩
  next hpos =>
    simp only [BitVec.slt, decide_eq_true_eq, h0, not_lt] at hpos
    have habs := abs_toInt_of_neg (x := targetCount - currentCount) (by omega)
      (by have := currentCount.toInt_bounds; omega)
    exact .inr ⟨_, rfl, by omega, by omega, by omega⟩

/-- For a nonnegative replication factor and the nonnegative replica counts Solr
    reports, every `AddReplicas(i, n)` has `n ≥ 1` and brings `i` to the factor,
    and every `RemoveReplicas(i, n)` has `1 ≤ n ≤ replicaCount(i)` and brings `i`
    to the factor, so it removes the last replica only when the factor is `0`. -/
theorem adjustReplicas_counts (hrf : 0 ≤ cs.spec.rf.toInt)
    (hrc : ∀ k collection, solrCollections.lookup k = some collection →
      0 ≤ collection.replicaCount.toInt) (c : Conn σ) :
    Conn.Extends (fun x =>
        (∀ i n, x.2 = .addReplicas i n → ∃ collection, solrCollections.lookup i = some collection ∧
          1 ≤ n.toInt ∧ collection.replicaCount.toInt + n.toInt = cs.spec.rf.toInt) ∧
        (∀ i n, x.2 = .removeReplicas i n → ∃ collection,
          solrCollections.lookup i = some collection ∧ 1 ≤ n.toInt ∧
          n.toInt ≤ collection.replicaCount.toInt ∧
          collection.replicaCount.toInt - n.toInt = cs.spec.rf.toInt))
      c (adjustReplicas ord sv cl cs solrCollections c).2 := by
  refine (adjustReplicas_extends ord cs solrCollections sv cl c).mono
    fun x ⟨_, k, adj, hadj, hx⟩ => ?_
  obtain ⟨-, col, hcol, hne, rfl⟩ := (lookup_replicaAdjustments ord cs solrCollections).mp hadj
  rw [hx]
  rcases adjustCall_counts k hrf (hrc k col hcol) hne with ⟨n, hn, h1, h2⟩ | ⟨n, hn, h1, h2, h3⟩ <;>
    rw [hn]
  · exact ⟨fun i n' h => by cases h; exact ⟨col, hcol, h1, h2⟩, fun i n' h => (by cases h)⟩
  · exact ⟨fun i n' h => (by cases h), fun i n' h => by cases h; exact ⟨col, hcol, h1, h2, h3⟩⟩

end

theorem adjustReplicas_counts_scale_in :
    let cs : SolrCollectionSet := ⟨"set", "ns", ⟨"http://solr", "secret", some true, some 1,
      some false, some false, [⟨"x", "x", "x"⟩]⟩, .empty⟩
    let sc : GoMap Collection := (∅ : GoMap Collection).insert "x" ⟨"x", 1, 3, "x"⟩
    (0 ≤ cs.spec.rf.toInt ∧
      ∀ k collection, sc.lookup k = some collection → 0 ≤ collection.replicaCount.toInt) ∧
    Conn.Extends (fun x =>
        (∀ i n, x.2 = .addReplicas i n → ∃ collection, sc.lookup i = some collection ∧
          1 ≤ n.toInt ∧ collection.replicaCount.toInt + n.toInt = cs.spec.rf.toInt) ∧
        (∀ i n, x.2 = .removeReplicas i n → ∃ collection, sc.lookup i = some collection ∧
          1 ≤ n.toInt ∧ n.toInt ≤ collection.replicaCount.toInt ∧
          collection.replicaCount.toInt - n.toInt = cs.spec.rf.toInt))
      ⟨(), []⟩ (adjustReplicas (MapOrder.stored Site) (Solr.frozen ⟨sc, ∅⟩ [] []) SolrClient.zero cs sc
        ⟨(), []⟩).2 := by
  intro cs sc
  have hrc : ∀ k collection, sc.lookup k = some collection → 0 ≤ collection.replicaCount.toInt := by
    intro k collection h
    by_cases hk : k = "x"
    · subst hk
      cases h
      decide
    · simp only [sc] at h
      rw [AList.lookup_insert_ne hk] at h
      cases h
  exact ⟨⟨by decide, hrc⟩, adjustReplicas_counts _ cs sc _ _ (by decide) hrc _⟩

/-- A replication factor of `0` removes a collection's last replica, and `-2^31`
    overflows `abs` into a negative count sent to Solr. -/
theorem adjustReplicas_removes_last_replica :
    let cs (rf : Int32) : SolrCollectionSet := ⟨"set", "ns", ⟨"http://solr", "secret", some true,
      some rf, some false, some false, [⟨"x", "x", "x"⟩]⟩, .empty⟩
    let sc (rc : Int32) : GoMap Collection := (∅ : GoMap Collection).insert "x" ⟨"x", 1, rc, "x"⟩
    (adjustReplicas (MapOrder.stored Site) (Solr.frozen ⟨sc 1, ∅⟩ [] []) SolrClient.zero (cs 0) (sc 1)
        ⟨(), []⟩).2.log = [(SolrClient.zero, .removeReplicas "x" 1)] ∧
    (adjustReplicas (MapOrder.stored Site) (Solr.frozen ⟨sc 0, ∅⟩ [] []) SolrClient.zero
        (cs (BitVec.ofInt 32 (-2 ^ 31))) (sc 0) ⟨(), []⟩).2.log =
      [(SolrClient.zero, .removeReplicas "x" (BitVec.ofInt 32 (-2 ^ 31)))] := by
  decide

/-! ## When `ManageCollections` and `AdjustReplicas` have nothing to do -/

section
variable (ord : MapOrder Site) (cs : SolrCollectionSet) (solrCollections : GoMap Collection)
  (aliases : GoMap String) {σ : Type} (sv : Solr σ) (cl : SolrClient)

/-- `ManageCollections` reports no change and `AdjustReplicas` then calls nothing
    exactly when every desired instance is in the snapshot with the spec's
    replication factor as both its factor and its replica count and, with cleanup
    on, every unprefixed collection of the snapshot is a desired instance. Aliases
    play no part: `ManageCollections` assigns one only while creating its instance. -/
theorem manageCollections_idle_iff (c : Conn σ) :
    ((manageCollections ord sv cl cs solrCollections aliases c).1 = false ∧
      (adjustReplicas ord sv cl cs solrCollections
        (manageCollections ord sv cl cs solrCollections aliases c).2).2.log =
        (manageCollections ord sv cl cs solrCollections aliases c).2.log) ↔
    (∀ k ∈ cs.spec.instances, ∃ collection, solrCollections.lookup k = some collection ∧
      collection.replicationFactor = cs.spec.rf ∧ collection.replicaCount = cs.spec.rf) ∧
    (cs.spec.cleanup = true →
      ∀ k ∈ solrCollections, hasPrefix k "_" = false → k ∈ cs.spec.instances) := by
  rw [adjustReplicas_log_eq_iff]
  show (planCollections ord cs solrCollections aliases).changed = false ∧ _ ↔ _
  rw [changed_eq_false_iff]
  constructor
  · rintro ⟨⟨hin, hclean, hrf⟩, hrc⟩
    refine ⟨fun k hk => ?_, fun hc k hk hp => ?_⟩
    · obtain ⟨col, hcol⟩ := GoMap.mem_iff_lookup.mp (hin k hk)
      exact ⟨col, hcol, hrf k col hcol hk, hrc k hk col hcol⟩
    · by_contra hn
      exact hclean k ⟨hc, hk, hn, hp⟩
  · rintro ⟨hin, hclean⟩
    have hcol : ∀ k ∈ cs.spec.instances, ∀ col, solrCollections.lookup k = some col →
        col.replicationFactor = cs.spec.rf ∧ col.replicaCount = cs.spec.rf := by
      intro k hk col h
      obtain ⟨col', h', hrf, hrc⟩ := hin k hk
      rw [h] at h'
      cases h'
      exact ⟨hrf, hrc⟩
    refine ⟨⟨fun k hk => ?_, fun k ⟨hc, hk, hn, hp⟩ => hn (hclean hc k hk hp),
      fun k col h hk => (hcol k hk col h).1⟩, fun k hk col h => (hcol k hk col h).2⟩
    obtain ⟨col, h, -⟩ := hin k hk
    exact GoMap.mem_iff_lookup.mpr ⟨col, h⟩

end

/-- Both blue/green instances are in place with the right counts but the entry's
    alias is missing: nothing is planned and nothing adjusted. -/
theorem idle_with_alias_missing :
    let cs : SolrCollectionSet := ⟨"set", "ns", ⟨"http://solr", "secret", some true, some 1,
      some true, some false, [⟨"x", "x", "x"⟩]⟩, .empty⟩
    let sc : GoMap Collection := ((∅ : GoMap Collection).insert "x_blue" ⟨"x_blue", 1, 1, "x"⟩).insert
      "x_green" ⟨"x_green", 1, 1, "x"⟩
    let sv := Solr.frozen ⟨sc, ∅⟩ [] []
    let r := manageCollections (MapOrder.stored Site) sv SolrClient.zero cs sc ∅ ⟨(), []⟩
    r.1 = false ∧ (adjustReplicas (MapOrder.stored Site) sv SolrClient.zero cs sc r.2).2.log = r.2.log ∧
      cs.spec.blueGreen = true ∧ ∀ e ∈ cs.spec.collections, e.alias ∉ (∅ : GoMap String) := by
  decide

/-! ## The alias deletions of the cleanup -/

/-- With cleanup on, a collection `old` to delete that the alias `a` pins: the
    cleanup sends `DeleteAlias("old")`, a collection name that is no alias, and
    never `DeleteAlias("a")`. -/
theorem deleteAlias_sends_collection_name :
    let cs : SolrCollectionSet := ⟨"set", "ns", ⟨"http://solr", "secret", some true, some 1,
      some false, some true, []⟩, .empty⟩
    let sc : GoMap Collection := (∅ : GoMap Collection).insert "old" ⟨"old", 1, 1, "old"⟩
    let aliases : GoMap String := (∅ : GoMap String).insert "a" "old"
    (manageCollections (MapOrder.stored Site) (Solr.frozen ⟨sc, aliases⟩ [] []) SolrClient.zero cs sc
        aliases ⟨(), []⟩).2.log =
      [(SolrClient.zero, .deleteAlias "old"), (SolrClient.zero, .deleteCollection "old")] ∧
    "old" ∉ aliases := by
  decide

end SolrOperator
