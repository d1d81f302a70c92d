/-
  SolrOperator.Controller.Report

  What the status reporter says about the instances, set beside what the
  reconciler does with them. `populateCollectionSetStatus` builds its own map of
  desired instances (`specStatusMap`), apart from `mapCollections`, and compares
  counts with `countSpecifiedCollections`; the three agree on every spec whose
  entries have distinct names. Then what it reports of each instance, and the
  `Stable` condition it writes, with the reason the loop over the cluster leaves.

  Last, when the report settles: the reporter reads the set's status only for its
  conditions, and over conditions all of the `Stable` type one pass leaves them as
  the next will (`statusConditions_settled`). So once `UpdateStatus` has written
  the report, a second one over the same cluster at the same map orders writes
  nothing (`updateStatus_settles`): the patches `updateStatus_repatches_on_reorder`
  shows come from the orders alone.
-/
import SolrOperator.Controller.Status

namespace SolrOperator

/-! ## Instance names -/

theorem append_blue_ne_append_green (x y : String) : x ++ "_blue" ≠ y ++ "_green" := by
  intro h
  simpa using congrArg (fun s : String => s.data.reverse.head?) h

theorem append_right_inj {x y : String} (t : String) : x ++ t = y ++ t ↔ x = y :=
  ⟨fun h => String.ext (by simpa using congrArg String.data h), fun h => h ▸ rfl⟩

theorem instanceNames_nodup (bg : Bool) (s : SolrCollection) : (instanceNames bg s).Nodup := by
  cases bg <;> simp [instanceNames, append_blue_ne_append_green]

/-- Entries with different names share no instance name: suffixing is injective,
    and `_blue` never meets `_green`. -/
theorem instanceNames_disjoint (bg : Bool) {a b : SolrCollection} (h : a.name ≠ b.name) :
    (instanceNames bg a).Disjoint (instanceNames bg b) := by
  intro k ha hb
  cases bg <;> simp only [instanceNames, Bool.false_eq_true, ↓reduceIte, List.mem_cons,
    List.mem_singleton, List.not_mem_nil, or_false] at ha hb
  · exact h (ha ▸ hb)
  · rcases ha with rfl | rfl <;> rcases hb with hb | hb
    · exact h ((append_right_inj _).1 hb)
    · exact append_blue_ne_append_green _ _ hb
    · exact append_blue_ne_append_green _ _ hb.symm
    · exact h ((append_right_inj _).1 hb)

theorem flatMap_instanceNames_nodup {collections : List SolrCollection} (bg : Bool)
    (h : (collections.map SolrCollection.name).Nodup) :
    (collections.flatMap (instanceNames bg)).Nodup :=
  List.nodup_flatMap.2 ⟨fun s _ => instanceNames_nodup bg s,
    (List.pairwise_map.1 h).imp (instanceNames_disjoint bg)⟩

theorem length_flatMap_instanceNames (collections : List SolrCollection) (bg : Bool) :
    (collections.flatMap (instanceNames bg)).length = countSpecifiedCollections collections bg := by
  induction collections with
  | nil => simp [countSpecifiedCollections]
  | cons s collections ih =>
    rw [List.flatMap_cons, List.length_append, ih]
    cases bg <;> simp [instanceNames, countSpecifiedCollections] <;> omega

/-! ## The reporter's map of desired instances -/

/-- Membership through a fold whose every step adds the names of one element. -/
theorem mem_foldl_of_step {α V : Type} {f : GoMap V → α → GoMap V} (names : α → List String)
    (hf : ∀ m a k, k ∈ f m a ↔ k ∈ names a ∨ k ∈ m) (k : String) :
    ∀ (l : List α) (m : GoMap V), k ∈ l.foldl f m ↔ k ∈ m ∨ ∃ a ∈ l, k ∈ names a
  | [], m => by simp
  | a :: l, m => by
    rw [List.foldl_cons, mem_foldl_of_step names hf k l, hf, List.exists_mem_cons_iff, or_assoc,
      or_left_comm]

theorem mem_specStatusMap {collections : List SolrCollection} {bg : Bool} {k : String} :
    k ∈ specStatusMap collections bg ↔ ∃ s ∈ collections, k ∈ instanceNames bg s := by
  rw [specStatusMap, mem_foldl_of_step (instanceNames bg)]
  · simp [AList.not_mem_empty]
  · intro m s k
    cases bg <;> simp [instanceNames, AList.mem_insert, or_assoc, or_left_comm]

/-- A map whose keys are exactly the members of a list without duplicates has
    as many entries as the list. -/
theorem keys_length_of_mem_iff {V : Type} {m : GoMap V} {l : List String} (hl : l.Nodup)
    (h : ∀ k, k ∈ m ↔ k ∈ l) : m.keys.length = l.length :=
  ((List.perm_ext_iff_of_nodup m.keys_nodup hl).2 fun k => AList.mem_keys.trans (h k)).length_eq

/-- Entries with distinct names give `countSpecifiedCollections` instances. -/
theorem mapCollections_keys_length (collections : List SolrCollection) (bg : Bool)
    (h : (collections.map SolrCollection.name).Nodup) :
    (mapCollections collections ∅ bg).keys.length = countSpecifiedCollections collections bg := by
  rw [keys_length_of_mem_iff (flatMap_instanceNames_nodup bg h) fun k => by
    simp [mem_mapCollections, AList.not_mem_empty], length_flatMap_instanceNames]

/-- The three computations of the desired instances agree: `mapCollections` and
    the reporter's `collectionStatusMap` have the same keys, and for entries with
    distinct names both have `countSpecifiedCollections` of them. -/
theorem desired_instances_agree (collections : List SolrCollection) (bg : Bool)
    (h : (collections.map SolrCollection.name).Nodup) :
    (∀ k, k ∈ mapCollections collections ∅ bg ↔ k ∈ specStatusMap collections bg) ∧
    (mapCollections collections ∅ bg).keys.length = countSpecifiedCollections collections bg ∧
    (specStatusMap collections bg).keys.length = countSpecifiedCollections collections bg := by
  have hmap : ∀ k, k ∈ mapCollections collections ∅ bg ↔ k ∈ collections.flatMap (instanceNames bg) :=
    fun k => by simp [mem_mapCollections, AList.not_mem_empty]
  have hstatus : ∀ k, k ∈ specStatusMap collections bg ↔ k ∈ collections.flatMap (instanceNames bg) :=
    fun k => by simp [mem_specStatusMap]
  have hnodup := flatMap_instanceNames_nodup bg h
  refine ⟨fun k => (hmap k).trans (hstatus k).symm, mapCollections_keys_length collections bg h, ?_⟩
  rw [keys_length_of_mem_iff hnodup hstatus, length_flatMap_instanceNames]

/-- Two blue/green entries: four instances on each side. -/
theorem desired_instances_agree_blue_green :
    let collections : List SolrCollection := [⟨"x", "x", "x"⟩, ⟨"y", "y", "y"⟩]
    (collections.map SolrCollection.name).Nodup ∧
      (mapCollections collections ∅ true).keys.length = 4 ∧
      (specStatusMap collections true).keys.length = 4 :=
  ⟨by decide, (desired_instances_agree _ true (by decide)).2.1,
    (desired_instances_agree _ true (by decide)).2.2⟩

/-! ## What the reporter says of each instance

The spec loop files a fresh status under every instance name; the loop over the
cluster rewrites the status of each instance it finds. `lookup_collectionStatusMap`
is what the two loops leave under a key. -/

/-- The record update of `populateCollectionSetStatus`' loop over the cluster: what it
    writes into the status of an instance `name` it finds in the cluster as
    `collection`. -/
def scannedStatus (cs : SolrCollectionSet) (collectionsToAliasesMap : GoMap String) (name : String)
    (collection : Collection) (item : SolrCollectionStatus) : SolrCollectionStatus :=
  { item with
    replicationFactor := collection.replicationFactor
    replicaCount := collection.replicaCount
    replicationStatus := fmtInt32 collection.replicaCount ++ "/" ++ fmtInt32 collection.replicationFactor
    active := decide (if cs.spec.blueGreen then trimSuffix name "_green" ∈ collectionsToAliasesMap
      else True)
    «exists» := true }

/-- One step of the loop over the cluster rewrites the status of the visited instance
    only, and only when its collection does not begin with `_`. -/
theorem lookup_scanCollection (cs : SolrCollectionSet) (aliasesRev : GoMap String) (st : StatusScan)
    (kv : String × Collection) (k : String) :
    (scanCollection cs aliasesRev st kv).collectionStatusMap.lookup k =
      if k = kv.1 ∧ hasPrefix kv.2.name "_" = false then
        (st.collectionStatusMap.lookup k).map (scannedStatus cs aliasesRev k kv.2)
      else st.collectionStatusMap.lookup k := by
  obtain ⟨name, collection⟩ := kv
  simp only [scanCollection]
  by_cases hp : hasPrefix collection.name "_" = true
  · simp [hp]
  · rw [if_neg hp]
    simp only [apply_ite StatusScan.collectionStatusMap, ite_self]
    split <;> rename_i hl <;> simp only [apply_ite StatusScan.collectionStatusMap, ite_self] <;>
      by_cases hk : k = name
    · subst hk; simp [hl]
    · simp [hk]
    · subst hk; simp_all [AList.lookup_insert, scannedStatus]
    · simp [hk, AList.lookup_insert_ne hk]

/-- The suffix strip leaves a `_blue` instance as it is. -/
theorem trimSuffix_blue_green (x : String) : trimSuffix (x ++ "_blue") "_green" = x ++ "_blue" := by
  simp [trimSuffix, List.isSuffixOf, List.reverse_append]

/-- The status a fold of inserts files under a key was inserted by one of its steps,
    or was there before. -/
theorem lookup_foldl_of_step {α V : Type} {f : GoMap V → α → GoMap V}
    (vals : α → String → Option V)
    (hf : ∀ m a k v, (f m a).lookup k = some v → vals a k = some v ∨ m.lookup k = some v)
    (k : String) (v : V) :
    ∀ (l : List α) (m : GoMap V), (l.foldl f m).lookup k = some v →
      (∃ a ∈ l, vals a k = some v) ∨ m.lookup k = some v
  | [], _, h => .inr h
  | a :: l, m, h => by
    rcases lookup_foldl_of_step vals hf k v l _ h with ⟨a', ha', h⟩ | h
    · exact .inl ⟨a', List.mem_cons_of_mem _ ha', h⟩
    · rcases hf m a k v h with h | h
      · exact .inl ⟨a, List.mem_cons_self _ _, h⟩
      · exact .inr h

/-- The status the spec loop files under an instance name: the entry's, with that
    instance name when blue/green is on and `""` when it is off. -/
theorem lookup_specStatusMap {collections : List SolrCollection} {bg : Bool} {i : String}
    {e : SolrCollectionStatus} (h : (specStatusMap collections bg).lookup i = some e) :
    ∃ s ∈ collections, i ∈ instanceNames bg s ∧
      e = newSolrSectionStatus s (if bg then i else "") := by
  rw [specStatusMap] at h
  refine (lookup_foldl_of_step (fun s i => if i ∈ instanceNames bg s then
      some (newSolrSectionStatus s (if bg then i else "")) else none) ?_ i e collections ∅ h).elim
    (fun ⟨s, hs, h⟩ => ?_) (fun h => absurd h (by simp [AList.lookup_empty]))
  · clear h
    intro m s k v h
    cases bg
    · by_cases hk : k = s.name
      · subst hk; simp_all [instanceNames, AList.lookup_insert]
      · simp_all [instanceNames, AList.lookup_insert_ne hk]
    · by_cases hg : k = s.name ++ "_green"
      · subst hg; simp_all [instanceNames, AList.lookup_insert]
      · by_cases hb : k = s.name ++ "_blue"
        · subst hb; simp_all [instanceNames, AList.lookup_insert, AList.lookup_insert_ne hg]
        · simp_all [instanceNames, AList.lookup_insert_ne hb, AList.lookup_insert_ne hg]
  · split at h
    · exact ⟨s, hs, by assumption, (Option.some.inj h).symm⟩
    · cases h

theorem scanCounts_collectionStatusMap (cs : SolrCollectionSet) (n m : Nat) (st : StatusScan) :
    (scanCounts cs n m st).collectionStatusMap = st.collectionStatusMap := by
  rcases Nat.lt_trichotomy n m with h | rfl | h
  · simp [scanCounts, h, Nat.ne_of_lt h, Nat.not_lt_of_gt h]
  · simp [scanCounts]
  · simp [scanCounts, h, Nat.ne_of_gt h, Nat.not_lt_of_gt h]

/-- A loop over a map's entries, each visited once, whose step rewrites only the
    entry under the visited key: after the loop, a key's entry is its step's
    rewrite of the entry before the loop. -/
theorem lookup_foldl_scan {β V C : Type} (g : β → String × C → β) (cmap : β → GoMap V)
    (P : C → Prop) [DecidablePred P] (U : String → C → V → V)
    (hg : ∀ b kv k, (cmap (g b kv)).lookup k =
      if k = kv.1 ∧ P kv.2 then ((cmap b).lookup k).map (U k kv.2) else (cmap b).lookup k)
    (k : String) : ∀ (l : List (String × C)) (b : β), (l.map Prod.fst).Nodup →
      (∀ c, (k, c) ∈ l → (cmap (l.foldl g b)).lookup k =
        if P c then ((cmap b).lookup k).map (U k c) else (cmap b).lookup k) ∧
      (k ∉ l.map Prod.fst → (cmap (l.foldl g b)).lookup k = (cmap b).lookup k)
  | [], _, _ => by simp
  | (k0, c0) :: l, b, hnd => by
    rw [List.map_cons, List.nodup_cons] at hnd
    have ih := lookup_foldl_scan g cmap P U hg k l (g b (k0, c0)) hnd.2
    rw [List.foldl_cons]
    refine ⟨fun c hc => ?_, fun hk => ?_⟩
    · rcases List.mem_cons.1 hc with hc | hc
      · obtain ⟨rfl, rfl⟩ := Prod.mk.inj hc
        rw [ih.2 hnd.1, hg]
        simp
      · have hne : k ≠ k0 := fun h => hnd.1 (h ▸ List.mem_map.2 ⟨(k, c), hc, rfl⟩)
        simp only [ih.1 c hc, hg, hne, false_and, if_false]
    · simp only [List.map_cons, List.mem_cons, not_or] at hk
      simp only [ih.2 hk.2, hg, hk.1, false_and, if_false]

theorem ne_empty_of_mem_instanceNames {s : SolrCollection} {i : String}
    (h : i ∈ instanceNames true s) : i ≠ "" := by
  simp only [instanceNames, if_true, List.mem_cons, List.mem_singleton, List.not_mem_nil,
    or_false] at h
  rcases h with rfl | rfl <;> intro h <;> simpa using congrArg String.data h

/-- The spec loop marks an instance blue/green exactly when the set is. -/
theorem blueGreen_newSolrSectionStatus {bg : Bool} {s : SolrCollection} {i : String}
    (hi : i ∈ instanceNames bg s) : (newSolrSectionStatus s (if bg then i else "")).blueGreen = bg := by
  cases bg
  · simp [newSolrSectionStatus]
  · simp [newSolrSectionStatus, ne_empty_of_mem_instanceNames hi]

/-- The status the reporter files under each key: the spec loop's status of an
    instance, rewritten by the cluster loop when the cluster holds a collection of
    that name not beginning with `_`. -/
theorem lookup_collectionStatusMap (ord : MapOrder Site) (cs : SolrCollectionSet)
    (clusterStatus : ClusterStatus) (st : StatusScan)
    (hst : st.collectionStatusMap = specStatusMap cs.spec.collections cs.spec.blueGreen)
    (i : String) :
    let aliasesRev := clusterStatus.aliases.reverse ord .statusAliases
    ((clusterStatus.collections.range ord .statusCollections).foldl (scanCollection cs aliasesRev)
        st).collectionStatusMap.lookup i =
      match clusterStatus.collections.lookup i with
      | some c => if hasPrefix c.name "_" = false then
          ((specStatusMap cs.spec.collections cs.spec.blueGreen).lookup i).map
            (scannedStatus cs aliasesRev i c)
        else (specStatusMap cs.spec.collections cs.spec.blueGreen).lookup i
      | none => (specStatusMap cs.spec.collections cs.spec.blueGreen).lookup i := by
  intro aliasesRev
  have h := lookup_foldl_scan (scanCollection cs aliasesRev) StatusScan.collectionStatusMap
    (fun c : Collection => hasPrefix c.name "_" = false) (scannedStatus cs aliasesRev)
    (lookup_scanCollection cs aliasesRev) i _ st
    (GoMap.range_nodup clusterStatus.collections ord .statusCollections)
  rw [hst] at h
  split
  next c hc => exact h.1 c (GoMap.mem_range.2 hc)
  next hc =>
    refine h.2 fun hm => ?_
    obtain ⟨c, hc'⟩ := GoMap.mem_iff_lookup.1 (GoMap.mem_range_fst.1 hm)
    rw [hc] at hc'
    cases hc'

/-- The `SolrCollections` the reporter writes: one entry per desired instance, in the
    visiting order of the status map. Each entry carries the instance name with
    blue/green on and `""` with it off, its spec entry's name and config set, the
    blue/green flag, and whether the cluster has the instance as a collection not
    beginning with `_`. An instance the cluster has carries the cluster's factors and
    replication status, is active with blue/green off, and a `_blue` instance is
    active exactly when some alias targets it. -/
theorem solrCollections_per_instance (ord : MapOrder Site) (now : Nat) (cs : SolrCollectionSet)
    (clusterStatus : ClusterStatus) :
    ∃ names : List String, names.Perm cs.spec.instances.keys ∧
      List.Forall₂ (fun i e =>
        e.instanceName = (if cs.spec.blueGreen then i else "") ∧ e.blueGreen = cs.spec.blueGreen ∧
        (∃ s ∈ cs.spec.collections, i ∈ instanceNames cs.spec.blueGreen s ∧ e.name = s.name ∧
          e.configSet = s.configsetName) ∧
        (e.exists = true ↔
          ∃ c, clusterStatus.collections.lookup i = some c ∧ hasPrefix c.name "_" = false) ∧
        ∀ c, clusterStatus.collections.lookup i = some c → hasPrefix c.name "_" = false →
          e.replicationFactor = c.replicationFactor ∧ e.replicaCount = c.replicaCount ∧
          e.replicationStatus = fmtInt32 c.replicaCount ++ "/" ++ fmtInt32 c.replicationFactor ∧
          (cs.spec.blueGreen = false → e.active = true) ∧
          (cs.spec.blueGreen = true → ∀ s ∈ cs.spec.collections, i = s.name ++ "_blue" →
            (e.active = true ↔ ∃ a, clusterStatus.aliases.lookup a = some i)))
        names (populateCollectionSetStatus ord now cs clusterStatus).1.solrCollections := by
  set bg := cs.spec.blueGreen with hbg
  set aliasesRev := clusterStatus.aliases.reverse ord .statusAliases
  set st0 := scanCounts cs (countSpecifiedCollections cs.spec.collections bg)
    (countSolrCollections clusterStatus.collections) ⟨true, "", ∅, specStatusMap cs.spec.collections bg⟩
  set M := ((clusterStatus.collections.range ord .statusCollections).foldl (scanCollection cs aliasesRev)
    st0).collectionStatusMap
  have hM := lookup_collectionStatusMap ord cs clusterStatus st0 (scanCounts_collectionStatusMap ..)
  have hmem : ∀ i, i ∈ M ↔ i ∈ cs.spec.instances := fun i => by
    rw [← AList.lookup_isSome, hM, mem_instances, ← mem_specStatusMap, ← AList.lookup_isSome]
    split
    · split <;> simp
    · rfl
  refine ⟨(M.range ord .statusCollectionMap).map Prod.fst, (GoMap.range_keys M ord _).trans
    ((List.perm_ext_iff_of_nodup M.keys_nodup cs.spec.instances.keys_nodup).2 hmem), ?_⟩
  show List.Forall₂ _ _ ((M.range ord .statusCollectionMap).map Prod.snd)
  rw [List.forall₂_map_left_iff, List.forall₂_map_right_iff, List.forall₂_same]
  rintro ⟨i, e⟩ hie
  have he := (hM i).symm.trans (GoMap.mem_range.1 hie)
  dsimp only
  cases hc : clusterStatus.collections.lookup i with
  | none =>
    rw [hc] at he
    obtain ⟨s, hs, hi, rfl⟩ := lookup_specStatusMap he
    exact ⟨rfl, blueGreen_newSolrSectionStatus hi, ⟨s, hs, hi, rfl, rfl⟩, by simp [newSolrSectionStatus], fun _ h => by cases h⟩
  | some c =>
    rw [hc] at he
    dsimp only at he
    split at he
    next hp =>
      obtain ⟨e0, h0, rfl⟩ := Option.map_eq_some'.1 he
      obtain ⟨s, hs, hi, rfl⟩ := lookup_specStatusMap h0
      refine ⟨rfl, blueGreen_newSolrSectionStatus hi, ⟨s, hs, hi, rfl, rfl⟩, by simpa [scannedStatus] using hp,
        fun c' hc' _ => ?_⟩
      obtain rfl := Option.some.inj hc'
      refine ⟨rfl, rfl, rfl, fun h => by simp [scannedStatus, ← hbg, h], fun h s' _ hb => ?_⟩
      simp only [scannedStatus, ← hbg, h, if_true, decide_eq_true_iff, hb, trimSuffix_blue_green]
      exact GoMap.mem_reverse
    next hp =>
      obtain ⟨s, hs, hi, rfl⟩ := lookup_specStatusMap he
      exact ⟨rfl, blueGreen_newSolrSectionStatus hi, ⟨s, hs, hi, rfl, rfl⟩, by simp [newSolrSectionStatus, hp],
        fun c' hc' hp' => absurd (Option.some.inj hc' ▸ hp') hp⟩

/-- Two reports. A blue/green set whose alias targets its green instance reports
    that instance not active. A set with blue/green off and the entries `x` and `y`
    reports both with `InstanceName` `""`, not their names; the collections are a
    list map keyed by `instanceName`, so the API server refuses `UpdateStatus`'
    patch, and keeps the status it held. -/
theorem green_instance_reported_inactive :
    let sc : GoMap Collection := ((∅ : GoMap Collection).insert "x_blue" ⟨"x_blue", 1, 1, "x"⟩).insert
      "x_green" ⟨"x_green", 1, 1, "x"⟩
    let blueGreen : SolrCollectionSet := ⟨"set", "ns", ⟨"http://solr", "auth", some true, some 1,
      some true, some false, [⟨"x", "x", "x"⟩]⟩, .empty⟩
    let plain : SolrCollectionSet := ⟨"set", "ns", ⟨"http://solr", "auth", some true, some 1,
      some false, some false, [⟨"x", "x", "x"⟩, ⟨"y", "y", "y"⟩]⟩, .empty⟩
    (∃ e ∈ (populateCollectionSetStatus (MapOrder.stored Site) 0 blueGreen
        ⟨sc, (∅ : GoMap String).insert "x" "x_green"⟩).1.solrCollections,
      e.instanceName = "x_green" ∧ e.exists = true ∧ e.active = false) ∧
    (populateCollectionSetStatus (MapOrder.stored Site) 0 plain ⟨∅, ∅⟩).1.solrCollections.map
        (fun e => (e.name, e.instanceName)) = [("y", ""), ("x", "")] ∧
    (updateStatus (MapOrder.stored Site) 0 KubeFaults.none plain ⟨∅, ∅⟩ ⟨some plain, [], []⟩).1.1 =
      some "status.collections[1]: Duplicate value" ∧
    (updateStatus (MapOrder.stored Site) 0 KubeFaults.none plain ⟨∅, ∅⟩ ⟨some plain, [], []⟩).2.stored =
      some plain := by
  decide

/-! ## The `Stable` condition

The loop over the cluster overwrites the reason at each collection that is not
aligned, so the reason is that of the last one it visits; the new condition then
goes through `statusConditions`, which keeps the existing one only when
`conditionsEqual` holds and otherwise stamps the new one afresh.
-/

/-- The reason a collection of the cluster leaves when it is not aligned, as the
    loop's checks run: a replica count off the collection's factor overrides a
    factor off the spec's. -/
def collectionReason (cs : SolrCollectionSet) (collection : Collection) : Option String :=
  if collection.replicaCount ≠ collection.replicationFactor then
    some (if collection.replicaCount.slt collection.replicationFactor then
      reasonSolrCollectionSetScalingOut else reasonSolrCollectionSetScalingIn)
  else if cs.spec.rf ≠ collection.replicationFactor then some reasonSolrCollectionReplicationFactorMismatch
  else none

theorem slt_or_slt_of_ne {a b : Int32} (h : a ≠ b) : a.slt b = true ∨ b.slt a = true := by
  simp only [BitVec.slt, decide_eq_true_eq]
  have : a.toInt ≠ b.toInt := fun h' => h (BitVec.eq_of_toInt_eq h')
  omega

/-- What one step of the loop over the cluster does to the reason and the
    stability flag. -/
theorem scanCollection_reason (cs : SolrCollectionSet) (aliasesRev : GoMap String) (st : StatusScan)
    (kv : String × Collection) :
    (scanCollection cs aliasesRev st kv).unstableReason =
        (if hasPrefix kv.2.name "_" then none else collectionReason cs kv.2).getD st.unstableReason ∧
      (scanCollection cs aliasesRev st kv).isStable =
        (st.isStable && (if hasPrefix kv.2.name "_" then none else collectionReason cs kv.2).isNone) := by
  obtain ⟨name, collection⟩ := kv
  simp only [scanCollection]
  by_cases hp : hasPrefix collection.name "_" = true
  · simp [hp]
  · rw [if_neg hp]
    by_cases h1 : collection.replicaCount = collection.replicationFactor
    · by_cases h2 : cs.spec.rf = collection.replicationFactor <;>
        simp only [h1, h2, hp, ne_eq, not_true_eq_false, not_false_eq_true, if_true, if_false] <;>
        split <;> simp [collectionReason, h1, h2, hp]
    · by_cases h3 : collection.replicaCount.slt collection.replicationFactor = true
      · by_cases h2 : cs.spec.rf = collection.replicationFactor <;>
          simp only [h1, h2, h3, hp, ne_eq, not_true_eq_false, not_false_eq_true, if_true, if_false] <;>
          split <;> simp [collectionReason, h1, h2, h3, hp]
      · have h4 := (slt_or_slt_of_ne h1).resolve_left h3
        by_cases h2 : cs.spec.rf = collection.replicationFactor <;>
          simp only [h1, h2, h3, h4, hp, ne_eq, not_true_eq_false, not_false_eq_true, if_true, if_false] <;>
          split <;> simp [collectionReason, h1, h2, h3, h4, hp]

/-- The loop over the cluster: the reason is that of the last collection it visits
    that is not aligned, and the set stays stable only if none is. -/
theorem foldl_scanCollection_reason (cs : SolrCollectionSet) (aliasesRev : GoMap String) :
    ∀ (l : List (String × Collection)) (st : StatusScan),
      let reasons := l.filterMap fun kv =>
        if hasPrefix kv.2.name "_" then none else collectionReason cs kv.2
      (l.foldl (scanCollection cs aliasesRev) st).unstableReason = reasons.getLast?.getD st.unstableReason ∧
      (l.foldl (scanCollection cs aliasesRev) st).isStable = (st.isStable && reasons.isEmpty)
  | [], st => by simp
  | kv :: l, st => by
    obtain ⟨ih1, ih2⟩ := foldl_scanCollection_reason cs aliasesRev l (scanCollection cs aliasesRev st kv)
    obtain ⟨h1, h2⟩ := scanCollection_reason cs aliasesRev st kv
    simp only [List.foldl_cons, ih1, ih2, h1, h2, List.filterMap_cons]
    cases (if hasPrefix kv.2.name "_" = true then none else collectionReason cs kv.2) <;>
      simp only [Option.getD_none, Option.getD_some, List.getLast?_cons, Option.isNone_none,
        Option.isNone_some, Bool.and_true, Bool.and_false, Bool.false_and, List.isEmpty_cons,
        and_self]

/-- The count comparison: unstable exactly when the counts differ, with the reason
    of the direction. -/
theorem scanCounts_reason (cs : SolrCollectionSet) (specified observed : Nat) (st : StatusScan) :
    (scanCounts cs specified observed st).isStable = (st.isStable && decide (specified = observed)) ∧
      (scanCounts cs specified observed st).unstableReason =
        if observed < specified then reasonSolrCollectionAddingCollections
        else if specified < observed then reasonSolrCollectionRemovingCollections
        else st.unstableReason := by
  rcases Nat.lt_trichotomy specified observed with h | rfl | h
  · simp [scanCounts, h, Nat.ne_of_lt h, Nat.not_lt_of_gt h]
  · simp [scanCounts]
  · simp [scanCounts, h, Nat.ne_of_gt h, Nat.not_lt_of_gt h]

theorem collectionReason_eq_none {cs : SolrCollectionSet} {collection : Collection} :
    collectionReason cs collection = none ↔
      collection.replicationFactor = cs.spec.rf ∧ collection.replicaCount = collection.replicationFactor := by
  simp only [collectionReason]
  split_ifs <;> simp_all [eq_comm]

/-! ### Conditions -/

/-- `SetStatusCondition` on a list without a condition of the new one's type appends
    it. -/
theorem setStatusCondition_of_forall_ne (now : Nat) (new : Condition) :
    ∀ conds : List Condition, (∀ c ∈ conds, c.type ≠ new.type) →
      (setStatusCondition now conds new).1 =
        conds ++ [if new.lastTransitionTime = 0 then { new with lastTransitionTime := now } else new]
  | [], _ => rfl
  | c :: cs, h => by
    simp only [List.mem_cons, forall_eq_or_imp] at h
    simp only [setStatusCondition, if_neg h.1, setStatusCondition_of_forall_ne now new cs h.2,
      List.cons_append]

theorem mem_setStatusCondition (now : Nat) (new : Condition) {c : Condition} :
    ∀ conds : List Condition, c ∈ (setStatusCondition now conds new).1 → c ∈ conds ∨ c.type = new.type
  | [], h => by
    simp only [setStatusCondition, List.mem_singleton] at h
    split at h <;> subst h <;> simp
  | c' :: cs, h => by
    simp only [setStatusCondition] at h
    split at h
    next ht =>
      rcases List.mem_cons.1 h with rfl | h
      · exact .inr ((mergeCondition_type now c' new).trans ht)
      · exact .inl (List.mem_cons_of_mem _ h)
    · rcases List.mem_cons.1 h with rfl | h
      · exact .inl (List.mem_cons_self _ _)
      · exact (mem_setStatusCondition now new cs h).imp_left (List.mem_cons_of_mem _)

/-- On a list whose types are distinct, `SetStatusCondition` merges the new
    condition into the one of its type. -/
theorem mergeCondition_mem_setStatusCondition (now : Nat) (new : Condition) {p : Condition}
    (hp : p.type = new.type) :
    ∀ conds : List Condition, p ∈ conds → (conds.map Condition.type).Nodup →
      (mergeCondition now p new).1 ∈ (setStatusCondition now conds new).1
  | [], h, _ => absurd h (List.not_mem_nil _)
  | c :: cs, h, hnd => by
    rw [List.map_cons, List.nodup_cons] at hnd
    simp only [setStatusCondition]
    split
    next ht =>
      have : p = c := (List.mem_cons.1 h).resolve_right fun hcs =>
        hnd.1 (ht ▸ hp ▸ List.mem_map_of_mem _ hcs)
      subst this
      exact List.mem_cons_self _ _
    next ht =>
      have hcs : p ∈ cs := (List.mem_cons.1 h).resolve_left fun h => ht (h ▸ hp)
      exact List.mem_cons_of_mem _ (mergeCondition_mem_setStatusCondition now new hp cs hcs hnd.2)

/-- The map of existing conditions by type. -/
theorem lookup_foldl_byType {k : String} {c : Condition} :
    ∀ (conds : List Condition) (m : GoMap Condition),
      (conds.foldl (fun m c => m.insert c.type c) m).lookup k = some c →
        (c ∈ conds ∧ c.type = k) ∨ m.lookup k = some c
  | [], _, h => .inr h
  | c' :: cs, m, h => by
    rcases lookup_foldl_byType cs _ h with ⟨hc, hk⟩ | h
    · exact .inl ⟨List.mem_cons_of_mem _ hc, hk⟩
    · by_cases hk : k = c'.type
      · subst hk
        rw [AList.lookup_insert, Option.some.injEq] at h
        subst h
        exact .inl ⟨List.mem_cons_self _ _, rfl⟩
      · exact .inr (by rwa [AList.lookup_insert_ne hk] at h)

/-- The conditions of other types carried onto the fresh list hold none of the new
    condition's type. -/
theorem type_ne_of_mem_carried (now : Nat) (new : Condition) :
    ∀ (l : List (String × Condition)) (conds : List Condition),
      (∀ c ∈ conds, c.type ≠ new.type) → (∀ kv ∈ l, kv.2.type = kv.1) →
      ∀ c ∈ l.foldl (fun conds kv => if kv.1 ∈ (∅ : GoMap Condition).insert new.type new then conds
        else (setStatusCondition now conds kv.2).1) conds, c.type ≠ new.type
  | [], _, h, _ => h
  | kv :: l, conds, h, hl => by
    rw [List.foldl_cons]
    refine type_ne_of_mem_carried now new l _ ?_ fun kv' h' => hl kv' (List.mem_cons_of_mem _ h')
    split
    · exact h
    next hk =>
      intro c hc
      rcases mem_setStatusCondition now kv.2 conds hc with hc | hc
      · exact h c hc
      · rw [hc, hl kv (List.mem_cons_self _ _)]
        exact fun h => hk (h ▸ (AList.mem_insert _).2 (.inl rfl))

theorem conditionsEqual_iff {c1 c2 : Condition} :
    conditionsEqual c1 c2 = true ↔
      c1.type = c2.type ∧ c1.status = c2.status ∧ c1.message = c2.message ∧ c1.reason = c2.reason := by
  simp [conditionsEqual, and_assoc]

/-- Merging a condition with equal status, reason and message changes nothing. -/
theorem mergeCondition_of_eq (now : Nat) {p new : Condition} (hs : p.status = new.status)
    (hr : p.reason = new.reason) (hm : p.message = new.message) : (mergeCondition now p new).1 = p := by
  simp [mergeCondition, hs, hr, hm]

/-- Merging a condition of another status takes the new one's fields, stamped `now`. -/
theorem mergeCondition_of_status_ne (now : Nat) {p new : Condition} (ht : p.type = new.type)
    (hs : p.status ≠ new.status) (hnew : new.lastTransitionTime = 0) :
    (mergeCondition now p new).1 = { new with lastTransitionTime := now } := by
  obtain ⟨t, s, l, r, m⟩ := p
  obtain ⟨t', s', l', r', m'⟩ := new
  simp only at ht hs hnew
  subst ht hnew
  simp only [mergeCondition, ne_eq, hs, not_false_eq_true, if_true, not_true_eq_false, if_false]
  split_ifs <;> simp_all

/-- The condition the reporter writes for the new condition's type: the new one
    stamped `now`, or the existing one of that type when `conditionsEqual` holds.
    Unless only the reason or the message changed, that is the condition
    `SetStatusCondition` makes on the existing list. -/
theorem statusConditions_new (ord : MapOrder Site) (now : Nat) (existing : List Condition)
    (new : Condition) (hnd : (existing.map Condition.type).Nodup)
    (hltt : ∀ p ∈ existing, p.lastTransitionTime ≠ 0) (hnew : new.lastTransitionTime = 0) :
    ∃ w ∈ statusConditions ord now existing new, w.type = new.type ∧ w.status = new.status ∧
      w.reason = new.reason ∧ w.message = new.message ∧
      ((∀ p ∈ existing, p.type = new.type → p.status = new.status →
          p.reason = new.reason ∧ p.message = new.message) →
        w ∈ (setStatusCondition now existing new).1) := by
  simp only [statusConditions, GoMap.range_singleton, List.foldl_cons, List.foldl_nil]
  generalize hE : existing.foldl (fun (m : GoMap Condition) c => m.insert c.type c) ∅ = E
  generalize hC : (E.range ord .statusExistingConditions).foldl (fun conds kv =>
    if kv.1 ∈ (∅ : GoMap Condition).insert new.type new then conds
    else (setStatusCondition now conds kv.2).1) [] = C
  have hCne : ∀ c ∈ C, c.type ≠ new.type := hC ▸ type_ne_of_mem_carried now new _ [] (by simp)
    fun kv hkv => by
      rcases lookup_foldl_byType existing ∅ (hE ▸ GoMap.mem_range.1 hkv) with h | h
      · exact h.2
      · simp [AList.lookup_empty] at h
  have hfresh : { new with lastTransitionTime := now } ∈ (setStatusCondition now C new).1 := by
    rw [setStatusCondition_of_forall_ne now new C hCne, if_pos hnew]
    exact List.mem_append_right _ (List.mem_singleton_self _)
  cases hl : E.lookup new.type with
  | none =>
    refine ⟨_, hfresh, rfl, rfl, rfl, rfl, fun _ => ?_⟩
    have hnone : ∀ c ∈ existing, c.type ≠ new.type := fun c hc ht => by
      have := GoMap.lookup_foldl_insert_of_mem Condition.type (fun c => c) existing ∅ hc hnd
      rw [hE, ht, hl] at this
      cases this
    rw [setStatusCondition_of_forall_ne now new existing hnone, if_pos hnew]
    exact List.mem_append_right _ (List.mem_singleton_self _)
  | some ec =>
    obtain ⟨hec, hect⟩ := (lookup_foldl_byType existing ∅ (by rw [hE]; exact hl)).resolve_right
      (by simp [AList.lookup_empty])
    dsimp only
    split
    next heq =>
      obtain ⟨-, hs, hm, hr⟩ := conditionsEqual_iff.1 heq
      have happend : ec ∈ (setStatusCondition now C ec).1 := by
        rw [setStatusCondition_of_forall_ne now ec C (hect ▸ hCne), if_neg (hltt ec hec)]
        exact List.mem_append_right _ (List.mem_singleton_self _)
      refine ⟨ec, happend, hect, hs.symm, hr.symm, hm.symm, fun _ => ?_⟩
      have := mergeCondition_mem_setStatusCondition now new hect existing hec hnd
      rwa [mergeCondition_of_eq now hs.symm hr.symm hm.symm] at this
    next hne =>
      refine ⟨_, hfresh, rfl, rfl, rfl, rfl, fun H => ?_⟩
      have hs : ec.status ≠ new.status := fun hs => by
        obtain ⟨hr, hm⟩ := H ec hec hect hs
        exact hne (conditionsEqual_iff.2 ⟨hect.symm, hs.symm, hm.symm, hr.symm⟩)
      have := mergeCondition_mem_setStatusCondition now new hect existing hec hnd
      rwa [mergeCondition_of_status_ne now hect hs hnew] at this

/-- No cluster collection not beginning with `_` leaves a reason exactly when each
    has the spec's factor and as many replicas as its factor. -/
theorem collectionReasons_eq_nil_iff (ord : MapOrder Site) (cs : SolrCollectionSet)
    (clusterStatus : ClusterStatus) :
    ((clusterStatus.collections.range ord .statusCollections).filterMap fun kv =>
        if hasPrefix kv.2.name "_" then none else collectionReason cs kv.2) = [] ↔
      ∀ k c, clusterStatus.collections.lookup k = some c → hasPrefix c.name "_" = false →
        c.replicationFactor = cs.spec.rf ∧ c.replicaCount = c.replicationFactor := by
  rw [List.filterMap_eq_nil_iff]
  refine ⟨fun h k c hk hp => ?_, fun h kv hkv => ?_⟩
  · have := h (k, c) (GoMap.mem_range.2 hk)
    simp only [hp, Bool.false_eq_true, if_false] at this
    exact collectionReason_eq_none.1 this
  · split
    · rfl
    next hp =>
      exact collectionReason_eq_none.2 (h kv.1 kv.2 (GoMap.mem_range.1 hkv) (by simpa using hp))

/-- The reporter merges one `Stable` condition into the existing ones, `True`
    exactly when the counts agree and every cluster collection not beginning with
    `_` has the spec's factor and as many replicas as its factor. -/
theorem populateCollectionSetStatus_stable (ord : MapOrder Site) (now : Nat) (cs : SolrCollectionSet)
    (clusterStatus : ClusterStatus) :
    ∃ new : Condition, (populateCollectionSetStatus ord now cs clusterStatus).1.conditions =
        statusConditions ord now cs.status.conditions new ∧
      new.type = typeSolrCollectionSetStable ∧ new.lastTransitionTime = 0 ∧
      (new.status = .conditionTrue ↔
        countSpecifiedCollections cs.spec.collections cs.spec.blueGreen =
          countSolrCollections clusterStatus.collections ∧
        ∀ k c, clusterStatus.collections.lookup k = some c → hasPrefix c.name "_" = false →
          c.replicationFactor = cs.spec.rf ∧ c.replicaCount = c.replicationFactor) := by
  obtain ⟨-, hs⟩ := foldl_scanCollection_reason cs (clusterStatus.aliases.reverse ord .statusAliases)
    (clusterStatus.collections.range ord .statusCollections)
    (scanCounts cs (countSpecifiedCollections cs.spec.collections cs.spec.blueGreen)
      (countSolrCollections clusterStatus.collections)
      ⟨true, "", ∅, specStatusMap cs.spec.collections cs.spec.blueGreen⟩)
  obtain ⟨hcs, -⟩ := scanCounts_reason cs (countSpecifiedCollections cs.spec.collections cs.spec.blueGreen)
      (countSolrCollections clusterStatus.collections)
      ⟨true, "", ∅, specStatusMap cs.spec.collections cs.spec.blueGreen⟩
  refine ⟨_, rfl, by split <;> rfl, by split <;> rfl, ?_⟩
  rw [hs, hcs, Bool.true_and, ← collectionReasons_eq_nil_iff, ← List.isEmpty_iff]
  split <;> rename_i h <;> simp only [Bool.and_eq_true, decide_eq_true_eq] at h
  · exact iff_of_true rfl h
  · exact iff_of_false (by simp) h

/-- The `Stable` condition the reporter writes. It is `True` exactly when the counts
    agree and every cluster collection not beginning with `_` has the spec's factor
    and as many replicas as its factor. Otherwise its reason is that of the last
    such collection the loop over the cluster visits that is not aligned, or that of
    the count comparison if none is. Unless only its reason or message changed, it is
    the condition `SetStatusCondition` makes on the previous conditions. -/
theorem stable_condition_reported (ord : MapOrder Site) (now : Nat) (cs : SolrCollectionSet)
    (clusterStatus : ClusterStatus) (hnd : (cs.status.conditions.map Condition.type).Nodup)
    (hltt : ∀ p ∈ cs.status.conditions, p.lastTransitionTime ≠ 0) :
    let specified := countSpecifiedCollections cs.spec.collections cs.spec.blueGreen
    let observed := countSolrCollections clusterStatus.collections
    let reasons := (clusterStatus.collections.range ord .statusCollections).filterMap fun kv =>
      if hasPrefix kv.2.name "_" then none else collectionReason cs kv.2
    let stable := decide (specified = observed) && reasons.isEmpty
    let new : Condition := ⟨typeSolrCollectionSetStable,
      if stable then .conditionTrue else .conditionFalse, 0,
      if stable then reasonSolrCollectionSetStable
      else reasons.getLast?.getD (if observed < specified then reasonSolrCollectionAddingCollections
        else if specified < observed then reasonSolrCollectionRemovingCollections else ""),
      if stable then "" else "Spec and cluster status are not aligned"⟩
    (stable = true ↔ specified = observed ∧ ∀ k c, clusterStatus.collections.lookup k = some c →
      hasPrefix c.name "_" = false →
        c.replicationFactor = cs.spec.rf ∧ c.replicaCount = c.replicationFactor) ∧
    ∃ w ∈ (populateCollectionSetStatus ord now cs clusterStatus).1.conditions,
      w.type = new.type ∧ w.status = new.status ∧ w.reason = new.reason ∧ w.message = new.message ∧
      ((∀ p ∈ cs.status.conditions, p.type = new.type → p.status = new.status →
          p.reason = new.reason ∧ p.message = new.message) →
        w ∈ (setStatusCondition now cs.status.conditions new).1) := by
  intro specified observed reasons stable new
  refine ⟨?_, ?_⟩
  · simp only [stable, reasons, Bool.and_eq_true, decide_eq_true_eq, List.isEmpty_iff]
    exact and_congr_right fun _ => collectionReasons_eq_nil_iff ord cs clusterStatus
  · obtain ⟨hr, hs⟩ := foldl_scanCollection_reason cs (clusterStatus.aliases.reverse ord .statusAliases)
      (clusterStatus.collections.range ord .statusCollections)
      (scanCounts cs specified observed ⟨true, "", ∅, specStatusMap cs.spec.collections cs.spec.blueGreen⟩)
    obtain ⟨hcs, hcr⟩ := scanCounts_reason cs specified observed
      ⟨true, "", ∅, specStatusMap cs.spec.collections cs.spec.blueGreen⟩
    have hcond : (populateCollectionSetStatus ord now cs clusterStatus).1.conditions =
        statusConditions ord now cs.status.conditions new := by
      simp only [populateCollectionSetStatus, hs, hr, hcs, hcr, Bool.true_and]
      congr 1
      simp only [new, stable, reasons]
      split_ifs <;> rfl
    rw [hcond]
    exact statusConditions_new ord now _ new hnd hltt rfl

theorem stable_condition_reported_aligned :
    let cs : SolrCollectionSet := ⟨"set", "ns", ⟨"http://solr", "secret", some true, some 1,
      some false, some false, [⟨"a", "a", "a"⟩]⟩, ⟨[⟨typeSolrCollectionSetStable, .conditionFalse, 5,
      reasonSolrCollectionAddingCollections, "Spec and cluster status are not aligned"⟩], 0, "", "", []⟩⟩
    let clusterStatus : ClusterStatus := ⟨(∅ : GoMap Collection).insert "a" ⟨"a", 1, 1, "a"⟩, ∅⟩
    ((cs.status.conditions.map Condition.type).Nodup ∧
      ∀ p ∈ cs.status.conditions, p.lastTransitionTime ≠ 0) ∧
    ∃ w ∈ (populateCollectionSetStatus (MapOrder.stored Site) 9 cs clusterStatus).1.conditions,
      w.status = .conditionTrue ∧ w.reason = reasonSolrCollectionSetStable := by
  intro cs clusterStatus
  obtain ⟨-, w, hw, -, hs, hr, -⟩ :=
    stable_condition_reported (MapOrder.stored Site) 9 cs clusterStatus (by decide) (by decide)
  exact ⟨⟨by decide, by decide⟩, w, hw, hs, hr⟩

/-- Three reports of `Stable`. The reason is that of the collection the loop over
    the cluster visits last, so two visiting orders of one cluster give two
    reasons; within one collection a replica count off its factor overrides a factor
    off the spec's; and a change of reason alone restamps the condition, where
    `SetStatusCondition` keeps the previous transition time. -/
theorem stable_reason_follows_visit_order :
    let cs (conditions : List Condition) : SolrCollectionSet := ⟨"set", "ns", ⟨"http://solr", "secret",
      some true, some 1, some false, some false, [⟨"a", "a", "a"⟩, ⟨"b", "b", "b"⟩]⟩,
      ⟨conditions, 0, "", "", []⟩⟩
    let sc : GoMap Collection :=
      ((∅ : GoMap Collection).insert "a" ⟨"a", 2, 2, "a"⟩).insert "b" ⟨"b", 1, 2, "b"⟩
    let reversed : MapOrder Site := ⟨fun _ keys => keys.reverse, fun _ keys => List.reverse_perm keys⟩
    let previous : Condition := ⟨typeSolrCollectionSetStable, .conditionFalse, 5,
      reasonSolrCollectionAddingCollections, "Spec and cluster status are not aligned"⟩
    (populateCollectionSetStatus (MapOrder.stored Site) 9 (cs []) ⟨sc, ∅⟩).1.conditions.map
        Condition.reason = [reasonSolrCollectionReplicationFactorMismatch] ∧
    (populateCollectionSetStatus reversed 9 (cs []) ⟨sc, ∅⟩).1.conditions.map
        Condition.reason = [reasonSolrCollectionSetScalingIn] ∧
    (populateCollectionSetStatus (MapOrder.stored Site) 9 (cs [])
        ⟨(∅ : GoMap Collection).insert "a" ⟨"a", 2, 1, "a"⟩, ∅⟩).1.conditions.map
        Condition.reason = [reasonSolrCollectionSetScalingOut] ∧
    (populateCollectionSetStatus (MapOrder.stored Site) 9 (cs [previous]) ⟨sc, ∅⟩).1.conditions =
      [{ previous with lastTransitionTime := 9, reason := reasonSolrCollectionReplicationFactorMismatch }] ∧
    (setStatusCondition 9 [previous] ⟨typeSolrCollectionSetStable, .conditionFalse, 0,
        reasonSolrCollectionReplicationFactorMismatch, "Spec and cluster status are not aligned"⟩).1 =
      [{ previous with reason := reasonSolrCollectionReplicationFactorMismatch }] := by
  decide

/-! ## A settled status -/

section
variable (ord : MapOrder Site) {stable : Condition}

theorem conditionsEqual_self (c : Condition) : conditionsEqual c c = true := by
  simp [conditionsEqual]

/-- `SetStatusCondition` onto no conditions leaves one, equal to the new one and
    stamped. -/
theorem setStatusCondition_nil_equal {now : Nat} (hnow : now ≠ 0) {x : Condition}
    (hx : conditionsEqual stable x = true) :
    ∃ w, (setStatusCondition now [] x).1 = [w] ∧ conditionsEqual stable w = true ∧
      w.lastTransitionTime ≠ 0 := by
  by_cases h : x.lastTransitionTime = 0
  · exact ⟨{ x with lastTransitionTime := now }, by simp [setStatusCondition, h],
      by simpa [conditionsEqual_iff] using hx, hnow⟩
  · exact ⟨x, by simp [setStatusCondition, h], hx, h⟩

/-- With every existing condition of the new one's type, none is carried over: the
    loop over the existing ones skips each. -/
theorem carried_nil (now : Nat) : ∀ (l : List (String × Condition)),
    (∀ kv ∈ l, kv.1 = stable.type) →
    l.foldl (fun conds kv => if kv.1 ∈ (∅ : GoMap Condition).insert stable.type stable then conds
      else (setStatusCondition now conds kv.2).1) [] = []
  | [], _ => rfl
  | kv :: l, h => by
    rw [List.foldl_cons, if_pos (by rw [h kv (List.mem_cons_self _ _)]; exact AList.mem_insert _ |>.2 (.inl rfl))]
    exact carried_nil now l fun kv' h' => h kv' (List.mem_cons_of_mem _ h')

/-- Over conditions all of the new one's type, the reporter leaves one condition,
    equal to the new one and stamped. -/
theorem statusConditions_of_forall_type {now : Nat} (hnow : now ≠ 0) {existing : List Condition}
    (hex : ∀ c ∈ existing, c.type = stable.type) :
    ∃ w, statusConditions ord now existing stable = [w] ∧ conditionsEqual stable w = true ∧
      w.lastTransitionTime ≠ 0 := by
  simp only [statusConditions, GoMap.range_singleton, List.foldl_cons, List.foldl_nil]
  generalize hE : existing.foldl (fun (m : GoMap Condition) c => m.insert c.type c) ∅ = E
  rw [carried_nil now _ fun kv hkv => ?_]
  · cases E.lookup stable.type with
    | none => exact setStatusCondition_nil_equal hnow (conditionsEqual_self stable)
    | some e =>
      dsimp only
      split
      next heq => exact setStatusCondition_nil_equal hnow heq
      · exact setStatusCondition_nil_equal hnow (conditionsEqual_self stable)
  · obtain ⟨hm, hk⟩ := (lookup_foldl_byType existing ∅ (hE ▸ GoMap.mem_range.mp hkv)).resolve_right
      (by simp [AList.lookup_empty])
    exact hk ▸ hex kv.2 hm

/-- A stamped condition equal to the new one is kept as it is. -/
theorem statusConditions_single (now : Nat) {w : Condition} (heq : conditionsEqual stable w = true)
    (hltt : w.lastTransitionTime ≠ 0) : statusConditions ord now [w] stable = [w] := by
  have hw : w.type = stable.type := ((conditionsEqual_iff.mp heq).1).symm
  have hE : [w].foldl (fun (m : GoMap Condition) c => m.insert c.type c) ∅ =
      (∅ : GoMap Condition).insert stable.type w := by rw [List.foldl_cons, List.foldl_nil, hw]
  simp only [statusConditions, hE, GoMap.range_singleton, List.foldl_cons, List.foldl_nil,
    AList.lookup_insert, heq, if_true, AList.mem_insert, true_or]
  simp [setStatusCondition, hltt]

/-- The reporter's conditions are settled after one pass: over conditions all of
    the `Stable` condition's type, a second pass at any clock leaves them as the
    first did. -/
theorem statusConditions_settled {now : Nat} (hnow : now ≠ 0) (now' : Nat) {existing : List Condition}
    (hex : ∀ c ∈ existing, c.type = stable.type) :
    statusConditions ord now' (statusConditions ord now existing stable) stable =
      statusConditions ord now existing stable := by
  obtain ⟨w, hw, heq, hltt⟩ := statusConditions_of_forall_type ord hnow hex
  rw [hw, statusConditions_single ord now' heq hltt]

end

/-- The events loop writes nothing and leaves the stored set. -/
@[simp] theorem recordEvents_stored (ord : MapOrder Site) (cs : SolrCollectionSet) (events : GoMap String)
    (api : ApiServer) : (recordEvents ord cs events api).stored = api.stored := by
  rw [recordEvents]
  generalize events.range ord .updateStatusEvents = l
  induction l generalizing api with
  | nil => rfl
  | cons _ _ ih => exact ih _

@[simp] theorem recordEvents_writes (ord : MapOrder Site) (cs : SolrCollectionSet) (events : GoMap String)
    (api : ApiServer) : (recordEvents ord cs events api).writes = api.writes := by
  rw [recordEvents]
  generalize events.range ord .updateStatusEvents = l
  induction l generalizing api with
  | nil => rfl
  | cons _ _ ih => exact ih _

section
variable (ord : MapOrder Site) (clusterStatus : ClusterStatus)

/-- The reporter reads the set's status only for its conditions: over the set with
    another status it reports the same, but for conditions it derives from that
    status with the same `Stable` condition. -/
theorem populateCollectionSetStatus_status (now now' : Nat) (cs : SolrCollectionSet)
    (st : SolrCollectionSetStatus) :
    ∃ stable : Condition,
      (populateCollectionSetStatus ord now cs clusterStatus).1.conditions =
        statusConditions ord now cs.status.conditions stable ∧
      (populateCollectionSetStatus ord now' { cs with status := st } clusterStatus).1 =
        { (populateCollectionSetStatus ord now cs clusterStatus).1 with
          conditions := statusConditions ord now' st.conditions stable } ∧
      stable.type = typeSolrCollectionSetStable :=
  ⟨_, rfl, rfl, by split <;> rfl⟩

/-- Reported once over a set with only `Stable` conditions, the status is what the
    reporter gives again over the same spec and cluster, at any clock. -/
theorem populateCollectionSetStatus_settled {now : Nat} (hnow : now ≠ 0) (now' : Nat)
    (cs : SolrCollectionSet) (hconds : ∀ c ∈ cs.status.conditions, c.type = typeSolrCollectionSetStable) :
    (populateCollectionSetStatus ord now' { cs with status :=
      (populateCollectionSetStatus ord now cs clusterStatus).1 } clusterStatus).1 =
      (populateCollectionSetStatus ord now cs clusterStatus).1 := by
  obtain ⟨stable, hc, he, hs⟩ := populateCollectionSetStatus_status ord clusterStatus now now' cs
    (populateCollectionSetStatus ord now cs clusterStatus).1
  rw [he, hc, statusConditions_settled ord hnow now' fun c h => (hconds c h).trans hs.symm, ← hc]

end

/-! ## What the API server admits of the report

The conditions the reporter writes always have distinct types. Its collections
carry the instance name with blue/green on, which the instance names keep
distinct, and `""` with it off: the server admits the status exactly when
blue/green is on or the spec has one instance at most. -/

/-- A fold whose every step keeps the condition types distinct keeps them so. -/
theorem foldl_nodup_types {α : Type} (f : List Condition → α → List Condition)
    (hf : ∀ conds a, (conds.map Condition.type).Nodup → ((f conds a).map Condition.type).Nodup) :
    ∀ (l : List α) (conds : List Condition), (conds.map Condition.type).Nodup →
      ((l.foldl f conds).map Condition.type).Nodup
  | [], _, h => h
  | a :: l, conds, h => foldl_nodup_types f hf l _ (hf conds a h)

/-- The conditions the reporter writes have distinct types. -/
theorem nodup_types_statusConditions (ord : MapOrder Site) (now : Nat) (existing : List Condition)
    (stable : Condition) : ((statusConditions ord now existing stable).map Condition.type).Nodup := by
  refine foldl_nodup_types _ (fun conds kv h => ?_) _ _
    (foldl_nodup_types _ (fun conds kv h => ?_) _ _ List.nodup_nil)
  · split
    · split <;> exact nodup_types_setStatusCondition now _ h
    · exact nodup_types_setStatusCondition now _ h
  · split
    · exact h
    · exact nodup_types_setStatusCondition now _ h

/-- The API server admits the status the reporter writes exactly when blue/green is
    on or the spec has at most one instance. -/
theorem populateCollectionSetStatus_keyError (ord : MapOrder Site) (now : Nat) (cs : SolrCollectionSet)
    (clusterStatus : ClusterStatus) :
    (populateCollectionSetStatus ord now cs clusterStatus).1.keyError = none ↔
      cs.spec.blueGreen = true ∨ cs.spec.instances.keys.length ≤ 1 := by
  obtain ⟨names, hperm, hrel⟩ := solrCollections_per_instance ord now cs clusterStatus
  have hnames : (populateCollectionSetStatus ord now cs clusterStatus).1.solrCollections.map
      SolrCollectionStatus.instanceName = names.map fun i => if cs.spec.blueGreen then i else "" := by
    have h : List.Forall₂ (fun i (e : SolrCollectionStatus) =>
        (if cs.spec.blueGreen then i else "") = e.instanceName) names
        (populateCollectionSetStatus ord now cs clusterStatus).1.solrCollections :=
      hrel.imp fun _ _ h => h.1.symm
    replace h := List.forall₂_map_left_iff.2 (List.forall₂_map_right_iff.2 h)
    rw [List.forall₂_eq_eq_eq] at h
    exact h.symm
  have hconds : ((populateCollectionSetStatus ord now cs clusterStatus).1.conditions.map
      Condition.type).Nodup := nodup_types_statusConditions ord now _ _
  rw [SolrCollectionSetStatus.keyError_eq_none, hnames, ← hperm.length_eq, and_iff_right hconds]
  cases cs.spec.blueGreen
  · simp [List.map_const', List.nodup_replicate]
  · simpa using hperm.nodup_iff.2 cs.spec.instances.keys_nodup

section
variable (ord : MapOrder Site) (cs : SolrCollectionSet) (clusterStatus : ClusterStatus)

/-- `UpdateStatus` over the set the server holds that ends without error leaves the
    reported status on the server, and goes on with the set carrying it. -/
theorem updateStatus_of_ok (now : Nat) (faults : KubeFaults) {api : ApiServer}
    (hstored : api.stored = some cs) (hok : (updateStatus ord now faults cs clusterStatus api).1.1 = none) :
    (updateStatus ord now faults cs clusterStatus api).1.2 =
        { cs with status := (populateCollectionSetStatus ord now cs clusterStatus).1 } ∧
      (updateStatus ord now faults cs clusterStatus api).2.stored =
        some { cs with status := (populateCollectionSetStatus ord now cs clusterStatus).1 } := by
  simp only [updateStatus] at hok ⊢
  generalize populateCollectionSetStatus ord now cs clusterStatus = r at hok ⊢
  cases hp : faults.statusPatch <;> cases hg : faults.statusRefetch <;>
    by_cases hs : cs.status = r.1 <;> cases hk : r.1.keyError <;>
    simp_all [patchChangedStatus, ApiServer.statusPatch, ApiServer.get, mergeStatus_self] <;>
    rw [← hs]

/-- `UpdateStatus` over the set the server holds, and admitted, fails when blue/green
    is off and the spec has two instances or more: the report names every instance
    `""`, the patch's merge takes the report's collections whole, since they differ
    from the admitted ones, and the key check refuses them. The server keeps the set
    as it was. -/
theorem updateStatus_refused (now : Nat) (faults : KubeFaults) {api : ApiServer}
    (hstored : api.stored = some cs) (hvalid : api.Valid) (hbg : cs.spec.blueGreen = false)
    (hmany : 2 ≤ cs.spec.instances.keys.length) :
    (updateStatus ord now faults cs clusterStatus api).1.1 ≠ none ∧
      (updateStatus ord now faults cs clusterStatus api).2.stored = api.stored := by
  have hk : (populateCollectionSetStatus ord now cs clusterStatus).1.keyError ≠ none := by
    rw [Ne, populateCollectionSetStatus_keyError, hbg, Bool.false_eq_true, false_or, not_le]
    exact hmany
  have hne : cs.status ≠ (populateCollectionSetStatus ord now cs clusterStatus).1 :=
    fun h => hk (h ▸ hvalid cs hstored)
  have hr := ApiServer.statusPatch_refused faults.statusPatch cs
    { cs with status := (populateCollectionSetStatus ord now cs clusterStatus).1 }
    (show (recordEvents ord cs (populateCollectionSetStatus ord now cs clusterStatus).2 api).stored = some cs by
      rw [stored_recordEvents, hstored])
    (by rwa [mergeStatus_self])
  rw [stored_recordEvents] at hr
  simp only [updateStatus, patchChangedStatus, if_pos hne]
  revert hr
  cases ApiServer.statusPatch faults.statusPatch cs _ _ with
  | mk e api' => cases e <;> simp

/-- `UpdateStatus` over a set already carrying the status the reporter gives writes
    nothing and leaves the stored set. -/
theorem updateStatus_of_reported (now : Nat) (faults : KubeFaults) (api : ApiServer)
    (h : (populateCollectionSetStatus ord now cs clusterStatus).1 = cs.status) :
    (updateStatus ord now faults cs clusterStatus api).2.writes = api.writes ∧
      (updateStatus ord now faults cs clusterStatus api).2.stored = api.stored := by
  simp only [updateStatus, patchChangedStatus, h, ne_eq, not_true_eq_false, if_false]
  split <;> simp

/-- A status once reported stays: after `UpdateStatus` ends without error over the
    set the server holds, whose conditions are all of the `Stable` type, a second
    `UpdateStatus` over the same spec and cluster, at the same map orders, at any
    clock and whatever its calls' failures, writes nothing and leaves the stored set
    as the first left it. -/
theorem updateStatus_settles {now : Nat} (hnow : now ≠ 0) (now' : Nat) (faults faults' : KubeFaults)
    {api : ApiServer} (hstored : api.stored = some cs)
    (hconds : ∀ c ∈ cs.status.conditions, c.type = typeSolrCollectionSetStable)
    (hok : (updateStatus ord now faults cs clusterStatus api).1.1 = none) :
    (updateStatus ord now' faults' (updateStatus ord now faults cs clusterStatus api).1.2 clusterStatus
        (updateStatus ord now faults cs clusterStatus api).2).2.writes =
      (updateStatus ord now faults cs clusterStatus api).2.writes ∧
    (updateStatus ord now' faults' (updateStatus ord now faults cs clusterStatus api).1.2 clusterStatus
        (updateStatus ord now faults cs clusterStatus api).2).2.stored =
      (updateStatus ord now faults cs clusterStatus api).2.stored := by
  rw [(updateStatus_of_ok ord cs clusterStatus now faults hstored hok).1]
  exact updateStatus_of_reported ord _ clusterStatus now' faults' _
    (populateCollectionSetStatus_settled ord clusterStatus hnow now' cs hconds)

end

/-- A fresh set with one collection, reported at clock 1 over an empty cluster, then
    again at clock 2. -/
theorem updateStatus_settles_fresh :
    let cs : SolrCollectionSet := ⟨"set", "ns", ⟨"http://solr", "secret", some true, some 1,
      some true, some false, [⟨"x", "x", "x"⟩]⟩, .empty⟩
    let api : ApiServer := ⟨some cs, [], []⟩
    let first := updateStatus (MapOrder.stored Site) 1 KubeFaults.none cs ⟨∅, ∅⟩ api
    ((1 : Nat) ≠ 0 ∧ api.stored = some cs ∧
      (∀ c ∈ cs.status.conditions, c.type = typeSolrCollectionSetStable) ∧ first.1.1 = none) ∧
    (updateStatus (MapOrder.stored Site) 2 KubeFaults.none first.1.2 ⟨∅, ∅⟩ first.2).2.writes =
        first.2.writes ∧
      (updateStatus (MapOrder.stored Site) 2 KubeFaults.none first.1.2 ⟨∅, ∅⟩ first.2).2.stored =
        first.2.stored := by
  dsimp only
  have hconds : ∀ c ∈ SolrCollectionSetStatus.empty.conditions, c.type = typeSolrCollectionSetStable :=
    fun c hc => absurd hc (List.not_mem_nil c)
  exact ⟨⟨by decide, rfl, hconds, by decide⟩, updateStatus_settles (MapOrder.stored Site) _ ⟨∅, ∅⟩
    (by decide) 2 KubeFaults.none KubeFaults.none rfl hconds (by decide)⟩

end SolrOperator
