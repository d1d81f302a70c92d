/-
  SolrOperator.Engine.Collections

  `ManageCollections` and `AdjustReplicas` against the engine. On a cluster that
  keeps `Inv` and holds the config set of every desired instance, every call
  `ManageCollections` plans succeeds, and it leaves each collection as
  `settledCollection` says: every desired instance present with the spec's
  replication factor, and no collection the cleanup removes. `AdjustReplicas`
  then brings every replica count to the factor. Each stage either calls nothing
  or lowers the measure. Last, the alias the creation loop leaves for an entry.
-/
import SolrOperator.Engine.Measure

namespace SolrOperator

namespace Engine

/-! ## Runs of one kind of call -/

/-- Aliases assigned to a collection the cluster holds: only the aliases change,
    and only to point at it. -/
theorem run_assignAliases {name : String} : ∀ {rs : List Rpc} {E : Engine},
    (∀ r ∈ rs, ∃ a, r = .assignAlias a name) → name ∈ E.collections →
    (E.run rs).collections = E.collections ∧ (E.run rs).configSets = E.configSets ∧
      (E.run rs).records = E.records ∧
      ∀ a n, (E.run rs).aliases.lookup a = some n → E.aliases.lookup a = some n ∨ n = name
  | [], _, _, _ => ⟨rfl, rfl, rfl, fun _ _ h => .inl h⟩
  | r :: rs, E, hrs, hname => by
    obtain ⟨a, rfl⟩ := hrs r (List.mem_cons_self _ _)
    rw [run_cons, answer_assignAlias a hname]
    obtain ⟨h1, h2, h3, h4⟩ := run_assignAliases (fun r hr => hrs r (List.mem_cons_of_mem _ hr)) hname
      (E := { E with aliases := E.aliases.insert a name })
    refine ⟨h1, h2, h3, fun a' n h => ?_⟩
    rcases h4 a' n h with h | h
    · by_cases ha : a' = a
      · subst ha
        rw [AList.lookup_insert] at h
        exact .inr (Option.some.inj h).symm
      · rw [AList.lookup_insert_ne ha] at h
        exact .inl h
    · exact .inr h

/-- The calls `ManageCollections` makes for one missing instance: create it, then
    assign aliases to it. -/
def CreateCalls (rf : Int32) (f : String × SolrCollection → List Rpc) : Prop :=
  ∀ kv, ∃ rest, f kv = .createCollection kv.1 kv.2.configsetName rf :: rest ∧
    ∀ r ∈ rest, ∃ a, r = .assignAlias a kv.1

/-- Creating absent collections on config sets the cluster holds: each is there
    with `rf` replicas, and nothing else changes but aliases. -/
theorem run_creates {rf : Int32} {f : String × SolrCollection → List Rpc} (hf : CreateCalls rf f) :
    ∀ {L : List (String × SolrCollection)} {E : Engine}, (L.map Prod.fst).Nodup →
      (∀ kv ∈ L, kv.1 ∉ E.collections ∧ kv.2.configsetName ∈ E.configSets) →
      (E.run (L.flatMap f)).configSets = E.configSets ∧
      (∀ kv ∈ L, (E.run (L.flatMap f)).collections.lookup kv.1 =
        some ⟨kv.1, rf, rf, kv.2.configsetName⟩) ∧
      (∀ k, k ∉ L.map Prod.fst → (E.run (L.flatMap f)).collections.lookup k = E.collections.lookup k ∧
        (E.run (L.flatMap f)).records.lookup k = E.records.lookup k) ∧
      ∀ a n, (E.run (L.flatMap f)).aliases.lookup a = some n →
        E.aliases.lookup a = some n ∨ n ∈ L.map Prod.fst
  | [], _, _, _ => ⟨rfl, by simp, fun _ _ => ⟨rfl, rfl⟩, fun _ _ h => .inl h⟩
  | kv :: L, E, hnd, hL => by
    rw [List.map_cons, List.nodup_cons] at hnd
    obtain ⟨rest, hkv, hrest⟩ := hf kv
    obtain ⟨habs, hcfg⟩ := hL kv (List.mem_cons_self _ _)
    rw [List.flatMap_cons, hkv, List.cons_append, run_cons, answer_createCollection rf habs hcfg,
      run_append]
    obtain ⟨a1, a2, a3, a4⟩ := run_assignAliases hrest (E := E.create kv.1 kv.2.configsetName rf)
      (by simp [AList.mem_insert])
    have hne : ∀ k ∈ L.map Prod.fst, k ≠ kv.1 := fun k hk h => hnd.1 (h ▸ hk)
    obtain ⟨i1, i2, i3, i4⟩ := run_creates hf hnd.2 (E := (E.create kv.1 kv.2.configsetName rf).run rest)
      fun kv' h' => by
        rw [a1, a2, create_collections, create_configSets, AList.mem_insert, not_or]
        exact ⟨⟨hne _ (List.mem_map_of_mem _ h'), (hL kv' (List.mem_cons_of_mem _ h')).1⟩,
          (hL kv' (List.mem_cons_of_mem _ h')).2⟩
    refine ⟨by rw [i1, a2, create_configSets], fun kv' h' => ?_, fun k hk => ?_, fun a n h => ?_⟩
    · rcases List.mem_cons.mp h' with rfl | h'
      · rw [(i3 kv'.1 hnd.1).1, a1, create_collections, AList.lookup_insert]
      · exact i2 kv' h'
    · rw [List.map_cons, List.mem_cons, not_or] at hk
      rw [(i3 k hk.2).1, (i3 k hk.2).2, a1, a3, create_collections, AList.lookup_insert_ne hk.1]
      exact ⟨rfl, AList.lookup_insert_ne hk.1⟩
    · rw [List.map_cons, List.mem_cons]
      rcases i4 a n h with h | h
      · rcases a4 a n h with h | h
        · exact .inl h
        · exact .inr (.inl h)
      · exact .inr (.inr h)

/-- Deleting collections the cluster holds and no alias pins: each is gone, and
    nothing else changes. -/
theorem run_deleteCollections : ∀ {D : List String} {E : Engine}, D.Nodup →
    (∀ k ∈ D, k ∈ E.collections ∧ E.pinned k = false) →
    (E.run (D.map .deleteCollection)).configSets = E.configSets ∧
      (E.run (D.map .deleteCollection)).aliases = E.aliases ∧
      ∀ k, (E.run (D.map .deleteCollection)).collections.lookup k =
          (if k ∈ D then none else E.collections.lookup k) ∧
        (k ∉ D → (E.run (D.map .deleteCollection)).records.lookup k = E.records.lookup k)
  | [], _, _, _ => ⟨rfl, rfl, fun _ => by simp⟩
  | k0 :: D, E, hnd, hD => by
    rw [List.nodup_cons] at hnd
    obtain ⟨hmem, hpin⟩ := hD k0 (List.mem_cons_self _ _)
    rw [List.map_cons, run_cons, answer_deleteCollection hmem hpin]
    obtain ⟨d1, d2, d3⟩ := run_deleteCollections hnd.2
      (E := { E with collections := E.collections.erase k0, records := E.records.erase k0 })
      fun k hk => ⟨AList.mem_erase.mpr ⟨fun h => hnd.1 (h ▸ hk), (hD k (List.mem_cons_of_mem _ hk)).1⟩,
        (hD k (List.mem_cons_of_mem _ hk)).2⟩
    refine ⟨d1, d2, fun k => ⟨?_, fun hk => ?_⟩⟩
    · rw [(d3 k).1]
      by_cases hk : k ∈ D
      · simp [hk]
      · by_cases h0 : k = k0
        · subst h0
          simp [hk, AList.lookup_erase]
        · simp [hk, h0, AList.lookup_erase_ne h0]
    · rw [List.mem_cons, not_or] at hk
      rw [(d3 k).2 hk.2]
      exact AList.lookup_erase_ne hk.1

/-- Setting the replication factor of collections the cluster holds. -/
theorem run_setReplicationFactors (rf : Int32) : ∀ {R : List String} {E : Engine},
    (∀ k ∈ R, k ∈ E.collections) →
    (E.run (R.map (.setReplicationFactor · rf))).configSets = E.configSets ∧
      (E.run (R.map (.setReplicationFactor · rf))).records = E.records ∧
      ∀ k, (E.run (R.map (.setReplicationFactor · rf))).collections.lookup k =
        if k ∈ R then (E.collections.lookup k).map ({ · with replicationFactor := rf })
        else E.collections.lookup k
  | [], _, _ => ⟨rfl, rfl, fun _ => by simp⟩
  | k0 :: R, E, hR => by
    obtain ⟨col, hcol⟩ := GoMap.mem_iff_lookup.mp (hR k0 (List.mem_cons_self _ _))
    rw [List.map_cons, run_cons, answer_setReplicationFactor rf hcol]
    obtain ⟨s1, s2, s3⟩ := run_setReplicationFactors rf
      (E := E.setCollection k0 { col with replicationFactor := rf }) fun k hk => by
      rw [setCollection_collections, AList.mem_insert]
      exact .inr (hR k (List.mem_cons_of_mem _ hk))
    refine ⟨s1, s2, fun k => ?_⟩
    rw [s3, setCollection_collections]
    by_cases h0 : k = k0
    · subst h0
      simp [AList.lookup_insert, hcol]
    · simp [AList.lookup_insert_ne h0, h0]

end Engine

/-! ## `ManageCollections` -/

/-- Each collection as `ManageCollections` leaves it when every call it plans
    succeeds: a desired instance with the spec's replication factor, created if
    missing; a collection the cleanup removes gone; any other as it was. -/
def settledCollection (spec : SolrCollectionSetSpec) (k : String) (current : Option Collection) :
    Option Collection :=
  match spec.instances.lookup k, current with
  | some _, some col => some { col with replicationFactor := spec.rf }
  | some e, none => some ⟨k, spec.rf, spec.rf, e.configsetName⟩
  | none, col => if spec.cleanup = true ∧ hasPrefix k "_" = false then none else col

section
variable {spec : SolrCollectionSetSpec} {k : String}

theorem settledCollection_present {e : SolrCollection} {col : Collection}
    (hi : spec.instances.lookup k = some e) :
    settledCollection spec k (some col) = some { col with replicationFactor := spec.rf } := by
  simp [settledCollection, hi]

theorem settledCollection_absent {e : SolrCollection} (hi : spec.instances.lookup k = some e) :
    settledCollection spec k none = some ⟨k, spec.rf, spec.rf, e.configsetName⟩ := by
  simp [settledCollection, hi]

theorem settledCollection_other {current : Option Collection} (hi : spec.instances.lookup k = none) :
    settledCollection spec k current =
      if spec.cleanup = true ∧ hasPrefix k "_" = false then none else current := by
  simp [settledCollection, hi]

end

section
variable {t : Target} (ord : MapOrder Site) (cl : SolrClient) {cs : SolrCollectionSet}

/-- A cluster keeping `Inv` pins no collection the cleanup removes, so
    `ManageCollections` plans no alias deletion. -/
theorem deleteAliasesMap_empty (hspec : cs.spec = t.spec) {E : Engine} (hinv : Inv t E) (k : String) :
    k ∉ (planCollections ord cs E.collections E.aliases).deleteAliasesMap := by
  intro hk
  obtain ⟨a, ha⟩ := GoMap.mem_iff_lookup.mp hk
  obtain ⟨⟨hc, hmem, hn, hp⟩, hal⟩ := lookup_deleteAliasesMap ord cs _ _ ha
  rw [hspec] at hc hn
  exact hn (hinv.aliases hc a k hal hmem hp)

theorem createCalls_spec (cs : SolrCollectionSet) (aliases : GoMap String) :
    Engine.CreateCalls cs.spec.rf (createCalls cs aliases) := by
  intro kv
  refine ⟨_, rfl, fun r hr => ?_⟩
  split at hr
  · exact ⟨_, List.mem_singleton.mp hr⟩
  · cases hr

/-- On a cluster keeping `Inv` that holds the config set of every desired instance,
    `ManageCollections` leaves each collection as `settledCollection` says, the
    config sets as they were, and the records of every prefixed collection. -/
theorem manageCollections_state (hspec : cs.spec = t.spec) {c : Conn Engine} (hinv : Inv t c.state)
    (hcfg : ∀ k e, t.spec.instances.lookup k = some e → e.configsetName ∈ c.state.configSets) :
    (manageCollections ord Engine.solr cl cs c.state.collections c.state.aliases c).2.state.configSets =
        c.state.configSets ∧
      (∀ k, (manageCollections ord Engine.solr cl cs c.state.collections c.state.aliases
        c).2.state.collections.lookup k = settledCollection t.spec k (c.state.collections.lookup k)) ∧
      ∀ k ∈ c.state.collections, hasPrefix k "_" = true →
        (manageCollections ord Engine.solr cl cs c.state.collections c.state.aliases
          c).2.state.records.lookup k = c.state.records.lookup k := by
  set E := c.state
  set p := planCollections ord cs E.collections E.aliases
  -- the four runs of calls
  set L := p.createCollectionsMap.range ord .createCalls
  set D := (p.deleteCollectionsMap.range ord .deleteCollectionCalls).map Prod.fst
  set R := (p.adjustReplicationFactorMap.range ord .replicationFactorCalls).map Prod.fst
  have hL : ∀ {k e}, (k, e) ∈ L ↔ k ∉ E.collections ∧ t.spec.instances.lookup k = some e := by
    intro k e
    rw [GoMap.mem_range, lookup_createCollectionsMap, hspec]
    by_cases h : k ∈ E.collections <;> simp [h]
  have hLk : ∀ {k}, k ∈ L.map Prod.fst ↔ k ∉ E.collections ∧ k ∈ t.spec.instances := by
    intro k
    rw [GoMap.mem_iff_lookup (m := t.spec.instances), List.mem_map]
    constructor
    · rintro ⟨⟨k', e⟩, h, rfl⟩
      exact ⟨(hL.mp h).1, e, (hL.mp h).2⟩
    · rintro ⟨h1, e, h2⟩
      exact ⟨(k, e), hL.mpr ⟨h1, h2⟩, rfl⟩
  have hD : ∀ {k}, k ∈ D ↔ CleanupTarget cs E.collections k := by
    intro k
    rw [GoMap.mem_range_fst, mem_deleteCollectionsMap]
  have hR : ∀ {k}, k ∈ R ↔ ∃ col, E.collections.lookup k = some col ∧ k ∈ t.spec.instances ∧
      col.replicationFactor ≠ t.spec.rf := by
    intro k
    rw [GoMap.mem_range_fst, GoMap.mem_iff_lookup]
    exact exists_congr fun col => by rw [lookup_adjustReplicationFactorMap, hspec]
  have hcalls : p.calls ord cs E.aliases = L.flatMap (createCalls cs E.aliases) ++ D.map .deleteCollection ++
      R.map (.setReplicationFactor · cs.spec.rf) := by
    have hA : p.deleteAliasesMap.range ord .deleteAliasCalls = [] :=
      GoMap.range_eq_nil.mpr (deleteAliasesMap_empty ord hspec hinv)
    simp only [CollectionPlan.calls, hA, List.map_nil, List.append_nil, List.map_map, D, R]
    rfl
  -- creating
  obtain ⟨c1, c2, c3, c4⟩ := Engine.run_creates (createCalls_spec cs E.aliases) (GoMap.range_nodup _ ord _) (L := L)
    (E := E) fun kv hkv => ⟨(hL.mp hkv).1, hcfg kv.1 kv.2 (hL.mp hkv).2⟩
  set E1 := E.run (L.flatMap (createCalls cs E.aliases))
  -- deleting
  have hD1 : ∀ k ∈ D, k ∈ E1.collections ∧ E1.pinned k = false := by
    intro k hk
    obtain ⟨hc, hmem, hn, hp⟩ := hD.mp hk
    have hkL : k ∉ L.map Prod.fst := fun h => (hLk.mp h).1 hmem
    refine ⟨GoMap.mem_iff_lookup.mpr ?_, Bool.eq_false_iff.mpr fun hpin => ?_⟩
    · rw [(c3 k hkL).1]
      exact GoMap.mem_iff_lookup.mp hmem
    · obtain ⟨a, ha⟩ := (E1.pinned_iff).mp hpin
      rcases c4 a k ha with ha | hkL'
      · rw [hspec] at hc hn
        exact hn (hinv.aliases hc a k ha hmem hp)
      · exact hkL hkL'
  obtain ⟨d1, -, d3⟩ := Engine.run_deleteCollections (GoMap.range_nodup _ ord _) hD1
  set E3 := E1.run (D.map .deleteCollection)
  -- setting replication factors
  have hR3 : ∀ k ∈ R, k ∈ E3.collections := by
    intro k hk
    obtain ⟨col, hcol, hi, -⟩ := hR.mp hk
    have hkD : k ∉ D := fun h => (hD.mp h).2.2.1 (hspec ▸ hi)
    have hkL : k ∉ L.map Prod.fst := fun h => (hLk.mp h).1 (GoMap.mem_iff_lookup.mpr ⟨col, hcol⟩)
    rw [GoMap.mem_iff_lookup, (d3 k).1, if_neg hkD, (c3 k hkL).1]
    exact ⟨col, hcol⟩
  obtain ⟨s1, s2, s3⟩ := Engine.run_setReplicationFactors cs.spec.rf hR3
  have hstate : (manageCollections ord Engine.solr cl cs E.collections E.aliases c).2.state =
      E3.run (R.map (.setReplicationFactor · cs.spec.rf)) := by
    rw [manageCollections, Engine.solr_issue_state, hcalls, Engine.run_append, Engine.run_append]
  rw [hstate]
  refine ⟨s1.trans (d1.trans c1), fun k => ?_, fun k hk hp => ?_⟩
  · rw [s3, (d3 k).1]
    have hinst : k ∈ t.spec.instances ↔ (t.spec.instances.lookup k).isSome := AList.lookup_isSome.symm
    rcases hi : t.spec.instances.lookup k with _ | e <;> rcases hc : E.collections.lookup k with _ | col <;>
      simp only [hi, Option.isSome_none, Option.isSome_some, Bool.false_eq_true, iff_false,
        iff_true] at hinst
    · have hkR : k ∉ R := fun h => by obtain ⟨_, h, -⟩ := hR.mp h; simp [hc] at h
      have hkL : k ∉ L.map Prod.fst := fun h => hinst (hLk.mp h).2
      simp [settledCollection_other hi, hkR, (c3 k hkL).1, hc]
    · have hkR : k ∉ R := fun h => hinst (hR.mp h).choose_spec.2.1
      have hkL : k ∉ L.map Prod.fst := fun h => hinst (hLk.mp h).2
      have hmem : k ∈ E.collections := GoMap.mem_iff_lookup.mpr ⟨col, hc⟩
      have hkD : k ∈ D ↔ t.spec.cleanup = true ∧ hasPrefix k "_" = false := by
        rw [hD, CleanupTarget, hspec]
        simp only [hmem, hinst, not_false_eq_true, true_and]
      simp only [settledCollection_other hi, hkR, if_false, (c3 k hkL).1, hc]
      by_cases hcl : t.spec.cleanup = true ∧ hasPrefix k "_" = false
      · rw [if_pos (hkD.mpr hcl), if_pos hcl]
      · rw [if_neg (mt hkD.mp hcl), if_neg hcl]
    · have hkR : k ∉ R := fun h => by obtain ⟨_, h, -⟩ := hR.mp h; simp [hc] at h
      have hkD : k ∉ D := fun h => (hD.mp h).2.2.1 (hspec ▸ hinst)
      have hmem : k ∉ E.collections := fun h => by
        obtain ⟨_, h⟩ := GoMap.mem_iff_lookup.mp h
        simp [hc] at h
      rw [settledCollection_absent hi, if_neg hkR, if_neg hkD, c2 (k, e) (hL.mpr ⟨hmem, hi⟩), hspec]
    · have hkD : k ∉ D := fun h => (hD.mp h).2.2.1 (hspec ▸ hinst)
      have hkL : k ∉ L.map Prod.fst := fun h => (hLk.mp h).1 (GoMap.mem_iff_lookup.mpr ⟨col, hc⟩)
      rw [settledCollection_present hi, if_neg hkD, (c3 k hkL).1, hc]
      by_cases hrf : col.replicationFactor = t.spec.rf
      · have hkR : k ∉ R := fun h => by
          obtain ⟨_, h, -, hne⟩ := hR.mp h
          rw [hc] at h
          cases h
          exact hne hrf
        rw [if_neg hkR, ← hrf]
      · rw [if_pos (hR.mpr ⟨col, hc, hinst, hrf⟩), hspec]
        rfl
  · have hkL : k ∉ L.map Prod.fst := fun h => (hLk.mp h).1 hk
    have hkD : k ∉ D := fun h => by
      rw [(hD.mp h).2.2.2] at hp
      cases hp
    rw [s2, (d3 k).2 hkD, (c3 k hkL).2]

/-- After `ManageCollections` no desired instance is missing or has the wrong
    replication factor, and no collection is one the cleanup removes. -/
theorem settled_problems {E' : Engine} {current : String → Option Collection}
    (h : ∀ k, E'.collections.lookup k = settledCollection t.spec k (current k)) (k : String) :
    ¬(Problem.missingInstance k).Holds t E' ∧ ¬(Problem.strayCollection k).Holds t E' ∧
      ¬(Problem.factorMismatch k).Holds t E' := by
  refine ⟨fun ⟨hi, hn⟩ => hn ?_, fun ⟨hc, hm, hp, hn⟩ => ?_, fun ⟨hi, col, hcol, hrf⟩ => hrf ?_⟩
  · obtain ⟨e, he⟩ := GoMap.mem_iff_lookup.mp hi
    rw [GoMap.mem_iff_lookup, h]
    cases current k
    · exact ⟨_, settledCollection_absent he⟩
    · exact ⟨_, settledCollection_present he⟩
  · obtain ⟨v, hv⟩ := GoMap.mem_iff_lookup.mp hm
    rw [h, settledCollection_other (AList.lookup_eq_none.mpr hn), if_pos ⟨hc, hp⟩] at hv
    cases hv
  · obtain ⟨e, he⟩ := GoMap.mem_iff_lookup.mp hi
    rw [Option.mem_def, h] at hcol
    cases hk : current k <;> rw [hk] at hcol
    · rw [settledCollection_absent he, Option.some.injEq] at hcol
      rw [← hcol]
    · rw [settledCollection_present he, Option.some.injEq] at hcol
      rw [← hcol]

/-- `ManageCollections` on a cluster keeping `Inv` and holding the config set of
    every configmap: it calls nothing, or lowers the measure; `Inv` holds after it.
    It lowers the measure when it plans a call, and so when a desired instance is
    missing or has the wrong factor, or a collection is one the cleanup removes. -/
theorem manageCollections_progress (hspec : cs.spec = t.spec) {c : Conn Engine} (hinv : Inv t c.state)
    (hsound : ∀ k e, t.spec.instances.lookup k = some e → e.configsetName ∈ t.configMaps)
    (hloaded : ∀ x ∈ t.configMaps, x ∈ c.state.configSets) (hchk : t.checksumsName ∈ c.state.collections) :
    Progress t c (manageCollections ord Engine.solr cl cs c.state.collections c.state.aliases c).2 ∧
      t.NoWorse c.state
        (manageCollections ord Engine.solr cl cs c.state.collections c.state.aliases c).2.state ∧
      ((planCollections ord cs c.state.collections c.state.aliases).changed = true →
        t.measure (manageCollections ord Engine.solr cl cs c.state.collections c.state.aliases
          c).2.state < t.measure c.state) ∧
      ∀ k, (Problem.missingInstance k).Holds t c.state ∨ (Problem.strayCollection k).Holds t c.state ∨
          (Problem.factorMismatch k).Holds t c.state →
        t.measure (manageCollections ord Engine.solr cl cs c.state.collections c.state.aliases
          c).2.state < t.measure c.state := by
  set E := c.state
  obtain ⟨m1, m2, m3⟩ := manageCollections_state ord cl hspec hinv
    fun k e he => hloaded _ (hsound k e he)
  set E' := (manageCollections ord Engine.solr cl cs E.collections E.aliases c).2.state
  have hsettled := settled_problems (t := t) m2
  -- the checksum collection keeps its records, so nothing is left to upload anew
  have hchk' : t.checksumsName ∈ E'.collections := by
    rw [GoMap.mem_iff_lookup, m2]
    obtain ⟨col, hcol⟩ := GoMap.mem_iff_lookup.mp hchk
    rcases hi : t.spec.instances.lookup t.checksumsName with _ | e
    · rw [settledCollection_other hi, hcol, if_neg (by simp [t.checksumsName_prefixed])]
      exact ⟨col, rfl⟩
    · exact ⟨_, by rw [hcol, settledCollection_present hi]⟩
  have hrec : E'.recordsOf t.checksumsName = E.recordsOf t.checksumsName :=
    Engine.recordsOf_congr (iff_of_true hchk' hchk) (m3 _ hchk t.checksumsName_prefixed)
  have hpend := t.pending_congr E (fun x _ => by rw [m1]) hrec
  have hle : ∀ p : Problem, p.Holds t E' → p.Holds t E := by
    intro p hp
    cases p with
    | checksumsMissing => exact absurd hchk' hp
    | pendingUpload name => rwa [Problem.Holds, hpend] at hp
    | strayConfigSet name => simpa only [Problem.Holds, m1] using hp
    | missingInstance name => exact absurd hp (hsettled name).1
    | strayCollection name => exact absurd hp (hsettled name).2.1
    | factorMismatch name => exact absurd hp (hsettled name).2.2
    | replicaMismatch name =>
      obtain ⟨hi, col, hcol, hrc⟩ := hp
      obtain ⟨e, he⟩ := GoMap.mem_iff_lookup.mp hi
      rw [Option.mem_def, m2] at hcol
      refine ⟨hi, ?_⟩
      rcases hk : E.collections.lookup name with _ | col0 <;> rw [hk] at hcol
      · rw [settledCollection_absent he, Option.some.injEq] at hcol
        exact absurd (by rw [← hcol]) hrc
      · rw [settledCollection_present he, Option.some.injEq] at hcol
        exact ⟨col0, rfl, by rw [← hcol] at hrc; exact hrc⟩
  have hinv' : Inv t E' := by
    refine ⟨fun hc a n _ hn hp => ?_, fun hc k col hcol hp => ?_, ?_⟩
    · by_contra hni
      exact (hsettled n).2.1 ⟨hc, hn, hp, hni⟩
    · rw [m2] at hcol
      rcases hi : t.spec.instances.lookup k with _ | e <;> rcases hk : E.collections.lookup k with _ | col0
      · rw [hk, settledCollection_other hi] at hcol
        simp at hcol
      · rw [hk, settledCollection_other hi] at hcol
        split at hcol
        · cases hcol
        · cases hcol
          exact hinv.configSets hc k _ hk hp
      · rw [hk, settledCollection_absent hi, Option.some.injEq] at hcol
        rw [← hcol]
        exact hsound k e hi
      · rw [hk, settledCollection_present hi, Option.some.injEq] at hcol
        rw [← hcol] at hp ⊢
        exact hinv.configSets hc k col0 hk hp
    · exact hinv.room_congr (fun x _ => by rw [m1]) hrec
  have hkinds : ∀ k, (Problem.missingInstance k).Holds t E ∨ (Problem.strayCollection k).Holds t E ∨
      (Problem.factorMismatch k).Holds t E → t.measure E' < t.measure E := by
    rintro k (h | h | h)
    · exact Target.measure_lt hle _ h (hsettled k).1
    · exact Target.measure_lt hle _ h (hsettled k).2.1
    · exact Target.measure_lt hle _ h (hsettled k).2.2
  -- a planned call answers one of those problems
  have hchanged : (planCollections ord cs E.collections E.aliases).changed = true →
      t.measure E' < t.measure E := by
    intro hch
    have hne := mt (changed_eq_false_iff ord cs E.collections E.aliases).mpr (by simp [hch])
    simp only [not_and_or, not_forall, exists_prop] at hne
    rw [hspec] at hne
    rcases hne with ⟨k, hk, hn⟩ | ⟨k, hk⟩ | ⟨k, col, hcol, hk, hrf⟩
    · exact hkinds k (.inl ⟨hk, hn⟩)
    · obtain ⟨hc, hm, hn, hp⟩ := not_not.mp hk
      rw [hspec] at hc hn
      exact hkinds k (.inr (.inl ⟨hc, hm, hp, hn⟩))
    · exact hkinds k (.inr (.inr ⟨hk, col, hcol, hrf⟩))
  refine ⟨?_, hle, hchanged, hkinds⟩
  cases hch : (planCollections ord cs E.collections E.aliases).changed
  · rw [manageCollections_unchanged ord cs E.collections E.aliases Engine.solr cl c hch]
    exact .refl hinv
  · exact .of_lt hinv' (hchanged hch)

/-! ## `AdjustReplicas` -/

/-- The call `AdjustReplicas` makes for a collection the cluster holds brings its
    replica count to the target: in `int32` arithmetic `rc + (rf - rc) = rf`, and
    `rc - abs (rf - rc) = rf` when `rf - rc` is negative. -/
theorem answer_adjustCall {E : Engine} {k : String} {col : Collection} (rf : Int32)
    (h : E.collections.lookup k = some col) (hne : rf - col.replicaCount ≠ 0) :
    (E.answer (adjustCall k ⟨col.replicaCount, rf⟩)).2 =
      E.setCollection k { col with replicaCount := rf } := by
  by_cases hpos : BitVec.slt 0 (rf - col.replicaCount)
  · rw [show adjustCall k ⟨col.replicaCount, rf⟩ = _ from if_pos hpos, Engine.answer_addReplicas _ h]
    simp
  · rw [show adjustCall k ⟨col.replicaCount, rf⟩ = _ from if_neg hpos, Engine.answer_removeReplicas _ h,
      abs_of_not_pos hpos hne]
    simp

/-- The adjustment loop on adjustments, one per collection, each for a collection
    the cluster holds with the count it has there: every call succeeds, and each
    of those collections ends with the target count. -/
theorem adjustLoop_engine (rf : Int32) : ∀ (A : List (String × ReplicationAdjustment)) (c : Conn Engine),
    (A.map Prod.fst).Nodup →
    (∀ kv ∈ A, ∃ col, c.state.collections.lookup kv.1 = some col ∧
      kv.2 = ⟨col.replicaCount, rf⟩ ∧ rf - col.replicaCount ≠ 0) →
    (adjustLoop Engine.solr cl A c).2.state.configSets = c.state.configSets ∧
      (adjustLoop Engine.solr cl A c).2.state.aliases = c.state.aliases ∧
      (adjustLoop Engine.solr cl A c).2.state.records = c.state.records ∧
      ∀ k, (adjustLoop Engine.solr cl A c).2.state.collections.lookup k =
        if k ∈ A.map Prod.fst then (c.state.collections.lookup k).map ({ · with replicaCount := rf })
        else c.state.collections.lookup k
  | [], c, _, _ => ⟨rfl, rfl, rfl, fun _ => by simp [adjustLoop]⟩
  | (k0, adj) :: A, c, hnd, hA => by
    rw [List.map_cons, List.nodup_cons] at hnd
    obtain ⟨col0, hcol, rfl, hne⟩ := hA (k0, adj) (List.mem_cons_self _ _)
    rw [adjustLoop_cons_of_ok Engine.solr cl k0 _ A c
      (fun n => by rw [Engine.solr_call_out, Engine.answer_addReplicas n hcol])
      (fun n => by rw [Engine.solr_call_out, Engine.answer_removeReplicas n hcol])]
    have hc1 : (Engine.solr.call cl (adjustCall k0 ⟨col0.replicaCount, rf⟩) c).2.state =
        c.state.setCollection k0 { col0 with replicaCount := rf } := answer_adjustCall rf hcol hne
    generalize (Engine.solr.call cl (adjustCall k0 ⟨col0.replicaCount, rf⟩) c).2 = c1 at hc1 ⊢
    have hk0 : k0 ∉ A.map Prod.fst := hnd.1
    have hne0 : ∀ kv ∈ A, kv.1 ≠ k0 := fun kv hkv h => hk0 (h ▸ List.mem_map_of_mem _ hkv)
    obtain ⟨i1, i2, i3, i4⟩ := adjustLoop_engine rf A c1 hnd.2 fun kv hkv => by
      rw [hc1, Engine.setCollection_collections, AList.lookup_insert_ne (hne0 kv hkv)]
      exact hA kv (List.mem_cons_of_mem _ hkv)
    refine ⟨i1.trans (by rw [hc1]; rfl), i2.trans (by rw [hc1]; rfl), i3.trans (by rw [hc1]; rfl),
      fun k => ?_⟩
    rw [i4, hc1, Engine.setCollection_collections]
    by_cases hk : k = k0
    · subst hk
      simp [hk0, hcol]
    · by_cases h : k ∈ A.map Prod.fst <;> simp [h, hk, AList.lookup_insert_ne hk]

/-- `AdjustReplicas` on the cluster as it read it: it calls nothing, or lowers the
    measure, as it does whenever a desired instance has the wrong replica count;
    `Inv` holds after it. -/
theorem adjustReplicas_progress (hspec : cs.spec = t.spec) {c : Conn Engine} (hinv : Inv t c.state) :
    Progress t c (adjustReplicas ord Engine.solr cl cs c.state.collections c).2 ∧
      t.NoWorse c.state (adjustReplicas ord Engine.solr cl cs c.state.collections c).2.state ∧
      ∀ k, (Problem.replicaMismatch k).Holds t c.state →
        t.measure (adjustReplicas ord Engine.solr cl cs c.state.collections c).2.state <
          t.measure c.state := by
  set E := c.state
  set A := (replicaAdjustments ord cs E.collections).range ord .adjustCalls
  have hA : ∀ {k}, k ∈ A.map Prod.fst ↔ k ∈ t.spec.instances ∧
      ∃ col, E.collections.lookup k = some col ∧ col.replicaCount ≠ t.spec.rf := by
    intro k
    rw [GoMap.mem_range_fst, GoMap.mem_iff_lookup]
    simp only [lookup_replicaAdjustments, hspec, ne_eq, sub_eq_zero]
    constructor
    · rintro ⟨_, hi, col, hcol, hne, -⟩
      exact ⟨hi, col, hcol, fun h => hne h.symm⟩
    · rintro ⟨hi, col, hcol, hne⟩
      exact ⟨_, hi, col, hcol, fun h => hne h.symm, rfl⟩
  obtain ⟨a1, a2, a3, a4⟩ := adjustLoop_engine cl t.spec.rf A c
    (GoMap.range_nodup _ ord _) fun kv hkv => by
      obtain ⟨-, col, hcol, hne, heq⟩ :=
        (lookup_replicaAdjustments ord cs E.collections).mp (GoMap.mem_range.mp hkv)
      rw [hspec] at hne heq
      exact ⟨col, hcol, heq, hne⟩
  show Progress t c (adjustLoop Engine.solr cl A c).2 ∧ t.NoWorse E (adjustLoop Engine.solr cl A c).2.state ∧
    ∀ k, (Problem.replicaMismatch k).Holds t E → t.measure (adjustLoop Engine.solr cl A c).2.state < t.measure E
  set E' := (adjustLoop Engine.solr cl A c).2.state
  have hmem : ∀ k, k ∈ E'.collections ↔ k ∈ E.collections := by
    intro k
    rw [GoMap.mem_iff_lookup, GoMap.mem_iff_lookup, a4]
    split <;> cases E.collections.lookup k <;> simp
  have hrec : E'.recordsOf t.checksumsName = E.recordsOf t.checksumsName :=
    Engine.recordsOf_congr (hmem _) (by rw [a3])
  have hpend := t.pending_congr E (fun x _ => by rw [a1]) hrec
  -- every collection keeps its configuration and factor; the adjusted ones get the count
  have hcol : ∀ {k col}, E'.collections.lookup k = some col →
      ∃ col0, E.collections.lookup k = some col0 ∧ col.configName = col0.configName ∧
        col.replicationFactor = col0.replicationFactor ∧
        (k ∈ A.map Prod.fst → col.replicaCount = t.spec.rf) ∧
        (k ∉ A.map Prod.fst → col = col0) := by
    intro k col h
    rw [a4] at h
    split at h
    · obtain ⟨col0, h0, rfl⟩ := Option.map_eq_some'.mp h
      exact ⟨col0, h0, rfl, rfl, fun _ => rfl, fun h' => absurd ‹_› h'⟩
    · exact ⟨col, h, rfl, rfl, fun h' => absurd h' ‹_›, fun _ => rfl⟩
  have hle : ∀ p : Problem, p.Holds t E' → p.Holds t E := by
    intro p hp
    cases p with
    | checksumsMissing => simpa only [Problem.Holds, hmem] using hp
    | pendingUpload name => rwa [Problem.Holds, hpend] at hp
    | strayConfigSet name => simpa only [Problem.Holds, a1] using hp
    | missingInstance name => simpa only [Problem.Holds, hmem] using hp
    | strayCollection name => simpa only [Problem.Holds, hmem] using hp
    | factorMismatch name =>
      obtain ⟨hi, col, h, hrf⟩ := hp
      obtain ⟨col0, h0, -, hrf0, -⟩ := hcol h
      exact ⟨hi, col0, h0, hrf0 ▸ hrf⟩
    | replicaMismatch name =>
      obtain ⟨hi, col, h, hrc⟩ := hp
      obtain ⟨col0, h0, -, -, hin, hout⟩ := hcol h
      by_cases hk : name ∈ A.map Prod.fst
      · exact absurd (hin hk) hrc
      · exact ⟨hi, col0, h0, hout hk ▸ hrc⟩
  have hinv' : Inv t E' := by
    refine ⟨fun hc a n ha hn hp => hinv.aliases hc a n (a2 ▸ ha) ((hmem n).mp hn) hp,
      fun hc k col h hp => ?_, ?_⟩
    · obtain ⟨col0, h0, hcfg, -⟩ := hcol h
      exact hcfg ▸ hinv.configSets hc k col0 h0 (hcfg ▸ hp)
    · exact hinv.room_congr (fun x _ => by rw [a1]) hrec
  -- each adjustment settles the replica count it is for
  have hlt : ∀ k ∈ A.map Prod.fst, t.measure E' < t.measure E := fun k hk => by
    obtain ⟨hi, col, h, hne⟩ := hA.mp hk
    refine Target.measure_lt hle (.replicaMismatch k) ⟨hi, col, h, hne⟩ ?_
    rintro ⟨-, col', h', hrc'⟩
    obtain ⟨-, -, -, -, hin, -⟩ := hcol h'
    exact hrc' (hin hk)
  refine ⟨?_, hle, fun k ⟨hi, col, h, hne⟩ => hlt k (hA.mpr ⟨hi, col, h, hne⟩)⟩
  by_cases hA0 : A = []
  · rw [hA0]
    exact .refl hinv
  · obtain ⟨kv, hkv⟩ := List.exists_mem_of_ne_nil A hA0
    exact .of_lt hinv' (hlt kv.1 (List.mem_map_of_mem _ hkv))

end

/-! ## The alias the creation loop leaves

With blue/green on, each iteration of the creation loop assigns the entry's alias
unless the snapshot taken before the pass has it; the snapshot does not see the
assignments of earlier iterations.
-/

namespace Engine

/-- One iteration of the creation loop on an instance the cluster lacks: the config
    sets stay, no collection appears but the instance, and the entry's alias is
    assigned to the instance when its create succeeded and the snapshot lacked the
    alias. -/
theorem run_createCalls (cs : SolrCollectionSet) (aliases : GoMap String)
    (kv : String × SolrCollection) {E : Engine} (h : kv.1 ∉ E.collections) :
    (E.run (createCalls cs aliases kv)).configSets = E.configSets ∧
      (∀ k ∈ (E.run (createCalls cs aliases kv)).collections, k ∈ E.collections ∨ k = kv.1) ∧
      (E.run (createCalls cs aliases kv)).aliases =
        if kv.2.configsetName ∈ E.configSets ∧ cs.spec.blueGreen = true ∧ kv.2.alias ∉ aliases then
          E.aliases.insert kv.2.alias kv.1
        else E.aliases := by
  by_cases hc : kv.2.configsetName ∈ E.configSets
  · by_cases ha : cs.spec.blueGreen = true ∧ kv.2.alias ∉ aliases <;>
      simp +contextual [createCalls, answer, h, hc, ha, AList.mem_insert]
  · have hs : (E.answer (.createCollection kv.1 kv.2.configsetName cs.spec.rf)).2 = E := by
      simp [answer, h, hc]
    have ha : ∀ a, (E.answer (.assignAlias a kv.1)).2 = E := fun a => by simp [answer, h]
    simp only [createCalls, run_cons, hs]
    split <;> simp +contextual [ha, hc]

/-- The creation loop over instances the cluster lacks: an alias ends at the last
    instance the loop assigns it to, or stays as it was if the loop assigns it to
    none. -/
theorem run_createCalls_alias (cs : SolrCollectionSet) (aliases : GoMap String) (a : String) :
    ∀ {L : List (String × SolrCollection)} {E : Engine}, (L.map Prod.fst).Nodup →
      (∀ kv ∈ L, kv.1 ∉ E.collections) →
      (E.run (L.flatMap (createCalls cs aliases))).aliases.lookup a =
        ((L.filter fun kv => (kv.2.configsetName ∈ E.configSets ∧ cs.spec.blueGreen = true ∧
          kv.2.alias ∉ aliases) ∧ kv.2.alias = a).map Prod.fst).getLast?.or (E.aliases.lookup a)
  | [], _, _, _ => rfl
  | kv :: L, E, hnd, hL => by
    rw [List.map_cons, List.nodup_cons] at hnd
    obtain ⟨h1, h2, h3⟩ := run_createCalls cs aliases kv (hL kv (List.mem_cons_self _ _))
    have ih := run_createCalls_alias cs aliases a hnd.2 (E := E.run (createCalls cs aliases kv))
      fun kv' hkv' hmem => (h2 _ hmem).elim (hL kv' (List.mem_cons_of_mem _ hkv'))
        fun h => hnd.1 (h ▸ List.mem_map_of_mem _ hkv')
    rw [List.flatMap_cons, run_append, ih, h1, h3, List.filter_cons]
    by_cases hq : kv.2.configsetName ∈ E.configSets ∧ cs.spec.blueGreen = true ∧ kv.2.alias ∉ aliases
    · rw [if_pos hq]
      by_cases ha : kv.2.alias = a
      · rw [if_pos (decide_eq_true ⟨hq, ha⟩), ha, AList.lookup_insert, List.map_cons, List.getLast?_cons]
        cases (List.map Prod.fst _).getLast? <;> rfl
      · rw [if_neg (by simp [ha]), AList.lookup_insert_ne (Ne.symm ha)]
    · rw [if_neg hq, if_neg (by simp [hq])]

end Engine

/-- The alias the creation loop of `ManageCollections` leaves. The loop visits, in the
    order of `createCollectionsMap`, every desired instance the cluster lacks. With
    blue/green on and the alias absent from the snapshot, every instance of an entry
    with that alias calls `AssignAlias`, and the alias ends at the last one the loop
    visits whose config set the cluster holds, or stays absent if there is none;
    otherwise the loop leaves it as it was. -/
theorem alias_follows_last_create (ord : MapOrder Site) (cs : SolrCollectionSet) (E : Engine)
    (a : String) :
    let L := (planCollections ord cs E.collections E.aliases).createCollectionsMap.range ord .createCalls
    (∀ k e, (k, e) ∈ L ↔ k ∉ E.collections ∧ cs.spec.instances.lookup k = some e) ∧
    (E.run (L.flatMap (createCalls cs E.aliases))).aliases.lookup a =
      if cs.spec.blueGreen = true ∧ a ∉ E.aliases then
        ((L.filter fun kv => kv.2.alias = a ∧ kv.2.configsetName ∈ E.configSets).map Prod.fst).getLast?
      else E.aliases.lookup a := by
  intro L
  have hL : ∀ k e, (k, e) ∈ L ↔ k ∉ E.collections ∧ cs.spec.instances.lookup k = some e := by
    intro k e
    rw [GoMap.mem_range, lookup_createCollectionsMap]
    by_cases h : k ∈ E.collections <;> simp [h]
  refine ⟨hL, ?_⟩
  rw [Engine.run_createCalls_alias cs E.aliases a (GoMap.range_nodup _ ord _)
    fun kv hkv => ((hL kv.1 kv.2).1 hkv).1]
  split
  next h =>
    rw [AList.lookup_eq_none.2 h.2, Option.or_none]
    congr 2
    exact List.filter_congr fun kv _ => by
      by_cases ha : kv.2.alias = a <;> simp [ha, h.1, h.2, and_comm]
  next h =>
    rw [List.filter_eq_nil_iff.2 fun kv _ hq => h ?_]
    · rfl
    · simp only [decide_eq_true_eq] at hq
      exact ⟨hq.1.2.1, hq.2 ▸ hq.1.2.2⟩

/-- A blue/green entry whose alias the cluster lacks. `AssignAlias` is checked
    against the snapshot the pass started from, so when both instances are created
    both are assigned the alias, and it ends at the one the loop visits last: two
    orders of the loop over `createCollectionsMap` leave it at `x_green` and at
    `x_blue`. When both instances are there already, the loop makes no call and the
    alias stays absent. -/
theorem alias_target_follows_visit_order :
    let cs : SolrCollectionSet := ⟨"set", "ns", ⟨"http://solr", "secret", some true, some 1,
      some true, some false, [⟨"x", "x", "x"⟩]⟩, .empty⟩
    let bucket (ord : MapOrder Site) (E : Engine) : List Rpc :=
      ((planCollections ord cs E.collections E.aliases).createCollectionsMap.range ord
        .createCalls).flatMap (createCalls cs E.aliases)
    let reversed : MapOrder Site := ⟨fun site keys => if site = .createCalls then keys.reverse else keys,
      fun site keys => by by_cases h : site = .createCalls <;> simp [h, List.reverse_perm]⟩
    let fresh : Engine := ⟨∅, ∅, (∅ : GoMap Bytes).insert "x" [], ∅⟩
    let built : Engine := ⟨((∅ : GoMap Collection).insert "x_blue" ⟨"x_blue", 1, 1, "x"⟩).insert
      "x_green" ⟨"x_green", 1, 1, "x"⟩, ∅, (∅ : GoMap Bytes).insert "x" [], ∅⟩
    bucket (MapOrder.stored Site) fresh = [.createCollection "x_blue" "x" 1, .assignAlias "x" "x_blue",
      .createCollection "x_green" "x" 1, .assignAlias "x" "x_green"] ∧
      (fresh.run (bucket (MapOrder.stored Site) fresh)).aliases.lookup "x" = some "x_green" ∧
      (fresh.run (bucket reversed fresh)).aliases.lookup "x" = some "x_blue" ∧
      bucket (MapOrder.stored Site) built = [] ∧ built.aliases.lookup "x" = none := by
  decide

end SolrOperator
