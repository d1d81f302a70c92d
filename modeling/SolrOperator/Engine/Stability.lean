/-
  SolrOperator.Engine.Stability

  What the `Stable` condition says of the cluster the passes lead to. The reporter
  counts every collection of the cluster not beginning with `_`, the set's or not,
  against `countSpecifiedCollections`, and checks each for the spec's factor and as
  many replicas as its factor (`populateCollectionSetStatus_stable`). Where no
  problem of the set stands, its instances are all there and aligned, so for a set
  whose entries have distinct names and whose instance names do not begin with `_`
  (`Target.Countable`) the check passes exactly when no other unprefixed collection
  is there (`Target.Countable.aligned_iff`).

  A pass over such a cluster fails at no stage after `UpdateStatus`, so nothing
  overwrites the condition it reports (`reconcileSolr_stored_of_settled`). After a
  run that settles the set (`runPasses_measure_le`), the next clean pass reports
  `Stable=True` exactly when the cluster holds no unprefixed collection outside the
  spec (`runPasses_reports_stable`): with cleanup on it holds none, and a set that
  shares its cluster with another tenant's collection is reported unstable.

  A set whose report the API server refuses gets no further than the report. With
  blue/green off every entry's `InstanceName` is `""`, and the server keys
  `status.collections` by it, so a spec with two instances or more has every status
  patch refused (`updateStatus_refused`). Each pass then ends at `UpdateStatus`,
  having at most bootstrapped the checksum collection, and a run of such passes
  leaves every other name of the cluster as it was: the set's instances are never
  created (`runPasses_stalls_on_refused_report`). This is why `Target.Deployable`
  asks for blue/green or one instance at most.
-/
import SolrOperator.Engine.Tenancy
import SolrOperator.Engine.Refinement
import SolrOperator.Controller.Lifecycle

namespace SolrOperator

/-! ## Counting the cluster against the spec -/

/-- A set whose `Stable` count can meet the cluster's: its entries have distinct
    names, and no instance name begins with `_`, which the cluster count skips. -/
structure Target.Countable (t : Target) : Prop where
  names : (t.spec.collections.map SolrCollection.name).Nodup
  unprefixed : ∀ k ∈ t.spec.instances, hasPrefix k "_" = false

/-- Over collections filed under their names, `countSolrCollections` counts the
    names not beginning with `_`. -/
theorem countSolrCollections_of_named {E : Engine} (h : E.Named) :
    countSolrCollections E.collections = (E.collections.keys.filter fun k => !hasPrefix k "_").length := by
  rw [countSolrCollections, AList.keys, List.keys, List.filter_map, List.length_map]
  congr 1
  exact List.filter_congr fun e he => by
    rw [Function.comp_apply, h e.1 e.2 (AList.mem_lookup_iff.2 he)]

/-- On a cluster where no problem of a countable set stands, the counts agree and
    every unprefixed collection is aligned exactly when every unprefixed collection
    is a desired instance. -/
theorem Target.Countable.aligned_iff {t : Target} (hc : t.Countable) {E : Engine} (hnamed : E.Named)
    (hsettled : ∀ p : Problem, ¬p.Holds t E) :
    (countSpecifiedCollections t.spec.collections t.spec.blueGreen = countSolrCollections E.collections ∧
      ∀ k col, E.collections.lookup k = some col → hasPrefix col.name "_" = false →
        col.replicationFactor = t.spec.rf ∧ col.replicaCount = col.replicationFactor) ↔
    ∀ k ∈ E.collections, hasPrefix k "_" = false → k ∈ t.spec.instances := by
  have hI : t.spec.instances.keys.length = countSpecifiedCollections t.spec.collections t.spec.blueGreen :=
    mapCollections_keys_length _ _ hc.names
  have hU := countSolrCollections_of_named hnamed
  have hsub : t.spec.instances.keys ⊆ E.collections.keys.filter fun k => !hasPrefix k "_" := fun k hk => by
    have hk := AList.mem_keys.1 hk
    refine List.mem_filter.2 ⟨AList.mem_keys.2 ?_, by simp [hc.unprefixed k hk]⟩
    by_contra hn
    exact hsettled (.missingInstance k) ⟨hk, hn⟩
  have hnodupU := (E.collections.keys_nodup).filter (fun k => !hasPrefix k "_")
  constructor
  · rintro ⟨hcount, -⟩ k hk hp
    have hperm := (t.spec.instances.keys_nodup.subperm hsub).perm_of_length_le (by omega)
    exact AList.mem_keys.1 (hperm.mem_iff.2 (List.mem_filter.2 ⟨AList.mem_keys.2 hk, by simp [hp]⟩))
  · intro hall
    have hsup : (E.collections.keys.filter fun k => !hasPrefix k "_") ⊆ t.spec.instances.keys :=
      fun k hk => by
        obtain ⟨hk, hp⟩ := List.mem_filter.1 hk
        exact AList.mem_keys.2 (hall k (AList.mem_keys.1 hk) (by simpa using hp))
    refine ⟨by rw [← hI, hU, ((List.perm_ext_iff_of_nodup t.spec.instances.keys_nodup hnodupU).2
      fun k => ⟨fun h => hsub h, fun h => hsup h⟩).length_eq], fun k col hk hp => ?_⟩
    have hki := hall k (GoMap.mem_iff_lookup.2 ⟨col, hk⟩) (by rw [← hnamed k col hk]; exact hp)
    have hrf : col.replicationFactor = t.spec.rf := by
      by_contra hne
      exact hsettled (.factorMismatch k) ⟨hki, col, hk, hne⟩
    have hrc : col.replicaCount = t.spec.rf := by
      by_contra hne
      exact hsettled (.replicaMismatch k) ⟨hki, col, hk, hne⟩
    exact ⟨hrf, hrc.trans hrf.symm⟩

/-! ## A pass over a settled cluster -/

section
variable {t : Target} (lib : Lib) (env : PassEnv)

/-- From `InitializeSolrCluster` on, a `Ready` pass over a cluster where no problem
    of the set stands ends with the set the server holds carrying the status the
    reporter gives for the cluster: no later stage fails, so none overwrites it. -/
theorem reconcileSolr_stored_of_settled (ht : t.Sound) (hcodec : lib.codec = t.codec)
    (hitems : env.configMaps = .ok t.items) {cs : SolrCollectionSet} (hname : cs.name = t.name)
    (hspec : cs.spec = t.spec) (s : PassState Engine) (hstored : s.api.stored = some cs)
    (hinv : Inv t s.conn.state) (hsettled : ∀ p : Problem, ¬p.Holds t s.conn.state)
    (hr : t.Ready lib env s.solrClient cs s.api) :
    (reconcileSolr Engine.solr lib env cs s).2.api.stored = some { cs with status :=
      (populateCollectionSetStatus env.ord env.now cs ⟨s.conn.state.collections, s.conn.state.aliases⟩).1 } := by
  have hchecksums : checksumsCollectionName cs.name = t.checksumsName := by rw [hname]; rfl
  obtain ⟨hinit, hready, -, hstatus⟩ := initializeSolrCluster_progress lib env s.solrClient hspec hinv
  have hok := (hready hr.client hr.schemaZip).1
  simp only [reconcileSolr, hchecksums, hitems, hcodec]
  split
  next heq =>
    rw [heq] at hok
    obtain ⟨_, _, h⟩ := hok
    cases h
  next clusterStatus isInitializing cl conn heq =>
    rw [heq] at hinit hstatus
    obtain ⟨hcol, hal, hchk⟩ := hstatus _ _ rfl
    -- the settled cluster is left as it is
    have hconn : conn.state = s.conn.state := (hinit.2.resolve_right (by
      rw [Target.measure_eq_zero.mpr hsettled]; exact Nat.not_lt_zero _)).1
    have hcs : clusterStatus = ⟨s.conn.state.collections, s.conn.state.aliases⟩ := by
      rw [← hconn, ← hcol, ← hal]
    subst hcs
    have hapi : (if isInitializing then s.api.event cs eventSolrCollectionSetInitializing
        ("SolrCollectionSpec [" ++ cs.name ++ "] is being initialized in namespace [" ++
          cs.namespace ++ "]") else s.api).stored = some cs := by
      split <;> exact hstored
    have hvalid : (if isInitializing then s.api.event cs eventSolrCollectionSetInitializing
        ("SolrCollectionSpec [" ++ cs.name ++ "] is being initialized in namespace [" ++
          cs.namespace ++ "]") else s.api).Valid := by
      split
      · exact hr.valid.event _ _ _
      · exact hr.valid
    have hupd := updateStatus_ok env.ord env.now cs ⟨s.conn.state.collections, s.conn.state.aliases⟩
      ⟨cs, hapi, rfl, rfl⟩ hvalid (hr.keyError hspec _) hr.statusPatch hr.statusRefetch
    obtain ⟨hcs', hst'⟩ := updateStatus_of_ok env.ord cs _ env.now env.faults hapi hupd
    split
    next heq2 =>
      rw [heq2] at hupd
      cases hupd
    next cs' api' heq2 =>
      rw [heq2] at hcs' hst'
      have hspec' : cs'.spec = t.spec := (congrArg SolrCollectionSet.spec hcs').trans hspec
      obtain ⟨-, -, -, -, m5, -⟩ := manageConfigSets_progress cl env.ord cs' hspec' hinit.1 hchk ht.quotes
      have hm := (m5 hr.labelled hr.decodes).1
      split
      next heq3 =>
        rw [heq3] at hm
        cases hm
      next heq3 =>
        rw [heq3] at hm
        cases hm
      next c3 heq3 =>
        split
        · exact hst'
        · rw [adjustReplicas_of_aligned]
          · exact hst'
          · intro k hk col hcol
            rw [hspec'] at hk ⊢
            by_contra hne
            exact hsettled (.replicaMismatch k) ⟨hk, col, hcol, hne⟩

/-- A clean pass over a deployable set, at a nonzero clock, from a server keeping
    the conditions as the operator leaves them, over a cluster where no problem of
    the set stands: the server then holds the set with a `Stable` condition, `True`
    exactly when the counts agree and every unprefixed collection is aligned. -/
theorem reconcile_reports_settled (ht : t.Deployable lib) {u : Turn} (hu : u.Clean t)
    (hnow : u.env.now ≠ 0) (hkept : u.api.ConditionsKept) (solrClient : SolrClient) (c : Conn Engine)
    (hinv : Inv t c.state) (hsettled : ∀ p : Problem, ¬p.Holds t c.state) :
    ∃ cs, (reconcile Engine.solr lib u.env ⟨solrClient, c, u.api⟩).2.api.stored = some cs ∧
      ∃ w ∈ cs.status.conditions, w.type = typeSolrCollectionSetStable ∧
        (w.status = .conditionTrue ↔
          countSpecifiedCollections t.spec.collections t.spec.blueGreen =
            countSolrCollections c.state.collections ∧
          ∀ k col, c.state.collections.lookup k = some col → hasPrefix col.name "_" = false →
            col.replicationFactor = t.spec.rf ∧ col.replicaCount = col.replicationFactor) := by
  obtain ⟨cs, api, hn, hs, -, hvalid, ⟨obj, hobj, hinit⟩, h⟩ := reconcile_reaches_solr Engine.solr lib
    u.env ⟨solrClient, c, u.api⟩ hu.holds hu.valid hu.faults ht.defaulted ht.active
  have hst := initializeConditions_stored u.env hobj hinit
  have hwf : SetConditions cs.status.conditions := by
    have hk := (initializeConditions_conditionsKept hnow u.env rfl obj hkept (hkept obj hobj)).1
    rw [hinit] at hk
    exact hk cs hst
  obtain ⟨new, hc, hty, hltt, hiff⟩ := populateCollectionSetStatus_stable u.env.ord u.env.now cs
    ⟨c.state.collections, c.state.aliases⟩
  obtain ⟨w, hw, hwt, hws, -⟩ := statusConditions_new u.env.ord u.env.now _ new hwf.nodup hwf.stamped hltt
  rw [h, reconcileSolr_stored_of_settled lib u.env ht.sound ht.codec hu.configMaps hn hs _ hst hinv
    hsettled (hu.ready ht solrClient hs hvalid)]
  rw [hs] at hiff
  exact ⟨_, rfl, w, hc ▸ hw, hwt.trans hty, hws ▸ hiff⟩

end

/-! ## Runs -/

section
variable {t : Target} (lib : Lib)

/-- The report a run of clean passes leads to. After a run of clean passes over a
    deployable, countable set, from a cluster keeping `Inv` with its collections
    filed under their names, as long as the measure or longer, a further clean pass
    at a nonzero clock, from a server keeping the conditions as the operator leaves
    them, leaves the set with a `Stable` condition that is `True` exactly when every
    collection of the cluster not beginning with `_` is a desired instance: another
    tenant's collection keeps the set from ever being reported stable. With cleanup
    on, none is left, and the set is reported stable. -/
theorem runPasses_reports_stable (ht : t.Deployable lib) (hc : t.Countable) (turns : List Turn)
    (solrClient : SolrClient) (c : Conn Engine) (hturns : ∀ u ∈ turns, u.Clean t) (hinv : Inv t c.state)
    (hnamed : c.state.Named) (hlen : t.measure c.state ≤ turns.length) {u : Turn} (hu : u.Clean t)
    (hnow : u.env.now ≠ 0) (hkept : u.api.ConditionsKept) :
    ∃ cs, (reconcile Engine.solr lib u.env ⟨(runPasses Engine.solr lib turns solrClient c).1,
        (runPasses Engine.solr lib turns solrClient c).2, u.api⟩).2.api.stored = some cs ∧
      ∃ w ∈ cs.status.conditions, w.type = typeSolrCollectionSetStable ∧
        (w.status = .conditionTrue ↔ ∀ k ∈ (runPasses Engine.solr lib turns solrClient c).2.state.collections,
          hasPrefix k "_" = false → k ∈ t.spec.instances) ∧
        (t.spec.cleanup = true → w.status = .conditionTrue) := by
  obtain ⟨hinv', hle⟩ := runPasses_measure_le ht turns solrClient c hturns hinv
  have hsettled : ∀ p : Problem, ¬p.Holds t (runPasses Engine.solr lib turns solrClient c).2.state :=
    Target.measure_eq_zero.mp (by omega)
  have hiff := hc.aligned_iff (runPasses_named lib turns solrClient c hnamed) hsettled
  obtain ⟨cs, hcs, w, hw, hwt, hws⟩ := reconcile_reports_settled lib ht hu hnow hkept _ _ hinv' hsettled
  refine ⟨cs, hcs, w, hw, hwt, hws.trans hiff, fun hcl => (hws.trans hiff).2 fun k hk hp => ?_⟩
  by_contra hki
  exact hsettled (.strayCollection k) ⟨hcl, hk, hp, hki⟩

/-- Three clean passes settle a set with cleanup on from an empty cluster; the
    fourth reports it stable. -/
theorem runPasses_reports_stable_from_empty :
    let lib : Lib := ⟨Codec.go, .ok []⟩
    let spec : SolrCollectionSetSpec := ⟨"http://solr", "secret", some true, some 1, some false,
      some true, [⟨"x", "x", "x"⟩]⟩
    let t : Target := ⟨"set", spec, [⟨"x-configset", (∅ : GoMap String).insert "collection" "x",
      (∅ : GoMap String).insert "configset" "AA=="⟩], lib.codec⟩
    let u : Turn := ⟨⟨MapOrder.stored Site, 1, KubeFaults.none, fun _ => some ⟨∅⟩, .ok t.items⟩,
      ⟨some ⟨"set", "ns", spec, .empty⟩, [], []⟩⟩
    ∃ cs, (reconcile Engine.solr lib u.env
        ⟨(runPasses Engine.solr lib [u, u, u] SolrClient.zero ⟨⟨∅, ∅, ∅, ∅⟩, []⟩).1,
          (runPasses Engine.solr lib [u, u, u] SolrClient.zero ⟨⟨∅, ∅, ∅, ∅⟩, []⟩).2, u.api⟩).2.api.stored =
        some cs ∧
      ∃ w ∈ cs.status.conditions, w.type = typeSolrCollectionSetStable ∧ w.status = .conditionTrue := by
  intro lib spec t u
  have hdeploy : t.Deployable lib := ⟨Target.sound_of_labels (by decide) (by decide), rfl,
    ⟨rfl, rfl, rfl, rfl, by decide⟩, rfl, by decide, by decide, by decide, ⟨_, rfl⟩, rfl,
    Target.decodes_of_items (by decide)⟩
  have hcount : t.Countable := ⟨by decide, by decide⟩
  have hclean : u.Clean t := ⟨rfl, ⟨_, rfl, rfl, rfl⟩, fun _ h => by cases h; rfl, rfl, ⟨_, rfl⟩⟩
  have hinv : Inv t (⟨∅, ∅, ∅, ∅⟩ : Engine) :=
    ⟨fun _ _ _ h => by simp [AList.lookup_empty] at h, fun _ _ _ h => by simp [AList.lookup_empty] at h,
      by decide⟩
  have hnamed : (⟨∅, ∅, ∅, ∅⟩ : Engine).Named := fun k col hk => by simp [AList.lookup_empty] at hk
  have hkept : u.api.ConditionsKept := fun obj hobj => by
    cases hobj
    exact SetConditions.nil
  obtain ⟨cs, hcs, w, hw, hwt, -, hcl⟩ := runPasses_reports_stable lib hdeploy hcount [u, u, u]
    SolrClient.zero ⟨⟨∅, ∅, ∅, ∅⟩, []⟩ (by simp [hclean]) hinv hnamed (by decide) hclean (by decide) hkept
  exact ⟨cs, hcs, w, hw, hwt, hcl rfl⟩

end

/-! ## Sets whose report the server refuses -/

section
variable {σ : Type} (sv : Solr σ) (lib : Lib) (env : PassEnv) {name : String}
  {spec : SolrCollectionSetSpec} (hbg : spec.blueGreen = false) (hmany : 2 ≤ spec.instances.keys.length)
include hbg hmany

/-- A pass from `InitializeSolrCluster` on, over the set the server holds, and
    admitted, with blue/green off and two instances or more, ends at `UpdateStatus`:
    its calls are those of `InitializeSolrCluster` alone. -/
theorem reconcileSolr_stops_at_report (cs : SolrCollectionSet) (s : PassState σ)
    (hstored : s.api.stored = some cs) (hvalid : s.api.Valid) (hn : cs.name = name) (hs : cs.spec = spec) :
    sv.Steps (fun x => InitCall (checksumsCollectionName name) spec.rf x.2) s.conn
      (reconcileSolr sv lib env cs s).2.conn := by
  subst hn hs
  have hinit := initializeSolrCluster_steps sv lib env s.solrClient cs (checksumsCollectionName cs.name) s.conn
  simp only [reconcileSolr]
  split
  next heq =>
    rw [heq] at hinit
    exact hinit.mono fun _ h => h.2
  next clusterStatus isInitializing cl conn heq =>
    rw [heq] at hinit
    refine (hinit.mono fun _ h => h.2).trans ?_
    let api := if isInitializing then s.api.event cs eventSolrCollectionSetInitializing
        ("SolrCollectionSpec [" ++ cs.name ++ "] is being initialized in namespace [" ++
          cs.namespace ++ "]") else s.api
    have hapi : api.stored = some cs ∧ api.Valid := by
      dsimp only [api]
      split <;> exact ⟨hstored, hvalid⟩
    have hfail := (updateStatus_refused env.ord cs clusterStatus env.now env.faults hapi.1 hapi.2 hbg
      hmany).1
    split
    · exact .refl _ _
    next heq2 => exact absurd (by rw [heq2]) hfail

/-- A pass over the set the server holds, and admitted, with blue/green off and two
    instances or more, calls Solr only to read the cluster and bootstrap the
    checksum collection. -/
theorem reconcile_stops_at_report (s : PassState σ) (h : s.api.Holds name spec) (hvalid : s.api.Valid) :
    sv.Steps (fun x => InitCall (checksumsCollectionName name) spec.rf x.2) s.conn
      (reconcile sv lib env s).2.conn := by
  rcases reconcile_cases sv lib env s h with ⟨-, h⟩ | ⟨cs, api, hn, hs, hstored, hv, h⟩
  · rw [h]
    exact .refl _ _
  · rw [h]
    exact reconcileSolr_stops_at_report sv lib env hbg hmany cs _ hstored (hv hvalid) hn hs

/-- So does every run of passes over it. -/
theorem runPasses_stops_at_report : ∀ (turns : List Turn) (solrClient : SolrClient) (c : Conn σ),
    (∀ u ∈ turns, u.api.Holds name spec ∧ u.api.Valid) →
    sv.Steps (fun x => InitCall (checksumsCollectionName name) spec.rf x.2) c (runPasses sv lib turns solrClient c).2
  | [], _, c, _ => .refl _ c
  | u :: us, _, _, h =>
    (reconcile_stops_at_report sv lib u.env hbg hmany _ (h u (List.mem_cons_self _ _)).1
      (h u (List.mem_cons_self _ _)).2).trans
    (runPasses_stops_at_report us _ _ fun u' hu' => h u' (List.mem_cons_of_mem _ hu'))

end

section
variable {t : Target} (lib : Lib)

/-- What the passes do for a set the API server cannot report. With blue/green off
    and two entries or more, every status patch of the set is refused, so whichever
    Kubernetes calls fail and whatever its configmaps, a run of passes over it, from
    a server that held only what it admitted, calls Solr only to read the cluster and
    bootstrap the checksum collection. Every other name of the cluster is left as it
    was, collection, alias and config set alike, and an instance the cluster lacks
    stays missing: the set never settles. -/
theorem runPasses_stalls_on_refused_report (hbg : t.spec.blueGreen = false)
    (hmany : 2 ≤ t.spec.instances.keys.length) (turns : List Turn) (solrClient : SolrClient)
    (c : Conn Engine) (hturns : ∀ u ∈ turns, u.api.Holds t.name t.spec ∧ u.api.Valid) :
    Engine.solr.Steps (fun x => InitCall t.checksumsName t.spec.rf x.2) c
        (runPasses Engine.solr lib turns solrClient c).2 ∧
      (∀ k, k ≠ t.checksumsName → k ≠ configChecksumsConfigSetName →
        Engine.Untouched False k c.state (runPasses Engine.solr lib turns solrClient c).2.state) ∧
      ∀ k, k ≠ t.checksumsName → k ≠ configChecksumsConfigSetName →
        (Problem.missingInstance k).Holds t c.state →
          (Problem.missingInstance k).Holds t (runPasses Engine.solr lib turns solrClient c).2.state := by
  have hsteps := runPasses_stops_at_report Engine.solr lib hbg hmany turns solrClient c hturns
  have huntouched (k : String) (hk : k ≠ t.checksumsName) (hs : k ≠ configChecksumsConfigSetName) :
      Engine.Untouched False k c.state (runPasses Engine.solr lib turns solrClient c).2.state := by
    obtain ⟨calls, hstate, hP⟩ := Engine.steps_state hsteps
    rw [hstate]
    refine Engine.run_untouched _ _ fun r hr => ?_
    obtain ⟨x, hx, rfl⟩ := List.mem_map.mp hr
    exact (hP x hx).spares hk hs
  exact ⟨hsteps, huntouched, fun k hk hs ⟨hi, hmiss⟩ =>
    ⟨hi, fun hmem => hmiss (((huntouched k hk hs).mem_collections_iff).1 hmem)⟩⟩

/-- Three passes over a set with blue/green off and entries `x` and `y`, from an
    empty cluster, leave `x` missing. -/
theorem runPasses_stalls_on_refused_report_two_entries :
    let lib : Lib := ⟨Codec.go, .ok []⟩
    let set : SolrCollectionSet := ⟨"set", "ns", ⟨"http://solr", "auth", some true, some 1,
      some false, some false, [⟨"x", "x", "x"⟩, ⟨"y", "y", "y"⟩]⟩, .empty⟩
    let t : Target := ⟨"set", set.spec, [], lib.codec⟩
    let secrets : String → Option Secret := fun name =>
      if name = "auth" then some ⟨((∅ : GoMap String).insert "username" "u").insert "password" "p"⟩
      else none
    let u : Turn := ⟨⟨MapOrder.stored Site, 1, KubeFaults.none, secrets, .ok []⟩, ⟨some set, [], []⟩⟩
    (t.spec.blueGreen = false ∧ 2 ≤ t.spec.instances.keys.length ∧
      ∀ u' ∈ [u, u, u], u'.api.Holds t.name t.spec ∧ u'.api.Valid) ∧
      "x" ∉ (runPasses Engine.solr lib [u, u, u] SolrClient.zero ⟨⟨∅, ∅, ∅, ∅⟩, []⟩).2.state.collections := by
  intro lib set t secrets u
  have hturns : ∀ u' ∈ [u, u, u], u'.api.Holds t.name t.spec ∧ u'.api.Valid := by
    intro u' hu'
    simp only [List.mem_cons, List.mem_singleton, List.not_mem_nil, or_false, or_self] at hu'
    subst hu'
    exact ⟨⟨set, rfl, rfl, rfl⟩, fun _ h => by cases h; rfl⟩
  have hbg : t.spec.blueGreen = false := rfl
  have hmany : 2 ≤ t.spec.instances.keys.length := by decide
  exact ⟨⟨hbg, hmany, hturns⟩, ((runPasses_stalls_on_refused_report lib hbg hmany [u, u, u] SolrClient.zero
    ⟨⟨∅, ∅, ∅, ∅⟩, []⟩ hturns).2.2 "x" (by decide) (by decide) ⟨by decide, by decide⟩).2⟩

end

end SolrOperator
