/-
  SolrOperator.Engine.Convergence

  Whole passes against the engine, and runs of them. A pass over the set whose
  configmaps fit its spec (`Target.Sound`), on a cluster keeping `Inv`, only
  reads or lowers the measure, whatever order it visits its maps in and whichever
  Kubernetes calls fail; so a run of more passes than the measure holds one that
  only reads. The stage lemmas of `Engine.ConfigSets` and `Engine.Collections`
  are composed here in the order `reconcileSolr` runs the stages, the way
  `reconcile_steps` composes the call shapes.
-/
import SolrOperator.Engine.Collections
import SolrOperator.Engine.ConfigSets
import SolrOperator.Controller.Report

namespace SolrOperator

/-- The configmaps fit the spec: every desired instance is built on a config set
    some configmap carries as its `collection` label, and no label holds a double
    quote, which would end the string it is written into in the checksum record. -/
structure Target.Sound (t : Target) : Prop where
  configSets : ∀ k e, t.spec.instances.lookup k = some e → e.configsetName ∈ t.configMaps
  quotes : ∀ x ∈ t.configMaps, '"' ∉ x.data

/-- What a pass over the set needs, besides a cluster keeping `Inv`, to lower the
    measure whenever a problem stands: `UpdateStatus`' patch and read succeed, and
    the API server admits its patch, since it holds only what it admitted and the
    report keys its collections apart (blue/green is on, or the spec has one instance
    at most); a client is at hand, the checksum schema zips, and every configmap is
    labelled and decodes. -/
structure Target.Ready (t : Target) (lib : Lib) (env : PassEnv) (solrClient : SolrClient)
    (cs : SolrCollectionSet) (api : ApiServer) : Prop where
  statusPatch : env.faults.statusPatch = none
  statusRefetch : env.faults.statusRefetch = none
  valid : api.Valid
  reportable : t.spec.blueGreen = true ∨ t.spec.instances.keys.length ≤ 1
  client : (ensureSolrClient env solrClient cs).2 = none
  schemaZip : ∃ bytes, lib.schemaZip = .ok bytes
  labelled : mapConfigMaps ∅ t.items = .ok t.configMaps
  decodes : ∀ x cm, t.configMaps.lookup x = some cm →
    (t.codec.decodeString (cm.data.getString "configset")).isSome

/-- The report of a `Ready` pass passes the API server's key check. -/
theorem Target.Ready.keyError {t : Target} {lib : Lib} {env : PassEnv} {solrClient : SolrClient}
    {cs : SolrCollectionSet} {api : ApiServer} (hr : t.Ready lib env solrClient cs api)
    (hspec : cs.spec = t.spec) (clusterStatus : ClusterStatus) :
    (populateCollectionSetStatus env.ord env.now cs clusterStatus).1.keyError = none :=
  (populateCollectionSetStatus_keyError env.ord env.now cs clusterStatus).2 (hspec ▸ hr.reportable)

/-- Every problem is one a stage of the pass answers: `InitializeSolrCluster`,
    `ManageConfigSets`, `ManageCollections` or `AdjustReplicas`. -/
theorem Problem.stages (p : Problem) :
    p = .checksumsMissing ∨ (∃ x, p = .pendingUpload x ∨ p = .strayConfigSet x) ∨
      (∃ k, p = .missingInstance k ∨ p = .strayCollection k ∨ p = .factorMismatch k) ∨
      ∃ k, p = .replicaMismatch k := by
  cases p <;> simp

section
variable {t : Target} (lib : Lib) (env : PassEnv)

/-- The pass from `InitializeSolrCluster` on, for the set: each stage only reads or
    lowers the measure, and when the pass is `Ready` each lowers it on the problems
    it answers. `UpdateStatus` holds no client; `ManageCollections` and
    `AdjustReplicas` see the cluster `InitializeSolrCluster` read, which
    `ManageConfigSets` left as it was, and `AdjustReplicas` runs only after
    `ManageCollections` called nothing. -/
theorem reconcileSolr_advance (ht : t.Sound) (hcodec : lib.codec = t.codec)
    (hitems : env.configMaps = .ok t.items) {cs : SolrCollectionSet} (hname : cs.name = t.name)
    (hspec : cs.spec = t.spec) (s : PassState Engine) (hapi : s.api.Holds cs.name cs.spec)
    (hinv : Inv t s.conn.state) :
    Advance t (fun _ => t.Ready lib env s.solrClient cs s.api) s.conn
      (reconcileSolr Engine.solr lib env cs s).2.conn := by
  have hchecksums : checksumsCollectionName cs.name = t.checksumsName := by rw [hname]; rfl
  obtain ⟨hinit, hready, hwinit, hstatus⟩ :=
    initializeSolrCluster_progress lib env s.solrClient hspec hinv
  simp only [reconcileSolr, hchecksums, hitems, hcodec]
  split
  next heq =>
    rw [heq] at hinit hready hwinit
    refine ⟨hinit, hwinit, fun _ hr _ => ?_⟩
    obtain ⟨_, _, h⟩ := (hready hr.client hr.schemaZip).1
    cases h
  next clusterStatus isInitializing cl conn heq =>
    rw [heq] at hinit hstatus hready hwinit
    obtain ⟨hcol, hal, hchk⟩ := hstatus _ _ rfl
    have hapi' : (if isInitializing then s.api.event cs eventSolrCollectionSetInitializing
        ("SolrCollectionSpec [" ++ cs.name ++ "] is being initialized in namespace [" ++
          cs.namespace ++ "]") else s.api).Holds cs.name cs.spec := by
      split <;> exact hapi
    have hu := (updateStatus_holds env.ord env.now env.faults cs clusterStatus hapi').2
    -- `InitializeSolrCluster` answers a missing checksum collection
    have ainit (hr : t.Ready lib env s.solrClient cs s.api) :
        Advance t (· = .checksumsMissing) s.conn conn :=
      ⟨hinit, hwinit, fun _ hp hold => (hready hr.client hr.schemaZip).2 (by subst hp; exact hold)⟩
    split
    next heq2 =>
      refine ⟨hinit, hwinit, fun _ hr _ => ?_⟩
      have hvalid : (if isInitializing then s.api.event cs eventSolrCollectionSetInitializing
          ("SolrCollectionSpec [" ++ cs.name ++ "] is being initialized in namespace [" ++
            cs.namespace ++ "]") else s.api).Valid := by
        split
        · exact hr.valid.event _ _ _
        · exact hr.valid
      have := updateStatus_ok env.ord env.now cs clusterStatus hapi' hvalid (hr.keyError hspec _)
        hr.statusPatch hr.statusRefetch
      rw [heq2] at this
      cases this
    next cs' api' heq2 =>
      have hspec' : cs'.spec = t.spec := (hu cs' (by rw [heq2])).2.trans hspec
      obtain ⟨m1, m2, m3, m4, m5, m6⟩ :=
        manageConfigSets_progress cl env.ord cs' hspec' hinit.1 hchk ht.quotes
      split
      next heq3 =>
        rw [heq3] at m1 m5 m6
        refine ⟨hinit.trans m1, hwinit.trans m6, fun _ hr _ => ?_⟩
        have := (m5 hr.labelled hr.decodes).1
        cases this
      next heq3 =>
        rw [heq3] at m1 m5 m6
        refine ⟨hinit.trans m1, hwinit.trans m6, fun _ hr _ => ?_⟩
        have := (m5 hr.labelled hr.decodes).1
        cases this
      next c3 heq3 =>
        rw [heq3] at m1 m2 m3 m4 m5 m6
        -- `ManageConfigSets` answers a config set still to upload or to remove
        have acfg (hr : t.Ready lib env s.solrClient cs s.api) :
            Advance t (fun p => ∃ x, p = .pendingUpload x ∨ p = .strayConfigSet x) conn c3 :=
          ⟨m1, m6, fun _ ⟨x, hp⟩ hold => (m5 hr.labelled hr.decodes).2 x (by
            rcases hp with rfl | rfl
            exacts [.inl hold, .inr hold])⟩
        rw [hcol, hal, ← m2, ← m3]
        obtain ⟨hmc, hwmc, hchanged, hkinds⟩ := manageCollections_progress env.ord cl hspec' m1.1
          ht.configSets (m4 rfl) (m2 ▸ hchk)
        split
        next c4 heq4 =>
          rw [heq4] at hmc hwmc hchanged
          refine ⟨hinit.trans (m1.trans hmc), hwinit.trans (m6.trans hwmc), fun p hr => ((ainit hr).trans
            ((acfg hr).trans (⟨hmc, hwmc, fun _ _ _ => hchanged (congrArg Prod.fst heq4)⟩ :
              Advance t (fun _ => True) c3 c4))).lowers p (.inr (.inr trivial))⟩
        next c4 heq4 =>
          obtain rfl : c4 = c3 := by
            rw [← manageCollections_unchanged env.ord cs' c3.state.collections c3.state.aliases
              Engine.solr cl c3 (by rw [heq4]), heq4]
          -- `ManageCollections` called nothing, so no instance is missing or stray
          have acol : Advance t (fun p => ∃ k, p = .missingInstance k ∨ p = .strayCollection k ∨
              p = .factorMismatch k) c4 c4 := by
            refine ⟨.refl m1.1, .refl _, fun _ ⟨k, hp⟩ hold => ?_⟩
            have := hkinds k (by
              rcases hp with rfl | rfl | rfl
              exacts [.inl hold, .inr (.inl hold), .inr (.inr hold)])
            rwa [heq4] at this
          -- `AdjustReplicas` answers a wrong replica count
          have aadj {c5 : Conn Engine} (h : Progress t c4 c5) (hw : t.NoWorse c4.state c5.state)
              (hlt : ∀ k, (Problem.replicaMismatch k).Holds t c4.state →
                t.measure c5.state < t.measure c4.state) :
              Advance t (fun p => ∃ k, p = .replicaMismatch k) c4 c5 :=
            ⟨h, hw, fun _ ⟨k, hp⟩ hold => hlt k (by subst hp; exact hold)⟩
          obtain ⟨had, hwad, hreplicas⟩ := adjustReplicas_progress env.ord cl hspec' m1.1 (c := c4)
          split <;> rename_i heq5 <;> rw [heq5] at had hwad hreplicas <;>
            exact ⟨hinit.trans (m1.trans had), hwinit.trans (m6.trans hwad), fun p hr =>
              ((ainit hr).trans ((acfg hr).trans (acol.trans (aadj had hwad hreplicas)))).lowers p
                p.stages⟩

/-- A pass over the set the API server holds: it only reads, or lowers the measure,
    and it raises no problem. Reading the set, seeding its conditions and persisting
    its defaults do not touch Solr, and an inactive set ends the pass there. -/
theorem reconcile_progress_noWorse (ht : t.Sound) (hcodec : lib.codec = t.codec)
    (hitems : env.configMaps = .ok t.items) (s : PassState Engine) (hapi : s.api.Holds t.name t.spec)
    (hinv : Inv t s.conn.state) :
    Progress t s.conn (reconcile Engine.solr lib env s).2.conn ∧
      t.NoWorse s.conn.state (reconcile Engine.solr lib env s).2.conn.state := by
  rcases reconcile_cases Engine.solr lib env s hapi with ⟨-, h⟩ | ⟨cs, api, hn, hs, hapi', -, h⟩
  · rw [h]
    exact ⟨.refl hinv, .refl _⟩
  · rw [h]
    have a := reconcileSolr_advance lib env ht hcodec hitems hn hs { s with api := api }
      ⟨cs, hapi', rfl, rfl⟩ hinv
    exact ⟨a.progress, a.noWorse⟩

theorem reconcile_progress (ht : t.Sound) (hcodec : lib.codec = t.codec)
    (hitems : env.configMaps = .ok t.items) (s : PassState Engine) (hapi : s.api.Holds t.name t.spec)
    (hinv : Inv t s.conn.state) : Progress t s.conn (reconcile Engine.solr lib env s).2.conn :=
  (reconcile_progress_noWorse lib env ht hcodec hitems s hapi hinv).1

/-- The pass of a run that only reads: it leaves the cluster as it found it and
    makes no mutating call. -/
def QuietPass (turns : List Turn) (solrClient : SolrClient) (c : Conn Engine) : Prop :=
  ∃ pre u post, turns = pre ++ u :: post ∧
    let r := runPasses Engine.solr lib pre solrClient c
    (reconcile Engine.solr lib u.env ⟨r.1, r.2, u.api⟩).2.conn.state = r.2.state ∧
      Conn.Extends (fun x => x.2.isMutating = false) r.2
        (reconcile Engine.solr lib u.env ⟨r.1, r.2, u.api⟩).2.conn

/-- A run of passes over the set, with its configmaps as they were, from a cluster
    keeping `Inv`: among more passes than the measure holds, one only reads. Each
    pass that does not lowers the measure. -/
theorem runPasses_quiet (ht : t.Sound) (hcodec : lib.codec = t.codec) (turns : List Turn) :
    ∀ (solrClient : SolrClient) (c : Conn Engine),
      (∀ u ∈ turns, u.env.configMaps = .ok t.items ∧ u.api.Holds t.name t.spec) →
      Inv t c.state → t.measure c.state < turns.length → QuietPass lib turns solrClient c := by
  induction turns with
  | nil => exact fun _ _ _ _ h => absurd h (Nat.not_lt_zero _)
  | cons u turns ih =>
    intro solrClient c hturns hinv hlt
    obtain ⟨hitems, hapi⟩ := hturns u (List.mem_cons_self _ _)
    obtain ⟨hinv', hquiet | hdec⟩ :=
      reconcile_progress lib u.env ht hcodec hitems ⟨solrClient, c, u.api⟩ hapi hinv
    · exact ⟨[], u, turns, rfl, hquiet⟩
    · obtain ⟨pre, u', post, rfl, h⟩ := ih _ _ (fun u hu => hturns u (List.mem_cons_of_mem _ hu))
        hinv' (lt_of_lt_of_le hdec (Nat.lt_succ_iff.mp hlt))
      exact ⟨u :: pre, u', post, rfl, h⟩

end

/-! ## Convergence -/

/-- The passes over one set converge while its configmaps stay as they are. When
    every entry's `ConfigsetName` is the `collection` label of some configmap and
    no label holds a double quote, then from every cluster keeping `Inv` each pass,
    for any iteration orders and any failing Kubernetes calls, keeps `Inv` and
    either leaves the cluster as it was with no mutating call or lowers
    `Target.measure`, the number of problems outstanding on it; so among more
    passes than the measure holds, one makes no mutating call. -/
theorem reconcile_converges (lib : Lib) (name : String) (spec : SolrCollectionSetSpec)
    (items : List ConfigMap)
    (hconfigsets : ∀ e ∈ spec.collections, ∃ cm ∈ items,
      cm.labels.lookup "collection" = some e.configsetName)
    (hquotes : ∀ cm ∈ items, ∀ x ∈ cm.labels.lookup "collection", '"' ∉ x.data) :
    let t : Target := ⟨name, spec, items, lib.codec⟩
    (∀ (env : PassEnv) (s : PassState Engine), env.configMaps = .ok items →
      s.api.Holds name spec → Inv t s.conn.state →
        Progress t s.conn (reconcile Engine.solr lib env s).2.conn) ∧
    ∀ (turns : List Turn) (solrClient : SolrClient) (c : Conn Engine),
      (∀ u ∈ turns, u.env.configMaps = .ok items ∧ u.api.Holds name spec) →
      Inv t c.state → t.measure c.state < turns.length → QuietPass lib turns solrClient c := by
  intro t
  have ht : t.Sound := by
    refine ⟨fun _ e he => mem_labelMap.mpr (.inr (hconfigsets e (lookup_instances he).1)),
      fun x hx => ?_⟩
    rcases mem_labelMap.mp hx with hx | ⟨cm, hcm, hl⟩
    · exact absurd hx (AList.not_mem_empty _)
    · exact hquotes cm hcm x hl
  exact ⟨fun env s hi ha hinv => reconcile_progress lib env ht rfl hi s ha hinv,
    runPasses_quiet lib ht rfl⟩

theorem reconcile_converges_single_collection :
    let spec : SolrCollectionSetSpec := ⟨"http://solr", "auth", some true, some 1, some true,
      some true, [⟨"x", "x", "x"⟩]⟩
    let items : List ConfigMap := [⟨"x-configset", (∅ : GoMap String).insert "collection" "x", ∅⟩]
    let lib : Lib := ⟨⟨fun _ => some [], fun _ => []⟩, .ok []⟩
    let t : Target := ⟨"set", spec, items, lib.codec⟩
    (∀ (env : PassEnv) (s : PassState Engine), env.configMaps = .ok items →
      s.api.Holds "set" spec → Inv t s.conn.state →
        Progress t s.conn (reconcile Engine.solr lib env s).2.conn) ∧
    ∀ (turns : List Turn) (solrClient : SolrClient) (c : Conn Engine),
      (∀ u ∈ turns, u.env.configMaps = .ok items ∧ u.api.Holds "set" spec) →
      Inv t c.state → t.measure c.state < turns.length → QuietPass lib turns solrClient c :=
  reconcile_converges _ "set" _ _ (by decide) (by decide)

/-- Three clusters a pass over an active, defaulted set leaves exactly as it found
    them while making a mutating call, so no measure of the cluster falls: an alias
    pinning a cleanup target (the alias `DeleteAlias` is sent is the collection's
    name), a cleanup config set a prefixed collection is built on (`ManageConfigSets`
    deletes before `ManageCollections` would), and an entry whose `ConfigsetName`
    differs from the `collection` label of its configmap. -/
theorem reconcile_refused_without_end :
    let solrClient : SolrClient := ⟨"u", "p", "http://solr"⟩
    let lib : Lib := ⟨⟨fun _ => some [], fun _ => []⟩, .ok []⟩
    let checksums : GoMap Collection := (∅ : GoMap Collection).insert "_setChecksums"
      ⟨"_setChecksums", 1, 1, "_checksums"⟩
    -- a pass over the set `set` from `E`: it leaves `E` as it was, yet makes a mutating call,
    -- although the set is active, defaulted, with a positive factor, distinct names, and a
    -- configmap labelled with each entry's name
    let Refused (E : Engine) (cleanup : Bool) (collections : List SolrCollection)
        (items : List ConfigMap) : Prop :=
      let cs : SolrCollectionSet := ⟨"set", "ns", ⟨"http://solr", "auth", some true, some 1,
        some false, some cleanup, collections⟩, .empty⟩
      let env : PassEnv := ⟨MapOrder.stored Site, 0, KubeFaults.none, fun _ => none, .ok items⟩
      let c := (reconcile Engine.solr lib env ⟨solrClient, ⟨E, []⟩, ⟨some cs, [], []⟩⟩).2.conn
      cs.withDefaults.2 = false ∧ cs.spec.isActive = true ∧ 0 < cs.spec.rf.toInt ∧
        (collections.map (·.name)).Nodup ∧
        (∀ e ∈ collections, ∃ cm ∈ items, cm.labels.lookup "collection" = some e.name) ∧
        c.state = E ∧ ∃ x ∈ c.log, x.2.isMutating = true
    -- cleanup of `old`, which the alias `a` pins: `DeleteAlias("old")`, then a refused
    -- `DeleteCollection("old")`
    Refused ⟨checksums.insert "old" ⟨"old", 1, 1, "_checksums"⟩, (∅ : GoMap String).insert "a" "old",
      (∅ : GoMap Bytes).insert "_checksums" [], (∅ : GoMap _).insert "_setChecksums" []⟩ true [] [] ∧
    -- cleanup of the config set `legacy`, which the prefixed collection `_old` is built on:
    -- a refused `DeleteConfigSet("legacy")` ends the pass
    Refused ⟨checksums.insert "_old" ⟨"_old", 1, 1, "legacy"⟩, ∅,
      ((∅ : GoMap Bytes).insert "_checksums" []).insert "legacy" [],
      (∅ : GoMap _).insert "_setChecksums" []⟩ true [] [] ∧
    -- an entry whose `ConfigsetName` is not its name: a refused `CreateCollection("x", "schema", 1)`
    Refused ⟨checksums, ∅, ((∅ : GoMap Bytes).insert "_checksums" []).insert "x" [],
      (∅ : GoMap _).insert "_setChecksums" [("x", "")]⟩ false [⟨"x", "x", "schema"⟩]
      [⟨"x-configset", (∅ : GoMap String).insert "collection" "x", ∅⟩] := by
  decide

end SolrOperator
