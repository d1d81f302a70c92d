/-
  SolrOperator.Engine.Settling

  Where the passes over one set lead. `reconcile_converges` bounds how long the
  passes can keep calling; here the cluster they reach is the one the spec asks
  for. A pass with no failing Kubernetes call, over a set that is `Deployable`,
  lowers the measure whenever a problem stands (`reconcile_settles`): each stage
  answers the problems it owns (`reconcileSolr_advance`), and the stages compose
  through `Advance`. So a run of as many such passes as the measure holds ends on
  a cluster with no problem at all (`runPasses_settles`): the checksum collection
  exists, every configmap's config set is uploaded with its checksum recorded,
  every desired instance exists with the spec's replication factor and replica
  count, and with cleanup on nothing the cleanup removes is left.

  Whatever their order of visits and whichever Kubernetes calls fail, the passes
  never make the cluster worse: every problem standing after a run stood before
  it (`runPasses_raises_no_problem`), as each stage raises none. A cluster with no
  problem is so a fixed point of the passes: a run from it leaves it as it is and
  makes no mutating call (`runPasses_keeps_settled`).
-/
import SolrOperator.Engine.Convergence

namespace SolrOperator

/-! ## Sets the passes settle -/

/-- The configmaps fit the spec when each entry's config set is the `collection`
    label of a configmap and no label holds a double quote. -/
theorem Target.sound_of_labels {t : Target}
    (hconfigsets : ∀ e ∈ t.spec.collections, ∃ cm ∈ t.items,
      cm.labels.lookup "collection" = some e.configsetName)
    (hquotes : ∀ cm ∈ t.items, ∀ x ∈ cm.labels.lookup "collection", '"' ∉ x.data) : t.Sound := by
  refine ⟨fun _ e he => mem_labelMap.mpr (.inr (hconfigsets e (lookup_instances he).1)), fun x hx => ?_⟩
  rcases mem_labelMap.mp hx with hx | ⟨cm, hcm, hl⟩
  · exact absurd hx (AList.not_mem_empty _)
  · exact hquotes cm hcm x hl

/-- A configmap the set reads was one of its items. -/
theorem lookup_labelMap : ∀ {items : List ConfigMap} {configMaps : GoMap ConfigMap} {name : String}
    {cm : ConfigMap}, (labelMap configMaps items).lookup name = some cm →
      configMaps.lookup name = some cm ∨ cm ∈ items
  | [], _, _, _, h => .inl h
  | cm' :: items, configMaps, name, cm, h => by
    simp only [labelMap] at h
    split at h
    · exact (lookup_labelMap h).imp_right (List.mem_cons_of_mem _)
    next label _ =>
      rcases lookup_labelMap h with h | h
      · by_cases hn : name = label
        · subst hn
          rw [AList.lookup_insert, Option.some.injEq] at h
          exact .inr (h ▸ List.mem_cons_self _ _)
        · exact .inl (by rwa [AList.lookup_insert_ne hn] at h)
      · exact .inr (List.mem_cons_of_mem _ h)

/-- Every configmap the set reads decodes when every item does. -/
theorem Target.decodes_of_items {t : Target}
    (h : ∀ cm ∈ t.items, (t.codec.decodeString (cm.data.getString "configset")).isSome) :
    ∀ x cm, t.configMaps.lookup x = some cm → (t.codec.decodeString (cm.data.getString "configset")).isSome :=
  fun _ cm hcm => h cm ((lookup_labelMap hcm).resolve_left (by simp [AList.lookup_empty]))

/-- A set the passes bring about on the engine: its configmaps fit its spec, which
    is defaulted and active, with a positive replication factor, and names a basic
    auth secret; its report keys its collections apart: blue/green is on, or the
    spec has one instance at most, since with it off every entry's `InstanceName` is
    `""` and the API server refuses a status holding two
    (`runPasses_stalls_on_refused_report`); the checksum schema zips; and every
    configmap carries a `collection` label and a `configset` that decodes. -/
structure Target.Deployable (t : Target) (lib : Lib) : Prop where
  sound : t.Sound
  codec : lib.codec = t.codec
  defaulted : t.spec.Defaulted
  active : t.spec.isActive = true
  factor : 0 < t.spec.rf.toInt
  reportable : t.spec.blueGreen = true ∨ t.spec.instances.keys.length ≤ 1
  secretRef : t.spec.secretRef ≠ ""
  schemaZip : ∃ bytes, lib.schemaZip = .ok bytes
  labelled : mapConfigMaps ∅ t.items = .ok t.configMaps
  decodes : ∀ x cm, t.configMaps.lookup x = some cm →
    (t.codec.decodeString (cm.data.getString "configset")).isSome

/-- A turn over the set as the server holds it, holding only what it admitted,
    with its configmaps listed, its secret there, and no failing Kubernetes call. -/
structure Turn.Clean (t : Target) (u : Turn) : Prop where
  configMaps : u.env.configMaps = .ok t.items
  holds : u.api.Holds t.name t.spec
  valid : u.api.Valid
  faults : u.env.faults = KubeFaults.none
  secret : ∃ secret, u.env.secrets t.spec.secretRef = some secret

/-- A clean turn over a deployable set makes its pass `Ready` for any copy of the
    set with its spec, on a server holding only what it admitted. -/
theorem Turn.Clean.ready {t : Target} {lib : Lib} {u : Turn} (ht : t.Deployable lib) (hu : u.Clean t)
    (solrClient : SolrClient) {cs : SolrCollectionSet} (hs : cs.spec = t.spec) {api : ApiServer}
    (hapi : api.Valid) : t.Ready lib u.env solrClient cs api :=
  ⟨by rw [hu.faults]; rfl, by rw [hu.faults]; rfl, hapi, ht.reportable,
    ensureSolrClient_ok u.env solrClient (by rw [hs]; exact ht.secretRef) (by rw [hs]; exact hu.secret),
    ht.schemaZip, ht.labelled, ht.decodes⟩

theorem Target.measure_eq_zero {t : Target} {E : Engine} :
    t.measure E = 0 ↔ ∀ p : Problem, ¬p.Holds t E := by
  rw [Target.measure, Finset.card_eq_zero, Finset.eq_empty_iff_forall_not_mem]
  exact forall_congr' fun p => not_congr t.mem_problems

/-! ## One pass -/

section
variable {t : Target} {lib : Lib}

/-- A clean pass over a deployable set, from a cluster keeping `Inv`, lowers the
    measure whenever a problem stands. -/
theorem reconcile_settles (ht : t.Deployable lib) {u : Turn} (hu : u.Clean t)
    (solrClient : SolrClient) (c : Conn Engine) (hinv : Inv t c.state) {p : Problem}
    (hp : p.Holds t c.state) :
    t.measure (reconcile Engine.solr lib u.env ⟨solrClient, c, u.api⟩).2.conn.state <
      t.measure c.state := by
  obtain ⟨cs, api, hn, hs, hapi, hvalid, -, h⟩ := reconcile_reaches_solr Engine.solr lib u.env
    ⟨solrClient, c, u.api⟩ hu.holds hu.valid hu.faults ht.defaulted ht.active
  rw [h]
  exact (reconcileSolr_advance lib u.env ht.sound ht.codec hu.configMaps hn hs _ (hn ▸ hs ▸ hapi)
    hinv).lowers p (hu.ready ht solrClient hs hvalid) hp

/-- A clean pass over a deployable set, from a cluster keeping `Inv`, lowers the
    measure by one at least, unless it is already zero. -/
theorem reconcile_measure_le_pred (ht : t.Deployable lib) {u : Turn} (hu : u.Clean t)
    (solrClient : SolrClient) (c : Conn Engine) (hinv : Inv t c.state) :
    t.measure (reconcile Engine.solr lib u.env ⟨solrClient, c, u.api⟩).2.conn.state ≤
      t.measure c.state - 1 := by
  by_cases hsettled : ∀ p : Problem, ¬p.Holds t c.state
  · have hle := (reconcile_progress lib u.env ht.sound ht.codec hu.configMaps ⟨solrClient, c, u.api⟩
      hu.holds hinv).measure_le
    rw [Target.measure_eq_zero.mpr hsettled] at hle ⊢
    exact hle
  · obtain ⟨p, hp⟩ := not_forall_not.mp hsettled
    have := reconcile_settles ht hu solrClient c hinv hp
    omega

/-! ## Runs -/

/-- Along a run of clean passes over a deployable set, from a cluster keeping
    `Inv`, each pass lowers the measure by one at least, until nothing is left, and
    the cluster keeps `Inv`. -/
theorem runPasses_measure_le (ht : t.Deployable lib) :
    ∀ (turns : List Turn) (solrClient : SolrClient) (c : Conn Engine),
      (∀ u ∈ turns, u.Clean t) → Inv t c.state →
        Inv t (runPasses Engine.solr lib turns solrClient c).2.state ∧
          t.measure (runPasses Engine.solr lib turns solrClient c).2.state ≤
            t.measure c.state - turns.length
  | [], _, _, _, hinv => ⟨hinv, le_refl _⟩
  | u :: turns, solrClient, c, hturns, hinv => by
    have hu := hturns u (List.mem_cons_self _ _)
    have hinv' := (reconcile_progress lib u.env ht.sound ht.codec hu.configMaps ⟨solrClient, c, u.api⟩
      hu.holds hinv).1
    have hlen := reconcile_measure_le_pred ht hu solrClient c hinv
    obtain ⟨hinv'', hle⟩ := runPasses_measure_le ht turns _ _
      (fun u hu => hturns u (List.mem_cons_of_mem _ hu)) hinv'
    exact ⟨hinv'', hle.trans (by rw [List.length_cons]; omega)⟩

/-- The passes settle a deployable set. A clean pass from a cluster keeping `Inv`
    on which a problem stands lowers the measure. So along a run of clean passes
    the cluster keeps `Inv` and the measure falls by one at least with each pass
    until nothing is left, and a run as long as the measure or longer ends on a
    cluster with no problem standing: the checksum collection exists; every
    configmap's config set is uploaded, with its checksum recorded within the 1000
    rows `Query` returns; every desired instance exists with the spec's replication
    factor and replica count; and with cleanup on, no unprefixed collection or
    config set outside the spec is left. -/
theorem runPasses_settles (ht : t.Deployable lib) :
    (∀ (u : Turn) (solrClient : SolrClient) (c : Conn Engine), u.Clean t → Inv t c.state →
      (∃ p : Problem, p.Holds t c.state) →
        t.measure (reconcile Engine.solr lib u.env ⟨solrClient, c, u.api⟩).2.conn.state <
          t.measure c.state) ∧
    ∀ (turns : List Turn) (solrClient : SolrClient) (c : Conn Engine),
      (∀ u ∈ turns, u.Clean t) → Inv t c.state →
        Inv t (runPasses Engine.solr lib turns solrClient c).2.state ∧
        t.measure (runPasses Engine.solr lib turns solrClient c).2.state ≤
          t.measure c.state - turns.length ∧
        (t.measure c.state ≤ turns.length →
          ∀ p : Problem, ¬p.Holds t (runPasses Engine.solr lib turns solrClient c).2.state) :=
  ⟨fun _ solrClient c hu hinv ⟨_, hp⟩ => reconcile_settles ht hu solrClient c hinv hp,
    fun turns solrClient c hturns hinv =>
      have h := runPasses_measure_le ht turns solrClient c hturns hinv
      ⟨h.1, h.2, fun hlen => Target.measure_eq_zero.mp (by have := h.2; omega)⟩⟩

/-- Four clean passes from an empty cluster settle a blue/green set of one entry:
    the checksum collection, the entry's config set and its two instances. -/
theorem runPasses_settles_from_empty :
    let lib : Lib := ⟨Codec.go, .ok []⟩
    let spec : SolrCollectionSetSpec := ⟨"http://solr", "secret", some true, some 1, some true,
      some false, [⟨"x", "x", "x"⟩]⟩
    let t : Target := ⟨"set", spec, [⟨"x-configset", (∅ : GoMap String).insert "collection" "x",
      (∅ : GoMap String).insert "configset" "AA=="⟩], lib.codec⟩
    let u : Turn := ⟨⟨MapOrder.stored Site, 0, KubeFaults.none, fun _ => some ⟨∅⟩, .ok t.items⟩,
      ⟨some ⟨"set", "ns", spec, .empty⟩, [], []⟩⟩
    ∀ p : Problem, ¬p.Holds t (runPasses Engine.solr lib [u, u, u, u] SolrClient.zero ⟨⟨∅, ∅, ∅, ∅⟩, []⟩).2.state := by
  intro lib spec t u
  have hdeploy : t.Deployable lib := ⟨Target.sound_of_labels (by decide) (by decide), rfl,
    ⟨rfl, rfl, rfl, rfl, by decide⟩, rfl, by decide, by decide, by decide, ⟨_, rfl⟩, rfl,
    Target.decodes_of_items (by decide)⟩
  have hclean : u.Clean t := ⟨rfl, ⟨_, rfl, rfl, rfl⟩, fun _ h => by cases h; rfl, rfl, ⟨_, rfl⟩⟩
  have hinv : Inv t (⟨∅, ∅, ∅, ∅⟩ : Engine) :=
    ⟨fun h => absurd h (by decide), fun h => absurd h (by decide), by decide⟩
  exact ((runPasses_settles hdeploy).2 [u, u, u, u] SolrClient.zero ⟨⟨∅, ∅, ∅, ∅⟩, []⟩
    (by simp [hclean]) hinv).2.2 (by decide)

/-- No run makes the cluster worse: over any run of passes over the set, with its
    configmaps as they were, from a cluster keeping `Inv`, whatever the order of
    visits and whichever Kubernetes calls fail, every problem standing at the end
    stood at the start. A desired instance once there with the spec's replication
    factor and replica count stays so, a config set once uploaded with its checksum
    recorded stays so, and the checksum collection, once there, stays. -/
theorem runPasses_raises_no_problem (ht : t.Sound) (hcodec : lib.codec = t.codec) :
    ∀ (turns : List Turn) (solrClient : SolrClient) (c : Conn Engine),
      (∀ u ∈ turns, u.env.configMaps = .ok t.items ∧ u.api.Holds t.name t.spec) → Inv t c.state →
      ∀ p : Problem, p.Holds t (runPasses Engine.solr lib turns solrClient c).2.state → p.Holds t c.state
  | [], _, _, _, _ => fun _ h => h
  | u :: turns, solrClient, c, hturns, hinv => by
    obtain ⟨hitems, hapi⟩ := hturns u (List.mem_cons_self _ _)
    obtain ⟨hstep, hw⟩ := reconcile_progress_noWorse lib u.env ht hcodec hitems ⟨solrClient, c, u.api⟩
      hapi hinv
    exact hw.trans (runPasses_raises_no_problem ht hcodec turns _ _
      (fun u hu => hturns u (List.mem_cons_of_mem _ hu)) hstep.1)

/-- Two passes from an empty cluster whose status patches fail: they end after
    `UpdateStatus`, having created the checksum collection, and raise nothing. -/
theorem runPasses_raises_no_problem_failing_patch :
    let lib : Lib := ⟨Codec.go, .ok []⟩
    let spec : SolrCollectionSetSpec := ⟨"http://solr", "secret", some true, some 1, some true,
      some true, [⟨"x", "x", "x"⟩]⟩
    let t : Target := ⟨"set", spec, [⟨"x-configset", (∅ : GoMap String).insert "collection" "x",
      (∅ : GoMap String).insert "configset" "AA=="⟩], lib.codec⟩
    let u : Turn := ⟨⟨MapOrder.stored Site, 0, ⟨none, none, none, none, some "conflict", none, none, none⟩,
      fun _ => some ⟨∅⟩, .ok t.items⟩, ⟨some ⟨"set", "ns", spec, .empty⟩, [], []⟩⟩
    ∀ p : Problem, p.Holds t (runPasses Engine.solr lib [u, u] SolrClient.zero ⟨⟨∅, ∅, ∅, ∅⟩, []⟩).2.state →
      p.Holds t ⟨∅, ∅, ∅, ∅⟩ := by
  intro lib spec t u
  have hsound : t.Sound := Target.sound_of_labels (by decide) (by decide)
  have hu : u.env.configMaps = .ok t.items ∧ u.api.Holds t.name t.spec := ⟨rfl, _, rfl, rfl, rfl⟩
  have hinv : Inv t ⟨∅, ∅, ∅, ∅⟩ :=
    ⟨fun _ _ _ h => absurd h (by simp [AList.lookup_empty]), fun _ _ _ h => absurd h (by simp [AList.lookup_empty]),
      by decide⟩
  exact runPasses_raises_no_problem hsound rfl [u, u] SolrClient.zero ⟨⟨∅, ∅, ∅, ∅⟩, []⟩ (by simp [hu]) hinv

/-- A run of passes over the set, with its configmaps as they were, from a cluster
    keeping `Inv` on which no problem stands: whatever the order of visits and
    whichever Kubernetes calls fail, it leaves the cluster as it is and makes no
    mutating call. -/
theorem runPasses_keeps_settled (ht : t.Sound) (hcodec : lib.codec = t.codec) :
    ∀ (turns : List Turn) (solrClient : SolrClient) (c : Conn Engine),
      (∀ u ∈ turns, u.env.configMaps = .ok t.items ∧ u.api.Holds t.name t.spec) → Inv t c.state →
      (∀ p : Problem, ¬p.Holds t c.state) →
        (runPasses Engine.solr lib turns solrClient c).2.state = c.state ∧
          Conn.Extends (fun x => x.2.isMutating = false) c (runPasses Engine.solr lib turns solrClient c).2
  | [], _, c, _, _, _ => ⟨rfl, .refl _ _⟩
  | u :: turns, solrClient, c, hturns, hinv, hsettled => by
    obtain ⟨hitems, hapi⟩ := hturns u (List.mem_cons_self _ _)
    obtain ⟨-, hquiet | hlt⟩ := reconcile_progress lib u.env ht hcodec hitems ⟨solrClient, c, u.api⟩ hapi hinv
    · obtain ⟨hs, hext⟩ := hquiet
      obtain ⟨hs', hext'⟩ := runPasses_keeps_settled ht hcodec turns _ _
        (fun u hu => hturns u (List.mem_cons_of_mem _ hu)) (hs ▸ hinv) (hs ▸ hsettled)
      exact ⟨hs'.trans hs, hext.trans hext'⟩
    · rw [Target.measure_eq_zero.mpr hsettled] at hlt
      exact absurd hlt (Nat.not_lt_zero _)

/-- Passes over a settled set leave its cluster alone even when they cannot build a
    client: the secret is missing, and nothing needs one. -/
theorem runPasses_keeps_settled_without_secret :
    let lib : Lib := ⟨Codec.go, .ok []⟩
    let spec : SolrCollectionSetSpec := ⟨"http://solr", "secret", some true, some 1, some false,
      some false, [⟨"x", "x", "x"⟩]⟩
    let t : Target := ⟨"set", spec, [⟨"x-configset", (∅ : GoMap String).insert "collection" "x",
      (∅ : GoMap String).insert "configset" "AA=="⟩], lib.codec⟩
    let E : Engine := ⟨((∅ : GoMap Collection).insert "_setChecksums" ⟨"_setChecksums", 1, 1,
      "_checksums"⟩).insert "x" ⟨"x", 1, 1, "x"⟩, ∅, ((∅ : GoMap Bytes).insert "_checksums" []).insert
      "x" [0], (∅ : GoMap (List (String × String))).insert "_setChecksums"
      [("x", "60ab51e810dbe6b97d2683d40263be58")]⟩
    let u : Turn := ⟨⟨MapOrder.stored Site, 0, KubeFaults.none, fun _ => none, .ok t.items⟩,
      ⟨some ⟨"set", "ns", spec, .empty⟩, [], []⟩⟩
    (runPasses Engine.solr lib [u, u] SolrClient.zero ⟨E, []⟩).2.state = E ∧
      Conn.Extends (fun x => x.2.isMutating = false) ⟨E, []⟩
        (runPasses Engine.solr lib [u, u] SolrClient.zero ⟨E, []⟩).2 := by
  intro lib spec t E u
  have hsound : t.Sound := Target.sound_of_labels (by decide) (by decide)
  have hu : u.env.configMaps = .ok t.items ∧ u.api.Holds t.name t.spec := ⟨rfl, _, rfl, rfl, rfl⟩
  have hinv : Inv t E := ⟨fun h => absurd h (by decide), fun h => absurd h (by decide),
    by set_option maxRecDepth 100000 in decide⟩
  exact runPasses_keeps_settled hsound rfl [u, u] SolrClient.zero ⟨E, []⟩ (by simp [hu]) hinv
    (Target.measure_eq_zero.mp (by set_option maxRecDepth 100000 in decide))

end

end SolrOperator
