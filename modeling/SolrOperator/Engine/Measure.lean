/-
  SolrOperator.Engine.Measure

  What stands between a cluster and one set's spec, item by item (`Problem`): the
  checksum collection missing, a configmap's config set still to upload, a config
  set or collection the cleanup removes, a desired instance missing, and an
  instance with the wrong replication factor or replica count. The measure of a
  cluster is the number of problems standing in it.

  `Inv` is what the passes keep: with cleanup on, no alias points at a collection
  the cleanup removes and no collection is built on a config set it removes, and
  the checksum collection has room, within the 1000 records `Query` returns, for
  a record of every config set still to upload.
-/
import SolrOperator.Engine.Model

namespace SolrOperator

/-- The configmaps by their `collection` label, later ones overwriting earlier, as
    `mapConfigMaps` files them; one without the label is passed over. -/
def labelMap (configMaps : GoMap ConfigMap) : List ConfigMap → GoMap ConfigMap
  | [] => configMaps
  | cm :: items =>
    match cm.labels.lookup "collection" with
    | none => labelMap configMaps items
    | some name => labelMap (configMaps.insert name cm) items

theorem mapConfigMaps_eq_labelMap : ∀ {items : List ConfigMap} {configMaps out : GoMap ConfigMap},
    mapConfigMaps configMaps items = .ok out → out = labelMap configMaps items
  | [], _, _, h => by cases h; rfl
  | cm :: items, configMaps, out, h => by
    cases hname : cm.labels.lookup "collection" with
    | none => simp only [mapConfigMaps, hname] at h; cases h
    | some name =>
      simp only [mapConfigMaps, hname] at h
      simp only [labelMap, hname]
      exact mapConfigMaps_eq_labelMap h

theorem mem_labelMap : ∀ {items : List ConfigMap} {configMaps : GoMap ConfigMap} {name : String},
    name ∈ labelMap configMaps items ↔
      name ∈ configMaps ∨ ∃ cm ∈ items, cm.labels.lookup "collection" = some name
  | [], _, _ => by simp [labelMap]
  | cm :: items, configMaps, name => by
    rw [List.exists_mem_cons_iff]
    simp only [labelMap]
    split <;> rename_i h <;> rw [mem_labelMap, h]
    · simp
    · rw [AList.mem_insert, Option.some.injEq, @eq_comm _ _ name, or_assoc, or_left_comm]

theorem Engine.recordsOf_congr {E E' : Engine} {name : String}
    (hm : name ∈ E'.collections ↔ name ∈ E.collections)
    (hr : E'.records.lookup name = E.records.lookup name) : E'.recordsOf name = E.recordsOf name := by
  unfold Engine.recordsOf
  rw [hr]
  by_cases h : name ∈ E.collections <;> simp [h, hm]

/-- What the passes over one set aim at: the set's name and spec, its configmaps,
    and the codec that checksums them. -/
structure Target where
  name : String
  spec : SolrCollectionSetSpec
  items : List ConfigMap
  codec : Codec

namespace Target

variable (t : Target) (E : Engine)

/-- The set's checksum collection. -/
def checksumsName : String := checksumsCollectionName t.name

/-- The set's configmaps by `collection` label. -/
def configMaps : GoMap ConfigMap := labelMap ∅ t.items

/-- The checksums as `ManageConfigSets` reads them back: from the first 1000 records
    of the checksum collection, later ones overwriting earlier. -/
def checksums : GoMap String :=
  ((E.recordsOf t.checksumsName).take 1000).foldl (fun m rec => m.insert rec.1 rec.2) ∅

/-- The config set of the configmap labelled `name` is still to upload: the cluster
    lacks it, or the checksum collection holds no checksum for it, or another one. -/
def pending (name : String) : Bool :=
  match t.configMaps.lookup name with
  | none => false
  | some cm => decide (name ∉ E.configSets) ||
      decide ((t.checksums E).lookup name ≠ some (checksum t.codec (cm.data.getString "configset")))

/-- The config sets still to upload. -/
def pendings : Finset String := t.configMaps.keys.toFinset.filter fun name => t.pending E name

theorem pending_iff {name : String} : t.pending E name = true ↔ ∃ cm, t.configMaps.lookup name = some cm ∧
    (name ∉ E.configSets ∨
      (t.checksums E).lookup name ≠ some (checksum t.codec (cm.data.getString "configset"))) := by
  simp only [pending]
  split <;> simp_all

theorem mem_of_pending {name : String} (h : t.pending E name = true) : name ∈ t.configMaps := by
  obtain ⟨cm, hcm, -⟩ := (t.pending_iff E).mp h
  exact GoMap.mem_iff_lookup.mpr ⟨cm, hcm⟩

theorem mem_pendings {name : String} : name ∈ t.pendings E ↔ t.pending E name = true := by
  simp only [pendings, Finset.mem_filter, List.mem_toFinset, AList.mem_keys]
  exact ⟨And.right, fun h => ⟨t.mem_of_pending E h, h⟩⟩

/-- Without checksum records every configmap's config set is still to upload. -/
theorem pending_of_records_nil (h : E.recordsOf t.checksumsName = []) (name : String) :
    t.pending E name = decide (name ∈ t.configMaps) := by
  have hsums : t.checksums E = ∅ := by rw [checksums, h]; rfl
  unfold pending
  split <;> rename_i hl
  · simp [AList.lookup_eq_none.mp hl]
  · simp [hsums, GoMap.mem_iff_lookup.mpr ⟨_, hl⟩, AList.lookup_empty]

theorem checksumsName_prefixed : hasPrefix t.checksumsName "_" = true :=
  hasPrefix_append_left _ _ _ (hasPrefix_append_left "_" _ _ (by decide))

variable {t} {E' : Engine}

theorem checksums_congr (h : E'.recordsOf t.checksumsName = E.recordsOf t.checksumsName) :
    t.checksums E' = t.checksums E := by
  rw [checksums, checksums, h]

/-- Whether a config set is still to upload depends only on which configmaps'
    config sets the cluster holds, and on the checksum collection's records. -/
theorem pending_congr (hc : ∀ x ∈ t.configMaps, x ∈ E'.configSets ↔ x ∈ E.configSets)
    (hr : E'.recordsOf t.checksumsName = E.recordsOf t.checksumsName) : t.pending E' = t.pending E := by
  funext name
  unfold pending
  split
  · rfl
  · rename_i cm h
    simp only [hc name (GoMap.mem_iff_lookup.mpr ⟨cm, h⟩), checksums_congr E hr]

theorem pendings_congr (hc : ∀ x ∈ t.configMaps, x ∈ E'.configSets ↔ x ∈ E.configSets)
    (hr : E'.recordsOf t.checksumsName = E.recordsOf t.checksumsName) : t.pendings E' = t.pendings E := by
  rw [pendings, pendings, pending_congr E hc hr]

end Target

/-! ## Problems and the measure -/

/-- One thing standing between the cluster and the spec. -/
inductive Problem where
  | checksumsMissing
  | pendingUpload (name : String)
  | strayConfigSet (name : String)
  | missingInstance (name : String)
  | strayCollection (name : String)
  | factorMismatch (name : String)
  | replicaMismatch (name : String)
  deriving DecidableEq

namespace Problem

variable (t : Target) (E : Engine)

/-- Whether the problem stands in the cluster. A stray config set or collection is
    one the cleanup removes. -/
def Holds : Problem → Prop
  | checksumsMissing => t.checksumsName ∉ E.collections
  | pendingUpload name => t.pending E name = true
  | strayConfigSet name => t.spec.cleanup = true ∧ name ∈ E.configSets ∧
      hasPrefix name "_" = false ∧ name ∉ t.configMaps
  | missingInstance name => name ∈ t.spec.instances ∧ name ∉ E.collections
  | strayCollection name => t.spec.cleanup = true ∧ name ∈ E.collections ∧
      hasPrefix name "_" = false ∧ name ∉ t.spec.instances
  | factorMismatch name => name ∈ t.spec.instances ∧
      ∃ col ∈ E.collections.lookup name, col.replicationFactor ≠ t.spec.rf
  | replicaMismatch name => name ∈ t.spec.instances ∧
      ∃ col ∈ E.collections.lookup name, col.replicaCount ≠ t.spec.rf

instance decHolds : (p : Problem) → Decidable (p.Holds t E)
  | checksumsMissing => inferInstanceAs (Decidable (t.checksumsName ∉ E.collections))
  | pendingUpload name => inferInstanceAs (Decidable (t.pending E name = true))
  | strayConfigSet name => inferInstanceAs (Decidable (t.spec.cleanup = true ∧ name ∈ E.configSets ∧
      hasPrefix name "_" = false ∧ name ∉ t.configMaps))
  | missingInstance name =>
    inferInstanceAs (Decidable (name ∈ t.spec.instances ∧ name ∉ E.collections))
  | strayCollection name => inferInstanceAs (Decidable (t.spec.cleanup = true ∧
      name ∈ E.collections ∧ hasPrefix name "_" = false ∧ name ∉ t.spec.instances))
  | factorMismatch name => inferInstanceAs (Decidable (name ∈ t.spec.instances ∧
      ∃ col ∈ E.collections.lookup name, col.replicationFactor ≠ t.spec.rf))
  | replicaMismatch name => inferInstanceAs (Decidable (name ∈ t.spec.instances ∧
      ∃ col ∈ E.collections.lookup name, col.replicaCount ≠ t.spec.rf))

/-- Every problem that can stand in the cluster, among others. -/
def candidates : List Problem :=
  checksumsMissing :: t.configMaps.keys.map pendingUpload ++ E.configSets.keys.map strayConfigSet ++
    t.spec.instances.keys.map missingInstance ++ E.collections.keys.map strayCollection ++
    t.spec.instances.keys.map factorMismatch ++ t.spec.instances.keys.map replicaMismatch

theorem mem_candidates {p : Problem} (h : p.Holds t E) : p ∈ candidates t E := by
  cases p <;> simp only [Holds] at h <;> simp [candidates]
  · exact t.mem_of_pending E h
  · exact h.2.1
  · exact h.1
  · exact h.2.1
  · exact h.1
  · exact h.1

end Problem

namespace Target

variable (t : Target)

/-- The problems standing in the cluster. -/
def problems (E : Engine) : Finset Problem := ((Problem.candidates t E).filter (decide <| ·.Holds t E)).toFinset

/-- The measure: how many problems stand in the cluster. -/
def measure (E : Engine) : Nat := (t.problems E).card

theorem mem_problems {E : Engine} {p : Problem} : p ∈ t.problems E ↔ p.Holds t E := by
  simp only [problems, List.mem_toFinset, List.mem_filter, decide_eq_true_eq]
  exact ⟨And.right, fun h => ⟨p.mem_candidates t E h, h⟩⟩

variable {t} {E E' : Engine}

/-- A change that raises no problem does not raise the measure. -/
theorem measure_le (h : ∀ p : Problem, p.Holds t E' → p.Holds t E) : t.measure E' ≤ t.measure E :=
  Finset.card_le_card fun p hp => t.mem_problems.mpr (h p (t.mem_problems.mp hp))

/-- A change that raises no problem and settles one lowers the measure. -/
theorem measure_lt (h : ∀ p : Problem, p.Holds t E' → p.Holds t E) (p : Problem)
    (hp : p.Holds t E) (hp' : ¬p.Holds t E') : t.measure E' < t.measure E :=
  Finset.card_lt_card (Finset.ssubset_iff_of_subset
    (fun q hq => t.mem_problems.mpr (h q (t.mem_problems.mp hq))) |>.mpr
      ⟨p, t.mem_problems.mpr hp, fun hq => hp' (t.mem_problems.mp hq)⟩)

end Target

/-- Every problem standing on `E'` stands on `E`: a stretch from `E` to `E'`
    raised none. -/
def Target.NoWorse (t : Target) (E E' : Engine) : Prop := ∀ p : Problem, p.Holds t E' → p.Holds t E

namespace Target.NoWorse

variable {t : Target} {E E' E'' : Engine}

theorem refl (E : Engine) : t.NoWorse E E := fun _ h => h

theorem trans (h : t.NoWorse E E') (h' : t.NoWorse E' E'') : t.NoWorse E E'' := fun p hp => h p (h' p hp)

end Target.NoWorse

/-! ## What the passes keep -/

/-- The clusters the passes over a set keep: with cleanup on, every alias points at
    a collection the cleanup spares and every collection is built on a config set
    it spares; and the checksum collection has room for a record of every config
    set still to upload within the 1000 that `Query` returns. -/
structure Inv (t : Target) (E : Engine) : Prop where
  aliases : t.spec.cleanup = true → ∀ a name, E.aliases.lookup a = some name →
    name ∈ E.collections → hasPrefix name "_" = false → name ∈ t.spec.instances
  configSets : t.spec.cleanup = true → ∀ k col, E.collections.lookup k = some col →
    hasPrefix col.configName "_" = false → col.configName ∈ t.configMaps
  room : (E.recordsOf t.checksumsName).length + (t.pendings E).card ≤ 1000

/-- The room for records holds on any cluster with the configmaps' config sets and
    the checksum records of one keeping `Inv`. -/
theorem Inv.room_congr {t : Target} {E E' : Engine} (h : Inv t E)
    (hc : ∀ x ∈ t.configMaps, x ∈ E'.configSets ↔ x ∈ E.configSets)
    (hr : E'.recordsOf t.checksumsName = E.recordsOf t.checksumsName) :
    (E'.recordsOf t.checksumsName).length + (t.pendings E').card ≤ 1000 := by
  rw [hr, t.pendings_congr E hc hr]
  exact h.room

/-- A stretch of a pass that either only read the cluster, or lowered the measure;
    the cluster keeps `Inv` after it. -/
def Progress (t : Target) (c c' : Conn Engine) : Prop :=
  Inv t c'.state ∧
    ((c'.state = c.state ∧ Conn.Extends (fun x => x.2.isMutating = false) c c') ∨
      t.measure c'.state < t.measure c.state)

namespace Progress

variable {t : Target} {c c' c'' : Conn Engine}

theorem refl (h : Inv t c.state) : Progress t c c := ⟨h, .inl ⟨rfl, .refl _ _⟩⟩

theorem of_log_eq (h : Inv t c.state) (hs : c'.state = c.state) (hl : c'.log = c.log) :
    Progress t c c' := ⟨hs ▸ h, .inl ⟨hs, .of_log_eq hl⟩⟩

theorem trans (h : Progress t c c') (h' : Progress t c' c'') : Progress t c c'' := by
  refine ⟨h'.1, ?_⟩
  rcases h.2 with ⟨hs, he⟩ | hlt <;> rcases h'.2 with ⟨hs', he'⟩ | hlt'
  · exact .inl ⟨hs'.trans hs, he.trans he'⟩
  · exact .inr (hs ▸ hlt')
  · exact .inr (hs' ▸ hlt)
  · exact .inr (hlt'.trans hlt)

/-- Reads leave a stretch that only read the cluster. -/
theorem of_reads (h : Inv t c.state) (hs : c'.state = c.state) {l : List (SolrClient × Rpc)}
    (hl : c'.log = c.log ++ l) (hr : ∀ x ∈ l, x.2.isMutating = false) : Progress t c c' :=
  ⟨hs ▸ h, .inl ⟨hs, l, hl, hr⟩⟩

/-- A read is a stretch that only read the cluster. -/
theorem read (h : Inv t c.state) (cl : SolrClient) {r : Rpc} (hr : r.isMutating = false) :
    Progress t c (Engine.solr.call cl r c).2 := by
  have hs : (Engine.solr.call cl r c).2.state = c.state := Engine.answer_state_of_read _ hr
  exact ⟨hs ▸ h, .inl ⟨hs, Engine.solr.call_extends cl r c hr⟩⟩

/-- The stretch is one of strict progress. -/
theorem of_lt (h : Inv t c'.state) (hlt : t.measure c'.state < t.measure c.state) :
    Progress t c c' := ⟨h, .inr hlt⟩

theorem measure_le (h : Progress t c c') : t.measure c'.state ≤ t.measure c.state := by
  rcases h.2 with ⟨hs, -⟩ | hlt
  · rw [hs]
  · exact hlt.le

end Progress

/-- A stretch of a pass that keeps `Progress`, raises no problem, and lowers the
    measure whenever a problem of a kind `K` stands at its start. -/
structure Advance (t : Target) (K : Problem → Prop) (c c' : Conn Engine) : Prop where
  progress : Progress t c c'
  noWorse : t.NoWorse c.state c'.state
  lowers : ∀ p, K p → p.Holds t c.state → t.measure c'.state < t.measure c.state

namespace Advance

variable {t : Target} {K K' : Problem → Prop} {c c' c'' : Conn Engine}

/-- Two stretches lower the measure on the problems either lowers it on: the second
    starts on the cluster the first found, unless the first lowered the measure. -/
theorem trans (h : Advance t K c c') (h' : Advance t K' c' c'') :
    Advance t (fun p => K p ∨ K' p) c c'' := by
  refine ⟨h.progress.trans h'.progress, h.noWorse.trans h'.noWorse, fun p hp hold => ?_⟩
  rcases hp with hp | hp
  · exact lt_of_le_of_lt h'.progress.measure_le (h.lowers p hp hold)
  · rcases h.progress.2 with ⟨hs, -⟩ | hlt
    · have := h'.lowers p hp (hs ▸ hold)
      rwa [hs] at this
    · exact lt_of_le_of_lt h'.progress.measure_le hlt

end Advance

end SolrOperator
