/-
  SolrOperator.Engine.Tenancy

  Sets sharing one Solr cluster. With cleanup off, the problems of a set read the
  cluster only under the names the set is made of (`Target.names`): its checksum
  collection, the config sets its configmaps are labelled with, and its instances
  (`Target.noWorse_of_untouched`). A pass over another set that claims none of
  those names and has cleanup off leaves what the cluster holds under them as it
  was (`reconcile_beside`, the frame of `Engine.Isolation` for one pass). A tenant
  with cleanup on would delete the set's instances, which are unprefixed and
  outside its spec, so cleanup off is a hypothesis for every set.

  So whatever other sets one process reconciles between a set's passes, and
  whichever of their Kubernetes calls fail, the set's own clean passes settle it
  as they would alone (`runPasses_settles_beside_tenants`): the number of its own
  passes, not the length of the run, is what must reach the measure.
-/
import SolrOperator.Engine.Settling
import SolrOperator.Engine.Isolation

namespace SolrOperator

/-- The names the problems of the set read the cluster under: its checksum
    collection, the config sets of its configmaps, and its instances. -/
def Target.names (t : Target) : List String :=
  t.checksumsName :: t.configMaps.keys ++ t.spec.instances.keys

/-- The turn is a pass over the set named `name`. -/
def Turn.over (name : String) (u : Turn) : Bool := u.api.stored.any fun o => o.name == name

/-- The turn is a pass over another tenant of the cluster: a set, if the server
    holds one, with cleanup off that claims none of the names of `t`. -/
def Turn.Beside (t : Target) (u : Turn) : Prop :=
  ∀ obj, u.api.stored = some obj →
    obj.spec.cleanup = false ∧ ∀ k ∈ t.names, Unclaimed obj.name obj.spec u.env.configMaps k

/-! ## What the problems of a set read -/

namespace Engine.Untouched

variable {k : String} {E E' : Engine}

theorem mem_collections_iff (h : Untouched False k E E') : k ∈ E'.collections ↔ k ∈ E.collections := by
  rw [← AList.lookup_isSome, ← AList.lookup_isSome, h.collection.resolve_right fun h => h.2]

theorem recordsOf_eq (h : Untouched False k E E') : E'.recordsOf k = E.recordsOf k :=
  h.records.resolve_right fun h => h.2

theorem mem_configSets_iff (h : Untouched False k E E') : k ∈ E'.configSets ↔ k ∈ E.configSets := by
  rw [← AList.lookup_isSome, ← AList.lookup_isSome, h.configSet.resolve_right fun h => h.2]

end Engine.Untouched

section
variable {t : Target} {E E' : Engine}

theorem Target.checksumsName_mem_names : t.checksumsName ∈ t.names := List.mem_cons_self _ _

theorem Target.mem_names_of_configMaps {x : String} (h : x ∈ t.configMaps) : x ∈ t.names :=
  List.mem_cons_of_mem _ (List.mem_append_left _ (AList.mem_keys.mpr h))

theorem Target.mem_names_of_instances {k : String} (h : k ∈ t.spec.instances) : k ∈ t.names :=
  List.mem_cons_of_mem _ (List.mem_append_right _ (AList.mem_keys.mpr h))

/-- A cluster that holds what `E` holds under the names of a set with cleanup off
    has the problems of `E` for the set, and keeps `Inv` for it if `E` does. -/
theorem Target.noWorse_of_untouched (hcl : t.spec.cleanup = false)
    (hU : ∀ k ∈ t.names, Engine.Untouched False k E E') : t.NoWorse E E' ∧ (Inv t E → Inv t E') := by
  have hcfg : ∀ x ∈ t.configMaps, x ∈ E'.configSets ↔ x ∈ E.configSets := fun x hx =>
    (hU x (Target.mem_names_of_configMaps hx)).mem_configSets_iff
  have hrec := (hU _ Target.checksumsName_mem_names).recordsOf_eq
  have hlookup : ∀ {k}, k ∈ t.spec.instances → E'.collections.lookup k = E.collections.lookup k :=
    fun hk => (hU _ (Target.mem_names_of_instances hk)).collection.resolve_right fun h => h.2
  refine ⟨fun p hp => ?_, fun hinv => ⟨fun h => absurd h (by simp [hcl]),
    fun h => absurd h (by simp [hcl]), hinv.room_congr hcfg hrec⟩⟩
  cases p with
  | checksumsMissing => exact fun h => hp ((hU _ Target.checksumsName_mem_names).mem_collections_iff.mpr h)
  | pendingUpload x => rwa [Problem.Holds, t.pending_congr E hcfg hrec] at hp
  | strayConfigSet x => exact absurd hp.1 (by simp [hcl])
  | missingInstance k =>
    exact ⟨hp.1, fun h => hp.2 ((hU _ (Target.mem_names_of_instances hp.1)).mem_collections_iff.mpr h)⟩
  | strayCollection k => exact absurd hp.1 (by simp [hcl])
  | factorMismatch k => exact ⟨hp.1, by rw [← hlookup hp.1]; exact hp.2⟩
  | replicaMismatch k => exact ⟨hp.1, by rw [← hlookup hp.1]; exact hp.2⟩

end

/-! ## A pass over another tenant -/

section
variable {t : Target} {lib : Lib}

/-- A pass over another tenant leaves what the cluster holds under the names of `t`. -/
theorem reconcile_beside {u : Turn} (hu : u.Beside t) (solrClient : SolrClient) (c : Conn Engine) :
    ∀ k ∈ t.names, Engine.Untouched False k c.state
      (reconcile Engine.solr lib u.env ⟨solrClient, c, u.api⟩).2.conn.state := by
  intro k hk
  obtain ⟨calls, hstate, hP⟩ :=
    Engine.steps_state (reconcile_steps_held Engine.solr lib u.env ⟨solrClient, c, u.api⟩)
  rw [hstate]
  refine Engine.run_untouched _ _ fun r hr => ?_
  obtain ⟨x, hx, rfl⟩ := List.mem_map.mp hr
  obtain ⟨obj, hobj, h⟩ := hP x hx
  obtain ⟨hcl, hun⟩ := hu obj hobj
  exact (h.spares (hun k hk)).mono fun hc => by rw [hcl] at hc; cases hc

/-! ## Runs among tenants -/

/-- Liveness among tenants: in a run of passes over a deployable set with cleanup
    off and over other tenants of the cluster, each with cleanup off and claiming
    none of the set's names, in any interleaving and whatever the other passes'
    faults, once the set's own passes are clean and at least as many as the
    measure, no problem of the set stands at the end. -/
theorem runPasses_settles_beside_tenants (ht : t.Deployable lib) (hcl : t.spec.cleanup = false) :
    ∀ (turns : List Turn) (solrClient : SolrClient) (c : Conn Engine),
      (∀ u ∈ turns, u.over t.name = true → u.Clean t) →
      (∀ u ∈ turns, u.over t.name = false → u.Beside t) →
      Inv t c.state → t.measure c.state ≤ turns.countP (Turn.over t.name) →
        ∀ p : Problem, ¬p.Holds t (runPasses Engine.solr lib turns solrClient c).2.state
  | [], _, _, _, _, _, hlen => Target.measure_eq_zero.mp (Nat.le_zero.mp hlen)
  | u :: turns, solrClient, c, hown, hother, hinv, hlen => by
    have hown' := fun v hv => hown v (List.mem_cons_of_mem u hv)
    have hother' := fun v hv => hother v (List.mem_cons_of_mem u hv)
    cases hu : u.over t.name
    · -- a pass over another tenant leaves the set's problems and `Inv`
      obtain ⟨hw, hkeep⟩ := Target.noWorse_of_untouched hcl
        (@reconcile_beside t lib u (hother u (List.mem_cons_self _ _) hu) solrClient c)
      simp only [List.countP_cons, hu, Bool.false_eq_true, if_false, Nat.add_zero] at hlen
      exact runPasses_settles_beside_tenants ht hcl turns _ _ hown' hother' (hkeep hinv)
        ((Target.measure_le hw).trans hlen)
    · -- its own pass lowers the measure, unless nothing is left
      have hc := hown u (List.mem_cons_self _ _) hu
      have hinv' := (reconcile_progress lib u.env ht.sound ht.codec hc.configMaps ⟨solrClient, c, u.api⟩
        hc.holds hinv).1
      have hlen' := reconcile_measure_le_pred ht hc solrClient c hinv
      simp only [List.countP_cons, hu, if_true] at hlen
      exact runPasses_settles_beside_tenants ht hcl turns _ _ hown' hother' hinv' (by omega)

/-- Sets `a` and `b` share an empty cluster, both with cleanup off, and the process
    visits them in turn: `a`'s three clean passes settle it, the measure being its
    checksum collection, its config set and its instance. -/
theorem runPasses_settles_beside_tenants_interleaved :
    let lib : Lib := ⟨Codec.go, .ok []⟩
    let specA : SolrCollectionSetSpec := ⟨"http://solr", "secret", some true, some 1, some false,
      some false, [⟨"x", "x", "x"⟩]⟩
    let specB : SolrCollectionSetSpec := ⟨"http://solr", "secret", some true, some 1, some false,
      some false, [⟨"y", "y", "y"⟩]⟩
    let t : Target := ⟨"a", specA, [⟨"x-configset", (∅ : GoMap String).insert "collection" "x",
      (∅ : GoMap String).insert "configset" "AA=="⟩], lib.codec⟩
    let ua : Turn := ⟨⟨MapOrder.stored Site, 0, KubeFaults.none, fun _ => some ⟨∅⟩, .ok t.items⟩,
      ⟨some ⟨"a", "ns", specA, .empty⟩, [], []⟩⟩
    let ub : Turn := ⟨⟨MapOrder.stored Site, 0, KubeFaults.none, fun _ => some ⟨∅⟩,
      .ok [⟨"y-configset", (∅ : GoMap String).insert "collection" "y",
        (∅ : GoMap String).insert "configset" "AQ=="⟩]⟩,
      ⟨some ⟨"b", "ns", specB, .empty⟩, [], []⟩⟩
    ∀ p : Problem, ¬p.Holds t
      (runPasses Engine.solr lib [ua, ub, ua, ub, ua] SolrClient.zero ⟨⟨∅, ∅, ∅, ∅⟩, []⟩).2.state := by
  intro lib specA specB t ua ub
  have hdeploy : t.Deployable lib := ⟨Target.sound_of_labels (by decide) (by decide), rfl,
    ⟨rfl, rfl, rfl, rfl, by decide⟩, rfl, by decide, by decide, by decide, ⟨_, rfl⟩, rfl,
    Target.decodes_of_items (by decide)⟩
  have hclean : ua.Clean t := ⟨rfl, ⟨_, rfl, rfl, rfl⟩, fun _ h => by cases h; rfl, rfl, ⟨_, rfl⟩⟩
  have hbeside : ub.Beside t := by
    rintro obj ⟨⟩
    refine ⟨rfl, fun k hk => ?_⟩
    have hn : t.names = ["_aChecksums", "x", "x"] := rfl
    have hk' : k = "_aChecksums" ∨ k = "x" := by simpa [hn] using hk
    rcases hk' with rfl | rfl <;> refine ⟨by decide, by decide, by decide, ?_, by decide⟩ <;>
      rintro ⟨items, ⟨⟩, cm, hcm, hl⟩ <;> rw [List.mem_singleton] at hcm <;> subst hcm <;>
      exact absurd hl (by decide)
  have hinv : Inv t (⟨∅, ∅, ∅, ∅⟩ : Engine) :=
    ⟨fun h => absurd h (by decide), fun h => absurd h (by decide), by decide⟩
  have hoa : ua.over t.name = true := rfl
  have hob : ub.over t.name = false := rfl
  exact runPasses_settles_beside_tenants hdeploy rfl [ua, ub, ua, ub, ua] SolrClient.zero
    ⟨⟨∅, ∅, ∅, ∅⟩, []⟩ (by simp [hclean, hob]) (by simp [hbeside, hoa]) hinv (by decide)

end

end SolrOperator
