/-
  SolrOperator.Engine.Runs

  Runs of passes against one cluster, for any sets in any order: the interleaving
  of several `SolrCollectionSet`s that one operator process reconciles, each pass
  with its own faults and configmaps. A run moves the cluster only by the calls
  it logs (`runPasses_steps`), so the cluster it reaches is its start replayed
  over those calls (`solr_replay`), and what a run keeps is proved one call at a
  time: `answer_recordsOf` and its companions say what one answer of the engine
  can do to a name, and `run_keeps` carries that over any calls that delete no
  reserved name.

  A name is reserved when it begins with `_`, as every checksum collection and the
  `_checksums` config set do: no pass deletes such a name (`PassCall`), so the
  checksum records of every set survive the cleanup of every other set, and only
  the set's own passes add to them.
-/
import SolrOperator.Engine.Measure

namespace SolrOperator

namespace Engine

/-- The cluster the engine reaches by replaying calls is its start run over them. -/
theorem solr_replay (calls : List (SolrClient × Rpc)) (c : Conn Engine) :
    Engine.solr.replay calls c = ⟨c.state.run (calls.map Prod.snd), c.log ++ calls⟩ := by
  induction calls generalizing c with
  | nil => simp
  | cons x calls ih => simp [ih]

/-- A stretch through the engine leaves the cluster its calls make. -/
theorem steps_state {P : SolrClient × Rpc → Prop} {c c' : Conn Engine}
    (h : Engine.solr.Steps P c c') :
    ∃ calls : List (SolrClient × Rpc), c'.state = c.state.run (calls.map Prod.snd) ∧ ∀ x ∈ calls, P x := by
  obtain ⟨calls, rfl, hP⟩ := h
  exact ⟨calls, by rw [solr_replay], hP⟩

/-! ## One answer, seen from one name -/

section
variable (E : Engine) {k : String}

/-- A collection stays unless it is deleted. -/
theorem answer_mem_collections (r : Rpc) (h : k ∈ E.collections) (hr : r ≠ .deleteCollection k) :
    k ∈ (E.answer r).2.collections := by
  have hins {name : String} {col : Collection} : k ∈ E.collections.insert name col :=
    (AList.mem_insert _).mpr (.inr h)
  cases r with
  | deleteCollection name =>
    simp only [answer]
    split_ifs <;> first
      | exact h
      | exact AList.mem_erase.mpr ⟨fun he => hr (by rw [he]), h⟩
  | _ => simp only [answer]; (try split) <;> (try split_ifs) <;> first | exact h | exact hins

/-- A config set stays unless it is deleted. -/
theorem answer_mem_configSets (r : Rpc) (h : k ∈ E.configSets) (hr : r ≠ .deleteConfigSet k) :
    k ∈ (E.answer r).2.configSets := by
  cases r with
  | deleteConfigSet name =>
    simp only [answer]
    split_ifs <;> first
      | exact h
      | exact AList.mem_erase.mpr ⟨fun he => hr (by rw [he]), h⟩
  | uploadConfigSet => exact (AList.mem_insert _).mpr (.inr h)
  | _ => simp only [answer]; (try split) <;> (try split_ifs) <;> exact h

/-- The records of a name change only when a record is written to it, which adds
    one record at the end, or when it is deleted. -/
theorem answer_recordsOf (r : Rpc) (hr : r ≠ .deleteCollection k) :
    (E.answer r).2.recordsOf k = E.recordsOf k ∨
      ∃ record rec, r = .writeRecord k record ∧ (E.answer r).2.recordsOf k = E.recordsOf k ++ [rec] := by
  cases r with
  | setReplicationFactor name rf | addReplicas name rf | removeReplicas name rf =>
    left
    simp only [answer]
    split
    · rfl
    next col hcol =>
      refine recordsOf_congr ?_ rfl
      rw [setCollection_collections, AList.mem_insert, or_iff_right_iff_imp]
      rintro rfl
      exact GoMap.mem_iff_lookup.mpr ⟨col, hcol⟩
  | createCollection name configName rf =>
    left
    simp only [answer]
    split_ifs with hn <;> try rfl
    by_cases hk : k = name
    · subst hk
      simp [recordsOf, hn, create]
    · exact recordsOf_congr (by simp [hk]) (AList.lookup_insert_ne hk)
  | deleteCollection name =>
    left
    simp only [answer]
    have hk : k ≠ name := fun he => hr (by rw [he])
    split_ifs <;> first | rfl | exact recordsOf_congr (by simp [hk]) (AList.lookup_erase_ne hk)
  | writeRecord name record =>
    simp only [answer]
    split
    · exact .inl rfl
    next rec _ =>
      split_ifs with hn
      · by_cases hk : k = name
        · subst hk
          exact .inr ⟨record, rec, rfl, by simp [recordsOf, hn]⟩
        · exact .inl (recordsOf_congr (Iff.refl _) (AList.lookup_insert_ne hk))
      · exact .inl rfl
  | _ =>
    left
    simp only [answer]
    try split_ifs
    all_goals rfl

end

/-! ## What calls that delete no reserved name keep -/

/-- A call deletes a collection or a config set whose name begins with `_`. -/
def Rpc.deletesReserved : Rpc → Bool
  | .deleteCollection name | .deleteConfigSet name => hasPrefix name "_"
  | _ => false

/-- What no reserved deletion takes away: every collection and config set whose name
    begins with `_` stays, and the records of such a collection only grow, the old
    ones first. -/
structure Keeps (E E' : Engine) : Prop where
  collections : ∀ k, hasPrefix k "_" = true → k ∈ E.collections → k ∈ E'.collections
  records : ∀ k, hasPrefix k "_" = true → k ∈ E.collections → E.recordsOf k <+: E'.recordsOf k
  configSets : ∀ k, hasPrefix k "_" = true → k ∈ E.configSets → k ∈ E'.configSets

namespace Keeps

theorem refl (E : Engine) : Keeps E E :=
  ⟨fun _ _ h => h, fun _ _ _ => List.prefix_refl _, fun _ _ h => h⟩

theorem trans {E E' E'' : Engine} (h : Keeps E E') (h' : Keeps E' E'') : Keeps E E'' :=
  ⟨fun k hk hm => h'.collections k hk (h.collections k hk hm),
    fun k hk hm => (h.records k hk hm).trans (h'.records k hk (h.collections k hk hm)),
    fun k hk hm => h'.configSets k hk (h.configSets k hk hm)⟩

end Keeps

theorem ne_of_deletesReserved {r : Rpc} (h : Rpc.deletesReserved r = false) {k : String}
    (hk : hasPrefix k "_" = true) : r ≠ .deleteCollection k ∧ r ≠ .deleteConfigSet k := by
  constructor <;> rintro rfl <;> simp [Rpc.deletesReserved, hk] at h

/-- One answer to a call that deletes no reserved name keeps every reserved name. -/
theorem answer_keeps (E : Engine) {r : Rpc} (h : Rpc.deletesReserved r = false) :
    Keeps E (E.answer r).2 where
  collections k hk hm := E.answer_mem_collections r hm (ne_of_deletesReserved h hk).1
  records k hk _ := by
    rcases E.answer_recordsOf r (ne_of_deletesReserved h hk).1 with he | ⟨_, rec, _, he⟩ <;> rw [he]
    exact List.prefix_append _ [rec]
  configSets k hk hm := E.answer_mem_configSets r hm (ne_of_deletesReserved h hk).2

theorem run_keeps : ∀ (E : Engine) (rs : List Rpc), (∀ r ∈ rs, Rpc.deletesReserved r = false) →
    Keeps E (E.run rs)
  | E, [], _ => .refl E
  | E, r :: rs, h =>
    (E.answer_keeps (h r (List.mem_cons_self _ _))).trans
      (run_keeps _ rs fun r' hr' => h r' (List.mem_cons_of_mem _ hr'))

/-- Calls that neither write to nor delete a name leave its records as they were. -/
theorem run_recordsOf {k : String} : ∀ (E : Engine) (rs : List Rpc),
    (∀ r ∈ rs, r ≠ .deleteCollection k ∧ ∀ record, r ≠ .writeRecord k record) →
    (E.run rs).recordsOf k = E.recordsOf k
  | E, [], _ => rfl
  | E, r :: rs, h => by
    obtain ⟨hd, hw⟩ := h r (List.mem_cons_self _ _)
    rw [run_cons, run_recordsOf _ rs fun r' hr' => h r' (List.mem_cons_of_mem _ hr')]
    rcases E.answer_recordsOf r hd with he | ⟨record, _, rfl, _⟩
    · exact he
    · exact absurd rfl (hw record)

end Engine

/-! ## The calls of a pass -/

theorem checksumsCollectionName_injective {a b : String}
    (h : checksumsCollectionName a = checksumsCollectionName b) : a = b := by
  have hd := congrArg String.data h
  simp only [checksumsCollectionName, String.data_append, List.append_assoc, List.cons_append,
    List.nil_append, List.cons.injEq, true_and] at hd
  exact String.ext (List.append_cancel_right hd)

section
variable {name : String} {spec : SolrCollectionSetSpec}
  {configMapList : Except GoError (List ConfigMap)} {r : Rpc}

/-- No pass deletes a reserved name. -/
theorem PassCall.deletesReserved (h : PassCall name spec configMapList r) :
    Engine.Rpc.deletesReserved r = false := by
  cases r with
  | deleteCollection k => exact (h.deleteCollection_spec rfl).2.1
  | deleteConfigSet k => exact (h.deleteConfigSet_spec rfl).2.1
  | _ => rfl

/-- A pass writes records only to its own set's checksum collection. -/
theorem PassCall.writeRecord_name (h : PassCall name spec configMapList r) {k record : String}
    (hr : r = .writeRecord k record) : k = checksumsCollectionName name := by
  cases h with
  | init h => cases h <;> cases hr
  | configSet _ h =>
    cases h <;> cases hr
    rfl
  | collection _ h => cases h <;> cases hr
  | adjust k a => rcases adjustCall_cases k a with h | h <;> rw [h] at hr <;> cases hr

end

/-! ## Runs -/

section
variable (lib : Lib)

/-- Safety of every run: whichever sets one process reconciles, in whatever order,
    with whatever Kubernetes failures and configmaps, every collection and config
    set whose name begins with `_` that the cluster holds stays, and the records of
    such a collection only grow, the ones it held first in front. So no set's
    cleanup removes another set's checksum collection or its records. -/
theorem runPasses_keeps_reserved (turns : List Turn) (solrClient : SolrClient) (c : Conn Engine) :
    Engine.Keeps c.state (runPasses Engine.solr lib turns solrClient c).2.state := by
  obtain ⟨calls, hstate, hP⟩ := Engine.steps_state (runPasses_steps Engine.solr lib turns solrClient c)
  rw [hstate]
  refine Engine.run_keeps _ _ fun r hr => ?_
  obtain ⟨x, hx, rfl⟩ := List.mem_map.mp hr
  obtain ⟨_, _, obj, _, h⟩ := hP x hx
  exact h.deletesReserved

/-- Passes over other sets leave a set's checksum records as they were: whatever
    sets a run reconciles, in whatever order, if none of them is named `name`, the
    records of `name`'s checksum collection are those it started with. -/
theorem runPasses_keeps_other_checksums (name : String) (turns : List Turn) (solrClient : SolrClient)
    (c : Conn Engine) (hother : ∀ t ∈ turns, ∀ obj, t.api.stored = some obj → obj.name ≠ name) :
    (runPasses Engine.solr lib turns solrClient c).2.state.recordsOf (checksumsCollectionName name) =
      c.state.recordsOf (checksumsCollectionName name) := by
  obtain ⟨calls, hstate, hP⟩ := Engine.steps_state (runPasses_steps Engine.solr lib turns solrClient c)
  rw [hstate]
  refine Engine.run_recordsOf _ _ fun r hr => ?_
  obtain ⟨x, hx, rfl⟩ := List.mem_map.mp hr
  obtain ⟨t, ht, obj, hobj, h⟩ := hP x hx
  have hk : hasPrefix (checksumsCollectionName name) "_" = true :=
    hasPrefix_append_left _ _ _ (hasPrefix_append_left "_" _ _ (by decide))
  refine ⟨(Engine.ne_of_deletesReserved h.deletesReserved hk).1,
    fun record he => hother t ht obj hobj ?_⟩
  exact (checksumsCollectionName_injective (h.writeRecord_name he)).symm

end

/-- A pass over set `b`, with cleanup on, on a cluster holding set `a`'s checksum
    collection with one record. -/
theorem runPasses_keeps_other_checksums_cleanup :
    let E : Engine := ⟨(∅ : GoMap Collection).insert "_aChecksums" ⟨"_aChecksums", 1, 1, "_checksums"⟩,
      ∅, (∅ : GoMap Bytes).insert "_checksums" [],
      (∅ : GoMap (List (String × String))).insert "_aChecksums" [("x", "0")]⟩
    let secrets : String → Option Secret := fun name =>
      if name = "auth" then some ⟨((∅ : GoMap String).insert "username" "u").insert "password" "p"⟩
      else none
    let env : PassEnv := ⟨MapOrder.stored Site, 1, KubeFaults.none, secrets, .ok []⟩
    let set : SolrCollectionSet :=
      ⟨"b", "ns", ⟨"http://solr", "auth", some true, some 1, some true, some true, []⟩, .empty⟩
    let lib : Lib := ⟨Codec.go, .ok []⟩
    let turns : List Turn := [⟨env, ⟨some set, [], []⟩⟩]
    (∀ t ∈ turns, ∀ obj, t.api.stored = some obj → obj.name ≠ "a") ∧
      (runPasses Engine.solr lib turns SolrClient.zero ⟨E, []⟩).2.state.recordsOf
          (checksumsCollectionName "a") = E.recordsOf (checksumsCollectionName "a") := by
  intro E secrets env set lib turns
  have h : ∀ t ∈ turns, ∀ obj, t.api.stored = some obj → obj.name ≠ "a" := by
    intro t ht obj hobj
    rw [List.mem_singleton] at ht
    subst ht
    cases hobj
    decide
  exact ⟨h, runPasses_keeps_other_checksums lib "a" turns SolrClient.zero ⟨E, []⟩ h⟩

end SolrOperator
