/-
  SolrOperator.Engine.Isolation

  What runs do to the names no reconciled set claims. A set claims the instance
  names `mapCollections` gives its spec, its checksum collection, the aliases of its
  spec entries, the config sets its configmaps are labelled with, and the shared
  `_checksums` config set (`Unclaimed`). Whichever sets one process reconciles, in
  whatever order, no pass creates, changes or writes to any other collection, alias
  or config set of the cluster: what the cluster holds under such a name stays, or
  is deleted, and then only by a set whose cleanup is on
  (`runPasses_spares_unclaimed`). So sets that share a cluster with other tenants
  leave those tenants alone as long as none of them cleans up.

  The proof is the frame of one engine answer (`Rpc.Spares`, `answer_untouched`),
  what each `PassCall` can name (`PassCall.spares`), and the replay of a run.
-/
import SolrOperator.Engine.Runs

namespace SolrOperator

/-! ## One call, seen from one name -/

/-- The call leaves the name `k` alone, or deletes what `k` names while `cleaning`. -/
def Rpc.Spares (cleaning : Prop) (k : String) : Rpc → Prop
  | .createCollection n _ _ | .setReplicationFactor n _ | .addReplicas n _ | .removeReplicas n _
  | .writeRecord n _ | .assignAlias n _ | .uploadConfigSet n _ => k ≠ n
  | .deleteCollection n | .deleteAlias n | .deleteConfigSet n => k = n → cleaning
  | .getClusterStatus | .getConfigSets | .query _ _ => True

theorem Rpc.Spares.mono {p q : Prop} {k : String} {r : Rpc} (h : r.Spares p k) (hpq : p → q) :
    r.Spares q k := by
  cases r <;> first | exact h | exact fun he => hpq (h he)

namespace Engine

/-- What the cluster `E'` holds under the name `k` is what `E` holds, or is deleted,
    and then `cleaning`: as a collection with its records, as an alias, as a config set. -/
structure Untouched (cleaning : Prop) (k : String) (E E' : Engine) : Prop where
  collection : E'.collections.lookup k = E.collections.lookup k ∨
    E'.collections.lookup k = none ∧ cleaning
  records : E'.recordsOf k = E.recordsOf k ∨ E'.collections.lookup k = none ∧ cleaning
  «alias» : E'.aliases.lookup k = E.aliases.lookup k ∨ E'.aliases.lookup k = none ∧ cleaning
  configSet : E'.configSets.lookup k = E.configSets.lookup k ∨
    E'.configSets.lookup k = none ∧ cleaning

namespace Untouched

variable {cleaning : Prop} {k : String} {E E' E'' : Engine}

theorem of_eq (hc : E'.collections.lookup k = E.collections.lookup k)
    (hr : E'.records.lookup k = E.records.lookup k) (ha : E'.aliases.lookup k = E.aliases.lookup k)
    (hs : E'.configSets.lookup k = E.configSets.lookup k) : Untouched cleaning k E E' :=
  ⟨.inl hc, .inl (recordsOf_congr (by simp only [← AList.lookup_isSome, hc]) hr), .inl ha, .inl hs⟩

theorem refl (E : Engine) : Untouched cleaning k E E := of_eq rfl rfl rfl rfl

theorem same_or_gone_trans {α : Type} {x y z : Option α} (h : y = x ∨ y = none ∧ cleaning)
    (h' : z = y ∨ z = none ∧ cleaning) : z = x ∨ z = none ∧ cleaning := by
  rcases h' with rfl | h'
  · exact h
  · exact .inr h'

theorem trans (h : Untouched cleaning k E E') (h' : Untouched cleaning k E' E'') :
    Untouched cleaning k E E'' where
  collection := same_or_gone_trans h.collection h'.collection
  records := by
    rcases h'.records with h2 | h2
    · rw [h2]
      refine h.records.imp_right fun ⟨hn, hc⟩ => ⟨?_, hc⟩
      rcases h'.collection with h3 | h3
      · rw [h3, hn]
      · exact h3.1
    · exact .inr h2
  «alias» := same_or_gone_trans h.alias h'.alias
  configSet := same_or_gone_trans h.configSet h'.configSet

end Untouched

/-- One answer to a call that spares `k`. -/
theorem answer_untouched (E : Engine) {cleaning : Prop} {k : String} {r : Rpc}
    (h : r.Spares cleaning k) : Untouched cleaning k E (E.answer r).2 := by
  cases r with
  | getClusterStatus | getConfigSets => exact .refl E
  | query n q =>
    simp only [answer]
    split <;> exact .refl E
  | uploadConfigSet n body => exact .of_eq rfl rfl rfl (AList.lookup_insert_ne h)
  | deleteConfigSet n =>
    have hok : Untouched cleaning k E { E with configSets := E.configSets.erase n } := by
      by_cases hn : k = n
      · subst hn
        exact ⟨.inl rfl, .inl rfl, .inl rfl, .inr ⟨AList.lookup_erase _ _, h rfl⟩⟩
      · exact .of_eq rfl rfl rfl (AList.lookup_erase_ne hn)
    simp only [answer]
    split_ifs <;> first | exact .refl E | exact hok
  | setReplicationFactor n _ | addReplicas n _ | removeReplicas n _ =>
    simp only [answer]
    split
    · exact .refl E
    · exact .of_eq (AList.lookup_insert_ne h) rfl rfl rfl
  | createCollection n _ _ =>
    simp only [answer]
    split_ifs <;> first
      | exact .refl E
      | exact .of_eq (AList.lookup_insert_ne h) (AList.lookup_insert_ne h) rfl rfl
  | assignAlias a n =>
    simp only [answer]
    split_ifs <;> first | exact .refl E | exact .of_eq rfl rfl (AList.lookup_insert_ne h) rfl
  | deleteAlias a =>
    by_cases ha : k = a
    · subst ha
      exact ⟨.inl rfl, .inl rfl, .inr ⟨AList.lookup_erase _ _, h rfl⟩, .inl rfl⟩
    · exact .of_eq rfl rfl (AList.lookup_erase_ne ha) rfl
  | deleteCollection n =>
    have hok : Untouched cleaning k E
        { E with collections := E.collections.erase n, records := E.records.erase n } := by
      by_cases hn : k = n
      · subst hn
        exact ⟨.inr ⟨AList.lookup_erase _ _, h rfl⟩, .inr ⟨AList.lookup_erase _ _, h rfl⟩, .inl rfl,
          .inl rfl⟩
      · exact .of_eq (AList.lookup_erase_ne hn) (AList.lookup_erase_ne hn) rfl rfl
    simp only [answer]
    split_ifs <;> first | exact .refl E | exact hok
  | writeRecord n record =>
    simp only [answer]
    split
    · exact .refl E
    · split_ifs
      · exact .of_eq rfl (AList.lookup_insert_ne h) rfl rfl
      · exact .refl E

/-- Calls that each spare `k`, one after another. -/
theorem run_untouched {cleaning : Prop} {k : String} : ∀ (E : Engine) (rs : List Rpc),
    (∀ r ∈ rs, r.Spares cleaning k) → Untouched cleaning k E (E.run rs)
  | E, [], _ => .refl E
  | E, r :: rs, h =>
    (E.answer_untouched (h r (List.mem_cons_self _ _))).trans
      (run_untouched _ rs fun r' hr' => h r' (List.mem_cons_of_mem _ hr'))

end Engine

/-! ## What a pass can name -/

/-- The set `name`, with spec `spec` and configmap list `configMapList`, does not
    claim the name `k`: it is not one of the spec's instances, not the set's checksum
    collection, not the alias of a spec entry, not a config set the set's configmaps
    are labelled with, and not the shared checksum config set. -/
structure Unclaimed (name : String) (spec : SolrCollectionSetSpec)
    (configMapList : Except GoError (List ConfigMap)) (k : String) : Prop where
  instances : k ∉ spec.instances
  checksums : k ≠ checksumsCollectionName name
  aliases : ∀ c ∈ spec.collections, k ≠ c.alias
  configMaps : ¬Labelled configMapList k
  schema : k ≠ configChecksumsConfigSetName

section
variable {name : String} {spec : SolrCollectionSetSpec}
  {configMapList : Except GoError (List ConfigMap)} {r : Rpc} {k : String}

theorem ne_of_mem_instances (hk : Unclaimed name spec configMapList k) {n : String}
    (hn : n ∈ spec.instances) : k ≠ n := fun he => hk.instances (he ▸ hn)

/-- The bootstrap of the checksum collection names only that collection and the
    shared checksum config set. -/
theorem InitCall.spares {checksumsCollectionName : String} {replicationFactor : Int32}
    (h : InitCall checksumsCollectionName replicationFactor r) (hk : k ≠ checksumsCollectionName)
    (hs : k ≠ configChecksumsConfigSetName) : r.Spares False k := by
  cases h
  · trivial
  · exact hs
  · exact hk

/-- A pass names an unclaimed name only to delete it, and only with cleanup on. -/
theorem PassCall.spares (h : PassCall name spec configMapList r)
    (hk : Unclaimed name spec configMapList k) : r.Spares (spec.cleanup = true) k := by
  cases h with
  | init h => exact (h.spares hk.checksums hk.schema).mono False.elim
  | configSet hs h =>
    subst hs
    cases h with
    | getConfigSets | query => trivial
    | uploadConfigSet n _ hl => exact fun he => hk.configMaps (he ▸ hl)
    | writeRecord => exact hk.checksums
    | deleteConfigSet n hc => exact fun _ => hc
  | collection hs h =>
    subst hs
    cases h with
    | createCollection hl => exact ne_of_mem_instances hk (AList.lookup_isSome.mp (by rw [hl]; rfl))
    | assignAlias hl => exact hk.aliases _ (lookup_instances hl).1
    | deleteAlias ht | deleteCollection ht => exact fun _ => ht.1
    | setReplicationFactor _ hn => exact ne_of_mem_instances hk hn
  | adjust n a hn =>
    rcases adjustCall_cases n a with he | he <;> rw [he] <;> exact ne_of_mem_instances hk hn

end

/-! ## Runs -/

section
variable (lib : Lib)

/-- Isolation of every run: whichever sets one process reconciles, in whatever order,
    with whatever Kubernetes failures and configmaps, a name that none of them claims
    is never created, changed or written to, as a collection, an alias or a config
    set: what the cluster holds under it stays as it was, or is deleted, and that
    only when some set has cleanup on. -/
theorem runPasses_spares_unclaimed (turns : List Turn) (solrClient : SolrClient) (c : Conn Engine)
    (k : String)
    (hk : ∀ t ∈ turns, ∀ obj, t.api.stored = some obj → Unclaimed obj.name obj.spec t.env.configMaps k) :
    Engine.Untouched (∃ t ∈ turns, ∃ obj, t.api.stored = some obj ∧ obj.spec.cleanup = true) k
      c.state (runPasses Engine.solr lib turns solrClient c).2.state := by
  obtain ⟨calls, hstate, hP⟩ := Engine.steps_state (runPasses_steps Engine.solr lib turns solrClient c)
  rw [hstate]
  refine Engine.run_untouched _ _ fun r hr => ?_
  obtain ⟨x, hx, rfl⟩ := List.mem_map.mp hr
  obtain ⟨t, ht, obj, hobj, h⟩ := hP x hx
  exact (h.spares (hk t ht obj hobj)).mono fun hc => ⟨t, ht, obj, hobj, hc⟩

end

/-- A pass over set `b`, cleanup on, on a cluster that also holds a collection and a
    config set named `logs`, which `b` does not claim. -/
theorem runPasses_spares_unclaimed_logs :
    let E : Engine := ⟨(∅ : GoMap Collection).insert "logs" ⟨"logs", 1, 1, "logs"⟩, ∅,
      (∅ : GoMap Bytes).insert "logs" [], ∅⟩
    let secrets : String → Option Secret := fun name =>
      if name = "auth" then some ⟨((∅ : GoMap String).insert "username" "u").insert "password" "p"⟩
      else none
    let env : PassEnv := ⟨MapOrder.stored Site, 1, KubeFaults.none, secrets, .ok []⟩
    let set : SolrCollectionSet := ⟨"b", "ns",
      ⟨"http://solr", "auth", some true, some 1, some false, some true, [⟨"books", "books", "books"⟩]⟩,
      .empty⟩
    let lib : Lib := ⟨Codec.go, .ok []⟩
    let turns : List Turn := [⟨env, ⟨some set, [], []⟩⟩]
    (∀ t ∈ turns, ∀ obj, t.api.stored = some obj → Unclaimed obj.name obj.spec t.env.configMaps "logs") ∧
      Engine.Untouched (∃ t ∈ turns, ∃ obj, t.api.stored = some obj ∧ obj.spec.cleanup = true) "logs" E
        (runPasses Engine.solr lib turns SolrClient.zero ⟨E, []⟩).2.state := by
  intro E secrets env set lib turns
  have h : ∀ t ∈ turns, ∀ obj, t.api.stored = some obj →
      Unclaimed obj.name obj.spec t.env.configMaps "logs" := by
    intro t ht obj hobj
    rw [List.mem_singleton] at ht
    subst ht
    cases hobj
    refine ⟨by decide, by decide, by decide, ?_, by decide⟩
    rintro ⟨items, h, cm, hcm, -⟩
    cases h
    cases hcm
  exact ⟨h, runPasses_spares_unclaimed lib turns SolrClient.zero ⟨E, []⟩ "logs" h⟩

end SolrOperator
