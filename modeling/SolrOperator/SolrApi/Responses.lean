/-
  SolrOperator.SolrApi.Responses

  What Solr answers to the three reads the controller makes, and that the client
  reads each answer back: the CLUSTERSTATUS document of a cluster (every
  collection with its config set, its replication factor and the replicas of its
  `shard1`, and every alias), the LIST document of the configsets API, and the
  `docs` of a select.

  JSON fixes no order among an object's keys, while the model files a Go map's
  entries in a list: `Json.toMap` files the last key of an object first, and the
  two loops of `GetClusterStatus` file again what they range over. The canonical
  documents below list their keys in the order under which the decoded map is the
  very one encoded; the stub Solr of the refinement sends these. Any other answer,
  with its keys in any order and fields the client never reads, is read back up to
  lookups (`read_answers_round_trip`). The names Solr gives replicas do not matter
  to the client, which only counts them: any distinct names will do.
-/
import SolrOperator.SolrApi.Client

namespace SolrOperator

/-! ## The order a Go map files its entries in -/

namespace GoMap

variable {V : Type}

/-- Filing new keys one after another puts each in front. -/
theorem foldl_insert_entries :
    ∀ (l : List (String × V)) (m : GoMap V), (l.map Prod.fst).Nodup → (∀ kv ∈ l, kv.1 ∉ m) →
      (l.foldl (fun m kv => m.insert kv.1 kv.2) m).entries =
        (l.map fun kv => (⟨kv.1, kv.2⟩ : Σ _ : String, V)).reverse ++ m.entries
  | [], m, _, _ => by simp
  | kv :: l, m, hnd, hm => by
    rw [List.map_cons, List.nodup_cons] at hnd
    have hm' : ∀ kv' ∈ l, kv'.1 ∉ m.insert kv.1 kv.2 := fun kv' h h' => by
      rcases (AList.mem_insert _).1 h' with he | he
      · exact hnd.1 (he ▸ List.mem_map_of_mem _ h)
      · exact hm kv' (List.mem_cons_of_mem _ h) he
    rw [List.foldl_cons, foldl_insert_entries l _ hnd.2 hm',
      AList.insert_entries_of_neg (hm kv (List.mem_cons_self _ _))]
    simp

/-- The loop `for k, v := range m { out[k] = f(k, v) }` over entries it can decode
    files each in front of the last. -/
theorem foldlM_insert_map {α W : Type} (f : String → V → Outcome W) (key : α → String)
    (enc : α → V) (val : α → W) :
    ∀ (l : List α) (out : GoMap W), (l.map key).Nodup → (∀ x ∈ l, key x ∉ out) →
      (∀ x ∈ l, f (key x) (enc x) = .ok (val x)) →
      ∃ out', (l.map fun x => (⟨key x, enc x⟩ : Σ _ : String, V)).foldlM (fun out kv => do
          let w ← f kv.1 kv.2
          pure (out.insert kv.1 w)) out = .ok out' ∧
        out'.entries = (l.map fun x => (⟨key x, val x⟩ : Σ _ : String, W)).reverse ++ out.entries
  | [], out, _, _, _ => ⟨out, rfl, by simp⟩
  | x :: l, out, hnd, hout, hf => by
    rw [List.map_cons, List.nodup_cons] at hnd
    have hout' : ∀ y ∈ l, key y ∉ out.insert (key x) (val x) := fun y h h' => by
      rcases (AList.mem_insert _).1 h' with he | he
      · exact hnd.1 (he ▸ List.mem_map_of_mem _ h)
      · exact hout y (List.mem_cons_of_mem _ h) he
    obtain ⟨out', h, hent⟩ := foldlM_insert_map f key enc val l _ hnd.2 hout'
      fun y hy => hf y (List.mem_cons_of_mem _ hy)
    refine ⟨out', ?_, ?_⟩
    · rw [List.map_cons, List.foldlM_cons, hf x (List.mem_cons_self _ _)]
      exact h
    · rw [hent, AList.insert_entries_of_neg (hout x (List.mem_cons_self _ _))]
      simp

end GoMap

/-- A decoded object of distinct keys files them last first. -/
theorem Json.toMap_map_entries {α : Type} (key : α → String) (enc : α → Json) (l : List α)
    (hnd : (l.map key).Nodup) :
    (Json.toMap (l.map fun x => (key x, enc x))).entries =
      (l.map fun x => (⟨key x, enc x⟩ : Σ _ : String, Json)).reverse := by
  rw [Json.toMap, GoMap.foldl_insert_entries _ _ (by simpa [List.map_map] using hnd)
    (fun _ _ => AList.not_mem_empty _)]
  simp [List.map_map, Function.comp_def]

/-- The object of a Go map, keys in the order that `Json.toMap` rebuilds it from. -/
def Json.ofMap (m : GoMap Json) : Json := .obj (m.entries.reverse.map fun kv => (kv.1, kv.2))

theorem Json.toMap_ofMap (m : GoMap Json) :
    Json.toMap (m.entries.reverse.map fun kv => (kv.1, kv.2)) = m := by
  apply AList.ext
  rw [toMap_map_entries _ _ _ (by simpa [List.map_reverse] using List.nodup_reverse.2 m.keys_nodup)]
  simp

/-- `GetClusterStatus`' loop over an object it can decode keeps the object's order. -/
theorem decodeEntries_obj {α W : Type} (f : String → Json → Outcome W) (key : α → String)
    (enc : α → Json) (val : α → W) (l : List α) (hnd : (l.map key).Nodup)
    (hf : ∀ x ∈ l, f (key x) (enc x) = .ok (val x)) :
    ∃ out, decodeEntries f (some (.obj (l.map fun x => (key x, enc x)))) = .ok out ∧
      out.entries = l.map fun x => (⟨key x, val x⟩ : Σ _ : String, W) := by
  obtain ⟨out, h, hent⟩ := GoMap.foldlM_insert_map f key enc val l.reverse ∅
    (by simpa [List.map_reverse] using List.nodup_reverse.2 hnd) (fun _ _ => AList.not_mem_empty _)
    fun x hx => hf x (List.mem_reverse.1 hx)
  refine ⟨out, ?_, by simp [hent]⟩
  simp only [decodeEntries, assertMap, Outcome.bind_ok]
  rw [Json.toMap_map_entries key enc l hnd, ← List.map_reverse]
  exact h

theorem mapM_loop_map {α β γ : Type} (f : β → Outcome γ) (enc : α → β) (g : α → γ) :
    ∀ (l : List α) (acc : List γ), (∀ x ∈ l, f (enc x) = .ok (g x)) →
      List.mapM.loop f (l.map enc) acc = .ok (acc.reverse ++ l.map g)
  | [], acc, _ => by simp [List.mapM.loop]
  | x :: l, acc, h => by
    rw [List.map_cons, List.mapM.loop, h x (List.mem_cons_self _ _), Outcome.bind_ok,
      mapM_loop_map f enc g l _ fun y hy => h y (List.mem_cons_of_mem _ hy)]
    simp

/-- A loop over an array every element of which decodes. -/
theorem mapM_map_ok {α β γ : Type} (f : β → Outcome γ) (enc : α → β) (g : α → γ) (l : List α)
    (h : ∀ x ∈ l, f (enc x) = .ok (g x)) : (l.map enc).mapM f = .ok (l.map g) :=
  (mapM_loop_map f enc g l [] h).trans (by simp)

theorem assertMap_obj (kvs : List (String × Json)) :
    assertMap (some (.obj kvs)) = .ok (Json.toMap kvs) := rfl

theorem Int32.ofInt_toInt (x : Int32) : BitVec.ofInt 32 x.toInt = x :=
  BitVec.eq_of_toInt_eq (Int32.toInt_ofInt_of_lt (x.toInt_bounds).1 (x.toInt_bounds).2)

/-! ## The documents Solr sends -/

/-- The `replicas` of a `shard1`, one entry per replica name. -/
def replicasDoc (names : List String) : Json := .obj (names.map fun name => (name, .obj []))

/-- A collection as CLUSTERSTATUS describes it: its config set, its replication
    factor, and its single shard's replicas. -/
def collectionDoc (collection : Collection) (replicas : List String) : Json :=
  .obj [("configName", .str collection.configName),
    ("replicationFactor", .int collection.replicationFactor.toInt),
    ("shards", .obj [("shard1", .obj [("replicas", replicasDoc replicas)])])]

/-- The CLUSTERSTATUS answer for a cluster whose collection `k` has the replicas
    `replicas k`. -/
def clusterStatusDoc (clusterStatus : ClusterStatus) (replicas : String → List String) : Json :=
  .obj [("cluster", .obj [
    ("collections", .obj (clusterStatus.collections.entries.map fun kv =>
      (kv.1, collectionDoc kv.2 (replicas kv.1)))),
    ("aliases", .obj (clusterStatus.aliases.entries.map fun kv => (kv.1, .str kv.2)))])]

/-- The LIST answer of the configsets API. -/
def configSetsDoc (configSets : List String) : Json := .obj [("configSets", .arr (configSets.map .str))]

/-- The answer of a select: its `response.docs`. -/
def selectDoc (docs : List Doc) : Json := .obj [("response", .obj [("docs", .arr (docs.map Json.ofMap))])]

/-! ## The client reads them back -/

theorem countReplicas_collectionDoc (collection : Collection) {replicas : List String}
    (hnd : replicas.Nodup) (hlen : replicas.length = collection.replicaCount.toNat) :
    countReplicas (collectionDoc collection replicas) = .ok collection.replicaCount := by
  have hent := Json.toMap_map_entries id (fun _ => Json.obj []) replicas (by simpa using hnd)
  simp only [List.map_id', id] at hent
  simp only [countReplicas, collectionDoc, replicasDoc, assertMap, Outcome.bind_ok]
  show pure (BitVec.ofNat 32 (AList.keys (Json.toMap _)).length) = _
  rw [AList.keys, hent]
  simp [List.keys, hlen]

theorem projectCollection_collectionDoc {k : String} {collection : Collection}
    (hk : collection.name = k) {replicas : List String} (hnd : replicas.Nodup)
    (hlen : replicas.length = collection.replicaCount.toNat) :
    projectCollection k (collectionDoc collection replicas) = .ok collection := by
  have hc := countReplicas_collectionDoc collection hnd hlen
  simp only [collectionDoc] at hc
  simp only [projectCollection, collectionDoc, assertMap, Outcome.bind_ok, hc]
  show (interfaceToInt32 (some (.int collection.replicationFactor.toInt)) >>= fun rf =>
    assertString (some (.str collection.configName)) >>= fun cn => pure _) = _
  rw [interfaceToInt32, Int32.ofInt_toInt]
  subst hk
  rfl

/-- `GetClusterStatus` reads back the CLUSTERSTATUS answer of a cluster whose
    collections are filed under their names and whose replicas have distinct names,
    one per replica counted. -/
theorem getClusterStatus_clusterStatusDoc (clusterStatus : ClusterStatus)
    (replicas : String → List String) (status : String)
    (hname : ∀ k c, clusterStatus.collections.lookup k = some c → c.name = k)
    (hrep : ∀ k c, clusterStatus.collections.lookup k = some c →
      (replicas k).Nodup ∧ (replicas k).length = c.replicaCount.toNat) :
    SolrClient.getClusterStatus (.response 200 status (.json (clusterStatusDoc clusterStatus replicas))) =
      .ok (.ok clusterStatus) := by
  obtain ⟨aliases, hal, hale⟩ := decodeEntries_obj (fun _ v => assertString (some v))
    (fun kv : Σ _ : String, String => kv.1) (fun kv => .str kv.2) (fun kv => kv.2)
    clusterStatus.aliases.entries clusterStatus.aliases.keys_nodup fun _ _ => rfl
  obtain ⟨collections, hcol, hcole⟩ := decodeEntries_obj projectCollection
    (fun kv : Σ _ : String, Collection => kv.1) (fun kv => collectionDoc kv.2 (replicas kv.1))
    (fun kv => kv.2) clusterStatus.collections.entries clusterStatus.collections.keys_nodup
    fun kv hkv => by
      have hl := AList.mem_lookup_iff.2 hkv
      obtain ⟨h1, h2⟩ := hrep kv.1 kv.2 hl
      exact projectCollection_collectionDoc (hname kv.1 kv.2 hl) h1 h2
  have hal' : aliases = clusterStatus.aliases := AList.ext (by simp [hale])
  have hcol' : collections = clusterStatus.collections := AList.ext (by simp [hcole])
  subst hal' hcol'
  simp only [SolrClient.getClusterStatus, exchange, decodeWith, Body.unmarshalMap, clusterStatusDoc,
    projectClusterStatus_eq, Json.toMap, List.foldl_cons, List.foldl_nil, AList.lookup_insert,
    AList.lookup_insert_ne (show ("collections" : String) ≠ "aliases" by decide), assertMap_obj,
    Outcome.bind_ok]
  rw [if_neg (by decide), hal, Outcome.bind_ok, hcol]
  rfl

/-- `Query` reads back the documents of a select. -/
theorem query_selectDoc (collectionName : String) (docs : List Doc) (status : String) :
    SolrClient.query collectionName (.response 200 status (.json (selectDoc docs))) =
      .ok (.ok docs) := by
  simp only [SolrClient.query, exchange, decodeWith, Body.unmarshalMap, selectDoc, Json.toMap,
    List.foldl_cons, List.foldl_nil, AList.lookup_insert, assertMap_obj, assertArray, Outcome.bind_ok,
    mapM_map_ok (fun doc => assertMap (some doc)) Json.ofMap id docs fun m _ => by
      simp only [Json.ofMap, assertMap, Json.toMap_ofMap]; rfl]
  rw [if_neg (by decide)]
  simp [Functor.map, bind]

/-! ## Any answer, read up to the order of its maps

Solr's answers carry fields the client never reads, and JSON fixes no order among
an object's keys. The client reads only through lookups, so what it makes of an
answer depends only on what the answer's paths hold. -/

theorem Json.path_cons_eq_some {v : Json} {k : String} {ks : List String} {r : Json} :
    v.path (k :: ks) = some r ↔
      ∃ kvs w, v = .obj kvs ∧ (Json.toMap kvs).lookup k = some w ∧ w.path ks = some r := by
  cases v <;> simp [Json.path, Option.bind_eq_some]

theorem Json.path_nil (v : Json) : v.path [] = some v := by cases v <;> rfl

theorem Json.path_singleton (kvs : List (String × Json)) (k : String) :
    (Json.obj kvs).path [k] = (Json.toMap kvs).lookup k := by
  simp only [Json.path, Json.path_nil]
  cases (Json.toMap kvs).lookup k <;> rfl

theorem countReplicas_of_path {value : Json} {kvs : List (String × Json)}
    (h : value.path ["shards", "shard1", "replicas"] = some (.obj kvs)) :
    countReplicas value = .ok (BitVec.ofNat 32 (Json.toMap kvs).keys.length) := by
  obtain ⟨vkvs, s, rfl, hs, h⟩ := Json.path_cons_eq_some.1 h
  obtain ⟨skvs, s1, rfl, hs1, h⟩ := Json.path_cons_eq_some.1 h
  obtain ⟨s1kvs, r, rfl, hr, h⟩ := Json.path_cons_eq_some.1 h
  rw [Json.path_nil, Option.some.injEq] at h
  subst h
  simp [countReplicas, assertMap, hs, hs1, hr]

/-- A collection's object in a CLUSTERSTATUS answer describes the collection filed
    under `k`: the collection has that name, and the object holds its config set as
    a string, its replication factor as an integer or as a numeral `strconv.Atoi`
    reads, and a `shard1` whose `replicas` object has as many keys as the collection
    has replicas. -/
structure CollectionDoc (k : String) (value : Json) (collection : Collection) : Prop where
  name : collection.name = k
  configName : value.path ["configName"] = some (.str collection.configName)
  replicationFactor : value.path ["replicationFactor"] = some (.int collection.replicationFactor.toInt) ∨
    ∃ s, value.path ["replicationFactor"] = some (.str s) ∧ atoi s = collection.replicationFactor.toInt
  replicas : ∃ kvs, value.path ["shards", "shard1", "replicas"] = some (.obj kvs) ∧
    (Json.toMap kvs).keys.length = collection.replicaCount.toNat

theorem projectCollection_of_doc {k : String} {value : Json} {collection : Collection}
    (h : CollectionDoc k value collection) : projectCollection k value = .ok collection := by
  obtain ⟨rkvs, hr, hlen⟩ := h.replicas
  have hcn := h.configName
  cases value
  case obj kvs =>
    rw [Json.path_singleton] at hcn
    have hrf : interfaceToInt32 ((Json.toMap kvs).lookup "replicationFactor") =
        .ok collection.replicationFactor := by
      rcases h.replicationFactor with hrf | ⟨s, hrf, hs⟩ <;> rw [Json.path_singleton] at hrf <;>
        rw [hrf, interfaceToInt32]
      · rw [Int32.ofInt_toInt]
      · rw [hs, Int32.ofInt_toInt]
    simp only [projectCollection, assertMap_obj, Outcome.bind_ok, countReplicas_of_path hr, hlen,
      BitVec.ofNat_toNat, BitVec.setWidth_eq, hrf, hcn, assertString]
    rw [← h.name]
    rfl
  all_goals simp [Json.path] at hcn

/-- The field `o`, which a loop of `GetClusterStatus` ranges over, holds the map `m`
    up to the order of its entries: it is absent and `m` is empty, or it is an object
    whose keys are `m`'s, each value `read` as `m`'s entry. -/
def Json.HoldsMap {W : Type} (read : String → Json → W → Prop) (o : Option Json) (m : GoMap W) : Prop :=
  (o = none ∧ ∀ k, m.lookup k = none) ∨
    ∃ kvs, o = some (.obj kvs) ∧ ∀ k, Option.Rel (read k) ((Json.toMap kvs).lookup k) (m.lookup k)

/-- A decoding loop returns when every entry decodes. -/
theorem foldlM_insert_ok {V W : Type} (f : String → V → Outcome W) :
    ∀ (l : List (Σ _ : String, V)) (out : GoMap W), (∀ kv ∈ l, ∃ w, f kv.1 kv.2 = .ok w) →
      ∃ out', l.foldlM (fun out kv => do
        let w ← f kv.1 kv.2
        pure (out.insert kv.1 w)) out = .ok out'
  | [], out, _ => ⟨out, rfl⟩
  | kv :: l, out, h => by
    obtain ⟨w, hw⟩ := h kv (List.mem_cons_self _ _)
    rw [List.foldlM_cons, hw, Outcome.bind_ok]
    exact foldlM_insert_ok f l _ fun kv' h' => h kv' (List.mem_cons_of_mem _ h')

/-- A loop of `GetClusterStatus` over a field holding a map reads it back up to the
    order of its entries. -/
theorem decodeEntries_of_holdsMap {W : Type} {f : String → Json → Outcome W}
    {read : String → Json → W → Prop} (hf : ∀ k v w, read k v w → f k v = .ok w) {o : Option Json}
    {m : GoMap W} (h : Json.HoldsMap read o m) :
    ∃ out, decodeEntries f o = .ok out ∧ ∀ k, out.lookup k = m.lookup k := by
  rcases h with ⟨rfl, hm⟩ | ⟨kvs, rfl, hm⟩
  · exact ⟨∅, rfl, fun k => (hm k).symm ▸ AList.lookup_empty k⟩
  · obtain ⟨out, hout⟩ := foldlM_insert_ok f (Json.toMap kvs).entries ∅ fun kv hkv => by
      have hk := hm kv.1
      rw [AList.mem_lookup_iff.2 hkv] at hk
      generalize m.lookup kv.1 = b at hk
      cases hk with
      | some hr => exact ⟨_, hf _ _ _ hr⟩
    refine ⟨out, hout, fun k => ?_⟩
    obtain ⟨h1, h2⟩ := lookup_foldlM_insert f hout k
    have hk := hm k
    revert h1 h2
    generalize (Json.toMap kvs).lookup k = a at hk ⊢
    generalize m.lookup k = b at hk ⊢
    cases hk with
    | none =>
      intro _ h2
      cases ho : out.lookup k
      · rfl
      · obtain ⟨v, hv, -⟩ := h2 _ ho
        cases hv
    | some hr =>
      intro h1 _
      obtain ⟨w, hw, ho⟩ := h1 _ rfl
      rw [hf _ _ _ hr] at hw
      cases hw
      exact ho

/-- A CLUSTERSTATUS answer describes a cluster status when its `cluster` object
    holds the aliases, each target a string, and the collections, each described by
    its object; any other field, and any order of keys, is free. -/
structure ClusterStatusDoc (doc : Json) (clusterStatus : ClusterStatus) : Prop where
  cluster : ∃ kvs, doc.path ["cluster"] = some (.obj kvs)
  aliases : Json.HoldsMap (fun _ v a => v = .str a) (doc.path ["cluster", "aliases"]) clusterStatus.aliases
  collections : Json.HoldsMap CollectionDoc (doc.path ["cluster", "collections"]) clusterStatus.collections

theorem getClusterStatus_of_doc {doc : Json} {clusterStatus : ClusterStatus} (status : String)
    (h : ClusterStatusDoc doc clusterStatus) :
    ∃ st, SolrClient.getClusterStatus (.response 200 status (.json doc)) = .ok (.ok st) ∧
      (∀ k, st.collections.lookup k = clusterStatus.collections.lookup k) ∧
      ∀ a, st.aliases.lookup a = clusterStatus.aliases.lookup a := by
  obtain ⟨ckvs, hc⟩ := h.cluster
  obtain ⟨kvs, c, rfl, hcl, hc'⟩ := Json.path_cons_eq_some.1 hc
  rw [Json.path_nil, Option.some.injEq] at hc'
  subst hc'
  have hpath (k : String) : (Json.obj kvs).path ["cluster", k] = (Json.toMap ckvs).lookup k := by
    rw [← Json.path_singleton, show ["cluster", k] = ["cluster"] ++ [k] from rfl, Json.path_append, hc]
    rfl
  obtain ⟨aliases, hal, hale⟩ := decodeEntries_of_holdsMap
    (fun _ v a (h : v = .str a) => (by rw [h]; rfl : assertString (some v) = .ok a))
    (hpath "aliases" ▸ h.aliases)
  obtain ⟨collections, hcol, hcole⟩ := decodeEntries_of_holdsMap
    (fun k v c (h : CollectionDoc k v c) => projectCollection_of_doc h)
    (hpath "collections" ▸ h.collections)
  refine ⟨⟨collections, aliases⟩, ?_, hcole, hale⟩
  simp only [SolrClient.getClusterStatus, exchange, decodeWith, Body.unmarshalMap, projectClusterStatus_eq,
    hcl, assertMap_obj, Outcome.bind_ok, hal, hcol]
  rw [if_neg (by decide)]
  rfl

/-- `GetConfigSets` reads the names of any LIST answer listing them under
    `configSets`. -/
theorem getConfigSets_of_path {doc : Json} {configSets : List String} (status : String)
    (h : doc.path ["configSets"] = some (.arr (configSets.map .str))) :
    SolrClient.getConfigSets (.response 200 status (.json doc)) = .ok (.ok configSets) := by
  obtain ⟨kvs, w, rfl, hw, hw'⟩ := Json.path_cons_eq_some.1 h
  rw [Json.path_nil, Option.some.injEq] at hw'
  subst hw'
  simp only [SolrClient.getConfigSets, exchange, decodeWith, Body.unmarshalMap, hw, assertArray,
    Outcome.bind_ok, mapM_map_ok (fun value => assertString (some value)) Json.str id configSets fun _ _ => rfl]
  rw [if_neg (by decide)]
  simp [Functor.map, bind]

/-- `Query` reads the documents of any select answer up to the order of their
    fields. -/
theorem query_of_path (collectionName : String) {doc : Json} {js : List Json} {docs : List Doc}
    (status : String) (h : doc.path ["response", "docs"] = some (.arr js))
    (hjs : List.Forall₂ (fun j d => ∃ kvs, j = .obj kvs ∧ ∀ k, (Json.toMap kvs).lookup k = d.lookup k) js docs) :
    ∃ docs', SolrClient.query collectionName (.response 200 status (.json doc)) = .ok (.ok docs') ∧
      List.Forall₂ (fun d' d => ∀ k, d'.lookup k = d.lookup k) docs' docs := by
  obtain ⟨kvs, r, rfl, hr, h⟩ := Json.path_cons_eq_some.1 h
  obtain ⟨rkvs, w, rfl, hw, hw'⟩ := Json.path_cons_eq_some.1 h
  rw [Json.path_nil, Option.some.injEq] at hw'
  subst hw'
  let read : Json → GoMap Json := fun j => match j with
    | .obj kvs => Json.toMap kvs
    | _ => ∅
  have hobj : ∀ j ∈ js, ∃ kvs, j = .obj kvs :=
    ((List.forall₂_and_left _ _).1 (hjs.imp fun _ _ ⟨kvs, hj, _⟩ => ⟨⟨kvs, hj⟩, trivial⟩)).1
  have hm := mapM_map_ok (fun doc => assertMap (some doc)) id read js fun j hj => by
    obtain ⟨kvs, rfl⟩ := hobj j hj
    rfl
  refine ⟨js.map read, ?_, ?_⟩
  · simp only [SolrClient.query, exchange, decodeWith, Body.unmarshalMap, hr, hw, assertMap_obj,
      assertArray, Outcome.bind_ok]
    rw [if_neg (by decide)]
    simpa using hm
  · exact List.forall₂_map_left_iff.2 (hjs.imp fun j d ⟨kvs, hj, hk⟩ => by subst hj; exact hk)

/-- `GetConfigSets` reads back the LIST answer. -/
theorem getConfigSets_configSetsDoc (configSets : List String) (status : String) :
    SolrClient.getConfigSets (.response 200 status (.json (configSetsDoc configSets))) =
      .ok (.ok configSets) :=
  getConfigSets_of_path status rfl

/-- The client reads back whatever Solr answers to each of the three reads, up to
    the order of the maps it files them in: a CLUSTERSTATUS answer whose `cluster`
    object holds the aliases and the collections, each collection's object with its
    config set, its replication factor as an integer or a numeral, and its `shard1`
    replicas; a LIST answer naming config sets under `configSets`; and a select
    answer whose `response.docs` are objects. Any other field, and any order of an
    object's keys, is free. -/
theorem read_answers_round_trip :
    (∀ (doc : Json) (clusterStatus : ClusterStatus) (status : String), ClusterStatusDoc doc clusterStatus →
      ∃ st, SolrClient.getClusterStatus (.response 200 status (.json doc)) = .ok (.ok st) ∧
        (∀ k, st.collections.lookup k = clusterStatus.collections.lookup k) ∧
        ∀ a, st.aliases.lookup a = clusterStatus.aliases.lookup a) ∧
    (∀ (doc : Json) (configSets : List String) (status : String),
      doc.path ["configSets"] = some (.arr (configSets.map .str)) →
      SolrClient.getConfigSets (.response 200 status (.json doc)) = .ok (.ok configSets)) ∧
    ∀ (collectionName : String) (doc : Json) (js : List Json) (docs : List Doc) (status : String),
      doc.path ["response", "docs"] = some (.arr js) →
      List.Forall₂ (fun j d => ∃ kvs, j = .obj kvs ∧ ∀ k, (Json.toMap kvs).lookup k = d.lookup k) js docs →
      ∃ docs', SolrClient.query collectionName (.response 200 status (.json doc)) = .ok (.ok docs') ∧
        List.Forall₂ (fun d' d => ∀ k, d'.lookup k = d.lookup k) docs' docs :=
  ⟨fun _ _ status h => getClusterStatus_of_doc status h, fun _ _ status h => getConfigSets_of_path status h,
    fun collectionName _ _ _ status h hjs => query_of_path collectionName status h hjs⟩

/-- The CLUSTERSTATUS answer of the repository's sample, with its extra fields, a
    replication factor sent as a numeral and another as an integer. -/
theorem read_answers_round_trip_sample :
    let replica (core node : String) (leader : Bool) : Json := .obj ([
      ("core", .str core),
      ("node_name", .str (node ++ ".testing-solrcloud-headless.default:8983_solr")),
      ("type", .str "NRT"),
      ("state", .str "active")] ++ (if leader then [("leader", .str "true")] else []) ++ [
      ("force_set_state", .str "false"),
      ("base_url", .str ("http://" ++ node ++ ".testing-solrcloud-headless.default:8983/solr"))])
    let doc : Json := .obj [
      ("responseHeader", .obj [("status", .int 0), ("QTime", .int 1)]),
      ("cluster", .obj [
        ("live_nodes", .arr [.str "testing-solrcloud-1.testing-solrcloud-headless.default:8983_solr",
          .str "testing-solrcloud-0.testing-solrcloud-headless.default:8983_solr"]),
        ("collections", .obj [
          ("test4", .obj [
            ("pullReplicas", .str "0"),
            ("configName", .str "_default"),
            ("replicationFactor", .str "2"),
            ("router", .obj [("name", .str "compositeId"), ("field", .null)]),
            ("nrtReplicas", .str "2"),
            ("tlogReplicas", .str "0"),
            ("shards", .obj [("shard1", .obj [
              ("range", .str "80000000-7fffffff"),
              ("state", .str "active"),
              ("replicas", .obj [
                ("core_node2", replica "test4_shard1_replica_n1" "testing-solrcloud-1" true),
                ("core_node4", replica "test4_shard1_replica_n3" "testing-solrcloud-0" false)]),
              ("health", .str "GREEN")])]),
            ("health", .str "GREEN"),
            ("znodeVersion", .int 26),
            ("creationTimeMillis", .int 1766083593197)]),
          ("buildInfo_blue", .obj [
            ("pullReplicas", .str "0"),
            ("configName", .str "buildInfo"),
            ("replicationFactor", .int 1),
            ("router", .obj [("name", .str "compositeId")]),
            ("nrtReplicas", .int 1),
            ("tlogReplicas", .str "0"),
            ("shards", .obj [("shard1", .obj [
              ("range", .str "80000000-7fffffff"),
              ("state", .str "active"),
              ("replicas", .obj [
                ("core_node2", replica "buildInfo_blue_shard1_replica_n1" "testing-solrcloud-0" true)]),
              ("health", .str "GREEN")])]),
            ("health", .str "GREEN"),
            ("znodeVersion", .int 8),
            ("creationTimeMillis", .int 1766004824041),
            ("aliases", .arr [.str "buildInfo"])])]),
        ("aliases", .obj [("buildInfo", .str "buildInfo_blue")]),
        ("properties", .obj [("plugin", .obj [(".placement-plugin", .obj [
          ("name", .str ".placement-plugin"),
          ("class", .str "org.apache.solr.cluster.placement.plugins.AffinityPlacementFactory"),
          ("config", .obj [("minimalFreeDiskGB", .int 0)])])])]),
        ("roles", .obj [])])]
    let clusterStatus : ClusterStatus := ⟨((∅ : GoMap Collection).insert "test4" ⟨"test4", 2, 2, "_default"⟩).insert
      "buildInfo_blue" ⟨"buildInfo_blue", 1, 1, "buildInfo"⟩, (∅ : GoMap String).insert "buildInfo" "buildInfo_blue"⟩
    ClusterStatusDoc doc clusterStatus ∧
      ∃ st, SolrClient.getClusterStatus (.response 200 "200 OK" (.json doc)) = .ok (.ok st) ∧
        (∀ k, st.collections.lookup k = clusterStatus.collections.lookup k) ∧
        ∀ a, st.aliases.lookup a = clusterStatus.aliases.lookup a := by
  intro replica doc clusterStatus
  have hdoc : ClusterStatusDoc doc clusterStatus := by
    refine ⟨⟨_, rfl⟩, .inr ⟨_, rfl, fun a => ?_⟩, .inr ⟨_, rfl, fun k => ?_⟩⟩
    · by_cases ha : a = "buildInfo"
      · subst ha
        exact .some rfl
      · simp only [clusterStatus, Json.toMap, List.foldl_cons, List.foldl_nil, AList.lookup_insert_ne ha,
          AList.lookup_empty]
        exact .none
    · by_cases h1 : k = "test4"
      · subst h1
        exact .some ⟨rfl, rfl, .inr ⟨"2", rfl, by decide⟩, _, rfl, rfl⟩
      by_cases h2 : k = "buildInfo_blue"
      · subst h2
        exact .some ⟨rfl, rfl, .inl rfl, _, rfl, rfl⟩
      simp only [clusterStatus, Json.toMap, List.foldl_cons, List.foldl_nil, AList.lookup_insert_ne h1,
        AList.lookup_insert_ne h2, AList.lookup_empty]
      exact .none
  exact ⟨hdoc, read_answers_round_trip.1 doc clusterStatus "200 OK" hdoc⟩

end SolrOperator
