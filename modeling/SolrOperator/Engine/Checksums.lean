/-
  SolrOperator.Engine.Checksums

  The checksum round trip of `ManageConfigSets`. A pass that reports no error has
  uploaded every config set it found still to upload, writing the checksum record
  of each after it, and deleted every config set the cleanup removes. A second
  pass over the same configmaps then finds nothing to do, as long as the 1000
  rows `Query` returns still reach the records the first pass wrote.
-/
import SolrOperator.Engine.ConfigSets

namespace SolrOperator

/-! ## What a pass that reports no error did -/

section
variable {t : Target} (cl : SolrClient)

/-- An upload loop that reports no error uploaded each config set and wrote its
    checksum record after it, in the loop's order, and touched no collection. -/
theorem uploadLoop_engine_of_ok : ∀ (U : List (String × ConfigMap)) (c : Conn Engine),
    (∀ kv ∈ U, '"' ∉ kv.1.data) → t.checksumsName ∈ c.state.collections →
    (uploadLoop t.codec Engine.solr cl t.checksumsName U c).1 = none →
    (uploadLoop t.codec Engine.solr cl t.checksumsName U c).2.state.collections = c.state.collections ∧
      (∀ y, y ∈ (uploadLoop t.codec Engine.solr cl t.checksumsName U c).2.state.configSets ↔
        y ∈ c.state.configSets ∨ y ∈ U.map Prod.fst) ∧
      (uploadLoop t.codec Engine.solr cl t.checksumsName U c).2.state.recordsOf t.checksumsName =
        c.state.recordsOf t.checksumsName ++
          U.map fun kv => (kv.1, checksum t.codec (kv.2.data.getString "configset"))
  | [], _, _, _, _ => ⟨rfl, fun _ => (or_iff_left (List.not_mem_nil _)).symm, (List.append_nil _).symm⟩
  | (x, cm) :: U, c, hq, hchk, hok => by
    cases hdec : t.codec.decodeString (cm.data.getString "configset") with
    | none => simp [uploadLoop, hdec] at hok
    | some body =>
      obtain ⟨c2, hc2, heq⟩ := uploadLoop_cons_engine cl U hdec hchk (hq (x, cm) (List.mem_cons_self _ _))
      rw [heq] at hok ⊢
      have hchk2 : t.checksumsName ∈ c2.state.collections := by rw [hc2]; exact hchk
      obtain ⟨i1, i2, i3⟩ := uploadLoop_engine_of_ok U c2 (fun kv h => hq kv (List.mem_cons_of_mem _ h))
        hchk2 hok
      have hR : c2.state.recordsOf t.checksumsName = c.state.recordsOf t.checksumsName ++
          [(x, checksum t.codec (cm.data.getString "configset"))] := by
        simp [hc2, Engine.recordsOf, hchk, AList.lookup_insert]
      refine ⟨by rw [i1, hc2], fun y => ?_, by simp [i3, hR]⟩
      rw [i2, hc2, AList.mem_insert, List.map_cons, List.mem_cons]
      exact or_assoc.trans or_left_comm

/-- A remove loop that reports no error deleted each config set it names and
    touched nothing else. -/
theorem removeLoop_engine_of_ok : ∀ (names : List String) (c : Conn Engine),
    (removeLoop Engine.solr cl names c).1 = none →
    (removeLoop Engine.solr cl names c).2.state.collections = c.state.collections ∧
      (removeLoop Engine.solr cl names c).2.state.records = c.state.records ∧
      ∀ y, y ∈ (removeLoop Engine.solr cl names c).2.state.configSets ↔
        y ∈ c.state.configSets ∧ y ∉ names
  | [], _, _ => ⟨rfl, rfl, fun _ => (and_iff_left (List.not_mem_nil _)).symm⟩
  | s :: names, c, hok => by
    cases hd : (c.state.answer (.deleteConfigSet s)).1 with
    | some err =>
      have hcall := @Engine.solr_call_eq cl _ c _ _ (Prod.ext hd rfl)
      simp only [removeLoop, hcall] at hok
      cases hok
    | none =>
      have hcall := @Engine.solr_call_eq cl _ c _ _
        (Prod.ext hd (Engine.answer_deleteConfigSet_of_ok hd))
      simp only [removeLoop, hcall] at hok ⊢
      obtain ⟨i1, i2, i3⟩ := removeLoop_engine_of_ok names _ hok
      refine ⟨i1, i2, fun y => ?_⟩
      rw [i3, AList.mem_erase, List.mem_cons, not_or]
      exact and_assoc.trans and_left_comm

/-- `ManageConfigSets` on the engine once its configmaps are filed and the checksum
    collection exists: after the two reads, the upload loop and then the remove
    loop. -/
theorem manageConfigSets_engine (ord : MapOrder Site) (cs : SolrCollectionSet) (c : Conn Engine)
    (hm : mapConfigMaps ∅ t.items = .ok t.configMaps) (hchk : t.checksumsName ∈ c.state.collections) :
    manageConfigSets ord t.codec Engine.solr cl cs (.ok t.items) t.checksumsName c =
      let c0 : Conn Engine := ⟨c.state, c.log ++ [(cl, .getConfigSets)] ++
        [(cl, .query t.checksumsName "*:*")]⟩
      let toUpload := configMapsToUpload ord t.codec c.state.configSets.keys t.configMaps
        (t.checksums c.state)
      let toRemove := if cs.spec.cleanup then configMapsToRemove c.state.configSets.keys t.configMaps
        else ∅
      let u := uploadLoop t.codec Engine.solr cl t.checksumsName (toUpload.range ord .uploads) c0
      let r := removeLoop Engine.solr cl ((toRemove.range ord .removes).map Prod.fst) u.2
      if u.1 = none then (.ok r.1, r.2) else (.ok u.1, u.2) := by
  have hget : Engine.solr.call cl .getConfigSets c =
      (.ok c.state.configSets.keys, ⟨c.state, c.log ++ [(cl, .getConfigSets)]⟩) := rfl
  have hquery := @Engine.solr_call_eq cl _ ⟨c.state, c.log ++ [(cl, .getConfigSets)]⟩ _ _
    (Engine.answer_query "*:*" hchk)
  simp only [manageConfigSets, hget, hm, hquery, readChecksums_query]
  split <;> rename_i h <;> rw [h] <;> simp

/-- A `ManageConfigSets` that reports no error found every configmap labelled and
    the checksum collection in the cluster. -/
theorem manageConfigSets_of_ok (ord : MapOrder Site) (cs : SolrCollectionSet) {c : Conn Engine}
    (h : (manageConfigSets ord t.codec Engine.solr cl cs (.ok t.items) t.checksumsName c).1 = .ok none) :
    mapConfigMaps ∅ t.items = .ok t.configMaps ∧ t.checksumsName ∈ c.state.collections := by
  have hget : Engine.solr.call cl .getConfigSets c =
      (.ok c.state.configSets.keys, ⟨c.state, c.log ++ [(cl, .getConfigSets)]⟩) := rfl
  simp only [manageConfigSets, hget] at h
  split at h
  · cases h
  rename_i configMaps hm
  obtain rfl := mapConfigMaps_eq_labelMap hm
  refine ⟨hm, ?_⟩
  by_contra hchk
  have hquery := @Engine.solr_call_eq cl _ ⟨c.state, c.log ++ [(cl, .getConfigSets)]⟩ _ _
    (show c.state.answer (.query t.checksumsName "*:*") =
      (.error ("collection " ++ t.checksumsName ++ " not found"), c.state) by simp [Engine.answer, hchk])
  simp only [hquery] at h
  cases h

/-- What a `ManageConfigSets` that reports no error leaves: the checksum collection
    and every other collection as they were; the config sets the cluster held or
    had still to upload, but for those the cleanup removes; and after the records
    the checksum collection held, a record for each upload in the loop's order. -/
theorem manageConfigSets_state_of_ok (ord : MapOrder Site) (cs : SolrCollectionSet) (c : Conn Engine)
    (hquote : ∀ x ∈ t.configMaps, '"' ∉ x.data)
    (h : (manageConfigSets ord t.codec Engine.solr cl cs (.ok t.items) t.checksumsName c).1 = .ok none) :
    let c1 := (manageConfigSets ord t.codec Engine.solr cl cs (.ok t.items) t.checksumsName c).2
    let U := (configMapsToUpload ord t.codec c.state.configSets.keys t.configMaps
      (t.checksums c.state)).range ord .uploads
    c1.state.collections = c.state.collections ∧
      (∀ y, y ∈ c1.state.configSets ↔ (y ∈ c.state.configSets ∨ t.pending c.state y = true) ∧
        ¬(cs.spec.cleanup = true ∧ y ∈ c.state.configSets ∧ y ∉ t.configMaps ∧
          hasPrefix y "_" = false)) ∧
      c1.state.recordsOf t.checksumsName = c.state.recordsOf t.checksumsName ++
        U.map fun kv => (kv.1, checksum t.codec (kv.2.data.getString "configset")) := by
  intro c1 U
  obtain ⟨hm, hchk⟩ := manageConfigSets_of_ok cl ord cs h
  have h1 := manageConfigSets_engine cl ord cs c hm hchk
  dsimp only at h1
  set R := ((if cs.spec.cleanup = true then configMapsToRemove c.state.configSets.keys t.configMaps
    else ∅).range ord .removes).map Prod.fst with hR_def
  set u := uploadLoop t.codec Engine.solr cl t.checksumsName U
    ⟨c.state, c.log ++ [(cl, .getConfigSets)] ++ [(cl, .query t.checksumsName "*:*")]⟩
  have hu : u.1 = none := by
    by_contra hne
    rw [h1, if_neg hne] at h
    exact hne (Outcome.ok.inj h)
  have hr : (removeLoop Engine.solr cl R u.2).1 = none := by
    rw [h1, if_pos hu] at h
    exact Outcome.ok.inj h
  have hc1 : c1 = (removeLoop Engine.solr cl R u.2).2 := by
    show (manageConfigSets ord t.codec Engine.solr cl cs (.ok t.items) t.checksumsName c).2 = _
    rw [h1, if_pos hu]
  have hU : ∀ {kv}, kv ∈ U ↔ t.configMaps.lookup kv.1 = some kv.2 ∧ t.pending c.state kv.1 = true :=
    fun {kv} => GoMap.mem_range.trans (lookup_configMapsToUpload t ord c.state)
  have hUk : ∀ {y}, y ∈ U.map Prod.fst ↔ t.pending c.state y = true := fun {y} =>
    ⟨fun hy => by
      obtain ⟨kv, hkv, rfl⟩ := List.mem_map.1 hy
      exact (hU.1 hkv).2,
    fun hp => by
      obtain ⟨cm, hcm⟩ := GoMap.mem_iff_lookup.1 (t.mem_of_pending c.state hp)
      exact List.mem_map_of_mem Prod.fst (hU.2 ⟨hcm, hp⟩ : (y, cm) ∈ U)⟩
  have hR : ∀ {k}, k ∈ R ↔ cs.spec.cleanup = true ∧ k ∈ c.state.configSets ∧ k ∉ t.configMaps ∧
      hasPrefix k "_" = false := by
    intro k
    rw [hR_def, GoMap.mem_range_fst]
    split
    · rename_i hc
      exact mem_configMapsToRemove.trans ⟨fun ⟨h1, h2, h3⟩ => ⟨hc, AList.mem_keys.1 h1, h2, h3⟩,
        fun ⟨_, h1, h2, h3⟩ => ⟨AList.mem_keys.2 h1, h2, h3⟩⟩
    · simp only [AList.not_mem_empty, false_iff, not_and]
      intro h
      contradiction
  obtain ⟨u1, u2, u3⟩ := uploadLoop_engine_of_ok cl U
    ⟨c.state, c.log ++ [(cl, .getConfigSets)] ++ [(cl, .query t.checksumsName "*:*")]⟩ (fun kv hkv => hquote kv.1 (GoMap.mem_iff_lookup.2 ⟨_, (hU.1 hkv).1⟩)) hchk hu
  obtain ⟨r1, r2, r3⟩ := removeLoop_engine_of_ok cl R u.2 hr
  rw [← hc1] at r1 r2 r3
  refine ⟨r1.trans u1, fun y => by rw [r3, u2, hUk, hR], ?_⟩
  rw [← u3]
  exact Engine.recordsOf_congr (by rw [r1]) (by rw [r2])

/-- A `ManageConfigSets` with nothing to do: no configmap's config set still to
    upload and, with cleanup on, every unprefixed config set named by a configmap. It
    makes its two reads and no other call, and reports no error. -/
theorem manageConfigSets_idle (ord : MapOrder Site) (cs : SolrCollectionSet) (c : Conn Engine)
    (hm : mapConfigMaps ∅ t.items = .ok t.configMaps) (hchk : t.checksumsName ∈ c.state.collections)
    (hp : ∀ k, t.pending c.state k = false)
    (hr : ∀ k ∈ c.state.configSets, cs.spec.cleanup = true → hasPrefix k "_" = false → k ∈ t.configMaps) :
    manageConfigSets ord t.codec Engine.solr cl cs (.ok t.items) t.checksumsName c =
      (.ok none, ⟨c.state, c.log ++ [(cl, .getConfigSets), (cl, .query t.checksumsName "*:*")]⟩) := by
  have hU : (configMapsToUpload ord t.codec c.state.configSets.keys t.configMaps
      (t.checksums c.state)).range ord .uploads = [] :=
    GoMap.range_eq_nil.2 fun k hk => by
      obtain ⟨cm, hcm⟩ := GoMap.mem_iff_lookup.1 hk
      have := ((lookup_configMapsToUpload t ord c.state).1 hcm).2
      rw [hp] at this
      cases this
  have hR : (if cs.spec.cleanup = true then configMapsToRemove c.state.configSets.keys t.configMaps
      else ∅).range ord .removes = [] :=
    GoMap.range_eq_nil.2 fun k hk => by
      split at hk
      · obtain ⟨hk1, hn, hpre⟩ := mem_configMapsToRemove.1 hk
        exact hn (hr k (AList.mem_keys.1 hk1) ‹_› hpre)
      · exact AList.not_mem_empty _ hk
  rw [manageConfigSets_engine cl ord cs c hm hchk]
  dsimp only
  rw [hU, hR]
  simp only [uploadLoop, List.map_nil, removeLoop, if_true, List.append_assoc, List.singleton_append]

end

/-! ## The second pass -/

/-- The checksum round trip of `ManageConfigSets`. Take any configmaps whose
    `collection` labels Kubernetes admits and any cluster. If a pass reports no
    error and leaves in the checksum collection no more records than the 1000
    `Query` returns, a second pass over the same configmaps, in any map order and
    through any client, makes its two reads and no other call, and reports no
    error. -/
theorem manageConfigSets_round_trip (ord ord' : MapOrder Site) (codec : Codec) (cl cl' : SolrClient)
    (cs : SolrCollectionSet) (items : List ConfigMap) (c : Conn Engine)
    (hlabels : ∀ cm ∈ items, ∀ v, cm.labels.lookup "collection" = some v → validLabelValue v = true)
    (hok : (manageConfigSets ord codec Engine.solr cl cs (.ok items)
      (checksumsCollectionName cs.name) c).1 = .ok none)
    (hrows : ((manageConfigSets ord codec Engine.solr cl cs (.ok items) (checksumsCollectionName cs.name)
      c).2.state.recordsOf (checksumsCollectionName cs.name)).length ≤ 1000) :
    let c1 := (manageConfigSets ord codec Engine.solr cl cs (.ok items) (checksumsCollectionName cs.name) c).2
    manageConfigSets ord' codec Engine.solr cl' cs (.ok items) (checksumsCollectionName cs.name) c1 =
      (.ok none, ⟨c1.state, c1.log ++ [(cl', .getConfigSets),
        (cl', .query (checksumsCollectionName cs.name) "*:*")]⟩) := by
  intro c1
  let t : Target := ⟨cs.name, cs.spec, items, codec⟩
  change (manageConfigSets ord t.codec Engine.solr cl cs (.ok t.items) t.checksumsName c).1 = .ok none at hok
  change (c1.state.recordsOf t.checksumsName).length ≤ 1000 at hrows
  have hquote : ∀ x ∈ t.configMaps, '"' ∉ x.data := fun x hx => by
    obtain h | ⟨cm, hcm, hx⟩ := mem_labelMap.1 hx
    · exact absurd h (AList.not_mem_empty _)
    · exact quote_not_mem_of_validLabelValue (hlabels cm hcm x hx)
  obtain ⟨hm, hchk⟩ := manageConfigSets_of_ok cl ord cs hok
  obtain ⟨hcol, hcfg, hrec⟩ := manageConfigSets_state_of_ok cl ord cs c hquote hok
  have hc1 : (manageConfigSets ord t.codec Engine.solr cl cs (.ok t.items) t.checksumsName c).2 = c1 := rfl
  rw [hc1] at hcol hcfg hrec
  set E := c.state
  set U := (configMapsToUpload ord t.codec E.configSets.keys t.configMaps (t.checksums E)).range ord .uploads
  -- the first pass's records all lie within the 1000 rows, so the second pass reads them back
  have hlen : (E.recordsOf t.checksumsName).length ≤ 1000 := by
    have := hrows
    rw [hrec, List.length_append] at this
    omega
  have hsums : t.checksums c1.state = U.foldl (fun m kv => m.insert kv.1
      (checksum t.codec (kv.2.data.getString "configset"))) (t.checksums E) := by
    rw [Target.checksums, Target.checksums, List.take_of_length_le hrows, hrec,
      List.take_of_length_le hlen, List.foldl_append, List.foldl_map]
  -- no configmap's config set is left to upload
  have hsettled : ∀ k, t.pending c1.state k = false := by
    intro k
    refine Bool.eq_false_iff.2 fun hp => ?_
    obtain ⟨cm, hcm, hne⟩ := (t.pending_iff c1.state).1 hp
    have hkR : ¬(cs.spec.cleanup = true ∧ k ∈ E.configSets ∧ k ∉ t.configMaps ∧
        hasPrefix k "_" = false) := fun h => h.2.2.1 (GoMap.mem_iff_lookup.2 ⟨cm, hcm⟩)
    rw [hcfg, hsums] at hne
    cases hpE : t.pending E k
    · have hk : k ∈ E.configSets := by
        by_contra h
        simpa [hpE] using (t.pending_iff E).2 ⟨cm, hcm, .inl h⟩
      have hsum : (t.checksums E).lookup k = some (checksum t.codec (cm.data.getString "configset")) := by
        by_contra h
        simpa [hpE] using (t.pending_iff E).2 ⟨cm, hcm, .inr h⟩
      have hkU : k ∉ U.map Prod.fst := fun h => by
        obtain ⟨kv, hkv, rfl⟩ := List.mem_map.1 h
        rw [((lookup_configMapsToUpload t ord E).1 (GoMap.mem_range.1 hkv)).2] at hpE
        cases hpE
      rw [GoMap.lookup_foldl_insert_of_not_mem Prod.fst _ U _ hkU, hsum] at hne
      exact hne.elim (fun h => h ⟨.inl hk, hkR⟩) (fun h => h rfl)
    · have hkU : (k, cm) ∈ U := GoMap.mem_range.2 ((lookup_configMapsToUpload t ord E).2 ⟨hcm, hpE⟩)
      rw [GoMap.lookup_foldl_insert_of_mem Prod.fst
        (fun kv => checksum t.codec (kv.2.data.getString "configset")) U _ hkU
        (GoMap.range_nodup _ _ _)] at hne
      exact hne.elim (fun h => h ⟨.inr hpE, hkR⟩) (fun h => h rfl)
  -- and every unprefixed config set left is one a configmap names
  have hnamed : ∀ k ∈ c1.state.configSets, cs.spec.cleanup = true → hasPrefix k "_" = false →
      k ∈ t.configMaps := fun k hk hc hpre => by
    obtain ⟨hk | hp, hkR⟩ := (hcfg k).1 hk
    · by_contra hn
      exact hkR ⟨hc, hk, hn, hpre⟩
    · exact t.mem_of_pending E hp
  exact manageConfigSets_idle cl' ord' cs c1 hm (hcol ▸ hchk) hsettled hnamed

theorem manageConfigSets_round_trip_fresh :
    let codec : Codec := Codec.go
    let cs : SolrCollectionSet := ⟨"set", "ns", ⟨"http://solr", "secret", some true, some 1,
      some false, some true, []⟩, .empty⟩
    let items : List ConfigMap :=
      [⟨"cm", (∅ : GoMap String).insert "collection" "x", (∅ : GoMap String).insert "configset" "AA=="⟩]
    let c : Conn Engine := ⟨⟨(∅ : GoMap Collection).insert "_setChecksums" ⟨"_setChecksums", 1, 1,
      "_checksums"⟩, ∅, ((∅ : GoMap Bytes).insert "_checksums" []).insert "old" [],
      (∅ : GoMap (List (String × String))).insert "_setChecksums" []⟩, []⟩
    let pass (c : Conn Engine) := manageConfigSets (MapOrder.stored Site) codec Engine.solr
      SolrClient.zero cs (.ok items) (checksumsCollectionName cs.name) c
    (∀ cm ∈ items, ∀ v, cm.labels.lookup "collection" = some v → validLabelValue v = true) ∧
      (pass c).1 = .ok none ∧
      ((pass c).2.state.recordsOf (checksumsCollectionName cs.name)).length ≤ 1000 ∧
      (pass (pass c).2).1 = .ok none := by
  intro codec cs items c pass
  have hl : ∀ cm ∈ items, ∀ v, cm.labels.lookup "collection" = some v → validLabelValue v = true := by
    intro cm hcm v hv
    obtain rfl := List.mem_singleton.1 hcm
    rw [AList.lookup_insert] at hv
    obtain rfl := Option.some.inj hv
    decide
  have h1 : (pass c).1 = .ok none := by set_option maxRecDepth 100000 in decide
  have h2 : ((pass c).2.state.recordsOf (checksumsCollectionName cs.name)).length ≤ 1000 := by
    set_option maxRecDepth 100000 in decide
  exact ⟨hl, h1, h2, congrArg Prod.fst (manageConfigSets_round_trip (MapOrder.stored Site)
    (MapOrder.stored Site) codec SolrClient.zero SolrClient.zero cs items c hl h1 h2)⟩

/-- `Query` returns 1000 rows: on a checksum collection already holding 1000
    records, the record of a new config set is written past them, so the next pass
    does not see it and uploads the config set again. -/
theorem manageConfigSets_uploads_again_past_rows :
    let codec : Codec := Codec.go
    let cs : SolrCollectionSet := ⟨"set", "ns", ⟨"http://solr", "secret", some true, some 1,
      some false, some false, []⟩, .empty⟩
    let items : List ConfigMap :=
      [⟨"cm", (∅ : GoMap String).insert "collection" "x", (∅ : GoMap String).insert "configset" "AA=="⟩]
    let c : Conn Engine := ⟨⟨(∅ : GoMap Collection).insert "_setChecksums" ⟨"_setChecksums", 1, 1,
      "_checksums"⟩, ∅, (∅ : GoMap Bytes).insert "_checksums" [],
      (∅ : GoMap (List (String × String))).insert "_setChecksums" (List.replicate 1000 ("y", "0"))⟩, []⟩
    let pass (c : Conn Engine) := manageConfigSets (MapOrder.stored Site) codec Engine.solr
      SolrClient.zero cs (.ok items) (checksumsCollectionName cs.name) c
    (pass c).1 = .ok none ∧
      ((pass c).2.state.recordsOf (checksumsCollectionName cs.name)).length = 1001 ∧
      (SolrClient.zero, .uploadConfigSet "x" [0]) ∈ (pass (pass c).2).2.log.drop (pass c).2.log.length := by
  set_option maxRecDepth 100000 in decide

end SolrOperator
