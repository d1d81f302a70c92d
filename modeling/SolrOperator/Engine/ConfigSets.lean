/-
  SolrOperator.Engine.ConfigSets

  `ManageConfigSets` and `InitializeSolrCluster` against the engine.

  `ManageConfigSets` reads the config sets and the checksum records, uploads
  every config set still to upload, writing its checksum record after it, and
  with cleanup on deletes every config set no configmap names. On a cluster
  keeping `Inv`, whose checksum collection exists and whose configmap labels hold
  no double quote, each upload with its record settles one pending config set and
  each deletion one stray config set; the loops stop early only when a configmap
  does not decode. `InitializeSolrCluster` creates the checksum collection when
  it is missing, which settles that problem and raises none.
-/
import SolrOperator.Engine.Measure

namespace SolrOperator

/-! ## Reading the checksums back -/

theorem readChecksums_recordDocs : ∀ (m : GoMap String) (l : List (String × String)),
    readChecksums m (l.map Engine.recordDoc) = .ok (l.foldl (fun m rec => m.insert rec.1 rec.2) m)
  | _, [] => rfl
  | m, rec :: l => by
    have h1 : (Engine.recordDoc rec).lookup "collection" = some (.str rec.1) := by
      rw [Engine.recordDoc, AList.lookup_insert_ne (by decide), AList.lookup_insert]
    have h2 : (Engine.recordDoc rec).lookup "checksum" = some (.str rec.2) := by
      rw [Engine.recordDoc, AList.lookup_insert]
    simp only [List.map_cons, readChecksums, h1, h2, assertString, List.foldl_cons]
    exact readChecksums_recordDocs _ l

section
variable (t : Target) (ord : MapOrder Site) (E : Engine)

/-- What `ManageConfigSets` reads back from the checksum collection's `Query`. -/
theorem readChecksums_query :
    readChecksums ∅ (((E.recordsOf t.checksumsName).take 1000).map Engine.recordDoc) =
      .ok (t.checksums E) :=
  readChecksums_recordDocs _ _

/-- `ManageConfigSets` uploads exactly the config sets still to upload. -/
theorem lookup_configMapsToUpload {x : String} {cm : ConfigMap} :
    (configMapsToUpload ord t.codec E.configSets.keys t.configMaps (t.checksums E)).lookup x = some cm ↔
      t.configMaps.lookup x = some cm ∧ t.pending E x = true := by
  rw [configMapsToUpload, GoMap.lookup_select]
  cases h : t.configMaps.lookup x with
  | none => simp
  | some cm0 =>
    have hp : t.pending E x = (decide (x ∉ E.configSets) || decide ((t.checksums E).lookup x ≠
        some (checksum t.codec (cm0.data.getString "configset")))) := by
      simp only [Target.pending, h]
    rw [Option.some_bind, hp]
    by_cases hx : x ∈ E.configSets
    · have hk : contains E.configSets.keys x = true := contains_iff.mpr (AList.mem_keys.mpr hx)
      simp only [hk, Bool.not_true, Bool.false_eq_true, if_false, hx, not_true_eq_false,
        decide_False, Bool.false_or]
      cases (t.checksums E).lookup x with
      | none => simp [eq_comm]
      | some c =>
        by_cases hcs : checksum t.codec (cm0.data.getString "configset") = c
        · simp [hcs]
        · simp [hcs, Ne.symm hcs, eq_comm]
    · have hk : contains E.configSets.keys x = false :=
        Bool.eq_false_iff.mpr fun h' => hx (AList.mem_keys.mp (contains_iff.mp h'))
      simp [hk, hx, eq_comm]

end

/-! ## One upload -/

section
variable {t : Target}

/-- Uploading a config set still to upload and writing its checksum record settles
    it, leaves every other problem as it was, and keeps `Inv`: the record fits
    within the 1000 that `Query` returns. -/
theorem upload_record {E : Engine} {x : String} {cm : ConfigMap} (body : Bytes) (hinv : Inv t E)
    (hchk : t.checksumsName ∈ E.collections) (hcm : t.configMaps.lookup x = some cm)
    (hp : t.pending E x = true) :
    let E' : Engine := { E with
      configSets := E.configSets.insert x body
      records := E.records.insert t.checksumsName (E.recordsOf t.checksumsName ++
        [(x, checksum t.codec (cm.data.getString "configset"))]) }
    Inv t E' ∧ t.measure E' < t.measure E ∧ t.NoWorse E E' ∧
      ∀ y, y ≠ x → t.pending E' y = t.pending E y := by
  intro E'
  set sum := checksum t.codec (cm.data.getString "configset")
  have hR : E'.recordsOf t.checksumsName = E.recordsOf t.checksumsName ++ [(x, sum)] := by
    simp [Engine.recordsOf, E', hchk, AList.lookup_insert]
  have hpos : 0 < (t.pendings E).card := Finset.card_pos.mpr ⟨x, (t.mem_pendings E).mpr hp⟩
  have hlen : (E.recordsOf t.checksumsName).length < 1000 := by have := hinv.room; omega
  have hsums : t.checksums E' = (t.checksums E).insert x sum := by
    rw [Target.checksums, Target.checksums, hR, List.take_of_length_le (by simp; omega),
      List.take_of_length_le (by omega), List.foldl_append]
    rfl
  have hother : ∀ y, y ≠ x → t.pending E' y = t.pending E y := by
    intro y hy
    simp only [Target.pending, hsums, AList.lookup_insert_ne hy, E', AList.mem_insert, hy, false_or]
  have hsettled : t.pending E' x = false := by
    simp [Target.pending, hcm, hsums, AList.lookup_insert, E', AList.mem_insert]
  have hsub : t.pendings E' ⊂ t.pendings E := by
    refine Finset.ssubset_iff_of_subset (fun y hy => ?_) |>.mpr ⟨x, (t.mem_pendings E).mpr hp, fun h => ?_⟩
    · rw [Target.mem_pendings] at hy ⊢
      by_cases hyx : y = x
      · rw [hyx, hsettled] at hy
        cases hy
      · rwa [← hother y hyx]
    · rw [Target.mem_pendings, hsettled] at h
      cases h
  have hle : ∀ p : Problem, p.Holds t E' → p.Holds t E := by
    intro p hp'
    cases p with
    | pendingUpload y =>
      by_cases hyx : y = x
      · rw [Problem.Holds, hyx, hsettled] at hp'
        cases hp'
      · rwa [Problem.Holds, hother y hyx] at hp'
    | strayConfigSet s =>
      obtain ⟨hc, hs, hpre, hn⟩ := hp'
      refine ⟨hc, ?_, hpre, hn⟩
      rcases (AList.mem_insert _).mp hs with rfl | hs
      · exact absurd (GoMap.mem_iff_lookup.mpr ⟨cm, hcm⟩) hn
      · exact hs
    | _ => exact hp'
  refine ⟨⟨hinv.aliases, hinv.configSets, ?_⟩, Target.measure_lt hle (.pendingUpload x) hp
    (by simp [Problem.Holds, hsettled]), hle, hother⟩
  have := Finset.card_lt_card hsub
  have := hinv.room
  rw [hR, List.length_append, List.length_singleton]
  omega

/-! ## The two loops -/

variable (cl : SolrClient)

/-- A step of the upload loop whose configmap decodes: the upload and the record
    succeed, and the loop goes on from the cluster holding both. -/
theorem uploadLoop_cons_engine {c : Conn Engine} {x : String} {cm : ConfigMap} {body : Bytes}
    (rest : List (String × ConfigMap))
    (hdec : t.codec.decodeString (cm.data.getString "configset") = some body)
    (hchk : t.checksumsName ∈ c.state.collections) (hquote : '"' ∉ x.data) :
    ∃ c' : Conn Engine, c'.state = { c.state with
        configSets := c.state.configSets.insert x body
        records := c.state.records.insert t.checksumsName (c.state.recordsOf t.checksumsName ++
          [(x, checksum t.codec (cm.data.getString "configset"))]) } ∧
      uploadLoop t.codec Engine.solr cl t.checksumsName ((x, cm) :: rest) c =
        uploadLoop t.codec Engine.solr cl t.checksumsName rest c' := by
  have hparse : parseChecksumRecord (checksumRecord x (checksum t.codec (cm.data.getString
      "configset"))) = some (x, checksum t.codec (cm.data.getString "configset")) :=
    parseChecksumRecord_checksumRecord hquote (quote_not_mem_hexEncodeToString _)
  refine ⟨⟨_, c.log ++ [(cl, .uploadConfigSet x body)] ++ [(cl, .writeRecord t.checksumsName
    (checksumRecord x (checksum t.codec (cm.data.getString "configset"))))]⟩, rfl, ?_⟩
  simp only [uploadLoop, hdec]
  rw [Engine.solr_call_eq (Engine.answer_uploadConfigSet body)]
  dsimp only
  rw [Engine.solr_call_eq (Engine.answer_writeRecord
    (E := { c.state with configSets := c.state.configSets.insert x body }) hparse hchk)]
  rfl

/-- The upload loop over config sets still to upload, one entry each: every upload
    and record succeeds, so the loop stops early only at a configmap that does not
    decode; each upload with its record lowers the measure. -/
theorem uploadLoop_progress (hquote : ∀ x ∈ t.configMaps, '"' ∉ x.data) :
    ∀ (U : List (String × ConfigMap)) (c : Conn Engine), (U.map Prod.fst).Nodup → Inv t c.state →
      t.checksumsName ∈ c.state.collections →
      (∀ kv ∈ U, t.configMaps.lookup kv.1 = some kv.2 ∧ t.pending c.state kv.1 = true) →
      Progress t c (uploadLoop t.codec Engine.solr cl t.checksumsName U c).2 ∧
        (uploadLoop t.codec Engine.solr cl t.checksumsName U c).2.state.collections =
          c.state.collections ∧
        (uploadLoop t.codec Engine.solr cl t.checksumsName U c).2.state.aliases = c.state.aliases ∧
        (∀ y ∈ c.state.configSets,
          y ∈ (uploadLoop t.codec Engine.solr cl t.checksumsName U c).2.state.configSets) ∧
        ((uploadLoop t.codec Engine.solr cl t.checksumsName U c).1 = none →
          ∀ kv ∈ U, kv.1 ∈ (uploadLoop t.codec Engine.solr cl t.checksumsName U c).2.state.configSets) ∧
        ((∀ kv ∈ U, (t.codec.decodeString (kv.2.data.getString "configset")).isSome) →
          (uploadLoop t.codec Engine.solr cl t.checksumsName U c).1 = none ∧
            (U ≠ [] → t.measure (uploadLoop t.codec Engine.solr cl t.checksumsName U c).2.state <
              t.measure c.state)) ∧
        t.NoWorse c.state (uploadLoop t.codec Engine.solr cl t.checksumsName U c).2.state
  | [], c, _, hinv, _, _ =>
    ⟨.refl hinv, rfl, rfl, fun _ h => h, fun _ _ h => absurd h (List.not_mem_nil _),
      fun _ => ⟨rfl, fun h => absurd rfl h⟩, .refl _⟩
  | (x, cm) :: U, c, hnd, hinv, hchk, hU => by
    obtain ⟨hcm, hp⟩ := hU (x, cm) (List.mem_cons_self _ _)
    rw [List.map_cons, List.nodup_cons] at hnd
    cases hdec : t.codec.decodeString (cm.data.getString "configset") with
    | none =>
      have hstop : uploadLoop t.codec Engine.solr cl t.checksumsName ((x, cm) :: U) c =
          (some ("could not base64 decode 'configset' property on configmap " ++ cm.name ++
            " for collection " ++ x), c) := by
        simp only [uploadLoop, hdec]
      rw [hstop]
      exact ⟨.refl hinv, rfl, rfl, fun _ h => h, fun h => (by cases h),
        fun h => absurd (h (x, cm) (List.mem_cons_self _ _)) (by simp [hdec]), .refl _⟩
    | some body =>
      obtain ⟨c2, hc2, heq⟩ :=
        uploadLoop_cons_engine cl U hdec hchk (hquote x (GoMap.mem_iff_lookup.mpr ⟨cm, hcm⟩))
      rw [heq]
      obtain ⟨hinv', hlt, hw, hother⟩ := upload_record body hinv hchk hcm hp
      have hinv2 : Inv t c2.state := hc2 ▸ hinv'
      have hlt2 : t.measure c2.state < t.measure c.state := hc2 ▸ hlt
      have hw2 : t.NoWorse c.state c2.state := hc2 ▸ hw
      have hother2 : ∀ y, y ≠ x → t.pending c2.state y = t.pending c.state y := hc2 ▸ hother
      have hx0 : x ∉ U.map Prod.fst := hnd.1
      have hx : ∀ kv ∈ U, kv.1 ≠ x := fun kv hkv h => hx0 (h ▸ List.mem_map_of_mem _ hkv)
      obtain ⟨i1, i2, i3, i4, i5, i6, i7⟩ := uploadLoop_progress hquote U c2 hnd.2 hinv2
        (by rw [hc2]; exact hchk) fun kv hkv =>
          ⟨(hU kv (List.mem_cons_of_mem _ hkv)).1,
            (hother2 kv.1 (hx kv hkv)).trans (hU kv (List.mem_cons_of_mem _ hkv)).2⟩
      rw [hc2] at i2 i3 i4
      refine ⟨(Progress.of_lt hinv2 hlt2).trans i1, i2, i3,
        fun y hy => i4 y ((AList.mem_insert _).mpr (.inr hy)), fun h kv hkv => ?_,
        fun h => ⟨(i6 fun kv hkv => h kv (List.mem_cons_of_mem _ hkv)).1,
          fun _ => lt_of_le_of_lt i1.measure_le hlt2⟩, hw2.trans i7⟩
      rcases List.mem_cons.mp hkv with rfl | hkv
      · exact i4 _ ((AList.mem_insert _).mpr (.inl rfl))
      · exact i5 h kv hkv

/-- The remove loop over config sets the cleanup removes: every deletion succeeds,
    as no collection is built on them, and each lowers the measure. -/
theorem removeLoop_progress : ∀ (names : List String) (c : Conn Engine), names.Nodup →
    Inv t c.state →
    (∀ s ∈ names, t.spec.cleanup = true ∧ s ∈ c.state.configSets ∧ hasPrefix s "_" = false ∧
      s ∉ t.configMaps) →
    Progress t c (removeLoop Engine.solr cl names c).2 ∧
      (removeLoop Engine.solr cl names c).2.state.collections = c.state.collections ∧
      (removeLoop Engine.solr cl names c).2.state.aliases = c.state.aliases ∧
      (removeLoop Engine.solr cl names c).1 = none ∧
      (names ≠ [] → t.measure (removeLoop Engine.solr cl names c).2.state < t.measure c.state) ∧
      t.NoWorse c.state (removeLoop Engine.solr cl names c).2.state ∧
      ∀ y ∈ t.configMaps, y ∈ c.state.configSets → y ∈ (removeLoop Engine.solr cl names c).2.state.configSets
  | [], c, _, hinv, _ => ⟨.refl hinv, rfl, rfl, rfl, fun h => absurd rfl h, .refl _, fun _ _ h => h⟩
  | s :: names, c, hnd, hinv, hs => by
    rw [List.nodup_cons] at hnd
    obtain ⟨hc, hmem, hpre, hn⟩ := hs s (List.mem_cons_self _ _)
    have hunused : c.state.inUse s = false := Bool.eq_false_iff.mpr fun h => by
      obtain ⟨k, col, hcol, rfl⟩ := (c.state.inUse_iff).mp h
      exact hn (hinv.configSets hc k col hcol hpre)
    obtain ⟨c2, hc2, heq⟩ : ∃ c2 : Conn Engine,
        c2.state = { c.state with configSets := c.state.configSets.erase s } ∧
          removeLoop Engine.solr cl (s :: names) c = removeLoop Engine.solr cl names c2 :=
      ⟨⟨_, c.log ++ [(cl, .deleteConfigSet s)]⟩, rfl, by
        simp only [removeLoop]
        rw [Engine.solr_call_eq (Engine.answer_deleteConfigSet hmem hunused)]⟩
    rw [heq]
    have hcfg : ∀ x ∈ t.configMaps, x ∈ c2.state.configSets ↔ x ∈ c.state.configSets := fun x hx => by
      rw [hc2, AList.mem_erase]
      exact ⟨And.right, fun h => ⟨fun h' => hn (h' ▸ hx), h⟩⟩
    have hrec : c2.state.recordsOf t.checksumsName = c.state.recordsOf t.checksumsName := by rw [hc2]; rfl
    have hpend := t.pending_congr c.state hcfg hrec
    have hle : ∀ p : Problem, p.Holds t c2.state → p.Holds t c.state := by
      intro p hp
      rw [hc2] at hp
      cases p with
      | pendingUpload y => rwa [← hc2, Problem.Holds, hpend] at hp
      | strayConfigSet y =>
        obtain ⟨h1, h2, h3, h4⟩ := hp
        exact ⟨h1, (AList.mem_erase.mp h2).2, h3, h4⟩
      | _ => exact hp
    have hinv' : Inv t c2.state := by
      rw [hc2]
      exact ⟨hinv.aliases, hinv.configSets, hc2 ▸ hinv.room_congr hcfg hrec⟩
    have hlt : t.measure c2.state < t.measure c.state :=
      Target.measure_lt hle (.strayConfigSet s) ⟨hc, hmem, hpre, hn⟩ fun h => by
        rw [hc2] at h
        exact (AList.mem_erase.mp h.2.1).1 rfl
    obtain ⟨i1, i2, i3, i5, -, i6, i4⟩ := removeLoop_progress names c2 hnd.2 hinv' fun s' hs' => by
      obtain ⟨h1, h2, h3, h4⟩ := hs s' (List.mem_cons_of_mem _ hs')
      have hne : s' ≠ s := fun h => hnd.1 (h ▸ hs')
      rw [hc2]
      exact ⟨h1, AList.mem_erase.mpr ⟨hne, h2⟩, h3, h4⟩
    rw [hc2] at i2 i3
    exact ⟨(Progress.of_lt hinv' hlt).trans i1, i2, i3, i5, fun _ => lt_of_le_of_lt i1.measure_le hlt,
      Target.NoWorse.trans hle i6, fun y hy hyc => i4 y hy ((hcfg y hy).mpr hyc)⟩

/-! ## `ManageConfigSets` -/

/-- `ManageConfigSets` over the set's configmaps, on a cluster keeping `Inv` whose
    checksum collection exists and whose configmap labels hold no double quote:
    it only reads, or lowers the measure; it leaves collections and aliases as they
    were; and when it reports no error the cluster holds the config set of every
    configmap. When every configmap is labelled and decodes, it reports no error,
    and lowers the measure if a config set is still to upload or to remove. -/
theorem manageConfigSets_progress (ord : MapOrder Site) (cs : SolrCollectionSet) {c : Conn Engine}
    (hspec : cs.spec = t.spec) (hinv : Inv t c.state) (hchk : t.checksumsName ∈ c.state.collections)
    (hquote : ∀ x ∈ t.configMaps, '"' ∉ x.data) :
    Progress t c (manageConfigSets ord t.codec Engine.solr cl cs (.ok t.items) t.checksumsName c).2 ∧
      (manageConfigSets ord t.codec Engine.solr cl cs (.ok t.items) t.checksumsName
        c).2.state.collections = c.state.collections ∧
      (manageConfigSets ord t.codec Engine.solr cl cs (.ok t.items) t.checksumsName
        c).2.state.aliases = c.state.aliases ∧
      ((manageConfigSets ord t.codec Engine.solr cl cs (.ok t.items) t.checksumsName c).1 = .ok none →
        ∀ x ∈ t.configMaps, x ∈ (manageConfigSets ord t.codec Engine.solr cl cs (.ok t.items)
          t.checksumsName c).2.state.configSets) ∧
      (mapConfigMaps ∅ t.items = .ok t.configMaps →
        (∀ x cm, t.configMaps.lookup x = some cm →
          (t.codec.decodeString (cm.data.getString "configset")).isSome) →
        (manageConfigSets ord t.codec Engine.solr cl cs (.ok t.items) t.checksumsName c).1 = .ok none ∧
          ∀ x, (Problem.pendingUpload x).Holds t c.state ∨ (Problem.strayConfigSet x).Holds t c.state →
            t.measure (manageConfigSets ord t.codec Engine.solr cl cs (.ok t.items) t.checksumsName
              c).2.state < t.measure c.state) ∧
      t.NoWorse c.state
        (manageConfigSets ord t.codec Engine.solr cl cs (.ok t.items) t.checksumsName c).2.state := by
  have hget : Engine.solr.call cl .getConfigSets c =
      (.ok c.state.configSets.keys, ⟨c.state, c.log ++ [(cl, .getConfigSets)]⟩) := rfl
  simp only [manageConfigSets, hget]
  split
  next err hm =>
    refine ⟨.of_reads hinv rfl rfl (by simp [Rpc.isMutating]), rfl, rfl, fun h => (by cases h),
      fun hm' => ?_, .refl _⟩
    rw [hm'] at hm
    cases hm
  rename_i configMaps hm
  obtain rfl : configMaps = t.configMaps := mapConfigMaps_eq_labelMap hm
  have hquery : Engine.solr.call cl (.query t.checksumsName "*:*")
      ⟨c.state, c.log ++ [(cl, .getConfigSets)]⟩ =
      (.ok (((c.state.recordsOf t.checksumsName).take 1000).map Engine.recordDoc),
        ⟨c.state, c.log ++ [(cl, .getConfigSets)] ++ [(cl, .query t.checksumsName "*:*")]⟩) :=
    Engine.solr_call_eq (Engine.answer_query "*:*" hchk)
  rw [hquery]
  dsimp only
  rw [readChecksums_query]
  dsimp only
  set U := (configMapsToUpload ord t.codec c.state.configSets.keys t.configMaps
    (t.checksums c.state)).range ord .uploads
  have hreads : Progress t c ⟨c.state, c.log ++ [(cl, .getConfigSets)] ++
      [(cl, .query t.checksumsName "*:*")]⟩ :=
    .of_reads hinv rfl (List.append_assoc _ _ _) (by simp [Rpc.isMutating])
  have hU : ∀ kv ∈ U, t.configMaps.lookup kv.1 = some kv.2 ∧ t.pending c.state kv.1 = true :=
    fun kv hkv => (lookup_configMapsToUpload t ord c.state).mp (GoMap.mem_range.mp hkv)
  obtain ⟨u1, u2, u3, u4, u5, u6, u7⟩ := uploadLoop_progress cl hquote U ⟨c.state, c.log ++
      [(cl, .getConfigSets)] ++ [(cl, .query t.checksumsName "*:*")]⟩
    (GoMap.range_nodup _ ord _) hinv hchk hU
  have hdecU : (∀ x cm, t.configMaps.lookup x = some cm →
      (t.codec.decodeString (cm.data.getString "configset")).isSome) →
      ∀ kv ∈ U, (t.codec.decodeString (kv.2.data.getString "configset")).isSome :=
    fun hdec kv hkv => hdec _ _ (hU kv hkv).1
  split
  · rename_i err c3 heq
    rw [heq] at u1 u2 u3 u4 u6 u7
    exact ⟨hreads.trans u1, u2, u3, fun h => (by cases h), fun _ hdec => (nomatch (u6 (hdecU hdec)).1), u7⟩
  · rename_i c3 heq
    rw [heq] at u1 u2 u3 u4 u5 u6 u7
    set toRemove := if cs.spec.cleanup = true then
      configMapsToRemove c.state.configSets.keys t.configMaps else ∅ with htoRemove
    obtain ⟨r1, r2, r3, r5, r6, r7, r4⟩ := removeLoop_progress cl ((toRemove.range ord .removes).map Prod.fst) c3
      (GoMap.range_nodup _ ord _) u1.1 fun s hs => by
        rw [GoMap.mem_range_fst, htoRemove] at hs
        by_cases hc : cs.spec.cleanup = true
        · rw [if_pos hc] at hs
          obtain ⟨hk, hn, hp⟩ := mem_configMapsToRemove.mp hs
          exact ⟨hspec ▸ hc, u4 s (AList.mem_keys.mp hk), hp, hn⟩
        · rw [if_neg hc] at hs
          exact absurd hs (AList.not_mem_empty _)
    refine ⟨hreads.trans (u1.trans r1), r2.trans u2, r3.trans u3, fun _ x hx => r4 x hx ?_,
      fun _ hdec => ⟨congrArg Outcome.ok r5, fun x hx => ?_⟩, u7.trans r7⟩
    · obtain ⟨cm, hcm⟩ := GoMap.mem_iff_lookup.mp hx
      by_cases hp : t.pending c.state x
      · exact u5 rfl (x, cm) (GoMap.mem_range.mpr ((lookup_configMapsToUpload t ord c.state).mpr ⟨hcm, hp⟩))
      · by_contra hn
        exact hp ((t.pending_iff c.state).mpr ⟨cm, hcm, .inl fun h => hn (u4 x h)⟩)
    -- an upload lowers the measure; with nothing to upload, a config set to remove does
    by_cases hU0 : U = []
    · rcases hx with hp | ⟨hc, hmem, hpre, hn⟩
      · obtain ⟨cm, hcm, -⟩ := (t.pending_iff c.state).mp hp
        have hxU : (x, cm) ∈ U :=
          GoMap.mem_range.mpr ((lookup_configMapsToUpload t ord c.state).mpr ⟨hcm, hp⟩)
        rw [hU0] at hxU
        exact absurd hxU (List.not_mem_nil _)
      · have hxR : x ∈ (toRemove.range ord .removes).map Prod.fst := by
          rw [GoMap.mem_range_fst, htoRemove, if_pos (hspec ▸ hc)]
          exact mem_configMapsToRemove.mpr ⟨AList.mem_keys.mpr hmem, hn, hpre⟩
        exact lt_of_lt_of_le (r6 (List.ne_nil_of_mem hxR)) (hreads.trans u1).measure_le
    · exact lt_of_le_of_lt r1.measure_le ((u6 (hdecU hdec)).2 hU0)

/-! ## `InitializeSolrCluster` -/

/-- Uploading the checksum config set and creating the missing checksum collection
    on it settles that problem, raises none, and keeps `Inv`. -/
theorem create_checksums {E : Engine} (bytes : Bytes) (hinv : Inv t E)
    (hn : t.checksumsName ∉ E.collections) :
    let E' := ({ E with configSets := E.configSets.insert configChecksumsConfigSetName bytes }).create
      t.checksumsName configChecksumsConfigSetName t.spec.rf
    Inv t E' ∧ t.measure E' < t.measure E ∧ t.NoWorse E E' := by
  intro E'
  have hprefixed : hasPrefix configChecksumsConfigSetName "_" = true := by decide
  have hrec : E.recordsOf t.checksumsName = [] := by simp [Engine.recordsOf, hn]
  have hrec' : E'.recordsOf t.checksumsName = [] := by
    simp [Engine.recordsOf, E', Engine.create, AList.lookup_insert, AList.mem_insert]
  have hpend : t.pending E' = t.pending E := by
    funext x
    rw [t.pending_of_records_nil E' hrec', t.pending_of_records_nil E hrec]
  have hlookup : ∀ {k col}, E'.collections.lookup k = some col →
      (k = t.checksumsName ∧ col = ⟨t.checksumsName, t.spec.rf, t.spec.rf, configChecksumsConfigSetName⟩) ∨
        E.collections.lookup k = some col := by
    intro k col h
    by_cases hk : k = t.checksumsName
    · subst hk
      simp only [E', Engine.create_collections, AList.lookup_insert, Option.some.injEq] at h
      exact .inl ⟨rfl, h.symm⟩
    · simp only [E', Engine.create_collections, AList.lookup_insert_ne hk] at h
      exact .inr h
  have hmem : ∀ {k}, k ∈ E'.collections → k = t.checksumsName ∨ k ∈ E.collections := fun h =>
    (AList.mem_insert _).mp h
  have hle : ∀ p : Problem, p.Holds t E' → p.Holds t E := by
    intro p hp
    cases p with
    | checksumsMissing => exact absurd ((AList.mem_insert _).mpr (.inl rfl)) hp
    | pendingUpload x => rwa [Problem.Holds, hpend] at hp
    | strayConfigSet s =>
      obtain ⟨hc, hs, hpre, hn'⟩ := hp
      rcases (AList.mem_insert _).mp hs with rfl | hs
      · rw [hprefixed] at hpre
        cases hpre
      · exact ⟨hc, hs, hpre, hn'⟩
    | missingInstance i =>
      exact ⟨hp.1, fun h => hp.2 ((AList.mem_insert _).mpr (.inr h))⟩
    | strayCollection k =>
      obtain ⟨hc, hk, hpre, hn'⟩ := hp
      rcases hmem hk with rfl | hk
      · rw [t.checksumsName_prefixed] at hpre
        cases hpre
      · exact ⟨hc, hk, hpre, hn'⟩
    | factorMismatch i =>
      obtain ⟨hi, col, hcol, hrf⟩ := hp
      rcases hlookup hcol with ⟨-, rfl⟩ | hcol
      · exact absurd rfl hrf
      · exact ⟨hi, col, hcol, hrf⟩
    | replicaMismatch i =>
      obtain ⟨hi, col, hcol, hrc⟩ := hp
      rcases hlookup hcol with ⟨-, rfl⟩ | hcol
      · exact absurd rfl hrc
      · exact ⟨hi, col, hcol, hrc⟩
  refine ⟨⟨fun hc a m ha hm hp => ?_, fun hc k col hcol hp => ?_, ?_⟩,
    Target.measure_lt hle .checksumsMissing hn fun h => h ((AList.mem_insert _).mpr (.inl rfl)), hle⟩
  · rcases hmem hm with rfl | hm
    · rw [t.checksumsName_prefixed] at hp
      cases hp
    · exact hinv.aliases hc a m ha hm hp
  · rcases hlookup hcol with ⟨-, rfl⟩ | hcol
    · rw [hprefixed] at hp
      cases hp
    · exact hinv.configSets hc k col hcol hp
  · rw [hrec', ← hrec, show t.pendings E' = t.pendings E by rw [Target.pendings, hpend]; rfl]
    exact hinv.room

/-- `InitializeSolrCluster` for the set: it only reads, or creates the missing
    checksum collection and lowers the measure; with a client and the checksum
    schema at hand it reports no error, and creates the collection when missing.
    The status it returns is the cluster's after it, and holds the checksum
    collection. -/
theorem initializeSolrCluster_progress (lib : Lib) (env : PassEnv) (solrClient : SolrClient)
    {cs : SolrCollectionSet} (hspec : cs.spec = t.spec) {c : Conn Engine} (hinv : Inv t c.state) :
    Progress t c (initializeSolrCluster Engine.solr lib env solrClient cs t.checksumsName c).2.2 ∧
      ((ensureSolrClient env solrClient cs).2 = none → (∃ bytes, lib.schemaZip = .ok bytes) →
        (∃ status isInitializing, (initializeSolrCluster Engine.solr lib env solrClient cs
          t.checksumsName c).1 = .ok (status, isInitializing)) ∧
        (t.checksumsName ∉ c.state.collections → t.measure (initializeSolrCluster Engine.solr lib env
          solrClient cs t.checksumsName c).2.2.state < t.measure c.state)) ∧
      t.NoWorse c.state (initializeSolrCluster Engine.solr lib env solrClient cs t.checksumsName c).2.2.state ∧
      ∀ status isInitializing,
        (initializeSolrCluster Engine.solr lib env solrClient cs t.checksumsName c).1 =
          .ok (status, isInitializing) →
        status.collections =
            (initializeSolrCluster Engine.solr lib env solrClient cs t.checksumsName c).2.2.state.collections ∧
          status.aliases =
            (initializeSolrCluster Engine.solr lib env solrClient cs t.checksumsName c).2.2.state.aliases ∧
          t.checksumsName ∈
            (initializeSolrCluster Engine.solr lib env solrClient cs t.checksumsName c).2.2.state.collections := by
  have hget : ∀ (cl : SolrClient) (c' : Conn Engine), Engine.solr.call cl .getClusterStatus c' =
      (.ok ⟨c'.state.collections, c'.state.aliases⟩, ⟨c'.state, c'.log ++ [(cl, .getClusterStatus)]⟩) :=
    fun _ _ => rfl
  simp only [initializeSolrCluster, hget, hspec]
  split
  next _ _ heq =>
    refine ⟨.refl hinv, fun h _ => ?_, .refl _, fun _ _ h => (by cases h)⟩
    rw [heq] at h
    cases h
  rename_i cl _
  split
  · rename_i hn
    exact ⟨.of_reads hinv rfl rfl (by simp [Rpc.isMutating]), fun _ _ => ⟨⟨_, _, rfl⟩, absurd hn⟩,
      .refl _, fun _ _ h => by cases h; exact ⟨rfl, rfl, hn⟩⟩
  rename_i hn
  simp only [createChecksumCollection]
  cases lib.schemaZip with
  | error err => exact ⟨.of_reads hinv rfl rfl (by simp [Rpc.isMutating]), fun _ ⟨_, h⟩ => (nomatch h),
      .refl _, fun _ _ h => (by cases h)⟩
  | ok bytes => ?_
  dsimp only
  rw [Engine.solr_call_eq (Engine.answer_uploadConfigSet bytes)]
  dsimp only
  rw [Engine.solr_call_eq (Engine.answer_createCollection
    (E := { c.state with configSets := c.state.configSets.insert configChecksumsConfigSetName bytes })
    t.spec.rf hn ((AList.mem_insert _).mpr (.inl rfl)))]
  dsimp only
  obtain ⟨hinv', hlt, hw⟩ := create_checksums bytes hinv hn
  exact ⟨.of_lt hinv' hlt, fun _ _ => ⟨⟨_, _, rfl⟩, fun _ => hlt⟩, hw, fun _ _ h => by
    cases h
    exact ⟨rfl, rfl, (AList.mem_insert _).mpr (.inl rfl)⟩⟩

end

end SolrOperator
