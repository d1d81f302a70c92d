/-
  SolrOperator.Controller.ConfigSets

  `ManageConfigSets`: uploads the config sets carried by the set's configmaps,
  records their checksums in the checksum collection, and (with cleanup) deletes
  the unprefixed config sets no configmap names.

  A configmap names its config set by its `collection` label. A config set is
  uploaded when Solr lacks it, when the checksum collection holds no checksum
  for it, or when the stored checksum differs from the md5 of the configmap's
  base64 text. `base64.StdEncoding.DecodeString` and `md5.Sum` are library code:
  the results hold for any `Codec`, and `Codec.go` is the one of `Go.Codec`;
  `hex.EncodeToString` is modelled.
-/
import SolrOperator.Controller.Collections
import SolrOperator.Kube.Core
import SolrOperator.Go.Codec

namespace SolrOperator

/-- The library functions `ManageConfigSets` relies on. -/
structure Codec where
  /-- `base64.StdEncoding.DecodeString`. -/
  decodeString : String → Option Bytes
  /-- `md5.Sum([]byte(data))`. -/
  md5Sum : String → Bytes

/-- The library as Go's standard library implements it. -/
def Codec.go : Codec := ⟨Base64.decodeString, Md5.sum⟩

/-- One lowercase hex digit. -/
def hexDigit (n : Nat) : Char := Char.ofNat (if n < 10 then 48 + n else 87 + n)

/-- `hex.EncodeToString`. -/
def hexEncodeToString (bs : Bytes) : String :=
  ⟨bs.flatMap fun b => [hexDigit (b.toNat / 16), hexDigit (b.toNat % 16)]⟩

/-- `checksum`: the hex md5 of a string. -/
def checksum (codec : Codec) (data : String) : String := hexEncodeToString (codec.md5Sum data)

/-- The checksum document `ManageConfigSets` writes, as its `fmt.Sprintf` spells it. -/
def checksumRecord (collection sum : String) : String :=
  "\x7b\n\t\t\t\"collection\": \"" ++ collection ++ "\",\n\t\t\t\"checksum\": \"" ++ sum ++
    "\"\n\t\t\x7d"

/-- The configmaps by their `collection` label, later ones overwriting earlier;
    the error of a configmap without the label. -/
def mapConfigMaps (configMaps : GoMap ConfigMap) : List ConfigMap → Except String (GoMap ConfigMap)
  | [] => .ok configMaps
  | cm :: items =>
    match cm.labels.lookup "collection" with
    | none => .error ("config set configmap " ++ cm.name ++ " has no 'collection' label")
    | some name => mapConfigMaps (configMaps.insert name cm) items

/-- The checksum documents as a map from collection to checksum, later ones
    overwriting earlier; a document whose fields are not strings panics. -/
def readChecksums (configSetChecksums : GoMap String) : List Doc → Outcome (GoMap String)
  | [] => .ok configSetChecksums
  | record :: records =>
    match assertString (record.lookup "collection"), assertString (record.lookup "checksum") with
    | .ok collection, .ok sum => readChecksums (configSetChecksums.insert collection sum) records
    | _, _ => .panic

section
variable (ord : MapOrder Site) (codec : Codec)

/-- The configmaps to upload: those whose config set Solr lacks, or whose stored
    checksum is missing or differs from the checksum of their `configset` data. -/
def configMapsToUpload (solrConfigSets : List String) (configMaps : GoMap ConfigMap)
    (configSetChecksums : GoMap String) : GoMap ConfigMap :=
  configMaps.select ord .configMaps fun name configMap =>
    if !contains solrConfigSets name then some configMap
    else
      match configSetChecksums.lookup name with
      | none => some configMap
      | some solrChecksum =>
        if checksum codec (configMap.data.getString "configset") ≠ solrChecksum then some configMap
        else none

/-- The body of the cleanup loop over Solr's config sets. -/
def queueRemove (configMaps : GoMap ConfigMap) (out : GoMap String) (name : String) :
    GoMap String :=
  if name ∉ configMaps ∧ hasPrefix name "_" = false then out.insert name name else out

/-- The config sets to remove: the unprefixed ones no configmap names. -/
def configMapsToRemove (solrConfigSets : List String) (configMaps : GoMap ConfigMap) :
    GoMap String :=
  solrConfigSets.foldl (queueRemove configMaps) ∅

variable {σ : Type} (sv : Solr σ) (solrClient : SolrClient)

/-- The upload loop: decode, upload, record the checksum; stop at the first error. -/
def uploadLoop (checksumCollectionName : String) :
    List (String × ConfigMap) → Conn σ → Option String × Conn σ
  | [], c => (none, c)
  | (collection, configMap) :: rest, c =>
    let configsetEncoded := configMap.data.getString "configset"
    match codec.decodeString configsetEncoded with
    | none => (some ("could not base64 decode 'configset' property on configmap " ++
        configMap.name ++ " for collection " ++ collection), c)
    | some configsetDecoded =>
      match sv.call solrClient (.uploadConfigSet collection configsetDecoded) c with
      | (some _, c) => (some ("could not upload configset " ++ collection), c)
      | (none, c) =>
        match sv.call solrClient (.writeRecord checksumCollectionName
            (checksumRecord collection (checksum codec configsetEncoded))) c with
        | (some _, c) => (some ("could not write checksum to " ++ checksumCollectionName ++
            " for collection " ++ collection), c)
        | (none, c) => uploadLoop checksumCollectionName rest c

/-- The remove loop: delete each config set; stop at the first error. -/
def removeLoop : List String → Conn σ → Option String × Conn σ
  | [], c => (none, c)
  | name :: rest, c =>
    match sv.call solrClient (.deleteConfigSet name) c with
    | (some _, c) => (some ("could not clean up config set [" ++ name ++ "]"), c)
    | (none, c) => removeLoop rest c

/-- `ManageConfigSets`, given what `r.List` answered for the set's configmaps. -/
def manageConfigSets (cs : SolrCollectionSet) (configMapList : Except GoError (List ConfigMap))
    (checksumCollectionName : String) (c : Conn σ) : Outcome (Option String) × Conn σ :=
  match sv.call solrClient .getConfigSets c with
  | (.error err, c) => (.ok (some err), c)
  | (.ok solrConfigSets, c) =>
    match configMapList with
    | .error err => (.ok (some ("error listing config maps" ++ err.extra)), c)
    | .ok items =>
      match mapConfigMaps ∅ items with
      | .error err => (.ok (some err), c)
      | .ok configMaps =>
        match sv.call solrClient (.query checksumCollectionName "*:*") c with
        | (.error err, c) => (.ok (some err), c)
        | (.ok checksumsResponse, c) =>
          match readChecksums ∅ checksumsResponse with
          | .panic => (.panic, c)
          | .ok configSetChecksums =>
            let toUpload := configMapsToUpload ord codec solrConfigSets configMaps configSetChecksums
            let toRemove := if cs.spec.cleanup then configMapsToRemove solrConfigSets configMaps
              else ∅
            match uploadLoop codec sv solrClient checksumCollectionName
                (toUpload.range ord .uploads) c with
            | (some err, c) => (.ok (some err), c)
            | (none, c) =>
              let r := removeLoop sv solrClient ((toRemove.range ord .removes).map Prod.fst) c
              (.ok r.1, r.2)

end

/-! ## What `ManageConfigSets` calls -/

/-- A configmap of the list carries the config set's name as its `collection` label. -/
def Labelled (configMapList : Except GoError (List ConfigMap)) (name : String) : Prop :=
  ∃ items, configMapList = .ok items ∧ ∃ cm ∈ items, cm.labels.lookup "collection" = some name

theorem mem_mapConfigMaps : ∀ {items : List ConfigMap} {configMaps out : GoMap ConfigMap},
    mapConfigMaps configMaps items = .ok out → ∀ {k : String},
      k ∈ out ↔ k ∈ configMaps ∨ ∃ cm ∈ items, cm.labels.lookup "collection" = some k
  | [], configMaps, out, h, k => by
    cases h
    simp
  | cm :: items, configMaps, out, h, k => by
    simp only [mapConfigMaps] at h
    split at h
    · cases h
    · rename_i name hname
      rw [mem_mapConfigMaps h, AList.mem_insert, List.exists_mem_cons_iff, hname, Option.some.injEq,
        @eq_comm _ name k, or_assoc, or_left_comm]

theorem mem_foldl_queueRemove {configMaps : GoMap ConfigMap} {k : String} :
    ∀ (names : List String) (out : GoMap String), k ∈ names.foldl (queueRemove configMaps) out ↔
      k ∈ out ∨ (k ∈ names ∧ k ∉ configMaps ∧ hasPrefix k "_" = false)
  | [], out => by simp
  | name :: names, out => by
    rw [List.foldl_cons, mem_foldl_queueRemove names, queueRemove, List.mem_cons]
    by_cases hk : k = name
    · subst hk
      split <;> rename_i hq
      · simp [hq, AList.mem_insert]
      · simp only [iff_false_intro hq, and_false, or_false]
    · split <;> simp [hk, AList.mem_insert]

theorem mem_configMapsToRemove {solrConfigSets : List String} {configMaps : GoMap ConfigMap}
    {k : String} : k ∈ configMapsToRemove solrConfigSets configMaps ↔
      k ∈ solrConfigSets ∧ k ∉ configMaps ∧ hasPrefix k "_" = false := by
  rw [configMapsToRemove, mem_foldl_queueRemove]
  simp

/-- The map of the configmaps holds exactly the names they are labelled with. -/
theorem mem_mapConfigMaps_iff_labelled {items : List ConfigMap} {configMaps : GoMap ConfigMap}
    (hm : mapConfigMaps ∅ items = .ok configMaps) {name : String} :
    name ∈ configMaps ↔ Labelled (.ok items) name := by
  rw [mem_mapConfigMaps hm, Labelled]
  simp

/-- The calls `ManageConfigSets` can make: its two reads, an upload of a config
    set some configmap is labelled with, a checksum record, and with cleanup the
    deletion of an unprefixed config set no configmap is labelled with. -/
inductive ConfigSetCall (cs : SolrCollectionSet) (configMapList : Except GoError (List ConfigMap))
    (checksumCollectionName : String) : Rpc → Prop
  | getConfigSets : ConfigSetCall cs configMapList checksumCollectionName .getConfigSets
  | query : ConfigSetCall cs configMapList checksumCollectionName (.query checksumCollectionName "*:*")
  | uploadConfigSet (name : String) (body : Bytes) : Labelled configMapList name →
      ConfigSetCall cs configMapList checksumCollectionName (.uploadConfigSet name body)
  | writeRecord (record : String) :
      ConfigSetCall cs configMapList checksumCollectionName (.writeRecord checksumCollectionName record)
  | deleteConfigSet (name : String) : cs.spec.cleanup = true → hasPrefix name "_" = false →
      ¬Labelled configMapList name →
      ConfigSetCall cs configMapList checksumCollectionName (.deleteConfigSet name)

section
variable {σ : Type} (codec : Codec) (sv : Solr σ) (cl : SolrClient) (checksumCollectionName : String)

theorem uploadLoop_steps : ∀ (uploads : List (String × ConfigMap)) (c : Conn σ),
    sv.Steps (fun x => x.1 = cl ∧ ((∃ kv ∈ uploads, ∃ body, x.2 = .uploadConfigSet kv.1 body) ∨
      ∃ record, x.2 = .writeRecord checksumCollectionName record)) c
      (uploadLoop codec sv cl checksumCollectionName uploads c).2
  | [], c => .refl _ c
  | (collection, configMap) :: rest, c => by
    have ih := fun c' => (uploadLoop_steps rest c').mono
      (Q := fun x => x.1 = cl ∧ ((∃ kv ∈ (collection, configMap) :: rest, ∃ body,
        x.2 = .uploadConfigSet kv.1 body) ∨ ∃ record, x.2 = .writeRecord checksumCollectionName record))
      fun x ⟨h1, h2⟩ => ⟨h1, h2.imp_left fun ⟨kv, hkv, hb⟩ => ⟨kv, List.mem_cons_of_mem _ hkv, hb⟩⟩
    simp only [uploadLoop]
    split
    · exact .refl _ _
    · split <;> rename_i heq
      · exact sv.call_steps_of_eq heq ⟨rfl, .inl ⟨_, List.mem_cons_self _ _, _, rfl⟩⟩
      · refine .trans (sv.call_steps_of_eq heq ⟨rfl, .inl ⟨_, List.mem_cons_self _ _, _, rfl⟩⟩) ?_
        split <;> rename_i heq'
        · exact sv.call_steps_of_eq heq' ⟨rfl, .inr ⟨_, rfl⟩⟩
        · exact .trans (sv.call_steps_of_eq heq' ⟨rfl, .inr ⟨_, rfl⟩⟩) (ih _)

theorem removeLoop_steps : ∀ (names : List String) (c : Conn σ),
    sv.Steps (fun x => x.1 = cl ∧ ∃ name ∈ names, x.2 = .deleteConfigSet name) c
      (removeLoop sv cl names c).2
  | [], c => .refl _ c
  | name :: rest, c => by
    simp only [removeLoop]
    split <;> rename_i heq
    · exact sv.call_steps_of_eq heq ⟨rfl, name, List.mem_cons_self _ _, rfl⟩
    · exact .trans (sv.call_steps_of_eq heq ⟨rfl, name, List.mem_cons_self _ _, rfl⟩)
        ((removeLoop_steps rest _).mono fun x ⟨h1, n, hn, h2⟩ =>
          ⟨h1, n, List.mem_cons_of_mem _ hn, h2⟩)

variable (ord : MapOrder Site) (cs : SolrCollectionSet)

/-- Every call of `ManageConfigSets` goes through its client and is one of
    `ConfigSetCall`. -/
theorem manageConfigSets_steps (configMapList : Except GoError (List ConfigMap)) (c : Conn σ) :
    sv.Steps (fun x => x.1 = cl ∧ ConfigSetCall cs configMapList checksumCollectionName x.2) c
      (manageConfigSets ord codec sv cl cs configMapList checksumCollectionName c).2 := by
  simp only [manageConfigSets]
  split <;> rename_i solrConfigSets c heq
  · exact sv.call_steps_of_eq heq ⟨rfl, .getConfigSets⟩
  refine .trans (sv.call_steps_of_eq heq ⟨rfl, .getConfigSets⟩) ?_
  split
  · exact .refl _ _
  rename_i items
  split
  · exact .refl _ _
  rename_i configMaps hm
  split <;> rename_i c heq
  · exact sv.call_steps_of_eq heq ⟨rfl, .query⟩
  refine .trans (sv.call_steps_of_eq heq ⟨rfl, .query⟩) ?_
  split
  · exact .refl _ _
  rename_i configSetChecksums _
  have hup : sv.Steps (fun x => x.1 = cl ∧ ConfigSetCall cs (.ok items) checksumCollectionName x.2)
      c (uploadLoop codec sv cl checksumCollectionName
        ((configMapsToUpload ord codec solrConfigSets configMaps configSetChecksums).range ord .uploads)
        c).2 := by
    refine (uploadLoop_steps codec sv cl checksumCollectionName _ c).mono ?_
    rintro x ⟨h1, ⟨kv, hkv, body, h⟩ | ⟨record, h⟩⟩ <;> refine ⟨h1, ?_⟩ <;> rw [h]
    · have hk : kv.1 ∈ configMapsToUpload ord codec solrConfigSets configMaps configSetChecksums :=
        AList.lookup_isSome.mp (by rw [GoMap.mem_range.mp hkv]; rfl)
      obtain ⟨v, hv, -⟩ := GoMap.mem_select.mp hk
      exact .uploadConfigSet _ _ ((mem_mapConfigMaps_iff_labelled hm).mp
        (AList.lookup_isSome.mp (by rw [hv]; rfl)))
    · exact .writeRecord _
  split <;> rename_i heq <;> rw [heq] at hup
  · exact hup
  refine hup.trans ((removeLoop_steps sv cl _ _).mono fun x ⟨h1, name, hname, h⟩ => ⟨h1, ?_⟩)
  rw [h]
  rw [GoMap.mem_range_fst] at hname
  split at hname
  · rename_i hcleanup
    obtain ⟨-, hnot, hprefix⟩ := mem_configMapsToRemove.mp hname
    exact .deleteConfigSet _ hcleanup hprefix ((mem_mapConfigMaps_iff_labelled hm).not.mp hnot)
  · exact absurd hname (AList.not_mem_empty _)

end

/-! ## Config set names against `ConfigsetName` -/

/-- `ManageConfigSets` names config sets by the configmaps' `collection` label, and
    `ManageCollections` creates with the entry's `ConfigsetName`. An entry `x` with
    `ConfigsetName` `schema`, a configmap labelled `collection=x`, and cleanup on:
    the pass uploads `x`, deletes `schema`, and then creates `x` on `schema`. -/
theorem configsetName_deleted_then_used :
    let cs : SolrCollectionSet := ⟨"set", "ns", ⟨"http://solr", "secret", some true, some 1,
      some false, some true, [⟨"x", "x", "schema"⟩]⟩, .empty⟩
    let cm : ConfigMap := ⟨"x-configset",
      ((∅ : GoMap String).insert "collectionSet" "set").insert "collection" "x",
      (∅ : GoMap String).insert "configset" ""⟩
    let sv := Solr.frozen ⟨∅, ∅⟩ ["schema"] []
    let codec : Codec := ⟨fun _ => some [], fun _ => []⟩
    let r := manageConfigSets (MapOrder.stored Site) codec sv SolrClient.zero cs (.ok [cm])
      "_setChecksums" ⟨(), []⟩
    r.1 = .ok none ∧
    r.2.log = [(SolrClient.zero, .getConfigSets), (SolrClient.zero, .query "_setChecksums" "*:*"),
      (SolrClient.zero, .uploadConfigSet "x" []),
      (SolrClient.zero, .writeRecord "_setChecksums" (checksumRecord "x" "")),
      (SolrClient.zero, .deleteConfigSet "schema")] ∧
    (manageCollections (MapOrder.stored Site) sv SolrClient.zero cs ∅ ∅ r.2).2.log.drop 5 =
      [(SolrClient.zero, .createCollection "x" "schema" 1)] := by
  decide

end SolrOperator
