/-
  SolrOperator.Engine.Model

  A Solr cluster as finite maps, answering every admin call with its documented
  effect: its collections (with configuration, replication factor and replica
  count), its aliases, its config sets, and the documents of each collection.

  Every call succeeds but for the refusals Solr makes: `DeleteCollection` while
  an alias points at the collection, `DeleteConfigSet` while a collection is
  built on the config set, `CreateCollection` while its config set is absent;
  and calls on a collection or config set that is not there, or that creates
  one that is. A new collection has as many replicas as its replication factor.
  `AddReplicas` never reports scaling in progress.

  The documents of a collection are kept as the `(collection, checksum)` records
  `WriteRecord` stores: the controller writes no other document and reads no
  other field. `Query` returns the first 1000 of them in the order they were
  written, as `rows=1000` asks.
-/
import SolrOperator.Controller.Process

namespace SolrOperator

/-! ## Checksum records -/

/-- The text of `checksumRecord` before the collection's name. -/
def recordHead : List Char := "\x7b\n\t\t\t\"collection\": \"".data

/-- The text of `checksumRecord` between the quote closing the collection's name
    and the checksum. -/
def recordMiddle : List Char := ",\n\t\t\t\"checksum\": \"".data

/-- The text of `checksumRecord` after the quote closing the checksum. -/
def recordTail : List Char := "\n\t\t\x7d".data

theorem checksumRecord_data (collection sum : String) :
    (checksumRecord collection sum).data =
      recordHead ++ collection.data ++ '"' :: recordMiddle ++ sum.data ++ '"' :: recordTail := by
  simp only [checksumRecord, String.data_append, List.append_assoc]
  rfl

/-- The text before the first double quote, and the text after it. -/
def splitQuote : List Char → Option (List Char × List Char)
  | [] => none
  | c :: cs => if c = '"' then some ([], cs) else (splitQuote cs).map fun p => (c :: p.1, p.2)

/-- What is left of `l` after the prefix `pre`, if it has it. -/
def dropPrefix (pre l : List Char) : Option (List Char) :=
  if pre.isPrefixOf l then some (l.drop pre.length) else none

/-- The collection and checksum of a document in `checksumRecord`'s format. -/
def parseChecksumRecord (record : String) : Option (String × String) := do
  let rest ← dropPrefix recordHead record.data
  let (collection, rest) ← splitQuote rest
  let rest ← dropPrefix recordMiddle rest
  let (sum, rest) ← splitQuote rest
  if rest = recordTail then some (⟨collection⟩, ⟨sum⟩) else none

theorem splitQuote_append {r : List Char} : ∀ {l : List Char}, '"' ∉ l →
    splitQuote (l ++ '"' :: r) = some (l, r)
  | [], _ => by simp [splitQuote]
  | c :: l, h => by
    rw [List.mem_cons, not_or] at h
    simp [splitQuote, Ne.symm h.1, splitQuote_append h.2]

theorem dropPrefix_append (pre r : List Char) : dropPrefix pre (pre ++ r) = some r := by
  simp [dropPrefix, List.isPrefixOf_iff_prefix.mpr (List.prefix_append pre r)]

/-- A record of a name and a checksum without double quotes reads back as them. -/
theorem parseChecksumRecord_checksumRecord {collection sum : String}
    (hc : '"' ∉ collection.data) (hs : '"' ∉ sum.data) :
    parseChecksumRecord (checksumRecord collection sum) = some (collection, sum) := by
  simp only [parseChecksumRecord, checksumRecord_data, List.append_assoc, List.cons_append,
    dropPrefix_append, splitQuote_append hc, splitQuote_append hs, Option.bind_eq_bind,
    Option.some_bind, if_true]

theorem hexDigit_ne_quote : ∀ n < 16, hexDigit n ≠ '"' := by decide

/-- A hex checksum has no double quote. -/
theorem quote_not_mem_hexEncodeToString (bs : Bytes) : '"' ∉ (hexEncodeToString bs).data := by
  simp only [hexEncodeToString, List.mem_flatMap, List.mem_cons, List.mem_singleton,
    List.not_mem_nil, or_false, not_exists, not_and]
  intro b _
  have h : b.toNat < 256 := b.val.isLt
  exact not_or.mpr ⟨(hexDigit_ne_quote _ (by omega)).symm, (hexDigit_ne_quote _ (by omega)).symm⟩

/-! ## The engine -/

/-- A Solr cluster: its collections, its aliases (alias to collection), its config
    sets, and the records each collection holds, oldest first. -/
structure Engine where
  collections : GoMap Collection
  aliases : GoMap String
  configSets : GoMap Bytes
  records : GoMap (List (String × String))
  deriving DecidableEq

namespace Engine

/-- The records of a collection the cluster holds; none for one it lacks. -/
def recordsOf (E : Engine) (name : String) : List (String × String) :=
  if name ∈ E.collections then (E.records.lookup name).getD [] else []

/-- Some alias points at the collection. -/
def pinned (E : Engine) (name : String) : Bool := E.aliases.entries.any fun kv => kv.2 == name

/-- Some collection is built on the config set. -/
def inUse (E : Engine) (configSet : String) : Bool :=
  E.collections.entries.any fun kv => kv.2.configName == configSet

/-- The document `Query` returns for a record. -/
def recordDoc (record : String × String) : Doc :=
  ((∅ : GoMap Json).insert "collection" (.str record.1)).insert "checksum" (.str record.2)

/-- The collection `CREATE` makes: one shard with `rf` replicas, and no documents. -/
def create (E : Engine) (name configName : String) (rf : Int32) : Engine :=
  { E with collections := E.collections.insert name ⟨name, rf, rf, configName⟩,
           records := E.records.insert name [] }

/-- A collection of the cluster replaced by `col`. -/
def setCollection (E : Engine) (name : String) (col : Collection) : Engine :=
  { E with collections := E.collections.insert name col }

/-- The cluster's answer to a call, and its state after it. -/
def answer : (r : Rpc) → Engine → r.Out × Engine
  | .getClusterStatus, E => (.ok ⟨E.collections, E.aliases⟩, E)
  | .getConfigSets, E => (.ok E.configSets.keys, E)
  | .uploadConfigSet name body, E => (none, { E with configSets := E.configSets.insert name body })
  | .deleteConfigSet name, E =>
    if name ∉ E.configSets then (some ("config set " ++ name ++ " not found"), E)
    else if E.inUse name then (some ("config set " ++ name ++ " is in use"), E)
    else (none, { E with configSets := E.configSets.erase name })
  | .setReplicationFactor name rf, E =>
    match E.collections.lookup name with
    | none => (some ("collection " ++ name ++ " not found"), E)
    | some col => (none, E.setCollection name { col with replicationFactor := rf })
  | .addReplicas name n, E =>
    match E.collections.lookup name with
    | none => ((false, some ("collection " ++ name ++ " not found")), E)
    | some col => ((false, none), E.setCollection name { col with replicaCount := col.replicaCount + n })
  | .removeReplicas name n, E =>
    match E.collections.lookup name with
    | none => (some ("collection " ++ name ++ " not found"), E)
    | some col => (none, E.setCollection name { col with replicaCount := col.replicaCount - n })
  | .createCollection name configName rf, E =>
    if name ∈ E.collections then (some ("collection " ++ name ++ " already exists"), E)
    else if configName ∉ E.configSets then (some ("config set " ++ configName ++ " not found"), E)
    else (none, E.create name configName rf)
  | .assignAlias a name, E =>
    if name ∉ E.collections then (some ("collection " ++ name ++ " not found"), E)
    else (none, { E with aliases := E.aliases.insert a name })
  | .deleteAlias a, E => (none, { E with aliases := E.aliases.erase a })
  | .deleteCollection name, E =>
    if name ∉ E.collections then (some ("collection " ++ name ++ " not found"), E)
    else if E.pinned name then (some ("collection " ++ name ++ " is aliased"), E)
    else (none, { E with collections := E.collections.erase name, records := E.records.erase name })
  | .query name _, E =>
    if name ∈ E.collections then (.ok (((E.recordsOf name).take 1000).map recordDoc), E)
    else (.error ("collection " ++ name ++ " not found"), E)
  | .writeRecord name record, E =>
    match parseChecksumRecord record with
    | none => (some "could not parse the document", E)
    | some rec =>
      if name ∈ E.collections then
        (none, { E with records := E.records.insert name (E.recordsOf name ++ [rec]) })
      else (some ("collection " ++ name ++ " not found"), E)

end Engine

/-- The cluster as the controller's `Solr` oracle: one cluster behind every client. -/
def Engine.solr : Solr Engine := ⟨fun _ r E => Engine.answer r E⟩

namespace Engine

variable (E : Engine)

/-- A read leaves the cluster as it was. -/
theorem answer_state_of_read {r : Rpc} (h : r.isMutating = false) : (E.answer r).2 = E := by
  cases r <;> simp only [Rpc.isMutating, Bool.true_eq_false] at h <;> simp only [answer]
  split <;> rfl

@[simp] theorem solr_call_state (cl : SolrClient) (r : Rpc) (c : Conn Engine) :
    (Engine.solr.call cl r c).2.state = (c.state.answer r).2 := rfl

@[simp] theorem solr_call_out (cl : SolrClient) (r : Rpc) (c : Conn Engine) :
    (Engine.solr.call cl r c).1 = (c.state.answer r).1 := rfl

/-- The cluster after calls made one after another. -/
def run (rs : List Rpc) : Engine := rs.foldl (fun E r => (E.answer r).2) E

@[simp] theorem run_nil : E.run [] = E := rfl

@[simp] theorem run_cons (r : Rpc) (rs : List Rpc) : E.run (r :: rs) = (E.answer r).2.run rs := rfl

theorem run_append (rs rs' : List Rpc) : E.run (rs ++ rs') = (E.run rs).run rs' :=
  List.foldl_append _ _ _ _

theorem solr_issue_state (cl : SolrClient) (rs : List Rpc) (c : Conn Engine) :
    (Engine.solr.issue cl rs c).state = c.state.run rs := by
  induction rs generalizing c with
  | nil => rfl
  | cons r rs ih => exact ih _

/-- A call through the engine, given the engine's answer. -/
theorem solr_call_eq {cl : SolrClient} {r : Rpc} {c : Conn Engine} {out : r.Out} {E' : Engine}
    (h : c.state.answer r = (out, E')) : Engine.solr.call cl r c = (out, ⟨E', c.log ++ [(cl, r)]⟩) := by
  show ((c.state.answer r).1, (⟨(c.state.answer r).2, c.log ++ [(cl, r)]⟩ : Conn Engine)) = _
  rw [h]

/-! ### The calls that succeed -/

section
variable {E} {name configName : String}

theorem answer_createCollection (rf : Int32) (h : name ∉ E.collections)
    (hc : configName ∈ E.configSets) :
    E.answer (.createCollection name configName rf) = (none, E.create name configName rf) := by
  simp [answer, h, hc]

theorem answer_assignAlias (a : String) (h : name ∈ E.collections) :
    E.answer (.assignAlias a name) = (none, { E with aliases := E.aliases.insert a name }) := by
  simp [answer, h]

theorem answer_deleteCollection (h : name ∈ E.collections) (hp : E.pinned name = false) :
    E.answer (.deleteCollection name) =
      (none, { E with collections := E.collections.erase name, records := E.records.erase name }) := by
  simp [answer, h, hp]

theorem answer_setReplicationFactor {col : Collection} (rf : Int32)
    (h : E.collections.lookup name = some col) :
    E.answer (.setReplicationFactor name rf) =
      (none, E.setCollection name { col with replicationFactor := rf }) := by
  simp [answer, h]

theorem answer_addReplicas {col : Collection} (n : Int32) (h : E.collections.lookup name = some col) :
    E.answer (.addReplicas name n) =
      ((false, none), E.setCollection name { col with replicaCount := col.replicaCount + n }) := by
  simp [answer, h]

theorem answer_removeReplicas {col : Collection} (n : Int32)
    (h : E.collections.lookup name = some col) :
    E.answer (.removeReplicas name n) =
      (none, E.setCollection name { col with replicaCount := col.replicaCount - n }) := by
  simp [answer, h]

theorem answer_uploadConfigSet (body : Bytes) :
    E.answer (.uploadConfigSet name body) =
      (none, { E with configSets := E.configSets.insert name body }) := rfl

theorem answer_deleteConfigSet (h : name ∈ E.configSets) (hu : E.inUse name = false) :
    E.answer (.deleteConfigSet name) = (none, { E with configSets := E.configSets.erase name }) := by
  simp [answer, h, hu]

/-- A config set deletion that reports no error removed the config set. -/
theorem answer_deleteConfigSet_of_ok (h : (E.answer (.deleteConfigSet name)).1 = none) :
    (E.answer (.deleteConfigSet name)).2 = { E with configSets := E.configSets.erase name } := by
  simp only [answer] at h ⊢
  split_ifs at h ⊢
  rfl

theorem answer_writeRecord {record : String} {rec : String × String}
    (h : parseChecksumRecord record = some rec) (hc : name ∈ E.collections) :
    E.answer (.writeRecord name record) =
      (none, { E with records := E.records.insert name (E.recordsOf name ++ [rec]) }) := by
  simp [answer, h, hc]

theorem answer_query (q : String) (h : name ∈ E.collections) :
    E.answer (.query name q) = (.ok (((E.recordsOf name).take 1000).map recordDoc), E) := by
  simp [answer, h]

end

@[simp] theorem create_collections (name configName : String) (rf : Int32) :
    (E.create name configName rf).collections =
      E.collections.insert name ⟨name, rf, rf, configName⟩ := rfl
@[simp] theorem create_aliases (name configName : String) (rf : Int32) :
    (E.create name configName rf).aliases = E.aliases := rfl
@[simp] theorem create_configSets (name configName : String) (rf : Int32) :
    (E.create name configName rf).configSets = E.configSets := rfl
@[simp] theorem setCollection_collections (name : String) (col : Collection) :
    (E.setCollection name col).collections = E.collections.insert name col := rfl
@[simp] theorem setCollection_aliases (name : String) (col : Collection) :
    (E.setCollection name col).aliases = E.aliases := rfl
@[simp] theorem setCollection_configSets (name : String) (col : Collection) :
    (E.setCollection name col).configSets = E.configSets := rfl
@[simp] theorem setCollection_records (name : String) (col : Collection) :
    (E.setCollection name col).records = E.records := rfl

theorem pinned_iff {name : String} : E.pinned name = true ↔ ∃ a, E.aliases.lookup a = some name := by
  simp only [pinned, List.any_eq_true, beq_iff_eq]
  constructor
  · rintro ⟨⟨a, c⟩, h, rfl⟩
    exact ⟨a, AList.mem_lookup_iff.mpr h⟩
  · rintro ⟨a, h⟩
    exact ⟨⟨a, name⟩, AList.mem_lookup_iff.mp h, rfl⟩

theorem inUse_iff {configSet : String} :
    E.inUse configSet = true ↔ ∃ k col, E.collections.lookup k = some col ∧
      col.configName = configSet := by
  simp only [inUse, List.any_eq_true, beq_iff_eq]
  constructor
  · rintro ⟨⟨k, col⟩, h, rfl⟩
    exact ⟨k, col, AList.mem_lookup_iff.mpr h, rfl⟩
  · rintro ⟨k, col, h, rfl⟩
    exact ⟨⟨k, col⟩, AList.mem_lookup_iff.mp h, rfl⟩

end Engine

end SolrOperator
