/-
  SolrOperator.SolrApi.Client

  The HTTP side of `SolrClient`'s methods, from the request on. Every method
  builds its request, sends it with `client.Do`, and then

    * runs `defer resp.Body.Close()` before it looks at the error, which evaluates
      `resp.Body` at once: on a transport error `client.Do` returns a nil
      response, and that dereference panics;
    * on a status other than 200 builds its error from the status line and the
      message `parseError` fishes out of the body, with unchecked assertions;
    * on 200 returns, after decoding the body for the three reads.

  `exchange` is that shape; each method is `exchange` applied to its own error
  texts and success path, and `Rpc.exchange` gives each call the method that
  makes it. The controller's `Solr σ` answers every call with the method's
  result, so it stands for the runs in which no method panics.

  Go's map iteration order plays no part here: each decoding loop either panics
  whatever the order or builds the same map.
-/
import SolrOperator.SolrApi.Types

namespace SolrOperator

/-- A response body as a method reads it: `io.ReadAll` fails, the bytes are no
    JSON document, or they decode to a value. -/
inductive Body where
  | readError (err : String)
  | malformed (err : String)
  | json (value : Json)

/-- Building and sending a request: `http.NewRequest` fails, `client.Do` fails and
    returns a nil response, or a response arrives. -/
inductive HttpResult where
  | requestError (err : String)
  | transportError (err : String)
  | response (statusCode : Nat) (status : String) (body : Body)

/-! ## Decoding -/

/-- `io.ReadAll` then `json.Unmarshal(body, &m)` into a `map[string]interface{}`:
    an object gives its map, `null` leaves the map nil, so that every lookup finds
    nothing, and any other value is an error. -/
def Body.unmarshalMap : Body → Except String (GoMap Json)
  | .readError err => .error err
  | .malformed err => .error err
  | .json (.obj kvs) => .ok (Json.toMap kvs)
  | .json .null => .ok ∅
  | .json _ => .error "json: cannot unmarshal into Go value of type map[string]interface \x7b\x7d"

/-- `parseError`: the message of an error response. Its type assertions are
    unchecked: a body that decodes without an `error` object holding a string
    `msg` panics. -/
def parseError : Body → Outcome (String × Option String)
  | .readError err => .ok ("failed to read", some err)
  | body =>
    match body.unmarshalMap with
    | .error err => .ok ("couldn't unmarshall the response body", some err)
    | .ok jsonResponse => do
      let e ← assertMap (jsonResponse.lookup "error")
      let msg ← assertString (e.lookup "msg")
      pure (msg, none)

/-- `countReplicas`: the number of keys of `shards.shard1.replicas`. -/
def countReplicas (collection : Json) : Outcome Int32 := do
  let c ← assertMap (some collection)
  let shards ← assertMap (c.lookup "shards")
  let shard1 ← assertMap (shards.lookup "shard1")
  let replicas ← assertMap (shard1.lookup "replicas")
  pure (BitVec.ofNat 32 replicas.keys.length)

/-- The digits of a decimal numeral. -/
def parseDigits : List Char → Option Nat
  | [] => none
  | [c] => if c.isDigit then some (c.toNat - 48) else none
  | c :: cs =>
    if c.isDigit then (parseDigits cs).map fun n => (c.toNat - 48) * 10 ^ cs.length + n else none

/-- `strconv.Atoi` as `interfaceToInt32` uses it, its error ignored: a signed decimal,
    clamped to the `int64` range, and `0` for anything else. -/
def atoi (s : String) : Int :=
  let n : Option Int := match s.data with
    | '-' :: ds => (parseDigits ds).map fun n => -(n : Int)
    | '+' :: ds => (parseDigits ds).map fun n => (n : Int)
    | ds => (parseDigits ds).map fun n => (n : Int)
  match n with
  | none => 0
  | some n => max (-2 ^ 63) (min (2 ^ 63 - 1) n)

/-- `interfaceToInt32`: `reflect.TypeOf(i).Kind()` of a nil interface (a missing
    or `null` field) dereferences a nil `Type`; an `int64` or a numeral is
    converted with `int32(..)`, which wraps; anything else is `0`. -/
def interfaceToInt32 : Option Json → Outcome Int32
  | none | some .null => .panic
  | some (.int n) => .ok (BitVec.ofInt 32 n)
  | some (.str s) => .ok (BitVec.ofInt 32 (atoi s))
  | some _ => .ok 0

/-- The body of `GetClusterStatus`' loop over `cluster.collections`. -/
def projectCollection (collection : String) (value : Json) : Outcome Collection := do
  let v ← assertMap (some value)
  let rawReplicationFactor := v.lookup "replicationFactor"
  let replicaCount ← countReplicas value
  let replicationFactor ← interfaceToInt32 rawReplicationFactor
  let configName ← assertString (v.lookup "configName")
  pure ⟨collection, replicationFactor, replicaCount, configName⟩

/-- The projection of a decoded CLUSTERSTATUS response that `GetClusterStatus`
    makes. -/
def projectClusterStatus (jsonResponse : GoMap Json) : Outcome ClusterStatus := do
  let jsonCluster ← assertMap (jsonResponse.lookup "cluster")
  let aliases ← match jsonCluster.lookup "aliases" with
    | none | some .null => pure ∅
    | some jsonAliases => do
      let m ← assertMap (some jsonAliases)
      m.entries.foldlM (fun out kv => do
        let target ← assertString (some kv.2)
        pure (out.insert kv.1 target)) ∅
  let collections ← match jsonCluster.lookup "collections" with
    | none | some .null => pure ∅
    | some jsonCollections => do
      let m ← assertMap (some jsonCollections)
      m.entries.foldlM (fun out kv => do
        let collection ← projectCollection kv.1 kv.2
        pure (out.insert kv.1 collection)) ∅
  pure ⟨collections, aliases⟩

/-! ## The methods -/

/-- The shape every method shares, given its result for a failed `http.NewRequest`,
    for a status other than 200 (from the status line and the parsed message), and
    for 200. -/
def exchange {α : Type} (requestFailed : String → α) (failed : String → String → α)
    (succeeded : Body → Outcome α) : HttpResult → Outcome α
  | .requestError err => .ok (requestFailed err)
  | .transportError _ => .panic
  | .response statusCode status body =>
    if statusCode ≠ 200 then do
      let (msg, _) ← parseError body
      pure (failed status msg)
    else succeeded body

/-- The 200 path of a read: the body's read and decode errors are returned, its
    projection may panic. -/
def decodeWith {β : Type} (project : GoMap Json → Outcome β) (body : Body) :
    Outcome (Except String β) :=
  match body.unmarshalMap with
  | .error err => .ok (.error err)
  | .ok jsonResponse => .ok <$> project jsonResponse

namespace SolrClient

/-- `GetClusterStatus`. -/
def getClusterStatus : HttpResult → Outcome (Except String ClusterStatus) :=
  exchange .error
    (fun status msg => .error ("could not get cluster status [" ++ status ++ "] [" ++ msg ++ "]"))
    (decodeWith projectClusterStatus)

/-- `GetConfigSets`. -/
def getConfigSets : HttpResult → Outcome (Except String (List String)) :=
  exchange .error
    (fun status msg => .error ("could not get configsets [" ++ status ++ "] [" ++ msg ++ "]"))
    (decodeWith fun jsonResponse => do
      let configSetsJson ← assertArray (jsonResponse.lookup "configSets")
      configSetsJson.mapM fun value => assertString (some value))

/-- `Query`. -/
def query (collectionName : String) : HttpResult → Outcome (Except String (List Doc)) :=
  exchange .error
    (fun status msg => .error ("query to collection [" ++ collectionName ++ "] failed with [" ++
      status ++ "] [" ++ msg ++ "]"))
    (decodeWith fun jsonResponse => do
      let response ← assertMap (jsonResponse.lookup "response")
      let docs ← assertArray (response.lookup "docs")
      docs.mapM fun doc => assertMap (some doc))

/-- A method that returns only an error, with its text for a failed status. -/
def errorExchange (failed : String → String → String) : HttpResult → Outcome (Option String) :=
  exchange some (fun status msg => some (failed status msg)) fun _ => .ok none

/-- `UploadConfigSet`. -/
def uploadConfigSet (configSetName : String) : HttpResult → Outcome (Option String) :=
  errorExchange fun status msg =>
    "create config set " ++ configSetName ++ " failed with [" ++ status ++ "] [" ++ msg ++ "]"

/-- `DeleteConfigSet`. -/
def deleteConfigSet (configSetName : String) : HttpResult → Outcome (Option String) :=
  errorExchange fun status msg =>
    "delete config set " ++ configSetName ++ " failed with [" ++ status ++ "] [" ++ msg ++ "]"

/-- `SetReplicationFactor`. -/
def setReplicationFactor (collectionName : String) : HttpResult → Outcome (Option String) :=
  errorExchange fun status msg =>
    "set replication factor failed on collection [" ++ collectionName ++ "] with [" ++ status ++
      "] [" ++ msg ++ "]"

/-- `AddReplicas`: a failed status whose message names too few eligible nodes is the
    backpressure of a scale-out. Its own text for a transport error is never
    returned: the deferred `resp.Body` panics first. -/
def addReplicas (collectionName : String) : HttpResult → Outcome (Bool × Option String) :=
  exchange (fun err => (false, some err))
    (fun status msg =>
      let isScaling := strContains msg "Not enough eligible nodes"
      if !isScaling then
        (isScaling, some ("add replicas failed for collection [" ++ collectionName ++ "] with [" ++
          status ++ "] [" ++ msg ++ "]"))
      else
        (isScaling, some ("add replicas failed for collection [" ++ collectionName ++
          "] because there aren't enough nodes")))
    fun _ => .ok (false, none)

/-- `RemoveReplicas`. -/
def removeReplicas (collectionName : String) : HttpResult → Outcome (Option String) :=
  errorExchange fun status msg =>
    "remove replicas failed on collection " ++ collectionName ++ " failed with [" ++ status ++
      "] [" ++ msg ++ "]"

/-- `CreateCollection`. -/
def createCollection (collectionName : String) : HttpResult → Outcome (Option String) :=
  errorExchange fun status msg =>
    "create collection " ++ collectionName ++ " failed with [" ++ status ++ "] [" ++ msg ++ "]"

/-- `AssignAlias`. -/
def assignAlias («alias» collectionName : String) : HttpResult → Outcome (Option String) :=
  errorExchange fun status msg =>
    "create alias [" ++ «alias» ++ "] for collection [" ++ collectionName ++ "] failed with [" ++
      status ++ "] [" ++ msg ++ "]"

/-- `DeleteAlias`. -/
def deleteAlias («alias» : String) : HttpResult → Outcome (Option String) :=
  errorExchange fun status msg => "remove alias [" ++ «alias» ++ "] failed [" ++ status ++ "] [" ++
    msg ++ "]"

/-- `DeleteCollection`. -/
def deleteCollection (collectionName : String) : HttpResult → Outcome (Option String) :=
  errorExchange fun status msg =>
    "delete collection [" ++ collectionName ++ "] failed with [" ++ status ++ "] [" ++ msg ++ "]"

/-- `WriteRecord`. -/
def writeRecord (collectionName : String) : HttpResult → Outcome (Option String) :=
  errorExchange fun status msg =>
    "write to collection " ++ collectionName ++ " failed with [" ++ status ++ "] [" ++ msg ++ "]"

end SolrClient

/-- The method each call is made with. -/
def Rpc.exchange : (r : Rpc) → HttpResult → Outcome r.Out
  | .getClusterStatus => SolrClient.getClusterStatus
  | .getConfigSets => SolrClient.getConfigSets
  | .uploadConfigSet name _ => SolrClient.uploadConfigSet name
  | .deleteConfigSet name => SolrClient.deleteConfigSet name
  | .setReplicationFactor name _ => SolrClient.setReplicationFactor name
  | .addReplicas name _ => SolrClient.addReplicas name
  | .removeReplicas name _ => SolrClient.removeReplicas name
  | .createCollection name _ _ => SolrClient.createCollection name
  | .assignAlias a name => SolrClient.assignAlias a name
  | .deleteAlias a => SolrClient.deleteAlias a
  | .deleteCollection name => SolrClient.deleteCollection name
  | .query name _ => SolrClient.query name
  | .writeRecord name _ => SolrClient.writeRecord name

/-! ## What `GetClusterStatus` projects

`interfaceToInt32` reads numerals with `strconv.Atoi`; on digits it is Horner's
rule. The projection's two loops share one shape, `decodeEntries`. -/

theorem foldl_decimal (a : Nat) (cs : List Char) :
    cs.foldl (fun n c => n * 10 + (c.toNat - 48)) a =
      a * 10 ^ cs.length + cs.foldl (fun n c => n * 10 + (c.toNat - 48)) 0 := by
  induction cs generalizing a with
  | nil => simp
  | cons d ds ih =>
    rw [List.foldl_cons, List.foldl_cons, ih, ih (0 * 10 + _), List.length_cons, Nat.pow_succ']
    simp only [Nat.zero_mul, Nat.zero_add, Nat.add_mul, Nat.mul_assoc, Nat.add_assoc]

theorem parseDigits_eq (ds : List Char) (hne : ds ≠ []) (hd : ∀ c ∈ ds, c.isDigit = true) :
    parseDigits ds = some (ds.foldl (fun n c => n * 10 + (c.toNat - 48)) 0) := by
  induction ds with
  | nil => exact absurd rfl hne
  | cons c cs ih =>
    cases cs with
    | nil => simp [parseDigits, hd c (List.mem_cons_self _ _)]
    | cons c' cs =>
      rw [parseDigits, if_pos (hd c (List.mem_cons_self _ _)),
        ih (List.cons_ne_nil _ _) fun x hx => hd x (List.mem_cons_of_mem _ hx), Option.map_some']
      · conv_rhs => rw [List.foldl_cons, foldl_decimal]
        simp only [Nat.zero_mul, Nat.zero_add]
      · exact List.cons_ne_nil _ _

/-- `strconv.Atoi` reads a numeral of digits as its value. -/
theorem atoi_digits {ds : List Char} (hne : ds ≠ []) (hd : ∀ c ∈ ds, c.isDigit = true)
    (hv : ds.foldl (fun n c => n * 10 + (c.toNat - 48)) 0 < 2 ^ 63) :
    atoi ⟨ds⟩ = ((ds.foldl (fun n c => n * 10 + (c.toNat - 48)) 0 : Nat) : Int) := by
  obtain ⟨c, cs, rfl⟩ := List.exists_cons_of_ne_nil hne
  have hc := hd c (List.mem_cons_self _ _)
  have h1 : c ≠ '-' := by rintro rfl; exact absurd hc (by decide)
  have h2 : c ≠ '+' := by rintro rfl; exact absurd hc (by decide)
  have hp := parseDigits_eq _ hne hd
  unfold atoi
  dsimp only
  split <;> rename_i heq <;> split at heq <;> simp_all
  omega

theorem atoi_neg_digits {ds : List Char} (hne : ds ≠ []) (hd : ∀ c ∈ ds, c.isDigit = true)
    (hv : ds.foldl (fun n c => n * 10 + (c.toNat - 48)) 0 ≤ 2 ^ 63) :
    atoi ⟨'-' :: ds⟩ = -((ds.foldl (fun n c => n * 10 + (c.toNat - 48)) 0 : Nat) : Int) := by
  simp [atoi, parseDigits_eq _ hne hd]
  omega

/-- What `interfaceToInt32` gives for the values the claim names: a JSON integer,
    and a decimal numeral, each within the `int32` range. -/
theorem interfaceToInt32_eq_ok {raw : Json} {x : Int32} (h : interfaceToInt32 (some raw) = .ok x) :
    (∀ n : Int, raw = .int n → -2 ^ 31 ≤ n → n < 2 ^ 31 → x.toInt = n) ∧
    ∀ ds : List Char, ds ≠ [] → (∀ c ∈ ds, c.isDigit = true) →
      let v : Int := (ds.foldl (fun n c => n * 10 + (c.toNat - 48)) 0 : Nat)
      (raw = .str ⟨ds⟩ → v < 2 ^ 31 → x.toInt = v) ∧
      (raw = .str ⟨'-' :: ds⟩ → -2 ^ 31 ≤ -v → x.toInt = -v) := by
  refine ⟨fun n hn h1 h2 => ?_, fun ds hne hd => ⟨fun hs hv => ?_, fun hs hv => ?_⟩⟩
  · subst hn; cases h; exact Int32.toInt_ofInt_of_lt h1 h2
  · subst hs; cases h
    rw [atoi_digits hne hd (by omega)]
    exact Int32.toInt_ofInt_of_lt (by omega) hv
  · subst hs; cases h
    rw [atoi_neg_digits hne hd (by omega)]
    exact Int32.toInt_ofInt_of_lt hv (by omega)

theorem countReplicas_eq_ok {value : Json} {n : Int32} (h : countReplicas value = .ok n) :
    ∃ kvs, value.path ["shards", "shard1", "replicas"] = some (.obj kvs) ∧
      n = BitVec.ofNat 32 (Json.toMap kvs).keys.length := by
  simp only [countReplicas, Outcome.bind_eq_ok, assertMap_eq_ok, Outcome.pure_eq_ok,
    Option.some.injEq] at h
  obtain ⟨_, ⟨kvs, rfl, rfl⟩, _, ⟨s, hs, rfl⟩, _, ⟨s1, hs1, rfl⟩, _, ⟨r, hr, rfl⟩, rfl⟩ := h
  exact ⟨r, by simp [Json.path, hs, hs1, hr], rfl⟩

theorem projectCollection_eq_ok {k : String} {value : Json} {c : Collection}
    (h : projectCollection k value = .ok c) :
    c.name = k ∧ value.path ["configName"] = some (.str c.configName) ∧
      (∃ kvs, value.path ["shards", "shard1", "replicas"] = some (.obj kvs) ∧
        c.replicaCount = BitVec.ofNat 32 (Json.toMap kvs).keys.length) ∧
      ∃ raw, value.path ["replicationFactor"] = some raw ∧
        interfaceToInt32 (some raw) = .ok c.replicationFactor := by
  simp only [projectCollection, Outcome.bind_eq_ok, assertMap_eq_ok, assertString_eq_ok,
    Outcome.pure_eq_ok, Option.some.injEq] at h
  obtain ⟨_, ⟨kvs, rfl, rfl⟩, rc, hrc, rf, hrf, cn, hcn, rfl⟩ := h
  refine ⟨rfl, by simp [Json.path, hcn], countReplicas_eq_ok hrc, ?_⟩
  cases hraw : (Json.toMap kvs).lookup "replicationFactor" with
  | none => rw [hraw] at hrf; cases hrf
  | some raw => exact ⟨raw, by simp [Json.path, hraw], hraw ▸ hrf⟩

/-- A decoding loop `for k, v := range m { out[k] = f(k, v) }` that ends without
    panicking: every key present is filed under itself, and every other key is
    left as it was. -/
theorem foldlM_insert_eq_ok {V W : Type} (f : String → V → Outcome W) :
    ∀ (l : List (Σ _ : String, V)) (out out' : GoMap W), l.NodupKeys →
      l.foldlM (fun out kv => do
        let w ← f kv.1 kv.2
        pure (out.insert kv.1 w)) out = .ok out' →
      ∀ k, (∀ v, ⟨k, v⟩ ∈ l → ∃ w, f k v = .ok w ∧ out'.lookup k = some w) ∧
        (k ∉ l.keys → out'.lookup k = out.lookup k)
  | [], out, out', _, h, k => by
    cases h
    simp
  | ⟨k0, v0⟩ :: l, out, out', hnd, h, k => by
    simp only [List.foldlM_cons, Outcome.bind_eq_ok, Outcome.pure_eq_ok] at h
    obtain ⟨_, ⟨w0, hw0, rfl⟩, h⟩ := h
    rw [List.nodupKeys_cons] at hnd
    have ih := foldlM_insert_eq_ok f l _ out' hnd.2 h
    refine ⟨fun v hv => ?_, fun hk => ?_⟩
    · rcases List.mem_cons.1 hv with hv | hv
      · obtain ⟨rfl, hheq⟩ := Sigma.mk.inj_iff.1 hv
        obtain rfl := eq_of_heq hheq
        exact ⟨w0, hw0, by rw [(ih k).2 hnd.1, AList.lookup_insert]⟩
      · exact (ih k).1 v hv
    · simp only [List.keys_cons, List.mem_cons, not_or] at hk
      rw [(ih k).2 hk.2, AList.lookup_insert_ne hk.1]

/-- The same loop over a map from an empty one, read per key. -/
theorem lookup_foldlM_insert {V W : Type} (f : String → V → Outcome W) {m : GoMap V}
    {out : GoMap W} (h : m.entries.foldlM (fun (out : GoMap W) kv => do
        let w ← f kv.1 kv.2
        pure (out.insert kv.1 w)) ∅ = .ok out) (k : String) :
    (∀ v, m.lookup k = some v → ∃ w, f k v = .ok w ∧ out.lookup k = some w) ∧
      ∀ w, out.lookup k = some w → ∃ v, m.lookup k = some v ∧ f k v = .ok w := by
  have hk := foldlM_insert_eq_ok f _ ∅ out m.nodupKeys h k
  refine ⟨fun v hv => hk.1 v (AList.mem_lookup_iff.1 hv), fun w hw => ?_⟩
  by_cases hm : k ∈ m.entries.keys
  · obtain ⟨v, hv⟩ := GoMap.mem_iff_lookup.1 (AList.mem_keys.1 hm)
    obtain ⟨w', hw', hout⟩ := hk.1 v (AList.mem_lookup_iff.1 hv)
    exact ⟨v, hv, by rw [hw, Option.some.injEq] at hout; rw [hout]; exact hw'⟩
  · rw [hk.2 hm, AList.lookup_empty] at hw
    cases hw

/-- The pattern of `GetClusterStatus`' two loops: `if v != nil { for k, e := range
    v.(map[string]interface{}) { out[k] = f(k, e) } }`, a `null` field counting as
    nil. -/
def decodeEntries {W : Type} (f : String → Json → Outcome W) : Option Json → Outcome (GoMap W)
  | none | some .null => pure ∅
  | some j => do
    let m ← assertMap (some j)
    m.entries.foldlM (fun out kv => do
      let w ← f kv.1 kv.2
      pure (out.insert kv.1 w)) ∅

/-- `projectClusterStatus` with its two loops named. -/
theorem projectClusterStatus_eq (jsonResponse : GoMap Json) :
    projectClusterStatus jsonResponse = (do
      let jsonCluster ← assertMap (jsonResponse.lookup "cluster")
      let aliases ← decodeEntries (fun _ v => assertString (some v)) (jsonCluster.lookup "aliases")
      let collections ← decodeEntries projectCollection (jsonCluster.lookup "collections")
      pure ⟨collections, aliases⟩) := by
  simp only [projectClusterStatus]
  cases assertMap (jsonResponse.lookup "cluster") with
  | panic => rfl
  | ok jsonCluster =>
    simp only [Outcome.bind_ok]
    rcases jsonCluster.lookup "aliases" with _ | (_ | _ | _ | _ | _ | _ | _) <;>
    rcases jsonCluster.lookup "collections" with _ | (_ | _ | _ | _ | _ | _ | _) <;> rfl

theorem decodeEntries_eq_ok {W : Type} (f : String → Json → Outcome W) {o : Option Json}
    {out : GoMap W} (h : decodeEntries f o = .ok out) (k : String) :
    (∀ v, o.bind (·.path [k]) = some v → ∃ w, f k v = .ok w ∧ out.lookup k = some w) ∧
      ∀ w, out.lookup k = some w → ∃ v, o.bind (·.path [k]) = some v ∧ f k v = .ok w := by
  rcases o with _ | (_ | _ | _ | _ | _ | _ | kvs) <;>
    simp [decodeEntries] at h
  case obj => simpa [Json.path] using lookup_foldlM_insert f h k
  all_goals subst h; simp [Json.path, AList.lookup_empty]

theorem projectClusterStatus_eq_ok {jsonResponse : GoMap Json} {st : ClusterStatus}
    (h : projectClusterStatus jsonResponse = .ok st) :
    ∃ kvs, jsonResponse.lookup "cluster" = some (.obj kvs) ∧
      (∀ k a, st.aliases.lookup k = some a ↔ (Json.obj kvs).path ["aliases", k] = some (.str a)) ∧
      ∀ k, (∀ v, (Json.obj kvs).path ["collections", k] = some v →
          ∃ c, projectCollection k v = .ok c ∧ st.collections.lookup k = some c) ∧
        ∀ c, st.collections.lookup k = some c →
          ∃ v, (Json.obj kvs).path ["collections", k] = some v ∧ projectCollection k v = .ok c := by
  simp only [projectClusterStatus_eq, Outcome.bind_eq_ok, assertMap_eq_ok, Outcome.pure_eq_ok] at h
  obtain ⟨_, ⟨kvs, hc, rfl⟩, aliases, hal, collections, hcol, rfl⟩ := h
  refine ⟨kvs, hc, fun k a => ?_, fun k => decodeEntries_eq_ok _ hcol k⟩
  obtain ⟨hsome, hlookup⟩ := decodeEntries_eq_ok _ hal k
  constructor
  · intro ha
    obtain ⟨v, hv, hs⟩ := hlookup a ha
    rw [assertString_eq_ok, Option.some.injEq] at hs
    exact hs ▸ hv
  · intro hv
    obtain ⟨w, hw, ha⟩ := hsome _ hv
    rw [assertString_eq_ok, Option.some.injEq, Json.str.injEq] at hw
    exact hw ▸ ha

/-- A 200 answer to CLUSTERSTATUS projects without panicking only from an object. -/
theorem getClusterStatus_eq_ok {status : String} {doc : Json} {st : ClusterStatus}
    (h : SolrClient.getClusterStatus (.response 200 status (.json doc)) = .ok (.ok st)) :
    ∃ kvs, doc = .obj kvs ∧ projectClusterStatus (Json.toMap kvs) = .ok st := by
  rcases doc with _ | _ | _ | _ | _ | _ | kvs <;>
    simp [SolrClient.getClusterStatus, exchange, decodeWith, Body.unmarshalMap] at h
  · simp [projectClusterStatus_eq, AList.lookup_empty] at h
  · exact ⟨kvs, rfl, h⟩

/-- What `GetClusterStatus` makes of a 200 answer. When it returns a cluster status,
    that status holds the answer's aliases and one collection per key of
    `cluster.collections`, with its name, its config set, the number of its
    `shard1` replicas, and its replication factor read by `interfaceToInt32`,
    which is exact on an integer or a decimal numeral in the `int32` range. A
    collection without `replicationFactor`, though, makes the call panic. -/
theorem getClusterStatus_panics_without_replicationFactor :
    (∀ (status : String) (doc : Json) (clusterStatus : ClusterStatus),
      SolrClient.getClusterStatus (.response 200 status (.json doc)) = .ok (.ok clusterStatus) →
      (∀ k a, clusterStatus.aliases.lookup k = some a ↔
        doc.path ["cluster", "aliases", k] = some (.str a)) ∧
      (∀ k, k ∈ clusterStatus.collections ↔ ∃ v, doc.path ["cluster", "collections", k] = some v) ∧
      ∀ k c, clusterStatus.collections.lookup k = some c →
        c.name = k ∧ doc.path ["cluster", "collections", k, "configName"] = some (.str c.configName) ∧
        (∃ kvs, doc.path ["cluster", "collections", k, "shards", "shard1", "replicas"] =
            some (.obj kvs) ∧ c.replicaCount = BitVec.ofNat 32 (Json.toMap kvs).keys.length) ∧
        ∃ raw, doc.path ["cluster", "collections", k, "replicationFactor"] = some raw ∧
          interfaceToInt32 (some raw) = .ok c.replicationFactor) ∧
    (∀ (raw : Json) (x : Int32), interfaceToInt32 (some raw) = .ok x →
      (∀ n : Int, raw = .int n → -2 ^ 31 ≤ n → n < 2 ^ 31 → x.toInt = n) ∧
      ∀ ds : List Char, ds ≠ [] → (∀ c ∈ ds, c.isDigit = true) →
        let v : Int := (ds.foldl (fun n c => n * 10 + (c.toNat - 48)) 0 : Nat)
        (raw = .str ⟨ds⟩ → v < 2 ^ 31 → x.toInt = v) ∧
        (raw = .str ⟨'-' :: ds⟩ → -2 ^ 31 ≤ -v → x.toInt = -v)) ∧
    ∀ (status : String) (kvs : List (String × Json)) (k : String) (v : Json),
      (Json.obj kvs).path ["cluster", "collections", k] = some v → v.path ["replicationFactor"] = none →
      SolrClient.getClusterStatus (.response 200 status (.json (.obj kvs))) = .panic := by
  -- the paths below `cluster` are paths in the object `projectClusterStatus` asserted
  have hcluster : ∀ {kvs ckvs : List (String × Json)}, (Json.toMap kvs).lookup "cluster" =
      some (.obj ckvs) → ∀ ks, (Json.obj kvs).path ("cluster" :: ks) = (Json.obj ckvs).path ks :=
    fun hc ks => by simp [Json.path, hc]
  refine ⟨fun status doc st h => ?_, fun _ _ h => interfaceToInt32_eq_ok h,
    fun status kvs k v hv hrf => ?_⟩
  · obtain ⟨kvs, rfl, hp⟩ := getClusterStatus_eq_ok h
    obtain ⟨ckvs, hc, hal, hcol⟩ := projectClusterStatus_eq_ok hp
    simp only [hcluster hc]
    refine ⟨hal, fun k => ?_, fun k c hkc => ?_⟩
    · rw [GoMap.mem_iff_lookup]
      constructor
      · rintro ⟨c, hkc⟩
        obtain ⟨v, hv, -⟩ := (hcol k).2 c hkc
        exact ⟨v, hv⟩
      · rintro ⟨v, hv⟩
        obtain ⟨c, -, hkc⟩ := (hcol k).1 v hv
        exact ⟨c, hkc⟩
    · obtain ⟨v, hv, hpc⟩ := (hcol k).2 c hkc
      have hsub : ∀ ks, (Json.obj ckvs).path ("collections" :: k :: ks) = v.path ks := fun ks =>
        (Json.path_append _ ["collections", k] ks).trans (by rw [hv]; rfl)
      simp only [hsub]
      exact projectCollection_eq_ok hpc
  · cases hp : projectClusterStatus (Json.toMap kvs) with
    | panic => simp [SolrClient.getClusterStatus, exchange, decodeWith, Body.unmarshalMap, hp]; rfl
    | ok st =>
      obtain ⟨ckvs, hc, -, hcol⟩ := projectClusterStatus_eq_ok hp
      rw [hcluster hc] at hv
      obtain ⟨c, hpc, -⟩ := (hcol k).1 v hv
      obtain ⟨-, -, -, raw, hraw, -⟩ := projectCollection_eq_ok hpc
      rw [hrf] at hraw
      cases hraw

/-! ## Answers a cluster can give -/

/-- A cluster whose every answer is what the call's method returns for some HTTP
    exchange in which it does not panic. -/
def Solr.Realizable {σ : Type} (sv : Solr σ) : Prop :=
  ∀ (cl : SolrClient) (r : Rpc) (s : σ), ∃ h, r.exchange h = .ok (sv.reply cl r s).1

/-- `AddReplicas` signals backpressure only together with an error. -/
theorem SolrClient.addReplicas_scaling_error {collectionName : String} {h : HttpResult}
    {err : Option String} (heq : SolrClient.addReplicas collectionName h = .ok (true, err)) :
    err.isSome := by
  rcases h with _ | _ | ⟨statusCode, status, body⟩
  · cases heq
  · cases heq
  · simp only [SolrClient.addReplicas, exchange] at heq
    split at heq
    · simp only [Outcome.bind_eq_ok, Outcome.pure_eq_ok] at heq
      obtain ⟨_, -, heq⟩ := heq
      split at heq <;> simp only [Prod.mk.injEq] at heq <;> simp [← heq.2]
    · cases heq

/-! ## Failures that panic -/

/-- A transport error panics in every method, before its error check. -/
theorem exchange_transportError (r : Rpc) (err : String) :
    r.exchange (.transportError err) = .panic := by
  cases r <;> rfl

/-- Every method panics on a transport error, and on a failed status whose body
    has no `error` object, instead of returning an error. -/
theorem exchange_panics_on_failures :
    (∀ (r : Rpc) (err : String), r.exchange (.transportError err) = .panic) ∧
    ∀ r : Rpc, r.exchange (.response 500 "500 Internal Server Error"
      (.json (.obj [("error", .str "boom")]))) = .panic := by
  refine ⟨exchange_transportError, fun r => ?_⟩
  cases r <;> rfl

end SolrOperator
