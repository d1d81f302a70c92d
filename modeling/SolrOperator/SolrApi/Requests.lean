/-
  SolrOperator.SolrApi.Requests

  What each `SolrClient` method sends, and how Solr reads it. Every method builds
  its URL with `fmt.Sprintf` from the client's `Url` and the call's arguments, none
  of them escaped, sets the client's basic-auth credentials, and posts a body for
  the two writes: a configset's zip, and a record inside a JSON array.

  `Rpc.request` is that, to the letter of each format string. Solr's side is stated
  on its own terms: `readUrl` splits a URL as the servlet container does (what
  follows the server's base up to a `#`, the path at `/`, the query at `&` and each
  parameter at its first `=`, every piece percent-decoded with `+` a space), and
  `readCall` is the handler that the path and the `action` parameter select.
  `Request.read`, the two together, inverts `Rpc.request` on every call whose names
  are plain (`Rpc.plain`): printable ASCII other than the URL's delimiters and
  escapes, which Solr's and Kubernetes' names are. Numbers go out as Go's `%d`
  writes an `int32` and come back through `Integer.parseInt`.

  The proof follows the layers: each splitter inverts the joiner it meets
  (`cut_append`, `splitOn_renderQuery` with `readParams_pieces`, `splitOn_renderPath`),
  `readUrl` inverts the URL shape `Rpc.request_url` puts every call in, and
  `readCall` inverts `Rpc.target`. Since nothing is escaped, a name that is not plain
  changes the request itself: `deleteCollection_name_cut_at_amp`.
-/
import SolrOperator.SolrApi.Responses
import SolrOperator.Controller.Basic
import Mathlib.Data.Nat.Digits

namespace SolrOperator

/-! ## The requests -/

/-- A request body. -/
inductive Payload where
  | none
  | bytes (body : Bytes)
  | text (body : String)
  deriving DecidableEq, Repr

/-- A request as `http.NewRequest`, `addBasicAuth` and `Header.Set` leave it. -/
structure Request where
  method : String
  url : String
  body : Payload
  contentType : Option String
  basicAuth : String × String
  deriving DecidableEq, Repr

namespace SolrClient

/-- A `GET` without a body; `addBasicAuth` sets the client's credentials. -/
def getRequest (r : SolrClient) (url : String) : Request :=
  ⟨"GET", url, .none, none, (r.username, r.password)⟩

/-- A `POST` of `body` with its `Content-Type`. -/
def postRequest (r : SolrClient) (url : String) (body : Payload) (contentType : String) : Request :=
  ⟨"POST", url, body, some contentType, (r.username, r.password)⟩

end SolrClient

/-- The request each method sends for its call. -/
def Rpc.request (r : SolrClient) : Rpc → Request
  | .getClusterStatus => r.getRequest (r.url ++ "/admin/collections?action=CLUSTERSTATUS")
  | .getConfigSets => r.getRequest (r.url ++ "/admin/configs?action=LIST&wt=json")
  | .uploadConfigSet configSetName body =>
    r.postRequest (r.url ++ "/admin/configs?action=UPLOAD&name=" ++ configSetName ++
      "&overwrite=true&cleanup=true&wt=json") (.bytes body) "application/octet-stream"
  | .deleteConfigSet configSetName =>
    r.getRequest (r.url ++ "/admin/configs?action=DELETE&name=" ++ configSetName ++ "&wt=json")
  | .setReplicationFactor collectionName replicationFactor =>
    r.getRequest (r.url ++ "/admin/collections?action=MODIFYCOLLECTION&collection=" ++
      collectionName ++ "&replicationFactor=" ++ fmtInt32 replicationFactor ++ "&wt=json")
  | .addReplicas collectionName increaseCount =>
    r.getRequest (r.url ++ "/admin/collections?action=ADDREPLICA&collection=" ++ collectionName ++
      "&shard=shard1&nrtReplicas=" ++ fmtInt32 increaseCount ++ "&wt=json")
  | .removeReplicas collectionName decreaseCount =>
    r.getRequest (r.url ++ "/admin/collections?action=DELETEREPLICA&collection=" ++
      collectionName ++ "&shard=shard1&count=" ++ fmtInt32 decreaseCount ++ "&wt=json")
  | .createCollection collectionName configSetName replicationFactor =>
    r.getRequest (r.url ++ "/admin/collections?action=CREATE&name=" ++ collectionName ++
      "&collection.configName=" ++ configSetName ++ "&numShards=1&replicationFactor=" ++
      fmtInt32 replicationFactor ++ "&autoAddReplicas=true&wt=json")
  | .assignAlias «alias» collectionName =>
    r.getRequest (r.url ++ "/admin/collections?action=CREATEALIAS&name=" ++ «alias» ++
      "&collections=" ++ collectionName)
  | .deleteAlias «alias» => r.getRequest (r.url ++ "/admin/collections?action=DELETEALIAS&name=" ++ «alias»)
  | .deleteCollection collectionName =>
    r.getRequest (r.url ++ "/admin/collections?action=DELETE&name=" ++ collectionName)
  | .query collectionName q =>
    r.getRequest (r.url ++ "/" ++ collectionName ++ "/select?q.op=OR&rows=1000&q=" ++ q)
  | .writeRecord collectionName record =>
    r.postRequest (r.url ++ "/" ++ collectionName ++ "/update?commit=true")
      (.text ("[" ++ record ++ "]")) "application/json"

/-! ## How Solr reads a request -/

/-- The characters before the first `c`, and those after it. -/
def cut (c : Char) : List Char → List Char × List Char
  | [] => ([], [])
  | d :: ds => if d = c then ([], ds) else (d :: (cut c ds).1, (cut c ds).2)

/-- The value of a hexadecimal digit. -/
def hexValue (c : Char) : Option Nat :=
  if c.isDigit then some (c.toNat - 48)
  else if 'a' ≤ c ∧ c ≤ 'f' then some (c.toNat - 87)
  else if 'A' ≤ c ∧ c ≤ 'F' then some (c.toNat - 55)
  else none

/-- Percent-decoding of a URL piece, `+` read as a space; a `%` without two hex
    digits is refused. An escape stands for the character of its code. -/
def unescape : List Char → Option (List Char)
  | [] => some []
  | c :: rest =>
    if c = '%' then
      match rest with
      | h :: l :: rest => do
        let a ← hexValue h
        let b ← hexValue l
        let r ← unescape rest
        pure (Char.ofNat (16 * a + b) :: r)
      | _ => none
    else (unescape rest).map ((if c = '+' then ' ' else c) :: ·)

/-- The parameters of a query's `&`-separated pieces, each cut at its first `=`. -/
def readParams : List (List Char) → Option (List (String × String))
  | [] => some []
  | piece :: pieces => do
    let k ← unescape (cut '=' piece).1
    let v ← unescape (cut '=' piece).2
    let ps ← readParams pieces
    pure ((⟨k⟩, ⟨v⟩) :: ps)

/-- The path segments and the parameters a server at `base` reads from a URL: what
    follows `base` up to a `#` (`url.Parse` keeps the fragment out of the request),
    cut at the first `?` into the path, split at each `/`, and the query. -/
def readUrl (base url : String) : Option (List String × List (String × String)) :=
  if base.data.isPrefixOf url.data then
    let target := cut '?' (cut '#' (url.data.drop base.data.length)).1
    match target.1.splitOn '/' with
    | [] :: segs => do
      let segs ← segs.mapM fun seg => (unescape seg).map String.mk
      let ps ← readParams (target.2.splitOn '&')
      pure (segs, ps)
    | _ => none
  else none

/-- A signed decimal. -/
def parseInt (s : String) : Option Int :=
  match s.data with
  | '-' :: ds => (parseDigits ds).map fun n => -(n : Int)
  | '+' :: ds => (parseDigits ds).map fun n => (n : Int)
  | ds => (parseDigits ds).map fun n => (n : Int)

/-- `Integer.parseInt`: a signed decimal in the range of an `int`. -/
def parseInt32 (s : String) : Option Int32 :=
  (parseInt s).bind fun n => if -2 ^ 31 ≤ n ∧ n < 2 ^ 31 then some (BitVec.ofInt 32 n) else none

/-- The one document of an update body `[doc]`. -/
def readDocs (body : String) : Option String :=
  match body.data with
  | '[' :: rest => if rest.getLast? = some ']' then some ⟨rest.dropLast⟩ else none
  | _ => none

/-- The collections API's actions, each with the call it makes of the request's
    parameters. -/
def collectionsActions : List (String × ((String → Option String) → Option Rpc)) :=
  [("CLUSTERSTATUS", fun _ => some .getClusterStatus),
   ("MODIFYCOLLECTION", fun param => do
      some (.setReplicationFactor (← param "collection") (← parseInt32 (← param "replicationFactor")))),
   ("ADDREPLICA", fun param => do
      some (.addReplicas (← param "collection") (← parseInt32 (← param "nrtReplicas")))),
   ("DELETEREPLICA", fun param => do
      some (.removeReplicas (← param "collection") (← parseInt32 (← param "count")))),
   ("CREATE", fun param => do
      some (.createCollection (← param "name") (← param "collection.configName")
        (← parseInt32 (← param "replicationFactor")))),
   ("CREATEALIAS", fun param => do some (.assignAlias (← param "name") (← param "collections"))),
   ("DELETEALIAS", fun param => (param "name").map .deleteAlias),
   ("DELETE", fun param => (param "name").map .deleteCollection)]

/-- The configsets API's actions; an upload is the body of a `POST`. -/
def configsActions (req : Request) : List (String × ((String → Option String) → Option Rpc)) :=
  [("LIST", fun _ => some .getConfigSets),
   ("UPLOAD", fun param =>
      if req.method = "POST" then
        match req.body with
        | .bytes body => (param "name").map (.uploadConfigSet · body)
        | _ => none
      else none),
   ("DELETE", fun param => (param "name").map .deleteConfigSet)]

/-- The call an API makes of a request's parameters: the one its `action` names. -/
def readAction (actions : List (String × ((String → Option String) → Option Rpc)))
    (param : String → Option String) : Option Rpc := do
  let handler ← actions.lookup (← param "action")
  handler param

/-- A segment that names no collection: the servlet container drops or refuses
    empty and dot segments. -/
def dotSegment (s : String) : Bool := s == "" || s == "." || s == ".."

/-- The call a request makes of the handler its path selects, each parameter read
    at its first occurrence; the update handler reads a `POST` of JSON. -/
def readCall (segs : List String) (ps : List (String × String)) (req : Request) : Option Rpc :=
  let param := fun key => ps.lookup key
  match segs with
  | [a, "collections"] => if a = "admin" then readAction collectionsActions param else none
  | [a, "configs"] => if a = "admin" then readAction (configsActions req) param else none
  | [c, "select"] => if dotSegment c then none else (param "q").map (.query c)
  | [c, "update"] =>
    if dotSegment c then none
    else if req.method = "POST" ∧ req.contentType = some "application/json" then
      match req.body with
      | .text body => (readDocs body).map (.writeRecord c)
      | _ => none
    else none
  | _ => none

/-- The call a Solr server at `base` reads from a request. -/
def Request.read (base : String) (req : Request) : Option Rpc := do
  let (segs, ps) ← readUrl base req.url
  readCall segs ps req

/-! ## Plain names -/

/-- A character that goes into a URL as it is and that Solr reads back as itself:
    printable ASCII, neither one of the URL's delimiters `/ ? # &` nor an escape. -/
def plainChar (c : Char) : Bool :=
  32 < c.toNat && c.toNat < 127 && c != '/' && c != '?' && c != '#' && c != '&' && c != '%' &&
    c != '+'

/-- A name of plain characters. -/
def plainName (s : String) : Bool := s.data.all plainChar

/-- The calls whose names are plain, a collection named in the path being no dot
    segment. -/
def Rpc.plain : Rpc → Bool
  | .getClusterStatus | .getConfigSets => true
  | .uploadConfigSet configSetName _ | .deleteConfigSet configSetName => plainName configSetName
  | .setReplicationFactor collectionName _ | .addReplicas collectionName _
  | .removeReplicas collectionName _ | .deleteCollection collectionName => plainName collectionName
  | .createCollection collectionName configSetName _ =>
    plainName collectionName && plainName configSetName
  | .assignAlias «alias» collectionName => plainName «alias» && plainName collectionName
  | .deleteAlias «alias» => plainName «alias»
  | .query collectionName q => plainName collectionName && !dotSegment collectionName && plainName q
  | .writeRecord collectionName _ => plainName collectionName && !dotSegment collectionName

theorem not_mem_of_plainName {s : String} (h : plainName s = true) {d : Char}
    (hd : plainChar d = false) : d ∉ s.data := fun hm => by
  rw [plainName, List.all_eq_true] at h
  rw [h d hm] at hd
  cases hd

/-! ## The URL every call is sent to -/

/-- The path of segments `ss`. -/
def renderPath : List String → String
  | [] => ""
  | s :: ss => "/" ++ s ++ renderPath ss

/-- The query of parameters `ps`. -/
def renderQuery : List (String × String) → String
  | [] => ""
  | [p] => p.1 ++ "=" ++ p.2
  | p :: q :: ps => p.1 ++ "=" ++ p.2 ++ "&" ++ renderQuery (q :: ps)

/-- The path segments and the parameters of each call's URL. -/
def Rpc.target : Rpc → List String × List (String × String)
  | .getClusterStatus => (["admin", "collections"], [("action", "CLUSTERSTATUS")])
  | .getConfigSets => (["admin", "configs"], [("action", "LIST"), ("wt", "json")])
  | .uploadConfigSet configSetName _ => (["admin", "configs"], [("action", "UPLOAD"),
      ("name", configSetName), ("overwrite", "true"), ("cleanup", "true"), ("wt", "json")])
  | .deleteConfigSet configSetName =>
    (["admin", "configs"], [("action", "DELETE"), ("name", configSetName), ("wt", "json")])
  | .setReplicationFactor collectionName replicationFactor =>
    (["admin", "collections"], [("action", "MODIFYCOLLECTION"), ("collection", collectionName),
      ("replicationFactor", fmtInt32 replicationFactor), ("wt", "json")])
  | .addReplicas collectionName increaseCount =>
    (["admin", "collections"], [("action", "ADDREPLICA"), ("collection", collectionName),
      ("shard", "shard1"), ("nrtReplicas", fmtInt32 increaseCount), ("wt", "json")])
  | .removeReplicas collectionName decreaseCount =>
    (["admin", "collections"], [("action", "DELETEREPLICA"), ("collection", collectionName),
      ("shard", "shard1"), ("count", fmtInt32 decreaseCount), ("wt", "json")])
  | .createCollection collectionName configSetName replicationFactor =>
    (["admin", "collections"], [("action", "CREATE"), ("name", collectionName),
      ("collection.configName", configSetName), ("numShards", "1"),
      ("replicationFactor", fmtInt32 replicationFactor), ("autoAddReplicas", "true"), ("wt", "json")])
  | .assignAlias «alias» collectionName =>
    (["admin", "collections"], [("action", "CREATEALIAS"), ("name", «alias»),
      ("collections", collectionName)])
  | .deleteAlias «alias» => (["admin", "collections"], [("action", "DELETEALIAS"), ("name", «alias»)])
  | .deleteCollection collectionName =>
    (["admin", "collections"], [("action", "DELETE"), ("name", collectionName)])
  | .query collectionName q => ([collectionName, "select"], [("q.op", "OR"), ("rows", "1000"), ("q", q)])
  | .writeRecord collectionName _ => ([collectionName, "update"], [("commit", "true")])

/-- Every method's URL is the client's, then its call's path and query. -/
theorem Rpc.request_url (cl : SolrClient) (r : Rpc) :
    (r.request cl).url = cl.url ++ renderPath r.target.1 ++ "?" ++ renderQuery r.target.2 := by
  cases r <;> simp only [Rpc.request, Rpc.target, renderPath, renderQuery, SolrClient.getRequest,
    SolrClient.postRequest, String.append_assoc] <;> rfl

/-! ## Reading the URL back -/

theorem cut_append (c : Char) {a : List Char} (b : List Char) (h : c ∉ a) :
    cut c (a ++ c :: b) = (a, b) := by
  induction a with
  | nil => simp [cut]
  | cons d ds ih =>
    rw [List.mem_cons, not_or] at h
    simp [cut, Ne.symm h.1, ih h.2]

theorem cut_of_not_mem (c : Char) {a : List Char} (h : c ∉ a) : cut c a = (a, []) := by
  induction a with
  | nil => rfl
  | cons d ds ih =>
    rw [List.mem_cons, not_or] at h
    simp [cut, Ne.symm h.1, ih h.2]

theorem unescape_of_not_mem : ∀ l : List Char, '%' ∉ l → '+' ∉ l → unescape l = some l
  | [], _, _ => rfl
  | c :: rest, h1, h2 => by
    rw [List.mem_cons, not_or] at h1 h2
    rw [unescape.eq_def]
    simp only [if_neg (Ne.symm h1.1), if_neg (Ne.symm h2.1), unescape_of_not_mem rest h1.2 h2.2]
    rfl

theorem unescape_of_plainName {s : String} (h : plainName s = true) : unescape s.data = some s.data :=
  unescape_of_not_mem _ (not_mem_of_plainName h (by decide)) (not_mem_of_plainName h (by decide))

/-- The characters of a path of plain segments. -/
theorem renderPath_chars {ss : List String} (h : ∀ s ∈ ss, plainName s = true) :
    ∀ c ∈ (renderPath ss).data, c = '/' ∨ plainChar c = true := by
  induction ss with
  | nil => simp [renderPath]
  | cons s ss ih =>
    have hs := h s (List.mem_cons_self _ _)
    rw [plainName, List.all_eq_true] at hs
    simp only [renderPath, String.data_append, List.mem_append]
    rintro c ((hc | hc) | hc)
    · exact .inl (List.mem_singleton.1 hc)
    · exact .inr (hs c hc)
    · exact ih (fun t ht => h t (List.mem_cons_of_mem _ ht)) c hc

/-- The characters of a query of plain parameters. -/
theorem renderQuery_chars {ps : List (String × String)}
    (h : ∀ p ∈ ps, plainName p.1 = true ∧ plainName p.2 = true) :
    ∀ c ∈ (renderQuery ps).data, c = '=' ∨ c = '&' ∨ plainChar c = true := by
  induction ps using renderQuery.induct with
  | case1 => simp [renderQuery]
  | case2 p =>
    obtain ⟨h1, h2⟩ := h p (List.mem_singleton_self p)
    rw [plainName, List.all_eq_true] at h1 h2
    simp only [renderQuery, String.data_append, List.mem_append]
    rintro c ((hc | hc) | hc)
    · exact .inr (.inr (h1 c hc))
    · exact .inl (List.mem_singleton.1 hc)
    · exact .inr (.inr (h2 c hc))
  | case3 p q ps ih =>
    obtain ⟨h1, h2⟩ := h p (List.mem_cons_self _ _)
    rw [plainName, List.all_eq_true] at h1 h2
    simp only [renderQuery, String.data_append, List.mem_append]
    rintro c ((((hc | hc) | hc) | hc) | hc)
    · exact .inr (.inr (h1 c hc))
    · exact .inl (List.mem_singleton.1 hc)
    · exact .inr (.inr (h2 c hc))
    · exact .inr (.inl (List.mem_singleton.1 hc))
    · exact ih (fun t ht => h t (List.mem_cons_of_mem _ ht)) c hc

/-- The pieces of a query are its parameters. -/
theorem splitOn_renderQuery (ps : List (String × String)) (hps : ps ≠ [])
    (h : ∀ p ∈ ps, '&' ∉ p.1.data ∧ '&' ∉ p.2.data) :
    (renderQuery ps).data.splitOn '&' = ps.map fun p => (p.1 ++ "=" ++ p.2).data := by
  induction ps using renderQuery.induct with
  | case1 => exact absurd rfl hps
  | case2 p =>
    have hp := h p (List.mem_singleton_self p)
    refine List.splitOnP_eq_single _ _ fun x hx hxe => ?_
    rw [beq_iff_eq.1 hxe] at hx
    simp only [renderQuery, String.data_append, List.mem_append] at hx
    exact hx.elim (·.elim hp.1 (by decide)) hp.2
  | case3 p q ps ih =>
    have hp := h p (List.mem_cons_self _ _)
    have hsplit := List.splitOnP_first (· == '&') (p.1 ++ "=" ++ p.2).data (fun x hx hxe => by
      rw [beq_iff_eq.1 hxe] at hx
      simp only [String.data_append, List.mem_append] at hx
      exact hx.elim (·.elim hp.1 (by decide)) hp.2) '&' (by decide) (renderQuery (q :: ps)).data
    rw [List.map_cons, ← ih (List.cons_ne_nil _ _) fun p hp => h p (List.mem_cons_of_mem _ hp)]
    simp only [renderQuery, String.data_append, List.append_assoc] at hsplit ⊢
    exact hsplit

/-- Each piece `k=v` of plain parameters reads back as its parameter. -/
theorem readParams_pieces (ps : List (String × String))
    (h : ∀ p ∈ ps, plainName p.1 = true ∧ '=' ∉ p.1.data ∧ plainName p.2 = true) :
    readParams (ps.map fun p => (p.1 ++ "=" ++ p.2).data) = some ps := by
  induction ps with
  | nil => rfl
  | cons p ps ih =>
    obtain ⟨h1, he, h2⟩ := h p (List.mem_cons_self _ _)
    rw [List.map_cons, readParams, show (p.1 ++ "=" ++ p.2).data = p.1.data ++ '=' :: p.2.data by
        simp only [String.data_append, List.append_assoc]; rfl,
      cut_append _ _ he, unescape_of_plainName h1, unescape_of_plainName h2,
      ih fun p hp => h p (List.mem_cons_of_mem _ hp)]
    rfl

/-- The pieces of a path after its leading `/` are its segments. -/
theorem splitOn_renderPath (s : String) (ss : List String) (h : '/' ∉ s.data)
    (hs : ∀ t ∈ ss, '/' ∉ t.data) :
    (s.data ++ (renderPath ss).data).splitOn '/' = s.data :: ss.map String.data := by
  induction ss generalizing s with
  | nil =>
    rw [renderPath, List.map_nil, show ("" : String).data = [] from rfl, List.append_nil]
    exact List.splitOnP_eq_single _ _ fun x hx hxe => h (beq_iff_eq.1 hxe ▸ hx)
  | cons t ts ih =>
    have hsplit := List.splitOnP_first (· == '/') s.data (fun x hx hxe => h (beq_iff_eq.1 hxe ▸ hx))
      '/' (by decide) (t.data ++ (renderPath ts).data)
    rw [List.map_cons, ← ih t (hs t (List.mem_cons_self _ _)) fun u hu => hs u (List.mem_cons_of_mem _ hu)]
    simp only [renderPath, String.data_append, List.append_assoc] at hsplit ⊢
    exact hsplit

/-- Plain segments read back as themselves. -/
theorem mapM_unescape (ss : List String) (h : ∀ s ∈ ss, plainName s = true) :
    (ss.map String.data).mapM (fun seg => (unescape seg).map String.mk) = some ss := by
  induction ss with
  | nil => rfl
  | cons s ss ih =>
    rw [List.map_cons, List.mapM_cons, unescape_of_plainName (h s (List.mem_cons_self _ _)),
      ih fun t ht => h t (List.mem_cons_of_mem _ ht)]
    rfl

/-- A server at `base` reads the plain segments and parameters back from the URL
    they make after `base`. -/
theorem readUrl_render (base : String) (segs : List String) (ps : List (String × String))
    (hsegs : segs ≠ []) (hseg : ∀ s ∈ segs, plainName s = true) (hps : ps ≠ [])
    (hp : ∀ p ∈ ps, plainName p.1 = true ∧ '=' ∉ p.1.data ∧ plainName p.2 = true) :
    readUrl base (base ++ renderPath segs ++ "?" ++ renderQuery ps) = some (segs, ps) := by
  have hpath := renderPath_chars hseg
  have hquery := renderQuery_chars fun p h => ⟨(hp p h).1, (hp p h).2.2⟩
  have hq : '?' ∉ (renderPath segs).data := fun h => absurd (hpath _ h) (by decide)
  have hhash : '#' ∉ (renderPath segs).data ++ '?' :: (renderQuery ps).data := by
    simp only [List.mem_append, List.mem_cons, not_or]
    exact ⟨fun h => absurd (hpath _ h) (by decide), by decide, fun h => absurd (hquery _ h) (by decide)⟩
  have hamp : ∀ p ∈ ps, '&' ∉ p.1.data ∧ '&' ∉ p.2.data := fun p h =>
    ⟨not_mem_of_plainName (hp p h).1 (by decide), not_mem_of_plainName (hp p h).2.2 (by decide)⟩
  obtain ⟨s, ss, rfl⟩ := List.exists_cons_of_ne_nil hsegs
  have hslash : ∀ t ∈ s :: ss, '/' ∉ t.data := fun t h => not_mem_of_plainName (hseg t h) (by decide)
  simp only [readUrl, String.data_append, List.append_assoc]
  have hsplit : (renderPath (s :: ss)).data.splitOn '/' = [] :: (s :: ss).map String.data := by
    show List.splitOnP (· == '/') ('/' :: (s.data ++ (renderPath ss).data)) = _
    rw [List.splitOnP_cons, if_pos (by decide)]
    exact congrArg _ (splitOn_renderPath s ss (hslash s (List.mem_cons_self _ _))
      fun t ht => hslash t (List.mem_cons_of_mem _ ht))
  rw [if_pos (List.isPrefixOf_iff_prefix.2 (List.prefix_append _ _)), List.drop_left,
    show ['?'] ++ (renderQuery ps).data = '?' :: (renderQuery ps).data from rfl, cut_of_not_mem _ hhash,
    cut_append _ _ hq, hsplit]
  simp only [mapM_unescape _ hseg, splitOn_renderQuery ps hps hamp, readParams_pieces ps hp]
  rfl

/-! ## Numbers -/

/-- Facts of every decimal digit character. -/
theorem digitChar_decimal :
    ∀ d, d < 10 → (Nat.digitChar d).isDigit = true ∧ plainChar (Nat.digitChar d) = true ∧
      (Nat.digitChar d).toNat - 48 = d := by
  decide

/-- What holds of every digit character holds of every character of a numeral. -/
theorem toDigitsCore_forall (P : Char → Prop) (hP : ∀ d, d < 10 → P (Nat.digitChar d))
    (fuel n : Nat) (acc : List Char) (hacc : ∀ c ∈ acc, P c) :
    ∀ c ∈ Nat.toDigitsCore 10 fuel n acc, P c := by
  induction fuel generalizing n acc with
  | zero => exact hacc
  | succ fuel ih =>
    have hd := hP (n % 10) (Nat.mod_lt _ (by decide))
    simp only [Nat.toDigitsCore]
    split
    · exact List.forall_mem_cons.2 ⟨hd, hacc⟩
    · exact ih _ _ (List.forall_mem_cons.2 ⟨hd, hacc⟩)

/-- Horner's rule undoes `toDigitsCore`, given the fuel for every digit. -/
theorem toDigitsCore_decimal (fuel n : Nat) (acc : List Char) (hn : n < 10 ^ fuel) :
    (Nat.toDigitsCore 10 fuel n acc).foldl (fun n c => n * 10 + (c.toNat - 48)) 0 =
      acc.foldl (fun n c => n * 10 + (c.toNat - 48)) n := by
  induction fuel generalizing n acc with
  | zero =>
    obtain rfl : n = 0 := by simpa using hn
    rfl
  | succ fuel ih =>
    have hd := (digitChar_decimal (n % 10) (Nat.mod_lt _ (by decide))).2.2
    simp only [Nat.toDigitsCore]
    split
    · rw [List.foldl_cons, hd, Nat.zero_mul, Nat.zero_add, Nat.mod_eq_of_lt (by omega)]
    · rw [ih _ _ (by rw [Nat.pow_succ] at hn; omega), List.foldl_cons, hd, Nat.div_add_mod']

theorem toDigitsCore_ne_nil (fuel n : Nat) (acc : List Char) (h : 0 < fuel ∨ acc ≠ []) :
    Nat.toDigitsCore 10 fuel n acc ≠ [] := by
  induction fuel generalizing n acc with
  | zero => simpa using h
  | succ fuel ih =>
    simp only [Nat.toDigitsCore]
    split
    · exact List.cons_ne_nil _ _
    · exact ih _ _ (.inr (List.cons_ne_nil _ _))

theorem parseDigits_toDigits (n : Nat) : parseDigits (Nat.toDigits 10 n) = some n := by
  rw [Nat.toDigits, parseDigits_eq _ (toDigitsCore_ne_nil _ _ _ (.inl n.succ_pos))
    (toDigitsCore_forall _ (fun d hd => (digitChar_decimal d hd).1) _ _ _ fun _ h => absurd h (List.not_mem_nil _)),
    toDigitsCore_decimal _ _ _ ((Nat.lt_succ_self n).trans (Nat.lt_pow_self (by decide) _))]
  rfl

/-- A numeral without a sign is read as its digits. -/
theorem parseInt_digits {ds : List Char} (hne : ds ≠ []) (hd : ∀ c ∈ ds, c.isDigit = true) :
    parseInt ⟨ds⟩ = (parseDigits ds).map fun n => (n : Int) := by
  obtain ⟨c, cs, rfl⟩ := List.exists_cons_of_ne_nil hne
  have hc := hd c (List.mem_cons_self _ _)
  have h1 : c ≠ '-' := by rintro rfl; exact absurd hc (by decide)
  have h2 : c ≠ '+' := by rintro rfl; exact absurd hc (by decide)
  unfold parseInt
  split <;> simp_all

/-- `Integer.parseInt` reads back what `%d` writes. -/
theorem parseInt_toString (i : Int) : parseInt (toString i) = some i := by
  cases i with
  | ofNat n =>
    rw [show toString (Int.ofNat n) = ⟨Nat.toDigits 10 n⟩ from rfl,
      @parseInt_digits (Nat.toDigits 10 n) (toDigitsCore_ne_nil _ _ _ (.inl n.succ_pos))
        (toDigitsCore_forall _ (fun d hd => (digitChar_decimal d hd).1) _ _ _ fun _ h => absurd h (List.not_mem_nil _)),
      parseDigits_toDigits]
    rfl
  | negSucc n =>
    show parseInt ⟨'-' :: Nat.toDigits 10 (n + 1)⟩ = _
    simp only [parseInt, parseDigits_toDigits]
    rfl

theorem parseInt32_fmtInt32 (x : Int32) : parseInt32 (fmtInt32 x) = some x := by
  rw [parseInt32, fmtInt32, parseInt_toString, Option.some_bind, if_pos x.toInt_bounds,
    Int32.ofInt_toInt]

theorem plainName_fmtInt32 (x : Int32) : plainName (fmtInt32 x) = true := by
  have hdigits := fun n => toDigitsCore_forall (plainChar · = true)
    (fun d hd => (digitChar_decimal d hd).2.1) (n + 1) n [] fun _ h => absurd h (List.not_mem_nil _)
  rw [plainName, List.all_eq_true, fmtInt32]
  cases x.toInt with
  | ofNat n => exact hdigits n
  | negSucc n => exact List.forall_mem_cons.2 ⟨by decide, hdigits (n + 1)⟩

/-! ## Every plain call reads back -/

theorem readDocs_array (record : String) : readDocs ("[" ++ record ++ "]") = some record := by
  show readDocs ⟨'[' :: (record.data ++ [']'])⟩ = _
  simp [readDocs]

/-- The path and parameters of a plain call are plain. -/
theorem Rpc.target_plain {r : Rpc} (h : r.plain = true) :
    r.target.1 ≠ [] ∧ (∀ s ∈ r.target.1, plainName s = true) ∧ r.target.2 ≠ [] ∧
      ∀ p ∈ r.target.2, plainName p.1 = true ∧ '=' ∉ p.1.data ∧ plainName p.2 = true := by
  cases r <;> simp only [Rpc.plain, Bool.and_eq_true, Bool.not_eq_true'] at h <;>
    simp [Rpc.target, h, plainName_fmtInt32] <;> decide

theorem readCall_collections (ps : List (String × String)) (req : Request) :
    readCall ["admin", "collections"] ps req = readAction collectionsActions fun key => ps.lookup key :=
  rfl

theorem readCall_configs (ps : List (String × String)) (req : Request) :
    readCall ["admin", "configs"] ps req = readAction (configsActions req) fun key => ps.lookup key :=
  rfl

theorem readCall_select (c : String) (ps : List (String × String)) (req : Request) :
    readCall [c, "select"] ps req = if dotSegment c then none else (ps.lookup "q").map (.query c) :=
  rfl

theorem readCall_update (c : String) (ps : List (String × String)) (req : Request) :
    readCall [c, "update"] ps req =
      if dotSegment c then none
      else if req.method = "POST" ∧ req.contentType = some "application/json" then
        match req.body with
        | .text body => (readDocs body).map (.writeRecord c)
        | _ => none
      else none :=
  rfl

/-- Solr's handlers make of a plain call's path, parameters and body the call itself. -/
theorem Rpc.readCall_target (cl : SolrClient) {r : Rpc} (h : r.plain = true) :
    readCall r.target.1 r.target.2 (r.request cl) = some r := by
  cases r <;> simp only [Rpc.plain, Bool.and_eq_true, Bool.not_eq_true'] at h <;>
    simp only [Rpc.target, readCall_collections, readCall_configs, readCall_select, readCall_update,
      readAction, collectionsActions, configsActions, List.lookup_cons, List.lookup_cons_self,
      List.lookup_nil, Option.bind_eq_bind, Option.some_bind, Option.map_some', String.reduceBEq,
      String.reduceEq, beq_self_eq_true, parseInt32_fmtInt32, readDocs_array, h, Bool.false_eq_true,
      ↓reduceIte, and_self, Rpc.request, SolrClient.getRequest, SolrClient.postRequest]

/-- Every method sends the client's credentials. -/
theorem Rpc.request_basicAuth (cl : SolrClient) (r : Rpc) :
    (r.request cl).basicAuth = (cl.username, cl.password) := by
  cases r <;> rfl

/-- Solr reads back every plain call from the request its method sends, whatever
    the client: the handler, every name and number, and the body. -/
theorem Rpc.read_request (cl : SolrClient) (r : Rpc) (h : r.plain = true) :
    (r.request cl).read cl.url = some r := by
  obtain ⟨hs, hseg, hps, hp⟩ := Rpc.target_plain h
  rw [Request.read, Rpc.request_url, readUrl_render _ _ _ hs hseg hps hp]
  exact Rpc.readCall_target cl h

example : ((Rpc.createCollection "books-blue" "books" 3).request ⟨"u", "p", "http://solr"⟩).read
    "http://solr" = some (.createCollection "books-blue" "books" 3) := by
  decide

/-- Names go into the URL unescaped: a collection name that carries `&` and then
    parameters makes Solr read those parameters as the request's own, and delete
    the collection named by what precedes the `&`. -/
theorem deleteCollection_name_cut_at_amp (cl : SolrClient) (name : String)
    (qs : List (String × String)) (hname : plainName name = true) (hqs : qs ≠ [])
    (hq : ∀ p ∈ qs, plainName p.1 = true ∧ '=' ∉ p.1.data ∧ plainName p.2 = true) :
    readUrl cl.url ((Rpc.deleteCollection (name ++ "&" ++ renderQuery qs)).request cl).url =
        some (["admin", "collections"], ("action", "DELETE") :: ("name", name) :: qs) ∧
      ((Rpc.deleteCollection (name ++ "&" ++ renderQuery qs)).request cl).read cl.url =
        some (.deleteCollection name) := by
  obtain ⟨q, qs', rfl⟩ := List.exists_cons_of_ne_nil hqs
  have hurl : ((Rpc.deleteCollection (name ++ "&" ++ renderQuery (q :: qs'))).request cl).url =
      cl.url ++ renderPath ["admin", "collections"] ++ "?" ++
        renderQuery (("action", "DELETE") :: ("name", name) :: q :: qs') := by
    simp only [Rpc.request, SolrClient.getRequest, renderPath, renderQuery, String.append_assoc]
    rfl
  have hread := readUrl_render cl.url ["admin", "collections"]
    (("action", "DELETE") :: ("name", name) :: q :: qs') (List.cons_ne_nil _ _)
    (by decide) (List.cons_ne_nil _ _) (fun p hp => by
      rcases List.mem_cons.1 hp with rfl | hp
      · decide
      rcases List.mem_cons.1 hp with rfl | hp
      · exact ⟨(by decide : plainName "name" = true), (by decide : '=' ∉ "name".data), hname⟩
      exact hq p hp)
  rw [hurl, hread]
  refine ⟨rfl, ?_⟩
  rw [Request.read, hurl, hread]
  simp [readCall_collections, readAction, collectionsActions, List.lookup_cons]

/-- A name that smuggles a second `name` parameter: Solr deletes the first. -/
theorem deleteCollection_name_cut_at_amp_books :
    plainName "books" = true ∧ [("name", "logs")] ≠ [] ∧
      (∀ p ∈ [("name", "logs")], plainName p.1 = true ∧ '=' ∉ p.1.data ∧ plainName p.2 = true) ∧
      (readUrl "http://solr" ((Rpc.deleteCollection ("books" ++ "&" ++ renderQuery [("name", "logs")])).request
          ⟨"u", "p", "http://solr"⟩).url =
          some (["admin", "collections"], [("action", "DELETE"), ("name", "books"), ("name", "logs")]) ∧
        ((Rpc.deleteCollection ("books" ++ "&" ++ renderQuery [("name", "logs")])).request
          ⟨"u", "p", "http://solr"⟩).read "http://solr" = some (.deleteCollection "books")) :=
  ⟨by decide, by decide, by decide,
    deleteCollection_name_cut_at_amp ⟨"u", "p", "http://solr"⟩ "books" [("name", "logs")] (by decide)
      (by decide) (by decide)⟩

end SolrOperator
