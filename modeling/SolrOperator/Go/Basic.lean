/-
  SolrOperator.Go.Basic

  The pieces of Go the operator's code is written with, as this development
  models them.

    * `Int32` is Go's `int32`: two's complement, wrapping `+`/`-`/negation,
      signed comparisons (`BitVec.slt`).
    * `GoMap V` is a `map[string]V`. Every map of the operator has string keys.
      Go leaves the order in which `range` visits a map unspecified, and picks it
      afresh for each `range` statement; `MapOrder` is that choice, one visiting
      order per range statement (`Site`) and key list, constrained only to be a
      permutation. Every result stated "for any iteration order" quantifies over
      `MapOrder`.
    * `Outcome` records whether a call returned or panicked.
    * `Json` is a decoded JSON value, as `map[string]interface{}` holds it. The
      operator decodes with `k8s.io/apimachinery/pkg/util/json`, which turns an
      integral number that fits an `int64` into an `int64` (`Json.int`) and keeps
      any other number a `float64` (`Json.float`, whose value the operator never
      reads).
-/
import Mathlib.Data.BitVec
import Mathlib.Data.List.AList

namespace SolrOperator

open scoped List

/-- Go's `int32`. -/
abbrev Int32 := BitVec 32

theorem Int32.toInt_bounds (x : Int32) : -2 ^ 31 ≤ x.toInt ∧ x.toInt < 2 ^ 31 := by
  have := x.isLt
  rw [BitVec.toInt_eq_toNat_cond]
  split <;> omega

/-- The difference of two nonnegative `int32`s does not wrap. -/
theorem Int32.toInt_sub_of_nonneg {a b : Int32} (ha : 0 ≤ a.toInt) (hb : 0 ≤ b.toInt) :
    (a - b).toInt = a.toInt - b.toInt := by
  have h1 := a.toInt_bounds
  have h2 := b.toInt_bounds
  rw [BitVec.toInt_sub, Int.bmod]
  simp only at *
  split <;> omega

/-- `int32(n)` of a value in range is that value. -/
theorem Int32.toInt_ofInt_of_lt {n : Int} (h1 : -2 ^ 31 ≤ n) (h2 : n < 2 ^ 31) :
    (BitVec.ofInt 32 n : Int32).toInt = n := by
  rw [BitVec.toInt_ofInt, Int.bmod_def]
  split <;> omega

/-- Go's `[]byte`. -/
abbrev Bytes := List UInt8

/-- How a Go call ends: it returns, or a run-time panic unwinds the goroutine. -/
inductive Outcome (α : Type) where
  | ok (a : α)
  | panic
  deriving DecidableEq, Repr

instance : Monad Outcome where
  pure := .ok
  bind
    | .ok a, f => f a
    | .panic, _ => .panic

@[simp] theorem Outcome.bind_ok {α β : Type} (a : α) (f : α → Outcome β) :
    (Outcome.ok a >>= f) = f a := rfl

@[simp] theorem Outcome.bind_panic {α β : Type} (f : α → Outcome β) :
    ((Outcome.panic : Outcome α) >>= f) = .panic := rfl

@[simp] theorem Outcome.pure_eq_ok {α : Type} {a b : α} : (pure a : Outcome α) = .ok b ↔ a = b :=
  ⟨fun h => by cases h; rfl, fun h => h ▸ rfl⟩

/-- A sequence returns only if its first step does and the rest returns from there. -/
@[simp] theorem Outcome.bind_eq_ok {α β : Type} {x : Outcome α} {f : α → Outcome β} {b : β} :
    (x >>= f) = .ok b ↔ ∃ a, x = .ok a ∧ f a = .ok b := by
  cases x <;> simp [bind]

@[simp] theorem Outcome.map_eq_ok {α β : Type} {f : α → β} {x : Outcome α} {b : β} :
    f <$> x = .ok b ↔ ∃ a, x = .ok a ∧ f a = b := by
  cases x <;> simp [Functor.map, bind]

/-- A Go `error` as `fmt` prints it: its dynamic type (`%T`) and its message
    (`Error()`). -/
structure GoError where
  type : String
  msg : String
  deriving DecidableEq, Repr

/-- `fmt`'s report of an argument its format has no verb for:
    `%!(EXTRA <type>=<value>)`. -/
def GoError.extra (err : GoError) : String := "%!(EXTRA " ++ err.type ++ "=" ++ err.msg ++ ")"

/-- A decoded JSON value: what `json.Unmarshal` stores in an `interface{}`. -/
inductive Json where
  | null
  | bool (b : Bool)
  | int (n : Int)
  | float
  | str (s : String)
  | arr (xs : List Json)
  | obj (kvs : List (String × Json))
  deriving Repr

/-! ## Strings -/

/-- `strings.HasPrefix`. -/
def hasPrefix (s pre : String) : Bool := pre.data.isPrefixOf s.data

/-- `strings.TrimSuffix`. -/
def trimSuffix (s suffix : String) : String :=
  if suffix.data.isSuffixOf s.data then ⟨s.data.take (s.data.length - suffix.data.length)⟩
  else s

/-- `strings.Contains`. -/
def strContains (s sub : String) : Bool := go s.data
where
  /-- Whether `sub` starts at some suffix of the characters left. -/
  go : List Char → Bool
    | [] => sub.data.isEmpty
    | c :: cs => sub.data.isPrefixOf (c :: cs) || go cs

theorem hasPrefix_append_left (s t pre : String) (h : hasPrefix s pre = true) :
    hasPrefix (s ++ t) pre = true := by
  simp only [hasPrefix, List.isPrefixOf_iff_prefix, String.data_append] at *
  exact h.trans (List.prefix_append _ _)

/-! ## Maps -/

/-- Go's `map[string]V`. -/
abbrev GoMap (V : Type) := AList (fun _ : String => V)

/-- The iteration order Go picks for each `range` over a map: at each range
    statement `site`, some permutation of the keys. -/
structure MapOrder (Site : Type) where
  visit : Site → List String → List String
  perm : ∀ site keys, visit site keys ~ keys

/-- The order that visits keys as the map stores them. -/
def MapOrder.stored (Site : Type) : MapOrder Site := ⟨fun _ keys => keys, fun _ _ => .refl _⟩

namespace GoMap

variable {V : Type} {Site : Type}

/-- Two maps are equal when their entries are. Mathlib's instance on `AList` is
    built by rewriting and does not evaluate; this one does, so equalities of
    states holding maps can be decided. -/
instance decEq [DecidableEq V] : DecidableEq (GoMap V) := fun m m' =>
  decidable_of_iff (m.entries = m'.entries) AList.ext_iff.symm

/-- `for k, v := range m` at `site`: the entries in the visiting order. -/
def range (m : GoMap V) (ord : MapOrder Site) (site : Site) : List (String × V) :=
  (ord.visit site m.keys).filterMap fun k => (m.lookup k).map (k, ·)

theorem mem_range {m : GoMap V} {ord : MapOrder Site} {site : Site} {k : String} {v : V} :
    (k, v) ∈ m.range ord site ↔ m.lookup k = some v := by
  simp only [range, List.mem_filterMap, Option.map_eq_some', Prod.mk.injEq]
  constructor
  · rintro ⟨k', -, v', h, rfl, rfl⟩
    exact h
  · intro h
    refine ⟨k, ?_, v, h, rfl, rfl⟩
    rw [(ord.perm site _).mem_iff, ← AList.mem_keys, ← AList.lookup_isSome, h]
    rfl

/-- Every key is visited once: the visited keys are a permutation of the keys. -/
theorem range_keys (m : GoMap V) (ord : MapOrder Site) (site : Site) :
    (m.range ord site).map Prod.fst ~ m.keys := by
  have hmap : ∀ l : List String, (∀ k ∈ l, k ∈ m) →
      (l.filterMap fun k => (m.lookup k).map (k, ·)).map Prod.fst = l := by
    intro l
    induction l with
    | nil => intro _; rfl
    | cons k l ih =>
      intro hl
      obtain ⟨v, hv⟩ := Option.isSome_iff_exists.mp
        (AList.lookup_isSome.mpr (hl k (List.mem_cons_self _ _)))
      simp only [List.filterMap_cons, hv, Option.map_some', List.map_cons,
        ih fun k' h => hl k' (List.mem_cons_of_mem _ h)]
  rw [range, hmap _ fun k h => AList.mem_keys.mpr ((ord.perm site _).mem_iff.mp h)]
  exact ord.perm site _

theorem range_nodup (m : GoMap V) (ord : MapOrder Site) (site : Site) :
    ((m.range ord site).map Prod.fst).Nodup :=
  (range_keys m ord site).nodup_iff.mpr m.keys_nodup

theorem mem_range_fst {m : GoMap V} {ord : MapOrder Site} {site : Site} {k : String} :
    k ∈ (m.range ord site).map Prod.fst ↔ k ∈ m :=
  ((range_keys m ord site).mem_iff).trans AList.mem_keys.symm

theorem range_length (m : GoMap V) (ord : MapOrder Site) (site : Site) :
    (m.range ord site).length = m.keys.length := by
  rw [← List.length_map _ Prod.fst, (range_keys m ord site).length_eq]

/-- A map of one entry is visited in one step. -/
theorem range_singleton (k : String) (v : V) (ord : MapOrder Site) (site : Site) :
    range ((∅ : GoMap V).insert k v) ord site = [(k, v)] := by
  have hkeys : ((∅ : GoMap V).insert k v).keys = [k] := rfl
  rw [range, hkeys, List.perm_singleton.1 (ord.perm site [k])]
  simp only [List.filterMap_cons, List.filterMap_nil, AList.lookup_insert, Option.map_some']

/-- A range statement runs its body only over a map with some key. -/
theorem range_eq_nil {m : GoMap V} {ord : MapOrder Site} {site : Site} :
    m.range ord site = [] ↔ ∀ k, k ∉ m := by
  rw [← List.length_eq_zero, range_length, List.length_eq_zero, List.eq_nil_iff_forall_not_mem]
  simp only [AList.mem_keys]

/-- Filing a list under keys leaves every other key as it was. -/
theorem lookup_foldl_insert_of_not_mem {α : Type} (key : α → String) (val : α → V) {k : String} :
    ∀ (l : List α) (m : GoMap V), k ∉ l.map key →
      (l.foldl (fun m a => m.insert (key a) (val a)) m).lookup k = m.lookup k
  | [], _, _ => rfl
  | a :: l, m, h => by
    simp only [List.map_cons, List.mem_cons, not_or] at h
    rw [List.foldl_cons, lookup_foldl_insert_of_not_mem key val l _ h.2, AList.lookup_insert_ne h.1]

/-- Filing a list with distinct keys leaves each entry under its key. -/
theorem lookup_foldl_insert_of_mem {α : Type} (key : α → String) (val : α → V) {a : α} :
    ∀ (l : List α) (m : GoMap V), a ∈ l → (l.map key).Nodup →
      (l.foldl (fun m a => m.insert (key a) (val a)) m).lookup (key a) = some (val a)
  | [], _, h, _ => absurd h (List.not_mem_nil _)
  | b :: l, m, h, hnd => by
    rw [List.map_cons, List.nodup_cons] at hnd
    rcases List.mem_cons.1 h with rfl | h
    · rw [List.foldl_cons, lookup_foldl_insert_of_not_mem key val l _ hnd.1, AList.lookup_insert]
    · exact lookup_foldl_insert_of_mem key val l _ h hnd.2

theorem mem_iff_lookup {m : GoMap V} {k : String} : k ∈ m ↔ ∃ v, m.lookup k = some v := by
  rw [← AList.lookup_isSome, Option.isSome_iff_exists]

/-- `len(m) > 0`: some key is present. -/
theorem entries_length_pos {m : GoMap V} : 0 < m.entries.length ↔ ∃ k, k ∈ m := by
  rw [List.length_pos]
  constructor
  · intro h
    obtain ⟨⟨k, v⟩, l, hl⟩ := List.exists_cons_of_ne_nil h
    exact ⟨k, AList.mem_keys.mpr (by simp [AList.keys, hl])⟩
  · rintro ⟨k, hk⟩ he
    rw [AList.mem_keys, AList.keys, he] at hk
    exact List.not_mem_nil _ hk

/-- One iteration of a loop that copies selected entries into another map:
    `if w, ok := f(k, v); ok { out[k] = w }`. -/
def selectStep {W : Type} (f : String → V → Option W) (out : GoMap W) (kv : String × V) :
    GoMap W :=
  match f kv.1 kv.2 with
  | some w => out.insert kv.1 w
  | none => out

/-- `for k, v := range m { if w, ok := f(k, v); ok { out[k] = w } }` into a fresh map. -/
def select {W : Type} (m : GoMap V) (ord : MapOrder Site) (site : Site)
    (f : String → V → Option W) : GoMap W :=
  (m.range ord site).foldl (selectStep f) ∅

theorem lookup_foldl_selectStep_of_not_mem {W : Type} (f : String → V → Option W) (k : String) :
    ∀ (l : List (String × V)) (out : GoMap W), k ∉ l.map Prod.fst →
      (l.foldl (selectStep f) out).lookup k = out.lookup k
  | [], _, _ => rfl
  | (k', v) :: l, out, hk => by
    simp only [List.map_cons, List.mem_cons, not_or] at hk
    rw [List.foldl_cons, lookup_foldl_selectStep_of_not_mem f k l _ hk.2, selectStep]
    split
    · exact AList.lookup_insert_ne hk.1
    · rfl

theorem lookup_foldl_selectStep_of_mem {W : Type} (f : String → V → Option W) {k : String}
    {v : V} : ∀ (l : List (String × V)) (out : GoMap W), (l.map Prod.fst).Nodup → (k, v) ∈ l →
      (l.foldl (selectStep f) out).lookup k = (f k v).or (out.lookup k)
  | [], _, _, h => absurd h (List.not_mem_nil _)
  | (k', v') :: l, out, hnd, h => by
    rw [List.map_cons, List.nodup_cons] at hnd
    rw [List.foldl_cons]
    rcases List.mem_cons.mp h with hkv | hl
    · obtain ⟨rfl, rfl⟩ := Prod.mk.inj hkv
      rw [lookup_foldl_selectStep_of_not_mem f k l _ hnd.1, selectStep]
      split <;> simp_all [AList.lookup_insert]
    · have hne : k ≠ k' := by
        rintro rfl
        exact hnd.1 (List.mem_map.mpr ⟨_, hl, rfl⟩)
      rw [lookup_foldl_selectStep_of_mem f l _ hnd.2 hl, selectStep]
      split
      · rw [AList.lookup_insert_ne hne]
      · rfl

/-- What a selecting loop leaves at each key: the selection of the entry there. -/
theorem lookup_select {W : Type} (m : GoMap V) (ord : MapOrder Site) (site : Site)
    (f : String → V → Option W) (k : String) :
    (m.select ord site f).lookup k = (m.lookup k).bind (f k) := by
  have hnd := range_nodup m ord site
  cases h : m.lookup k with
  | none =>
    rw [select, lookup_foldl_selectStep_of_not_mem]
    · rfl
    · rw [mem_range_fst, ← AList.lookup_eq_none]
      exact h
  | some v =>
    rw [select, lookup_foldl_selectStep_of_mem _ _ _ hnd (mem_range.mpr h), Option.some_bind]
    cases f k v <;> rfl

theorem mem_select {W : Type} {m : GoMap V} {ord : MapOrder Site} {site : Site}
    {f : String → V → Option W} {k : String} :
    k ∈ m.select ord site f ↔ ∃ v, m.lookup k = some v ∧ (f k v).isSome := by
  rw [← AList.lookup_isSome, lookup_select]
  cases m.lookup k <;> simp

/-- `for k, v := range m { out[v] = k }` into a fresh map: the reverse map, in which
    a value several keys share keeps the key the loop visits last. -/
def reverse (m : GoMap String) (ord : MapOrder Site) (site : Site) : GoMap String :=
  (m.range ord site).foldl (fun out kv => out.insert kv.2 kv.1) ∅

theorem lookup_foldl_reverse {c a : String} : ∀ (l : List (String × String)) (out : GoMap String),
    (l.foldl (fun out kv => out.insert kv.2 kv.1) out).lookup c = some a →
      (a, c) ∈ l ∨ out.lookup c = some a
  | [], _, h => .inr h
  | (k, v) :: l, out, h => by
    rcases lookup_foldl_reverse l _ h with h | h
    · exact .inl (List.mem_cons_of_mem _ h)
    · by_cases hc : c = v
      · subst hc
        rw [AList.lookup_insert] at h
        cases h
        exact .inl (List.mem_cons_self _ _)
      · exact .inr (by rwa [AList.lookup_insert_ne hc] at h)

/-- The key the reverse map keeps for `c` does map to `c`. -/
theorem lookup_reverse {m : GoMap String} {ord : MapOrder Site} {site : Site} {c a : String}
    (h : (m.reverse ord site).lookup c = some a) : m.lookup a = some c := by
  rcases lookup_foldl_reverse _ _ h with h | h
  · exact mem_range.mp h
  · cases h

theorem mem_foldl_reverse {c : String} : ∀ (l : List (String × String)) (out : GoMap String),
    c ∈ l.foldl (fun out kv => out.insert kv.2 kv.1) out ↔ c ∈ out ∨ ∃ a, (a, c) ∈ l
  | [], _ => by simp
  | (k, v) :: l, out => by
    rw [List.foldl_cons, mem_foldl_reverse l, AList.mem_insert]
    simp only [List.mem_cons, Prod.mk.injEq]
    constructor
    · rintro ((rfl | h) | ⟨a, ha⟩)
      · exact .inr ⟨k, .inl ⟨rfl, rfl⟩⟩
      · exact .inl h
      · exact .inr ⟨a, .inr ha⟩
    · rintro (h | ⟨a, ⟨rfl, rfl⟩ | ha⟩)
      · exact .inl (.inr h)
      · exact .inl (.inl rfl)
      · exact .inr ⟨a, ha⟩

/-- A collection is a key of the reverse map exactly when some key maps to it. -/
theorem mem_reverse {m : GoMap String} {ord : MapOrder Site} {site : Site} {c : String} :
    c ∈ m.reverse ord site ↔ ∃ a, m.lookup a = some c := by
  rw [reverse, mem_foldl_reverse]
  simp [AList.not_mem_empty, mem_range]

end GoMap

/-! ## Type assertions on decoded JSON -/

/-- The Go map a decoded JSON object becomes: a later duplicate key wins. -/
def Json.toMap (kvs : List (String × Json)) : GoMap Json :=
  kvs.foldl (fun m kv => m.insert kv.1 kv.2) ∅

/-- `v.(string)` of a looked-up value: only a JSON string passes. -/
def assertString : Option Json → Outcome String
  | some (.str s) => .ok s
  | _ => .panic

/-- `v.(map[string]interface{})` of a looked-up value: only a JSON object passes. -/
def assertMap : Option Json → Outcome (GoMap Json)
  | some (.obj kvs) => .ok (Json.toMap kvs)
  | _ => .panic

@[simp] theorem assertString_eq_ok {o : Option Json} {s : String} :
    assertString o = .ok s ↔ o = some (.str s) := by
  rcases o with _ | _ | _ | _ | _ | _ | _ | _ <;> simp [assertString]

@[simp] theorem assertMap_eq_ok {o : Option Json} {m : GoMap Json} :
    assertMap o = .ok m ↔ ∃ kvs, o = some (.obj kvs) ∧ Json.toMap kvs = m := by
  rcases o with _ | _ | _ | _ | _ | _ | _ | _ <;> simp [assertMap]

/-- The value at a path of object keys, each looked up as the decoded Go map
    holds it. -/
def Json.path : Json → List String → Option Json
  | v, [] => some v
  | .obj kvs, k :: ks => ((Json.toMap kvs).lookup k).bind (·.path ks)
  | _, _ :: _ => none

theorem Json.path_append (v : Json) (ks ks' : List String) :
    v.path (ks ++ ks') = (v.path ks).bind (·.path ks') := by
  induction ks generalizing v with
  | nil => cases v <;> simp [Json.path]
  | cons k ks ih => cases v <;> simp [Json.path, ih, Option.bind_assoc]

/-- `v.([]interface{})` of a looked-up value: only a JSON array passes. -/
def assertArray : Option Json → Outcome (List Json)
  | some (.arr xs) => .ok xs
  | _ => .panic

end SolrOperator
