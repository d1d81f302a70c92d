/-
  SolrOperator.SolrApi.Types

  The `solr_api` package as the controller uses it: the cluster status it reads
  (`ClusterStatus`, `Collection`), the client value (`SolrClient`), and the
  admin calls the client's methods make (`Rpc`), each with the Go result its
  method returns (`Rpc.Out`).

  The controller is modelled against any Solr cluster: `Solr σ` answers each
  call from a state `σ` of its own choosing, so a result proved for every
  `Solr σ` holds for every sequence of answers the cluster may give. `Conn`
  threads that state through a pass together with the log of every call made
  and the client it went through. `ReloadCollection` is never called by the
  controller and is left out.
-/
import SolrOperator.Go.Basic

namespace SolrOperator

/-- `solr_api.Collection`. -/
structure Collection where
  name : String
  replicationFactor : Int32
  replicaCount : Int32
  configName : String
  deriving DecidableEq, Repr

/-- `solr_api.ClusterStatus`. -/
structure ClusterStatus where
  collections : GoMap Collection
  aliases : GoMap String

/-- `solr_api.SolrClient`. -/
structure SolrClient where
  username : String
  password : String
  url : String
  deriving DecidableEq, Repr

/-- The zero value `solr.SolrClient{}`. -/
def SolrClient.zero : SolrClient := ⟨"", "", ""⟩

/-- `solr_api.ReplicationAdjustment`. -/
structure ReplicationAdjustment where
  currentCount : Int32
  targetCount : Int32
  deriving DecidableEq, Repr

/-- A Solr document as `Query` returns it. -/
abbrev Doc := GoMap Json

/-- One admin call, named after the `SolrClient` method that makes it. -/
inductive Rpc where
  | getClusterStatus
  | getConfigSets
  | uploadConfigSet (configSetName : String) (body : Bytes)
  | deleteConfigSet (configSetName : String)
  | setReplicationFactor (collectionName : String) (replicationFactor : Int32)
  | addReplicas (collectionName : String) (increaseCount : Int32)
  | removeReplicas (collectionName : String) (decreaseCount : Int32)
  | createCollection (collectionName configSetName : String) (replicationFactor : Int32)
  | assignAlias («alias» collectionName : String)
  | deleteAlias («alias» : String)
  | deleteCollection (collectionName : String)
  | query (collectionName query : String)
  | writeRecord (collectionName record : String)
  deriving DecidableEq, Repr

/-- What each method returns: the error (`none` is `nil`), or the value beside it.
    `AddReplicas` returns its `isScaling` flag together with its error. -/
def Rpc.Out : Rpc → Type
  | .getClusterStatus => Except String ClusterStatus
  | .getConfigSets => Except String (List String)
  | .query .. => Except String (List Doc)
  | .addReplicas .. => Bool × Option String
  | _ => Option String

/-- What a method returns when its call fails with `err`. -/
def Rpc.fail (err : String) : (r : Rpc) → r.Out
  | .getClusterStatus => .error err
  | .getConfigSets => .error err
  | .query .. => .error err
  | .addReplicas .. => (false, some err)
  | .uploadConfigSet .. => some err
  | .deleteConfigSet .. => some err
  | .setReplicationFactor .. => some err
  | .removeReplicas .. => some err
  | .createCollection .. => some err
  | .assignAlias .. => some err
  | .deleteAlias .. => some err
  | .deleteCollection .. => some err
  | .writeRecord .. => some err

/-- What a method returns when its call succeeds against a cluster whose reads
    answer `clusterStatus`, `configSets` and `docs`; `AddReplicas` reports no
    scaling in progress. -/
def Rpc.succeed (clusterStatus : ClusterStatus) (configSets : List String) (docs : List Doc) :
    (r : Rpc) → r.Out
  | .getClusterStatus => .ok clusterStatus
  | .getConfigSets => .ok configSets
  | .query .. => .ok docs
  | .addReplicas .. => (false, none)
  | .uploadConfigSet .. => none
  | .deleteConfigSet .. => none
  | .setReplicationFactor .. => none
  | .removeReplicas .. => none
  | .createCollection .. => none
  | .assignAlias .. => none
  | .deleteAlias .. => none
  | .deleteCollection .. => none
  | .writeRecord .. => none

/-- The calls that change the cluster: all but the three reads. -/
def Rpc.isMutating : Rpc → Bool
  | .getClusterStatus | .getConfigSets | .query .. => false
  | _ => true

/-- A Solr cluster: its state, and its answer to each call made through a client. -/
structure Solr (σ : Type) where
  reply : SolrClient → (r : Rpc) → σ → r.Out × σ

/-- A cluster that answers every read from one snapshot and accepts every write
    without changing: the cluster of a single pass over fixed inputs. -/
def Solr.frozen (clusterStatus : ClusterStatus) (configSets : List String) (docs : List Doc) :
    Solr Unit where
  reply _ r _ := (Rpc.succeed clusterStatus configSets docs r, ())

/-- A cluster that fails every call with `err`. -/
def Solr.failing (err : String) : Solr Unit where
  reply _ r _ := (Rpc.fail err r, ())

/-- The Solr side of a pass: the cluster's state and every call made so far,
    oldest first, with the client it was made through. -/
structure Conn (σ : Type) where
  state : σ
  log : List (SolrClient × Rpc)

namespace Solr

variable {σ : Type} (sv : Solr σ)

/-- Make one call. -/
def call (cl : SolrClient) (r : Rpc) (c : Conn σ) : r.Out × Conn σ :=
  ((sv.reply cl r c.state).1, ⟨(sv.reply cl r c.state).2, c.log ++ [(cl, r)]⟩)

/-- Make calls one after another, ignoring the answers. -/
def issue (cl : SolrClient) : List Rpc → Conn σ → Conn σ
  | [], c => c
  | r :: rs, c => issue cl rs (sv.call cl r c).2

@[simp] theorem call_log (cl : SolrClient) (r : Rpc) (c : Conn σ) :
    (sv.call cl r c).2.log = c.log ++ [(cl, r)] := rfl

@[simp] theorem issue_log (cl : SolrClient) (rs : List Rpc) (c : Conn σ) :
    (sv.issue cl rs c).log = c.log ++ rs.map (cl, ·) := by
  induction rs generalizing c with
  | nil => simp [issue]
  | cons r rs ih => simp [issue, ih]

end Solr

/-! ## What a stretch of a pass called

`Conn.Extends P c c'`: the log of `c'` is that of `c` followed by calls that all
satisfy `P`. Each controller function gets one lemma of this form, saying what
its calls can be; every property of a pass's calls is derived from those. -/

namespace Conn

variable {σ : Type}

/-- `c'` is `c` after calls that all satisfy `P`. -/
def Extends (P : SolrClient × Rpc → Prop) (c c' : Conn σ) : Prop :=
  ∃ calls, c'.log = c.log ++ calls ∧ ∀ x ∈ calls, P x

variable {P Q : SolrClient × Rpc → Prop} {c c' c'' : Conn σ}

theorem Extends.refl (P : SolrClient × Rpc → Prop) (c : Conn σ) : Extends P c c :=
  ⟨[], by simp, by simp⟩

theorem Extends.trans (h : Extends P c c') (h' : Extends P c' c'') : Extends P c c'' := by
  obtain ⟨l, hl, hP⟩ := h
  obtain ⟨l', hl', hP'⟩ := h'
  exact ⟨l ++ l', by rw [hl', hl, List.append_assoc], fun x hx =>
    (List.mem_append.mp hx).elim (hP x) (hP' x)⟩

theorem Extends.mono (h : Extends P c c') (hPQ : ∀ x, P x → Q x) : Extends Q c c' := by
  obtain ⟨l, hl, hP⟩ := h
  exact ⟨l, hl, fun x hx => hPQ x (hP x hx)⟩

theorem Extends.and (h : Extends P c c') (h' : Extends Q c c') :
    Extends (fun x => P x ∧ Q x) c c' := by
  obtain ⟨l, hl, hP⟩ := h
  obtain ⟨l', hl', hQ⟩ := h'
  obtain rfl : l = l' := List.append_cancel_left (hl.symm.trans hl')
  exact ⟨l, hl, fun x hx => ⟨hP x hx, hQ x hx⟩⟩

/-- A pass that made no call extends its start by anything. -/
theorem Extends.of_log_eq (h : c'.log = c.log) : Extends P c c' := ⟨[], by simp [h], by simp⟩

/-- The end state of a stretch, as a match on the stretch's result names it. -/
theorem Extends.of_eq {α : Type} {r : α × Conn σ} {a : α} (h : Extends P c r.2)
    (heq : r = (a, c')) : Extends P c c' := by
  subst heq
  exact h

end Conn

namespace Solr

variable {σ : Type} (sv : Solr σ) {P : SolrClient × Rpc → Prop}

theorem call_extends (cl : SolrClient) (r : Rpc) (c : Conn σ) (h : P (cl, r)) :
    Conn.Extends P c (sv.call cl r c).2 :=
  ⟨[(cl, r)], rfl, by simpa using h⟩

end Solr

/-! ## What a stretch of a pass did

`sv.Steps P c c'`: `c'` is `c` after calls through `sv` that all satisfy `P`, so
that the cluster's state, and not only the log, is the one those calls leave.
Each controller function's `_steps` lemma says so; its `_extends` lemma, about
the log alone, follows. -/

namespace Solr

variable {σ : Type} (sv : Solr σ)

/-- Make calls one after another, each through its own client. -/
def replay (calls : List (SolrClient × Rpc)) (c : Conn σ) : Conn σ :=
  calls.foldl (fun c x => (sv.call x.1 x.2 c).2) c

@[simp] theorem replay_nil (c : Conn σ) : sv.replay [] c = c := rfl

@[simp] theorem replay_cons (x : SolrClient × Rpc) (calls : List (SolrClient × Rpc)) (c : Conn σ) :
    sv.replay (x :: calls) c = sv.replay calls (sv.call x.1 x.2 c).2 := rfl

theorem replay_append (l l' : List (SolrClient × Rpc)) (c : Conn σ) :
    sv.replay (l ++ l') c = sv.replay l' (sv.replay l c) :=
  List.foldl_append _ _ _ _

@[simp] theorem replay_log (calls : List (SolrClient × Rpc)) (c : Conn σ) :
    (sv.replay calls c).log = c.log ++ calls := by
  induction calls generalizing c with
  | nil => simp
  | cons x calls ih => simp [ih]

theorem issue_eq_replay (cl : SolrClient) (rs : List Rpc) (c : Conn σ) :
    sv.issue cl rs c = sv.replay (rs.map (cl, ·)) c := by
  induction rs generalizing c with
  | nil => rfl
  | cons r rs ih => exact ih _

/-- `c'` is `c` after calls through `sv` that all satisfy `P`. -/
def Steps (P : SolrClient × Rpc → Prop) (c c' : Conn σ) : Prop :=
  ∃ calls, c' = sv.replay calls c ∧ ∀ x ∈ calls, P x

namespace Steps

variable {sv} {P Q : SolrClient × Rpc → Prop} {c c' c'' : Conn σ}

theorem refl (P : SolrClient × Rpc → Prop) (c : Conn σ) : sv.Steps P c c := ⟨[], rfl, by simp⟩

theorem trans (h : sv.Steps P c c') (h' : sv.Steps P c' c'') : sv.Steps P c c'' := by
  obtain ⟨l, rfl, hP⟩ := h
  obtain ⟨l', rfl, hP'⟩ := h'
  exact ⟨l ++ l', (sv.replay_append l l' c).symm, fun x hx =>
    (List.mem_append.mp hx).elim (hP x) (hP' x)⟩

theorem mono (h : sv.Steps P c c') (hPQ : ∀ x, P x → Q x) : sv.Steps Q c c' := by
  obtain ⟨l, hl, hP⟩ := h
  exact ⟨l, hl, fun x hx => hPQ x (hP x hx)⟩

/-- The end state of a stretch, as a match on the stretch's result names it. -/
theorem of_eq {α : Type} {r : α × Conn σ} {a : α} (h : sv.Steps P c r.2)
    (heq : r = (a, c')) : sv.Steps P c c' := by
  subst heq
  exact h

/-- The log of a stretch. -/
theorem toExtends (h : sv.Steps P c c') : Conn.Extends P c c' := by
  obtain ⟨l, rfl, hP⟩ := h
  exact ⟨l, sv.replay_log l c, hP⟩

end Steps

variable {P : SolrClient × Rpc → Prop}

theorem call_steps (cl : SolrClient) (r : Rpc) (c : Conn σ) (h : P (cl, r)) :
    sv.Steps P c (sv.call cl r c).2 :=
  ⟨[(cl, r)], rfl, by simpa using h⟩

/-- The state a call leaves, as a match on its result names it. -/
theorem call_steps_of_eq {cl : SolrClient} {r : Rpc} {c c' : Conn σ} {out : r.Out}
    (heq : sv.call cl r c = (out, c')) (h : P (cl, r)) : sv.Steps P c c' :=
  (sv.call_steps cl r c h).of_eq heq

theorem issue_steps (cl : SolrClient) (rs : List Rpc) (c : Conn σ) (h : ∀ r ∈ rs, P (cl, r)) :
    sv.Steps P c (sv.issue cl rs c) :=
  ⟨rs.map (cl, ·), sv.issue_eq_replay cl rs c, by simpa using h⟩

end Solr

end SolrOperator
