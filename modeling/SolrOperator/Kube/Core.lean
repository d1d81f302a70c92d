/-
  SolrOperator.Kube.Core

  The Kubernetes side of a reconcile pass, as far as the operator touches it:
  the objects it reads (`ConfigMap`, `Secret`), the events it records, the
  `ctrl.Result` it returns, and how the API server answers its calls.

  The API server holds the `SolrCollectionSet` object. A pass reads it, writes
  its status or spec back, and re-reads it; with one reconcile in flight per
  object and no other writer during a pass, a re-read returns what the pass
  last wrote. Each call can still fail: `KubeFaults` gives the failure, if any,
  of each call site of a pass. Every site runs at most once in a pass, so this
  covers every pattern of failures.
-/
import SolrOperator.Api.V1

namespace SolrOperator

/-- `corev1.ConfigMap`: its name, labels and string data. -/
structure ConfigMap where
  name : String
  labels : GoMap String
  data : GoMap String

/-- `corev1.Secret`, its data decoded to strings. -/
structure Secret where
  data : GoMap String

/-- `data[key]` of a string map, with Go's zero value for a missing key. -/
def GoMap.getString (m : GoMap String) (key : String) : String := (m.lookup key).getD ""

/-- A character Kubernetes admits inside a label value. -/
def labelValueChar (c : Char) : Bool := c.isAlphanum || c == '-' || c == '_' || c == '.'

/-- `IsValidLabelValue`: empty, or at most 63 characters, alphanumeric at both
    ends, with dashes, underscores, dots and alphanumerics between. -/
def validLabelValue (v : String) : Bool :=
  v.length ≤ 63 && v.data.all labelValueChar && v.data.head?.all Char.isAlphanum &&
    v.data.getLast?.all Char.isAlphanum

theorem quote_not_mem_of_validLabelValue {v : String} (h : validLabelValue v = true) :
    '"' ∉ v.data := fun hq => by
  simp only [validLabelValue, Bool.and_eq_true, List.all_eq_true] at h
  exact absurd (h.1.1.2 '"' hq) (by decide)

/-- An event the recorder was given: `Eventf(object, Normal, reason, message)`. -/
structure Event where
  object : String
  reason : String
  message : String
  deriving DecidableEq, Repr

/-- `ctrl.Result`; the operator never sets `Requeue`, only `RequeueAfter`, here in
    milliseconds (`0` is no requeue). -/
structure Result where
  requeueAfter : Nat
  deriving DecidableEq, Repr

/-- `requeue()`. -/
def requeue : Result := ⟨0⟩
/-- `requeueImmediately()`: one millisecond. -/
def requeueImmediately : Result := ⟨1⟩
/-- `requeueWithBackoff()`, and the backpressure requeue of `Reconcile`. -/
def requeueWithBackoff : Result := ⟨20 * 1000⟩

/-- The failure, if any, of each Kubernetes call site of one pass. -/
structure KubeFaults where
  /-- `r.Get` of the set failing other than with NotFound. -/
  get : Option String
  /-- `r.Status().Update` seeding the conditions. -/
  statusUpdate : Option String
  /-- `r.Get` after seeding the conditions. -/
  refetch : Option String
  /-- `r.Update` persisting the defaults. -/
  update : Option String
  /-- `r.Status().Patch` in `UpdateStatus`. -/
  statusPatch : Option String
  /-- `r.Get` at the end of `UpdateStatus`. -/
  statusRefetch : Option String
  /-- `r.Status().Patch` in `RequeueOnError`. -/
  errorPatch : Option String
  /-- `r.Get` in `RequeueOnError`. -/
  errorRefetch : Option String

/-- No call fails. -/
def KubeFaults.none : KubeFaults := ⟨.none, .none, .none, .none, .none, .none, .none, .none⟩

/-- A write the pass made to the API server. -/
inductive KubeWrite where
  | statusUpdate (obj : SolrCollectionSet)
  | update (obj : SolrCollectionSet)
  | statusPatch (obj : SolrCollectionSet)
  deriving DecidableEq, Repr

/-- Whether a write replaces the spec. -/
def KubeWrite.isUpdate : KubeWrite → Bool
  | .update _ => true
  | _ => false

/-- The API server as one pass sees it: the stored set (`none` once deleted), and
    the events and writes the pass has sent it. -/
structure ApiServer where
  stored : Option SolrCollectionSet
  events : List Event
  writes : List KubeWrite

/-- The status a `Status().Patch` with `client.MergeFrom(old)` leaves on the server:
    the merge patch holds every top-level field in which `new` differs from `old`
    (a list whole), and the server takes those fields from `new`. -/
def mergeStatus (stored old new : SolrCollectionSetStatus) : SolrCollectionSetStatus where
  conditions := if old.conditions = new.conditions then stored.conditions else new.conditions
  replicationFactor :=
    if old.replicationFactor = new.replicationFactor then stored.replicationFactor
    else new.replicationFactor
  readyRatio := if old.readyRatio = new.readyRatio then stored.readyRatio else new.readyRatio
  scaleStatus := if old.scaleStatus = new.scaleStatus then stored.scaleStatus else new.scaleStatus
  solrCollections :=
    if old.solrCollections = new.solrCollections then stored.solrCollections
    else new.solrCollections

/-- A patch from an object the server still holds leaves the new status. -/
theorem mergeStatus_self (old new : SolrCollectionSetStatus) : mergeStatus old old new = new := by
  have keep {α : Type} [DecidableEq α] (a b : α) : (if a = b then a else b) = b :=
    ite_eq_right_iff.mpr id
  simp only [mergeStatus, keep]

/-! ### The API server's check of the status' keys

The CRD declares `status.conditions` a list map keyed by `type` and
`status.collections` one keyed by `instanceName`. The API server refuses a
status write that leaves two entries of one of these lists with one key; its
error names the field and the position of the first repeated key. -/

/-- The position of the first of `keys` that an earlier key repeats, the keys
    before it being `seen`. -/
def firstRepeat : List String → List String → Option Nat
  | _, [] => none
  | seen, k :: ks => if k ∈ seen then some seen.length else firstRepeat (k :: seen) ks

theorem firstRepeat_eq_none : ∀ {seen keys : List String},
    firstRepeat seen keys = none ↔ keys.Nodup ∧ ∀ k ∈ keys, k ∉ seen
  | _, [] => by simp [firstRepeat]
  | seen, k :: keys => by
    rw [firstRepeat]
    split
    next hk => simp [hk]
    next hk =>
      rw [firstRepeat_eq_none]
      simp only [List.mem_cons, not_or, List.nodup_cons]
      constructor
      · rintro ⟨hnd, h⟩
        exact ⟨⟨fun hm => (h k hm).1 rfl, hnd⟩, fun x hx => hx.elim (· ▸ hk) fun hx => (h x hx).2⟩
      · rintro ⟨⟨hm, hnd⟩, h⟩
        exact ⟨hnd, fun x hx => ⟨fun he => hm (he ▸ hx), h x (.inr hx)⟩⟩

/-- The API server's error for a status with a repeated key, if any. -/
def SolrCollectionSetStatus.keyError (st : SolrCollectionSetStatus) : Option String :=
  match firstRepeat [] (st.conditions.map Condition.type) with
  | some i => some ("status.conditions[" ++ toString i ++ "]: Duplicate value")
  | none => (firstRepeat [] (st.solrCollections.map SolrCollectionStatus.instanceName)).map
      fun i => "status.collections[" ++ toString i ++ "]: Duplicate value"

/-- The server admits a status exactly when its conditions have distinct types and
    its collections distinct instance names. -/
theorem SolrCollectionSetStatus.keyError_eq_none {st : SolrCollectionSetStatus} :
    st.keyError = none ↔ (st.conditions.map Condition.type).Nodup ∧
      (st.solrCollections.map SolrCollectionStatus.instanceName).Nodup := by
  have h := @firstRepeat_eq_none []
  simp only [List.not_mem_nil, not_false_eq_true, implies_true, and_true] at h
  rw [keyError]
  split <;> rename_i hc
  · refine iff_of_false (by simp) fun hn => ?_
    rw [h.2 hn.1] at hc
    cases hc
  · rw [Option.map_eq_none', h]
    exact (and_iff_right (h.1 hc)).symm

/-- A merge of two admitted statuses is admitted: each list comes whole from one. -/
theorem keyError_mergeStatus {stored old new : SolrCollectionSetStatus}
    (hs : stored.keyError = none) (hn : new.keyError = none) :
    (mergeStatus stored old new).keyError = none := by
  rw [SolrCollectionSetStatus.keyError_eq_none] at *
  simp only [mergeStatus]
  exact ⟨by split_ifs <;> simp only [hs.1, hn.1], by split_ifs <;> simp only [hs.2, hn.2]⟩

namespace ApiServer

/-- `r.Status().Patch(ctx, obj, client.MergeFrom(old))`, failing with `fault`: the
    server merges the patch into the stored status and refuses the result if the
    key check does. -/
def statusPatch (fault : Option String) (old obj : SolrCollectionSet) (api : ApiServer) :
    Option String × ApiServer :=
  let api := { api with writes := api.writes ++ [KubeWrite.statusPatch obj] }
  match fault with
  | some err => (some err, api)
  | none =>
    match api.stored with
    | none => (none, api)
    | some s =>
      let status := mergeStatus s.status old.status obj.status
      match status.keyError with
      | some err => (some err, api)
      | none => (none, { api with stored := some { s with status := status } })

/-- `r.Status().Update(ctx, obj)`, failing with `fault`: the status is replaced,
    unless the key check refuses it. -/
def statusUpdate (fault : Option String) (obj : SolrCollectionSet) (api : ApiServer) :
    Option String × ApiServer :=
  let api := { api with writes := api.writes ++ [KubeWrite.statusUpdate obj] }
  match fault with
  | some err => (some err, api)
  | none =>
    match api.stored with
    | none => (none, api)
    | some s =>
      match obj.status.keyError with
      | some err => (some err, api)
      | none => (none, { api with stored := some { s with status := obj.status } })

/-- `r.Update(ctx, obj)`, failing with `fault`: the spec is replaced, the status
    subresource is not touched. -/
def update (fault : Option String) (obj : SolrCollectionSet) (api : ApiServer) :
    Option String × ApiServer :=
  let api := { api with writes := api.writes ++ [.update obj] }
  match fault with
  | some err => (some err, api)
  | none => (none, { api with stored := api.stored.map fun s => { s with spec := obj.spec } })

/-- `r.Get(ctx, name, obj)`, failing with `fault`: the stored object. -/
def get (fault : Option String) (api : ApiServer) : Except String SolrCollectionSet :=
  match fault, api.stored with
  | some err, _ => .error err
  | none, some obj => .ok obj
  | none, none => .error "not found"

/-- A read returns the set the server holds. -/
theorem stored_of_get {api : ApiServer} {fault : Option String} {obj : SolrCollectionSet}
    (h : api.get fault = .ok obj) : api.stored = some obj := by
  cases fault <;> cases hs : api.stored <;> simp only [get, hs] at h <;> cases h
  rfl

/-- `r.Recorder.Eventf(obj, Normal, reason, message)`. -/
def event (obj : SolrCollectionSet) (reason message : String) (api : ApiServer) : ApiServer :=
  { api with events := api.events ++ [⟨obj.name, reason, message⟩] }

/-! ### What the status writes leave

A pass writes the spec only through `update`; every other write and every event
leaves the stored set's name and spec as they were. -/

/-! ### What the status writes do

Each records itself, and either leaves the stored set as it was (it failed, was
refused, or found no set) or stores a status the key check admits, on the set as
it was otherwise. -/

section
variable (fault : Option String) (old obj : SolrCollectionSet) (api : ApiServer)

theorem writes_statusPatch : (api.statusPatch fault old obj).2.writes = api.writes ++ [KubeWrite.statusPatch obj] := by
  unfold statusPatch
  dsimp only
  split <;> (try split) <;> (try split) <;> rfl

theorem stored_statusPatch :
    (api.statusPatch fault old obj).2.stored = api.stored ∨
      ∃ s, api.stored = some s ∧ (mergeStatus s.status old.status obj.status).keyError = none ∧
        (api.statusPatch fault old obj).2.stored =
          some { s with status := mergeStatus s.status old.status obj.status } := by
  unfold statusPatch
  dsimp only
  split
  · exact .inl rfl
  split
  · exact .inl rfl
  next s hs =>
    split
    · exact .inl rfl
    next hk => exact .inr ⟨s, hs, hk, rfl⟩

theorem writes_statusUpdate : (api.statusUpdate fault obj).2.writes = api.writes ++ [KubeWrite.statusUpdate obj] := by
  unfold statusUpdate
  dsimp only
  split <;> (try split) <;> (try split) <;> rfl

theorem stored_statusUpdate :
    (api.statusUpdate fault obj).2.stored = api.stored ∨
      ∃ s, api.stored = some s ∧ obj.status.keyError = none ∧
        (api.statusUpdate fault obj).2.stored = some { s with status := obj.status } := by
  unfold statusUpdate
  dsimp only
  split
  · exact .inl rfl
  split
  · exact .inl rfl
  next s hs =>
    split
    · exact .inl rfl
    next hk => exact .inr ⟨s, hs, hk, rfl⟩

end

/-- A patch with no fault over a stored set, whose merge the check admits, succeeds. -/
theorem statusPatch_of_keyError {api : ApiServer} {s : SolrCollectionSet} (old obj : SolrCollectionSet)
    (hs : api.stored = some s) (hk : (mergeStatus s.status old.status obj.status).keyError = none) :
    (api.statusPatch none old obj).1 = none := by
  unfold statusPatch
  simp only [hs, hk]

/-- A patch over a stored set whose merge the check refuses fails, whatever its
    fault, and leaves the stored set as it was. -/
theorem statusPatch_refused {api : ApiServer} {s : SolrCollectionSet} (fault : Option String)
    (old obj : SolrCollectionSet) (hs : api.stored = some s)
    (hk : (mergeStatus s.status old.status obj.status).keyError ≠ none) :
    (api.statusPatch fault old obj).1 ≠ none ∧ (api.statusPatch fault old obj).2.stored = api.stored := by
  obtain ⟨err, he⟩ := Option.ne_none_iff_exists'.1 hk
  unfold statusPatch
  cases fault <;> simp [hs, he]

/-- The server holds a set with this name and spec, whatever its status. -/
def Holds (api : ApiServer) (name : String) (spec : SolrCollectionSetSpec) : Prop :=
  ∃ obj, api.stored = some obj ∧ obj.name = name ∧ obj.spec = spec

variable {api : ApiServer} {name : String} {spec : SolrCollectionSetSpec}

theorem Holds.of_stored {api' : ApiServer} (h : api.Holds name spec)
    (h' : api'.stored = api.stored ∨ ∃ s st, api.stored = some s ∧ api'.stored = some { s with status := st }) :
    api'.Holds name spec := by
  obtain ⟨o, ho, rfl, rfl⟩ := h
  rcases h' with h' | ⟨s, st, hs, h'⟩
  · exact ⟨o, h'.trans ho, rfl, rfl⟩
  · cases ho.symm.trans hs
    exact ⟨_, h', rfl, rfl⟩

theorem Holds.statusPatch (h : api.Holds name spec) (fault : Option String)
    (old obj : SolrCollectionSet) : (api.statusPatch fault old obj).2.Holds name spec :=
  h.of_stored ((stored_statusPatch fault old obj api).imp_right fun ⟨s, hs, _, h'⟩ => ⟨s, _, hs, h'⟩)

theorem Holds.statusUpdate (h : api.Holds name spec) (fault : Option String)
    (obj : SolrCollectionSet) : (api.statusUpdate fault obj).2.Holds name spec :=
  h.of_stored ((stored_statusUpdate fault obj api).imp_right fun ⟨s, hs, _, h'⟩ => ⟨s, _, hs, h'⟩)

theorem Holds.event (h : api.Holds name spec) (obj : SolrCollectionSet) (reason message : String) :
    (api.event obj reason message).Holds name spec := h

/-- A read returns the set the server holds. -/
theorem Holds.get (h : api.Holds name spec) {fault : Option String} {obj : SolrCollectionSet}
    (hget : api.get fault = .ok obj) : obj.name = name ∧ obj.spec = spec := by
  obtain ⟨o, ho, rfl, rfl⟩ := h
  cases ho.symm.trans (stored_of_get hget)
  exact ⟨rfl, rfl⟩

/-! ### The server holds only what it admits -/

/-- The stored set's status passes the key check. -/
def Valid (api : ApiServer) : Prop := ∀ s, api.stored = some s → s.status.keyError = none

namespace Valid

variable (h : api.Valid)
include h

theorem statusPatch (fault : Option String) (old obj : SolrCollectionSet) :
    (api.statusPatch fault old obj).2.Valid := fun s' hs' => by
  rcases stored_statusPatch fault old obj api with hs | ⟨s, -, hk, hs⟩ <;> rw [hs] at hs'
  · exact h s' hs'
  · cases hs'
    exact hk

theorem statusUpdate (fault : Option String) (obj : SolrCollectionSet) :
    (api.statusUpdate fault obj).2.Valid := fun s' hs' => by
  rcases stored_statusUpdate fault obj api with hs | ⟨s, -, hk, hs⟩ <;> rw [hs] at hs'
  · exact h s' hs'
  · cases hs'
    exact hk

theorem update (fault : Option String) (obj : SolrCollectionSet) : (api.update fault obj).2.Valid := by
  intro s' hs'
  cases fault with
  | some _ => exact h s' hs'
  | none =>
    obtain ⟨s, hs, rfl⟩ := Option.map_eq_some'.1 hs'
    exact h s hs

theorem event (obj : SolrCollectionSet) (reason message : String) :
    (api.event obj reason message).Valid := h

end Valid

/-! ### Status writes

Every write of a pass but the one persisting the defaults touches the status
only. -/

/-- `api'` is `api` after events and status writes, and no spec `Update`. -/
def StatusWrites (api api' : ApiServer) : Prop :=
  ∃ ws, api'.writes = api.writes ++ ws ∧ ∀ w ∈ ws, w.isUpdate = false

namespace StatusWrites

theorem refl (api : ApiServer) : StatusWrites api api := ⟨[], by simp, by simp⟩

theorem trans {api' api'' : ApiServer} (h : StatusWrites api api') (h' : StatusWrites api' api'') :
    StatusWrites api api'' := by
  obtain ⟨ws, hw, hu⟩ := h
  obtain ⟨ws', hw', hu'⟩ := h'
  exact ⟨ws ++ ws', by rw [hw', hw, List.append_assoc], fun w hm =>
    (List.mem_append.mp hm).elim (hu w) (hu' w)⟩

/-- The server a status-only step leaves, as a match on the step's result names it. -/
theorem of_snd_eq {α : Type} {f : ApiServer → α × ApiServer} (h : ∀ api, StatusWrites api (f api).2)
    {a : α} {api' : ApiServer} (heq : f api = (a, api')) : StatusWrites api api' := by
  simpa only [heq] using h api

theorem statusPatch (fault : Option String) (old obj : SolrCollectionSet) (api : ApiServer) :
    StatusWrites api (api.statusPatch fault old obj).2 :=
  ⟨[.statusPatch obj], writes_statusPatch fault old obj api, by simp [KubeWrite.isUpdate]⟩

theorem statusUpdate (fault : Option String) (obj : SolrCollectionSet) (api : ApiServer) :
    StatusWrites api (api.statusUpdate fault obj).2 :=
  ⟨[.statusUpdate obj], writes_statusUpdate fault obj api, by simp [KubeWrite.isUpdate]⟩

theorem event (obj : SolrCollectionSet) (reason message : String) (api : ApiServer) :
    StatusWrites api (api.event obj reason message) := ⟨[], by simp [ApiServer.event], by simp⟩

theorem filter_isUpdate_eq_nil {ws : List KubeWrite} (h : ∀ w ∈ ws, w.isUpdate = false) :
    ws.filter KubeWrite.isUpdate = [] :=
  List.filter_eq_nil_iff.2 fun w hw => by simp [h w hw]

theorem of_filter_isUpdate_eq_nil {api' : ApiServer} {ws : List KubeWrite}
    (hw : api'.writes = api.writes ++ ws) (h : ws.filter KubeWrite.isUpdate = []) :
    StatusWrites api api' :=
  ⟨ws, hw, fun w hm => by simpa using List.filter_eq_nil_iff.1 h w hm⟩

end StatusWrites

end ApiServer

end SolrOperator
