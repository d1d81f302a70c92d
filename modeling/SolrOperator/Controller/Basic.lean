/-
  SolrOperator.Controller.Basic

  Constants and helpers of `internal/controller` that several controller
  functions share: the condition and event vocabulary, the checksum collection's
  name, `mapCollections` (the expansion of the spec into instance names),
  `abs`, `contains` and the two collection counts the status compares.

  `Site` names every `range` over a map in the controller, so that `MapOrder`
  may visit each of them in its own order.
-/
import SolrOperator.Api.V1
import SolrOperator.SolrApi.Types

namespace SolrOperator

/-- The `range` statements over maps in the controller, by the map they range over. -/
inductive Site where
  | updateStatusEvents
  | statusAliases
  | statusCollections
  | statusCollectionMap
  | statusExistingConditions
  | statusNewConditions
  | adjustSpecs
  | adjustCalls
  | configMaps
  | uploads
  | removes
  | collectionsAliases
  | creates
  | cleanup
  | replicationFactors
  | createCalls
  | deleteAliasCalls
  | deleteCollectionCalls
  | replicationFactorCalls
  deriving DecidableEq, Repr

/-! ## Constants -/

/-- `typeSolrCollectionSetStable`. -/
def typeSolrCollectionSetStable : String := "Stable"
/-- `reasonSolrCollectionSetStable`. -/
def reasonSolrCollectionSetStable : String := "stable"
/-- `reasonSolrCollectionSetInitializing`. -/
def reasonSolrCollectionSetInitializing : String := "initializing"
/-- `reasonSolrCollectionSetScalingIn`. -/
def reasonSolrCollectionSetScalingIn : String := "scalingIn"
/-- `reasonSolrCollectionSetScalingOut`. -/
def reasonSolrCollectionSetScalingOut : String := "scalingOut"
/-- `reasonSolrCollectionAddingCollections`. -/
def reasonSolrCollectionAddingCollections : String := "addingCollections"
/-- `reasonSolrCollectionRemovingCollections`. -/
def reasonSolrCollectionRemovingCollections : String := "removingCollections"
/-- `reasonSolrCollectionReplicationFactorMismatch`. -/
def reasonSolrCollectionReplicationFactorMismatch : String := "replicationFactorMismatch"
/-- `reasonSolrCollectionSetReconcileError`. -/
def reasonSolrCollectionSetReconcileError : String := "errorEncountered"

/-- `eventSolrCollectionSetInitializing`. -/
def eventSolrCollectionSetInitializing : String := "Initializing"
/-- `eventSolrCollectionSetScaleOut`. -/
def eventSolrCollectionSetScaleOut : String := "ScaleOut"
/-- `eventSolrCollectionSetScaleIn`. -/
def eventSolrCollectionSetScaleIn : String := "ScaleIn"
/-- `eventSolrCollectionSetAddingCollection`. -/
def eventSolrCollectionSetAddingCollection : String := "AddingCollection"
/-- `eventSolrCollectionSetRemovingCollection`. -/
def eventSolrCollectionSetRemovingCollection : String := "RemovingCollection"

/-- `fmt.Sprintf(configChecksumsCollectionNameTemplate, name)`. -/
def checksumsCollectionName (setName : String) : String := "_" ++ setName ++ "Checksums"
/-- `configChecksumsConfigSetName`. -/
def configChecksumsConfigSetName : String := "_checksums"

/-- `backoffRequeueSeconds`. -/
def backoffRequeueSeconds : Nat := 20

/-- `%d` of an `int32`. -/
def fmtInt32 (x : Int32) : String := toString x.toInt

/-! ## Small helpers -/

/-- `abs`: the absolute value in `int32` arithmetic, so `abs(-2^31) = -2^31`. -/
def abs (x : Int32) : Int32 := if x.slt 0 then -x else x

/-- `abs` is the integer absolute value on every `int32` but `-2^31`. -/
theorem abs_toInt_of_neg {x : Int32} (hx : x.toInt < 0) (hmin : -2 ^ 31 < x.toInt) :
    (abs x).toInt = -x.toInt := by
  have h := x.toInt_bounds
  rw [abs, if_pos (by simpa [BitVec.slt] using hx), BitVec.toInt_neg, Int.bmod]
  simp only at *
  split <;> omega

/-- On a nonzero `int32` that is not positive, `abs` negates. -/
theorem abs_of_not_pos {x : Int32} (hpos : ¬BitVec.slt 0 x = true) (hx : x ≠ 0) : abs x = -x := by
  have h0 : (0 : Int32).toInt = 0 := rfl
  have hne : x.toInt ≠ 0 := fun h => hx (BitVec.eq_of_toInt_eq (h.trans h0.symm))
  simp only [BitVec.slt, decide_eq_true_eq, h0, not_lt] at hpos
  exact if_pos (by simpa [BitVec.slt] using lt_of_le_of_ne hpos hne)

/-- `contains`. -/
def contains : List String → String → Bool
  | [], _ => false
  | v :: list, target => v == target || contains list target

theorem contains_iff {list : List String} {target : String} :
    contains list target = true ↔ target ∈ list := by
  induction list with
  | nil => simp [contains]
  | cons v list ih =>
    simp only [contains, Bool.or_eq_true, beq_iff_eq, ih, List.mem_cons]
    exact or_congr eq_comm Iff.rfl

/-- `countSolrCollections`: the collections whose `Name` does not begin with `_`.
    The count does not depend on the order the loop visits the map in. -/
def countSolrCollections (collections : GoMap Collection) : Nat :=
  (collections.entries.filter fun e => !hasPrefix e.2.name "_").length

/-- `countSpecifiedCollections`. -/
def countSpecifiedCollections (collections : List SolrCollection) (isBlueGreenEnabled : Bool) :
    Nat :=
  collections.length * if isBlueGreenEnabled then 2 else 1

/-! ## `mapCollections` -/

/-- The instance names `mapCollections` files a spec entry under. -/
def instanceNames (isBlueGreenEnabled : Bool) (spec : SolrCollection) : List String :=
  if isBlueGreenEnabled then [spec.name ++ "_blue", spec.name ++ "_green"] else [spec.name]

/-- The body of `mapCollections`' loop: file one entry under its instance names. -/
def fileInstances (storage : GoMap SolrCollection) (spec : SolrCollection)
    (isBlueGreenEnabled : Bool) : GoMap SolrCollection :=
  if isBlueGreenEnabled then
    (storage.insert (spec.name ++ "_blue") spec).insert (spec.name ++ "_green") spec
  else storage.insert spec.name spec

/-- `mapCollections`: files every spec entry in `storage` under its instance names. -/
def mapCollections : List SolrCollection → GoMap SolrCollection → Bool → GoMap SolrCollection
  | [], storage, _ => storage
  | spec :: specs, storage, isBlueGreenEnabled =>
    mapCollections specs (fileInstances storage spec isBlueGreenEnabled) isBlueGreenEnabled

/-- The desired instances of a spec: what `ManageCollections` and `AdjustReplicas`
    build with `mapCollections` from an empty map. -/
def SolrCollectionSetSpec.instances (spec : SolrCollectionSetSpec) : GoMap SolrCollection :=
  mapCollections spec.collections ∅ spec.blueGreen

theorem mem_fileInstances {storage : GoMap SolrCollection} {spec : SolrCollection} {bg : Bool}
    {k : String} : k ∈ fileInstances storage spec bg ↔ k ∈ instanceNames bg spec ∨ k ∈ storage := by
  cases bg <;> simp [fileInstances, instanceNames, AList.mem_insert, or_assoc, or_left_comm]

theorem lookup_fileInstances {storage : GoMap SolrCollection} {spec s : SolrCollection}
    {bg : Bool} {k : String} (h : (fileInstances storage spec bg).lookup k = some s) :
    (s = spec ∧ k ∈ instanceNames bg spec) ∨ storage.lookup k = some s := by
  cases bg with
  | false =>
    by_cases hk : k = spec.name
    · subst hk
      simp_all [fileInstances, AList.lookup_insert, instanceNames]
    · simp_all [fileInstances, AList.lookup_insert_ne, instanceNames]
  | true =>
    by_cases hg : k = spec.name ++ "_green"
    · subst hg
      simp_all [fileInstances, AList.lookup_insert, instanceNames]
    · by_cases hb : k = spec.name ++ "_blue"
      · subst hb
        simp_all [fileInstances, AList.lookup_insert, AList.lookup_insert_ne, instanceNames]
      · simp_all [fileInstances, AList.lookup_insert_ne, instanceNames]

theorem mem_mapCollections {specs : List SolrCollection} {storage : GoMap SolrCollection}
    {bg : Bool} {k : String} :
    k ∈ mapCollections specs storage bg ↔ k ∈ storage ∨ ∃ s ∈ specs, k ∈ instanceNames bg s := by
  induction specs generalizing storage with
  | nil => simp [mapCollections]
  | cons s specs ih =>
    rw [mapCollections, ih, mem_fileInstances, List.exists_mem_cons_iff, or_assoc, or_left_comm]

/-- The entry filed under an instance name is a spec entry with that instance name. -/
theorem lookup_mapCollections {specs : List SolrCollection} {storage : GoMap SolrCollection}
    {bg : Bool} {k : String} {s : SolrCollection}
    (h : (mapCollections specs storage bg).lookup k = some s) :
    (s ∈ specs ∧ k ∈ instanceNames bg s) ∨ storage.lookup k = some s := by
  induction specs generalizing storage with
  | nil => exact .inr h
  | cons s' specs ih =>
    rcases ih h with ⟨hs, hk⟩ | h
    · exact .inl ⟨List.mem_cons_of_mem _ hs, hk⟩
    · rcases lookup_fileInstances h with ⟨rfl, hk⟩ | h
      · exact .inl ⟨List.mem_cons_self _ _, hk⟩
      · exact .inr h

theorem mem_instances {spec : SolrCollectionSetSpec} {k : String} :
    k ∈ spec.instances ↔ ∃ s ∈ spec.collections, k ∈ instanceNames spec.blueGreen s := by
  simp [SolrCollectionSetSpec.instances, mem_mapCollections, AList.not_mem_empty]

theorem lookup_instances {spec : SolrCollectionSetSpec} {k : String} {s : SolrCollection}
    (h : spec.instances.lookup k = some s) :
    s ∈ spec.collections ∧ k ∈ instanceNames spec.blueGreen s :=
  (lookup_mapCollections h).resolve_right (by simp [AList.lookup_empty])

end SolrOperator
