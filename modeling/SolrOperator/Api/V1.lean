/-
  SolrOperator.Api.V1

  The `SolrCollectionSet` custom resource (`api/v1/solrcollectionset_types.go`):
  the spec a user writes, the status the operator reports, and the defaulting
  (`WithDefaults`) that `Reconcile` applies before anything else.

  The optional spec fields are Go pointers (`*bool`, `*int32`); `none` is `nil`.
  `WithDefaults` sets every one of them, and the pass reads them only after it
  has (`Reconcile` returns when defaulting changed anything), so `deref` is
  only ever applied to a set pointer there.
-/
import SolrOperator.Go.Basic

namespace SolrOperator

/-- `SolrCollection`: one collection of the set. `ConfigsetName` and `Alias` are
    optional in the CRD; the empty string is "not given". -/
structure SolrCollection where
  name : String
  «alias» : String
  configsetName : String
  deriving DecidableEq, Repr

/-- `SolrCollectionSetSpec`. `SolrClusterName` is informational and read by no
    modelled code, so it is left out. -/
structure SolrCollectionSetSpec where
  solrClusterUrl : String
  secretRef : String
  active : Option Bool
  replicationFactor : Option Int32
  blueGreenEnabled : Option Bool
  cleanupEnabled : Option Bool
  collections : List SolrCollection
  deriving DecidableEq, Repr

/-- `metav1.ConditionStatus`. -/
inductive ConditionStatus where
  | conditionTrue
  | conditionFalse
  | conditionUnknown
  deriving DecidableEq, Repr

/-- `metav1.Condition`. The operator never sets `ObservedGeneration`, so it is
    left out; `lastTransitionTime` is a clock reading, `0` meaning unset. -/
structure Condition where
  type : String
  status : ConditionStatus
  lastTransitionTime : Nat
  reason : String
  message : String
  deriving DecidableEq, Repr

/-- `SolrCollectionStatus`: the reported state of one collection instance. -/
structure SolrCollectionStatus where
  name : String
  instanceName : String
  configSet : String
  «exists» : Bool
  active : Bool
  blueGreen : Bool
  replicationFactor : Int32
  replicaCount : Int32
  replicationStatus : String
  deriving DecidableEq, Repr

/-- `SolrCollectionSetStatus`. Equality here is `reflect.DeepEqual`: lists are
    compared in order. -/
structure SolrCollectionSetStatus where
  conditions : List Condition
  replicationFactor : Int32
  readyRatio : String
  scaleStatus : String
  solrCollections : List SolrCollectionStatus
  deriving DecidableEq, Repr

/-- The zero value `SolrCollectionSetStatus{}`. -/
def SolrCollectionSetStatus.empty : SolrCollectionSetStatus := ⟨[], 0, "", "", []⟩

/-- `SolrCollectionSet`: of the object metadata only the name and namespace are read. -/
structure SolrCollectionSet where
  name : String
  «namespace» : String
  spec : SolrCollectionSetSpec
  status : SolrCollectionSetStatus
  deriving DecidableEq, Repr

/-! ## Defaults -/

/-- `DefaultSolrCollectionSetActive`. -/
def defaultSolrCollectionSetActive : Bool := true
/-- `DefaultSolrCollectionSetCleanupEnabled`. -/
def defaultSolrCollectionSetCleanupEnabled : Bool := false
/-- `DefaultSolrCollectionSetBlueGreenEnabled`. -/
def defaultSolrCollectionSetBlueGreenEnabled : Bool := true
/-- `DefaultSolrCollectionReplicationFactor`. -/
def defaultSolrCollectionReplicationFactor : Int32 := 1

/-- One pointer field of `withDefaults`: set it to the default if nil, and say so. -/
def defaultPtr {α : Type} (p : Option α) (d : α) : Option α × Bool :=
  match p with
  | some a => (some a, false)
  | none => (some d, true)

/-- `(*SolrCollectionSetSpec).withDefaults`. -/
def SolrCollectionSetSpec.withDefaults (spec : SolrCollectionSetSpec) :
    SolrCollectionSetSpec × Bool :=
  let (active, c1) := defaultPtr spec.active defaultSolrCollectionSetActive
  let (blueGreen, c2) := defaultPtr spec.blueGreenEnabled defaultSolrCollectionSetBlueGreenEnabled
  let (cleanup, c3) := defaultPtr spec.cleanupEnabled defaultSolrCollectionSetCleanupEnabled
  let (rf, c4) := defaultPtr spec.replicationFactor defaultSolrCollectionReplicationFactor
  ({ spec with
      active := active
      blueGreenEnabled := blueGreen
      cleanupEnabled := cleanup
      replicationFactor := rf }, c1 || c2 || c3 || c4)

/-- The body of `SetCollectionDefaults`' loop for one collection: `ConfigsetName`
    then `Alias` default to `Name`. -/
def SolrCollection.withDefaults (c : SolrCollection) : SolrCollection × Bool :=
  let (c, c1) := if c.configsetName = "" then ({ c with configsetName := c.name }, true)
    else (c, false)
  let (c, c2) := if c.alias = "" then ({ c with «alias» := c.name }, true) else (c, false)
  (c, c1 || c2)

/-- `SolrCollectionSet.SetCollectionDefaults`. Its receiver is a value, but the
    copied slice header shares the caller's backing array, so its writes reach
    the caller's collections: the model returns the updated set. -/
def SolrCollectionSet.setCollectionDefaults (sc : SolrCollectionSet) : SolrCollectionSet × Bool :=
  let results := sc.spec.collections.map SolrCollection.withDefaults
  ({ sc with spec := { sc.spec with collections := results.map Prod.fst } },
    results.any Prod.snd)

/-- `(*SolrCollectionSet).WithDefaults`. -/
def SolrCollectionSet.withDefaults (sc : SolrCollectionSet) : SolrCollectionSet × Bool :=
  let (spec, changedDefaults) := sc.spec.withDefaults
  let (sc, changedCollections) := ({ sc with spec := spec } : SolrCollectionSet).setCollectionDefaults
  (sc, changedDefaults || changedCollections)

/-- A spec as `WithDefaults` leaves it: every pointer set, every collection with
    an alias and a config set name. -/
structure SolrCollectionSetSpec.Defaulted (spec : SolrCollectionSetSpec) : Prop where
  active : spec.active.isSome
  replicationFactor : spec.replicationFactor.isSome
  blueGreenEnabled : spec.blueGreenEnabled.isSome
  cleanupEnabled : spec.cleanupEnabled.isSome
  collections : ∀ c ∈ spec.collections, c.alias ≠ "" ∧ c.configsetName ≠ ""

/-- `*p` for a spec pointer the pass reads; `WithDefaults` has set it by then. -/
def deref {α : Type} [Inhabited α] (p : Option α) : α := p.getD default

/-- `*spec.ReplicationFactor`. -/
def SolrCollectionSetSpec.rf (spec : SolrCollectionSetSpec) : Int32 := deref spec.replicationFactor
/-- `*spec.BlueGreenEnabled`. -/
def SolrCollectionSetSpec.blueGreen (spec : SolrCollectionSetSpec) : Bool :=
  deref spec.blueGreenEnabled
/-- `*spec.CleanupEnabled`. -/
def SolrCollectionSetSpec.cleanup (spec : SolrCollectionSetSpec) : Bool := deref spec.cleanupEnabled
/-- `*spec.Active`. -/
def SolrCollectionSetSpec.isActive (spec : SolrCollectionSetSpec) : Bool := deref spec.active

/-! ## What `WithDefaults` leaves -/

theorem defaultPtr_of_unchanged {α : Type} {p : Option α} {d : α} (h : (defaultPtr p d).2 = false) :
    (defaultPtr p d).1 = p ∧ p.isSome := by
  cases p <;> simp_all [defaultPtr]

theorem SolrCollection.withDefaults_of_unchanged {c : SolrCollection} (h : c.withDefaults.2 = false) :
    c.withDefaults.1 = c ∧ c.alias ≠ "" ∧ c.configsetName ≠ "" := by
  simp only [SolrCollection.withDefaults] at *
  split_ifs at * <;> simp_all

/-- A set `WithDefaults` reports unchanged is returned as it was, and is defaulted. -/
theorem SolrCollectionSet.withDefaults_of_unchanged {sc : SolrCollectionSet}
    (h : sc.withDefaults.2 = false) : sc.withDefaults.1 = sc ∧ sc.spec.Defaulted := by
  simp only [SolrCollectionSet.withDefaults, SolrCollectionSet.setCollectionDefaults,
    SolrCollectionSetSpec.withDefaults, Bool.or_eq_false_iff, List.any_eq_false] at *
  obtain ⟨⟨⟨⟨h1, h2⟩, h3⟩, h4⟩, h5⟩ := h
  obtain ⟨e1, s1⟩ := defaultPtr_of_unchanged h1
  obtain ⟨e2, s2⟩ := defaultPtr_of_unchanged h2
  obtain ⟨e3, s3⟩ := defaultPtr_of_unchanged h3
  obtain ⟨e4, s4⟩ := defaultPtr_of_unchanged h4
  have hc : ∀ c ∈ sc.spec.collections, c.withDefaults.1 = c ∧ c.alias ≠ "" ∧ c.configsetName ≠ "" :=
    fun c hc => SolrCollection.withDefaults_of_unchanged
      (by simpa using h5 _ (List.mem_map_of_mem _ hc))
  have hcs : (sc.spec.collections.map SolrCollection.withDefaults).map Prod.fst =
      sc.spec.collections := by
    rw [List.map_map]
    exact (List.map_congr_left fun c h => (hc c h).1).trans (List.map_id _)
  rw [e1, e2, e3, e4, hcs]
  exact ⟨rfl, ⟨s1, s4, s2, s3, fun c h => (hc c h).2⟩⟩

theorem defaultPtr_of_isSome {α : Type} {p : Option α} (d : α) (h : p.isSome) :
    defaultPtr p d = (p, false) := by
  obtain ⟨a, rfl⟩ := Option.isSome_iff_exists.mp h
  rfl

/-- `WithDefaults` reports a defaulted set unchanged. -/
theorem SolrCollectionSet.withDefaults_of_defaulted {sc : SolrCollectionSet} (h : sc.spec.Defaulted) :
    sc.withDefaults = (sc, false) := by
  have hcol : sc.spec.collections.map SolrCollection.withDefaults = sc.spec.collections.map (·, false) :=
    List.map_congr_left fun c hm => by
      simp [SolrCollection.withDefaults, (h.collections c hm).1, (h.collections c hm).2]
  simp only [SolrCollectionSet.withDefaults, SolrCollectionSet.setCollectionDefaults,
    SolrCollectionSetSpec.withDefaults, defaultPtr_of_isSome _ h.active,
    defaultPtr_of_isSome _ h.blueGreenEnabled, defaultPtr_of_isSome _ h.cleanupEnabled,
    defaultPtr_of_isSome _ h.replicationFactor, hcol, List.map_map, Bool.or_false, Bool.false_or]
  rw [show (Prod.fst ∘ fun c : SolrCollection => (c, false)) = id from rfl, List.map_id]
  simp

/-- `WithDefaults` reads the spec only. -/
theorem SolrCollectionSet.withDefaults_congr {sc sc' : SolrCollectionSet} (h : sc.spec = sc'.spec) :
    sc.withDefaults.1.spec = sc'.withDefaults.1.spec ∧ sc.withDefaults.2 = sc'.withDefaults.2 := by
  simp [SolrCollectionSet.withDefaults, SolrCollectionSet.setCollectionDefaults, h]

theorem defaultPtr_idem {α : Type} (p : Option α) (d : α) :
    defaultPtr (defaultPtr p d).1 d = ((defaultPtr p d).1, false) := by
  cases p <;> rfl

theorem SolrCollection.withDefaults_idem {c : SolrCollection} (h : c.name ≠ "") :
    c.withDefaults.1.withDefaults = (c.withDefaults.1, false) := by
  unfold SolrCollection.withDefaults
  by_cases h1 : c.configsetName = "" <;> by_cases h2 : c.alias = "" <;> simp [h, h1, h2]

/-- A second `WithDefaults` over a set whose collections are all named changes
    nothing. -/
theorem SolrCollectionSet.withDefaults_idem {sc : SolrCollectionSet}
    (h : ∀ c ∈ sc.spec.collections, c.name ≠ "") :
    sc.withDefaults.1.withDefaults = (sc.withDefaults.1, false) := by
  have hc : ∀ c ∈ sc.spec.collections, c.withDefaults.1.withDefaults = (c.withDefaults.1, false) :=
    fun c hc => SolrCollection.withDefaults_idem (h c hc)
  simp only [SolrCollectionSet.withDefaults, SolrCollectionSet.setCollectionDefaults,
    SolrCollectionSetSpec.withDefaults, defaultPtr_idem, List.map_map]
  have hcol : sc.spec.collections.map (Prod.fst ∘ SolrCollection.withDefaults ∘ Prod.fst ∘
      SolrCollection.withDefaults) = sc.spec.collections.map (Prod.fst ∘ SolrCollection.withDefaults) :=
    List.map_congr_left fun c hm => by simp [hc c hm]
  have hany : (sc.spec.collections.map (SolrCollection.withDefaults ∘ Prod.fst ∘
      SolrCollection.withDefaults)).any Prod.snd = false := by
    simp only [List.any_eq_false, List.mem_map, Function.comp]
    rintro _ ⟨c, hm, rfl⟩
    simp [hc c hm]
  rw [hcol, hany]
  rfl

end SolrOperator
