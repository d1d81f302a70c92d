/-
  SolrOperator.Controller.Reconcile

  One `Reconcile` pass. It reads the set from the API server, seeds its
  conditions, applies the defaults (persisting them and stopping if that changed
  anything), and for an active set: bootstraps the checksum collection
  (`InitializeSolrCluster`), reports the status, manages config sets, manages
  collections, and adjusts replicas. Every error from these stages ends the pass
  through `RequeueOnError`.

  The package-level `solrClient` is process state: `PassState.solrClient` carries
  it from pass to pass, across every set the process reconciles.
  `InitializeSolrCluster` builds it only while it is the zero client.
-/
import SolrOperator.Controller.Collections
import SolrOperator.Controller.ConfigSets
import SolrOperator.Controller.Status

namespace SolrOperator

/-- What a pass reads besides the API server's object and the Solr cluster: the
    iteration orders of its maps, the clock, the failures of its Kubernetes calls,
    the secrets in the `default` namespace and the answer to its configmap list. -/
structure PassEnv where
  ord : MapOrder Site
  now : Nat
  faults : KubeFaults
  secrets : String → Option Secret
  configMaps : Except GoError (List ConfigMap)

/-- The library code and embedded asset the controller uses. -/
structure Lib where
  codec : Codec
  /-- `utils.Zip("checksum_collection_configset", checksumCollectionSchema)`. -/
  schemaZip : Except String Bytes

/-- The state a pass threads: the package-level `solrClient`, the Solr side and the
    API server. -/
structure PassState (σ : Type) where
  solrClient : SolrClient
  conn : Conn σ
  api : ApiServer

section
variable {σ : Type} (sv : Solr σ) (lib : Lib) (env : PassEnv)

/-- `makeSolrClient`. Its inner `solrClient == SolrClient{}` test reads its own
    zero-valued result, so it always holds. -/
def makeSolrClient (secretRef clusterUrl : String) : Except String SolrClient :=
  if secretRef ≠ "" then
    match env.secrets secretRef with
    | none => .error ("could not read the basic auth secret [" ++ secretRef ++ "]")
    | some basicAuthSecret =>
      .ok ⟨basicAuthSecret.data.getString "username", basicAuthSecret.data.getString "password",
        clusterUrl⟩
  else .error "no secret was provided for Solr basic auth"

/-- `createChecksumCollection`. -/
def createChecksumCollection (solrClient : SolrClient) (checksumsCollectionName : String)
    (replicationFactor : Int32) (c : Conn σ) : Option String × Conn σ :=
  match lib.schemaZip with
  | .error err => (some err, c)
  | .ok bytes =>
    match sv.call solrClient (.uploadConfigSet configChecksumsConfigSetName bytes) c with
    | (some err, c) => (some err, c)
    | (none, c) => sv.call solrClient
        (.createCollection checksumsCollectionName configChecksumsConfigSetName replicationFactor) c

/-- The client `InitializeSolrCluster` leaves in the package variable, or the error
    of building it: a zero client is replaced by `makeSolrClient`'s result, which
    is the zero client again when that fails. -/
def ensureSolrClient (solrClient : SolrClient) (cs : SolrCollectionSet) :
    SolrClient × Option String :=
  if solrClient = SolrClient.zero then
    match makeSolrClient env cs.spec.secretRef cs.spec.solrClusterUrl with
    | .error err => (SolrClient.zero, some err)
    | .ok sc => (sc, none)
  else (solrClient, none)

/-- The client depends on the set only through its spec. -/
theorem ensureSolrClient_congr (solrClient : SolrClient) {cs cs' : SolrCollectionSet}
    (h : cs.spec = cs'.spec) : ensureSolrClient env solrClient cs = ensureSolrClient env solrClient cs' := by
  simp only [ensureSolrClient, h]

/-- With the set naming a basic auth secret that is there, `ensureSolrClient`
    settles on a client without error. -/
theorem ensureSolrClient_ok (solrClient : SolrClient) {cs : SolrCollectionSet}
    (href : cs.spec.secretRef ≠ "") (hsecret : ∃ secret, env.secrets cs.spec.secretRef = some secret) :
    (ensureSolrClient env solrClient cs).2 = none := by
  obtain ⟨secret, hs⟩ := hsecret
  unfold ensureSolrClient
  split
  · simp only [makeSolrClient, if_pos href, hs]
  · rfl

/-- `InitializeSolrCluster`: the cluster status and whether this pass created the
    checksum collection, or the error; and the package-level client after it. -/
def initializeSolrCluster (solrClient : SolrClient) (cs : SolrCollectionSet)
    (checksumsCollectionName : String) (c : Conn σ) :
    Except String (ClusterStatus × Bool) × SolrClient × Conn σ :=
  match ensureSolrClient env solrClient cs with
  | (solrClient, some err) => (.error err, solrClient, c)
  | (solrClient, none) =>
    match sv.call solrClient .getClusterStatus c with
    | (.error err, c) => (.error err, solrClient, c)
    | (.ok clusterStatus, c) =>
      if checksumsCollectionName ∈ clusterStatus.collections then
        (.ok (clusterStatus, false), solrClient, c)
      else
        match createChecksumCollection sv lib solrClient checksumsCollectionName cs.spec.rf c with
        | (some err, c) => (.error err, solrClient, c)
        | (none, c) =>
          match sv.call solrClient .getClusterStatus c with
          | (.error err, c) => (.error err, solrClient, c)
          | (.ok clusterStatus, c) => (.ok (clusterStatus, true), solrClient, c)

/-- The end of a pass through `RequeueOnError`. -/
def PassState.endOnError (cs : SolrCollectionSet) (err : String) (s : PassState σ) :
    Outcome Result × PassState σ :=
  let r := requeueOnError env.now env.faults cs err s.api
  (.ok r.1, { s with api := r.2 })

@[simp] theorem PassState.endOnError_conn (cs : SolrCollectionSet) (err : String)
    (s : PassState σ) : (PassState.endOnError env cs err s).2.conn = s.conn := rfl

@[simp] theorem PassState.endOnError_api (cs : SolrCollectionSet) (err : String)
    (s : PassState σ) :
    (PassState.endOnError env cs err s).2.api = (requeueOnError env.now env.faults cs err s.api).2 :=
  rfl

@[simp] theorem PassState.endOnError_solrClient (cs : SolrCollectionSet) (err : String)
    (s : PassState σ) : (PassState.endOnError env cs err s).2.solrClient = s.solrClient := rfl

/-- The pass from `InitializeSolrCluster` on, for a defaulted, active set. -/
def reconcileSolr (cs : SolrCollectionSet) (s : PassState σ) : Outcome Result × PassState σ :=
  let checksumsName := checksumsCollectionName cs.name
  match initializeSolrCluster sv lib env s.solrClient cs checksumsName s.conn with
  | (.error err, solrClient, conn) =>
    PassState.endOnError env cs err { s with solrClient := solrClient, conn := conn }
  | (.ok (clusterStatus, isInitializing), solrClient, conn) =>
    let api := if isInitializing then
        s.api.event cs eventSolrCollectionSetInitializing ("SolrCollectionSpec [" ++ cs.name ++
          "] is being initialized in namespace [" ++ cs.namespace ++ "]")
      else s.api
    let s : PassState σ := ⟨solrClient, conn, api⟩
    match updateStatus env.ord env.now env.faults cs clusterStatus s.api with
    | ((some err, cs), api) => PassState.endOnError env cs err { s with api := api }
    | ((none, cs), api) =>
      let s := { s with api := api }
      match manageConfigSets env.ord lib.codec sv s.solrClient cs env.configMaps checksumsName
          s.conn with
      | (.panic, conn) => (.panic, { s with conn := conn })
      | (.ok (some err), conn) => PassState.endOnError env cs err { s with conn := conn }
      | (.ok none, conn) =>
        match manageCollections env.ord sv s.solrClient cs clusterStatus.collections
            clusterStatus.aliases conn with
        | (true, conn) => (.ok requeueImmediately, { s with conn := conn })
        | (false, conn) =>
          match adjustReplicas env.ord sv s.solrClient cs clusterStatus.collections conn with
          | ((_, some err), conn) => PassState.endOnError env cs err { s with conn := conn }
          | ((isScaling, none), conn) =>
            (.ok (if isScaling then requeueWithBackoff else requeue), { s with conn := conn })

/-- The `Stable=Unknown/initializing` condition of a set without conditions,
    written with `Status().Update` and re-read. The error side is the pass's end. -/
def initializeConditions (cs : SolrCollectionSet) (api : ApiServer) :
    Except Result SolrCollectionSet × ApiServer :=
  if cs.status.conditions = [] then
    let cs := { cs with status := { cs.status with conditions := (setStatusCondition env.now []
      ⟨typeSolrCollectionSetStable, .conditionUnknown, 0, reasonSolrCollectionSetInitializing,
        "Bootstrapping the operator"⟩).1 } }
    match api.statusUpdate env.faults.statusUpdate cs with
    | (some _, api) => (.error requeue, api)
    | (none, api) =>
      match api.get env.faults.refetch with
      | .error err =>
        let r := requeueOnError env.now env.faults cs err api
        (.error r.1, r.2)
      | .ok cs => (.ok cs, api)
  else (.ok cs, api)

/-- `Reconcile`: one pass over the set the API server holds. -/
def reconcile (s : PassState σ) : Outcome Result × PassState σ :=
  match s.api.get env.faults.get with
  | .error _ => (.ok requeue, s)
  | .ok cs =>
    match initializeConditions env cs s.api with
    | (.error r, api) => (.ok r, { s with api := api })
    | (.ok cs, api) =>
      let s := { s with api := api }
      match cs.withDefaults with
      | (cs, true) =>
        match s.api.update env.faults.update cs with
        | (some err, api) => PassState.endOnError env cs err { s with api := api }
        | (none, api) => (.ok requeueImmediately, { s with api := api })
      | (cs, false) =>
        if !cs.spec.isActive then (.ok requeue, s)
        else reconcileSolr sv lib env cs s

end

end SolrOperator
