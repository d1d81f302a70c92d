/-
  SolrOperator.Controller.Pass

  What one `Reconcile` pass can say to Solr. Each stage that holds the client has
  a lemma naming the calls it can make (`InitCall`, `ConfigSetCall`,
  `CollectionCall`, `adjustCall`); `UpdateStatus` and `RequeueOnError` do not
  hold it. The pass lemma `reconcile_steps` puts these together: a pass over the
  set the API server holds moves the Solr side only by calls through the client
  the pass leaves in the package variable, each one of `PassCall` for that set's
  name and spec. Every per-pass property of the calls is read off it, and every
  property of the cluster a pass leaves off the calls' effects.
-/
import SolrOperator.Controller.Reconcile

namespace SolrOperator

/-! ## `InitializeSolrCluster` -/

/-- The calls `InitializeSolrCluster` can make: read the cluster, and bootstrap the
    checksum collection from its config set. -/
inductive InitCall (checksumsCollectionName : String) (replicationFactor : Int32) : Rpc → Prop
  | getClusterStatus : InitCall checksumsCollectionName replicationFactor .getClusterStatus
  | uploadConfigSet (body : Bytes) :
      InitCall checksumsCollectionName replicationFactor
        (.uploadConfigSet configChecksumsConfigSetName body)
  | createCollection :
      InitCall checksumsCollectionName replicationFactor
        (.createCollection checksumsCollectionName configChecksumsConfigSetName replicationFactor)

section
variable {σ : Type} (sv : Solr σ) (lib : Lib) (env : PassEnv)

theorem createChecksumCollection_steps (cl : SolrClient) (checksumsCollectionName : String)
    (replicationFactor : Int32) (c : Conn σ) :
    sv.Steps (fun x => x.1 = cl ∧ InitCall checksumsCollectionName replicationFactor x.2) c
      (createChecksumCollection sv lib cl checksumsCollectionName replicationFactor c).2 := by
  simp only [createChecksumCollection]
  split
  · exact .refl _ _
  · split
    next heq => exact sv.call_steps_of_eq heq ⟨rfl, .uploadConfigSet _⟩
    next heq =>
      exact .trans (sv.call_steps_of_eq heq ⟨rfl, .uploadConfigSet _⟩)
        (sv.call_steps _ _ _ ⟨rfl, .createCollection⟩)

/-- The client `InitializeSolrCluster` leaves is the one `ensureSolrClient` settles on. -/
@[simp] theorem initializeSolrCluster_client (solrClient : SolrClient) (cs : SolrCollectionSet)
    (checksumsCollectionName : String) (c : Conn σ) :
    (initializeSolrCluster sv lib env solrClient cs checksumsCollectionName c).2.1 =
      (ensureSolrClient env solrClient cs).1 := by
  simp only [initializeSolrCluster]
  split <;> (try split) <;> (try split) <;> (try split) <;> (try split) <;> simp_all

/-- `InitializeSolrCluster` calls only through a client `ensureSolrClient` built or
    kept without error, and makes only `InitCall`s. -/
theorem initializeSolrCluster_steps (solrClient : SolrClient) (cs : SolrCollectionSet)
    (checksumsCollectionName : String) (c : Conn σ) :
    sv.Steps (fun x => ensureSolrClient env solrClient cs = (x.1, none) ∧
        InitCall checksumsCollectionName cs.spec.rf x.2) c
      (initializeSolrCluster sv lib env solrClient cs checksumsCollectionName c).2.2 := by
  simp only [initializeSolrCluster]
  split
  · exact .refl _ _
  next cl heq =>
    rw [heq]
    split
    next heq' => exact sv.call_steps_of_eq heq' ⟨rfl, .getClusterStatus⟩
    next heq' =>
      refine .trans (sv.call_steps_of_eq heq' ⟨rfl, .getClusterStatus⟩) ?_
      split
      · exact .refl _ _
      have hcreate := createChecksumCollection_steps sv lib cl checksumsCollectionName cs.spec.rf
      split
      next heq'' => exact ((hcreate _).of_eq heq'').mono fun x ⟨h1, h2⟩ => ⟨by rw [h1], h2⟩
      next heq'' =>
        refine .trans (((hcreate _).of_eq heq'').mono fun x ⟨h1, h2⟩ => ⟨by rw [h1], h2⟩) ?_
        split
        next h => exact sv.call_steps_of_eq h ⟨rfl, .getClusterStatus⟩
        next h => exact sv.call_steps_of_eq h ⟨rfl, .getClusterStatus⟩

theorem initializeSolrCluster_extends (solrClient : SolrClient) (cs : SolrCollectionSet)
    (checksumsCollectionName : String) (c : Conn σ) :
    Conn.Extends (fun x => ensureSolrClient env solrClient cs = (x.1, none) ∧
        InitCall checksumsCollectionName cs.spec.rf x.2) c
      (initializeSolrCluster sv lib env solrClient cs checksumsCollectionName c).2.2 :=
  (initializeSolrCluster_steps sv lib env solrClient cs checksumsCollectionName c).toExtends

/-- `InitializeSolrCluster` reads the cluster only when `ensureSolrClient` settled
    on a client without error, and returns that client. -/
theorem initializeSolrCluster_ok {solrClient : SolrClient} {cs : SolrCollectionSet}
    {checksumsCollectionName : String} {c : Conn σ} {r : ClusterStatus × Bool}
    (h : (initializeSolrCluster sv lib env solrClient cs checksumsCollectionName c).1 = .ok r) :
    ensureSolrClient env solrClient cs =
      ((initializeSolrCluster sv lib env solrClient cs checksumsCollectionName c).2.1, none) := by
  simp only [initializeSolrCluster] at h ⊢
  split at h
  · cases h
  next cl heq =>
    simp only [heq]
    split <;> (try split) <;> (try split) <;> (try split) <;> rfl

/-! ## A pass -/

/-- The calls a pass over the set `name` with spec `spec` can make, given what its
    configmap list answered. -/
inductive PassCall (name : String) (spec : SolrCollectionSetSpec)
    (configMapList : Except GoError (List ConfigMap)) : Rpc → Prop
  | init {r : Rpc} : InitCall (checksumsCollectionName name) spec.rf r →
      PassCall name spec configMapList r
  | configSet {cs : SolrCollectionSet} {r : Rpc} : cs.spec = spec →
      ConfigSetCall cs configMapList (checksumsCollectionName name) r →
      PassCall name spec configMapList r
  | collection {cs : SolrCollectionSet} {solrCollections : GoMap Collection}
      {aliases : GoMap String} {r : Rpc} : cs.spec = spec →
      CollectionCall cs solrCollections aliases r → PassCall name spec configMapList r
  | adjust (collection : String) (adjustment : ReplicationAdjustment) :
      collection ∈ spec.instances → PassCall name spec configMapList (adjustCall collection adjustment)

section
variable {name : String} {spec : SolrCollectionSetSpec}
  {configMapList : Except GoError (List ConfigMap)} {r : Rpc}

/-- A pass deletes only collections that `ManageCollections`' cleanup targets. -/
theorem PassCall.deleteCollection_spec (h : PassCall name spec configMapList r) {collection : String}
    (hr : r = .deleteCollection collection) :
    spec.cleanup = true ∧ hasPrefix collection "_" = false ∧ collection ∉ spec.instances := by
  cases h with
  | init h => cases h <;> cases hr
  | configSet _ h => cases h <;> cases hr
  | collection hs h =>
    cases h <;> cases hr
    next ht =>
      subst hs
      exact ⟨ht.1, ht.2.2.2, ht.2.2.1⟩
  | adjust k a => rcases adjustCall_cases k a with h | h <;> rw [h] at hr <;> cases hr

/-- A pass deletes only config sets that `ManageConfigSets`' cleanup targets. -/
theorem PassCall.deleteConfigSet_spec (h : PassCall name spec configMapList r) {configSet : String}
    (hr : r = .deleteConfigSet configSet) :
    spec.cleanup = true ∧ hasPrefix configSet "_" = false ∧ ¬Labelled configMapList configSet := by
  cases h with
  | init h => cases h <;> cases hr
  | configSet hs h =>
    cases h <;> cases hr
    next h1 h2 h3 =>
      subst hs
      exact ⟨h1, h2, h3⟩
  | collection _ h => cases h <;> cases hr
  | adjust k a => rcases adjustCall_cases k a with h | h <;> rw [h] at hr <;> cases hr

end

/-- The client a pass leaves is the one `ensureSolrClient` settles on. -/
@[simp] theorem reconcileSolr_solrClient (cs : SolrCollectionSet) (s : PassState σ) :
    (reconcileSolr sv lib env cs s).2.solrClient = (ensureSolrClient env s.solrClient cs).1 := by
  rw [← initializeSolrCluster_client sv lib env s.solrClient cs (checksumsCollectionName cs.name)
    s.conn]
  simp only [reconcileSolr]
  split <;> (try split) <;> (try split) <;> (try split) <;> (try split) <;> simp_all

theorem reconcileSolr_steps (cs : SolrCollectionSet) (s : PassState σ)
    (h : s.api.Holds cs.name cs.spec) :
    sv.Steps (fun x => ensureSolrClient env s.solrClient cs = (x.1, none) ∧
        PassCall cs.name cs.spec env.configMaps x.2) s.conn (reconcileSolr sv lib env cs s).2.conn := by
  have hinit := initializeSolrCluster_steps sv lib env s.solrClient cs
    (checksumsCollectionName cs.name) s.conn
  have hok := @initializeSolrCluster_ok _ sv lib env s.solrClient cs
    (checksumsCollectionName cs.name) s.conn
  simp only [reconcileSolr]
  split
  next heq =>
    rw [heq] at hinit
    exact hinit.mono fun x ⟨h1, h2⟩ => ⟨h1, .init h2⟩
  next clusterStatus isInitializing cl conn heq =>
    rw [heq] at hinit hok
    refine (hinit.mono fun x ⟨h1, h2⟩ => ⟨h1, .init h2⟩).trans ?_
    rw [hok rfl]
    have hapi : (if isInitializing then s.api.event cs eventSolrCollectionSetInitializing
        ("SolrCollectionSpec [" ++ cs.name ++ "] is being initialized in namespace [" ++
          cs.namespace ++ "]") else s.api).Holds cs.name cs.spec := by
      split <;> exact h
    have hu := (updateStatus_holds env.ord env.now env.faults cs clusterStatus hapi).2
    split
    · exact .refl _ _
    next cs' api' heq2 =>
      obtain ⟨-, hs⟩ := hu cs' (by rw [heq2])
      have hcfg := manageConfigSets_steps lib.codec sv cl (checksumsCollectionName cs.name)
        env.ord cs' env.configMaps conn
      split
      next heq3 => exact (hcfg.of_eq heq3).mono fun x ⟨h1, h2⟩ => ⟨by rw [h1], .configSet hs h2⟩
      next heq3 => exact (hcfg.of_eq heq3).mono fun x ⟨h1, h2⟩ => ⟨by rw [h1], .configSet hs h2⟩
      next heq3 =>
        refine .trans ((hcfg.of_eq heq3).mono fun x ⟨h1, h2⟩ => ⟨by rw [h1], .configSet hs h2⟩) ?_
        have hmc := manageCollections_steps env.ord cs' clusterStatus.collections
          clusterStatus.aliases sv cl
        have had := adjustReplicas_steps env.ord cs' clusterStatus.collections sv cl
        split
        next heq4 =>
          exact ((hmc _).of_eq heq4).mono fun x ⟨h1, h2⟩ => ⟨by rw [h1], .collection hs h2⟩
        next heq4 =>
          refine .trans (((hmc _).of_eq heq4).mono fun x ⟨h1, h2⟩ =>
            ⟨by rw [h1], .collection hs h2⟩) ?_
          split <;> rename_i heq5 <;>
            exact ((had _).of_eq heq5).mono fun x ⟨h1, _, _, hk, h2⟩ =>
              ⟨by rw [h1], h2 ▸ .adjust _ _ (hs ▸ ((lookup_replicaAdjustments _ _ _).1 hk).1)⟩

/-- Seeding the conditions writes only the status: the set the pass goes on with is
    the one the server holds. -/
theorem initializeConditions_holds {cs cs' : SolrCollectionSet} {api api' : ApiServer}
    (h : api.Holds cs.name cs.spec) (heq : initializeConditions env cs api = (.ok cs', api')) :
    cs'.name = cs.name ∧ cs'.spec = cs.spec ∧ api'.Holds cs.name cs.spec := by
  simp only [initializeConditions] at heq
  split at heq
  · have hu := h.statusUpdate env.faults.statusUpdate
      { cs with status := { cs.status with conditions := (setStatusCondition env.now []
        ⟨typeSolrCollectionSetStable, .conditionUnknown, 0, reasonSolrCollectionSetInitializing,
          "Bootstrapping the operator"⟩).1 } }
    split at heq
    · cases heq
    next heq' =>
      rw [heq'] at hu
      split at heq
      · cases heq
      next hget =>
        cases heq
        exact ⟨(hu.get hget).1, (hu.get hget).2, hu⟩
  · cases heq
    exact ⟨rfl, rfl, h⟩

/-- The set seeding the conditions goes on with is the one the server then holds. -/
theorem initializeConditions_stored {cs cs' : SolrCollectionSet} {api api' : ApiServer}
    (h : api.stored = some cs) (heq : initializeConditions env cs api = (.ok cs', api')) :
    api'.stored = some cs' := by
  simp only [initializeConditions] at heq
  split at heq
  · split at heq
    · cases heq
    · split at heq
      · cases heq
      next hget =>
        cases heq
        exact ApiServer.stored_of_get hget
  · cases heq
    exact h

/-- Seeding the conditions keeps the server holding only what it admits. -/
theorem initializeConditions_valid (cs : SolrCollectionSet) {api : ApiServer} (h : api.Valid) :
    (initializeConditions env cs api).2.Valid := by
  have hu := h.statusUpdate env.faults.statusUpdate
    { cs with status := { cs.status with conditions := (setStatusCondition env.now []
      ⟨typeSolrCollectionSetStable, .conditionUnknown, 0, reasonSolrCollectionSetInitializing,
        "Bootstrapping the operator"⟩).1 } }
  simp only [initializeConditions]
  split
  · split <;> rename_i heq <;> rw [heq] at hu
    · exact hu
    · split
      · exact hu.requeueOnError _ _ _ _
      · exact hu
  · exact h

/-- With its status write and read succeeding, seeding the conditions of the set the
    server holds, which it admitted, ends no pass. -/
theorem initializeConditions_ok {cs : SolrCollectionSet} {api : ApiServer}
    (h : api.stored = some cs) (hvalid : api.Valid) (hupdate : env.faults.statusUpdate = none)
    (hrefetch : env.faults.refetch = none) :
    ∃ cs' api', initializeConditions env cs api = (.ok cs', api') := by
  simp only [initializeConditions, hupdate, hrefetch]
  split
  · have hk : ({ cs.status with conditions := (setStatusCondition env.now []
        ⟨typeSolrCollectionSetStable, .conditionUnknown, 0, reasonSolrCollectionSetInitializing,
          "Bootstrapping the operator"⟩).1 } : SolrCollectionSetStatus).keyError = none :=
      SolrCollectionSetStatus.keyError_eq_none.2 ⟨nodup_types_setStatusCondition _ _ List.nodup_nil,
        (SolrCollectionSetStatus.keyError_eq_none.1 (hvalid cs h)).2⟩
    simp [ApiServer.statusUpdate, ApiServer.get, h, hk]
  · exact ⟨_, _, rfl⟩

/-- A pass with no failing Kubernetes call over a set the server holds, and admitted,
    whose spec is defaulted and active, goes on with `reconcileSolr`. -/
theorem reconcile_reaches_solr (s : PassState σ) {name : String} {spec : SolrCollectionSetSpec}
    (h : s.api.Holds name spec) (hvalid : s.api.Valid) (hfaults : env.faults = KubeFaults.none)
    (hdef : spec.Defaulted) (hactive : spec.isActive = true) :
    ∃ cs api, cs.name = name ∧ cs.spec = spec ∧ api.Holds name spec ∧ api.Valid ∧
      (∃ obj, s.api.stored = some obj ∧ initializeConditions env obj s.api = (.ok cs, api)) ∧
      reconcile sv lib env s = reconcileSolr sv lib env cs { s with api := api } := by
  obtain ⟨o, ho, rfl, rfl⟩ := h
  have hget : s.api.get env.faults.get = .ok o := by simp [ApiServer.get, hfaults, KubeFaults.none, ho]
  obtain ⟨cs, api, heq⟩ := initializeConditions_ok env ho hvalid
    (by rw [hfaults]; rfl) (by rw [hfaults]; rfl)
  obtain ⟨hn, hs, hapi⟩ := initializeConditions_holds env ⟨o, ho, rfl, rfl⟩ heq
  have hv : api.Valid := by simpa only [heq] using initializeConditions_valid env o hvalid
  refine ⟨cs, api, hn, hs, hapi, hv, ⟨o, ho, heq⟩, ?_⟩
  simp only [reconcile, hget, heq, SolrCollectionSet.withDefaults_of_defaulted (hs ▸ hdef), hs,
    hactive, Bool.not_true, Bool.false_eq_true, if_false]

/-- What a pass over a set the API server holds does: it ends before
    `InitializeSolrCluster`, leaving the client and the Solr side as they were, or
    goes on with `reconcileSolr` for a set of the same name and spec, which the
    server then holds, and admitted if it admitted what it held, from the same
    client and Solr side. -/
theorem reconcile_cases (s : PassState σ) {name : String} {spec : SolrCollectionSetSpec}
    (h : s.api.Holds name spec) :
    ((reconcile sv lib env s).2.solrClient = s.solrClient ∧ (reconcile sv lib env s).2.conn = s.conn) ∨
      ∃ cs api, cs.name = name ∧ cs.spec = spec ∧ api.stored = some cs ∧ (s.api.Valid → api.Valid) ∧
        reconcile sv lib env s = reconcileSolr sv lib env cs { s with api := api } := by
  simp only [reconcile]
  split
  · exact .inl ⟨rfl, rfl⟩
  next cs hget =>
    obtain ⟨hn, hs⟩ := h.get hget
    split
    · exact .inl ⟨rfl, rfl⟩
    next cs' api heq =>
      obtain ⟨hn', hs', -⟩ := initializeConditions_holds env (hn ▸ hs ▸ h) heq
      have hstored := initializeConditions_stored env (ApiServer.stored_of_get hget) heq
      have hvalid (hv : s.api.Valid) : api.Valid := by
        simpa only [heq] using initializeConditions_valid env cs hv
      split
      · split <;> exact .inl ⟨rfl, rfl⟩
      next cs'' hdef =>
        have hcs : cs'' = cs' := by
          have := (SolrCollectionSet.withDefaults_of_unchanged (by rw [hdef])).1
          rwa [hdef] at this
        subst hcs
        split
        · exact .inl ⟨rfl, rfl⟩
        · exact .inr ⟨cs'', api, hn'.trans hn, hs'.trans hs, hstored, hvalid, rfl⟩

/-- Every call of a pass over the set the API server holds goes through the client
    `ensureSolrClient` settles on without error for that set, and is a `PassCall`
    for the set's name and spec. -/
theorem reconcile_steps (s : PassState σ) {obj : SolrCollectionSet}
    (hobj : s.api.stored = some obj) :
    sv.Steps (fun x => ensureSolrClient env s.solrClient obj = (x.1, none) ∧
        PassCall obj.name obj.spec env.configMaps x.2) s.conn (reconcile sv lib env s).2.conn := by
  rcases reconcile_cases sv lib env s (show s.api.Holds obj.name obj.spec from ⟨obj, hobj, rfl, rfl⟩) with
    ⟨-, h⟩ | ⟨cs, api, hn, hs, hapi, -, h⟩
  · rw [h]
    exact .refl _ _
  · rw [h, ensureSolrClient_congr env s.solrClient (show obj.spec = cs.spec from hs.symm), ← hn, ← hs]
    exact reconcileSolr_steps sv lib env cs { s with api := api } ⟨cs, hapi, rfl, rfl⟩

theorem reconcile_extends (s : PassState σ) {obj : SolrCollectionSet}
    (hobj : s.api.stored = some obj) :
    Conn.Extends (fun x => ensureSolrClient env s.solrClient obj = (x.1, none) ∧
        PassCall obj.name obj.spec env.configMaps x.2) s.conn (reconcile sv lib env s).2.conn :=
  (reconcile_steps sv lib env s hobj).toExtends

/-! ## What a pass writes to the API server -/

/-- Seeding the conditions writes the status only. -/
theorem initializeConditions_statusWrites (cs : SolrCollectionSet) (api : ApiServer) :
    ApiServer.StatusWrites api (initializeConditions env cs api).2 := by
  simp only [initializeConditions]
  split
  · split <;> rename_i heq
    · exact .of_snd_eq (.statusUpdate _ _) heq
    · split
      · exact (ApiServer.StatusWrites.of_snd_eq (.statusUpdate _ _) heq).trans
          (requeueOnError_statusWrites _ _ _ _ _)
      · exact .of_snd_eq (.statusUpdate _ _) heq
  · exact .refl _

/-- The pass from `InitializeSolrCluster` on writes the status only. -/
theorem reconcileSolr_statusWrites (cs : SolrCollectionSet) (s : PassState σ) :
    ApiServer.StatusWrites s.api (reconcileSolr sv lib env cs s).2.api := by
  simp only [reconcileSolr]
  split
  · exact requeueOnError_statusWrites _ _ _ _ _
  next clusterStatus isInitializing cl conn heq =>
    have hev : ApiServer.StatusWrites s.api (if isInitializing then
        s.api.event cs eventSolrCollectionSetInitializing ("SolrCollectionSpec [" ++ cs.name ++
          "] is being initialized in namespace [" ++ cs.namespace ++ "]") else s.api) := by
      split
      · exact .event _ _ _ _
      · exact .refl _
    have hu := updateStatus_statusWrites env.ord env.now env.faults cs clusterStatus
    split <;> rename_i heq2 <;> have hu := hev.trans (.of_snd_eq hu heq2)
    · exact hu.trans (requeueOnError_statusWrites _ _ _ _ _)
    · split <;> (try split) <;> (try split) <;> first
        | exact hu
        | exact hu.trans (requeueOnError_statusWrites _ _ _ _ _)

/-- The writes of a pass over a set the server holds: status writes, and at most
    one `Update`, made only when `WithDefaults` changes the set, holding the spec
    `WithDefaults` gives it. -/
theorem reconcile_writes (s : PassState σ) {obj : SolrCollectionSet}
    (hobj : s.api.stored = some obj) :
    ∃ ws, (reconcile sv lib env s).2.api.writes = s.api.writes ++ ws ∧
      (ws.filter KubeWrite.isUpdate = [] ∨ obj.withDefaults.2 = true ∧
        ∃ o, o.spec = obj.withDefaults.1.spec ∧ ws.filter KubeWrite.isUpdate = [.update o]) := by
  have hstatus : ∀ {api'}, ApiServer.StatusWrites s.api api' → ∃ ws,
      api'.writes = s.api.writes ++ ws ∧ (ws.filter KubeWrite.isUpdate = [] ∨
        obj.withDefaults.2 = true ∧ ∃ o, o.spec = obj.withDefaults.1.spec ∧
          ws.filter KubeWrite.isUpdate = [.update o]) :=
    fun ⟨ws, hw, hu⟩ => ⟨ws, hw, .inl (ApiServer.StatusWrites.filter_isUpdate_eq_nil hu)⟩
  have hheld : s.api.Holds obj.name obj.spec := ⟨obj, hobj, rfl, rfl⟩
  simp only [reconcile]
  split
  · exact hstatus (.refl _)
  next cs hget =>
    obtain ⟨hn, hs⟩ := hheld.get hget
    have hic := initializeConditions_statusWrites env cs s.api
    split <;> rename_i heq <;> rw [heq] at hic
    · exact hstatus hic
    next cs' api =>
      obtain ⟨-, hs', -⟩ := initializeConditions_holds env (hn ▸ hs ▸ hheld) heq
      obtain ⟨hspec, hch⟩ := SolrCollectionSet.withDefaults_congr (hs'.trans hs)
      split
      next cs'' hdef =>
        rw [hdef] at hspec hch
        obtain ⟨ws, hw, hu⟩ := hic
        -- the one `Update`, between the status writes of the seeding and of the error path
        have hone : ∀ ws' : List KubeWrite, (∀ w ∈ ws', w.isUpdate = false) →
            (ws ++ [KubeWrite.update cs''] ++ ws').filter KubeWrite.isUpdate = [.update cs''] := fun ws' hu' => by
          simp [List.filter_append, ApiServer.StatusWrites.filter_isUpdate_eq_nil hu,
            ApiServer.StatusWrites.filter_isUpdate_eq_nil hu', KubeWrite.isUpdate]
        have hupd : ∀ fault, (api.update fault cs'').2.writes = api.writes ++ [.update cs''] :=
          fun fault => by cases fault <;> rfl
        split <;> rename_i heq2 <;> have hw2 := hupd env.faults.update <;> rw [heq2] at hw2
        · obtain ⟨ws', hw', hu'⟩ := requeueOnError_statusWrites env.now env.faults cs'' _ _
          exact ⟨ws ++ [.update cs''] ++ ws', by
            rw [PassState.endOnError_api, hw', hw2, hw]; simp only [List.append_assoc],
            .inr ⟨hch ▸ rfl, cs'', hspec, hone ws' hu'⟩⟩
        · exact ⟨ws ++ [.update cs''], by rw [hw2, hw, List.append_assoc],
            .inr ⟨hch ▸ rfl, cs'', hspec, by simpa using hone [] (by simp)⟩⟩
      next cs'' hdef =>
        split
        · exact hstatus hic
        · exact hstatus (hic.trans (reconcileSolr_statusWrites sv lib env cs'' { s with api := api }))

/-- A pass goes on to `InitializeSolrCluster` only with a set `WithDefaults` leaves
    unchanged, so every pointer the stages dereference is set. -/
theorem reconcile_reaches_defaulted (s : PassState σ) :
    ((reconcile sv lib env s).2.solrClient = s.solrClient ∧ (reconcile sv lib env s).2.conn = s.conn) ∨
      ∃ cs api, cs.spec.Defaulted ∧
        reconcile sv lib env s = reconcileSolr sv lib env cs { s with api := api } := by
  simp only [reconcile]
  split
  · exact .inl ⟨rfl, rfl⟩
  split
  · exact .inl ⟨rfl, rfl⟩
  next cs' api _ =>
    split
    · split <;> exact .inl ⟨rfl, rfl⟩
    next cs'' hdef =>
      obtain ⟨hcs, hd⟩ := SolrCollectionSet.withDefaults_of_unchanged
        (show cs'.withDefaults.2 = false by rw [hdef])
      rw [hdef] at hcs
      subst hcs
      split
      · exact .inl ⟨rfl, rfl⟩
      · exact .inr ⟨cs'', api, hd, rfl⟩

/-- Defaulting settles: for a set whose collections are named, as the CRD requires,
    `WithDefaults` sets every pointer and every alias and config set name, and a
    second `WithDefaults` changes nothing. A pass over the set adds at most one
    `Update`, which holds the defaulted spec; a pass over the defaulted spec adds
    none; and every pass that goes on to the stages does so with a defaulted spec. -/
theorem withDefaults_settles (sc : SolrCollectionSet) (h : ∀ c ∈ sc.spec.collections, c.name ≠ "") :
    sc.withDefaults.1.spec.Defaulted ∧ sc.withDefaults.1.withDefaults = (sc.withDefaults.1, false) ∧
    ∀ {σ : Type} (sv : Solr σ) (lib : Lib) (env : PassEnv) (s : PassState σ) (obj : SolrCollectionSet),
      s.api.stored = some obj →
      (obj.spec = sc.spec → ∃ ws, (reconcile sv lib env s).2.api.writes = s.api.writes ++ ws ∧
        (ws.filter KubeWrite.isUpdate = [] ∨
          ∃ o, o.spec = sc.withDefaults.1.spec ∧ ws.filter KubeWrite.isUpdate = [.update o])) ∧
      (obj.spec = sc.withDefaults.1.spec →
        ApiServer.StatusWrites s.api (reconcile sv lib env s).2.api) ∧
      (((reconcile sv lib env s).2.solrClient = s.solrClient ∧
          (reconcile sv lib env s).2.conn = s.conn) ∨
        ∃ cs api, cs.spec.Defaulted ∧
          reconcile sv lib env s = reconcileSolr sv lib env cs { s with api := api }) := by
  have hidem := SolrCollectionSet.withDefaults_idem h
  refine ⟨(SolrCollectionSet.withDefaults_of_unchanged (by rw [hidem])).2, hidem,
    fun sv lib env s obj hobj => ⟨fun hspec => ?_, fun hspec => ?_, reconcile_reaches_defaulted sv lib env s⟩⟩
  · obtain ⟨ws, hw, hws⟩ := reconcile_writes sv lib env s hobj
    refine ⟨ws, hw, hws.imp_right fun ⟨_, o, ho, hf⟩ => ⟨o, ?_, hf⟩⟩
    rw [ho, (SolrCollectionSet.withDefaults_congr hspec).1]
  · obtain ⟨ws, hw, hnil | ⟨hch, -⟩⟩ := reconcile_writes sv lib env s hobj
    · exact .of_filter_isUpdate_eq_nil hw hnil
    · rw [(SolrCollectionSet.withDefaults_congr hspec).2, hidem] at hch
      cases hch

/-- A set with one bare collection: its name meets the CRD's bound, and one
    `WithDefaults` fills in everything. -/
theorem withDefaults_settles_bare_collection :
    let sc : SolrCollectionSet := ⟨"set", "ns", ⟨"http://solr", "secret", none, none, none, none,
      [⟨"x", "", ""⟩]⟩, .empty⟩
    (∀ c ∈ sc.spec.collections, c.name ≠ "") ∧ sc.withDefaults.1.spec.Defaulted ∧
      sc.withDefaults.1.withDefaults = (sc.withDefaults.1, false) :=
  ⟨by decide, (withDefaults_settles _ (by decide)).1, (withDefaults_settles _ (by decide)).2.1⟩

/-- Deletion safety of a pass: it deletes a collection only with cleanup on, when the
    name does not begin with `_` and is no instance `mapCollections` makes of the
    spec; and a config set only with cleanup on, when the name does not begin with
    `_` and no listed configmap carries it as its `collection` label. Neither
    deletion comes from `InitializeSolrCluster` or `AdjustReplicas`;
    `UpdateStatus` and `RequeueOnError` hold no client. -/
theorem reconcile_deletes_only_cleanup_targets (solrClient : SolrClient) (c : Conn σ)
    (obj : SolrCollectionSet) (events : List Event) (writes : List KubeWrite) :
    let s : PassState σ := ⟨solrClient, c, ⟨some obj, events, writes⟩⟩
    Conn.Extends (fun x =>
        (∀ collection, x.2 = .deleteCollection collection →
          obj.spec.cleanup = true ∧ hasPrefix collection "_" = false ∧
            collection ∉ obj.spec.instances) ∧
        (∀ configSet, x.2 = .deleteConfigSet configSet →
          obj.spec.cleanup = true ∧ hasPrefix configSet "_" = false ∧
            ∀ items, env.configMaps = .ok items →
              ∀ cm ∈ items, cm.labels.lookup "collection" ≠ some configSet))
      c (reconcile sv lib env s).2.conn ∧
    (∀ solrClient cs checksumsName (c : Conn σ), Conn.Extends
      (fun x => ∀ name, x.2 ≠ .deleteCollection name ∧ x.2 ≠ .deleteConfigSet name) c
      (initializeSolrCluster sv lib env solrClient cs checksumsName c).2.2) ∧
    (∀ ord cl cs solrCollections (c : Conn σ), Conn.Extends
      (fun x => ∀ name, x.2 ≠ .deleteCollection name ∧ x.2 ≠ .deleteConfigSet name) c
      (adjustReplicas ord sv cl cs solrCollections c).2) := by
  intro s
  refine ⟨(reconcile_extends sv lib env s (show s.api.stored = some obj from rfl)).mono fun x ⟨_, h⟩ =>
    ⟨fun _ hr => h.deleteCollection_spec hr, fun _ hr => ?_⟩, fun _ _ _ _ => ?_, fun _ _ _ _ _ => ?_⟩
  · obtain ⟨h1, h2, h3⟩ := h.deleteConfigSet_spec hr
    exact ⟨h1, h2, fun items hi cm hcm hl => h3 ⟨items, hi, cm, hcm, hl⟩⟩
  · refine (initializeSolrCluster_extends sv lib env _ _ _ _).mono fun x ⟨_, h⟩ name => ?_
    constructor <;> rintro hr <;> rw [hr] at h <;> cases h
  · refine (adjustReplicas_extends _ _ _ sv _ _).mono fun x ⟨_, k, a, _, h⟩ name => ?_
    rw [h]
    rcases adjustCall_cases k a with h | h <;> rw [h] <;> simp

end

end SolrOperator
