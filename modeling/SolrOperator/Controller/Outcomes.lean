/-
  SolrOperator.Controller.Outcomes

  What the controller makes of the answers to its calls. `ManageCollections`
  never reads them: its `changed` flag records only that a bucket was not empty,
  that is, that a call was made. `AdjustReplicas` reads them, but it tests
  `AddReplicas`' error before its backpressure flag, and `AddReplicas` reports
  backpressure together with an error, so the backpressure branch never runs
  and a scale-out Solr cannot place ends the pass through `RequeueOnError`.
-/
import SolrOperator.Controller.Reconcile
import SolrOperator.SolrApi.Client

namespace SolrOperator

/-! ## `ManageCollections`' `changed` -/

section
variable (ord : MapOrder Site) (cs : SolrCollectionSet) (solrCollections : GoMap Collection)
  (aliases : GoMap String)

/-- A plan makes a call exactly when it reports a change: each bucket's loop makes
    at least one call per entry. -/
theorem CollectionPlan.calls_eq_nil_iff {p : CollectionPlan} :
    p.calls ord cs aliases = [] ↔ p.changed = false := by
  refine ⟨fun h => ?_, CollectionPlan.calls_eq_nil ord cs aliases⟩
  have hempty : ∀ {V : Type} {m : GoMap V} {site : Site}, m.range ord site = [] →
      ¬0 < m.entries.length := fun h => by
    rw [GoMap.entries_length_pos, not_exists]
    exact GoMap.range_eq_nil.1 h
  simp only [CollectionPlan.calls, List.append_eq_nil, List.map_eq_nil_iff, List.flatMap_eq_nil_iff,
    createCalls, reduceCtorEq, imp_false] at h
  obtain ⟨⟨⟨hcreate, hdelAlias⟩, hdelete⟩, hrf⟩ := h
  simp only [CollectionPlan.changed, Bool.or_eq_false_iff, decide_eq_false_iff_not]
  exact ⟨⟨⟨hempty (List.eq_nil_iff_forall_not_mem.2 hcreate), hempty hdelAlias⟩, hempty hdelete⟩,
    hempty hrf⟩

/-- `ManageCollections` reports a change exactly when it made a call, whatever the
    calls answered: the flag says that a bucket was not empty, not that a
    mutation took effect. -/
theorem manageCollections_changed_iff_called {σ : Type} (sv : Solr σ) (cl : SolrClient)
    (c : Conn σ) :
    (manageCollections ord sv cl cs solrCollections aliases c).1 = true ↔
      (manageCollections ord sv cl cs solrCollections aliases c).2.log ≠ c.log := by
  simp only [manageCollections, Solr.issue_log, ne_eq, List.append_right_eq_self, List.map_eq_nil_iff]
  rw [CollectionPlan.calls_eq_nil_iff, Bool.not_eq_false]

end

/-- A pass in which every mutating call fails: Solr answers the reads from a
    snapshot holding the checksum collection and refuses every write, and the
    set wants one collection `x` that is missing. `ManageCollections`'
    `CreateCollection("x", "x", 1)` is refused, and the pass still ends with the
    1 ms requeue. -/
theorem reconcile_requeues_when_every_mutation_fails :
    let clusterStatus : ClusterStatus := ⟨(∅ : GoMap Collection).insert "_setChecksums"
      ⟨"_setChecksums", 1, 1, "_checksums"⟩, ∅⟩
    let sv : Solr Unit :=
      ⟨fun _ r _ => (if r.isMutating then Rpc.fail "refused" r else Rpc.succeed clusterStatus [] [] r, ())⟩
    let cs : SolrCollectionSet := ⟨"set", "ns", ⟨"http://solr", "auth", some true, some 1,
      some false, some false, [⟨"x", "x", "x"⟩]⟩, .empty⟩
    let env : PassEnv := ⟨MapOrder.stored Site, 0, KubeFaults.none, fun _ => none, .ok []⟩
    let r := reconcile sv ⟨⟨fun _ => some [], fun _ => []⟩, .ok []⟩ env
      ⟨⟨"u", "p", "http://solr"⟩, ⟨(), []⟩, ⟨some cs, [], []⟩⟩
    r.1 = .ok requeueImmediately ∧
      r.2.conn.log.filter (fun x => x.2.isMutating) = [(⟨"u", "p", "http://solr"⟩, .createCollection "x" "x" 1)] := by
  decide

/-! ## `AdjustReplicas` and backpressure -/

section
variable {σ : Type} {sv : Solr σ}

/-- Whatever a cluster answers, `AdjustReplicas`' loop never reports scaling: an
    answer to `AddReplicas` with the backpressure flag carries an error, which the
    loop tests first. -/
theorem adjustLoop_not_scaling (hsv : sv.Realizable) (cl : SolrClient) :
    ∀ (adjustments : List (String × ReplicationAdjustment)) (c : Conn σ),
      (adjustLoop sv cl adjustments c).1.1 = false
  | [], _ => rfl
  | (collection, adjustment) :: rest, c => by
    simp only [adjustLoop]
    split
    · split
      · rfl
      next isScaling conn heq =>
        split
        next hs =>
          obtain ⟨h, hex⟩ := hsv cl (.addReplicas collection _) c.state
          have hout : (sv.reply cl (.addReplicas collection _) c.state).1 = (isScaling, none) :=
            congrArg Prod.fst heq
          rw [hout, hs] at hex
          exact absurd (SolrClient.addReplicas_scaling_error hex) (by simp)
        · exact adjustLoop_not_scaling hsv cl rest _
    · split
      · rfl
      · exact adjustLoop_not_scaling hsv cl rest _

end

/-- Backpressure ends the pass through `RequeueOnError`. `AddReplicas` answers a
    scale-out Solr cannot place with its backpressure flag and an error; for every
    cluster whose answers the client can give, `AdjustReplicas` then never reports
    scaling, so the `RequeueAfter` of `backoffRequeueSeconds` is never reached from
    it. At that answer the pass patches `Stable=False/errorEncountered` and requeues
    at once. -/
theorem adjustReplicas_backpressure_is_error :
    SolrClient.addReplicas "x" (.response 400 "400 Bad Request"
        (.json (.obj [("error", .obj [("msg", .str "Not enough eligible nodes to place replicas")])]))) =
      .ok (true, some "add replicas failed for collection [x] because there aren't enough nodes") ∧
    (∀ (collectionName : String) (h : HttpResult) (err : Option String),
      SolrClient.addReplicas collectionName h = .ok (true, err) → err.isSome) ∧
    (∀ {σ : Type} (sv : Solr σ), sv.Realizable → ∀ (ord : MapOrder Site) (cl : SolrClient)
      (cs : SolrCollectionSet) (solrCollections : GoMap Collection) (c : Conn σ),
      (adjustReplicas ord sv cl cs solrCollections c).1.1 = false) ∧
    let clusterStatus : ClusterStatus := ⟨((∅ : GoMap Collection).insert "_setChecksums"
      ⟨"_setChecksums", 1, 1, "_checksums"⟩).insert "x" ⟨"x", 2, 1, "x"⟩, ∅⟩
    let sv : Solr Unit := ⟨fun _ r _ => (match r with
      | .addReplicas .. =>
        (true, some "add replicas failed for collection [x] because there aren't enough nodes")
      | r => Rpc.succeed clusterStatus [] [] r, ())⟩
    let cs : SolrCollectionSet := ⟨"set", "ns", ⟨"http://solr", "auth", some true, some 2,
      some false, some false, [⟨"x", "x", "x"⟩]⟩, .empty⟩
    let env : PassEnv := ⟨MapOrder.stored Site, 0, KubeFaults.none, fun _ => none, .ok []⟩
    let r := reconcile sv ⟨⟨fun _ => some [], fun _ => []⟩, .ok []⟩ env
      ⟨⟨"u", "p", "http://solr"⟩, ⟨(), []⟩, ⟨some cs, [], []⟩⟩
    r.1 = .ok requeue ∧ ∃ obj ∈ r.2.api.stored, ∃ c ∈ obj.status.conditions,
      c.status = .conditionFalse ∧ c.reason = reasonSolrCollectionSetReconcileError := by
  refine ⟨by decide, fun _ _ _ h => SolrClient.addReplicas_scaling_error h,
    fun sv hsv ord cl cs sc c => adjustLoop_not_scaling hsv cl _ c, by decide⟩

end SolrOperator
