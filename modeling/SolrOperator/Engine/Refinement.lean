/-
  SolrOperator.Engine.Refinement

  The engine behind Solr's HTTP interface, and the client in front of it. A server
  at a base URL, holding the users its basic auth admits, reads each request as
  Solr does (`Request.read`), has the cluster answer the call, and writes the
  answer as Solr does: a read's document with 200, a change carried out with 200
  and a response header, a refusal with 400 and Solr's error document, and a
  request from a user it does not hold with 401 and the servlet container's HTML
  page.

  Against it, each `SolrClient` method returns what the cluster answered
  (`Rpc.Agree`): the same documents and values, and an error exactly where the
  cluster refused, with the method's own text around Solr's message; `AddReplicas`
  reports backpressure only where the cluster did, which it never does. The
  cluster status needs the collections filed under their names, since
  `GetClusterStatus` names each collection after its key; every call keeps that,
  so it holds along every run of passes from a cluster that has it, and at every
  point of such a run the controller's `Engine.solr` is Solr seen through its
  client, up to the wording of errors.
-/
import SolrOperator.Engine.Runs
import SolrOperator.SolrApi.Requests

namespace SolrOperator

namespace Engine

/-- Every collection is filed under its own name. -/
def Named (E : Engine) : Prop := ∀ k c, E.collections.lookup k = some c → c.name = k

/-- Every call keeps the collections filed under their names. -/
theorem answer_named {E : Engine} (hE : E.Named) (r : Rpc) : (E.answer r).2.Named := by
  intro k c hk
  cases r with
  | setReplicationFactor name _ | addReplicas name _ | removeReplicas name _ =>
    simp only [answer] at hk
    split at hk
    · exact hE k c hk
    next col hcol =>
      rw [setCollection_collections] at hk
      by_cases hkn : k = name
      · subst hkn
        rw [AList.lookup_insert, Option.some.injEq] at hk
        subst hk
        exact hE k col hcol
      · rw [AList.lookup_insert_ne hkn] at hk
        exact hE k c hk
  | createCollection name _ _ =>
    simp only [answer] at hk
    split_ifs at hk <;> try exact hE k c hk
    rw [create_collections] at hk
    by_cases hkn : k = name
    · subst hkn
      rw [AList.lookup_insert, Option.some.injEq] at hk
      subst hk
      rfl
    · rw [AList.lookup_insert_ne hkn] at hk
      exact hE k c hk
  | deleteCollection name =>
    simp only [answer] at hk
    split_ifs at hk <;> try exact hE k c hk
    by_cases hkn : k = name
    · subst hkn
      simp at hk
    · exact hE k c (by rwa [AList.lookup_erase_ne hkn] at hk)
  | _ =>
    simp only [answer] at hk
    (try split at hk) <;> (try split_ifs at hk) <;> exact hE k c hk

theorem run_named : ∀ (E : Engine) (rs : List Rpc), E.Named → (E.run rs).Named
  | _, [], h => h
  | _, r :: rs, h => run_named _ rs (answer_named h r)

/-- Distinct names for `n` replicas. -/
def replicaNames (n : Nat) : List String := (List.range n).map fun i => ⟨List.replicate (i + 1) 'r'⟩

theorem replicaNames_nodup (n : Nat) : (replicaNames n).Nodup :=
  (List.nodup_range n).map fun i j h => by
    simpa using congrArg (fun s : String => s.data.length) h

@[simp] theorem replicaNames_length (n : Nat) : (replicaNames n).length = n := by
  simp [replicaNames]

end Engine

/-! ## Solr on the wire -/

/-- Solr's error document. -/
def errorDoc (msg : String) : Json := .obj [("error", .obj [("msg", .str msg), ("code", .int 400)])]

/-- The response header Solr answers a change with. -/
def responseHeaderDoc : Json := .obj [("responseHeader", .obj [("status", .int 0)])]

/-- A document with 200, or a refusal with 400 and Solr's error document. -/
def answerWith : Except String Json → HttpResult
  | .ok doc => .response 200 "200 OK" (.json doc)
  | .error msg => .response 400 "400 Bad Request" (.json (errorDoc msg))

/-- The answer to a change: its header, or the refusal. -/
def changeAnswer : Option String → Except String Json
  | none => .ok responseHeaderDoc
  | some msg => .error msg

/-- Replicas of distinct names, as many as a cluster status counts for `k`. -/
def replicasOf (clusterStatus : ClusterStatus) (k : String) : List String :=
  Engine.replicaNames (((clusterStatus.collections.lookup k).map fun c => c.replicaCount.toNat).getD 0)

/-- The response carrying a call's answer. -/
def Rpc.respond : (r : Rpc) → r.Out → HttpResult
  | .getClusterStatus, o => answerWith (o.map fun cs => clusterStatusDoc cs (replicasOf cs))
  | .getConfigSets, o => answerWith (o.map configSetsDoc)
  | .query .., o => answerWith (o.map selectDoc)
  | .addReplicas .., o => answerWith (changeAnswer o.2)
  | .uploadConfigSet .., o => answerWith (changeAnswer o)
  | .deleteConfigSet .., o => answerWith (changeAnswer o)
  | .setReplicationFactor .., o => answerWith (changeAnswer o)
  | .removeReplicas .., o => answerWith (changeAnswer o)
  | .createCollection .., o => answerWith (changeAnswer o)
  | .assignAlias .., o => answerWith (changeAnswer o)
  | .deleteAlias .., o => answerWith (changeAnswer o)
  | .deleteCollection .., o => answerWith (changeAnswer o)
  | .writeRecord .., o => answerWith (changeAnswer o)

/-- A Solr server at `base` whose basic auth admits `users`. -/
structure SolrServer where
  base : String
  users : List (String × String)

/-- The servlet container's page for a request basic auth turns away: HTML, which
    no JSON decoder reads. -/
def unauthorized : HttpResult :=
  .response 401 "401 Unauthorized" (.malformed "invalid character '<' looking for beginning of value")

/-- The server's response to a request, and the cluster after it. -/
def Engine.serve (srv : SolrServer) (req : Request) (E : Engine) : HttpResult × Engine :=
  if req.basicAuth ∈ srv.users then
    match req.read srv.base with
    | some r => (r.respond (E.answer r).1, (E.answer r).2)
    | none => (answerWith (.error "unknown request"), E)
  else (unauthorized, E)

/-- A method called over HTTP against the server: what it returns, and the cluster
    after it. -/
def Engine.overHttp (srv : SolrServer) (cl : SolrClient) (r : Rpc) (E : Engine) :
    Outcome r.Out × Engine :=
  (r.exchange (E.serve srv (r.request cl)).1, (E.serve srv (r.request cl)).2)

/-- Two answers to a call agree: they are the same, or both are failures, whatever
    their texts. -/
def Rpc.Agree (r : Rpc) (a b : r.Out) : Prop := a = b ∨ (∃ e, a = r.fail e) ∧ ∃ e, b = r.fail e

/-- Suffixes that start with a character other than the first of `sub` never hold it. -/
theorem strContains_go_append {sub : String} {c₀ : Char} {cs₀ : List Char}
    (hsub : sub.data = c₀ :: cs₀) (pre rest : List Char) (h : c₀ ∉ pre) :
    strContains.go sub (pre ++ rest) = strContains.go sub rest := by
  induction pre with
  | nil => rfl
  | cons c cs ih =>
    rw [List.mem_cons, not_or] at h
    rw [List.cons_append, strContains.go, hsub, List.isPrefixOf, beq_false_of_ne h.1, Bool.false_and,
      Bool.false_or, ih h.2]

/-- The cluster's not-found message for a name without spaces names no backpressure:
    an occurrence would have to start inside the name, which has no space where the
    phrase has its first, or leave too few characters for the phrase. -/
theorem strContains_notFound {name : String} (h : ' ' ∉ name.data) :
    strContains ("collection " ++ name ++ " not found") "Not enough eligible nodes" = false := by
  have key : ∀ x : List Char, ' ' ∉ x →
      strContains.go "Not enough eligible nodes" (x ++ " not found".data) = false := by
    intro x hx
    induction x with
    | nil => decide
    | cons c cs ih =>
      rw [List.mem_cons, not_or] at hx
      rw [List.cons_append, strContains.go, ih hx.2, Bool.or_false, Bool.eq_false_iff]
      intro hp
      have hpre := List.isPrefixOf_iff_prefix.1 hp
      by_cases hcs : 3 ≤ cs.length
      · have h4 : (c :: (cs ++ " not found".data)).take 4 = ("Not enough eligible nodes".data).take 4 := by
          rw [List.prefix_iff_eq_take.1 hpre, List.take_take]
          rfl
        rw [List.take_succ_cons, List.take_append_of_le_length hcs] at h4
        have hsp : ' ' ∈ c :: cs.take 3 := h4 ▸ (by decide)
        exact (List.mem_cons.1 hsp).elim hx.1 fun e => hx.2 (List.mem_of_mem_take e)
      · have hlen := hpre.length_le
        simp at hlen
        omega
  show strContains.go _ ("collection ".data ++ (name.data ++ " not found".data)) = false
  rw [@strContains_go_append _ 'N' _ rfl _ _ (by decide), key _ h]

/-- Each answer of a cluster whose collections are filed under their names, sent
    as Solr sends it, is read by the call's method as that answer. -/
theorem exchange_respond_answer {E : Engine} (hE : E.Named) {r : Rpc} (hr : r.plain = true) :
    ∃ o, r.exchange (r.respond (E.answer r).1) = .ok o ∧ r.Agree o (E.answer r).1 := by
  generalize ho : (E.answer r).1 = o
  cases r with
  | getClusterStatus =>
    subst ho
    exact ⟨_, getClusterStatus_clusterStatusDoc _ _ _ hE fun k c hk => by
      simp [replicasOf, hk, Engine.replicaNames_nodup], .inl rfl⟩
  | getConfigSets =>
    subst ho
    exact ⟨_, getConfigSets_configSetsDoc _ _, .inl rfl⟩
  | query name _ =>
    subst ho
    simp only [Engine.answer]
    split
    · exact ⟨_, query_selectDoc _ _ _, .inl rfl⟩
    · exact ⟨_, rfl, .inr ⟨⟨_, rfl⟩, _, rfl⟩⟩
  | addReplicas name _ =>
    subst ho
    simp only [Engine.answer]
    split
    · refine ⟨_, rfl, .inr ⟨⟨"add replicas failed for collection [" ++ name ++ "] with [" ++
        "400 Bad Request" ++ "] [" ++ ("collection " ++ name ++ " not found") ++ "]", ?_⟩, _, rfl⟩⟩
      simp only [strContains_notFound (not_mem_of_plainName hr (by decide))]
      rfl
    · exact ⟨_, rfl, .inl rfl⟩
  | _ =>
    cases o with
    | none => exact ⟨_, rfl, .inl rfl⟩
    | some err => exact ⟨_, rfl, .inr ⟨⟨_, rfl⟩, err, rfl⟩⟩

/-- Over HTTP, a plain call from a client the server admits is the cluster's call. -/
theorem Engine.overHttp_eq (E : Engine) {srv : SolrServer} {cl : SolrClient} {r : Rpc}
    (hbase : cl.url = srv.base) (huser : (cl.username, cl.password) ∈ srv.users)
    (hr : r.plain = true) :
    E.overHttp srv cl r = (r.exchange (r.respond (E.answer r).1), (E.answer r).2) := by
  have hserve : E.serve srv (r.request cl) = (r.respond (E.answer r).1, (E.answer r).2) := by
    rw [Engine.serve, if_pos (by rwa [Rpc.request_basicAuth]), ← hbase, Rpc.read_request cl r hr]
  simp only [Engine.overHttp, hserve]

section
variable (lib : Lib)

/-- Every run of passes keeps the collections filed under their names. -/
theorem runPasses_named (turns : List Turn) (solrClient : SolrClient) (c : Conn Engine)
    (h : c.state.Named) : (runPasses Engine.solr lib turns solrClient c).2.state.Named := by
  obtain ⟨calls, hstate, -⟩ := Engine.steps_state (runPasses_steps Engine.solr lib turns solrClient c)
  rw [hstate]
  exact Engine.run_named _ _ h

/-- The engine is Solr seen through its client, along every run: from a cluster
    whose collections are filed under their names, after any run of passes over any
    sets, in any order and with any failures, a Solr server holding the cluster
    reached answers every plain call of a client it admits so that the call's
    method returns what the cluster answers, without panicking, and the server's
    cluster moves as the cluster does. -/
theorem runPasses_served_over_http (turns : List Turn) (solrClient : SolrClient) (c : Conn Engine)
    (h : c.state.Named) (srv : SolrServer) (cl : SolrClient) (r : Rpc) (hbase : cl.url = srv.base)
    (huser : (cl.username, cl.password) ∈ srv.users) (hr : r.plain = true) :
    ((runPasses Engine.solr lib turns solrClient c).2.state.overHttp srv cl r).2 =
        ((runPasses Engine.solr lib turns solrClient c).2.state.answer r).2 ∧
      ∃ o, ((runPasses Engine.solr lib turns solrClient c).2.state.overHttp srv cl r).1 = .ok o ∧
        r.Agree o ((runPasses Engine.solr lib turns solrClient c).2.state.answer r).1 := by
  rw [Engine.overHttp_eq _ hbase huser hr]
  exact ⟨rfl, exchange_respond_answer (runPasses_named lib turns solrClient c h) hr⟩

/-- A pass over a set from an empty cluster, then the cluster's status read over
    HTTP by the set's client. -/
theorem runPasses_served_over_http_from_empty :
    let secrets : String → Option Secret := fun name =>
      if name = "auth" then some ⟨((∅ : GoMap String).insert "username" "u").insert "password" "p"⟩
      else none
    let env : PassEnv := ⟨MapOrder.stored Site, 1, KubeFaults.none, secrets, .ok []⟩
    let set : SolrCollectionSet :=
      ⟨"set", "ns", ⟨"http://solr", "auth", some true, some 1, some true, some true, []⟩, .empty⟩
    let lib : Lib := ⟨Codec.go, .ok []⟩
    let turns : List Turn := [⟨env, ⟨some set, [], []⟩⟩]
    let c : Conn Engine := ⟨⟨∅, ∅, ∅, ∅⟩, []⟩
    let srv : SolrServer := ⟨"http://solr", [("u", "p")]⟩
    let cl : SolrClient := ⟨"u", "p", "http://solr"⟩
    c.state.Named ∧ cl.url = srv.base ∧ (cl.username, cl.password) ∈ srv.users ∧
      Rpc.getClusterStatus.plain = true ∧
      (((runPasses Engine.solr lib turns SolrClient.zero c).2.state.overHttp srv cl .getClusterStatus).2 =
          ((runPasses Engine.solr lib turns SolrClient.zero c).2.state.answer .getClusterStatus).2 ∧
        ∃ o, ((runPasses Engine.solr lib turns SolrClient.zero c).2.state.overHttp srv cl
            .getClusterStatus).1 = .ok o ∧
          Rpc.getClusterStatus.Agree o
            ((runPasses Engine.solr lib turns SolrClient.zero c).2.state.answer .getClusterStatus).1) := by
  intro secrets env set lib turns c srv cl
  have h : c.state.Named := fun k col hk => by simp [c, AList.lookup_empty] at hk
  exact ⟨h, rfl, by decide, rfl,
    runPasses_served_over_http lib turns SolrClient.zero c h srv cl .getClusterStatus rfl (by decide) rfl⟩

end

end SolrOperator
