/-
  SolrOperator.Controller.Process

  One operator process, reconciling any sets in any order. The passes share the
  Solr side and the package-level `solrClient`: `InitializeSolrCluster` builds the
  client only while it is the zero value, from the secret and URL of the set whose
  pass it is, and every later pass, for whichever set, reuses it. Each pass is
  given its own set's API server state, so a run quantifies over every history of
  the sets' objects.
-/
import SolrOperator.Controller.Pass

namespace SolrOperator

/-- One pass of a run: what the pass reads, and the API server holding its set. -/
structure Turn where
  env : PassEnv
  api : ApiServer

section
variable {σ : Type} (sv : Solr σ) (lib : Lib)

/-- Passes one after another in one process: the package-level client and the
    Solr side carry from each pass to the next. -/
def runPasses : List Turn → SolrClient → Conn σ → SolrClient × Conn σ
  | [], solrClient, c => (solrClient, c)
  | t :: ts, solrClient, c =>
    let r := reconcile sv lib t.env ⟨solrClient, c, t.api⟩
    runPasses ts r.2.solrClient r.2.conn

/-- A pass keeps a non-zero package-level client. -/
theorem reconcile_keeps_client (env : PassEnv) (s : PassState σ)
    (h : s.solrClient ≠ SolrClient.zero) : (reconcile sv lib env s).2.solrClient = s.solrClient := by
  simp only [reconcile]
  split
  · rfl
  split
  · rfl
  split
  · split <;> rfl
  split
  · rfl
  rw [reconcileSolr_solrClient, ensureSolrClient, if_neg h]

/-- From a non-zero package-level client, a pass over any set calls only through it. -/
theorem reconcile_calls_through_cached (env : PassEnv) (s : PassState σ)
    (h : s.solrClient ≠ SolrClient.zero) :
    Conn.Extends (fun x => x.1 = s.solrClient) s.conn (reconcile sv lib env s).2.conn := by
  cases hs : s.api.stored with
  | some obj =>
    refine (reconcile_extends sv lib env s hs).mono fun x ⟨h1, _⟩ => ?_
    rw [ensureSolrClient, if_neg h] at h1
    exact (Prod.mk.inj h1).1.symm
  | none =>
    obtain ⟨err, hget⟩ : ∃ err, s.api.get env.faults.get = .error err := by
      cases env.faults.get <;> simp [ApiServer.get, hs]
    simp only [reconcile, hget]
    exact .refl _ _

/-- A pass from the zero client calls only through the client `makeSolrClient` builds
    from its own set's secret and URL. -/
theorem reconcile_builds_client (env : PassEnv) (c : Conn σ) (obj : SolrCollectionSet)
    (events : List Event) (writes : List KubeWrite) :
    Conn.Extends (fun x => makeSolrClient env obj.spec.secretRef obj.spec.solrClusterUrl = .ok x.1) c
      (reconcile sv lib env ⟨SolrClient.zero, c, ⟨some obj, events, writes⟩⟩).2.conn :=
  (reconcile_extends sv lib env _ rfl).mono fun x ⟨h1, _⟩ => by
    simp only [ensureSolrClient, if_true] at h1
    split at h1
    · exact absurd (Prod.mk.inj h1).2 (by simp)
    next heq => rw [← (Prod.mk.inj h1).1, heq]

/-- From a non-zero client, a run of passes over any sets keeps the client and calls
    only through it. -/
theorem runPasses_keeps_client (solrClient : SolrClient) (h : solrClient ≠ SolrClient.zero) :
    ∀ (turns : List Turn) (c : Conn σ), (runPasses sv lib turns solrClient c).1 = solrClient ∧
      Conn.Extends (fun x => x.1 = solrClient) c (runPasses sv lib turns solrClient c).2
  | [], _ => ⟨rfl, .refl _ _⟩
  | t :: ts, c => by
    have hkeep := reconcile_keeps_client sv lib t.env ⟨solrClient, c, t.api⟩ h
    obtain ⟨h1, h2⟩ := runPasses_keeps_client solrClient h ts
      (reconcile sv lib t.env ⟨solrClient, c, t.api⟩).2.conn
    simp only [runPasses, hkeep]
    exact ⟨h1, (reconcile_calls_through_cached sv lib t.env _ h).trans h2⟩

/-- Whatever the API server holds, a pass moves the Solr side only by `PassCall`s of
    the set it holds. -/
theorem reconcile_steps_held (env : PassEnv) (s : PassState σ) :
    sv.Steps (fun x => ∃ obj, s.api.stored = some obj ∧ PassCall obj.name obj.spec env.configMaps x.2)
      s.conn (reconcile sv lib env s).2.conn := by
  cases hs : s.api.stored with
  | some obj => exact (reconcile_steps sv lib env s hs).mono fun x ⟨_, h⟩ => ⟨obj, rfl, h⟩
  | none =>
    obtain ⟨err, hget⟩ : ∃ err, s.api.get env.faults.get = .error err := by
      cases env.faults.get <;> simp [ApiServer.get, hs]
    simp only [reconcile, hget]
    exact .refl _ _

/-- A run of passes over any sets in any order moves the Solr side only by
    `PassCall`s of the sets its turns hold. -/
theorem runPasses_steps : ∀ (turns : List Turn) (solrClient : SolrClient) (c : Conn σ),
    sv.Steps (fun x => ∃ t ∈ turns, ∃ obj, t.api.stored = some obj ∧
        PassCall obj.name obj.spec t.env.configMaps x.2) c (runPasses sv lib turns solrClient c).2
  | [], _, c => .refl _ c
  | t :: ts, solrClient, c =>
    ((reconcile_steps_held sv lib t.env ⟨solrClient, c, t.api⟩).mono
      fun _ h => ⟨t, List.mem_cons_self _ _, h⟩).trans
    ((runPasses_steps ts _ _).mono fun _ ⟨t', ht', h⟩ => ⟨t', List.mem_cons_of_mem _ ht', h⟩)

/-- The package-level client of one process: the pass that starts from the zero
    client calls only through the client built from its own set's secret and URL,
    and from then on every run of passes, over any sets in any order, keeps that
    client and calls only through it. -/
theorem runPasses_shares_one_client :
    (∀ (env : PassEnv) (c : Conn σ) (obj : SolrCollectionSet) (events : List Event)
      (writes : List KubeWrite), Conn.Extends
        (fun x => makeSolrClient env obj.spec.secretRef obj.spec.solrClusterUrl = .ok x.1) c
        (reconcile sv lib env ⟨SolrClient.zero, c, ⟨some obj, events, writes⟩⟩).2.conn) ∧
    ∀ (solrClient : SolrClient), solrClient ≠ SolrClient.zero → ∀ (turns : List Turn) (c : Conn σ),
      (runPasses sv lib turns solrClient c).1 = solrClient ∧
        Conn.Extends (fun x => x.1 = solrClient) c (runPasses sv lib turns solrClient c).2 :=
  ⟨reconcile_builds_client sv lib, runPasses_keeps_client sv lib⟩

end

/-- Two sets on two clusters, each with its own basic auth secret, reconciled in one
    process: the pass for the second set reaches Solr through the client the first
    pass built, with the first set's URL and credentials, not through the client its
    own URL and secret give. -/
theorem second_set_uses_first_client :
    let secrets : String → Option Secret := fun name =>
      if name = "auth-a" then some ⟨((∅ : GoMap String).insert "username" "ua").insert "password" "pa"⟩
      else if name = "auth-b" then some ⟨((∅ : GoMap String).insert "username" "ub").insert "password" "pb"⟩
      else none
    let env : PassEnv := ⟨MapOrder.stored Site, 0, KubeFaults.none, secrets, .ok []⟩
    let set (name url secretRef : String) : SolrCollectionSet :=
      ⟨name, "ns", ⟨url, secretRef, some true, some 1, some true, some false, []⟩, .empty⟩
    let lib : Lib := ⟨Codec.go, .ok []⟩
    makeSolrClient env "auth-b" "http://solr-b" = .ok ⟨"ub", "pb", "http://solr-b"⟩ ∧
    (runPasses (Solr.failing "unreachable") lib
        [⟨env, ⟨some (set "a" "http://solr-a" "auth-a"), [], []⟩⟩,
          ⟨env, ⟨some (set "b" "http://solr-b" "auth-b"), [], []⟩⟩]
        SolrClient.zero ⟨(), []⟩).2.log = [(⟨"ua", "pa", "http://solr-a"⟩, .getClusterStatus),
          (⟨"ua", "pa", "http://solr-a"⟩, .getClusterStatus)] :=
  ⟨rfl, by decide⟩

theorem runPasses_shares_one_client_after_first :
    let cl : SolrClient := ⟨"u", "p", "http://solr-a"⟩
    let env : PassEnv := ⟨MapOrder.stored Site, 0, KubeFaults.none, fun _ => none, .ok []⟩
    let set : SolrCollectionSet :=
      ⟨"b", "ns", ⟨"http://solr-b", "auth", some true, some 1, some true, some false, []⟩, .empty⟩
    let lib : Lib := ⟨Codec.go, .ok []⟩
    cl ≠ SolrClient.zero ∧
      (runPasses (Solr.failing "unreachable") lib [⟨env, ⟨some set, [], []⟩⟩] cl ⟨(), []⟩).1 = cl ∧
      Conn.Extends (fun x => x.1 = cl) ⟨(), []⟩
        (runPasses (Solr.failing "unreachable") lib [⟨env, ⟨some set, [], []⟩⟩] cl ⟨(), []⟩).2 :=
  ⟨by decide, (runPasses_shares_one_client (Solr.failing "unreachable") ⟨Codec.go,
    .ok []⟩).2 _ (by decide) _ _⟩

end SolrOperator
