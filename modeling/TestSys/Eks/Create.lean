import TestSys.Eks.Describe

/-! # `EksCreator::create`

`create` records the policy and credentials in the memo, decides whether the
cluster has to be created, and if so sets `provisioning_started`, sends the
memo and runs `create_cluster`; it then writes the kubeconfig and reads the
cluster back.  Each phase is announced by a memo.

`create_keepsRules`: on every run, whatever the collaborators answer, `create`
keeps the rules of `Progress` (each memo sent extends the one before, the
credentials change once at most, to the spec's, and each step of creating the
cluster is new and comes after the checkpoint).  `create_checkpointBeforeCreating`
reads the checkpoint and the count of steps off it. -/
set_option autoImplicit false

namespace TestSys.Eks

open Run

variable (w : EksWorld)

/-- The spec's credentials: the name of its AWS secret and the role to assume. -/
def specCredentials (spec : Spec) : Option String × Option String :=
  (spec.secrets.lookup w.awsCredentialsSecretName, spec.configuration.assumeRole)

/-- Lines 463–543 of `create`: the memo records the creation policy and the
credentials, the AWS configurations are built, and the cluster's state decides
whether to create it. -/
def createSetup (spec : Spec) : EksRun (ProductionMemo × ClusterConfig × Bool) := do
  let mut memo ← context .clear "Unable to get info from client" (← getInfo w)
  memo := { memo with
    currentStatus := "Initializing agent",
    creationPolicy := some (spec.configuration.creationPolicy.getD default) }
  context .clear "Error sending cluster creation message" (← sendInfo w memo)
  let clusterConfig ← ClusterConfig.new w spec.configuration.config
  memo := { memo with currentStatus := "Getting AWS secret" }
  context .clear "Error sending cluster creation message" (← sendInfo w memo)
  memo := { memo with
    awsSecretName := spec.secrets.lookup w.awsCredentialsSecretName,
    assumeRole := spec.configuration.assumeRole }
  memo := { memo with currentStatus := "Creating AWS config" }
  context .clear "Error sending cluster creation message" (← sendInfo w memo)
  context .clear "Error creating config" (← awsConfig w
    ⟨spec.secrets.lookup w.awsCredentialsSecretName, spec.configuration.assumeRole,
      some clusterConfig.region, none⟩)
  context .clear "Error creating EKS client config" (← awsConfig w
    ⟨spec.secrets.lookup w.awsCredentialsSecretName, spec.configuration.assumeRole,
      some clusterConfig.region, spec.configuration.eksServiceEndpoint⟩)
  memo := { memo with currentStatus := "Determining cluster state" }
  context .clear "Error sending cluster creation message" (← sendInfo w memo)
  let (doCreate, message) ← isEksClusterCreationRequired w clusterConfig.clusterName
    (spec.configuration.creationPolicy.getD default)
  memo := { memo with currentStatus := message }
  context .clear "Error sending cluster creation message" (← sendInfo w memo)
  pure (memo, clusterConfig, doCreate)

/-- Lines 546–561: provisioning started is recorded, and the cluster created. -/
def createProvision (memo : ProductionMemo) (clusterConfig : ClusterConfig) :
    EksRun ProductionMemo := do
  let memo := { memo with currentStatus := "Creating cluster", provisioningStarted := true }
  context .clear "Error sending cluster creation message" (← sendInfo w memo)
  clusterConfig.createCluster w
  let memo := { memo with currentStatus := "Cluster creation complete" }
  context .remaining "Error sending cluster creation message" (← sendInfo w memo)
  pure memo

/-- Lines 544 and 563–607: the kubeconfig is written and read, and the cluster
read back. -/
def createReadBack (fuel : Nat) (spec : Spec) (memo : ProductionMemo) (clusterConfig : ClusterConfig) :
    EksRun CreatedCluster := do
  let kubeconfigDir := w.kubeconfigDir
  let mut memo := { memo with currentStatus := "Writing cluster kubeconfig" }
  context .remaining "Error sending cluster creation message" (← sendInfo w memo)
  writeKubeconfig w clusterConfig.clusterName spec.configuration.eksServiceEndpoint
    clusterConfig.region kubeconfigDir
  let kubeconfig ← context .remaining "Unable to read kubeconfig." (← readToString w kubeconfigDir)
  let encodedKubeconfig := w.base64Encode kubeconfig
  memo := { memo with currentStatus := "Collecting cluster info" }
  context .remaining "Error sending cluster creation message" (← sendInfo w memo)
  let createdCluster ← createdCluster w fuel encodedKubeconfig clusterConfig.clusterName
    clusterConfig.region
  memo := { memo with
    currentStatus := "Cluster ready", clusterName := some clusterConfig.clusterName,
    region := some clusterConfig.region }
  context .remaining "Error sending cluster created message" (← sendInfo w memo)
  pure createdCluster

def create (fuel : Nat) (spec : Spec) : EksRun CreatedCluster := do
  let (memo, clusterConfig, doCreate) ← createSetup w spec
  let memo ← if doCreate then createProvision w memo clusterConfig else pure memo
  createReadBack w fuel spec memo clusterConfig

/-- The cluster a memo points a cleanup at: the name and the region it records. -/
def ProductionMemo.target (m : ProductionMemo) : Option String × Option String :=
  (m.clusterName, m.region)

/-! ## What each phase calls and how it fails -/

/-- Deciding makes quiet calls and sends memos, and fails `Clear`. -/
theorem createSetup_does (spec : Spec) :
    Does (fun c => c.Quiet ∨ ∃ memo result, c = .sendInfo memo result) (·.resources = .clear)
      (createSetup w spec) := by
  unfold createSetup getInfo sendInfo awsConfig
  repeat' first
    | with_reducible refine does_bind ?_ fun _ => ?_
    | with_reducible exact does_pure _
    | with_reducible exact does_context _ rfl
    | exact does_call fun _ => .inl rfl
    | exact does_call fun _ => .inr ⟨_, _, rfl⟩
    | with_reducible exact does_monadLift (clusterConfigNew_fails w _)
    | exact (isEksClusterCreationRequired_does w _ _).mono (fun _ => .inl) fun _ => id

/-- Provisioning sends memos that point where `memo` points, and makes the
calls of `create_cluster`. -/
theorem createProvision_logs (memo : ProductionMemo) (clusterConfig : ClusterConfig) :
    Logs (fun c => (∃ memo' result, c = .sendInfo memo' result ∧ memo'.target = memo.target) ∨
        Call.OfCreateCluster w clusterConfig c)
      (createProvision w memo clusterConfig) :=
  logs_bind (logs_call fun _ => .inl ⟨_, _, rfl, rfl⟩) fun _ => logs_bind (logs_monadLift _) fun _ =>
    logs_bind ((createCluster_does w _).logs.mono fun _ => .inr) fun _ =>
      logs_bind (logs_call fun _ => .inl ⟨_, _, rfl, rfl⟩) fun _ =>
        logs_bind (logs_monadLift _) fun _ => logs_pure _

/-- Reading the cluster back makes quiet calls and sends memos that point where
`memo` points or at the cluster `clusterConfig` names, and fails `Remaining`. -/
theorem createReadBack_does (fuel : Nat) (spec : Spec) (memo : ProductionMemo)
    (clusterConfig : ClusterConfig) :
    Does (fun c => c.Quiet ∨ ∃ memo' result, c = .sendInfo memo' result ∧ (memo'.target = memo.target ∨
        memo'.target = (some clusterConfig.clusterName, some clusterConfig.region)))
      (·.resources = .remaining) (createReadBack w fuel spec memo clusterConfig) := by
  unfold createReadBack sendInfo readToString
  repeat' first
    | with_reducible refine does_bind ?_ fun _ => ?_
    | with_reducible exact does_pure _
    | with_reducible exact does_context _ rfl
    | exact does_call fun _ => .inl rfl
    | exact does_call fun _ => .inr ⟨_, _, rfl, .inl rfl⟩
    | exact does_call fun _ => .inr ⟨_, _, rfl, .inr rfl⟩
    | exact (writeKubeconfig_does w _ _ _ _).mono (fun _ => .inl) fun _ => id
    | exact (createdCluster_does w _ _ _ _).mono (fun _ => .inl) fun _ => id

/-! ## Every run keeps the rules -/

theorem createSetup_keepsRules (spec : Spec) (log : Log) (m0 : ProductionMemo)
    (got : w.getInfo log = some m0) :
    KeepsRules (specCredentials w spec) (· = .init m0) (fun a p => p.memo = a.1 ∧ p.steps = []) log
      (createSetup w spec log) := by
  simp only [createSetup, getInfo, sendInfo, awsConfig, call_context_bind, call_context, got]
  repeat' first
    | split
    | simp only [call_context_bind, call_context, pure_apply]
    | with_reducible
        refine quiet_bind (by first
          | with_reducible_and_instances exact logs_monadLift _
          | with_reducible exact (isEksClusterCreationRequired_does w _ _).logs)
          (fun _ _ hn => ?_) (fun _ _ hn => ?_) (fun _ _ hn => ?_)
  all_goals
    simp only [List.append_assoc, List.singleton_append]
    refine keepsRules_of _ _ fun p hp => ?_
    subst hp
    simp [*, Progress.init, Progress.next, ProductionMemo.Extends, ProductionMemo.credentials,
      specCredentials]

theorem createProvision_keepsRules (specCredentials : Option String × Option String)
    (memo : ProductionMemo) (clusterConfig : ClusterConfig) (log : Log) :
    KeepsRules specCredentials (fun p => p.memo = memo ∧ p.steps = []) (fun memo' p => p.memo = memo')
      log (createProvision w memo clusterConfig log) := by
  simp only [createProvision, sendInfo, call_context_bind]
  split
  · refine bind_apply_of_appends (ClusterConfig.createCluster_steps w _ _) (fun _ _ hn => ?_)
      (fun _ _ hn => ?_) (fun _ _ hn => ?_)
    all_goals
      obtain ⟨steps, sublist, hn⟩ := hn
      have nodup : steps.Nodup := sublist.nodup (by decide)
      try simp only [call_context_bind, pure_apply]
      try split
      all_goals
        simp only [List.append_assoc, List.singleton_append]
        refine keepsRules_of _ _ ?_
        rintro ⟨_, _, _⟩ ⟨rfl, rfl⟩
        simp [hn, nodup, Progress.next, Progress.run_append, Progress.run_steps,
          ProductionMemo.Extends, ProductionMemo.credentials]
  · refine keepsRules_of _ _ ?_
    rintro ⟨_, _, _⟩ ⟨rfl, rfl⟩
    simp [Progress.next, ProductionMemo.Extends, ProductionMemo.credentials]

theorem createReadBack_keepsRules (specCredentials : Option String × Option String) (fuel : Nat)
    (spec : Spec) (memo : ProductionMemo) (clusterConfig : ClusterConfig) (log : Log) :
    KeepsRules specCredentials (fun p => p.memo = memo) (fun _ _ => True) log
      (createReadBack w fuel spec memo clusterConfig log) := by
  simp only [createReadBack, sendInfo, readToString, call_context_bind]
  repeat' first
    | split
    | simp only [call_context_bind, call_context, pure_apply]
    | with_reducible
        refine quiet_bind (by first
          | with_reducible exact (writeKubeconfig_does w _ _ _ _).logs
          | with_reducible exact (createdCluster_does w _ _ _ _).logs)
          (fun _ _ hn => ?_) (fun _ _ hn => ?_) (fun _ _ hn => ?_)
  all_goals
    try simp only [List.append_assoc, List.singleton_append]
    refine keepsRules_of _ _ ?_
    rintro ⟨_, _, _⟩ rfl
    simp [*, Progress.next, ProductionMemo.Extends, ProductionMemo.credentials]

/-- `create` keeps the rules of provisioning from the memo it reads. -/
theorem create_keepsRules (fuel : Nat) (spec : Spec) (m0 : ProductionMemo)
    (got : w.getInfo [] = some m0) :
    KeepsRules (specCredentials w spec) (· = .init m0) (fun _ _ => True) [] (create w fuel spec []) := by
  refine KeepsRules.bind (createSetup_keepsRules w spec [] m0 got) fun ⟨memo, clusterConfig, doCreate⟩ log => ?_
  cases doCreate <;> dsimp only [Bool.false_eq_true, ite_false, ite_true]
  · exact KeepsRules.bind (KeepsRules.pure memo fun _ hp => hp.1) fun memo' log' =>
      createReadBack_keepsRules w _ fuel spec memo' clusterConfig log'
  · exact KeepsRules.bind (createProvision_keepsRules w _ memo clusterConfig log) fun memo' log' =>
      createReadBack_keepsRules w _ fuel spec memo' clusterConfig log'

/-- Create the cluster `test-cluster` from eksctl arguments, with no secret and
no role. -/
def exampleSpec : Spec := ⟨⟨some .create, none, .args "test-cluster" none none none, none⟩, []⟩

theorem createSetup_of_getInfo_none (spec : Spec) (log : Log) (failed : w.getInfo log = none) :
    createSetup w spec log = (.error ⟨.clear, "Unable to get info from client"⟩, log ++ [.getInfo none]) := by
  simp [createSetup, getInfo, failed]

/-! ## Checkpoint before creating -/

/-- Every step of creating the cluster comes after an acknowledged memo with
provisioning started, and no step is taken twice. -/
theorem create_checkpointBeforeCreating (fuel : Nat) (spec : Spec) :
    let log := (create w fuel spec []).2
    (∀ before e after s, log = before ++ e :: after → e.effect = some (.step s) →
      ∃ memo, .sendInfo memo (some ()) ∈ before ∧ memo.provisioningStarted = true) ∧
    ∀ s, (effects log).count (.step s) ≤ 1 := by
  intro log
  rcases got : w.getInfo [] with _ | m0
  · have failed : log = [.getInfo none] := by
      simp [log, create, bind_apply, createSetup_of_getInfo_none w spec [] got]
    refine ⟨fun before e after s split creates => ?_, fun s => by simp [failed]⟩
    rw [failed] at split
    rcases before with _ | ⟨_, _ | _⟩
    · obtain ⟨rfl, -⟩ : Call.getInfo none = e ∧ after = [] := by simpa using split
      simp at creates
    all_goals simp at split
  · obtain ⟨new, hlog, hrules⟩ := create_keepsRules w fuel spec m0 got
    obtain ⟨p, hrun, -⟩ := hrules _ rfl
    simp only [List.nil_append] at hlog
    rw [← hlog] at hrun
    exact ⟨exists_checkpoint_before (Progress.run_checkpointed hrun rfl),
      fun s => (Progress.run_count hrun s).2⟩

end TestSys.Eks
