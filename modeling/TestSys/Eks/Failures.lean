import TestSys.Eks.Create

/-! # How `create` classifies its failures

A provider error carries the `Resources` a failure leaves: `Clear` tells the
controller that nothing needs cleaning up, `Remaining` that `destroy` has to
run.  Every failure of reading the cluster back (`created_cluster`,
`write_kubeconfig`, and what they call) is `Remaining`; every failure of
deciding whether to create the cluster and of creating it (`ClusterConfig::new`,
`does_cluster_exist`, `create_yaml`, `create_cluster`) is `Clear`.

`create_failure_resources`: deciding and creating fail `Clear`, reading back
fails `Remaining`, and `create` fails only `Clear` or `Remaining`, never
`Orphaned` or `Unknown`, `Clear` only while no `eksctl create cluster` of the
run succeeded: it never reports that nothing needs cleaning up after it created
the cluster. -/
set_option autoImplicit false

namespace TestSys.Eks

open Run

/-! ## `Clear` only while the cluster was not created -/

/-- No `eksctl create cluster` among the calls succeeded. -/
def NoneCreated (log : Log) : Prop :=
  ∀ configPath status, Call.command "eksctl" ["create", "cluster", "-f", configPath] (some status) ∈ log →
    status.success = false

theorem noneCreated_append {log log' : Log} (h : NoneCreated log) (h' : NoneCreated log') :
    NoneCreated (log ++ log') := fun configPath status mem =>
  (List.mem_append.mp mem).elim (h configPath status) (h' configPath status)

/-- Calls none of which is `eksctl create`. -/
theorem noneCreated_of_effects {log : Log} (h : ∀ c ∈ log, c.effect ≠ some (.step .eksctl)) :
    NoneCreated log := fun _ _ mem => absurd (by simp) (h _ mem)

/-- Deciding whether to create the cluster runs no `eksctl`. -/
theorem createSetup_call_notCreating {c : Call} (h : c.Quiet ∨ ∃ memo result, c = .sendInfo memo result) :
    c.effect ≠ some (.step .eksctl) := by
  rcases h with quiet | ⟨memo, result, rfl⟩
  · unfold Call.Quiet at quiet
    simp [quiet]
  · cases result <;> simp [Call.effect]

section Created

variable (w : EksWorld)

/-- The file `create_yaml` writes creates nothing. -/
theorem Call.OfYaml.notCreating {clusterName region version : String} {c : Call}
    (h : Call.OfYaml w clusterName region version c) : c.effect ≠ some (.step .eksctl) := by
  cases c <;> first | exact h.elim | simp [Call.effect]

/-- The run from `log` that ended with `result`, when it failed, appended calls
none of which is a successful `eksctl create cluster`. -/
def FailsUncreated {α : Type} (log : Log) (result : Outcome ProviderError α × Log) : Prop :=
  ∀ e, result.1 = .error e → ∃ new, result.2 = log ++ new ∧ NoneCreated new

/-- A failed run from `log ++ new`, where `new` created nothing, created
nothing from `log`. -/
theorem FailsUncreated.shift {α : Type} {log new : Log} {result : Outcome ProviderError α × Log}
    (uncreated : NoneCreated new) (h : FailsUncreated (log ++ new) result) : FailsUncreated log result :=
  fun e failed =>
    let ⟨more, hlog, more_uncreated⟩ := h e failed
    ⟨new ++ more, by rw [hlog, List.append_assoc], noneCreated_append uncreated more_uncreated⟩

/-- When `create_cluster` fails, no `eksctl create cluster` of its calls
succeeded. -/
theorem createCluster_error (self : ClusterConfig) (log : Log) :
    FailsUncreated log (self.createCluster w log) := by
  cases self <;> simp only [ClusterConfig.createCluster, command, pure_bind, call_context_bind]
  -- For eksctl arguments the file written first creates nothing; both then run eksctl.
  refine bind_apply_of_appends
    (((createYaml_does w _ _ _ _).logs.mono fun _ => Call.OfYaml.notCreating w) log) (fun _ new quiet => ?_)
    (fun _ new quiet _ _ => ⟨new, rfl, noneCreated_of_effects quiet⟩) (fun _ _ _ _ h => nomatch h)
  refine FailsUncreated.shift (noneCreated_of_effects quiet) ?_
  simp only [call_context_bind]
  all_goals
    split
    · split
      · exact fun _ _ => ⟨_, rfl, fun _ _ mem => by simp_all⟩
      · exact fun _ h => nomatch h
    · exact fun _ _ => ⟨_, rfl, fun _ _ mem => by simp_all⟩

/-- `create`'s provisioning fails `Remaining`, or fails `Clear` before any
`eksctl create cluster` of it succeeded. -/
theorem createProvision_error (memo : ProductionMemo) (clusterConfig : ClusterConfig) (log after : Log)
    (e : ProviderError) (h : createProvision w memo clusterConfig log = (.error e, after)) :
    e.resources = .remaining ∨ e.resources = .clear ∧ ∃ new, after = log ++ new ∧ NoneCreated new := by
  simp only [createProvision, sendInfo, call_context_bind] at h
  split at h
  · rw [bind_apply] at h
    rcases created : clusterConfig.createCluster w _ with ⟨_ | e' | _, mid⟩ <;> rw [created] at h
    · simp only [call_context_bind] at h
      split at h <;> cases h
      exact .inl rfl
    · cases h
      obtain ⟨new, appended, uncreated⟩ := createCluster_error w clusterConfig _ e (by rw [created])
      obtain rfl : after = _ := by simpa [created] using appended
      refine .inr ⟨(createCluster_does w clusterConfig).fails _ e (by rw [created]), [_] ++ new, rfl,
        noneCreated_append (fun _ _ mem => by simp at mem) uncreated⟩
    · cases h
  · cases h
    exact .inr ⟨rfl, _, rfl, fun _ _ mem => by simp at mem⟩

end Created

/-- Deciding whether to create the cluster and creating it fail `Clear`, reading
the created cluster back fails `Remaining`, and `create` fails only `Clear` or
`Remaining`, `Clear` only when no `eksctl create cluster` of the run
succeeded. -/
theorem create_failure_resources (w : EksWorld) (fuel : Nat) (spec : Spec) :
    Fails (·.resources = .clear) (createSetup w spec) ∧
    (∀ clusterConfig : ClusterConfig, Fails (·.resources = .clear) (clusterConfig.createCluster w)) ∧
    (∀ memo clusterConfig, Fails (·.resources = .remaining) (createReadBack w fuel spec memo clusterConfig)) ∧
    ∀ e, (create w fuel spec []).1 = .error e →
      e.resources = .remaining ∨ e.resources = .clear ∧
        ∀ configPath status, Call.command "eksctl" ["create", "cluster", "-f", configPath] (some status) ∈
          (create w fuel spec []).2 → status.success = false := by
  refine ⟨(createSetup_does w spec).fails, fun clusterConfig => (createCluster_does w clusterConfig).fails,
    fun memo clusterConfig => (createReadBack_does w fuel spec memo clusterConfig).fails, fun e failed => ?_⟩
  rcases hrun : create w fuel spec [] with ⟨_ | e' | _, log⟩ <;> rw [hrun] at failed <;> cases failed
  show e.resources = .remaining ∨ e.resources = .clear ∧ NoneCreated log
  obtain ⟨new, setupLog, quiet⟩ := ((createSetup_does w spec).logs.mono fun _ => createSetup_call_notCreating) []
  simp only [create, bind_apply] at hrun
  rcases setup : createSetup w spec [] with ⟨⟨memo, clusterConfig, _ | _⟩ | e' | _, mid⟩ <;>
    rw [setup] at hrun setupLog <;> simp only [Bool.false_eq_true, ↓reduceIte, pure_bind] at hrun
  · exact .inl ((createReadBack_does w fuel spec memo clusterConfig).fails mid e (by rw [hrun]))
  · rw [bind_apply] at hrun
    rcases provision : createProvision w memo clusterConfig mid with ⟨_ | e' | _, after⟩ <;>
      rw [provision] at hrun <;> dsimp only at hrun
    · exact .inl ((createReadBack_does w fuel spec _ clusterConfig).fails after e (by rw [hrun]))
    · cases hrun
      obtain rfl : mid = new := by simpa using setupLog
      refine (createProvision_error w memo clusterConfig mid log e provision).imp_right ?_
      rintro ⟨clear, more, rfl, uncreated⟩
      exact ⟨clear, noneCreated_append (noneCreated_of_effects quiet) uncreated⟩
    · cases hrun
  · cases hrun
    obtain rfl : log = new := by simpa using setupLog
    exact .inr ⟨(createSetup_does w spec).fails [] e (by rw [setup]), noneCreated_of_effects quiet⟩
  · cases hrun

theorem create_failure_resources_eksctlFails :
    (create (exampleWorld {} true [] (.exited 1)) 1 exampleSpec []).1 =
      .error ⟨.clear, "Failed create cluster with status code exit status: 1"⟩ ∧
    ((⟨.clear, "Failed create cluster with status code exit status: 1"⟩ : ProviderError).resources = .remaining ∨
      (⟨.clear, "Failed create cluster with status code exit status: 1"⟩ : ProviderError).resources = .clear ∧
      ∀ configPath status, Call.command "eksctl" ["create", "cluster", "-f", configPath] (some status) ∈
        (create (exampleWorld {} true [] (.exited 1)) 1 exampleSpec []).2 → status.success = false) :=
  ⟨by decide, (create_failure_resources _ 1 exampleSpec).2.2.2 _ (by decide)⟩

end TestSys.Eks
