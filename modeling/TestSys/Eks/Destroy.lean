import TestSys.Eks.Create

/-! # `EksDestroyer::destroy`, and what it finds of `create`

`destroy` reads the memo and does nothing unless provisioning started; it then
needs the cluster's name from the memo, builds the AWS configuration from the
memo's credentials and region, and runs `eksctl delete cluster`.

`memo_monotone`: every memo `create` or `destroy` sends keeps what the memo
read and every earlier memo record of provisioning, and the credentials change
at most once, to the spec's. -/
set_option autoImplicit false

namespace TestSys.Eks

open Run

variable (w : EksWorld)

def destroy : EksRun Unit := do
  let mut memo ← context .remaining "Unable to get info from client" (← getInfo w)
  if !memo.provisioningStarted then
    return ()
  let clusterName ← match memo.clusterName with
    | some clusterName => pure clusterName
    | none => fail ⟨.unknown, "Unable to obtain cluster name"⟩
  context .clear "Error creating config" (← awsConfig w
    ⟨memo.awsSecretName, memo.assumeRole, memo.region, none⟩)
  let region := memo.region.getD defaultRegion
  let status ← context .remaining "Failed to run eksctl delete command"
    (← command w "eksctl" ["delete", "cluster", "--name", clusterName, "-r", region])
  if !status.success then
    fail ⟨.orphaned, "Failed to delete cluster with status code " ++ toString status⟩
  memo := { memo with currentStatus := "Cluster deleted" }
  -- A failure to send the last memo is only printed.
  let _ ← sendInfo w memo

theorem destroy_of_no_clusterName (log : Log) (m0 : ProductionMemo) (got : w.getInfo log = some m0)
    (started : m0.provisioningStarted = true) (noName : m0.clusterName = none) :
    destroy w log = (.error ⟨.unknown, "Unable to obtain cluster name"⟩, log ++ [.getInfo (some m0)]) := by
  simp [destroy, getInfo, got, started, noName]

theorem destroy_of_awsConfig_failure (log : Log) (m0 : ProductionMemo) (clusterName : String)
    (got : w.getInfo log = some m0) (started : m0.provisioningStarted = true)
    (named : m0.clusterName = some clusterName)
    (failed : w.awsConfig (log ++ [.getInfo (some m0)]) ⟨m0.awsSecretName, m0.assumeRole, m0.region, none⟩ =
      none) :
    destroy w log = (.error ⟨.clear, "Error creating config"⟩,
      log ++ [.getInfo (some m0), .awsConfig ⟨m0.awsSecretName, m0.assumeRole, m0.region, none⟩ none]) := by
  simp [destroy, getInfo, awsConfig, got, started, named, failed]

/-- The memos `destroy` sends: at most one, the memo read with its status set. -/
theorem destroy_sentMemos (m0 : ProductionMemo) (got : w.getInfo [] = some m0) :
    sentMemos (effects (destroy w []).2) ⊆ [{ m0 with currentStatus := "Cluster deleted" }] := by
  simp only [destroy, getInfo, awsConfig, command, sendInfo, call_context_bind, got]
  repeat' first
    | split
    | simp only [call_context_bind, pure_bind]
    | simp only [map_eq_pure_bind, call_bind_apply, pure_apply]
  all_goals simp_all

/-! ## Memos only gain information -/

/-- Every memo `create` or `destroy` sends keeps what the memo read and every
memo sent before it record of provisioning; in `create` the credentials change
at most once, to the spec's, and `destroy` changes none. -/
theorem memo_monotone :
    (∀ w fuel spec m0, w.getInfo [] = some m0 →
      let memos := sentMemos (effects (create w fuel spec []).2)
      (m0 :: memos).Pairwise ProductionMemo.Extends ∧
      ∃ before after, memos = before ++ after ∧ (∀ m ∈ before, m.credentials = m0.credentials) ∧
        ∀ m ∈ after, m.credentials = specCredentials w spec) ∧
    (∀ w m0, w.getInfo [] = some m0 →
      ∀ m ∈ sentMemos (effects (destroy w []).2), m0.Extends m ∧ m.credentials = m0.credentials) := by
  refine ⟨fun w fuel spec m0 got => ?_, fun w m0 got m sent => ?_⟩
  · obtain ⟨new, hlog, hrules⟩ := create_keepsRules w fuel spec m0 got
    obtain ⟨p, hrun, -⟩ := hrules _ rfl
    simp only [List.nil_append] at hlog
    rw [← hlog] at hrun
    exact ⟨List.chain_iff_pairwise.mp (Progress.run_chain hrun), Progress.run_credentials hrun⟩
  · obtain rfl := List.mem_singleton.mp (destroy_sentMemos w m0 got sent)
    simp [ProductionMemo.Extends, ProductionMemo.credentials]

/-- The memo read names a secret, the spec none: `create` sends a memo without
it. -/
theorem create_dropsSecretName :
    let m0 : ProductionMemo := { awsSecretName := some "aws-credentials" }
    (exampleWorld m0 false [] (.exited 0)).getInfo [] = some m0 ∧
    ∃ m ∈ sentMemos (effects (create (exampleWorld m0 false [] (.exited 0)) 1 exampleSpec []).2),
      m.awsSecretName = none := by
  decide

/-! ## What `destroy` finds of a failed `create` -/

/-- From a fresh memo, the last memo `create` gets acknowledged records that
provisioning started but not the cluster's name, `eksctl create cluster` runs
after it and fails, and `destroy`, reading that memo, fails `Unknown` without
running `eksctl`. -/
theorem create_checkpointsWithoutClusterName :
    let checkpoint : ProductionMemo :=
      { currentStatus := "Creating cluster", creationPolicy := some .create, provisioningStarted := true }
    List.IsSuffix [.send checkpoint true, .step .createFile, .step .writeAll, .step .eksctl]
      (effects (create (exampleWorld {} true [] (.exited 1)) 1 exampleSpec []).2) ∧
    destroy (exampleWorld checkpoint true [] (.exited 0)) [] =
      (.error ⟨.unknown, "Unable to obtain cluster name"⟩, [.getInfo (some checkpoint)]) :=
  ⟨by decide, destroy_of_no_clusterName _ [] _ rfl rfl rfl⟩

/-- After the checkpoint memo is acknowledged, `create` returns the `Clear`
failure of `create_cluster`; and `destroy`, reading a memo with provisioning
started, returns the `Clear` failure of `aws_config`. -/
theorem clear_afterCheckpoint :
    let run := create (exampleWorld {} true [] (.exited 1)) 1 exampleSpec []
    let started : ProductionMemo := { clusterName := some "test-cluster", provisioningStarted := true }
    let checkpoint : ProductionMemo :=
      { currentStatus := "Creating cluster", creationPolicy := some .create, provisioningStarted := true }
    Effect.send checkpoint true ∈ effects run.2 ∧
    run.1 = .error ⟨.clear, "Failed create cluster with status code exit status: 1"⟩ ∧
    (destroy (exampleWorld started false [] (.exited 0)) []).1 = .error ⟨.clear, "Error creating config"⟩ :=
  ⟨by decide, by decide, by rw [destroy_of_awsConfig_failure _ [] _ "test-cluster" rfl rfl rfl rfl]⟩

end TestSys.Eks
