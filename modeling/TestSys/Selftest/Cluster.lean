import TestSys.Run
import TestSys.Process
import Mathlib.Logic.Function.Basic

/-! # The self-tests' `kind` cluster

`Cluster` of `selftest/src/cluster.rs`: a `kind` cluster that `new` creates,
after deleting any cluster of its name, and that `Drop` deletes; the checks of
whether the controller, a test's pod or a provider's pod is running; and the
waits, which poll a check, sleeping 750 ms after each false answer, under a
deadline.

`pollUpTo_spec` is the law of the waits: the polls before the deadline answer
false until the first that answers true, which ends the wait, or fails, which
ends it with that error; when all of them answered false the wait times out.
`waitLoop_eq_pollUpTo`: with its clock advanced by each sleep, the loop lets
through the polls that start before the deadline, one per 750 ms.
`cluster_lifecycle`: over `kind`'s clusters, a `new` that returns leaves the
cluster of its name existing and every other as it was, and dropping it never
fails, removing the cluster only when `kind delete cluster` succeeded. -/
set_option autoImplicit false

namespace TestSys.Selftest

open Run

/-- The status of a `Pod` of `k8s_openapi`, with the field read. -/
structure PodStatus where
  phase : Option String
  deriving DecidableEq

/-- `PodStatus::default()`. -/
instance : Inhabited PodStatus := ⟨⟨none⟩⟩

/-- A `Pod` of `k8s_openapi`, with the field read. -/
structure Pod where
  status : Option PodStatus
  deriving DecidableEq

/-- The `anyhow::Error`s of the file: an I/O error of a process, a file or the
temporary directory; an error of the kube client, from reading the kubeconfig
to listing the pods; and the errors it makes with `format_err!` and
`context`. -/
inductive Error where
  | io
  | kube
  | message (text : String)
  deriving DecidableEq

/-- A call of the self-tests, with the answer it got. -/
inductive Call where
  | tempDir (path : Option Path)
  | kind (args : List String) (output : Option Output)
  | createFile (path : Path) (result : Option Unit)
  | writeAll (path : Path) (contents : List UInt8) (result : Option Unit)
  | listPods (kubeconfig : Path) (labelSelector : String) (pods : Except Error (List Pod))

abbrev Log := List Call

/-- Everything outside the self-tests: `TempDir`, `kind`, the file system and
the cluster's API server answer from the log; `PathBuf::join`,
`to_string_lossy` and `String::from_utf8_lossy` are plain functions, and the
constants of `model::constants` plain values. -/
structure World where
  tempDir : Log → Option Path
  kind : Log → List String → Option Output
  createFile : Log → Path → Option Unit
  writeAll : Log → Path → List UInt8 → Option Unit
  listPods : Log → Path → String → Except Error (List Pod)
  join : Path → String → Path
  toStringLossy : Path → String
  fromUtf8Lossy : List UInt8 → String
  /-- `LABEL_COMPONENT`. -/
  labelComponent : String
  /-- `LABEL_PROVIDER_NAME`. -/
  labelProviderName : String

abbrev SelftestRun := Run Call Error

/-- The `?` of an I/O error, or `ok_or_else`: the run fails with `e`. -/
def context {α : Type} (e : Error) : Option α → Except Error α
  | some a => .ok a
  | none => .error e

def kubeconfigFilename : String := "kubeconfig.yaml"

def kubeconfigInternalFilename : String := "kubeconfig_internal.yaml"

/-- `Cluster`: the cluster's name and the temporary directory of its
kubeconfigs. -/
structure Cluster where
  name : String
  kubeconfigDir : Path
  deriving DecidableEq

/-- `is_pod_running`. -/
def isPodRunning (pod : Pod) : Bool :=
  (pod.status.bind fun s => s.phase.map (· == "Running")).getD false

/-- The loop of `is_controller_running` over the pods. -/
def allPodsRunning : List Pod → Bool
  | [] => true
  | pod :: pods => if !isPodRunning pod then false else allPodsRunning pods

/-- The loop of `is_provider_running` over the pods. -/
def anyPodRunning : List Pod → Bool
  | [] => false
  | pod :: pods =>
    if (pod.status.getD default).phase.getD "" == "Running" then true else anyPodRunning pods

theorem allPodsRunning_eq_all (pods : List Pod) : allPodsRunning pods = pods.all isPodRunning := by
  induction pods with
  | nil => rfl
  | cons pod pods ih => cases h : isPodRunning pod <;> simp [allPodsRunning, h, ih]

/-- `is_provider_running` tests a pod the way `is_pod_running` does. -/
theorem anyPodRunning_eq_any (pods : List Pod) : anyPodRunning pods = pods.any isPodRunning := by
  induction pods with
  | nil => rfl
  | cons pod pods ih =>
    have same : ((pod.status.getD default).phase.getD "" == "Running") = isPodRunning pod := by
      rcases pod with ⟨_ | ⟨_ | phase⟩⟩ <;> simp [isPodRunning, default]
    simp only [anyPodRunning, same, List.any_cons, ih]
    cases isPodRunning pod <;> rfl

/-- What `is_controller_running` answers from the pods listed: the controller
runs when it has pods and all of them run. -/
def controllerRunning (pods : Except Error (List Pod)) : Except Error Bool :=
  pods.map fun pods => !pods.isEmpty && pods.all isPodRunning

/-- What `is_test_running` answers from the pods listed: the first one runs. -/
def testRunning (pods : Except Error (List Pod)) : Except Error Bool :=
  pods.map fun pods => (pods.head?.map isPodRunning).getD false

section Calls

variable (w : World)

def tempDir : SelftestRun (Option Path) := call w.tempDir .tempDir

def kind (args : List String) : SelftestRun (Option Output) :=
  call (w.kind · args) (.kind args)

def createFile (path : Path) : SelftestRun (Option Unit) :=
  call (w.createFile · path) (.createFile path)

def writeAll (path : Path) (contents : List UInt8) : SelftestRun (Option Unit) :=
  call (w.writeAll · path contents) (.writeAll path contents)

def listPods (kubeconfig : Path) (labelSelector : String) : SelftestRun (Except Error (List Pod)) :=
  call (w.listPods · kubeconfig labelSelector) (.listPods kubeconfig labelSelector)

/-! ## The cluster -/

/-- The message of a `kind` command that did not succeed: the command, its
exit code (1 when a signal ended it), and what it printed. -/
def statusMessage (command : String) (output : Output) : String :=
  command ++ " with exit status '" ++ toString (output.status.code.getD 1) ++ "'\n\n" ++
    w.fromUtf8Lossy output.stdout ++ "\n\n" ++ w.fromUtf8Lossy output.stderr

def deleteKindCluster (name : String) : SelftestRun Unit := do
  let output ← context .io (← kind w ["delete", "cluster", "--name", name])
  if !output.status.success then
    throw (.message (statusMessage w "'kind delete cluster' failed" output))

def createKindCluster (name : String) (kubeconfig : Path) : SelftestRun Unit := do
  let kubeconfigPath ← context
    (.message ("non utf-8 path '" ++ w.toStringLossy (w.join kubeconfig kubeconfigFilename) ++ "'"))
    kubeconfig.toStr
  let output ← context .io
    (← kind w ["--kubeconfig", kubeconfigPath, "create", "cluster", "--name", name])
  if !output.status.success then
    throw (.message (statusMessage w "'kind create cluster failed'" output))

def Cluster.new (clusterName : String) : SelftestRun Cluster := do
  let kubeconfigDir ← context .io (← tempDir w)
  deleteKindCluster w clusterName
  createKindCluster w clusterName (w.join kubeconfigDir kubeconfigFilename)
  pure ⟨clusterName, kubeconfigDir⟩

/-- `Drop`: the cluster is deleted, and a failure only printed. -/
def Cluster.drop (self : Cluster) : SelftestRun Unit :=
  try deleteKindCluster w self.name catch _ => pure ()

def Cluster.kubeconfig (self : Cluster) : Path := w.join self.kubeconfigDir kubeconfigFilename

def Cluster.getInternalKubeconfig (self : Cluster) : SelftestRun Path := do
  let output ← context .io (← kind w ["get", "kubeconfig", "--internal", "--name", self.name])
  if !output.status.success then
    throw (.message (statusMessage w "'kind get kubeconfig --internal'" output))
  let kubeconfigInternal := w.join self.kubeconfigDir kubeconfigInternalFilename
  context .io (← createFile w kubeconfigInternal)
  context .io (← writeAll w kubeconfigInternal output.stdout)
  pure (w.join self.kubeconfigDir kubeconfigInternalFilename)

def Cluster.loadImageToCluster (self : Cluster) (imageName : String) : SelftestRun Unit := do
  let output ← context .io (← kind w ["load", "docker-image", imageName, "--name", self.name])
  if !output.status.success then
    throw (.message (statusMessage w "'kind load docker-image failed'" output))

def Cluster.findByLabel (self : Cluster) (key val : String) : SelftestRun (List Pod) := do
  (← listPods w (self.kubeconfig w) (key ++ "=" ++ val))

def Cluster.isControllerRunning (self : Cluster) : SelftestRun Bool := do
  let pods ← self.findByLabel w w.labelComponent "controller"
  if pods.isEmpty then
    return false
  pure (allPodsRunning pods)

def Cluster.isTestRunning (self : Cluster) (testName : String) : SelftestRun Bool := do
  let pods ← self.findByLabel w "job-name" testName
  match pods.head? with
  | none => pure false
  | some pod => pure (isPodRunning pod)

def Cluster.isProviderRunning (self : Cluster) (providerName : String) : SelftestRun Bool := do
  let pods ← (← listPods w (self.kubeconfig w) (w.labelProviderName ++ "=" ++ providerName))
  pure (anyPodRunning pods)

/-- `delete_kind_cluster` runs `kind delete cluster` once, and fails when it
could not run or did not succeed. -/
theorem deleteKindCluster_apply (name : String) (log : Log) :
    let args := ["delete", "cluster", "--name", name]
    deleteKindCluster w name log =
      (match w.kind log args with
        | none => .error .io
        | some output =>
          if output.status.success then .ok ()
          else .error (.message (statusMessage w "'kind delete cluster' failed" output)),
        log ++ [.kind args (w.kind log args)]) := by
  simp only [deleteKindCluster, kind, bind_apply, call_apply]
  rcases w.kind log ["delete", "cluster", "--name", name] with _ | output
  · rfl
  · simp only [context, liftM_ok_apply]
    cases output.status.success <;> rfl

/-- `create_kind_cluster` fails before running `kind` when the kubeconfig's
path is not Unicode; otherwise it runs `kind create cluster` once. -/
theorem createKindCluster_apply (name : String) (kubeconfig : Path) (log : Log) :
    createKindCluster w name kubeconfig log =
      match kubeconfig.toStr with
      | none => (.error (.message
          ("non utf-8 path '" ++ w.toStringLossy (w.join kubeconfig kubeconfigFilename) ++ "'")), log)
      | some kubeconfigPath =>
        let args := ["--kubeconfig", kubeconfigPath, "create", "cluster", "--name", name]
        (match w.kind log args with
          | none => .error .io
          | some output =>
            if output.status.success then .ok ()
            else .error (.message (statusMessage w "'kind create cluster failed'" output)),
          log ++ [.kind args (w.kind log args)]) := by
  rcases h : kubeconfig.toStr with _ | kubeconfigPath
  · simp [createKindCluster, h, context, bind_apply]
  · simp only [createKindCluster, h, context, kind, bind_apply, call_apply, liftM_ok_apply]
    rcases w.kind log ["--kubeconfig", kubeconfigPath, "create", "cluster", "--name", name] with _ | output
    · rfl
    · simp only [liftM_ok_apply]
      cases output.status.success <;> rfl

/-- Dropping a cluster runs `kind delete cluster` of its name once and never
fails. -/
theorem drop_apply (self : Cluster) (log : Log) :
    let args := ["delete", "cluster", "--name", self.name]
    self.drop w log = (.ok (), log ++ [.kind args (w.kind log args)]) := by
  simp only [Cluster.drop, tryCatch_apply, deleteKindCluster_apply]
  rcases w.kind log ["delete", "cluster", "--name", self.name] with _ | output
  · rfl
  · dsimp only
    cases output.status.success <;> rfl

theorem deleteKindCluster_ok {name : String} {log after : Log} {u : Unit}
    (h : deleteKindCluster w name log = (.ok u, after)) :
    ∃ deleted : Output, deleted.status.success = true ∧
      after = log ++ [.kind ["delete", "cluster", "--name", name] (some deleted)] := by
  rw [deleteKindCluster_apply] at h
  rcases answer : w.kind log ["delete", "cluster", "--name", name] with _ | deleted <;>
    simp only [answer] at h
  · cases h
  · split at h
    · exact ⟨deleted, ‹_›, (Prod.mk.inj h).2.symm⟩
    · cases h

theorem createKindCluster_ok {name : String} {kubeconfig : Path} {log after : Log} {u : Unit}
    (h : createKindCluster w name kubeconfig log = (.ok u, after)) :
    ∃ kubeconfigPath made, kubeconfig.toStr = some kubeconfigPath ∧ made.status.success = true ∧
      after = log ++ [.kind ["--kubeconfig", kubeconfigPath, "create", "cluster", "--name", name] (some made)] := by
  rw [createKindCluster_apply] at h
  rcases unicode : kubeconfig.toStr with _ | kubeconfigPath <;> simp only [unicode] at h
  · cases h
  rcases answer : w.kind log ["--kubeconfig", kubeconfigPath, "create", "cluster", "--name", name] with
    _ | made <;> simp only [answer] at h
  · cases h
  · split at h
    · exact ⟨kubeconfigPath, made, rfl, ‹_›, (Prod.mk.inj h).2.symm⟩
    · cases h

/-- A cluster `new` returns has the name it was given: `kind delete cluster` of
that name succeeded, and then `kind create cluster` of it, with the kubeconfig
that `kubeconfig` reports. -/
theorem new_apply (clusterName : String) (log : Log) (cluster : Cluster) (after : Log)
    (created : Cluster.new w clusterName log = (.ok cluster, after)) :
    cluster.name = clusterName ∧
    ∃ kubeconfigPath deleted made, (cluster.kubeconfig w).toStr = some kubeconfigPath ∧
      deleted.status.success = true ∧ made.status.success = true ∧
      after = log ++ [.tempDir (some cluster.kubeconfigDir),
        .kind ["delete", "cluster", "--name", clusterName] (some deleted),
        .kind ["--kubeconfig", kubeconfigPath, "create", "cluster", "--name", clusterName] (some made)] := by
  obtain ⟨answer, _, ⟨⟩, created⟩ := bind_eq_ok created
  obtain ⟨dir, _, tempDirOk, created⟩ := bind_eq_ok created
  obtain ⟨_, _, deletedOk, created⟩ := bind_eq_ok created
  obtain ⟨_, _, createdOk, ⟨⟩⟩ := bind_eq_ok created
  obtain ⟨deleted, deletedSuccess, rfl⟩ := deleteKindCluster_ok w deletedOk
  obtain ⟨kubeconfigPath, made, unicode, madeSuccess, rfl⟩ := createKindCluster_ok w createdOk
  rcases answered : w.tempDir log with _ | dir' <;> simp only [answered, context] at tempDirOk
  · cases tempDirOk
  · cases tempDirOk
    exact ⟨rfl, kubeconfigPath, deleted, made, unicode, deletedSuccess, madeSuccess, by simp [answered]⟩

/-- `is_controller_running` makes one call, and answers `controllerRunning`
of the pods it lists. -/
theorem isControllerRunning_apply (self : Cluster) (log : Log) :
    let selector := w.labelComponent ++ "=" ++ "controller"
    self.isControllerRunning w log =
      (.ofExcept (controllerRunning (w.listPods log (self.kubeconfig w) selector)),
        log ++ [.listPods (self.kubeconfig w) selector (w.listPods log (self.kubeconfig w) selector)]) := by
  simp only [Cluster.isControllerRunning, Cluster.findByLabel, listPods, bind_apply, call_apply]
  rcases w.listPods log (self.kubeconfig w) (w.labelComponent ++ "=" ++ "controller") with _ | pods
  · rfl
  · cases h : pods.isEmpty <;> simp [h, controllerRunning, Except.map, allPodsRunning_eq_all, Outcome.ofExcept]

/-- `is_test_running` makes one call, and answers `testRunning` of the pods it
lists. -/
theorem isTestRunning_apply (self : Cluster) (testName : String) (log : Log) :
    let selector := "job-name" ++ "=" ++ testName
    self.isTestRunning w testName log =
      (.ofExcept (testRunning (w.listPods log (self.kubeconfig w) selector)),
        log ++ [.listPods (self.kubeconfig w) selector (w.listPods log (self.kubeconfig w) selector)]) := by
  simp only [Cluster.isTestRunning, Cluster.findByLabel, listPods, bind_apply, call_apply]
  rcases w.listPods log (self.kubeconfig w) ("job-name" ++ "=" ++ testName) with _ | (_ | ⟨pod, pods⟩)
  all_goals rfl

/-! ## Waiting -/

/-- `tokio::time::timeout(duration, ...)` around a loop that returns at the
first poll that answers true and sleeps 750 ms after each that answers false.
`now` is the time the loop has slept: a poll starts only before the deadline,
and the time a poll itself takes is left out.  One unit of fuel a round; the
`duration / 750 + 1` rounds `waitFor` gives reach the deadline. -/
def waitLoop (poll : SelftestRun Bool) (duration : Nat) : Nat → Nat → SelftestRun (Option Unit)
  | 0, _ => pure none
  | fuel + 1, now =>
    if now < duration then do
      if ← poll then
        return some ()
      waitLoop poll duration fuel (now + 750)
    else pure none

/-- `wait_for_controller` and `wait_for_test_pod`: `poll` in a loop under
`tokio::time::timeout(duration, ...)`, whose expiry fails with `message`. -/
def waitFor (poll : SelftestRun Bool) (message : String) (duration : Nat) : SelftestRun Unit := do
  let ready ← waitLoop poll duration (duration / 750 + 1) 0
  context (.message message) ready

def Cluster.waitForController (self : Cluster) (duration : Nat) : SelftestRun Unit :=
  waitFor (self.isControllerRunning w) "Timeout waiting for controller to be in the 'Running' state"
    duration

def Cluster.waitForTestPod (self : Cluster) (testName : String) (duration : Nat) : SelftestRun Unit :=
  waitFor (self.isTestRunning w testName)
    "Timeout waiting for test '\x7b\x7d' pod to be in the 'Running' state" duration

end Calls

/-! ## The law of the waits -/

/-- Up to `polls` polls, until the first that answers true or fails. -/
def pollUpTo (poll : SelftestRun Bool) : Nat → SelftestRun (Option Unit)
  | 0 => pure none
  | polls + 1 => do
    if ← poll then
      return some ()
    pollUpTo poll polls

/-- The polls a deadline of `duration` ms lets through: one at each multiple of
750 ms before it. -/
def pollsWithin (duration : Nat) : Nat := (duration + 749) / 750

/-- With fuel enough to reach the deadline, the clocked loop makes the polls
that start before it. -/
theorem waitLoop_eq_pollUpTo (poll : SelftestRun Bool) (duration fuel now : Nat)
    (enough : duration ≤ now + 750 * fuel) :
    waitLoop poll duration fuel now = pollUpTo poll ((duration - now + 749) / 750) := by
  induction fuel generalizing now with
  | zero =>
    have none : (duration - now + 749) / 750 = 0 := by omega
    rw [none]
    rfl
  | succ fuel ih =>
    by_cases early : now < duration
    · have round : (duration - now + 749) / 750 = (duration - (now + 750) + 749) / 750 + 1 := by omega
      simp only [waitLoop, early, if_true, round, pollUpTo, ih (now + 750) (by omega)]
    · have late : (duration - now + 749) / 750 = 0 := by omega
      simp only [waitLoop, early, if_false, late, pollUpTo]

/-- The fuel `waitFor` gives outlasts the deadline. -/
theorem waitLoop_deadline (poll : SelftestRun Bool) (duration : Nat) :
    waitLoop poll duration (duration / 750 + 1) 0 = pollUpTo poll (pollsWithin duration) :=
  waitLoop_eq_pollUpTo poll duration _ 0 (by omega)

/-- Polls that each made one call and took its answer for false: from `log`,
the collaborator answered `answers`, in order. -/
inductive PolledFalse {ρ : Type} (answer : Log → ρ) (record : ρ → Call)
    (decide : ρ → Except Error Bool) : Log → List ρ → Prop
  | nil (log : Log) : PolledFalse answer record decide log []
  | cons (log : Log) (answers : List ρ) (answeredFalse : decide (answer log) = .ok false)
      (rest : PolledFalse answer record decide (log ++ [record (answer log)]) answers) :
      PolledFalse answer record decide log (answer log :: answers)

section Polls

variable {ρ : Type} {poll : SelftestRun Bool} {answer : Log → ρ} {record : ρ → Call}
  {decide : ρ → Except Error Bool}

/-- A wait whose poll makes one call and decides from its answer: the polls
answer false, and then either the deadline let no more through and the wait
times out, or the next poll answered true, or failed, and the wait ends with
it. -/
theorem pollUpTo_spec
    (one : ∀ log, poll log = (.ofExcept (decide (answer log)), log ++ [record (answer log)]))
    (polls : Nat) (log : Log) :
    ∃ answers, PolledFalse answer record decide log answers ∧ answers.length ≤ polls ∧
      let polled := log ++ answers.map record
      (answers.length = polls ∧ pollUpTo poll polls log = (.ok none, polled)) ∨
      answers.length < polls ∧
        ((decide (answer polled) = .ok true ∧
          pollUpTo poll polls log = (.ok (some ()), polled ++ [record (answer polled)])) ∨
        ∃ e, decide (answer polled) = .error e ∧
          pollUpTo poll polls log = (.error e, polled ++ [record (answer polled)])) := by
  induction polls generalizing log with
  | zero => exact ⟨[], .nil log, Nat.le_refl _, .inl ⟨rfl, by simp [pollUpTo]⟩⟩
  | succ polls ih =>
    simp only [pollUpTo, bind_apply, one]
    rcases answered : decide (answer log) with e | (_ | _)
    · exact ⟨[], .nil log, Nat.zero_le _, .inr ⟨Nat.succ_pos _, .inr ⟨e, by simpa using answered,
        by simp [answered, Outcome.ofExcept]⟩⟩⟩
    · obtain ⟨answers, falses, length, outcome⟩ := ih (log ++ [record (answer log)])
      refine ⟨answer log :: answers, .cons log answers answered falses, by simp [length], ?_⟩
      simp only [answered, Outcome.ofExcept, List.map_cons, List.length_cons, Nat.add_right_cancel_iff,
        Nat.add_lt_add_iff_right, List.append_assoc, List.singleton_append, Bool.false_eq_true,
        ite_false] at outcome ⊢
      exact outcome
    · exact ⟨[], .nil log, Nat.zero_le _, .inr ⟨Nat.succ_pos _, .inl ⟨by simpa using answered,
        by simp [answered, Outcome.ofExcept]⟩⟩⟩

/-- `waitFor` under the law of the waits, with the bound the sleeps put on the
polls the deadline lets through: one at once, and at most one per 750 ms of
`duration`. -/
theorem waitFor_spec
    (one : ∀ log, poll log = (.ofExcept (decide (answer log)), log ++ [record (answer log)]))
    (message : String) (duration : Nat) (log : Log) :
    ∃ answers, PolledFalse answer record decide log answers ∧
      (waitFor poll message duration log).2.length ≤ log.length + (duration / 750 + 1) ∧
      let polled := log ++ answers.map record
      (answers.length = pollsWithin duration ∧
        waitFor poll message duration log = (.error (.message message), polled)) ∨
      answers.length < pollsWithin duration ∧
        ((decide (answer polled) = .ok true ∧
          waitFor poll message duration log = (.ok (), polled ++ [record (answer polled)])) ∨
        ∃ e, decide (answer polled) = .error e ∧
          waitFor poll message duration log = (.error e, polled ++ [record (answer polled)])) := by
  obtain ⟨answers, falses, -, outcome⟩ := pollUpTo_spec one (pollsWithin duration) log
  have deadline : pollsWithin duration ≤ duration / 750 + 1 := by unfold pollsWithin; omega
  refine ⟨answers, falses, ?_⟩
  simp only [waitFor, bind_apply, waitLoop_deadline]
  rcases outcome with ⟨all, h⟩ | ⟨fewer, ⟨ran, h⟩ | ⟨e, failed, h⟩⟩ <;> rw [h]
  · exact ⟨by simp [context]; omega, .inl ⟨all, rfl⟩⟩
  · exact ⟨by simp [context]; omega, .inr ⟨fewer, .inl ⟨ran, rfl⟩⟩⟩
  · exact ⟨by simp; omega, .inr ⟨fewer, .inr ⟨e, failed, rfl⟩⟩⟩

end Polls

/-- `wait_for_controller` lists the controller's pods at most once per 750 ms of
`duration`, and once more; it returns at the first listing where the
controller has pods and all of them run, fails at the first listing that
fails, and times out when every listing the deadline let through found the
controller not running. -/
theorem waitForController_spec (w : World) (self : Cluster) (duration : Nat) (log : Log) :
    let selector := w.labelComponent ++ "=" ++ "controller"
    let listing := Call.listPods (self.kubeconfig w) selector
    ∃ pods, PolledFalse (w.listPods · (self.kubeconfig w) selector) listing controllerRunning log pods ∧
      (self.waitForController w duration log).2.length ≤ log.length + (duration / 750 + 1) ∧
      let polled := log ++ pods.map listing
      let next := w.listPods polled (self.kubeconfig w) selector
      (pods.length = pollsWithin duration ∧ self.waitForController w duration log =
        (.error (.message "Timeout waiting for controller to be in the 'Running' state"), polled)) ∨
      pods.length < pollsWithin duration ∧
        ((controllerRunning next = .ok true ∧
          self.waitForController w duration log = (.ok (), polled ++ [listing next])) ∨
        ∃ e, controllerRunning next = .error e ∧
          self.waitForController w duration log = (.error e, polled ++ [listing next])) :=
  waitFor_spec (isControllerRunning_apply w self) _ duration log

/-! ## The cluster's lifecycle -/

/-- The `kind` clusters after a call, by name: a `kind delete cluster` that
succeeded removes the cluster of its name and a `kind create cluster` that
succeeded adds it; every other call leaves them.  This is `kind`'s behaviour,
as its command line documents it. -/
def Call.kindStep (clusters : String → Bool) : Call → String → Bool
  | .kind ["delete", "cluster", "--name", name] (some output) =>
    if output.status.success then Function.update clusters name false else clusters
  | .kind ["--kubeconfig", _, "create", "cluster", "--name", name] (some output) =>
    if output.status.success then Function.update clusters name true else clusters
  | _ => clusters

theorem kindStep_delete (clusters : String → Bool) (name : String) (output : Output) :
    Call.kindStep clusters (.kind ["delete", "cluster", "--name", name] (some output)) =
      if output.status.success then Function.update clusters name false else clusters := rfl

theorem kindStep_create (clusters : String → Bool) (kubeconfigPath name : String) (output : Output) :
    Call.kindStep clusters (.kind ["--kubeconfig", kubeconfigPath, "create", "cluster", "--name", name]
      (some output)) = if output.status.success then Function.update clusters name true else clusters := rfl

/-- The `kind` clusters after the calls of `log`, from `before`. -/
def kindClusters (log : Log) (before : String → Bool) : String → Bool :=
  log.foldl Call.kindStep before

theorem kindClusters_append (log log' : Log) (before : String → Bool) :
    kindClusters (log ++ log') before = kindClusters log' (kindClusters log before) :=
  List.foldl_append ..

/-- A `new` that returns leaves the cluster of its name existing, and every
other cluster as it was. -/
theorem new_kindClusters (w : World) {clusterName : String} {log after : Log} {cluster : Cluster}
    (created : Cluster.new w clusterName log = (.ok cluster, after)) (before : String → Bool) :
    kindClusters after before = Function.update (kindClusters log before) clusterName true := by
  obtain ⟨-, kubeconfigPath, deleted, made, -, deletedSuccess, madeSuccess, rfl⟩ :=
    new_apply w clusterName log cluster after created
  rw [kindClusters_append]
  simp only [kindClusters, List.foldl_cons, List.foldl_nil]
  rw [kindStep_delete, kindStep_create, deletedSuccess, madeSuccess, if_pos rfl, if_pos rfl,
    Function.update_idem]
  rfl

/-- Dropping removes the cluster when `kind delete cluster` succeeded, and
otherwise leaves every cluster as it was. -/
theorem drop_kindClusters (w : World) (self : Cluster) (log : Log) (before : String → Bool) :
    kindClusters (self.drop w log).2 before =
      if (w.kind log ["delete", "cluster", "--name", self.name]).any (·.status.success) then
        Function.update (kindClusters log before) self.name false
      else kindClusters log before := by
  rw [drop_apply, kindClusters_append]
  rcases w.kind log ["delete", "cluster", "--name", self.name] with _ | output
  · rfl
  · simp only [kindClusters, List.foldl_cons, List.foldl_nil]
    rw [kindStep_delete, Option.any_some]

/-- A world for runs at concrete inputs: the temporary directory is
`/tmp/testsys`, every `kind` command succeeds and no pod is listed. -/
def exampleWorld : World where
  tempDir _ := some ⟨some "/tmp/testsys", "/tmp/testsys"⟩
  kind _ _ := some ⟨.exited 0, [], []⟩
  createFile _ _ := some ()
  writeAll _ _ _ := some ()
  listPods _ _ _ := .ok []
  join path _ := path
  toStringLossy path := path.debug
  fromUtf8Lossy _ := ""
  labelComponent := "testsys/component"
  labelProviderName := "testsys/provider-name"

/- `kind delete cluster` fails when the cluster is dropped: the drop returns
`Ok`, and the cluster is left. -/
example :
    let w : World := { exampleWorld with
      kind := fun log _ => some ⟨.exited (if log.length < 3 then 0 else 1), [], []⟩ }
    let cluster : Cluster := ⟨"testsys", ⟨some "/tmp/testsys", "/tmp/testsys"⟩⟩
    let run := Cluster.new w "testsys" []
    run.1 = .ok cluster ∧ (cluster.drop w run.2).1 = .ok () ∧
      kindClusters (cluster.drop w run.2).2 (fun _ => false) "testsys" = true := by
  decide

/- `wait_for_test_pod` never formats its message: when the test's pod does not
run in time, the error is the same whatever the test. -/
example :
    let cluster : Cluster := ⟨"testsys", ⟨some "/tmp/testsys", "/tmp/testsys"⟩⟩
    (cluster.waitForTestPod exampleWorld "conformance" 0 []).1 =
      .error (.message "Timeout waiting for test '\x7b\x7d' pod to be in the 'Running' state") ∧
    (cluster.waitForTestPod exampleWorld "conformance" 0 []).1 =
      (cluster.waitForTestPod exampleWorld "smoke" 0 []).1 :=
  ⟨rfl, rfl⟩

end TestSys.Selftest
