import TestSys.Run

/-! # The test agent's lifecycle

`TestAgent::run` of `agent/test-agent/src/agent.rs`, against any client and
runner.  They answer from the log of the agent's calls, so their behaviour may
depend on everything that happened before, and their error values are
arbitrary.

`run_lifecycle` is the law of the lifecycle: the start notification comes first
and, when it fails, alone; otherwise the runner runs once, its results are sent
at most once and only as it returned them, it is terminated once, and the run
returns `lifecycleOutcome`, the error of the first of the four lifecycle calls
that failed, whatever the best-effort calls answer. -/
set_option autoImplicit false

namespace TestSys.Agent

open Run

/-- `test_agent::error::Error`, with the two variants `run` returns. -/
inductive Error (CE RE : Type) where
  | client (e : CE)
  | runner (e : RE)
  deriving DecidableEq, Repr

/-- A call of the agent to its client or its runner, with the answer it got. -/
inductive Call (CE RE T : Type) where
  | sendTestStarting (result : Except CE Unit)
  | run (result : Except RE T)
  | sendTestDone (results : T) (result : Except CE Unit)
  | terminate (result : Except RE Unit)
  | sendError (error : Error CE RE) (result : Except CE Unit)

abbrev Log (CE RE T : Type) := List (Call CE RE T)

variable {CE RE T : Type}

/-- The k8s client behind the `Client` trait, as far as `run` uses it. -/
structure Client (CE RE T : Type) where
  sendTestStarting : Log CE RE T → Except CE Unit
  sendTestDone : Log CE RE T → T → Except CE Unit
  sendError : Log CE RE T → Error CE RE → Except CE Unit

/-- A test behind the `Runner` trait, as far as `run` uses it. -/
structure Runner (CE RE T : Type) where
  run : Log CE RE T → Except RE T
  terminate : Log CE RE T → Except RE Unit

structure TestAgent (CE RE T : Type) where
  client : Client CE RE T
  runner : Runner CE RE T

namespace TestAgent

/-- `TestAgent::new`: the client is made from the bootstrap data, it reads the
test's information, and the runner is made from that.  A failure is returned
as it is: there is no client yet to send it. -/
def new {B I : Type} (clientNew : B → Except CE (Client CE RE T))
    (getTestInfo : Client CE RE T → Except CE I) (runnerNew : I → Except RE (Runner CE RE T)) (b : B) :
    Except (Error CE RE) (TestAgent CE RE T) := do
  let client ← (clientNew b).mapError .client
  let testInfo ← (getTestInfo client).mapError .client
  let runner ← (runnerNew testInfo).mapError .runner
  pure ⟨client, runner⟩

variable (agent : TestAgent CE RE T)

abbrev AgentRun (CE RE T α : Type) := Run (Call CE RE T) (Error CE RE) α

def sendTestStarting : AgentRun CE RE T (Except CE Unit) :=
  call agent.client.sendTestStarting .sendTestStarting

def runnerRun : AgentRun CE RE T (Except RE T) :=
  call agent.runner.run .run

def sendTestDone (results : T) : AgentRun CE RE T (Except CE Unit) :=
  call (agent.client.sendTestDone · results) (.sendTestDone results)

def terminate : AgentRun CE RE T (Except RE Unit) :=
  call agent.runner.terminate .terminate

def sendError (e : Error CE RE) : AgentRun CE RE T (Except CE Unit) :=
  call (agent.client.sendError · e) (.sendError e)

/-- `send_error_best_effort`: a failure to send the error is only logged. -/
def sendErrorBestEffort (e : Error CE RE) : AgentRun CE RE T Unit := do
  let _ ← agent.sendError e

/-- `terminate_best_effort`: a failure to terminate is sent, best effort. -/
def terminateBestEffort : AgentRun CE RE T Unit := do
  if let .error e := (← agent.terminate) then
    agent.sendErrorBestEffort (.runner e)

def run : AgentRun CE RE T Unit := do
  lift .client (← agent.sendTestStarting)
  let testResults ← match (← agent.runnerRun) with
    | .ok ok => pure ok
    | .error e => do
      agent.sendErrorBestEffort (.runner e)
      agent.terminateBestEffort
      fail (.runner e)
  if let .error e := (← agent.sendTestDone testResults) then
    agent.sendErrorBestEffort (.client e)
    agent.terminateBestEffort
    fail (.client e)
  -- Test finished successfully. A failure to terminate is sent and returned.
  if let .error e := (← agent.terminate) then
    agent.sendErrorBestEffort (.runner e)
    fail (.runner e)

/-! ## What a run can do -/

/-- What `send_error_best_effort` and `terminate_best_effort` log after a
failure `f`: the error sent, one termination, and its own failure sent. -/
def BestEffortTail (f : Error CE RE) (tail : Log CE RE T) : Prop :=
  ∃ sent, tail = [.sendError f sent, .terminate (.ok ())] ∨
    ∃ e sentAgain, tail = [.sendError f sent, .terminate (.error e), .sendError (.runner e) sentAgain]

/-- Every run of `run`, by the first lifecycle call that fails. -/
theorem run_cases :
    (∃ e, agent.run [] = (.error (.client e), [.sendTestStarting (.error e)])) ∨
    (∃ e tail, BestEffortTail (.runner e) tail ∧
      agent.run [] = (.error (.runner e), [.sendTestStarting (.ok ()), .run (.error e)] ++ tail)) ∨
    (∃ t e tail, BestEffortTail (.client e) tail ∧
      agent.run [] = (.error (.client e),
        [.sendTestStarting (.ok ()), .run (.ok t), .sendTestDone t (.error e)] ++ tail)) ∨
    (∃ t e sent, agent.run [] = (.error (.runner e),
        [.sendTestStarting (.ok ()), .run (.ok t), .sendTestDone t (.ok ()), .terminate (.error e),
          .sendError (.runner e) sent])) ∨
    (∃ t, agent.run [] = (.ok (),
        [.sendTestStarting (.ok ()), .run (.ok t), .sendTestDone t (.ok ()), .terminate (.ok ())])) := by
  simp only [run, sendTestStarting, runnerRun, sendTestDone, terminate, terminateBestEffort,
    sendErrorBestEffort, sendError, bind_assoc, call_bind_apply, List.nil_append]
  cases agent.client.sendTestStarting [] with
  | error e => exact .inl ⟨e, rfl⟩
  | ok u =>
    simp only [lift_ok, pure_bind, call_bind_apply, List.nil_append]
    cases agent.runner.run _ with
    | error e =>
      simp only [pure_bind, call_bind_apply, bind_assoc]
      cases agent.runner.terminate _ with
      | error e' => exact .inr (.inl ⟨e, _, ⟨_, .inr ⟨e', _, rfl⟩⟩, rfl⟩)
      | ok _ => exact .inr (.inl ⟨e, _, ⟨_, .inl rfl⟩, rfl⟩)
    | ok t =>
      simp only [pure_bind, call_bind_apply, bind_assoc]
      cases agent.client.sendTestDone _ _ with
      | error e =>
        simp only [pure_bind, call_bind_apply, bind_assoc]
        cases agent.runner.terminate _ with
        | error e' => exact .inr (.inr (.inl ⟨t, e, _, ⟨_, .inr ⟨e', _, rfl⟩⟩, rfl⟩))
        | ok _ => exact .inr (.inr (.inl ⟨t, e, _, ⟨_, .inl rfl⟩, rfl⟩))
      | ok _ =>
        simp only [pure_bind, call_bind_apply, bind_assoc]
        cases agent.runner.terminate _ with
        | error e => exact .inr (.inr (.inr (.inl ⟨t, e, _, rfl⟩)))
        | ok _ => exact .inr (.inr (.inr (.inr ⟨t, rfl⟩)))

end TestAgent

/-! ## The lifecycle law -/

namespace Call

def isRun : Call CE RE T → Bool
  | .run _ => true
  | _ => false

def isSendTestDone : Call CE RE T → Bool
  | .sendTestDone _ _ => true
  | _ => false

def isTerminate : Call CE RE T → Bool
  | .terminate _ => true
  | _ => false

/-- The error a `send_error` call carries. -/
def sentError : Call CE RE T → Option (Error CE RE)
  | .sendError e _ => some e
  | _ => none

end Call

/-- What the lifecycle promises to return: the error of the first of the four
lifecycle calls (start notification, run, results, termination) that failed,
in call order.  The best-effort `send_error` calls do not count. -/
def lifecycleOutcome : Log CE RE T → Outcome (Error CE RE) Unit
  | [] => .ok ()
  | .sendTestStarting (.error e) :: _ => .error (.client e)
  | .run (.error e) :: _ => .error (.runner e)
  | .sendTestDone _ (.error e) :: _ => .error (.client e)
  | .terminate (.error e) :: _ => .error (.runner e)
  | _ :: rest => lifecycleOutcome rest

theorem run_lifecycle (agent : TestAgent CE RE T) :
    let log := (agent.run []).2
    (∃ started rest, log = .sendTestStarting started :: rest) ∧
    (∀ e, .sendTestStarting (.error e) ∈ log →
      log = [.sendTestStarting (.error e)] ∧ (agent.run []).1 = .error (.client e)) ∧
    (.sendTestStarting (.ok ()) ∈ log →
      log.countP Call.isRun = 1 ∧ log.countP Call.isTerminate = 1 ∧
      log.countP Call.isSendTestDone ≤ 1 ∧ ∀ t sent, .sendTestDone t sent ∈ log → .run (.ok t) ∈ log) ∧
    ((agent.run []).1 = .ok () ↔ ∃ t, log =
      [.sendTestStarting (.ok ()), .run (.ok t), .sendTestDone t (.ok ()), .terminate (.ok ())]) ∧
    (agent.run []).1 = lifecycleOutcome log ∧
    (∀ e, log.findSome? Call.sentError = some e → (agent.run []).1 = .error e) := by
  rcases agent.run_cases with ⟨e, h⟩ | ⟨e, _, ⟨_, rfl | ⟨_, _, rfl⟩⟩, h⟩ |
      ⟨t, e, _, ⟨_, rfl | ⟨_, _, rfl⟩⟩, h⟩ | ⟨t, e, _, h⟩ | ⟨t, h⟩ <;>
    simp [h, lifecycleOutcome, Call.isRun, Call.isTerminate, Call.isSendTestDone, Call.sentError]

end TestSys.Agent
