import TestSys.Run
import TestSys.Process
import Mathlib.Data.List.Basic

/-! # The workload agent's runs of sonobuoy

`run_workload`, `rerun_failed_workload`, `results_workload` and
`delete_workload` of `bottlerocket/agents/src/workload.rs`.  `run_workload`
generates one sonobuoy plugin per test and writes it to a file, then runs
sonobuoy with those files, waits for it and reads its results back.

`initializeTests_spec` says what the loop over the tests does on every run:
either every plugin was generated and written, in order, or the first test
whose plugin failed ends the run with that failure.  `written_pluginsLog`: after
the loop, each plugin file holds what `sonobuoy gen` printed for the last test
whose plugin path names that file, as the file system resolves paths.
`runWorkload_runsPlugins` puts the two together at the `sonobuoy run` call,
and `workload_inNamespace` says that every sonobuoy call of the four functions
but `gen` targets the kubeconfig given and the namespace `testsys-workload`,
the one `delete_workload` deletes. -/
set_option autoImplicit false

namespace TestSys.Workload

open Run

/-- A test of `bottlerocket_types::agent_config::WorkloadConfig`, with the
fields read. -/
structure WorkloadTest where
  name : String
  image : String
  deriving DecidableEq

/-- `bottlerocket_types::agent_config::WorkloadConfig`, with the fields read. -/
structure WorkloadConfig where
  tests : List WorkloadTest
  sonobuoyImage : Option String
  assumeRole : Option String
  deriving DecidableEq

/-- The variants of the agents' `error::Error` that this file raises, with the
fields they carry; `sonobuoy` stands for the errors of `crate::sonobuoy`,
which is not under src/. -/
inductive Error where
  | workloadProcess
  | workloadTest (plugin : String)
  | fileWrite (path : String)
  | workloadRun (exitCode : Int) (stdout stderr : String)
  | sonobuoyTimeout
  | deserializeJson
  | workloadDelete
  | sonobuoy (message : String)
  deriving DecidableEq

/-- A call of the agent, with the answer it got.  A call that fails with an
I/O error answers `none`; the wait for sonobuoy's status answers `none` when
`SONOBUOY_STATUS_TIMEOUT` elapsed first. -/
inductive Call where
  | output (program : String) (args : List String) (output : Option Output)
  | status (program : String) (args : List String) (status : Option ExitStatus)
  | createFile (path : String) (result : Option Unit)
  | writeAll (path : String) (contents : List UInt8) (result : Option Unit)
  | waitForSonobuoyStatus (kubeconfigPath : String) (sonobuoyNamespace : Option String)
      (result : Option (Except Error Unit))
  | waitForSonobuoyResults (kubeconfigPath : String) (sonobuoyNamespace : Option String)
      (assumeRole awsSecretName : Option String) (result : Except Error Unit)

abbrev Log := List Call

/-- Everything outside the agent: spawned processes, the file system and the
waits of `crate::sonobuoy` answer from the log; `serde_json` and
`process_sonobuoy_test_results` are plain functions into its `Value` and the
`TestResults` of `testsys_model`. -/
structure World (Value Results : Type) where
  output : Log → String → List String → Option Output
  status : Log → String → List String → Option ExitStatus
  createFile : Log → String → Option Unit
  writeAll : Log → String → List UInt8 → Option Unit
  waitForSonobuoyStatus : Log → String → Option String → Option (Except Error Unit)
  waitForSonobuoyResults : Log → String → Option String → Option String → Option String →
    Except Error Unit
  fromUtf8 : List UInt8 → Option String
  fromUtf8Lossy : List UInt8 → String
  jsonFromStr : String → Option Value
  processSonobuoyTestResults : Value → Except Error Results
  /-- `SONOBUOY_RESULTS_FILENAME`. -/
  sonobuoyResultsFilename : String

abbrev WorkloadRun := Run Call Error

/-- snafu's `context` on a failed call: the run fails with `e`. -/
def context {α : Type} (e : Error) : Option α → Except Error α
  | some a => .ok a
  | none => .error e

/-- A call whose answer the agent takes with `.context(...)?`. -/
@[simp] theorem call_context_bind {ρ β : Type} (answer : Log → Option ρ) (record : Option ρ → Call)
    (e : Error) (k : ρ → WorkloadRun β) (log : Log) :
    (call answer record >>= fun x => liftM (context e x) >>= k) log =
      match answer log with
      | some a => k a (log ++ [record (some a)])
      | none => (.error e, log ++ [record none]) := by
  simp only [call_bind_apply]
  cases answer log <;> rfl

@[simp] theorem call_context {ρ : Type} (answer : Log → Option ρ) (record : Option ρ → Call)
    (e : Error) (log : Log) :
    (call answer record >>= fun x => liftM (context e x) : WorkloadRun ρ) log =
      match answer log with
      | some a => (.ok a, log ++ [record (some a)])
      | none => (.error e, log ++ [record none]) := by
  simp only [call_bind_apply]
  cases answer log <;> rfl

def sonobuoyBinPath : String := "/usr/bin/sonobuoy"

/-- `./<name>-plugin.yaml`, where the plugin of the test `name` is written. -/
def pluginYaml (name : String) : String := joinPath "." (name ++ "-plugin.yaml")

section Calls

variable {Value Results : Type} (w : World Value Results)

def output (program : String) (args : List String) : WorkloadRun (Option Output) :=
  call (w.output · program args) (.output program args)

def status (program : String) (args : List String) : WorkloadRun (Option ExitStatus) :=
  call (w.status · program args) (.status program args)

def createFile (path : String) : WorkloadRun (Option Unit) :=
  call (w.createFile · path) (.createFile path)

def writeAll (path : String) (contents : List UInt8) : WorkloadRun (Option Unit) :=
  call (w.writeAll · path contents) (.writeAll path contents)

def waitForSonobuoyStatus (kubeconfigPath : String) (sonobuoyNamespace : Option String) :
    WorkloadRun (Option (Except Error Unit)) :=
  call (w.waitForSonobuoyStatus · kubeconfigPath sonobuoyNamespace)
    (.waitForSonobuoyStatus kubeconfigPath sonobuoyNamespace)

def waitForSonobuoyResults (kubeconfigPath : String) (sonobuoyNamespace : Option String)
    (assumeRole awsSecretName : Option String) : WorkloadRun (Except Error Unit) :=
  call (w.waitForSonobuoyResults · kubeconfigPath sonobuoyNamespace assumeRole awsSecretName)
    (.waitForSonobuoyResults kubeconfigPath sonobuoyNamespace assumeRole awsSecretName)

/-! ## The four functions -/

/-- `WorkloadRunSnafu` for a sonobuoy process that did not succeed. -/
def runError (output : Output) : Error :=
  .workloadRun (output.status.code.getD 0) ((w.fromUtf8 output.stdout).getD "")
    ((w.fromUtf8 output.stderr).getD "")

/-- The body of `run_workload`'s loop: the plugin of `test` is generated and
written to its file, which is passed to `sonobuoy run`. -/
def initializeTest (test : WorkloadTest) : WorkloadRun (List String) := do
  let output ← context .workloadProcess
    (← output w sonobuoyBinPath ["gen", "plugin", "--name", test.name, "--image", test.image])
  if !output.status.success then
    fail (.workloadTest test.name)
  let pluginYaml := pluginYaml test.name
  context (.fileWrite pluginYaml) (← createFile w pluginYaml)
  context .workloadProcess (← writeAll w pluginYaml output.stdout)
  pure ["--plugin", pluginYaml]

/-- `run_workload`'s loop over the tests, appending each one's arguments to
`pluginTestArgs`. -/
def initializeTests (pluginTestArgs : List String) : List WorkloadTest → WorkloadRun (List String)
  | [] => pure pluginTestArgs
  | test :: tests => do
    let args ← initializeTest w test
    initializeTests (pluginTestArgs ++ args) tests

def sonobuoyImageArg (workloadConfig : WorkloadConfig) : List String :=
  match workloadConfig.sonobuoyImage with
  | some sonobuoyImageArg => ["--sonobuoy-image", sonobuoyImageArg]
  | none => []

def resultsWorkload (kubeconfigPath resultsDir : String) : WorkloadRun Results := do
  let kubeconfigArg := ["--kubeconfig", kubeconfigPath]
  let resultsFilepath := joinPath resultsDir w.sonobuoyResultsFilename
  let output ← context .workloadProcess (← output w sonobuoyBinPath
    (kubeconfigArg ++ ["retrieve", "--namespace", "testsys-workload", "--filename", resultsFilepath]))
  if !output.status.success then
    fail (runError w output)
  let runResult ← context .workloadProcess (← TestSys.Workload.output w sonobuoyBinPath
    (kubeconfigArg ++ ["status", "--json", "--namespace", "testsys-workload"]))
  let stdout := w.fromUtf8Lossy runResult.stdout
  let runStatus ← context .deserializeJson (w.jsonFromStr stdout)
  w.processSonobuoyTestResults runStatus

/-- What `run_workload` and `rerun_failed_workload` do, in the same words,
after `sonobuoy run`: check its status, wait for sonobuoy's status within the
timeout, wait for the results, and read them back. -/
def awaitResults (kubeconfigPath resultsDir : String) (workloadConfig : WorkloadConfig)
    (awsSecretName : Option String) (output : Output) : WorkloadRun Results := do
  if !output.status.success then
    fail (runError w output)
  let status ← context .sonobuoyTimeout
    (← waitForSonobuoyStatus w kubeconfigPath (some "testsys-workload"))
  status
  (← waitForSonobuoyResults w kubeconfigPath (some "testsys-workload") workloadConfig.assumeRole
    awsSecretName)
  resultsWorkload w kubeconfigPath resultsDir

def runWorkload (kubeconfigPath : String) (workloadConfig : WorkloadConfig) (resultsDir : String)
    (awsSecretName : Option String) : WorkloadRun Results := do
  let pluginTestArgs ← initializeTests w [] workloadConfig.tests
  let kubeconfigArg := ["--kubeconfig", kubeconfigPath]
  let output ← context .workloadProcess (← output w sonobuoyBinPath
    (kubeconfigArg ++ ["run", "--namespace", "testsys-workload"] ++ pluginTestArgs ++
      sonobuoyImageArg workloadConfig))
  awaitResults w kubeconfigPath resultsDir workloadConfig awsSecretName output

def rerunFailedWorkload (kubeconfigPath resultsDir : String) (workloadConfig : WorkloadConfig)
    (awsSecretName : Option String) : WorkloadRun Results := do
  let kubeconfigArg := ["--kubeconfig", kubeconfigPath]
  let resultsFilepath := joinPath resultsDir w.sonobuoyResultsFilename
  let output ← context .workloadProcess (← output w sonobuoyBinPath
    (kubeconfigArg ++ ["run", "--namespace", "testsys-workload"] ++ sonobuoyImageArg workloadConfig ++
      ["--rerun-failed", resultsFilepath]))
  awaitResults w kubeconfigPath resultsDir workloadConfig awsSecretName output

def deleteWorkload (kubeconfigPath : String) : WorkloadRun Unit := do
  let kubeconfigArg := ["--kubeconfig", kubeconfigPath]
  let status ← context .workloadProcess (← status w sonobuoyBinPath
    (kubeconfigArg ++ ["delete", "--namespace", "testsys-workload", "--wait"]))
  if !status.success then
    fail .workloadDelete

/-! ## The plugin loop -/

/-- The arguments of `sonobuoy run` for the plugin of `test`. -/
def pluginArgs (test : WorkloadTest) : List String := ["--plugin", pluginYaml test.name]

/-- The calls of the plugin of `test` generated, `sonobuoy gen` printing
`output`, and written to its file. -/
def pluginCalls (test : WorkloadTest) (output : Output) : Log :=
  [.output sonobuoyBinPath ["gen", "plugin", "--name", test.name, "--image", test.image] (some output),
    .createFile (pluginYaml test.name) (some ()), .writeAll (pluginYaml test.name) output.stdout (some ())]

/-- The loop's calls for the tests whose plugins were generated, each with
what `sonobuoy gen` printed. -/
def pluginsLog (generated : List (WorkloadTest × Output)) : Log :=
  generated.flatMap fun (test, output) => pluginCalls test output

theorem initializeTest_spec (test : WorkloadTest) (log : Log) :
    (∃ output : Output, output.status.success = true ∧
      initializeTest w test log = (.ok (pluginArgs test), log ++ pluginCalls test output)) ∨
    ∃ e new, initializeTest w test log = (.error e, log ++ new) ∧
      (e = .workloadProcess ∨ e = .workloadTest test.name ∨ e = .fileWrite (pluginYaml test.name)) := by
  simp only [initializeTest, output, createFile, writeAll, call_context_bind]
  split
  · rename_i output _
    split
    · exact .inr ⟨_, _, rfl, .inr (.inl rfl)⟩
    · simp only [pure_bind, call_context_bind, call_context, List.append_assoc, List.singleton_append]
      split
      · split
        · exact .inl ⟨output, Bool.not_not_eq.mp ‹¬_›, by simp [pluginCalls, pluginArgs]⟩
        · exact .inr ⟨_, _, rfl, .inl rfl⟩
      · exact .inr ⟨_, _, rfl, .inr (.inr rfl)⟩
  · exact .inr ⟨_, _, rfl, .inl rfl⟩

/-- What the loop does on every run: either it generated and wrote the plugin
of every test, in order, and returns their arguments after `pluginTestArgs`,
or it failed, with an error that names the plugin of one of the tests. -/
theorem initializeTests_spec (pluginTestArgs : List String) (tests : List WorkloadTest) (log : Log) :
    (∃ outputs : List Output, outputs.length = tests.length ∧ (∀ o ∈ outputs, o.status.success = true) ∧
      initializeTests w pluginTestArgs tests log =
        (.ok (pluginTestArgs ++ tests.flatMap pluginArgs), log ++ pluginsLog (tests.zip outputs))) ∨
    ∃ e new, initializeTests w pluginTestArgs tests log = (.error e, log ++ new) ∧
      (e = .workloadProcess ∨
        ∃ test ∈ tests, e = .workloadTest test.name ∨ e = .fileWrite (pluginYaml test.name)) := by
  induction tests generalizing pluginTestArgs log with
  | nil => exact .inl ⟨[], rfl, by simp, by simp [initializeTests, pluginsLog]⟩
  | cons test tests ih =>
    simp only [initializeTests, bind_apply]
    rcases initializeTest_spec w test log with ⟨output, success, h⟩ | ⟨e, new, h, named⟩ <;> rw [h]
    · rcases ih (pluginTestArgs ++ pluginArgs test) (log ++ pluginCalls test output) with
        ⟨outputs, length, succeeded, h'⟩ | ⟨e, new, h', named⟩
      · refine .inl ⟨output :: outputs, by simp [length], List.forall_mem_cons.mpr ⟨success, succeeded⟩, ?_⟩
        simp [h', pluginsLog]
      · exact .inr ⟨e, pluginCalls test output ++ new, by simp [h'],
          named.imp_right fun ⟨t, mem, named⟩ => ⟨t, List.mem_cons_of_mem _ mem, named⟩⟩
    · exact .inr ⟨e, new, rfl, named.imp_right fun named => ⟨test, List.mem_cons_self _ _, named⟩⟩

/-- Every run of `run_workload` either ends with the loop's failure, before
`sonobuoy run`, or generated and wrote the plugins of all the tests, in order,
and then calls `sonobuoy run` on their files, in that order. -/
theorem runWorkload_runsPlugins (kubeconfigPath : String) (workloadConfig : WorkloadConfig)
    (resultsDir : String) (awsSecretName : Option String) (log : Log) :
    (∃ e after, initializeTests w [] workloadConfig.tests log = (.error e, after) ∧
      runWorkload w kubeconfigPath workloadConfig resultsDir awsSecretName log = (.error e, after)) ∨
    ∃ outputs : List Output, outputs.length = workloadConfig.tests.length ∧
      (∀ o ∈ outputs, o.status.success = true) ∧
      runWorkload w kubeconfigPath workloadConfig resultsDir awsSecretName log =
        (do
          let output ← context .workloadProcess (← output w sonobuoyBinPath
            (["--kubeconfig", kubeconfigPath, "run", "--namespace", "testsys-workload"] ++
              workloadConfig.tests.flatMap pluginArgs ++ sonobuoyImageArg workloadConfig))
          awaitResults w kubeconfigPath resultsDir workloadConfig awsSecretName output)
        (log ++ pluginsLog (workloadConfig.tests.zip outputs)) := by
  rw [runWorkload, bind_apply]
  rcases initializeTests_spec w [] workloadConfig.tests log with
    ⟨outputs, length, succeeded, h⟩ | ⟨e, new, h, -⟩ <;> rw [h]
  · exact .inr ⟨outputs, length, succeeded, rfl⟩
  · exact .inl ⟨e, _, rfl, rfl⟩

/-! ## One namespace -/

/-- Arguments that select the kubeconfig `kubeconfigPath` and the namespace
`testsys-workload`. -/
def Targets (kubeconfigPath : String) (args : List String) : Prop :=
  args.take 2 = ["--kubeconfig", kubeconfigPath] ∧ ["--namespace", "testsys-workload"] <:+: args

/-- The call runs sonobuoy on the kubeconfig `kubeconfigPath` and the
namespace `testsys-workload`, or generates a plugin, or writes a file. -/
def Call.InNamespace (kubeconfigPath : String) : Call → Prop
  | .output program args _ =>
    program = sonobuoyBinPath ∧ (args.take 2 = ["gen", "plugin"] ∨ Targets kubeconfigPath args)
  | .status program args _ => program = sonobuoyBinPath ∧ Targets kubeconfigPath args
  | .waitForSonobuoyStatus path sonobuoyNamespace _ =>
    path = kubeconfigPath ∧ sonobuoyNamespace = some "testsys-workload"
  | .waitForSonobuoyResults path sonobuoyNamespace _ _ _ =>
    path = kubeconfigPath ∧ sonobuoyNamespace = some "testsys-workload"
  | .createFile _ _ | .writeAll _ _ _ => True

theorem targets_of_command (kubeconfigPath command : String) (rest : List String) :
    Targets kubeconfigPath (["--kubeconfig", kubeconfigPath, command, "--namespace", "testsys-workload"] ++ rest) :=
  ⟨rfl, ["--kubeconfig", kubeconfigPath, command], rest, rfl⟩

variable (kubeconfigPath : String)

theorem initializeTests_logs (pluginTestArgs : List String) (tests : List WorkloadTest) :
    Logs (Call.InNamespace kubeconfigPath) (initializeTests w pluginTestArgs tests) := by
  induction tests generalizing pluginTestArgs with
  | nil => exact logs_pure _
  | cons test tests ih =>
    refine logs_bind ?_ fun _ => ih _
    unfold initializeTest output createFile writeAll
    repeat' first
      | with_reducible exact logs_pure _
      | with_reducible exact logs_fail _
      | with_reducible exact logs_monadLift _
      | with_reducible refine logs_bind ?_ fun _ => ?_
      | with_reducible refine logs_call fun _ => ?_
      | split
    all_goals first | trivial | exact ⟨rfl, .inl rfl⟩

theorem resultsWorkload_logs (resultsDir : String) :
    Logs (Call.InNamespace kubeconfigPath) (resultsWorkload w kubeconfigPath resultsDir) := by
  unfold resultsWorkload output
  repeat' first
    | with_reducible exact logs_pure _
    | with_reducible exact logs_fail _
    | with_reducible exact logs_monadLift _
    | with_reducible refine logs_bind ?_ fun _ => ?_
    | with_reducible refine logs_call fun _ => ?_
    | split
  all_goals simp [Call.InNamespace, Targets, List.infix_cons_iff]

theorem awaitResults_logs (resultsDir : String) (workloadConfig : WorkloadConfig)
    (awsSecretName : Option String) (output : Output) :
    Logs (Call.InNamespace kubeconfigPath)
      (awaitResults w kubeconfigPath resultsDir workloadConfig awsSecretName output) := by
  unfold awaitResults waitForSonobuoyStatus waitForSonobuoyResults
  repeat' first
    | with_reducible exact logs_pure _
    | with_reducible exact logs_fail _
    | with_reducible exact logs_monadLift _
    | with_reducible exact resultsWorkload_logs w kubeconfigPath resultsDir
    | with_reducible refine logs_bind ?_ fun _ => ?_
    | with_reducible refine logs_call fun _ => ?_
    | split
  all_goals exact ⟨rfl, rfl⟩

/-- Every call of the four functions runs sonobuoy on the kubeconfig given and
the namespace `testsys-workload`, the one `delete_workload` deletes, except
those that generate and write the plugins. -/
theorem workload_inNamespace (resultsDir : String) (workloadConfig : WorkloadConfig)
    (awsSecretName : Option String) :
    Logs (Call.InNamespace kubeconfigPath)
      (runWorkload w kubeconfigPath workloadConfig resultsDir awsSecretName) ∧
    Logs (Call.InNamespace kubeconfigPath)
      (rerunFailedWorkload w kubeconfigPath resultsDir workloadConfig awsSecretName) ∧
    Logs (Call.InNamespace kubeconfigPath) (resultsWorkload w kubeconfigPath resultsDir) ∧
    Logs (Call.InNamespace kubeconfigPath) (deleteWorkload w kubeconfigPath) := by
  refine ⟨?_, ?_, resultsWorkload_logs w kubeconfigPath resultsDir, ?_⟩
  all_goals
    simp only [runWorkload, rerunFailedWorkload, deleteWorkload, output, status]
    repeat' first
      | with_reducible exact logs_pure _
      | with_reducible exact logs_fail _
      | with_reducible exact logs_monadLift _
      | with_reducible exact initializeTests_logs w kubeconfigPath _ _
      | with_reducible exact awaitResults_logs w kubeconfigPath _ _ _ _
      | with_reducible refine logs_bind ?_ fun _ => ?_
      | with_reducible refine logs_call fun _ => ?_
      | split
    all_goals first
      | exact ⟨rfl, .inr (targets_of_command _ _ _)⟩
      | exact ⟨rfl, targets_of_command _ _ _⟩

end Calls

/-! ## The plugin files -/

section Files

variable {File : Type} [DecidableEq File] (resolve : String → File)

/-- The files after a call, by the file each path names: `resolve` is the file
system's resolution of a path from the working directory, under which
`./a-plugin.yaml` and `././a-plugin.yaml` name one file.  `File::create`
empties a file, and `write_all` appends to it. -/
def Call.write (files : File → Option (List UInt8)) : Call → File → Option (List UInt8)
  | .createFile path (some ()) => Function.update files (resolve path) (some [])
  | .writeAll path contents (some ()) =>
    Function.update files (resolve path) ((files (resolve path)).map (· ++ contents))
  | _ => files

/-- The files after the calls of `log`, from `before`. -/
def written (log : Log) (before : File → Option (List UInt8)) : File → Option (List UInt8) :=
  log.foldl (Call.write resolve) before

theorem written_append (log log' : Log) (before : File → Option (List UInt8)) :
    written resolve (log ++ log') before = written resolve log' (written resolve log before) :=
  List.foldl_append ..

theorem written_pluginCalls (test : WorkloadTest) (output : Output) (before : File → Option (List UInt8)) :
    written resolve (pluginCalls test output) before =
      Function.update before (resolve (pluginYaml test.name)) (some output.stdout) := by
  simp [written, pluginCalls, Call.write]

theorem pluginsLog_append_singleton (generated : List (WorkloadTest × Output)) (test : WorkloadTest)
    (output : Output) :
    pluginsLog (generated ++ [(test, output)]) = pluginsLog generated ++ pluginCalls test output := by
  simp [pluginsLog]

/-- After the loop's calls, a file holds what `sonobuoy gen` printed for the
last test whose plugin path names that file, and every other file is as it
was. -/
theorem written_pluginsLog (generated : List (WorkloadTest × Output))
    (before : File → Option (List UInt8)) (file : File) :
    written resolve (pluginsLog generated) before file =
      match generated.reverse.find? (fun entry => resolve (pluginYaml entry.1.name) == file) with
      | some (_, output) => some output.stdout
      | none => before file := by
  induction generated using List.reverseRecOn with
  | nil => rfl
  | append_singleton generated last ih =>
    obtain ⟨test, output⟩ := last
    rw [pluginsLog_append_singleton, written_append, written_pluginCalls, Function.update_apply]
    by_cases same : file = resolve (pluginYaml test.name)
    · simp [same]
    · simp [same, Ne.symm same, ih]

end Files

/- Tests `a` and `./a`: `sonobuoy run` is given two paths of one file, and the
file holds the plugin of the second test, so the first test's image never
runs. -/
example (first second : Output) :
    let tests : List WorkloadTest := [⟨"a", "first-image"⟩, ⟨"./a", "second-image"⟩]
    let resolve := fun path : String => if path = "././a-plugin.yaml" then "./a-plugin.yaml" else path
    tests.flatMap pluginArgs = ["--plugin", "./a-plugin.yaml", "--plugin", "././a-plugin.yaml"] ∧
    written resolve (pluginsLog (tests.zip [first, second])) (fun _ => none) "./a-plugin.yaml" =
      some second.stdout := by
  have path : pluginYaml "a" = "./a-plugin.yaml" := by decide
  have path' : pluginYaml "./a" = "././a-plugin.yaml" := by decide
  refine ⟨by simp [pluginArgs, path, path'], ?_⟩
  simp [written, pluginsLog, pluginCalls, Call.write, path, path']

end TestSys.Workload
