/-! # Processes and paths of `std`

`std::process::ExitStatus` and `Output`, and `PathBuf::join`, as the agents
that spawn processes see them: the EKS provider, the workload agent and the
self-tests' `kind` cluster. -/
set_option autoImplicit false

namespace TestSys

/-- `std::process::ExitStatus` on Unix. -/
inductive ExitStatus where
  | exited (code : Int)
  | signaled (signal : Int)
  deriving DecidableEq

def ExitStatus.success : ExitStatus → Bool
  | .exited 0 => true
  | _ => false

/-- `ExitStatus::code`: none when a signal ended the process. -/
def ExitStatus.code : ExitStatus → Option Int
  | .exited code => some code
  | .signaled _ => none

instance : ToString ExitStatus where
  toString
    | .exited code => "exit status: " ++ toString code
    | .signaled signal => "signal: " ++ toString signal

/-- `std::process::Output`: what `Command::output` returns once the process
ran. -/
structure Output where
  status : ExitStatus
  stdout : List UInt8
  stderr : List UInt8
  deriving DecidableEq

/-- A `Path`: its text when it is valid Unicode, and its debug display. -/
structure Path where
  toStr : Option String
  debug : String
  deriving DecidableEq

/-- `PathBuf::join` on Unix, over the paths' text: an absolute path (one that
starts with `/`) replaces the base, otherwise a separator goes between them
unless the base is empty or ends in one. -/
def joinPath (base path : String) : String :=
  if path.data.head? = some '/' then path
  else if base.data.getLast?.all (· = '/') then base ++ path
  else base ++ "/" ++ path

end TestSys
