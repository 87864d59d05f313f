import PromptShell.Fault
import PromptShell.Text.Blank
import PromptShell.Text.Quoted
import PromptShell.Settings
namespace PromptShell

/-- A failure is named by its cause. -/
inductive Failure where
  | missingArgument (command : String)
  | system (errno : Errno)
  | usage (text : String)
  | invalidArgument (argument : String)
  | stream (fault : Fault)
  | allocation
  deriving Repr, DecidableEq

/-- The text of a failure. -/
def Failure.message : Failure → String
  | .missingArgument command => "expected argument to \"" ++ command ++ "\""
  | .system errno => errno.describe
  | .usage text => text
  | .invalidArgument argument => "invalid argument: " ++ Quoted.encode argument
  | .stream fault => fault.message
  | .allocation => "allocation error"

/-- Only a failed allocation is fatal. -/
def Failure.isFatal : Failure → Bool
  | .allocation => true
  | _ => false

theorem Failure.isFatal_iff (failure : Failure) :
    failure.isFatal = true ↔ failure = .allocation := by
  cases failure <;> simp [isFatal]

/-- The line that reports a message. -/
def reportLine (message : String) : String :=
  programName ++ ": " ++ trimEnd message ++ "\n"

end PromptShell
