import PromptShell.Errno
namespace PromptShell

/-- The causes that have a name of their own. -/
inductive Cause where
  | brokenPipe
  | unexpectedEnd
  | wouldBlock
  | timedOut
  | permissionDenied
  | invalidData
  | notFound
  | connectionReset
  | interrupted
  deriving Repr, DecidableEq

/-- The wording of a cause. -/
def Cause.message : Cause → String
  | .brokenPipe => "broken pipe"
  | .unexpectedEnd => "unexpected end of file"
  | .wouldBlock => "operation would block"
  | .timedOut => "timed out"
  | .permissionDenied => "permission denied"
  | .invalidData => "invalid data"
  | .notFound => "entity not found"
  | .connectionReset => "connection reset"
  | .interrupted => "operation interrupted"

/-- A fault is a named cause, an error number, a text of its own, or a write that took nothing. -/
inductive Fault where
  | named (cause : Cause)
  | system (number : Int)
  | custom (text : String)
  | tookNothing
  deriving Repr, DecidableEq

/-- An interruption is no answer: the call is made again. -/
def Fault.isInterruption : Fault → Bool
  | .named .interrupted => true
  | .system number => number == (Errno.interrupted.number : Int)
  | _ => false

/-- The wording of a fault. -/
def Fault.message : Fault → String
  | .named cause => cause.message
  | .system number => libraryText number ++ " (os error " ++ toString number ++ ")"
  | .custom text => text
  | .tookNothing => "failed to write whole buffer"

end PromptShell
