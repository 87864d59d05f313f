import PromptShell.Child
import PromptShell.Text.Quoted
namespace PromptShell

/-- The levels of the log, from the most urgent one on. -/
inductive Level where
  | error
  | warn
  | info
  | debug
  | trace
  deriving Repr, DecidableEq

/-- A level is written in capitals. -/
def Level.name : Level → String
  | .error => "ERROR"
  | .warn => "WARN"
  | .info => "INFO"
  | .debug => "DEBUG"
  | .trace => "TRACE"

/-- The rank of a level; a filter shows all ranks up to its own. -/
def Level.rank : Level → Nat
  | .error => 1
  | .warn => 2
  | .info => 3
  | .debug => 4
  | .trace => 5

/-- One thing that the shell writes down. -/
inductive Record where
  | lineGrown (capacity : Nat)
  | argumentsGrown (capacity : Nat)
  | endOfInput
  | running (command : String)
  | launching (command : String)
  | enterFailed (target : String) (errno : Errno)
  | spawned (command : String) (process : Nat)
  | forkFailed (errno : Errno)
  | stillRunning (process : Nat) (notice : Notice)
  | waitFailed (process : Nat) (errno : Errno)
  | finished (command : String) (ending : ChildEnd)
  deriving Repr, DecidableEq

namespace Record

/-- The level of a record. -/
def level : Record → Level
  | lineGrown _ | argumentsGrown _ | stillRunning _ _ => .trace
  | enterFailed _ _ | forkFailed _ | waitFailed _ _ => .warn
  | _ => .debug

/-- The part of the shell that a record comes from. -/
def target : Record → String
  | lineGrown _ => "lsh::reader"
  | argumentsGrown _ => "lsh::lexer"
  | endOfInput | running _ | launching _ => "lsh::interpreter"
  | enterFailed _ _ => "lsh::builtin"
  | spawned _ _ | forkFailed _ | stillRunning _ _ | waitFailed _ _ | finished _ _ =>
      "lsh::external"

/-- The text of a record. -/
def message : Record → String
  | lineGrown capacity => "line buffer grown to " ++ toString capacity ++ " bytes"
  | argumentsGrown capacity => "argument vector grown to " ++ toString capacity ++ " entries"
  | endOfInput => "end of input"
  | running command => "running builtin " ++ Quoted.encode command
  | launching command => "launching external " ++ Quoted.encode command
  | enterFailed target errno =>
      "chdir to " ++ Quoted.encode target ++ " failed: " ++ errno.trace
  | spawned command process =>
      "spawned " ++ Quoted.encode command ++ " as pid " ++ toString process
  | forkFailed errno => "fork failed: " ++ errno.trace
  | stillRunning process notice =>
      "pid " ++ toString process ++ " still running: " ++ notice.trace process
  | waitFailed process errno =>
      "waiting for pid " ++ toString process ++ " failed: " ++ errno.trace
  | finished command ending =>
      "Some(" ++ Quoted.encode command ++ ") finished: " ++ ending.trace

/-- A growth record tells of a buffer's size and of nothing that the shell did. -/
def isGrowth : Record → Bool
  | lineGrown _ | argumentsGrown _ => true
  | _ => false

/-- The line of a record in the log, with its level in five columns. -/
def line (time : String) (record : Record) : String :=
  let name := record.level.name
  let padding := String.ofList (List.replicate (5 - name.length) ' ')
  "[" ++ time ++ " " ++ name ++ padding ++ " " ++ record.target ++ "] " ++ record.message ++ "\n"

end Record
end PromptShell
