import PromptShell.Host.Script.Call.Directories
import PromptShell.Host.Script.Call.Names
import PromptShell.Host.Script.Call.Print
import PromptShell.Host.Script.Call.Signals
import PromptShell.Host.Script.Call.Test
namespace PromptShell.Host.Script

/-- The calls that are not special. -/
def plainCalls : List String :=
  ["[", "alias", "bg", "cd", "chdir", "command", "echo", "false", "fg", "getopts", "hash", "jobs",
    "kill", "printf", "pwd", "read", "test", "true", "type", "ulimit", "umask", "unalias", "wait"]

/-- A name is a call, and whether it is a special one. -/
def isSpecialCall? (name : String) : Option Bool :=
  if specialCalls.contains name then some true
  else if plainCalls.contains name then some false
  else none

/-- The calls whose arguments may be assignments, which are not cut. -/
def assigningCalls : List String := ["alias", "export", "local", "readonly"]

namespace Run

/-- The times that a script has taken; here none is taken. -/
def showTimes : Run Nat := do
  let times := "0m0.000000s 0m0.000000s\n"
  print (times ++ times)
  return 0

/-- What a special call does. -/
def specialCall (engine : Engine) (tested : Bool) (name : String) (arguments : List String) :
    Run Nat :=
  match name with
  | "." => runFile engine arguments
  | "break" => leaveLoops .leaveLoops arguments
  | "continue" => leaveLoops .nextRound arguments
  | "eval" => evaluateTexts engine tested arguments
  | "exec" => replace engine arguments
  | "exit" => leave arguments
  | "export" => exportVariables arguments
  | "local" => hideVariables arguments
  | "readonly" => fixVariables arguments
  | "return" => leaveFunction arguments
  | "set" => setAll arguments
  | "shift" => shift arguments
  | "times" => showTimes
  | "trap" => trap arguments
  | "unset" => removeNames arguments
  | _ => return 0

/-- What a plain call does. -/
def plainCall (name : String) (arguments : List String) : Run Nat :=
  match name with
  | "[" => testBracketed arguments
  | "alias" => setAliases arguments
  | "bg" | "fg" => moveJob arguments
  | "cd" | "chdir" => changeDirectory arguments
  | "command" => describeCommand isSpecialCall? arguments
  | "echo" => printLine arguments
  | "false" => return 1
  | "getopts" => takeOptions arguments
  | "hash" => trackPrograms isSpecialCall? arguments
  | "jobs" => listJobs arguments
  | "kill" => kill arguments
  | "printf" => printFormat arguments
  | "pwd" => printDirectory arguments
  | "read" => readLine arguments
  | "test" => test arguments
  | "type" => describeAll isSpecialCall? arguments
  | "ulimit" => changeLimit arguments
  | "umask" => changeMask arguments
  | "unalias" => removeAliases arguments
  | "wait" => wait arguments
  | _ => return 0

/-- A call is run under its name. What it printed is written at its end. -/
def performCall (engine : Engine) (tested special : Bool) (name : String)
    (arguments : List String) : Run Nat := do
  let command := (← get).command
  modify fun shell => { shell with command := some name }
  try
    let status ←
      if special then specialCall engine tested name arguments else plainCall name arguments
    let failed ← flush
    if failed then warn (name ++ ": I/O error")
    let outcome := if failed && status % 2 = 0 then status + 1 else status
    modify fun shell => { shell with command, status := outcome }
    return outcome
  catch halt => do
    modify fun shell => { shell with command, unwritten := [] }
    throw halt

end Run
end PromptShell.Host.Script
