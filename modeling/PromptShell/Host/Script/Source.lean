import PromptShell.Host.Script.Shell
namespace PromptShell.Host.Script

namespace Run

/-- Where the text of a script comes from: how it goes on, how a line is asked for, which may be a
further line of a command, and whether lines that were read are shown. -/
structure Supply where
  more : Run (List Char) := return []
  ask : Bool → Run Unit := fun _ => return ()
  shows : Bool := false

/-- The lines that a command goes on with behind its first one. One that would be empty is not asked
for unless the reader looked for it. -/
def furtherLines (text : List Char) (starved : Bool) : Nat :=
  text.count '\n' - if !starved && text.getLast? = some '\n' then 1 else 0

/-- What a line goes on with behind a text, up to its end. Nothing is left of a line that has
ended. -/
def lineEnd (text rest : List Char) : List Char :=
  if text.isEmpty || text.getLast? = some '\n' then []
  else
    let line := rest.takeWhile fun character => character ≠ '\n'
    line ++ (rest.drop line.length).take 1

/-- The next command is read. A text that ends too early may go on with more; the bound is the
number of times that it may. Lines that were read are shown if they are to be. -/
def readOn (supply : Supply) (bound : Nat) (reading : Reading) :
    Run (Option Command × Reading) := do
  let shell ← get
  let (outcome, after) := Reading.next { reading with
    aliases := shell.aliases, documents := [], nextDocument := shell.nextDocument
    starved := false }
  let fresh ← if after.starved then supply.more else pure []
  match bound, fresh with
  | bound + 1, _ :: _ => readOn supply bound { reading with text := reading.text ++ fresh }
  | _, _ =>
      modify fun shell => { shell with
        documents := after.documents ++ shell.documents, nextDocument := after.nextDocument
        lines := after.line :: shell.lines.tail }
      let taken := reading.text.take (reading.text.length - after.text.length)
      for _ in List.range (furtherLines taken after.starved) do
        supply.ask true
      if supply.shows && shell.has 'v' then
        tell (String.ofList (taken ++ lineEnd taken after.text))
      match outcome with
      | .ok command => return (command, after)
      | .error flaw => do
          modify fun shell => { shell with line := flaw.line }
          fail ("Syntax error: " ++ flaw.text)

/-- The times that a script may be read on. -/
def readLimit : Nat := Nat.pow 10 9

/-- The next command is asked for and read. -/
def readCommand (supply : Supply) (reading : Reading) : Run (Option Command × Reading) := do
  supply.ask false
  readOn supply readLimit reading

/-- The commands of a text are run, which may go on with more. The outcome is that of the last
one; the bound is the number of commands. -/
def commandsFrom (engine : Engine) (supply : Supply) (tested : Bool) (bound : Nat)
    (reading : Reading) (status : Nat) : Run Nat := do
  match bound with
  | 0 => return status
  | bound + 1 =>
      match ← readCommand supply reading with
      | (none, _) => return status
      | (some command, after) =>
          let outcome ← engine.evaluate tested false command
          let status := if command matches .nothing then status else outcome
          if (← get).skip = .nothing then commandsFrom engine supply tested bound after status
          else return status

/-- The depth to which texts may be run inside of others. A script that goes deeper runs out of
memory and is killed for it. -/
def textDepth : Nat := 9000

/-- The commands of a text inside of another one are run. -/
def commandsInside (engine : Engine) (supply : Supply) (tested : Bool) (text : List Char) :
    Run Nat := do
  let outer := (← get).nesting
  if textDepth ≤ outer then throw (.killed 11)
  modify fun shell => { shell with lines := 1 :: shell.lines, nesting := outer + 1 }
  let status ← commandsFrom engine supply tested readLimit { text } 0
  modify fun shell => { shell with lines := shell.lines.tail, nesting := outer }
  return status

/-- The commands of a text are run. -/
def commands (engine : Engine) (tested : Bool) (text : List Char) : Run Nat :=
  commandsInside engine {} tested text

/-- A text is run as a part of the script. -/
def text (engine : Engine) (tested : Bool) (text : String) : Run Nat :=
  commands engine tested text.toList

/-- The trap of a signal is run. It leaves the outcome of the last command alone, unless it returns
with another one. -/
def takeTrap (engine : Engine) (signal : Nat) : Run Unit := do
  let shell ← get
  let saved := shell.savedStatus.getD shell.status
  set { shell with
    pending := shell.pending.filter fun other => other ≠ signal
    savedStatus := some saved }
  match shell.traps.lookup signal with
  | some action => do
      let _ ← text engine false action
      if (← get).skip ≠ .leaveFunction true then setStatus saved
  | none => pure ()
  modify fun after => { after with savedStatus := shell.savedStatus }

/-- The number of signals. -/
def signalCount : Nat := 64

/-- The traps of the signals that have arrived are run in the order of the signals, if one has
arrived since this was done last. On the way out of a function they wait. -/
def traps (engine : Engine) : Run Unit := do
  if (← get).alerted then
    modify fun shell => { shell with alerted := false }
    for index in List.range signalCount do
      if (← get).pending.contains (index + 1) then
        if (← get).skip = .nothing then takeTrap engine (index + 1)
        else modify fun shell => { shell with alerted := true }

end Run

/-- How a script has ended. One that was not killed runs its last trap, which may choose another
outcome. -/
def Shell.conclude (engine : Engine) (shell : Shell) : Option Halt → Finish × Shell
  | some (.killed signal) => (⟨.killed signal, shell.stops⟩, shell)
  | some (.replaced finish) => ({ finish with stops := shell.stops ++ finish.stops }, shell)
  | _ =>
      let exited (status : Nat) (after : Shell) : Finish × Shell :=
        (⟨.exited (status % 256), after.stops⟩, after)
      match shell.traps.lookup 0 with
      | none => exited shell.status shell
      | some action =>
          let prepared := { shell with
            traps := shell.traps.filter fun trap => trap.1 ≠ 0
            skip := .nothing, loops := 0, savedStatus := some shell.status }
          match (Run.text engine false action).run prepared with
          | (.ok _, after) => exited shell.status after
          | (.error (.killed signal), after) => (⟨.killed signal, after.stops⟩, after)
          | (.error (.replaced finish), after) =>
              ({ finish with stops := after.stops ++ finish.stops }, after)
          | (.error _, after) => exited after.status after

end PromptShell.Host.Script
