import PromptShell.Host.Process
import PromptShell.Host.Script.Grammar
import PromptShell.Host.Script.SignalWord
namespace PromptShell.Host.Script

/-- A variable. One without a value may still be marked. -/
structure Binding where
  name : String
  value : Option String
  exported : Bool := false
  constant : Bool := false
  deriving Repr

/-- What is passed over on the way out of loops, a function or a file. -/
inductive Skip where
  | nothing
  | leaveLoops (count : Nat)
  | nextRound (count : Nat)
  | leaveFunction (explicit : Bool)
  deriving Repr, DecidableEq

/-- Why a script ends: a fault, a break while somebody talks with it, the end itself, a signal, or a
program that takes its place. -/
inductive Halt where
  | failed
  | interrupted
  | left
  | killed (signal : Nat)
  | replaced (finish : Finish)
  deriving Repr

/-- What a part of a script does in the background: how and when it ends, and what it does to things
that others know. Signals that were still to be taken when it ended had reached a program in its
place, for which some signals do nothing. -/
structure Course where
  ending : WaitReport
  due : Nat
  deeds : List Later := []
  untaken : List Nat := []
  ignored : List Nat := []
  deriving Repr

/-- A part of a script in the background, which has run ahead. Its place is its number among the
others; `commands` counts the commands of its pipeline. Given signals with the times at which they
arrive, `again` tells what it would do. The script may have noticed the end, and it may have waited
for it. -/
structure Job where
  place : Nat
  process : Nat
  commands : Nat := 1
  course : Course
  again : List (Nat × Nat) → Course
  arrived : List (Nat × Nat) := []
  noticed : Bool := false
  waited : Bool := false

/-- When a part in the background ends. -/
def Job.due (job : Job) : Nat := job.course.due

/-- A program that was found: its path, the place of its directory among those that were searched,
and whether the script has moved since then. -/
structure Located where
  path : String
  place : Nat
  stale : Bool := false

/-- A script between two of its commands. -/
structure Shell where
  scene : Scene
  directory : Directory
  /-- The path of the directory as the script knows it. -/
  path : Option String
  /-- The path of the directory as the tree tells it, if the script has asked for it. -/
  truePath : Option String := none
  name : String
  arguments : List String
  descriptors : Descriptors
  process : Nat
  /-- The process number of the script of which this is a part. -/
  root : Nat
  /-- The processes that have started this one, the nearest first. -/
  above : List Nat := []
  bindings : List Binding := []
  functions : List (String × Nat × Command) := []
  aliases : List (String × String) := []
  documents : List (Nat × Word) := []
  nextDocument : Nat := 0
  options : List Char := []
  /-- The signals that did nothing to the script from the start on. No trap takes them. -/
  deaf : List Nat := []
  traps : List (Nat × String) := []
  pending : List Nat := []
  /-- A signal has arrived since the traps were looked at. -/
  alerted : Bool := false
  status : Nat := 0
  /-- The outcome of the last command that a word was expanded with. -/
  expansionStatus : Nat := 0
  /-- The outcome that traps must not change. -/
  savedStatus : Option Nat := none
  line : Nat := 0
  /-- The lines that the readers of the texts under way have come to, the innermost text first. -/
  lines : List Nat := [1]
  /-- The texts inside of others that are being run. -/
  nesting : Nat := 0
  command : Option String := none
  skip : Skip := .nothing
  loops : Nat := 0
  /-- What local variables hide, for each call that is under way. -/
  hidden : List (List (String × Option Binding)) := []
  /-- The parts in the background, the latest first. -/
  jobs : List Job := []
  lastJob : Option Nat := none
  stops : List Nat := []
  /-- The argument that holds the next option, counted from one, and the place in it. -/
  optionIndex : Nat := 1
  optionOffset : Option Nat := none
  /-- The programs that were found. -/
  located : List (String × Located) := []
  allowance : Allowance := {}
  /-- The functions that are being called. -/
  depth : Nat := 0
  /-- A command is about to be shown. What runs in the meantime is not shown. -/
  showing : Bool := false
  /-- The streams that redirections have closed, as far as the script remembers. It takes no note of
  those that are opened for a part of it in a process of its own. -/
  shut : List Nat := []
  /-- Streams that are held open besides those of the script. -/
  heldOpen : List Nat := []
  /-- The streams that were put aside, and those to scripts. -/
  aside : Nat := 0
  /-- The streams that were closed because they could not be put aside. -/
  lost : List Nat := []
  /-- What a call has printed and not yet written, the latest text first. -/
  unwritten : List String := []

/-- A part of a script. -/
abbrev Run := ExceptT Halt (StateM Shell)

/-- What a part of a script is run with: programs, and commands with the wish to keep failures from
ending the script and to end it behind the command. -/
structure Engine where
  spawn : Spawn
  evaluate : Bool → Bool → Command → Run Nat

namespace Shell

/-- A variable by its name. -/
def binding? (shell : Shell) (name : String) : Option Binding :=
  shell.bindings.find? fun binding => binding.name = name

/-- The value of a variable. -/
def value? (shell : Shell) (name : String) : Option String :=
  (shell.binding? name).bind Binding.value

/-- A variable is put in the place of one with its name. -/
def put (shell : Shell) (binding : Binding) : Shell :=
  let others := shell.bindings.filter fun other => other.name ≠ binding.name
  { shell with bindings := binding :: others }

/-- A variable and its marks are gone. -/
def drop (shell : Shell) (name : String) : Shell :=
  { shell with bindings := shell.bindings.filter fun other => other.name ≠ name }

/-- The variables that programs get. -/
def exported (shell : Shell) : List (String × String) :=
  shell.bindings.filterMap fun binding =>
    if binding.exported then binding.value.map fun value => (binding.name, value) else none

/-- An option is set. -/
def has (shell : Shell) (option : Char) : Bool := shell.options.contains option

/-- The characters at which values are cut. -/
def separators (shell : Shell) : List Char := ((shell.value? "IFS").getD " \t\n").toList

/-- The directories in which programs are looked for. -/
def searchPath (shell : Shell) : String := (shell.value? "PATH").getD ""

/-- The signals that do nothing to the script and to the programs that it starts. -/
def ignored (shell : Shell) : List Nat :=
  shell.deaf ++ (shell.traps.filter fun trap => trap.2.isEmpty).map Prod.fst

/-- What the script finds around it, and a program that takes its place. -/
def around (shell : Shell) : Surroundings where
  directory := shell.directory
  bindings := shell.exported
  descriptors := shell.descriptors
  process := shell.process
  parent := shell.above.headD 0
  ignored := shell.ignored
  heldOpen := shell.heldOpen
  allowance := shell.allowance

/-- The tree as the script sees it. -/
def tree (shell : Shell) : Node := shell.scene.seenBy shell.descriptors

/-- The beginning of a complaint. -/
def opening (shell : Shell) : String :=
  shell.name ++ ": " ++ toString shell.line ++ ": " ++
    match shell.command with
    | some command => command ++ ": "
    | none => ""

/-- A trap that does something is set. -/
def hasTraps (shell : Shell) : Bool := shell.traps.any fun trap => !trap.2.isEmpty

/-- The name under which switches are hidden. -/
def switchesName : String := "-"

/-- What hangs on a variable that has another value again starts afresh: the programs that were
found, or the count of options. -/
def startAfresh (shell : Shell) (name : String)
    (value : Option String) : Shell :=
  if name = "PATH" then { shell with located := [] }
  else if name = "OPTIND" then
    let index := (argumentNumber? (value.getD "")).getD 1
    { shell with optionIndex := max 1 index, optionOffset := none }
  else shell

/-- What a call hid comes back. -/
def uncover (shell : Shell) (name : String) :
    Option Binding → Shell
  | some binding =>
      if name = switchesName then { shell with options := (binding.value.getD "").toList }
      else (shell.put binding).startAfresh name binding.value
  | none => (shell.drop name).startAfresh name none

end Shell

namespace Run

/-- Work on what programs share. -/
def work {Value : Type} (work : Surroundings → Work Value) : Run Value := do
  let shell ← get
  let (value, scene) := work shell.around shell.scene
  set { shell with scene }
  return value

/-- The script has written behind the end that a file may have. -/
def exceedSize : Run Unit := do
  let shell ← get
  let signal := Surroundings.sizeSignal
  if shell.scene.sent.contains (shell.process, signal) then
    let sent := shell.scene.sent.filter fun entry => entry ≠ (shell.process, signal)
    set { shell with scene := { shell.scene with sent } }
    if !shell.deaf.contains signal then
      match shell.traps.lookup signal with
      | none => throw (.killed signal)
      | some action =>
          if !action.isEmpty then
            modify fun shell => { shell with
              pending := shell.pending ++ [signal], alerted := true }

/-- Bytes are written to a stream. -/
def writeBytes (id : Nat) (bytes : Bytes) : Run (Option Errno) := do
  let fault ← work fun around => around.writeTo id bytes
  exceedSize
  return fault

/-- A text goes to the error stream. -/
def tell (text : String) : Run Unit := do
  match (← get).descriptors.lookup 2 with
  | some id => do
      let _ ← writeBytes id (Raw.toBytes text)
  | none => pure ()

/-- A complaint. -/
def warn (text : String) : Run Unit := do tell ((← get).opening ++ text ++ "\n")

/-- The outcome of the last command. -/
def setStatus (status : Nat) : Run Unit := modify fun shell => { shell with status }

/-- A text is printed. It is written when the call that prints it ends. -/
def print (text : String) : Run Unit :=
  modify fun shell => { shell with unwritten := text :: shell.unwritten }

/-- What was printed is written, which may fail. -/
def flush : Run Bool := do
  let text := String.join (← get).unwritten.reverse
  modify fun shell => { shell with unwritten := [] }
  let bytes := Raw.toBytes text
  match (← get).descriptors.lookup 1 with
  | some id => return (← writeBytes id bytes).isSome
  | none => return !bytes.isEmpty

/-- A fault: a complaint, and outcome two. -/
def fail {Value : Type} (text : String) : Run Value := do
  setStatus 2
  warn text
  let _ ← flush
  throw .failed

/-- The number that an argument spells, which must not be negative. -/
def number (text : String) : Run Nat :=
  match argumentNumber? text with
  | some number => return number
  | none => fail ("Illegal number: " ++ text)

/-- The count of options starts again with an argument. -/
def restartOptions (text : String) : Run Unit := do
  let index ← number text
  modify fun shell => { shell with optionIndex := max 1 index, optionOffset := none }

/-- A variable gets a value, or loses it, and keeps its marks. -/
def assign (name : String) (value : Option String) (exported constant : Bool := false) :
    Run Unit := do
  let shell ← get
  let old := (shell.binding? name).getD { name, value := none }
  if old.constant then fail (name ++ ": is read only")
  else
    if name = "OPTIND" then restartOptions (value.getD "")
    if name = "PATH" then modify fun shell => { shell with located := [] }
    modify fun shell => shell.put { old with
      value, exported := old.exported || exported || shell.has 'a', constant }

/-- The name of a variable that an argument holds. -/
def variableName (text : String) : Run String := do
  let name := String.ofList (text.toList.takeWhile fun character => character ≠ '=')
  if isName name.toList then return name else fail (name ++ ": bad variable name")

/-- A variable is set. -/
def setVariable (name value : String) (exported constant : Bool := false) : Run Unit := do
  assign (← variableName name) (some value) exported constant

/-- A variable and its marks go. -/
def unset (name : String) : Run Unit := do
  let name ← variableName name
  assign name none
  modify fun shell => shell.drop name

/-- A variable will get its value back when the call that is under way ends. -/
def hide (name : String) : Run Unit :=
  modify fun shell =>
    match shell.hidden with
    | [] => shell
    | frame :: frames =>
        if frame.any fun entry => entry.1 = name then shell
        else { shell with hidden := ((name, shell.binding? name) :: frame) :: frames }

/-- A call starts that may hide variables. -/
def openFrame : Run Unit := modify fun shell => { shell with hidden := [] :: shell.hidden }

/-- The switches will get their values back when the call that is under way ends. -/
def hideSwitches : Run Unit :=
  modify fun shell =>
    let letters := String.ofList shell.options
    let binding : Binding := { name := Shell.switchesName, value := some letters }
    match shell.hidden with
    | [] => shell
    | frame :: frames =>
        { shell with hidden := ((Shell.switchesName, some binding) :: frame) :: frames }

/-- A call ends, and what it hid comes back. A variable that was not there before goes by its name,
which may be a fault. -/
def closeFrame : Run Unit := do
  let shell ← get
  let frame := shell.hidden.headD []
  set { shell with hidden := shell.hidden.tail }
  for entry in frame do
    if entry.2.isNone then
      let _ ← variableName entry.1
    modify fun shell => shell.uncover entry.1 entry.2

/-- Signals that do nothing to a script unless a trap takes them. -/
def harmlessSignals : List Nat := [0, 17, 18, 23, 28]

/-- Signals that stop a script until it is told to go on. -/
def stoppingSignals : List Nat := [19, 20, 21, 22]

/-- The number of the signal that makes a stopped script go on. -/
def resumeSignal : Nat := 18

/-- Somebody talks with the script, which is no part of another one. -/
def isTalking (shell : Shell) : Bool := shell.has 'i' && shell.process = shell.root

/-- The signals that do nothing to a script that somebody talks with. -/
def talkSignals : List Nat := [3, 15]

/-- The number of the signal that takes a script back to where it asks for a command. -/
def breakSignal : Nat := 2

/-- A signal that no trap takes has its effect. A stop lasts until a part in the background ends it;
a stop that nobody would ever end is taken as a kill. -/
def takeEffect (signal : Nat) : Run Unit := do
  let shell ← get
  if harmlessSignals.contains signal || (isTalking shell && talkSignals.contains signal) then return
  else if isTalking shell && signal = breakSignal then
    setStatus (128 + breakSignal)
    tell "\n"
    throw .interrupted
  else if stoppingSignals.contains signal then
    match shell.scene.later.find? fun later =>
        later.happening = .signal shell.process resumeSignal with
    | some later =>
        set { shell with
          stops := shell.stops ++ [signal], scene := shell.scene.passUntil later.time }
    | none => throw (.killed 9)
  else throw (.killed signal)

/-- A signal reaches the script. Two signals cannot be kept away from it. -/
def receive (signal : Nat) : Run Unit := do
  let shell ← get
  if signal = 9 || signal = 19 then takeEffect signal
  else if shell.deaf.contains signal then return
  else match shell.traps.lookup signal with
    | none => takeEffect signal
    | some action =>
        if !action.isEmpty && signal ≠ 0 then
          set { shell with pending := shell.pending ++ [signal], alerted := true }

/-- Signals that were sent to the script arrive. -/
def receiveSent : Run Unit := do
  let shell ← get
  let (own, others) := shell.scene.sent.partition fun entry => entry.1 = shell.process
  set { shell with scene := { shell.scene with sent := others } }
  for entry in own do
    receive entry.2

end Run
end PromptShell.Host.Script
