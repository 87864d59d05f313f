import PromptShell.Host.Script.Evaluate
namespace PromptShell.Host.Script

/-- The variables that every script has. -/
def firstBindings (parent : Nat) : List Binding := [
  { name := "IFS", value := some " \t\n" },
  { name := "OPTIND", value := some "1" },
  { name := "PATH", value := some Run.standardPath },
  { name := "PPID", value := some (toString parent) },
  { name := "PS1", value := some "# " },
  { name := "PS2", value := some "> " },
  { name := "PS4", value := some "+ " }]

/-- Where programs are looked for by somebody who has just come. -/
def firstPath : String := "/usr/local/sbin:/usr/local/bin:/usr/sbin:/usr/bin:/sbin:/bin"

/-- The variables whose values are not handed down. -/
def ownNames : List String := ["IFS", "OPTIND", "PPID"]

/-- A variable that is handed down. -/
def inherit (shell : Shell) (entry : String × String) : Shell :=
  let (name, value) := entry
  if !isName name.toList then shell
  else
    let old := (shell.binding? name).getD { name, value := none }
    let kept := if ownNames.contains name then old.value else some value
    shell.put { old with value := kept, exported := true }

/-- The path of the directory that is handed down, if it leads there. -/
def inheritedPath? (around : Surroundings) (top : Node) : Option String := do
  let path ← around.bindings.lookup "PWD"
  guard (isAbsolute path)
  let place ← (resolveDirectory top around.directory path).toOption
  guard (place = around.directory && isKept top place)
  return path

/-- A script before its first command. -/
def firstShell (around : Surroundings) (name : String) (scene : Scene) : Shell :=
  let bare : Shell := {
    scene, name
    directory := around.directory
    path := none
    arguments := []
    descriptors := around.descriptors
    process := around.process
    root := around.process
    above := [around.parent]
    deaf := around.ignored
    allowance := around.allowance
    bindings := firstBindings around.parent }
  around.bindings.foldl inherit bare

namespace Run

/-- The script finds out where it is. -/
def findDirectory (around : Surroundings) : Run Unit := do
  let shell ← get
  let told := inheritedPath? around shell.scene.top
  let path := told <|> physicalPath shell
  if path.isNone then tell "sh: 0: getcwd() failed: No such file or directory\n"
  set { shell with scene := (← get).scene, path, truePath := if told.isSome then none else path }
  assign "PWD" (some (path.getD "")) true

/-- How a script is started: with its text as an argument, and as the first one of somebody who has
just come. Some switches are expressly turned off. -/
structure Manner where
  inline : Bool := false
  login : Bool := false
  declined : List Char := []

/-- A switch is turned. -/
def Manner.turned (manner : Manner) (letter : Char) (on : Bool) : Manner :=
  let others := manner.declined.filter fun other => other ≠ letter
  { manner with declined := if on then others else letter :: others }

/-- A switch is turned by its letter. Of the two ways to edit lines the letter of one declines the
other one. -/
def Manner.turnedByLetter (manner : Manner) (letter : Char) (on : Bool) : Manner :=
  let turned := manner.turned letter on
  if on && letter = 'V' then turned.turned 'E' false
  else if on && letter = 'E' then turned.turned 'V' false
  else turned

/-- Switches are turned by a group of letters in front of a script. -/
def startLetters (on : Bool) : List Char → Manner → List String → Run (Manner × List String)
  | [], manner, rest => return (manner, rest)
  | 'c' :: letters, manner, rest => startLetters on letters { manner with inline := true } rest
  | 'l' :: letters, manner, rest => startLetters on letters { manner with login := true } rest
  | 'o' :: letters, manner, rest => do
      match rest with
      | [] => do
          let all := switches.map Prod.snd
          listSwitches (all.filter fun letter => !manner.declined.contains letter) on
          let _ ← flush
          startLetters on letters manner []
      | name :: rest => do
          turnNamed name on
          let turned := (switches.lookup name).map fun letter => manner.turned letter on
          startLetters on letters (turned.getD manner) rest
  | letter :: letters, manner, rest => do
      turnLetter letter on
      startLetters on letters (manner.turnedByLetter letter on) rest

/-- The options in front of a script; the bound is the number of arguments. -/
def startOptions (bound : Nat) (manner : Manner) (arguments : List String) :
    Run (Manner × List String) := do
  match bound, arguments with
  | 0, _ | _, [] => return (manner, [])
  | bound + 1, argument :: rest =>
      match argument.toList with
      | ['-'] | ['-', '-'] => return (manner, rest)
      | '-' :: letters => do
          let (manner, rest) ← startLetters true letters manner rest
          startOptions bound manner rest
      | '+' :: letters => do
          let (manner, rest) ← startLetters false letters manner rest
          startOptions bound manner rest
      | _ => return (manner, argument :: rest)

/-- The next block of the input, if there is one. -/
def readInput : Run (List Char) := do
  match (← get).descriptors.lookup 0 with
  | none => return []
  | some id => readBlock id

/-- A command is asked for, or a further line of one, if somebody talks with the script. -/
def askFor (engine : Engine) (further : Bool) : Run Unit := do
  if (← get).has 'i' then tell (← promptText engine (if further then "PS2" else "PS1"))

/-- The times that the end of the input is not taken for the end of the script. -/
def endLimit : Nat := 50

/-- The input has ended. Whoever talks with the script sees a new line, unless the end of the input
is to be ignored. -/
def endInput (engine : Engine) : Run Unit := do
  if (← get).has 'I' then
    for _ in List.range endLimit do
      tell "\nUse \"exit\" to leave shell.\n"
      askFor engine false
  else if (← get).has 'i' then tell "\n"

/-- A script that somebody talks with goes on. -/
def isOvercome (halt : Halt) : Run Bool :=
  match halt with
  | .failed | .interrupted => return (← get).has 'i'
  | _ => return false

/-- The input is run as a script. A fault takes a script that somebody talks with back to where it
asks for a command, and what was read ahead is lost; the bound is the number of times. -/
def runInput (engine : Engine) (more : Run (List Char)) (bound : Nat) (text : List Char) :
    Run Unit := do
  let supply : Supply := { more, ask := askFor engine, shows := true }
  try
    let line := ((← get).lines.getLast?).getD 1
    modify fun shell => { shell with lines := [line], nesting := 0 }
    let _ ← commandsFrom engine supply false readLimit { text, line } 0
    if (← get).skip = .nothing then endInput engine
  catch halt =>
    match bound, ← isOvercome halt with
    | bound + 1, true => do
        closeFrames 0
        modify fun shell => { shell with skip := .nothing, loops := 0, command := none }
        runInput engine more bound []
    | _, _ => throw halt

/-- The input that the script finds is run. -/
def runOwnInput (engine : Engine) : Run Unit := runInput engine readInput readLimit []

/-- A part of a start. A fault in it does not keep a script from starting that somebody talks
with. -/
def overcoming (part : Run Unit) : Run Bool :=
  tryCatch (do part; return true) fun halt => do
    if ← isOvercome halt then return false else throw halt

/-- A file is run in front of the script, if there is one. -/
def runFirst (engine : Engine) (named : String) : Run Unit := do
  let _ ← overcoming do
    let path ← expandOwn engine named
    let shell ← get
    if (shell.scene.openToRead shell.descriptors shell.directory path).isOk then
      let more ← openScript path
      let _ ← commandsInside engine { more, shows := true } false []
      modify fun shell => { shell with skip := .nothing }

/-- What is done in front of the script for somebody who has just come, and for somebody who talks
with it. -/
def greet (engine : Engine) (manner : Manner) : Run Unit := do
  if manner.login then
    assign "PATH" (some firstPath) true
    runFirst engine "$HOME/.profile"
  if (← get).has 'i' then
    match (← get).value? "ENV" with
    | some named => if !named.isEmpty then runFirst engine named
    | none => pure ()

/-- The script is run that the arguments choose. -/
def runChosen (engine : Engine) (arguments : List String) : Run Unit := do
  let (manner, operands) ← startOptions arguments.length {} arguments
  if (← get).has 'i' && !manner.declined.contains 'm' then turn 'm' true
  let rename (operands : List String) : Run Unit :=
    modify fun shell => { shell with
      name := operands.headD shell.name, arguments := operands.tail }
  match manner.inline, operands with
  | true, [] => fail "-c requires an argument"
  | true, script :: operands => do
      rename operands
      checkMonitor
      greet engine manner
      let finished ← overcoming do
        let _ ← text engine false script
      if !finished || (← get).has 's' then runOwnInput engine
  | false, [] => do
      turn 's' true
      checkMonitor
      greet engine manner
      runOwnInput engine
  | false, path :: operands => do
      if (← get).has 's' then
        setArguments (path :: operands)
        checkMonitor
        greet engine manner
        runOwnInput engine
      else
        let more ← openScript path
        rename (path :: operands)
        checkMonitor
        greet engine manner
        runInput engine more readLimit []

end Run

/-- A script runs to its end. -/
def run (spawn : Spawn) (around : Surroundings) (name : String) (arguments : List String)
    (scene : Scene) : Finish × Scene :=
  let engine := engine spawn commandDepth
  let part : Run Unit := do
    Run.findDirectory around
    Run.runChosen engine arguments
  let (outcome, shell) := part.run (firstShell around name scene)
  let (finish, last) := shell.conclude engine (match outcome with
    | .ok () => none
    | .error halt => some halt)
  (finish, last.scene)

end PromptShell.Host.Script
