import PromptShell.Host.Script.Call.Table
namespace PromptShell.Host.Script

/-- What is known of a command when its first words have been expanded: all words so far, those from
the name of the command on, and the words that are left. -/
structure Sought where
  shown : List String
  words : List String
  left : List Word
  withFunctions : Bool := true
  searchPath : Option String := none
  /-- The first call that was met is special. -/
  special : Option Bool := none
  assigns : Bool := false

namespace Run

/-- Words are expanded until there is something. -/
def firstFields (engine : Engine) : List Word → Run (List String × List Word)
  | [] => return ([], [])
  | word :: rest => do
      let fields ← expandFields engine word
      if fields.isEmpty then firstFields engine rest else return (fields, rest)

/-- The word behind the one that is looked at, with those behind it. -/
def nextWord (engine : Engine) (sought : Sought) : Run (Option Sought) := do
  match sought.words with
  | _ :: second :: rest => return some { sought with words := second :: rest }
  | _ => do
      let (fields, left) ← firstFields engine sought.left
      if fields.isEmpty then return none
      else return some { sought with shown := sought.shown ++ fields, words := fields, left }

/-- The name of a command behind `command` and its options. If there is no name, or another option
than the one for the standard path, `command` itself is the call; the words stay expanded. -/
def behindCommand (engine : Engine) (bound : Nat) (whole sought : Sought) :
    Run (Sought × Bool) := do
  let kept (sought : Sought) : Sought :=
    { whole with
      shown := sought.shown, left := sought.left
      words := whole.words ++ sought.shown.drop whole.shown.length }
  match bound, ← nextWord engine sought with
  | 0, _ | _, none => return (whole, false)
  | bound + 1, some next =>
      match (next.words.headD "").toList with
      | ['-', '-'] =>
          match ← nextWord engine next with
          | none => return (kept next, false)
          | some behind => return ({ behind with withFunctions := false }, true)
      | '-' :: letter :: letters =>
          if (letter :: letters).all fun letter => letter = 'p' then
            behindCommand engine bound (kept next) { next with searchPath := some standardPath }
          else return (kept next, false)
      | _ => return ({ next with withFunctions := false }, true)

/-- The command that words name is sought through all `command` in front of it; the bound is the
number of words. -/
def seek (engine : Engine) (bound : Nat) (sought : Sought) : Run Sought := do
  let name := sought.words.headD ""
  let shell ← get
  let isFunction := sought.withFunctions && (shell.functions.lookup name).isSome
  match bound, if isFunction then none else isSpecialCall? name with
  | bound + 1, some special =>
      let met := { sought with
        special := sought.special <|> some special, assigns := assigningCalls.contains name }
      if name = "command" then
        let (found, goesOn) ← behindCommand engine ((← get).documents.length + 1000) met met
        if goesOn then seek engine bound found else return found
      else return met
  | _, _ => return { sought with assigns := false }

/-- The words that are left are expanded. Assignments are not cut where the call takes some. -/
def restFields (engine : Engine) (assigns : Bool) : List Word → Run (List String)
  | [] => return []
  | word :: rest => do
      let fields ←
        if assigns && (assigned? word).isSome then do pure [← expandAssignment engine word]
        else expandFields engine word
      return fields ++ (← restFields engine assigns rest)

/-- A text that is meant for the script itself is expanded like one in double quotes. -/
def expandOwn (engine : Engine) (text : String) : Run String := do
  if text.toList.any fun character => ['$', '\x60', '\\'].contains character then
    let awaited : Awaited := ⟨0, ['\x00'], false, false⟩
    let reader : Reader Unit := Reader.scanDocument (Reader.lists (text.length + 2)) awaited
    let (_, after) := reader.run { text := text.toList }
    expandDocument engine ((after.documents.lookup 0).getD [])
  else return text

/-- A text that a variable holds for the script itself. -/
def promptText (engine : Engine) (name : String) : Run String := do
  expandOwn engine (((← get).value? name).getD "")

/-- A command is shown on a stream: the error stream as it was before it was redirected, if there
was one. -/
def trace (engine : Engine) (stream : Option Nat) (texts : List String) : Run Unit := do
  if (← get).has 'x' && !(← get).showing then
    modify fun shell => { shell with showing := true }
    let start ← promptText engine "PS4"
    let text := start ++ " ".intercalate texts ++ "\n"
    modify fun shell => { shell with showing := false }
    match stream with
    | some id => do
        let _ ← writeBytes id (Raw.toBytes text)
    | none => pure ()

/-- Frames that were opened in the meantime are closed. -/
def closeFrames (count : Nat) : Run Unit := do
  for _ in List.range ((← get).hidden.length - count) do
    closeFrame

/-- A fault in a plain call does not end the script. -/
def tolerant (part : Run Nat) : Run Nat := do
  let before ← get
  let finished ← recovered do
    setStatus (← part)
  if !finished then
    modify fun shell => { shell with descriptors := before.descriptors }
    closeFrames before.hidden.length
  return (← get).status

/-- Functions may call each other up to this depth. -/
def functionDepth : Nat := 1000

/-- A function is called. The call that goes too deep is counted all the same. -/
def callFunction (engine : Engine) (tested : Bool) (body : Command) (arguments : List String) :
    Run Nat := do
  let outer ← get
  modify fun shell => { shell with depth := shell.depth + 1 }
  if functionDepth ≤ outer.depth then
    fail ("Maximum function recursion depth (" ++ toString functionDepth ++ ") reached")
  modify fun shell => { shell with
    arguments, loops := 0, optionIndex := 1, optionOffset := none }
  let comeBack : Run Unit := modify fun shell => { shell with
    arguments := outer.arguments, loops := outer.loops, depth := shell.depth - 1
    optionIndex := outer.optionIndex, optionOffset := outer.optionOffset }
  try
    let _ ← engine.evaluate tested false body
    comeBack
    modify fun shell => match shell.skip with
      | .leaveFunction _ => { shell with skip := .nothing }
      | _ => shell
    return (← get).status
  catch halt => do
    comeBack
    throw halt

/-- A program runs as a process of its own. -/
def runProcess (engine : Engine) (searchPath : String) (words : List String) : Run Nat := do
  let shell ← get
  let process := shell.scene.nextProcess
  let around : Surroundings := { shell.around with
    process, parent := shell.process, heldOpen := shell.around.openStreams }
  set { shell with scene := { shell.scene with nextProcess := process + 1 } }
  let _ ← takePlace
  match loadProgram shell searchPath words with
  | .error errno => do
      warn (words.headD "" ++ ": " ++ loadText errno)
      outcomeOf ⟨.exited (if isMissing errno then 127 else 126), []⟩
  | .ok image => outcomeOf (← runImage engine around image)

/-- A command that has been expanded is run: a function, a call or a program. -/
def runCommand (engine : Engine) (tested exits : Bool) (sought : Sought) : Run Nat := do
  let shell ← get
  let name := sought.words.headD ""
  let arguments := sought.words.tail
  let searchPath := sought.searchPath.getD shell.searchPath
  match ← named isSpecialCall? sought.withFunctions searchPath name with
  | .function body => callFunction engine tested body arguments
  | .call special =>
      let part := performCall engine tested special name arguments
      if sought.special = some true then part else tolerant part
  | .missing errno => do
      warn (name ++ ": " ++ loadText errno)
      setStatus 127
      return 127
  | .program _ =>
      if exits && !shell.hasTraps then becomeProgram engine searchPath sought.words
      else runProcess engine searchPath sought.words

/-- The assignments in front of a command. They last as long as the command if they are its own. -/
def assignAll (engine : Engine) (own exported : Bool) (assignments : List Word) :
    Run (List String) :=
  assignments.mapM fun word => do
    let text ← expandAssignment engine word
    if own then hideAssigned true text
    else
      let (name, value) := splitAssignment text
      assign name value exported
    return text

/-- A simple command. -/
def simpleCommand (engine : Engine) (tested exits : Bool) (line : Nat)
    (assignments words : List Word) (changes : List Redirection) : Run Nat := do
  modify fun shell => { shell with line, expansionStatus := 0 }
  let (fields, left) ← firstFields engine words
  let sought ←
    if fields.isEmpty then pure { shown := [], words := [], left := [] }
    else seek engine (words.length + fields.length) { shown := fields, words := fields, left }
  let rest ← restFields engine sought.assigns sought.left
  let sought := { sought with shown := sought.shown ++ rest, words := sought.words ++ rest }
  let isExec := sought.words.head? = some "exec"
  let own := !sought.words.isEmpty && sought.special ≠ some true
  if own then openFrame
  let start ← get
  let change ← preparedChanges engine true changes
  if !isExec then holdOpen changes
  let status ← givingBack start changes do
    if ← change then
      let texts ← assignAll engine own (isExec && 1 < sought.words.length) assignments
      let errors := start.descriptors.lookup 2 <|> (← get).descriptors.lookup 2
      trace engine errors (texts ++ sought.shown)
      if sought.words.isEmpty then
        let status := (← get).expansionStatus
        setStatus status
        return status
      else runCommand engine tested exits sought
    else
      setStatus 2
      if sought.special = some true then throw .failed
      return 2
  if isExec then modify fun shell => { shell with aside := start.aside }
  else restore start changes
  if own then closeFrames (start.hidden.length - 1)
  return status

/-- What is left to be passed over behind one loop, and whether the loop goes on. -/
def leaveLoop : Run Bool := do
  let shell ← get
  match shell.skip with
  | .nothing => return true
  | .leaveLoops count => do
      set { shell with skip := if count ≤ 1 then .nothing else .leaveLoops (count - 1) }
      return false
  | .nextRound count => do
      set { shell with skip := if count ≤ 1 then .nothing else .nextRound (count - 1) }
      return count ≤ 1
  | .leaveFunction _ => return false

/-- The rounds that a loop may take. One in the background may take fewer, since it runs ahead, and
so may one whose time is limited, for each second. -/
def roundLimit (shell : Shell) : Nat :=
  if shell.scene.held.isSome then 20000
  else match shell.allowance.bound? 't' with
    | some seconds => 100000 * max 1 seconds
    | none => Nat.pow 10 9

/-- A part that runs ahead is not run for ever. One that has no time left is killed. -/
def checkAhead (bound : Nat) : Run Unit := do
  let shell ← get
  let late := shell.scene.held.any fun held => held.horizon < shell.scene.clock
  if late || (bound = 0 && shell.scene.held.isSome) then throw (.killed 9)
  else if bound = 0 then
    let hard := (shell.allowance.limit? 't').any fun limit => limit.hard ≤ limit.soft
    throw (.killed (if hard then 9 else 24))

/-- A loop with a test. The outcome is that of the last round, unless the test leaves a function
with an outcome that it names. -/
def loopRounds (engine : Engine) (tested untilDone : Bool) (test body : Command) (status : Nat) :
    Nat → Run Nat
  | 0 => do checkAhead 0; return status
  | bound + 1 => do
      checkAhead (bound + 1)
      let outcome ← engine.evaluate true false test
      let skipped := (← get).skip ≠ .nothing
      let leaves := (← get).skip = .leaveFunction true
      let goesOn ← leaveLoop
      if skipped then
        if goesOn then loopRounds engine tested untilDone test body status bound
        else return if leaves then outcome else status
      else if (outcome = 0) = untilDone then return status
      else
        let status ← engine.evaluate tested false body
        if ← leaveLoop then loopRounds engine tested untilDone test body status bound
        else return status

/-- A loop through words. -/
def eachRound (engine : Engine) (tested : Bool) (name : String) (body : Command) (status : Nat) :
    List String → Run Nat
  | [] => return status
  | value :: rest => do
      setVariable name value
      let status ← engine.evaluate tested false body
      if ← leaveLoop then eachRound engine tested name body status rest else return status

/-- Loops are counted, so that they can be left from within. -/
def inLoop (part : Run Nat) : Run Nat := do
  modify fun shell => { shell with loops := shell.loops + 1 }
  let status ← part
  modify fun shell => { shell with loops := shell.loops - 1 }
  return status

/-- One of some patterns matches a text. -/
def matchesAny (engine : Engine) (subject : List Char) : List Word → Run Bool
  | [] => return false
  | word :: rest => do
      let pattern ← expandPattern engine word
      if matchesPattern pattern subject then return true else matchesAny engine subject rest

/-- The first case whose patterns match is run. -/
def chosenCase (engine : Engine) (tested exits : Bool) (subject : List Char) :
    List (List Word × Command) → Run Nat
  | [] => return 0
  | (patterns, body) :: rest => do
      if ← matchesAny engine subject patterns then
        match body with
        | .nothing => return 0
        | _ => engine.evaluate tested exits body
      else chosenCase engine tested exits subject rest

/-- What came of one command of a pipeline: how it ended, the stream to the next command, and the
number of emissions when it had ended. -/
structure Piped where
  finish : Finish
  output : Option Nat
  emissions : Nat

/-- The number of emissions when a command of a pipeline found that nobody read what it wrote. -/
def Piped.cut? (scene : Scene) (piped : Piped) : Option Nat := do
  let id ← piped.output
  let stream ← scene.stream? id
  stream.cut

/-- The name that a command starts with, if nothing has to be expanded for it. -/
def plainName? (command : Command) : Option String := do
  let .simple _ _ words _ := command | none
  let word ← words.head?
  let letters ← word.mapM fun part => match part with
    | .literal character false => some character
    | _ => none
  guard (isName letters)
  return String.ofList letters

/-- The program of a command of a pipeline is looked for before the command gets its own process. -/
def seekAhead (command : Command) : Run Unit := do
  match plainName? command with
  | some name => do
      let _ ← named isSpecialCall? true (← get).searchPath name
  | none => pure ()

/-- The commands of a pipeline, each of which reads what the one before has written. The streams
between them have room for fewer and fewer bytes. -/
def pipelineParts (engine : Engine) (tested : Bool) (room : Nat) (input : Option Nat) :
    List Command → Run (List Piped)
  | [] => return []
  | command :: rest => do
      seekAhead command
      let output ← if rest.isEmpty then pure none
        else do
          requirePipe (if input.isSome then 3 else 2)
          pure (some (← openPipe (some (room * Nat.pow 2 rest.length))))
      let finish ← asProcess engine do
        input.forM (connect 0)
        (output.map Scene.Pipe.entrance).forM (connect 1)
        let _ ← engine.evaluate tested true command
      (output.map Scene.Pipe.entrance).forM drain
      let output := output.map Scene.Pipe.output
      let piped : Piped := ⟨finish, output, (← get).scene.latest.length⟩
      return piped :: (← pipelineParts engine tested room output rest)

/-- A stream that took too few bytes was read to its end by a command that could write all it had,
so that it would have read more. -/
def isShort (scene : Scene) : List Piped → Bool
  | piped :: rest =>
      let isEmpty := (piped.output.bind scene.stream?).any fun stream => stream.unread.isEmpty
      let readerCut := rest.head?.any fun reader => (reader.cut? scene).isSome
      ((piped.cut? scene).isSome && !readerCut && isEmpty) || isShort scene rest
  | [] => false

/-- The emissions of the commands of a pipeline behind a number of them, in order. What a command
does when nobody reads any more what it writes comes behind what the others do. -/
def pipedEmissions (scene : Scene) (emissions : Array Emission) (start : Nat) :
    List Piped → Array Emission × Array Emission
  | [] => (#[], #[])
  | piped :: rest =>
      let cut := (piped.cut? scene).getD piped.emissions
      let (before, behind) := pipedEmissions scene emissions piped.emissions rest
      (emissions.extract start cut ++ before, behind ++ emissions.extract cut piped.emissions)

/-- What was heard of a pipeline is put into order. -/
def orderEmissions (start : Nat) (all : List Piped) : Run Unit := do
  let scene := (← get).scene
  if all.any fun piped => (piped.cut? scene).isSome then
    let emissions := scene.latest.reverse.toArray
    let (before, behind) := pipedEmissions scene emissions start all
    let latest := (emissions.extract 0 start ++ before ++ behind).toList.reverse
    modify fun shell => { shell with scene := { shell.scene with latest } }

/-- The bytes that the last stream of a pipeline takes from a command before the next one reads. -/
def pipeRoom : Nat := 65536

/-- A pipeline is run with so much room in its streams that no command reads less than it would.
What is written behind that is refused, for its reader has gone. The bound is the number of times
that the room may grow. -/
def runPipeline (engine : Engine) (tested : Bool) (commands : List Command) (room : Nat) :
    Nat → Run (List Finish)
  | 0 => return []
  | bound + 1 => do
      let start ← get
      let all ← pipelineParts engine tested room none commands
      if isShort (← get).scene all then
        set start
        runPipeline engine tested commands (room * 16) bound
      else
        orderEmissions start.scene.latest.length all
        return all.map Piped.finish

/-- The outcome of a pipeline is that of its last command. -/
def pipelineStatus (engine : Engine) (tested : Bool) (commands : List Command) : Run Nat := do
  let finishes ← runPipeline engine tested commands (pipeRoom / 2) 16
  let mut status := 0
  for finish in finishes do
    status ← outcomeOf finish
  return status

/-- Redirections must take effect. -/
def require (change : Run Bool) : Run Unit := do
  if !(← change) then throw .failed

/-- A command is run. It gives its outcome, and whether a failure may end the script. -/
def perform (engine : Engine) (tested exits : Bool) : Command → Run (Nat × Bool)
  | .nothing => return ((← get).status, false)
  | .simple line assignments words changes => do
      return (← simpleCommand engine tested exits line assignments words changes, true)
  | .pipeline commands false => do
      let _ ← takePlace
      return (← pipelineStatus engine tested commands, true)
  | .pipeline commands true => do
      inBackground engine commands.length do
        setStatus (← pipelineStatus engine tested commands)
      return (0, true)
  | .background body => do
      inBackground engine 1 do
        let _ ← engine.evaluate false true body
      return (0, true)
  | .redirected line body changes => do
      modify fun shell => { shell with line }
      let start ← get
      let change ← preparedChanges engine true changes
      holdOpen changes
      if ← change then
        let status ← givingBack start changes (engine.evaluate tested false body)
        restore start changes
        return (status, false)
      else
        restore start changes
        return (2, true)
  | .subshell line body changes => do
      modify fun shell => { shell with line }
      let change ← preparedChanges engine false changes
      let part : Run Unit := do
        require change
        let _ ← engine.evaluate tested true body
      if exits && !(← get).hasTraps then
        part
        return ((← get).status, true)
      else
        let _ ← takePlace
        return (← outcomeOf (← asProcess engine part), true)
  | .sequence first second => do
      let status ← engine.evaluate tested false first
      if (← get).skip ≠ .nothing then return (status, false)
      else return (← engine.evaluate tested exits second, false)
  | .both first second => do
      let status ← engine.evaluate true false first
      if status ≠ 0 || (← get).skip ≠ .nothing then return (status, false)
      else return (← engine.evaluate tested exits second, false)
  | .either first second => do
      let status ← engine.evaluate true false first
      if status = 0 || (← get).skip ≠ .nothing then return (status, false)
      else return (← engine.evaluate tested exits second, false)
  | .negation body => do
      let status ← engine.evaluate true false body
      if (← get).skip ≠ .nothing then return (status, false)
      else return (if status = 0 then 1 else 0, false)
  | .conditional test body otherwise => do
      let status ← engine.evaluate true false test
      if (← get).skip ≠ .nothing then return (status, false)
      else if status = 0 then return (← engine.evaluate tested exits body, false)
      else match otherwise with
        | some otherwise => return (← engine.evaluate tested exits otherwise, false)
        | none => return (0, false)
  | .loop untilDone test body => do
      let limit := roundLimit (← get)
      return (← inLoop (loopRounds engine tested untilDone test body 0 limit), false)
  | .each line name words body => do
      modify fun shell => { shell with line }
      let fields ← words.mapM (expandFields engine)
      return (← inLoop (eachRound engine tested name body 0 fields.flatten), false)
  | .choice line subject cases => do
      modify fun shell => { shell with line }
      let text ← expandText engine subject
      return (← chosenCase engine tested exits text.toList cases, false)
  | .definition line name body => do
      forgetProgram name
      modify fun shell => { shell with functions := putEntry name (line, body) shell.functions }
      return (0, false)

/-- A command is run between traps, which may change its outcome by returning with another one. A
failure may end the script, and the wish to end it behind the command is granted. -/
def evaluateWith (engine : Engine) (tested exits : Bool) (command : Command) : Run Nat := do
  let (status, checks) ←
    if (← get).has 'n' then do pure ((← get).status, false)
    else match command with
      | .nothing => do pure ((← get).status, false)
      | _ => do
          traps engine
          let (status, checks) ← perform engine tested exits command
          setStatus status
          pure (status, checks)
  traps engine
  if (← get).has 'e' && !tested && checks && status ≠ 0 then throw .left
  else if exits then throw .left
  else return (← get).status

end Run

/-- The depth to which commands of a script may nest. A script that goes deeper runs out of memory
and is killed for it. -/
def commandDepth : Nat := 70000

/-- The engine that runs the commands of scripts up to a depth. -/
def engine (spawn : Spawn) : Nat → Engine
  | 0 => ⟨spawn, fun _ _ _ => throw (.killed 11)⟩
  | depth + 1 => ⟨spawn, fun tested exits command =>
      Run.evaluateWith (engine spawn depth) tested exits command⟩

end PromptShell.Host.Script
