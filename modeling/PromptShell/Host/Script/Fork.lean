import PromptShell.Host.Script.Background
import PromptShell.Host.Script.SignalWord
import PromptShell.Host.Script.Source
namespace PromptShell.Host.Script.Run

/-- A part of the script ends the process that it runs in. -/
def ending (part : Run Unit) : Run Unit := do
  part
  throw .left

/-- A part of the script runs as a process of its own, whose last state is given back, too. -/
def asProcessWith (engine : Engine) (part : Run Unit) : Run (Finish × Shell) := do
  let shell ← get
  let start := { shell with
    scene := { shell.scene with nextProcess := shell.scene.nextProcess + 1 }
    process := shell.scene.nextProcess
    above := shell.process :: shell.above
    heldOpen := shell.around.openStreams
    lines := shell.lines.drop (shell.lines.length - 1)
    traps := shell.traps.filter fun trap => trap.2.isEmpty
    pending := [], alerted := false, jobs := [], stops := [], savedStatus := none }
  let (outcome, after) := (ending part).run start
  let (finish, last) := after.conclude engine (match outcome with
    | .ok () => none
    | .error halt => some halt)
  set { shell with scene := last.scene }
  return (finish, last)

/-- A part of the script runs as a process of its own. -/
def asProcess (engine : Engine) (part : Run Unit) : Run Finish := do
  return (← asProcessWith engine part).1

/-- The outcome of a process that was waited for. Its death by a signal is told, unless it is not
worth a word, and the signals that it sent arrive. -/
def outcomeOf (finish : Finish) : Run Nat := do
  let status ← match finish.ending with
    | .exited code => pure code
    | .killed signal => do
        if !([2, 13].contains signal) then tell (deathText signal ++ "\n")
        pure (128 + signal)
    | _ => pure 1
  setStatus status
  receiveSent
  receive childSignal
  noticeEnded
  return status

/-- A stream is one of the streams of the script. -/
def connect (descriptor id : Nat) : Run Unit :=
  modify fun shell => { shell with
    descriptors := (descriptor, id) :: shell.descriptors.filter fun entry => entry.1 ≠ descriptor }

/-- A stream of the script is closed. -/
def disconnect (descriptor : Nat) : Run Unit :=
  modify fun shell => { shell with
    descriptors := shell.descriptors.filter fun entry => entry.1 ≠ descriptor }

/-- The streams of a script and those that it puts aside have numbers below and from this one on. -/
def asideNumber : Nat := 10

/-- A stream is put aside, under a number that must not be too large. -/
def putAside (number : Nat) : Run Unit := do
  let shell ← get
  let limit := shell.allowance.openFiles
  if limit ≤ asideNumber + shell.aside then
    let errno := if limit ≤ asideNumber then Errno.invalid else Errno.tooManyOpen
    set { shell with lost := number :: shell.lost }
    fail (toString number ++ ": " ++ libraryText errno.number)
  else set { shell with aside := shell.aside + 1 }

/-- There must be room for so many more streams, the last two of which are the ends of a pipe. -/
def requirePipe (count : Nat) : Run Unit := do
  if !(← get).around.hasRoom count then fail "Pipe call failed"

/-- A pipe is opened, perhaps with room for so many bytes only. -/
def openPipe (room : Option Nat) : Run Scene.Pipe := do
  let shell ← get
  let (pipe, scene) := shell.scene.openPipe room
  set { shell with scene }
  return pipe

/-- Nothing is left that is to be written to a stream later. -/
def drain (id : Nat) : Run Unit :=
  modify fun shell => { shell with scene := shell.scene.passAll fun happening =>
    match happening with
    | .write stream _ => stream = id
    | .signal _ _ => false }

/-- What a stream in memory still holds. -/
def heldText (id : Nat) : Run Bytes := do
  return (((← get).scene.stream? id).map Stream.unread).getD []

/-- What a command puts out, and its outcome. -/
def capture (engine : Engine) (command : Command) : Run (Bytes × Nat) := do
  requirePipe 2
  let pipe ← openPipe none
  let _ ← takePlace
  let finish ← asProcess engine do
    connect 1 pipe.entrance
    let _ ← engine.evaluate false true command
  drain pipe.entrance
  let bytes ← heldText pipe.output
  return (bytes, ← outcomeOf finish)

/-- The signals that do nothing to a part in the background. -/
def keyboardSignals : List Nat := [2, 3]

/-- The time for which parts in the background run ahead. What they would do later is never seen. -/
def aheadSpan : Nat := 60000000

/-- A part of the script runs ahead as the next process, which finds an empty input. Signals arrive
there at given times. -/
def course (engine : Engine) (part : Run Unit) (shell : Shell) (arrivals : List (Nat × Nat)) :
    Course × Shell :=
  let scene := shell.scene
  let process := scene.nextProcess
  let arriving := arrivals.map fun arrival =>
    (⟨arrival.1, process, .signal process arrival.2⟩ : Later)
  let start := { shell with scene := { scene with
    held := some { known := scene.streams.size, process, horizon := scene.clock + aheadSpan }
    later := arriving } }
  let inside : Run (Finish × Shell) := asProcessWith engine do
    let shell ← get
    let (id, scene) := shell.scene.openStream { outlet := .device .null, readable := true }
    set { shell with scene, deaf := keyboardSignals ++ shell.deaf }
    connect 0 id
    part
  match inside.run start with
  | (.error _, after) => (⟨.exited 2, scene.clock, [], [], []⟩, after)
  | (.ok (finish, last), after) =>
      let done := after.scene
      let (untaken, sent) := done.sent.partition fun entry => entry.1 = process
      let past := ((done.held.map Held.latest).getD []).reverse
      let own (later : Later) : Bool := match later.happening with
        | .signal reached _ => reached = process
        | .write _ _ => false
      let (missed, left) := done.later.partition own
      let unseen := missed.filterMap fun later => match later.happening with
        | .signal _ signal => some signal
        | .write _ _ => none
      let course : Course := {
        ending := finish.ending, due := done.clock, deeds := past ++ left
        untaken := untaken.map Prod.snd ++ unseen, ignored := last.ignored }
      let ahead := { done with
        held := scene.held, later := scene.later, clock := scene.clock, sent }
      (course, { after with scene := ahead })

/-- A part of the script with some commands runs in the background. It runs ahead of the script: the
clock goes back when it has ended, and what it did happens later. -/
def inBackground (engine : Engine) (commands : Nat) (part : Run Unit) : Run Unit := do
  let place ← takePlace
  let shell ← get
  let process := shell.scene.nextProcess
  let (first, after) := course engine part shell []
  let again (arrivals : List (Nat × Nat)) : Course := (course engine part shell arrivals).1
  set { after with
    scene := after.scene.addLater first.deeds
    jobs := { place, process, commands, course := first, again } :: after.jobs
    lastJob := some process }

end PromptShell.Host.Script.Run
