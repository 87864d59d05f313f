import PromptShell.Host.Script.Call.Variables
namespace PromptShell.Host.Script.Run

/-- The name of the end of a script among the traps. -/
def endName : String := "EXIT"

/-- The number of a trap. -/
def trapNumber? (word : String) : Option Nat :=
  if word.map Char.toUpper = endName then some 0 else signalOf? word

/-- The name of a trap. -/
def trapName (number : Nat) : String := if number = 0 then endName else signalWord number

/-- The traps are listed in the order of their signals. -/
def listTraps : Run Unit := do
  let traps := (← get).traps.mergeSort fun first second => first.1 ≤ second.1
  for trap in traps do
    print ("trap -- " ++ inQuotes trap.2 ++ " " ++ trapName trap.1 ++ "\n")

/-- An action is set for signals, or taken away from them. -/
def setTraps (action : Option String) : List String → Run Nat
  | [] => return 0
  | word :: rest => do
      match trapNumber? word with
      | none => do
          tell ("trap: " ++ word ++ ": bad trap\n")
          return 1
      | some number => do
          modify fun shell =>
            let others := shell.traps.filter fun trap => trap.1 ≠ number
            { shell with traps := match action with
              | some action => (number, action) :: others
              | none => others }
          setTraps action rest

/-- Traps are listed or set. A number in front stands for no action. -/
def trap (arguments : List String) : Run Nat := do
  match (← options [] [] arguments).operands with
  | [] => do listTraps; return 0
  | first :: rest =>
      let isNumber := first.toList.all Char.isDigit && (signalOf? first).isSome
      if rest.isEmpty || isNumber then setTraps none (first :: rest)
      else setTraps (if first = "-" then none else some first) rest

/-- A signal reaches a part in the background. It ends a part that has no trap for it at once; with
a trap the part goes on in another way from now on. -/
def signalJob (job : Job) (signal : Nat) : Run Unit := do
  let shell ← get
  let now := shell.scene.clock
  let arrived := job.arrived ++ [(now, signal)]
  let course := job.again arrived
  let missed := course.untaken.contains signal
  let fatal := !(harmlessSignals ++ stoppingSignals ++ keyboardSignals).contains signal
  let dies := signal = 9 || (fatal &&
    if missed then !course.ignored.contains signal else course.ending = .killed signal)
  if dies || !missed then
    let own (later : Later) : Bool := later.source = job.process
    let (left, others) := shell.scene.later.partition own
    let past := (job.course.deeds.filter own).length - left.length
    let next : Course :=
      if dies then { course with ending := .killed signal, due := now, deeds := [] }
      else course
    let cleared := { shell.scene with later := others }
    let change (other : Job) : Job :=
      if other.process = job.process then { other with course := next, arrived } else other
    set { shell with
      scene := cleared.addLater ((next.deeds.filter own).drop past)
      jobs := shell.jobs.map change }

/-- A signal is sent to a process. It tells whether there is one. -/
def sendTo (process signal : Nat) : Run Bool := do
  let shell ← get
  if process = shell.process || process = 0 then
    receive signal
    return true
  else
    match shell.jobs.find? fun job => job.process = process with
    | some job =>
        if job.noticed then return false
        else do
          if shell.scene.clock ≤ job.due then signalJob job signal
          return true
    | none =>
        if shell.above.contains process then
          if signal ≠ 0 then set { shell with scene := shell.scene.send process signal }
          return true
        else return false

/-- The part in the background that a word names by its place, or the latest one, or the one before
it. Parts have no names of their own, which every empty text is a part of. -/
def jobOf (word : String) : Run Job := do
  let jobs := (← get).jobs
  let chosen (job : Option Job) (text : String) : Run Job := match job with
    | some job => return job
    | none => fail text
  let unknown := "No such job: " ++ word
  match word.toList with
  | ['%'] | ['%', '%'] | ['%', '+'] => chosen jobs.head? "No current job"
  | ['%', '-'] => chosen jobs.tail.head? "No previous job"
  | ['%', '?'] => chosen jobs.head? unknown
  | '%' :: digits =>
      match (readDigits 10 digits).filter fun found => found.2.isEmpty with
      | some (place, _) => chosen (jobs.find? fun job => job.place = place) unknown
      | none => fail unknown
  | _ => fail unknown

/-- A signal is sent to what a word names. Parts in the background have no groups of their own, so
no signal reaches one by its place. -/
def sendToWord (signal : Nat) (word : String) : Run Bool := do
  let reached ← match word.toList with
    | '%' :: _ => do
        let _ ← jobOf word
        pure false
    | '-' :: digits => do
        let _ ← number (String.ofList digits)
        pure false
    | _ => do sendTo (← number word) signal
  if !reached then warn "No such process\n"
  return reached

/-- A signal is sent to all that some words name. -/
def sendToAll (signal : Nat) (words : List String) : Run Nat := do
  let mut status := 0
  for word in words do
    if !(← sendToWord signal word) then status := 1
  return status

/-- How `kill` is to be used. -/
def killUsage : String :=
  "Usage: kill [-s sigspec | -signum | -sigspec] [pid | job]... or\nkill -l [exitstatus]"

/-- The names of all signals are listed, or the name of one that is given by its number or by the
outcome of a program that it killed. -/
def listSignals : List String → Run Nat
  | [] => do
      print "0\n"
      for index in List.range 64 do
        print (signalWord (index + 1) ++ "\n")
      return 0
  | word :: _ => do
      let given ← number word
      let signal := if 128 < given then given - 128 else given
      if 0 < signal && signal ≤ 64 then
        print (signalWord signal ++ "\n")
        return 0
      else fail ("invalid signal number or exit status: " ++ word)

/-- Signals are sent or listed. -/
def kill (arguments : List String) : Run Nat := do
  let direct : Option Nat := match arguments with
    | first :: _ => match first.toList with
        | '-' :: word => (signalOf? (String.ofList word)).filter fun _ => !word.isEmpty
        | _ => none
    | [] => none
  let found : Except String KillOptions := match direct with
    | some signal => .ok ⟨false, some signal, arguments.tail⟩
    | none => killOptions false none arguments
  match found with
  | .error text => fail text
  | .ok options =>
      if options.lists then
        if options.signal.isSome && !options.targets.isEmpty then fail killUsage
        else if options.signal.isSome then listSignals []
        else listSignals options.targets
      else if options.targets.isEmpty then fail killUsage
      else sendToAll (options.signal.getD 15) options.targets

/-- The first signal that a trap takes before a time, and when it comes. -/
def interruption? (shell : Shell) (due : Nat) : Option (Nat × Nat) :=
  shell.scene.later.findSome? fun later =>
    match later.happening with
    | .signal process signal =>
        let action := (shell.traps.lookup signal).getD ""
        if process = shell.process && later.time ≤ due && !action.isEmpty &&
            !shell.deaf.contains signal then some (signal, later.time)
        else none
    | .write _ _ => none

/-- Time goes on until a time or a signal that a trap takes, which is given back. -/
def awaitTime (due : Nat) : Run (Option Nat) := do
  let shell ← get
  let interruption := interruption? shell due
  let time := (interruption.map Prod.snd).getD due
  set { shell with scene := shell.scene.passUntil time }
  receiveSent
  return interruption.map Prod.fst

/-- The outcome of a part in the background. Its death is told if nobody has noticed it. -/
def jobStatus (job : Job) : Run Nat := do
  match job.course.ending with
  | .exited code => return code
  | .killed signal => do
      if !job.noticed && !([2, 13].contains signal) then tell (deathText signal ++ "\n")
      return 128 + signal
  | _ => return 1

/-- Parts have ended and were waited for. -/
def markWaited (chosen : Job → Bool) : Run Unit := do
  notice chosen
  let waited (job : Job) : Job := { job with waited := job.waited || chosen job }
  modify fun shell => { shell with jobs := shell.jobs.map waited }

/-- Parts in the background are waited for one by one. -/
def awaitJobs (status : Nat) : List String → Run Nat
  | [] => return status
  | word :: rest => do
      let job ← match word.toList with
        | '%' :: _ => do pure (some (← jobOf word))
        | _ => do
            let process ← number word
            pure ((← get).jobs.find? fun job => job.process = process)
      match job with
      | none => awaitJobs status rest
      | some job =>
          let signal ← if job.noticed then pure none else awaitTime job.due
          match signal with
          | some signal => return 128 + signal
          | none => do
              noticeEnded
              let status ← jobStatus job
              markWaited fun other => other.process = job.process
              awaitJobs status rest

/-- All parts in the background are waited for, or some of them. -/
def wait (arguments : List String) : Run Nat := do
  match (← options [] [] arguments).operands with
  | [] => do
      let left := (← get).jobs.filter fun job => !job.noticed
      match ← awaitTime ((left.map Job.due).foldl max 0) with
      | some signal => do
          noticeEnded
          return 128 + signal
      | none => do
          markWaited fun _ => true
          return 0
  | words => awaitJobs 127 words

/-- One part in the background in a list. The latest one and the one before it are marked. -/
def jobLine (jobs : List Job) (shows : Bool) (job : Job) : String :=
  let isAt (other : Option Job) : Bool := other.any fun other => other.place = job.place
  let mark := if isAt jobs.head? then "+ " else if isAt jobs.tail.head? then "- " else "  "
  let process := if shows then toString job.process ++ " " else ""
  let state :=
    if !job.noticed then "Running"
    else match job.course.ending with
      | .exited 0 => "Done"
      | .exited code => "Done(" ++ toString code ++ ")"
      | .killed signal => deathText signal
      | _ => ""
  let text := "[" ++ toString job.place ++ "] " ++ mark ++ process ++ state
  let others := if shows then "" else String.join (List.replicate (job.commands - 1) " | ")
  text ++ String.ofList (List.replicate (max 1 (33 - text.length)) ' ') ++ others ++ "\n"

/-- A part in the background is listed. One that has ended is forgotten then. -/
def listJob (options : CallOptions) (job : Job) : Run Unit := do
  if options.has 'p' then print (toString job.process ++ "\n")
  else
    print (jobLine (← get).jobs (options.has 'l') job)
    if job.noticed then forget job

/-- The parts in the background are listed, the latest first, or some of them. -/
def listJobs (arguments : List String) : Run Nat := do
  let options ← options ['l', 'p'] [] arguments
  match options.operands with
  | [] => do
      noticeEnded
      for job in (← get).jobs do
        listJob options job
  | words =>
      for word in words do
        listJob options (← jobOf word)
  return 0

/-- A part in the background cannot be brought back or sent on, since scripts do not watch over
them. -/
def moveJob (arguments : List String) : Run Nat := do
  let word := (← options [] [] arguments).operands.head?
  let _ ← jobOf (word.getD "%")
  fail ("job " ++ word.getD "(null)" ++ " not created under job control")

end PromptShell.Host.Script.Run
