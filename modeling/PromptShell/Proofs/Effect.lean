import PromptShell.Prompt
namespace PromptShell

variable {World : Type}

/-- Where a command line works: the shell's directory and the state of the machine. -/
structure Place (World : Type) where
  directory : Directory
  world : World

/-- How a command line ends: with a status, with the shell's description, or with a failure. -/
inductive Ending where
  | done (status : Status)
  | described
  | failed (failure : Failure)
  deriving Repr, DecidableEq

/-- What a command line does apart from the shell's own streams. It is a function of the directory
and of the machine alone, so two shells in one place differ by their streams only, whatever line
they run. A line that settles flushes the output stream before anything else. -/
structure Effect (World : Type) where
  settles : Bool
  events : List Event
  place : Place World
  ending : Ending

/-- The wait for a child. -/
def Started.wait (machine : Machine World) (started : Started World) : Wait :=
  awaitEnd (machine.reports started.world started.course)

/-- The machine behind a child and the wait for it. -/
def Started.behind (machine : Machine World) (started : Started World) : World :=
  (started.wait machine).fault.elim started.world (machine.failed started.world)

namespace Place

/-- What comes of the attempt to enter the directory that a path names. -/
def lookUp (machine : Machine World) (place : Place World) (target : String) :
    Except Errno Directory × World :=
  if target.toList.contains '\x00' then (.error .invalid, place.world)
  else match machine.enter place.world place.directory target with
    | .ok directory => (.ok directory, place.world)
    | .error errno => (.error errno, machine.failed place.world errno)

/-- The child that some words start, if one can be split off. -/
def start (machine : Machine World) (place : Place World) (words : List String) :
    Except Errno (Started World) :=
  machine.start place.world place.directory (words.map Utf8.encode)

/-- How that child ends, unless it cannot be split off or the wait for it has an error. -/
def outcome (machine : Machine World) (place : Place World) (words : List String) :
    Except Errno ChildEnd :=
  match place.start machine words with
  | .ok started => (started.wait machine).outcome
  | .error errno => .error errno

/-- The place behind the child and the wait for it. -/
def behindChild (machine : Machine World) (place : Place World) (words : List String) :
    Place World :=
  match place.start machine words with
  | .ok started => ⟨place.directory, started.behind machine⟩
  | .error errno => ⟨place.directory, machine.failed place.world errno⟩

/-- What happens from the start of a child until it has decided how the wait for it ends. -/
def waitEvents (machine : Machine World) (place : Place World) (words : List String)
    (started : Started World) : List Event :=
  [.started place.directory (words.map Utf8.encode),
      .logged (.spawned (words.headD "") started.process)] ++
    started.course.emissions.map .emitted ++
    (started.wait machine).notices.map
      fun notice => .logged (.stillRunning started.process notice)

/-- What happens from the attempt to start a child to the end of the wait for it. -/
def childEvents (machine : Machine World) (place : Place World) (words : List String) :
    List Event :=
  match place.start machine words with
  | .ok started =>
      place.waitEvents machine words started ++
        [.logged (match (started.wait machine).outcome with
          | .ok ending => .finished (words.headD "") ending
          | .error errno => .waitFailed started.process errno)]
  | .error errno => [.logged (.forkFailed errno)]

section

variable {machine : Machine World} {place : Place World} {words : List String}

theorem outcome_of_start {started : Started World}
    (start : place.start machine words = .ok started) :
    place.outcome machine words = (started.wait machine).outcome := by
  rw [outcome, start]

theorem behindChild_of_start {started : Started World}
    (start : place.start machine words = .ok started) :
    place.behindChild machine words = ⟨place.directory, started.behind machine⟩ := by
  rw [behindChild, start]

theorem childEvents_of_start {started : Started World}
    (start : place.start machine words = .ok started) :
    place.childEvents machine words =
      place.waitEvents machine words started ++
        [.logged (match (started.wait machine).outcome with
          | .ok ending => .finished (words.headD "") ending
          | .error errno => .waitFailed started.process errno)] := by
  rw [childEvents, start]

theorem outcome_of_refused {errno : Errno} (refused : place.start machine words = .error errno) :
    place.outcome machine words = .error errno := by
  rw [outcome, refused]

theorem behindChild_of_refused {errno : Errno}
    (refused : place.start machine words = .error errno) :
    place.behindChild machine words = ⟨place.directory, machine.failed place.world errno⟩ := by
  rw [behindChild, refused]

theorem childEvents_of_refused {errno : Errno}
    (refused : place.start machine words = .error errno) :
    place.childEvents machine words = [.logged (.forkFailed errno)] := by
  rw [childEvents, refused]

end

end Place

/-- The effect of `cd`. -/
def effectOfMove (machine : Machine World) (place : Place World) (words : List String) :
    Effect World :=
  let running : Event := .logged (.running Builtin.cd.name)
  match words[1]? with
  | none => ⟨false, [running], place, .failed (.missingArgument Builtin.cd.name)⟩
  | some target =>
      match place.lookUp machine target with
      | (.ok directory, world) => ⟨false, [running], ⟨directory, world⟩, .done .proceed⟩
      | (.error errno, world) =>
          ⟨false, [running, .logged (.enterFailed target errno)], ⟨place.directory, world⟩,
            .failed (.system errno)⟩

/-- The effect of a line whose first word is no command of the shell. -/
def effectOfLaunch (machine : Machine World) (place : Place World) (words : List String) :
    Effect World :=
  let launching : Event := .logged (.launching (words.headD ""))
  match startFailure? words with
  | some failure => ⟨true, [launching], place, .failed failure⟩
  | none =>
      ⟨true, launching :: place.childEvents machine words, place.behindChild machine words,
        match place.outcome machine words with
        | .ok _ => .done .proceed
        | .error errno => .failed (.system errno)⟩

/-- The effect of a command line. -/
def effectOf (machine : Machine World) (place : Place World) (words : List String) :
    Effect World :=
  match words with
  | [] => ⟨false, [], place, .done .proceed⟩
  | command :: _ =>
      match Builtin.find? command with
      | some .cd => effectOfMove machine place words
      | some .help => ⟨false, [.logged (.running Builtin.help.name)], place, .described⟩
      | some .exit => ⟨false, [.logged (.running Builtin.exit.name)], place, .done .terminate⟩
      | none => effectOfLaunch machine place words

namespace Session

/-- The place in which a shell works. -/
def place (session : Session World) : Place World := ⟨session.directory, session.world⟩

/-- The shell in another place. -/
def moved (session : Session World) (place : Place World) : Session World :=
  { session with directory := place.directory, world := place.world }

/-- A line ends on the streams of the shell. -/
def finish (session : Session World) : Ending → Turn World Status
  | .done status => session.stay status
  | .described => session.printHelp
  | .failed failure => session.fail failure

/-- The output stream is flushed if the line asks for it. -/
def settleIf (session : Session World) (settles : Bool) : Turn World Unit :=
  if settles then session.settleOutput else session.stay ()

/-- The shell moves, the events happen, and the line ends. -/
def undergo (session : Session World) (effect : Effect World) : Turn World Status :=
  ((session.moved effect.place).note effect.events).andThen fun _ next =>
    next.finish effect.ending

/-- A line is handed over and has its effect. -/
def carryOut (session : Session World) (words : List String) (effect : Effect World) :
    Turn World Status :=
  (session.note [.dispatched words]).andThen fun _ session =>
    (session.settleIf effect.settles).andThen fun _ session => session.undergo effect

@[simp] theorem place_settleOutput (session : Session World) :
    session.settleOutput.session.place = session.place := by
  simp only [settleOutput, Turn.andThen_session]
  split <;> rfl

/-- Records that are logged in front of an action change its events only. -/
theorem log_andThen {Value : Type} (session : Session World) (records : List Record)
    (next : Unit → Session World → Turn World Value) :
    (session.log records).andThen next =
      ⟨(next () session).value, (next () session).session,
        records.map .logged ++ (next () session).events⟩ := rfl

/-- Moving to another directory is the effect of `cd`. -/
theorem changeDirectory_eq (machine : Machine World) (session : Session World)
    (words : List String) :
    (session.log [.running Builtin.cd.name]).andThen
        (fun _ next => next.changeDirectory machine words) =
      session.undergo (effectOfMove machine session.place words) := by
  have same (target : String) : session.lookUp machine target =
      session.place.lookUp machine target := rfl
  simp only [log_andThen, changeDirectory, effectOfMove]
  cases words[1]? with
  | none => rfl
  | some target =>
      simp only [same]
      rcases session.place.lookUp machine target with ⟨outcome, world⟩
      cases outcome <;> rfl

/-- A wait gives its outcome, and only the machine has changed. -/
theorem awaitChild_eq (machine : Machine World) (session : Session World) (process : Nat)
    (course : Course) :
    session.awaitChild machine process course =
      let wait := awaitEnd (machine.reports session.world course)
      ⟨wait.outcome.mapError .system,
        { session with world := wait.fault.elim session.world (machine.failed session.world) },
        wait.notices.map (fun notice => .logged (.stillRunning process notice)) ++
          match wait.outcome with
          | .ok _ => []
          | .error errno => [.logged (.waitFailed process errno)]⟩ := by
  simp only [awaitChild, log_andThen, List.map_map]
  cases (awaitEnd (machine.reports session.world course)).outcome <;> rfl

/-- A child that was split off is waited for. -/
theorem attend_eq (machine : Machine World) (session : Session World) (words : List String)
    (started : Started World) :
    session.attend machine words started =
      ⟨(started.wait machine).outcome.mapError .system,
        session.moved ⟨session.directory, started.behind machine⟩,
        session.place.waitEvents machine words started ++
          match (started.wait machine).outcome with
          | .ok _ => []
          | .error errno => [.logged (.waitFailed started.process errno)]⟩ := by
  simp only [attend, awaitChild_eq, Turn.andThen, note, Place.waitEvents, List.append_assoc]
  rfl

/-- A child is started, and its end is waited for. -/
theorem spawn_of_start {machine : Machine World} {session : Session World} {words : List String}
    {started : Started World} (start : session.place.start machine words = .ok started) :
    session.spawn machine words = session.attend machine words started := by
  change machine.start session.world session.directory _ = _ at start
  rw [spawn, start]

/-- The attempt to split a child off fails. -/
theorem spawn_of_refused {machine : Machine World} {session : Session World} {words : List String}
    {errno : Errno} (refused : session.place.start machine words = .error errno) :
    session.spawn machine words =
      ⟨.error (.system errno), { session with world := machine.failed session.world errno },
        [.logged (.forkFailed errno)]⟩ := by
  change machine.start session.world session.directory _ = _ at refused
  rw [spawn, refused]
  rfl

/-- A program is launched with the effect of a launch. -/
theorem launch_eq (machine : Machine World) (session : Session World) (words : List String) :
    (session.log [.launching (words.headD "")]).andThen
        (fun _ next => next.launch machine words) =
      session.undergo (effectOfLaunch machine session.place words) := by
  simp only [log_andThen, launch, runProgram, effectOfLaunch]
  cases startFailure? words with
  | some failure => rfl
  | none =>
      cases start : session.place.start machine words with
      | error errno =>
          simp only [spawn_of_refused start, Place.outcome_of_refused start,
            Place.behindChild_of_refused start, Place.childEvents_of_refused start]
          rfl
      | ok started =>
          simp only [spawn_of_start start, attend_eq, Place.outcome_of_start start,
            Place.behindChild_of_start start, Place.childEvents_of_start start]
          cases (started.wait machine).outcome with
          | ok ending =>
              have told : (Except.ok ending : Except Errno ChildEnd).mapError Failure.system =
                  .ok ending := rfl
              simp [told, undergo, finish, Turn.andThen, place]
          | error errno =>
              have told : (Except.error errno : Except Errno ChildEnd).mapError Failure.system =
                  .error (.system errno) := rfl
              simp [told, undergo, finish, Turn.andThen, place, fail, report]

/-- A launch settles, and the other lines do not. -/
theorem effectOfLaunch_settles (machine : Machine World) (place : Place World)
    (words : List String) : (effectOfLaunch machine place words).settles = true := by
  simp only [effectOfLaunch]
  split <;> rfl

theorem effectOfMove_settles (machine : Machine World) (place : Place World)
    (words : List String) : (effectOfMove machine place words).settles = false := by
  simp only [effectOfMove]
  split
  · rfl
  · split <;> rfl

/-- To run a command line is to carry its effect out. -/
theorem execute_eq (machine : Machine World) (session : Session World) (words : List String) :
    session.execute machine words =
      session.carryOut words (effectOf machine session.place words) := by
  cases words with
  | nil => rfl
  | cons command rest =>
      simp only [execute, carryOut, effectOf]
      cases found : Builtin.find? command with
      | none =>
          have launched := launch_eq machine session.settleOutput.session (command :: rest)
          rw [place_settleOutput] at launched
          simp only [settleIf, effectOfLaunch_settles, if_true]
          exact congrArg (fun turn : Turn World Status =>
            (session.note [.dispatched (command :: rest)]).andThen fun _ session =>
              session.settleOutput.andThen fun _ _ => turn) launched
      | some builtin =>
          obtain rfl := Builtin.find?_eq_some found
          cases builtin with
          | cd =>
              have entered := changeDirectory_eq machine session (Builtin.cd.name :: rest)
              simp only [settleIf, effectOfMove_settles, Bool.false_eq_true, if_false]
              exact congrArg (fun turn : Turn World Status =>
                (session.note [.dispatched (Builtin.cd.name :: rest)]).andThen
                  fun _ _ => turn) entered
          | help => rfl
          | exit => rfl

end Session

namespace Event

/-- A deed is an event on the machine or in the log, and on no stream of the shell. -/
def isDeed : Event → Bool
  | started _ _ | emitted _ | logged _ => true
  | _ => false

end Event

/-- The deeds among some events. -/
def deedsOf (events : List Event) : List Event := events.filter Event.isDeed

@[simp] theorem deedsOf_append (first second : List Event) :
    deedsOf (first ++ second) = deedsOf first ++ deedsOf second := by
  simp [deedsOf]

/-- The children of some events are started by the deeds among them. -/
theorem startsOf_deedsOf (events : List Event) : startsOf (deedsOf events) = startsOf events := by
  simp only [startsOf, deedsOf, List.filterMap_filter]
  congr 1
  funext event
  cases event <;> rfl

/-- The output of children is among the deeds. -/
theorem emissionsOf_deedsOf (events : List Event) :
    emissionsOf (deedsOf events) = emissionsOf events := by
  simp only [emissionsOf, deedsOf, List.filterMap_filter]
  congr 1
  funext event
  cases event <;> rfl

/-- Deeds put nothing on the streams of the shell and hand no line over. -/
theorem deeds_silent {events : List Event} (deeds : ∀ event ∈ events, event.isDeed = true) :
    outputOf events = [] ∧ errorsOf events = [] ∧ dispatchesOf events = [] ∧
      reportsOf events = [] := by
  simp only [outputOf, errorsOf, dispatchesOf, reportsOf, List.flatMap_eq_nil_iff,
    List.filterMap_eq_nil_iff]
  refine ⟨?_, ?_, ?_, ?_⟩
  all_goals
    intro event member
    have deed := deeds event member
    cases event <;> first | rfl | simp [Event.isDeed] at deed

/-- From the start of a child to the end of the wait there are deeds only. -/
theorem Place.childEvents_isDeed (machine : Machine World) (place : Place World)
    (words : List String) :
    ∀ event ∈ place.childEvents machine words, event.isDeed = true := by
  intro event member
  rw [childEvents] at member
  split at member
  · simp only [waitEvents, List.mem_append, List.mem_cons, List.not_mem_nil, or_false,
      List.mem_map] at member
    rcases member with (((rfl | rfl) | ⟨_, _, rfl⟩) | ⟨_, _, rfl⟩) | rfl <;> rfl
  · obtain rfl := List.mem_singleton.mp member
    rfl

/-- An effect consists of deeds. -/
theorem effectOf_isDeed (machine : Machine World) (place : Place World) (words : List String) :
    ∀ event ∈ (effectOf machine place words).events, event.isDeed = true := by
  cases words with
  | nil => simp [effectOf]
  | cons command rest =>
      simp only [effectOf]
      split
      · simp only [effectOfMove]
        split
        · simp [Event.isDeed]
        · split <;> simp [Event.isDeed]
      · simp [Event.isDeed]
      · simp [Event.isDeed]
      · simp only [effectOfLaunch]
        split
        · simp [Event.isDeed]
        · intro event member
          rcases List.mem_cons.mp member with rfl | later
          · rfl
          · exact Place.childEvents_isDeed machine place _ event later

/-- A turn that happens on the streams of the shell changes nothing else, and none of its events is
a deed or hands a line over. -/
structure Turn.OnStreams {Value : Type} (turn : Turn World Value) (session : Session World) :
    Prop where
  settings : turn.session.settings = session.settings
  input : turn.session.input = session.input
  memory : turn.session.memory = session.memory
  place : turn.session.place = session.place
  deeds : deedsOf turn.events = []
  dispatches : dispatchesOf turn.events = []

namespace Turn.OnStreams

variable {Value Result : Type}

/-- Two turns on the streams are one. -/
theorem andThen {turn : Turn World Value} {session : Session World}
    {next : Value → Session World → Turn World Result} (first : turn.OnStreams session)
    (second : (next turn.value turn.session).OnStreams turn.session) :
    (turn.andThen next).OnStreams session where
  settings := second.settings.trans first.settings
  input := second.input.trans first.input
  memory := second.memory.trans first.memory
  place := second.place.trans first.place
  deeds := by rw [Turn.andThen_events, deedsOf_append, first.deeds, second.deeds]; rfl
  dispatches := by
    rw [Turn.andThen_events, dispatchesOf_append, first.dispatches, second.dispatches]; rfl

end Turn.OnStreams

namespace Session

theorem stay_onStreams {Value : Type} (session : Session World) (value : Value) :
    (session.stay value).OnStreams session := ⟨rfl, rfl, rfl, rfl, rfl, rfl⟩

theorem flush_onStreams (session : Session World) : session.flush.OnStreams session :=
  ⟨rfl, rfl, rfl, rfl, rfl, rfl⟩

theorem report_onStreams (session : Session World) (message : String) :
    (session.report message).OnStreams session := ⟨rfl, rfl, rfl, rfl, rfl, rfl⟩

theorem fail_onStreams (session : Session World) (failure : Failure) :
    (session.fail failure).OnStreams session := ⟨rfl, rfl, rfl, rfl, rfl, rfl⟩

/-- A write is noted by an event that is no deed and hands nothing over. -/
theorem writeOut_onStreams (session : Session World) (event : Bytes → Event) (text : String)
    (idle : ∀ taken, (event taken).isDeed = false)
    (silent : ∀ taken, (event taken).dispatched? = none) :
    (session.writeOut event text).OnStreams session := by
  apply Turn.OnStreams.andThen
  · exact ⟨rfl, rfl, rfl, rfl, by simp [write, deedsOf, idle],
      by simp [write, dispatchesOf, silent]⟩
  · split
    · exact stay_onStreams _ _
    · exact flush_onStreams _

/-- The prompt is shown on the output stream. -/
theorem ask_onStreams (session : Session World) : session.ask.OnStreams session :=
  writeOut_onStreams session .prompted _ (fun _ => rfl) fun _ => rfl

/-- The description is printed on the output stream. -/
theorem printHelp_onStreams (session : Session World) : session.printHelp.OnStreams session := by
  apply (writeOut_onStreams session .printed _ (fun _ => rfl) fun _ => rfl).andThen
  split
  · exact stay_onStreams _ _
  · exact fail_onStreams _ _

theorem settleOutput_onStreams (session : Session World) :
    session.settleOutput.OnStreams session := by
  apply (flush_onStreams session).andThen
  split
  · exact report_onStreams _ _
  · exact stay_onStreams _ _

theorem settleIf_onStreams (session : Session World) (settles : Bool) :
    (session.settleIf settles).OnStreams session := by
  cases settles with
  | false => exact stay_onStreams session ()
  | true => exact settleOutput_onStreams session

/-- The end of a line happens on the streams of the shell. -/
theorem finish_onStreams (session : Session World) (ending : Ending) :
    (session.finish ending).OnStreams session := by
  cases ending with
  | done status => exact stay_onStreams session status
  | failed failure => exact fail_onStreams session failure
  | described => exact printHelp_onStreams session

/-- A command line moves the shell as its effect says. -/
theorem execute_place (machine : Machine World) (session : Session World) (words : List String) :
    (session.execute machine words).session.place =
      (effectOf machine session.place words).place := by
  rw [execute_eq]
  exact (finish_onStreams _ _).place

/-- A command line leaves the settings alone. -/
theorem execute_settings (machine : Machine World) (session : Session World)
    (words : List String) :
    (session.execute machine words).session.settings = session.settings := by
  rw [execute_eq]
  exact (finish_onStreams _ _).settings.trans (settleIf_onStreams session _).settings

/-- A command line leaves the memory alone. -/
theorem execute_memory (machine : Machine World) (session : Session World)
    (words : List String) : (session.execute machine words).session.memory = session.memory := by
  rw [execute_eq]
  exact (finish_onStreams _ _).memory.trans (settleIf_onStreams session _).memory

/-- The deeds of a command line are those of its effect. -/
theorem deedsOf_execute (machine : Machine World) (session : Session World)
    (words : List String) :
    deedsOf (session.execute machine words).events =
      (effectOf machine session.place words).events := by
  have deeds := effectOf_isDeed machine session.place words
  rw [execute_eq]
  simp only [carryOut, undergo, Turn.andThen_events, note_events, deedsOf_append,
    (settleIf_onStreams _ _).deeds, (finish_onStreams _ _).deeds, List.append_nil]
  simpa [deedsOf, Event.isDeed] using deeds

/-- A command line is handed over once. -/
theorem dispatchesOf_execute (machine : Machine World) (session : Session World)
    (words : List String) : dispatchesOf (session.execute machine words).events = [words] := by
  have silent := deeds_silent (effectOf_isDeed machine session.place words)
  rw [execute_eq]
  simp only [carryOut, undergo, Turn.andThen_events, note_events, dispatchesOf_append,
    (settleIf_onStreams _ _).dispatches, (finish_onStreams _ _).dispatches, silent.2.2.1]
  rfl

/-- The child of a command line is the one of its effect. -/
theorem startsOf_execute (machine : Machine World) (session : Session World)
    (words : List String) :
    startsOf (session.execute machine words).events =
      startsOf (effectOf machine session.place words).events := by
  rw [← startsOf_deedsOf, deedsOf_execute]

/-- What the children of a command line put out is in its effect. -/
theorem emissionsOf_execute (machine : Machine World) (session : Session World)
    (words : List String) :
    emissionsOf (session.execute machine words).events =
      emissionsOf (effectOf machine session.place words).events := by
  rw [← emissionsOf_deedsOf, deedsOf_execute]

end Session

/-- A machine with one directory, `sub`, below every other one, and one program, `say`, which writes
its arguments. -/
def Machine.small : Machine Nat where
  enter _ directory target :=
    if target = "sub" then .ok ⟨directory.names ++ ["sub"]⟩ else .error .noEntry
  start world _ arguments :=
    let outcome :=
      if arguments.head? = some (Utf8.encode "say") then
        .ok ⟨[.flow .output arguments.tail.flatten], [], .exited 0⟩
      else .error .noEntry
    .ok ⟨world, outcome, world + 1⟩
  reports _ course := course.stops.map .stopped ++ [course.ending]
  failed world _ := world
  heard world _ := world
  offer world _ := world
  left _ := []
  titled world _ := world

/-- The small machine with other reports on its children. -/
def Machine.reporting (reports : List WaitReport) : Machine Nat :=
  { Machine.small with reports := fun _ _ => reports }

/-- A shell on the small machine, with the given input and streams that do not fail. -/
def Session.small (input : Input) : Session Nat where
  settings := {}
  input := input
  output := {}
  errors := {}
  directory := ⟨[]⟩
  world := 0

end PromptShell
