import PromptShell.Calls
import PromptShell.Proofs.Cycle
namespace PromptShell

variable {World : Type}

/-- An event that is on no stream to which the shell writes. -/
def Event.isApart : Event → Bool
  | awaited | dispatched _ | started _ _ | emitted _ | logged _ => true
  | _ => false

/-- An event of the reading of a line or of its cutting. -/
def Event.isReading : Event → Bool
  | awaited | logged _ => true
  | _ => false

/-- Events apart from the streams put nothing on them. -/
theorem apart_silent {events : List Event} (apart : ∀ event ∈ events, event.isApart = true) :
    outputOf events = [] ∧ errorsOf events = [] ∧ reportsOf events = [] := by
  simp only [outputOf, errorsOf, reportsOf, List.flatMap_eq_nil_iff, List.filterMap_eq_nil_iff]
  refine ⟨?_, ?_, ?_⟩
  all_goals
    intro event member
    have kind := apart event member
    cases event <;> first | rfl | simp [Event.isApart] at kind

theorem deeds_isApart {events : List Event} (deeds : ∀ event ∈ events, event.isDeed = true) :
    ∀ event ∈ events, event.isApart = true := by
  intro event member
  have deed := deeds event member
  cases event <;> first | rfl | simp [Event.isDeed] at deed

theorem isApart_of_isReading {events : List Event}
    (read : ∀ event ∈ events, event.isReading = true) :
    ∀ event ∈ events, event.isApart = true := by
  intro event member
  have kind := read event member
  cases event <;> first | rfl | simp [Event.isReading] at kind

theorem isQuiet_of_isReading {events : List Event}
    (read : ∀ event ∈ events, event.isReading = true) :
    ∀ event ∈ events, event.isQuiet = true := by
  intro event member
  have kind := read event member
  cases event <;> first | rfl | simp [Event.isReading] at kind

namespace Session

theorem readingEvents_isReading (session : Session World) :
    ∀ event ∈ session.readingEvents, event.isReading = true := by
  simp [readingEvents, Event.isReading]

theorem cuttingEvents_isReading (session : Session World) (text : String) :
    ∀ event ∈ session.cuttingEvents text, event.isReading = true := by
  simp [cuttingEvents, Event.isReading]

theorem arrivalEvents_isReading (session : Session World) :
    ∀ event ∈ session.arrivalEvents, event.isReading = true := by
  refine List.forall_mem_append.mpr ⟨session.readingEvents_isReading, ?_⟩
  cases session.text? with
  | none => simp
  | some text => exact session.cuttingEvents_isReading text

end Session

/-- The memory behind the buffers of some lines and some lists of words. -/
def Memory.behind (memory : Memory) (lines words : Nat) : Memory :=
  ⟨fun index => memory.lines (index + lines), fun index => memory.words (index + words)⟩

/-- An arrival takes the buffer of a line, and the list of its words if there is one. -/
theorem Session.exists_memoryBehind (session : Session World) :
    ∃ words, session.memoryBehind = session.memory.behind 1 words := by
  rw [memoryBehind]
  split
  · exact ⟨1, rfl⟩
  · exact ⟨0, rfl⟩

/-- A property of turns, told of the shell in front of the turn as well, that holds of every line on
a machine, of the prompt, of the flush at the end, of every reading and cutting, and of one turn
behind another if it holds of both. -/
structure Turn.LineInvariant (machine : Machine World)
    (holds : {Value : Type} → Session World → Turn World Value → Prop) : Prop where
  andThen {Value Result : Type} {session : Session World} {turn : Turn World Value}
    (next : Value → Session World → Turn World Result) : holds session turn →
    holds turn.session (next turn.value turn.session) → holds session (turn.andThen next)
  map {Value Result : Type} {session : Session World} {turn : Turn World Value}
    (change : Value → Result) : holds session turn → holds session (turn.map change)
  ask (session : Session World) : holds session session.ask
  flush (session : Session World) : holds session session.flush
  read (session : Session World) (input : Input) (lines words : Nat) {events : List Event} :
    (∀ event ∈ events, event.isReading = true) →
    holds session ({ session with input, memory := session.memory.behind lines words }.note events)
  execute (session : Session World) (words : List String) :
    holds session (session.execute machine words)

namespace Turn.LineInvariant

variable {holds : {Value : Type} → Session World → Turn World Value → Prop}
variable {machine : Machine World} (invariant : Turn.LineInvariant machine holds)
include invariant

theorem stay {Value : Type} (session : Session World) (value : Value) :
    holds session (session.stay value) := by
  have still : holds session (session.note []) :=
    invariant.read session session.input 0 0 (by simp)
  exact invariant.map (fun _ => value) still

theorem executeText (session : Session World) (text : String) :
    holds session (session.executeText machine text) := by
  have cut : holds session (session.behindWords.note (session.cuttingEvents text)) :=
    invariant.read session session.input 0 1 (session.cuttingEvents_isReading text)
  rw [Session.executeText_eq]
  split
  · rename_i failure _
    exact invariant.map (fun _ => (.error failure : Except Failure Status)) cut
  · exact invariant.andThen _ cut (invariant.map _ (invariant.execute session.behindWords _))

theorem serve (session : Session World) : holds session (session.serve machine) := by
  have behind (events : List Event) (read : ∀ event ∈ events, event.isReading = true) :
      holds session (session.behindArrival.note (session.arrivalEvents ++ events)) := by
    obtain ⟨words, behind⟩ := session.exists_memoryBehind
    rw [Session.behindArrival, behind]
    exact invariant.read session session.reading.rest 1 words
      (List.forall_mem_append.mpr ⟨session.arrivalEvents_isReading, read⟩)
  have arrived := behind [] (by simp)
  rw [List.append_nil] at arrived
  rw [Session.serve_eq]
  cases session.arrival with
  | error failure =>
      exact invariant.map (fun _ => (.error failure : Except Failure (Option Status))) arrived
  | ok found =>
      cases found with
      | none =>
          have ended := behind [.logged .endOfInput] (by simp [Event.isReading])
          exact invariant.map (fun _ => (.ok none : Except Failure (Option Status))) ended
      | some text =>
          exact invariant.andThen _ arrived
            (invariant.map _ (invariant.execute session.behindArrival _))

/-- What holds of every line holds of a cycle. -/
theorem step (session : Session World) : holds session (session.step machine) := by
  rw [Session.step_eq]
  refine invariant.andThen _ (invariant.ask session) ?_
  cases session.ask.value with
  | some fault => exact invariant.stay _ _
  | none => exact invariant.serve _

/-- What holds of every cycle holds of the loop. -/
theorem run (session : Session World) : holds session (session.run machine) := by
  induction session using Session.run_induct machine with
  | cycle session ih =>
      rw [Session.run_follow]
      refine invariant.andThen _ (invariant.step session) ?_
      simp only [Session.follow]
      cases goes : Session.goesOn (session.step machine).value with
      | error failure => exact invariant.stay _ _
      | ok going =>
          cases going with
          | true => exact ih goes
          | false => exact invariant.map _ (invariant.flush _)

theorem call (session : Session World) (call : Call) :
    holds session (session.call machine call) := by
  cases call with
  | step => exact invariant.map _ (invariant.step session)
  | run => exact invariant.map _ (invariant.run session)
  | execute words => exact invariant.map _ (invariant.execute session words)
  | executeText text => exact invariant.map _ (invariant.executeText session text)

/-- What holds of every line holds of every sequence of calls. -/
theorem callAll (session : Session World) (calls : List Call) :
    holds session (session.callAll machine calls) := by
  induction calls generalizing session with
  | nil => exact invariant.stay session []
  | cons call rest ih =>
      exact invariant.andThen _ (invariant.call session call) (invariant.map _ (ih _))

end Turn.LineInvariant

/-- A property of turns, told of the shell in front of the turn as well, that holds of every action
on a stream of the shell, of every change of input, memory and place with events apart from the
streams, and of one turn behind another if it holds of both. -/
structure Turn.Invariant (holds : {Value : Type} → Session World → Turn World Value → Prop) :
    Prop where
  andThen {Value Result : Type} {session : Session World} {turn : Turn World Value}
    (next : Value → Session World → Turn World Result) : holds session turn →
    holds turn.session (next turn.value turn.session) → holds session (turn.andThen next)
  map {Value Result : Type} {session : Session World} {turn : Turn World Value}
    (change : Value → Result) : holds session turn → holds session (turn.map change)
  ask (session : Session World) : holds session session.ask
  printHelp (session : Session World) : holds session session.printHelp
  flush (session : Session World) : holds session session.flush
  report (session : Session World) (message : String) : holds session (session.report message)
  apart (session : Session World) (input : Input) (memory : Memory) (place : Place World)
    {events : List Event} :
    (∀ event ∈ events, event.isApart = true) →
    holds session (({ session with input, memory }.moved place).note events)

namespace Turn.Invariant

variable {holds : {Value : Type} → Session World → Turn World Value → Prop}
variable (invariant : Turn.Invariant holds)
include invariant

theorem note (session : Session World) {events : List Event}
    (apart : ∀ event ∈ events, event.isApart = true) : holds session (session.note events) :=
  invariant.apart session session.input session.memory session.place apart

theorem stay {Value : Type} (session : Session World) (value : Value) :
    holds session (session.stay value) := by
  have still : holds session (session.note []) := invariant.note session (by simp)
  exact invariant.map (fun _ => value) still

theorem finish (session : Session World) (ending : Ending) :
    holds session (session.finish ending) := by
  cases ending with
  | done status => exact invariant.stay session status
  | described => exact invariant.printHelp session
  | failed failure =>
      simp only [Session.finish, Session.fail]
      exact invariant.map _ (invariant.report session failure.message)

theorem settleIf (session : Session World) (settles : Bool) :
    holds session (session.settleIf settles) := by
  cases settles with
  | false => exact invariant.stay session ()
  | true =>
      simp only [Session.settleIf, if_true, Session.settleOutput]
      refine invariant.andThen _ (invariant.flush session) ?_
      cases session.flush.value with
      | some fault => exact invariant.report _ fault.message
      | none => exact invariant.stay _ ()

/-- What holds of every action holds of a line. -/
theorem execute (machine : Machine World) (session : Session World) (words : List String) :
    holds session (session.execute machine words) := by
  have deeds := deeds_isApart (effectOf_isDeed machine session.place words)
  rw [Session.execute_eq]
  refine invariant.andThen _ (invariant.note session (by simp [Event.isApart])) ?_
  refine invariant.andThen _ (invariant.settleIf session _) ?_
  exact invariant.andThen _ (invariant.apart _ _ _ _ deeds) (invariant.finish _ _)

/-- A property of every action is one of every line. -/
theorem lines (machine : Machine World) : Turn.LineInvariant machine holds where
  andThen := invariant.andThen
  map := invariant.map
  ask := invariant.ask
  flush := invariant.flush
  read session input lines words _ read :=
    invariant.apart session input (session.memory.behind lines words) session.place
      (isApart_of_isReading read)
  execute := invariant.execute machine

/-- What holds of every action holds of every sequence of calls. -/
theorem callAll (machine : Machine World) (session : Session World) (calls : List Call) :
    holds session (session.callAll machine calls) :=
  (invariant.lines machine).callAll session calls

end Turn.Invariant

/-- A turn leaves the settings alone, and the memory is behind the buffers that the turn has
taken. -/
structure Turn.TakesBuffers {Value : Type} (session : Session World) (turn : Turn World Value) :
    Prop where
  settings : turn.session.settings = session.settings
  memory : ∃ lines words, turn.session.memory = session.memory.behind lines words

namespace Turn.TakesBuffers

variable {Value Result : Type} {session : Session World}

theorem of_onStreams {turn : Turn World Value} (streams : turn.OnStreams session) :
    turn.TakesBuffers session :=
  ⟨streams.settings, 0, 0, streams.memory⟩

theorem andThen {turn : Turn World Value} (next : Value → Session World → Turn World Result)
    (first : turn.TakesBuffers session)
    (second : (next turn.value turn.session).TakesBuffers turn.session) :
    (turn.andThen next).TakesBuffers session where
  settings := second.settings.trans first.settings
  memory := by
    obtain ⟨lines, words, early⟩ := first.memory
    obtain ⟨moreLines, moreWords, late⟩ := second.memory
    refine ⟨moreLines + lines, moreWords + words, ?_⟩
    rw [Turn.andThen_session, late, early]
    simp only [Memory.behind, Nat.add_assoc]

/-- Where there is always room, there is room behind the turn. -/
theorem roomy {turn : Turn World Value} (takes : turn.TakesBuffers session)
    (roomy : session.Roomy) : turn.session.Roomy := by
  obtain ⟨lines, words, memory⟩ := takes.memory
  rw [Session.Roomy, memory, takes.settings]
  exact ⟨fun index => roomy.lines (index + lines), fun index => roomy.words (index + words)⟩

/-- Where room is by size, it is so behind the turn. -/
theorem bySize {turn : Turn World Value} (takes : turn.TakesBuffers session)
    (sized : session.memory.BySize session.settings.lineGrowth session.settings.argumentGrowth) :
    turn.session.memory.BySize turn.session.settings.lineGrowth
      turn.session.settings.argumentGrowth := by
  obtain ⟨lines, words, memory⟩ := takes.memory
  rw [memory, takes.settings]
  exact ⟨fun index => sized.lines (index + lines), fun index => sized.words (index + words)⟩

end Turn.TakesBuffers

/-- Every turn of a shell takes buffers in their order. -/
theorem Turn.takesBuffers_invariant (machine : Machine World) :
    Turn.LineInvariant machine fun (session : Session World) turn => turn.TakesBuffers session where
  andThen next first second := first.andThen next second
  map _ takes := ⟨takes.settings, takes.memory⟩
  ask session := .of_onStreams session.ask_onStreams
  flush session := .of_onStreams session.flush_onStreams
  read _ _ lines words _ _ := ⟨rfl, lines, words, rfl⟩
  execute session words :=
    ⟨session.execute_settings machine words, 0, 0, session.execute_memory machine words⟩

end PromptShell
