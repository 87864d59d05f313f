import PromptShell.Proofs.Decoding
import PromptShell.Proofs.Effect
namespace PromptShell

variable {World : Type}

/-- A quiet event stands in the log or marks a moment, and shows nothing. -/
def Event.isQuiet : Event → Bool
  | flushed _ | awaited | logged _ => true
  | _ => false

/-- Quiet events put nothing out, hand no line over and start no child. -/
theorem quiet_silent {events : List Event} (quiet : ∀ event ∈ events, event.isQuiet = true) :
    outputOf events = [] ∧ errorsOf events = [] ∧ dispatchesOf events = [] ∧
      startsOf events = [] ∧ emissionsOf events = [] := by
  simp only [outputOf, errorsOf, dispatchesOf, startsOf, emissionsOf, List.flatMap_eq_nil_iff,
    List.filterMap_eq_nil_iff]
  refine ⟨?_, ?_, ?_, ?_, ?_⟩
  all_goals
    intro event member
    have silent := quiet event member
    cases event <;> first | rfl | simp [Event.isQuiet] at silent

theorem dispatchesOf_quiet {events : List Event}
    (quiet : ∀ event ∈ events, event.isQuiet = true) : dispatchesOf events = [] :=
  (quiet_silent quiet).2.2.1

theorem outputOf_quiet {events : List Event}
    (quiet : ∀ event ∈ events, event.isQuiet = true) : outputOf events = [] :=
  (quiet_silent quiet).1

namespace Session

/-- What a cycle does behind its prompt. -/
def serve (machine : Machine World) (session : Session World) :
    Turn World (Except Failure (Option Status)) :=
  session.readLine.andThen fun line next =>
    match line with
    | .error failure => next.stay (.error failure)
    | .ok none => (next.log [.endOfInput]).map fun _ => .ok none
    | .ok (some line) => (next.executeText machine line.text).map fun status => status.map some

/-- A cycle shows the prompt and serves a line, unless the prompt could not be shown. -/
theorem step_eq (machine : Machine World) (session : Session World) :
    session.step machine =
      session.ask.andThen fun fault next =>
        match fault with
        | some fault => next.stay (.error (.stream fault))
        | none => next.serve machine := rfl

/-- The reading of a line by a shell. -/
def reading (session : Session World) : Line.Reading :=
  Line.read session.settings.lineGrowth session.input (session.memory.lines 0)

/-- The shell behind the reading of a line. -/
def behindLine (session : Session World) : Session World :=
  { session with input := session.reading.rest, memory := session.memory.behindLine }

/-- The events of the reading of a line. -/
def readingEvents (session : Session World) : List Event :=
  .awaited :: session.reading.growths.map fun capacity => .logged (.lineGrown capacity)

/-- The cutting of a text by a shell. -/
def cutting (session : Session World) (text : String) : Arguments.Cutting :=
  Arguments.cut session.settings.argumentGrowth text (session.memory.words 0)

/-- The shell behind the cutting of a text. -/
def behindWords (session : Session World) : Session World :=
  { session with memory := session.memory.behindWords }

/-- The events of the cutting of a text. -/
def cuttingEvents (session : Session World) (text : String) : List Event :=
  (session.cutting text).growths.map fun capacity => .logged (.argumentsGrown capacity)

/-- The text that a cycle reads, if it reads one. -/
def text? (session : Session World) : Option String :=
  match session.reading.answer with
  | .ok (some line) => some line.text
  | _ => none

/-- What arrives on the input for a cycle: the text of a line, the end of the stream, or a failure
that keeps the line from being run. -/
def arrival (session : Session World) : Except Failure (Option String) :=
  match session.reading.answer with
  | .error failure => .error failure
  | .ok none => .ok none
  | .ok (some line) => (session.cutting line.text).answer.map fun _ => some line.text

/-- The memory behind the arrival. A text that was read has been cut, too. -/
def memoryBehind (session : Session World) : Memory :=
  match session.text? with
  | some _ => session.memory.behindLine.behindWords
  | none => session.memory.behindLine

/-- The shell behind the arrival. -/
def behindArrival (session : Session World) : Session World :=
  { session with input := session.reading.rest, memory := session.memoryBehind }

/-- The events of the arrival. -/
def arrivalEvents (session : Session World) : List Event :=
  session.readingEvents ++ session.text?.elim [] session.cuttingEvents

/-- A list that has been cut holds the words of the text. -/
theorem texts_of_cutting {session : Session World} {text : String} {arguments : Arguments}
    (cut : (session.cutting text).answer = .ok arguments) : arguments.texts = wordsOf text := by
  obtain ⟨rfl, -⟩ := Arguments.eq_of_cut cut
  exact Word.split_texts text

/-- The words of a text that could be cut are run, and nothing else is. -/
theorem executeText_eq (machine : Machine World) (session : Session World)
    (text : String) :
    session.executeText machine text =
      match (session.cutting text).answer with
      | .error failure => ⟨.error failure, session.behindWords, session.cuttingEvents text⟩
      | .ok _ =>
          (session.behindWords.note (session.cuttingEvents text)).andThen fun _ next =>
            (next.execute machine (wordsOf text)).map .ok := by
  have cut : session.cut text =
      ⟨(session.cutting text).answer, session.behindWords, session.cuttingEvents text⟩ := rfl
  rw [executeText, cut]
  cases answer : (session.cutting text).answer with
  | error failure => simp [Turn.andThen]
  | ok arguments =>
      simp only [Turn.andThen, texts_of_cutting answer]
      rfl

/-- The words of an arrived text are run, and nothing else is. -/
theorem serve_eq (machine : Machine World) (session : Session World) :
    session.serve machine =
      match session.arrival with
      | .error failure => ⟨.error failure, session.behindArrival, session.arrivalEvents⟩
      | .ok none =>
          ⟨.ok none, session.behindArrival, session.arrivalEvents ++ [.logged .endOfInput]⟩
      | .ok (some text) =>
          (session.behindArrival.note session.arrivalEvents).andThen fun _ next =>
            (next.execute machine (wordsOf text)).map fun status => .ok (some status) := by
  have read : session.readLine =
      ⟨session.reading.answer, session.behindLine, session.readingEvents⟩ := rfl
  simp only [serve, read, arrival, behindArrival, memoryBehind, arrivalEvents, text?, Turn.andThen]
  cases session.reading.answer with
  | error failure => simp [behindLine]
  | ok found =>
      cases found with
      | none => simp [behindLine, Turn.map]
      | some line =>
          have same : session.behindLine.cutting line.text = session.cutting line.text := rfl
          have events : session.behindLine.cuttingEvents line.text =
              session.cuttingEvents line.text := rfl
          simp only [executeText_eq, same, events]
          cases (session.cutting line.text).answer with
          | error failure => rfl
          | ok arguments => simp [Turn.andThen, Turn.map, Except.map, behindLine, behindWords]

theorem readingEvents_isQuiet (session : Session World) :
    ∀ event ∈ session.readingEvents, event.isQuiet = true := by
  intro event member
  rcases List.mem_cons.mp member with rfl | logged
  · rfl
  · obtain ⟨_, _, rfl⟩ := List.mem_map.mp logged
    rfl

theorem cuttingEvents_isQuiet (session : Session World) (text : String) :
    ∀ event ∈ session.cuttingEvents text, event.isQuiet = true := by
  intro event member
  obtain ⟨_, _, rfl⟩ := List.mem_map.mp member
  rfl

theorem arrivalEvents_isQuiet (session : Session World) :
    ∀ event ∈ session.arrivalEvents, event.isQuiet = true := by
  intro event member
  rcases List.mem_append.mp member with read | cut
  · exact readingEvents_isQuiet session event read
  · cases found : session.text? with
    | none => simp [found] at cut
    | some text =>
        rw [found] at cut
        exact cuttingEvents_isQuiet session text event cut

/-- What arrives is told by the settings, the input and the memory. -/
theorem arrival_congr {one other : Session World} (settings : other.settings = one.settings)
    (input : other.input = one.input) (memory : other.memory = one.memory) :
    other.arrival = one.arrival ∧ other.reading = one.reading ∧
      other.memoryBehind = one.memoryBehind := by
  simp only [arrival, memoryBehind, text?, reading, cutting, settings, input, memory, and_self]

/-- There is room for the first step of the buffer of a line. -/
def CanRead (session : Session World) : Prop :=
  session.memory.lines 0 0 session.settings.lineGrowth = true

/-- There is room for the first step of a list of words. -/
def CanCut (session : Session World) : Prop :=
  session.memory.words 0 0 session.settings.argumentGrowth = true

instance (session : Session World) : Decidable session.CanRead :=
  inferInstanceAs (Decidable (_ = true))

instance (session : Session World) : Decidable session.CanCut :=
  inferInstanceAs (Decidable (_ = true))

section

variable {session : Session World} {text : String}

theorem cutting_refused (refused : ¬ session.CanCut) :
    session.cutting text = ⟨.error .allocation, []⟩ := by
  rw [CanCut, ← session.settings.max_argumentGrowth] at refused
  exact Arguments.cut_refused refused

/-- A shell cuts a text if there is room for its words. -/
theorem cutting_of_gives (given : session.CanCut)
    (gives : (session.memory.words 0).Gives session.settings.argumentGrowth 0
      (Word.split text).length) :
    session.cutting text =
      ⟨.ok ⟨Word.split text,
          Buffer.capacityFor session.settings.argumentGrowth (Word.split text).length⟩,
        Buffer.growthsFor session.settings.argumentGrowth (Word.split text).length⟩ := by
  rw [CanCut, ← session.settings.max_argumentGrowth] at given
  rw [← session.settings.max_argumentGrowth] at gives
  rw [cutting, Arguments.cut_of_gives given gives, Settings.max_argumentGrowth]

theorem cutting_of_refuses (given : session.CanCut) {count : Nat}
    (refuses : (session.memory.words 0).Refuses session.settings.argumentGrowth (count + 1))
    (short : count < (Word.split text).length) :
    session.cutting text =
      ⟨.error .allocation, Buffer.growthsFor session.settings.argumentGrowth count⟩ := by
  rw [CanCut, ← session.settings.max_argumentGrowth] at given
  rw [← session.settings.max_argumentGrowth] at refuses
  rw [cutting, Arguments.cut_of_refuses given refuses short, Settings.max_argumentGrowth]

end

/-- There is always room for the buffers of a shell. -/
def Roomy (session : Session World) : Prop :=
  session.memory.Allows session.settings.lineGrowth session.settings.argumentGrowth

/-- The buffers of a shell behind an arrival are some that it would have met before. -/
theorem Roomy.behindArrival {session : Session World} (roomy : session.Roomy) :
    session.behindArrival.Roomy := by
  simp only [Roomy, Session.behindArrival, memoryBehind]
  split
  · exact ⟨fun index => roomy.lines (index + 1), fun index => roomy.words (index + 1)⟩
  · exact ⟨fun index => roomy.lines (index + 1), roomy.words⟩

theorem Roomy.behindWords {session : Session World} (roomy : session.Roomy) :
    session.behindWords.Roomy :=
  ⟨roomy.lines, fun index => roomy.words (index + 1)⟩

/-- A shell that always has room for the words of a text cuts it. -/
theorem cutting_roomy {session : Session World} (roomy : session.Roomy) (text : String) :
    session.cutting text =
      ⟨.ok ⟨Word.split text,
          Buffer.capacityFor session.settings.argumentGrowth (Word.split text).length⟩,
        Buffer.growthsFor session.settings.argumentGrowth (Word.split text).length⟩ :=
  cutting_of_gives (roomy.words 0 0) ((roomy.words 0).gives 0 _)

/-- A shell that always has room reads what the events of its input decide. -/
theorem Roomy.reading_decision {session : Session World} (roomy : session.Roomy) :
    session.reading.answer =
        (Line.decision session.input.events).answer session.settings.lineGrowth ∧
      Input.events session.reading.rest = (Line.decision session.input.events).behind := by
  have allows := roomy.lines 0
  rw [← session.settings.max_lineGrowth] at allows
  exact ⟨Line.read_answer allows session.input, Line.events_read allows session.input⟩

/-- A command line leaves the room for the buffers alone. -/
theorem Roomy.execute {session : Session World} (roomy : session.Roomy) (machine : Machine World)
    (words : List String) : (session.execute machine words).session.Roomy := by
  rw [Roomy, execute_memory, execute_settings]
  exact roomy

/-- Serving a line leaves the settings alone. -/
theorem serve_settings (machine : Machine World) (session : Session World) :
    (session.serve machine).session.settings = session.settings := by
  rw [serve_eq]
  cases session.arrival with
  | error failure => rfl
  | ok found =>
      cases found with
      | none => rfl
      | some text => exact execute_settings machine session.behindArrival _

/-- A cycle with a status has run the words of one line. -/
theorem step_status (machine : Machine World) (session : Session World) (status : Status)
    (went : (session.step machine).value = .ok (some status)) :
    ∃ (before : Session World) (words : List String),
      dispatchesOf (session.step machine).events = [words] ∧
        status = (before.execute machine words).value := by
  rw [step_eq] at went ⊢
  simp only [Turn.andThen_value, Turn.andThen_events, dispatchesOf_append,
    (ask_onStreams session).dispatches, List.nil_append] at went ⊢
  cases asked : session.ask.value with
  | some fault => simp [asked] at went
  | none =>
      simp only [asked, serve_eq] at went ⊢
      cases arrived : session.ask.session.arrival with
      | error failure => simp [arrived] at went
      | ok found =>
          cases found with
          | none => simp [arrived] at went
          | some text =>
              simp only [arrived, Turn.andThen_value, Turn.map_value, Except.ok.injEq,
                Option.some.injEq] at went
              refine ⟨_, wordsOf text, ?_, went.symm⟩
              simp only [Turn.andThen_events, Turn.map_events, note_events, dispatchesOf_append,
                dispatchesOf_quiet (arrivalEvents_isQuiet _), dispatchesOf_execute,
                List.nil_append]

/-- Whether the loop goes on behind a cycle. -/
def goesOn (outcome : Except Failure (Option Status)) : Except Failure Bool :=
  outcome.map fun status => status.elim false Status.keepsRunning

/-- The loop goes on behind a status only. -/
theorem exists_status_of_goesOn {outcome : Except Failure (Option Status)}
    (goes : goesOn outcome = .ok true) : ∃ status, outcome = .ok (some status) := by
  cases outcome with
  | error failure => simp [goesOn, Except.map] at goes
  | ok found =>
      cases found with
      | none => simp [goesOn, Except.map] at goes
      | some status => exact ⟨status, rfl⟩

/-- Behind a cycle that has not failed the loop goes on or is done. -/
theorem goesOn_eq_false {found : Option Status} (ends : goesOn (.ok found) ≠ .ok true) :
    goesOn (.ok found) = .ok false := by
  simpa [goesOn, Except.map] using ends

/-- What the loop does behind a cycle. -/
def follow (machine : Machine World) (outcome : Except Failure (Option Status))
    (session : Session World) : Turn World (Except Failure Unit) :=
  match goesOn outcome with
  | .error failure => session.stay (.error failure)
  | .ok true => session.run machine
  | .ok false => session.close

/-- A loop is its first cycle and what follows it. -/
theorem run_follow (machine : Machine World) (session : Session World) :
    session.run machine = (session.step machine).andThen (follow machine) := by
  rw [run_eq]
  simp only [Turn.andThen, follow]
  cases (session.step machine).value with
  | error failure => simp [goesOn, Except.map, Turn.map]
  | ok found =>
      cases found with
      | none => rfl
      | some status => cases status <;> rfl

/-- A loop whose prompt could not be shown has ended. -/
theorem run_unasked (machine : Machine World) (session : Session World) (fault : Fault)
    (asked : session.ask.value = some fault) :
    session.run machine =
      ⟨.error (.stream fault), session.ask.session, session.ask.events⟩ := by
  rw [run_follow, step_eq]
  simp [Turn.andThen, asked, follow, goesOn, Except.map]

/-- A loop that has shown its prompt serves a line and goes on from there. -/
theorem run_asked (machine : Machine World) (session : Session World)
    (asked : session.ask.value = none) :
    session.run machine =
      session.ask.andThen fun _ next => (next.serve machine).andThen (follow machine) := by
  rw [run_follow, step_eq]
  simp [Turn.andThen, asked]

/-- What a cycle hands on to the loop behind it holds of every loop. -/
theorem run_induct (machine : Machine World) {motive : Session World → Prop}
    (cycle : ∀ session : Session World,
      (goesOn (session.step machine).value = .ok true →
        motive (session.step machine).session) → motive session)
    (session : Session World) : motive session := by
  induction size : (Input.bytes session.input).length using Nat.strongRecOn
    generalizing session with
  | ind size ih =>
      subst size
      apply cycle
      intro goes
      obtain ⟨status, went⟩ := exists_status_of_goesOn goes
      exact ih _ (step_bytes_lt machine session status went) _ rfl

end Session
end PromptShell
