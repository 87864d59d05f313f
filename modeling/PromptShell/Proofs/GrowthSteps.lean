import PromptShell.Proofs.Comparison
import PromptShell.Proofs.Taking
namespace PromptShell

variable {World : Type}

/-- A record of a growth was logged. -/
def Event.isGrowth : Event → Bool
  | logged record => record.isGrowth
  | _ => false

/-- A reading with room for all keeps the bytes of its line in their order, whatever the growth
step. -/
theorem Line.gather_keeps {allocator : Allocator} {step : Nat} (positive : 0 < step)
    (allows : allocator.Allows step) (input : Input) :
    ∃ bytes halt rest, Line.Takes input bytes halt rest ∧
      Line.gather allocator (Buffer.empty step) input =
        ((Buffer.empty step).pushAll bytes, halt, rest) ∧
      ((Buffer.empty step).pushAll bytes).items.toList = bytes ∧
      input.bytes = bytes ++ halt.bytes ++ rest.bytes := by
  obtain ⟨bytes, halt, rest, taken, roomy⟩ := Line.exists_takes_roomy input
  have permits := Line.permits_of_gives (allows.gives 0 bytes.length) roomy
  obtain ⟨filled, gathered, -, same⟩ := Line.gather_of_takes positive taken permits
  obtain rfl := same roomy
  refine ⟨bytes, halt, rest, taken, gathered, ?_, taken.bytes_eq⟩
  rw [Buffer.pushAll_items]
  rfl

/-- A cutting with room for all keeps the words of its text in their order, whatever the growth
step. -/
theorem Arguments.cut_words {allocator : Allocator} {step : Nat}
    (allows : allocator.Allows (max step 1)) (text : String) :
    (Arguments.cut step text allocator).answer.map Arguments.words = .ok (Word.split text) := by
  rw [Arguments.cut_eq allows]
  rfl

namespace Session

/-- The shell with other settings. -/
def tuned (session : Session World) (settings : Settings) : Session World :=
  { session with settings }

variable {session : Session World} {settings : Settings}

/-- The same is read with other growth steps if there is room for them, up to the size of the
buffer. -/
theorem reading_tuned (roomy : session.Roomy) (otherRoomy : (session.tuned settings).Roomy) :
    (session.tuned settings).arrival = session.arrival ∧
      (session.tuned settings).text? = session.text? ∧
      (session.tuned settings).reading.rest = session.reading.rest := by
  obtain ⟨bytes, halt, rest, reads, ends⟩ := roomy.exists_reads
  have otherReads : (session.tuned settings).Reads bytes halt rest :=
    otherRoomy.reads reads.taken ends
  refine ⟨?_, ?_, by rw [reads.reading, otherReads.reading]⟩
  all_goals
    rcases Line.halt_cases bytes halt with ⟨fault, rfl⟩ | rfl | ⟨rfl, rfl⟩ | arrived
  · rw [reads.arrival_failed, otherReads.arrival_failed]
  · exact absurd rfl ends
  · rw [reads.arrival_ended, otherReads.arrival_ended]
  · rw [reads.arrival_roomy roomy arrived, otherReads.arrival_roomy otherRoomy arrived]
  · simp only [text?, reads.reading, otherReads.reading, Line.answer_failed]
  · exact absurd rfl ends
  · simp only [text?, reads.reading, otherReads.reading, Line.answer_ended, if_true]
  · simp only [text?, reads.reading, otherReads.reading, Line.answer_of_arrives _ arrived,
      Line.ofBytes_text]

/-- The arrival leaves the growth steps alone. -/
theorem behindArrival_tuned (roomy : session.Roomy)
    (otherRoomy : (session.tuned settings).Roomy) :
    (session.tuned settings).behindArrival = session.behindArrival.tuned settings := by
  obtain ⟨-, text, left⟩ := reading_tuned roomy otherRoomy
  simp only [behindArrival, memoryBehind, text, left]
  rfl

end Session

/-- Shells that differ by their growth steps only, with room for both; records of growths are not
looked at. -/
def sameButSteps (World : Type) (settings : Settings) : Comparison World where
  alike one other := one.Roomy ∧ (one.tuned settings).Roomy ∧
    settings.prompt = one.settings.prompt ∧ other = one.tuned settings
  seen := Option.guard fun event => !event.isGrowth

/-- A view in which growths show nothing is told by what is looked at. -/
theorem growth_shows_nothing {Item : Type} (World : Type) (settings : Settings)
    (view : Event → List Item) (silent : ∀ record, view (.logged record) = []) (event : Event) :
    ((sameButSteps World settings).seen event).elim [] view = view event := by
  cases growth : event.isGrowth with
  | false => simp [sameButSteps, Option.guard, growth]
  | true =>
      cases event with
      | logged record => simp [sameButSteps, Option.guard, growth, silent]
      | _ => cases growth

theorem growth_tells_nothing {Item : Type} (World : Type) (settings : Settings)
    (view : Event → Option Item)
    (silent : ∀ record, record.isGrowth = true → view (.logged record) = none) (event : Event) :
    ((sameButSteps World settings).seen event).bind view = view event := by
  cases growth : event.isGrowth with
  | false => simp [sameButSteps, Option.guard, growth]
  | true =>
      cases event with
      | logged record => simp [sameButSteps, Option.guard, growth, silent record growth]
      | _ => cases growth

/-- Of a reading it is seen that it took place, and of a cutting nothing. -/
theorem seen_readingEvents (settings : Settings) (session : Session World) :
    session.readingEvents.filterMap (sameButSteps World settings).seen = [.awaited] := by
  simp only [Session.readingEvents, sameButSteps, List.filterMap_eq_filter, List.filter_cons]
  simp [Event.isGrowth, Record.isGrowth]

theorem seen_cuttingEvents (settings : Settings) (session : Session World) (text : String) :
    (session.cuttingEvents text).filterMap (sameButSteps World settings).seen = [] := by
  simp only [Session.cuttingEvents, sameButSteps, List.filterMap_eq_filter]
  simp [Event.isGrowth, Record.isGrowth]

/-- Of an arrival it is seen that something was read. -/
theorem seen_arrivalEvents (settings : Settings) (session : Session World) :
    session.arrivalEvents.filterMap (sameButSteps World settings).seen = [.awaited] := by
  rw [Session.arrivalEvents, List.filterMap_append, seen_readingEvents]
  cases session.text? with
  | none => rfl
  | some text => exact congrArg ([Event.awaited] ++ ·) (seen_cuttingEvents settings session text)

/-- Nothing that a shell does looks at its growth steps if there is room for them. -/
theorem sameButSteps_sound (settings : Settings) : (sameButSteps World settings).Sound where
  agrees := by
    rintro one _ ⟨roomy, otherRoomy, prompt, rfl⟩
    refine ⟨prompt, rfl, rfl, (Session.reading_tuned roomy otherRoomy).1, ?_⟩
    intro text
    rw [Session.cutting_roomy roomy, Session.cutting_roomy otherRoomy]
    rfl
  moved := by
    rintro one _ place ⟨roomy, otherRoomy, prompt, rfl⟩
    exact ⟨roomy, otherRoomy, prompt, rfl⟩
  written := by
    rintro one _ output ⟨roomy, otherRoomy, prompt, rfl⟩
    exact ⟨roomy, otherRoomy, prompt, rfl⟩
  report := by
    rintro one _ message ⟨roomy, otherRoomy, prompt, rfl⟩
    exact ⟨rfl, ⟨roomy, otherRoomy, prompt, rfl⟩, rfl⟩
  arrived := by
    rintro one _ ⟨roomy, otherRoomy, prompt, rfl⟩
    have same := Session.behindArrival_tuned roomy otherRoomy
    have left := otherRoomy.behindArrival
    rw [same] at left
    refine ⟨rfl, ⟨roomy.behindArrival, left, prompt, same⟩, ?_⟩
    simp only [Session.note_events, seen_arrivalEvents]
  cut := by
    rintro one _ text ⟨roomy, otherRoomy, prompt, rfl⟩
    refine ⟨rfl, ⟨roomy.behindWords, otherRoomy.behindWords, prompt, rfl⟩, ?_⟩
    simp only [Session.note_events, seen_cuttingEvents]

namespace Session

/-- Growth steps for which there is room cannot be told from what a shell does. A session with other
growth steps and the same prompt answers the same, shows and reports the same, starts the same
children, which put out the same, and is left in the same state; its log is the same but for the
records of the growths, and so is everything that happens, in its order. At no step size does a
reading lose, repeat or move a byte, or a cutting a word. -/
theorem callAll_growth_steps (machine : Machine World) (session : Session World)
    (settings : Settings) (calls : List Call) (roomy : session.Roomy)
    (otherRoomy : (session.tuned settings).Roomy)
    (prompt : settings.prompt = session.settings.prompt) :
    let turn := session.callAll machine calls
    let other := (session.tuned settings).callAll machine calls
    other.value = turn.value ∧
      outputOf other.events = outputOf turn.events ∧
      errorsOf other.events = errorsOf turn.events ∧
      startsOf other.events = startsOf turn.events ∧
      emissionsOf other.events = emissionsOf turn.events ∧
      ((logOf other.events).filter fun record => !record.isGrowth) =
        (logOf turn.events).filter (fun record => !record.isGrowth) ∧
      (other.events.filter fun event => !event.isGrowth) =
        turn.events.filter (fun event => !event.isGrowth) ∧
      other.session = turn.session.tuned settings ∧
      (∀ (allocator : Allocator) (step : Nat) (input : Input), 0 < step → allocator.Allows step →
        ∃ bytes halt rest, Line.Takes input bytes halt rest ∧
          Line.gather allocator (Buffer.empty step) input =
            ((Buffer.empty step).pushAll bytes, halt, rest) ∧
          ((Buffer.empty step).pushAll bytes).items.toList = bytes ∧
          input.bytes = bytes ++ halt.bytes ++ rest.bytes) ∧
      ∀ (allocator : Allocator) (step : Nat) (text : String), allocator.Allows (max step 1) →
        (Arguments.cut step text allocator).answer.map Arguments.words =
          .ok (Word.split text) := by
  intro turn other
  have same : turn.Matches (sameButSteps World settings) other :=
    (sameButSteps_sound settings).callAll ⟨roomy, otherRoomy, prompt, rfl⟩ machine calls
  have seen := same.events
  have outputs : outputOf other.events = outputOf turn.events :=
    flatMap_of_seen (growth_shows_nothing World settings Event.ownOutput fun _ => rfl) seen
  have errors : errorsOf other.events = errorsOf turn.events :=
    flatMap_of_seen (growth_shows_nothing World settings Event.ownErrors fun _ => rfl) seen
  have starts : startsOf other.events = startsOf turn.events :=
    filterMap_of_seen (growth_tells_nothing World settings Event.started? fun _ _ => rfl) seen
  have emissions : emissionsOf other.events = emissionsOf turn.events :=
    filterMap_of_seen (growth_tells_nothing World settings Event.emitted? fun _ _ => rfl) seen
  have logs : ((logOf other.events).filter fun record => !record.isGrowth) =
      (logOf turn.events).filter fun record => !record.isGrowth := by
    simp only [logOf, List.filter_filterMap]
    refine filterMap_of_seen (growth_tells_nothing World settings _ ?_) seen
    intro record growth
    simp [Event.record?, growth]
  have events : (other.events.filter fun event => !event.isGrowth) =
      turn.events.filter fun event => !event.isGrowth := by
    simpa only [sameButSteps, List.filterMap_eq_filter] using seen
  exact ⟨same.value, outputs, errors, starts, emissions, logs, events, same.session.2.2.2,
    fun _ _ input positive allows => Line.gather_keeps positive allows input,
    fun _ _ text allows => Arguments.cut_words allows text⟩

/-- Growth steps of zero, which grow both buffers one by one, in front of a child. -/
theorem callAll_growth_steps_zero :
    let session := Session.small [.block (Utf8.encode "say a bc\n")]
    let settings : Settings := { lineStep := 0, argumentStep := 0 }
    let turn := session.callAll Machine.small [.step, .execute ["say", "d"]]
    let other := (session.tuned settings).callAll Machine.small [.step, .execute ["say", "d"]]
    session.Roomy ∧ (session.tuned settings).Roomy ∧
      settings.prompt = session.settings.prompt ∧
      startsOf other.events = startsOf turn.events ∧
      startsOf turn.events =
        [(⟨[]⟩, ["say", "a", "bc"].map Utf8.encode), (⟨[]⟩, ["say", "d"].map Utf8.encode)] ∧
      other.session = turn.session.tuned settings ∧
      (logOf turn.events).length < (logOf other.events).length := by
  intro session settings turn other
  have roomy : session.Roomy := Memory.standard_allows (by decide) (by decide)
  have otherRoomy : (session.tuned settings).Roomy :=
    Memory.standard_allows (by decide) (by decide)
  obtain ⟨-, -, -, starts, -, -, -, left, -⟩ := callAll_growth_steps Machine.small session settings
    [.step, .execute ["say", "d"]] roomy otherRoomy rfl
  exact ⟨roomy, otherRoomy, rfl, starts, by decide +kernel, left, by decide +kernel⟩

end Session
end PromptShell
