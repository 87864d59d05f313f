import PromptShell.Proofs.Comparison
import PromptShell.Proofs.Invariant
import PromptShell.Proofs.Streams
namespace PromptShell

variable {World : Type}

/-- An event without the bytes that the error stream took. -/
def Event.unheard : Event → Event
  | reported message _ => reported message []
  | event => event

/-- Shells that differ by their error streams only. -/
def sameButErrors (World : Type) : Comparison World where
  alike one other := ∃ errors, other = { one with errors }
  seen event := some event.unheard

/-- Nothing that a shell does looks at the error stream. -/
theorem sameButErrors_sound : (sameButErrors World).Sound where
  agrees := by
    rintro one _ ⟨errors, rfl⟩
    exact ⟨rfl, rfl, rfl, rfl, fun _ => rfl⟩
  moved := by
    rintro one _ place ⟨errors, rfl⟩
    exact ⟨errors, rfl⟩
  written := by
    rintro one _ output ⟨errors, rfl⟩
    exact ⟨errors, rfl⟩
  report := by
    rintro one _ message ⟨errors, rfl⟩
    exact ⟨rfl, ⟨_, rfl⟩, rfl⟩
  arrived := by
    rintro one _ ⟨errors, rfl⟩
    exact ⟨rfl, ⟨errors, rfl⟩, rfl⟩
  cut := by
    rintro one _ text ⟨errors, rfl⟩
    exact ⟨rfl, ⟨errors, rfl⟩, rfl⟩

/-- Every turn offers some text to the output stream, and the bytes of its reports to the error
stream. -/
theorem writes_invariant :
    Turn.Invariant fun (session : Session World) turn => ∃ text, turn.Writes session text where
  andThen next := by
    rintro ⟨_, first⟩ ⟨_, second⟩
    exact ⟨_, first.andThen next second⟩
  map change := by
    rintro ⟨text, written⟩
    exact ⟨text, written.output, written.errors⟩
  ask session := ⟨_, session.ask_writes⟩
  printHelp session := ⟨_, session.printHelp_writes⟩
  flush session := ⟨_, session.flush_writes⟩
  report session message := ⟨_, session.report_writes message⟩
  apart session input memory place _ apart := by
    obtain ⟨output, errors, reports⟩ := apart_silent apart
    have noted := ({ session with input, memory }.moved place).note_writes output errors reports
    exact ⟨[], noted.output, noted.errors⟩

namespace Session

/-- The error stream of a session has no say in it. A session whose error stream takes a limited
number of bytes, and whose flushes fail or not, is the session with an unlimited error stream, event
for event, but for what the stream takes of the reports: it answers the same, shows the same, starts
the same children in the same directories with the same arguments and outputs, logs the same, and
leaves the same input. The unlimited stream takes every report whole, and the limited one takes the
first bytes of them. -/
theorem callAll_error_stream (machine : Machine World) (session : Session World)
    (calls : List Call) (limit : Nat) (wholeFlushes cutFlushes : Option Nat)
    (wholeFault cutFault : Fault) :
    let whole := ({ session with errors := ⟨none, wholeFlushes, wholeFault⟩ } :
      Session World).callAll machine calls
    let cut := ({ session with errors := ⟨some limit, cutFlushes, cutFault⟩ } :
      Session World).callAll machine calls
    cut.value = whole.value ∧
      outputOf cut.events = outputOf whole.events ∧
      startsOf cut.events = startsOf whole.events ∧
      emissionsOf cut.events = emissionsOf whole.events ∧
      logOf cut.events = logOf whole.events ∧
      cut.events.map Event.unheard = whole.events.map Event.unheard ∧
      cut.session.directory = whole.session.directory ∧
      cut.session.input = whole.session.input ∧
      (∃ errors, cut.session = { whole.session with errors }) ∧
      errorsOf whole.events = (reportsOf whole.events).flatMap reportBytes ∧
      errorsOf cut.events = (errorsOf whole.events).take limit := by
  intro whole cut
  have same : whole.Matches (sameButErrors World) cut :=
    sameButErrors_sound.callAll ⟨⟨some limit, cutFlushes, cutFault⟩, rfl⟩ machine calls
  have seen := same.events
  have outputs : outputOf cut.events = outputOf whole.events :=
    flatMap_of_seen (fun event => by cases event <;> rfl) seen
  have starts : startsOf cut.events = startsOf whole.events :=
    filterMap_of_seen (fun event => by cases event <;> rfl) seen
  have emissions : emissionsOf cut.events = emissionsOf whole.events :=
    filterMap_of_seen (fun event => by cases event <;> rfl) seen
  have logs : logOf cut.events = logOf whole.events :=
    filterMap_of_seen (fun event => by cases event <;> rfl) seen
  have reports : reportsOf cut.events = reportsOf whole.events :=
    filterMap_of_seen (fun event => by cases event <;> rfl) seen
  obtain ⟨_, wholeWrites⟩ := writes_invariant.callAll machine
    { session with errors := ⟨none, wholeFlushes, wholeFault⟩ } calls
  obtain ⟨_, cutWrites⟩ := writes_invariant.callAll machine
    { session with errors := ⟨some limit, cutFlushes, cutFault⟩ } calls
  have all : errorsOf whole.events = (reportsOf whole.events).flatMap reportBytes :=
    wholeWrites.errors.taken
  have some : errorsOf cut.events = ((reportsOf cut.events).flatMap reportBytes).take limit :=
    cutWrites.errors.taken
  have events : cut.events.map Event.unheard = whole.events.map Event.unheard := by
    simpa only [sameButErrors, List.filterMap_eq_map'] using seen
  obtain ⟨errors, left⟩ := same.session
  refine ⟨same.value, outputs, starts, emissions, logs, events, ?_, ?_, ⟨errors, left⟩, all, ?_⟩
  · rw [left]
  · rw [left]
  · rw [some, reports, all]

end Session
end PromptShell
