import PromptShell.Proofs.Comparison
import PromptShell.Proofs.Taking
namespace PromptShell

variable {World : Type}

/-- The byte of an event that is one. -/
def StreamEvent.byte? : StreamEvent → Option UInt8
  | .byte value => some value
  | _ => none

/-- The bytes of the events that some bytes are made of. -/
theorem StreamEvent.filterMap_byte? (bytes : Bytes) :
    (bytes.map byte).filterMap byte? = bytes := by
  rw [List.filterMap_map]
  change bytes.filterMap some = bytes
  exact List.filterMap_some

@[simp] theorem Input.events_append (first second : Input) :
    Input.events (first ++ second) = Input.events first ++ Input.events second := by
  simp [Input.events]

/-- The bytes of an answer are those of its events. -/
theorem Delivery.bytes_eq_events (delivery : Delivery) :
    delivery.bytes = delivery.events.filterMap StreamEvent.byte? := by
  cases delivery with
  | block bytes =>
      cases bytes with
      | nil => rfl
      | cons byte rest =>
          rw [events_block _ (List.cons_ne_nil byte rest), StreamEvent.filterMap_byte?, bytes]
  | failed fault =>
      cases answer : fault.isInterruption <;> simp [bytes, events, answer, StreamEvent.byte?]

/-- The bytes of a stream are those of its events. -/
theorem Input.bytes_eq_events (input : Input) :
    input.bytes = input.events.filterMap StreamEvent.byte? := by
  induction input with
  | nil => rfl
  | cons delivery rest ih =>
      rw [Input.bytes_cons, Input.events_cons, List.filterMap_append, ih,
        Delivery.bytes_eq_events]

theorem Input.bytes_congr {input other : Input} (same : other.events = input.events) :
    other.bytes = input.bytes := by
  rw [Input.bytes_eq_events, Input.bytes_eq_events, same]

/-- A stream that gives some bytes and nothing else holds these bytes. -/
theorem Input.bytes_of_events {input : Input} {bytes : Bytes}
    (delivered : input.events = bytes.map .byte) : input.bytes = bytes := by
  rw [Input.bytes_eq_events, delivered, StreamEvent.filterMap_byte?]

/-- Interruptions are no events. -/
theorem Input.events_interrupted {faults : List Fault}
    (interrupted : ∀ fault ∈ faults, fault.isInterruption = true) :
    Input.events (faults.map .failed) = [] := by
  simp only [Input.events, List.flatMap_eq_nil_iff, List.mem_map]
  rintro _ ⟨fault, member, rfl⟩
  simp [Delivery.events, interrupted fault member]

namespace Line

/-- Streams with the same events give the same reading, and are left with the same events, whatever
room there is. -/
theorem read_congr (step : Nat) (allocator : Allocator) {input other : Input}
    (same : other.events = input.events) :
    (read step other allocator).answer = (read step input allocator).answer ∧
      (read step other allocator).growths = (read step input allocator).growths ∧
      Input.events (read step other allocator).rest =
        Input.events (read step input allocator).rest := by
  unfold read
  cases Buffer.allocate? allocator (max step 1) with
  | none => exact ⟨rfl, rfl, same⟩
  | some buffer =>
      have told := gatherEvents_events allocator buffer input
      rw [← same, gatherEvents_events] at told
      obtain ⟨filled, halt, behind⟩ := Prod.mk.inj told |>.imp_right Prod.mk.inj
      simp only [filled, halt, behind, and_self]

/-- The answers of readings that follow each other, each with a growth step and an allocator of its
own and with the capacities that its buffer grew to, and the stream behind them. -/
def readEach : List (Nat × Allocator) → Input →
    List (Except Failure (Option Line) × List Nat) × Input
  | [], input => ([], input)
  | (step, allocator) :: steps, input =>
      let reading := read step input allocator
      let following := readEach steps reading.rest
      ((reading.answer, reading.growths) :: following.1, following.2)

/-- Streams with the same events give the same readings, one after the other. -/
theorem readEach_congr (steps : List (Nat × Allocator)) {input other : Input}
    (same : other.events = input.events) :
    (readEach steps other).1 = (readEach steps input).1 ∧
      Input.events (readEach steps other).2 = Input.events (readEach steps input).2 := by
  induction steps generalizing input other with
  | nil => exact ⟨rfl, same⟩
  | cons step steps ih =>
      obtain ⟨answer, growths, rest⟩ := read_congr step.1 step.2 same
      obtain ⟨answers, left⟩ := ih rest
      simp only [readEach, answer, growths, answers]
      exact ⟨trivial, left⟩

end Line

/-- The same arrives for a shell with another delivery of its input, and is followed by the same. -/
theorem Session.arrival_fed {session : Session World} {other : Input}
    (same : other.events = session.input.events) :
    (session.fed other).arrival = session.arrival ∧
      (session.fed other).arrivalEvents = session.arrivalEvents ∧
      (session.fed other).behindArrival.input.events = session.behindArrival.input.events ∧
      (session.fed other).behindArrival =
        session.behindArrival.fed (session.fed other).behindArrival.input := by
  obtain ⟨answer, growths, rest⟩ :=
    Line.read_congr session.settings.lineGrowth (session.memory.lines 0) same
  have answered : (session.fed other).reading.answer = session.reading.answer := answer
  have grown : (session.fed other).reading.growths = session.reading.growths := growths
  have text : (session.fed other).text? = session.text? := by
    rw [text?, text?, answered]
  refine ⟨?_, ?_, rest, ?_⟩
  · simp only [arrival, answered]
    rfl
  · simp only [arrivalEvents, readingEvents, grown, text]
    rfl
  · simp only [behindArrival, memoryBehind, text]
    rfl

/-- Shells that differ only by the delivery of the same input. -/
def sameButDelivery (World : Type) : Comparison World where
  alike one other := ∃ input : Input, input.events = one.input.events ∧ other = one.fed input
  seen := some

/-- Nothing that a shell does looks at the delivery of its input. -/
theorem sameButDelivery_sound : (sameButDelivery World).Sound where
  agrees := by
    rintro one _ ⟨input, same, rfl⟩
    exact ⟨rfl, rfl, rfl, (Session.arrival_fed same).1, fun _ => rfl⟩
  moved := by
    rintro one _ place ⟨input, same, rfl⟩
    exact ⟨input, same, rfl⟩
  written := by
    rintro one _ output ⟨input, same, rfl⟩
    exact ⟨input, same, rfl⟩
  report := by
    rintro one _ message ⟨input, same, rfl⟩
    exact ⟨rfl, ⟨input, same, rfl⟩, rfl⟩
  arrived := by
    rintro one _ ⟨input, same, rfl⟩
    obtain ⟨-, events, left, behind⟩ := Session.arrival_fed same
    exact ⟨rfl, ⟨_, left, behind⟩, congrArg (List.filterMap some) events⟩
  cut := by
    rintro one _ text ⟨input, same, rfl⟩
    exact ⟨rfl, ⟨input, same, rfl⟩, rfl⟩

namespace Session

/-- A shell does the same with another input: each sequence of readings gives the same, and so does
each sequence of calls, event for event; the bytes that are left unread are the same as well. -/
structure ServesAlike (machine : Machine World) (session : Session World) (other : Input) :
    Prop where
  readings (steps : List (Nat × Allocator)) :
    (Line.readEach steps other).1 = (Line.readEach steps session.input).1
  unread (steps : List (Nat × Allocator)) :
    Input.bytes (Line.readEach steps other).2 = Input.bytes (Line.readEach steps session.input).2
  answers (calls : List Call) :
    ((session.fed other).callAll machine calls).value = (session.callAll machine calls).value
  events (calls : List Call) :
    ((session.fed other).callAll machine calls).events = (session.callAll machine calls).events
  left (calls : List Call) :
    Input.bytes ((session.fed other).callAll machine calls).session.input =
      Input.bytes (session.callAll machine calls).session.input
  state (calls : List Call) :
    ((session.fed other).callAll machine calls).session =
      (session.callAll machine calls).session.fed
        ((session.fed other).callAll machine calls).session.input

/-- An input with the same events serves alike. -/
theorem ServesAlike.of_events (machine : Machine World) {session : Session World} {other : Input}
    (same : other.events = session.input.events) : session.ServesAlike machine other := by
  have called (calls : List Call) : (session.callAll machine calls).Matches
      (sameButDelivery World) ((session.fed other).callAll machine calls) :=
    sameButDelivery_sound.callAll ⟨other, same, rfl⟩ machine calls
  refine ⟨?_, ?_, ?_, ?_, ?_, ?_⟩
  · exact fun steps => (Line.readEach_congr steps same).1
  · exact fun steps => Input.bytes_congr (Line.readEach_congr steps same).2
  · exact fun calls => (called calls).value
  · intro calls
    simpa only [sameButDelivery, List.filterMap_some] using (called calls).events
  · intro calls
    obtain ⟨input, left, behind⟩ := (called calls).session
    rw [behind]
    exact Input.bytes_congr left
  · intro calls
    obtain ⟨input, -, behind⟩ := (called calls).session
    rw [behind]
    rfl

/-- The delivery of the input does not matter. Two inputs with the same events, that is the same
bytes, ends and failures in the same order, serve a shell alike. So any number of interruptions may
come between two answers, or between two bytes of a block, and nothing changes. -/
theorem serves_alike (machine : Machine World) (session : Session World) :
    (∀ other : Input, other.events = session.input.events → session.ServesAlike machine other) ∧
      (∀ (front behind : Input) (faults : List Fault), session.input = front ++ behind →
        (∀ fault ∈ faults, fault.isInterruption = true) →
        session.ServesAlike machine (front ++ faults.map .failed ++ behind)) ∧
      (∀ (front behind : Input) (early late : Bytes) (faults : List Fault),
        session.input = front ++ .block (early ++ late) :: behind → early ≠ [] → late ≠ [] →
        (∀ fault ∈ faults, fault.isInterruption = true) →
        session.ServesAlike machine
          (front ++ .block early :: (faults.map .failed ++ .block late :: behind))) := by
  refine ⟨?_, ?_, ?_⟩
  · intro other same
    exact .of_events machine same
  · intro front behind faults whole interrupted
    apply ServesAlike.of_events
    rw [whole]
    simp only [Input.events_append, Input.events_interrupted interrupted, List.append_nil]
  · intro front behind early late faults whole solidEarly solidLate interrupted
    apply ServesAlike.of_events
    have solid : early ++ late ≠ [] := by simp [solidEarly]
    rw [whole]
    simp only [Input.events_append, Input.events_cons, Input.events_interrupted interrupted,
      Delivery.events_block _ solidEarly, Delivery.events_block _ solidLate,
      Delivery.events_block _ solid, List.map_append, List.nil_append, List.append_assoc]

/-- Interruptions within a character of two bytes and in front of the newline. -/
theorem serves_alike_interrupted :
    let session := Session.small [.block (Utf8.encode "say é\n")]
    let faults : List Fault := [.named .interrupted, .system 4]
    let other : Input := [.block (Utf8.encode "say "), .block [0xC3], .failed (.system 4),
      .block [0xA9], .failed (.named .interrupted), .block [newline]]
    other.events = session.input.events ∧ session.ServesAlike Machine.small other ∧
      (∀ fault ∈ faults, fault.isInterruption = true) ∧
      session.ServesAlike Machine.small (faults.map .failed ++ session.input) ∧
      session.input = [.block (Utf8.encode "say " ++ [0xC3] ++ [0xA9, newline])] ∧
      session.ServesAlike Machine.small
        (.block (Utf8.encode "say " ++ [0xC3]) ::
          (faults.map .failed ++ [.block [0xA9, newline]])) ∧
      dispatchesOf ((session.fed other).callAll Machine.small [.step]).events =
        [["say", "é"]] := by
  intro session faults other
  have interrupted : ∀ fault ∈ faults, fault.isInterruption = true := by decide
  obtain ⟨same, between, inside⟩ := serves_alike Machine.small session
  have delivered : other.events = session.input.events := by decide
  have cut : session.input = [.block (Utf8.encode "say " ++ [0xC3] ++ [0xA9, newline])] := by
    decide
  exact ⟨delivered, same other delivered, interrupted,
    between [] session.input faults rfl interrupted, cut,
    inside [] [] _ _ faults cut (by decide) (by decide) interrupted, by decide +kernel⟩

end Session
end PromptShell
