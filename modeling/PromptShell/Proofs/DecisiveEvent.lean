import Mathlib.Data.List.TakeWhile
import PromptShell.Proofs.Deliveries
import PromptShell.Proofs.Encoding
namespace PromptShell

/-- The events of one answer in full. -/
def Delivery.script : Delivery → List StreamEvent
  | .block [] => [.ended]
  | .block bytes => bytes.map .byte
  | .failed fault => [.failed fault]

/-- Everything that a stream answers up to its lasting end, event by event. -/
def Input.script (input : Input) : List StreamEvent := input.flatMap Delivery.script

/-- A newline, an end or a fault decides a reading; an interruption is no fault here. -/
def StreamEvent.decides : StreamEvent → Bool
  | .byte value => value == newline
  | .ended => true
  | .failed fault => !fault.isInterruption

namespace Input

/-- The bytes in front of the event that decides. -/
def held (input : Input) : Bytes :=
  (input.script.takeWhile fun event => !event.decides).filterMap StreamEvent.byte?

/-- The first event that decides; the lasting end does if there is none before it. -/
def decisive (input : Input) : StreamEvent := (input.script.find? StreamEvent.decides).getD .ended

/-- The events behind the one that decides. -/
def beyond (input : Input) : List StreamEvent :=
  (input.script.dropWhile fun event => !event.decides).tail

@[simp] theorem script_append (first second : Input) :
    Input.script (first ++ second) = Input.script first ++ Input.script second :=
  List.flatMap_append

@[simp] theorem script_cons (delivery : Delivery) (rest : Input) :
    Input.script (delivery :: rest) = delivery.script ++ Input.script rest := rfl

theorem script_block (bytes : Bytes) (solid : bytes ≠ []) :
    (Delivery.block bytes).script = bytes.map .byte := by
  cases bytes with
  | nil => exact absurd rfl solid
  | cons byte rest => rfl

@[simp] theorem script_behind (unread : Bytes) (rest : Input) :
    Input.script (Input.behind unread rest) = unread.map .byte ++ Input.script rest := by
  cases unread with
  | nil => rfl
  | cons byte more => rfl

/-- Bytes without a newline decide nothing. -/
theorem undecided_of_free {bytes : Bytes} (free : newline ∉ bytes) :
    ∀ event ∈ bytes.map StreamEvent.byte, event.decides = false := by
  intro event member
  obtain ⟨byte, inside, rfl⟩ := List.mem_map.mp member
  have different : byte ≠ newline := fun equal => free (equal ▸ inside)
  simpa [StreamEvent.decides] using different

/-- Open answers decide nothing, and their events hold their bytes. -/
theorem Open.undecided {front : Input} (opened : front.Open) :
    (∀ event ∈ front.script, event.decides = false) ∧
      front.script.filterMap StreamEvent.byte? = front.bytes := by
  induction front with
  | nil => exact ⟨by simp [Input.script], rfl⟩
  | cons delivery rest ih =>
      rw [open_cons] at opened
      obtain ⟨undecided, bytes⟩ := ih opened.2
      rw [script_cons, List.filterMap_append, bytes, bytes_cons, List.forall_mem_append]
      cases delivery with
      | block held =>
          obtain ⟨solid, free⟩ := (Delivery.isOpen_block held).mp opened.1
          rw [script_block held solid, StreamEvent.filterMap_byte?]
          exact ⟨⟨undecided_of_free free, undecided⟩, rfl⟩
      | failed fault =>
          have interrupted : fault.isInterruption = true := opened.1
          exact ⟨⟨by simp [Delivery.script, StreamEvent.decides, interrupted], undecided⟩, rfl⟩

/-- Behind events that decide nothing the next one that does is the first. -/
theorem first_of_script {input : Input} {front behind : List StreamEvent} {event : StreamEvent}
    (undecided : ∀ event ∈ front, event.decides = false) (decided : event.decides = true)
    (whole : input.script = front ++ event :: behind) :
    input.held = front.filterMap StreamEvent.byte? ∧ input.decisive = event ∧
      input.beyond = behind := by
  have pass : ∀ event ∈ front, (!event.decides) = true := by
    intro event member
    rw [undecided event member]
    rfl
  have none : front.find? StreamEvent.decides = none := by
    rw [List.find?_eq_none]
    intro event member
    rw [undecided event member]
    decide
  refine ⟨?_, ?_, ?_⟩
  · rw [held, whole, List.takeWhile_append_of_pos pass, List.takeWhile_cons, decided,
      if_neg (by decide), List.append_nil]
  · rw [decisive, whole, List.find?_append, none, List.find?_cons_of_pos decided]
    rfl
  · rw [beyond, whole, List.dropWhile_append_of_pos pass, List.dropWhile_cons, decided,
      if_neg (by decide), List.tail_cons]

/-- Where no event decides, the lasting end does. -/
theorem first_of_undecided {input : Input}
    (undecided : ∀ event ∈ input.script, event.decides = false) :
    input.held = input.script.filterMap StreamEvent.byte? ∧ input.decisive = .ended ∧
      input.beyond = [] := by
  have pass : ∀ event ∈ input.script, (!event.decides) = true := by
    intro event member
    rw [undecided event member]
    rfl
  refine ⟨?_, ?_, ?_⟩
  · rw [held, List.takeWhile_eq_self_iff.mpr pass]
  · have none : input.script.find? StreamEvent.decides = none := by
      rw [List.find?_eq_none]
      intro event member
      rw [undecided event member]
      decide
    rw [decisive, none]
    rfl
  · rw [beyond, List.dropWhile_eq_nil_iff.mpr pass, List.tail_nil]

end Input

namespace Line

/-- The event that an end of a line is made of. The want of room is none. -/
def Halt.event? : Halt → Option StreamEvent
  | .newline => some (.byte PromptShell.newline)
  | .ended => some .ended
  | .failed fault => some (.failed fault)
  | .cramped => none

/-- A reading that has room is ended by an event. -/
theorem Halt.exists_event {halt : Halt} (roomy : halt ≠ .cramped) :
    ∃ event, halt.event? = some event := by
  cases halt with
  | cramped => exact absurd rfl roomy
  | _ => exact ⟨_, rfl⟩

/-- What is taken is told by the first event that decides, and what is left is behind it. -/
theorem Takes.script {input rest : Input} {bytes : Bytes} {halt : Halt}
    (taken : Takes input bytes halt rest) {event : StreamEvent} (ends : halt.event? = some event) :
    input.held = bytes ∧ input.decisive = event ∧ rest.script = input.beyond := by
  cases taken with
  | cramped => cases ends
  | newline front held unread behind opened free =>
      obtain rfl := Option.some.inj ends
      obtain ⟨undecided, bytes⟩ := opened.undecided
      have whole :
          Input.script (front ++ .block (held ++ PromptShell.newline :: unread) :: behind) =
            (front.script ++ held.map .byte) ++
              .byte PromptShell.newline :: Input.script (Input.behind unread behind) := by
        rw [Input.script_append, Input.script_cons, Input.script_block _ (by simp),
          Input.script_behind, List.map_append, List.map_cons]
        simp only [List.append_assoc, List.cons_append]
      obtain ⟨first, decisive, beyond⟩ := Input.first_of_script
        (List.forall_mem_append.mpr ⟨undecided, Input.undecided_of_free free⟩) rfl whole
      rw [List.filterMap_append, bytes, StreamEvent.filterMap_byte?] at first
      exact ⟨first, decisive, beyond.symm⟩
  | ended front behind opened =>
      obtain rfl := Option.some.inj ends
      obtain ⟨undecided, bytes⟩ := opened.undecided
      have whole : Input.script (front ++ .block [] :: rest) =
          front.script ++ .ended :: rest.script := Input.script_append _ _
      obtain ⟨first, decisive, beyond⟩ := Input.first_of_script undecided rfl whole
      exact ⟨first.trans bytes, decisive, beyond.symm⟩
  | exhausted front opened =>
      obtain rfl := Option.some.inj ends
      obtain ⟨undecided, bytes⟩ := opened.undecided
      obtain ⟨first, decisive, beyond⟩ := Input.first_of_undecided undecided
      exact ⟨first.trans bytes, decisive, beyond.symm⟩
  | failed front fault behind opened answered =>
      obtain rfl := Option.some.inj ends
      obtain ⟨undecided, bytes⟩ := opened.undecided
      have whole : Input.script (front ++ .failed fault :: rest) =
          front.script ++ .failed fault :: rest.script := Input.script_append _ _
      have decided : (StreamEvent.failed fault).decides = true := by
        simp [StreamEvent.decides, answered]
      obtain ⟨first, decisive, beyond⟩ := Input.first_of_script undecided decided whole
      exact ⟨first.trans bytes, decisive, beyond.symm⟩

/-- The text of a line has the bytes of the line if these are valid UTF-8. -/
theorem encode_ofBytes (step : Nat) {bytes : Bytes} (valid : bytes.toByteArray.IsValidUTF8) :
    Utf8.encode (ofBytes step bytes).text = bytes := by
  obtain ⟨text, rfl⟩ := (Utf8.isValidUTF8_iff bytes).mp valid
  rw [ofBytes_text, Utf8.decode_encode]

/-- A reading with room for its buffer is decided by the first event that is a newline,
an end or a fault: it gives the bytes in front of a newline as a line, and those in front of the end
unless there are none; a fault is its answer. The stream is left behind that event, and of the
events behind it none is gone. The text of a line is the decoding of its bytes, and has these bytes
if they are valid UTF-8. A reading whose buffer cannot be allocated takes nothing at all. -/
theorem read_first_decisive (step : Nat) (input : Input) (allocator : Allocator) :
    (allocator.Allows (max step 1) →
        (read step input allocator).answer =
            (match input.decisive with
            | .byte _ => .ok (some (ofBytes step input.held))
            | .ended => .ok (if input.held = [] then none else some (ofBytes step input.held))
            | .failed fault => .error (.stream fault)) ∧
          (read step input allocator).rest.script = input.beyond ∧
          (ofBytes step input.held).text = Utf8.decode input.held ∧
          (input.held.toByteArray.IsValidUTF8 →
            Utf8.encode (ofBytes step input.held).text = input.held)) ∧
      (¬ allocator 0 (max step 1) = true →
        (read step input allocator).answer = .error .allocation ∧
          (read step input allocator).rest = input) := by
  refine ⟨?_, ?_⟩
  · intro allows
    obtain ⟨bytes, halt, rest, taken, roomy⟩ := exists_takes_roomy input
    obtain ⟨answered, left⟩ := read_of_takes_roomy allows taken roomy
    obtain ⟨event, ends⟩ := halt.exists_event roomy
    obtain ⟨rfl, decisive, beyond⟩ := taken.script ends
    refine ⟨?_, by rw [left, beyond], ofBytes_text step _, encode_ofBytes step⟩
    rw [answered, decisive]
    cases halt with
    | cramped => exact absurd rfl roomy
    | newline =>
        obtain rfl := Option.some.inj ends
        rfl
    | ended =>
        obtain rfl := Option.some.inj ends
        exact answer_ended step _
    | failed fault =>
        obtain rfl := Option.some.inj ends
        rfl
  · intro refused
    rw [read_refused refused]
    exact ⟨rfl, rfl⟩

/-- A character that an interruption cuts in two, and what a newline leaves behind. -/
theorem read_first_decisive_interrupted :
    let input : Input :=
      [.block [0xC3], .failed (.system 4), .block [0xA9, 0x0A, 0x78], .failed (.named .interrupted),
        .block []]
    Allocator.standard.Allows (max 1024 1) ∧
      (read 1024 input).answer = .ok (some (ofBytes 1024 [0xC3, 0xA9])) ∧
      Utf8.encode (ofBytes 1024 [0xC3, 0xA9]).text = [0xC3, 0xA9] ∧
      (read 1024 input).rest.script =
        [.byte 0x78, .failed (.named .interrupted), .ended] ∧
      (read allocationLimit input).answer = .error .allocation ∧
      (read allocationLimit input).rest = input := by
  intro input
  have allows : Allocator.standard.Allows (max 1024 1) := Allocator.standard_allows (by decide)
  have refused : ¬ Allocator.standard 0 (max allocationLimit 1) = true := by decide
  have valid : ([0xC3, 0xA9] : Bytes).toByteArray.IsValidUTF8 := by
    rw [Utf8.isValidUTF8_iff]
    exact ⟨"é", by decide⟩
  obtain ⟨answered, left, -, text⟩ := (read_first_decisive 1024 input .standard).1 allows
  exact ⟨allows, answered, text valid, left,
    (read_first_decisive allocationLimit input .standard).2 refused⟩

end Line
end PromptShell
