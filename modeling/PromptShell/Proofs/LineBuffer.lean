import PromptShell.Proofs.DecisiveEvent
import PromptShell.Proofs.FixedBuffer
namespace PromptShell

namespace Utf8

/-- A character that still owes bytes has taken some, and at worst a replacement is put in their
place. -/
def State.owes : State → Nat
  | .between => 0
  | .inside .. => 3

@[simp] theorem State.owes_between : State.between.owes = 0 := rfl

@[simp] theorem State.owes_inside (value owed low high : Nat) :
    (State.inside value owed low high).owes = 3 := rfl

theorem charSize_le (character : Char) : charSize character ≤ 4 := by
  simp only [charSize]
  repeat' split
  all_goals decide

theorem charSize_replacement : charSize replacement = 3 := rfl

/-- What one byte shows between characters, and what it owes, takes three bytes at most. -/
theorem start_size (byte : UInt8) :
    (encodeChars (start byte).1).length + (start byte).2.owes ≤ 3 := by
  by_cases ascii : byte.toNat < 0x80
  · have single : charSize (Char.ofNat byte.toNat) = 1 := by
      rw [charSize, toNat_ofNat_byte]
      exact if_pos ascii
    simp [start, ascii, encodeChar_length, single]
  · simp only [start, ascii, if_false]
    repeat' split
    all_goals simp [encodeChar_length, charSize_replacement]

/-- One byte adds three at most to what is shown and owed. -/
theorem step_size (state : State) (byte : UInt8) :
    (encodeChars (step state byte).1).length + (step state byte).2.owes ≤ state.owes + 3 := by
  have begun := start_size byte
  cases state with
  | between => exact begun
  | inside value owed low high =>
      rw [State.owes_inside]
      simp only [step]
      by_cases inside : 0x80 + low ≤ byte.toNat ∧ byte.toNat ≤ 0x80 + high
      · rw [if_pos inside]
        cases owed with
        | zero =>
            have size := charSize_le (Char.ofNat (value * 0x40 + (byte.toNat - 0x80)))
            simp only [encodeChars_cons, encodeChars_nil, List.append_nil, encodeChar_length,
              State.owes_between]
            omega
        | succ left => simp
      · rw [if_neg inside]
        simp only [encodeChars_cons, List.length_append, encodeChar_length, charSize_replacement]
        omega

theorem decodeFrom_size (state : State) (bytes : Bytes) :
    (encodeChars (decodeFrom state bytes)).length ≤ state.owes + 3 * bytes.length := by
  induction bytes generalizing state with
  | nil =>
      cases state with
      | between => exact Nat.zero_le _
      | inside value owed low high => exact Nat.le_refl 3
  | cons byte rest ih =>
      have here := step_size state byte
      have later := ih (step state byte).2
      rw [decodeFrom_cons, encodeChars_append, List.length_append, List.length_cons]
      omega

theorem size_decode (bytes : Bytes) :
    size (decode bytes) = (encodeChars (decodeFrom .between bytes)).length := by
  rw [← encode_length, encode, decode_toList, decodeChars_eq]

/-- A text has three bytes at most for each byte that it is decoded from. -/
theorem size_decode_le (bytes : Bytes) : size (decode bytes) ≤ 3 * bytes.length := by
  have bound := decodeFrom_size .between bytes
  rw [State.owes_between, Nat.zero_add] at bound
  rwa [size_decode]

/-- Stray bytes are shown by three bytes each. -/
theorem size_decode_stray (count : Nat) :
    size (decode (List.replicate count 0xFF)) = 3 * count := by
  rw [size_decode]
  induction count with
  | zero => rfl
  | succ count ih =>
      have stray : step .between 0xFF = ([replacement], .between) := by decide
      rw [List.replicate_succ, decodeFrom_cons, stray, List.singleton_append, encodeChars_cons,
        List.length_append, encodeChar_length, charSize_replacement, ih]
      omega

end Utf8

namespace Line

/-- The next byte of a line, or what ends the line, and the stream behind it. A read that was
interrupted is tried again. -/
def next : Input → Except Halt UInt8 × Input
  | [] => (.error .ended, [])
  | .block [] :: rest => (.error .ended, rest)
  | .block (byte :: unread) :: rest =>
      (if byte = PromptShell.newline then .error .newline else .ok byte, Input.behind unread rest)
  | .failed fault :: rest =>
      if fault.isInterruption then next rest else (.error (.failed fault), rest)

/-- A reading stores the next byte and goes on, until something ends the line or there is no room to
grow. -/
theorem gather_eq (allocator : Allocator) (buffer : Buffer UInt8) (input : Input) :
    gather allocator buffer input =
      match next input with
      | (.error halt, rest) => (buffer, halt, rest)
      | (.ok byte, rest) =>
          match buffer.store allocator byte with
          | .ok filled => gather allocator filled rest
          | .error full => (full, .cramped, rest) := by
  induction input with
  | nil => rfl
  | cons delivery rest ih =>
      cases delivery with
      | failed fault =>
          simp only [gather, next]
          split
          · exact ih
          · rfl
      | block bytes =>
          cases bytes with
          | nil => rfl
          | cons byte unread =>
              rw [gather.eq_3 _ _ _ _ (List.cons_ne_nil byte unread), scan, next]
              by_cases ends : byte = PromptShell.newline
              · simp only [ends, if_true]
              · simp only [ends, if_false]
                cases buffer.store allocator byte with
                | error full => rfl
                | ok filled =>
                    cases unread with
                    | nil => rfl
                    | cons later more =>
                        change _ = gather allocator filled (.block (later :: more) :: rest)
                        rw [gather.eq_3 _ _ _ _ (List.cons_ne_nil later more)]

/-- The next byte is the first one that the stream holds. -/
theorem bytes_of_next {left rest : Input} {byte : UInt8} (found : next left = (.ok byte, rest)) :
    left.bytes = byte :: rest.bytes := by
  induction left with
  | nil => cases found
  | cons delivery more ih =>
      cases delivery with
      | failed fault =>
          simp only [next] at found
          split at found
          · exact ih found
          · cases found
      | block bytes =>
          cases bytes with
          | nil => cases found
          | cons first unread =>
              simp only [next] at found
              split at found
              · cases found
              · cases found
                rw [Input.bytes_behind]
                rfl

/-- An event that decides nothing leaves the line to those behind it. -/
theorem held_of_undecided (event : StreamEvent) {input : Input} (rest : Input)
    (undecided : event.decides = false) (whole : input.script = event :: rest.script) :
    input.held = event.byte?.toList ++ rest.held := by
  have passed : (!event.decides) = true := by simp [undecided]
  rw [Input.held, Input.held, whole, List.takeWhile_cons, if_pos passed, List.filterMap_cons]
  cases event <;> rfl

/-- In front of an event that decides the line has no byte left. -/
theorem held_of_decided (event : StreamEvent) {input : Input} {behind : List StreamEvent}
    (decided : event.decides = true) (whole : input.script = event :: behind) :
    input.held = [] := by
  have stopped : ¬ (!event.decides) = true := by simp [decided]
  rw [Input.held, whole, List.takeWhile_cons, if_neg stopped]
  rfl

/-- The next byte is the first one of the line that is left. -/
theorem held_of_next_ok {left rest : Input} {byte : UInt8} (found : next left = (.ok byte, rest)) :
    left.held = byte :: rest.held := by
  induction left with
  | nil => cases found
  | cons delivery more ih =>
      cases delivery with
      | failed fault =>
          simp only [next] at found
          split at found
          · rename_i interrupted
            rw [held_of_undecided (.failed fault) more
              (by simp [StreamEvent.decides, interrupted]) rfl]
            exact ih found
          · cases found
      | block bytes =>
          cases bytes with
          | nil => cases found
          | cons first unread =>
              simp only [next] at found
              split at found
              · cases found
              · rename_i different
                cases found
                refine held_of_undecided (.byte byte) _ ?_ ?_
                · simpa [StreamEvent.decides] using different
                · rw [Input.script_behind]
                  rfl

/-- Where something ends the line no byte of it is left. -/
theorem held_of_next_error {left rest : Input} {halt : Halt}
    (found : next left = (.error halt, rest)) : left.held = [] := by
  induction left with
  | nil => rfl
  | cons delivery more ih =>
      cases delivery with
      | failed fault =>
          simp only [next] at found
          split at found
          · rename_i interrupted
            rw [held_of_undecided (.failed fault) more
              (by simp [StreamEvent.decides, interrupted]) rfl]
            exact ih found
          · rename_i answered
            exact held_of_decided (.failed fault)
              (by simpa [StreamEvent.decides] using answered) rfl
      | block bytes =>
          cases bytes with
          | nil => exact held_of_decided .ended rfl rfl
          | cons first unread =>
              simp only [next] at found
              split at found
              · rename_i same
                subst same
                exact held_of_decided (.byte PromptShell.newline) rfl rfl
              · cases found

/-- The states in which the loop of a reading turns: its buffer and the stream that is left. It
starts with an empty buffer, and turns again behind each byte that it stores. -/
inductive Turns (step : Nat) (input : Input) : Buffer UInt8 → Input → Prop
  | start : Turns step input (Buffer.empty (max step 1)) input
  | stored {buffer : Buffer UInt8} {left rest : Input} {byte : UInt8}
      (before : Turns step input buffer left) (found : next left = (.ok byte, rest)) :
      Turns step input (buffer.push byte) rest

variable {allocator : Allocator} {step : Nat} {input left : Input} {buffer : Buffer UInt8}

/-- At each turn the buffer is filled with the bytes that it holds. -/
theorem Turns.filled (turns : Turns step input buffer left) :
    buffer = (Buffer.empty (max step 1)).pushAll buffer.items.toList := by
  induction turns with
  | start => rfl
  | stored before found filled =>
      rw [Buffer.push_items, Array.toList_push, Buffer.pushAll_append, ← filled]
      rfl

/-- At each turn the buffer is regular. -/
theorem Turns.regular (turns : Turns step input buffer left) :
    buffer.Regular (max step 1) buffer.items.toList := by
  have regular := Buffer.regular_pushAll (by omega : 0 < max step 1) buffer.items.toList
  rwa [← turns.filled] at regular

/-- At each turn the bytes of the line are stored or still to come. -/
theorem Turns.held (turns : Turns step input buffer left) :
    input.held = buffer.items.toList ++ left.held := by
  induction turns with
  | start => rfl
  | stored before found held =>
      rw [held, held_of_next_ok found, Buffer.push_items, Array.toList_push, List.append_assoc]
      rfl

/-- Where there is room for the line, what is gathered from a turn on is what the whole reading
gathers. -/
theorem Turns.gather (turns : Turns step input buffer left)
    (gives : allocator.Gives (max step 1) 0 input.held.length) :
    Line.gather allocator buffer left =
      Line.gather allocator (Buffer.empty (max step 1)) input := by
  induction turns with
  | start => rfl
  | @stored buffer left rest byte before found same =>
      have held := congrArg List.length before.held
      rw [held_of_next_ok found, List.length_append, List.length_cons] at held
      have stored : buffer.store allocator byte = .ok (buffer.push byte) := by
        rw [before.regular.store (by omega), if_pos]
        exact gives _ (Nat.succ_pos _) (by omega)
      rw [← same, gather_eq allocator buffer left, found]
      simp only [stored]

/-- At each turn the buffer has the size that the number of its bytes tells, and never wraps. -/
theorem Turns.sized (turns : Turns step input buffer left) (small : step < UInt64.size) :
    Buffer.Sized (max step 1) buffer.items.size buffer.capacity buffer.growths.toList ∧
      buffer.NeverWraps 1 (max step 1) := by
  obtain ⟨-, sized, wraps⟩ := Buffer.pushAll_sized Nat.one_pos small buffer.items.toList
  rw [← turns.filled] at sized wraps
  exact ⟨by rwa [← Array.length_toList], wraps⟩

/-- The loop comes to a turn at which something ends the line. -/
theorem Turns.ends (turns : Turns step input buffer left) :
    ∃ last stand halt rest, Turns step input last stand ∧ next stand = (.error halt, rest) := by
  induction length : left.bytes.length using Nat.strongRecOn generalizing buffer left with
  | ind size ih =>
      subst length
      cases found : next left with
      | mk event rest =>
          cases event with
          | error halt => exact ⟨buffer, left, halt, rest, turns, found⟩
          | ok byte =>
              -- One byte less is left on the stream.
              refine ih rest.bytes.length ?_ (turns.stored found) rfl
              rw [bytes_of_next found, List.length_cons]
              exact Nat.lt_succ_self _

/-- Where there is room for the line a reading answers by the last turn of its loop. -/
theorem exists_last_turn (given : allocator 0 (max step 1) = true)
    (gives : allocator.Gives (max step 1) 0 input.held.length) :
    ∃ buffer left halt, Turns step input buffer left ∧
      next left = (.error halt, (read step input allocator).rest) ∧
      buffer.items.toList = input.held ∧
      (read step input allocator).answer = settle buffer halt ∧
      (read step input allocator).growths = buffer.growths.toList := by
  have first : Turns step input (Buffer.empty (max step 1)) input := .start
  obtain ⟨buffer, left, halt, rest, turns, found⟩ := first.ends
  have gathered : gather allocator (Buffer.empty (max step 1)) input = (buffer, halt, rest) := by
    rw [← turns.gather gives, gather_eq allocator buffer left, found]
  refine ⟨buffer, left, halt, turns, ?_, ?_, ?_, ?_⟩
  · simp only [read_eq given, gathered, found]
  · rw [turns.held, held_of_next_error found, List.append_nil]
  · simp only [read_eq given, gathered]
  · simp only [read_eq given, gathered]

/-- The line of some bytes has their text, and the capacity that their number tells. -/
theorem ofBytes_eq (step : Nat) (bytes : Bytes) :
    ofBytes step bytes = ⟨Utf8.decode bytes, Buffer.capacityFor (max step 1) bytes.length⟩ := by
  have positive : 0 < max step 1 := by omega
  have regular := Buffer.regular_pushAll positive bytes
  rw [ofBytes, ofBuffer, regular.holds, regular.capacity]

/-- A buffer gives the line that it holds, or none. -/
theorem eq_ofBuffer_of_settle {halt : Halt} {line : Line}
    (settled : settle buffer halt = .ok (some line)) : line = ofBuffer buffer := by
  cases halt with
  | newline =>
      cases settled
      rfl
  | failed fault => cases settled
  | cramped => cases settled
  | ended =>
      simp only [settle] at settled
      split at settled
      · cases settled
      · cases settled
        rfl

/-- The text of a line may be larger than its buffer: stray bytes of one step take two steps of the
buffer, and three of the text. -/
theorem exists_larger_text (allows : allocator.Allows (max step 1)) :
    ∃ (input : Input) (line : Line), (read step input allocator).answer = .ok (some line) ∧
      line.capacity < Utf8.size line.text := by
  have positive : 0 < max step 1 := by omega
  let stray : Bytes := List.replicate (max step 1) 0xFF
  have solid : stray ≠ [] := by
    rw [ne_eq, List.replicate_eq_nil_iff]
    omega
  have free : PromptShell.newline ∉ stray := by
    intro member
    exact absurd (List.eq_of_mem_replicate member) (by decide)
  have opened : Input.Open [.block stray] := by
    rw [Input.open_cons]
    exact ⟨(Delivery.isOpen_block stray).mpr ⟨solid, free⟩, Input.open_nil⟩
  have held : Input.bytes [.block stray] = stray := List.append_nil stray
  have answer := (read_of_takes_roomy allows (.exhausted [.block stray] opened) (by simp)).1
  rw [held, answer_ended, if_neg solid, ofBytes_eq] at answer
  refine ⟨[.block stray], _, answer, ?_⟩
  change Buffer.capacityFor (max step 1) stray.length < Utf8.size (Utf8.decode stray)
  rw [Utf8.size_decode_stray, Buffer.capacityFor, List.length_replicate, Nat.div_self positive]
  omega

/-- At each turn of the loop the buffer of a line has room for one more byte, and for no more than a
step. The number of the stored bytes tells its capacity and all growths up to there, and these are
exact in 64 bits wherever an allocator gave room for them. Where there is room for the line, all its
bytes are stored at the last turn. So the number of these bytes tells the records of the growths,
also of a reading that fails, and the capacity of the line that arrives. The size of its text does
not tell it: it is three times this number at most, and may be above the capacity. -/
theorem read_keeps_room (step : Nat) (input : Input) (allocator : Allocator)
    (small : step < UInt64.size) (given : allocator 0 (max step 1) = true)
    (gives : allocator.Gives (max step 1) 0 input.held.length) :
    let size := max step 1
    let count := input.held.length
    let reading := read step input allocator
    (∀ buffer left, Turns step input buffer left →
      Buffer.Sized size buffer.items.size buffer.capacity buffer.growths.toList ∧
        buffer.NeverWraps 1 size ∧ input.held = buffer.items.toList ++ left.held) ∧
      (∃ buffer left halt, Turns step input buffer left ∧
        next left = (.error halt, reading.rest) ∧ buffer.items.toList = input.held ∧
        reading.answer = settle buffer halt ∧ reading.growths = buffer.growths.toList) ∧
      Buffer.Sized size count (Buffer.capacityFor size count) reading.growths ∧
      (∀ {World : Type} (session : Session World), session.settings.lineStep = step →
        session.input = input → session.memory.lines 0 = allocator →
          logOf session.readLine.events = reading.growths.map .lineGrown) ∧
      (∀ line, reading.answer = .ok (some line) →
        line.text = Utf8.decode input.held ∧ line.capacity = Buffer.capacityFor size count ∧
          Utf8.size line.text ≤ 3 * count) ∧
      ∀ other : Allocator, other.Allows size →
        ∃ (input : Input) (line : Line), (read step input other).answer = .ok (some line) ∧
          line.capacity < Utf8.size line.text := by
  intro size count reading
  have last := exists_last_turn given gives
  refine ⟨fun buffer left turns => ?_, last, ?_, ?_, ?_, fun _ allows => exists_larger_text allows⟩
  · obtain ⟨sized, wraps⟩ := turns.sized small
    exact ⟨sized, wraps, turns.held⟩
  · obtain ⟨buffer, left, halt, turns, -, items, -, growths⟩ := last
    have sized := (turns.sized small).1
    rw [← Array.length_toList, items, ← growths] at sized
    have capacity : buffer.capacity = Buffer.capacityFor size count := sized.multiple
    rwa [capacity] at sized
  · rintro World session rfl rfl rfl
    -- A step of zero is used as one, and a clamped step stays what it is.
    have clamped : Line.read session.settings.lineGrowth session.input (session.memory.lines 0) =
        reading := by
      simp only [reading, read, Settings.lineGrowth, Nat.max_assoc, Nat.max_self]
    change logOf ((Line.read session.settings.lineGrowth session.input
      (session.memory.lines 0)).growths.map fun capacity => .logged (.lineGrown capacity)) = _
    rw [logOf_logged, clamped]
  · intro line arrived
    obtain ⟨buffer, left, halt, turns, -, items, answer, -⟩ := last
    have same : line = ofBytes step input.held := by
      rw [ofBytes, ← items, ← turns.filled]
      exact eq_ofBuffer_of_settle (answer.symm.trans arrived)
    rw [same, ofBytes_eq]
    exact ⟨rfl, rfl, Utf8.size_decode_le _⟩

/-- Eight bytes in steps of four, half of them stray ones behind an interruption, as a line and in
front of a read that fails, with room for as many bytes as 63 bits count. -/
theorem read_keeps_room_stray :
    let stray : Bytes := Utf8.encode "abcd" ++ [0xFF, 0xFF, 0xFF, 0xFF]
    let input : Input := [.block (Utf8.encode "abcd"), .failed (.named .interrupted),
      .block [0xFF, 0xFF, 0xFF, 0xFF, 0x0A, 0x78]]
    let failing : Input := [.block stray, .failed (.named .brokenPipe)]
    let line : Line := ⟨"abcd\uFFFD\uFFFD\uFFFD\uFFFD", 12⟩
    let allocator : Allocator := fun held more => held + more ≤ byteLimit
    4 < UInt64.size ∧ allocator 0 (max 4 1) = true ∧
      allocator.Gives (max 4 1) 0 input.held.length ∧
      (read 4 input allocator).answer = .ok (some line) ∧ line.text = Utf8.decode stray ∧
      line.capacity < Utf8.size line.text ∧ Utf8.size line.text ≤ 3 * stray.length ∧
      (read 4 failing allocator).answer = .error (.stream (.named .brokenPipe)) ∧
      (read 4 failing allocator).growths = [8, 12] ∧
      allocator.Within 1 ∧
      ∃ fixed, FixedBuffer.fill? allocator 4 stray = some fixed ∧ fixed.capacity.toNat = 12 := by
  intro stray input failing line allocator
  have small : 4 < UInt64.size := by decide
  have given : allocator 0 (max 4 1) = true := by decide
  have within : allocator.Within 1 := by
    intro held more given
    rw [Nat.one_mul]
    exact of_decide_eq_true given
  have room (full : Nat) (below : full ≤ 8) : allocator full (max 4 1) = true := by
    apply decide_eq_true
    exact Nat.le_trans (Nat.add_le_add_right below 4) (by decide)
  have held : input.held.length = 8 := by decide
  have gives : allocator.Gives (max 4 1) 0 input.held.length := by
    rw [held]
    exact fun full _ below _ => room full below
  have failingGives : allocator.Gives (max 4 1) 0 failing.held.length := gives
  have arrived : (read 4 input allocator).answer = .ok (some line) := by decide +kernel
  obtain ⟨-, -, -, -, arrives, -⟩ := read_keeps_room 4 input allocator small given gives
  obtain ⟨text, -, bound⟩ := arrives line arrived
  obtain ⟨turns, ⟨buffer, left, halt, last, -, items, -⟩, sized, -⟩ :=
    read_keeps_room 4 failing allocator small given failingGives
  obtain ⟨size, wraps, -⟩ := turns buffer left last
  have count : buffer.items.size = 8 := by
    rw [← Array.length_toList, items]
    rfl
  obtain ⟨fixed, filled, counts⟩ := wraps.reached within (by rwa [count])
  rw [items] at filled
  refine ⟨small, given, gives, arrived, text, by decide +kernel, bound, by decide +kernel,
    sized.steps.trans (by decide +kernel), within, fixed, filled, ?_⟩
  rw [counts.capacity, size.multiple, count]
  rfl

end Line
end PromptShell
