import PromptShell.Line
import PromptShell.Proofs.Capacity
import PromptShell.Proofs.Pieces
namespace PromptShell

/-- The lines of some bytes, without their newlines. -/
def rawLines (bytes : Bytes) : List Bytes := segments (· == newline) bytes

@[simp] theorem rawLines_nil : rawLines [] = [] := rfl

/-- The first newline ends the first line. -/
theorem rawLines_newline (first rest : Bytes) (free : newline ∉ first) :
    rawLines (first ++ newline :: rest) = first :: rawLines rest := by
  apply segments_cut
  · intro other member
    have different : other ≠ newline := fun equal => free (equal ▸ member)
    simpa using different
  · simp

/-- Bytes without a newline are one line, which may be the last one. -/
theorem rawLines_free (bytes : Bytes) (free : newline ∉ bytes) (solid : bytes ≠ []) :
    rawLines bytes = [bytes] := by
  apply segments_free
  · intro other member
    have different : other ≠ newline := fun equal => free (equal ▸ member)
    simpa using different
  · exact solid

/-- The first line of some bytes, without its newline. -/
def firstLine (bytes : Bytes) : Bytes := bytes.takeWhile (· != newline)

/-- The bytes behind the first line and its newline. -/
def afterLine (bytes : Bytes) : Bytes := (bytes.dropWhile (· != newline)).tail

theorem newline_notMem_firstLine (bytes : Bytes) : newline ∉ firstLine bytes := by
  intro member
  have inside := List.all_takeWhile (p := (· != newline)) (l := bytes)
  have other := List.all_eq_true.mp inside newline member
  simp at other

/-- The first line ends at a newline or with the bytes. -/
theorem firstLine_cases (bytes : Bytes) :
    bytes = firstLine bytes ++ newline :: afterLine bytes ∨
      (bytes = firstLine bytes ∧ afterLine bytes = []) := by
  have whole : firstLine bytes ++ bytes.dropWhile (· != newline) = bytes :=
    List.takeWhile_append_dropWhile
  cases rest : bytes.dropWhile (· != newline) with
  | nil =>
      rw [rest, List.append_nil] at whole
      exact Or.inr ⟨whole.symm, by simp [afterLine, rest]⟩
  | cons byte behind =>
      have ends : byte = newline := by
        have cut := List.head?_dropWhile_not (· != newline) bytes
        simpa [rest] using cut
      rw [rest, ends] at whole
      exact Or.inl (by simpa [afterLine, rest] using whole.symm)

/-- Bytes with a newline are cut at the first one. -/
theorem firstLine_of_mem {bytes : Bytes} (ends : newline ∈ bytes) :
    bytes = firstLine bytes ++ newline :: afterLine bytes := by
  refine (firstLine_cases bytes).resolve_right ?_
  rintro ⟨whole, -⟩
  exact newline_notMem_firstLine bytes (whole ▸ ends)

/-- The lines of some bytes are their first line and the lines behind it. -/
theorem rawLines_eq (bytes : Bytes) (solid : bytes ≠ []) :
    rawLines bytes = firstLine bytes :: rawLines (afterLine bytes) := by
  have free := newline_notMem_firstLine bytes
  rcases firstLine_cases bytes with cut | ⟨whole, none⟩
  · have lines := rawLines_newline _ (afterLine bytes) free
    rwa [← cut] at lines
  · rw [← whole] at free
    rw [none, rawLines_nil, rawLines_free bytes free solid, ← whole]

/-- Fewer bytes are left behind a line. -/
theorem afterLine_length_lt (bytes : Bytes) (solid : bytes ≠ []) :
    (afterLine bytes).length < bytes.length := by
  rcases firstLine_cases bytes with cut | ⟨_, none⟩
  · have length := congrArg List.length cut
    simp only [List.length_append, List.length_cons] at length
    omega
  · rw [none]
    exact List.length_pos_iff.mpr solid

/-- What each line hands on to the bytes behind it holds of all bytes. -/
theorem line_induct {motive : Bytes → Prop} (none : motive [])
    (line : ∀ bytes, bytes ≠ [] → motive (afterLine bytes) → motive bytes) (bytes : Bytes) :
    motive bytes := by
  induction length : bytes.length using Nat.strongRecOn generalizing bytes with
  | ind size ih =>
      subst length
      by_cases empty : bytes = []
      · rw [empty]
        exact none
      · exact line bytes empty (ih _ (afterLine_length_lt bytes empty) _ rfl)

/-- A line holds no newline. -/
theorem newline_notMem_rawLines {bytes line : Bytes} (member : line ∈ rawLines bytes) :
    newline ∉ line := by
  induction bytes using line_induct with
  | none => simp at member
  | line bytes solid ih =>
      rw [rawLines_eq bytes solid] at member
      rcases List.mem_cons.mp member with rfl | later
      · exact newline_notMem_firstLine bytes
      · exact ih later

/-- The texts of the lines of some bytes. -/
def textLines (bytes : Bytes) : List String := (rawLines bytes).map Utf8.decode

/-- A delivery that is not empty gives its bytes as events. -/
theorem Delivery.events_block (bytes : Bytes) (solid : bytes ≠ []) :
    (Delivery.block bytes).events = bytes.map .byte := by
  cases bytes with
  | nil => exact absurd rfl solid
  | cons byte rest => rfl

@[simp] theorem Input.events_cons (delivery : Delivery) (rest : Input) :
    Input.events (delivery :: rest) = delivery.events ++ Input.events rest := rfl

@[simp] theorem Input.events_behind (unread : Bytes) (rest : Input) :
    Input.events (Input.behind unread rest) = unread.map .byte ++ Input.events rest := by
  cases unread <;> simp [Input.behind, Delivery.events]

/-- Blocks that hold anything give their bytes one after the other. -/
theorem Input.events_blocks (blocks : List Bytes) (solid : ∀ block ∈ blocks, block ≠ []) :
    Input.events (blocks.map .block) = blocks.flatten.map .byte := by
  induction blocks with
  | nil => rfl
  | cons block rest ih =>
      have tail := ih fun other member => solid other (by simp [member])
      simp only [List.map_cons, Input.events_cons, tail, List.flatten_cons, List.map_append,
        Delivery.events_block block (solid block (by simp))]

namespace Line

/-- What the events of a stream decide about one reading: the bytes of the line, what ended them,
and the events behind. -/
structure Decision where
  bytes : Bytes
  halt : Halt
  behind : List StreamEvent
  deriving Repr, DecidableEq

/-- The first event that is no byte of the line decides; the lasting end does if there is none. -/
def decision : List StreamEvent → Decision
  | [] => ⟨[], .ended, []⟩
  | .byte byte :: rest =>
      if byte = PromptShell.newline then ⟨[], .newline, rest⟩
      else { decision rest with bytes := byte :: (decision rest).bytes }
  | .ended :: rest => ⟨[], .ended, rest⟩
  | .failed fault :: rest => ⟨[], .failed fault, rest⟩

/-- Bytes of the line stand in front of what decides. -/
theorem decision_bytes (held : Bytes) (events : List StreamEvent)
    (free : PromptShell.newline ∉ held) :
    decision (held.map .byte ++ events) =
      { decision events with bytes := held ++ (decision events).bytes } := by
  induction held with
  | nil => rfl
  | cons byte rest ih =>
      simp only [List.mem_cons, not_or] at free
      have different : byte ≠ PromptShell.newline := fun equal => free.1 equal.symm
      simp only [List.map_cons, List.cons_append, decision, different, if_false, ih free.2]

/-- Bytes of the line that find room are stored, and the scan goes on behind them. -/
theorem scan_stored {allocator : Allocator} {buffer next : Buffer UInt8} {held : Bytes}
    (free : PromptShell.newline ∉ held) (stored : buffer.storeAll allocator held = .ok next)
    (rest : Bytes) : scan allocator buffer (held ++ rest) = scan allocator next rest := by
  induction held generalizing buffer with
  | nil =>
      obtain rfl := Except.ok.inj stored
      rfl
  | cons byte more ih =>
      simp only [List.mem_cons, not_or] at free
      have different : byte ≠ PromptShell.newline := fun equal => free.1 equal.symm
      rw [Buffer.storeAll] at stored
      simp only [List.cons_append, scan, different, if_false]
      cases found : buffer.store allocator byte with
      | error full =>
          rw [found] at stored
          cases stored
      | ok middle =>
          rw [found] at stored
          exact ih free.2 stored

/-- The gathering of bytes by the events of a stream. -/
def gatherEvents (allocator : Allocator) (buffer : Buffer UInt8) :
    List StreamEvent → Buffer UInt8 × Halt × List StreamEvent
  | [] => (buffer, .ended, [])
  | .byte byte :: rest =>
      if byte = PromptShell.newline then (buffer, .newline, rest)
      else match buffer.store allocator byte with
        | .ok next => gatherEvents allocator next rest
        | .error full => (full, .cramped, rest)
  | .ended :: rest => (buffer, .ended, rest)
  | .failed fault :: rest => (buffer, .failed fault, rest)

/-- A block is gathered as its bytes are, one by one. -/
theorem gatherEvents_block (allocator : Allocator) (buffer : Buffer UInt8) (bytes : Bytes)
    (behind : List StreamEvent) :
    gatherEvents allocator buffer (bytes.map .byte ++ behind) =
      match scan allocator buffer bytes with
      | (filled, some (halt, unread)) => (filled, halt, unread.map .byte ++ behind)
      | (filled, none) => gatherEvents allocator filled behind := by
  induction bytes generalizing buffer with
  | nil => rfl
  | cons byte rest ih =>
      simp only [List.map_cons, List.cons_append, gatherEvents, scan]
      split
      · rfl
      · cases buffer.store allocator byte with
        | ok next => exact ih next
        | error full => rfl

/-- What is gathered from a stream is told by its events. -/
theorem gatherEvents_events (allocator : Allocator) (buffer : Buffer UInt8) (input : Input) :
    gatherEvents allocator buffer input.events =
      ((gather allocator buffer input).1, (gather allocator buffer input).2.1,
        Input.events (gather allocator buffer input).2.2) := by
  fun_induction gather allocator buffer input with
  | case1 => rfl
  | case2 => rfl
  | case3 buffer bytes rest solid filled halt unread found =>
      rw [Input.events_cons, Delivery.events_block bytes solid, gatherEvents_block, found,
        Input.events_behind]
  | case4 buffer bytes rest solid filled missed ih =>
      rw [Input.events_cons, Delivery.events_block bytes solid, gatherEvents_block, missed]
      exact ih
  | case5 buffer fault rest interrupted ih =>
      rw [Input.events_cons, Delivery.events, if_pos interrupted]
      exact ih
  | case6 buffer fault rest answered =>
      rw [Input.events_cons, Delivery.events, if_neg answered]
      rfl

/-- Where there is always room the bytes of the line are stored, and the events decide. -/
theorem gatherEvents_decision {allocator : Allocator} {step : Nat} {held : Bytes}
    {buffer : Buffer UInt8} (positive : 0 < step) (allows : allocator.Allows step)
    (regular : buffer.Regular step held) (events : List StreamEvent) :
    gatherEvents allocator buffer events =
      (buffer.pushAll (decision events).bytes, (decision events).halt,
        (decision events).behind) := by
  induction events generalizing held buffer with
  | nil => rfl
  | cons event rest ih =>
      cases event with
      | ended => rfl
      | failed fault => rfl
      | byte byte =>
          simp only [gatherEvents, decision]
          split
          · rfl
          · rw [regular.store positive, if_pos fun _ => allows _]
            exact ih (regular.push positive byte)

/-- The line that some bytes give with a buffer that grows in steps of the given size. -/
def ofBytes (step : Nat) (bytes : Bytes) : Line :=
  ofBuffer ((Buffer.empty (max step 1)).pushAll bytes)

@[simp] theorem ofBytes_text (step : Nat) (bytes : Bytes) :
    (ofBytes step bytes).text = Utf8.decode bytes := by
  simp [ofBytes, ofBuffer, Buffer.empty]

/-- The answer that a decision gives. -/
def Decision.answer (step : Nat) (decided : Decision) : Except Failure (Option Line) :=
  match decided.halt with
  | .failed fault => .error (.stream fault)
  | .cramped => .error .allocation
  | .newline => .ok (some (ofBytes step decided.bytes))
  | .ended => .ok (if decided.bytes.isEmpty then none else some (ofBytes step decided.bytes))

section

variable {allocator : Allocator} {step : Nat}

/-- A reading with room for its first step is the gathering of bytes in an empty buffer. -/
theorem read_eq (given : allocator 0 (max step 1) = true) (input : Input) :
    read step input allocator =
      let gathered := gather allocator (Buffer.empty (max step 1)) input
      ⟨settle gathered.1 gathered.2.1, gathered.2.2, gathered.1.growths.toList⟩ := by
  rw [read, Buffer.allocate?, if_pos given]

/-- A reading without room for its first step leaves the stream alone. -/
theorem read_refused (refused : ¬ allocator 0 (max step 1) = true) (input : Input) :
    read step input allocator = ⟨.error .allocation, input, []⟩ := by
  rw [read, Buffer.allocate?, if_neg refused]

/-- An empty buffer with room for all takes the bytes of the line. -/
theorem gather_empty (allows : allocator.Allows (max step 1)) (input : Input) :
    (gather allocator (Buffer.empty (max step 1)) input).1 =
        (Buffer.empty (max step 1)).pushAll (decision input.events).bytes ∧
      (gather allocator (Buffer.empty (max step 1)) input).2.1 = (decision input.events).halt ∧
      Input.events (gather allocator (Buffer.empty (max step 1)) input).2.2 =
        (decision input.events).behind := by
  have told := gatherEvents_events allocator (Buffer.empty (max step 1)) input
  rw [gatherEvents_decision (by omega) allows (.empty _)] at told
  obtain ⟨filled, halt, behind⟩ := Prod.mk.inj told |>.imp_right Prod.mk.inj
  exact ⟨filled.symm, halt.symm, behind.symm⟩

/-- The first decisive event gives the answer. -/
theorem read_answer (allows : allocator.Allows (max step 1)) (input : Input) :
    (read step input allocator).answer = (decision input.events).answer step := by
  obtain ⟨filled, halt, _⟩ := gather_empty allows input
  have vacant (bytes : Bytes) :
      ((Buffer.empty (max step 1)).pushAll bytes).items.isEmpty = bytes.isEmpty := by
    have items := Buffer.pushAll_items (Buffer.empty (max step 1)) bytes
    simp only [Buffer.empty, List.nil_append] at items
    rw [← Array.isEmpty_toList, Buffer.empty, items]
  simp only [read_eq (allows 0), filled, halt, settle, Decision.answer]
  cases (decision input.events).halt <;> simp [vacant, ofBytes]

/-- The stream is left behind the decisive event. -/
theorem events_read (allows : allocator.Allows (max step 1)) (input : Input) :
    Input.events (read step input allocator).rest = (decision input.events).behind := by
  rw [read_eq (allows 0)]
  exact (gather_empty allows input).2.2

end

/-- Readings follow each other until one gives no line. Each has an allocator of its own. -/
def readAll (lines : Nat → Allocator) (step : Nat) (input : Input) : List Line :=
  match _ : (read step input (lines 0)).answer with
  | .ok (some line) =>
      line :: readAll (fun index => lines (index + 1)) step (read step input (lines 0)).rest
  | _ => []
termination_by (Input.bytes input).length
decreasing_by exact read_bytes_lt step input (lines 0) line (by assumption)

/-- The readings that follow an answer. -/
theorem readAll_eq (lines : Nat → Allocator) (step : Nat) (input : Input) :
    readAll lines step input =
      match (read step input (lines 0)).answer with
      | .ok (some line) =>
          line :: readAll (fun index => lines (index + 1)) step (read step input (lines 0)).rest
      | _ => [] := by
  rw [readAll]
  split <;> rename_i answered
  · simp only [answered]
  · split
    · exact absurd ‹_› (answered _)
    · rfl

/-- Bytes give their first line, and what is left are the bytes behind it. -/
theorem decision_line (step : Nat) (bytes : Bytes) (solid : bytes ≠ []) :
    (decision (bytes.map .byte)).answer step = .ok (some (ofBytes step (firstLine bytes))) ∧
      (decision (bytes.map .byte)).behind = (afterLine bytes).map .byte := by
  have free := newline_notMem_firstLine bytes
  rcases firstLine_cases bytes with cut | ⟨whole, none⟩
  · have decided : decision (bytes.map .byte) =
        ⟨firstLine bytes, .newline, (afterLine bytes).map .byte⟩ := by
      have front := decision_bytes _ (.byte PromptShell.newline :: (afterLine bytes).map .byte) free
      rw [← List.map_cons, ← List.map_append, ← cut] at front
      simpa [decision] using front
    rw [decided]
    exact ⟨rfl, rfl⟩
  · have decided : decision (bytes.map .byte) = ⟨firstLine bytes, .ended, []⟩ := by
      have front := decision_bytes _ [] free
      rw [List.append_nil, ← whole] at front
      simpa [decision, ← whole] using front
    have held : firstLine bytes ≠ [] := by
      rwa [← whole]
    rw [decided, none]
    exact ⟨by simp [Decision.answer, held], rfl⟩

/-- Repeated readings give the lines of the delivered bytes. -/
theorem readAll_texts {lines : Nat → Allocator} {step : Nat}
    (allows : ∀ index, (lines index).Allows (max step 1)) (input : Input) (bytes : Bytes)
    (delivered : input.events = bytes.map .byte) :
    (readAll lines step input).map Line.text = textLines bytes := by
  induction bytes using line_induct generalizing input lines with
  | none =>
      rw [readAll_eq, read_answer (allows 0), delivered]
      rfl
  | line bytes solid ih =>
      obtain ⟨answer, behind⟩ := decision_line step bytes solid
      have left := events_read (allows 0) input
      rw [delivered, behind] at left
      rw [readAll_eq, read_answer (allows 0), delivered, answer, textLines,
        rawLines_eq bytes solid, List.map_cons, List.map_cons, ofBytes_text,
        ih (fun index => allows (index + 1)) _ left, textLines]

end Line
end PromptShell
