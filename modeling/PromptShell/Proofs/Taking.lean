import PromptShell.Proofs.Streams
namespace PromptShell

variable {World : Type}

/-- An open answer ends no line: a block without a newline, or an interrupted read. -/
def Delivery.isOpen : Delivery → Bool
  | .block bytes => !bytes.isEmpty && !bytes.contains newline
  | .failed fault => fault.isInterruption

theorem Delivery.isOpen_block (bytes : Bytes) :
    (block bytes).isOpen = true ↔ bytes ≠ [] ∧ newline ∉ bytes := by
  simp [isOpen]

/-- All answers of a stream are open ones. -/
def Input.Open (input : Input) : Prop := ∀ delivery ∈ input, delivery.isOpen = true

@[simp] theorem Input.open_nil : Input.Open [] := by
  simp [Open]

@[simp] theorem Input.open_cons (delivery : Delivery) (rest : Input) :
    Input.Open (delivery :: rest) ↔ delivery.isOpen = true ∧ Input.Open rest :=
  List.forall_mem_cons

@[simp] theorem Input.open_append (first second : Input) :
    Input.Open (first ++ second) ↔ Input.Open first ∧ Input.Open second :=
  List.forall_mem_append

@[simp] theorem Input.bytes_append (first second : Input) :
    Input.bytes (first ++ second) = Input.bytes first ++ Input.bytes second := by
  simp [Input.bytes]

namespace Line

/-- What one reading takes from a stream: the bytes, what ended them, and the stream behind. In
front of the answer that decides there are open ones only. Where there is no room for more, a taking
ends anywhere in a line. -/
inductive Takes : Input → Bytes → Halt → Input → Prop
  | newline (front : Input) (held unread : Bytes) (behind : Input) (opened : front.Open)
      (free : PromptShell.newline ∉ held) :
      Takes (front ++ .block (held ++ PromptShell.newline :: unread) :: behind)
        (front.bytes ++ held) .newline (Input.behind unread behind)
  | ended (front behind : Input) (opened : front.Open) :
      Takes (front ++ .block [] :: behind) front.bytes .ended behind
  | exhausted (front : Input) (opened : front.Open) : Takes front front.bytes .ended []
  | failed (front : Input) (fault : Fault) (behind : Input) (opened : front.Open)
      (answered : fault.isInterruption = false) :
      Takes (front ++ .failed fault :: behind) front.bytes (.failed fault) behind
  | cramped (front : Input) (held unread : Bytes) (behind : Input) (opened : front.Open)
      (free : PromptShell.newline ∉ held) (solid : held ≠ []) :
      Takes (front ++ .block (held ++ unread) :: behind) (front.bytes ++ held) .cramped
        (Input.behind unread behind)

/-- Open answers in front of a stream are taken along. -/
theorem Takes.append {input rest : Input} {bytes : Bytes} {halt : Halt} (front : Input)
    (opened : front.Open) (taken : Takes input bytes halt rest) :
    Takes (front ++ input) (front.bytes ++ bytes) halt rest := by
  cases taken with
  | newline more held unread behind moreOpened free =>
      rw [← List.append_assoc, ← List.append_assoc, ← Input.bytes_append]
      exact .newline _ held unread behind (by simp [opened, moreOpened]) free
  | ended more behind moreOpened =>
      rw [← List.append_assoc, ← Input.bytes_append]
      exact .ended _ _ (by simp [opened, moreOpened])
  | exhausted more moreOpened =>
      rw [← Input.bytes_append]
      exact .exhausted _ (by simp [opened, moreOpened])
  | failed more fault behind moreOpened answered =>
      rw [← List.append_assoc, ← Input.bytes_append]
      exact .failed _ fault _ (by simp [opened, moreOpened]) answered
  | cramped more held unread behind moreOpened free solid =>
      rw [← List.append_assoc, ← List.append_assoc, ← Input.bytes_append]
      exact .cramped _ held unread behind (by simp [opened, moreOpened]) free solid

/-- Every stream has something to take, if there is room for it. -/
theorem exists_takes_roomy (input : Input) :
    ∃ bytes halt rest, Takes input bytes halt rest ∧ halt ≠ .cramped := by
  have along {delivery : Delivery} {rest : Input} (opened : delivery.isOpen = true)
      (found : ∃ bytes halt left, Takes rest bytes halt left ∧ halt ≠ .cramped) :
      ∃ bytes halt left, Takes (delivery :: rest) bytes halt left ∧ halt ≠ .cramped := by
    obtain ⟨bytes, halt, left, taken, roomy⟩ := found
    exact ⟨_, halt, left, taken.append [delivery] (by simp [opened]), roomy⟩
  induction input with
  | nil => exact ⟨_, _, _, .exhausted [] Input.open_nil, by simp⟩
  | cons delivery rest ih =>
      cases delivery with
      | block bytes =>
          by_cases empty : bytes = []
          · subst empty
            exact ⟨_, _, _, .ended [] rest Input.open_nil, by simp⟩
          · by_cases ends : PromptShell.newline ∈ bytes
            · rw [firstLine_of_mem ends]
              have free := newline_notMem_firstLine bytes
              exact ⟨_, _, _, .newline [] _ _ rest Input.open_nil free, by simp⟩
            · exact along ((Delivery.isOpen_block bytes).mpr ⟨empty, ends⟩) ih
      | failed fault =>
          cases answer : fault.isInterruption with
          | true => exact along answer ih
          | false => exact ⟨_, _, _, .failed [] fault rest Input.open_nil answer, by simp⟩

/-- The want of room may end a taking within a block. -/
theorem takes_within_block {front : Input} (behind : Input) {held : Bytes} (unread : Bytes)
    (opened : front.Open) (free : PromptShell.newline ∉ held) {size : Nat} (solid : 0 < size)
    (short : size ≤ held.length) :
    ∃ rest, Takes (front ++ .block (held ++ unread) :: behind) (front.bytes ++ held.take size)
      .cramped rest := by
  have part : PromptShell.newline ∉ held.take size :=
    fun member => free (List.mem_of_mem_take member)
  have some : held.take size ≠ [] := by
    apply List.ne_nil_of_length_pos
    rw [List.length_take]
    omega
  have taken := Takes.cramped front (held.take size) (held.drop size ++ unread) behind opened part
    some
  rw [← List.append_assoc, List.take_append_drop] at taken
  exact ⟨_, taken⟩

/-- The want of room may end a taking behind any byte of open answers. -/
theorem takes_within_open {front : Input} (behind : Input) (opened : front.Open) {size : Nat}
    (solid : 0 < size) (short : size ≤ front.bytes.length) :
    ∃ rest, Takes (front ++ behind) (front.bytes.take size) .cramped rest := by
  induction front generalizing size with
  | nil =>
      rw [Input.bytes_nil, List.length_nil] at short
      omega
  | cons delivery more ih =>
      rw [Input.open_cons] at opened
      rw [Input.bytes_cons, List.length_append] at short
      rw [Input.bytes_cons, List.take_append, List.cons_append]
      by_cases here : size ≤ delivery.bytes.length
      · rw [Nat.sub_eq_zero_of_le here, List.take_zero, List.append_nil]
        cases delivery with
        | failed fault =>
            rw [Delivery.bytes, List.length_nil] at here
            omega
        | block bytes =>
            have free := ((Delivery.isOpen_block bytes).mp opened.1).2
            have within := takes_within_block (more ++ behind) [] Input.open_nil free solid here
            rwa [List.append_nil] at within
      · obtain ⟨rest, taken⟩ := ih opened.2 (by omega) (by omega : size - delivery.bytes.length ≤ _)
        have first : Input.Open [delivery] := by simp [opened.1]
        have whole := taken.append [delivery] first
        rw [Input.bytes_cons, Input.bytes_nil, List.append_nil] at whole
        rw [List.take_of_length_le (by omega)]
        exact ⟨rest, whole⟩

/-- The want of room may end a taking behind any of its bytes. -/
theorem Takes.cut {input rest : Input} {bytes : Bytes} {halt : Halt}
    (taken : Takes input bytes halt rest) {size : Nat} (solid : 0 < size)
    (short : size ≤ bytes.length) : ∃ left, Takes input (bytes.take size) .cramped left := by
  have within_line {front : Input} (behind : Input) {held : Bytes} (unread : Bytes)
      (opened : front.Open) (free : PromptShell.newline ∉ held)
      (short : size ≤ (front.bytes ++ held).length) :
      ∃ left, Takes (front ++ .block (held ++ unread) :: behind)
        ((front.bytes ++ held).take size) .cramped left := by
    rw [List.take_append]
    by_cases early : size ≤ front.bytes.length
    · rw [Nat.sub_eq_zero_of_le early, List.take_zero, List.append_nil]
      exact takes_within_open _ opened solid early
    · rw [List.length_append] at short
      rw [List.take_of_length_le (by omega)]
      exact takes_within_block behind unread opened free (by omega) (by omega)
  cases taken with
  | newline front held unread behind opened free => exact within_line _ _ opened free short
  | ended front behind opened => exact takes_within_open _ opened solid short
  | exhausted front opened =>
      have within := takes_within_open [] opened solid short
      rwa [List.append_nil] at within
  | failed front fault behind opened answered => exact takes_within_open _ opened solid short
  | cramped front held unread behind opened free => exact within_line _ _ opened free short

/-- A taking ends for want of room exactly where an allocator refuses a step for the first time. -/
def Permits (allocator : Allocator) (step : Nat) (bytes : Bytes) : Halt → Prop
  | .cramped => allocator.Refuses step bytes.length
  | _ => allocator.Gives step 0 bytes.length

theorem permits_of_gives {allocator : Allocator} {step : Nat} {bytes : Bytes} {halt : Halt}
    (gives : allocator.Gives step 0 bytes.length) (roomy : halt ≠ .cramped) :
    Permits allocator step bytes halt := by
  cases halt with
  | cramped => exact absurd rfl roomy
  | _ => exact gives

/-- Every stream has something to take that an allocator permits. -/
theorem exists_takes (allocator : Allocator) (step : Nat) (input : Input) :
    ∃ bytes halt rest, Takes input bytes halt rest ∧ Permits allocator step bytes halt := by
  obtain ⟨bytes, halt, rest, taken, roomy⟩ := exists_takes_roomy input
  rcases allocator.gives_or_refuses step bytes.length with gives | ⟨size, short, refuses⟩
  · exact ⟨bytes, halt, rest, taken, permits_of_gives gives roomy⟩
  · obtain ⟨left, cut⟩ := taken.cut refuses.solid short
    refine ⟨bytes.take size, .cramped, left, cut, ?_⟩
    simpa only [Permits, List.length_take, Nat.min_eq_left short] using refuses

section

variable {allocator : Allocator} {step : Nat} {buffer next : Buffer UInt8}

/-- The bytes of open answers are stored. -/
theorem gather_open {front : Input} (rest : Input) (opened : front.Open)
    (stored : buffer.storeAll allocator front.bytes = .ok next) :
    gather allocator buffer (front ++ rest) = gather allocator next rest := by
  induction front generalizing buffer with
  | nil =>
      obtain rfl := Except.ok.inj stored
      rfl
  | cons delivery more ih =>
      rw [Input.open_cons] at opened
      rw [Input.bytes_cons, Buffer.storeAll_append_iff] at stored
      obtain ⟨middle, first, following⟩ := stored
      cases delivery with
      | block bytes =>
          obtain ⟨solid, free⟩ := (Delivery.isOpen_block bytes).mp opened.1
          have scanned := scan_stored free first []
          rw [List.append_nil] at scanned
          rw [List.cons_append, gather.eq_3 _ _ _ _ solid]
          change scan allocator buffer bytes = (middle, none) at scanned
          rw [scanned]
          exact ih opened.2 following
      | failed fault =>
          have interrupted : fault.isInterruption = true := opened.1
          obtain rfl := Except.ok.inj first
          rw [List.cons_append, gather, if_pos interrupted]
          exact ih opened.2 following

/-- The bytes of open answers and the first ones of a block are stored. -/
theorem gather_block {front : Input} (behind : Input) {held : Bytes} (byte : UInt8)
    (unread : Bytes) (opened : front.Open) (free : PromptShell.newline ∉ held)
    (stored : buffer.storeAll allocator (front.bytes ++ held) = .ok next) :
    gather allocator buffer (front ++ .block (held ++ byte :: unread) :: behind) =
      match scan allocator next (byte :: unread) with
      | (filled, some (halt, left)) => (filled, halt, Input.behind left behind)
      | (filled, none) => gather allocator filled behind := by
  obtain ⟨middle, first, following⟩ := (Buffer.storeAll_append_iff _ _).mp stored
  rw [gather_open _ opened first, ← scan_stored free following]
  exact gather.eq_3 _ _ _ _ (by simp)

end

/-- The bytes behind which the buffer has room: all of them, except for the one that fills a buffer
that cannot grow. -/
def Halt.roomy (bytes : Bytes) : Halt → Bytes
  | .cramped => bytes.dropLast
  | _ => bytes

/-- What is taken is stored, and the rest is left. -/
theorem gather_of_takes {allocator : Allocator} {step : Nat} (positive : 0 < step)
    {input rest : Input} {bytes : Bytes} {halt : Halt} (taken : Takes input bytes halt rest)
    (permits : Permits allocator step bytes halt) :
    ∃ filled, gather allocator (Buffer.empty step) input = (filled, halt, rest) ∧
      filled.growths = ((Buffer.empty step).pushAll (halt.roomy bytes)).growths ∧
      (halt ≠ .cramped → filled = (Buffer.empty step).pushAll bytes) := by
  cases taken with
  | newline front held unread behind opened free =>
      have stored := Buffer.storeAll_of_gives positive permits
      refine ⟨_, ?_, rfl, fun _ => rfl⟩
      rw [gather_block behind PromptShell.newline unread opened free stored, scan, if_pos rfl]
      rfl
  | ended front behind opened =>
      have stored := Buffer.storeAll_of_gives positive permits
      refine ⟨_, ?_, rfl, fun _ => rfl⟩
      rw [gather_open _ opened stored, gather]
      rfl
  | exhausted front opened =>
      have stored := Buffer.storeAll_of_gives positive permits
      have whole := gather_open [] opened stored
      rw [List.append_nil, gather] at whole
      exact ⟨_, whole, rfl, fun _ => rfl⟩
  | failed front fault behind opened answered =>
      have stored := Buffer.storeAll_of_gives positive permits
      refine ⟨_, ?_, rfl, fun _ => rfl⟩
      rw [gather_open _ opened stored, gather, if_neg (by simp [answered])]
      rfl
  | cramped front held unread behind opened free solid =>
      obtain ⟨early, last, rfl⟩ : ∃ early last, held = early ++ [last] :=
        ⟨_, _, (List.dropLast_concat_getLast solid).symm⟩
      have different : last ≠ PromptShell.newline := by
        rintro rfl
        simp at free
      have some : PromptShell.newline ∉ early := fun member => free (by simp [member])
      have refuses : allocator.Refuses step ((front.bytes ++ early).length + 1) := by
        simpa [Permits, Nat.add_assoc] using permits
      have stored := Buffer.storeAll_of_gives positive refuses.before
      have full := Buffer.store_of_refuses positive refuses last
      refine ⟨((Buffer.empty step).pushAll (front.bytes ++ early)).stuck last, ?_, ?_,
        fun roomy => absurd rfl roomy⟩
      · rw [List.append_assoc, List.singleton_append,
          gather_block behind last unread opened some stored, scan, if_neg different, full]
      · simp [Halt.roomy, ← List.append_assoc, Buffer.stuck]

/-- The answer of a reading that took some bytes. -/
def answer (step : Nat) (bytes : Bytes) (halt : Halt) : Except Failure (Option Line) :=
  settle ((Buffer.empty (max step 1)).pushAll bytes) halt

@[simp] theorem answer_failed (step : Nat) (bytes : Bytes) (fault : Fault) :
    answer step bytes (.failed fault) = .error (.stream fault) := rfl

@[simp] theorem answer_cramped (step : Nat) (bytes : Bytes) :
    answer step bytes .cramped = .error .allocation := rfl

@[simp] theorem answer_ended (step : Nat) (bytes : Bytes) :
    answer step bytes .ended =
      .ok (if bytes = [] then none else some (ofBytes step bytes)) := by
  have items := Buffer.pushAll_items (Buffer.empty (max step 1)) bytes
  simp only [Buffer.empty, List.nil_append] at items
  simp only [answer, settle, ofBytes, Buffer.empty, ← Array.isEmpty_toList, items,
    List.isEmpty_iff]

/-- A reading with room for its first step answers by what it takes, leaves the rest, and has grown
behind each full step of bytes for which there was room. -/
theorem read_of_takes {allocator : Allocator} {step : Nat}
    (given : allocator 0 (max step 1) = true) {input rest : Input} {bytes : Bytes} {halt : Halt}
    (taken : Takes input bytes halt rest) (permits : Permits allocator (max step 1) bytes halt) :
    read step input allocator =
      ⟨answer step bytes halt, rest,
        Buffer.growthsFor (max step 1) (halt.roomy bytes).length⟩ := by
  have positive : 0 < max step 1 := by omega
  obtain ⟨filled, gathered, growths, same⟩ := gather_of_takes positive taken permits
  have regular := Buffer.regular_pushAll positive (halt.roomy bytes)
  have settled : settle filled halt = answer step bytes halt := by
    cases halt with
    | cramped => rfl
    | _ => rw [same (by simp), answer]
  simp only [read_eq given, gathered, growths, regular.growths, settled]

/-- Where there is always room a reading answers by what it takes. -/
theorem read_of_takes_roomy {allocator : Allocator} {step : Nat}
    (allows : allocator.Allows (max step 1)) {input rest : Input} {bytes : Bytes} {halt : Halt}
    (taken : Takes input bytes halt rest) (roomy : halt ≠ .cramped) :
    (read step input allocator).answer = answer step bytes halt ∧
      (read step input allocator).rest = rest := by
  have permits := permits_of_gives (allows.gives 0 bytes.length) roomy
  rw [read_of_takes (allows 0) taken permits]
  exact ⟨rfl, rfl⟩

/-- The bytes that an end of a line is made of. -/
def Halt.bytes : Halt → Bytes
  | .newline => [PromptShell.newline]
  | _ => []

/-- A reading loses no byte: each is taken, is the newline behind those, or is left. -/
theorem Takes.bytes_eq {input rest : Input} {bytes : Bytes} {halt : Halt}
    (taken : Takes input bytes halt rest) :
    input.bytes = bytes ++ halt.bytes ++ rest.bytes := by
  cases taken with
  | newline front held unread behind => simp [Halt.bytes, Delivery.bytes]
  | ended front behind => simp [Halt.bytes, Delivery.bytes]
  | exhausted front => simp [Halt.bytes]
  | failed front fault behind => simp [Halt.bytes, Delivery.bytes]
  | cramped front held unread behind => simp [Halt.bytes, Delivery.bytes]

/-- One reading by the bytes that it took and by what ended them. -/
structure Taking where
  bytes : Bytes
  halt : Halt
  deriving Repr, DecidableEq

/-- The bytes of the line that a reading gives, with its newline. A failed reading gives none. -/
def Taking.kept (taking : Taking) : Bytes :=
  match taking.halt with
  | .failed _ | .cramped => []
  | halt => taking.bytes ++ halt.bytes

/-- The bytes that a failed reading has taken. -/
def Taking.lost (taking : Taking) : Bytes :=
  match taking.halt with
  | .failed _ | .cramped => taking.bytes
  | _ => []

/-- Readings that follow each other, and the stream behind them. -/
inductive TakesAll : Input → List Taking → Input → Prop
  | none (input : Input) : TakesAll input [] input
  | next {input middle rest : Input} {bytes : Bytes} {halt : Halt} {more : List Taking}
      (taken : Takes input bytes halt middle) (following : TakesAll middle more rest) :
      TakesAll input (⟨bytes, halt⟩ :: more) rest

/-- The answers of a number of readings that follow each other, and the stream behind them. -/
def readTimes (step : Nat) (lines : Nat → Allocator) :
    Nat → Input → List (Except Failure (Option Line)) × Input
  | 0, input => ([], input)
  | count + 1, input =>
      let reading := read step input (lines 0)
      let following := readTimes step (fun index => lines (index + 1)) count reading.rest
      (reading.answer :: following.1, following.2)

/-- Readings answer by what they take one after the other. -/
theorem readTimes_takesAll {step : Nat} {lines : Nat → Allocator}
    (allows : ∀ index, (lines index).Allows (max step 1)) (count : Nat) (input : Input) :
    ∃ takings, takings.length = count ∧
      (readTimes step lines count input).1 =
        takings.map (fun taking => answer step taking.bytes taking.halt) ∧
      TakesAll input takings (readTimes step lines count input).2 := by
  induction count generalizing input lines with
  | zero => exact ⟨[], rfl, rfl, .none input⟩
  | succ count ih =>
      obtain ⟨bytes, halt, rest, taken, roomy⟩ := exists_takes_roomy input
      obtain ⟨answered, left⟩ := read_of_takes_roomy (allows 0) taken roomy
      obtain ⟨more, length, answers, following⟩ := ih (fun index => allows (index + 1)) rest
      refine ⟨⟨bytes, halt⟩ :: more, by simp [length], ?_, ?_⟩
      · simp only [readTimes, answered, left, answers, List.map_cons]
      · rw [← left] at taken following
        exact .next taken following

/-- As many bytes are kept, lost or left as there were. -/
theorem TakesAll.length {input rest : Input} {takings : List Taking}
    (taken : TakesAll input takings rest) :
    input.bytes.length = (takings.flatMap Taking.kept).length +
      (takings.flatMap Taking.lost).length + rest.bytes.length := by
  induction taken with
  | none input => simp
  | @next input middle rest bytes halt more taken _ ih =>
      have whole := congrArg List.length taken.bytes_eq
      simp only [List.length_append] at whole
      simp only [List.flatMap_cons, List.length_append]
      cases halt <;> simp only [Taking.kept, Taking.lost, Halt.bytes, List.length_append,
        List.length_nil] at whole ⊢ <;> omega

/-- Readings that lose nothing keep the bytes in their order. -/
theorem TakesAll.bytes_eq {input rest : Input} {takings : List Taking}
    (taken : TakesAll input takings rest) (nothing : takings.flatMap Taking.lost = []) :
    input.bytes = takings.flatMap Taking.kept ++ rest.bytes := by
  induction taken with
  | none input => rfl
  | @next input middle rest bytes halt more taken _ ih =>
      rw [List.flatMap_cons, List.append_eq_nil_iff] at nothing
      rw [taken.bytes_eq, ih nothing.2, List.flatMap_cons]
      cases halt with
      | failed fault =>
          have empty : bytes = [] := nothing.1
          simp [empty, Taking.kept, Halt.bytes]
      | cramped =>
          have empty : bytes = [] := nothing.1
          simp [empty, Taking.kept, Halt.bytes]
      | newline => simp [Taking.kept]
      | ended => simp [Taking.kept]

/-- Every byte is kept or left exactly if no failed reading has taken any. -/
theorem TakesAll.keeps_iff {input rest : Input} {takings : List Taking}
    (taken : TakesAll input takings rest) :
    input.bytes = takings.flatMap Taking.kept ++ rest.bytes ↔
      ∀ taking ∈ takings, taking.lost = [] := by
  rw [← List.flatMap_eq_nil_iff]
  constructor
  · -- What is lost may occur elsewhere in the bytes as well, but it cannot be counted twice.
    intro kept
    have length := taken.length
    rw [kept, List.length_append] at length
    exact List.length_eq_zero_iff.mp (by omega)
  · exact taken.bytes_eq

/-- A line has arrived: a newline ended it, or the stream ended behind some bytes. -/
def Arrives (bytes : Bytes) (halt : Halt) : Prop :=
  halt = .newline ∨ halt = .ended ∧ bytes ≠ []

theorem answer_of_arrives (step : Nat) {bytes : Bytes} {halt : Halt}
    (arrived : Arrives bytes halt) : answer step bytes halt = .ok (some (ofBytes step bytes)) := by
  rcases arrived with rfl | ⟨rfl, solid⟩
  · rfl
  · rw [answer_ended, if_neg solid]

/-- A line that has arrived had room for all of its bytes. -/
theorem Arrives.roomy {bytes : Bytes} {halt : Halt} (arrived : Arrives bytes halt) :
    halt.roomy bytes = bytes := by
  rcases arrived with rfl | ⟨rfl, -⟩ <;> rfl

theorem Arrives.ne_cramped {bytes : Bytes} {halt : Halt} (arrived : Arrives bytes halt) :
    halt ≠ .cramped := by
  rcases arrived with rfl | ⟨rfl, -⟩ <;> simp

/-- A reading fails, has no room, meets the end of the stream at once, or gives a line. -/
theorem halt_cases (bytes : Bytes) (halt : Halt) :
    (∃ fault, halt = .failed fault) ∨ halt = .cramped ∨ (halt = .ended ∧ bytes = []) ∨
      Arrives bytes halt := by
  cases halt with
  | newline => exact Or.inr (Or.inr (Or.inr (Or.inl rfl)))
  | failed fault => exact Or.inl ⟨fault, rfl⟩
  | cramped => exact Or.inr (Or.inl rfl)
  | ended =>
      by_cases empty : bytes = []
      · exact Or.inr (Or.inr (Or.inl ⟨rfl, empty⟩))
      · exact Or.inr (Or.inr (Or.inr (Or.inr ⟨rfl, empty⟩)))

end Line

namespace Session

/-- The shell with another input. -/
def fed (session : Session World) (input : Input) : Session World := { session with input }

variable {session : Session World} {rest : Input} {bytes : Bytes} {halt : Line.Halt}

/-- A shell reads some bytes. There is room for the first step of its buffer, and for the others
unless the want of room is what ended the bytes. -/
structure Reads (session : Session World) (bytes : Bytes) (halt : Line.Halt) (rest : Input) :
    Prop where
  given : session.CanRead
  taken : Line.Takes session.input bytes halt rest
  permits : Line.Permits (session.memory.lines 0) session.settings.lineGrowth bytes halt

theorem exists_reads (given : session.CanRead) :
    ∃ bytes halt rest, session.Reads bytes halt rest := by
  obtain ⟨bytes, halt, rest, taken, permits⟩ :=
    Line.exists_takes (session.memory.lines 0) session.settings.lineGrowth session.input
  exact ⟨bytes, halt, rest, given, taken, permits⟩

/-- A shell that always has room reads whatever ends a line. -/
theorem Roomy.reads (roomy : session.Roomy) (taken : Line.Takes session.input bytes halt rest)
    (ends : halt ≠ .cramped) : session.Reads bytes halt rest :=
  ⟨roomy.lines 0 0, taken, Line.permits_of_gives ((roomy.lines 0).gives 0 bytes.length) ends⟩

theorem Roomy.exists_reads (roomy : session.Roomy) :
    ∃ bytes halt rest, session.Reads bytes halt rest ∧ halt ≠ .cramped := by
  obtain ⟨bytes, halt, rest, taken, ends⟩ := Line.exists_takes_roomy session.input
  exact ⟨bytes, halt, rest, roomy.reads taken ends, ends⟩

namespace Reads

/-- A reading answers by what it reads. -/
theorem reading (reads : session.Reads bytes halt rest) :
    session.reading =
      ⟨Line.answer session.settings.lineGrowth bytes halt, rest,
        Buffer.growthsFor session.settings.lineGrowth (halt.roomy bytes).length⟩ := by
  obtain ⟨given, taken, permits⟩ := reads
  rw [CanRead, ← session.settings.max_lineGrowth] at given
  rw [← session.settings.max_lineGrowth] at permits
  rw [Session.reading, Line.read_of_takes given taken permits, Settings.max_lineGrowth]

theorem left (reads : session.Reads bytes halt rest) :
    session.behindArrival.input = rest := by
  rw [behindArrival, reads.reading]

theorem arrival_failed {fault : Fault} (reads : session.Reads bytes (.failed fault) rest) :
    session.arrival = .error (.stream fault) := by
  simp only [arrival, reads.reading, Line.answer_failed]

theorem arrival_cramped (reads : session.Reads bytes .cramped rest) :
    session.arrival = .error .allocation := by
  simp only [arrival, reads.reading, Line.answer_cramped]

theorem arrival_ended (reads : session.Reads [] .ended rest) : session.arrival = .ok none := by
  simp only [arrival, reads.reading, Line.answer_ended, if_true]

/-- A line that has arrived is handed on if it can be cut. -/
theorem arrival_arrived (reads : session.Reads bytes halt rest)
    (arrived : Line.Arrives bytes halt) :
    session.arrival = (session.cutting (Utf8.decode bytes)).answer.map
      fun _ => some (Utf8.decode bytes) := by
  simp only [arrival, reads.reading, Line.answer_of_arrives _ arrived, Line.ofBytes_text]

/-- Where there is always room a line that has arrived is handed on. -/
theorem arrival_roomy (reads : session.Reads bytes halt rest) (roomy : session.Roomy)
    (arrived : Line.Arrives bytes halt) : session.arrival = .ok (some (Utf8.decode bytes)) := by
  rw [reads.arrival_arrived arrived, cutting_roomy roomy]
  rfl

end Reads

/-- A shell that has read, and found no line. -/
def advanced (session : Session World) (input : Input) : Session World :=
  { session with input, memory := session.memory.behindLine }

theorem Reads.behindArrival_failed {fault : Fault}
    (reads : session.Reads bytes (.failed fault) rest) :
    session.behindArrival = session.advanced rest := by
  simp only [behindArrival, memoryBehind, text?, reads.reading, Line.answer_failed, advanced]

/-- A cycle on an output stream without faults hands over the line that it takes. -/
theorem step_of_arrives (machine : Machine World) (session : Session World)
    (free : session.output.Unfailing) (roomy : session.Roomy)
    (taken : Line.Takes session.input bytes halt rest) (arrived : Line.Arrives bytes halt) :
    dispatchesOf (session.step machine).events = [wordsOf (Utf8.decode bytes)] := by
  rw [step_eq, ask_unfailing session free]
  simp only [Turn.andThen_events, serve_eq,
    (roomy.reads taken arrived.ne_cramped).arrival_roomy roomy arrived, note_events,
    Turn.map_events, dispatchesOf_append, dispatchesOf_quiet (arrivalEvents_isQuiet _),
    dispatchesOf_execute, List.nil_append]
  rfl

/-- A cycle whose reading fails hands nothing over, and the shell stands behind the failure. -/
theorem step_of_failed (machine : Machine World) (session : Session World)
    (free : session.output.Unfailing) (roomy : session.Roomy) {fault : Fault}
    (taken : Line.Takes session.input bytes (.failed fault) rest) :
    (session.step machine).value = .error (.stream fault) ∧
      dispatchesOf (session.step machine).events = [] ∧
      (session.step machine).session = session.advanced rest := by
  have reads := roomy.reads taken (by simp)
  rw [step_eq, ask_unfailing session free]
  simp only [Turn.andThen_value, Turn.andThen_events, Turn.andThen_session, serve_eq,
    reads.arrival_failed, dispatchesOf_append, dispatchesOf_quiet (arrivalEvents_isQuiet _),
    reads.behindArrival_failed, List.append_nil, and_true, true_and]
  rfl

theorem Roomy.fed (roomy : session.Roomy) (input : Input) : (session.fed input).Roomy := roomy

theorem Roomy.advanced (roomy : session.Roomy) (input : Input) :
    (session.advanced input).Roomy :=
  ⟨fun index => roomy.lines (index + 1), roomy.words⟩

end Session

/-- A failing read takes the bytes in front of it along. The next reading goes on behind it: it
answers by the bytes that follow, where without the failing read it would answer by all of them, and
both leave the same stream. Over any number of readings each byte is in a line, ends one or is left
exactly if no failing read has taken any. A shell that goes on behind the failure hands the words of
the bytes that follow over, as if they were a line. -/
theorem Session.reading_behind_fault (machine : Machine World) (session : Session World)
    (front behind rest : Input) (fault : Fault) (bytes : Bytes) (halt : Line.Halt)
    (roomy : session.Roomy) (free : session.output.Unfailing) (opened : front.Open)
    (answered : fault.isInterruption = false) (taken : Line.Takes behind bytes halt rest)
    (ends : halt ≠ .cramped) :
    let step := session.settings.lineGrowth
    let lines := session.memory.lines
    let failing := Line.read step (front ++ .failed fault :: behind) (lines 0)
    let next := Line.read step failing.rest (lines 1)
    let calm := Line.read step (front ++ behind) (lines 0)
    let broken := (session.fed (front ++ .failed fault :: behind)).step machine
    let whole := (session.fed (front ++ behind)).step machine
    failing.answer = .error (.stream fault) ∧ failing.rest = behind ∧
      next.answer = Line.answer step bytes halt ∧
      calm.answer = Line.answer step (front.bytes ++ bytes) halt ∧
      next.rest = rest ∧ calm.rest = rest ∧
      (∀ (count : Nat) (input : Input), ∃ takings : List Line.Taking,
        takings.length = count ∧
          (Line.readTimes step lines count input).1 =
            takings.map (fun taking => Line.answer step taking.bytes taking.halt) ∧
          (input.bytes =
              takings.flatMap Line.Taking.kept ++
                (Line.readTimes step lines count input).2.bytes ↔
            ∀ taking ∈ takings, taking.lost = [])) ∧
      broken.value = .error (.stream fault) ∧ dispatchesOf broken.events = [] ∧
      (Line.Arrives bytes halt →
        dispatchesOf (broken.session.step machine).events = [wordsOf (Utf8.decode bytes)] ∧
          dispatchesOf whole.events = [wordsOf (Utf8.decode (front.bytes ++ bytes))]) := by
  intro step lines failing next calm broken whole
  have allows (index : Nat) : (lines index).Allows (max step 1) := by
    rw [Settings.max_lineGrowth]
    exact roomy.lines index
  have lost := Line.Takes.failed front fault behind opened answered
  have joined := taken.append front opened
  obtain ⟨failed, left⟩ := Line.read_of_takes_roomy (allows 0) lost (by simp)
  obtain ⟨answer, nextLeft⟩ := Line.read_of_takes_roomy (allows 1) taken ends
  obtain ⟨calmAnswer, calmLeft⟩ := Line.read_of_takes_roomy (allows 0) joined ends
  obtain ⟨value, silent, stands⟩ := Session.step_of_failed machine
    (session.fed (front ++ .failed fault :: behind)) free (roomy.fed _) lost
  refine ⟨failed, left, ?_, calmAnswer, ?_, calmLeft, ?_, value, silent, ?_⟩
  · simp only [next, failing, left, answer]
  · simp only [next, failing, left, nextLeft]
  · intro count input
    obtain ⟨takings, length, answers, all⟩ := Line.readTimes_takesAll allows count input
    exact ⟨takings, length, answers, all.keeps_iff⟩
  · intro arrived
    have line : Line.Arrives (front.bytes ++ bytes) halt := by
      rcases arrived with rfl | ⟨rfl, solid⟩
      · exact Or.inl rfl
      · exact Or.inr ⟨rfl, by simp [solid]⟩
    have tail := Session.step_of_arrives machine (session.advanced behind) free (roomy.advanced _)
      taken arrived
    have entire := Session.step_of_arrives machine (session.fed (front ++ behind)) free
      (roomy.fed _) joined line
    refine ⟨?_, entire⟩
    simp only [broken, stands]
    exact tail

/-- A read that times out within a line: the next line is the tail `say b`. -/
theorem Session.reading_behind_fault_timed_out :
    let front : Input := [.block (Utf8.encode "say a "), .failed (.named .interrupted)]
    let behind : Input := [.block (Utf8.encode "say b" ++ [newline])]
    let session := Session.small []
    let step := session.settings.lineGrowth
    let failing := Line.read step (front ++ .failed (.named .timedOut) :: behind)
    session.Roomy ∧ front.Open ∧ Line.Takes behind (Utf8.encode "say b") .newline [] ∧
      failing.answer = .error (.stream (.named .timedOut)) ∧
      (Line.read step failing.rest).answer =
        Line.answer step (Utf8.encode "say b") .newline ∧
      (Line.read step (front ++ behind)).answer =
        Line.answer step (Utf8.encode "say a say b") .newline := by
  intro front behind session step failing
  have roomy : session.Roomy := Memory.standard_allows (by decide) (by decide)
  have opened : front.Open := by simp only [Input.Open]; decide
  have taken : Line.Takes behind (Utf8.encode "say b") .newline [] :=
    .newline [] (Utf8.encode "say b") [] [] Input.open_nil (by decide)
  obtain ⟨failed, -, tail, whole, -⟩ := Session.reading_behind_fault Machine.small session front
    behind [] (.named .timedOut) (Utf8.encode "say b") .newline roomy ⟨rfl, rfl⟩ opened rfl taken
    (by simp)
  exact ⟨roomy, opened, taken, failed, tail, whole⟩

/-- A read that fails within `say a b`: the reading behind it gives ` b` for the whole line, five
bytes are in no line, and a shell that goes on runs `b`. -/
theorem Session.reading_behind_fault_tail :
    let front : Input := [.block (Utf8.encode "say a")]
    let behind : Input := [.block (Utf8.encode " b\n")]
    let input := front ++ .failed (.named .brokenPipe) :: behind
    let first := (Session.small input).step Machine.small
    let lines := (Session.small input).memory.lines
    (Line.readTimes 1024 lines 2 input).1 =
        [.error (.stream (.named .brokenPipe)), .ok (some ⟨" b", 1024⟩)] ∧
      (Line.readTimes 1024 lines 1 (front ++ behind)).1 = [.ok (some ⟨"say a b", 1024⟩)] ∧
      input.bytes ≠ Utf8.encode " b\n" ++ (Line.readTimes 1024 lines 2 input).2.bytes ∧
      first.value = .error (.stream (.named .brokenPipe)) ∧
      dispatchesOf (first.session.step Machine.small).events = [["b"]] ∧
      dispatchesOf ((Session.small (front ++ behind)).step Machine.small).events =
        [["say", "a", "b"]] := by
  decide +kernel

end PromptShell
