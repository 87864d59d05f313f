import PromptShell.Failure
import PromptShell.Growth
import PromptShell.Input
namespace PromptShell

/-- The byte that ends a line. -/
def newline : UInt8 := 0x0A

/-- A line without its newline, and the capacity of the buffer that held its bytes. -/
structure Line where
  text : String
  capacity : Nat
  deriving Repr, DecidableEq

/-- A line made of a text has room for exactly that text. -/
def Line.ofText (text : String) : Line := ⟨text, Utf8.size text⟩

namespace Line

/-- What ended the gathering of bytes. A byte that filled the buffer ends it if there is no room to
grow. -/
inductive Halt where
  | newline
  | ended
  | failed (fault : Fault)
  | cramped
  deriving Repr, DecidableEq

/-- One block is stored up to what ends the line in it; what is behind that is unread. -/
def scan (allocator : Allocator) (buffer : Buffer UInt8) :
    Bytes → Buffer UInt8 × Option (Halt × Bytes)
  | [] => (buffer, none)
  | byte :: rest =>
      if byte = PromptShell.newline then (buffer, some (.newline, rest))
      else match buffer.store allocator byte with
        | .ok next => scan allocator next rest
        | .error full => (full, some (.cramped, rest))

/-- Bytes are stored until the stream gives a newline, its end or a fault, or there is no room for
more. -/
def gather (allocator : Allocator) (buffer : Buffer UInt8) :
    Input → Buffer UInt8 × Halt × Input
  | [] => (buffer, .ended, [])
  | .block [] :: rest => (buffer, .ended, rest)
  | .block bytes :: rest =>
      match scan allocator buffer bytes with
      | (filled, some (halt, unread)) => (filled, halt, Input.behind unread rest)
      | (filled, none) => gather allocator filled rest
  | .failed fault :: rest =>
      if fault.isInterruption then gather allocator buffer rest
      else (buffer, .failed fault, rest)

/-- The line that a filled buffer holds. -/
def ofBuffer (buffer : Buffer UInt8) : Line :=
  ⟨Utf8.decode buffer.items.toList, buffer.capacity⟩

/-- The answer of one reading, the stream behind it, and the capacities that the buffer grew to. -/
structure Reading where
  answer : Except Failure (Option Line)
  rest : Input
  growths : List Nat

/-- A stream that ends before any byte gives no line; one that ends later gives a last line. -/
def settle (buffer : Buffer UInt8) : Halt → Except Failure (Option Line)
  | .failed fault => .error (.stream fault)
  | .cramped => .error .allocation
  | .newline => .ok (some (ofBuffer buffer))
  | .ended => .ok (if buffer.items.isEmpty then none else some (ofBuffer buffer))

/-- One line is read with a buffer that grows in steps of the given size. Bytes are gathered up to
the first newline, end or fault of the stream, which is left exactly behind it. A fault takes the
bytes gathered before it along, and so does a buffer that cannot grow. -/
def read (step : Nat) (input : Input) (allocator : Allocator := .standard) : Reading :=
  match Buffer.allocate? allocator (max step 1) with
  | none => ⟨.error .allocation, input, []⟩
  | some buffer =>
      let gathered := gather allocator buffer input
      ⟨settle gathered.1 gathered.2.1, gathered.2.2, gathered.1.growths.toList⟩

/-- The stream behind a scan holds what the block held behind the end of the line. -/
theorem scan_unread {allocator : Allocator} {buffer filled : Buffer UInt8} {bytes unread : Bytes}
    {halt : Halt} (found : scan allocator buffer bytes = (filled, some (halt, unread))) :
    unread.length < bytes.length := by
  induction bytes generalizing buffer with
  | nil => simp [scan] at found
  | cons byte rest ih =>
      simp only [scan] at found
      split at found
      · simp only [Prod.mk.injEq, Option.some.injEq] at found
        obtain ⟨-, -, rfl⟩ := found
        simp
      · split at found
        · have := ih found
          simp only [List.length_cons]
          omega
        · simp only [Prod.mk.injEq, Option.some.injEq] at found
          obtain ⟨-, -, rfl⟩ := found
          simp

/-- Gathering never adds bytes to the stream. -/
theorem gather_bytes_le (allocator : Allocator) (buffer : Buffer UInt8) (input : Input) :
    (Input.bytes (gather allocator buffer input).2.2).length ≤ (Input.bytes input).length := by
  fun_induction gather allocator buffer input with
  | case1 => simp
  | case2 => simp [Delivery.bytes]
  | case3 buffer bytes rest _ filled halt unread found =>
      have := scan_unread found
      simp only [Input.bytes_behind, Input.bytes_cons, Delivery.bytes, List.length_append]
      omega
  | case4 buffer bytes rest _ filled missed ih =>
      simp only [Input.bytes_cons, List.length_append]
      omega
  | case5 buffer fault rest interrupted ih => simpa [Delivery.bytes] using ih
  | case6 buffer fault rest answered => simp [Delivery.bytes]

/-- A gathering that ends with a newline, or that stored a byte, took a byte from the stream. -/
theorem gather_bytes_lt (allocator : Allocator) (buffer : Buffer UInt8) (input : Input)
    (progress : (gather allocator buffer input).2.1 = .newline ∨
      buffer.items.size < (gather allocator buffer input).1.items.size) :
    (Input.bytes (gather allocator buffer input).2.2).length < (Input.bytes input).length := by
  fun_induction gather allocator buffer input with
  | case1 => simp at progress
  | case2 => simp at progress
  | case3 buffer bytes rest _ filled halt unread found =>
      have := scan_unread found
      simp only [Input.bytes_behind, Input.bytes_cons, Delivery.bytes, List.length_append]
      omega
  | case4 buffer bytes rest solid filled missed ih =>
      have := gather_bytes_le allocator filled rest
      cases bytes with
      | nil => exact absurd rfl (solid)
      | cons byte tail =>
          simp only [Input.bytes_cons, Delivery.bytes, List.length_append, List.length_cons]
          omega
  | case5 buffer fault rest interrupted ih => simpa [Delivery.bytes] using ih progress
  | case6 buffer fault rest answered => simp at progress

/-- Each line that is read takes at least one byte from the stream. -/
theorem read_bytes_lt (step : Nat) (input : Input) (allocator : Allocator) (line : Line)
    (arrived : (read step input allocator).answer = .ok (some line)) :
    (Input.bytes (read step input allocator).rest).length < (Input.bytes input).length := by
  revert arrived
  unfold read
  split
  · intro arrived
    exact absurd arrived (by simp)
  · rename_i buffer allocated
    intro arrived
    have fresh : buffer.items.size = 0 := by
      simp only [Buffer.allocate?] at allocated
      split at allocated
      · obtain rfl := Option.some.inj allocated
        rfl
      · simp at allocated
    apply gather_bytes_lt
    cases halt : (gather allocator buffer input).2.1 with
    | newline => exact Or.inl rfl
    | failed fault => simp [settle, halt] at arrived
    | cramped => simp [settle, halt] at arrived
    | ended =>
        right
        simp only [settle, halt] at arrived
        by_cases vacant : (gather allocator buffer input).1.items.isEmpty = true
        · simp [vacant] at arrived
        · simp only [Array.isEmpty_iff_size_eq_zero] at vacant
          omega

end Line
end PromptShell
