import PromptShell.Fault
import PromptShell.Text.Utf8
namespace PromptShell

/-- The bytes that a sink still takes, the flushes that still succeed, and the fault of every
other call; nothing stands for no limit. -/
structure Sink where
  room : Option Nat := none
  flushes : Option Nat := none
  fault : Fault := .named .brokenPipe
  deriving Repr, DecidableEq

namespace Sink

/-- The bytes that a write left in the sink, the sink behind it, and its fault. -/
structure Writing where
  taken : Bytes
  sink : Sink
  fault : Option Fault

/-- A write puts in what fits and fails if anything is left over. -/
def write (sink : Sink) (bytes : Bytes) : Writing :=
  match sink.room with
  | none => ⟨bytes, sink, none⟩
  | some room =>
      ⟨bytes.take room, { sink with room := some (room - bytes.length) },
        if bytes.length ≤ room then none else some sink.fault⟩

/-- A flush succeeds as long as flushes are left. -/
def flush (sink : Sink) : Sink × Option Fault :=
  match sink.flushes with
  | none => (sink, none)
  | some 0 => (sink, some sink.fault)
  | some (left + 1) => ({ sink with flushes := some left }, none)

/-- A sink without limits takes every write. -/
theorem write_unlimited (sink : Sink) (bytes : Bytes) (free : sink.room = none) :
    sink.write bytes = ⟨bytes, sink, none⟩ := by
  simp [write, free]

/-- The bytes of two writes are those of one write of both. -/
theorem write_append (sink : Sink) (first second : Bytes) :
    (sink.write (first ++ second)).taken =
      (sink.write first).taken ++ ((sink.write first).sink.write second).taken := by
  cases room : sink.room with
  | none => simp [write, room]
  | some room => simp [write, room, List.take_append]

/-- Nothing is ever refused from an empty write. -/
@[simp] theorem write_nil (sink : Sink) : (sink.write []).fault = none := by
  cases room : sink.room <;> simp [write, room]

end Sink
end PromptShell
