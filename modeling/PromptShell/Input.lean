import PromptShell.Fault
import PromptShell.Text.Utf8
namespace PromptShell

/-- One answer of the stream: a block of bytes or a failed read. -/
inductive Delivery where
  | block (bytes : Bytes)
  | failed (fault : Fault)
  deriving Repr, DecidableEq

/-- The answers that the stream has still to give. An empty block says once that the stream is at
its end, and behind the last answer it is at its end for ever. -/
abbrev Input := List Delivery

/-- One thing that happens on the stream and that a reader notices. -/
inductive StreamEvent where
  | byte (byte : UInt8)
  | ended
  | failed (fault : Fault)
  deriving Repr, DecidableEq

/-- The events of one answer: an interruption is none. -/
def Delivery.events : Delivery → List StreamEvent
  | .block [] => [.ended]
  | .block bytes => bytes.map .byte
  | .failed fault => if fault.isInterruption then [] else [.failed fault]

/-- The events of a stream up to its lasting end. A reader can tell nothing else apart: neither how
bytes are cut into blocks, nor where reads are interrupted. -/
def Input.events (input : Input) : List StreamEvent :=
  input.flatMap Delivery.events

/-- The bytes of one answer. -/
def Delivery.bytes : Delivery → Bytes
  | .block bytes => bytes
  | .failed _ => []

/-- The bytes that the stream still holds. -/
def Input.bytes (input : Input) : Bytes :=
  input.flatMap Delivery.bytes

/-- The stream behind the read part of a block: nothing stays of a block that was read to its
end. -/
def Input.behind (unread : Bytes) (rest : Input) : Input :=
  if unread.isEmpty then rest else .block unread :: rest

@[simp] theorem Input.bytes_nil : Input.bytes [] = [] := rfl

@[simp] theorem Input.bytes_cons (delivery : Delivery) (rest : Input) :
    Input.bytes (delivery :: rest) = delivery.bytes ++ Input.bytes rest := rfl

@[simp] theorem Input.bytes_behind (unread : Bytes) (rest : Input) :
    Input.bytes (Input.behind unread rest) = unread ++ Input.bytes rest := by
  cases unread <;> simp [Input.behind, Delivery.bytes]

end PromptShell
