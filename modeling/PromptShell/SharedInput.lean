import PromptShell.Prompt
namespace PromptShell

/-- The number of bytes that the shell takes at once from an input that it shares with its children.
A child goes on behind the blocks that were taken. -/
def blockSize : Nat := 8192

/-- The blocks up to the first one with a newline, and what is behind them. -/
def takeBlocks (bytes : Bytes) : Bytes × Bytes :=
  if _ : bytes = [] then ([], [])
  else
    let block := bytes.take blockSize
    let behind := bytes.drop blockSize
    if block.contains newline then (block, behind)
    else
      let (more, rest) := takeBlocks behind
      (block ++ more, rest)
termination_by bytes.length
decreasing_by
  have := List.length_pos_iff.2 ‹¬bytes = []›
  simp only [List.length_drop, blockSize]
  omega

/-- Taking blocks loses nothing. -/
theorem takeBlocks_append (bytes : Bytes) :
    (takeBlocks bytes).1 ++ (takeBlocks bytes).2 = bytes := by
  fun_induction takeBlocks bytes with
  | case1 => simp
  | case2 bytes => exact List.take_append_drop blockSize bytes
  | case3 bytes _ block behind _ more rest _ ih =>
      simp_all only [List.append_assoc]
      exact List.take_append_drop blockSize bytes

/-- A stream on which more bytes have arrived. -/
def Input.followedBy (input : Input) (bytes : Bytes) : Input :=
  if bytes.isEmpty then input else input ++ [.block bytes]

@[simp] theorem Input.bytes_followedBy (input : Input) (bytes : Bytes) :
    Input.bytes (input.followedBy bytes) = Input.bytes input ++ bytes := by
  cases bytes <;> simp [Input.followedBy, Input.bytes, Delivery.bytes]

namespace Session

variable {World : Type}

/-- The blocks that the shell takes before it reads a line, and what is behind them. Nothing is
taken while an earlier block still holds the end of a line. -/
def blocksFor (session : Session World) (behind : Bytes) : Bytes × Bytes :=
  if (Input.bytes session.input).contains newline then ([], behind) else takeBlocks behind

theorem blocksFor_append (session : Session World) (behind : Bytes) :
    (session.blocksFor behind).1 ++ (session.blocksFor behind).2 = behind := by
  simp only [blocksFor]
  split
  · rfl
  · exact takeBlocks_append behind

/-- The machine is told what the shell itself has written in some events. -/
def tell (machine : Machine World) (own : Event → List Emission) (session : Session World)
    (events : List Event) : Session World :=
  { session with world := machine.heard session.world (events.flatMap own) }

/-- The shell has taken blocks, and the children find what is behind them, and the prompt that is
going to be shown. -/
def provide (machine : Machine World) (own : Event → List Emission) (session : Session World)
    (behind : Bytes) : Session World :=
  let (taken, rest) := session.blocksFor behind
  { session with
    input := session.input.followedBy taken
    world := machine.heard (machine.offer session.world rest) (session.ask.events.flatMap own) }

theorem provide_bytes (machine : Machine World) (own : Event → List Emission)
    (session : Session World) (behind : Bytes) :
    Input.bytes (session.provide machine own behind).input =
      Input.bytes session.input ++ (session.blocksFor behind).1 := by
  simp [provide]

/-- Cycles follow each other as in `run`, with streams that the children share, unless the loop has
not ended behind a number of cycles. What the children have put on their input is read as well, so
there need not be a number behind which it has ended. -/
def runSharing? (machine : Machine World) (own : Event → List Emission) :
    Nat → Session World → Bytes → Option (Turn World (Except Failure Unit))
  | 0, _, _ => none
  | cycles + 1, session, behind =>
      let cycle := (session.provide machine own behind).step machine
      match cycle.value with
      | .error failure => some (cycle.map fun _ => .error failure)
      | .ok none => some (cycle.andThen fun _ next => next.close)
      | .ok (some status) =>
          if status.keepsRunning then do
            let told := cycle.session.tell machine own (cycle.events.drop session.ask.events.length)
            let following ← runSharing? machine own cycles told (machine.left told.world)
            return ⟨following.value, following.session, cycle.events ++ following.events⟩
          else some (cycle.andThen fun _ next => next.close)

/-- Nothing is provided where nothing is behind and nobody listens. -/
theorem provide_nil (machine : Machine World) (own : Event → List Emission)
    (session : Session World) (same : ∀ world, machine.offer world [] = world)
    (deaf : ∀ world emissions, machine.heard world emissions = world) :
    session.provide machine own [] = session := by
  simp [provide, blocksFor, takeBlocks, Input.followedBy, same, deaf]

/-- With nothing to share the loop is the one that has its streams for itself. It ends behind a
cycle for each byte and one more. -/
theorem runSharing_nil (machine : Machine World) (own : Event → List Emission)
    (session : Session World) (same : ∀ world, machine.offer world [] = world)
    (deaf : ∀ world emissions, machine.heard world emissions = world)
    (vacant : ∀ world, machine.left world = []) (cycles : Nat)
    (enough : (Input.bytes session.input).length < cycles) :
    session.runSharing? machine own cycles [] = some (session.run machine) := by
  induction cycles generalizing session with
  | zero => exact absurd enough (Nat.not_lt_zero _)
  | succ cycles ih =>
      rw [runSharing?, run_eq, provide_nil machine own session same deaf]
      cases went : (session.step machine).value with
      | error failure => rfl
      | ok outcome =>
        cases outcome with
        | none => rfl
        | some status =>
          have shorter := step_bytes_lt machine session status went
          have following := ih (session.step machine).session (by omega)
          cases keeps : status.keepsRunning <;>
            simp [Turn.andThen, keeps, vacant, following, tell, deaf]

end Session
end PromptShell
