import PromptShell.Arguments
import PromptShell.CommandList
import PromptShell.Launch
namespace PromptShell.Session

variable {World : Type}

/-- The output stream is flushed before a child may write to it; a fault is reported, and the
child starts all the same. -/
def settleOutput (session : Session World) : Turn World Unit :=
  session.flush.andThen fun fault next =>
    match fault with
    | some fault => next.report fault.message
    | none => next.stay ()

/-- One command line is run: nothing, a command of the shell, or a program. -/
def execute (machine : Machine World) (session : Session World) (words : List String) :
    Turn World Status :=
  (session.note [.dispatched words]).andThen fun _ session =>
    match words with
    | [] => session.stay .proceed
    | command :: _ =>
        match Builtin.find? command with
        | some builtin =>
            (session.log [.running command]).andThen fun _ next =>
              next.perform machine builtin words
        | none =>
            session.settleOutput.andThen fun _ next =>
              (next.log [.launching command]).andThen fun _ next =>
                next.launch machine words

/-- A text is cut into words with the shell's growth step. -/
def cut (session : Session World) (text : String) : Turn World (Except Failure Arguments) :=
  let cutting := Arguments.cut session.settings.argumentGrowth text (session.memory.words 0)
  ⟨cutting.answer, { session with memory := session.memory.behindWords },
    cutting.growths.map fun capacity => .logged (.argumentsGrown capacity)⟩

/-- A text is cut into words, which are run. -/
def executeText (machine : Machine World) (session : Session World) (text : String) :
    Turn World (Except Failure Status) :=
  (session.cut text).andThen fun arguments next =>
    match arguments with
    | .error failure => next.stay (.error failure)
    | .ok arguments => (next.execute machine arguments.texts).map .ok

/-- The prompt is shown. -/
def ask (session : Session World) : Turn World (Option Fault) :=
  session.writeOut .prompted session.settings.prompt

@[simp] theorem ask_input (session : Session World) :
    session.ask.session.input = session.input := by
  simp [ask]

/-- One cycle of the loop; at the end of the input there is no status. -/
def step (machine : Machine World) (session : Session World) :
    Turn World (Except Failure (Option Status)) :=
  session.ask.andThen fun fault next =>
    match fault with
    | some fault => next.stay (.error (.stream fault))
    | none =>
        next.readLine.andThen fun line next =>
          match line with
          | .error failure => next.stay (.error failure)
          | .ok none => (next.log [.endOfInput]).map fun _ => .ok none
          | .ok (some line) => (next.executeText machine line.text).map fun status =>
              status.map some

/-- Running a command line leaves the input alone. -/
@[simp] theorem execute_input (machine : Machine World) (session : Session World)
    (words : List String) :
    (session.execute machine words).session.input = session.input := by
  simp only [execute, Turn.andThen_session, note_session]
  split
  · simp
  · split
    · simp
    · simp only [Turn.andThen_session, settleOutput, launch_input, log_session]
      split <;> simp

@[simp] theorem executeText_input (machine : Machine World) (session : Session World)
    (text : String) : (session.executeText machine text).session.input = session.input := by
  simp only [executeText, Turn.andThen_session]
  split <;> simp [cut]

/-- A cycle with a status has taken at least one byte of the input. -/
theorem step_bytes_lt (machine : Machine World) (session : Session World) (status : Status)
    (went : (session.step machine).value = .ok (some status)) :
    (Input.bytes (session.step machine).session.input).length <
      (Input.bytes session.input).length := by
  unfold step at went ⊢
  simp only [Turn.andThen_value, Turn.andThen_session] at went ⊢
  split at went
  · simp at went
  · simp only [Turn.andThen_value, Turn.andThen_session] at went ⊢
    split at went
    · simp at went
    · simp at went
    · rename_i line arrived
      have := Line.read_bytes_lt _ _ _ line arrived
      simpa [readLine] using this

/-- The loop has ended, and the output stream is flushed once more. -/
def close (session : Session World) : Turn World (Except Failure Unit) :=
  session.flush.map fun fault =>
    match fault with
    | some fault => .error (.stream fault)
    | none => .ok ()

/-- Cycles follow each other until one gives no status, or the status that ends the loop. -/
def run (machine : Machine World) (session : Session World) : Turn World (Except Failure Unit) :=
  let cycle := session.step machine
  match _ : cycle.value with
  | .error failure => cycle.map fun _ => .error failure
  | .ok none => cycle.andThen fun _ next => next.close
  | .ok (some status) =>
      if status.keepsRunning then
        let following := cycle.session.run machine
        ⟨following.value, following.session, cycle.events ++ following.events⟩
      else cycle.andThen fun _ next => next.close
termination_by (Input.bytes session.input).length
decreasing_by exact step_bytes_lt machine session status (by assumption)

/-- A loop is its first cycle, followed by the loop from there on if the cycle's status keeps it
going. -/
theorem run_eq (machine : Machine World) (session : Session World) :
    session.run machine =
      match (session.step machine).value with
      | .error failure => (session.step machine).map fun _ => .error failure
      | .ok none => (session.step machine).andThen fun _ next => next.close
      | .ok (some status) =>
          if status.keepsRunning then
            (session.step machine).andThen fun _ next => next.run machine
          else (session.step machine).andThen fun _ next => next.close := by
  rw [run]
  split <;> rename_i went <;> simp only [went]
  rfl

end PromptShell.Session
