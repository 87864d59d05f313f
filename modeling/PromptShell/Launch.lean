import PromptShell.Session
namespace PromptShell

/-- The first argument that holds the zero character, which ends an argument on its way to a
program. -/
def firstUnsendable? (words : List String) : Option String :=
  words.find? fun word => word.toList.contains '\x00'

/-- The failure that keeps words from being started as a program. -/
def startFailure? (words : List String) : Option Failure :=
  match firstUnsendable? words with
  | some word => some (.invalidArgument word)
  | none => if words.isEmpty then some (.invalidArgument "") else none

namespace Session

variable {World : Type}

/-- The end of a child is waited for. -/
def awaitChild (machine : Machine World) (session : Session World) (process : Nat)
    (course : Course) : Turn World (Except Failure ChildEnd) :=
  let wait := awaitEnd (machine.reports session.world course)
  let known := wait.fault.elim session.world (machine.failed session.world)
  ({ session with world := known }.log (wait.notices.map (.stillRunning process))).andThen
    fun _ next =>
    match wait.outcome with
    | .ok ending => next.stay (.ok ending)
    | .error errno =>
        (next.log [.waitFailed process errno]).map fun _ => .error (.system errno)

/-- The child has been split off and runs the program, and its end is waited for. -/
def attend (machine : Machine World) (session : Session World) (words : List String)
    (started : Started World) : Turn World (Except Failure ChildEnd) :=
  let course := started.course
  (session.note [.started session.directory (words.map Utf8.encode),
      .logged (.spawned (words.headD "") started.process)]).andThen fun _ next =>
    ({ next with world := started.world }.note (course.emissions.map .emitted)).andThen
      fun _ next => next.awaitChild machine started.process course

/-- A child is split off, which runs the program in the shell's directory. -/
def spawn (machine : Machine World) (session : Session World) (words : List String) :
    Turn World (Except Failure ChildEnd) :=
  match machine.start session.world session.directory (words.map Utf8.encode) with
  | .ok started => session.attend machine words started
  | .error errno =>
      ({ session with world := machine.failed session.world errno }.log [.forkFailed errno]).map
        fun _ => .error (.system errno)

/-- The words are run as a program, and its end is told. -/
def runProgram (machine : Machine World) (session : Session World) (words : List String) :
    Turn World (Except Failure ChildEnd) :=
  match startFailure? words with
  | some failure => session.stay (.error failure)
  | none => session.spawn machine words

/-- The words are run as a program; a failure to do so is reported. However the program ends, the
launch succeeds; it fails only if an argument cannot be handed over, no child can be split off, or
the wait has an error. -/
def launch (machine : Machine World) (session : Session World) (words : List String) :
    Turn World Status :=
  (session.runProgram machine words).andThen fun outcome next =>
    match outcome with
    | .ok ending =>
        (next.log [.finished (words.headD "") ending]).map fun _ => .proceed
    | .error failure => next.fail failure

@[simp] theorem awaitChild_input (machine : Machine World) (session : Session World)
    (process : Nat) (course : Course) :
    (session.awaitChild machine process course).session.input = session.input := by
  simp only [awaitChild, Turn.andThen_session]
  split <;> simp

@[simp] theorem spawn_input (machine : Machine World) (session : Session World)
    (words : List String) : (session.spawn machine words).session.input = session.input := by
  simp only [spawn]
  split <;> simp [attend]

@[simp] theorem runProgram_input (machine : Machine World) (session : Session World)
    (words : List String) :
    (session.runProgram machine words).session.input = session.input := by
  simp only [runProgram]
  split <;> simp

/-- A launch leaves the shell's input alone. -/
@[simp] theorem launch_input (machine : Machine World) (session : Session World)
    (words : List String) :
    (session.launch machine words).session.input = session.input := by
  simp only [launch, Turn.andThen_session]
  split <;> simp

end Session
end PromptShell
