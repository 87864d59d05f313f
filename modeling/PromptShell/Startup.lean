import PromptShell.SharedInput
namespace PromptShell

/-- What the program finds on its standard input: a file that it shares with its children, or a
stream that fails at the first read. -/
inductive StandardInput where
  | file (content : Bytes)
  | failing (fault : Fault)
  deriving Repr

/-- The answers of the input that are for the shell alone. -/
def StandardInput.own : StandardInput → Input
  | .file _ => []
  | .failing fault => [.failed fault]

/-- The bytes that the shell shares with its children. -/
def StandardInput.shared : StandardInput → Bytes
  | .file content => content
  | .failing _ => []

/-- What the program is started with. The arguments are not looked at. -/
structure Startup (World : Type) where
  arguments : List String := []
  input : StandardInput
  output : Sink := {}
  logSetting : Option String := none
  directory : Directory
  world : World
  memory : Memory := .standard

/-- What a logger shows on the error stream, and its complaints about what it was asked to show. The
complaints are written before anything else. -/
structure LogView where
  complaints : List String
  shows : Record → Bool

def LogView.emissions (view : LogView) : List Emission :=
  view.complaints.map fun complaint => .flow .errors (Utf8.encode complaint)

namespace Event

/-- What the shell itself has written in an event, its log included, to the files that its streams
lead to. -/
def own (time : String) (view : LogView) : Event → List Emission
  | logged record =>
      if view.shows record then [.flow .errors (Utf8.encode (record.line time))] else []
  | event => [.flow .output event.ownOutput, .flow .errors event.ownErrors]

/-- What has happened in an event to the files that the streams of the shell lead to. -/
def emissions (time : String) (view : LogView) (event : Event) : List Emission :=
  event.own time view ++ event.emitted?.toList

end Event

/-- What a program does behind its loop: a failure is reported, and decides over the exit code. -/
def Session.conclude {World : Type} (session : Session World) :
    Except Failure Unit → Turn World Nat
  | .ok () => session.stay 0
  | .error failure =>
      (session.report failure.message).map fun _ => if failure.isFatal then 1 else 0

/-- What is left of the program when it has ended. -/
structure Completion where
  code : Nat := 0
  output : Bytes := []
  errors : Bytes := []
  deriving Repr, DecidableEq

namespace Startup

variable {World : Type}

/-- The shell of the program has the default settings. Its children can look up the arguments that
it was started with. -/
def session (machine : Machine World) (startup : Startup World) : Session World where
  settings := {}
  input := startup.input.own
  output := startup.output
  errors := {}
  directory := startup.directory
  world := machine.titled startup.world startup.arguments
  memory := startup.memory

/-- The program runs, unless its loop has not ended behind a number of cycles: the loop, and what is
done behind it. The logger makes a view of the setting that the program finds; `time` is the time
that stands in the log. -/
def run? (machine : Machine World) (logger : Option String → LogView) (time : String) (cycles : Nat)
    (startup : Startup World) : Option (Turn World Nat) :=
  let view := logger startup.logSetting
  let session := startup.session machine
  let told := { session with world := machine.heard session.world view.emissions }
  (told.runSharing? machine (Event.own time view) cycles startup.input.shared).map fun turn =>
    turn.andThen fun outcome next => next.conclude outcome

/-- What is left of a program that has run: its code and the files that its streams lead to. -/
def completion (logger : Option String → LogView) (time : String) (startup : Startup World)
    (turn : Turn World Nat) : Completion :=
  let view := logger startup.logSetting
  let spools := ({} : Spools).afterAll
    (view.emissions ++ turn.events.flatMap (Event.emissions time view))
  { code := turn.value, output := spools.output.content, errors := spools.errors.content }

end Startup
end PromptShell
