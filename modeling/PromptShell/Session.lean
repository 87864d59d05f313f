import PromptShell.Line
import PromptShell.Machine
import PromptShell.Settings
import PromptShell.Sink
import PromptShell.Status
namespace PromptShell

/-- A shell between two actions. -/
structure Session (World : Type) where
  settings : Settings
  input : Input
  output : Sink
  errors : Sink
  directory : Directory
  world : World
  memory : Memory := .standard

/-- The value of an action, the state behind it, and what happened. -/
structure Turn (World Value : Type) where
  value : Value
  session : Session World
  events : List Event

namespace Turn

variable {World Value Result : Type}

/-- The next action starts where the turn ended. -/
def andThen (turn : Turn World Value) (next : Value → Session World → Turn World Result) :
    Turn World Result :=
  let following := next turn.value turn.session
  ⟨following.value, following.session, turn.events ++ following.events⟩

/-- The value of a turn is replaced. -/
def map (turn : Turn World Value) (change : Value → Result) : Turn World Result :=
  ⟨change turn.value, turn.session, turn.events⟩

@[simp] theorem andThen_value (turn : Turn World Value)
    (next : Value → Session World → Turn World Result) :
    (turn.andThen next).value = (next turn.value turn.session).value := rfl

@[simp] theorem andThen_session (turn : Turn World Value)
    (next : Value → Session World → Turn World Result) :
    (turn.andThen next).session = (next turn.value turn.session).session := rfl

@[simp] theorem andThen_events (turn : Turn World Value)
    (next : Value → Session World → Turn World Result) :
    (turn.andThen next).events = turn.events ++ (next turn.value turn.session).events := rfl

@[simp] theorem map_value (turn : Turn World Value) (change : Value → Result) :
    (turn.map change).value = change turn.value := rfl

@[simp] theorem map_session (turn : Turn World Value) (change : Value → Result) :
    (turn.map change).session = turn.session := rfl

@[simp] theorem map_events (turn : Turn World Value) (change : Value → Result) :
    (turn.map change).events = turn.events := rfl

end Turn

namespace Session

variable {World Value : Type}

/-- Nothing happens. -/
def stay (session : Session World) (value : Value) : Turn World Value := ⟨value, session, []⟩

/-- Something happens that leaves the state alone. -/
def note (session : Session World) (events : List Event) : Turn World Unit :=
  ⟨(), session, events⟩

/-- Records are logged. -/
def log (session : Session World) (records : List Record) : Turn World Unit :=
  session.note (records.map .logged)

/-- A text is written to the output stream; the event tells what the stream took. -/
def write (session : Session World) (event : Bytes → Event) (text : String) :
    Turn World (Option Fault) :=
  let writing := session.output.write (Utf8.encode text)
  ⟨writing.fault, { session with output := writing.sink }, [event writing.taken]⟩

/-- The output stream is flushed. -/
def flush (session : Session World) : Turn World (Option Fault) :=
  let flushing := session.output.flush
  ⟨flushing.2, { session with output := flushing.1 }, [.flushed flushing.2.isNone]⟩

/-- A text is written and flushed; the first fault ends the action. -/
def writeOut (session : Session World) (event : Bytes → Event) (text : String) :
    Turn World (Option Fault) :=
  (session.write event text).andThen fun fault next =>
    match fault with
    | some fault => next.stay (some fault)
    | none => next.flush

/-- A message is reported as one line on the error stream, which is then flushed. There is nowhere
to tell of a fault of that stream. -/
def report (session : Session World) (message : String) : Turn World Unit :=
  let writing := session.errors.write (Utf8.encode (reportLine message))
  ⟨(), { session with errors := writing.sink.flush.1 }, [.reported message writing.taken]⟩

/-- A failure is reported, and the command has failed. -/
def fail (session : Session World) (failure : Failure) : Turn World Status :=
  (session.report failure.message).map fun _ => .failed

/-- A line is read from the input stream. -/
def readLine (session : Session World) : Turn World (Except Failure (Option Line)) :=
  let reading := Line.read session.settings.lineGrowth session.input (session.memory.lines 0)
  ⟨reading.answer, { session with input := reading.rest, memory := session.memory.behindLine },
    .awaited :: reading.growths.map fun capacity => .logged (.lineGrown capacity)⟩

@[simp] theorem stay_session (session : Session World) (value : Value) :
    (session.stay value).session = session := rfl

@[simp] theorem stay_value (session : Session World) (value : Value) :
    (session.stay value).value = value := rfl

@[simp] theorem stay_events (session : Session World) (value : Value) :
    (session.stay value).events = [] := rfl

@[simp] theorem note_session (session : Session World) (events : List Event) :
    (session.note events).session = session := rfl

@[simp] theorem note_events (session : Session World) (events : List Event) :
    (session.note events).events = events := rfl

@[simp] theorem log_session (session : Session World) (records : List Record) :
    (session.log records).session = session := rfl

@[simp] theorem log_events (session : Session World) (records : List Record) :
    (session.log records).events = records.map .logged := rfl

@[simp] theorem write_input (session : Session World) (event : Bytes → Event) (text : String) :
    (session.write event text).session.input = session.input := rfl

@[simp] theorem flush_input (session : Session World) :
    session.flush.session.input = session.input := rfl

@[simp] theorem report_input (session : Session World) (message : String) :
    (session.report message).session.input = session.input := rfl

@[simp] theorem fail_input (session : Session World) (failure : Failure) :
    (session.fail failure).session.input = session.input := rfl

@[simp] theorem writeOut_input (session : Session World) (event : Bytes → Event) (text : String) :
    (session.writeOut event text).session.input = session.input := by
  simp only [writeOut, Turn.andThen_session]
  split <;> simp

end Session
end PromptShell
