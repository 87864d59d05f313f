import PromptShell.Proofs.DecisiveEvent
import PromptShell.Proofs.GrowthSteps
import PromptShell.Proofs.JoinedLines
namespace PromptShell

variable {World : Type}

namespace Line

/-- The events of a stream that is at a typed line, and those behind the line. The bytes of the text
come first, and a newline ends them. The end of the stream will do for a text that is not empty; the
lasting one leaves nothing behind. -/
inductive Typed (text : String) : List StreamEvent → List StreamEvent → Prop
  | newline (continuation : List StreamEvent) :
      Typed text ((Utf8.encode text).map .byte ++ .byte PromptShell.newline :: continuation)
        continuation
  | ended (continuation : List StreamEvent) (solid : text ≠ "") :
      Typed text ((Utf8.encode text).map .byte ++ .ended :: continuation) continuation
  | exhausted (solid : text ≠ "") : Typed text ((Utf8.encode text).map .byte) []

variable {text : String} {events continuation : List StreamEvent}

/-- A typed line is decided by what ends it, and arrives. -/
theorem Typed.decision (typed : Typed text events continuation) (single : '\n' ∉ text.toList) :
    ∃ halt, decision events = ⟨Utf8.encode text, halt, continuation⟩ ∧
      Arrives (Utf8.encode text) halt := by
  have free : PromptShell.newline ∉ Utf8.encode text := mt (newline_mem_encode_iff text).mp single
  have filled (solid : text ≠ "") : Utf8.encode text ≠ [] :=
    mt (Utf8.encode_eq_nil_iff text).mp solid
  cases typed with
  | newline =>
      refine ⟨.newline, ?_, .inl rfl⟩
      rw [decision_bytes _ _ free]
      simp [Line.decision]
  | ended _ solid =>
      refine ⟨.ended, ?_, .inr ⟨rfl, filled solid⟩⟩
      rw [decision_bytes _ _ free]
      simp [Line.decision]
  | exhausted solid =>
      refine ⟨.ended, ?_, .inr ⟨rfl, filled solid⟩⟩
      rw [← List.append_nil (List.map _ _), decision_bytes _ _ free]
      simp [Line.decision]

/-- A typed line is read as its text, and what follows it is left. -/
theorem Typed.read {allocator : Allocator} {step : Nat} (allows : allocator.Allows (max step 1))
    {input : Input} (typed : Typed text input.events continuation) (single : '\n' ∉ text.toList) :
    (read step input allocator).answer = .ok (some (ofBytes step (Utf8.encode text))) ∧
      Input.events (Line.read step input allocator).rest = continuation := by
  obtain ⟨halt, decided, arrived⟩ := typed.decision single
  rw [read_answer allows input, events_read allows input, decided]
  refine ⟨?_, rfl⟩
  rcases arrived with rfl | ⟨rfl, solid⟩
  · rfl
  · simp [Decision.answer, solid]

/-- Of the answers behind a line, the interrupted ones among them, a reading takes none. -/
theorem script_read {allocator : Allocator} {step : Nat} (allows : allocator.Allows (max step 1))
    (input : Input) : Input.script (read step input allocator).rest = input.beyond := by
  obtain ⟨bytes, halt, rest, taken, roomy⟩ := exists_takes_roomy input
  obtain ⟨event, ends⟩ := halt.exists_event roomy
  rw [(read_of_takes_roomy allows taken roomy).2, (taken.script ends).2.2]

end Line

/-- The shell with another input and another memory. -/
def Session.supplied (session : Session World) (input : Input) (memory : Memory) :
    Session World :=
  { session with input, memory }

/-- The turn of a shell that has another input and another memory to leave alone. -/
def Turn.supplied {Value : Type} (turn : Turn World Value) (input : Input) (memory : Memory) :
    Turn World Value :=
  ⟨turn.value, turn.session.supplied input memory, turn.events⟩

/-- What two turns leave alone is left alone by both in a row. -/
theorem Turn.andThen_supplied {Value Result : Type} (turn : Turn World Value) (input : Input)
    (memory : Memory) {next : Value → Session World → Turn World Result}
    (leaves : ∀ value session,
      next value (session.supplied input memory) = (next value session).supplied input memory) :
    (turn.supplied input memory).andThen next = (turn.andThen next).supplied input memory := by
  simp only [andThen, supplied, leaves]

namespace Session

variable (session : Session World) (input : Input) (memory : Memory)

theorem writeOut_supplied (event : Bytes → Event) (text : String) :
    (session.supplied input memory).writeOut event text =
      (session.writeOut event text).supplied input memory := by
  apply Turn.andThen_supplied (session.write event text) input memory
  intro fault next
  cases fault <;> rfl

theorem settleIf_supplied (settles : Bool) :
    (session.supplied input memory).settleIf settles =
      (session.settleIf settles).supplied input memory := by
  cases settles with
  | false => rfl
  | true =>
      simp only [settleIf, if_true, settleOutput]
      apply Turn.andThen_supplied session.flush input memory
      intro fault next
      cases fault <;> rfl

theorem finish_supplied (ending : Ending) :
    (session.supplied input memory).finish ending =
      (session.finish ending).supplied input memory := by
  cases ending with
  | done status => rfl
  | failed failure => rfl
  | described =>
      simp only [finish, printHelp, writeOut_supplied]
      apply Turn.andThen_supplied (session.writeOut .printed Builtin.helpText) input memory
      intro fault next
      cases fault <;> rfl

/-- The execution of a line looks at no input and needs no room. -/
theorem execute_supplied (machine : Machine World) (words : List String) :
    (session.supplied input memory).execute machine words =
      (session.execute machine words).supplied input memory := by
  have same : (session.supplied input memory).place = session.place := rfl
  rw [execute_eq, execute_eq, same]
  -- The line is handed over, settles, has its effect and ends, and no part looks at the input.
  apply Turn.andThen_supplied (session.note [.dispatched words]) input memory
  intro _ next
  rw [settleIf_supplied]
  apply Turn.andThen_supplied (next.settleIf _) input memory
  intro _ next
  apply Turn.andThen_supplied ((next.moved _).note _) input memory
  intro _ next
  exact next.finish_supplied input memory _

end Session

/-- A cycle on a typed line and the execution of its text. Both have one status, run one list of
words, and do the same apart from the prompt and the reading in front of the execution; the cycle
leaves the shell at what follows the line. -/
structure Session.StepsAs (machine : Machine World) (session : Session World) (text : String)
    (continuation : List StreamEvent) (status : Status) (arguments : Arguments) : Prop where
  /-- The line that is read has the text, and the list of words of both is cut from it. -/
  line : ∃ line : Line, session.reading.answer = .ok (some line) ∧ line.text = text ∧
    (session.behindLine.cutting line.text).answer = .ok arguments ∧
    (session.cutting (Line.ofText text).text).answer = .ok arguments
  dispatched : dispatchesOf (session.step machine).events = [arguments.texts] ∧
    dispatchesOf (session.executeText machine text).events = [arguments.texts]
  statuses : (session.step machine).value = .ok (some status) ∧
    (session.executeText machine text).value = .ok status ∧
    (session.execute machine arguments.texts).value = status
  errors : errorsOf (session.step machine).events =
    errorsOf (session.executeText machine text).events
  children : startsOf (session.step machine).events =
      startsOf (session.executeText machine text).events ∧
    emissionsOf (session.step machine).events =
      emissionsOf (session.executeText machine text).events
  output : outputOf (session.step machine).events = Utf8.encode session.settings.prompt ++
    outputOf (session.executeText machine text).events
  events : (session.step machine).events =
    [.prompted (Utf8.encode session.settings.prompt), .flushed true] ++ session.readingEvents ++
      (session.executeText machine text).events
  directory : (session.step machine).session.directory =
    (session.executeText machine text).session.directory
  /-- Of the state, the cycle has taken the line from the input and the buffer of the line. -/
  state : (session.step machine).session =
    (session.executeText machine text).session.advanced (session.step machine).session.input
  input : (session.step machine).session.input.events = continuation ∧
    (session.step machine).session.input.script = session.input.beyond

namespace Session

variable {session : Session World} {text : String} {continuation : List StreamEvent}

/-- A typed line is served by the execution of its text behind the reading. -/
theorem serve_typed (machine : Machine World) (roomy : session.Roomy)
    (typed : Line.Typed text session.input.events continuation) (single : '\n' ∉ text.toList) :
    session.serve machine =
      let executed := session.executeText machine text
      ⟨executed.value.map some, executed.session.advanced session.reading.rest,
        session.readingEvents ++ executed.events⟩ := by
  have allows := roomy.lines 0
  rw [← session.settings.max_lineGrowth] at allows
  have answer : session.reading.answer = _ := (typed.read allows single).1
  have cut := cutting_roomy roomy text
  have found : session.text? = some text := by
    simp only [text?, answer, Line.ofBytes_text, Utf8.decode_encode]
  have arrived : session.arrival = .ok (some text) := by
    simp only [arrival, answer, Line.ofBytes_text, Utf8.decode_encode, cut]
    rfl
  have events : session.arrivalEvents =
      session.readingEvents ++ session.cuttingEvents text := by
    rw [arrivalEvents, found]
    rfl
  have behind : session.behindArrival =
      session.supplied session.reading.rest session.memory.behindLine.behindWords := by
    rw [behindArrival, memoryBehind, found]
    rfl
  have words : session.behindWords =
      session.supplied session.input session.memory.behindWords := rfl
  rw [executeText_eq, serve_eq, arrived, events, behind, words, cut]
  simp only [Turn.andThen, note, execute_supplied, Turn.map, Turn.supplied, Except.map,
    List.append_assoc]
  rfl

/-- A cycle on a typed line executes its text behind the prompt and the reading. -/
theorem step_eq_executeText (machine : Machine World) (free : session.output.Unfailing)
    (roomy : session.Roomy) (typed : Line.Typed text session.input.events continuation)
    (single : '\n' ∉ text.toList) :
    session.step machine =
      let executed := session.executeText machine text
      ⟨executed.value.map some, executed.session.advanced session.reading.rest,
        [.prompted (Utf8.encode session.settings.prompt), .flushed true] ++
          session.readingEvents ++ executed.events⟩ := by
  rw [step_eq, ask_unfailing session free]
  simp only [Turn.andThen, serve_typed machine roomy typed single, List.append_assoc]

/-- The words of a text whose list finds room are run. -/
theorem exists_arguments (machine : Machine World) (roomy : session.Roomy) (text : String) :
    ∃ arguments : Arguments, (session.cutting text).answer = .ok arguments ∧
      (session.executeText machine text).value =
        .ok (session.execute machine arguments.texts).value ∧
      dispatchesOf (session.executeText machine text).events = [arguments.texts] := by
  have cut := congrArg Arguments.Cutting.answer (cutting_roomy roomy text)
  have texts := texts_of_cutting cut
  have words : session.behindWords =
      session.supplied session.input session.memory.behindWords := rfl
  refine ⟨_, cut, ?_, ?_⟩
  · rw [texts, executeText_eq, cut, words]
    simp only [Turn.andThen_value, note, Turn.map_value, execute_supplied, Turn.supplied]
  · rw [texts, executeText_eq, cut, Turn.andThen_events, dispatchesOf_append, note_events,
      dispatchesOf_quiet (session.cuttingEvents_isQuiet text)]
    exact session.behindWords.dispatchesOf_execute machine (wordsOf text)

/-- To type a line is to execute its text. Whatever the machine, the state of the shell and the text
of the line, a cycle that finds the line on its input ends with the status of the execution, by the
same words and with the same effect, and shows the prompt in front of it. What follows the line
stays on the input. -/
theorem step_typed (machine : Machine World) (session : Session World) (text : String)
    (continuation : List StreamEvent) (free : session.output.Unfailing)
    (roomy : session.Roomy)
    (single : '\n' ∉ text.toList) (typed : Line.Typed text session.input.events continuation) :
    ∃ status arguments, session.StepsAs machine text continuation status arguments := by
  have allows := roomy.lines 0
  rw [← session.settings.max_lineGrowth] at allows
  have cycle := step_eq_executeText machine free roomy typed single
  obtain ⟨answer, left⟩ := typed.read allows single
  obtain ⟨arguments, cut, value, dispatched⟩ := exists_arguments machine roomy text
  have same : (Line.ofBytes session.settings.lineGrowth (Utf8.encode text)).text = text := by
    rw [Line.ofBytes_text, Utf8.decode_encode]
  obtain ⟨outputs, errors, dispatches, starts, emissions⟩ :=
    quiet_silent session.readingEvents_isQuiet
  refine ⟨(session.execute machine arguments.texts).value, arguments, ?_⟩
  constructor
  case line => exact ⟨_, answer, same, by rw [same]; exact cut, cut⟩
  case dispatched =>
    refine ⟨?_, dispatched⟩
    rw [cycle]
    simp only [dispatchesOf_append, dispatches, dispatched]
    rfl
  case statuses =>
    refine ⟨?_, value, rfl⟩
    rw [cycle]
    simp only [value]
    rfl
  case errors =>
    rw [cycle]
    simp only [errorsOf_append, errors]
    rfl
  case children =>
    rw [cycle]
    simp only [startsOf_append, emissionsOf_append, starts, emissions]
    exact ⟨rfl, rfl⟩
  case output =>
    rw [cycle]
    simp only [outputOf_append, outputs, List.append_nil]
    congr 1
    exact List.append_nil _
  case events => rw [cycle]
  case directory => rw [cycle]; rfl
  case state => rw [cycle]; rfl
  case input =>
    rw [cycle]
    exact ⟨left, Line.script_read allows session.input⟩

/-- A line that comes in two blocks with an interruption between them, and a line that the end of
the stream ends. -/
theorem step_typed_small :
    let session := Session.small
      [.block (Utf8.encode "say "), .failed (.system 4), .block (Utf8.encode "é\nexit\n")]
    let last := Session.small [.block (Utf8.encode "cd  sub")]
    (∃ status arguments, session.StepsAs Machine.small "say é"
      ((Utf8.encode "exit\n").map .byte) status arguments) ∧
      ∃ status arguments, last.StepsAs Machine.small "cd  sub" [] status arguments := by
  intro session last
  have events : session.input.events = (Utf8.encode "say é").map .byte ++
      .byte newline :: (Utf8.encode "exit\n").map .byte := by decide
  have typed : Line.Typed "say é" session.input.events ((Utf8.encode "exit\n").map .byte) := by
    rw [events]
    exact .newline _
  have lastEvents : last.input.events = (Utf8.encode "cd  sub").map .byte := by decide
  have lastTyped : Line.Typed "cd  sub" last.input.events [] := by
    rw [lastEvents]
    exact .exhausted (by decide)
  have roomy : session.Roomy := Memory.standard_allows (by decide) (by decide)
  have lastRoomy : last.Roomy := Memory.standard_allows (by decide) (by decide)
  exact ⟨step_typed Machine.small session "say é" _ ⟨rfl, rfl⟩ roomy (by decide) typed,
    step_typed Machine.small last "cd  sub" [] ⟨rfl, rfl⟩ lastRoomy (by decide) lastTyped⟩

end Session
end PromptShell
