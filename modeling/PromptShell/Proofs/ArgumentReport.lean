import PromptShell.Proofs.Crossing
import PromptShell.Proofs.QuotedText
import PromptShell.Proofs.Transcript
import PromptShell.Proofs.TypedLine
namespace PromptShell

variable {World : Type}

/-- What a report says in front of an argument. -/
def argumentFront : String := "lsh: invalid argument: "

/-- The report of an argument that cannot be handed over. -/
def argumentReport (argument : String) : Bytes :=
  reportBytes (Failure.invalidArgument argument).message

/-- The argument that a report tells of, if it is the report of one. -/
def reportedArgument? (bytes : Bytes) : Option String :=
  let quoted := ((Utf8.decode bytes).toList.drop argumentFront.toList.length).dropLast
  (Quoted.decode (String.ofList quoted)).filter fun argument => argumentReport argument = bytes

/-- A message that ends with a quoted text has no blank at its end. -/
theorem trimEnd_encode (front argument : String) :
    trimEnd (front ++ Quoted.encode argument) = front ++ Quoted.encode argument := by
  have whole : front ++ Quoted.encode argument =
      String.ofList ((front.toList ++ '"' :: argument.toList.flatMap Quoted.encodeChar) ++
        ['"']) := by
    apply String.toList_injective
    simp [Quoted.encode, Quoted.encodeChars]
  rw [whole]
  exact trimEnd_of_last _ '"' (by decide)

theorem argumentReport_eq (argument : String) :
    argumentReport argument = Utf8.encode (argumentFront ++ Quoted.encode argument ++ "\n") := by
  have front : programName ++ ": " ++ "invalid argument: " = argumentFront := by decide
  have line : reportLine ("invalid argument: " ++ Quoted.encode argument) =
      argumentFront ++ Quoted.encode argument ++ "\n" := by
    rw [reportLine, trimEnd_encode, ← String.append_assoc, front]
  exact congrArg Utf8.encode line

/-- The argument is read back from its report. -/
theorem reportedArgument?_argumentReport (argument : String) :
    reportedArgument? (argumentReport argument) = some argument := by
  have quoted : ((argumentFront ++ Quoted.encode argument ++ "\n").toList.drop
      argumentFront.toList.length).dropLast = (Quoted.encode argument).toList := by
    rw [String.toList_append, String.toList_append, List.append_assoc, List.drop_left]
    exact List.dropLast_concat
  have told : reportedArgument? (argumentReport argument) =
      (some argument).filter fun other => argumentReport other = argumentReport argument := by
    simp only [reportedArgument?, argumentReport_eq argument, Utf8.decode_encode, quoted,
      String.ofList_toList, Quoted.decode_encode]
  rw [told, Option.filter_some, if_pos (decide_eq_true rfl)]

/-- Some bytes are the report of an argument: one line with the quoted form of the argument, which
is not shortened, has no control in it and tells the argument. No other argument has this report. -/
structure ReportsArgument (argument : String) (bytes : Bytes) : Prop where
  text : bytes = Utf8.encode ("lsh: invalid argument: " ++ Quoted.encode argument ++ "\n")
  whole : trimEnd ("invalid argument: " ++ Quoted.encode argument) =
    "invalid argument: " ++ Quoted.encode argument
  visible : ∀ character ∈ (Quoted.encode argument).toList,
    isHidden character = false ∧ isControl character = false
  single : ∃ line, bytes = line ++ [newline] ∧ newline ∉ line
  quoted : Quoted.decode (Quoted.encode argument) = some argument
  told : reportedArgument? bytes = some argument
  only : ∀ other, argumentReport other = bytes → other = argument

/-- The report of an argument is such bytes. -/
theorem ReportsArgument.of_argument (argument : String) :
    ReportsArgument argument (argumentReport argument) := by
  have told := reportedArgument?_argumentReport argument
  have seen := Quoted.isHidden_of_mem_encode argument
  refine ⟨argumentReport_eq argument, trimEnd_encode _ argument, ?_, ?_,
    Quoted.decode_encode argument, told, ?_⟩
  · intro character member
    have shown := seen character member
    cases control : isControl character with
    | false => exact ⟨shown, rfl⟩
    | true => rw [isHidden_of_isControl character control] at shown; cases shown
  · refine ⟨Utf8.encode (argumentFront ++ Quoted.encode argument), ?_, ?_⟩
    · rw [argumentReport_eq, Utf8.encode_append]
      rfl
    · rw [newline_mem_encode_iff, String.toList_append, List.mem_append, not_or]
      refine ⟨by decide, ?_⟩
      intro member
      exact absurd (seen '\n' member) (by decide)
  · -- Two arguments with one report would both be read back from it.
    intro other same
    have back := reportedArgument?_argumentReport other
    rw [same, told] at back
    exact (Option.some.inj back).symm

namespace Session

variable {session : Session World}

/-- A stream that takes everything takes a report whole. -/
theorem errorsOf_fail (room : session.errors.room = none) (failure : Failure) :
    errorsOf (session.fail failure).events = reportBytes failure.message := by
  have written := session.errors.write_unlimited (reportBytes failure.message) room
  have taken : errorsOf (session.fail failure).events =
      (session.errors.write (reportBytes failure.message)).taken := List.append_nil _
  rw [taken, written]

/-- A line puts its reports on a stream that takes everything. -/
theorem errorsOf_execute (room : session.errors.room = none) (machine : Machine World)
    (words : List String) :
    errorsOf (session.execute machine words).events =
      (reportsOf (session.execute machine words).events).flatMap reportBytes := by
  rw [(session.execute_writes machine words).errors.taken, session.errors.write_unlimited _ room]

variable {words : List String} {argument : String}

/-- A launch with an argument that cannot be handed over is the failure to hand it over. -/
theorem launch_unsendable (machine : Machine World)
    (first : firstUnsendable? words = some argument) :
    session.launch machine words = session.fail (.invalidArgument argument) := by
  simp only [launch, runProgram, startFailure?, first, Turn.andThen, stay, List.nil_append]

/-- A line with such an argument reports it behind the flush of the output. -/
theorem reportsOf_execute_unsendable (machine : Machine World) (launched : launches words = true)
    (first : firstUnsendable? words = some argument) :
    reportsOf (session.execute machine words).events =
      session.settlingReports words ++ [(Failure.invalidArgument argument).message] := by
  rw [reportsOf_execute, effectOf_launch machine session.place launched]
  simp only [effectOfLaunch, startFailure?, first, failure?, Option.toList_some, List.map_cons,
    List.map_nil]

/-- To cut a text reports nothing. -/
theorem errorsOf_executeText (machine : Machine World) (roomy : session.Roomy) (text : String) :
    errorsOf (session.executeText machine text).events =
      errorsOf (session.execute machine (wordsOf text)).events := by
  have words : session.behindWords =
      session.supplied session.input session.memory.behindWords := rfl
  rw [executeText_eq, cutting_roomy roomy, Turn.andThen_events, errorsOf_append, note_events,
    (quiet_silent (session.cuttingEvents_isQuiet text)).2.1, note_session, words,
    execute_supplied]
  rfl

/-- A cycle on a typed line reports what the execution of its words behind the prompt does. -/
theorem errorsOf_step (machine : Machine World) (asked : session.ask.value = none)
    (roomy : session.Roomy) {text : String} {continuation : List StreamEvent}
    (single : '\n' ∉ text.toList) (typed : Line.Typed text session.input.events continuation) :
    errorsOf (session.step machine).events =
      errorsOf (session.ask.session.execute machine (wordsOf text)).events := by
  have shown := session.ask_prepares
  have prompt : errorsOf session.ask.events = [] := (preparation_silent shown.events).2.2.2.1
  have behind : session.ask.session.Roomy := by
    have streams := session.ask_onStreams
    rw [Roomy, streams.memory, streams.settings]
    exact roomy
  rw [← shown.input] at typed
  rw [step_asked machine session asked, Turn.andThen_events,
    serve_typed machine behind typed single, errorsOf_append, errorsOf_append, prompt,
    (quiet_silent session.ask.session.readingEvents_isQuiet).2.1,
    errorsOf_executeText machine behind]
  rfl

/-- Some error bytes are some reports and, behind them, the report of an argument. -/
def ReportsBehind (front : List String) (argument : String) (bytes : Bytes) : Prop :=
  ∃ report, ReportsArgument argument report ∧ bytes = front.flatMap reportBytes ++ report

/-- A line with an argument that cannot be handed over puts the report of it behind the one of a
failed flush. -/
theorem reportsBehind_execute (room : session.errors.room = none) (machine : Machine World)
    (launched : launches words = true) (first : firstUnsendable? words = some argument) :
    ReportsBehind (session.settlingReports words) argument
      (errorsOf (session.execute machine words).events) := by
  refine ⟨argumentReport argument, .of_argument argument, ?_⟩
  rw [errorsOf_execute room, reportsOf_execute_unsendable machine launched first,
    List.flatMap_append]
  exact congrArg (_ ++ ·) (List.append_nil _)

/-- Whatever arguments a program is to be launched with, if one of them holds the zero character,
the report of the first one that does is put on an error stream that takes everything. The report
is one line, from which this argument can be read back. A launch puts nothing else there, and a line
that is executed, or typed to a shell that has shown its prompt, puts only the report of a failed
flush in front of it, of which there is none if the output stream does not fail. -/
theorem unsendable_reported (machine : Machine World) (session : Session World)
    (room : session.errors.room = none) :
    (∀ argument : String,
        ReportsArgument argument (errorsOf (session.fail (.invalidArgument argument)).events)) ∧
      ∀ words : List String, (∃ word ∈ words, '\x00' ∈ word.toList) →
        ∃ argument ∈ words, firstUnsendable? words = some argument ∧
          ReportsArgument argument (errorsOf (session.launch machine words).events) ∧
          (launches words = true →
            ReportsBehind (session.settlingReports words) argument
              (errorsOf (session.execute machine words).events)) ∧
          (∀ (text : String) (continuation : List StreamEvent), launches words = true →
            wordsOf text = words → session.ask.value = none → session.Roomy →
            '\n' ∉ text.toList →
            Line.Typed text session.input.events continuation →
            ReportsBehind (session.ask.session.settlingReports words) argument
              (errorsOf (session.step machine).events)) ∧
          (session.output.Unfailing → session.ask.value = none ∧
            session.settlingReports words = [] ∧
            session.ask.session.settlingReports words = []) := by
  have reports (argument : String) :
      ReportsArgument argument (errorsOf (session.fail (.invalidArgument argument)).events) := by
    rw [errorsOf_fail room]
    exact .of_argument argument
  refine ⟨reports, ?_⟩
  intro words unsendable
  obtain ⟨argument, first⟩ : ∃ argument, firstUnsendable? words = some argument := by
    obtain ⟨word, member, zero⟩ := unsendable
    rw [← Option.isSome_iff_exists, firstUnsendable?, List.find?_isSome]
    exact ⟨word, member, by simpa using zero⟩
  refine ⟨argument, List.mem_of_find?_eq_some first, first, ?_, ?_, ?_, ?_⟩
  · rw [launch_unsendable machine first]
    exact reports argument
  · intro launched
    exact reportsBehind_execute room machine launched first
  · intro text continuation launched cut asked roomy single typed
    have kept : session.ask.session.errors.room = none := by
      rw [session.ask_prepares.errors, room]
    rw [errorsOf_step machine asked roomy single typed, cut]
    exact reportsBehind_execute kept machine launched first
  · intro free
    have shown := session.ask_unfailing free
    have none := session.settlingReports_unfailing free words
    rw [shown]
    exact ⟨rfl, none, none⟩

/-- A typed argument with a zero character, a quote and a newline's letter behind a backslash. -/
theorem unsendable_reported_typed :
    let session := Session.small [.block (Utf8.encode "say hi a\x00\"\\n b\x00\nexit\n")]
    session.errors.room = none ∧
      ReportsArgument "a\x00\"\\n" (errorsOf (session.step Machine.small).events) := by
  intro session
  have events : session.input.events = (Utf8.encode "say hi a\x00\"\\n b\x00").map .byte ++
      .byte newline :: (Utf8.encode "exit\n").map .byte := by decide
  have typed : Line.Typed "say hi a\x00\"\\n b\x00" session.input.events
      ((Utf8.encode "exit\n").map .byte) := by
    rw [events]
    exact .newline _
  obtain ⟨argument, -, first, -, -, step, unfailing⟩ :=
    (unsendable_reported Machine.small session rfl).2 ["say", "hi", "a\x00\"\\n", "b\x00"]
      (by decide)
  have same : some "a\x00\"\\n" = some argument := first
  obtain rfl := Option.some.inj same
  obtain ⟨asked, -, none⟩ := unfailing ⟨rfl, rfl⟩
  have roomy : session.Roomy := Memory.standard_allows (by decide) (by decide)
  obtain ⟨report, tells, whole⟩ := step _ _ (by decide) (by decide) asked roomy (by decide) typed
  rw [none, List.flatMap_nil, List.nil_append] at whole
  exact ⟨rfl, whole ▸ tells⟩

/-- A typed argument with a zero character is not always told. A directory of such a name is an
invalid value to `cd`, whatever its name is, and `help` takes no notice of its words; of two such
words for a program only the first is told; and a failed flush adds a line of its own. -/
theorem unsendable_not_reported :
    let typed (line : String) := (Session.small [.block (Utf8.encode line)]).step Machine.small
    let full : Session Nat :=
      { Session.small [.block (Utf8.encode "say a\x00b\n")] with output := { flushes := some 1 } }
    errorsOf (typed "cd a\x00b\n").events = Utf8.encode "lsh: Invalid argument\n" ∧
      errorsOf (typed "cd b\x00a\n").events = errorsOf (typed "cd a\x00b\n").events ∧
      (∀ argument, ¬ ReportsArgument argument (errorsOf (typed "cd a\x00b\n").events)) ∧
      errorsOf (typed "help a\x00b\n").events = [] ∧
      errorsOf (typed "say a\x00 b\x00\n").events = errorsOf (typed "say a\x00 c\x00\n").events ∧
      errorsOf (full.step Machine.small).events =
        Utf8.encode "lsh: broken pipe\nlsh: invalid argument: \"a\\0b\"\n" := by
  intro typed full
  refine ⟨by decide +kernel, by decide +kernel, ?_, by decide +kernel, by decide +kernel,
    by decide +kernel⟩
  intro argument reports
  have none : reportedArgument? (errorsOf (typed "cd a\x00b\n").events) = none := by
    decide +kernel
  rw [reports.told] at none
  cases none

end Session
end PromptShell
