import Mathlib.Logic.Function.Iterate
import PromptShell.Proofs.Streams
namespace PromptShell

variable {World : Type}

/-- The lines of some bytes, each by its words. -/
def commandsOf (bytes : Bytes) : List (List String) := (textLines bytes).map wordsOf

theorem commandsOf_line (bytes : Bytes) (solid : bytes ≠ []) :
    commandsOf bytes =
      wordsOf (Utf8.decode (firstLine bytes)) :: commandsOf (afterLine bytes) := by
  simp only [commandsOf, textLines, rawLines_eq bytes solid, List.map_cons]

/-- The effects of lines that are run one after the other. -/
def effectsOf (machine : Machine World) (place : Place World) :
    List (List String) → List (Effect World)
  | [] => []
  | words :: rest =>
      let effect := effectOf machine place words
      effect :: effectsOf machine effect.place rest

/-- The place behind some effects. -/
def placeBehind (place : Place World) (effects : List (Effect World)) : Place World :=
  effects.foldl (fun _ effect => effect.place) place

/-- The bytes that the failure of a line puts on the error stream. -/
def Effect.report (effect : Effect World) : Bytes :=
  match effect.ending with
  | .failed failure => reportBytes failure.message
  | _ => []

/-- What can be seen of a run: the lines that are handed over, the bytes on both streams of the
shell, the children and what they put out. -/
structure Transcript where
  dispatches : List (List String)
  output : Bytes
  errors : Bytes
  starts : List (Directory × List Bytes)
  emissions : List Emission
  deriving Repr, DecidableEq

namespace Transcript

/-- One transcript behind another. -/
def append (first second : Transcript) : Transcript :=
  ⟨first.dispatches ++ second.dispatches, first.output ++ second.output,
    first.errors ++ second.errors, first.starts ++ second.starts,
    first.emissions ++ second.emissions⟩

instance : Append Transcript := ⟨append⟩

/-- The transcript in which nothing can be seen. -/
def blank : Transcript := ⟨[], [], [], [], []⟩

@[simp] theorem append_blank (transcript : Transcript) : transcript ++ blank = transcript := by
  change append transcript blank = transcript
  simp only [append, blank, List.append_nil]

@[simp] theorem blank_append (transcript : Transcript) : blank ++ transcript = transcript := rfl

theorem append_assoc (first second third : Transcript) :
    first ++ second ++ third = first ++ (second ++ third) := by
  change append (append first second) third = append first (append second third)
  simp only [append, List.append_assoc]

end Transcript

/-- The transcript of some events. -/
def transcriptOf (events : List Event) : Transcript :=
  ⟨dispatchesOf events, outputOf events, errorsOf events, startsOf events, emissionsOf events⟩

@[simp] theorem transcriptOf_append (first second : List Event) :
    transcriptOf (first ++ second) = transcriptOf first ++ transcriptOf second := by
  change _ = Transcript.append _ _
  simp only [transcriptOf, Transcript.append, dispatchesOf_append, outputOf_append,
    errorsOf_append, startsOf_append, emissionsOf_append]

/-- Quiet events cannot be seen. -/
theorem transcriptOf_quiet {events : List Event}
    (quiet : ∀ event ∈ events, event.isQuiet = true) : transcriptOf events = .blank := by
  obtain ⟨output, errors, dispatches, starts, emissions⟩ := quiet_silent quiet
  rw [transcriptOf, output, errors, dispatches, starts, emissions, Transcript.blank]

/-- The transcript of one prompt and the line behind it. -/
def lineTranscript (prompt : Bytes) (words : List String) (effect : Effect World) : Transcript :=
  ⟨[words], prompt ++ printedBy words, effect.report, startsOf effect.events,
    emissionsOf effect.events⟩

/-- The transcript of a shown prompt. -/
theorem transcriptOf_prompted (prompt : Bytes) :
    transcriptOf [.prompted prompt, .flushed true] = ⟨[], prompt, [], [], []⟩ := by
  simp [transcriptOf, dispatchesOf, outputOf, errorsOf, startsOf, emissionsOf, Event.dispatched?,
    Event.ownOutput, Event.ownErrors, Event.started?, Event.emitted?]

/-- The prompt stands in front of what its line shows. -/
theorem prompted_append_line (prompt : Bytes) (words : List String) (effect : Effect World) :
    transcriptOf [.prompted prompt, .flushed true] ++ lineTranscript [] words effect =
      lineTranscript prompt words effect := by
  rw [transcriptOf_prompted]
  rfl

namespace Session

/-- A shell that can read and cut its lines, with some bytes on its input and streams that do not
fail. -/
structure Ready (session : Session World) (bytes : Bytes) : Prop where
  roomy : session.Roomy
  delivered : session.input.events = bytes.map .byte
  output : session.output.Unfailing
  errors : session.errors.Unfailing

/-- A flush that cannot fail has nothing to report. -/
theorem settlingReports_unfailing (session : Session World) (free : session.output.Unfailing)
    (words : List String) : session.settlingReports words = [] := by
  simp [settlingReports, Sink.flush, free.flushes]

/-- On streams that do not fail a line reports what its effect says. -/
theorem reportsOf_execute_unfailing (machine : Machine World) (session : Session World)
    (words : List String) (free : session.output.Unfailing) :
    (reportsOf (session.execute machine words).events).flatMap reportBytes =
      (effectOf machine session.place words).report := by
  have settles := session.settlingReports_unfailing free words
  have same : (session.settled machine words).output = session.output :=
    ((session.settleIf_writes _).output.unlimited free).2
  rw [reportsOf_execute, settles, List.nil_append, Effect.report]
  cases (effectOf machine session.place words).ending with
  | done status => rfl
  | failed failure => simp [failure?]
  | described =>
      rw [← same] at free
      simp [failure?, writeOut, write, Sink.write_unlimited _ _ free.room, flush, Sink.flush,
        free.flushes]

/-- A shell that can read and cut its lines, whatever is on its input, and whose streams do not
fail. -/
structure Capable (session : Session World) : Prop where
  roomy : session.Roomy
  output : session.output.Unfailing
  errors : session.errors.Unfailing

namespace Capable

variable {session : Session World}

theorem behindArrival (capable : session.Capable) : session.behindArrival.Capable :=
  ⟨capable.roomy.behindArrival, capable.output, capable.errors⟩

/-- A line leaves the shell capable, and shows what its effect says. -/
theorem execute (machine : Machine World) (capable : session.Capable) (words : List String) :
    (session.execute machine words).session.Capable ∧
      transcriptOf (session.execute machine words).events =
        lineTranscript [] words (effectOf machine session.place words) := by
  have written := session.execute_writes machine words
  have output := written.output.unlimited capable.output
  have errors := written.errors.unlimited capable.errors
  constructor
  · refine ⟨?_, ?_, ?_⟩
    · exact capable.roomy.execute machine words
    · exact output.2 ▸ capable.output
    · exact errors.2 ▸ capable.errors
  · rw [transcriptOf, lineTranscript, dispatchesOf_execute, startsOf_execute, emissionsOf_execute,
      output.1, errors.1, reportsOf_execute_unfailing machine session words capable.output,
      List.nil_append]

/-- A cycle to which a line arrives runs it, and shows it behind the prompt. -/
theorem step_arrived (machine : Machine World) (capable : session.Capable) {text : String}
    (arrived : session.arrival = .ok (some text)) :
    let words := wordsOf text
    let line := session.behindArrival.execute machine words
    (session.step machine).value = .ok (some line.value) ∧
      (session.step machine).session = line.session ∧
      transcriptOf (session.step machine).events =
        lineTranscript (Utf8.encode session.settings.prompt) words
          (effectOf machine session.place words) := by
  intro words line
  have shown := (capable.behindArrival.execute machine words).2
  have silent := transcriptOf_quiet session.arrivalEvents_isQuiet
  rw [step_eq, ask_unfailing session capable.output, ← prompted_append_line]
  simp only [Turn.andThen, serve_eq, arrived, Turn.map, note_session, note_events,
    transcriptOf_append, silent, Transcript.blank_append]
  exact ⟨rfl, rfl, congrArg (transcriptOf [.prompted _, .flushed true] ++ ·) shown⟩

/-- A loop to which a line arrives runs it; behind the line it ends or goes on. -/
theorem run_arrived (machine : Machine World) (capable : session.Capable) {text : String}
    (arrived : session.arrival = .ok (some text)) :
    session.run machine = (session.step machine).andThen fun _ next =>
      if isExit (wordsOf text) then next.close else next.run machine := by
  rw [run_follow]
  simp only [Turn.andThen, follow, (capable.step_arrived machine arrived).1, goesOn, Except.map,
    Option.elim, execute_keepsRunning]
  cases isExit (wordsOf text) <;> rfl

end Capable

namespace Ready

variable {session : Session World} {bytes : Bytes}

theorem capable (ready : session.Ready bytes) : session.Capable :=
  ⟨ready.roomy, ready.output, ready.errors⟩

/-- The reading of a shell that is ready answers by the bytes, and leaves the ones behind. -/
theorem reading (ready : session.Ready bytes) :
    session.reading.answer =
        (Line.decision (bytes.map .byte)).answer session.settings.lineGrowth ∧
      Input.events session.reading.rest = (Line.decision (bytes.map .byte)).behind := by
  rw [← ready.delivered]
  exact ready.roomy.reading_decision

/-- The first line of the bytes arrives, decoded. -/
theorem arrival_line (ready : session.Ready bytes) (solid : bytes ≠ []) :
    session.arrival = .ok (some (Utf8.decode (firstLine bytes))) := by
  simp only [arrival, ready.reading.1, (Line.decision_line _ bytes solid).1, Line.ofBytes_text,
    cutting_roomy ready.roomy, Except.map]

theorem arrival_end (ready : session.Ready []) : session.arrival = .ok none := by
  rw [arrival, ready.reading.1]
  rfl

/-- Behind a line the shell is ready for the bytes behind it. -/
theorem behindArrival (ready : session.Ready bytes) :
    session.behindArrival.Ready (afterLine bytes) := by
  obtain ⟨roomy, output, errors⟩ := ready.capable.behindArrival
  refine ⟨roomy, ?_, output, errors⟩
  rw [Session.behindArrival, ready.reading.2]
  by_cases empty : bytes = []
  · subst empty
    rfl
  · exact (Line.decision_line 0 bytes empty).2

/-- A line leaves the shell ready, and shows what its effect says. -/
theorem execute (machine : Machine World) (ready : session.Ready bytes) (words : List String) :
    (session.execute machine words).session.Ready bytes ∧
      transcriptOf (session.execute machine words).events =
        lineTranscript [] words (effectOf machine session.place words) := by
  obtain ⟨capable, shown⟩ := ready.capable.execute machine words
  refine ⟨⟨capable.roomy, ?_, capable.output, capable.errors⟩, shown⟩
  exact execute_input machine session words ▸ ready.delivered

/-- A loop that is ready with nothing on its input shows its prompt, reads the end and is done. -/
theorem run_end_eq (machine : Machine World) (ready : session.Ready []) :
    session.run machine =
      ⟨.ok (), session.behindArrival,
        [.prompted (Utf8.encode session.settings.prompt), .flushed true] ++
          (session.arrivalEvents ++ [.logged .endOfInput, .flushed true])⟩ := by
  have asked := session.ask_unfailing ready.output
  rw [run_asked machine session (by rw [asked]), asked]
  simp only [Turn.andThen, serve_eq, ready.arrival_end, follow, goesOn, Except.map, Option.elim,
    close_steady session.behindArrival ready.behindArrival.output.flushes, List.append_assoc]
  rfl

/-- A loop that is ready with nothing on its input shows its prompt once more. -/
theorem run_end (machine : Machine World) (ready : session.Ready []) :
    (session.run machine).value = .ok () ∧
      (session.run machine).session = session.behindArrival ∧
      transcriptOf (session.run machine).events =
        ⟨[], Utf8.encode session.settings.prompt, [], [], []⟩ := by
  have ended : transcriptOf [.logged .endOfInput, .flushed true] = .blank := rfl
  rw [run_end_eq machine ready]
  simp only [transcriptOf_append, transcriptOf_quiet session.arrivalEvents_isQuiet, ended,
    transcriptOf_prompted, Transcript.append_blank, and_self]

/-- A loop that is ready hands over the first line of its input; behind the line it ends or goes
on. -/
theorem run_line (machine : Machine World) (ready : session.Ready bytes) (solid : bytes ≠ []) :
    let words := wordsOf (Utf8.decode (firstLine bytes))
    let next := (session.behindArrival.execute machine words).session
    let rest := if isExit words then next.close else next.run machine
    (session.run machine).value = rest.value ∧ (session.run machine).session = rest.session ∧
      transcriptOf (session.run machine).events =
        lineTranscript (Utf8.encode session.settings.prompt) words
          (effectOf machine session.place words) ++ transcriptOf rest.events := by
  intro words next rest
  have arrived := ready.arrival_line solid
  obtain ⟨-, left, shown⟩ := ready.capable.step_arrived machine arrived
  rw [ready.capable.run_arrived machine arrived, Turn.andThen, left]
  exact ⟨rfl, rfl, by rw [transcriptOf_append, shown]⟩

end Ready

/-- The whole run. A loop on streams without faults hands over the lines of its input up to the
first `exit`, each once and in order, and is then done. It shows a prompt before each line, the
description behind the prompt of each `help`, and one more prompt if no line ended the loop; its
reports are those of the failures of the lines. The lines are run one after the other from the
shell's place on, and the bytes behind the last of them stay unread. -/
theorem run_transcript (machine : Machine World) (session : Session World) (bytes : Bytes)
    (ready : session.Ready bytes) :
    let commands := commandsOf bytes
    let last := commands.findIdx isExit
    let handed := commands.take (last + 1)
    let effects := effectsOf machine session.place handed
    let prompt := Utf8.encode session.settings.prompt
    let run := session.run machine
    run.value = .ok () ∧
      transcriptOf run.events =
        { dispatches := handed
          output := (handed.flatMap fun words => prompt ++ printedBy words) ++
            if last < commands.length then [] else prompt
          errors := effects.flatMap Effect.report
          starts := effects.flatMap fun effect => startsOf effect.events
          emissions := effects.flatMap fun effect => emissionsOf effect.events } ∧
      run.session.place = placeBehind session.place effects ∧
      Input.events run.session.input = (afterLine^[last + 1] bytes).map .byte := by
  induction bytes using line_induct generalizing session with
  | none =>
      obtain ⟨value, left, shown⟩ := ready.run_end machine
      refine ⟨value, ?_, ?_, ?_⟩
      · rw [shown]
        rfl
      · rw [left]
        rfl
      · rw [left, ready.behindArrival.delivered]
        rfl
  | line bytes solid ih =>
      have line := ready.run_line machine solid
      have nextReady := fun words => (ready.behindArrival.execute machine words).1
      rw [commandsOf_line bytes solid]
      generalize wordsOf (Utf8.decode (firstLine bytes)) = words at line
      have moved : (session.behindArrival.execute machine words).session.place =
          (effectOf machine session.place words).place :=
        session.behindArrival.execute_place machine words
      have settings : (session.behindArrival.execute machine words).session.settings =
          session.settings := session.behindArrival.execute_settings machine words
      by_cases leaves : isExit words = true
      · simp only [leaves, if_true, close_steady _ (nextReady words).output.flushes] at line
        obtain ⟨value, left, shown⟩ := line
        simp only [List.findIdx_cons, leaves, cond_true, Nat.zero_add, List.take_succ_cons,
          List.take_zero, effectsOf, placeBehind, List.foldl_cons, List.foldl_nil]
        refine ⟨value, ?_, ?_, ?_⟩
        · rw [shown, show transcriptOf [.flushed true] = .blank from rfl, Transcript.append_blank]
          simp [lineTranscript]
        · rw [left, moved]
        · rw [left, (nextReady words).delivered]
          rfl
      · obtain ⟨done, shownBehind, moves, leftBehind⟩ := ih _ (nextReady words)
        simp only [leaves, Bool.false_eq_true, if_false] at line
        obtain ⟨value, left, shown⟩ := line
        simp only [List.findIdx_cons, leaves, cond_false, List.take_succ_cons, effectsOf,
          placeBehind, List.foldl_cons]
        refine ⟨value.trans done, ?_, ?_, ?_⟩
        · rw [shown, shownBehind, moved, settings]
          change Transcript.append _ _ = _
          simp only [Transcript.append, lineTranscript, List.singleton_append, List.flatMap_cons,
            List.append_assoc, List.length_cons, Nat.add_lt_add_iff_right]
        · rw [left, moves, moved]
          rfl
        · rw [left, leftBehind]
          rfl

/-- A directory that is not there, a child, and an `exit` before the end of the input. -/
theorem run_transcript_until_exit :
    let session : Session Nat :=
      { settings := {}, output := {}, errors := {}, directory := ⟨[]⟩, world := 0
        input := [.block (Utf8.encode "cd x\nsa"), .block (Utf8.encode "y hi\nexit 1\nhelp\n")] }
    let run := session.run Machine.small
    session.Ready (Utf8.encode "cd x\nsay hi\nexit 1\nhelp\n") ∧ run.value = .ok () ∧
      transcriptOf run.events =
        { dispatches := [["cd", "x"], ["say", "hi"], ["exit", "1"]]
          output := Utf8.encode "> > > "
          errors := Utf8.encode "lsh: No such file or directory\n"
          starts := [(⟨[]⟩, [Utf8.encode "say", Utf8.encode "hi"])]
          emissions := [.flow .output (Utf8.encode "hi")] } ∧
      run.session.place = ⟨⟨[]⟩, 1⟩ ∧
      Input.events run.session.input = (Utf8.encode "help\n").map .byte := by
  intro session run
  have delivered := Input.events_blocks
    [Utf8.encode "cd x\nsa", Utf8.encode "y hi\nexit 1\nhelp\n"] (by decide)
  have ready : session.Ready (Utf8.encode "cd x\nsay hi\nexit 1\nhelp\n") :=
    ⟨Memory.standard_allows (by decide) (by decide), delivered, ⟨rfl, rfl⟩, ⟨rfl, rfl⟩⟩
  obtain ⟨value, shown, place, unread⟩ := run_transcript Machine.small session _ ready
  refine ⟨ready, value, shown.trans ?_, place.trans ?_, unread.trans ?_⟩
  · simp only [session]
    decide +kernel
  · rfl
  · rfl

end Session
end PromptShell
