import PromptShell.Proofs.FullOutput
import PromptShell.Proofs.Taking
import PromptShell.Proofs.Transcript
namespace PromptShell

variable {World : Type}

/-- Bytes that end with a line, newline included. -/
def WholeLines (bytes : Bytes) : Prop := ∀ byte, bytes.getLast? = some byte → byte = newline

/-- Whole lines are cut behind a newline, and whole lines are left. -/
theorem WholeLines.cut {bytes : Bytes} (whole : WholeLines bytes) (solid : bytes ≠ []) :
    bytes = firstLine bytes ++ newline :: afterLine bytes ∧ WholeLines (afterLine bytes) := by
  have last := List.getLast?_eq_some_getLast solid
  have ends : newline ∈ bytes := by
    rw [← whole _ last]
    exact List.getLast_mem solid
  have cut := firstLine_of_mem ends
  refine ⟨cut, ?_⟩
  intro byte lastLeft
  apply whole
  rw [cut, List.getLast?_append, List.getLast?_cons, lastLeft]
  rfl

/-- Bytes are cut into lines, whatever follows them, if they end with a line or nothing follows. -/
theorem Line.decision_cut (step : Nat) {bytes : Bytes} {tail : List StreamEvent}
    (cuts : WholeLines bytes ∨ tail = []) (solid : bytes ≠ []) :
    (decision (bytes.map .byte ++ tail)).answer step =
        .ok (some (ofBytes step (firstLine bytes))) ∧
      (decision (bytes.map .byte ++ tail)).behind = (afterLine bytes).map .byte ++ tail ∧
      (WholeLines (afterLine bytes) ∨ tail = []) := by
  rcases cuts with whole | rfl
  · obtain ⟨cut, left⟩ := whole.cut solid
    have front := decision_bytes (firstLine bytes)
      (.byte PromptShell.newline :: ((afterLine bytes).map .byte ++ tail))
      (newline_notMem_firstLine bytes)
    have same : bytes.map StreamEvent.byte ++ tail = (firstLine bytes).map .byte ++
        .byte PromptShell.newline :: ((afterLine bytes).map .byte ++ tail) := by
      conv_lhs => rw [cut]
      simp
    rw [same, front]
    exact ⟨by simp [decision, Decision.answer], rfl, Or.inl left⟩
  · rw [List.append_nil, List.append_nil]
    obtain ⟨answer, behind⟩ := decision_line step bytes solid
    exact ⟨answer, behind, Or.inr rfl⟩

/-- Lines up to and with the first one that ends the loop. -/
def untilExit (commands : List (List String)) : List (List String) :=
  commands.take (commands.findIdx isExit + 1)

theorem untilExit_cons (words : List String) (rest : List (List String)) :
    untilExit (words :: rest) = if isExit words then [words] else words :: untilExit rest := by
  cases leaves : isExit words <;> simp [untilExit, List.findIdx_cons, leaves]

/-- Without a line that ends the loop these are all lines. -/
theorem untilExit_of_stays {commands : List (List String)}
    (stays : commands.any isExit = false) : untilExit commands = commands := by
  induction commands with
  | nil => rfl
  | cons words rest ih =>
      simp only [List.any_cons, Bool.or_eq_false_iff] at stays
      rw [untilExit_cons, if_neg (by simp [stays.1]), ih stays.2]

/-- The transcript of some lines, each with its prompt. -/
def linesTranscript (machine : Machine World) (prompt : Bytes) (place : Place World)
    (commands : List (List String)) : Transcript :=
  let effects := effectsOf machine place commands
  { dispatches := commands
    output := commands.flatMap fun words => prompt ++ printedBy words
    errors := effects.flatMap Effect.report
    starts := effects.flatMap fun effect => startsOf effect.events
    emissions := effects.flatMap fun effect => emissionsOf effect.events }

theorem linesTranscript_cons (machine : Machine World) (prompt : Bytes) (place : Place World)
    (words : List String) (rest : List (List String)) :
    linesTranscript machine prompt place (words :: rest) =
      lineTranscript prompt words (effectOf machine place words) ++
        linesTranscript machine prompt (effectOf machine place words).place rest := rfl

namespace Session

/-- The prompt of a shell, shown to its end. -/
def shownPrompt (session : Session World) : Event :=
  .prompted (Utf8.encode session.settings.prompt)

/-- A cycle shows one prompt. -/
theorem promptsOf_step (machine : Machine World) (session : Session World)
    (free : session.output.Unfailing) :
    promptsOf (session.step machine).events = [session.shownPrompt] := by
  rw [step_eq, ask_unfailing session free]
  simp only [Turn.andThen_events, promptsOf_append, promptsOf_serve]
  rfl

/-- A turn from a shell on runs some lines with their prompts, and what is left of it is another
turn, from the shell behind the lines on. -/
structure Reaches (machine : Machine World) (session : Session World)
    (whole : Turn World (Except Failure Unit)) (commands : List (List String))
    (next : Session World) (rest : Turn World (Except Failure Unit)) : Prop where
  capable : next.Capable
  settings : next.settings = session.settings
  place : next.place = placeBehind session.place (effectsOf machine session.place commands)
  value : whole.value = rest.value
  behind : whole.session = rest.session
  shown : transcriptOf whole.events =
    linesTranscript machine (Utf8.encode session.settings.prompt) session.place commands ++
      transcriptOf rest.events
  prompts : promptsOf whole.events =
    List.replicate commands.length session.shownPrompt ++ promptsOf rest.events

/-- The lines are handed over first. -/
theorem Reaches.dispatches {machine : Machine World} {session next : Session World}
    {commands : List (List String)} {whole rest : Turn World (Except Failure Unit)}
    (reaches : session.Reaches machine whole commands next rest) :
    dispatchesOf whole.events = commands ++ dispatchesOf rest.events :=
  congrArg Transcript.dispatches reaches.shown

/-- Before any line the whole turn is left. -/
theorem Reaches.refl (machine : Machine World) {session : Session World}
    (capable : session.Capable) (whole : Turn World (Except Failure Unit)) :
    session.Reaches machine whole [] session whole :=
  ⟨capable, rfl, rfl, rfl, rfl, rfl, rfl⟩

/-- The line that arrives is run in front of what the loop does behind it. -/
theorem Reaches.line {machine : Machine World} {session next : Session World} {text : String}
    {commands : List (List String)} {rest : Turn World (Except Failure Unit)}
    (capable : session.Capable) (arrived : session.arrival = .ok (some text))
    (reaches : (session.step machine).session.Reaches machine
      (if isExit (wordsOf text) then (session.step machine).session.close
        else (session.step machine).session.run machine) commands next rest) :
    session.Reaches machine (session.run machine) (wordsOf text :: commands) next rest := by
  obtain ⟨-, left, shown⟩ := capable.step_arrived machine arrived
  have settings : (session.step machine).session.settings = session.settings := by
    rw [left]
    exact session.behindArrival.execute_settings machine _
  have place : (session.step machine).session.place =
      (effectOf machine session.place (wordsOf text)).place := by
    rw [left]
    exact session.behindArrival.execute_place machine _
  rw [capable.run_arrived machine arrived]
  refine ⟨reaches.capable, reaches.settings.trans settings, ?_, reaches.value, reaches.behind,
    ?_, ?_⟩
  · rw [reaches.place, place]
    rfl
  · have later := reaches.shown
    rw [settings, place] at later
    rw [linesTranscript_cons, Transcript.append_assoc, ← later, ← shown]
    exact transcriptOf_append _ _
  · have later := reaches.prompts
    rw [shownPrompt, settings] at later
    rw [Turn.andThen_events, promptsOf_append, promptsOf_step machine session capable.output, later]
    rfl

/-- A shell with lines on its input reads the first one, and the others are left. -/
theorem Capable.arrival_cut {session : Session World} {bytes : Bytes} {tail : List StreamEvent}
    (capable : session.Capable) (cuts : WholeLines bytes ∨ tail = []) (solid : bytes ≠ [])
    (delivered : session.input.events = bytes.map .byte ++ tail) :
    session.arrival = .ok (some (Utf8.decode (firstLine bytes))) ∧
      Input.events session.behindArrival.input = (afterLine bytes).map .byte ++ tail := by
  obtain ⟨answer, behind, -⟩ := Line.decision_cut session.settings.lineGrowth cuts solid
  obtain ⟨answered, left⟩ := capable.roomy.reading_decision
  rw [delivered, answer] at answered
  rw [delivered, behind] at left
  refine ⟨?_, left⟩
  simp only [arrival, answered, Line.ofBytes_text, cutting_roomy capable.roomy, Except.map]

/-- A shell behind a line can read and cut the lines that are left. -/
theorem Capable.behind_arrived {session : Session World} (machine : Machine World)
    (capable : session.Capable) {text : String} (arrived : session.arrival = .ok (some text)) :
    (session.step machine).session.Capable ∧
      (session.step machine).session.input = session.behindArrival.input := by
  rw [(capable.step_arrived machine arrived).2.1]
  exact ⟨(capable.behindArrival.execute machine _).1, execute_input machine session.behindArrival _⟩

/-- A loop runs the lines on its input up to the first one that ends it, whatever follows them, and
then ends or does what it does with what follows. -/
theorem run_lines (machine : Machine World) {session : Session World} {bytes : Bytes}
    {tail : List StreamEvent} (capable : session.Capable) (cuts : WholeLines bytes ∨ tail = [])
    (delivered : session.input.events = bytes.map .byte ++ tail) :
    ∃ next, session.Reaches machine (session.run machine) (untilExit (commandsOf bytes)) next
        (if (commandsOf bytes).any isExit then next.close else next.run machine) ∧
      ((commandsOf bytes).any isExit = false → next.input.events = tail) := by
  -- The tail stays the same from line to line, so it is not generalized.
  induction bytes using line_induct generalizing session with
  | none => exact ⟨session, .refl machine capable _, fun _ => delivered⟩
  | line bytes solid ih =>
      obtain ⟨arrived, left⟩ := capable.arrival_cut cuts solid delivered
      have cutsLeft := (Line.decision_cut 0 cuts solid).2.2
      obtain ⟨nextCapable, input⟩ := capable.behind_arrived machine arrived
      rw [← input] at left
      rw [commandsOf_line bytes solid, untilExit_cons, List.any_cons]
      cases leaves : isExit (wordsOf (Utf8.decode (firstLine bytes))) with
      | true =>
          refine ⟨(session.step machine).session, .line capable arrived ?_, by simp⟩
          simp only [leaves, if_true, Bool.true_or]
          exact .refl machine nextCapable _
      | false =>
          obtain ⟨next, reaches, behind⟩ := ih nextCapable cutsLeft left
          refine ⟨next, .line capable arrived ?_, by simpa using behind⟩
          simpa only [leaves, Bool.false_eq_true, if_false, Bool.false_or] using reaches

/-- A loop without a line to run shows its prompt and nothing more. -/
structure Idles (session : Session World) (run : Turn World (Except Failure Unit)) : Prop where
  place : run.session.place = session.place
  shown : transcriptOf run.events = ⟨[], Utf8.encode session.settings.prompt, [], [], []⟩
  prompts : promptsOf run.events = [session.shownPrompt]

/-- What a loop does without a line cannot be seen but for the prompt in front. -/
theorem Idles.of_quiet {session : Session World} {run : Turn World (Except Failure Unit)}
    {quiet : List Event} (place : run.session.place = session.place)
    (events : run.events = [session.shownPrompt, .flushed true] ++ quiet)
    (silent : ∀ event ∈ quiet, event.isQuiet = true) : session.Idles run := by
  refine ⟨place, ?_, ?_⟩
  · rw [events, transcriptOf_append, transcriptOf_quiet silent, Transcript.append_blank,
      shownPrompt, transcriptOf_prompted]
  · rw [events, promptsOf_append, promptsOf_quiet silent, List.append_nil]
    rfl

/-- A loop whose input has ended is done behind one more prompt. -/
theorem Capable.run_ended (machine : Machine World) {session : Session World}
    (capable : session.Capable) (delivered : session.input.events = []) :
    (session.run machine).value = .ok () ∧ session.Idles (session.run machine) := by
  have ready : session.Ready [] :=
    ⟨capable.roomy, delivered, capable.output, capable.errors⟩
  rw [ready.run_end_eq machine]
  refine ⟨rfl, .of_quiet rfl rfl ?_⟩
  rw [List.forall_mem_append]
  exact ⟨session.arrivalEvents_isQuiet, by simp [Event.isQuiet]⟩

/-- A loop that meets a failing read behind its prompt has ended with the fault. -/
theorem Capable.run_failed (machine : Machine World) {session : Session World}
    (capable : session.Capable) {fault : Fault} {later : List StreamEvent}
    (delivered : session.input.events = .failed fault :: later) :
    (session.run machine).value = .error (.stream fault) ∧ session.Idles (session.run machine) ∧
      Input.events (session.run machine).session.input = later := by
  have asked := session.ask_unfailing capable.output
  obtain ⟨answered, left⟩ := capable.roomy.reading_decision
  rw [delivered] at answered left
  have failed : session.arrival = .error (.stream fault) := by
    rw [arrival, answered]
    rfl
  have run : session.run machine = ⟨.error (.stream fault), session.behindArrival,
      [session.shownPrompt, .flushed true] ++ session.arrivalEvents⟩ := by
    rw [run_asked machine session (by rw [asked]), asked]
    simp only [Turn.andThen, serve_eq, failed, follow, goesOn, Except.map, stay_value,
      stay_session, stay_events, List.append_nil]
    rfl
  rw [run]
  exact ⟨rfl, .of_quiet rfl rfl session.arrivalEvents_isQuiet, left⟩

end Session

/-- The bytes of an input with failing reads between them: each part ends with one. -/
structure Script where
  parts : List (Bytes × Fault)
  last : Bytes
  deriving Repr, DecidableEq

namespace Script

/-- The events of a stream that gives the script. -/
def events (script : Script) : List StreamEvent :=
  (script.parts.flatMap fun part => part.1.map .byte ++ [.failed part.2]) ++
    script.last.map .byte

/-- The bytes of the script without its failing reads. -/
def bytes (script : Script) : Bytes := script.parts.flatMap Prod.fst ++ script.last

/-- The failing reads stand between lines. -/
def BetweenLines (script : Script) : Prop := ∀ part ∈ script.parts, WholeLines part.1

/-- The faults of the parts that a loop comes to: behind an `exit` it comes to none. -/
def metIn : List (Bytes × Fault) → List Fault
  | [] => []
  | (bytes, fault) :: rest =>
      if (commandsOf bytes).any isExit then [] else fault :: metIn rest

/-- The faults that a loop comes to which goes on behind each of them. -/
def met (script : Script) : List Fault := metIn script.parts

variable {bytes last : Bytes} {fault : Fault} {rest : List (Bytes × Fault)}

theorem events_cons : events ⟨(bytes, fault) :: rest, last⟩ =
    bytes.map .byte ++ .failed fault :: events ⟨rest, last⟩ := by
  simp [events]

theorem bytes_cons : Script.bytes ⟨(bytes, fault) :: rest, last⟩ =
    bytes ++ Script.bytes ⟨rest, last⟩ := by
  simp [Script.bytes]

/-- Without a part in which an `exit` comes first there is a fault to come to. -/
theorem met_cons_eq_nil_iff : met ⟨(bytes, fault) :: rest, last⟩ = [] ↔
    (commandsOf bytes).any isExit = true := by
  simp only [met, metIn]
  split <;> simp_all

end Script

/-- A loop has gone on behind each of some failing reads: it has reported each of them, has shown a
prompt more for each, and has run the lines that the other loop has run without them. -/
structure Turn.CarriesOn (run calm : Turn World (Except Failure Unit)) (faults : List Fault) :
    Prop where
  value : ∀ failure, run.value = .error failure → failure = .allocation
  reports : (faults.map Fault.message).Sublist (reportsOf run.events)
  prompts : (promptsOf run.events).length = (promptsOf calm.events).length + faults.length
  lines : dispatchesOf run.events = dispatchesOf calm.events
  starts : startsOf run.events = startsOf calm.events
  place : run.session.place = calm.session.place

namespace Session

/-- Two loops that are done and have shown the same. -/
structure Alike (run calm : Turn World (Except Failure Unit)) : Prop where
  done : run.value = .ok ()
  calmDone : calm.value = .ok ()
  shown : transcriptOf run.events = transcriptOf calm.events
  prompts : promptsOf run.events = promptsOf calm.events
  place : run.session.place = calm.session.place

/-- Behind the same lines two loops are alike if what is left of them is. -/
theorem Reaches.alike {machine : Machine World} {session other next otherNext : Session World}
    {commands : List (List String)} {run calm rest calmRest : Turn World (Except Failure Unit)}
    (reaches : session.Reaches machine run commands next rest)
    (calmReaches : other.Reaches machine calm commands otherNext calmRest)
    (settings : other.settings = session.settings) (place : other.place = session.place)
    (alike : Alike rest calmRest) : Alike run calm where
  done := reaches.value.trans alike.done
  calmDone := calmReaches.value.trans alike.calmDone
  shown := by rw [reaches.shown, calmReaches.shown, settings, place, alike.shown]
  prompts := by
    rw [reaches.prompts, calmReaches.prompts, shownPrompt, shownPrompt, settings, alike.prompts]
  place := by rw [reaches.behind, calmReaches.behind, alike.place]

/-- Two loops that end in one place are alike. -/
theorem Alike.close {next other : Session World} (capable : next.Capable)
    (otherCapable : other.Capable) (place : next.place = other.place) :
    Alike next.close other.close := by
  rw [close_steady next capable.output.flushes, close_steady other otherCapable.output.flushes]
  exact ⟨rfl, rfl, rfl, rfl, place⟩

/-- Two loops without further input are alike. -/
theorem Alike.ended (machine : Machine World) {next other : Session World}
    (capable : next.Capable) (otherCapable : other.Capable)
    (settings : other.settings = next.settings) (place : next.place = other.place)
    (delivered : next.input.events = []) (otherDelivered : other.input.events = []) :
    Alike (next.run machine) (other.run machine) := by
  obtain ⟨value, idles⟩ := capable.run_ended machine delivered
  obtain ⟨otherValue, otherIdles⟩ := otherCapable.run_ended machine otherDelivered
  refine ⟨value, otherValue, ?_, ?_, ?_⟩
  · rw [idles.shown, otherIdles.shown, settings]
  · rw [idles.prompts, otherIdles.prompts, shownPrompt, shownPrompt, settings]
  · rw [idles.place, otherIdles.place, place]

theorem Capable.fed {session : Session World} (capable : session.Capable) (input : Input) :
    (session.fed input).Capable :=
  ⟨capable.roomy, capable.output, capable.errors⟩

/-- What follows some lines has no part in a loop that ends among them. -/
theorem run_alike (machine : Machine World) {session : Session World} {bytes : Bytes}
    {tail otherTail : List StreamEvent} {other : Input} (capable : session.Capable)
    (cuts : WholeLines bytes ∨ tail = [] ∧ otherTail = [])
    (delivered : session.input.events = bytes.map .byte ++ tail)
    (otherDelivered : other.events = bytes.map .byte ++ otherTail)
    (ends : (commandsOf bytes).any isExit = true ∨ tail = [] ∧ otherTail = []) :
    Alike (session.run machine) ((session.fed other).run machine) := by
  obtain ⟨next, reaches, left⟩ := run_lines machine capable (cuts.imp_right And.left) delivered
  obtain ⟨otherNext, otherReaches, otherLeft⟩ :=
    run_lines machine (capable.fed other) (cuts.imp_right And.right) otherDelivered
  have place : next.place = otherNext.place := reaches.place.trans otherReaches.place.symm
  apply reaches.alike otherReaches rfl rfl
  cases leaves : (commandsOf bytes).any isExit with
  | true => exact .close reaches.capable otherReaches.capable place
  | false =>
      rw [leaves] at ends
      obtain ⟨rfl, rfl⟩ := ends.resolve_left (by simp)
      exact .ended machine reaches.capable otherReaches.capable
        (otherReaches.settings.trans reaches.settings.symm) place (left leaves) (otherLeft leaves)

/-- The first failing read that a loop meets ends it. -/
theorem run_meets (machine : Machine World) {session : Session World} {bytes : Bytes}
    {fault : Fault} {later : List StreamEvent} (capable : session.Capable)
    (whole : WholeLines bytes)
    (delivered : session.input.events = bytes.map .byte ++ .failed fault :: later)
    (stays : (commandsOf bytes).any isExit = false) :
    let run := session.run machine
    let prompt := Utf8.encode session.settings.prompt
    run.value = .error (.stream fault) ∧
      transcriptOf run.events =
        linesTranscript machine prompt session.place (commandsOf bytes) ++
          ⟨[], prompt, [], [], []⟩ ∧
      promptsOf run.events =
        List.replicate ((commandsOf bytes).length + 1) session.shownPrompt ∧
      run.session.place =
        placeBehind session.place (effectsOf machine session.place (commandsOf bytes)) ∧
      Input.events run.session.input = later := by
  intro run prompt
  obtain ⟨next, reaches, left⟩ := run_lines machine capable (Or.inl whole) delivered
  rw [stays, untilExit_of_stays stays] at reaches
  obtain ⟨value, idles, unread⟩ := reaches.capable.run_failed machine (left stays)
  refine ⟨reaches.value.trans value, ?_, ?_, ?_, ?_⟩
  · rw [reaches.shown]
    simp only [Bool.false_eq_true, if_false, idles.shown, reaches.settings, prompt]
  · rw [reaches.prompts]
    simp only [Bool.false_eq_true, if_false, idles.prompts, shownPrompt, reaches.settings,
      List.replicate_succ']
  · rw [← reaches.place, reaches.behind]
    exact idles.place
  · rw [reaches.behind]
    exact unread

/-- A loop that comes to no failing read is the loop over the lines alone. -/
theorem run_unmet (machine : Machine World) {session : Session World} {script : Script}
    {quiet : Input} (capable : session.Capable) (between : script.BetweenLines)
    (delivered : session.input.events = script.events)
    (quietDelivered : quiet.events = script.bytes.map .byte) (none : script.met = []) :
    Alike (session.run machine) ((session.fed quiet).run machine) := by
  obtain ⟨parts, last⟩ := script
  cases parts with
  | nil =>
      have whole : session.input.events = last.map .byte ++ [] := by
        simpa [Script.events] using delivered
      have calmWhole : quiet.events = last.map .byte ++ [] := by
        simpa [Script.bytes] using quietDelivered
      exact run_alike machine capable (Or.inr ⟨rfl, rfl⟩) whole calmWhole (Or.inr ⟨rfl, rfl⟩)
  | cons part rest =>
      rw [Script.events_cons] at delivered
      rw [Script.bytes_cons, List.map_append] at quietDelivered
      exact run_alike machine capable (Or.inl (between _ List.mem_cons_self)) delivered
        quietDelivered (Or.inl (Script.met_cons_eq_nil_iff.mp none))

/-- A loop over lines with failing reads between them is, without a failing read that it comes to,
the loop over the lines alone; the first one that it comes to ends it. The lines in front of that
one have been run then, each with its prompt, and one prompt more was shown. The fault is the value
of the loop, although it is not fatal: it is reported nowhere, and what is behind it is not read. So
a loop carries on as described by `Turn.CarriesOn` exactly if it comes to no failing read. -/
theorem run_failing_reads (machine : Machine World) (session : Session World) (script : Script)
    (quiet : Input) (capable : session.Capable) (between : script.BetweenLines)
    (delivered : session.input.events = script.events)
    (quietDelivered : quiet.events = script.bytes.map .byte) :
    let run := session.run machine
    let calm := (session.fed quiet).run machine
    let prompt := Utf8.encode session.settings.prompt
    (run.CarriesOn calm script.met ↔ script.met = []) ∧
      (script.met = [] → Alike run calm) ∧
      ∀ bytes fault rest, script.parts = (bytes, fault) :: rest →
        (commandsOf bytes).any isExit = false →
          run.value = .error (.stream fault) ∧ (Failure.stream fault).isFatal = false ∧
          transcriptOf run.events =
            linesTranscript machine prompt session.place (commandsOf bytes) ++
              ⟨[], prompt, [], [], []⟩ ∧
          promptsOf run.events =
            List.replicate ((commandsOf bytes).length + 1) session.shownPrompt ∧
          run.session.place =
            placeBehind session.place (effectsOf machine session.place (commandsOf bytes)) ∧
          Input.events run.session.input = Script.events ⟨rest, script.last⟩ ∧
          commandsOf bytes <+: dispatchesOf calm.events := by
  intro run calm prompt
  have alike := run_unmet machine capable between delivered quietDelivered
  obtain ⟨parts, last⟩ := script
  refine ⟨⟨?_, ?_⟩, alike, ?_⟩
  · intro carries
    cases parts with
    | nil => rfl
    | cons part rest =>
        rw [Script.met_cons_eq_nil_iff]
        cases leaves : (commandsOf part.1).any isExit with
        | true => rfl
        | false =>
            rw [Script.events_cons] at delivered
            have value := (run_meets machine capable (between _ List.mem_cons_self) delivered
              leaves).1
            cases carries.value _ value
  · intro none
    obtain ⟨done, calmDone, shown, prompts, place⟩ := alike none
    rw [none]
    refine ⟨?_, List.nil_sublist _, congrArg List.length prompts,
      congrArg Transcript.dispatches shown, congrArg Transcript.starts shown, place⟩
    intro failure value
    rw [done] at value
    cases value
  · rintro bytes fault rest rfl stays
    rw [Script.events_cons] at delivered
    rw [Script.bytes_cons, List.map_append] at quietDelivered
    have whole : WholeLines bytes := between _ List.mem_cons_self
    obtain ⟨value, shown, prompts, place, unread⟩ :=
      run_meets machine capable whole delivered stays
    refine ⟨value, rfl, shown, prompts, place, unread, ?_⟩
    obtain ⟨next, reaches, -⟩ :=
      run_lines machine (capable.fed quiet) (Or.inl whole) quietDelivered
    have lines := reaches.dispatches
    rw [untilExit_of_stays stays] at lines
    exact ⟨_, lines.symm⟩

/-- A read that times out behind an `exit` is not met. -/
theorem run_failing_reads_behind_exit :
    let parts := [(Utf8.encode "say a\nexit\n", Fault.named .timedOut)]
    let script : Script := ⟨parts, Utf8.encode "say b\n"⟩
    let session := Session.small [.block (Utf8.encode "say a\nexit\n"),
      .failed (.named .timedOut), .block (Utf8.encode "say b\n")]
    let quiet : Input := [.block script.bytes]
    session.Capable ∧ script.BetweenLines ∧ session.input.events = script.events ∧
      quiet.events = script.bytes.map .byte ∧ script.met = [] ∧
      Alike (session.run Machine.small) ((session.fed quiet).run Machine.small) := by
  intro parts script session quiet
  have capable : session.Capable :=
    ⟨Memory.standard_allows (by decide) (by decide), ⟨rfl, rfl⟩, ⟨rfl, rfl⟩⟩
  have between : script.BetweenLines := by
    intro part member byte last
    obtain rfl := List.mem_singleton.mp member
    exact (Option.some.inj last).symm
  have none : script.met = [] := by decide +kernel
  exact ⟨capable, between, by decide, by decide, none,
    (run_failing_reads Machine.small session script quiet capable between (by decide)
      (by decide)).2.1 none⟩

/-- A read that times out once between two lines: the second line is not run, and nothing is
reported. -/
theorem run_failing_reads_timed_out :
    let session := Session.small [.block (Utf8.encode "say a\n"),
      .failed (.named .timedOut), .block (Utf8.encode "say b\n")]
    let run := session.run Machine.small
    let calm := (session.fed [.block (Utf8.encode "say a\nsay b\n")]).run Machine.small
    run.value = .error (.stream (.named .timedOut)) ∧
      (Failure.stream (.named .timedOut)).isFatal = false ∧
      transcriptOf run.events =
        ⟨[["say", "a"]], Utf8.encode "> > ", [], [(⟨[]⟩, [Utf8.encode "say", Utf8.encode "a"])],
          [.flow .output (Utf8.encode "a")]⟩ ∧
      [["say", "a"], ["say", "b"]] <+: dispatchesOf calm.events ∧
      ¬ run.CarriesOn calm [.named .timedOut] := by
  intro session run calm
  have capable : session.Capable :=
    ⟨Memory.standard_allows (by decide) (by decide), ⟨rfl, rfl⟩, ⟨rfl, rfl⟩⟩
  have whole : WholeLines (Utf8.encode "say a\n") := fun byte last => (Option.some.inj last).symm
  have delivered : session.input.events = (Utf8.encode "say a\n").map .byte ++
      .failed (.named .timedOut) :: (Utf8.encode "say b\n").map .byte := by decide
  have calmDelivered : (session.fed [.block (Utf8.encode "say a\nsay b\n")]).input.events =
      (Utf8.encode "say a\nsay b\n").map .byte ++ [] := by decide
  obtain ⟨value, shown, -⟩ := run_meets Machine.small capable whole delivered (by decide +kernel)
  obtain ⟨next, reaches, -⟩ :=
    run_lines Machine.small (capable.fed _) (Or.inr rfl) calmDelivered
  have lines := reaches.dispatches
  have both : untilExit (commandsOf (Utf8.encode "say a\nsay b\n")) =
      [["say", "a"], ["say", "b"]] := by decide +kernel
  rw [both] at lines
  refine ⟨value, rfl, shown.trans (by decide +kernel), ⟨_, lines.symm⟩, ?_⟩
  intro carries
  cases carries.value _ value

end Session
end PromptShell
