import PromptShell.Calls
import PromptShell.Proofs.Capacity
import PromptShell.Proofs.Invariant
import PromptShell.Proofs.Termination
import PromptShell.Proofs.WaitCalls
namespace PromptShell

variable {World : Type} {tight : Prop}

namespace Place

/-- What a child leaves in the log: its start, the notices about it, and its end or the error of the
wait for it. Where no child can be split off, that is the one record. -/
def childLog (machine : Machine World) (place : Place World) (words : List String) :
    List Record :=
  match place.start machine words with
  | .ok started =>
      let wait := started.wait machine
      .spawned (words.headD "") started.process ::
        (wait.notices.map (.stillRunning started.process) ++
          [match wait.outcome with
            | .ok ending => .finished (words.headD "") ending
            | .error errno => .waitFailed started.process errno])
  | .error errno => [.forkFailed errno]

/-- The warning about a directory that cannot be entered. -/
def moveWarning? (machine : Machine World) (place : Place World) (words : List String) :
    Option Record :=
  if words.head? = some Builtin.cd.name then
    match words[1]? with
    | none => none
    | some target =>
        match (place.lookUp machine target).1 with
        | .ok _ => none
        | .error errno => some (.enterFailed target errno)
  else none

/-- The records of a line that is run in a place. A blank line has none, a command of the shell has
one and a warning if it cannot move, and a program has one, and those of its child if every word can
be handed to it. -/
def lineLog (machine : Machine World) (place : Place World) (words : List String) : List Record :=
  match words with
  | [] => []
  | command :: _ =>
      if launches words then
        .launching command ::
          if ∃ word ∈ words, '\x00' ∈ word.toList then [] else place.childLog machine words
      else .running command :: (place.moveWarning? machine words).toList

end Place

/-- The log is among the deeds. -/
theorem logOf_deedsOf (events : List Event) : logOf (deedsOf events) = logOf events := by
  unfold logOf deedsOf
  rw [List.filterMap_filter]
  congr 1
  funext event
  cases event <;> rfl

theorem logOf_childEvents (machine : Machine World) (place : Place World) (words : List String) :
    logOf (place.childEvents machine words) = place.childLog machine words := by
  rw [Place.childEvents, Place.childLog]
  cases place.start machine words with
  | error errno => rfl
  | ok started =>
      dsimp only
      rw [Place.waitEvents, logOf_append, logOf_append, logOf_append, logOf_emitted, logOf_logged]
      rfl

/-- The log of the effect of a line. -/
theorem logOf_effectOf (machine : Machine World) (place : Place World) (words : List String) :
    logOf (effectOf machine place words).events = place.lineLog machine words := by
  rcases line_cases words with rfl | ⟨builtin, rest, rfl⟩ | launched
  · rfl
  · rw [Place.lineLog, if_neg (by rw [launches_name]; decide)]
    cases builtin with
    | help =>
        rw [effectOf_help]
        rfl
    | exit =>
        rw [effectOf_exit]
        rfl
    | cd =>
        rw [effectOf_cd, effectOfMove, Place.moveWarning?, if_pos (List.head?_cons)]
        cases (Builtin.cd.name :: rest)[1]? with
        | none => rfl
        | some target =>
            dsimp only
            obtain ⟨outcome, world⟩ := place.lookUp machine target
            cases outcome <;> rfl
  · obtain ⟨command, rest, rfl⟩ : ∃ command rest, words = command :: rest := by
      cases words with
      | nil => cases launched
      | cons command rest => exact ⟨command, rest, rfl⟩
    have sendable := startFailure?_eq_none_iff (command :: rest) (List.cons_ne_nil _ _)
    rw [effectOf_launch machine place launched, effectOfLaunch, Place.lineLog, if_pos launched]
    cases failure : startFailure? (command :: rest) with
    | none =>
        have free := sendable.mp failure
        rw [if_neg (by simpa using free), ← logOf_childEvents]
        rfl
    | some failure =>
        rw [if_pos]
        · rfl
        · by_contra free
          have none := sendable.mpr (by simpa using free)
          rw [failure] at none
          cases none

namespace Settings

/-- One record for each full step of a line buffer that has stored some bytes. -/
def lineRecords (settings : Settings) (bytes : Bytes) : List Record :=
  (Buffer.growthsFor settings.lineGrowth bytes.length).map .lineGrown

/-- One record for each full step of a list that has stored some words. -/
def argumentRecords (settings : Settings) (words : List String) : List Record :=
  (Buffer.growthsFor settings.argumentGrowth words.length).map .argumentsGrown

@[simp] theorem lineRecords_nil (settings : Settings) : settings.lineRecords [] = [] := by
  rw [lineRecords, List.length_nil, Buffer.growthsFor, Nat.zero_div]
  rfl

end Settings

/-- The records of a text that is cut and run: none if there is no room for the list of its words,
else the growths of the list, and behind them those of the line. Where memory may be tight, a list
that has no room to grow leaves the growths before that one and runs nothing. -/
inductive TextLog (tight : Prop) (machine : Machine World) (session : Session World)
    (text : String) : List Record → Prop
  | roomless (refused : ¬ session.CanCut) : TextLog tight machine session text []
  | cutOff {count : Nat} (may : tight) (given : session.CanCut)
      (refuses : (session.memory.words 0).Refuses session.settings.argumentGrowth (count + 1))
      (short : count < (wordsOf text).length) :
      TextLog tight machine session text
        (session.settings.argumentRecords ((wordsOf text).take count))
  | run (given : session.CanCut)
      (gives : (session.memory.words 0).Gives session.settings.argumentGrowth 0
        (wordsOf text).length) :
      TextLog tight machine session text
        (session.settings.argumentRecords (wordsOf text) ++
          session.place.lineLog machine (wordsOf text))

/-- The records of a cycle behind its prompt: none if there is no room for the line buffer, else the
growths of the bytes that the reading took, and behind them nothing if it failed, the end of the
input, or what the text of the line has left. Where memory may be tight, a buffer that has no room
to grow leaves the growths before that one. -/
inductive CycleLog (tight : Prop) (machine : Machine World) (session : Session World) :
    List Record → Prop
  | roomless (refused : ¬ session.CanRead) : CycleLog tight machine session []
  | cutOff {bytes : Bytes} {rest : Input} (may : tight)
      (reads : session.Reads bytes .cramped rest) :
      CycleLog tight machine session (session.settings.lineRecords bytes.dropLast)
  | failed {bytes : Bytes} {fault : Fault} {rest : Input}
      (reads : session.Reads bytes (.failed fault) rest) :
      CycleLog tight machine session (session.settings.lineRecords bytes)
  | ended {rest : Input} (reads : session.Reads [] .ended rest) :
      CycleLog tight machine session [.endOfInput]
  | served {bytes : Bytes} {halt : Line.Halt} {rest : Input} {log : List Record}
      (reads : session.Reads bytes halt rest) (arrived : Line.Arrives bytes halt)
      (text : TextLog tight machine session (Utf8.decode bytes) log) :
      CycleLog tight machine session (session.settings.lineRecords bytes ++ log)

/-- The records of a cycle: none if the prompt could not be shown. -/
inductive StepLog (tight : Prop) (machine : Machine World) (session : Session World) :
    List Record → Prop
  | unasked {fault : Fault} (asked : session.ask.value = some fault) :
      StepLog tight machine session []
  | asked {log : List Record} (asked : session.ask.value = none)
      (cycle : CycleLog tight machine session log) :
      StepLog tight machine session log

/-- The records of some calls, one group behind the other. A loop leaves the groups of its
cycles. -/
inductive Chronicle (tight : Prop) (machine : Machine World) :
    Session World → List Call → List Record → Prop
  | nothing (session : Session World) : Chronicle tight machine session [] []
  | step {session : Session World} {calls : List Call} {group log : List Record}
      (cycle : StepLog tight machine session group)
      (following : Chronicle tight machine (session.step machine).session calls log) :
      Chronicle tight machine session (.step :: calls) (group ++ log)
  | cycle {session : Session World} {calls : List Call} {group log : List Record}
      (goes : Session.goesOn (session.step machine).value = .ok true)
      (cycle : StepLog tight machine session group)
      (following : Chronicle tight machine (session.step machine).session (.run :: calls) log) :
      Chronicle tight machine session (.run :: calls) (group ++ log)
  | lastCycle {session : Session World} {calls : List Call} {group log : List Record}
      (ends : Session.goesOn (session.step machine).value ≠ .ok true)
      (cycle : StepLog tight machine session group)
      (following : Chronicle tight machine (session.run machine).session calls log) :
      Chronicle tight machine session (.run :: calls) (group ++ log)
  | execute {session : Session World} {words : List String} {calls : List Call}
      {log : List Record}
      (following : Chronicle tight machine (session.execute machine words).session calls log) :
      Chronicle tight machine session (.execute words :: calls)
        (session.place.lineLog machine words ++ log)
  | executeText {session : Session World} {text : String} {calls : List Call}
      {group log : List Record}
      (line : TextLog tight machine session text group)
      (following : Chronicle tight machine (session.executeText machine text).session calls log) :
      Chronicle tight machine session (.executeText text :: calls) (group ++ log)

namespace Session

variable {session : Session World} {rest : Input} {bytes : Bytes} {halt : Line.Halt}

/-- A reading logs one growth for each full step of the bytes behind which it had room. -/
theorem Reads.logOf_readingEvents (reads : session.Reads bytes halt rest) :
    logOf session.readingEvents = session.settings.lineRecords (halt.roomy bytes) := by
  have growths := congrArg Line.Reading.growths reads.reading
  change logOf (session.reading.growths.map fun capacity => .logged (.lineGrown capacity)) = _
  rw [logOf_logged, growths, Settings.lineRecords]

/-- Without a line there is nothing to cut. -/
theorem arrivalEvents_of_lineless (lineless : session.text? = none) :
    session.arrivalEvents = session.readingEvents := by
  rw [arrivalEvents, lineless]
  exact List.append_nil _

/-- The text of a line that has arrived is cut. -/
theorem Reads.text?_arrived (reads : session.Reads bytes halt rest)
    (arrived : Line.Arrives bytes halt) : session.text? = some (Utf8.decode bytes) := by
  simp only [text?, reads.reading, Line.answer_of_arrives _ arrived, Line.ofBytes_text]

/-- A reading that has failed has found no line. -/
theorem Reads.text?_failed {fault : Fault} (reads : session.Reads bytes (.failed fault) rest) :
    session.text? = none := by
  rw [text?, reads.reading, Line.answer_failed]

theorem Reads.text?_cramped (reads : session.Reads bytes .cramped rest) :
    session.text? = none := by
  rw [text?, reads.reading, Line.answer_cramped]

theorem Reads.text?_ended (reads : session.Reads [] .ended rest) : session.text? = none := by
  rw [text?, reads.reading, Line.answer_ended, if_pos rfl]

/-- The log of a line that is run. -/
theorem logOf_execute (machine : Machine World) (session : Session World) (words : List String) :
    logOf (session.execute machine words).events = session.place.lineLog machine words := by
  rw [← logOf_deedsOf, deedsOf_execute, logOf_effectOf]

/-- The growths of the list of words in a log. -/
theorem logOf_cuttingEvents (session : Session World) (text : String) :
    logOf (session.cuttingEvents text) =
      (session.cutting text).growths.map .argumentsGrown := by
  rw [cuttingEvents, logOf_logged]

/-- The records of a text are those of its cutting and, if there was room for its words, those of
its line. -/
theorem logOf_cutting {machine : Machine World} {text : String} {log : List Record}
    (line : TextLog tight machine session text log) :
    ((∃ failure, (session.cutting text).answer = .error failure) ∧
        logOf (session.cuttingEvents text) = log) ∨
      (∃ arguments, (session.cutting text).answer = .ok arguments) ∧
        logOf (session.cuttingEvents text) ++ session.place.lineLog machine (wordsOf text) =
          log := by
  rw [logOf_cuttingEvents]
  cases line with
  | roomless refused =>
      rw [cutting_refused refused]
      exact Or.inl ⟨⟨_, rfl⟩, rfl⟩
  | cutOff may given refuses short =>
      rw [cutting_of_refuses given refuses (by rwa [length_split])]
      refine Or.inl ⟨⟨_, rfl⟩, ?_⟩
      rw [Settings.argumentRecords, List.length_take_of_le (Nat.le_of_lt short)]
  | run given gives =>
      rw [← length_split] at gives
      rw [cutting_of_gives given gives]
      refine Or.inr ⟨⟨_, rfl⟩, ?_⟩
      rw [Settings.argumentRecords, ← length_split]

/-- Where memory may not be tight, there is room for a step or not by its size alone. -/
def TightOnlyIf (session : Session World) (tight : Prop) : Prop :=
  ¬ tight →
    session.memory.BySize session.settings.lineGrowth session.settings.argumentGrowth

theorem TightOnlyIf.behind {Value : Type} {turn : Turn World Value}
    (only : session.TightOnlyIf tight) (takes : turn.TakesBuffers session) :
    turn.session.TightOnlyIf tight :=
  fun calm => takes.bySize (only calm)

theorem TightOnlyIf.of_refuses (only : session.TightOnlyIf tight) (given : session.CanCut)
    {count : Nat}
    (refuses : (session.memory.words 0).Refuses session.settings.argumentGrowth count) :
    tight := by
  by_contra calm
  exact ((only calm).words 0).not_refuses given refuses

theorem TightOnlyIf.of_cramped (only : session.TightOnlyIf tight)
    (reads : session.Reads bytes .cramped rest) : tight := by
  by_contra calm
  exact ((only calm).lines 0).not_refuses reads.given reads.permits

/-- Every text leaves records when it is cut and run. -/
theorem exists_textLog (machine : Machine World) (session : Session World)
    (only : session.TightOnlyIf tight) (text : String) :
    ∃ log, TextLog tight machine session text log := by
  by_cases given : session.CanCut
  · rcases (session.memory.words 0).gives_or_refuses session.settings.argumentGrowth
      (wordsOf text).length with gives | ⟨full, short, refuses⟩
    · exact ⟨_, .run given gives⟩
    · obtain ⟨count, rfl⟩ := Nat.exists_eq_succ_of_ne_zero (Nat.ne_of_gt refuses.solid)
      exact ⟨_, .cutOff (only.of_refuses given refuses) given refuses short⟩
  · exact ⟨[], .roomless given⟩

/-- The log of a text that is cut and run. -/
theorem logOf_executeText {machine : Machine World} {text : String} {log : List Record}
    (line : TextLog tight machine session text log) :
    logOf (session.executeText machine text).events = log := by
  rw [executeText_eq]
  rcases logOf_cutting line with ⟨⟨failure, answer⟩, rfl⟩ | ⟨⟨arguments, answer⟩, rfl⟩
  · rw [answer]
  · rw [answer, Turn.andThen_events, note_events, Turn.map_events, logOf_append, logOf_execute]
    rfl

theorem textLog_logOf (machine : Machine World) (session : Session World)
    (only : session.TightOnlyIf tight) (text : String) :
    TextLog tight machine session text (logOf (session.executeText machine text).events) := by
  obtain ⟨log, line⟩ := session.exists_textLog machine only text
  rwa [logOf_executeText line]

/-- The log of what a cycle does behind its prompt. -/
theorem logOf_serve {machine : Machine World} {log : List Record}
    (cycle : CycleLog tight machine session log) : logOf (session.serve machine).events = log := by
  rw [serve_eq]
  cases cycle with
  | roomless refused =>
      have lineless : session.text? = none := by rw [text?, reading_refused refused]
      have arrival : session.arrival = .error .allocation := by
        rw [arrival, reading_refused refused]
      rw [arrival, arrivalEvents_of_lineless lineless, readingEvents, reading_refused refused]
      rfl
  | cutOff may reads =>
      rw [reads.arrival_cramped, arrivalEvents_of_lineless reads.text?_cramped,
        reads.logOf_readingEvents]
      rfl
  | failed reads =>
      rw [reads.arrival_failed, arrivalEvents_of_lineless reads.text?_failed,
        reads.logOf_readingEvents]
      rfl
  | ended reads =>
      have calm : logOf session.readingEvents = [] := by
        rw [reads.logOf_readingEvents]
        exact session.settings.lineRecords_nil
      rw [reads.arrival_ended, arrivalEvents_of_lineless reads.text?_ended, logOf_append, calm]
      rfl
  | @served bytes halt rest group reads arrived line =>
      have events : logOf session.arrivalEvents =
          session.settings.lineRecords bytes ++
            logOf (session.cuttingEvents (Utf8.decode bytes)) := by
        rw [arrivalEvents, reads.text?_arrived arrived, logOf_append, reads.logOf_readingEvents,
          arrived.roomy]
        rfl
      rw [reads.arrival_arrived arrived]
      rcases logOf_cutting line with ⟨⟨failure, answer⟩, rfl⟩ | ⟨⟨arguments, answer⟩, rfl⟩
      · rw [answer]
        exact events
      · rw [answer, ← List.append_assoc, ← events]
        change logOf ((session.behindArrival.note session.arrivalEvents).andThen _).events = _
        rw [Turn.andThen_events, note_events, Turn.map_events, logOf_append, logOf_execute]
        rfl

/-- Every cycle leaves the records of one of its kinds behind its prompt. -/
theorem exists_cycleLog (machine : Machine World) (session : Session World)
    (only : session.TightOnlyIf tight) :
    ∃ log, CycleLog tight machine session log := by
  by_cases given : session.CanRead
  · obtain ⟨bytes, halt, rest, reads⟩ := exists_reads given
    rcases Line.halt_cases bytes halt with ⟨fault, rfl⟩ | rfl | ⟨rfl, rfl⟩ | arrived
    · exact ⟨_, .failed reads⟩
    · exact ⟨_, .cutOff (only.of_cramped reads) reads⟩
    · exact ⟨_, .ended reads⟩
    · obtain ⟨log, line⟩ := session.exists_textLog machine only (Utf8.decode bytes)
      exact ⟨_, .served reads arrived line⟩
  · exact ⟨[], .roomless given⟩

/-- What happens on the streams of a shell has no part in what it reads. -/
theorem Reads.onStreams {Value : Type} {turn : Turn World Value}
    (streams : turn.OnStreams session) (reads : session.Reads bytes halt rest) :
    turn.session.Reads bytes halt rest := by
  obtain ⟨given, taken, permits⟩ := reads
  refine ⟨?_, ?_, ?_⟩
  · rwa [CanRead, streams.memory, streams.settings]
  · rwa [streams.input]
  · rwa [streams.memory, streams.settings]

end Session

/-- What happens on the streams of a shell has no part in the records of a text. -/
theorem TextLog.onStreams {Value : Type} {machine : Machine World} {session : Session World}
    {turn : Turn World Value} (streams : turn.OnStreams session) {text : String}
    {log : List Record} (line : TextLog tight machine session text log) :
    TextLog tight machine turn.session text log := by
  have cut : turn.session.CanCut = session.CanCut := by
    rw [Session.CanCut, Session.CanCut, streams.memory, streams.settings]
  cases line with
  | roomless refused => exact .roomless (by rwa [cut])
  | cutOff may given refuses short =>
      rw [← streams.settings]
      rw [← streams.memory, ← streams.settings] at refuses
      exact .cutOff may (by rwa [cut]) refuses short
  | run given gives =>
      rw [← streams.settings, ← streams.place]
      rw [← streams.memory, ← streams.settings] at gives
      exact .run (by rwa [cut]) gives

/-- What happens on the streams of a shell has no part in the records of a cycle. -/
theorem CycleLog.onStreams {Value : Type} {machine : Machine World} {session : Session World}
    {turn : Turn World Value} (streams : turn.OnStreams session) {log : List Record}
    (cycle : CycleLog tight machine session log) : CycleLog tight machine turn.session log := by
  cases cycle with
  | roomless refused =>
      refine .roomless ?_
      rwa [Session.CanRead, streams.memory, streams.settings]
  | cutOff may reads =>
      rw [← streams.settings]
      exact .cutOff may (reads.onStreams streams)
  | failed reads =>
      rw [← streams.settings]
      exact .failed (reads.onStreams streams)
  | ended reads => exact .ended (reads.onStreams streams)
  | served reads arrived line =>
      rw [← streams.settings]
      exact .served (reads.onStreams streams) arrived (line.onStreams streams)

namespace Session

variable {session : Session World}

/-- Showing the prompt is not logged. -/
theorem logOf_ask (session : Session World) : logOf session.ask.events = [] := by
  rw [← logOf_deedsOf, session.ask_onStreams.deeds]
  rfl

/-- The log of a cycle. -/
theorem logOf_step {machine : Machine World} {log : List Record}
    (step : StepLog tight machine session log) : logOf (session.step machine).events = log := by
  cases step with
  | unasked asked =>
      rw [step_unasked machine session _ asked, Turn.andThen_events, stay_events, List.append_nil]
      exact session.logOf_ask
  | asked asked cycle =>
      rw [step_asked machine session asked, Turn.andThen_events, logOf_append, logOf_ask,
        List.nil_append]
      exact logOf_serve (cycle.onStreams session.ask_onStreams)

theorem stepLog_logOf (machine : Machine World) (session : Session World)
    (only : session.TightOnlyIf tight) :
    StepLog tight machine session (logOf (session.step machine).events) := by
  have found : ∃ log, StepLog tight machine session log := by
    cases asked : session.ask.value with
    | some fault => exact ⟨[], .unasked asked⟩
    | none =>
        obtain ⟨log, cycle⟩ := session.exists_cycleLog machine only
        exact ⟨log, .asked asked cycle⟩
  obtain ⟨log, step⟩ := found
  rwa [logOf_step step]

/-- The end of a loop is not logged. -/
theorem logOf_close (session : Session World) : logOf session.close.events = [] := rfl

/-- The log of a loop is that of its first cycle and that of the loop behind it. -/
theorem logOf_run_goes (machine : Machine World) {session : Session World}
    (goes : goesOn (session.step machine).value = .ok true) :
    logOf (session.run machine).events =
        logOf (session.step machine).events ++
          logOf ((session.step machine).session.run machine).events ∧
      (session.run machine).session =
        ((session.step machine).session.run machine).session := by
  rw [run_follow, Turn.andThen_events, Turn.andThen_session, follow, goes, logOf_append]
  exact ⟨rfl, rfl⟩

/-- The log of a loop that does not go on is that of its cycle. -/
theorem logOf_run_ends (machine : Machine World) {session : Session World}
    (ends : goesOn (session.step machine).value ≠ .ok true) :
    logOf (session.run machine).events = logOf (session.step machine).events := by
  rw [run_follow, Turn.andThen_events, logOf_append, follow]
  cases outcome : goesOn (session.step machine).value with
  | error failure => exact List.append_nil _
  | ok going =>
      cases going with
      | true => exact absurd outcome ends
      | false => rw [logOf_close, List.append_nil]

/-- The log of calls is that of the first one and that of the others. -/
theorem logOf_callAll_cons (machine : Machine World) (session : Session World) (call : Call)
    (rest : List Call) :
    logOf (session.callAll machine (call :: rest)).events =
      logOf (session.call machine call).events ++
        logOf ((session.call machine call).session.callAll machine rest).events := by
  rw [callAll, Turn.andThen_events, Turn.map_events, logOf_append]

end Session

/-- A chronicle of calls is their log. -/
theorem Chronicle.logOf_callAll {machine : Machine World} {session : Session World}
    {calls : List Call} {log : List Record}
    (chronicle : Chronicle tight machine session calls log) :
    logOf (session.callAll machine calls).events = log := by
  induction chronicle with
  | nothing session => rfl
  | @step session calls group log cycle following ih =>
      rw [Session.logOf_callAll_cons]
      change logOf (session.step machine).events ++ logOf _ = _
      rw [Session.logOf_step cycle]
      exact congrArg (group ++ ·) ih
  | @cycle session calls group log goes cycle following ih =>
      obtain ⟨events, behind⟩ := Session.logOf_run_goes machine goes
      rw [Session.logOf_callAll_cons] at ih ⊢
      change logOf (session.run machine).events ++
        logOf ((session.run machine).session.callAll machine calls).events = _
      rw [events, behind, Session.logOf_step cycle, List.append_assoc]
      exact congrArg (group ++ ·) ih
  | @lastCycle session calls group log ends cycle following ih =>
      rw [Session.logOf_callAll_cons]
      change logOf (session.run machine).events ++ logOf _ = _
      rw [Session.logOf_run_ends machine ends, Session.logOf_step cycle]
      exact congrArg (group ++ ·) ih
  | @execute session words calls log following ih =>
      rw [Session.logOf_callAll_cons]
      change logOf (session.execute machine words).events ++ logOf _ = _
      rw [Session.logOf_execute]
      exact congrArg (session.place.lineLog machine words ++ ·) ih
  | @executeText session text calls group log line following ih =>
      rw [Session.logOf_callAll_cons]
      change logOf (session.executeText machine text).events ++ logOf _ = _
      rw [Session.logOf_executeText line]
      exact congrArg (group ++ ·) ih

/-- A chronicle behind a loop is continued to one in front of it, cycle by cycle. -/
theorem exists_chronicle_run (machine : Machine World) (session : Session World)
    (only : session.TightOnlyIf tight) {calls : List Call} {log : List Record}
    (following : Chronicle tight machine (session.run machine).session calls log) :
    ∃ whole, Chronicle tight machine session (.run :: calls) whole := by
  induction session using Session.run_induct machine with
  | cycle session ih =>
      have cycle := session.stepLog_logOf machine only
      have next := only.behind ((Turn.takesBuffers_invariant machine).step session)
      by_cases goes : Session.goesOn (session.step machine).value = .ok true
      · rw [(Session.logOf_run_goes machine goes).2] at following
        obtain ⟨whole, chronicle⟩ := ih goes next following
        exact ⟨_, .cycle goes cycle chronicle⟩
      · exact ⟨_, .lastCycle goes cycle following⟩

/-- Every sequence of calls has a chronicle. -/
theorem exists_chronicle (machine : Machine World) (session : Session World)
    (only : session.TightOnlyIf tight) (calls : List Call) :
    ∃ log, Chronicle tight machine session calls log := by
  have takes := Turn.takesBuffers_invariant machine
  induction calls generalizing session with
  | nil => exact ⟨[], .nothing session⟩
  | cons call rest ih =>
      cases call with
      | step =>
          obtain ⟨log, following⟩ := ih _ (only.behind (takes.step session))
          exact ⟨_, .step (session.stepLog_logOf machine only) following⟩
      | run =>
          obtain ⟨log, following⟩ := ih _ (only.behind (takes.run session))
          exact exists_chronicle_run machine session only following
      | execute words =>
          obtain ⟨log, following⟩ := ih _ (only.behind (takes.execute session words))
          exact ⟨_, .execute following⟩
      | executeText text =>
          obtain ⟨log, following⟩ := ih _ (only.behind (takes.executeText session text))
          exact ⟨_, .executeText (session.textLog_logOf machine only text) following⟩

/-- The chronicle of some calls is their log and nothing else. -/
theorem chronicle_iff {machine : Machine World} {session : Session World} {calls : List Call}
    (only : session.TightOnlyIf tight) (log : List Record) :
    Chronicle tight machine session calls log ↔
      log = logOf (session.callAll machine calls).events := by
  constructor
  · intro chronicle
    exact chronicle.logOf_callAll.symm
  · rintro rfl
    obtain ⟨log, chronicle⟩ := exists_chronicle machine session only calls
    rwa [chronicle.logOf_callAll]

end PromptShell
