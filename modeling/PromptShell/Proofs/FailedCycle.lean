import PromptShell.Proofs.Taking
namespace PromptShell

variable {World : Type}

/-- An event on the way to the execution of a line. -/
def Event.isPreparation : Event → Bool
  | prompted _ | flushed _ | awaited => true
  | logged record => record.isGrowth
  | _ => false

/-- Preparations hand no line over, run nothing and report nothing. -/
theorem preparation_silent {events : List Event}
    (prepares : ∀ event ∈ events, event.isPreparation = true) :
    dispatchesOf events = [] ∧ startsOf events = [] ∧ emissionsOf events = [] ∧
      errorsOf events = [] ∧ reportsOf events = [] := by
  simp only [dispatchesOf, startsOf, emissionsOf, errorsOf, reportsOf, List.flatMap_eq_nil_iff,
    List.filterMap_eq_nil_iff]
  refine ⟨?_, ?_, ?_, ?_, ?_⟩
  all_goals
    intro event member
    have kind := prepares event member
    cases event <;> first | rfl | simp [Event.isPreparation] at kind

/-- The bytes that a sink takes are the first ones of a write. -/
theorem Sink.write_taken_prefix (sink : Sink) (bytes : Bytes) :
    (sink.write bytes).taken <+: bytes := by
  cases room : sink.room with
  | none => simp [write, room]
  | some left =>
      simp only [write, room]
      exact List.take_prefix left bytes

/-- One action, a second and a third are the first and the other two. -/
theorem Turn.andThen_assoc {First Second Third : Type} (turn : Turn World First)
    (next : First → Session World → Turn World Second)
    (last : Second → Session World → Turn World Third) :
    (turn.andThen next).andThen last =
      turn.andThen fun value session => (next value session).andThen last := by
  simp only [andThen, List.append_assoc]

/-- A turn has prepared the execution of a line: some bytes were shown, some input was taken, and
everything else is as it was. -/
structure Turn.Prepares {Value : Type} (turn : Turn World Value) (session : Session World)
    (shown : Bytes) (rest : Input) : Prop where
  events : ∀ event ∈ turn.events, event.isPreparation = true
  output : outputOf turn.events = shown
  input : turn.session.input = rest
  place : turn.session.place = session.place
  errors : turn.session.errors = session.errors
  settings : turn.session.settings = session.settings

/-- Preparations follow each other. -/
theorem Turn.Prepares.andThen {Value Result : Type} {turn : Turn World Value}
    {session : Session World} {early late : Bytes} {middle rest : Input}
    (first : turn.Prepares session early middle)
    (next : Value → Session World → Turn World Result)
    (second : (next turn.value turn.session).Prepares turn.session late rest) :
    (turn.andThen next).Prepares session (early ++ late) rest where
  events := by
    rw [Turn.andThen_events, List.forall_mem_append]
    exact ⟨first.events, second.events⟩
  output := by rw [Turn.andThen_events, outputOf_append, first.output, second.output]
  input := second.input
  place := second.place.trans first.place
  errors := second.errors.trans first.errors
  settings := second.settings.trans first.settings

/-- Two turns that have run the same lines with the same effects, up to the output stream. -/
structure Turn.RunsLike {Value Result : Type} (turn : Turn World Value)
    (other : Turn World Result) : Prop where
  place : turn.session.place = other.session.place
  errors : turn.session.errors = other.session.errors
  dispatches : dispatchesOf turn.events = dispatchesOf other.events
  starts : startsOf turn.events = startsOf other.events
  emissions : emissionsOf turn.events = emissionsOf other.events
  errorBytes : errorsOf turn.events = errorsOf other.events

/-- A preparation adds nothing to what was run before it. -/
theorem Turn.Prepares.runsLike {Value Result : Type} {turn : Turn World Value} {shown : Bytes}
    {rest : Input} {next : Value → Session World → Turn World Result}
    (prepares : (next turn.value turn.session).Prepares turn.session shown rest) :
    (turn.andThen next).RunsLike turn := by
  obtain ⟨dispatches, starts, emissions, errors, -⟩ := preparation_silent prepares.events
  refine ⟨prepares.place, prepares.errors, ?_, ?_, ?_, ?_⟩
  · rw [Turn.andThen_events, dispatchesOf_append, dispatches, List.append_nil]
  · rw [Turn.andThen_events, startsOf_append, starts, List.append_nil]
  · rw [Turn.andThen_events, emissionsOf_append, emissions, List.append_nil]
  · rw [Turn.andThen_events, errorsOf_append, errors, List.append_nil]

namespace Session

/-- The bytes of the prompt. -/
def promptBytes (session : Session World) : Bytes := Utf8.encode session.settings.prompt

/-- The stages at which a cycle can fail: the write of the prompt and the flush behind it, the
buffer for the line and its growth, the reading, and the list for the words and its growth. -/
inductive Stage where
  | prompt
  | flush
  | buffer
  | growth
  | reading
  | words
  | wordGrowth
  deriving Repr, DecidableEq

/-- The failures of a cycle, stage by stage, with the bytes of the prompt that were shown and the
input that is left. -/
inductive Fails (session : Session World) : Stage → Failure → Bytes → Input → Prop
  | prompt (fault : Fault)
      (refused : (session.output.write session.promptBytes).fault = some fault) :
      Fails session .prompt (.stream fault) (session.output.write session.promptBytes).taken
        session.input
  | flush (fault : Fault) (written : (session.output.write session.promptBytes).fault = none)
      (refused : (session.output.write session.promptBytes).sink.flush.2 = some fault) :
      Fails session .flush (.stream fault) session.promptBytes session.input
  | buffer (asked : session.ask.value = none) (refused : ¬ session.CanRead) :
      Fails session .buffer .allocation session.promptBytes session.input
  | growth (bytes : Bytes) (rest : Input) (asked : session.ask.value = none)
      (reads : session.Reads bytes .cramped rest) :
      Fails session .growth .allocation session.promptBytes rest
  | reading (fault : Fault) (bytes : Bytes) (rest : Input) (asked : session.ask.value = none)
      (reads : session.Reads bytes (.failed fault) rest) :
      Fails session .reading (.stream fault) session.promptBytes rest
  | words (bytes : Bytes) (halt : Line.Halt) (rest : Input) (asked : session.ask.value = none)
      (reads : session.Reads bytes halt rest) (arrived : Line.Arrives bytes halt)
      (refused : ¬ session.CanCut) :
      Fails session .words .allocation session.promptBytes rest
  | wordGrowth (bytes : Bytes) (halt : Line.Halt) (rest : Input) (count : Nat)
      (asked : session.ask.value = none) (reads : session.Reads bytes halt rest)
      (arrived : Line.Arrives bytes halt)
      (given : session.CanCut)
      (refuses : (session.memory.words 0).Refuses session.settings.argumentGrowth (count + 1))
      (short : count < (wordsOf (Utf8.decode bytes)).length) :
      Fails session .wordGrowth .allocation session.promptBytes rest

/-- Showing the prompt fails at its write or at the flush behind it. -/
theorem ask_value (session : Session World) :
    session.ask.value =
      match (session.output.write session.promptBytes).fault with
      | some fault => some fault
      | none => (session.output.write session.promptBytes).sink.flush.2 := by
  simp only [ask, writeOut, write, promptBytes, Turn.andThen_value]
  cases (session.output.write (Utf8.encode session.settings.prompt)).fault <;> rfl

/-- Showing the prompt is a preparation that takes no input. -/
theorem ask_prepares (session : Session World) :
    session.ask.Prepares session (session.output.write session.promptBytes).taken
      session.input := by
  have streams := session.ask_onStreams
  refine ⟨?_, session.ask_writes.output.taken, streams.input, streams.place, ?_,
    streams.settings⟩
  all_goals
    simp only [ask, writeOut, write, Turn.andThen_events, Turn.andThen_session]
    cases (session.output.write (Utf8.encode session.settings.prompt)).fault <;>
      simp [flush, Event.isPreparation]

/-- A prompt that was shown was written whole. -/
theorem write_of_asked {session : Session World} (asked : session.ask.value = none) :
    (session.output.write session.promptBytes).fault = none ∧
      (session.output.write session.promptBytes).taken = session.promptBytes := by
  have value := session.ask_value
  rw [asked] at value
  cases fault : (session.output.write session.promptBytes).fault with
  | some fault => simp [fault] at value
  | none => exact ⟨rfl, (Sink.write_fault_eq_none_iff _ _).mp fault⟩

/-- A cycle whose prompt could not be shown is over. -/
theorem step_unasked (machine : Machine World) (session : Session World) (fault : Fault)
    (asked : session.ask.value = some fault) :
    session.step machine =
      session.ask.andThen fun _ next => next.stay (.error (.stream fault)) := by
  simp only [step_eq, Turn.andThen, asked]

/-- A cycle whose prompt was shown serves a line. -/
theorem step_asked (machine : Machine World) (session : Session World)
    (asked : session.ask.value = none) :
    session.step machine = session.ask.andThen fun _ next => next.serve machine := by
  simp only [step_eq, Turn.andThen, asked]

/-- The prompt has no part in what arrives. -/
theorem ask_arrival (session : Session World) :
    session.ask.session.arrival = session.arrival ∧
      session.ask.session.reading = session.reading := by
  have streams := session.ask_onStreams
  obtain ⟨arrived, read, -⟩ := arrival_congr streams.settings streams.input streams.memory
  exact ⟨arrived, read⟩

/-- What happens on an arrival is preparation. -/
theorem arrivalEvents_isPreparation (session : Session World) :
    ∀ event ∈ session.arrivalEvents, event.isPreparation = true := by
  intro event member
  simp only [arrivalEvents, readingEvents, List.cons_append, List.mem_cons, List.mem_append,
    List.mem_map] at member
  rcases member with rfl | ⟨_, _, rfl⟩ | cut
  · rfl
  · rfl
  · cases found : session.text? with
    | none => simp [found] at cut
    | some text =>
        rw [found] at cut
        obtain ⟨_, _, rfl⟩ := List.mem_map.mp cut
        rfl

/-- Serving a failure is a preparation. -/
theorem serve_prepares (machine : Machine World) (session : Session World) {failure : Failure}
    (failed : session.arrival = .error failure) :
    (session.serve machine).value = .error failure ∧
      (session.serve machine).Prepares session [] session.reading.rest := by
  rw [serve_eq, failed]
  exact ⟨rfl, session.arrivalEvents_isPreparation, outputOf_quiet session.arrivalEvents_isQuiet,
    rfl, rfl, rfl, rfl⟩

/-- A cycle to which a failure arrives behind its prompt. -/
theorem step_arrived (machine : Machine World) (session : Session World) {failure : Failure}
    (asked : session.ask.value = none) (failed : session.arrival = .error failure) :
    (session.step machine).value = .error failure ∧
      (session.step machine).Prepares session session.promptBytes session.reading.rest := by
  obtain ⟨sameArrival, sameReading⟩ := session.ask_arrival
  rw [← sameArrival] at failed
  obtain ⟨value, serves⟩ := session.ask.session.serve_prepares machine failed
  have shown := session.ask_prepares
  rw [(write_of_asked asked).2] at shown
  rw [sameReading] at serves
  have whole := shown.andThen (fun _ next => next.serve machine) serves
  rw [List.append_nil] at whole
  rw [step_asked machine session asked]
  exact ⟨value, whole⟩

/-- Without room for the line buffer the input is not read. -/
theorem reading_refused {session : Session World} (refused : ¬ session.CanRead) :
    session.reading = ⟨.error .allocation, session.input, []⟩ := by
  rw [CanRead, ← session.settings.max_lineGrowth] at refused
  exact Line.read_refused refused session.input

/-- A text has as many words as stand in it. -/
theorem length_split (text : String) : (Word.split text).length = (wordsOf text).length := by
  rw [← Word.split_texts, List.length_map]

/-- A cycle that meets one of the failures has it for its value, and has only prepared. -/
theorem Fails.step (machine : Machine World) {session : Session World} {stage : Stage}
    {failure : Failure} {shown : Bytes} {rest : Input}
    (fails : session.Fails stage failure shown rest) :
    (session.step machine).value = .error failure ∧
      (session.step machine).Prepares session shown rest := by
  have unasked {fault : Fault} (asked : session.ask.value = some fault) :
      (session.step machine).value = .error (.stream fault) ∧
        (session.step machine).Prepares session
          (session.output.write session.promptBytes).taken session.input := by
    have shown := session.ask_prepares
    rw [step_unasked machine session fault asked]
    refine ⟨rfl, ⟨?_, ?_, shown.input, shown.place, shown.errors, shown.settings⟩⟩
    · simpa using shown.events
    · simpa using shown.output
  cases fails with
  | prompt fault refused =>
      apply unasked
      rw [ask_value, refused]
  | flush fault written refused =>
      rw [← (Sink.write_fault_eq_none_iff _ _).mp written]
      apply unasked
      rw [ask_value, written]
      exact refused
  | buffer asked refused =>
      have read := reading_refused refused
      have failed : session.arrival = .error .allocation := by rw [arrival, read]
      have arrived := step_arrived machine session asked failed
      rwa [read] at arrived
  | growth bytes rest asked reads =>
      have arrived := step_arrived machine session asked reads.arrival_cramped
      rwa [reads.reading] at arrived
  | reading fault bytes rest asked reads =>
      have arrived := step_arrived machine session asked reads.arrival_failed
      rwa [reads.reading] at arrived
  | words bytes halt rest asked reads line refused =>
      have failed := reads.arrival_arrived line
      rw [cutting_refused refused] at failed
      have arrived := step_arrived machine session asked failed
      rwa [reads.reading] at arrived
  | wordGrowth bytes halt rest count asked reads line given refuses short =>
      have failed := reads.arrival_arrived line
      rw [cutting_of_refuses given refuses (by rwa [length_split])] at failed
      have arrived := step_arrived machine session asked failed
      rwa [reads.reading] at arrived

/-- A line whose words find room arrives; else their list fails. -/
theorem fails_of_line {session : Session World} {bytes : Bytes} {halt : Line.Halt} {rest : Input}
    (asked : session.ask.value = none) (reads : session.Reads bytes halt rest)
    (arrived : Line.Arrives bytes halt) :
    session.arrival = .ok (some (Utf8.decode bytes)) ∨
      session.arrival = .error .allocation ∧
        ∃ stage, session.Fails stage .allocation session.promptBytes rest := by
  rw [reads.arrival_arrived arrived]
  by_cases given : session.CanCut
  · rcases (session.memory.words 0).gives_or_refuses session.settings.argumentGrowth
      (Word.split (Utf8.decode bytes)).length with gives | ⟨full, short, refuses⟩
    · rw [cutting_of_gives given gives]
      exact Or.inl rfl
    · obtain ⟨count, rfl⟩ := Nat.exists_eq_succ_of_ne_zero (Nat.ne_of_gt refuses.solid)
      rw [cutting_of_refuses given refuses short]
      rw [length_split] at short
      exact Or.inr ⟨rfl, .wordGrowth,
        .wordGrowth bytes halt rest count asked reads arrived given refuses short⟩
  · rw [cutting_refused given]
    exact Or.inr ⟨rfl, .words, .words bytes halt rest asked reads arrived given⟩

/-- What fails behind the prompt is a buffer, its growth, or the reading. -/
theorem fails_of_arrival {session : Session World} {failure : Failure}
    (asked : session.ask.value = none) (failed : session.arrival = .error failure) :
    ∃ stage shown rest, session.Fails stage failure shown rest := by
  by_cases given : session.CanRead
  · obtain ⟨bytes, halt, rest, reads⟩ := exists_reads given
    rcases Line.halt_cases bytes halt with ⟨fault, rfl⟩ | rfl | ⟨rfl, rfl⟩ | arrived
    · rw [reads.arrival_failed] at failed
      obtain rfl := Except.error.inj failed
      exact ⟨_, _, _, .reading fault bytes rest asked reads⟩
    · rw [reads.arrival_cramped] at failed
      obtain rfl := Except.error.inj failed
      exact ⟨_, _, _, .growth bytes rest asked reads⟩
    · rw [reads.arrival_ended] at failed
      cases failed
    · rcases fails_of_line asked reads arrived with calm | ⟨refused, stage, fails⟩
      · rw [calm] at failed
        cases failed
      · rw [refused] at failed
        obtain rfl := Except.error.inj failed
        exact ⟨stage, _, _, fails⟩
  · rw [arrival, reading_refused given] at failed
    obtain rfl := Except.error.inj failed
    exact ⟨_, _, _, .buffer asked given⟩

/-- Serving a line fails only by what arrives. -/
theorem arrival_of_serve (machine : Machine World) (session : Session World) {failure : Failure}
    (failed : (session.serve machine).value = .error failure) :
    session.arrival = .error failure := by
  rw [serve_eq] at failed
  cases arrived : session.arrival with
  | error other =>
      rw [arrived] at failed
      rw [Except.error.inj failed]
  | ok found =>
      cases found with
      | none => simp [arrived] at failed
      | some text => simp [arrived] at failed

/-- A cycle fails at one of the stages and nowhere else. -/
theorem exists_fails (machine : Machine World) {session : Session World} {failure : Failure}
    (failed : (session.step machine).value = .error failure) :
    ∃ stage shown rest, session.Fails stage failure shown rest := by
  cases asked : session.ask.value with
  | some fault =>
      rw [step_unasked machine session fault asked] at failed
      obtain rfl := Except.error.inj failed
      rw [ask_value] at asked
      cases written : (session.output.write session.promptBytes).fault with
      | some other =>
          rw [written] at asked
          obtain rfl := Option.some.inj asked
          exact ⟨_, _, _, .prompt other written⟩
      | none =>
          rw [written] at asked
          exact ⟨_, _, _, .flush fault written asked⟩
  | none =>
      rw [step_asked machine session asked, Turn.andThen_value] at failed
      have arrived := session.ask.session.arrival_of_serve machine failed
      rw [session.ask_arrival.1] at arrived
      exact fails_of_arrival asked arrived

/-- A failed cycle has shown the first bytes of the prompt, and all of them unless the write
failed. -/
theorem Fails.shown {session : Session World} {stage : Stage} {failure : Failure} {shown : Bytes}
    {rest : Input} (fails : session.Fails stage failure shown rest) :
    shown <+: session.promptBytes ∧
      ((session.output.write session.promptBytes).fault = none → shown = session.promptBytes) := by
  cases fails with
  | prompt fault refused =>
      refine ⟨Sink.write_taken_prefix _ _, ?_⟩
      intro written
      rw [written] at refused
      cases refused
  | _ => exact ⟨List.prefix_rfl, fun _ => rfl⟩

/-- Where the room for a step does not depend on what is held, a buffer that could be allocated can
grow. -/
theorem Fails.of_sizes {session : Session World} {stage : Stage} {failure : Failure}
    {shown : Bytes} {rest : Input} (fails : session.Fails stage failure shown rest)
    (sized : session.memory.BySize session.settings.lineGrowth session.settings.argumentGrowth) :
    stage ≠ .growth ∧ stage ≠ .wordGrowth := by
  cases fails with
  | growth bytes rest asked reads =>
      exact absurd reads.permits ((sized.lines 0).not_refuses reads.given)
  | wordGrowth bytes halt rest count asked reads arrived given refuses =>
      exact absurd refuses ((sized.words 0).not_refuses given)
  | _ => exact ⟨Stage.noConfusion, Stage.noConfusion⟩

/-- A number of cycles that follow each other. -/
def cycles (machine : Machine World) (session : Session World) : Nat → Turn World Unit
  | 0 => session.stay ()
  | count + 1 =>
      (session.step machine).andThen fun _ next => next.cycles machine count

/-- The loop goes on behind each of the first cycles. -/
def Lasts (machine : Machine World) (session : Session World) (count : Nat) : Prop :=
  ∀ earlier < count,
    goesOn ((session.cycles machine earlier).session.step machine).value = .ok true

theorem Lasts.succ {machine : Machine World} {session : Session World} {count : Nat}
    (goes : goesOn (session.step machine).value = .ok true)
    (lasts : (session.step machine).session.Lasts machine count) :
    session.Lasts machine (count + 1) := by
  intro earlier bound
  cases earlier with
  | zero => exact goes
  | succ earlier => exact lasts earlier (by omega)

theorem Lasts.first {machine : Machine World} {session : Session World} {count : Nat}
    (lasts : session.Lasts machine (count + 1)) :
    goesOn (session.step machine).value = .ok true := lasts 0 (by omega)

theorem Lasts.later {machine : Machine World} {session : Session World} {count : Nat}
    (lasts : session.Lasts machine (count + 1)) :
    (session.step machine).session.Lasts machine count :=
  fun earlier bound => lasts (earlier + 1) (by omega)

/-- A loop that goes on behind its first cycle is that cycle and the loop from there on. -/
theorem run_of_goesOn {machine : Machine World} {session : Session World}
    (goes : goesOn (session.step machine).value = .ok true) :
    session.run machine = (session.step machine).andThen fun _ next => next.run machine := by
  rw [run_follow]
  simp only [Turn.andThen, follow, goes]

/-- A loop that goes on behind each of its first cycles is these cycles and the loop from there
on. -/
theorem run_of_lasts {machine : Machine World} {session : Session World} {count : Nat}
    (lasts : session.Lasts machine count) :
    session.run machine =
      (session.cycles machine count).andThen fun _ next => next.run machine := by
  induction count generalizing session with
  | zero => rfl
  | succ count ih =>
      rw [run_of_goesOn lasts.first, cycles, Turn.andThen_assoc, Turn.andThen, ih lasts.later]
      rfl

/-- The loop is some cycles behind which it goes on, and either a cycle that fails or one more cycle
and the end of the loop. -/
theorem run_cycles (machine : Machine World) (session : Session World) :
    ∃ count, session.Lasts machine count ∧
      let last := (session.cycles machine count).session.step machine
      ((∃ failure, last.value = .error failure ∧
          session.run machine = (session.cycles machine count).andThen fun _ next =>
            (next.step machine).map fun _ => .error failure) ∨
        (goesOn last.value = .ok false ∧
          session.run machine =
            (session.cycles machine (count + 1)).andThen fun _ next => next.close)) := by
  -- The count is that of the loop behind the first cycle, and one more if the loop goes on there.
  induction session using run_induct machine with
  | cycle session ih =>
      have first := session.run_follow machine
      cases outcome : goesOn (session.step machine).value with
      | error failure =>
          refine ⟨0, fun _ bound => absurd bound (by omega), Or.inl ⟨failure, ?_, ?_⟩⟩
          · cases value : (session.step machine).value with
            | error other =>
                rw [value] at outcome
                obtain rfl := Except.error.inj outcome
                exact value
            | ok status => simp [value, goesOn, Except.map] at outcome
          · rw [first]
            simp [Turn.andThen, follow, outcome, cycles, Turn.map]
      | ok going =>
          cases going with
          | false =>
              refine ⟨0, fun _ bound => absurd bound (by omega), Or.inr ⟨outcome, ?_⟩⟩
              rw [first]
              simp [Turn.andThen, follow, outcome, cycles]
          | true =>
              obtain ⟨count, lasts, ends⟩ := ih outcome
              have follows := run_of_goesOn outcome
              refine ⟨count + 1, lasts.succ outcome, ?_⟩
              rcases ends with ⟨failure, value, same⟩ | ⟨finished, same⟩
              · refine Or.inl ⟨failure, value, ?_⟩
                rw [follows, cycles, Turn.andThen_assoc, Turn.andThen, same]
                rfl
              · refine Or.inr ⟨finished, ?_⟩
                rw [follows, cycles, Turn.andThen_assoc, Turn.andThen, same]
                rfl

/-- The end of a loop behind some cycles. The next cycle has failed, and nothing more was run; or it
was the last one, and the flush at the end has the last word. -/
inductive Stops (machine : Machine World) (session : Session World) (count : Nat) : Prop
  | failed (stage : Stage) (failure : Failure) (shown : Bytes) (rest : Input)
      (fails : (session.cycles machine count).session.Fails stage failure shown rest)
      (value : (session.run machine).value = .error failure)
      (runs : (session.run machine).RunsLike (session.cycles machine count))
      (output : outputOf (session.run machine).events =
        outputOf (session.cycles machine count).events ++ shown)
      (input : (session.run machine).session.input = rest)
  | closed
      (finished : goesOn ((session.cycles machine count).session.step machine).value = .ok false)
      (value : (session.run machine).value =
        match (session.cycles machine (count + 1)).session.output.flush.2 with
        | some fault => .error (.stream fault)
        | none => .ok ())
      (runs : (session.run machine).RunsLike (session.cycles machine (count + 1)))
      (output : outputOf (session.run machine).events =
        outputOf (session.cycles machine (count + 1)).events)
      (input : (session.run machine).session.input =
        (session.cycles machine (count + 1)).session.input)

/-- The end of the loop is a preparation as well: it only flushes. -/
theorem close_prepares (session : Session World) :
    session.close.Prepares session [] session.input :=
  ⟨by simp [close, flush, Event.isPreparation], rfl, rfl, rfl, rfl, rfl⟩

/-- Every loop stops in one of the two ways. -/
theorem exists_stops (machine : Machine World) (session : Session World) :
    ∃ count, session.Lasts machine count ∧ session.Stops machine count := by
  obtain ⟨count, lasts, ends⟩ := session.run_cycles machine
  refine ⟨count, lasts, ?_⟩
  rcases ends with ⟨failure, value, same⟩ | ⟨finished, same⟩
  · obtain ⟨stage, shown, rest, fails⟩ := exists_fails machine value
    have step := (fails.step machine).2
    have prepares : ((session.cycles machine count).session.step machine |>.map
        fun _ => (Except.error failure : Except Failure Unit)).Prepares
          (session.cycles machine count).session shown rest :=
      ⟨step.events, step.output, step.input, step.place, step.errors, step.settings⟩
    refine .failed stage failure shown rest fails ?_ ?_ ?_ ?_
    · rw [same]
      rfl
    · rw [same]
      exact prepares.runsLike
    · rw [same, Turn.andThen_events, outputOf_append, prepares.output]
    · rw [same]
      exact prepares.input
  · have prepares := (session.cycles machine (count + 1)).session.close_prepares
    refine .closed finished ?_ ?_ ?_ ?_
    · rw [same]
      rfl
    · rw [same]
      exact prepares.runsLike
    · rw [same, Turn.andThen_events, outputOf_append, prepares.output, List.append_nil]
    · rw [same]
      exact prepares.input

/-- A cycle that fails has run nothing. It fails at one of the stages; behind each of them it has
shown the first bytes of the prompt, all of them unless the write failed, and has taken what the
stage takes: nothing up to the reading, the failed read with what was in front of it, the bytes that
filled a buffer without room to grow, or one line whose words find no room. Place and error stream
are as they were. A line that arrives needs room for its words even if it has none, and the end of
the input does not. The loop has the failure of the first cycle that fails, or else that of its last
flush, and has done what its other cycles did. Where a step finds room or not by its size alone, no
buffer fails to grow. -/
theorem step_fails (machine : Machine World) (session : Session World) :
    (∀ failure, (session.step machine).value = .error failure ↔
        ∃ stage shown rest, session.Fails stage failure shown rest) ∧
      (∀ stage failure shown rest, session.Fails stage failure shown rest →
        let turn := session.step machine
        turn.Prepares session shown rest ∧ dispatchesOf turn.events = [] ∧
          startsOf turn.events = [] ∧ emissionsOf turn.events = [] ∧
          errorsOf turn.events = [] ∧ shown <+: session.promptBytes ∧
          ((session.output.write session.promptBytes).fault = none →
            shown = session.promptBytes)) ∧
      (session.ask.value = none → session.CanRead →
        (∃ bytes halt rest, session.Reads bytes halt rest) ∧
          ∀ bytes halt rest, session.Reads bytes halt rest →
            session.input.bytes = bytes ++ halt.bytes ++ rest.bytes ∧
              (Line.Arrives bytes halt → ¬ session.CanCut →
                (session.step machine).value = .error .allocation ∧
                  (session.step machine).session.input = rest) ∧
              (bytes = [] → halt = .ended → (session.step machine).value = .ok none)) ∧
      (∃ count, session.Lasts machine count ∧ session.Stops machine count) ∧
      (session.memory.BySize session.settings.lineGrowth session.settings.argumentGrowth →
        ∀ stage failure shown rest, session.Fails stage failure shown rest →
          stage ≠ .growth ∧ stage ≠ .wordGrowth) := by
  refine ⟨?_, ?_, ?_, session.exists_stops machine, ?_⟩
  · intro failure
    constructor
    · exact exists_fails machine
    · rintro ⟨stage, shown, rest, fails⟩
      exact (fails.step machine).1
  · intro stage failure shown rest fails turn
    have prepares := (fails.step machine).2
    obtain ⟨dispatches, starts, emissions, errors, -⟩ := preparation_silent prepares.events
    exact ⟨prepares, dispatches, starts, emissions, errors, fails.shown⟩
  · intro asked given
    refine ⟨exists_reads given, fun bytes halt rest reads => ⟨reads.taken.bytes_eq, ?_, ?_⟩⟩
    · intro arrived refused
      have fails : session.Fails .words .allocation session.promptBytes rest :=
        .words bytes halt rest asked reads arrived refused
      obtain ⟨value, prepares⟩ := fails.step machine
      exact ⟨value, prepares.input⟩
    · rintro rfl rfl
      have arrives := reads.arrival_ended
      rw [← session.ask_arrival.1] at arrives
      rw [step_asked machine session asked, Turn.andThen_value, serve_eq, arrives]
  · intro sized stage failure shown rest fails
    exact fails.of_sizes sized

/-- A list of words that is too large for the memory: one line is gone, the next one is left, and
nothing was run. -/
theorem step_fails_words :
    let line := Utf8.encode "say a"
    let rest : Input := [.block (Utf8.encode "say b\n")]
    let session : Session Nat :=
      { Session.small [.block (Utf8.encode "say a\nsay b\n")] with
        settings := { argumentStep := allocationLimit } }
    let turn := session.step Machine.small
    session.ask.value = none ∧ session.Reads line .newline rest ∧ ¬ session.CanCut ∧
      session.memory.BySize session.settings.lineGrowth session.settings.argumentGrowth ∧
      turn.value = .error .allocation ∧ turn.session.input = rest ∧
      ∃ stage shown left, session.Fails stage .allocation shown left ∧
        turn.Prepares session shown left ∧ dispatchesOf turn.events = [] ∧
        stage ≠ .growth ∧ stage ≠ .wordGrowth := by
  intro line rest session turn
  have asked : session.ask.value = none := by decide +kernel
  have allows : (session.memory.lines 0).Allows session.settings.lineGrowth :=
    Allocator.standard_allows (by decide)
  have taken : Line.Takes session.input line .newline rest :=
    .newline [] line _ [] Input.open_nil (by decide)
  have reads : session.Reads line .newline rest := ⟨allows 0, taken, allows.gives 0 line.length⟩
  have refused : ¬ session.CanCut := by decide
  have sized := Memory.standard_bySize session.settings.lineGrowth session.settings.argumentGrowth
  obtain ⟨stages, frame, served, -, sizes⟩ := step_fails Machine.small session
  obtain ⟨-, cut, -⟩ := (served asked reads.given).2 line .newline rest reads
  obtain ⟨value, input⟩ := cut (Or.inl rfl) refused
  obtain ⟨stage, shown, left, fails⟩ := (stages .allocation).mp value
  obtain ⟨prepares, dispatches, -⟩ := frame stage .allocation shown left fails
  exact ⟨asked, reads, refused, sized, value, input, stage, shown, left, fails, prepares,
    dispatches, sizes sized stage .allocation shown left fails⟩

end Session
end PromptShell
