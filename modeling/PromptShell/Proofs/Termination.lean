import PromptShell.Proofs.FailedCycle
import PromptShell.Proofs.FullOutput
namespace PromptShell

variable {World : Type}

namespace Line

/-- A line that has arrived was made of at least one byte. -/
theorem Arrives.solid {bytes : Bytes} {halt : Halt} (arrived : Arrives bytes halt) :
    bytes ++ halt.bytes ≠ [] := by
  rcases arrived with rfl | ⟨-, solid⟩
  · simp [Halt.bytes]
  · simp [solid]

end Line

namespace Session

/-- Serving a line takes from the input what the reading takes. -/
theorem serve_input (machine : Machine World) (session : Session World) :
    (session.serve machine).session.input = session.reading.rest := by
  rw [serve_eq]
  cases session.arrival with
  | error failure => rfl
  | ok found =>
      cases found with
      | none => rfl
      | some text => exact execute_input machine session.behindArrival _

/-- A cycle whose prompt was shown takes from the input what the reading takes. -/
theorem step_input_of_asked (machine : Machine World) {session : Session World}
    (asked : session.ask.value = none) :
    (session.step machine).session.input = session.reading.rest := by
  rw [step_asked machine session asked, Turn.andThen_session, serve_input, session.ask_arrival.2]

/-- A cycle in front of the end of the input has no status and hands nothing over. -/
theorem step_ended (machine : Machine World) {session : Session World} {rest : Input}
    (asked : session.ask.value = none) (reads : session.Reads [] .ended rest) :
    (session.step machine).value = .ok none ∧ (session.step machine).session.input = rest ∧
      dispatchesOf (session.step machine).events = [] := by
  have arrives := reads.arrival_ended
  rw [← session.ask_arrival.1] at arrives
  refine ⟨?_, ?_, ?_⟩
  · rw [step_asked machine session asked, Turn.andThen_value, serve_eq, arrives]
  · rw [step_input_of_asked machine asked, reads.reading]
  · rw [step_asked machine session asked, Turn.andThen_events, dispatchesOf_append,
      (ask_onStreams session).dispatches, serve_eq, arrives, dispatchesOf_append,
      dispatchesOf_quiet (arrivalEvents_isQuiet _)]
    rfl

/-- A cycle to which a line arrives has a status. -/
theorem exists_status_of_arrival (machine : Machine World) {session : Session World}
    {text : String} (asked : session.ask.value = none)
    (arrives : session.arrival = .ok (some text)) :
    ∃ status, (session.step machine).value = .ok (some status) := by
  rw [← session.ask_arrival.1] at arrives
  rw [step_asked machine session asked, Turn.andThen_value, serve_eq, arrives]
  exact ⟨_, rfl⟩

/-- A cycle fails, or meets the end of the input and has no status, or takes a line and has one. -/
theorem step_cases (machine : Machine World) (session : Session World) :
    (∃ stage failure shown rest, session.Fails stage failure shown rest) ∨
      (∃ rest, session.Reads [] .ended rest ∧
        (session.step machine).value = .ok none ∧ (session.step machine).session.input = rest ∧
        dispatchesOf (session.step machine).events = []) ∨
      ∃ bytes halt rest, session.Reads bytes halt rest ∧ Line.Arrives bytes halt ∧
        (∃ status, (session.step machine).value = .ok (some status)) ∧
        (session.step machine).session.input = rest := by
  cases value : (session.step machine).value with
  | error failure =>
      obtain ⟨stage, shown, rest, fails⟩ := exists_fails machine value
      exact Or.inl ⟨stage, failure, shown, rest, fails⟩
  | ok found =>
      have calm {stage : Stage} {failure : Failure} {shown : Bytes} {rest : Input} :
          ¬ session.Fails stage failure shown rest := by
        intro fails
        rw [(fails.step machine).1] at value
        cases value
      have asked : session.ask.value = none := by
        by_contra refused
        obtain ⟨fault, refused⟩ := Option.ne_none_iff_exists'.mp refused
        rw [step_unasked machine session fault refused] at value
        cases value
      have given : session.CanRead := by
        by_contra refused
        exact calm (.buffer asked refused)
      obtain ⟨bytes, halt, rest, reads⟩ := exists_reads given
      rcases Line.halt_cases bytes halt with ⟨fault, rfl⟩ | rfl | ⟨rfl, rfl⟩ | arrived
      · exact absurd (.reading fault bytes rest asked reads) calm
      · exact absurd (.growth bytes rest asked reads) calm
      · have ended := step_ended machine asked reads
        rw [value] at ended
        exact Or.inr (Or.inl ⟨rest, reads, ended⟩)
      · rcases fails_of_line asked reads arrived with arrives | ⟨-, stage, fails⟩
        · refine Or.inr (Or.inr ⟨bytes, halt, rest, reads, arrived, ?_, ?_⟩)
          · rw [← value]
            exact exists_status_of_arrival machine asked arrives
          · rw [step_input_of_asked machine asked, reads.reading]
        · exact absurd fails calm

/-- A cycle that has a status has taken at least one byte: those of its line. -/
theorem step_takes_bytes (machine : Machine World) (session : Session World) {status : Status}
    (went : (session.step machine).value = .ok (some status)) :
    ∃ taken, taken ≠ [] ∧
      session.input.bytes = taken ++ (session.step machine).session.input.bytes := by
  rcases session.step_cases machine with
    ⟨stage, failure, shown, rest, fails⟩ | ⟨rest, -, ended, -⟩ |
      ⟨bytes, halt, rest, reads, arrived, -, left⟩
  · rw [(fails.step machine).1] at went
    cases went
  · rw [ended] at went
    cases went
  · exact ⟨bytes ++ halt.bytes, arrived.solid, by rw [left, reads.taken.bytes_eq]⟩

/-- Cycles behind which the loop goes on have taken a byte each. -/
theorem Lasts.bytes {machine : Machine World} {session : Session World} {count : Nat}
    (lasts : session.Lasts machine count) :
    (session.cycles machine count).session.input.bytes.length + count ≤
      session.input.bytes.length := by
  induction count generalizing session with
  | zero => exact Nat.le_refl _
  | succ count ih =>
      obtain ⟨status, went⟩ := exists_status_of_goesOn lasts.first
      have shorter := step_bytes_lt machine session status went
      have later := ih lasts.later
      simp only [cycles, Turn.andThen_session]
      omega

/-- A prompt is shown once, whether the stream takes it or not. -/
theorem length_promptsOf_ask (session : Session World) :
    (promptsOf session.ask.events).length = 1 := by
  simp only [ask, writeOut, write, Turn.andThen_events, promptsOf_append]
  cases (session.output.write (Utf8.encode session.settings.prompt)).fault <;> rfl

/-- A cycle shows its prompt once. -/
theorem length_promptsOf_step (machine : Machine World) (session : Session World) :
    (promptsOf (session.step machine).events).length = 1 := by
  rw [step_eq, Turn.andThen_events, promptsOf_append, List.length_append, length_promptsOf_ask]
  cases session.ask.value with
  | some fault => rfl
  | none => simp only [promptsOf_serve, List.length_nil]

theorem length_promptsOf_cycles (machine : Machine World) (session : Session World) (count : Nat) :
    (promptsOf (session.cycles machine count).events).length = count := by
  induction count generalizing session with
  | zero => rfl
  | succ count ih =>
      rw [cycles, Turn.andThen_events, promptsOf_append, List.length_append,
        length_promptsOf_step, ih]
      omega

/-- The end of a loop behind its last cycle: a failure stands, and else the output is flushed. -/
def endLoop (session : Session World) :
    Except Failure (Option Status) → Turn World (Except Failure Unit)
  | .error failure => session.stay (.error failure)
  | .ok _ => session.close

/-- The end of a loop shows nothing and takes no input. -/
theorem endLoop_prepares (session : Session World) (outcome : Except Failure (Option Status)) :
    (session.endLoop outcome).Prepares session [] session.input := by
  cases outcome with
  | error failure => exact ⟨by simp [endLoop], rfl, rfl, rfl, rfl, rfl⟩
  | ok found => exact session.close_prepares

theorem promptsOf_endLoop (session : Session World) (outcome : Except Failure (Option Status)) :
    promptsOf (session.endLoop outcome).events = [] := by
  cases outcome <;> rfl

/-- A loop that does not go on behind its first cycle ends there. -/
theorem run_of_not_goesOn {machine : Machine World} {session : Session World}
    (ends : goesOn (session.step machine).value ≠ .ok true) :
    session.run machine =
      (session.step machine).andThen fun outcome next => next.endLoop outcome := by
  rw [run_follow]
  simp only [Turn.andThen, follow]
  cases value : (session.step machine).value with
  | error failure => rfl
  | ok found =>
      rw [value] at ends
      rw [goesOn_eq_false ends]
      rfl

/-- Where the loop stops it does not go on. -/
theorem Stops.not_goesOn {machine : Machine World} {session : Session World} {count : Nat}
    (stops : session.Stops machine count) :
    goesOn ((session.cycles machine count).session.step machine).value ≠ .ok true := by
  cases stops with
  | failed stage failure shown rest fails =>
      rw [(fails.step machine).1]
      simp [goesOn, Except.map]
  | closed finished =>
      rw [finished]
      simp

/-- A loop shows a prompt for each cycle behind which it goes on, and one for the cycle behind which
it does not. -/
theorem length_promptsOf_run {machine : Machine World} {session : Session World} {count : Nat}
    (lasts : session.Lasts machine count)
    (ends : goesOn ((session.cycles machine count).session.step machine).value ≠ .ok true) :
    (promptsOf (session.run machine).events).length = count + 1 := by
  rw [run_of_lasts lasts, Turn.andThen_events, run_of_not_goesOn ends]
  simp only [Turn.andThen_events, promptsOf_append, promptsOf_endLoop, List.append_nil,
    List.length_append, length_promptsOf_cycles, length_promptsOf_step]

/-- The end of a stream in front of a line needs room for no byte. -/
theorem reads_of_ended {session : Session World} {rest : Input}
    (taken : Line.Takes session.input [] .ended rest)
    (given : session.CanRead) :
    session.Reads [] .ended rest := by
  refine ⟨given, taken, fun full solid none => ?_⟩
  rw [List.length_nil] at none
  omega

/-- A cycle that finds the end of the input in front of a line is the last one, and hands nothing
over. -/
theorem step_at_end (machine : Machine World) {session : Session World} {rest : Input}
    (taken : Line.Takes session.input [] .ended rest) :
    goesOn (session.step machine).value ≠ .ok true ∧
      dispatchesOf (session.step machine).events = [] := by
  rcases session.step_cases machine with
    ⟨stage, failure, shown, rest, fails⟩ | ⟨rest, -, ended, -, handed⟩ |
      ⟨bytes, halt, _, reads, arrived, -⟩
  · obtain ⟨value, prepares⟩ := fails.step machine
    rw [value]
    exact ⟨by simp [goesOn, Except.map], (preparation_silent prepares.events).1⟩
  · rw [ended]
    exact ⟨by simp [goesOn, Except.map], handed⟩
  · have ended := congrArg Line.Reading.answer (reads_of_ended taken reads.given).reading
    rw [reads.reading, Line.answer_of_arrives _ arrived] at ended
    cases ended

/-- The loop ends. A cycle with a status has taken at least one byte of the input; so the loop goes
on behind at most as many cycles as the input has bytes, and stops behind the next one, with a
prompt for each of them. Where the stream is at its end in front of a line, whether for once or for
ever, the cycle that meets the end is the last one: it hands nothing over, and unless something
failed before the reading, it has no status and leaves what is behind the end. -/
theorem run_ends (machine : Machine World) (session : Session World) :
    (∀ status, (session.step machine).value = .ok (some status) →
        ∃ taken, taken ≠ [] ∧
          session.input.bytes = taken ++ (session.step machine).session.input.bytes) ∧
      (∃ count ≤ session.input.bytes.length,
        session.Lasts machine count ∧ session.Stops machine count ∧
          (promptsOf (session.run machine).events).length = count + 1) ∧
      ∀ count rest, session.Lasts machine count →
        let next := (session.cycles machine count).session
        Line.Takes next.input [] .ended rest →
        (promptsOf (session.run machine).events).length = count + 1 ∧
          dispatchesOf (session.run machine).events =
            dispatchesOf (session.cycles machine count).events ∧
          (next.ask.value = none → next.CanRead →
            (next.step machine).value = .ok none ∧ (session.run machine).session.input = rest) := by
  refine ⟨?_, ?_, ?_⟩
  · intro status went
    exact session.step_takes_bytes machine went
  · obtain ⟨count, lasts, stops⟩ := session.exists_stops machine
    have bound := lasts.bytes
    exact ⟨count, by omega, lasts, stops, length_promptsOf_run lasts stops.not_goesOn⟩
  · intro count rest lasts next taken
    obtain ⟨ends, handed⟩ := step_at_end machine taken
    have last := (next.step machine).session.endLoop_prepares (next.step machine).value
    refine ⟨length_promptsOf_run lasts ends, ?_, ?_⟩
    · rw [run_of_lasts lasts, Turn.andThen_events, dispatchesOf_append, run_of_not_goesOn ends,
        Turn.andThen_events, dispatchesOf_append, handed, (preparation_silent last.events).1,
        List.append_nil, List.append_nil]
    · intro asked given
      obtain ⟨value, left, -⟩ := step_ended machine asked (reads_of_ended taken given)
      refine ⟨value, ?_⟩
      rw [run_of_lasts lasts, Turn.andThen_session, run_of_not_goesOn ends, Turn.andThen_session,
        last.input, left]

/-- A stream that is at its end for once in the middle of a line, and then between two lines. -/
theorem run_ends_between_lines :
    let session := Session.small [.block (Utf8.encode "say"), .block [],
      .failed (.named .interrupted), .block (Utf8.encode "\n\n"), .block [],
      .block (Utf8.encode "say b\n")]
    let next := (session.cycles Machine.small 3).session
    (session.step Machine.small).value = .ok (some .proceed) ∧
      (∃ taken, taken ≠ [] ∧
        session.input.bytes = taken ++ (session.step Machine.small).session.input.bytes) ∧
      session.Lasts Machine.small 3 ∧
      Line.Takes next.input [] .ended [.block (Utf8.encode "say b\n")] ∧
      (promptsOf (session.run Machine.small).events).length = 4 ∧
      dispatchesOf (session.run Machine.small).events = [["say"], [], []] ∧
      next.ask.value = none ∧ next.CanRead ∧
      (next.step Machine.small).value = .ok none ∧
      (session.run Machine.small).session.input = [.block (Utf8.encode "say b\n")] := by
  intro session next
  obtain ⟨taking, -, ending⟩ := run_ends Machine.small session
  have went : (session.step Machine.small).value = .ok (some .proceed) := by decide +kernel
  have lasts : session.Lasts Machine.small 3 := by
    unfold Lasts
    decide +kernel
  have unread : next.input = [.block [], .block (Utf8.encode "say b\n")] := by decide +kernel
  have taken : Line.Takes next.input [] .ended [.block (Utf8.encode "say b\n")] := by
    rw [unread]
    exact .ended [] _ Input.open_nil
  have asked : next.ask.value = none := by decide +kernel
  have given : next.CanRead := by decide +kernel
  obtain ⟨prompts, handed, ends⟩ := ending 3 _ lasts taken
  obtain ⟨value, left⟩ := ends asked given
  refine ⟨went, taking _ went, lasts, taken, prompts, handed.trans ?_, asked, given, value, left⟩
  decide +kernel

end Session
end PromptShell
