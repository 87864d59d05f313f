import PromptShell.Proofs.Outcome
namespace PromptShell

variable {World : Type}

/-- The raw report of an end. -/
def ChildEnd.report : ChildEnd → WaitReport
  | .exited code => .exited code
  | .signaled signal => .killed signal.number

namespace WaitReport

/-- A pause does not tell of the end: the call was interrupted, or the child was stopped. -/
def isPause : WaitReport → Bool
  | interrupted | stopped _ => true
  | _ => false

/-- The child has exited or was killed. -/
def isEnd : WaitReport → Bool
  | exited _ | killed _ => true
  | _ => false

/-- A report without a signal, or whose signal has a name. -/
def isNamed : WaitReport → Bool
  | killed signal | stopped signal | traced signal _ => (Signal.ofNumber? signal).isSome
  | _ => true

/-- The ends whose signal has a name are those that can be told. -/
theorem exists_report_iff {final : WaitReport} (ended : final.isEnd = true) :
    (∃ ending : ChildEnd, ending.report = final) ↔ final.isNamed = true := by
  constructor
  · rintro ⟨ending, rfl⟩
    cases ending with
    | exited code => rfl
    | signaled signal => simp [ChildEnd.report, isNamed, Signal.ofNumber?_number]
  · intro named
    cases final with
    | exited code => exact ⟨.exited code, rfl⟩
    | killed number =>
        obtain ⟨signal, found⟩ := Option.isSome_iff_exists.mp named
        exact ⟨.signaled signal, congrArg killed (Signal.number_of_ofNumber? found)⟩
    | _ => simp [isEnd] at ended

end WaitReport

/-- A pause whose signal has a name is passed over. -/
theorem awaitEnd_pause {pause : WaitReport} (paused : pause.isPause = true)
    (named : pause.isNamed = true) (rest : List WaitReport) :
    (awaitEnd (pause :: rest)).outcome = (awaitEnd rest).outcome := by
  cases pause with
  | interrupted => rfl
  | stopped number =>
      obtain ⟨signal, found⟩ := Option.isSome_iff_exists.mp named
      simp only [awaitEnd, WaitReport.read, readSignal, found]
  | _ => simp [WaitReport.isPause] at paused

/-- Behind pauses the wait is the one for what they are followed by. -/
theorem awaitEnd_pauses {pauses : List WaitReport} (rest : List WaitReport)
    (paused : ∀ report ∈ pauses, report.isPause = true)
    (named : ∀ report ∈ pauses, report.isNamed = true) :
    (awaitEnd (pauses ++ rest)).outcome = (awaitEnd rest).outcome := by
  induction pauses with
  | nil => rfl
  | cons pause more ih =>
      rw [List.forall_mem_cons] at paused named
      rw [List.cons_append, awaitEnd_pause paused.1 named.1, ih paused.2 named.2]

/-- The report of an end is the outcome of the wait. -/
theorem awaitEnd_ended (ending : ChildEnd) (rest : List WaitReport) :
    (awaitEnd (ending.report :: rest)).outcome = .ok ending := by
  cases ending with
  | exited code => rfl
  | signaled signal =>
      simp only [ChildEnd.report, awaitEnd, WaitReport.read, readSignal, Signal.ofNumber?_number]

/-- A signal without a name is the error for an invalid value. -/
theorem awaitEnd_unnamed {report : WaitReport} (nameless : report.isNamed = false)
    (rest : List WaitReport) : (awaitEnd (report :: rest)).outcome = .error .invalid := by
  have other : Errno.invalid ≠ Errno.interrupted := by decide
  cases report with
  | killed number | stopped number | traced number event =>
      have missing : Signal.ofNumber? number = none := by
        simpa [WaitReport.isNamed] using nameless
      simp only [awaitEnd, WaitReport.read, readSignal, missing, other, if_false]
  | _ => simp [WaitReport.isNamed] at nameless

/-- The wait has an error as soon as a pause or the end has a signal without a name. -/
theorem awaitEnd_error {pauses rest : List WaitReport} {final : WaitReport}
    (paused : ∀ report ∈ pauses, report.isPause = true)
    (nameless : ∃ report ∈ pauses ++ [final], report.isNamed = false) :
    (awaitEnd (pauses ++ final :: rest)).outcome = .error .invalid := by
  induction pauses with
  | nil =>
      obtain ⟨report, member, nameless⟩ := nameless
      obtain rfl := List.mem_singleton.mp member
      exact awaitEnd_unnamed nameless rest
  | cons pause more ih =>
      rw [List.forall_mem_cons] at paused
      rw [List.cons_append]
      cases named : pause.isNamed with
      | false => exact awaitEnd_unnamed named _
      | true =>
          rw [awaitEnd_pause paused.1 named]
          apply ih paused.2
          obtain ⟨report, member, nameless⟩ := nameless
          rcases List.mem_cons.mp member with rfl | later
          · simp [named] at nameless
          · exact ⟨report, later, nameless⟩

namespace Session

/-- A program tells of its end what the wait for it gave, if a child was split off. -/
theorem runProgram_value (machine : Machine World) (session : Session World)
    {words : List String} (sendable : startFailure? words = none) :
    (session.runProgram machine words).value =
      (session.place.outcome machine words).mapError .system := by
  simp only [runProgram, sendable]
  cases start : session.place.start machine words with
  | error errno =>
      rw [spawn_of_refused start, Place.outcome_of_refused start]
      rfl
  | ok started => rw [spawn_of_start start, attend_eq, Place.outcome_of_start start]

/-- A launch ends as the wait says, and nothing is reported but a failure of the wait, or of the
attempt to split a child off. -/
theorem launch_sendable (machine : Machine World) (session : Session World)
    {words : List String} (sendable : startFailure? words = none) :
    let launched := session.launch machine words
    match session.place.outcome machine words with
    | .ok _ =>
        launched.value = .proceed ∧ reportsOf launched.events = [] ∧
          errorsOf launched.events = [] ∧ launched.session.errors = session.errors
    | .error errno =>
        launched.value = .failed ∧
          reportsOf launched.events = [(Failure.system errno).message] := by
  intro launched
  have same := session.launch_eq machine words
  have silent := deeds_silent (session.place.childEvents_isDeed machine words)
  have value := congrArg Turn.value same
  have after := congrArg (fun turn => turn.session.errors) same
  have reports := congrArg (fun turn => reportsOf turn.events) same
  have errors := congrArg (fun turn => errorsOf turn.events) same
  simp only [log_andThen, effectOfLaunch, sendable, undergo, Turn.andThen_value,
    Turn.andThen_session, Turn.andThen_events, note_session, note_events, List.map_cons,
    List.map_nil] at value after reports errors
  cases outcome : session.place.outcome machine words with
  | ok ending =>
      simp only [outcome, finish, stay_value, stay_session, stay_events, List.append_nil]
        at value after reports errors
      exact ⟨value, reports.trans silent.2.2.2, errors.trans silent.2.1, after⟩
  | error errno =>
      simp only [outcome, finish] at value after reports errors
      refine ⟨value, reports.trans ?_⟩
      rw [reportsOf_append]
      exact congrArg (· ++ _) silent.2.2.2

/-- A launch has told of an end: this end is the answer of the program, the loop goes on, and
nothing was reported. -/
structure Tells (machine : Machine World) (session : Session World) (words : List String)
    (ending : ChildEnd) : Prop where
  answer : (session.runProgram machine words).value = .ok ending
  proceeds : (session.launch machine words).value = .proceed
  silent : errorsOf (session.launch machine words).events = []
  errors : (session.launch machine words).session.errors = session.errors

/-- The launch of a child tells the end of its program exactly if every signal in the reports has a
name, however often the wait is interrupted and the program is stopped. Where a signal has no name,
the launch fails with the error for an invalid value. -/
theorem launch_ended_iff (machine : Machine World) (session : Session World)
    (words : List String) (started : Started World) (pauses rest : List WaitReport)
    (final : WaitReport) (solid : words ≠ []) (sendable : ∀ word ∈ words, '\x00' ∉ word.toList)
    (forked : session.place.start machine words = .ok started)
    (paused : ∀ report ∈ pauses, report.isPause = true) (ended : final.isEnd = true)
    (reported : machine.reports started.world started.course = pauses ++ final :: rest) :
    ((∃ ending : ChildEnd, ending.report = final ∧ session.Tells machine words ending) ↔
        ∀ report ∈ pauses ++ [final], report.isNamed = true) ∧
      ((∃ report ∈ pauses ++ [final], report.isNamed = false) →
        (session.runProgram machine words).value = .error (.system .invalid) ∧
          (session.launch machine words).value = .failed ∧
          reportsOf (session.launch machine words).events = ["Invalid argument"]) := by
  have start := (startFailure?_eq_none_iff words solid).mpr sendable
  have answer := session.runProgram_value machine start
  have launched := session.launch_sendable machine start
  have wait : session.place.outcome machine words =
      (awaitEnd (pauses ++ final :: rest)).outcome := by
    rw [Place.outcome_of_start forked, Started.wait, reported]
  have fails : (∃ report ∈ pauses ++ [final], report.isNamed = false) →
      (session.runProgram machine words).value = .error (.system .invalid) ∧
        (session.launch machine words).value = .failed ∧
        reportsOf (session.launch machine words).events = ["Invalid argument"] := by
    intro nameless
    rw [awaitEnd_error paused nameless] at wait
    rw [wait] at answer launched
    exact ⟨answer, launched⟩
  refine ⟨⟨?_, ?_⟩, fails⟩
  · rintro ⟨ending, _, tells⟩
    by_contra someNameless
    simp only [not_forall, Bool.not_eq_true] at someNameless
    obtain ⟨report, member, nameless⟩ := someNameless
    have failed := (fails ⟨report, member, nameless⟩).1
    rw [tells.answer] at failed
    cases failed
  · intro named
    rw [List.forall_mem_append, List.forall_mem_singleton] at named
    obtain ⟨ending, rfl⟩ := (WaitReport.exists_report_iff ended).mpr named.2
    rw [awaitEnd_pauses _ paused named.1, awaitEnd_ended] at wait
    rw [wait] at answer launched
    exact ⟨ending, rfl, answer, launched.1, launched.2.2.1, launched.2.2.2⟩

/-- An interrupted wait for a program that was stopped once and then killed. -/
theorem launch_ended_killed :
    let machine := Machine.reporting [.interrupted, .stopped 19, .killed 15]
    (∀ report ∈ [WaitReport.interrupted, .stopped 19], report.isPause = true) ∧
      (WaitReport.killed 15).isEnd = true ∧
      ∃ ending : ChildEnd, ending.report = .killed 15 ∧
        (Session.small []).Tells machine ["say", "hi"] ending := by
  intro machine
  have paused : ∀ report ∈ [WaitReport.interrupted, .stopped 19], report.isPause = true := by
    decide
  exact ⟨paused, rfl, (launch_ended_iff machine (Session.small []) ["say", "hi"] _
    [.interrupted, .stopped 19] [] (.killed 15) (by decide) (by decide) rfl paused rfl rfl).1.mpr
      (by decide)⟩

/-- A program that was killed by the first real-time signal has ended, but its launch fails and
reports an invalid value. -/
theorem launch_real_time_signal :
    let machine := Machine.reporting [.killed 34]
    let words := ["sh", "-c", "kill -34 $$"]
    let launched := (Session.small []).launch machine words
    (WaitReport.killed 34).isEnd = true ∧
      ((Session.small []).runProgram machine words).value = .error (.system .invalid) ∧
      launched.value = .failed ∧
      errorsOf launched.events = Utf8.encode "lsh: Invalid argument\n" ∧
      ¬ ∃ ending, (Session.small []).Tells machine words ending := by
  intro machine words launched
  have answer : ((Session.small []).runProgram machine words).value =
      .error (.system .invalid) := rfl
  refine ⟨rfl, answer, rfl, by decide +kernel, ?_⟩
  rintro ⟨ending, tells⟩
  rw [tells.answer] at answer
  cases answer

end Session
end PromptShell
