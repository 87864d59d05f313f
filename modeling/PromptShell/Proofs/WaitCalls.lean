import Mathlib.Logic.Function.Basic
import PromptShell.Proofs.Waiting
namespace PromptShell

variable {World : Type}

namespace WaitAnswer

/-- What an answer decides: the end of the child, or an error that is no interruption. -/
def decision? : WaitAnswer → Option (Except Errno ChildEnd)
  | ended ending => some (.ok ending)
  | running _ => none
  | error errno => if errno = .interrupted then none else some (.error errno)

/-- The notice of an answer that is one. -/
def notice? : WaitAnswer → Option Notice
  | running notice => some notice
  | _ => none

/-- A notice decides nothing. -/
theorem notice?_of_decision? {answer : WaitAnswer} {outcome : Except Errno ChildEnd}
    (decides : answer.decision? = some outcome) : answer.notice? = none := by
  cases answer with
  | running notice => cases decides
  | ended ending => rfl
  | error errno => rfl

end WaitAnswer

/-- There is a report for every answer. -/
theorem WaitReport.exists_read (answer : WaitAnswer) : ∃ report : WaitReport,
    report.read = answer := by
  have named (signal : Signal) (use : Signal → WaitAnswer) :
      readSignal signal.number use = use signal := by
    rw [readSignal, Signal.ofNumber?_number]
  cases answer with
  | error errno => exact ⟨.failed errno, rfl⟩
  | ended ending =>
      cases ending with
      | exited code => exact ⟨.exited code, rfl⟩
      | signaled signal => exact ⟨.killed signal.number, named signal _⟩
  | running notice =>
      cases notice with
      | stopped signal => exact ⟨.stopped signal.number, named signal _⟩
      | traced signal event => exact ⟨.traced signal.number event, named signal _⟩
      | tracedCall => exact ⟨.tracedCall, rfl⟩
      | continued => exact ⟨.continued, rfl⟩

theorem exists_reports (answers : List WaitAnswer) :
    ∃ reports : List WaitReport, reports.map WaitReport.read = answers := by
  induction answers with
  | nil => exact ⟨[], rfl⟩
  | cons answer rest ih =>
      obtain ⟨report, read⟩ := WaitReport.exists_read answer
      obtain ⟨reports, reads⟩ := ih
      refine ⟨report :: reports, ?_⟩
      rw [List.map_cons, read, reads]

/-- A report that decides is the last one that a wait asks for. -/
theorem awaitEnd_decided {report : WaitReport} {outcome : Except Errno ChildEnd}
    (decides : report.read.decision? = some outcome) (rest : List WaitReport) :
    (awaitEnd (report :: rest)).outcome = outcome ∧ (awaitEnd (report :: rest)).notices = [] ∧
      (awaitEnd (report :: rest)).unasked = rest := by
  cases answer : report.read with
  | ended ending =>
      rw [answer] at decides
      obtain rfl := Option.some.inj decides
      simp only [awaitEnd, answer, and_self]
  | running notice =>
      rw [answer] at decides
      cases decides
  | error errno =>
      rw [answer, WaitAnswer.decision?] at decides
      split at decides
      · cases decides
      · rename_i other
        obtain rfl := Option.some.inj decides
        simp only [awaitEnd, answer, other, if_false, and_self]

/-- Behind a report that decides nothing the wait goes on, and keeps its notice. -/
theorem awaitEnd_undecided {report : WaitReport} (undecided : report.read.decision? = none)
    (rest : List WaitReport) :
    (awaitEnd (report :: rest)).outcome = (awaitEnd rest).outcome ∧
      (awaitEnd (report :: rest)).notices =
        report.read.notice?.toList ++ (awaitEnd rest).notices ∧
      (awaitEnd (report :: rest)).unasked = (awaitEnd rest).unasked := by
  cases answer : report.read with
  | ended ending =>
      rw [answer] at undecided
      cases undecided
  | running notice =>
      simp only [awaitEnd, answer, WaitAnswer.notice?, Option.toList_some, List.singleton_append,
        and_self]
  | error errno =>
      rw [answer, WaitAnswer.decision?] at undecided
      split at undecided
      · rename_i interruption
        simp only [awaitEnd, answer, interruption, if_true, WaitAnswer.notice?,
          Option.toList_none, List.nil_append, and_self]
      · cases undecided

/-- All answers to the calls for some reports. Behind the last report the system knows no such
child. -/
def answersTo (reports : List WaitReport) : List WaitAnswer :=
  reports.map WaitReport.read ++ [.error .noChild]

/-- Answers that decide nothing, one that decides, and the answers behind it. -/
structure FirstDecisive (answers undecided : List WaitAnswer) (decisive : WaitAnswer)
    (outcome : Except Errno ChildEnd) (later : List WaitAnswer) : Prop where
  whole : answers = undecided ++ decisive :: later
  undecided : ∀ answer ∈ undecided, answer.decision? = none
  decides : decisive.decision? = some outcome

/-- Some answer decides every wait. -/
theorem exists_firstDecisive (reports : List WaitReport) :
    ∃ undecided decisive outcome later,
      FirstDecisive (answersTo reports) undecided decisive outcome later := by
  induction reports with
  | nil => exact ⟨[], .error .noChild, .error .noChild, [], rfl, by simp, by decide⟩
  | cons report rest ih =>
      cases decides : report.read.decision? with
      | some outcome => exact ⟨[], report.read, outcome, answersTo rest, rfl, by simp, decides⟩
      | none =>
          obtain ⟨undecided, decisive, outcome, later, first⟩ := ih
          refine ⟨report.read :: undecided, decisive, outcome, later, ?_, ?_, first.decides⟩
          · exact congrArg (report.read :: ·) first.whole
          · exact List.forall_mem_cons.mpr ⟨decides, first.undecided⟩

namespace FirstDecisive

variable {undecided later : List WaitAnswer} {decisive : WaitAnswer}
  {outcome : Except Errno ChildEnd}

/-- The first decisive answer is found by a search. -/
theorem found {answers : List WaitAnswer}
    (first : FirstDecisive answers undecided decisive outcome later) :
    answers.findSome? WaitAnswer.decision? = some outcome ∧
      answers.findIdx (fun answer => answer.decision?.isSome) = undecided.length ∧
      answers.take (undecided.length + 1) = undecided ++ [decisive] := by
  have missed : undecided.findSome? WaitAnswer.decision? = none :=
    List.findSome?_eq_none_iff.mpr first.undecided
  have index : undecided.findIdx (fun answer => answer.decision?.isSome) = undecided.length := by
    apply List.findIdx_eq_length_of_false
    intro answer member
    rw [first.undecided answer member]
    rfl
  rw [first.whole]
  refine ⟨?_, ?_, ?_⟩
  · rw [List.findSome?_append, missed, List.findSome?_cons, first.decides]
    rfl
  · rw [List.findIdx_append, index, if_neg (Nat.lt_irrefl _), List.findIdx_cons, first.decides]
    exact Nat.zero_add _
  · rw [List.take_append, List.take_of_length_le (Nat.le_succ _), Nat.add_sub_cancel_left]
    rfl

/-- Either a report decides, or what it is followed by holds the first decisive answer. -/
theorem cases_report {report : WaitReport} {rest : List WaitReport}
    (first : FirstDecisive (answersTo (report :: rest)) undecided decisive outcome later) :
    (undecided = [] ∧ report.read.decision? = some outcome) ∨
      ∃ more, undecided = report.read :: more ∧ report.read.decision? = none ∧
        FirstDecisive (answersTo rest) more decisive outcome later := by
  have whole : report.read :: answersTo rest = undecided ++ decisive :: later := first.whole
  cases undecided with
  | nil =>
      obtain ⟨rfl, -⟩ := List.cons.inj whole
      exact Or.inl ⟨rfl, first.decides⟩
  | cons answer more =>
      obtain ⟨rfl, behind⟩ := List.cons.inj whole
      obtain ⟨open_, rest⟩ := List.forall_mem_cons.mp first.undecided
      exact Or.inr ⟨more, rfl, open_, behind, rest, first.decides⟩

/-- Where no report is left, the system's own answer decides. -/
theorem of_no_reports (first : FirstDecisive (answersTo []) undecided decisive outcome later) :
    undecided = [] ∧ decisive = .error .noChild ∧ outcome = .error .noChild := by
  have whole : [WaitAnswer.error .noChild] = undecided ++ decisive :: later := first.whole
  obtain ⟨rfl, last⟩ | ⟨-, none⟩ := List.singleton_eq_append_iff.mp whole
  · obtain ⟨rfl, -⟩ := List.cons.inj last
    have decides := first.decides
    exact ⟨rfl, rfl, (Option.some.inj decides).symm⟩
  · cases none

/-- A wait is decided by the first decisive answer to its calls. -/
theorem wait {reports : List WaitReport}
    (first : FirstDecisive (answersTo reports) undecided decisive outcome later) :
    (awaitEnd reports).outcome = outcome ∧
      (awaitEnd reports).notices = undecided.filterMap WaitAnswer.notice? ∧
      (awaitEnd reports).unasked = reports.drop (undecided.length + 1) := by
  induction reports generalizing undecided with
  | nil =>
      obtain ⟨rfl, rfl, rfl⟩ := first.of_no_reports
      exact ⟨rfl, rfl, rfl⟩
  | cons report rest ih =>
      obtain ⟨rfl, decides⟩ | ⟨more, rfl, open_, behind⟩ := first.cases_report
      · exact awaitEnd_decided decides rest
      · obtain ⟨outcomes, notices, unasked⟩ := awaitEnd_undecided open_ rest
        obtain ⟨later, told, left⟩ := ih behind
        refine ⟨outcomes.trans later, ?_, unasked.trans left⟩
        rw [notices, told, List.filterMap_cons]
        cases report.read.notice? <;> rfl

end FirstDecisive

/-- The reports that the system still holds on each of its processes. -/
abbrev Processes := Nat → List WaitReport

/-- One call for a report on a process gives the first one. The system does not know a process on
which it holds none. -/
def Processes.ask (processes : Processes) (process : Nat) : WaitAnswer × Processes :=
  match processes process with
  | [] => (.error .noChild, processes)
  | report :: rest => (report.read, Function.update processes process rest)

theorem Processes.ask_of_nil {processes : Processes} {process : Nat}
    (held : processes process = []) : processes.ask process = (.error .noChild, processes) := by
  rw [ask, held]

theorem Processes.ask_of_cons {processes : Processes} {process : Nat} {report : WaitReport}
    {rest : List WaitReport} (held : processes process = report :: rest) :
    processes.ask process = (report.read, Function.update processes process rest) := by
  rw [ask, held]

/-- A wait calls for reports on its process until an answer decides. Each call is told by the
process that it asked for and by its answer. -/
inductive Waits (process : Nat) :
    Processes → List (Nat × WaitAnswer) → Except Errno ChildEnd → Processes → Prop
  | decided {processes behind : Processes} {answer : WaitAnswer} {outcome : Except Errno ChildEnd}
      (asked : processes.ask process = (answer, behind))
      (decides : answer.decision? = some outcome) :
      Waits process processes [(process, answer)] outcome behind
  | again {processes middle behind : Processes} {answer : WaitAnswer}
      {calls : List (Nat × WaitAnswer)} {outcome : Except Errno ChildEnd}
      (asked : processes.ask process = (answer, middle)) (undecided : answer.decision? = none)
      (following : Waits process middle calls outcome behind) :
      Waits process processes ((process, answer) :: calls) outcome behind

/-- The system's answers leave a wait no choice. -/
theorem Waits.unique {process : Nat} {processes behind other : Processes}
    {calls more : List (Nat × WaitAnswer)} {outcome found : Except Errno ChildEnd}
    (waits : Waits process processes calls outcome behind)
    (again : Waits process processes more found other) :
    calls = more ∧ outcome = found ∧ behind = other := by
  induction waits generalizing more with
  | decided asked decides =>
      cases again with
      | decided asked' decides' =>
          obtain ⟨rfl, rfl⟩ := Prod.mk.inj (asked.symm.trans asked')
          exact ⟨rfl, Option.some.inj (decides.symm.trans decides'), rfl⟩
      | again asked' undecided _ =>
          obtain ⟨rfl, -⟩ := Prod.mk.inj (asked.symm.trans asked')
          cases decides.symm.trans undecided
  | again asked undecided _ ih =>
      cases again with
      | decided asked' decides =>
          obtain ⟨rfl, -⟩ := Prod.mk.inj (asked.symm.trans asked')
          cases decides.symm.trans undecided
      | again asked' _ following =>
          obtain ⟨rfl, rfl⟩ := Prod.mk.inj (asked.symm.trans asked')
          obtain ⟨rfl, rfl, rfl⟩ := ih following
          exact ⟨rfl, rfl, rfl⟩

/-- A wait asks for its own process as often as there are answers up to the first decisive one, and
takes these reports from the system and no other. -/
theorem FirstDecisive.waits {process : Nat} {processes : Processes}
    {undecided later : List WaitAnswer} {decisive : WaitAnswer} {outcome : Except Errno ChildEnd}
    (first : FirstDecisive (answersTo (processes process)) undecided decisive outcome later) :
    Waits process processes ((undecided ++ [decisive]).map (process, ·)) outcome
      (Function.update processes process ((processes process).drop (undecided.length + 1))) := by
  induction undecided generalizing processes with
  | nil =>
      refine .decided ?_ first.decides
      cases held : processes process with
      | nil =>
          rw [held] at first
          obtain ⟨-, rfl, -⟩ := first.of_no_reports
          rw [Processes.ask_of_nil held, List.drop_nil, ← held, Function.update_eq_self]
      | cons report rest =>
          have whole := first.whole
          rw [held] at whole
          obtain ⟨rfl, -⟩ := List.cons.inj whole
          exact Processes.ask_of_cons held
  | cons answer more ih =>
      cases held : processes process with
      | nil =>
          rw [held] at first
          cases first.of_no_reports.1
      | cons report rest =>
          rw [held] at first
          obtain ⟨none, -⟩ | ⟨_, same, undecided, behind⟩ := first.cases_report
          · cases none
          · obtain ⟨rfl, rfl⟩ := List.cons.inj same
            rw [← Function.update_self process rest processes] at behind
            have following := ih behind
            rw [Function.update_self, Function.update_idem] at following
            exact .again (Processes.ask_of_cons held) undecided following

/-- No other calls make a wait. -/
theorem FirstDecisive.waits_iff {process : Nat} {processes behind : Processes}
    {undecided later : List WaitAnswer} {decisive : WaitAnswer}
    {outcome found : Except Errno ChildEnd}
    {calls : List (Nat × WaitAnswer)}
    (first : FirstDecisive (answersTo (processes process)) undecided decisive outcome later) :
    Waits process processes calls found behind ↔
      calls = (undecided ++ [decisive]).map (process, ·) ∧ found = outcome ∧
        behind =
          Function.update processes process ((processes process).drop (undecided.length + 1)) := by
  constructor
  · intro waits
    exact waits.unique first.waits
  · rintro ⟨rfl, rfl, rfl⟩
    exact first.waits

namespace Session

/-- The log of a program that is started tells its start, each notice of the wait for it, and a wait
that failed. -/
theorem logOf_runProgram (machine : Machine World) (session : Session World)
    {words : List String} (sendable : startFailure? words = none) {started : Started World}
    (forked : session.place.start machine words = .ok started) :
    let wait := started.wait machine
    logOf (session.runProgram machine words).events =
      .spawned (words.headD "") started.process ::
        wait.notices.map (.stillRunning started.process) ++
          match wait.outcome with
          | .ok _ => []
          | .error errno => [.waitFailed started.process errno] := by
  intro wait
  simp only [runProgram, sendable, spawn_of_start forked, attend_eq, Place.waitEvents]
  change logOf (_ ++ _ ++ wait.notices.map _ ++ match wait.outcome with
    | .ok _ => []
    | .error errno => _) = _
  rw [logOf_append, logOf_append, logOf_append, logOf_emitted, logOf_logged]
  cases wait.outcome <;> rfl

/-- Launching a program adds to its log the end that the wait for it has told. -/
theorem logOf_launch (machine : Machine World) (session : Session World) (words : List String) :
    logOf (session.launch machine words).events =
      logOf (session.runProgram machine words).events ++
        match (session.runProgram machine words).value with
        | .ok ending => [.finished (words.headD "") ending]
        | .error _ => [] := by
  simp only [launch, Turn.andThen_events, logOf_append]
  cases (session.runProgram machine words).value <;> rfl

/-- The wait for a program that was started asks for the answers about its process up to the first
one that decides, and for none behind it: that many calls, all of them for this process, whatever
notices and interruptions there are in what order, and whatever the system holds on other processes.
Their outcome is what that answer decides. Each notice leaves a record and an interruption leaves
none. The program answers with the outcome, and a warning in the log if it is an error; its launch
goes on or has failed, and then reports once. There are reports for every list of answers. -/
theorem launch_first_decisive (machine : Machine World) (session : Session World)
    {words : List String} {started : Started World} (sendable : startFailure? words = none)
    (forked : session.place.start machine words = .ok started) :
    let reports := machine.reports started.world started.course
    let answers := answersTo reports
    let count := answers.findIdx (fun answer => answer.decision?.isSome) + 1
    let asked := answers.take count
    let wait := started.wait machine
    let program := session.runProgram machine words
    let launched := session.launch machine words
    (∃ outcome, answers.findSome? WaitAnswer.decision? = some outcome ∧ asked.length = count ∧
        (∀ (processes : Processes) calls found behind, processes started.process = reports →
          (Waits started.process processes calls found behind ↔
            calls = asked.map (started.process, ·) ∧ found = outcome ∧
              behind = Function.update processes started.process (reports.drop count))) ∧
        wait.outcome = outcome ∧ wait.unasked = reports.drop count ∧
        wait.notices = asked.filterMap WaitAnswer.notice? ∧
        program.value = outcome.mapError .system ∧
        logOf program.events =
          .spawned (words.headD "") started.process ::
            (asked.filterMap WaitAnswer.notice?).map (.stillRunning started.process) ++
              (match outcome with
              | .ok _ => []
              | .error errno => [.waitFailed started.process errno]) ∧
        launched.value = (match outcome with | .ok _ => .proceed | .error _ => .failed) ∧
        reportsOf launched.events =
          (match outcome with
          | .ok _ => []
          | .error errno => [(Failure.system errno).message]) ∧
        logOf launched.events = logOf program.events ++
          (match outcome with
          | .ok ending => [.finished (words.headD "") ending]
          | .error _ => [])) ∧
      ∀ answers : List WaitAnswer, ∃ reports : List WaitReport,
        reports.map WaitReport.read = answers := by
  intro reports answers count asked wait program launched
  refine ⟨?_, ?_⟩
  · obtain ⟨undecided, decisive, outcome, later, first⟩ := exists_firstDecisive reports
    obtain ⟨found, index, taken⟩ := first.found
    obtain ⟨decided, notices, unasked⟩ := first.wait
    have calls : count = undecided.length + 1 := congrArg (· + 1) index
    have all : asked = undecided ++ [decisive] := by
      rw [← taken, ← calls]
    have told : asked.filterMap WaitAnswer.notice? = undecided.filterMap WaitAnswer.notice? := by
      rw [all, List.filterMap_append, List.filterMap_cons,
        WaitAnswer.notice?_of_decision? first.decides, List.filterMap_nil, List.append_nil]
    have same : session.place.outcome machine words = outcome :=
      (Place.outcome_of_start forked).trans decided
    have value : program.value = outcome.mapError .system := by
      rw [← same]
      exact session.runProgram_value machine sendable
    have log := session.logOf_runProgram machine sendable forked
    have ended := session.launch_sendable machine sendable
    refine ⟨outcome, found, ?_, ?_, decided, ?_, ?_, value, ?_, ?_, ?_, ?_⟩
    · rw [all, calls, List.length_append, List.length_singleton]
    · intro processes askedFor result behind held
      rw [← held] at first
      rw [first.waits_iff, held, ← all, ← calls]
    · rw [calls]
      exact unasked
    · rw [told]
      exact notices
    · rw [told, ← notices, ← decided]
      exact log
    · rw [same] at ended
      cases outcome with
      | ok ending => exact ended.1
      | error errno => exact ended.1
    · rw [same] at ended
      cases outcome with
      | ok ending => exact ended.2.1
      | error errno => exact ended.2
    · have tail := session.logOf_launch machine words
      rw [value] at tail
      cases outcome with
      | ok ending => exact tail
      | error errno => exact tail
  · exact exists_reports

/-- Interruptions of a wait for a program that is stopped, traced, resumed and killed, and a report
that nobody asks for. -/
theorem launch_first_decisive_killed :
    let reports : List WaitReport :=
      [.interrupted, .stopped 19, .traced 5 1, .interrupted, .continued, .killed 15, .exited 7]
    let machine := Machine.reporting reports
    let session := Session.small []
    let stop : Signal := ⟨18, by decide⟩
    let trap : Signal := ⟨4, by decide⟩
    let termination : Signal := ⟨14, by decide⟩
    let processes : Processes := fun process => if process = 0 then reports else [.exited 3]
    startFailure? ["say", "hi"] = none ∧
      Waits 0 processes
        [(0, .error .interrupted), (0, .running (.stopped stop)), (0, .running (.traced trap 1)),
          (0, .error .interrupted), (0, .running .continued), (0, .ended (.signaled termination))]
        (.ok (.signaled termination)) (Function.update processes 0 [.exited 7]) ∧
      (session.runProgram machine ["say", "hi"]).value = .ok (.signaled termination) ∧
      (session.place.start machine ["say", "hi"]).map (fun started =>
        (started.wait machine).unasked) = .ok [.exited 7] ∧
      logOf (session.launch machine ["say", "hi"]).events =
        [.spawned "say" 0, .stillRunning 0 (.stopped stop), .stillRunning 0 (.traced trap 1),
          .stillRunning 0 .continued, .finished "say" (.signaled termination)] := by
  intro reports machine session stop trap termination processes
  have sendable : startFailure? ["say", "hi"] = none := by decide
  obtain ⟨⟨outcome, found, -, waits, -, unasked, -, value, log, -, -, launched⟩, -⟩ :=
    launch_first_decisive machine session sendable rfl
  obtain rfl : Except.ok (.signaled termination) = outcome := Option.some.inj found
  refine ⟨sendable, (waits processes _ _ _ rfl).mpr ⟨rfl, rfl, rfl⟩, value,
    congrArg Except.ok unasked, ?_⟩
  rw [launched, log]
  rfl

end Session
end PromptShell
