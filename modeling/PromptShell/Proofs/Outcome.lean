import Mathlib.Data.List.TakeDrop
import PromptShell.Proofs.Cycle
namespace PromptShell

variable {World : Type}

/-- A line launches a program if its first word is the name of no command of the shell. -/
def launches (words : List String) : Bool :=
  match words.head? with
  | none => false
  | some command => !(Builtin.all.map Builtin.name).contains command

/-- A line ends the loop if its first word is `exit`. -/
def isExit (words : List String) : Bool := words.head? == some "exit"

/-- A sink has no fault exactly if it took every byte. -/
theorem Sink.write_fault_eq_none_iff (sink : Sink) (bytes : Bytes) :
    (sink.write bytes).fault = none ↔ (sink.write bytes).taken = bytes := by
  cases room : sink.room with
  | none => simp [write, room]
  | some left => simp [write, room, List.take_eq_self_iff]

/-- The words that no command of the shell answers to. -/
theorem Builtin.find?_eq_none_iff (word : String) :
    find? word = none ↔ (all.map name).contains word = false := by
  rw [find?, List.find?_eq_none, ← Bool.not_eq_true, List.contains_iff_mem, List.mem_map]
  simp [eq_comm]

theorem effectOf_launch (machine : Machine World) (place : Place World) {words : List String}
    (launched : launches words = true) :
    effectOf machine place words = effectOfLaunch machine place words := by
  cases words with
  | nil => simp [launches] at launched
  | cons command rest =>
      have unknown : Builtin.find? command = none := by
        rw [Builtin.find?_eq_none_iff]
        simpa [launches] using launched
      simp only [effectOf, unknown]

theorem effectOf_cd (machine : Machine World) (place : Place World) (rest : List String) :
    effectOf machine place (Builtin.cd.name :: rest) =
      effectOfMove machine place (Builtin.cd.name :: rest) := by
  simp only [effectOf, Builtin.find?_name]

theorem effectOf_help (machine : Machine World) (place : Place World) (rest : List String) :
    effectOf machine place (Builtin.help.name :: rest) =
      ⟨false, [.logged (.running Builtin.help.name)], place, .described⟩ := by
  simp only [effectOf, Builtin.find?_name]

theorem effectOf_exit (machine : Machine World) (place : Place World) (rest : List String) :
    effectOf machine place (Builtin.exit.name :: rest) =
      ⟨false, [.logged (.running Builtin.exit.name)], place, .done .terminate⟩ := by
  simp only [effectOf, Builtin.find?_name]

/-- The lines by their first word. -/
theorem line_cases (words : List String) :
    words = [] ∨ (∃ builtin : Builtin, ∃ rest, words = builtin.name :: rest) ∨
      launches words = true := by
  cases words with
  | nil => exact Or.inl rfl
  | cons command rest =>
      cases found : Builtin.find? command with
      | some builtin =>
          exact Or.inr (Or.inl ⟨builtin, rest, by rw [Builtin.find?_eq_some found]⟩)
      | none =>
          rw [Builtin.find?_eq_none_iff] at found
          exact Or.inr (Or.inr (by simp only [launches, List.head?_cons, found, Bool.not_false]))

/-- A command of the shell is no program. -/
theorem launches_name (builtin : Builtin) (rest : List String) :
    launches (builtin.name :: rest) = false := by
  cases builtin <;> rfl

example : launches ["EXIT"] = true ∧ launches ["exit\x00"] = true ∧ launches ["exi"] = true := by
  decide

/-- A program is no command of the shell. -/
theorem head?_of_launches {words : List String} (launched : launches words = true)
    (builtin : Builtin) : words.head? ≠ some builtin.name := by
  intro called
  obtain ⟨rest, rfl⟩ := List.head?_eq_some_iff.mp called
  rw [launches_name] at launched
  exact absurd launched (by decide)

/-- The first word of a line tells how the line ends, up to a failure. -/
theorem effectOf_ending (machine : Machine World) (place : Place World) (words : List String) :
    (words.head? = some "help" ∧ (effectOf machine place words).ending = .described) ∨
      (words.head? = some "exit" ∧ (effectOf machine place words).ending = .done .terminate) ∨
      (words.head? ≠ some "help" ∧ words.head? ≠ some "exit" ∧
        ((effectOf machine place words).ending = .done .proceed ∨
          ∃ failure, (effectOf machine place words).ending = .failed failure)) := by
  rcases line_cases words with rfl | ⟨builtin, rest, rfl⟩ | launched
  · exact Or.inr (Or.inr ⟨by simp, by simp, Or.inl rfl⟩)
  · cases builtin with
    | help => exact Or.inl ⟨rfl, by rw [effectOf_help]⟩
    | exit => exact Or.inr (Or.inl ⟨rfl, by rw [effectOf_exit]⟩)
    | cd =>
        refine Or.inr (Or.inr ⟨by simp [Builtin.name], by simp [Builtin.name], ?_⟩)
        rw [effectOf_cd]
        simp only [effectOfMove]
        split
        · simp
        · split <;> simp
  · have outside := head?_of_launches launched
    refine Or.inr (Or.inr ⟨outside .help, outside .exit, ?_⟩)
    rw [effectOf_launch machine place launched]
    simp only [effectOfLaunch]
    split
    · simp
    · split <;> simp

/-- Some word cannot be handed to a program exactly if one holds the zero character. -/
theorem startFailure?_eq_none_iff (words : List String) (solid : words ≠ []) :
    startFailure? words = none ↔ ∀ word ∈ words, '\x00' ∉ word.toList := by
  simp only [startFailure?, firstUnsendable?]
  split
  · rename_i word found
    have unsendable := List.find?_some found
    have member := List.mem_of_find?_eq_some found
    simp only [reduceCtorEq, false_iff]
    intro sendable
    exact sendable word member (by simpa using unsendable)
  · rename_i missing
    simpa [solid] using missing

/-- No child ends where none can be split off, and where the wait for it has an error. -/
theorem Place.outcome_error_iff {machine : Machine World} (place : Place World)
    {words : List String} :
    (∃ errno, place.outcome machine words = .error errno) ↔
      (∃ errno, place.start machine words = .error errno) ∨
        ∃ started errno, place.start machine words = .ok started ∧
          (started.wait machine).outcome = .error errno := by
  cases start : place.start machine words with
  | error errno => simp [outcome_of_refused start]
  | ok started => simp [outcome_of_start start]

namespace Session

/-- `cd` fails without a second word, and where that word leads nowhere. -/
def MoveFails (machine : Machine World) (session : Session World) (words : List String) : Prop :=
  words.head? = some "cd" ∧
    (words[1]? = none ∨
      ∃ target errno, words[1]? = some target ∧ (session.lookUp machine target).1 = .error errno)

/-- `help` fails where a byte of its text is not taken, and where the flush behind it fails. -/
def HelpFails (session : Session World) (words : List String) : Prop :=
  let writing := session.output.write (Utf8.encode Builtin.helpText)
  words.head? = some "help" ∧
    (writing.taken ≠ Utf8.encode Builtin.helpText ∨ writing.sink.flush.2 ≠ none)

/-- A launch fails where a word holds the zero character, where no child can be split off, and where
the wait for the child has an error. -/
def LaunchFails (machine : Machine World) (session : Session World) (words : List String) : Prop :=
  launches words = true ∧
    ((∃ word ∈ words, '\x00' ∈ word.toList) ∨
      (∃ errno, session.place.start machine words = .error errno) ∨
      ∃ started errno, session.place.start machine words = .ok started ∧
        (started.wait machine).outcome = .error errno)

/-- The report of a failed flush before a launch. -/
def settlingReports (session : Session World) (words : List String) : List String :=
  if launches words then session.output.flush.2.toList.map Fault.message else []

/-- The failure that the end of a line meets on the streams of the shell. -/
def failure? (session : Session World) : Ending → Option Failure
  | .done _ => none
  | .described => (session.writeOut .printed Builtin.helpText).value.map .stream
  | .failed failure => some failure

/-- A failure makes a line fail, and else the status stands. -/
theorem finish_value (session : Session World) (ending : Ending) :
    (session.finish ending).value =
      match session.failure? ending, ending with
      | some _, _ => .failed
      | none, .done status => status
      | none, _ => .proceed := by
  cases ending with
  | done status => rfl
  | failed failure => rfl
  | described =>
      simp only [finish, printHelp, failure?, Turn.andThen_value]
      cases (session.writeOut .printed Builtin.helpText).value <;> rfl

/-- A failure is reported once, and nothing else is. -/
theorem reportsOf_finish (session : Session World) (ending : Ending) :
    reportsOf (session.finish ending).events =
      (session.failure? ending).toList.map Failure.message := by
  cases ending with
  | done status => rfl
  | failed failure => rfl
  | described =>
      simp only [finish, printHelp, failure?, writeOut, Turn.andThen_value, Turn.andThen_events]
      cases (session.write .printed Builtin.helpText).value with
      | some fault => rfl
      | none =>
          simp only
          cases (session.write .printed Builtin.helpText).session.flush.value <;> rfl

/-- The end of a printed description is told by the output stream. -/
theorem failure?_described (session : Session World) :
    session.failure? .described ≠ none ↔
      (session.output.write (Utf8.encode Builtin.helpText)).taken ≠
          Utf8.encode Builtin.helpText ∨
        (session.output.write (Utf8.encode Builtin.helpText)).sink.flush.2 ≠ none := by
  have taken := session.output.write_fault_eq_none_iff (Utf8.encode Builtin.helpText)
  simp only [failure?, writeOut, Turn.andThen_value, write, ne_eq, Option.map_eq_none_iff]
  cases fault : (session.output.write (Utf8.encode Builtin.helpText)).fault with
  | some fault =>
      rw [fault] at taken
      simp [← taken]
  | none =>
      rw [fault] at taken
      simp [← taken, flush]

/-- The shell at the end of a line: it has settled and moved. -/
def settled (machine : Machine World) (session : Session World) (words : List String) :
    Session World :=
  let effect := effectOf machine session.place words
  (session.settleIf effect.settles).session.moved effect.place

theorem execute_value (machine : Machine World) (session : Session World) (words : List String) :
    (session.execute machine words).value =
      ((session.settled machine words).finish
        (effectOf machine session.place words).ending).value := by
  rw [execute_eq]
  rfl

/-- Only a launch settles. -/
theorem effectOf_settles (machine : Machine World) (place : Place World) (words : List String) :
    (effectOf machine place words).settles = launches words := by
  rcases line_cases words with rfl | ⟨builtin, rest, rfl⟩ | launched
  · rfl
  · rw [launches_name]
    cases builtin with
    | cd => rw [effectOf_cd, effectOfMove_settles]
    | help => rw [effectOf_help]
    | exit => rw [effectOf_exit]
  · rw [effectOf_launch machine place launched, effectOfLaunch_settles, launched]

/-- The flush before a launch reports its own fault. -/
theorem reportsOf_settleIf (session : Session World) (words : List String) :
    reportsOf (session.settleIf (launches words)).events = session.settlingReports words := by
  cases launched : launches words with
  | false => simp [settleIf, settlingReports, launched, reportsOf]
  | true =>
      simp only [settleIf, settlingReports, launched, if_true, settleOutput, flush,
        Turn.andThen_events, reportsOf_append]
      cases session.output.flush.2 <;> rfl

/-- A line reports the failed flush before a launch, and the failure with which it ends. -/
theorem reportsOf_execute (machine : Machine World) (session : Session World)
    (words : List String) :
    reportsOf (session.execute machine words).events =
      session.settlingReports words ++
        ((session.settled machine words).failure?
          (effectOf machine session.place words).ending).toList.map Failure.message := by
  have silent := deeds_silent (effectOf_isDeed machine session.place words)
  rw [execute_eq]
  simp only [carryOut, undergo, Turn.andThen_events, note_events, reportsOf_append,
    silent.2.2.2, note_session, effectOf_settles, reportsOf_settleIf, reportsOf_finish, settled]
  rfl

theorem execute_value_exit (machine : Machine World) (session : Session World)
    (rest : List String) :
    (session.execute machine (Builtin.exit.name :: rest)).value = .terminate := by
  rw [execute_value, effectOf_exit]
  rfl

theorem execute_value_help (machine : Machine World) (session : Session World)
    (rest : List String) :
    (session.execute machine (Builtin.help.name :: rest)).value =
      if (session.failure? .described).isSome then .failed else .proceed := by
  have same : session.settled machine (Builtin.help.name :: rest) = session := by
    rw [settled, effectOf_help]
    rfl
  rw [execute_value, same, effectOf_help, finish_value]
  cases session.failure? .described <;> rfl

theorem execute_value_cd (machine : Machine World) (session : Session World)
    (rest : List String) :
    (session.execute machine (Builtin.cd.name :: rest)).value =
      match rest[0]? with
      | none => .failed
      | some target =>
          match (session.lookUp machine target).1 with
          | .ok _ => .proceed
          | .error _ => .failed := by
  have same (target : String) : session.lookUp machine target =
      session.place.lookUp machine target := rfl
  rw [execute_value, effectOf_cd, finish_value]
  simp only [effectOfMove, List.getElem?_cons_succ, same]
  cases rest[0]? with
  | none => rfl
  | some target =>
      simp only
      rcases session.place.lookUp machine target with ⟨outcome, world⟩
      cases outcome <;> rfl

theorem execute_value_launch (machine : Machine World) (session : Session World)
    {words : List String} (launched : launches words = true) :
    (session.execute machine words).value =
      match startFailure? words, session.place.outcome machine words with
      | some _, _ => .failed
      | none, .ok _ => .proceed
      | none, .error _ => .failed := by
  rw [execute_value, effectOf_launch machine session.place launched, finish_value]
  simp only [effectOfLaunch]
  cases startFailure? words with
  | some failure => rfl
  | none =>
      simp only
      cases session.place.outcome machine words <;> rfl

/-- The reason for a failure goes with the first word of the line. -/
theorem fails_iff_of_name (machine : Machine World) (session : Session World) (builtin : Builtin)
    (rest : List String) :
    (session.MoveFails machine (builtin.name :: rest) ∨
        session.HelpFails (builtin.name :: rest) ∨
        session.LaunchFails machine (builtin.name :: rest)) ↔
      match builtin with
      | .cd => session.MoveFails machine (Builtin.cd.name :: rest)
      | .help => session.HelpFails (Builtin.help.name :: rest)
      | .exit => False := by
  have inside : ¬ session.LaunchFails machine (builtin.name :: rest) := by
    simp [LaunchFails, launches_name]
  cases builtin <;> simp [inside] <;> simp [MoveFails, HelpFails, Builtin.name]

/-- A line fails for the named reasons and for no other. -/
theorem execute_value_failed_iff (machine : Machine World) (session : Session World)
    (words : List String) :
    (session.execute machine words).value = .failed ↔
      session.MoveFails machine words ∨ session.HelpFails words ∨
        session.LaunchFails machine words := by
  rcases line_cases words with rfl | ⟨builtin, rest, rfl⟩ | launched
  · have fine : (session.execute machine []).value = .proceed := rfl
    simp [fine, MoveFails, HelpFails, LaunchFails, launches]
  · rw [fails_iff_of_name]
    cases builtin with
    | exit => simp [execute_value_exit]
    | help =>
        have failure := session.failure?_described
        rw [execute_value_help]
        simp only [HelpFails, ← failure]
        cases session.failure? .described <;> simp [Builtin.name]
    | cd =>
        rw [execute_value_cd]
        simp only [MoveFails, List.getElem?_cons_succ]
        cases rest[0]? with
        | none => simp [Builtin.name]
        | some target =>
            cases outcome : (session.lookUp machine target).1 <;>
              simp [Builtin.name, outcome]
  · have outside := head?_of_launches launched
    have solid : words ≠ [] := by
      rintro rfl
      simp [launches] at launched
    have sendable := startFailure?_eq_none_iff words solid
    have notMove : ¬ session.MoveFails machine words := fun fails => outside .cd fails.1
    have notHelp : ¬ session.HelpFails words := fun fails => outside .help fails.1
    rw [execute_value_launch machine session launched]
    simp only [notMove, notHelp, false_or, LaunchFails, launched, true_and]
    cases start : startFailure? words with
    | some failure =>
        rw [start] at sendable
        simp only [reduceCtorEq, false_iff, not_forall, not_not] at sendable
        obtain ⟨word, member, zero⟩ := sendable
        simp only [true_iff]
        exact Or.inl ⟨word, member, zero⟩
    | none =>
        have free := sendable.mp start
        have none : ¬ ∃ word ∈ words, '\x00' ∈ word.toList := by
          rintro ⟨word, member, zero⟩
          exact free word member zero
        simp only [none, false_or, ← session.place.outcome_error_iff]
        cases session.place.outcome machine words <;> simp

/-- Only `exit` gives the status that ends the loop. -/
theorem execute_value_terminate_iff (machine : Machine World) (session : Session World)
    (words : List String) :
    (session.execute machine words).value = .terminate ↔ words.head? = some "exit" := by
  rw [execute_value, finish_value]
  rcases effectOf_ending machine session.place words with
    ⟨called, ending⟩ | ⟨called, ending⟩ | ⟨_, other, ending | ⟨failure, ending⟩⟩
  · rw [ending, called]
    cases (session.settled machine words).failure? .described <;> simp
  · simp [ending, called, failure?]
  · simp [ending, other, failure?]
  · simp [ending, other, failure?]

/-- Whether a line keeps the loop going is told by its first word alone. -/
theorem execute_keepsRunning (machine : Machine World) (session : Session World)
    (words : List String) :
    (session.execute machine words).value.keepsRunning = !isExit words := by
  have ends := execute_value_terminate_iff machine session words
  rw [Bool.eq_iff_iff, Status.keepsRunning_iff, Ne, ends]
  simp [isExit]

/-- No line ends with a failure that it does not name. -/
theorem effectOf_ending_ne (machine : Machine World) (place : Place World) (words : List String) :
    (effectOf machine place words).ending ≠ .done .failed := by
  rcases effectOf_ending machine place words with
    ⟨_, ending⟩ | ⟨_, ending⟩ | ⟨_, _, ending | ⟨failure, ending⟩⟩ <;> simp [ending]

/-- A line that fails has one failure to report, and the other lines have none. -/
theorem length_failure? (session : Session World) (ending : Ending)
    (named : ending ≠ .done .failed) :
    (session.failure? ending).toList.length =
      if (session.finish ending).value = .failed then 1 else 0 := by
  rw [finish_value]
  cases ending with
  | failed failure => rfl
  | described => cases session.failure? .described <;> rfl
  | done status =>
      have other : status ≠ .failed := fun equal => named (equal ▸ rfl)
      simp [failure?, other]

/-- The streams of the shell have no part in a launch. -/
theorem execute_launch_sink (machine : Machine World) (session : Session World) (output : Sink)
    {words : List String} (launched : launches words = true) :
    ((({ session with output } : Session World)).execute machine words).value =
        (session.execute machine words).value ∧
      startsOf ((({ session with output } : Session World)).execute machine words).events =
        startsOf (session.execute machine words).events := by
  constructor
  · rw [execute_value_launch machine _ launched, execute_value_launch machine _ launched]
    rfl
  · rw [startsOf_execute, startsOf_execute]
    rfl

/-- A line whose first word is not `exit` keeps the loop going. -/
theorem run_of_dispatch (machine : Machine World) (session : Session World) (status : Status)
    (words : List String) (went : (session.step machine).value = .ok (some status))
    (dispatched : dispatchesOf (session.step machine).events = [words])
    (other : words.head? ≠ some "exit") :
    session.run machine =
      (session.step machine).andThen fun _ next => next.run machine := by
  obtain ⟨before, handed, same, rfl⟩ := step_status machine session status went
  rw [same, List.cons.injEq] at dispatched
  obtain ⟨rfl, _⟩ := dispatched
  rw [run_eq, went]
  simp [execute_keepsRunning, isExit, other]

/-- The status of a line follows from its first word and from what the line meets: `exit` alone ends
the loop, in every state, and a line that fails has reported its failure, once. The flush before a
launch may report as well, but neither keeps the child from starting nor changes the status. -/
theorem execute_status (machine : Machine World) (session : Session World)
    (words : List String) :
    let turn := session.execute machine words
    (turn.value = .terminate ↔ words.head? = some "exit") ∧
      (turn.value = .failed ↔
        session.MoveFails machine words ∨ session.HelpFails words ∨
          session.LaunchFails machine words) ∧
      (turn.value = .proceed ↔
        words.head? ≠ some "exit" ∧ ¬ (session.MoveFails machine words ∨
          session.HelpFails words ∨ session.LaunchFails machine words)) ∧
      (∃ closing, reportsOf turn.events = session.settlingReports words ++ closing ∧
        closing.length = if turn.value = .failed then 1 else 0) ∧
      (launches words = true → ∀ output : Sink,
        let other := ({ session with output } : Session World).execute machine words
        other.value = turn.value ∧ startsOf other.events = startsOf turn.events) ∧
      (turn.value.keepsRunning = false ↔ words.head? = some "exit") ∧
      ∀ status, (session.step machine).value = .ok (some status) →
        dispatchesOf (session.step machine).events = [words] → words.head? ≠ some "exit" →
          session.run machine =
            (session.step machine).andThen fun _ next => next.run machine := by
  have ends := execute_value_terminate_iff machine session words
  have fails := execute_value_failed_iff machine session words
  refine ⟨ends, fails, ?_, ?_, ?_, ?_, ?_⟩
  · rw [Ne, ← ends, ← fails]
    cases (session.execute machine words).value <;> simp
  · refine ⟨_, reportsOf_execute machine session words, ?_⟩
    rw [List.length_map, execute_value]
    exact length_failure? _ _ (effectOf_ending_ne machine session.place words)
  · intro launched output
    exact execute_launch_sink machine session output launched
  · simp [execute_keepsRunning, isExit]
  · intro status went dispatched other
    exact run_of_dispatch machine session status words went dispatched other

end Session
end PromptShell
