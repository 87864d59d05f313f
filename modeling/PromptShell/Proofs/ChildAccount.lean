import PromptShell.Proofs.Chronicle
import PromptShell.Proofs.Invariant
import PromptShell.Proofs.WorkingDirectory
namespace PromptShell

variable {World : Type} {tight : Prop}

namespace Record

/-- The record that starts the account of a child. -/
def opens : Record → Bool
  | spawned _ _ => true
  | _ => false

/-- The records that end the account of a child. -/
def closes : Record → Bool
  | waitFailed _ _ | finished _ _ => true
  | _ => false

/-- A record that tells of a child. -/
def isOfChild : Record → Bool
  | spawned _ _ | stillRunning _ _ | waitFailed _ _ | finished _ _ => true
  | _ => false

end Record

/-- The record that closes the account of a child: its end, or the error of the wait for it. -/
inductive Closes (command : String) (process : Nat) : Record → Prop
  | finished (ending : ChildEnd) : Closes command process (.finished command ending)
  | waitFailed (errno : Errno) : Closes command process (.waitFailed process errno)

/-- The account of a child: its start, the notices about it, and the record that closes it. -/
def childAccount (command : String) (process : Nat) (notices : List Notice) (closing : Record) :
    List Record :=
  .spawned command process :: (notices.map (.stillRunning process) ++ [closing])

/-- A log that tells of each child in an account of its own. -/
inductive Accounted : List Record → Prop
  | nil : Accounted []
  | apart {record : Record} {rest : List Record} (other : record.isOfChild = false)
      (following : Accounted rest) : Accounted (record :: rest)
  | child (command : String) (process : Nat) (notices : List Notice) {closing : Record}
      {rest : List Record} (closes : Closes command process closing)
      (following : Accounted rest) :
      Accounted (childAccount command process notices closing ++ rest)

/-- The log of a child that was split off is its account. -/
theorem Place.childLog_account {machine : Machine World} {place : Place World}
    {words : List String} {started : Started World}
    (start : place.start machine words = .ok started) :
    ∃ notices closing, Closes (words.headD "") started.process closing ∧
      place.childLog machine words =
        childAccount (words.headD "") started.process notices closing := by
  rw [childLog, start]
  refine ⟨(started.wait machine).notices, _, ?_, rfl⟩
  cases (started.wait machine).outcome with
  | ok ending => exact .finished ending
  | error errno => exact .waitFailed errno

namespace Accounted

theorem append {first second : List Record} (early : Accounted first)
    (late : Accounted second) : Accounted (first ++ second) := by
  induction early with
  | nil => exact late
  | apart other following ih => exact .apart other ih
  | child command process notices closes following ih =>
      rw [List.append_assoc]
      exact .child command process notices closes ih

/-- A log that tells of no child. -/
theorem of_apart {log : List Record} (apart : ∀ record ∈ log, record.isOfChild = false) :
    Accounted log := by
  induction log with
  | nil => exact .nil
  | cons record rest ih =>
      obtain ⟨other, apart⟩ := List.forall_mem_cons.mp apart
      exact .apart other (ih apart)

theorem lineLog (machine : Machine World) (place : Place World) (words : List String) :
    Accounted (place.lineLog machine words) := by
  cases words with
  | nil => exact .nil
  | cons command rest =>
      rw [Place.lineLog]
      split
      · refine .apart rfl ?_
        split
        · exact .nil
        · cases start : place.start machine (command :: rest) with
          | error errno =>
              rw [Place.childLog, start]
              exact .apart rfl .nil
          | ok started =>
              obtain ⟨notices, closing, closes, same⟩ := Place.childLog_account start
              rw [same, ← List.append_nil (childAccount _ _ _ _)]
              exact .child _ _ notices closes .nil
      · refine .apart rfl (of_apart ?_)
        intro record member
        obtain ⟨target, errno, rfl⟩ : ∃ target errno, record = .enterFailed target errno := by
          rw [Option.mem_toList, Place.moveWarning?] at member
          split at member
          · split at member
            · cases member
            · rename_i target _
              split at member
              · cases member
              · rename_i errno _
                exact ⟨target, errno, (Option.some.inj member).symm⟩
          · cases member
        rfl

/-- The growths of a buffer tell of no child. -/
theorem of_growths {grown : Nat → Record} (growths : List Nat)
    (other : ∀ capacity, (grown capacity).isOfChild = false) :
    Accounted (growths.map grown) := by
  apply of_apart
  intro record member
  obtain ⟨capacity, -, rfl⟩ := List.mem_map.mp member
  exact other capacity

theorem lineRecords (settings : Settings) (bytes : Bytes) :
    Accounted (settings.lineRecords bytes) :=
  of_growths _ fun _ => rfl

theorem argumentRecords (settings : Settings) (words : List String) :
    Accounted (settings.argumentRecords words) :=
  of_growths _ fun _ => rfl

theorem text {machine : Machine World} {session : Session World} {text : String}
    {log : List Record} (line : TextLog tight machine session text log) : Accounted log := by
  cases line with
  | roomless refused => exact .nil
  | cutOff may given refuses short => exact argumentRecords _ _
  | run given gives => exact append (argumentRecords _ _) (lineLog machine _ _)

theorem step {machine : Machine World} {session : Session World} {log : List Record}
    (step : StepLog tight machine session log) : Accounted log := by
  cases step with
  | unasked asked => exact .nil
  | asked asked cycle =>
      cases cycle with
      | roomless refused => exact .nil
      | cutOff may reads => exact lineRecords _ _
      | failed reads => exact lineRecords _ _
      | ended reads => exact .apart rfl .nil
      | served reads arrived line => exact append (lineRecords _ _) (text line)

/-- A chronicle tells of each child in an account of its own. -/
theorem chronicle {machine : Machine World} {session : Session World} {calls : List Call}
    {log : List Record} (chronicle : Chronicle tight machine session calls log) :
    Accounted log := by
  induction chronicle with
  | nothing session => exact .nil
  | step cycle following ih => exact append (step cycle) ih
  | cycle goes cycle following ih => exact append (step cycle) ih
  | lastCycle ends cycle following ih => exact append (step cycle) ih
  | execute following ih => exact append (lineLog machine _ _) ih
  | executeText line following ih => exact append (text line) ih

end Accounted

/-- An account is opened and closed once. -/
theorem childAccount_counts {command : String} {process : Nat} (notices : List Notice)
    {closing : Record} (closes : Closes command process closing) :
    let account := childAccount command process notices closing
    account.countP Record.opens = 1 ∧ account.countP Record.closes = 1 := by
  intro account
  have opened : (notices.map (Record.stillRunning process)).countP Record.opens = 0 := by
    simp [List.countP_eq_zero, Record.opens]
  have closed : (notices.map (Record.stillRunning process)).countP Record.closes = 0 := by
    simp [List.countP_eq_zero, Record.closes]
  have last : closing.opens = false ∧ closing.closes = true := by
    cases closes <;> exact ⟨rfl, rfl⟩
  unfold account childAccount
  rw [List.countP_cons, List.countP_cons, List.countP_append, List.countP_append, opened, closed,
    List.countP_singleton, List.countP_singleton, last.1, last.2]
  exact ⟨rfl, rfl⟩

/-- Wherever an account is cut, at most one is open at the cut. -/
theorem childAccount_cut {command : String} {process : Nat} {notices : List Notice}
    {closing : Record} (closes : Closes command process closing) {front left : List Record}
    (inside : childAccount command process notices closing = front ++ left) :
    front.countP Record.closes ≤ front.countP Record.opens ∧
      front.countP Record.opens ≤ front.countP Record.closes + 1 := by
  obtain ⟨opened, closed⟩ := childAccount_counts notices closes
  rw [inside, List.countP_append] at opened closed
  cases front with
  | nil => exact ⟨Nat.le_refl 0, Nat.zero_le 1⟩
  | cons first front =>
      obtain ⟨rfl, -⟩ := List.cons.inj inside
      have start : 0 < (Record.spawned command process :: front).countP Record.opens := by
        rw [List.countP_cons]
        exact Nat.succ_pos _
      omega

/-- Whatever is left of a log in which each child has its account, at most one is open at its end,
and none at the end of the log. -/
theorem Accounted.counts {log : List Record} (accounted : Accounted log) :
    log.countP Record.opens = log.countP Record.closes ∧
      ∀ front back, log = front ++ back →
        front.countP Record.closes ≤ front.countP Record.opens ∧
          front.countP Record.opens ≤ front.countP Record.closes + 1 := by
  induction accounted with
  | nil =>
      refine ⟨rfl, ?_⟩
      intro front back whole
      rw [(List.append_eq_nil_iff.mp whole.symm).1]
      exact ⟨Nat.le_refl 0, Nat.zero_le 1⟩
  | @apart record rest other following ih =>
      have none : record.opens = false ∧ record.closes = false := by
        cases record <;> first | exact ⟨rfl, rfl⟩ | cases other
      have same (front : List Record) : (record :: front).countP Record.opens =
          front.countP Record.opens ∧
          (record :: front).countP Record.closes = front.countP Record.closes := by
        rw [List.countP_cons, List.countP_cons, none.1, none.2]
        exact ⟨rfl, rfl⟩
      refine ⟨by rw [(same rest).1, (same rest).2, ih.1], ?_⟩
      intro front back whole
      cases front with
      | nil => exact ⟨Nat.le_refl 0, Nat.zero_le 1⟩
      | cons first front =>
          obtain ⟨rfl, below⟩ := List.cons.inj whole
          rw [(same front).1, (same front).2]
          exact ih.2 front back below
  | @child command process notices closing rest closes following ih =>
      obtain ⟨opened, closed⟩ := childAccount_counts notices closes
      refine ⟨by rw [List.countP_append, List.countP_append, opened, closed, ih.1], ?_⟩
      intro front back whole
      rcases List.append_eq_append_iff.mp whole with ⟨more, rfl, behind⟩ | ⟨left, inside, -⟩
      · rw [List.countP_append, List.countP_append, opened, closed]
        have bounds := ih.2 more back behind
        omega
      · exact childAccount_cut closes inside

/-- Behind the start of each child, what is logged next is the account of a child of that name. -/
def TellsStarts (events : List Event) : Prop :=
  ∀ front directory arguments back, events = front ++ .started directory arguments :: back →
    ∃ command process notices closing rest, arguments.head? = some (Utf8.encode command) ∧
      Closes command process closing ∧
      logOf back = childAccount command process notices closing ++ rest

namespace TellsStarts

theorem append {first second : List Event} (early : TellsStarts first)
    (late : TellsStarts second) : TellsStarts (first ++ second) := by
  intro front directory arguments back whole
  rcases List.append_eq_append_iff.mp whole with ⟨more, rfl, behind⟩ | ⟨left, inside, behind⟩
  · exact late more directory arguments back behind
  · cases left with
    | nil => exact late [] directory arguments back behind.symm
    | cons event left =>
        obtain ⟨rfl, rfl⟩ := List.cons.inj behind
        obtain ⟨command, process, notices, closing, rest, named, closes, log⟩ :=
          early front directory arguments left inside
        refine ⟨command, process, notices, closing, rest ++ logOf second, named, closes, ?_⟩
        change logOf (left ++ second) = _
        rw [logOf_append, log, List.append_assoc]

theorem of_no_starts {events : List Event} (none : startsOf events = []) :
    TellsStarts events := by
  rintro front directory arguments back rfl
  rw [startsOf_append, List.append_eq_nil_iff] at none
  cases none.2

/-- The deeds are told as all events are. -/
theorem of_deeds {events : List Event} (tells : TellsStarts (deedsOf events)) :
    TellsStarts events := by
  rintro front directory arguments back rfl
  rw [deedsOf_append] at tells
  obtain ⟨command, process, notices, closing, rest, named, closes, log⟩ :=
    tells (deedsOf front) directory arguments (deedsOf back) rfl
  rw [logOf_deedsOf] at log
  exact ⟨command, process, notices, closing, rest, named, closes, log⟩

/-- The child of a launched program. -/
theorem childEvents_of_start {machine : Machine World} {place : Place World}
    {words : List String} {child : Started World} (solid : words ≠ [])
    (start : place.start machine words = .ok child) :
    TellsStarts (place.childEvents machine words) := by
  obtain ⟨notices, closing, closes, account⟩ := Place.childLog_account start
  have starts := place.startsOf_childEvents machine words
  have log := logOf_childEvents machine place words
  obtain ⟨arguments, later, whole, named⟩ : ∃ arguments later,
      place.childEvents machine words = .started place.directory arguments :: later ∧
        arguments.head? = some (Utf8.encode (words.headD "")) := by
    rw [Place.childEvents_of_start start]
    cases words with
    | nil => exact absurd rfl solid
    | cons command rest => exact ⟨_, _, rfl, rfl⟩
  rw [start, whole] at starts
  rw [account, whole] at log
  have none : startsOf later = [] := (List.cons.inj starts).2
  rw [whole]
  intro front directory started back same
  cases front with
  | nil =>
      obtain ⟨first, rfl⟩ := List.cons.inj same
      obtain ⟨-, rfl⟩ := Event.started.inj first
      refine ⟨_, _, notices, closing, [], named, closes, ?_⟩
      rw [List.append_nil]
      exact log
  | cons event front =>
      obtain ⟨-, rfl⟩ := List.cons.inj same
      exact of_no_starts none front directory started back rfl

/-- The one child of a launched program, if it could be split off. -/
theorem childEvents (machine : Machine World) (place : Place World) {words : List String}
    (solid : words ≠ []) : TellsStarts (place.childEvents machine words) := by
  cases start : place.start machine words with
  | ok child => exact childEvents_of_start solid start
  | error errno =>
      apply of_no_starts
      rw [place.startsOf_childEvents machine words, start]

/-- The child of a line, if it starts one. -/
theorem effectOf (machine : Machine World) (place : Place World) (words : List String) :
    TellsStarts (effectOf machine place words).events := by
  by_cases starts : launches words = true ∧ startFailure? words = none
  · obtain ⟨launched, sendable⟩ := starts
    have solid : words ≠ [] := by
      rintro rfl
      cases launched
    have launching : TellsStarts [.logged (.launching (words.headD ""))] := of_no_starts rfl
    rw [effectOf_launch machine place launched, effectOfLaunch, sendable]
    exact launching.append (childEvents machine place solid)
  · apply of_no_starts
    rw [startsOf_effectOf, if_neg starts]

/-- Whatever a shell does, the start of a child is told next. -/
theorem invariant (machine : Machine World) :
    Turn.LineInvariant machine fun (_ : Session World) turn => TellsStarts turn.events where
  andThen _ early late := append early late
  map _ tells := tells
  ask session := of_deeds (by rw [session.ask_onStreams.deeds]; exact of_no_starts rfl)
  flush session := of_no_starts rfl
  read _ _ _ _ _ read := of_no_starts (quiet_silent (isQuiet_of_isReading read)).2.2.2.1
  execute session words := by
    apply of_deeds
    rw [Session.deedsOf_execute]
    exact effectOf machine session.place words

end TellsStarts

namespace Session

end Session
end PromptShell
