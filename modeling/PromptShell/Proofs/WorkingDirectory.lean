import PromptShell.Proofs.FailedCycle
import PromptShell.Proofs.Invariant
import PromptShell.Proofs.Outcome
namespace PromptShell

variable {World : Type}

/-- The path that a line asks the shell to move to: the second word behind `cd`. -/
def moveTarget? (words : List String) : Option String :=
  if words.head? = some Builtin.cd.name then words[1]? else none

namespace Place

/-- The place behind a line. The directory is another one exactly if the line asks for one that can
be entered from here. -/
def after (machine : Machine World) (place : Place World) (words : List String) : Place World where
  directory :=
    match moveTarget? words with
    | none => place.directory
    | some target =>
        match (place.lookUp machine target).1 with
        | .ok directory => directory
        | .error _ => place.directory
  world := (effectOf machine place words).place.world

/-- The place behind some lines. -/
def afterAll (machine : Machine World) (place : Place World) (lines : List (List String)) :
    Place World :=
  lines.foldl (after machine) place

@[simp] theorem afterAll_nil (machine : Machine World) (place : Place World) :
    place.afterAll machine [] = place := rfl

@[simp] theorem afterAll_cons (machine : Machine World) (place : Place World)
    (words : List String) (rest : List (List String)) :
    place.afterAll machine (words :: rest) = (place.after machine words).afterAll machine rest :=
  rfl

@[simp] theorem afterAll_append (machine : Machine World) (place : Place World)
    (first second : List (List String)) :
    place.afterAll machine (first ++ second) =
      (place.afterAll machine first).afterAll machine second :=
  List.foldl_append

/-- A line that asks for no directory leaves the shell where it is. -/
theorem after_stays (machine : Machine World) (place : Place World) {words : List String}
    (stays : moveTarget? words = none) :
    (place.after machine words).directory = place.directory := by
  simp only [after, stays]

end Place

/-- A line that launches a program asks for no directory. -/
theorem moveTarget?_of_launches {words : List String} (launched : launches words = true) :
    moveTarget? words = none :=
  if_neg (head?_of_launches launched .cd)

/-- A child does not move the shell. -/
theorem Place.behindChild_directory (machine : Machine World) (place : Place World)
    (words : List String) :
    (place.behindChild machine words).directory = place.directory := by
  rw [behindChild]
  split <;> rfl

/-- The effect of a line moves the shell as the line asks. -/
theorem effectOf_place (machine : Machine World) (place : Place World) (words : List String) :
    (effectOf machine place words).place = place.after machine words := by
  suffices moved : (effectOf machine place words).place.directory =
      (place.after machine words).directory from
    congrArg (fun directory => (⟨directory, _⟩ : Place World)) moved
  rcases line_cases words with rfl | ⟨builtin, rest, rfl⟩ | launched
  · rfl
  · cases builtin with
    | help => rw [effectOf_help]; rfl
    | exit => rw [effectOf_exit]; rfl
    | cd =>
        rw [effectOf_cd]
        cases rest with
        | nil => rfl
        | cons target rest =>
            have asked : moveTarget? (Builtin.cd.name :: target :: rest) = some target := rfl
            have second : (Builtin.cd.name :: target :: rest)[1]? = some target := rfl
            simp only [Place.after, asked, effectOfMove, second]
            rcases place.lookUp machine target with ⟨outcome, world⟩
            cases outcome <;> rfl
  · rw [effectOf_launch machine place launched,
      Place.after_stays machine place (moveTarget?_of_launches launched), effectOfLaunch]
    cases startFailure? words with
    | some failure => rfl
    | none => exact place.behindChild_directory machine words

/-- Up to the end of the wait for a child there is one start, where the shell is. -/
theorem Place.startsOf_waitEvents (machine : Machine World) (place : Place World)
    (words : List String) (started : Started World) :
    startsOf (place.waitEvents machine words started) =
      [(place.directory, words.map Utf8.encode)] := by
  have silent : ∀ event ∈ (place.waitEvents machine words started).tail,
      event.started? = none := by
    intro event member
    simp only [waitEvents, List.cons_append, List.tail_cons, List.mem_append, List.mem_cons,
      List.nil_append, List.mem_map] at member
    rcases member with rfl | ⟨_, _, rfl⟩ | ⟨_, _, rfl⟩ <;> rfl
  exact congrArg ((place.directory, words.map Utf8.encode) :: ·)
    (List.filterMap_eq_nil_iff.mpr silent)

/-- Up to the end of the wait for a child there is one start, where the shell is; there is none if
no child can be split off. -/
theorem Place.startsOf_childEvents (machine : Machine World) (place : Place World)
    (words : List String) :
    startsOf (place.childEvents machine words) =
      match place.start machine words with
      | .ok _ => [(place.directory, words.map Utf8.encode)]
      | .error _ => [] := by
  cases start : place.start machine words with
  | ok started =>
      rw [Place.childEvents_of_start start, startsOf_append, startsOf_waitEvents]
      rfl
  | error errno =>
      rw [Place.childEvents_of_refused start]
      rfl

/-- A line starts a child if it launches a program with words that can be handed over and a child
can be split off, and the child starts where the shell is. -/
theorem startsOf_effectOf (machine : Machine World) (place : Place World) (words : List String) :
    startsOf (effectOf machine place words).events =
      if launches words = true ∧ startFailure? words = none then
        match place.start machine words with
        | .ok _ => [(place.directory, words.map Utf8.encode)]
        | .error _ => []
      else [] := by
  rcases line_cases words with rfl | ⟨builtin, rest, rfl⟩ | launched
  · rfl
  · rw [if_neg (by simp [launches_name])]
    cases builtin with
    | help => rw [effectOf_help]; rfl
    | exit => rw [effectOf_exit]; rfl
    | cd =>
        rw [effectOf_cd]
        simp only [effectOfMove]
        split
        · rfl
        · split <;> rfl
  · rw [effectOf_launch machine place launched, effectOfLaunch]
    cases failure : startFailure? words with
    | some reason => rw [if_neg (by simp)]; rfl
    | none =>
        rw [if_pos ⟨launched, rfl⟩]
        exact place.startsOf_childEvents machine words

/-- A child that a line starts is started where the shell is, by a line that launches a program. -/
theorem launched_of_startsOf {machine : Machine World} {place : Place World} {words : List String}
    {directory : Directory} {arguments : List Bytes}
    (child : (directory, arguments) ∈ startsOf (effectOf machine place words).events) :
    launches words = true ∧ directory = place.directory := by
  rw [startsOf_effectOf] at child
  split at child
  · rename_i launched
    split at child
    · exact ⟨launched.1, (Prod.mk.inj (List.mem_singleton.mp child)).1⟩
    · simp at child
  · simp at child

/-- Each child among some events is started in the directory behind the lines that were handed over
before it. -/
def Place.StartsAlong (machine : Machine World) (place : Place World) (events : List Event) :
    Prop :=
  ∀ before directory arguments after, events = before ++ .started directory arguments :: after →
    directory = (place.afterAll machine (dispatchesOf before)).directory

namespace Place.StartsAlong

/-- Events that start no child start none elsewhere. -/
theorem of_no_starts {machine : Machine World} {place : Place World} {events : List Event}
    (none : startsOf events = []) : place.StartsAlong machine events := by
  rintro before directory arguments after rfl
  simp [startsOf, Event.started?] at none

theorem append {machine : Machine World} {place : Place World} {early late : List Event}
    (first : place.StartsAlong machine early)
    (second : (place.afterAll machine (dispatchesOf early)).StartsAlong machine late) :
    place.StartsAlong machine (early ++ late) := by
  intro before directory arguments after whole
  rcases List.append_eq_append_iff.mp whole with
    ⟨middle, rfl, behind⟩ | ⟨middle, rfl, behind⟩
  · -- The child starts in the later part.
    rw [dispatchesOf_append, afterAll_append]
    exact second middle directory arguments after behind
  · rcases middle with _ | ⟨event, middle⟩
    · rw [List.nil_append] at behind
      rw [List.append_nil] at second
      exact second [] directory arguments after behind.symm
    · obtain ⟨rfl, -⟩ := List.cons.inj behind
      exact first before directory arguments middle rfl

end Place.StartsAlong

/-- A turn leaves the shell where the lines that it has handed over lead to, and has started its
children on the way. -/
structure Turn.Follows (machine : Machine World) {Value : Type} (session : Session World)
    (turn : Turn World Value) : Prop where
  place : turn.session.place = session.place.afterAll machine (dispatchesOf turn.events)
  children : session.place.StartsAlong machine turn.events

namespace Turn.Follows

variable {machine : Machine World} {Value Result : Type} {session : Session World}

theorem andThen {turn : Turn World Value} (next : Value → Session World → Turn World Result)
    (first : turn.Follows machine session)
    (second : (next turn.value turn.session).Follows machine turn.session) :
    (turn.andThen next).Follows machine session where
  place := by
    rw [Turn.andThen_session, second.place, first.place, Turn.andThen_events, dispatchesOf_append,
      Place.afterAll_append]
  children := first.children.append (first.place ▸ second.children)

/-- A turn that hands no line over and starts no child follows if it stays. -/
theorem of_still {turn : Turn World Value} (still : turn.session.place = session.place)
    (dispatches : dispatchesOf turn.events = []) (starts : startsOf turn.events = []) :
    turn.Follows machine session where
  place := by rw [still, dispatches, Place.afterAll_nil]
  children := .of_no_starts starts

/-- What happens on the streams of the shell does not move it. -/
theorem of_onStreams {turn : Turn World Value} (streams : turn.OnStreams session) :
    turn.Follows machine session :=
  .of_still streams.place streams.dispatches (by rw [← startsOf_deedsOf, streams.deeds]; rfl)

end Turn.Follows

/-- A line moves the shell as it asks, and starts its child where the shell is. -/
theorem Session.execute_follows (machine : Machine World) (session : Session World)
    (words : List String) : (session.execute machine words).Follows machine session where
  place := by
    rw [execute_place, effectOf_place, dispatchesOf_execute, Place.afterAll_cons,
      Place.afterAll_nil]
  children := by
    intro before directory arguments after whole
    have handed := session.dispatchesOf_execute machine words
    have member : (directory, arguments) ∈ startsOf (session.execute machine words).events := by
      simp [whole, startsOf, Event.started?]
    rw [session.startsOf_execute machine words] at member
    obtain ⟨launched, rfl⟩ := launched_of_startsOf member
    have stays := session.place.after_stays machine (moveTarget?_of_launches launched)
    -- Whether the line itself was handed over before its child or not, the directory is the same.
    rw [whole, dispatchesOf_append, List.append_eq_singleton_iff] at handed
    rcases handed with ⟨front, -⟩ | ⟨front, -⟩
    · rw [front, Place.afterAll_nil]
    · rw [front, Place.afterAll_cons, Place.afterAll_nil, stays]

/-- Every turn of a shell follows the lines that are handed over. -/
theorem Turn.follows_invariant (machine : Machine World) :
    Turn.LineInvariant machine fun (session : Session World) turn => turn.Follows machine session
    where
  andThen next first second := first.andThen next second
  map _ same := ⟨same.place, same.children⟩
  ask session := .of_onStreams session.ask_onStreams
  flush session := .of_onStreams session.flush_onStreams
  read session input lines words events read := by
    obtain ⟨-, -, dispatches, starts, -⟩ := quiet_silent (isQuiet_of_isReading read)
    exact .of_still rfl dispatches starts
  execute session words := session.execute_follows machine words

/-- What holds of every line holds of cycles that follow each other. -/
theorem Turn.LineInvariant.cycles
    {holds : {Value : Type} → Session World → Turn World Value → Prop} {machine : Machine World}
    (invariant : Turn.LineInvariant machine holds) (session : Session World) (count : Nat) :
    holds session (session.cycles machine count) := by
  induction count generalizing session with
  | zero => exact invariant.stay session ()
  | succ count ih => exact invariant.andThen _ (invariant.step session) (ih _)

namespace Session

/-- Of the words behind the path that it is to move to a line makes no use. -/
theorem execute_cd_rest (machine : Machine World) (session : Session World) (target : String)
    (rest : List String) :
    let long := session.execute machine ("cd" :: target :: rest)
    let short := session.execute machine ["cd", target]
    long.value = short.value ∧ long.session = short.session ∧
      long.events.tail = short.events.tail := by
  have same : effectOf machine session.place ("cd" :: target :: rest) =
      effectOf machine session.place ["cd", target] :=
    (effectOf_cd machine session.place _).trans (effectOf_cd machine session.place _).symm
  simp only [execute_eq, same]
  exact ⟨rfl, rfl, rfl⟩

/-- A line moves the shell as it asks. -/
theorem execute_directory (machine : Machine World) (session : Session World)
    (words : List String) :
    (session.execute machine words).session.directory =
      (session.place.after machine words).directory := by
  rw [← effectOf_place, ← execute_place]
  rfl

/-- The working directory. Between any two calls of a shell and between any two cycles of a loop its
directory is the first one, moved by the lines that were handed over until then, in order: by those
of them that ask for a directory which could be entered, and by no other. Each child is started in
the directory of its moment. A cycle that fails leaves the shell in place, and so does a line that
asks for no directory; one that asks for a directory goes there or, if it cannot be entered, stays;
its further words do nothing. -/
theorem callAll_working_directory (machine : Machine World) (session : Session World) :
    (∀ (calls : List Call) (count : Nat),
        let moment := (session.callAll machine calls).andThen fun _ next =>
          next.cycles machine count
        moment.session.directory =
            (session.place.afterAll machine (dispatchesOf moment.events)).directory ∧
          ∀ before directory arguments after,
            moment.events = before ++ .started directory arguments :: after →
            directory = (session.place.afterAll machine (dispatchesOf before)).directory) ∧
      (∀ count, session.Lasts machine count →
        session.run machine =
          (session.cycles machine count).andThen fun _ next => next.run machine) ∧
      (∀ failure, (session.step machine).value = .error failure →
        (session.step machine).session.directory = session.directory) ∧
      (∀ words, moveTarget? words = none →
        (session.execute machine words).session.directory = session.directory) ∧
      ∀ target rest,
        let line := session.execute machine ("cd" :: target :: rest)
        let short := session.execute machine ["cd", target]
        (line.session.directory =
          match (session.lookUp machine target).1 with
          | .ok directory => directory
          | .error _ => session.directory) ∧
        line.value = short.value ∧ line.session = short.session ∧
          line.events.tail = short.events.tail := by
  have invariant := Turn.follows_invariant machine
  refine ⟨?_, ?_, ?_, ?_, ?_⟩
  · intro calls count moment
    have follows : moment.Follows machine session :=
      invariant.andThen _ (invariant.callAll session calls) (invariant.cycles _ count)
    exact ⟨congrArg Place.directory follows.place, follows.children⟩
  · intro count lasts
    exact run_of_lasts lasts
  · intro failure failed
    obtain ⟨stage, shown, rest, fails⟩ := exists_fails machine failed
    exact congrArg Place.directory (fails.step machine).2.place
  · intro words stays
    rw [execute_directory, Place.after_stays _ _ stays]
    rfl
  · intro target rest line short
    refine ⟨?_, session.execute_cd_rest machine target rest⟩
    exact session.execute_directory machine ("cd" :: target :: rest)

/-- A child at the top, a move, a child below it, and a move back that has no path; a prompt that
nobody reads. -/
theorem callAll_working_directory_below :
    let session := Session.small [.block (Utf8.encode "cd sub x\nsay hi\ncd\n")]
    let unread : Session Nat := { session with output := { room := some 0 } }
    let moment := (session.callAll Machine.small [.execute ["say"], .step]).andThen
      fun _ next => next.cycles Machine.small 2
    let sub : Directory := ⟨["sub"]⟩
    let before := moment.events.take 18
    let child : Event := .started sub [Utf8.encode "say", Utf8.encode "hi"]
    let after := moment.events.drop 19
    dispatchesOf moment.events = [["say"], ["cd", "sub", "x"], ["say", "hi"], ["cd"]] ∧
      moment.session.directory = sub ∧
      moment.events = before ++ child :: after ∧
      dispatchesOf before = [["say"], ["cd", "sub", "x"], ["say", "hi"]] ∧
      sub = (session.place.afterAll Machine.small (dispatchesOf before)).directory ∧
      session.Lasts Machine.small 2 ∧
      session.run Machine.small =
        ((session.cycles Machine.small 2).andThen fun _ next => next.run Machine.small) ∧
      (unread.step Machine.small).value = .error (.stream (.named .brokenPipe)) ∧
      (unread.step Machine.small).session.directory = unread.directory ∧
      moveTarget? ["help", "sub"] = none ∧
      (session.execute Machine.small ["help", "sub"]).session.directory = session.directory := by
  intro session unread moment sub before child after
  obtain ⟨moments, loops, -, stays, -⟩ := callAll_working_directory Machine.small session
  obtain ⟨moved, children⟩ := moments [.execute ["say"], .step] 2
  have handed : dispatchesOf moment.events =
      [["say"], ["cd", "sub", "x"], ["say", "hi"], ["cd"]] := by decide +kernel
  have whole : moment.events = before ++ child :: after := by decide +kernel
  have lasts : session.Lasts Machine.small 2 := by
    unfold Lasts
    decide +kernel
  have refused : (unread.step Machine.small).value = .error (.stream (.named .brokenPipe)) := by
    decide +kernel
  have left := (callAll_working_directory Machine.small unread).2.2.1 _ refused
  refine ⟨handed, moved.trans ?_, whole, by decide +kernel, children before sub _ after whole,
    lasts, loops 2 lasts, refused, left, rfl, stays ["help", "sub"] rfl⟩
  rw [handed]
  decide +kernel

end Session
end PromptShell
