import PromptShell.SharedInput
import PromptShell.Proofs.ErrorStream
import PromptShell.Proofs.GrowthSteps
import PromptShell.Proofs.Termination
namespace PromptShell

variable {World : Type}

/-- A turn with some events in front of it. -/
def Turn.behind {Value : Type} (turn : Turn World Value) (earlier : List Event) :
    Turn World Value :=
  { turn with events := earlier ++ turn.events }

namespace Session

/-- The first cycle of a loop that shares its streams. -/
def sharedStep (machine : Machine World) (own : Event → List Emission) (session : Session World)
    (behind : Bytes) : Turn World (Except Failure (Option Status)) :=
  (session.provide machine own behind).step machine

/-- The shell behind that cycle, of which the machine was told. -/
def sharedNext (machine : Machine World) (own : Event → List Emission) (session : Session World)
    (behind : Bytes) : Session World :=
  let cycle := session.sharedStep machine own behind
  cycle.session.tell machine own (cycle.events.drop session.ask.events.length)

/-- The bytes that are on the input of the children for the cycles behind it. -/
def sharedLeft (machine : Machine World) (own : Event → List Emission) (session : Session World)
    (behind : Bytes) : Bytes :=
  machine.left (session.sharedNext machine own behind).world

/-- A loop leads over some cycles behind which it goes on, with their events, to the shell in front
of another cycle. -/
inductive Leads (machine : Machine World) (own : Event → List Emission) :
    Session World → Bytes → List Event → Session World → Prop
  | here (session : Session World) (behind : Bytes) :
      Leads machine own session behind [] (session.provide machine own behind)
  | cycle {session last : Session World} {behind : Bytes} {earlier : List Event}
      (goes : goesOn (session.sharedStep machine own behind).value = .ok true)
      (later : Leads machine own (session.sharedNext machine own behind)
        (session.sharedLeft machine own behind) earlier last) :
      Leads machine own session behind
        ((session.sharedStep machine own behind).events ++ earlier) last

section

variable {machine : Machine World} {own : Event → List Emission} {session last : Session World}
variable {behind : Bytes} {earlier : List Event} {loop : Turn World (Except Failure Unit)}
variable {cycles : Nat}

/-- A cycle behind which the loop does not go on has failed, has no status, or has one that ends
the loop. -/
theorem not_goesOn_cases {outcome : Except Failure (Option Status)}
    (ends : goesOn outcome ≠ .ok true) :
    (∃ failure, outcome = .error failure) ∨ outcome = .ok none ∨
      ∃ status, outcome = .ok (some status) ∧ status.keepsRunning = false := by
  cases outcome with
  | error failure => exact Or.inl ⟨failure, rfl⟩
  | ok found =>
      cases found with
      | none => exact Or.inr (Or.inl rfl)
      | some status =>
          refine Or.inr (Or.inr ⟨status, rfl, ?_⟩)
          rw [← Bool.not_eq_true]
          exact fun keeps => ends (congrArg Except.ok keeps)

/-- A loop that goes on behind its first cycle is that cycle and the loop from there on. -/
theorem runSharing_of_goesOn
    (goes : goesOn (session.sharedStep machine own behind).value = .ok true) :
    session.runSharing? machine own (cycles + 1) behind =
      ((session.sharedNext machine own behind).runSharing? machine own cycles
        (session.sharedLeft machine own behind)).map fun following =>
          following.behind (session.sharedStep machine own behind).events := by
  obtain ⟨status, went⟩ := exists_status_of_goesOn goes
  have keeps : status.keepsRunning = true := by
    rw [went] at goes
    exact Except.ok.inj goes
  simp only [sharedStep] at went
  rw [runSharing?]
  simp only [went, keeps, if_true, Option.map_eq_bind]
  rfl

/-- A loop that does not go on behind its first cycle ends there. -/
theorem runSharing_of_not_goesOn
    (ends : goesOn (session.sharedStep machine own behind).value ≠ .ok true) :
    session.runSharing? machine own (cycles + 1) behind =
      some ((session.sharedStep machine own behind).andThen fun outcome next =>
        next.endLoop outcome) := by
  rw [runSharing?]
  simp only [sharedStep] at ends ⊢
  rcases not_goesOn_cases ends with ⟨failure, value⟩ | value | ⟨status, value, keeps⟩
  · simp [Turn.andThen, Turn.map, value, endLoop]
  · simp [Turn.andThen, value, endLoop]
  · simp [Turn.andThen, value, keeps, endLoop]

/-- A cycle shows one prompt. -/
theorem length_promptsOf_sharedStep (machine : Machine World) (own : Event → List Emission)
    (session : Session World) (behind : Bytes) :
    (promptsOf (session.sharedStep machine own behind).events).length = 1 :=
  length_promptsOf_step machine (session.provide machine own behind)

/-- A loop ends behind a cycle to which it leads and behind which it does not go on. In front of
that there are as many cycles as prompts. -/
theorem runSharing_of_leads (leads : Leads machine own session behind earlier last)
    (ends : goesOn (last.step machine).value ≠ .ok true)
    (enough : (promptsOf earlier).length < cycles) :
    session.runSharing? machine own cycles behind =
      some (((last.step machine).andThen fun outcome next => next.endLoop outcome).behind
        earlier) := by
  obtain ⟨cycles, rfl⟩ := Nat.exists_eq_succ_of_ne_zero (Nat.ne_zero_of_lt enough)
  induction leads generalizing cycles with
  | here session behind => exact runSharing_of_not_goesOn ends
  | cycle goes later ih =>
      rw [promptsOf_append, List.length_append, length_promptsOf_sharedStep] at enough
      obtain ⟨fewer, rfl⟩ := Nat.exists_eq_succ_of_ne_zero (n := cycles) (by omega)
      rw [runSharing_of_goesOn goes, ih ends fewer (by omega)]
      simp only [Option.map_some, Turn.behind, List.append_assoc]

/-- A loop that ends leads to a last cycle, and ends behind it. -/
theorem exists_last (ended : session.runSharing? machine own cycles behind = some loop) :
    ∃ earlier last, Leads machine own session behind earlier last ∧
      goesOn (last.step machine).value ≠ .ok true ∧ (promptsOf earlier).length < cycles ∧
      loop = ((last.step machine).andThen fun outcome next =>
        next.endLoop outcome).behind earlier := by
  induction cycles generalizing session behind loop with
  | zero => cases ended
  | succ cycles ih =>
      by_cases goes : goesOn (session.sharedStep machine own behind).value = .ok true
      · rw [runSharing_of_goesOn goes, Option.map_eq_some_iff] at ended
        obtain ⟨following, found, rfl⟩ := ended
        obtain ⟨earlier, last, leads, ends, fewer, rfl⟩ := ih found
        refine ⟨_, last, .cycle goes leads, ends, ?_, ?_⟩
        · rw [promptsOf_append, List.length_append, length_promptsOf_sharedStep]
          omega
        · simp only [Turn.behind, List.append_assoc]
      · rw [runSharing_of_not_goesOn goes] at ended
        obtain rfl := Option.some.inj ended
        exact ⟨[], _, .here session behind, goes, Nat.succ_pos cycles, rfl⟩

/-- A loop that has ended behind a number of cycles has ended so behind any that is not smaller. -/
theorem runSharing_of_le {more : Nat} (le : cycles ≤ more)
    (ended : session.runSharing? machine own cycles behind = some loop) :
    session.runSharing? machine own more behind = some loop := by
  obtain ⟨earlier, last, leads, ends, fewer, rfl⟩ := exists_last ended
  exact runSharing_of_leads leads ends (Nat.lt_of_lt_of_le fewer le)

/-- There is only one turn that a loop can have ended with. -/
theorem runSharing_unique {others : Nat} {other : Turn World (Except Failure Unit)}
    (first : session.runSharing? machine own cycles behind = some loop)
    (second : session.runSharing? machine own others behind = some other) : loop = other := by
  have more := runSharing_of_le (Nat.le_max_left cycles others) first
  have still := runSharing_of_le (Nat.le_max_right cycles others) second
  exact Option.some.inj (more.symm.trans still)

/-- A loop never ends if it goes on behind every cycle in front of which something holds that holds
in front of the next cycle as well. -/
theorem runSharing_eq_none (always : Session World → Bytes → Prop)
    (goes : ∀ {session behind}, always session behind →
      goesOn (session.sharedStep machine own behind).value = .ok true)
    (keeps : ∀ {session behind}, always session behind →
      always (session.sharedNext machine own behind) (session.sharedLeft machine own behind))
    (holds : always session behind) : session.runSharing? machine own cycles behind = none := by
  induction cycles generalizing session behind with
  | zero => rfl
  | succ cycles ih => rw [runSharing_of_goesOn (goes holds), ih (keeps holds), Option.map_none]

end
end Session

/-- The bytes on the input of the children, and those that the children have in supply. -/
def Machine.store (machine : Machine World) (supply : World → Nat) (world : World) : Nat :=
  (machine.left world).length + supply world

/-- The children put no more bytes on their input than they take from it and have in supply. What
they put there lessens the supply, and nothing adds to it. -/
structure Machine.Exhausts (machine : Machine World) (supply : World → Nat) : Prop where
  start {world : World} {directory : Directory} {arguments : List Bytes} {child : Started World} :
    machine.start world directory arguments = .ok child →
    machine.store supply child.world ≤ machine.store supply world
  failed (world : World) (errno : Errno) :
    machine.store supply (machine.failed world errno) ≤ machine.store supply world
  heard (world : World) (emissions : List Emission) :
    machine.store supply (machine.heard world emissions) ≤ machine.store supply world
  offer (world : World) (bytes : Bytes) :
    machine.store supply (machine.offer world bytes) ≤ bytes.length + supply world

namespace Machine.Exhausts

variable {machine : Machine World} {supply : World → Nat} (exhausts : machine.Exhausts supply)
include exhausts

theorem behindChild (place : Place World) (words : List String) :
    machine.store supply (place.behindChild machine words).world ≤
      machine.store supply place.world := by
  cases start : place.start machine words with
  | error errno =>
      rw [Place.behindChild_of_refused start]
      exact exhausts.failed _ errno
  | ok child =>
      have started := exhausts.start start
      rw [Place.behindChild_of_start start]
      change machine.store supply (child.behind machine) ≤ _
      rw [Started.behind]
      cases (child.wait machine).fault with
      | none => exact started
      | some errno => exact Nat.le_trans (exhausts.failed _ errno) started

theorem lookUp (place : Place World) (target : String) :
    machine.store supply (place.lookUp machine target).2 ≤ machine.store supply place.world := by
  rw [Place.lookUp]
  split
  · exact Nat.le_refl _
  · cases machine.enter place.world place.directory target with
    | ok directory => exact Nat.le_refl _
    | error errno => exact exhausts.failed _ errno

/-- A line adds nothing to the store. -/
theorem effectOf (place : Place World) (words : List String) :
    machine.store supply (effectOf machine place words).place.world ≤
      machine.store supply place.world := by
  rcases line_cases words with rfl | ⟨builtin, rest, rfl⟩ | launched
  · exact Nat.le_refl _
  · cases builtin with
    | help => exact Nat.le_of_eq (by rw [effectOf_help])
    | exit => exact Nat.le_of_eq (by rw [effectOf_exit])
    | cd =>
        rw [effectOf_cd, effectOfMove]
        cases (Builtin.cd.name :: rest)[1]? with
        | none => exact Nat.le_refl _
        | some target =>
            have found := exhausts.lookUp place target
            dsimp only
            revert found
            rcases place.lookUp machine target with ⟨outcome, world⟩
            cases outcome <;> exact id
  · rw [effectOf_launch machine place launched, effectOfLaunch]
    cases startFailure? words with
    | some failure => exact Nat.le_refl _
    | none => exact exhausts.behindChild place words

/-- Whatever a shell does adds nothing to the store. -/
theorem invariant : Turn.LineInvariant machine fun (session : Session World) turn =>
    machine.store supply turn.session.world ≤ machine.store supply session.world where
  andThen _ first second := Nat.le_trans second first
  map _ kept := kept
  ask session := Nat.le_of_eq
    (congrArg (fun place => machine.store supply place.world) session.ask_onStreams.place)
  flush _ := Nat.le_refl _
  read _ _ _ _ _ _ := Nat.le_refl _
  execute session words := by
    have place := session.execute_place machine words
    rw [show (session.execute machine words).session.world =
      (PromptShell.effectOf machine session.place words).place.world from
        congrArg Place.world place]
    exact exhausts.effectOf session.place words

end Machine.Exhausts

namespace Session

section

variable {machine : Machine World} {own : Event → List Emission} {supply : World → Nat}

/-- A cycle behind which the loop goes on leaves fewer bytes on the input and in supply. -/
theorem shared_store_lt (exhausts : machine.Exhausts supply) {session : Session World}
    {behind : Bytes} (goes : goesOn (session.sharedStep machine own behind).value = .ok true) :
    let next := session.sharedNext machine own behind
    next.input.bytes.length + machine.store supply next.world <
      session.input.bytes.length + (behind.length + supply session.world) := by
  intro next
  obtain ⟨status, went⟩ := exists_status_of_goesOn goes
  have shorter := step_bytes_lt machine _ status went
  have whole := congrArg List.length (session.blocksFor_append behind)
  rw [provide_bytes] at shorter
  simp only [List.length_append] at shorter whole
  have told : machine.store supply next.world ≤
      machine.store supply (session.sharedStep machine own behind).session.world :=
    exhausts.heard _ _
  have stepped := exhausts.invariant.step (session.provide machine own behind)
  have provided : machine.store supply (session.provide machine own behind).world ≤
      (session.blocksFor behind).2.length + supply session.world :=
    Nat.le_trans (exhausts.heard _ _) (exhausts.offer _ _)
  have input : next.input = (session.sharedStep machine own behind).session.input := rfl
  rw [input]
  simp only [sharedStep] at told ⊢
  omega

/-- A loop whose children exhaust their supply ends, behind a cycle for each byte on the input and
in supply and one more. It shows at most so many prompts. -/
theorem exists_runSharing (exhausts : machine.Exhausts supply) (session : Session World)
    (behind : Bytes) (cycles : Nat)
    (enough : session.input.bytes.length + (behind.length + supply session.world) < cycles) :
    ∃ loop, session.runSharing? machine own cycles behind = some loop ∧
      (promptsOf loop.events).length ≤
        session.input.bytes.length + (behind.length + supply session.world) + 1 := by
  induction cycles generalizing session behind with
  | zero => exact absurd enough (Nat.not_lt_zero _)
  | succ cycles ih =>
      have once := session.length_promptsOf_sharedStep machine own behind
      by_cases goes : goesOn (session.sharedStep machine own behind).value = .ok true
      · have less := shared_store_lt exhausts goes
        simp only [Machine.store] at less
        obtain ⟨following, ended, prompts⟩ := ih (session.sharedNext machine own behind)
          (session.sharedLeft machine own behind) (Nat.lt_of_lt_of_le less (by omega))
        refine ⟨_, by rw [runSharing_of_goesOn goes, ended, Option.map_some], ?_⟩
        simp only [sharedLeft] at prompts
        simp only [Turn.behind, promptsOf_append, List.length_append, once]
        omega
      · refine ⟨_, runSharing_of_not_goesOn goes, ?_⟩
        rw [Turn.andThen_events, promptsOf_append, promptsOf_endLoop, List.append_nil, once]
        omega

end

/-- A cycle leaves an error stream without limits as it is. -/
theorem step_errors (machine : Machine World) (session : Session World)
    (free : session.errors.Unfailing) :
    (session.step machine).session.errors = session.errors := by
  obtain ⟨_, written⟩ := (writes_invariant.lines machine).step session
  exact (written.errors.unlimited free).2

/-- A cycle leaves room for all if there was room for all. -/
theorem Roomy.step {session : Session World} (roomy : session.Roomy) (machine : Machine World) :
    (session.step machine).session.Roomy :=
  ((Turn.takesBuffers_invariant machine).step session).roomy roomy

/-- An error stream without limits stays as it is on the way to a cycle, and there is still room if
there always was. -/
theorem Leads.keeps {machine : Machine World} {own : Event → List Emission}
    {session last : Session World} {behind : Bytes} {earlier : List Event}
    (leads : Leads machine own session behind earlier last) :
    (session.errors.Unfailing → last.errors = session.errors) ∧
      (session.Roomy → last.Roomy) := by
  induction leads with
  | here session behind => exact ⟨fun _ => rfl, fun roomy => roomy⟩
  | @cycle session last behind earlier goes later ih =>
      refine ⟨?_, ?_⟩
      · intro free
        have errors : (session.sharedNext machine own behind).errors = session.errors :=
          (session.provide machine own behind).step_errors machine free
        exact (ih.1 (errors ▸ free)).trans errors
      · intro roomy
        have provided : (session.provide machine own behind).Roomy := roomy
        exact ih.2 (provided.step machine)

/-- Where there is always room no cycle has a failed allocation. -/
theorem Roomy.allocates {session : Session World} (roomy : session.Roomy)
    (machine : Machine World) : (session.step machine).value ≠ .error .allocation := by
  intro failed
  obtain ⟨stage, shown, rest, fails⟩ := exists_fails machine failed
  cases fails with
  | buffer asked refused => exact refused (roomy.lines 0 0)
  | growth bytes rest asked reads => exact (roomy.lines 0).not_refuses reads.permits
  | words bytes halt rest asked reads arrived refused => exact refused (roomy.words 0 0)
  | wordGrowth bytes halt rest count asked reads arrived given refuses =>
      exact (roomy.words 0).not_refuses refuses

/-- A loop fails with the failure of its last cycle, or with that of the flush behind it. In front
of the events of what failed are all others. -/
inductive LoopFails (machine : Machine World) (own : Event → List Emission)
    (session : Session World) (behind : Bytes) : Failure → List Event → List Event → Prop
  | cycle {failure : Failure} {earlier : List Event} {last : Session World}
      (leads : Leads machine own session behind earlier last)
      (failed : (last.step machine).value = .error failure) :
      LoopFails machine own session behind failure earlier (last.step machine).events
  | close {fault : Fault} {earlier : List Event} {last : Session World}
      (leads : Leads machine own session behind earlier last)
      (finished : goesOn (last.step machine).value = .ok false)
      (refused : (last.step machine).session.output.flush.2 = some fault) :
      LoopFails machine own session behind (.stream fault)
        (earlier ++ (last.step machine).events) [.flushed false]

namespace LoopFails

variable {machine : Machine World} {own : Event → List Emission} {session : Session World}
variable {behind : Bytes} {failure : Failure} {earlier final : List Event}

/-- What fails has not reported its failure. -/
theorem unreported (fails : LoopFails machine own session behind failure earlier final) :
    reportsOf final = [] := by
  cases fails with
  | cycle leads failed =>
      obtain ⟨stage, shown, rest, fails⟩ := exists_fails machine failed
      exact (preparation_silent (fails.step machine).2.events).2.2.2.2
  | close => rfl

/-- Where there is always room no loop has a failed allocation. -/
theorem allocates (fails : LoopFails machine own session behind failure earlier final)
    (roomy : session.Roomy) : failure ≠ .allocation := by
  cases fails with
  | cycle leads failed =>
      rintro rfl
      exact (leads.keeps.2 roomy).allocates machine failed
  | close => simp

end LoopFails

section

variable {machine : Machine World} {own : Event → List Emission} {session : Session World}
variable {behind : Bytes} {loop : Turn World (Except Failure Unit)} {cycles : Nat}

/-- A loop that ended has closed behind its last cycle, and one that failed has failed there. -/
theorem runSharing_outcome
    (ended : session.runSharing? machine own cycles behind = some loop) :
    loop.value = .ok () ∨
      ∃ failure earlier final, LoopFails machine own session behind failure earlier final ∧
        loop.value = .error failure ∧ loop.events = earlier ++ final := by
  obtain ⟨earlier, last, leads, ends, -, rfl⟩ := exists_last ended
  simp only [Turn.behind, Turn.andThen_value, Turn.andThen_events]
  cases value : (last.step machine).value with
  | error failure =>
      exact Or.inr ⟨failure, earlier, _, .cycle leads value, rfl, by simp [endLoop]⟩
  | ok found =>
      have finished : goesOn (last.step machine).value = .ok false := by
        rw [value] at ends ⊢
        exact goesOn_eq_false ends
      cases refused : (last.step machine).session.output.flush.2 with
      | none => exact Or.inl (by simp [endLoop, close, flush, refused])
      | some fault =>
          refine Or.inr ⟨_, _, _, .close leads finished refused, ?_, ?_⟩
          · simp [endLoop, close, flush, refused]
          · simp [endLoop, close, flush, refused]

/-- A loop leaves an error stream without limits as it is. -/
theorem runSharing_errors
    (ended : session.runSharing? machine own cycles behind = some loop)
    (free : session.errors.Unfailing) : loop.session.errors = session.errors := by
  obtain ⟨earlier, last, leads, -, -, rfl⟩ := exists_last ended
  have kept := leads.keeps.1 free
  have stepped := last.step_errors machine (kept ▸ free)
  exact (endLoop_prepares _ _).errors.trans (stepped.trans kept)

end
end Session
end PromptShell
