import PromptShell.Outlet
import PromptShell.Proofs.FailedCycle
import PromptShell.Proofs.Invariant
namespace PromptShell

variable {World : Type}

/-- No write of the shell to its output stream has failed at an event, and no flush of it. A write
has failed if and only if its text was not taken whole (`Sink.write_fault_eq_none_iff`). -/
def Event.isSmooth (prompt : Bytes) : Event → Bool
  | prompted taken => taken = prompt
  | printed taken => taken = Utf8.encode Builtin.helpText
  | flushed succeeded => succeeded
  | _ => true

/-- Each write of the shell has a flush right behind it. -/
inductive Flushed : List Event → Prop
  | nil : Flushed []
  | silent {event : Event} {rest : List Event} (silent : event.ownOutput = [])
      (later : Flushed rest) : Flushed (event :: rest)
  | written {event : Event} {rest : List Event} (later : Flushed rest) :
      Flushed (event :: .flushed true :: rest)

namespace Flushed

/-- Events without output need no flush. -/
theorem of_silent {events : List Event} (silent : outputOf events = []) : Flushed events := by
  induction events with
  | nil => exact .nil
  | cons event rest ih =>
      obtain ⟨first, later⟩ := List.append_eq_nil_iff.mp silent
      exact .silent first (ih later)

theorem append {early late : List Event} (first : Flushed early) (second : Flushed late) :
    Flushed (early ++ late) := by
  induction first with
  | nil => exact second
  | silent silent _ ih => exact .silent silent ih
  | written _ ih => exact .written ih

/-- What is in front of an event other than a flush is flushed. -/
theorem before {before after : List Event} {event : Event}
    (whole : Flushed (before ++ event :: after)) (other : event ≠ .flushed true) :
    Flushed before := by
  generalize same : before ++ event :: after = events at whole
  induction whole generalizing before with
  | nil => simp at same
  | silent silent _ ih =>
      rcases before with _ | ⟨first, before⟩
      · exact .nil
      · simp only [List.cons_append, List.cons.injEq] at same
        obtain ⟨rfl, rest⟩ := same
        exact .silent silent (ih rest)
  | written _ ih =>
      rcases before with _ | ⟨first, _ | ⟨second, before⟩⟩
      · exact .nil
      · simp only [List.cons_append, List.nil_append, List.cons.injEq] at same
        exact absurd same.2.1 other
      · simp only [List.cons_append, List.cons.injEq] at same
        obtain ⟨-, rfl, rest⟩ := same
        exact .written (ih rest)

/-- Whatever the policy, nothing is held back behind flushed events, and everything has arrived in
order. -/
theorem relay {events : List Event} (flushed : Flushed events) (policy : List Event → Nat) :
    relay policy events = ⟨events, [], passedOn events⟩ := by
  suffices general : ∀ outlet : Outlet, outlet.held = [] → outlet.afterAll policy events =
      ⟨outlet.past ++ events, [], outlet.arrived ++ passedOn events⟩ by
    simpa [PromptShell.relay] using general {} rfl
  induction flushed with
  | nil =>
      rintro ⟨past, held, arrived⟩ rfl
      simp [Outlet.afterAll]
  | silent silent _ ih =>
      intro outlet empty
      rw [Outlet.afterAll_cons, Outlet.after_silent empty silent, ih _ rfl]
      simp
  | written _ ih =>
      intro outlet empty
      rw [Outlet.afterAll_cons, Outlet.afterAll_cons, Outlet.after_write_flushed empty, ih _ rfl]
      simp [Event.arrivals, Event.ownOutput, Event.childOutput]

end Flushed

/-- If no write and no flush of a turn fails, each of its writes has a flush right behind it. -/
def Turn.Flushes {Value : Type} (turn : Turn World Value) (prompt : Bytes) : Prop :=
  (∀ event ∈ turn.events, event.isSmooth prompt = true) → Flushed turn.events

namespace Turn.Flushes

variable {Value Result : Type} {prompt : Bytes}

theorem of_silent {turn : Turn World Value} (silent : outputOf turn.events = []) :
    turn.Flushes prompt := fun _ => .of_silent silent

theorem andThen {turn : Turn World Value} (first : turn.Flushes prompt)
    (next : Value → Session World → Turn World Result)
    (second : (next turn.value turn.session).Flushes prompt) :
    (turn.andThen next).Flushes prompt := by
  intro smooth
  rw [Turn.andThen_events, List.forall_mem_append] at smooth
  exact (first smooth.1).append (second smooth.2)

end Turn.Flushes

namespace Session

variable {prompt : Bytes}

/-- A text that is written out is flushed unless the write failed. -/
theorem writeOut_flushes (session : Session World) (event : Bytes → Event) (text : String)
    (whole : ∀ taken, (event taken).isSmooth prompt = true → taken = Utf8.encode text) :
    (session.writeOut event text).Flushes prompt := by
  intro smooth
  simp only [writeOut, Turn.andThen_events, write, List.singleton_append, List.forall_mem_cons]
    at smooth ⊢
  have taken := (Sink.write_fault_eq_none_iff _ _).mpr (whole _ smooth.1)
  simp only [taken, flush, List.mem_singleton, forall_eq] at smooth ⊢
  have settled : ((session.output.write (Utf8.encode text)).sink.flush.2).isNone = true := smooth.2
  rw [settled]
  exact .written .nil

theorem printHelp_flushes (session : Session World) : session.printHelp.Flushes prompt := by
  have printed : (session.writeOut .printed Builtin.helpText).Flushes prompt :=
    session.writeOut_flushes .printed _ fun _ smooth => of_decide_eq_true smooth
  apply printed.andThen
  cases (session.writeOut .printed Builtin.helpText).value with
  | none => exact .of_silent rfl
  | some fault => exact .of_silent rfl

end Session

/-- Every turn leaves the prompt alone, and flushes its writes unless one of them fails. -/
theorem flushes_invariant :
    Turn.Invariant fun (session : Session World) turn =>
      turn.session.settings = session.settings ∧ turn.Flushes session.promptBytes where
  andThen next := by
    rintro ⟨same, first⟩ ⟨kept, second⟩
    rw [Session.promptBytes, same] at second
    exact ⟨kept.trans same, first.andThen next second⟩
  map _ flushes := flushes
  ask session := ⟨session.ask_onStreams.settings,
    session.writeOut_flushes .prompted _ fun _ smooth => of_decide_eq_true smooth⟩
  printHelp session := ⟨session.printHelp_onStreams.settings, session.printHelp_flushes⟩
  flush _ := ⟨rfl, .of_silent rfl⟩
  report _ _ := ⟨rfl, .of_silent rfl⟩
  apart _ _ _ _ _ apart := ⟨rfl, .of_silent (apart_silent apart).1⟩

namespace Session

/-- Buffering of the output stream cannot be seen. Let no write to the stream and no flush of it
fail in some calls of a shell, and let the stream hold back what it likes between flushes. Then the
bytes of the shell and the output of its children arrive at the descriptor as if every write had
been passed on at once: what an event puts there comes behind all that the events before it have put
there, and in front of all that comes later. In front of every event other than a flush, so when a
line is read, when a child is started, and when a child writes, nothing is held back; nor is
anything when one of the calls returns. -/
theorem callAll_held_output (machine : Machine World) (session : Session World)
    (calls : List Call) (policy : List Event → Nat)
    (smooth : ∀ event ∈ (session.callAll machine calls).events,
      event.isSmooth session.promptBytes = true) :
    let events := (session.callAll machine calls).events
    (relay policy events).arrived = (relay passAll events).arrived ∧
      (relay policy events).held = [] ∧
      (∀ before event after, events = before ++ event :: after →
        (relay policy events).arrived = passedOn before ++ event.arrivals ++ passedOn after ∧
          (event ≠ .flushed true →
            (relay policy before).held = [] ∧
              (relay policy before).arrived = passedOn before)) ∧
      ∀ earlier later, calls = earlier ++ later →
        let before := (session.callAll machine earlier).events
        before <+: events ∧ (relay policy before).held = [] ∧
          (relay policy before).arrived = passedOn before := by
  intro events
  have flushed : Flushed events := (flushes_invariant.callAll machine session calls).2 smooth
  refine ⟨?_, ?_, ?_, ?_⟩
  · rw [flushed.relay, relay_passAll]
  · rw [flushed.relay]
  · intro before event after whole
    refine ⟨?_, ?_⟩
    · rw [flushed.relay, whole, passedOn_append, passedOn_cons, List.append_assoc]
    · intro other
      rw [whole] at flushed
      rw [(flushed.before other).relay]
      exact ⟨rfl, rfl⟩
  · intro earlier later whole before
    have front : before <+: events := by
      simp only [events, before, whole, callAll_append, Turn.andThen_events, List.prefix_append]
    have settled : Flushed before :=
      (flushes_invariant.callAll machine session earlier).2 fun event member =>
        smooth event (front.mem member)
    rw [settled.relay]
    exact ⟨front, rfl, rfl⟩

/-- A stream that holds everything back until it is flushed, and a child behind each prompt. -/
theorem callAll_held_output_small :
    let session := Session.small [.block (Utf8.encode "say a\nsay b\n")]
    let calls : List Call := [.step, .step, .execute ["say", "c"]]
    let events := (session.callAll Machine.small calls).events
    (∀ event ∈ events, event.isSmooth session.promptBytes = true) ∧
      (relay (fun _ => 0) events).held = [] ∧
      (relay (fun _ => 0) events).arrived =
        (Utf8.encode "> ").map .own ++ .child (.flowed (Utf8.encode "a")) ::
          ((Utf8.encode "> ").map .own ++
            [.child (.flowed (Utf8.encode "b")), .child (.flowed (Utf8.encode "c"))]) := by
  intro session calls events
  have smooth : ∀ event ∈ events, event.isSmooth session.promptBytes = true := by decide +kernel
  obtain ⟨shown, empty, -⟩ := callAll_held_output Machine.small session calls (fun _ => 0) smooth
  exact ⟨smooth, empty, shown.trans (by decide +kernel)⟩

end Session
end PromptShell
