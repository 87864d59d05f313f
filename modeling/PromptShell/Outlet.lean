import PromptShell.Event
namespace PromptShell

/-- What arrives at the descriptor: a byte of the shell, or a change by a child. -/
inductive Arrival where
  | own (byte : UInt8)
  | child (change : SpoolChange)
  deriving Repr, DecidableEq

namespace Event

/-- The changes by children that go to the descriptor of the output stream. -/
def childOutput : Event → List SpoolChange
  | emitted ⟨.output, change⟩ => [change]
  | _ => []

/-- What an event puts on the descriptor if nothing is held back. -/
def arrivals (event : Event) : List Arrival :=
  event.ownOutput.map .own ++ event.childOutput.map .child

/-- No event writes for the shell and for a child. -/
theorem childOutput_of_ownOutput {event : Event} (writes : event.ownOutput ≠ []) :
    event.childOutput = [] := by
  cases event with
  | emitted emission => exact absurd rfl writes
  | _ => rfl

end Event

/-- What has arrived at the descriptor behind some events if nothing is held back. -/
def passedOn (events : List Event) : List Arrival := events.flatMap Event.arrivals

@[simp] theorem passedOn_nil : passedOn [] = [] := rfl

@[simp] theorem passedOn_cons (event : Event) (rest : List Event) :
    passedOn (event :: rest) = event.arrivals ++ passedOn rest := by
  simp [passedOn]

@[simp] theorem passedOn_append (first second : List Event) :
    passedOn (first ++ second) = passedOn first ++ passedOn second := by
  simp [passedOn]

/-- A buffered stream: what has happened to it, the bytes it holds back, and what has arrived at the
descriptor behind it. -/
structure Outlet where
  past : List Event := []
  held : Bytes := []
  arrived : List Arrival := []
  deriving Repr, DecidableEq

namespace Outlet

/-- The stream behind an event. A flush that succeeds leaves nothing behind. At any other event the
policy says how many of the bytes that were written and have not arrived go on. A change by a child
arrives at once. -/
def after (policy : List Event → Nat) (outlet : Outlet) (event : Event) : Outlet :=
  let past := outlet.past ++ [event]
  let waiting := outlet.held ++ event.ownOutput
  let going := if event = .flushed true then waiting.length else policy past
  ⟨past, waiting.drop going,
    outlet.arrived ++ (waiting.take going).map .own ++ event.childOutput.map .child⟩

/-- The stream behind some events. -/
def afterAll (policy : List Event → Nat) (outlet : Outlet) (events : List Event) : Outlet :=
  events.foldl (after policy) outlet

variable {policy : List Event → Nat} {outlet : Outlet}

@[simp] theorem afterAll_cons (event : Event) (rest : List Event) :
    outlet.afterAll policy (event :: rest) = (outlet.after policy event).afterAll policy rest := rfl

/-- At every event some part of what waits goes on, and the rest is held back. -/
theorem exists_after (policy : List Event → Nat) (outlet : Outlet) (event : Event) :
    ∃ going, outlet.after policy event =
      ⟨outlet.past ++ [event], (outlet.held ++ event.ownOutput).drop going,
        outlet.arrived ++ ((outlet.held ++ event.ownOutput).take going).map .own ++
          event.childOutput.map .child⟩ := ⟨_, rfl⟩

/-- Behind a flush everything that was held back has arrived. -/
theorem after_flushed :
    outlet.after policy (.flushed true) =
      ⟨outlet.past ++ [.flushed true], [], outlet.arrived ++ outlet.held.map .own⟩ := by
  simp only [after, if_true, List.drop_length, List.take_length]
  simp [Event.ownOutput, Event.childOutput]

/-- An event that writes nothing finds nothing held back, and leaves it so. -/
theorem after_silent {event : Event} (empty : outlet.held = []) (silent : event.ownOutput = []) :
    outlet.after policy event =
      ⟨outlet.past ++ [event], [], outlet.arrived ++ event.arrivals⟩ := by
  simp [after, empty, silent, Event.arrivals]

/-- Of a write with a flush behind it everything has arrived, whatever part of it arrived before the
flush. -/
theorem after_write_flushed {event : Event} (empty : outlet.held = []) :
    (outlet.after policy event).after policy (.flushed true) =
      ⟨outlet.past ++ [event] ++ [.flushed true], [], outlet.arrived ++ event.arrivals⟩ := by
  by_cases silent : event.ownOutput = []
  · rw [after_silent empty silent, after_flushed]
    simp
  · obtain ⟨going, some⟩ := exists_after policy outlet event
    have alone := Event.childOutput_of_ownOutput silent
    have whole := congrArg (List.map Arrival.own) (List.take_append_drop going event.ownOutput)
    rw [some, after_flushed, Event.arrivals, ← whole]
    simp only [empty, alone, List.nil_append, List.map_nil, List.append_nil, List.append_assoc,
      List.map_append]

end Outlet

/-- A new stream behind some events. -/
def relay (policy : List Event → Nat) (events : List Event) : Outlet :=
  Outlet.afterAll policy {} events

/-- The policy of a stream that passes every write on at once. -/
def passAll (past : List Event) : Nat := (outputOf past).length

/-- A stream that passes every write on at once never holds anything back. -/
theorem relay_passAll (events : List Event) :
    relay passAll events = ⟨events, [], passedOn events⟩ := by
  suffices general : ∀ outlet : Outlet, outlet.held = [] → outlet.afterAll passAll events =
      ⟨outlet.past ++ events, [], outlet.arrived ++ passedOn events⟩ by
    simpa [relay] using general {} rfl
  induction events with
  | nil =>
      rintro ⟨past, held, arrived⟩ rfl
      simp [Outlet.afterAll]
  | cons event rest ih =>
      intro outlet empty
      have whole : event.ownOutput.length ≤ passAll (outlet.past ++ [event]) := by
        simp [passAll, outputOf]
      have passed : outlet.after passAll event =
          ⟨outlet.past ++ [event], [], outlet.arrived ++ event.arrivals⟩ := by
        simp only [Outlet.after, empty, List.nil_append, Event.arrivals]
        split
        · simp
        · simp [List.take_of_length_le whole, List.drop_of_length_le whole]
      rw [Outlet.afterAll_cons, passed, ih _ rfl]
      simp

end PromptShell
