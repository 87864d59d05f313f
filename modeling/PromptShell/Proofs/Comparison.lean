import PromptShell.Calls
import PromptShell.Proofs.Cycle
namespace PromptShell

variable {World : Type}

/-- Which states of two shells are alike, and what is looked at in an event. -/
structure Comparison (World : Type) where
  alike : Session World → Session World → Prop
  seen : Event → Option Event

/-- Two turns have one value, end in alike states, and look the same. -/
structure Turn.Matches {Value : Type} (comparison : Comparison World)
    (turn other : Turn World Value) : Prop where
  value : other.value = turn.value
  session : comparison.alike turn.session other.session
  events : other.events.filterMap comparison.seen = turn.events.filterMap comparison.seen

namespace Turn.Matches

variable {Value Result : Type} {comparison : Comparison World}

/-- Turns that match are followed by turns that match. -/
theorem andThen {turn other : Turn World Value} (first : turn.Matches comparison other)
    (next : Value → Session World → Turn World Result)
    (second : (next turn.value turn.session).Matches comparison
      (next turn.value other.session)) :
    (turn.andThen next).Matches comparison (other.andThen next) := by
  rw [← first.value] at second
  refine ⟨?_, ?_, ?_⟩
  · simpa only [Turn.andThen_value, first.value] using second.value
  · simpa only [Turn.andThen_session, first.value] using second.session
  · simp only [Turn.andThen_events, List.filterMap_append, first.events]
    simpa only [first.value] using congrArg (_ ++ ·) second.events

theorem map {turn other : Turn World Value} (same : turn.Matches comparison other)
    (change : Value → Result) : (turn.map change).Matches comparison (other.map change) :=
  ⟨congrArg change same.value, same.session, same.events⟩

end Turn.Matches

section Views

variable {Item : Type} {seen : Event → Option Event} {events others : List Event}

/-- What is told by the part of an event that is looked at is the same for events that look the
same. -/
theorem filterMap_of_seen {view : Event → Option Item}
    (told : ∀ event, (seen event).bind view = view event)
    (same : others.filterMap seen = events.filterMap seen) :
    others.filterMap view = events.filterMap view := by
  have through (list : List Event) :
      list.filterMap view = (list.filterMap seen).filterMap view := by
    simp only [List.filterMap_filterMap, told]
  rw [through others, through events, same]

theorem flatMap_of_seen {view : Event → List Item}
    (told : ∀ event, (seen event).elim [] view = view event)
    (same : others.filterMap seen = events.filterMap seen) :
    others.flatMap view = events.flatMap view := by
  have through (list : List Event) : list.flatMap view = (list.filterMap seen).flatMap view := by
    induction list with
    | nil => rfl
    | cons event rest ih =>
        rw [List.flatMap_cons, ih, ← told event, List.filterMap_cons]
        cases seen event <;> simp
  rw [through others, through events, same]

end Views

/-- Two shells agree on all that decides what they do: the prompt, the place, the output stream,
what arrives on the input, and the words of a text, if they find room. -/
structure Session.Agrees (one other : Session World) : Prop where
  prompt : other.settings.prompt = one.settings.prompt
  place : other.place = one.place
  output : other.output = one.output
  arrival : other.arrival = one.arrival
  words (text : String) : (other.cutting text).answer.map Arguments.texts =
    (one.cutting text).answer.map Arguments.texts

/-- Alike shells agree, and stay alike where they move, write, report, read and cut. -/
structure Comparison.Sound (comparison : Comparison World) : Prop where
  agrees {one other : Session World} : comparison.alike one other → one.Agrees other
  moved {one other : Session World} (place : Place World) : comparison.alike one other →
    comparison.alike (one.moved place) (other.moved place)
  written {one other : Session World} (output : Sink) : comparison.alike one other →
    comparison.alike { one with output } { other with output }
  report {one other : Session World} (message : String) : comparison.alike one other →
    (one.report message).Matches comparison (other.report message)
  arrived {one other : Session World} : comparison.alike one other →
    (one.behindArrival.note one.arrivalEvents).Matches comparison
      (other.behindArrival.note other.arrivalEvents)
  cut {one other : Session World} (text : String) : comparison.alike one other →
    (one.behindWords.note (one.cuttingEvents text)).Matches comparison
      (other.behindWords.note (other.cuttingEvents text))

namespace Comparison.Sound

variable {comparison : Comparison World} {one other : Session World}

theorem stay {Value : Type} (alike : comparison.alike one other) (value : Value) :
    (one.stay value).Matches comparison (other.stay value) := ⟨rfl, alike, rfl⟩

theorem note (alike : comparison.alike one other) (events : List Event) :
    (one.note events).Matches comparison (other.note events) := ⟨rfl, alike, rfl⟩

variable (sound : comparison.Sound) (alike : comparison.alike one other)
include sound alike

theorem write (event : Bytes → Event) (text : String) :
    (one.write event text).Matches comparison (other.write event text) := by
  simp only [Session.write, (sound.agrees alike).output]
  exact ⟨rfl, sound.written _ alike, rfl⟩

theorem flush : one.flush.Matches comparison other.flush := by
  simp only [Session.flush, (sound.agrees alike).output]
  exact ⟨rfl, sound.written _ alike, rfl⟩

theorem writeOut (event : Bytes → Event) (text : String) :
    (one.writeOut event text).Matches comparison (other.writeOut event text) := by
  have written := sound.write alike event text
  apply written.andThen
  cases (one.write event text).value with
  | some fault => exact stay written.session _
  | none => exact sound.flush written.session

theorem fail (failure : Failure) :
    (one.fail failure).Matches comparison (other.fail failure) :=
  (sound.report failure.message alike).map _

/-- Alike shells end a line in the same way. -/
theorem finish (ending : Ending) :
    (one.finish ending).Matches comparison (other.finish ending) := by
  cases ending with
  | done status => exact stay alike status
  | failed failure => exact sound.fail alike failure
  | described =>
      have printed := sound.writeOut alike .printed Builtin.helpText
      simp only [Session.finish, Session.printHelp]
      apply printed.andThen
      cases (one.writeOut .printed Builtin.helpText).value with
      | none => exact stay printed.session _
      | some fault => exact sound.fail printed.session _

theorem settleIf (settles : Bool) :
    (one.settleIf settles).Matches comparison (other.settleIf settles) := by
  cases settles with
  | false => exact stay alike ()
  | true =>
      have flushed := sound.flush alike
      simp only [Session.settleIf, if_true, Session.settleOutput]
      apply flushed.andThen
      cases one.flush.value with
      | some fault => exact sound.report _ flushed.session
      | none => exact stay flushed.session ()

/-- Alike shells run a line in the same way: it has one effect in their place. -/
theorem execute (machine : Machine World) (words : List String) :
    (one.execute machine words).Matches comparison (other.execute machine words) := by
  rw [Session.execute_eq, Session.execute_eq, (sound.agrees alike).place]
  apply (note alike _).andThen
  have settled := sound.settleIf alike (effectOf machine one.place words).settles
  apply settled.andThen
  have moved := sound.moved (effectOf machine one.place words).place settled.session
  exact (note moved _).andThen _ (sound.finish moved _)

theorem executeText (machine : Machine World) (text : String) :
    (one.executeText machine text).Matches comparison (other.executeText machine text) := by
  have cut := sound.cut text alike
  have words := (sound.agrees alike).words text
  rw [Session.executeText_eq, Session.executeText_eq]
  cases answer : (one.cutting text).answer with
  | error failure =>
      rw [answer] at words
      cases otherAnswer : (other.cutting text).answer with
      | error otherFailure =>
          rw [otherAnswer] at words
          obtain rfl := Except.error.inj words
          exact ⟨rfl, cut.session, cut.events⟩
      | ok arguments =>
          rw [otherAnswer] at words
          cases words
  | ok arguments =>
      rw [answer] at words
      cases otherAnswer : (other.cutting text).answer with
      | error otherFailure =>
          rw [otherAnswer] at words
          cases words
      | ok otherArguments =>
          exact cut.andThen _ ((sound.execute cut.session machine _).map _)

/-- Behind their prompts alike shells are served the same line. -/
theorem serve (machine : Machine World) :
    (one.serve machine).Matches comparison (other.serve machine) := by
  have arrived := sound.arrived alike
  rw [Session.serve_eq, Session.serve_eq, (sound.agrees alike).arrival]
  cases one.arrival with
  | error failure => exact ⟨rfl, arrived.session, arrived.events⟩
  | ok found =>
      cases found with
      | none =>
          have logged := arrived.andThen (fun _ next => next.log [.endOfInput])
            (note arrived.session _)
          exact logged.map fun _ => (.ok none : Except Failure (Option Status))
      | some text =>
          exact arrived.andThen _ ((sound.execute arrived.session machine _).map _)

/-- Alike shells go through a cycle in the same way. -/
theorem step (machine : Machine World) :
    (one.step machine).Matches comparison (other.step machine) := by
  have asked : one.ask.Matches comparison other.ask := by
    simp only [Session.ask, (sound.agrees alike).prompt]
    exact sound.writeOut alike .prompted _
  rw [Session.step_eq, Session.step_eq]
  apply asked.andThen
  cases one.ask.value with
  | some fault => exact stay asked.session _
  | none => exact sound.serve asked.session machine

/-- Alike shells go through the loop in the same way. -/
theorem run (machine : Machine World) :
    (one.run machine).Matches comparison (other.run machine) := by
  induction one using Session.run_induct machine generalizing other with
  | cycle one ih =>
      have cycle := sound.step alike machine
      rw [Session.run_follow, Session.run_follow]
      apply cycle.andThen
      simp only [Session.follow]
      cases goes : Session.goesOn (one.step machine).value with
      | error failure => exact stay cycle.session _
      | ok going =>
          cases going with
          | true => exact ih goes cycle.session
          | false => exact (sound.flush cycle.session).map _

theorem call (machine : Machine World) (call : Call) :
    (one.call machine call).Matches comparison (other.call machine call) := by
  cases call with
  | step => exact (sound.step alike machine).map _
  | run => exact (sound.run alike machine).map _
  | execute words => exact (sound.execute alike machine words).map _
  | executeText text => exact (sound.executeText alike machine text).map _

/-- Alike shells answer every sequence of calls in the same way. -/
theorem callAll (machine : Machine World) (calls : List Call) :
    (one.callAll machine calls).Matches comparison (other.callAll machine calls) := by
  induction calls generalizing one other with
  | nil => exact stay alike []
  | cons call rest ih =>
      have called := sound.call alike machine call
      exact called.andThen _ ((ih called.session).map _)

end Comparison.Sound
end PromptShell
