import PromptShell.Proofs.Outcome
namespace PromptShell

variable {World : Type}

/-- A sink takes every write, and its flushes succeed. -/
structure Sink.Unfailing (sink : Sink) : Prop where
  room : sink.room = none
  flushes : sink.flushes = none

/-- A sink was offered some bytes, in any number of writes with flushes between them. -/
structure Sink.Offered (before : Sink) (bytes taken : Bytes) (after : Sink) : Prop where
  taken : taken = (before.write bytes).taken
  room : after.room = (before.write bytes).sink.room
  fault : after.fault = before.fault
  steady : before.flushes = none → after.flushes = none

namespace Sink

/-- What a sink takes depends on its room alone. -/
theorem write_congr {first second : Sink} (room : first.room = second.room) (bytes : Bytes) :
    (first.write bytes).taken = (second.write bytes).taken ∧
      (first.write bytes).sink.room = (second.write bytes).sink.room := by
  cases left : second.room with
  | none => simp [write, room, left]
  | some left' => simp [write, room, left]

/-- The room behind two writes is that behind one write of both. -/
theorem write_append_room (sink : Sink) (first second : Bytes) :
    (sink.write (first ++ second)).sink.room =
      ((sink.write first).sink.write second).sink.room := by
  cases room : sink.room with
  | none => simp [write, room]
  | some left => simp [write, room, Nat.sub_sub]

namespace Offered

/-- A write is an offer. -/
theorem write (sink : Sink) (bytes : Bytes) :
    sink.Offered bytes (sink.write bytes).taken (sink.write bytes).sink := by
  cases room : sink.room with
  | none => exact ⟨rfl, rfl, by simp [Sink.write, room], by simp [Sink.write, room]⟩
  | some left => exact ⟨rfl, rfl, by simp [Sink.write, room], by simp [Sink.write, room]⟩

/-- Nothing was offered to a sink that did not change. -/
theorem nothing (sink : Sink) : sink.Offered [] [] sink := by
  cases room : sink.room with
  | none => exact ⟨by simp [Sink.write, room], by simp [Sink.write, room], rfl, id⟩
  | some left => exact ⟨by simp [Sink.write, room], by simp [Sink.write, room], rfl, id⟩

/-- A flush offers nothing. -/
theorem flush (sink : Sink) : sink.Offered [] [] sink.flush.1 := by
  have same : sink.flush.1.room = sink.room ∧ sink.flush.1.fault = sink.fault ∧
      (sink.flushes = none → sink.flush.1.flushes = none) := by
    simp only [Sink.flush]
    split <;> simp_all
  have idle := nothing sink
  exact ⟨idle.taken, same.1.trans idle.room, same.2.1, same.2.2⟩

/-- Offers add up. -/
theorem append {first second third : Sink} {early late here there : Bytes}
    (before : first.Offered early here second) (after : second.Offered late there third) :
    first.Offered (early ++ late) (here ++ there) third := by
  obtain ⟨same, sameRoom⟩ := write_congr before.room late
  refine ⟨?_, ?_, after.fault.trans before.fault, fun steady => after.steady (before.steady steady)⟩
  · rw [write_append, before.taken, after.taken, same]
  · rw [write_append_room, after.room, sameRoom]

/-- A sink without limits has taken every byte and is as it was. -/
theorem unlimited {before after : Sink} {bytes taken : Bytes} (free : before.Unfailing)
    (offered : before.Offered bytes taken after) : taken = bytes ∧ after = before := by
  have whole := before.write_unlimited bytes free.room
  have room := offered.room
  have flushes := (offered.steady free.flushes).trans free.flushes.symm
  have fault := offered.fault
  rw [whole] at room
  refine ⟨by rw [offered.taken, whole], ?_⟩
  cases after
  cases before
  simp_all

/-- A sink with a limit has taken the bytes up to the limit. -/
theorem limited {fault : Fault} {after : Sink} {bytes taken : Bytes} {limit : Nat}
    (offered : (⟨some limit, none, fault⟩ : Sink).Offered bytes taken after) :
    taken = bytes.take limit ∧ after = ⟨some (limit - bytes.length), none, fault⟩ := by
  have room := offered.room
  have flushes := offered.steady rfl
  have same := offered.fault
  simp only [Sink.write] at room same
  refine ⟨offered.taken, ?_⟩
  cases after
  simp_all

end Offered
end Sink

/-- The bytes of a report. -/
def reportBytes (message : String) : Bytes := Utf8.encode (reportLine message)

/-- A turn offers a text to the output stream, and the bytes of its reports to the error stream. -/
structure Turn.Writes {Value : Type} (turn : Turn World Value) (session : Session World)
    (text : Bytes) : Prop where
  output : session.output.Offered text (outputOf turn.events) turn.session.output
  errors : session.errors.Offered ((reportsOf turn.events).flatMap reportBytes)
    (errorsOf turn.events) turn.session.errors

/-- A turn writes what its parts write. -/
theorem Turn.Writes.andThen {Value Result : Type} {turn : Turn World Value}
    {session : Session World} {early late : Bytes} (first : turn.Writes session early)
    (next : Value → Session World → Turn World Result)
    (second : (next turn.value turn.session).Writes turn.session late) :
    (turn.andThen next).Writes session (early ++ late) where
  output := by
    rw [Turn.andThen_events, outputOf_append]
    exact first.output.append second.output
  errors := by
    rw [Turn.andThen_events, errorsOf_append, reportsOf_append, List.flatMap_append]
    exact first.errors.append second.errors

namespace Session

/-- Events that are on no stream change none. -/
theorem note_writes (session : Session World) {events : List Event}
    (output : outputOf events = []) (errors : errorsOf events = [])
    (reports : reportsOf events = []) : (session.note events).Writes session [] := by
  refine ⟨?_, ?_⟩
  · rw [note_events, output]
    exact .nothing _
  · rw [note_events, errors, reports]
    exact .nothing _

theorem stay_writes {Value : Type} (session : Session World) (value : Value) :
    (session.stay value).Writes session [] := ⟨.nothing _, .nothing _⟩

theorem flush_writes (session : Session World) : session.flush.Writes session [] :=
  ⟨.flush session.output, .nothing _⟩

theorem report_writes (session : Session World) (message : String) :
    (session.report message).Writes session [] := by
  have written := Sink.Offered.write session.errors (reportBytes message)
  have settled := written.append (.flush _)
  refine ⟨.nothing _, ?_⟩
  simpa [report, reportsOf, errorsOf, Event.reported?, Event.ownErrors, reportBytes] using settled

theorem fail_writes (session : Session World) (failure : Failure) :
    (session.fail failure).Writes session [] :=
  ⟨(session.report_writes failure.message).output, (session.report_writes failure.message).errors⟩

/-- A write out offers its text, whatever the flush behind it does. -/
theorem writeOut_writes (session : Session World) (event : Bytes → Event) (text : String)
    (shown : ∀ taken, (event taken).ownOutput = taken)
    (silent : ∀ taken, (event taken).ownErrors = [] ∧ (event taken).reported? = none) :
    (session.writeOut event text).Writes session (Utf8.encode text) := by
  have written : (session.write event text).Writes session (Utf8.encode text) := by
    refine ⟨?_, ?_⟩
    · simpa [write, outputOf, shown] using Sink.Offered.write session.output (Utf8.encode text)
    · simpa [write, errorsOf, reportsOf, silent] using Sink.Offered.nothing session.errors
  rw [← List.append_nil (Utf8.encode text)]
  apply written.andThen _
  split
  · exact stay_writes _ _
  · exact flush_writes _

/-- The prompt is shown to its end, or the fault of the write is the answer. -/
theorem ask_steady (session : Session World) (steady : session.output.flushes = none) :
    let writing := session.output.write (Utf8.encode session.settings.prompt)
    session.ask.value = writing.fault ∧
      session.ask.events = .prompted writing.taken ::
        if writing.fault = none then [.flushed true] else [] := by
  have still := (Sink.Offered.write session.output (Utf8.encode session.settings.prompt)).steady
    steady
  simp only [ask, writeOut, write, Turn.andThen_value, Turn.andThen_events]
  cases (session.output.write (Utf8.encode session.settings.prompt)).fault with
  | some fault => simp
  | none => simp [flush, Sink.flush, still]

/-- The prompt is shown on a stream that does not fail. -/
theorem ask_unfailing (session : Session World) (free : session.output.Unfailing) :
    session.ask =
      ⟨none, session, [.prompted (Utf8.encode session.settings.prompt), .flushed true]⟩ := by
  simp [ask, writeOut, write, Sink.write_unlimited _ _ free.room, flush, Sink.flush, free.flushes,
    Turn.andThen]

/-- A loop that ends flushes the output stream and is done. -/
theorem close_steady (session : Session World) (steady : session.output.flushes = none) :
    session.close = ⟨.ok (), session, [.flushed true]⟩ := by
  simp [close, flush, Sink.flush, steady, Turn.map]

theorem ask_writes (session : Session World) :
    session.ask.Writes session (Utf8.encode session.settings.prompt) :=
  writeOut_writes session .prompted _ (fun _ => rfl) fun _ => ⟨rfl, rfl⟩

theorem printHelp_writes (session : Session World) :
    session.printHelp.Writes session (Utf8.encode Builtin.helpText) := by
  rw [← List.append_nil (Utf8.encode Builtin.helpText)]
  apply (writeOut_writes session .printed _ (fun _ => rfl) fun _ => ⟨rfl, rfl⟩).andThen _
  split
  · exact stay_writes _ _
  · exact fail_writes _ _

theorem settleIf_writes (session : Session World) (settles : Bool) :
    (session.settleIf settles).Writes session [] := by
  cases settles with
  | false => exact stay_writes session ()
  | true =>
      simp only [settleIf, if_true, settleOutput]
      rw [← List.append_nil ([] : Bytes)]
      apply (flush_writes session).andThen _
      split
      · exact report_writes _ _
      · exact stay_writes _ _

end Session

/-- The text that a command line prints. -/
def printedBy (words : List String) : Bytes :=
  if words.head? = some "help" then Utf8.encode Builtin.helpText else []

/-- The description is printed for `help` and for no other line. -/
theorem effectOf_ending_described_iff (machine : Machine World) (place : Place World)
    (words : List String) :
    (effectOf machine place words).ending = .described ↔ words.head? = some "help" := by
  rcases effectOf_ending machine place words with
    ⟨called, ending⟩ | ⟨called, ending⟩ | ⟨other, _, ending | ⟨failure, ending⟩⟩
  · simp [called, ending]
  · simp [called, ending]
  · simp [other, ending]
  · simp [other, ending]

namespace Session

/-- The end of a line prints the description if that is how the line ends. -/
theorem finish_writes (session : Session World) (ending : Ending) :
    (session.finish ending).Writes session
      (if ending = .described then Utf8.encode Builtin.helpText else []) := by
  cases ending with
  | done status =>
      rw [if_neg (by simp)]
      exact stay_writes session status
  | failed failure =>
      rw [if_neg (by simp)]
      exact fail_writes session failure
  | described =>
      rw [if_pos rfl]
      exact printHelp_writes session

/-- A line that undergoes its effect writes at its end only. -/
theorem undergo_writes (session : Session World) (effect : Effect World)
    (deeds : ∀ event ∈ effect.events, event.isDeed = true) :
    (session.undergo effect).Writes session
      (if effect.ending = .described then Utf8.encode Builtin.helpText else []) := by
  have silent := deeds_silent deeds
  have noted := note_writes (session.moved effect.place) silent.1 silent.2.1 silent.2.2.2
  have both := noted.andThen (fun _ next => next.finish effect.ending)
    (finish_writes _ effect.ending)
  rw [List.nil_append] at both
  exact ⟨both.output, both.errors⟩

/-- A command line offers its description to the output stream and its reports to the other one. -/
theorem execute_writes (machine : Machine World) (session : Session World)
    (words : List String) :
    (session.execute machine words).Writes session (printedBy words) := by
  have handed : (session.note [.dispatched words]).Writes session [] :=
    note_writes session rfl rfl rfl
  have settled := session.settleIf_writes (effectOf machine session.place words).settles
  have undergone := (session.settleIf (effectOf machine session.place words).settles).session
    |>.undergo_writes _ (effectOf_isDeed machine session.place words)
  have behind := settled.andThen
    (fun _ next => next.undergo (effectOf machine session.place words)) undergone
  simp only [effectOf_ending_described_iff, List.nil_append] at behind
  rw [execute_eq, ← List.nil_append (printedBy words)]
  exact handed.andThen _ behind

end Session
end PromptShell
