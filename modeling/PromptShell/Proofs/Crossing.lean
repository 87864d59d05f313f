import PromptShell.Proofs.Encoding
import PromptShell.Proofs.Waiting
import PromptShell.Proofs.WorkingDirectory
namespace PromptShell

/-- The block in which arguments are given to a program: a zero byte ends each of them. -/
def argumentBlock (arguments : List Bytes) : Bytes := arguments.flatMap (· ++ [0])

/-- Arguments without a zero byte can be read back from their block. -/
theorem segments_argumentBlock {arguments : List Bytes}
    (sendable : ∀ argument ∈ arguments, 0 ∉ argument) :
    segments (· == 0) (argumentBlock arguments) = arguments := by
  induction arguments with
  | nil => rfl
  | cons argument rest ih =>
      obtain ⟨first, others⟩ := List.forall_mem_cons.mp sendable
      have free : ∀ byte ∈ argument, (byte == 0) = false := by
        intro byte member
        have different : byte ≠ 0 := fun equal => first (equal ▸ member)
        simpa using different
      have block : argumentBlock (argument :: rest) = argument ++ 0 :: argumentBlock rest := by
        simp [argumentBlock]
      rw [block, segments_cut _ _ _ 0 free (by decide), ih others]

/-- Only the zero character has the zero byte. -/
theorem zero_mem_encode_iff (text : String) : 0 ∈ Utf8.encode text ↔ '\x00' ∈ text.toList :=
  Utf8.ascii_mem_encode_iff (show '\x00'.toNat < 0x80 by decide) text

/-- The first word that has a zero byte is the first one that cannot be handed over. -/
theorem firstUnsendable?_eq_some {words before after : List String} {word : String}
    (whole : words = before ++ word :: after) (unsendable : 0 ∈ Utf8.encode word)
    (sendable : ∀ earlier ∈ before, 0 ∉ Utf8.encode earlier) :
    firstUnsendable? words = some word := by
  rw [firstUnsendable?, List.find?_eq_some_iff_append]
  refine ⟨?_, before, after, whole, ?_⟩
  · simpa [zero_mem_encode_iff] using unsendable
  · intro earlier member
    simpa [zero_mem_encode_iff] using sendable earlier member

/-- Words that have no zero byte can be handed over, if there are any. -/
theorem startFailure?_of_sendable {words : List String} (solid : words ≠ [])
    (sendable : ∀ word ∈ words, 0 ∉ Utf8.encode word) : startFailure? words = none := by
  rw [startFailure?_eq_none_iff words solid]
  intro word member
  rw [← zero_mem_encode_iff]
  exact sendable word member

/-- Arguments are the words of a line, byte for byte: as many, in the same order, with the bytes of
the words and none but these. The first one names the program, and a program reads all of them from
their block. -/
structure Crosses (words : List String) (arguments : List Bytes) : Prop where
  count : arguments.length = words.length
  entries : ∀ place : Nat, arguments[place]? = words[place]?.map Utf8.encode
  texts : arguments.map Utf8.decode = words
  program : arguments.head? = words.head?.map Utf8.encode
  block : segments (· == 0) (argumentBlock arguments) = arguments

/-- The bytes of sendable words cross. -/
theorem crosses_encode {words : List String} (sendable : ∀ word ∈ words, 0 ∉ Utf8.encode word) :
    Crosses words (words.map Utf8.encode) where
  count := List.length_map ..
  entries place := by rw [List.getElem?_map]
  texts := by simp [Function.comp_def]
  program := by rw [List.head?_map]
  block := segments_argumentBlock (List.forall_mem_map.mpr sendable)

section Children

variable {World : Type}

/-- What a child puts out between its start and the end of the wait for it is that of its course. -/
theorem Place.emissionsOf_childEvents {machine : Machine World} {place : Place World}
    {words : List String} {child : Started World}
    (forked : place.start machine words = .ok child) :
    emissionsOf (place.childEvents machine words) = child.course.emissions := by
  have notices : emissionsOf ((child.wait machine).notices.map fun notice =>
      Event.logged (.stillRunning child.process notice)) = [] := by
    simp [emissionsOf, Event.emitted?]
  have written : emissionsOf (child.course.emissions.map .emitted) = child.course.emissions := by
    simp only [emissionsOf, List.filterMap_map]
    exact List.filterMap_some
  rw [Place.childEvents_of_start forked]
  simp only [waitEvents, emissionsOf_append, notices, written, List.append_nil]
  exact List.append_nil _

namespace Session

/-- The run of a program is the account of its child up to the record of its end. -/
theorem exists_childEvents_eq (machine : Machine World) (session : Session World)
    {words : List String} (sendable : startFailure? words = none) {child : Started World}
    (forked : session.place.start machine words = .ok child) :
    ∃ closing, session.place.childEvents machine words =
        (session.runProgram machine words).events ++ closing ∧
      startsOf closing = [] ∧ emissionsOf closing = [] := by
  rw [runProgram, sendable, Place.childEvents_of_start forked]
  dsimp only
  rw [spawn_of_start forked, attend_eq]
  cases (child.wait machine).outcome with
  | ok ending => exact ⟨[.logged (.finished (words.headD "") ending)], by simp, rfl, rfl⟩
  | error errno => exact ⟨[], by simp, rfl, rfl⟩

/-- To run a program is to start one child and to wait for it: nothing is put out but by the
child. -/
theorem runProgram_child (machine : Machine World) (session : Session World)
    {words : List String} (sendable : startFailure? words = none) {child : Started World}
    (forked : session.place.start machine words = .ok child) :
    let turn := session.runProgram machine words
    startsOf turn.events = [(session.directory, words.map Utf8.encode)] ∧
      emissionsOf turn.events = child.course.emissions ∧
      outputOf turn.events = [] ∧ errorsOf turn.events = [] := by
  intro turn
  obtain ⟨closing, whole, starts, emissions⟩ :=
    session.exists_childEvents_eq machine sendable forked
  have deeds : ∀ event ∈ turn.events, event.isDeed = true := by
    intro event member
    apply session.place.childEvents_isDeed machine words
    rw [whole]
    exact List.mem_append_left closing member
  have silent := deeds_silent deeds
  have started := session.place.startsOf_childEvents machine words
  have emitted := Place.emissionsOf_childEvents forked
  rw [whole, startsOf_append, starts, List.append_nil, forked] at started
  rw [whole, emissionsOf_append, emissions, List.append_nil] at emitted
  exact ⟨started, emitted, silent.1, silent.2.1⟩

/-- The child of a run found no program. It has said why on the stream for errors, which its parent
took no part in, and has ended with code one; that is what the run tells of it. -/
structure Refuses (machine : Machine World) (session : Session World) (words : List String)
    (child : Started World) (errno : Errno) : Prop where
  ending : child.course.ending = .exited 1
  said : emissionsOf (session.runProgram machine words).events =
    [.flow .errors (Utf8.encode ("lsh: " ++ errno.describe ++ "\n"))]
  collected : childBytesOf .errors (session.runProgram machine words).events =
    Utf8.encode ("lsh: " ++ errno.describe ++ "\n")
  quiet : childBytesOf .output (session.runProgram machine words).events = []
  told : ∀ pauses rest : List WaitReport, (∀ report ∈ pauses, report.isPause = true) →
    (∀ report ∈ pauses, report.isNamed = true) →
    machine.reports child.world child.course = pauses ++ .exited 1 :: rest →
    session.Tells machine words (.exited 1)

/-- The words of a line are handed over to one child, and nothing else is. If the wait for it tells
of an end, the launch goes on without a report. -/
structure HandsOver (machine : Machine World) (session : Session World) (words : List String)
    (child : Started World) (arguments : List Bytes) : Prop where
  crosses : Crosses words arguments
  forked : machine.start session.world session.directory arguments = .ok child
  starts : startsOf (session.runProgram machine words).events = [(session.directory, arguments)]
  output : outputOf (session.runProgram machine words).events = []
  errors : errorsOf (session.runProgram machine words).events = []
  tells : ∀ ending, (session.runProgram machine words).value = .ok ending →
    session.Tells machine words ending
  refuses : ∀ errno, child.outcome = .error errno → session.Refuses machine words child errno

/-- A run that tells of an end has launched its program. -/
theorem tells_of_value (machine : Machine World) (session : Session World) {words : List String}
    (sendable : startFailure? words = none) {ending : ChildEnd}
    (answer : (session.runProgram machine words).value = .ok ending) :
    session.Tells machine words ending := by
  have launched := session.launch_sendable machine sendable
  have wait := session.runProgram_value machine sendable
  rw [answer] at wait
  cases outcome : session.place.outcome machine words with
  | error errno =>
      rw [outcome] at wait
      cases wait
  | ok told =>
      rw [outcome] at launched
      exact ⟨answer, launched.1, launched.2.2.1, launched.2.2.2⟩

/-- A child without a program refuses. -/
theorem refuses_of_outcome (machine : Machine World) (session : Session World)
    {words : List String} (sendable : startFailure? words = none) {child : Started World}
    (forked : session.place.start machine words = .ok child) {errno : Errno}
    (failed : child.outcome = .error errno) : session.Refuses machine words child errno := by
  have refused : child.course = .refused errno := by
    rw [Started.course, failed]
  have said : emissionsOf (session.runProgram machine words).events =
      [.flow .errors (Utf8.encode ("lsh: " ++ errno.describe ++ "\n"))] := by
    rw [(session.runProgram_child machine sendable forked).2.1, refused]
    rfl
  refine ⟨by rw [refused]; rfl, said, ?_, ?_, ?_⟩
  · rw [childBytesOf, said]
    exact (Spool.content_flowed {} _ rfl).1
  · rw [childBytesOf, said]
    rfl
  · intro pauses rest paused named reported
    apply session.tells_of_value machine sendable
    rw [session.runProgram_value machine sendable, Place.outcome_of_start forked, Started.wait,
      reported, awaitEnd_pauses _ paused named, awaitEnd_exited]
    rfl

end Session
end Children
end PromptShell
