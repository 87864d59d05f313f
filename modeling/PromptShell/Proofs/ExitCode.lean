import PromptShell.Startup
import PromptShell.Proofs.SharedLoop
namespace PromptShell

variable {World : Type}

/-- A loop that has ended, and the conclusion of a program behind it. -/
def Turn.concluded (loop : Turn World (Except Failure Unit)) : Turn World Nat :=
  loop.andThen fun outcome next => next.conclude outcome

/-- A memory that refuses only what is beyond most machines. -/
def Memory.Generous (memory : Memory) : Prop :=
  ∀ index held more, more < allocationLimit →
    memory.lines index held more = true ∧ memory.words index held more = true

/-- A generous memory has room for the steps of a shell that are small enough. -/
theorem Memory.Generous.roomy {session : Session World} (generous : session.memory.Generous)
    (lines : session.settings.lineGrowth < allocationLimit)
    (words : session.settings.argumentGrowth < allocationLimit) : session.Roomy :=
  ⟨fun index held => (generous index held _ lines).1,
    fun index held => (generous index held _ words).2⟩

namespace Session

/-- The exit code tells of a failed allocation only. -/
theorem conclude_value (session : Session World) (outcome : Except Failure Unit) :
    (session.conclude outcome).value = if outcome = .error .allocation then 1 else 0 := by
  cases outcome with
  | ok done => simp [conclude]
  | error failure => simp [conclude, Failure.isFatal_iff]

/-- An error stream without limits takes a report whole. -/
theorem report_whole {session : Session World} (free : session.errors.Unfailing)
    (message : String) :
    (session.report message).events = [.reported message (reportBytes message)] := by
  simp only [report, reportBytes, Sink.write_unlimited _ _ free.room]

/-- What is certain of a program whose loop has ended, whatever its machine and its streams are. Its
code is one if an allocation has failed, which always having room excludes, and else zero. If its
loop is done it does nothing more; if its loop failed it reports the failure, which was not reported
before, and this is the last that it does. -/
structure Concludes (machine : Machine World) (own : Event → List Emission)
    (session : Session World) (behind : Bytes) (loop : Turn World (Except Failure Unit)) :
    Prop where
  code : loop.concluded.value = if loop.value = .error .allocation then 1 else 0
  allocates : session.Roomy →
    loop.concluded.value = 0 ∧
      ∀ earlier last, Leads machine own session behind earlier last →
        (last.step machine).value ≠ .error .allocation
  done : loop.value = .ok () → loop.concluded.events = loop.events
  failed (failure : Failure) (free : session.errors.Unfailing) : loop.value = .error failure →
    ∃ earlier final, LoopFails machine own session behind failure earlier final ∧
      loop.events = earlier ++ final ∧
      loop.concluded.events =
        earlier ++ final ++ [.reported failure.message (reportBytes failure.message)] ∧
      reportsOf loop.concluded.events = reportsOf earlier ++ [failure.message]

/-- Every program whose loop has ended concludes. -/
theorem concludes_of_ended {machine : Machine World} {own : Event → List Emission}
    {session : Session World} {behind : Bytes} {loop : Turn World (Except Failure Unit)}
    {cycles : Nat} (ended : session.runSharing? machine own cycles behind = some loop) :
    session.Concludes machine own behind loop where
  code := conclude_value _ _
  allocates := by
    intro roomy
    refine ⟨?_, fun earlier last leads => (leads.keeps.2 roomy).allocates machine⟩
    rw [Turn.concluded, Turn.andThen_value, conclude_value, if_neg]
    rcases runSharing_outcome ended with done | ⟨failure, earlier, final, fails, value, -⟩
    · simp [done]
    · rw [value]
      simpa using fails.allocates roomy
  done := by
    intro done
    rw [Turn.concluded, Turn.andThen_events, done]
    exact List.append_nil _
  failed := by
    intro failure free failed
    have kept := runSharing_errors ended free
    rcases runSharing_outcome ended with done | ⟨cause, earlier, final, fails, value, parts⟩
    · rw [done] at failed
      cases failed
    · obtain rfl : failure = cause := Except.error.inj (failed.symm.trans value)
      have whole : loop.concluded.events =
          earlier ++ final ++ [.reported failure.message (reportBytes failure.message)] := by
        rw [Turn.concluded, Turn.andThen_events, parts, value]
        exact congrArg (earlier ++ final ++ ·) (report_whole (kept ▸ free) failure.message)
      refine ⟨earlier, final, fails, parts, whole, ?_⟩
      rw [whole, reportsOf_append, reportsOf_append, fails.unreported, List.append_nil]
      rfl

end Session

/-- Nothing is shown, and nothing complained of. -/
def LogView.silent : LogView := ⟨[], fun _ => false⟩

namespace Startup

/-- The shell of the program in front of its loop. The machine was told of the complaints of the
logger. -/
def told (machine : Machine World) (logger : Option String → LogView) (startup : Startup World) :
    Session World :=
  let session := startup.session machine
  { session with world := machine.heard session.world (logger startup.logSetting).emissions }

/-- The loop of the program, unless it has not ended behind a number of cycles. -/
def loop? (machine : Machine World) (logger : Option String → LogView) (time : String)
    (cycles : Nat) (startup : Startup World) : Option (Turn World (Except Failure Unit)) :=
  (startup.told machine logger).runSharing? machine (Event.own time (logger startup.logSetting))
    cycles startup.input.shared

/-- The files that the streams lead to behind some events. -/
def files (logger : Option String → LogView) (time : String) (startup : Startup World)
    (events : List Event) : Spools :=
  let view := logger startup.logSetting
  ({} : Spools).afterAll (view.emissions ++ events.flatMap (Event.emissions time view))

/-- A report is the last change to the file of the errors. -/
theorem files_reported (logger : Option String → LogView) (time : String)
    (startup : Startup World) (events : List Event) (message : String) (taken : Bytes) :
    startup.files logger time (events ++ [.reported message taken]) =
      { startup.files logger time events with
        errors := (startup.files logger time events).errors.after (.flowed taken) } := by
  simp only [files, List.flatMap_append, ← List.append_assoc]
  exact List.foldl_append

/-- The shell of the program has the default settings, an error stream without limits, and no bytes
on its input that its children do not share. -/
structure Default (session : Session World) : Prop where
  settings : session.settings = {}
  errors : session.errors = {}
  input : session.input.bytes = []

theorem told_default (machine : Machine World) (logger : Option String → LogView)
    (startup : Startup World) : Default (startup.told machine logger) := by
  refine ⟨rfl, rfl, ?_⟩
  simp only [told, session]
  cases startup.input <;> rfl

/-- What a program has done and left when its loop has ended behind some cycles. Its code is one if
an allocation has failed, which a generous memory excludes, and else zero. A loop that is done
leaves the files of the streams as they are behind it; behind a loop that failed the report of the
failure is the last event and the last change to the file of the errors. -/
structure Exits (machine : Machine World) (logger : Option String → LogView) (time : String)
    (cycles : Nat) (startup : Startup World) (loop : Turn World (Except Failure Unit)) : Prop where
  run : startup.run? machine logger time cycles = some loop.concluded
  code : (startup.completion logger time loop.concluded).code =
    if loop.value = .error .allocation then 1 else 0
  generous : startup.memory.Generous →
    (startup.completion logger time loop.concluded).code = 0 ∧
      ∀ earlier last, Session.Leads machine (Event.own time (logger startup.logSetting))
        (startup.told machine logger) startup.input.shared earlier last →
        (last.step machine).value ≠ .error .allocation
  done : loop.value = .ok () →
    loop.concluded.events = loop.events ∧
      startup.completion logger time loop.concluded =
        ⟨0, (startup.files logger time loop.events).output.content,
          (startup.files logger time loop.events).errors.content⟩
  failed (failure : Failure) : loop.value = .error failure →
    loop.concluded.events =
        loop.events ++ [.reported failure.message (reportBytes failure.message)] ∧
      startup.completion logger time loop.concluded =
        ⟨if failure = .allocation then 1 else 0,
          (startup.files logger time loop.events).output.content,
          ((startup.files logger time loop.events).errors.after
            (.flowed (reportBytes failure.message))).content⟩

/-- Every program exits when its loop has ended. -/
theorem exits_of_ended {machine : Machine World} {logger : Option String → LogView}
    {time : String} {cycles : Nat} {startup : Startup World}
    {loop : Turn World (Except Failure Unit)}
    (ended : startup.loop? machine logger time cycles = some loop) :
    startup.Exits machine logger time cycles loop := by
  have concludes := Session.concludes_of_ended ended
  have whole : startup.completion logger time loop.concluded =
      ⟨loop.concluded.value, (startup.files logger time loop.concluded.events).output.content,
        (startup.files logger time loop.concluded.events).errors.content⟩ := rfl
  refine ⟨?_, concludes.code, ?_, ?_, ?_⟩
  · exact congrArg (Option.map Turn.concluded) ended
  · intro generous
    have memory : (startup.told machine logger).memory.Generous := generous
    have lines : ({} : Settings).lineGrowth < allocationLimit := by decide
    have words : ({} : Settings).argumentGrowth < allocationLimit := by decide
    exact concludes.allocates (memory.roomy lines words)
  · intro done
    refine ⟨concludes.done done, ?_⟩
    rw [whole, concludes.code, concludes.done done, done]
    rfl
  · intro failure failed
    obtain ⟨earlier, final, -, parts, events, -⟩ := concludes.failed failure ⟨rfl, rfl⟩ failed
    rw [← parts] at events
    refine ⟨events, ?_⟩
    rw [whole, concludes.code, events, files_reported, failed]
    simp only [Except.error.injEq]

/-- A startup on the small machine, with the given input and an output that takes three bytes. -/
def small (content : String) (memory : Memory) : Startup Nat where
  arguments := ["--log"]
  input := .file (Utf8.encode content)
  output := { room := some 3 }
  directory := ⟨[]⟩
  world := 0
  memory := memory

end Startup

/-- A machine on which every program puts one and the same line on the input of the children. -/
def Machine.putting (line : Bytes) : Machine Bytes where
  enter _ _ _ := .error .noEntry
  start _ _ _ := .ok ⟨1, .ok ⟨[], [], .exited 0⟩, line⟩
  reports _ course := [course.ending]
  failed world _ := world
  heard world _ := world
  offer _ bytes := bytes
  left world := world
  titled world _ := world

/-- A shell on that machine that has read its input. -/
def Session.putting (world : Bytes) : Session Bytes :=
  ⟨{}, [], {}, {}, ⟨[]⟩, world, .standard⟩

/-- A cycle that reads such a line goes on, and the line is again on the input of the children. -/
theorem Session.sharedNext_putting (world : Bytes) :
    let line := Utf8.encode "say\n"
    let own := Event.own "" LogView.silent
    let session := Session.putting world
    goesOn (session.sharedStep (Machine.putting line) own line).value = .ok true ∧
      session.sharedNext (Machine.putting line) own line = Session.putting line := by
  intro line own session
  -- What the machine finds offered is all that its world holds.
  have provided : session.provide (Machine.putting line) own line =
      (Session.putting []).provide (Machine.putting line) own line := rfl
  have stepped : session.sharedStep (Machine.putting line) own line =
      (Session.putting []).sharedStep (Machine.putting line) own line := by
    rw [sharedStep, sharedStep, provided]
  have next : session.sharedNext (Machine.putting line) own line =
      (Session.putting []).sharedNext (Machine.putting line) own line := by
    rw [sharedNext, sharedNext, stepped]
    rfl
  rw [stepped, next]
  obtain ⟨lines, words, memory⟩ := ((Turn.takesBuffers_invariant (Machine.putting line)).step
    ((Session.putting []).provide (Machine.putting line) own line)).memory
  refine ⟨by decide +kernel, (Session.mk.injEq ..).mpr ⟨?_, ?_, ?_, ?_, ?_, ?_, memory⟩⟩
  all_goals decide +kernel

/-- A machine on which every program writes a letter for each argument that the shell was started
with. -/
def Machine.counting : Machine Nat :=
  { Machine.small with
    start := fun world _ _ =>
      .ok ⟨1, .ok ⟨[.flow .output (List.replicate world 97)], [], .exited 0⟩, world⟩
    titled := fun _ arguments => arguments.length }

namespace Startup

end Startup
end PromptShell
