import PromptShell.Handler
import PromptShell.Proofs.FailedCycle
namespace PromptShell

variable {World : Type}

namespace ArgumentReader

/-- The words of a command without options are read one by one. Until the mark or the first argument
a description may be asked for, and other words that start with a dash are complained about. -/
def scan (usage : String) (marked asked : Bool) : List String → Except EarlyExit (List String)
  | [] => if asked then .error ⟨usage, true⟩ else .ok []
  | word :: rest =>
      if !marked && (word = "--help" || word = "help") then scan usage marked true rest
      else if !marked && word.toList.head? = some '-' then
        if word = positionalMark then scan usage true asked rest
        else if asked then
          .error ⟨"Trailing arguments are not allowed after `help`.", false⟩
        else .error ⟨"Unrecognized argument: " ++ word ++ "\n", false⟩
      else (scan usage true asked rest).map (word :: ·)

/-- A reader for commands without options that take any number of arguments. -/
def greedy (usage : Builtin → String) : ArgumentReader :=
  fun builtin _ words => scan (usage builtin) false false words

/-- Behind the mark the words are the arguments. -/
theorem scan_marked (usage : String) (words : List String) :
    scan usage true false words = .ok words := by
  induction words with
  | nil => rfl
  | cons word rest ih =>
      simp only [scan, Bool.not_true, Bool.false_and, Bool.false_eq_true, if_false, ih]
      rfl

theorem positional_greedy (usage : Builtin → String) : (greedy usage).Positional := by
  intro builtin called words
  exact scan_marked (usage builtin) words

end ArgumentReader

namespace Sink

/-- A sink fails with its own fault. -/
theorem write_fault {sink : Sink} {bytes : Bytes} {fault : Fault}
    (refused : (sink.write bytes).fault = some fault) : fault = sink.fault := by
  cases room : sink.room with
  | none => simp [write, room] at refused
  | some left =>
      simp only [write, room] at refused
      split at refused
      · cases refused
      · exact (Option.some.inj refused).symm

theorem flush_fault {sink : Sink} {fault : Fault} (refused : sink.flush.2 = some fault) :
    fault = sink.fault := by
  simp only [flush] at refused
  split at refused
  · cases refused
  · exact (Option.some.inj refused).symm
  · cases refused

end Sink

namespace Session

/-- The shell moves to the directory that a path leads to. A path that leads nowhere is logged and
reported. -/
def moveTo (machine : Machine World) (session : Session World) (target : String) :
    Turn World Status :=
  match session.lookUp machine target with
  | (.ok directory, world) => { session with directory, world }.stay .proceed
  | (.error errno, world) =>
      ({ session with world }.log [.enterFailed target errno]).andThen fun _ next =>
        next.fail (.system errno)

/-- A command is what the shell runs for it, whatever reader of arguments it is called through. -/
theorem handle_eq_perform {reader : ArgumentReader} (positional : reader.Positional)
    (machine : Machine World) (session : Session World) (builtin : Builtin)
    (words : List String) :
    session.handle reader machine builtin words = session.perform machine builtin words := by
  rw [handle, positional]
  cases builtin with
  | cd =>
      simp only [obey, perform, changeDirectory, List.head?_tail]
      cases words[1]? with
      | none => rfl
      | some target =>
          simp only
          rcases session.lookUp machine target with ⟨outcome, world⟩
          cases outcome <;> rfl
  | help =>
      simp only [obey, perform, printHelp]
      rcases session.writeOut .printed Builtin.helpText with ⟨fault, next, events⟩
      cases fault <;> rfl
  | exit => rfl

/-- `cd` moves to its second word. -/
theorem perform_cd (machine : Machine World) (session : Session World) (words : List String) :
    session.perform machine .cd words =
      match words[1]? with
      | none => session.fail (.missingArgument "cd")
      | some target => session.moveTo machine target := rfl

/-- Of the words of a command only the second one counts, and only for `cd`. -/
theorem perform_congr (machine : Machine World) (session : Session World) (builtin : Builtin)
    {words other : List String} (same : builtin = .cd → words[1]? = other[1]?) :
    session.perform machine builtin words = session.perform machine builtin other := by
  cases builtin with
  | cd => rw [perform_cd, perform_cd, same rfl]
  | help => rfl
  | exit => rfl

/-- To move somewhere, or to fail to, is not to miss the path. -/
theorem moveTo_ne_fail (machine : Machine World) (session : Session World) (target : String)
    (failure : Failure) : session.moveTo machine target ≠ session.fail failure := by
  have first : (session.moveTo machine target).events.head? ≠
      (session.fail failure).events.head? := by
    simp only [moveTo]
    rcases session.lookUp machine target with ⟨outcome, world⟩
    cases outcome with
    | ok directory => simp [fail, report]
    | error errno => simp [fail, report, Turn.andThen]
  intro same
  exact first (congrArg (fun turn => turn.events.head?) same)

/-- A move prints nothing, and at most the error for the path is reported. -/
theorem moveTo_streams (machine : Machine World) (session : Session World) (target : String) :
    outputOf (session.moveTo machine target).events = [] ∧
      ∀ message ∈ reportsOf (session.moveTo machine target).events,
        ∃ errno : Errno, message = errno.describe := by
  simp only [moveTo]
  rcases session.lookUp machine target with ⟨outcome, world⟩
  cases outcome with
  | ok directory => exact ⟨rfl, by simp [reportsOf]⟩
  | error errno =>
      refine ⟨rfl, ?_⟩
      intro message member
      exact ⟨errno, List.mem_singleton.mp member⟩

/-- A text that is not written out meets the fault of the stream. -/
theorem writeOut_fault (session : Session World) (event : Bytes → Event) (text : String)
    (fault : Fault) (refused : (session.writeOut event text).value = some fault) :
    fault = session.output.fault := by
  have kept := (Sink.Offered.write session.output (Utf8.encode text)).fault
  simp only [writeOut, Turn.andThen_value] at refused
  cases written : (session.write event text).value with
  | some other =>
      rw [written] at refused
      exact Sink.write_fault (written.trans refused)
  | none =>
      rw [written] at refused
      exact (Sink.flush_fault refused).trans kept

/-- The description is printed as far as the stream takes it, and at most the fault of the stream is
reported. -/
theorem printHelp_streams (session : Session World) :
    outputOf session.printHelp.events <+: Utf8.encode Builtin.helpText ∧
      ∀ message ∈ reportsOf session.printHelp.events,
        message = session.output.fault.message := by
  refine ⟨?_, ?_⟩
  · rw [session.printHelp_writes.output.taken]
    exact session.output.write_taken_prefix _
  · intro message member
    have reports : reportsOf session.printHelp.events =
        (session.failure? .described).toList.map Failure.message :=
      session.reportsOf_finish .described
    have own := session.writeOut_fault .printed Builtin.helpText
    rw [reports, failure?] at member
    generalize (session.writeOut .printed Builtin.helpText).value = outcome at own member
    cases outcome with
    | none => cases member
    | some fault =>
        rw [← own fault rfl]
        exact List.mem_singleton.mp member

/-- The commands take some words by their place, through a reader of arguments. The reader finds
nothing but arguments; the second word is the path of `cd`, and no other word counts; a command
prints nothing but the description, and reports nothing but a missing path, an error or the fault of
the stream. -/
structure ByPosition (reader : ArgumentReader) (machine : Machine World) (session : Session World)
    (words : List String) : Prop where
  read : ∀ builtin : Builtin,
    reader builtin [words.headD builtin.name] (positionalMark :: words.tail) = .ok words.tail
  moves : ∀ target, words[1]? = some target →
    session.handle reader machine .cd words = session.moveTo machine target
  misses : session.handle reader machine .cd words = session.fail (.missingArgument "cd") ↔
    words[1]? = none
  leaves : session.handle reader machine .exit words = ⟨.terminate, session, []⟩
  describes : session.handle reader machine .help words = session.handle reader machine .help []
  alike : ∀ (builtin : Builtin) (other : List String),
    (builtin = .cd → other[1]? = words[1]?) →
    session.handle reader machine builtin other = session.handle reader machine builtin words
  printed : ∀ builtin : Builtin,
    outputOf (session.handle reader machine builtin words).events <+:
      if builtin = .help then Utf8.encode Builtin.helpText else []
  reports : ∀ (builtin : Builtin) (message : String),
    message ∈ reportsOf (session.handle reader machine builtin words).events →
    message = (Failure.missingArgument "cd").message ∨
      (∃ errno : Errno, message = errno.describe) ∨ message = session.output.fault.message
  line : ∀ (builtin : Builtin) (rest : List String), words = builtin.name :: rest →
    session.execute machine words =
      (session.note [.dispatched words]).andThen fun _ next =>
        (next.log [.running builtin.name]).andThen fun _ next =>
          next.handle reader machine builtin words

/-- What a command prints and reports. -/
theorem perform_streams (machine : Machine World) (session : Session World) (builtin : Builtin)
    (words : List String) :
    let turn := session.perform machine builtin words
    (outputOf turn.events <+:
        if builtin = .help then Utf8.encode Builtin.helpText else []) ∧
      ∀ message ∈ reportsOf turn.events,
        message = (Failure.missingArgument "cd").message ∨
          (∃ errno : Errno, message = errno.describe) ∨
            message = session.output.fault.message := by
  intro turn
  cases builtin with
  | exit => exact ⟨List.nil_prefix, by simp [turn, perform, reportsOf]⟩
  | help =>
      obtain ⟨printed, reports⟩ := session.printHelp_streams
      rw [if_pos rfl]
      exact ⟨printed, fun message member => .inr (.inr (reports message member))⟩
  | cd =>
      have same : turn = _ := session.perform_cd machine words
      rw [same]
      cases words[1]? with
      | none => exact ⟨List.nil_prefix, fun message member => .inl (List.mem_singleton.mp member)⟩
      | some target =>
          obtain ⟨printed, reports⟩ := session.moveTo_streams machine target
          refine ⟨?_, fun message member => .inr (.inl (reports message member))⟩
          rw [printed]
          exact List.nil_prefix

/-- The words of a command are never read as options: whatever reader of arguments the commands are
called through, if everything behind the mark is an argument to it, they take the words by their
place. -/
theorem handle_by_position (reader : ArgumentReader) (positional : reader.Positional)
    (machine : Machine World) (session : Session World) (words : List String) :
    session.ByPosition reader machine words := by
  have same (builtin : Builtin) (words : List String) :=
    handle_eq_perform positional machine session builtin words
  have streams (builtin : Builtin) := session.perform_streams machine builtin words
  constructor
  case read => exact fun builtin => positional builtin _ _
  case moves =>
    intro target second
    rw [same, perform_cd, second]
  case misses =>
    rw [same, perform_cd]
    cases words[1]? with
    | none => simp
    | some target => simpa using session.moveTo_ne_fail machine target _
  case leaves => exact same .exit words
  case describes => rw [same, same]; rfl
  case alike =>
    intro builtin other agree
    rw [same, same]
    exact session.perform_congr machine builtin agree
  case printed =>
    intro builtin
    rw [same]
    exact (streams builtin).1
  case reports =>
    intro builtin message member
    rw [same] at member
    exact (streams builtin).2 message member
  case line =>
    rintro builtin rest rfl
    simp only [execute, Builtin.find?_name, handle_eq_perform positional]

/-- A reader that without the mark would describe `cd`, or complain about its word, takes that word
for the path behind it, and the shell moves. -/
theorem handle_by_position_options :
    let reader := ArgumentReader.greedy fun builtin => "Usage: " ++ builtin.name ++ " [<args...>]\n"
    let machine := { Machine.small with enter := fun _ _ target => .ok ⟨[target]⟩ }
    let session := Session.small []
    reader.Positional ∧
      reader .cd ["cd"] ["--help", "-x"] =
        .error ⟨"Trailing arguments are not allowed after `help`.", false⟩ ∧
      reader .cd ["cd"] ["help"] = .error ⟨"Usage: cd [<args...>]\n", true⟩ ∧
      reader .cd ["cd"] ["-x", "a"] = .error ⟨"Unrecognized argument: -x\n", false⟩ ∧
      (∀ target ∈ ["--help", "help", "-x", "--", ""],
        (session.handle reader machine .cd ["cd", target, "--help"]).session.directory =
          ⟨[target]⟩) ∧
      session.handle reader machine .exit ["exit", "--help"] = ⟨.terminate, session, []⟩ := by
  intro reader machine session
  have positional : reader.Positional := ArgumentReader.positional_greedy _
  refine ⟨positional, rfl, rfl, rfl, ?_, ?_⟩
  · intro target member
    rw [(handle_by_position reader positional machine session ["cd", target, "--help"]).moves
      target rfl]
    revert target
    decide
  · exact (handle_by_position reader positional machine session ["exit", "--help"]).leaves

end Session
end PromptShell
