import PromptShell.Session
namespace PromptShell

/-- The commands in the order in which they are listed and looked up. -/
inductive Builtin where
  | cd
  | help
  | exit
  deriving Repr, DecidableEq

namespace Builtin

/-- All commands in their order. -/
def all : List Builtin := [.cd, .help, .exit]

/-- The word that calls a command. -/
def name : Builtin → String
  | .cd => "cd"
  | .help => "help"
  | .exit => "exit"

/-- The place of a command in the list. -/
def place (builtin : Builtin) : Nat := all.idxOf builtin

/-- The command that exactly this word calls. -/
def find? (word : String) : Option Builtin := all.find? fun builtin => builtin.name = word

/-- The text that `help` prints. -/
def helpText : String :=
  "LSH\nType program names and arguments, and hit enter.\nThe following are built-in:\n" ++
    String.join (all.map fun builtin => " " ++ builtin.name ++ "\n") ++
    "Use the man command for information on other programs.\n"

/-- Each command is found by its name. -/
theorem find?_name (builtin : Builtin) : find? builtin.name = some builtin := by
  cases builtin <;> decide

theorem find?_eq_some {word : String} {builtin : Builtin} (found : find? word = some builtin) :
    word = builtin.name := by
  have := List.find?_some found
  simpa using (of_decide_eq_true this).symm

end Builtin

namespace Session

variable {World : Type}

/-- The directory that a path leads to, and the world behind the attempt. No path holds the zero
character, so one that does is not even tried. -/
def lookUp (machine : Machine World) (session : Session World) (target : String) :
    Except Errno Directory × World :=
  if target.toList.contains '\x00' then (.error .invalid, session.world)
  else match machine.enter session.world session.directory target with
    | .ok directory => (.ok directory, session.world)
    | .error errno => (.error errno, machine.failed session.world errno)

/-- The shell moves to the directory that the second word names. -/
def changeDirectory (machine : Machine World) (session : Session World) (words : List String) :
    Turn World Status :=
  match words[1]? with
  | none => session.fail (.missingArgument Builtin.cd.name)
  | some target =>
      match session.lookUp machine target with
      | (.ok directory, world) => { session with directory, world }.stay .proceed
      | (.error errno, world) =>
          ({ session with world }.log [.enterFailed target errno]).andThen fun _ next =>
            next.fail (.system errno)

/-- The shell prints its description. -/
def printHelp (session : Session World) : Turn World Status :=
  (session.writeOut .printed Builtin.helpText).andThen fun fault next =>
    match fault with
    | none => next.stay .proceed
    | some fault => next.fail (.stream fault)

/-- The shell runs one of its own commands; the words start with the one that called it. -/
def perform (machine : Machine World) (session : Session World) (builtin : Builtin)
    (words : List String) : Turn World Status :=
  match builtin with
  | .cd => session.changeDirectory machine words
  | .help => session.printHelp
  | .exit => session.stay .terminate

/-- The shell's own commands leave the input alone. -/
@[simp] theorem perform_input (machine : Machine World) (session : Session World)
    (builtin : Builtin) (words : List String) :
    (session.perform machine builtin words).session.input = session.input := by
  cases builtin with
  | cd =>
      simp only [perform, changeDirectory]
      split
      · simp
      · split <;> simp
  | help =>
      simp only [perform, printHelp, Turn.andThen_session]
      split <;> simp
  | exit => rfl

end Session
end PromptShell
