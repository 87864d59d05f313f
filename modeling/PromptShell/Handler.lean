import PromptShell.CommandList
namespace PromptShell

/-- A reader has a text in the place of arguments: the description of the command if that was asked
for, and else what is wrong with the words. -/
structure EarlyExit where
  text : String
  asked : Bool
  deriving Repr, DecidableEq

/-- A reader of the arguments of each command, which is not a part of the shell and looks for
options. It knows the words by which the command was called and is given the words to read. -/
abbrev ArgumentReader := Builtin → List String → List String → Except EarlyExit (List String)

/-- The word behind which there are no options. -/
def positionalMark : String := "--"

/-- Behind the mark every word is an argument, whatever it is, and the arguments keep their
order. -/
def ArgumentReader.Positional (reader : ArgumentReader) : Prop :=
  ∀ builtin called words, reader builtin called (positionalMark :: words) = .ok words

namespace Session

variable {World : Type}

/-- A command does its work with the arguments that were read. -/
def obey (machine : Machine World) (session : Session World) (builtin : Builtin)
    (arguments : List String) : Turn World (Except Failure Status) :=
  match builtin with
  | .cd =>
      match arguments.head? with
      | none => session.stay (.error (.missingArgument Builtin.cd.name))
      | some target =>
          match session.lookUp machine target with
          | (.ok directory, world) => { session with directory, world }.stay (.ok .proceed)
          | (.error errno, world) =>
              ({ session with world }.log [.enterFailed target errno]).map fun _ =>
                .error (.system errno)
  | .help =>
      (session.writeOut .printed Builtin.helpText).map fun fault =>
        match fault with
        | none => .ok .proceed
        | some fault => .error (.stream fault)
  | .exit => session.stay (.ok .terminate)

/-- The text of a reader is printed if it was asked for, and else it is reported. -/
def dismiss (session : Session World) (early : EarlyExit) : Turn World Status :=
  if early.asked then (session.write .printed early.text).map fun _ => .proceed
  else session.fail (.usage early.text)

/-- A command is called with some words, the first of which is the one that called it. A failure of
its work is reported. -/
def handle (reader : ArgumentReader) (machine : Machine World) (session : Session World)
    (builtin : Builtin) (words : List String) : Turn World Status :=
  match reader builtin [words.headD builtin.name] (positionalMark :: words.tail) with
  | .error early => session.dismiss early
  | .ok arguments =>
      (session.obey machine builtin arguments).andThen fun outcome next =>
        match outcome with
        | .ok status => next.stay status
        | .error failure => next.fail failure

end Session
end PromptShell
