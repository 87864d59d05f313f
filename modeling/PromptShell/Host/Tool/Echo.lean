import PromptShell.Host.Escapes
import PromptShell.Host.Help
namespace PromptShell.Host.Echo

/-- An argument that holds letters of options and nothing else. -/
def isOption (argument : String) : Bool :=
  match argument.toList with
  | '-' :: letters => !letters.isEmpty && letters.all fun letter => ['n', 'e', 'E'].contains letter
  | _ => false

/-- The text that the arguments ask for. Of the letters for and against escapes the last counts. -/
def text (arguments : List String) : List Char :=
  let letters := (arguments.takeWhile isOption).flatMap fun option => option.toList.tail
  let escaped := (letters.filter fun letter => letter ≠ 'n').getLast? = some 'e'
  let joined := (" ".intercalate (arguments.dropWhile isOption)).toList
  let unescaped := if escaped then unescape .echo joined else ⟨joined, .complete⟩
  if letters.contains 'n' || unescaped.ending ≠ .complete then unescaped.characters
  else unescaped.characters ++ ['\n']

/-- Arguments are printed. -/
def run (name : String) (around : Surroundings) (arguments : List String) : Work Nat :=
  match OptionsEnd.ofOnly? arguments with
  | some ended => around.stop .echo name ended
  | none =>
    around.finish name 0 { output := Raw.toBytes (String.ofList (text arguments)) }

end PromptShell.Host.Echo
