namespace PromptShell.Host.Script

/-- The options that were given with their values, and the operands behind them. -/
structure CallOptions where
  given : List (Char × String) := []
  operands : List String := []
  deriving Repr

namespace CallOptions

/-- Options without values are put in front. -/
def withLetters (letters : List Char) (options : CallOptions) : CallOptions :=
  { options with given := letters.map (fun letter => (letter, "")) ++ options.given }

/-- An option with a value is put in front. -/
def withValue (letter : Char) (value : String) (options : CallOptions) : CallOptions :=
  { options with given := (letter, value) :: options.given }

/-- The options of a call are read, given the letters without and with a value. A letter may wait
for the next argument to be its value. -/
def readFrom (plain valued : List Char) : Option Char → List String → Except String CallOptions
  | some letter, [] => .error ("No arg for -" ++ String.singleton letter ++ " option")
  | some letter, value :: rest =>
      (readFrom plain valued none rest).map (withValue letter value)
  | none, [] => .ok {}
  | none, argument :: rest =>
      match argument.toList with
      | '-' :: first :: others =>
          let letters := first :: others
          if letters = ['-'] then .ok { operands := rest }
          else
            let known := letters.takeWhile plain.contains
            match letters.drop known.length with
            | [] => (readFrom plain valued none rest).map (withLetters known)
            | letter :: value =>
                if !valued.contains letter then
                  .error ("Illegal option -" ++ String.singleton letter)
                else if value.isEmpty then
                  (readFrom plain valued (some letter) rest).map (withLetters known)
                else
                  (readFrom plain valued none rest).map fun options =>
                    (options.withValue letter (String.ofList value)).withLetters known
      | _ => .ok { operands := argument :: rest }

/-- The options of a call are read, given the letters without and with a value. -/
def read (plain valued : List Char) (arguments : List String) : Except String CallOptions :=
  readFrom plain valued none arguments

/-- An option was given. -/
def has (options : CallOptions) (letter : Char) : Bool :=
  options.given.any fun option => option.1 = letter

end CallOptions
end PromptShell.Host.Script
