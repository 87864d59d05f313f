import PromptShell.Host.Escapes
import PromptShell.Host.Format
import PromptShell.Host.Help
namespace PromptShell.Host.Printf

/-- A print between two parts of its format. Characters are held with the latest one first, and each
complaint with the characters since the one before it. The output is broken once something could not
be set. -/
structure State where
  arguments : List String
  latest : List Char := []
  complaints : List (List Char × String) := []
  failed : Bool := false
  broken : Bool := false

/-- Why a print ends before its format does. -/
inductive Stop where
  | asked
  | flaw (text : String)
  deriving Repr, DecidableEq

/-- A part of a print. -/
abbrev Print := ExceptT Stop (StateM State)

/-- Characters are put out. -/
def put (text : List Char) : Print Unit :=
  modify fun state => { state with latest := text.reverse ++ state.latest }

/-- Something is told about an argument. -/
def remark (text : String) : Print Unit :=
  modify fun state =>
    { state with latest := [], complaints := state.complaints ++ [(state.latest.reverse, text)] }

/-- Something is wrong with an argument. -/
def fault (argument text : String) : Print Unit := do
  remark (quoted argument ++ ": " ++ text)
  modify fun state => { state with failed := true }

/-- The next argument, if one is left. -/
def nextArgument : Print (Option String) := do
  let state ← get
  set { state with arguments := state.arguments.tail }
  return state.arguments.head?

/-- The number that an argument stands for. A quote in front asks for the number of the character
behind it. -/
def number {Value : Type} (read : List Char → NumberRead Value) (ofNat : Nat → Value)
    (argument : String) : Print Value := do
  let text := argument.toList
  let byName : Option (Char × List Char) := match text with
    | '\'' :: character :: rest | '"' :: character :: rest => some (character, rest)
    | _ => none
  match byName with
  | some (character, rest) =>
      if !rest.isEmpty then
        remark ("warning: " ++ String.ofList rest ++
          ": character(s) following character constant have been ignored")
      return ofNat character.toNat
  | none =>
      let found := read text
      if found.beyond then fault argument "Numerical result out of range"
      else if found.rest.isEmpty then pure ()
      else if found.rest.length = text.length then fault argument "expected a numeric value"
      else fault argument "value not completely converted"
      return found.value

/-- A whole number for a width or a precision; there need not be an argument for it. -/
def size (what : String) (fits : Int → Bool) : Print Int := do
  match ← nextArgument with
  | none => return 0
  | some argument =>
      let value ← number readInteger Int.ofNat argument
      if fits value then return value
      else throw (.flaw ("invalid " ++ what ++ ": " ++ quoted argument))

/-- The letters of the directives that go with some flags and a point. -/
def allowedLetters (flags : List Char) (pointed : Bool) : List Char :=
  let without (unwanted : String) (letters : List Char) : List Char :=
    letters.filter fun letter => !unwanted.toList.contains letter
  let all := "aAcdeEfFgGiosuxX".toList
  let afterQuote := if flags.any ['\'', 'I'].contains then without "aAceEosxX" all else all
  let afterHash := if flags.contains '#' then without "cdisu" afterQuote else afterQuote
  let afterZero := if flags.contains '0' then without "cs" afterHash else afterHash
  if pointed then without "c" afterZero else afterZero

/-- A number in digits. -/
def decimal (digits : List Char) : Nat :=
  digits.foldl (fun value digit => 10 * value + (digit.toNat - '0'.toNat)) 0

/-- A width or a precision is written in digits, or a star takes it from the arguments. -/
def readSize (what : String) (fits : Int → Bool) (format : List Char) :
    Print (Option Int × List Char) := do
  match format with
  | '*' :: rest => return (some (← size what fits), rest)
  | _ =>
      let digits := format.takeWhile Char.isDigit
      return (if digits.isEmpty then none else some (decimal digits), format.drop digits.length)

/-- What was set is put out, unless the style is too large for it. -/
def putSet (style : Style) (letter : Char) (set : Unit → List Char) : Print Unit := do
  if style.isBeyond letter then modify fun state => { state with broken := true }
  else put (set ())

/-- An argument is set in the way that a letter asks for. -/
def setArgument (style : Style) (letter : Char) (argument : String) : Print Unit := do
  match letter with
  | 's' => putSet style letter fun _ => style.setText argument.toList
  | 'c' => putSet style letter fun _ => style.fill [argument.toList.headD '\x00']
  | 'd' | 'i' => do
      let value ← number readInteger Int.ofNat argument
      putSet style letter fun _ => style.setWhole letter value
  | 'o' | 'u' | 'x' | 'X' => do
      let value ← number readNatural Int.ofNat argument
      putSet style letter fun _ => style.setWhole letter value
  | _ =>
      let value ← number (readFraction .extended) Fraction.ofNat argument
      putSet style letter fun _ => style.setFraction .extended letter value

/-- A directive behind its percent sign, and the rest of the format. -/
def directive (format : List Char) : Print (List Char) := do
  match format with
  | '%' :: rest => do put ['%']; return rest
  | 'b' :: rest => do
      match ← nextArgument with
      | none => pure ()
      | some argument =>
          let unescaped := unescape .formatArgument argument.toList
          put unescaped.characters
          match unescaped.ending with
          | .complete => pure ()
          | .stopped => throw .asked
          | .flawed text => throw (.flaw text)
      return rest
  | 'q' :: rest => do
      match ← nextArgument with
      | none => pure ()
      | some argument => put (shellShown argument).toList
      return rest
  | _ =>
      let isFlag (character : Char) : Bool :=
        ['I', '\'', '-', '+', ' ', '#', '0'].contains character
      let flags := format.takeWhile isFlag
      let (width, behindWidth) ← readSize "field width"
        (fun width => -sizeLimit ≤ width + 1 && width ≤ sizeLimit) (format.drop flags.length)
      let (pointed, precision, behindPoint) ← match behindWidth with
        | '.' :: rest => do
            let (precision, rest) ← readSize "precision" (fun size => size ≤ sizeLimit) rest
            pure (true, some (precision.getD 0), rest)
        | rest => pure (false, none, rest)
      let behind := behindPoint.dropWhile ['l', 'L', 'h', 'j', 't', 'z'].contains
      match behind with
      | letter :: rest =>
          if (allowedLetters flags pointed).contains letter then
            let style := ({ flags } : Style).withWidth (width.getD 0)
            let precise := match precision with
              | some precision =>
                  if precision < 0 then style else { style with precision := some precision.toNat }
              | none => style
            setArgument precise letter ((← nextArgument).getD "")
            return rest
          else
            let length := format.length - rest.length
            throw (.flaw (String.ofList ('%' :: format.take length) ++
              ": invalid conversion specification"))
      | [] =>
          throw (.flaw (String.ofList ('%' :: format) ++ ": invalid conversion specification"))

/-- A format is used once; the bound is the length of what is left of it. -/
def useFormat (bound : Nat) (format : List Char) : Print Unit := do
  match bound, format with
  | 0, _ | _, [] => return
  | bound + 1, '%' :: rest => useFormat bound (← directive rest)
  | bound + 1, '\\' :: rest =>
      match readEscape .format rest with
      | .ok (characters, rest) => do put characters; useFormat bound rest
      | .error (.flawed text) => throw (.flaw text)
      | .error _ => throw .asked
  | bound + 1, character :: rest => do put [character]; useFormat bound rest

/-- A format is used until no argument is left, or a use took none. -/
def useAll (format : List Char) : Nat → Print Unit
  | 0 => return
  | bound + 1 => do
      let before := (← get).arguments.length
      useFormat (format.length + 1) format
      let after := (← get).arguments.length
      if after = 0 || after = before then return else useAll format bound

/-- A format is printed with its arguments. -/
def run (name : String) (around : Surroundings) (arguments : List String) : Work Nat := do
  match OptionsEnd.ofOnly? arguments,
    if arguments.head? = some "--" then arguments.tail else arguments with
  | some ended, _ => around.stop .printf name ended
  | none, [] => around.hint name ["missing operand"]
  | none, format :: values =>
      let (outcome, state) := (useAll format.toList (values.length + 1)).run { arguments := values }
      let (code, last) := match outcome with
        | .ok () =>
            (if state.failed then 1 else 0, state.arguments.head?.map fun word =>
              "warning: ignoring excess arguments, starting with " ++ quoted word)
        | .error .asked => (0, none)
        | .error (.flaw text) => (1, some text)
      let characters := state.latest.reverse
      let (complaints, rest) := match last with
        | some text => (state.complaints ++ [(characters, text)], [])
        | none => (state.complaints, characters)
      let unsent ← complaints.foldlM (fun unsent (characters, text) =>
        around.complainBehind name text (unsent.put (Raw.toBytes (String.ofList characters))))
        { lost := state.broken }
      around.finish name code (unsent.put (Raw.toBytes (String.ofList rest)))

end PromptShell.Host.Printf
