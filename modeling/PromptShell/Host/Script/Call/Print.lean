import PromptShell.Host.Escapes
import PromptShell.Host.Script.Call.Flow
namespace PromptShell.Host.Script.Run

/-- Arguments are printed with blanks between them. They may ask for an end of the output. -/
def printWords : List String → Run Bool
  | [] => return true
  | word :: rest => do
      let unescaped := unescape .script word.toList
      print (String.ofList unescaped.characters)
      if unescaped.ending ≠ .complete then return false
      else
        if !rest.isEmpty then print " "
        printWords rest

/-- Arguments are printed, with a newline behind them unless the first one keeps it away. -/
def printLine (arguments : List String) : Run Nat := do
  let silent := arguments.head? = some "-n"
  let whole ← printWords (if silent then arguments.tail else arguments)
  if whole && !silent then print "\n"
  return 0

/-- A print by a format: the arguments that are left, and whether one of them was wrong. -/
structure Printing where
  arguments : List String
  failed : Bool := false

/-- A part of a print. It stops early when an argument asks for it. -/
abbrev Printer := ExceptT Unit (StateT Printing Run)

namespace Printer

/-- A part of the script is run. -/
def script {Value : Type} (run : Run Value) : Printer Value := ExceptT.lift (StateT.lift run)

/-- Characters are printed. -/
def put (text : List Char) : Printer Unit := script (print (String.ofList text))

/-- The next argument, if one is left. -/
def next : Printer (Option String) := do
  let printing ← get
  set { printing with arguments := printing.arguments.tail }
  return printing.arguments.head?

/-- Something is wrong with an argument. -/
def remark (argument text : String) : Printer Unit := do
  script (warn (argument ++ ": " ++ text))
  modify fun printing => { printing with failed := true }

/-- The number that the next argument stands for. A quote in front asks for the number of the
character behind it. -/
def number {Value : Type} (read : List Char → NumberRead Value) (ofNat : Nat → Value) :
    Printer Value := do
  match ← next with
  | none => return ofNat 0
  | some argument =>
      let text := argument.toList
      match text with
      | '\'' :: rest | '"' :: rest => return ofNat ((rest.head?.map Char.toNat).getD 0)
      | _ =>
          let found := read text
          if !found.rest.isEmpty then
            remark argument
              (if found.rest.length = text.length then "expected numeric value"
              else "not completely converted")
          else if found.beyond then remark argument "Numerical result out of range"
          return found.value

/-- A width or a precision in digits, or from the arguments. -/
def size (format : List Char) : Printer (Option Int × List Char) := do
  match format with
  | '*' :: rest =>
      let value ← number readInteger Int.ofNat
      return (some (Int.bmod value (Nat.pow 2 32)), rest)
  | _ =>
      let digits := format.takeWhile Char.isDigit
      let value := (readDigits 10 digits).map fun found => Int.ofNat found.1
      return (value, format.drop digits.length)

/-- A style is too large. -/
def checkSize (style : Style) (letter : Char) : Printer Unit := do
  if style.isBeyond letter then script (fail "xvsnprintf failed")

/-- An argument with escapes is set. Where it ends the print, so do the blanks behind it. -/
def setEscaped (style : Style) : Printer Unit := do
  let unescaped := unescape .script ((← next).getD "").toList
  checkSize style 'b'
  put (style.setText unescaped.characters)
  if unescaped.ending ≠ .complete then throw ()

/-- An argument is set in the way that a letter asks for. -/
def setArgument (style : Style) (letter : Char) (start : List Char) : Printer Unit := do
  match letter with
  | 'b' => setEscaped style
  | 'c' => do
      let text := ((← next).getD "").toList
      checkSize style letter
      put (style.fill [text.headD '\x00'])
  | 's' => do
      let text := ((← next).getD "").toList
      checkSize style letter
      put (style.setText text)
  | 'd' | 'i' => do
      let value ← number readInteger Int.ofNat
      checkSize style letter
      put (style.setWhole letter value)
  | 'o' | 'u' | 'x' | 'X' => do
      let value ← number readNatural Int.ofNat
      checkSize style letter
      put (style.setWhole letter value)
  | _ =>
      if ['a', 'A', 'e', 'E', 'f', 'F', 'g', 'G'].contains letter then
        let value ← number (readFraction .double) Fraction.ofNat
        checkSize style letter
        put (style.setFraction .double letter value)
      else script (fail (String.ofList start ++ ": invalid directive"))

/-- A directive behind its percent sign, and the rest of the format. -/
def directive (format : List Char) : Printer (List Char) := do
  let flags := format.takeWhile fun character => ['#', '-', '+', ' ', '0'].contains character
  let (width, behindWidth) ← size (format.drop flags.length)
  let (precision, behind) ← match behindWidth with
    | '.' :: rest => do
        let (precision, rest) ← size rest
        pure (some (precision.getD 0), rest)
    | rest => pure (none, rest)
  match behind with
  | [] => script (fail "missing format character")
  | letter :: rest => do
      let style := ({ flags } : Style).withWidth (width.getD 0)
      let chosen := match precision with
        | some precision =>
            if precision < 0 then style else { style with precision := some precision.toNat }
        | none => style
      setArgument chosen letter ('%' :: format.take (format.length - rest.length))
      return rest

/-- A format is used once; the bound is the length of what is left of it. -/
def useFormat (bound : Nat) (format : List Char) : Printer Unit := do
  match bound, format with
  | 0, _ | _, [] => return
  | bound + 1, '%' :: '%' :: rest => do put ['%']; useFormat bound rest
  | bound + 1, '%' :: rest => do useFormat bound (← directive rest)
  | bound + 1, '\\' :: rest =>
      match readEscape .scriptFormat rest with
      | .ok (characters, rest) => do put characters; useFormat bound rest
      | .error _ => throw ()
  | bound + 1, character :: rest => do put [character]; useFormat bound rest

/-- A format is used until no argument is left, or it takes none; the bound is the number of
arguments. -/
def useAll (format : List Char) (count : Nat) : Nat → Printer Unit
  | 0 => return
  | bound + 1 => do
      useFormat (format.length + 1) format
      let left := (← get).arguments.length
      if left = 0 || left = count then return else useAll format count bound

end Printer

/-- Arguments are printed in a format. -/
def printFormat (arguments : List String) : Run Nat := do
  match (← options [] [] arguments).operands with
  | [] => fail "usage: printf format [arg ...]"
  | format :: values => do
      let count := values.length
      let (_, printing) ← ((Printer.useAll format.toList count (count + 1)).run).run
        { arguments := values }
      return if printing.failed then 1 else 0

end PromptShell.Host.Script.Run
