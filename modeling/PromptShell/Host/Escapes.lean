import PromptShell.Host.Fraction
namespace PromptShell.Host

/-- Which escapes a program knows. -/
structure EscapeRules where
  /-- The characters that single letters stand for. -/
  letters : List (Char × Char)
  /-- An extra zero may stand in front of octal digits. -/
  zeroFirst : Bool := false
  /-- Hexadecimal digits may follow an `x`. -/
  hexadecimal : Bool := false
  /-- A number that has to have digits is a flaw without them. -/
  strict : Bool := false
  /-- Characters may be named by their numbers. -/
  universal : Bool := false
  /-- All output may be ended. -/
  stops : Bool := false
  /-- A character behind a backslash that starts no escape is read as if it stood alone. -/
  readsOn : Bool := false

/-- How a text with escapes ends: at its end, at the escape that ends all output, or at an escape
that cannot be read. -/
inductive EscapeEnd where
  | complete
  | stopped
  | flawed (text : String)
  deriving Repr, DecidableEq

/-- The characters of a text with escapes, and how it ends. -/
structure Unescaped where
  characters : List Char
  ending : EscapeEnd := .complete
  deriving Repr

namespace EscapeRules

/-- The letters that all programs know. -/
def commonLetters : List (Char × Char) :=
  [('a', '\x07'), ('b', '\x08'), ('f', '\x0c'), ('n', '\n'), ('r', '\r'), ('t', '\t'),
    ('v', '\x0b'), ('\\', '\\')]

/-- The escapes that `echo` reads when it is asked to. -/
def echo : EscapeRules where
  letters := ('e', '\x1b') :: commonLetters
  zeroFirst := true
  hexadecimal := true
  stops := true

/-- The escapes in the formats of `printf`. -/
def format : EscapeRules where
  letters := ('e', '\x1b') :: ('"', '"') :: commonLetters
  hexadecimal := true
  strict := true
  universal := true
  stops := true

/-- The escapes in those arguments of `printf` that may have some. -/
def formatArgument : EscapeRules := { format with zeroFirst := true }

/-- The escapes that scripts read in what they print. -/
def script : EscapeRules where
  letters := ('e', '\x1b') :: commonLetters
  zeroFirst := true
  stops := true

/-- The escapes that scripts read in formats. -/
def scriptFormat : EscapeRules where
  letters := ('e', '\x1b') :: commonLetters
  readsOn := true

end EscapeRules

/-- Up to a number of digits in a base are read from the front of a text. -/
def takeDigits (base most : Nat) (text : List Char) : Nat × Nat × List Char :=
  let digits := (text.take most).takeWhile fun character =>
    (Fraction.digitValue? base character).isSome
  (digits.foldl (fun value digit => base * value + (Fraction.digitValue? base digit).getD 0) 0,
    digits.length, text.drop digits.length)

/-- The number of a byte as a character; of larger numbers the last byte counts. -/
def byteOf (number : Nat) : Char := Char.ofNat (number % 256)

/-- Digits of a number in base sixteen, filled up to a count. -/
def hexText (count number : Nat) : List Char :=
  let digits := Nat.toDigits 16 number
  List.replicate (count - digits.length) '0' ++ digits

/-- The characters that have no name by their numbers: most of those that can be typed, controls and
halves of characters. -/
def mayNotBeNamed (number : Nat) : Bool :=
  (number < 0xA0 && !([0x24, 0x40, 0x60].contains number)) ||
    (0xD800 ≤ number && number ≤ 0xDFFF)

/-- A character that is named by its number. Beyond ASCII its name is shown in its place. -/
def universal (letter : Char) (digits : List Char) : Except String (List Char × List Char) :=
  let count := if letter = 'u' then 4 else 8
  let (number, found, rest) := takeDigits 16 count digits
  if found < count then .error "missing hexadecimal number in escape"
  else if mayNotBeNamed number then
    .error ("invalid universal character name \\" ++
      String.ofList (letter :: hexText count number))
  else if number < 0x80 then .ok ([byteOf number], rest)
  else
    let small := number < 0x10000
    let shown := (hexText (if small then 4 else 8) number).map Char.toUpper
    .ok ('\\' :: (if small then 'u' else 'U') :: shown, rest)

/-- One escape is read behind its backslash: the characters that it stands for and the rest. -/
def readEscape (rules : EscapeRules) (text : List Char) :
    Except EscapeEnd (List Char × List Char) :=
  match text with
  | [] => .ok (['\\'], [])
  | letter :: rest =>
      match rules.letters.lookup letter with
      | some character => .ok ([character], rest)
      | none =>
          if (Fraction.digitValue? 8 letter).isSome then
            let digits := if rules.zeroFirst && letter = '0' then rest else text
            let (number, _, rest) := takeDigits 8 3 digits
            .ok ([byteOf number], rest)
          else if rules.stops && letter = 'c' then .error .stopped
          else if rules.hexadecimal && letter = 'x' then
            let (number, found, behind) := takeDigits 16 2 rest
            if 0 < found then .ok ([byteOf number], behind)
            else if rules.strict then .error (.flawed "missing hexadecimal number in escape")
            else .ok (['\\', 'x'], rest)
          else if rules.universal && (letter = 'u' || letter = 'U') then
            match universal letter rest with
            | .ok (characters, rest) => .ok (characters, rest)
            | .error flaw => .error (.flawed flaw)
          else if rules.readsOn then .ok (['\\'], text)
          else .ok (['\\', letter], rest)

/-- The characters of a text with escapes in the place of its escapes. -/
def unescape (rules : EscapeRules) (text : List Char) : Unescaped :=
  match text with
  | [] => ⟨[], .complete⟩
  | character :: rest =>
      if character = '\\' then
        match readEscape rules rest with
        | .error ending => ⟨[], ending⟩
        | .ok (characters, behind) =>
            if behind.length ≤ rest.length then
              let others := unescape rules behind
              { others with characters := characters ++ others.characters }
            else ⟨characters, .complete⟩
      else
        let others := unescape rules rest
        { others with characters := character :: others.characters }
termination_by text.length

end PromptShell.Host
