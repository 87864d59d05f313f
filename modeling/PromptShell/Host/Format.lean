import PromptShell.Host.Fraction
namespace PromptShell.Host

/-- How an argument is set. -/
structure Style where
  flags : List Char := []
  width : Nat := 0
  precision : Option Nat := none
  deriving Repr, DecidableEq

namespace Style

/-- A flag is among the flags. -/
def has (style : Style) (flag : Char) : Bool := style.flags.contains flag

/-- The width is set. One below zero asks for the left side as well. -/
def withWidth (style : Style) (width : Int) : Style :=
  let sided := if width < 0 then '-' :: style.flags else style.flags
  { style with flags := sided, width := width.natAbs }

/-- Characters with blanks on one side of them up to the width. -/
def fill (style : Style) (text : List Char) : List Char :=
  let missing := List.replicate (style.width - text.length) ' '
  if style.has '-' then text ++ missing else missing ++ text

/-- A text of which the precision keeps the front. -/
def setText (style : Style) (text : List Char) : List Char :=
  style.fill (match style.precision with
    | some precision => text.take precision
    | none => text)

/-- The sign of a number. -/
def sign (style : Style) (negative : Bool) : List Char :=
  if negative then ['-']
  else if style.has '+' then ['+']
  else if style.has ' ' then [' ']
  else []

/-- A number behind its sign. Zeros go between the two, blanks in front of both or behind. -/
def setNumber (style : Style) (zeros : Bool) (front digits : List Char) : List Char :=
  if zeros && style.has '0' && !style.has '-' then
    front ++ List.replicate (style.width - (front.length + digits.length)) '0' ++ digits
  else style.fill (front ++ digits)

/-- The base that a letter asks for. -/
def baseOf (letter : Char) : Nat :=
  match letter with
  | 'o' => 8
  | 'x' | 'X' => 16
  | _ => 10

/-- A whole number in the way that a letter asks for. The precision is the least number of digits,
and one of zero shows no zero. -/
def setWhole (style : Style) (letter : Char) (number : Int) : List Char :=
  let base := baseOf letter
  let bare := if number = 0 && style.precision = some 0 then [] else Nat.toDigits base number.natAbs
  let cased := if letter = 'X' then bare.map Char.toUpper else bare
  let digits := List.replicate (style.precision.getD 1 - cased.length) '0' ++ cased
  let signed := letter = 'd' || letter = 'i'
  let front :=
    if signed then style.sign (number < 0)
    else if base = 16 && style.has '#' && number ≠ 0 then ['0', letter]
    else []
  let digits :=
    if base = 8 && style.has '#' && digits.head? ≠ some '0' then '0' :: digits else digits
  style.setNumber style.precision.isNone front digits

/-- A number with a fractional part in the way that a letter asks for. -/
def setFraction (style : Style) (storage : Storage) (letter : Char) (fraction : Fraction) :
    List Char :=
  let cased (text : List Char) : List Char :=
    if letter.isUpper then text.map Char.toUpper else text
  let front := style.sign fraction.negative
  let always := style.has '#'
  match fraction.magnitude with
  | .undefined => style.setNumber false front (cased ['n', 'a', 'n'])
  | .infinite => style.setNumber false front (cased ['i', 'n', 'f'])
  | .finite mantissa exponent =>
      let places := style.precision.getD 6
      match letter.toLower with
      | 'f' => style.setNumber true front (Fraction.fixed places always mantissa exponent)
      | 'e' =>
          style.setNumber true front (cased (Fraction.scientific places always mantissa exponent))
      | 'g' =>
          style.setNumber true front (cased (Fraction.general places always mantissa exponent))
      | _ =>
          let text := Fraction.hexadecimal storage style.precision always mantissa exponent
          style.setNumber true (front ++ cased (text.take 2)) (cased (text.drop 2))

end Style

/-- The largest width and precision that can be set. -/
def sizeLimit : Nat := Nat.pow 2 31 - 1

/-- A width or a precision is too large to be set. Texts take any precision. -/
def Style.isBeyond (style : Style) (letter : Char) : Bool :=
  let texts := ['s', 'b', 'c'].contains letter
  sizeLimit ≤ style.width ||
    style.precision.any fun precision =>
      if texts then sizeLimit < precision else sizeLimit ≤ precision

/-- A blank in front of a number. -/
def isNumberGap (character : Char) : Bool :=
  [' ', '\t', '\n', '\x0b', '\x0c', '\r'].contains character

/-- A number at the front of a text: its value, whether it was out of range, and the rest. If there
is none, the rest is the whole text. -/
structure NumberRead (Value : Type) where
  value : Value
  beyond : Bool := false
  rest : List Char
  deriving Repr

/-- The digits of a base at the front of a text, as a number. -/
def readDigits (base : Nat) (text : List Char) : Option (Nat × List Char) :=
  let digits := text.takeWhile fun character => (Fraction.digitValue? base character).isSome
  if digits.isEmpty then none
  else some (digits.foldl
    (fun value digit => base * value + (Fraction.digitValue? base digit).getD 0) 0,
    text.drop digits.length)

/-- The number at the front of a text in the base that its first characters tell. A base mark
without digits behind it is a zero and something else. -/
def readPrefixed (text : List Char) : Option (Nat × List Char) :=
  match text with
  | '0' :: 'x' :: digits | '0' :: 'X' :: digits =>
      some ((readDigits 16 digits).getD (0, text.drop 1))
  | '0' :: _ => readDigits 8 text
  | _ => readDigits 10 text

/-- The sign, the size and the rest of a whole number; blanks may stand in front of it. -/
def readSigned (text : List Char) : Option (Bool × Nat × List Char) :=
  let trimmed := text.dropWhile isNumberGap
  let (negative, unsigned) := match trimmed with
    | '-' :: rest => (true, rest)
    | '+' :: rest => (false, rest)
    | rest => (false, rest)
  (readPrefixed unsigned).map fun (size, rest) => (negative, size, rest)

/-- A whole number of eight bytes with a sign. One out of range becomes the nearest. -/
def readInteger (text : List Char) : NumberRead Int :=
  match readSigned text with
  | none => { value := 0, rest := text }
  | some (negative, size, rest) =>
      let number : Int := if negative then -(size : Int) else size
      let value := max (-Int.pow 2 63) (min (Int.pow 2 63 - 1) number)
      { value, beyond := value ≠ number, rest }

/-- A whole number of eight bytes without a sign. One with a sign is taken from the top. -/
def readNatural (text : List Char) : NumberRead Int :=
  match readSigned text with
  | none => { value := 0, rest := text }
  | some (negative, size, rest) =>
      if Nat.pow 2 64 ≤ size then { value := Nat.pow 2 64 - 1, beyond := true, rest }
      else { value := if negative then (Nat.pow 2 64 - size) % Nat.pow 2 64 else size, rest }

/-- A number with a fractional part. -/
def readFraction (storage : Storage) (text : List Char) : NumberRead Fraction :=
  match Fraction.read storage text with
  | none => { value := Fraction.ofNat 0, rest := text }
  | some (value, beyond, rest) => { value, beyond, rest }

end PromptShell.Host
