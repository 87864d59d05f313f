namespace PromptShell.Host

/-- The quotient of two numbers, rounded to the nearest whole number, of two such to the even
one. -/
def roundedQuotient (number divisor : Nat) : Nat :=
  let quotient := number / divisor
  let rest := 2 * (number % divisor)
  if rest < divisor then quotient
  else if rest = divisor then quotient + quotient % 2
  else quotient + 1

/-- A storage keeps a number of binary digits, with exponents between two bounds. -/
structure Storage where
  digits : Nat
  least : Int
  most : Int
  deriving Repr

/-- The storage of eight bytes. -/
def Storage.double : Storage := ⟨53, -1074, 971⟩

/-- The storage of ten bytes. -/
def Storage.extended : Storage := ⟨64, -16445, 16320⟩

/-- A number that is kept in a storage. -/
inductive Magnitude where
  | undefined
  | infinite
  | finite (mantissa : Nat) (exponent : Int)
  deriving Repr, DecidableEq

/-- A number and its sign. -/
structure Fraction where
  negative : Bool
  magnitude : Magnitude
  deriving Repr, DecidableEq

/-- A power of two as a fraction of whole numbers. -/
def twoPower (exponent : Int) : Nat × Nat :=
  if 0 ≤ exponent then (Nat.pow 2 exponent.toNat, 1) else (1, Nat.pow 2 (-exponent).toNat)

/-- The nearest number of a storage to a quotient, and whether the storage has no number near it. -/
def Storage.round (storage : Storage) (number divisor : Nat) : Magnitude × Bool :=
  if number = 0 then (.finite 0 0, false)
  else
    let size : Int := (Nat.log2 number : Int) - Nat.log2 divisor
    let fit (exponent : Int) : Nat :=
      let (up, down) := twoPower exponent
      roundedQuotient (number * down) (divisor * up)
    let limit := Nat.pow 2 storage.digits
    let tight := max (size - storage.digits) storage.least
    let exponent := if fit tight < limit then tight else tight + 1
    let mantissa := fit exponent
    let (mantissa, exponent) :=
      if mantissa = limit then (mantissa / 2, exponent + 1) else (mantissa, exponent)
    if storage.most < exponent then (.infinite, true)
    else
      let (up, down) := twoPower exponent
      let exact := mantissa * up * divisor = number * down
      (.finite mantissa exponent, mantissa < limit / 2 && !exact)

namespace Fraction

/-- The digits of a number in a base, with the digits behind a point counted. -/
structure Digits where
  value : Nat := 0
  count : Nat := 0
  behind : Nat := 0
  pointed : Bool := false

/-- The value of a digit in base ten or sixteen. -/
def digitValue? (base : Nat) (character : Char) : Option Nat :=
  let value :=
    if character.isDigit then character.toNat - '0'.toNat
    else if 'a' ≤ character ∧ character ≤ 'f' then character.toNat - 'a'.toNat + 10
    else if 'A' ≤ character ∧ character ≤ 'F' then character.toNat - 'A'.toNat + 10
    else base
  if value < base then some value else none

/-- Digits with at most one point are read from the front of a text. -/
def readDigits (base : Nat) (digits : Digits) : List Char → Digits × List Char
  | [] => (digits, [])
  | character :: rest =>
      match digitValue? base character with
      | some value =>
          readDigits base { digits with
            value := base * digits.value + value, count := digits.count + 1
            behind := digits.behind + if digits.pointed then 1 else 0 } rest
      | none =>
          if character = '.' && !digits.pointed then
            readDigits base { digits with pointed := true } rest
          else (digits, character :: rest)

/-- An exponent behind one of its letters; without digits there is none. -/
def readExponent (letters : List Char) (text : List Char) : Int × List Char :=
  match text with
  | letter :: rest =>
      if !letters.contains letter then (0, text)
      else
        let (negative, digits) := match rest with
          | '-' :: digits => (true, digits)
          | '+' :: digits => (false, digits)
          | digits => (false, digits)
        let taken := digits.takeWhile Char.isDigit
        if taken.isEmpty then (0, text)
        else
          let size := taken.foldl (fun value digit => 10 * value + (digit.toNat - '0'.toNat)) 0
          (if negative then -(size : Int) else size, digits.drop taken.length)
  | [] => (0, [])

/-- Exponents beyond this bound lead out of every storage. -/
def exponentBound : Nat := 40000

/-- An exponent within the bound. -/
def bounded (exponent : Int) : Int :=
  max (-(exponentBound : Int)) (min exponent exponentBound)

/-- A text starts with a word in either case. -/
def startsWith (word : String) (text : List Char) : Bool :=
  word.toList.isPrefixOf (text.map Char.toLower)

/-- The number in front of a text, whether it is out of the range of the storage, and the rest. -/
def readUnsigned (storage : Storage) (text : List Char) : Option (Magnitude × Bool × List Char) :=
  if startsWith "infinity" text then some (.infinite, false, text.drop 8)
  else if startsWith "inf" text then some (.infinite, false, text.drop 3)
  else if startsWith "nan" text then
    let behind := text.drop 3
    match behind with
    | '(' :: inside =>
        let name := inside.takeWhile fun character => character.isAlphanum || character = '_'
        match inside.drop name.length with
        | ')' :: rest => some (.undefined, false, rest)
        | _ => some (.undefined, false, behind)
    | _ => some (.undefined, false, behind)
  else
    let hexadecimal : Option (Digits × List Char) := match text with
      | '0' :: mark :: rest =>
          if mark = 'x' || mark = 'X' then
            let (digits, rest) := readDigits 16 {} rest
            if digits.count = 0 then none else some (digits, rest)
          else none
      | _ => none
    match hexadecimal with
    | some (digits, rest) =>
        let (exponent, rest) := readExponent ['p', 'P'] rest
        let (up, down) := twoPower (bounded exponent - 4 * digits.behind)
        let (magnitude, beyond) := storage.round (digits.value * up) down
        some (magnitude, beyond, rest)
    | none =>
        let (digits, rest) := readDigits 10 {} text
        if digits.count = 0 then none
        else
          let (exponent, rest) := readExponent ['e', 'E'] rest
          let power := bounded exponent - digits.behind
          let (magnitude, beyond) :=
            if 0 ≤ power then storage.round (digits.value * Nat.pow 10 power.toNat) 1
            else storage.round digits.value (Nat.pow 10 (-power).toNat)
          some (magnitude, beyond, rest)

/-- The number in front of a text with its sign; blanks may stand in front of it. -/
def read (storage : Storage) (text : List Char) : Option (Fraction × Bool × List Char) :=
  let trimmed := text.dropWhile fun character =>
    [' ', '\t', '\n', '\x0b', '\x0c', '\r'].contains character
  let (negative, unsigned) := match trimmed with
    | '-' :: rest => (true, rest)
    | '+' :: rest => (false, rest)
    | rest => (false, rest)
  (readUnsigned storage unsigned).map fun (magnitude, beyond, rest) =>
    (⟨negative, magnitude⟩, beyond, rest)

/-- A whole number as a fraction. -/
def ofNat (number : Nat) : Fraction := ⟨false, .finite number 0⟩

/-- Digits with a given number of them behind a point. -/
def placePoint (digits : List Char) (places : Nat) (always : Bool) : List Char :=
  let padded := List.replicate (places + 1 - digits.length) '0' ++ digits
  let front := padded.take (padded.length - places)
  let behind := padded.drop (padded.length - places)
  if places = 0 then (if always then front ++ ['.'] else front) else front ++ '.' :: behind

/-- A number with a fixed count of decimal places. -/
def fixed (places : Nat) (always : Bool) (mantissa : Nat) (exponent : Int) : List Char :=
  let (up, down) := twoPower exponent
  placePoint (Nat.toDigits 10 (roundedQuotient (mantissa * up * Nat.pow 10 places) down)) places
    always

/-- The decimal exponent of a number and its leading digits as one number. -/
def leading (count : Nat) (mantissa : Nat) (exponent : Int) : Int × Nat :=
  if mantissa = 0 then (0, 0)
  else
    let (up, down) := twoPower exponent
    let number := mantissa * up
    let scaled (power : Int) : Nat :=
      let shift := (count : Int) - 1 - power
      if 0 ≤ shift then roundedQuotient (number * Nat.pow 10 shift.toNat) down
      else roundedQuotient number (down * Nat.pow 10 (-shift).toNat)
    let whole := (Nat.toDigits 10 (number / down)).length
    let below := (Nat.toDigits 10 (down / number)).length
    let guess : Int := if down ≤ number then (whole : Int) - 1
      else if down % number = 0 && down / number = Nat.pow 10 (below - 1) then 1 - (below : Int)
      else -(below : Int)
    let digits := scaled guess
    if digits = Nat.pow 10 count then (guess + 1, Nat.pow 10 (count - 1)) else (guess, digits)

/-- An exponent has a sign and at least two digits. -/
def exponentText (letter : Char) (exponent : Int) : List Char :=
  let digits := Nat.toDigits 10 exponent.natAbs
  [letter, if exponent < 0 then '-' else '+'] ++
    List.replicate (2 - digits.length) '0' ++ digits

/-- A number with one digit in front of the point and an exponent. -/
def scientific (places : Nat) (always : Bool) (mantissa : Nat) (exponent : Int) : List Char :=
  let (power, digits) := leading (places + 1) mantissa exponent
  placePoint (Nat.toDigits 10 digits) places always ++ exponentText 'e' power

/-- Zeros at the end of the digits behind a point count for nothing, nor does a point without
digits. -/
def dropZeros (text : List Char) : List Char :=
  let point := text.takeWhile fun character => character ≠ 'e'
  let rest := text.drop point.length
  if !point.contains '.' then text
  else
    let bare := (point.reverse.dropWhile fun character => character = '0')
    (match bare with
    | '.' :: front => front.reverse
    | bare => bare.reverse) ++ rest

/-- A number with a count of significant digits, in the shorter of the two ways to write it. -/
def general (precision : Nat) (always : Bool) (mantissa : Nat) (exponent : Int) : List Char :=
  let count := max precision 1
  let power := (leading count mantissa exponent).1
  let text :=
    if -4 ≤ power ∧ power < count then
      fixed ((count : Int) - 1 - power).toNat always mantissa exponent
    else scientific (count - 1) always mantissa exponent
  if always then text else dropZeros text

/-- A number in hexadecimal digits with a power of two. The storage decides over the digit in front
of the point: one bit, or the first four bits of a whole mantissa. There is never more than one
digit, even if the number was rounded up to a further one. -/
def hexadecimal (storage : Storage) (precision : Option Nat) (always : Bool) (mantissa : Nat)
    (exponent : Int) : List Char :=
  let lead := if storage.digits % 4 = 0 then 4 else 1
  let places := (storage.digits - lead) / 4
  let size := if mantissa = 0 then 0 else Nat.log2 mantissa + 1
  let room := if storage.least < exponent then storage.digits - size else
    min (storage.digits - size) (exponent - storage.least).toNat
  let whole := mantissa * Nat.pow 2 room
  let power : Int := if mantissa = 0 then 0 else exponent - room + 4 * places
  let (digits, shown) := match precision with
    | some precision =>
        if precision < places then
          (roundedQuotient whole (Nat.pow 16 (places - precision)), precision)
        else (whole * Nat.pow 16 (precision - places), precision)
    | none => (whole, places)
  let (digits, power) :=
    if digits < Nat.pow 16 (shown + 1) then (digits, power) else (digits / 16, power + 4)
  let text := placePoint (Nat.toDigits 16 digits) shown always
  let text := if precision.isNone then dropHexZeros text else text
  let powerText := [if power < 0 then '-' else '+'] ++ Nat.toDigits 10 power.natAbs
  '0' :: 'x' :: text ++ 'p' :: powerText
where
  dropHexZeros (text : List Char) : List Char :=
    if !text.contains '.' then text
    else match text.reverse.dropWhile fun character => character = '0' with
      | '.' :: front => front.reverse ++ if always then ['.'] else []
      | bare => bare.reverse

end Fraction
end PromptShell.Host
