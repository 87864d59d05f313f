import PromptShell.Pattern.Cursor
namespace PromptShell.Pattern

/-- A reading that fails at a span. -/
def flawAt {Value : Type} (cause : FlawCause) (span : Span) : Except Flaw Value :=
  .error ⟨cause, span, none⟩

namespace Escape

/-- The characters that have a meaning of their own in patterns. -/
def metaCharacters : List Char :=
  ['\\', '.', '+', '*', '?', '(', ')', '|', '[', ']', '\x7b', '\x7d', '^', '$', '#', '&', '-', '~']

/-- A character that stands for itself behind a backslash: ASCII, but no letter, digit or angle. -/
def standsForItself (character : Char) : Bool :=
  metaCharacters.contains character ||
    (character.toNat < 0x80 && !character.isAlphanum && character ≠ '<' && character ≠ '>')

/-- The value of a hexadecimal digit. -/
def hexValue? (character : Char) : Option Nat :=
  if character.isDigit then some (character.toNat - '0'.toNat)
  else if 'a' ≤ character ∧ character ≤ 'f' then some (character.toNat - 'a'.toNat + 10)
  else if 'A' ≤ character ∧ character ≤ 'F' then some (character.toNat - 'A'.toNat + 10)
  else none

/-- The number that hexadecimal digits spell. -/
def hexNumber (digits : List Char) : Nat :=
  digits.foldl (fun value digit => 16 * value + (hexValue? digit).getD 0) 0

/-- The character of a number, if there is one. -/
def character? (number : Nat) : Option Char :=
  if valid : number.isValidChar then some (Char.ofNatAux number valid) else none

/-- A fixed number of hexadecimal digits, the first of which is at the place. -/
def hexDigits : Nat → Cursor → Except Flaw (List Char × Cursor)
  | 0, cursor => .ok ([], cursor)
  | left + 1, cursor =>
      match cursor.next? with
      | none => flawAt .escapeUnfinished cursor.here
      | some digit =>
          if (hexValue? digit).isNone then flawAt .hexDigit cursor.charSpan
          else do
            let (others, behind) ← hexDigits left cursor.advance
            .ok (digit :: others, behind)

/-- A character by its number in hexadecimal digits; the place is at the letter that says how many
digits there are. -/
def hex (start : Nat) (letter : Char) (cursor : Cursor) : Except Flaw (Tree × Cursor) :=
  let opened := cursor.advance
  match opened.next? with
  | none => flawAt .escapeUnfinished opened.here
  | some '\x7b' =>
      let first := opened.bump.place
      let (digits, closed) := opened.advance.gather fun digit => (hexValue? digit).isSome
      match closed.next? with
      | none => flawAt .escapeUnfinished (closed.since opened.place)
      | some '\x7d' =>
          let behind := closed.advance
          if digits.isEmpty then flawAt .hexEmpty (behind.since opened.place)
          else match character? (hexNumber digits) with
            | none => flawAt .hexNoCharacter ⟨first, closed.place⟩
            | some character => .ok (.literal ⟨behind.since start, character, false⟩, behind)
      | some _ => flawAt .hexDigit closed.charSpan
  | some _ => do
      let count := if letter = 'x' then 2 else if letter = 'u' then 4 else 8
      let (digits, behind) ← hexDigits count opened
      match character? (hexNumber digits) with
      | none => flawAt .hexNoCharacter (behind.since opened.place)
      | some character => .ok (.literal ⟨behind.since start, character, letter = 'x'⟩, behind)

/-- A text cut at the first place where another one stands. -/
def cutAtFirst? (mark : List Char) : List Char → Option (List Char × List Char)
  | [] => none
  | character :: rest =>
      if mark.isPrefixOf (character :: rest) then
        some ([], (character :: rest).drop mark.length)
      else (cutAtFirst? mark rest).map fun parts => (character :: parts.1, parts.2)

/-- The name of a property and its value, if it has one. -/
def propertyParts (text : List Char) : String × Option String :=
  let found := ((cutAtFirst? ['!', '='] text).orElse fun _ => cutAtFirst? [':'] text).orElse
    fun _ => cutAtFirst? ['='] text
  match found with
  | some parts => (String.ofList parts.1, some (String.ofList parts.2))
  | none => (String.ofList text, none)

/-- A class by a property; the place is at the letter that asks for it. -/
def property (start : Nat) (negated : Bool) (cursor : Cursor) : Except Flaw (Tree × Cursor) :=
  let opened := cursor.advance
  match opened.next? with
  | none => flawAt .escapeUnfinished opened.here
  | some '\x7b' =>
      let (name, closed) := opened.advance.gather fun character => character ≠ '\x7d'
      if closed.isAtEnd then flawAt .escapeUnfinished closed.here
      else
        let behind := closed.bump
        let (name, value) := propertyParts name
        .ok (.oneOf (.property (behind.since start) negated name value), behind)
  | some '\\' => flawAt .propertyName opened.charSpan
  | some character =>
      let behind := opened.advance
      .ok (.oneOf (.property (behind.since start) negated (String.singleton character) none),
        behind)

/-- The edges of words that are named in braces. -/
def namedEdges : List (String × Assertion) :=
  [("start", .wordStart), ("end", .wordEnd), ("start-half", .wordStartHalf),
    ("end-half", .wordEndHalf)]

/-- The kind of a word edge; braces behind it may hold a name or the bounds of a repetition. -/
def edge (start : Nat) (cursor : Cursor) : Except Flaw (Assertion × Cursor) :=
  if cursor.next? ≠ some '\x7b' then .ok (.wordEdge, cursor)
  else
    let isNameChar (character : Char) : Bool := character.isAlpha || character = '-'
    let inside := cursor.advance
    match inside.next? with
    | none => flawAt .edgeOrCountUnfinished (inside.since start)
    | some character =>
        if !isNameChar character then .ok (.wordEdge, cursor)
        else
          let (name, closed) := inside.gather isNameChar
          if closed.next? ≠ some '\x7d' then flawAt .edgeUnclosed (closed.since cursor.place)
          else match namedEdges.lookup (String.ofList name) with
            | some kind => .ok (kind, closed.bump)
            | none => flawAt .edgeUnknown (closed.since inside.place)

/-- The characters that single letters stand for. -/
def letters : List (Char × Char) :=
  [('a', '\x07'), ('f', '\x0c'), ('t', '\t'), ('n', '\n'), ('r', '\r'), ('v', '\x0b')]

/-- The places that single letters stand for. -/
def places : List (Char × Assertion) :=
  [('A', .textStart), ('z', .textEnd), ('B', .noWordEdge), ('<', .wordStart), ('>', .wordEnd)]

/-- The classes that single letters stand for; capitals stand for what is outside. -/
def shorthands : List (Char × Shorthand × Bool) :=
  [('d', .digit, false), ('D', .digit, true), ('s', .space, false), ('S', .space, true),
    ('w', .word, false), ('W', .word, true)]

/-- An escape is read; the place is at its backslash. -/
def read (cursor : Cursor) : Except Flaw (Tree × Cursor) :=
  let start := cursor.place
  let opened := cursor.bump
  match opened.next? with
  | none => flawAt .escapeUnfinished (opened.since start)
  | some letter =>
      let behind := opened.bump
      let span := behind.since start
      if letter.isDigit then flawAt .backReference span
      else if letter = 'x' || letter = 'u' || letter = 'U' then hex start letter opened
      else if letter = 'p' || letter = 'P' then property start (letter = 'P') opened
      else if letter = 'b' then do
        let (kind, behind) ← edge start behind
        .ok (.assertion (behind.since start) kind, behind)
      else if standsForItself letter then .ok (.literal ⟨span, letter, false⟩, behind)
      else match shorthands.lookup letter, letters.lookup letter, places.lookup letter with
        | some (kind, negated), _, _ => .ok (.oneOf (.shorthand span negated kind), behind)
        | none, some character, _ => .ok (.literal ⟨span, character, false⟩, behind)
        | none, none, some place => .ok (.assertion span place, behind)
        | none, none, none => flawAt .escapeUnknown span

end Escape
end PromptShell.Pattern
