import PromptShell.Pattern.Lead
import PromptShell.Pattern.Reader
import PromptShell.Pattern.Room
namespace PromptShell.Pattern

/-- The switches in force at a part of a pattern. -/
structure Manner where
  ignoreCase : Bool := false
  manyLines : Bool := false
  dotMatchesAll : Bool := false
  returns : Bool := false
  swapsGreed : Bool := false
  unicode : Bool := true
  deriving Repr, DecidableEq

namespace Manner

/-- One switch is set. -/
def set (manner : Manner) (setting : Switch × Bool) : Manner :=
  match setting.1 with
  | .ignoreCase => { manner with ignoreCase := setting.2 }
  | .manyLines => { manner with manyLines := setting.2 }
  | .dotMatchesAll => { manner with dotMatchesAll := setting.2 }
  | .returns => { manner with returns := setting.2 }
  | .swapGreed => { manner with swapsGreed := setting.2 }
  | .unicode => { manner with unicode := setting.2 }
  | .loose => manner

/-- Switches are set in order. -/
def setAll (manner : Manner) (switches : Switches) : Manner := switches.foldl set manner

/-- The letters of a set stand for both of their cases if case is ignored. -/
def foldCase (manner : Manner) (span : Span) (ranges : Ranges) : Except Flaw Ranges :=
  if !manner.ignoreCase then .ok ranges
  else if manner.unicode then
    if ranges.isEmpty then .ok ranges else flawAt .caseMissing span
  else .ok ranges.withBothCases

/-- A set, or what is outside of it. Without the other scripts it must stay within ASCII. -/
def settle (manner : Manner) (span : Span) (negated : Bool) (ranges : Ranges) :
    Except Flaw Ranges := do
  let folded ← manner.foldCase span ranges
  let result := if negated then folded.complement else folded
  if manner.unicode || result.isAscii then .ok result else flawAt .notText span

/-- The number of a character in a class. -/
def classNumber (manner : Manner) (literal : Literal) : Except Flaw Nat :=
  let number := literal.character.toNat
  if manner.unicode || number < 0x80 then .ok number
  else if literal.isByte then flawAt .notText literal.span
  else flawAt .unicodeNotAllowed literal.span

/-- The name of a property in small letters, without a leading `is` and without gaps. -/
def plainName (name : String) : String :=
  let characters := name.toList.map Char.toLower
  let bare := match characters with
    | 'i' :: 's' :: rest => rest
    | _ => characters
  String.ofList (bare.filter fun character =>
    character.toNat < 0x80 && !([' ', '_', '-'].contains character))

/-- No property of characters is known; three short names are read as values of one. -/
def propertyFlaw (name : String) (value : Option String) : FlawCause :=
  if value.isNone && ["cf", "sc", "lc"].contains (plainName name) then .propertyValueMissing
  else .propertyMissing

end Manner

/-- The ASCII characters of a class with a letter of its own. -/
def Shorthand.ranges : Shorthand → Ranges
  | .digit => [(0x30, 0x39)]
  | .space => [(0x09, 0x0D), (0x20, 0x20)]
  | .word => [(0x30, 0x39), (0x41, 0x5A), (0x5F, 0x5F), (0x61, 0x7A)]

/-- The set that an operator makes of two others. -/
def SetOperator.apply : SetOperator → Ranges → Ranges → Ranges
  | .intersection => Ranges.intersection
  | .difference => Ranges.difference
  | .symmetricDifference => Ranges.symmetricDifference

namespace ClassTree

mutual
/-- The characters of a class. -/
def ranges (manner : Manner) : ClassTree → Except Flaw Ranges
  | vacant _ => .ok []
  | literal written => do
      let number ← manner.classNumber written
      .ok [(number, number)]
  | range _ first last => do
      let low ← manner.classNumber first
      let high ← manner.classNumber last
      .ok [(low, high)]
  | named span negated ranges => manner.settle span negated ranges
  | property span _ name value =>
      if manner.unicode then flawAt (Manner.propertyFlaw name value) span
      else flawAt .unicodeNotAllowed span
  | shorthand span negated kind =>
      if manner.unicode then flawAt .shorthandMissing span
      else { manner with ignoreCase := false }.settle span negated kind.ranges
  | bracketed span negated inside => do manner.settle span negated (← inside.ranges manner)
  | union _ items => unionRanges manner items
  | operation _ operator left right => do
      let leftRanges ← left.ranges manner
      let rightRanges ← right.ranges manner
      let rightFolded ← manner.foldCase right.span rightRanges
      let leftFolded ← manner.foldCase left.span leftRanges
      .ok (operator.apply leftFolded rightFolded)

/-- The characters of several classes. -/
def unionRanges (manner : Manner) : List ClassTree → Except Flaw Ranges
  | [] => .ok []
  | item :: rest => do
      let first ← item.ranges manner
      let others ← unionRanges manner rest
      .ok (first.union others)
end

end ClassTree

namespace Tree

/-- The pattern of a character. -/
def ofLiteral (manner : Manner) (literal : Literal) : Except Flaw Pattern :=
  let character := literal.character
  let single : Pattern := .literal [character]
  if manner.unicode then
    if manner.ignoreCase then flawAt .caseMissing literal.span else .ok single
  else if literal.isByte && 0x80 ≤ character.toNat then flawAt .notText literal.span
  else if manner.ignoreCase then
    let set : Ranges := [(character.toNat, character.toNat)]
    .ok (ofSet set.withBothCases)
  else .ok single

/-- The pattern of a dot: all characters but those that end a line. -/
def ofDot (manner : Manner) (span : Span) : Except Flaw Pattern :=
  if !manner.unicode then flawAt .notText span
  else
    let excluded : Ranges :=
      if manner.dotMatchesAll then []
      else if manner.returns then [(0x0A, 0x0A), (0x0D, 0x0D)] else [(0x0A, 0x0A)]
    .ok (ofSet excluded.complement)

/-- The condition on a place that is meant. -/
def ofAssertion (manner : Manner) : Assertion → Anchor
  | .lineStart => if manner.manyLines then .lineStart manner.returns else .textStart
  | .lineEnd => if manner.manyLines then .lineEnd manner.returns else .textEnd
  | .textStart => .textStart
  | .textEnd => .textEnd
  | .wordEdge => .word .either manner.unicode
  | .noWordEdge => .word .neither manner.unicode
  | .wordStart => .word .start manner.unicode
  | .wordEnd => .word .stop manner.unicode
  | .wordStartHalf => .word .startHalf manner.unicode
  | .wordEndHalf => .word .stopHalf manner.unicode

mutual
/-- The pattern of a tree and the switches in force behind it. -/
def meaning (manner : Manner) : Tree → Except Flaw (Pattern × Manner)
  | vacant _ => .ok (.vacant, manner)
  | .switches _ settings => .ok (.vacant, manner.setAll settings)
  | .literal written => do .ok (← ofLiteral manner written, manner)
  | dot span => do .ok (← ofDot manner span, manner)
  | .assertion _ kind => .ok (.anchor (ofAssertion manner kind), manner)
  | oneOf set => do .ok (ofSet (← set.ranges manner), manner)
  | repetition _ least most lazily body => do
      let (pattern, behind) ← body.meaning manner
      .ok (pattern.repeated least most (lazily != behind.swapsGreed), behind)
  | group _ number settings body => do
      let (pattern, _) ← body.meaning (manner.setAll settings)
      .ok ((number.map fun number => .group number pattern).getD pattern, manner)
  | alternation _ branches => do
      let (patterns, behind) ← meanings manner branches
      .ok (among patterns, behind)
  | concatenation _ parts => do
      let (patterns, behind) ← meanings manner parts
      .ok (inRow patterns, behind)

/-- The patterns of several trees; a switch set in one of them holds in the later ones, too. -/
def meanings (manner : Manner) : List Tree → Except Flaw (List Pattern × Manner)
  | [] => .ok ([], manner)
  | tree :: rest => do
      let (first, manner) ← tree.meaning manner
      let (others, manner) ← meanings manner rest
      .ok (first :: others, manner)
end

end Tree

/-- The pattern asks for the edges of words in all scripts. -/
def asksForWords : Pattern → Bool
  | anchor (.word _ everyScript) => everyScript
  | sequence first second | choice first second => first.asksForWords || second.asksForWords
  | repetition _ _ _ body | group _ body => body.asksForWords
  | _ => false

/-- Why a text is no pattern that can be searched for. -/
inductive Refusal where
  | flawed (flaw : Flaw)
  | tooLarge
  | wordsMissing
  deriving Repr, DecidableEq

/-- The wording of a refusal of a text. -/
def Refusal.message (text : String) : Refusal → String
  | flawed flaw => flaw.report text
  | tooLarge => "Compiled regex exceeds size limit of " ++ toString roomLimit ++ " bytes."
  | wordsMissing => "error building NFA"

/-- The pattern that a text writes down. A choice among texts takes up no room worth speaking of. -/
def ofText (text : String) : Except Refusal Pattern := do
  let tree ← (Tree.ofText text).mapError .flawed
  let (pattern, _) ← (tree.meaning {}).mapError .flawed
  if pattern.isTexts then .ok pattern
  else if roomLimit < pattern.room false then .error .tooLarge
  else if pattern.asksForWords then .error .wordsMissing
  else if roomLimit < pattern.room true then .error .tooLarge
  else .ok pattern

end PromptShell.Pattern
