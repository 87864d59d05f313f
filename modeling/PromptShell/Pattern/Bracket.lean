import PromptShell.Pattern.Escape
namespace PromptShell.Pattern.Bracket

/-- The named classes of ASCII characters. -/
def namedClasses : List (String × Ranges) :=
  [("alnum", [(0x30, 0x39), (0x41, 0x5A), (0x61, 0x7A)]), ("alpha", [(0x41, 0x5A), (0x61, 0x7A)]),
    ("ascii", [(0, 0x7F)]), ("blank", [(0x09, 0x09), (0x20, 0x20)]),
    ("cntrl", [(0, 0x1F), (0x7F, 0x7F)]), ("digit", [(0x30, 0x39)]), ("graph", [(0x21, 0x7E)]),
    ("lower", [(0x61, 0x7A)]), ("print", [(0x20, 0x7E)]),
    ("punct", [(0x21, 0x2F), (0x3A, 0x40), (0x5B, 0x60), (0x7B, 0x7E)]),
    ("space", [(0x09, 0x0D), (0x20, 0x20)]), ("upper", [(0x41, 0x5A)]),
    ("word", [(0x30, 0x39), (0x41, 0x5A), (0x5F, 0x5F), (0x61, 0x7A)]),
    ("xdigit", [(0x30, 0x39), (0x41, 0x46), (0x61, 0x66)])]

/-- What is left open: a bracket with the items in front of it, or an operator with its left
side. -/
inductive Frame where
  | bracket (span : Span) (negated : Bool) (outer : List ClassTree) (outerStart : Nat)
  | operator (operator : SetOperator) (left : ClassTree)

/-- A class that is being read: the items in hand, the latest one first, and what is left open. -/
structure State where
  cursor : Cursor
  items : List ClassTree := []
  start : Nat
  frames : List Frame := []

namespace State

/-- An item joins the ones in hand. -/
def add (state : State) (item : ClassTree) (cursor : Cursor) : State :=
  { state with items := item :: state.items, cursor }

/-- The items in hand, joined to the operators that wait for them. -/
def joined (state : State) : ClassTree × List Frame :=
  let right := ClassTree.ofItems state.start state.items.reverse
  match state.frames with
  | .operator operator left :: frames =>
      (.operation ⟨left.span.start, right.span.stop⟩ operator left right, frames)
  | frames => (right, frames)

/-- The flaw of a class that the text ends in, at the innermost open bracket. -/
def unclosed {Value : Type} (state : State) : Except Flaw Value :=
  match state.frames.findSome? fun frame => match frame with
    | .bracket span _ _ _ => some span
    | .operator _ _ => none with
  | some span => flawAt .classUnclosed span
  | none => flawAt .classUnclosed state.cursor.here

/-- Bars at the front of a class stand for themselves. -/
def leadingBars (state : State) (start : Nat) : Nat → Except Flaw State
  | 0 => .ok state
  | left + 1 =>
      if state.cursor.next? ≠ some '-' then .ok state
      else
        let bar : ClassTree := .literal ⟨state.cursor.charSpan, '-', false⟩
        let next := state.add bar state.cursor.advance
        if next.cursor.isAtEnd then flawAt .classUnclosed ⟨start, start⟩
        else next.leadingBars start left

/-- A bracket is opened; the place is at the bracket. -/
def openBracket (state : State) : Except Flaw State :=
  let start := state.cursor.place
  let inside := state.cursor.advance
  if inside.isAtEnd then flawAt .classUnclosed (inside.since start)
  else
    let negated := inside.next? = some '^'
    let front := if negated then inside.advance else inside
    if front.isAtEnd then flawAt .classUnclosed (front.since start)
    else do
      let fresh : State := { cursor := front, start := front.place }
      let barred ← fresh.leadingBars start front.rest.length
      let closing := barred.items.isEmpty && barred.cursor.next? = some ']'
      let ready := if closing then
          barred.add (.literal ⟨barred.cursor.charSpan, ']', false⟩) barred.cursor.advance
        else barred
      if closing && ready.cursor.isAtEnd then flawAt .classUnclosed (ready.cursor.since start)
      else
        let frame := Frame.bracket (ready.cursor.since start) negated state.items state.start
        .ok { ready with frames := frame :: state.frames }

/-- A named class in brackets and colons, if one stands here. -/
def named? (cursor : Cursor) : Option (ClassTree × Cursor) := do
  let opened ← cursor.accept? "[:"
  let negated := opened.next? = some '^'
  let front := if negated then opened.bump else opened
  let (name, closed) := front.takeWhile fun character => character ≠ ':'
  let behind ← closed.accept? ":]"
  let ranges ← namedClasses.lookup (String.ofList name)
  some (.named (behind.since cursor.place) negated ranges, behind)

/-- One item of a class, as it could stand outside of classes. -/
def primitive (cursor : Cursor) : Except Flaw (Tree × Cursor) :=
  match cursor.next? with
  | some '\\' => Escape.read cursor
  | some character => .ok (.literal ⟨cursor.charSpan, character, false⟩, cursor.bump)
  | none => flawAt .classUnclosed cursor.here

/-- What can stand in a class by itself. -/
def asItem : Tree → Except Flaw ClassTree
  | .literal written => .ok (.literal written)
  | .oneOf set => .ok set
  | other => flawAt .classEscape other.span

/-- What can be a bound of a range. -/
def asBound : Tree → Except Flaw Literal
  | .literal written => .ok written
  | other => flawAt .classRangeBound other.span

/-- One item or a range of characters is read. -/
def readRange (state : State) : Except Flaw State := do
  let (first, behind) ← primitive state.cursor
  let bar := behind.skipIdle
  if bar.isAtEnd then state.unclosed
  else if bar.next? ≠ some '-' || bar.secondBehindIdle? = some ']' ||
      bar.secondBehindIdle? = some '-' then
    .ok (state.add (← asItem first) bar)
  else
    let second := bar.advance
    if second.isAtEnd then state.unclosed
    else
      let (last, behind) ← primitive second
      let span : Span := ⟨first.span.start, last.span.stop⟩
      let low ← asBound first
      let high ← asBound last
      if high.character < low.character then flawAt .classRangeOrder span
      else .ok (state.add (.range span low high) behind)

/-- The operator that stands here in two characters. -/
def operator? (cursor : Cursor) : Option SetOperator :=
  match cursor.next?, cursor.second? with
  | some '&', some '&' => some .intersection
  | some '-', some '-' => some .difference
  | some '~', some '~' => some .symmetricDifference
  | _, _ => none

/-- The bracket that was opened last is closed; a class without an outer bracket is complete. -/
def closeBracket (state : State) : Except Flaw (State ⊕ (ClassTree × Cursor)) :=
  let (inside, frames) := state.joined
  match frames with
  | .bracket span negated outer outerStart :: frames =>
      let behind := state.cursor.bump
      let closed : ClassTree := .bracketed (behind.since span.start) negated inside
      if frames.isEmpty then .ok (.inr (closed, behind))
      else .ok (.inl ⟨behind, closed :: outer, outerStart, frames⟩)
  | _ => state.unclosed

/-- The next part of a class is read: a state, or the complete class. -/
def step (state : State) : Except Flaw (State ⊕ (ClassTree × Cursor)) :=
  let ready := { state with cursor := state.cursor.skipIdle }
  match ready.cursor.next?, operator? ready.cursor with
  | none, _ => ready.unclosed
  | some '[', _ =>
      match if ready.frames.isEmpty then none else named? ready.cursor with
      | some (item, behind) => .ok (.inl (ready.add item behind))
      | none => ready.openBracket.map .inl
  | some ']', _ => ready.closeBracket
  | some _, some operator =>
      let (left, frames) := ready.joined
      let behind := ready.cursor.skip 2
      .ok (.inl ⟨behind, [], behind.place, .operator operator left :: frames⟩)
  | some _, none => ready.readRange.map .inl

/-- Parts are read until the class is complete. Each part takes up a character. -/
def run (state : State) : Except Flaw (ClassTree × Cursor) :=
  match state.step with
  | .error flaw => .error flaw
  | .ok (.inr result) => .ok result
  | .ok (.inl next) =>
      if next.cursor.rest.length < state.cursor.rest.length then next.run else next.unclosed
termination_by state.cursor.rest.length

end State

/-- A class is read; the place is at its bracket. -/
def read (cursor : Cursor) : Except Flaw (ClassTree × Cursor) :=
  State.run { cursor, start := cursor.place }

end PromptShell.Pattern.Bracket
