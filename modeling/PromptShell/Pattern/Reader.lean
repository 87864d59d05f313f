import PromptShell.Pattern.Bracket
import PromptShell.Text.Letter
namespace PromptShell.Pattern.Reader

/-- The letters of switches. -/
def switchLetters : List (Char × Switch) :=
  [('i', .ignoreCase), ('m', .manyLines), ('s', .dotMatchesAll), ('U', .swapGreed),
    ('u', .unicode), ('R', .returns), ('x', .loose)]

/-- An item of a list of switches: a switch, or the sign that turns the rest off. -/
abbrev SwitchItem := Option Switch × Span

/-- The switches of a list of items. -/
def switchesOf (items : List SwitchItem) : Switches :=
  (items.foldl (fun (enable, switches) item =>
    match item.1 with
    | none => (false, switches)
    | some switch => (enable, switches ++ [(switch, enable)])) (true, [])).2

/-- An item that stands in a list for the second time. -/
def repeated (items : List SwitchItem) (item : SwitchItem) : Option Flaw :=
  (items.find? fun earlier => earlier.1 = item.1).map fun earlier =>
    ⟨if item.1.isNone then .flagNegationTwice else .flagTwice, item.2, some earlier.2⟩

/-- The items of a list of switches up to the colon or parenthesis that ends it. -/
def readSwitches (items : List SwitchItem) (cursor : Cursor) :
    Except Flaw (Switches × Cursor) :=
  match _ : cursor.rest with
  | [] => flawAt .flagUnfinished cursor.here
  | letter :: _ =>
      if letter = ':' || letter = ')' then
        match items.getLast? with
        | some (none, span) => flawAt .flagDanglingNegation span
        | _ => .ok (switchesOf items, cursor)
      else
        match if letter = '-' then some none else (switchLetters.lookup letter).map some with
        | none => flawAt .flagUnknown cursor.charSpan
        | some kind =>
            match repeated items (kind, cursor.charSpan) with
            | some flaw => .error flaw
            | none => readSwitches (items ++ [(kind, cursor.charSpan)]) cursor.bump
termination_by cursor.rest.length
decreasing_by exact cursor.bump_rest_length_lt (by simp [*])

/-- The state of one switch among given ones. -/
def setting? (switches : Switches) (switch : Switch) : Option Bool :=
  switches.reverse.lookup switch

/-- A character of a group's name, which starts with a letter of any script or a low line. -/
def isNameChar (first : Bool) (character : Char) : Bool :=
  character = '_' || isLetter character ||
    (!first && (isNumber character || ['.', '[', ']'].contains character))

/-- The first character of a name that must not stand there, by its index. -/
def strayIndex? (name : List Char) : Option Nat :=
  name.zipIdx.findSome? fun entry =>
    if isNameChar (entry.2 = 0) entry.1 then none else some entry.2

/-- The name of a group with its span; the place is at its first character. -/
def readName (names : List (String × Span)) (cursor : Cursor) :
    Except Flaw ((String × Span) × Cursor) :=
  let (name, closed) := cursor.takeWhile fun character => character ≠ '>'
  match strayIndex? name with
  | some index => flawAt .groupNameCharacter (cursor.skip index).charSpan
  | none =>
      if closed.isAtEnd then flawAt .groupNameUnfinished closed.here
      else if name.isEmpty then flawAt .groupNameEmpty cursor.here
      else
        let span := closed.since cursor.place
        match names.lookup (String.ofList name) with
        | some earlier => .error ⟨.groupNameTwice, span, some earlier⟩
        | none => .ok ((String.ofList name, span), closed.bump)

/-- What is left open: a group with the parts in front of it, or the branches of an alternation. -/
inductive Frame where
  | group (span : Span) (number : Option Nat) (switches : Switches) (outer : List Tree)
      (outerStart : Nat) (loose : Bool)
  | alternation (start : Nat) (branches : List Tree)

/-- A pattern that is being read: the parts in hand and the branches, the latest one first, and how
many groups have a number. -/
structure State where
  cursor : Cursor
  parts : List Tree := []
  start : Nat := 0
  frames : List Frame := []
  names : List (String × Span) := []
  numbered : Nat := 0

namespace State

/-- A part joins the ones in hand. -/
def add (state : State) (part : Tree) (cursor : Cursor) : State :=
  { state with parts := part :: state.parts, cursor }

/-- The parts in hand as one tree. -/
def row (state : State) : Tree :=
  .ofParts (state.cursor.since state.start) state.parts.reverse

/-- The parts in hand become a branch, and a new branch begins; the place is at the bar. -/
def nextBranch (state : State) : State :=
  let behind := state.cursor.bump
  let frames := match state.frames with
    | .alternation start branches :: frames => .alternation start (state.row :: branches) :: frames
    | frames => .alternation state.start [state.row] :: frames
  { state with cursor := behind, parts := [], start := behind.place, frames }

/-- What the innermost group holds, and what is left open around it. -/
def content (state : State) : Tree × List Frame :=
  match state.frames with
  | .alternation start branches :: frames =>
      (.alternation (state.cursor.since start) (state.row :: branches).reverse, frames)
  | frames => (state.row, frames)

/-- A group begins behind its opening text. -/
def enter (state : State) (span : Span) (number : Option Nat) (switches : Switches)
    (cursor : Cursor) : State :=
  let loose := (setting? switches .loose).getD state.cursor.loose
  { state with
    cursor := { cursor with loose }
    parts := []
    start := cursor.place
    frames :=
      .group span number switches state.parts state.start state.cursor.loose :: state.frames }

/-- A group begins that gets the next number. -/
def enterNumbered (state : State) (span : Span) (cursor : Cursor) : State :=
  let number := state.numbered + 1
  { state.enter span (some number) [] cursor with numbered := number }

/-- A parenthesis opens a group or sets switches for the rest of the one around it. -/
def openGroup (state : State) : Except Flaw State :=
  let span := state.cursor.charSpan
  let front := state.cursor.advance
  match ["?=", "?!", "?<=", "?<!"].findSome? front.accept? with
  | some behind => flawAt .lookAround (behind.since span.start)
  | none =>
      match ["?P<", "?<"].findSome? front.accept? with
      | some named => do
          if named.isAtEnd then flawAt .groupNameUnfinished named.here
          let (name, behind) ← readName state.names named
          .ok { state.enterNumbered span behind with names := name :: state.names }
      | none =>
          match front.accept? "?" with
          | none => .ok (state.enterNumbered span front)
          | some inside => do
              if inside.isAtEnd then flawAt .groupUnclosed span
              let (switches, closed) ← readSwitches [] inside
              if closed.next? = some ':' then .ok (state.enter span none switches closed.bump)
              else if closed.place = inside.place then flawAt .repetitionOfNothing front.here
              else
                let loose := (setting? switches .loose).getD state.cursor.loose
                let behind := { closed.bump with loose }
                .ok (state.add (.switches (behind.since span.start) switches) behind)

/-- The innermost group is closed; the place is at the parenthesis. -/
def closeGroup (state : State) : Except Flaw State :=
  let (inside, frames) := state.content
  match frames with
  | .group span number switches outer outerStart loose :: frames =>
      let behind := { state.cursor.bump with loose }
      let closed := Tree.group (behind.since span.start) number switches inside
      .ok { state with
        cursor := behind, parts := closed :: outer, start := outerStart, frames }
  | _ => flawAt .groupUnopened state.cursor.charSpan

/-- The part that a repetition takes up, and the parts in front of it. -/
def repeatable (state : State) : Except Flaw (Tree × List Tree) :=
  match state.parts with
  | [] | .switches _ _ :: _ => flawAt .repetitionOfNothing state.cursor.here
  | part :: parts => .ok (part, parts)

/-- A part is repeated. With a question mark behind it the repetition is as short as it can be. -/
def repeatPart (state : State) (least : Nat) (most : Option Nat) (part : Tree) (parts : List Tree)
    (cursor : Cursor) : State :=
  let lazily := cursor.next? = some '?'
  let behind := if lazily then cursor.bump else cursor
  let repeated := Tree.repetition (behind.since part.span.start) least most lazily part
  { state with cursor := behind, parts := repeated :: parts }

/-- One of the repetitions without written bounds. -/
def repeatSimply (state : State) (least : Nat) (most : Option Nat) : Except Flaw State := do
  let (part, parts) ← state.repeatable
  .ok (state.repeatPart least most part parts state.cursor.bump)

/-- The largest bound of a repetition. -/
def boundLimit : Nat := Nat.pow 2 32 - 1

/-- A bound is read, and the place behind it and its blanks is reached even if there is none. -/
def readBound (cursor : Cursor) : Except Flaw Nat × Cursor :=
  let front := (cursor.takeWhile isBlank).2
  let (digits, stop) := front.gather Char.isDigit
  let span := stop.since front.place
  let number := digits.foldl (fun value digit => 10 * value + (digit.toNat - '0'.toNat)) 0
  let bound :=
    if digits.isEmpty then flawAt .countNoDecimal span
    else if boundLimit < number then flawAt .decimalTooLarge span
    else .ok number
  (bound, (stop.gather isBlank).2)

/-- A repetition with bounds in braces; the place is at the brace. -/
def repeatCounted (state : State) : Except Flaw State := do
  let start := state.cursor.place
  let unclosed (cursor : Cursor) : Except Flaw State := flawAt .countUnclosed (cursor.since start)
  let (part, parts) ← state.repeatable
  let inside := state.cursor.advance
  if inside.isAtEnd then unclosed inside
  else
    let (least, behind) := readBound inside
    if behind.isAtEnd then unclosed behind
    else
      let finish (least : Nat) (most : Option Nat) (closing : Cursor) : Except Flaw State :=
        if closing.next? ≠ some '\x7d' then unclosed closing
        else
          let repeated := state.repeatPart least most part parts closing.advance
          if most.any fun most => most < least then
            flawAt .countOrder (repeated.cursor.since start)
          else .ok repeated
      if behind.next? ≠ some ',' then
        let least ← least
        finish least (some least) behind
      else
        let second := behind.advance
        if second.isAtEnd then unclosed second
        else
          let least ← least
          if second.next? = some '\x7d' then finish least none second
          else
            let (most, closing) := readBound second
            let most ← most
            finish least (some most) closing

/-- The next part of a pattern is read; the text has not ended. -/
def step (state : State) : Except Flaw State :=
  let cursor := state.cursor
  let single (make : Span → Tree) : Except Flaw State :=
    .ok (state.add (make cursor.charSpan) cursor.bump)
  match cursor.next? with
  | none => .ok state
  | some '(' => state.openGroup
  | some ')' => state.closeGroup
  | some '|' => .ok state.nextBranch
  | some '?' => state.repeatSimply 0 (some 1)
  | some '*' => state.repeatSimply 0 none
  | some '+' => state.repeatSimply 1 none
  | some '\x7b' => state.repeatCounted
  | some '.' => single .dot
  | some '^' => single fun span => .assertion span .lineStart
  | some '$' => single fun span => .assertion span .lineEnd
  | some '[' => do
      let (set, behind) ← Bracket.read cursor
      .ok (state.add (.oneOf set) behind)
  | some '\\' => do
      let (part, behind) ← Escape.read cursor
      .ok (state.add part behind)
  | some character => single fun span => .literal ⟨span, character, false⟩

/-- The text has ended: what is in hand is the pattern, unless a group is left open. -/
def finish (state : State) : Except Flaw Tree :=
  let (tree, frames) := state.content
  match frames with
  | .group span _ _ _ _ _ :: _ => flawAt .groupUnclosed span
  | _ =>
      match tree.tooDeep? 0 with
      | some span => flawAt .nestedTooDeep span
      | none => .ok tree

/-- Parts are read until the text ends. Each part takes up a character. -/
def run (state : State) : Except Flaw Tree :=
  let ready := { state with cursor := state.cursor.skipIdle }
  if ready.cursor.isAtEnd then ready.finish
  else match ready.step with
    | .error flaw => .error flaw
    | .ok next =>
        if next.cursor.rest.length < state.cursor.rest.length then next.run else next.finish
termination_by state.cursor.rest.length

end State

end Reader

/-- The tree of a written pattern. -/
def Tree.ofText (text : String) : Except Flaw Tree :=
  Reader.State.run { cursor := { place := 0, rest := text.toList } }

end PromptShell.Pattern
