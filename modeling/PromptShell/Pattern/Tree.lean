import PromptShell.Pattern.Flaw
import PromptShell.Pattern.Ranges
namespace PromptShell.Pattern

/-- A switch that changes how the rest of a group is read. -/
inductive Switch where
  | ignoreCase
  | manyLines
  | dotMatchesAll
  | swapGreed
  | unicode
  | returns
  | loose
  deriving Repr, DecidableEq

/-- The switches that are set, each to on or off. -/
abbrev Switches := List (Switch × Bool)

/-- A character as it is written; `isByte` tells that it is given as a byte of two digits. -/
structure Literal where
  span : Span
  character : Char
  isByte : Bool := false
  deriving Repr, DecidableEq

/-- The classes that have a letter of their own. -/
inductive Shorthand where
  | digit
  | space
  | word
  deriving Repr, DecidableEq

/-- The operators between two parts of a class. -/
inductive SetOperator where
  | intersection
  | difference
  | symmetricDifference
  deriving Repr, DecidableEq

/-- A class of characters. -/
inductive ClassTree where
  | vacant (span : Span)
  | literal (literal : Literal)
  | range (span : Span) (first last : Literal)
  | named (span : Span) (negated : Bool) (ranges : Ranges)
  | property (span : Span) (negated : Bool) (name : String) (value : Option String)
  | shorthand (span : Span) (negated : Bool) (kind : Shorthand)
  | bracketed (span : Span) (negated : Bool) (inside : ClassTree)
  | union (span : Span) (items : List ClassTree)
  | operation (span : Span) (operator : SetOperator) (left right : ClassTree)
  deriving Repr

/-- A condition on a place, before it is known how words and lines are told. -/
inductive Assertion where
  | lineStart
  | lineEnd
  | textStart
  | textEnd
  | wordEdge
  | noWordEdge
  | wordStart
  | wordEnd
  | wordStartHalf
  | wordEndHalf
  deriving Repr, DecidableEq

/-- A written pattern. A group has a number if what it matches is kept. -/
inductive Tree where
  | vacant (span : Span)
  | switches (span : Span) (switches : Switches)
  | literal (literal : Literal)
  | dot (span : Span)
  | assertion (span : Span) (assertion : Assertion)
  | oneOf (set : ClassTree)
  | repetition (span : Span) (least : Nat) (most : Option Nat) (lazily : Bool) (body : Tree)
  | group (span : Span) (number : Option Nat) (switches : Switches) (body : Tree)
  | alternation (span : Span) (branches : List Tree)
  | concatenation (span : Span) (parts : List Tree)
  deriving Repr

namespace ClassTree

/-- The span of a class. -/
def span : ClassTree → Span
  | vacant span | range span _ _ | named span _ _ | property span _ _ _ | shorthand span _ _
  | bracketed span _ _ | union span _ | operation span _ _ _ => span
  | literal written => written.span

/-- The items of a union as one class. -/
def ofItems (start : Nat) : List ClassTree → ClassTree
  | [] => vacant ⟨start, start⟩
  | [item] => item
  | first :: rest =>
      let stop := (rest.getLast?.map fun last => last.span.stop).getD start
      union ⟨first.span.start, stop⟩ (first :: rest)

mutual
/-- The first part that stands too deep. Brackets, unions and operators lead further down. -/
def tooDeep? (depth : Nat) : ClassTree → Option Span
  | bracketed span _ inside =>
      if depth = nestLimit then some span else inside.tooDeep? (depth + 1)
  | union span items =>
      if depth = nestLimit then some span else anyTooDeep? (depth + 1) items
  | operation span _ left right =>
      if depth = nestLimit then some span
      else (left.tooDeep? (depth + 1)).orElse fun _ => right.tooDeep? (depth + 1)
  | _ => none

/-- The first part in a list that stands too deep. -/
def anyTooDeep? (depth : Nat) : List ClassTree → Option Span
  | [] => none
  | item :: rest => (item.tooDeep? depth).orElse fun _ => anyTooDeep? depth rest
end

end ClassTree

namespace Tree

/-- The span of a tree. -/
def span : Tree → Span
  | vacant span | switches span _ | dot span | assertion span _
  | repetition span _ _ _ _ | group span _ _ _ | alternation span _ | concatenation span _ => span
  | literal written => written.span
  | oneOf set => set.span

/-- Parts in a row as one tree. -/
def ofParts (span : Span) : List Tree → Tree
  | [] => vacant span
  | [part] => part
  | parts => concatenation span parts

mutual
/-- The first part that stands too deep. -/
def tooDeep? (depth : Nat) : Tree → Option Span
  | oneOf set => set.tooDeep? depth
  | repetition span _ _ _ body | group span _ _ body =>
      if depth = nestLimit then some span else body.tooDeep? (depth + 1)
  | alternation span parts | concatenation span parts =>
      if depth = nestLimit then some span else anyTooDeep? (depth + 1) parts
  | _ => none

/-- The first part in a list that stands too deep. -/
def anyTooDeep? (depth : Nat) : List Tree → Option Span
  | [] => none
  | part :: rest => (part.tooDeep? depth).orElse fun _ => anyTooDeep? depth rest
end

@[simp] theorem ofParts_nil (span : Span) : ofParts span [] = vacant span := rfl

@[simp] theorem ofParts_singleton (span : Span) (part : Tree) : ofParts span [part] = part := rfl

end Tree
end PromptShell.Pattern
