import PromptShell.Pattern.Basic
namespace PromptShell.Pattern

/-- The parts of a row. The vacant pattern is the row without parts. -/
def parts : Pattern → List Pattern
  | vacant => []
  | sequence first second => first.parts ++ second.parts
  | other => [other]

/-- The branches of a choice. -/
def branches : Pattern → List Pattern
  | choice first second => first.branches ++ second.branches
  | other => [other]

/-- The number of the patterns inside a pattern, itself included. -/
def weight : Pattern → Nat
  | sequence first second | choice first second => first.weight + second.weight + 1
  | repetition _ _ _ body | group _ body => body.weight + 1
  | _ => 1

/-- The number of the patterns inside the patterns of a list. -/
def totalWeight : List Pattern → Nat
  | [] => 0
  | pattern :: rest => pattern.weight + totalWeight rest

/-- The branches of the patterns of a list. -/
def allBranches : List Pattern → List Pattern
  | [] => []
  | pattern :: rest => pattern.branches ++ allBranches rest

/-- Literals side by side become one. -/
def joinLiterals : List Pattern → List Pattern
  | [] => []
  | part :: rest =>
      match part, joinLiterals rest with
      | literal text, literal more :: others => literal (text ++ more) :: others
      | part, joined => part :: joined

/-- Given parts as a row. -/
def ofParts : List Pattern → Pattern
  | [] => vacant
  | [part] => part
  | part :: rest => sequence part (ofParts rest)

/-- Given branches as a choice. Without branches nothing is matched. -/
def ofBranches : List Pattern → Pattern
  | [] => oneOf []
  | [branch] => branch
  | branch :: rest => choice branch (ofBranches rest)

/-- Patterns one behind the other. -/
def inRow (patterns : List Pattern) : Pattern :=
  ofParts (joinLiterals (patterns.flatMap parts))

/-- A set of characters; a set of one is a literal. -/
def ofSet (set : Ranges) : Pattern :=
  match set with
  | [(first, last)] =>
      if first = last ∧ first.isValidChar then literal [Char.ofNat first] else oneOf set
  | _ => oneOf set

/-- The set of one character. -/
def character? : Pattern → Option Ranges
  | literal [character] => some [(character.toNat, character.toNat)]
  | _ => none

/-- The set of a pattern that is one. -/
def set? : Pattern → Option Ranges
  | oneOf set => some set
  | _ => none

/-- The characters among which branches choose, which are all characters or all sets. -/
def setAmong? (branches : List Pattern) : Option Ranges :=
  ((branches.mapM character?).orElse fun _ => branches.mapM set?).map fun sets =>
    sets.foldl Ranges.union []

/-- What two rows have in common at their front. -/
def commonFront : List Pattern → List Pattern → List Pattern
  | part :: rest, other :: others =>
      if part = other then part :: commonFront rest others else []
  | _, _ => []

/-- What rows of several parts have in common at their front. -/
def front (branches : List Pattern) : List Pattern :=
  match branches.map parts with
  | [] => []
  | first :: others =>
      if (first :: others).all fun row => 2 ≤ row.length then others.foldl commonFront first else []

/-- A row without its first parts. -/
def dropParts (count : Nat) (row : Pattern) : Pattern := ofParts (row.parts.drop count)

/-- A choice among patterns. -/
def among (patterns : List Pattern) : Pattern :=
  let flat := allBranches patterns
  if flat.length ≤ 1 then ofBranches flat
  else match setAmong? flat with
    | some set => ofSet set
    | none =>
        let shared := front flat
        let rests := flat.map (dropParts shared.length)
        if shared.isEmpty then ofBranches flat
        else if totalWeight rests < totalWeight patterns then inRow (shared ++ [among rests])
        else ofBranches flat
termination_by totalWeight patterns

/-- The pattern can match nothing but the empty text. -/
def takesNothing : Pattern → Bool
  | vacant | anchor _ => true
  | literal _ | oneOf _ => false
  | sequence first second | choice first second => first.takesNothing && second.takesNothing
  | repetition _ most _ body => most.isSome && body.takesNothing
  | group _ body => body.takesNothing

/-- A pattern that is repeated. -/
def repeated (least : Nat) (most : Option Nat) (lazily : Bool) (body : Pattern) : Pattern :=
  let least := if body.takesNothing then min least 1 else least
  let most := if body.takesNothing then some (min (most.getD 1) 1) else most
  if most = some 0 then vacant
  else if least = 1 ∧ most = some 1 then body
  else repetition least most lazily body

@[simp] theorem inRow_nil : inRow [] = vacant := rfl

end PromptShell.Pattern
