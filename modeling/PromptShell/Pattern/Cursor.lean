import PromptShell.Pattern.Tree
import PromptShell.Text.Blank
namespace PromptShell.Pattern

/-- The place that was reached, what is behind it, and whether the writing is loose. -/
structure Cursor where
  place : Nat
  rest : List Char
  loose : Bool := false
  deriving Repr

namespace Cursor

/-- The character at the place. -/
def next? (cursor : Cursor) : Option Char := cursor.rest.head?

/-- The character behind the one at the place. -/
def second? (cursor : Cursor) : Option Char := cursor.rest.tail.head?

/-- The text has ended. -/
def isAtEnd (cursor : Cursor) : Bool := cursor.rest.isEmpty

/-- A number of characters are passed. -/
def skip (cursor : Cursor) (count : Nat) : Cursor :=
  { cursor with place := cursor.place + (cursor.rest.take count).length,
                rest := cursor.rest.drop count }

/-- One character is passed. -/
def bump (cursor : Cursor) : Cursor := cursor.skip 1

/-- The number of characters that blanks and remarks take up at the front of a text. -/
def idleLength (inRemark : Bool) : List Char → Nat
  | [] => 0
  | character :: rest =>
      if inRemark then idleLength (character ≠ '\n') rest + 1
      else if isBlank character then idleLength false rest + 1
      else if character = '#' then idleLength true rest + 1
      else 0

/-- In loose writing, blanks and remarks are passed. -/
def skipIdle (cursor : Cursor) : Cursor :=
  if cursor.loose then cursor.skip (idleLength false cursor.rest) else cursor

/-- One character is passed, and what counts for nothing behind it. -/
def advance (cursor : Cursor) : Cursor := cursor.bump.skipIdle

/-- The character behind the one at the place and behind what counts for nothing; a remark is not
looked through. -/
def secondBehindIdle? (cursor : Cursor) : Option Char :=
  let behind := cursor.rest.tail
  if !cursor.loose then behind.head?
  else
    let solid := behind.dropWhile isBlank
    let found := match solid with
      | '#' :: remark => remark.dropWhile isBlank
      | _ => solid
    if found.isEmpty then behind.head? else found.head?

/-- The text at the place starts with the given one, which is then passed. -/
def accept? (cursor : Cursor) (text : String) : Option Cursor :=
  if text.toList.isPrefixOf cursor.rest then some (cursor.skip text.toList.length) else none

/-- The empty span at the place. -/
def here (cursor : Cursor) : Span := ⟨cursor.place, cursor.place⟩

/-- The span of the character at the place. -/
def charSpan (cursor : Cursor) : Span := ⟨cursor.place, cursor.bump.place⟩

/-- The span from an earlier place up to this one. -/
def since (cursor : Cursor) (start : Nat) : Span := ⟨start, cursor.place⟩

/-- A character that satisfies a condition is passed as long as there is one; the characters that
were passed come first. -/
def takeWhile (cursor : Cursor) (wanted : Char → Bool) : List Char × Cursor :=
  let taken := cursor.rest.takeWhile wanted
  (taken, cursor.skip taken.length)

/-- Skipping never makes the rest longer. -/
theorem skip_rest_length_le (cursor : Cursor) (count : Nat) :
    (cursor.skip count).rest.length ≤ cursor.rest.length := by
  simp [skip]

/-- Passing a character makes the rest shorter, unless the text has ended. -/
theorem bump_rest_length_lt (cursor : Cursor) (more : cursor.rest ≠ []) :
    cursor.bump.rest.length < cursor.rest.length := by
  cases rest : cursor.rest with
  | nil => exact absurd rest more
  | cons character others => simp [bump, skip, rest]

/-- Passing a character and what counts for nothing makes the rest shorter, too. -/
theorem advance_rest_length_lt (cursor : Cursor) (more : cursor.rest ≠ []) :
    cursor.advance.rest.length < cursor.rest.length := by
  have shorter := cursor.bump_rest_length_lt more
  simp only [advance, skipIdle]
  split
  · exact Nat.lt_of_le_of_lt (skip_rest_length_le _ _) shorter
  · exact shorter

/-- Like `takeWhile`, but what counts for nothing is passed behind each character. -/
def gather (cursor : Cursor) (wanted : Char → Bool) : List Char × Cursor :=
  match _ : cursor.rest with
  | [] => ([], cursor)
  | character :: _ =>
      if wanted character then
        let others := cursor.advance.gather wanted
        (character :: others.1, others.2)
      else ([], cursor)
termination_by cursor.rest.length
decreasing_by exact cursor.advance_rest_length_lt (by simp [*])

end Cursor
end PromptShell.Pattern
