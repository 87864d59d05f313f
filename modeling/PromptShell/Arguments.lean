import PromptShell.Failure
import PromptShell.Growth
import PromptShell.Text.Utf8
namespace PromptShell

/-- A separator stands between words and belongs to none. -/
def isSeparator (character : Char) : Bool := separators.contains character

/-- A word of a line and the byte at which it starts. -/
structure Word where
  offset : Nat
  text : String
  deriving Repr, DecidableEq

namespace Word

/-- The word that ends here, if any character was read since the last separator. The characters
are held with the latest one first. -/
def close (offset : Nat) : List Char → Option Word
  | [] => none
  | latest => some ⟨offset, String.ofList latest.reverse⟩

/-- The words of the characters, behind a word that started at an offset. `place` is the byte at
which the next character starts. -/
def scan (offset place : Nat) (latest : List Char) : List Char → List Word
  | [] => (close offset latest).toList
  | character :: rest =>
      let next := place + Utf8.charSize character
      if isSeparator character then
        match close offset latest with
        | none => scan next next [] rest
        | some word => word :: scan next next [] rest
      else scan offset next (character :: latest) rest

/-- The words of a text in order. -/
def split (text : String) : List Word := scan 0 0 [] text.toList

end Word

/-- The words of one line and the capacity of the list that holds them. -/
structure Arguments where
  words : List Word
  capacity : Nat
  deriving Repr, DecidableEq

namespace Arguments

/-- The texts of the words. -/
def texts (arguments : Arguments) : List String := arguments.words.map Word.text

/-- The word at a place; there is none at and behind the end. -/
def get? (arguments : Arguments) (index : Nat) : Option String := arguments.texts[index]?

/-- The first word names the command. -/
def command? (arguments : Arguments) : Option String := arguments.get? 0

/-- The answer of one cutting and the capacities that the list grew to. -/
structure Cutting where
  answer : Except Failure Arguments
  growths : List Nat

/-- A text is cut into words, held in a list that grows in steps of the given size. -/
def cut (step : Nat) (text : String) (allocator : Allocator := .standard) : Cutting :=
  match Buffer.allocate? allocator (max step 1) with
  | none => ⟨.error .allocation, []⟩
  | some buffer =>
      match buffer.storeAll allocator (Word.split text) with
      | .ok filled => ⟨.ok ⟨filled.items.toList, filled.capacity⟩, filled.growths.toList⟩
      | .error full => ⟨.error .allocation, full.growths.toList⟩

end Arguments
end PromptShell
