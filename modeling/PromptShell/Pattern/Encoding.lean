import PromptShell.Pattern.Ranges
import PromptShell.Text.Utf8
namespace PromptShell.Pattern

/-- The ranges of bytes that follow each other in the encodings of some characters. -/
abbrev ByteRanges := List (Nat × Nat)

namespace Ranges

/-- Where a range of numbers has to be cut so that the bytes of its encodings are independent of
each other: at a change of the number of bytes, and where a byte does not run through all its
values while one in front of it changes. -/
def cut? (low high : Nat) : Option Nat :=
  let lengths := [0x80, 0x800, 0x10000].filter fun bound => low < bound && bound ≤ high
  let bytes := [0x40, 0x1000, 0x40000].findSome? fun unit =>
    if low / unit = high / unit then none
    else if low % unit ≠ 0 then some ((low / unit + 1) * unit)
    else if high % unit ≠ unit - 1 then some (high / unit * unit)
    else none
  lengths.head?.orElse fun _ => if high < 0x80 then none else bytes

/-- The pieces of a range of numbers between its cuts. -/
def pieces (low high : Nat) : Ranges :=
  match cut? low high with
  | none => [(low, high)]
  | some middle =>
      if low < middle ∧ middle ≤ high then pieces low (middle - 1) ++ pieces middle high
      else [(low, high)]
termination_by high - low

/-- The numbers of a set that characters have; the surrogates are left out. -/
def withoutSurrogates (ranges : Ranges) : Ranges :=
  ranges.flatMap fun range =>
    [(range.1, min range.2 0xD7FF), (max range.1 0xE000, range.2)].filter fun part =>
      part.1 ≤ part.2

/-- The encodings of the characters of a set. -/
def encodings (ranges : Ranges) : List ByteRanges :=
  ranges.withoutSurrogates.flatMap fun range => (pieces range.1 range.2).map fun piece =>
    let bytes (number : Nat) : List Nat := (Utf8.encodeChar (Char.ofNat number)).map UInt8.toNat
    (bytes piece.1).zip (bytes piece.2)

end Ranges
end PromptShell.Pattern
