namespace PromptShell.Pattern

/-- A set of characters by the ranges of their numbers, both ends included. -/
abbrev Ranges := List (Nat × Nat)

namespace Ranges

/-- The number of the last character. -/
def lastNumber : Nat := 0x10FFFF

/-- A number lies in one of the ranges. -/
def contains (ranges : Ranges) (number : Nat) : Bool :=
  ranges.any fun range => range.1 ≤ number && number ≤ range.2

/-- A range joins the set; it swallows the ranges that it touches. -/
def insert (low high : Nat) : Ranges → Ranges
  | [] => [(low, high)]
  | (first, last) :: rest =>
      if high + 1 < first then (low, high) :: (first, last) :: rest
      else if last + 1 < low then (first, last) :: insert low high rest
      else insert (min first low) (max last high) rest

/-- The set of given ranges, in any order. -/
def ofList (ranges : List (Nat × Nat)) : Ranges :=
  ranges.foldl (fun set range => set.insert range.1 range.2) []

/-- What lies in one of two sets. -/
def union (left right : Ranges) : Ranges :=
  right.foldl (fun set range => set.insert range.1 range.2) left

/-- The numbers from a start on that lie in no range. -/
def gapsFrom (start : Nat) : Ranges → Ranges
  | [] => if start ≤ lastNumber then [(start, lastNumber)] else []
  | (first, last) :: rest =>
      (if start < first then [(start, first - 1)] else []) ++ gapsFrom (last + 1) rest

/-- What lies outside of a set. -/
def complement (ranges : Ranges) : Ranges := gapsFrom 0 ranges

/-- What lies in both of two sets. -/
def intersection (left right : Ranges) : Ranges :=
  (left.complement.union right.complement).complement

/-- What lies in the first of two sets alone. -/
def difference (left right : Ranges) : Ranges := left.intersection right.complement

/-- What lies in exactly one of two sets. -/
def symmetricDifference (left right : Ranges) : Ranges :=
  (left.difference right).union (right.difference left)

/-- The set holds no character beyond ASCII. -/
def isAscii (ranges : Ranges) : Bool := ranges.all fun range => range.2 < 0x80

/-- The part of the latin letters in a set, moved by a distance. -/
def shiftedLetters (ranges : Ranges) (first last : Nat) (move : Nat → Nat) : Ranges :=
  (ranges.intersection [(first, last)]).map fun range => (move range.1, move range.2)

/-- The latin letters of a set are joined by the letters that differ in case alone. -/
def withBothCases (ranges : Ranges) : Ranges :=
  (ranges.union (ranges.shiftedLetters 0x41 0x5A (· + 0x20))).union
    (ranges.shiftedLetters 0x61 0x7A (· - 0x20))

@[simp] theorem contains_nil (number : Nat) : contains [] number = false := rfl

@[simp] theorem contains_cons (range : Nat × Nat) (rest : Ranges) (number : Nat) :
    contains (range :: rest) number =
      ((range.1 ≤ number && number ≤ range.2) || contains rest number) := rfl

end Ranges
end PromptShell.Pattern
