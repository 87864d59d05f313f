namespace PromptShell

/-- The ranges of the characters with the white-space property. -/
def blankRanges : List (Nat × Nat) :=
  [(0x09, 0x0D), (0x20, 0x20), (0x85, 0x85), (0xA0, 0xA0), (0x1680, 0x1680), (0x2000, 0x200A),
    (0x2028, 0x2029), (0x202F, 0x202F), (0x205F, 0x205F), (0x3000, 0x3000)]

/-- A blank character lies in one of the ranges. -/
def isBlank (character : Char) : Bool :=
  blankRanges.any fun range => range.1 ≤ character.toNat && character.toNat ≤ range.2

/-- The text without the blank characters at its end. -/
def trimEnd (text : String) : String :=
  String.ofList (text.toList.reverse.dropWhile isBlank).reverse

/-- A text whose last character is not blank is left as it is. -/
theorem trimEnd_of_last (body : List Char) (last : Char) (solid : isBlank last = false) :
    trimEnd (String.ofList (body ++ [last])) = String.ofList (body ++ [last]) := by
  simp [trimEnd, solid]

end PromptShell
