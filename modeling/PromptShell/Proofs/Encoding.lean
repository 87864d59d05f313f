import PromptShell.Proofs.Decoding
namespace PromptShell.Utf8

/-- A byte behind the first one of a character adds six bits to it. -/
theorem step_follow {value owed low high bits : Nat} (least : low ≤ bits) (most : bits ≤ high)
    (small : bits < 0x40) :
    step (.inside value owed low high) (UInt8.ofNat (0x80 + bits)) =
      match owed with
      | 0 => ([Char.ofNat (value * 0x40 + bits)], .between)
      | left + 1 => ([], .inside (value * 0x40 + bits) left 0 0x3F) := by
  have number : (UInt8.ofNat (0x80 + bits)).toNat = 0x80 + bits := by
    rw [UInt8.toNat_ofNat']
    omega
  have within : 0x80 + low ≤ 0x80 + bits ∧ 0x80 + bits ≤ 0x80 + high := by omega
  cases owed <;>
    simp only [step, number, within, and_self, if_true, Nat.add_sub_cancel_left]

/-- The first of two bytes. -/
theorem start_two : ∀ lead < 0x20, 2 ≤ lead →
    start (UInt8.ofNat (0xC0 + lead)) = ([], .inside lead 0 0 0x3F) := by
  decide

/-- The first of three bytes. The bounds on the second one leave out the shorter forms and the
surrogates. -/
theorem start_three : ∀ lead < 0x10,
    start (UInt8.ofNat (0xE0 + lead)) =
      ([], .inside lead 1 (if lead = 0 then 0x20 else 0) (if lead = 0xD then 0x1F else 0x3F)) := by
  decide

/-- The first of four bytes. The bounds on the second one leave out the shorter forms and what is
behind the last character. -/
theorem start_four : ∀ lead < 5,
    start (UInt8.ofNat (0xF0 + lead)) =
      ([], .inside lead 2 (if lead = 0 then 0x10 else 0) (if lead = 4 then 0xF else 0x3F)) := by
  decide

section Lengths

variable {value : Nat} (rest : Bytes)

theorem decodeFrom_one (small : value < 0x80) :
    decodeFrom .between (UInt8.ofNat value :: rest) =
      Char.ofNat value :: decodeFrom .between rest := by
  have number : (UInt8.ofNat value).toNat = value := by
    rw [UInt8.toNat_ofNat']
    omega
  rw [decodeFrom_cons, step_ascii _ _ (by omega), number]
  rfl

theorem decodeFrom_two (least : 0x80 ≤ value) (small : value < 0x800) :
    decodeFrom .between (UInt8.ofNat (0xC0 + value / 0x40) ::
        UInt8.ofNat (0x80 + value % 0x40) :: rest) =
      Char.ofNat value :: decodeFrom .between rest := by
  have whole : value / 0x40 * 0x40 + value % 0x40 = value := by omega
  have first := start_two (value / 0x40) (by omega) (by omega)
  rw [decodeFrom_cons, step, first, decodeFrom_cons,
    step_follow (by omega) (by omega) (by omega)]
  simp only [whole, List.nil_append, List.singleton_append]

theorem decodeFrom_three (least : 0x800 ≤ value) (small : value < 0x10000)
    (valid : value < 0xD800 ∨ 0xDFFF < value) :
    decodeFrom .between (UInt8.ofNat (0xE0 + value / 0x1000) ::
        UInt8.ofNat (0x80 + value / 0x40 % 0x40) :: UInt8.ofNat (0x80 + value % 0x40) :: rest) =
      Char.ofNat value :: decodeFrom .between rest := by
  have whole :
      (value / 0x1000 * 0x40 + value / 0x40 % 0x40) * 0x40 + value % 0x40 = value := by omega
  have first := start_three (value / 0x1000) (by omega)
  rw [decodeFrom_cons, step, first, decodeFrom_cons,
    step_follow (by split <;> omega) (by split <;> omega) (by omega), decodeFrom_cons,
    step_follow (by omega) (by omega) (by omega)]
  simp only [whole, List.nil_append, List.singleton_append]

theorem decodeFrom_four (least : 0x10000 ≤ value) (small : value < 0x110000) :
    decodeFrom .between (UInt8.ofNat (0xF0 + value / 0x40000) ::
        UInt8.ofNat (0x80 + value / 0x1000 % 0x40) :: UInt8.ofNat (0x80 + value / 0x40 % 0x40) ::
          UInt8.ofNat (0x80 + value % 0x40) :: rest) =
      Char.ofNat value :: decodeFrom .between rest := by
  have whole : ((value / 0x40000 * 0x40 + value / 0x1000 % 0x40) * 0x40 +
      value / 0x40 % 0x40) * 0x40 + value % 0x40 = value := by omega
  have first := start_four (value / 0x40000) (by omega)
  rw [decodeFrom_cons, step, first, decodeFrom_cons,
    step_follow (by split <;> omega) (by split <;> omega) (by omega), decodeFrom_cons,
    step_follow (by omega) (by omega) (by omega), decodeFrom_cons,
    step_follow (by omega) (by omega) (by omega)]
  simp only [whole, List.nil_append, List.singleton_append]

end Lengths

/-- The number of a character is no surrogate and not too large. -/
theorem toNat_valid (character : Char) :
    character.toNat < 0xD800 ∨ 0xDFFF < character.toNat ∧ character.toNat < 0x110000 :=
  character.valid

/-- The bytes of a character are read as this character. -/
theorem decodeFrom_encodeChar (character : Char) (rest : Bytes) :
    decodeFrom .between (encodeChar character ++ rest) =
      character :: decodeFrom .between rest := by
  have valid := toNat_valid character
  have back := Char.ofNat_toNat character
  simp only [encodeChar]
  split
  · rename_i one
    rw [List.singleton_append, decodeFrom_one rest one, back]
  · split
    · rename_i one two
      rw [List.cons_append, List.singleton_append, decodeFrom_two rest (by omega) two, back]
    · split
      · rename_i one two three
        rw [List.cons_append, List.cons_append, List.singleton_append,
          decodeFrom_three rest (by omega) three (by omega), back]
      · rw [List.cons_append, List.cons_append, List.cons_append, List.singleton_append,
          decodeFrom_four rest (by omega) (by omega), back]

/-- The bytes of characters are read as these characters. -/
theorem decodeChars_encodeChars (characters : List Char) :
    decodeChars (encodeChars characters) = characters := by
  rw [decodeChars_eq]
  induction characters with
  | nil => rfl
  | cons character rest ih => rw [encodeChars_cons, decodeFrom_encodeChar, ih]

/-- The bytes of a text are decoded to this text. -/
@[simp] theorem decode_encode (text : String) : decode (encode text) = text := by
  rw [decode, encode, decodeChars_encodeChars, String.ofList_toList]

/-- Only the empty text has no bytes. -/
theorem encode_eq_nil_iff (text : String) : encode text = [] ↔ text = "" := by
  constructor
  · intro none
    rw [← decode_encode text, none]
    rfl
  · rintro rfl
    rfl

/-- A small byte in the bytes of a character is the number of the character. -/
theorem toNat_of_mem_encodeChar {byte : UInt8} {character : Char}
    (member : byte ∈ encodeChar character) (small : byte.toNat < 0x80) :
    byte.toNat = character.toNat := by
  have number (value : Nat) : (UInt8.ofNat value).toNat = value % 256 := UInt8.toNat_ofNat'
  have valid := toNat_valid character
  simp only [encodeChar] at member
  repeat' split at member
  all_goals
    simp only [List.mem_cons, List.not_mem_nil, or_false] at member
    rcases member with rfl | rfl | rfl | rfl <;> rw [number] at small ⊢ <;> omega

/-- An ASCII character is in a text exactly if its byte is among the bytes of the text. -/
theorem ascii_mem_encode_iff {character : Char} (small : character.toNat < 0x80) (text : String) :
    UInt8.ofNat character.toNat ∈ encode text ↔ character ∈ text.toList := by
  have number : (UInt8.ofNat character.toNat).toNat = character.toNat := by
    rw [UInt8.toNat_ofNat']
    omega
  rw [encode, encodeChars, List.mem_flatMap]
  constructor
  · rintro ⟨other, member, byte⟩
    have same := toNat_of_mem_encodeChar byte (by omega)
    have equal : other = character := Char.toNat_inj.mp (same.symm.trans number)
    exact equal ▸ member
  · intro member
    refine ⟨character, member, ?_⟩
    rw [encodeChar, if_pos small]
    exact List.mem_singleton_self _

/-- The bytes of a character are those that the standard library gives it. -/
theorem encodeChar_eq (character : Char) :
    encodeChar character = String.utf8EncodeChar character := by
  have valid := toNat_valid character
  have same : character.val.toNat = character.toNat := rfl
  simp only [encodeChar, String.utf8EncodeChar, same]
  generalize character.toNat = value at valid
  repeat' split
  -- Where both sides have the same number of bytes, these are equal one by one.
  all_goals first
    | omega
    | rfl
    | (simp only [List.cons.injEq, and_true]
       repeat' apply And.intro
       all_goals exact congrArg UInt8.ofNat (by omega))

/-- The bytes of texts are the valid UTF-8. -/
theorem isValidUTF8_iff (bytes : Bytes) :
    bytes.toByteArray.IsValidUTF8 ↔ ∃ text, encode text = bytes := by
  have encoded (text : String) : (encode text).toByteArray = text.toList.utf8Encode := by
    rw [encode, encodeChars, funext encodeChar_eq]
    rfl
  constructor
  · rintro ⟨characters, same⟩
    refine ⟨String.ofList characters, ?_⟩
    rw [← List.toByteArray_inj, encoded, String.toList_ofList, same]
  · rintro ⟨text, rfl⟩
    exact ⟨text.toList, encoded text⟩

end PromptShell.Utf8
