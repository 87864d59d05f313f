import PromptShell.Text.Utf8
namespace PromptShell.Raw

/-- The raw text of bytes has one character for each of them. A host knows bytes and no characters.
-/
def ofBytes (bytes : Bytes) : String :=
  String.ofList (bytes.map fun byte => Char.ofNat byte.toNat)

/-- The bytes of a raw text. -/
def toBytes (text : String) : Bytes :=
  text.toList.map fun character => UInt8.ofNat character.toNat

/-- The raw text of a text in characters. -/
def ofText (text : String) : String := ofBytes (Utf8.encode text)

/-- A raw text as it is shown, with replacement characters where it holds no characters. -/
def shown (text : String) : String := Utf8.decode (toBytes text)

/-- Nothing of the bytes is lost. -/
@[simp] theorem toBytes_ofBytes (bytes : Bytes) : toBytes (ofBytes bytes) = bytes := by
  have number (byte : UInt8) : UInt8.ofNat (Char.ofNat byte.toNat).toNat = byte := by
    have small : byte.toNat < 256 := byte.toNat_lt
    have valid : byte.toNat.isValidChar := Or.inl (by omega)
    have same : (Char.ofNat byte.toNat).toNat = byte.toNat := by
      rw [Char.ofNat, dif_pos valid]
      rfl
    rw [same]
    exact UInt8.ofNat_toNat
  simp [toBytes, ofBytes, number, Function.comp_def]

end PromptShell.Raw
