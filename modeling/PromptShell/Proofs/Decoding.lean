import PromptShell.Proofs.Reading
namespace PromptShell

namespace Utf8

/-- The character of a number is the one with this number, or the zero character. -/
theorem toNat_ofNat_or (number : Nat) :
    (Char.ofNat number).toNat = number ∨ Char.ofNat number = '\x00' := by
  by_cases valid : number.isValidChar
  · have known : Char.ofNat number = Char.ofNatAux number valid := dif_pos valid
    rw [known]
    exact Or.inl rfl
  · exact Or.inr (dif_neg valid)

/-- Every byte is the number of a character. -/
theorem toNat_ofNat_byte (byte : UInt8) : (Char.ofNat byte.toNat).toNat = byte.toNat := by
  have valid : byte.toNat.isValidChar := Or.inl (by have := byte.toNat_lt; omega)
  have known : Char.ofNat byte.toNat = Char.ofNatAux byte.toNat valid := dif_pos valid
  rw [known]
  rfl

/-- Cuts that are made at ASCII characters only, and not at the zero character. -/
def CutsAscii (cuts : Char → Bool) : Prop :=
  ∀ character, cuts character = true → 0 < character.toNat ∧ character.toNat < 0x80

/-- The bytes at which the same cuts are made. -/
def byteCuts (cuts : Char → Bool) (byte : UInt8) : Bool := cuts (Char.ofNat byte.toNat)

/-- No cut is made at a character beyond ASCII. -/
theorem CutsAscii.wide {cuts : Char → Bool} (ascii : CutsAscii cuts) {number : Nat}
    (wide : 0x80 ≤ number) : cuts (Char.ofNat number) = false := by
  cases cut : cuts (Char.ofNat number) with
  | false => rfl
  | true =>
      have range := ascii (Char.ofNat number) cut
      rcases toNat_ofNat_or number with same | zero
      · omega
      · rw [zero] at range
        exact absurd range.1 (by decide)

theorem CutsAscii.replacement {cuts : Char → Bool} (ascii : CutsAscii cuts) :
    cuts replacement = false := by
  simpa [Utf8.replacement] using ascii.wide (show 0x80 ≤ 0xFFFD by decide)

/-- A cut is made at ASCII bytes only. -/
theorem CutsAscii.byte_lt {cuts : Char → Bool} (ascii : CutsAscii cuts) {byte : UInt8}
    (cut : byteCuts cuts byte = true) : byte.toNat < 0x80 := by
  have range := ascii _ cut
  rw [toNat_ofNat_byte] at range
  exact range.2

/-- A character that still owes bytes will lie beyond ASCII: its bits so far and the least bits of
the next byte see to that. -/
def State.Wide : State → Prop
  | .between => True
  | .inside value 0 low _ => 0x80 ≤ value * 0x40 + low
  | .inside value (_ + 1) low _ => 2 ≤ value * 0x40 + low

theorem start_wide (byte : UInt8) : (start byte).2.Wide := by
  simp only [start]
  repeat' split
  all_goals simp only [State.Wide]
  all_goals omega

/-- Reading a byte keeps characters beyond ASCII. -/
theorem step_wide (state : State) (byte : UInt8) (wide : state.Wide) :
    (step state byte).2.Wide := by
  cases state with
  | between => exact start_wide byte
  | inside value owed low high =>
      simp only [step]
      by_cases inside : 0x80 + low ≤ byte.toNat ∧ byte.toNat ≤ 0x80 + high
      · rw [if_pos inside]
        cases owed with
        | zero => trivial
        | succ left =>
            simp only [State.Wide] at wide
            cases left <;> simp only [State.Wide] <;> omega
      · rw [if_neg inside]
        exact start_wide byte

theorem start_free {cuts : Char → Bool} (ascii : CutsAscii cuts) (byte : UInt8)
    (kept : byteCuts cuts byte = false) : ∀ character ∈ (start byte).1, cuts character = false := by
  simp only [start]
  repeat' split
  all_goals simp only [List.mem_singleton, List.not_mem_nil, forall_eq, false_implies, implies_true]
  · exact kept
  · exact ascii.replacement
  · exact ascii.replacement

/-- A byte that is no cut completes no character that is one. -/
theorem step_free {cuts : Char → Bool} (ascii : CutsAscii cuts) (state : State) (byte : UInt8)
    (wide : state.Wide) (kept : byteCuts cuts byte = false) :
    ∀ character ∈ (step state byte).1, cuts character = false := by
  cases state with
  | between => exact start_free ascii byte kept
  | inside value owed low high =>
      simp only [step]
      by_cases inside : 0x80 + low ≤ byte.toNat ∧ byte.toNat ≤ 0x80 + high
      · rw [if_pos inside]
        cases owed with
        | zero =>
            simp only [State.Wide] at wide
            simp only [List.mem_singleton, forall_eq]
            exact ascii.wide (by omega)
        | succ left => simp
      · rw [if_neg inside]
        intro character member
        rcases List.mem_cons.mp member with rfl | started
        · exact ascii.replacement
        · exact start_free ascii byte kept character started

theorem finish_free {cuts : Char → Bool} (ascii : CutsAscii cuts) (state : State) :
    ∀ character ∈ finish state, cuts character = false := by
  cases state with
  | between => simp [finish]
  | inside value owed low high => simpa [finish] using ascii.replacement

/-- Characters without a cut belong to the first piece. -/
theorem splitOnP_append_free {cuts : Char → Bool} (free rest : List Char)
    (uncut : ∀ character ∈ free, cuts character = false) :
    (free ++ rest).splitOnP cuts = (rest.splitOnP cuts).modifyHead (free ++ ·) := by
  induction free with
  | nil => cases pieces : rest.splitOnP cuts <;> simp [pieces]
  | cons character more ih =>
      have here := uncut character (by simp)
      have tail := ih fun other member => uncut other (by simp [member])
      rw [List.cons_append, List.splitOnP_cons_eq_if_modifyHead, here, tail]
      cases rest.splitOnP cuts <;> rfl

/-- The pieces of the characters are the characters of the pieces; only the first piece is read from
the state in which the reading stands. -/
theorem splitOnP_decodeFrom {cuts : Char → Bool} (ascii : CutsAscii cuts) (state : State)
    (wide : state.Wide) (bytes first : Bytes) (rest : List Bytes)
    (pieces : bytes.splitOnP (byteCuts cuts) = first :: rest) :
    (decodeFrom state bytes).splitOnP cuts =
      decodeFrom state first :: rest.map (decodeFrom .between) := by
  induction bytes generalizing state first rest with
  | nil =>
      simp only [List.splitOnP_nil, List.cons.injEq] at pieces
      obtain ⟨rfl, rfl⟩ := pieces
      exact List.splitOnP_eq_singleton (finish_free ascii state)
  | cons byte tail ih =>
      obtain ⟨next, others, tailPieces⟩ :=
        List.exists_cons_of_ne_nil (List.splitOnP_ne_nil (byteCuts cuts) tail)
      rw [List.splitOnP_cons_eq_if_modifyHead, tailPieces] at pieces
      by_cases cut : byteCuts cuts byte = true
      · rw [if_pos cut, List.cons.injEq] at pieces
        obtain ⟨rfl, rfl⟩ := pieces
        rw [decodeFrom_cons, step_ascii state byte (ascii.byte_lt cut), List.append_assoc,
          List.singleton_append,
          List.splitOnP_append_cons_of_forall_mem (finish_free ascii state) _ cut,
          ih .between trivial next others tailPieces]
        rfl
      · simp only [cut, Bool.false_eq_true, if_false, List.modifyHead_cons, List.cons.injEq]
          at pieces
        obtain ⟨rfl, rfl⟩ := pieces
        have free := step_free ascii state byte wide (by simpa using cut)
        rw [decodeFrom_cons, splitOnP_append_free _ _ free,
          ih _ (step_wide state byte wide) next others tailPieces]
        rfl

/-- The pieces of a decoded text are the decoded pieces of its bytes. -/
theorem splitOnP_decodeChars {cuts : Char → Bool} (ascii : CutsAscii cuts) (bytes : Bytes) :
    (decodeChars bytes).splitOnP cuts = (bytes.splitOnP (byteCuts cuts)).map decodeChars := by
  obtain ⟨first, rest, pieces⟩ :=
    List.exists_cons_of_ne_nil (List.splitOnP_ne_nil (byteCuts cuts) bytes)
  have same : decodeChars = decodeFrom .between := funext decodeChars_eq
  rw [same, splitOnP_decodeFrom ascii .between trivial bytes first rest pieces, pieces,
    List.map_cons]

/-- A character that still owes bytes is shown in the end. -/
theorem decodeFrom_inside_ne_nil (value owed low high : Nat) (bytes : Bytes) :
    decodeFrom (.inside value owed low high) bytes ≠ [] := by
  induction bytes generalizing value owed low high with
  | nil => simp [finish]
  | cons byte rest ih =>
      simp only [decodeFrom_cons, step]
      by_cases inside : 0x80 + low ≤ byte.toNat ∧ byte.toNat ≤ 0x80 + high
      · rw [if_pos inside]
        cases owed with
        | zero => simp
        | succ left => simpa using ih _ left 0 0x3F
      · rw [if_neg inside]
        simp

/-- Only no bytes give no characters. -/
theorem decodeChars_eq_nil_iff (bytes : Bytes) : decodeChars bytes = [] ↔ bytes = [] := by
  rw [decodeChars_eq]
  cases bytes with
  | nil => simp [finish]
  | cons byte rest =>
      simp only [decodeFrom_cons, step, start, List.cons_ne_nil, iff_false]
      repeat' split
      all_goals simp [decodeFrom_inside_ne_nil]

@[simp] theorem decode_toList (bytes : Bytes) : (decode bytes).toList = decodeChars bytes := by
  simp [decode]

end Utf8

/-- Lines are cut at an ASCII character. -/
theorem cutsAscii_newline : Utf8.CutsAscii (· == '\n') := by
  intro character cut
  obtain rfl : character = '\n' := by simpa using cut
  decide

/-- Words are cut at ASCII characters. -/
theorem cutsAscii_isSeparator : Utf8.CutsAscii isSeparator := by
  intro character cut
  simp only [isSeparator, separators, List.contains_iff_mem, List.mem_cons, List.not_mem_nil,
    or_false] at cut
  rcases cut with rfl | rfl | rfl | rfl | rfl <;> decide

/-- The bytes between the words of a line. -/
def separatorBytes : Bytes := [0x20, 0x09, 0x0D, 0x07]

/-- The byte of a character below 256 is told by its number. -/
theorem ofNat_byte_eq_iff (byte : UInt8) (character : Char) :
    Char.ofNat byte.toNat = character ↔ byte.toNat = character.toNat := by
  rw [← Char.toNat_inj, Utf8.toNat_ofNat_byte]

theorem byteCuts_newline : Utf8.byteCuts (· == '\n') = (· == newline) := by
  funext byte
  rw [Bool.eq_iff_iff, Utf8.byteCuts, beq_iff_eq, beq_iff_eq, ofNat_byte_eq_iff,
    ← UInt8.toNat_inj]
  rfl

/-- Inside a line the separators are four bytes; the fifth one is the newline. -/
theorem byteCuts_isSeparator (byte : UInt8) (inside : byte ≠ newline) :
    Utf8.byteCuts isSeparator byte = separatorBytes.contains byte := by
  have other : ¬ byte.toNat = '\n'.toNat := fun equal => inside (UInt8.toNat_inj.mp equal)
  rw [Bool.eq_iff_iff]
  simp only [Utf8.byteCuts, isSeparator, separators, separatorBytes, List.contains_iff_mem,
    List.mem_cons, List.not_mem_nil, or_false, ofNat_byte_eq_iff, other, false_or,
    ← UInt8.toNat_inj]
  exact Iff.rfl

/-- The lines of a decoded text are the decoded lines of its bytes. -/
theorem segments_decodeChars (bytes : Bytes) :
    segments (· == '\n') (Utf8.decodeChars bytes) = (rawLines bytes).map Utf8.decodeChars := by
  have pieces := Utf8.splitOnP_decodeChars cutsAscii_newline bytes
  rw [byteCuts_newline] at pieces
  exact segments_of_splitOnP Utf8.decodeChars pieces Utf8.decodeChars_eq_nil_iff

/-- The words of a decoded line are the decoded words of its bytes. -/
theorem runs_decodeChars (line : Bytes) (free : newline ∉ line) :
    runs isSeparator (Utf8.decodeChars line) =
      (runs separatorBytes.contains line).map Utf8.decodeChars := by
  have pieces := Utf8.splitOnP_decodeChars cutsAscii_isSeparator line
  have agree : ∀ byte ∈ line,
      Utf8.byteCuts isSeparator byte = separatorBytes.contains byte := by
    intro byte member
    exact byteCuts_isSeparator byte fun equal => free (equal ▸ member)
  rw [splitOnP_congr agree] at pieces
  exact runs_of_splitOnP Utf8.decodeChars pieces Utf8.decodeChars_eq_nil_iff

/-- The words of all lines as the shell finds them: one line after the other is read and decoded,
and its text is cut. -/
def readWords (memory : Memory) (lineStep argumentStep : Nat) (input : Input) :
    List (Except Failure (List String)) :=
  (Line.readAll memory.lines lineStep input).mapIdx fun index line =>
    (Arguments.cut argumentStep line.text (memory.words index)).answer.map Arguments.texts

/-- All bytes are decoded, and the text is cut into lines and these into words. -/
def decodedThenCut (bytes : Bytes) : List (List String) :=
  (segments (· == '\n') (Utf8.decode bytes).toList).map fun line => wordsOf (String.ofList line)

/-- The bytes are cut into lines and these into words, and each word is decoded for itself. -/
def cutThenDecoded (bytes : Bytes) : List (List String) :=
  (rawLines bytes).map fun line => (runs separatorBytes.contains line).map Utf8.decode

namespace Arguments

variable {allocator : Allocator} {step : Nat} {text : String}

/-- A list for which there is no room at all holds no words. -/
theorem cut_refused (refused : ¬ allocator 0 (max step 1) = true) :
    cut step text allocator = ⟨.error .allocation, []⟩ := by
  rw [cut, Buffer.allocate?, if_neg refused]

/-- Where there is room for all words of a text the list holds them, and their number tells how
large it is and how it has grown. -/
theorem cut_of_gives (given : allocator 0 (max step 1) = true)
    (gives : allocator.Gives (max step 1) 0 (Word.split text).length) :
    cut step text allocator =
      ⟨.ok ⟨Word.split text, Buffer.capacityFor (max step 1) (Word.split text).length⟩,
        Buffer.growthsFor (max step 1) (Word.split text).length⟩ := by
  have positive : 0 < max step 1 := by omega
  have regular := Buffer.regular_pushAll positive (Word.split text)
  have stored := Buffer.storeAll_of_gives positive gives
  rw [cut, Buffer.allocate?, if_pos given]
  simp only [stored, regular.holds, regular.capacity, regular.growths]

/-- A list that some words fill, and for which there is no room to grow, is not kept. It has grown
behind the full steps before. -/
theorem cut_of_refuses (given : allocator 0 (max step 1) = true) {count : Nat}
    (refuses : allocator.Refuses (max step 1) (count + 1))
    (short : count < (Word.split text).length) :
    cut step text allocator = ⟨.error .allocation, Buffer.growthsFor (max step 1) count⟩ := by
  have positive : 0 < max step 1 := by omega
  have parts := (Word.split text).take_append_drop count
  have length : ((Word.split text).take count).length = count :=
    List.length_take_of_le (Nat.le_of_lt short)
  rw [List.drop_eq_getElem_cons short] at parts
  have regular := Buffer.regular_pushAll positive ((Word.split text).take count)
  rw [← length] at refuses
  have stored := Buffer.storeAll_of_refuses positive refuses (Word.split text)[count]
    ((Word.split text).drop (count + 1))
  rw [parts] at stored
  rw [cut, Buffer.allocate?, if_pos given]
  simp only [stored, Buffer.stuck, regular.growths, length]

/-- A list that a cutting gives is filled with all words of the text, whatever room there was. -/
theorem eq_of_cut {arguments : Arguments}
    (answer : (cut step text allocator).answer = .ok arguments) :
    arguments = ⟨Word.split text, Buffer.capacityFor (max step 1) (Word.split text).length⟩ ∧
      (cut step text allocator).growths =
        Buffer.growthsFor (max step 1) (Word.split text).length := by
  by_cases given : allocator 0 (max step 1) = true
  · rcases allocator.gives_or_refuses (max step 1) (Word.split text).length with
      gives | ⟨full, short, refuses⟩
    · rw [cut_of_gives given gives] at answer ⊢
      exact ⟨(Except.ok.inj answer).symm, rfl⟩
    · obtain ⟨count, rfl⟩ := Nat.exists_eq_succ_of_ne_zero (Nat.ne_of_gt refuses.solid)
      rw [cut_of_refuses given refuses short] at answer
      cases answer
  · rw [cut_refused given] at answer
    cases answer

theorem cut_eq (allows : allocator.Allows (max step 1)) (text : String) :
    cut step text allocator =
      ⟨.ok ⟨Word.split text, Buffer.capacityFor (max step 1) (Word.split text).length⟩,
        Buffer.growthsFor (max step 1) (Word.split text).length⟩ :=
  cut_of_gives (allows 0) (allows.gives 0 _)

end Arguments

/-- Decoding a line and cutting it gives the words of its bytes. -/
theorem wordsOf_decode (line : Bytes) (free : newline ∉ line) :
    wordsOf (Utf8.decode line) = (runs separatorBytes.contains line).map Utf8.decode := by
  rw [wordsOf, Utf8.decode_toList, runs_decodeChars line free, List.map_map]
  rfl

/-- Decoding before all cutting, after all cutting, or between the two cuts, as the shell does,
gives the same words of the same lines. -/
theorem readWords_eq {memory : Memory} {lineStep argumentStep : Nat}
    (allows : memory.Allows (max lineStep 1) (max argumentStep 1)) (input : Input) (bytes : Bytes)
    (delivered : input.events = bytes.map .byte) :
    readWords memory lineStep argumentStep input = (decodedThenCut bytes).map .ok ∧
      decodedThenCut bytes = cutThenDecoded bytes := by
  have texts := Line.readAll_texts allows.lines input bytes delivered
  have cut (index : Nat) (text : String) :
      (Arguments.cut argumentStep text (memory.words index)).answer.map Arguments.texts =
        .ok (wordsOf text) := by
    rw [Arguments.cut_eq (allows.words index), Except.map, Arguments.texts, Word.split_texts]
  have whole : decodedThenCut bytes = (textLines bytes).map wordsOf := by
    simp only [decodedThenCut, Utf8.decode_toList, segments_decodeChars, textLines, List.map_map]
    rfl
  constructor
  · rw [whole, ← texts, readWords]
    simp only [cut]
    apply List.ext_getElem?
    simp only [List.getElem?_mapIdx, List.getElem?_map, List.map_map]
    intro _
    rfl
  · rw [whole, textLines, List.map_map]
    apply List.map_congr_left
    intro line member
    exact wordsOf_decode line (newline_notMem_rawLines member)

/-- A lead byte that the newline cuts short, with an interrupted read inside it, and a stray byte
inside a word. -/
theorem readWords_cut_short :
    let input : Input := [.block [0x61, 0x20, 0xE2], .failed (.named .interrupted),
      .block [0x82, 0x0A, 0x62, 0xFF, 0x63, 0x07]]
    let bytes : Bytes := [0x61, 0x20, 0xE2, 0x82, 0x0A, 0x62, 0xFF, 0x63, 0x07]
    Memory.standard.Allows (max 4 1) (max 0 1) ∧ input.events = bytes.map StreamEvent.byte ∧
      readWords .standard 4 0 input = [.ok ["a", "\uFFFD"], .ok ["b\uFFFDc"]] := by
  intro input bytes
  have allows : Memory.standard.Allows (max 4 1) (max 0 1) :=
    Memory.standard_allows (by decide) (by decide)
  have found := (readWords_eq allows input bytes rfl).1
  have words : decodedThenCut bytes = [["a", "\uFFFD"], ["b\uFFFDc"]] := by decide +kernel
  rw [words] at found
  exact ⟨allows, rfl, found⟩

end PromptShell
