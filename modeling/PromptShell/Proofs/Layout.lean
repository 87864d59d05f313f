import PromptShell.Proofs.Encoding
import PromptShell.Proofs.GrowthSteps
namespace PromptShell

namespace Utf8

/-- The size of a text is the one that the standard library gives it. -/
theorem size_eq (text : String) : size text = text.utf8ByteSize := by
  have same : (encode text).toByteArray = text.toByteArray := by
    rw [encode, encodeChars, funext encodeChar_eq]
    exact String.utf8Encode_toList
  rw [← encode_length, ← List.size_toByteArray, same, String.size_toByteArray]

theorem size_cons (character : Char) (rest : List Char) :
    size (String.ofList (character :: rest)) = charSize character + size (String.ofList rest) := by
  simp only [size, String.toList_ofList, List.foldr_cons]

end Utf8

/-- Separators only, if anything. -/
def IsGap (text : String) : Prop := ∀ character ∈ text.toList, isSeparator character = true

/-- Something, and no separator in it. -/
def IsWord (text : String) : Prop :=
  text ≠ "" ∧ ∀ character ∈ text.toList, isSeparator character = false

-- The characters of the text are looked at, and not all characters that there are.
instance (text : String) : Decidable (IsGap text) := List.decidableBAll _ text.toList

instance (text : String) : Decidable (IsWord text) :=
  @instDecidableAnd _ _ inferInstance (List.decidableBAll _ text.toList)

/-- A word and the separators behind it. -/
structure Piece where
  word : String
  gap : String

/-- A text by its words: the separators in front of the first one, and each word with those behind
it. -/
structure Layout where
  lead : String
  pieces : List Piece

namespace Layout

/-- The text of pieces. -/
def join (pieces : List Piece) : String :=
  String.join (pieces.map fun piece => piece.word ++ piece.gap)

/-- The text that is laid out. -/
def text (layout : Layout) : String := layout.lead ++ join layout.pieces

/-- The words of pieces that start at a byte, each at the byte behind everything before it. -/
def located (place : Nat) : List Piece → List Word
  | [] => []
  | piece :: rest =>
      ⟨place, piece.word⟩ :: located (place + Utf8.size piece.word + Utf8.size piece.gap) rest

/-- The words of a layout and the bytes of its text at which they start. -/
def words (layout : Layout) : List Word := located (Utf8.size layout.lead) layout.pieces

/-- Pieces of words and separators, with at least one separator between two words. -/
inductive Spaced : List Piece → Prop
  | nil : Spaced []
  | cons {piece : Piece} {rest : List Piece} (word : IsWord piece.word) (gap : IsGap piece.gap)
      (apart : rest ≠ [] → piece.gap ≠ "") (following : Spaced rest) : Spaced (piece :: rest)

/-- A proper layout has separators in front of spaced pieces. -/
structure Proper (layout : Layout) : Prop where
  lead : IsGap layout.lead
  spaced : Spaced layout.pieces

theorem join_cons (piece : Piece) (rest : List Piece) :
    join (piece :: rest) = piece.word ++ (piece.gap ++ join rest) := by
  rw [join, List.map_cons, String.join_cons, String.append_assoc]
  rfl

/-- The words of a layout are those of its pieces. -/
theorem located_texts (place : Nat) (pieces : List Piece) :
    (located place pieces).map Word.text = pieces.map Piece.word := by
  induction pieces generalizing place with
  | nil => rfl
  | cons piece rest ih => rw [located, List.map_cons, List.map_cons, ih]

end Layout

namespace Word

/-- A scan between words passes over separators. -/
theorem scan_gap (place : Nat) (gap rest : List Char)
    (separates : ∀ character ∈ gap, isSeparator character = true) :
    scan place place [] (gap ++ rest) =
      scan (place + Utf8.size (String.ofList gap)) (place + Utf8.size (String.ofList gap)) []
        rest := by
  induction gap generalizing place with
  | nil => rfl
  | cons character more ih =>
      obtain ⟨separator, separates⟩ := List.forall_mem_cons.mp separates
      rw [List.cons_append, scan, if_pos separator, close]
      change scan (place + Utf8.charSize character) (place + Utf8.charSize character) []
        (more ++ rest) = _
      rw [ih _ separates, Utf8.size_cons, Nat.add_assoc]

/-- A scan holds the characters of a word, the latest one first. -/
theorem scan_word (offset place : Nat) (latest word rest : List Char)
    (free : ∀ character ∈ word, isSeparator character = false) :
    scan offset place latest (word ++ rest) =
      scan offset (place + Utf8.size (String.ofList word)) (word.reverse ++ latest) rest := by
  induction word generalizing place latest with
  | nil => rfl
  | cons character more ih =>
      obtain ⟨inside, free⟩ := List.forall_mem_cons.mp free
      rw [List.cons_append, scan, if_neg (by rw [inside]; decide), ih _ _ free, Utf8.size_cons,
        List.reverse_cons, List.append_assoc, ← Nat.add_assoc]
      rfl

/-- The end of a line or a separator closes the word that a scan holds. -/
theorem scan_closes (offset place : Nat) {latest : List Char} (solid : latest ≠ [])
    (gap : List Char) (separates : ∀ character ∈ gap, isSeparator character = true)
    (rest : List Char) (apart : rest ≠ [] → gap ≠ []) :
    scan offset place latest (gap ++ rest) =
      ⟨offset, String.ofList latest.reverse⟩ ::
        scan (place + Utf8.size (String.ofList gap)) (place + Utf8.size (String.ofList gap)) []
          rest := by
  have closed : close offset latest = some ⟨offset, String.ofList latest.reverse⟩ := by
    cases latest with
    | nil => exact absurd rfl solid
    | cons character more => rfl
  cases gap with
  | nil =>
      have last : rest = [] := by
        by_contra more
        exact apart more rfl
      rw [last, List.append_nil, scan, closed]
      rfl
  | cons separator more =>
      obtain ⟨first, separates⟩ := List.forall_mem_cons.mp separates
      rw [List.cons_append, scan, if_pos first, closed]
      change _ :: scan (place + Utf8.charSize separator) (place + Utf8.charSize separator) []
        (more ++ rest) = _
      rw [scan_gap _ _ _ separates, Utf8.size_cons, Nat.add_assoc]

end Word

namespace Layout

/-- A text of pieces that is not empty has pieces. -/
theorem ne_nil_of_join {pieces : List Piece} (solid : (join pieces).toList ≠ []) :
    pieces ≠ [] := by
  rintro rfl
  exact solid rfl

/-- A scan of spaced pieces gives their words. -/
theorem Spaced.scan {pieces : List Piece} (spaced : Spaced pieces) (place : Nat) :
    Word.scan place place [] (join pieces).toList = located place pieces := by
  induction spaced generalizing place with
  | nil => rfl
  | @cons piece rest word gap apart following ih =>
      have solid : piece.word.toList.reverse ≠ [] := by
        rw [ne_eq, List.reverse_eq_nil_iff, String.toList_eq_nil_iff]
        exact word.1
      have separated : (join rest).toList ≠ [] → piece.gap.toList ≠ [] := by
        intro more
        rw [ne_eq, String.toList_eq_nil_iff]
        exact apart (ne_nil_of_join more)
      rw [join_cons, String.toList_append, String.toList_append,
        Word.scan_word _ _ _ _ _ word.2, List.append_nil,
        Word.scan_closes _ _ solid _ gap _ separated, List.reverse_reverse, String.ofList_toList,
        String.ofList_toList, ih, located]

/-- Cutting a text that is laid out properly gives the words of the layout. -/
theorem Proper.split {layout : Layout} (proper : layout.Proper) :
    Word.split layout.text = layout.words := by
  rw [Word.split, text, String.toList_append, Word.scan_gap _ _ _ proper.lead, String.ofList_toList,
    Nat.zero_add, proper.spaced.scan]
  rfl

/-- A character in front of a text goes to the separators in front of it, to its first word, or is
a word of its own. -/
theorem Proper.cons {layout : Layout} (proper : layout.Proper) (character : Char) :
    ∃ longer : Layout, longer.Proper ∧
      longer.text = String.ofList [character] ++ layout.text := by
  obtain ⟨lead, pieces⟩ := layout
  obtain ⟨gap, spaced⟩ := proper
  have empty : IsGap "" := by
    intro other member
    cases member
  by_cases separator : isSeparator character = true
  · refine ⟨⟨String.ofList [character] ++ lead, pieces⟩, ⟨?_, spaced⟩, ?_⟩
    · rw [IsGap, String.toList_append, String.toList_ofList]
      exact List.forall_mem_cons.mpr ⟨separator, gap⟩
    · rw [text, text, String.append_assoc]
  · have inside : isSeparator character = false := Bool.not_eq_true _ ▸ separator
    by_cases free : pieces ≠ [] → lead ≠ ""
    · have word : IsWord (String.ofList [character]) := by
        refine ⟨by simp, ?_⟩
        rw [String.toList_ofList]
        exact List.forall_mem_singleton.mpr inside
      refine ⟨⟨"", ⟨String.ofList [character], lead⟩ :: pieces⟩,
        ⟨empty, .cons word gap free spaced⟩, ?_⟩
      rw [text, text, join_cons, String.empty_append]
    · -- The text starts with its first word, which becomes longer.
      obtain ⟨some, rfl⟩ : pieces ≠ [] ∧ lead = "" := by
        rw [Classical.not_imp, not_not] at free
        exact free
      cases spaced with
      | nil => exact absurd rfl some
      | @cons piece rest word behind apart following =>
          have longer : IsWord (String.ofList [character] ++ piece.word) := by
            refine ⟨by simp, ?_⟩
            rw [String.toList_append, String.toList_ofList]
            exact List.forall_mem_cons.mpr ⟨inside, word.2⟩
          refine ⟨⟨"", ⟨String.ofList [character] ++ piece.word, piece.gap⟩ :: rest⟩,
            ⟨empty, .cons longer behind apart following⟩, ?_⟩
          rw [text, text, join_cons, join_cons, String.empty_append, String.empty_append,
            String.append_assoc]

/-- Every text is laid out properly. -/
theorem exists_proper (text : String) : ∃ layout : Layout, layout.Proper ∧ layout.text = text := by
  obtain ⟨characters, rfl⟩ : ∃ characters, String.ofList characters = text :=
    ⟨text.toList, String.ofList_toList⟩
  induction characters with
  | nil =>
      refine ⟨⟨"", []⟩, ⟨?_, .nil⟩, rfl⟩
      intro character member
      cases member
  | cons character rest ih =>
      obtain ⟨layout, proper, same⟩ := ih
      obtain ⟨longer, fine, more⟩ := proper.cons character
      refine ⟨longer, fine, ?_⟩
      rw [more, same, ← String.ofList_append, List.singleton_append]

/-- A word stands in a text at the byte at which it starts, which is the size of the text before
it. -/
theorem located_stands {place : Nat} {pieces : List Piece} {word : Word}
    (member : word ∈ located place pieces) :
    ∃ before after, join pieces = before ++ word.text ++ after ∧
      place + before.utf8ByteSize = word.offset := by
  induction pieces generalizing place with
  | nil => cases member
  | cons piece rest ih =>
      rw [located, List.mem_cons] at member
      rcases member with rfl | member
      · refine ⟨"", piece.gap ++ join rest, ?_, rfl⟩
        rw [join_cons, String.empty_append]
      · obtain ⟨before, after, whole, start⟩ := ih member
        refine ⟨piece.word ++ piece.gap ++ before, after, ?_, ?_⟩
        · rw [join_cons, whole]
          simp only [String.append_assoc]
        · rw [String.utf8ByteSize_append, String.utf8ByteSize_append, ← Utf8.size_eq piece.word,
            ← Utf8.size_eq piece.gap, ← start]
          omega

/-- No word starts before the pieces start. -/
theorem le_offset {place : Nat} {pieces : List Piece} {word : Word}
    (member : word ∈ located place pieces) : place ≤ word.offset := by
  obtain ⟨before, after, whole, start⟩ := located_stands member
  omega

/-- Between two words of spaced pieces there is at least one byte. -/
theorem Spaced.pairwise {pieces : List Piece} (spaced : Spaced pieces) (place : Nat) :
    (located place pieces).Pairwise fun first second =>
      first.offset + first.text.utf8ByteSize < second.offset := by
  induction spaced generalizing place with
  | nil => exact .nil
  | @cons piece rest word gap apart following ih =>
      refine .cons ?_ (ih _)
      intro second member
      have more : rest ≠ [] := by
        rintro rfl
        cases member
      have wide : piece.gap.utf8ByteSize ≠ 0 := by
        rw [ne_eq, String.utf8ByteSize_eq_zero_iff]
        exact apart more
      have behind := le_offset member
      rw [Utf8.size_eq, Utf8.size_eq] at behind
      change place + piece.word.utf8ByteSize < second.offset
      omega

/-- Words with something between each two of them, and nothing around them. -/
def joined (texts gaps : List String) : Layout := ⟨"", List.zipWith Piece.mk texts (gaps ++ [""])⟩

/-- Words are spaced pieces with some separators between each two of them. -/
theorem joined_spaced {texts gaps : List String} (words : ∀ text ∈ texts, IsWord text)
    (separate : ∀ gap ∈ gaps, IsGap gap ∧ gap ≠ "") (count : gaps.length = texts.length - 1) :
    Spaced (joined texts gaps).pieces ∧ (joined texts gaps).pieces.map Piece.word = texts := by
  unfold joined
  induction texts generalizing gaps with
  | nil => exact ⟨.nil, rfl⟩
  | cons text rest ih =>
      obtain ⟨word, words⟩ := List.forall_mem_cons.mp words
      cases gaps with
      | nil =>
          obtain rfl : rest = [] := List.length_eq_zero_iff.mp count.symm
          refine ⟨.cons word ?_ (fun more => absurd rfl more) .nil, rfl⟩
          intro character member
          cases member
      | cons gap more =>
          obtain ⟨⟨gap, solid⟩, separate⟩ := List.forall_mem_cons.mp separate
          have left : more.length = rest.length - 1 := by
            rw [List.length_cons, List.length_cons] at count
            omega
          obtain ⟨following, same⟩ := ih words separate left
          exact ⟨.cons word gap (fun _ => solid) following, congrArg (text :: ·) same⟩

/-- The words of spaced pieces are not empty and have no separator in them. -/
theorem Spaced.words {pieces : List Piece} (spaced : Spaced pieces) :
    ∀ text ∈ pieces.map Piece.word, IsWord text := by
  induction spaced with
  | nil =>
      intro text member
      cases member
  | cons word gap apart following ih => exact List.forall_mem_cons.mpr ⟨word, ih⟩

end Layout

/-- A word is the slice of a text at the byte at which it starts: what stands before it is as long
as its offset says. -/
def Word.IsSliceOf (word : Word) (text : String) : Prop :=
  ∃ before after, text = before ++ word.text ++ after ∧ before.utf8ByteSize = word.offset

/-- A slice starts and ends between two characters. -/
theorem Word.IsSliceOf.bounds {word : Word} {text : String} (slice : word.IsSliceOf text) :
    (String.Pos.Raw.mk word.offset).IsValid text ∧
      (String.Pos.Raw.mk (word.offset + word.text.utf8ByteSize)).IsValid text := by
  obtain ⟨before, after, rfl, start⟩ := slice
  rw [String.Pos.Raw.isValid_iff_exists_append, String.Pos.Raw.isValid_iff_exists_append]
  refine ⟨⟨before, word.text ++ after, String.append_assoc, ?_⟩,
    ⟨before ++ word.text, after, rfl, ?_⟩⟩
  · rw [← start]
    rfl
  · rw [← start, ← String.utf8ByteSize_append]
    rfl

/-- The words of a layout are slices of its text. -/
theorem Layout.words_slices (layout : Layout) :
    ∀ word ∈ layout.words, word.IsSliceOf layout.text := by
  intro word member
  obtain ⟨before, after, whole, start⟩ := located_stands member
  refine ⟨layout.lead ++ before, after, ?_, ?_⟩
  · rw [text, whole]
    simp only [String.append_assoc]
  · rw [String.utf8ByteSize_append, ← Utf8.size_eq layout.lead, start]

namespace Arguments

/-- The texts of the words that a cutting gives are those of the layouts of its text. -/
theorem cut_texts {allocator : Allocator} {step : Nat} (allows : allocator.Allows (max step 1))
    {layout : Layout} (proper : layout.Proper) :
    (cut step layout.text allocator).answer.map texts = .ok (layout.pieces.map Piece.word) := by
  have parts : (cut step layout.text allocator).answer.map texts =
      ((cut step layout.text allocator).answer.map words).map (List.map Word.text) := by
    cases (cut step layout.text allocator).answer <;> rfl
  rw [parts, cut_words allows layout.text, proper.split]
  exact congrArg Except.ok (Layout.located_texts _ layout.pieces)

/-- Cutting a text finds its words. Every text is laid out in words, none of them empty or with a
separator in it, with separators around them and at least one between two words. The words of the
cutting are the words of this layout, and of each other one of the text, so they are the only ones.
Each of them is the slice of the text that starts at its offset, at the bounds of characters, and
ends before the next one starts. Conversely, however words are laid out, cutting the text gives
these words in their order, so the words of a text that are put together again with some separators
between each two of them are found again. Nothing but the five separators separates. -/
theorem cut_layout (step : Nat) (allocator : Allocator) (allows : allocator.Allows (max step 1)) :
    (∀ text : String, ∃ layout : Layout, layout.Proper ∧ layout.text = text ∧
      (cut step text allocator).answer.map words = .ok layout.words ∧
      (∀ other : Layout, other.Proper → other.text = text → other.words = layout.words) ∧
      (∀ word ∈ layout.words, word.IsSliceOf text ∧
        (String.Pos.Raw.mk word.offset).IsValid text ∧
        (String.Pos.Raw.mk (word.offset + word.text.utf8ByteSize)).IsValid text) ∧
      layout.words.Pairwise fun first second =>
        first.offset + first.text.utf8ByteSize < second.offset) ∧
      (∀ layout : Layout, layout.Proper →
        (cut step layout.text allocator).answer.map texts =
          .ok (layout.pieces.map Piece.word)) ∧
      (∀ (text : String) (found gaps : List String),
        (cut step text allocator).answer.map texts = .ok found →
        (∀ gap ∈ gaps, IsGap gap ∧ gap ≠ "") → gaps.length = found.length - 1 →
        (cut step (Layout.joined found gaps).text allocator).answer.map texts = .ok found) ∧
      ∀ character, isSeparator character = true ↔
        character = ' ' ∨ character = '\t' ∨ character = '\r' ∨ character = '\n' ∨
          character = '\x07' := by
  refine ⟨?_, fun layout proper => cut_texts allows proper, ?_, ?_⟩
  · intro text
    obtain ⟨layout, proper, rfl⟩ := Layout.exists_proper text
    refine ⟨layout, proper, rfl, ?_, ?_, ?_, proper.spaced.pairwise _⟩
    · rw [cut_words allows layout.text, proper.split]
    · intro other otherProper same
      rw [← otherProper.split, same, proper.split]
    · intro word member
      have slice := layout.words_slices word member
      exact ⟨slice, slice.bounds⟩
  · intro text found gaps answer separate count
    obtain ⟨layout, proper, rfl⟩ := Layout.exists_proper text
    rw [cut_texts allows proper] at answer
    obtain rfl : layout.pieces.map Piece.word = found := by injection answer
    obtain ⟨spaced, same⟩ := Layout.joined_spaced proper.spaced.words separate count
    have none : IsGap "" := by
      intro character member
      cases member
    rw [cut_texts allows ⟨none, spaced⟩, same]
  · intro character
    rw [isSeparator, List.contains_iff_mem]
    simp only [separators, List.mem_cons, List.not_mem_nil, or_false]

/-- Wide characters, quotes, a backslash, a form feed and a blank that does not separate. -/
theorem cut_layout_wide :
    let layout : Layout :=
      ⟨"\x07", [⟨"é\u00a0a", " \t"⟩, ⟨"\"ü", " "⟩, ⟨"\\\x0c", "\r\n"⟩]⟩
    Allocator.standard.Allows (max 0 1) ∧ layout.Proper ∧
      layout.text = "\x07é\u00a0a \t\"ü \\\x0c\r\n" ∧
      (cut 0 layout.text).answer.map words =
        .ok [⟨1, "é\u00a0a"⟩, ⟨8, "\"ü"⟩, ⟨12, "\\\x0c"⟩] ∧
      (cut 0 layout.text).answer.map texts = .ok ["é\u00a0a", "\"ü", "\\\x0c"] ∧
      (cut 0 "é\u00a0a\x07\x07\"ü\n\\\x0c").answer.map texts =
        .ok ["é\u00a0a", "\"ü", "\\\x0c"] := by
  intro layout
  have allows : Allocator.standard.Allows (max 0 1) := Allocator.standard_allows (by decide)
  have apart (gap : String) (solid : gap ≠ "") (rest : List Piece) : rest ≠ [] → gap ≠ "" :=
    fun _ => solid
  have proper : layout.Proper := by
    refine ⟨by decide +kernel, ?_⟩
    refine .cons (by decide +kernel) (by decide +kernel) (apart _ (by decide) _) ?_
    refine .cons (by decide +kernel) (by decide +kernel) (apart _ (by decide) _) ?_
    exact .cons (by decide +kernel) (by decide +kernel) (apart _ (by decide) _) .nil
  obtain ⟨each, laid, again, -⟩ := cut_layout 0 .standard allows
  obtain ⟨own, -, -, answer, only, -⟩ := each layout.text
  have places : layout.words = [⟨1, "é\u00a0a"⟩, ⟨8, "\"ü"⟩, ⟨12, "\\\x0c"⟩] := by
    decide +kernel
  rw [← only layout proper rfl, places] at answer
  have found : (cut 0 layout.text).answer.map texts =
      .ok ["é\u00a0a", "\"ü", "\\\x0c"] := laid layout proper
  have rejoined : (Layout.joined ["é\u00a0a", "\"ü", "\\\x0c"] ["\x07\x07", "\n"]).text =
      "é\u00a0a\x07\x07\"ü\n\\\x0c" := by
    decide +kernel
  have foundAgain := again layout.text _ ["\x07\x07", "\n"] found (by decide +kernel) rfl
  rw [rejoined] at foundAgain
  exact ⟨allows, proper, by decide +kernel, answer, found, foundAgain⟩

end Arguments
end PromptShell
