import PromptShell.Arguments
namespace PromptShell

variable {Item Image : Type}

/-- The pieces of a list between the items at which it is cut. An empty last piece is none: the list
ended with a cut, or was empty. -/
def segments (cuts : Item → Bool) (items : List Item) : List (List Item) :=
  let pieces := items.splitOnP cuts
  pieces.dropLast ++ (pieces.getLast?.filter fun piece => !piece.isEmpty).toList

/-- The pieces of a list that hold anything. -/
def runs (cuts : Item → Bool) (items : List Item) : List (List Item) :=
  (items.splitOnP cuts).filter fun piece => !piece.isEmpty

/-- The words of a text. -/
def wordsOf (text : String) : List String := (runs isSeparator text.toList).map String.ofList

/-- The first cut ends the first piece. -/
theorem segments_cut (cuts : Item → Bool) (first rest : List Item) (item : Item)
    (free : ∀ other ∈ first, cuts other = false) (cut : cuts item = true) :
    segments cuts (first ++ item :: rest) = first :: segments cuts rest := by
  obtain ⟨head, tail, pieces⟩ := List.exists_cons_of_ne_nil (List.splitOnP_ne_nil cuts rest)
  simp only [segments, List.splitOnP_append_cons_of_forall_mem free item cut, pieces,
    List.dropLast_cons_cons, List.getLast?_cons_cons, List.cons_append]

/-- A list without a cut is one piece. -/
theorem segments_free (cuts : Item → Bool) (items : List Item)
    (free : ∀ item ∈ items, cuts item = false) (solid : items ≠ []) :
    segments cuts items = [items] := by
  simp [segments, List.splitOnP_eq_singleton free, solid]

/-- Two ways to tell the cuts give the same pieces if they agree on the list. -/
theorem splitOnP_congr {first second : Item → Bool} {items : List Item}
    (agree : ∀ item ∈ items, first item = second item) :
    items.splitOnP first = items.splitOnP second := by
  induction items with
  | nil => rfl
  | cons item rest ih =>
      have same := agree item (by simp)
      have tail := ih fun other member => agree other (by simp [member])
      simp only [List.splitOnP_cons_eq_if_modifyHead, same, tail]

/-- A change of the pieces that leaves none but the empty one empty changes the segments one by
one. -/
theorem segments_of_splitOnP {cuts : Item → Bool} {imageCuts : Image → Bool} {items : List Item}
    {images : List Image} (change : List Item → List Image)
    (pieces : images.splitOnP imageCuts = (items.splitOnP cuts).map change)
    (empty : ∀ piece, change piece = [] ↔ piece = []) :
    segments imageCuts images = (segments cuts items).map change := by
  have same (piece : List Item) : (change piece).isEmpty = piece.isEmpty := by
    rw [Bool.eq_iff_iff, List.isEmpty_iff, List.isEmpty_iff, empty]
  simp only [segments, pieces, List.map_append, List.map_dropLast, List.getLast?_map,
    Option.filter_map, Function.comp_def, same, Option.toList_map]

/-- Such a change also changes the runs one by one. -/
theorem runs_of_splitOnP {cuts : Item → Bool} {imageCuts : Image → Bool} {items : List Item}
    {images : List Image} (change : List Item → List Image)
    (pieces : images.splitOnP imageCuts = (items.splitOnP cuts).map change)
    (empty : ∀ piece, change piece = [] ↔ piece = []) :
    runs imageCuts images = (runs cuts items).map change := by
  have same (piece : List Item) : (change piece).isEmpty = piece.isEmpty := by
    rw [Bool.eq_iff_iff, List.isEmpty_iff, List.isEmpty_iff, empty]
  simp only [runs, pieces, List.filter_map, Function.comp_def, same]

namespace Word

/-- The word that a separator closes is the run of the characters before it. -/
theorem close_texts (offset : Nat) (latest : List Char) :
    (close offset latest).toList.map Word.text =
      ([latest.reverse].filter fun piece => !piece.isEmpty).map String.ofList := by
  cases latest <;> simp [close]

/-- A scan finds the runs of what is left, the first of them behind the characters that it holds. -/
theorem scan_texts (offset place : Nat) (latest characters : List Char) :
    (scan offset place latest characters).map Word.text =
      ((characters.splitOnPPrepend isSeparator latest).filter fun piece =>
        !piece.isEmpty).map String.ofList := by
  induction characters generalizing offset place latest with
  | nil => simpa [scan] using close_texts offset latest
  | cons character rest ih =>
      rw [List.splitOnPPrepend_cons_eq_if]
      by_cases separator : isSeparator character = true
      · have closed : scan offset place latest (character :: rest) =
            (close offset latest).toList ++ scan (place + Utf8.charSize character)
              (place + Utf8.charSize character) [] rest := by
          simp only [scan, separator, if_true]
          cases close offset latest <;> rfl
        rw [closed, List.map_append, close_texts, ih, if_pos separator, ← List.map_append,
          ← List.filter_append]
        rfl
      · simp only [scan, separator, Bool.false_eq_true, if_false, ih]

/-- The words that one pass finds are the runs of the text. -/
theorem split_texts (text : String) : (split text).map Word.text = wordsOf text := by
  simp only [split, scan_texts, List.splitOnPPrepend_nil_right, wordsOf, runs]

end Word
end PromptShell
