import PromptShell.Proofs.FixedBuffer
import PromptShell.Proofs.Layout
namespace PromptShell

/-- A text has no words exactly if it holds separators only. -/
theorem Word.split_eq_nil_iff (text : String) : split text = [] ↔ IsGap text := by
  constructor
  · intro none
    obtain ⟨layout, proper, rfl⟩ := Layout.exists_proper text
    have pieces : layout.pieces.map Piece.word = [] := by
      rw [← Layout.located_texts (Utf8.size layout.lead), ← Layout.words, ← proper.split, none]
      rfl
    rw [List.map_eq_nil_iff] at pieces
    have lead : layout.text = layout.lead := by
      rw [Layout.text, pieces]
      exact String.append_empty
    rw [lead]
    exact proper.lead
  · intro gap
    have proper : Layout.Proper ⟨text, []⟩ := ⟨gap, .nil⟩
    have same : Layout.text ⟨text, []⟩ = text := String.append_empty
    have words := proper.split
    rw [same] at words
    exact words

namespace Arguments

/-- The bytes of an entry of the list: the place where a word starts and its size, of 64 bits
each. -/
def entryWidth : Nat := 16

/-- Behind each word of a text that is stored the list of the words has room for one entry more, and
for no more than a step. The number of the stored words tells its capacity and all growths up to
there, and these are exact in 64 bits wherever an allocator gave room for them. Where there is room
for the words of the text, their number tells the records of the growths and the capacity of the
list, and nothing else about the text or the allocator does. The entries are the words in their
order, and behind the last one there is none; there is no first one exactly if the text holds
separators only. -/
theorem cut_keeps_room (step : Nat) (text : String) (allocator : Allocator)
    (small : step < UInt64.size) (given : allocator 0 (max step 1) = true)
    (gives : allocator.Gives (max step 1) 0 (Word.split text).length) :
    let size := max step 1
    let cutting := cut step text allocator
    ∃ arguments, cutting.answer = .ok arguments ∧ arguments.words = Word.split text ∧
      arguments.texts = wordsOf text ∧
      (∀ stored later, Word.split text = stored ++ later →
        let list := (Buffer.empty size).pushAll stored
        list.items.toList = stored ∧
          Buffer.Sized size stored.length list.capacity list.growths.toList ∧
          list.NeverWraps entryWidth size) ∧
      Buffer.Sized size arguments.words.length arguments.capacity cutting.growths ∧
      (∀ {World : Type} (session : Session World), session.settings.argumentStep = step →
        session.memory.words 0 = allocator →
        logOf (session.cut text).events = cutting.growths.map .argumentsGrown) ∧
      (∀ (index : Nat) (inside : index < arguments.words.length),
        arguments.get? index = some arguments.words[index].text) ∧
      (∀ index, arguments.words.length ≤ index → arguments.get? index = none) ∧
      (arguments.command? = none ↔ IsGap text) ∧
      ∀ (other : String) (room : Allocator) (others : Arguments),
        (cut step other room).answer = .ok others →
        others.words.length = arguments.words.length →
          others.capacity = arguments.capacity ∧
            (cut step other room).growths = cutting.growths := by
  intro size cutting
  have whole : cutting = _ := cut_of_gives given gives
  refine ⟨_, congrArg Cutting.answer whole, rfl, Word.split_texts text,
    fun stored _ _ => Buffer.pushAll_sized (by decide) small stored, ?_, ?_, ?_, ?_, ?_, ?_⟩
  · rw [whole]
    exact Buffer.sized_capacityFor (by omega) _
  · rintro World session rfl rfl
    -- A step of zero is used as one, and a clamped step stays what it is.
    have clamped : session.cutting text = cutting := by
      simp only [cutting, Session.cutting, cut, Settings.argumentGrowth, Nat.max_assoc,
        Nat.max_self]
    change logOf (session.cuttingEvents text) = _
    rw [Session.cuttingEvents, logOf_logged, clamped]
  · intro index inside
    rw [get?, texts, List.getElem?_map, List.getElem?_eq_getElem inside]
    rfl
  · intro index behind
    rw [get?, texts, List.getElem?_map, List.getElem?_eq_none behind]
    rfl
  · rw [← Word.split_eq_nil_iff, command?, get?, List.getElem?_eq_none_iff, Nat.le_zero,
      List.length_eq_zero_iff, texts, List.map_eq_nil_iff]
  · intro other room others otherAnswer same
    obtain ⟨rfl, otherGrowths⟩ := eq_of_cut otherAnswer
    change (Word.split other).length = (Word.split text).length at same
    rw [otherGrowths, whole, same]
    exact ⟨rfl, rfl⟩

/-- Four words fill two steps of two entries: the list has grown twice, the fifth entry holds none,
and four other words take a list of the same size where there is room for more. -/
theorem cut_keeps_room_full :
    let text := "say  a\tb c"
    let other := "w\x07x y z\n"
    let stored : List Word := [⟨0, "say"⟩, ⟨5, "a"⟩]
    let allocator : Allocator := fun held more => 16 * (held + more) ≤ byteLimit
    2 < UInt64.size ∧ allocator 0 (max 2 1) = true ∧
      allocator.Gives (max 2 1) 0 (Word.split text).length ∧ allocator.Within entryWidth ∧
      (∃ fixed, FixedBuffer.fill? allocator 2 stored = some fixed ∧
        fixed.capacity.toNat = 4) ∧
      (cut 2 text allocator).growths = [4, 6] ∧
      ∃ arguments others, (cut 2 text allocator).answer = .ok arguments ∧
        (cut 2 other).answer = .ok others ∧ arguments.capacity = 6 ∧
        others.capacity = arguments.capacity ∧ arguments.get? 3 = some "c" ∧
        arguments.get? 4 = none ∧ arguments.command? ≠ none := by
  intro text other stored allocator
  have small : 2 < UInt64.size := by decide
  have firstRoom : allocator 0 (max 2 1) = true := by decide
  have within : allocator.Within entryWidth := fun held more given => of_decide_eq_true given
  have split : Word.split text = stored ++ [⟨7, "b"⟩, ⟨9, "c"⟩] := by decide +kernel
  have otherSplit : (Word.split other).length = 4 := by decide +kernel
  have room (full : Nat) (below : full ≤ 4) : allocator full (max 2 1) = true := by
    apply decide_eq_true
    exact Nat.le_trans (Nat.mul_le_mul_left 16 (Nat.add_le_add_right below 2)) (by decide)
  have gives : allocator.Gives (max 2 1) 0 (Word.split text).length := by
    rw [split]
    exact fun full _ below _ => room full below
  have standard : Allocator.standard.Allows (max 2 1) := Allocator.standard_allows (by decide)
  obtain ⟨arguments, answer, words, -, turns, sized, -, get, behind, first, alike⟩ :=
    cut_keeps_room 2 text allocator small firstRoom gives
  obtain ⟨others, otherAnswer, otherWords, -⟩ :=
    cut_keeps_room 2 other .standard small (standard 0) (standard.gives 0 _)
  rw [split] at words
  have count : arguments.words.length = 4 := congrArg List.length words
  have same : others.words.length = arguments.words.length := by
    rw [otherWords, otherSplit, count]
  obtain ⟨items, size, wraps⟩ := turns stored _ split
  have given : ∀ full ≤ ((Buffer.empty (max 2 1)).pushAll stored).items.size,
      allocator full (max 2 1) = true := by
    intro full below
    rw [← Array.length_toList, items] at below
    change full ≤ 2 at below
    exact room full (by omega)
  obtain ⟨fixed, filled, counts⟩ := wraps.reached within given
  rw [items] at filled
  have two : stored.length = 2 := rfl
  have capacity : fixed.capacity.toNat = 4 := by
    rw [counts.capacity, size.multiple, two]
    rfl
  refine ⟨small, firstRoom, gives, within, ⟨fixed, filled, capacity⟩, ?_, arguments, others,
    answer, otherAnswer, ?_, (alike other .standard others otherAnswer same).1, ?_, ?_, ?_⟩
  · rw [sized.steps, count]
    rfl
  · rw [sized.multiple, count]
    rfl
  · rw [get 3 (by rw [count]; decide)]
    simp only [words]
    rfl
  · exact behind 4 (Nat.le_of_eq count)
  · rw [ne_eq, first]
    decide

end Arguments
end PromptShell
