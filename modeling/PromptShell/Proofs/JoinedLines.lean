import PromptShell.Proofs.Deliveries
import PromptShell.Proofs.Encoding
namespace PromptShell

/-- The bytes of some texts as lines. Each text is ended by a newline, the last one only if the
lines are closed. -/
def joinLines (closed : Bool) : List String → Bytes
  | [] => []
  | [text] => Utf8.encode text ++ if closed then [newline] else []
  | text :: next :: rest => Utf8.encode text ++ newline :: joinLines closed (next :: rest)

/-- Texts that lines can hold: none has a newline in it, and a last one without a newline behind it
is not empty. -/
structure AreLines (closed : Bool) (texts : List String) : Prop where
  free : ∀ text ∈ texts, '\n' ∉ text.toList
  solid : closed = false → texts.getLast? ≠ some ""

theorem AreLines.tail {closed : Bool} {text : String} {rest : List String}
    (lines : AreLines closed (text :: rest)) : AreLines closed rest := by
  refine ⟨fun other member => lines.free other (List.mem_cons_of_mem text member), ?_⟩
  intro opened
  have last := lines.solid opened
  cases rest with
  | nil => simp
  | cons next more => rwa [List.getLast?_cons_cons] at last

theorem AreLines.cons {closed : Bool} {text : String} {rest : List String}
    (free : '\n' ∉ text.toList) (solid : closed = false → rest = [] → text ≠ "")
    (lines : AreLines closed rest) : AreLines closed (text :: rest) := by
  refine ⟨List.forall_mem_cons.mpr ⟨free, lines.free⟩, ?_⟩
  intro opened
  cases rest with
  | nil => simpa using solid opened rfl
  | cons next more =>
      rw [List.getLast?_cons_cons]
      exact lines.solid opened

/-- A text is joined to others, or to none, by a newline. -/
theorem joinLines_cons {closed : Bool} {rest : List String} (text : String)
    (ended : closed = true ∨ rest ≠ []) :
    joinLines closed (text :: rest) = Utf8.encode text ++ newline :: joinLines closed rest := by
  cases rest with
  | cons next more => rfl
  | nil =>
      obtain rfl := ended.resolve_right (by simp)
      rfl

/-- Only the newline has its byte. -/
theorem newline_mem_encode_iff (text : String) :
    newline ∈ Utf8.encode text ↔ '\n' ∈ text.toList :=
  Utf8.ascii_mem_encode_iff (show '\n'.toNat < 0x80 by decide) text

/-- Bytes without a newline belong to the first line. -/
theorem firstLine_append {held : Bytes} (free : newline ∉ held) (tail : Bytes) :
    firstLine (held ++ tail) = held ++ firstLine tail ∧
      afterLine (held ++ tail) = afterLine tail := by
  have other : ∀ byte ∈ held, (byte != newline) = true := by
    intro byte member
    have different : byte ≠ newline := fun equal => free (equal ▸ member)
    simpa using different
  rw [firstLine, afterLine, List.takeWhile_append_of_pos other, List.dropWhile_append_of_pos other]
  exact ⟨rfl, rfl⟩

/-- A newline ends the first line at once. -/
theorem firstLine_newline (rest : Bytes) :
    firstLine (newline :: rest) = [] ∧ afterLine (newline :: rest) = rest := by
  simp [firstLine, afterLine]

/-- The first of some joined texts is their first line, and the others are joined behind it. -/
theorem firstLine_joinLines {closed : Bool} {text : String} {rest : List String}
    (lines : AreLines closed (text :: rest)) :
    let bytes := joinLines closed (text :: rest)
    bytes ≠ [] ∧ firstLine bytes = Utf8.encode text ∧ afterLine bytes = joinLines closed rest := by
  have free : newline ∉ Utf8.encode text := by
    rw [newline_mem_encode_iff]
    exact lines.free text List.mem_cons_self
  have ended (rest : Bytes) : Utf8.encode text ++ newline :: rest ≠ [] ∧
      firstLine (Utf8.encode text ++ newline :: rest) = Utf8.encode text ∧
      afterLine (Utf8.encode text ++ newline :: rest) = rest := by
    obtain ⟨first, after⟩ := firstLine_append free (newline :: rest)
    obtain ⟨none, behind⟩ := firstLine_newline rest
    rw [first, after, none, behind, List.append_nil]
    exact ⟨by simp, rfl, rfl⟩
  cases rest with
  | cons next more => exact ended _
  | nil =>
      cases closed with
      | true => exact ended []
      | false =>
          have solid : Utf8.encode text ≠ [] := by
            simpa [Utf8.encode_eq_nil_iff] using lines.solid rfl
          obtain ⟨first, after⟩ := firstLine_append free []
          simp only [List.append_nil] at first after
          simp only [joinLines, Bool.false_eq_true, if_false, List.append_nil]
          exact ⟨solid, first.trans (List.append_nil _), after⟩

/-- The first line of a text's bytes and what is behind it are the bytes of texts. -/
theorem encode_cut (text : String) :
    ∃ first after : String, '\n' ∉ first.toList ∧
      firstLine (Utf8.encode text) = Utf8.encode first ∧
      afterLine (Utf8.encode text) = Utf8.encode after := by
  by_cases cut : '\n' ∈ text.toList
  · obtain ⟨front, behind, whole, free⟩ := List.eq_append_cons_of_mem cut
    have first : '\n' ∉ (String.ofList front).toList := by rwa [String.toList_ofList]
    have bytes : Utf8.encode text = Utf8.encode (String.ofList front) ++
        newline :: Utf8.encode (String.ofList behind) := by
      simp only [Utf8.encode, String.toList_ofList, whole, Utf8.encodeChars_append]
      rfl
    obtain ⟨line, after⟩ := firstLine_append (mt (newline_mem_encode_iff _).mp first)
      (newline :: Utf8.encode (String.ofList behind))
    obtain ⟨none, rest⟩ := firstLine_newline (Utf8.encode (String.ofList behind))
    rw [← bytes, none, List.append_nil] at line
    rw [← bytes, rest] at after
    exact ⟨_, _, first, line, after⟩
  · obtain ⟨line, after⟩ := firstLine_append (mt (newline_mem_encode_iff text).mp cut) []
    rw [List.append_nil] at line after
    exact ⟨text, "", cut, line.trans (List.append_nil _), after⟩

/-- Bytes are closed lines if there are none or the last one is a newline. -/
def closesLines (bytes : Bytes) : Bool := bytes.getLast?.all (· == newline)

theorem closesLines_eq_false_iff (bytes : Bytes) :
    closesLines bytes = false ↔ bytes ≠ [] ∧ bytes.getLast? ≠ some newline := by
  rw [closesLines, Ne, ← List.getLast?_eq_none_iff]
  cases bytes.getLast? <;> simp

/-- Bytes behind a newline close the lines if they do so alone. -/
theorem closesLines_newline (held rest : Bytes) :
    closesLines (held ++ newline :: rest) = closesLines rest := by
  rw [closesLines, closesLines, List.getLast?_append, List.getLast?_cons]
  cases rest.getLast? <;> rfl

/-- A line that is not ended does not close the lines. -/
theorem closesLines_free {held : Bytes} (free : newline ∉ held) (solid : held ≠ []) :
    closesLines held = false := by
  have last := List.getLast?_eq_some_getLast solid
  have other : held.getLast solid ≠ newline := fun equal => free (equal ▸ List.getLast_mem solid)
  simpa [closesLines, last] using other

/-- The lines of a text's bytes hold texts, and these are joined to the bytes. -/
theorem joinLines_textLines (text : String) :
    let bytes := Utf8.encode text
    AreLines (closesLines bytes) (textLines bytes) ∧
      joinLines (closesLines bytes) (textLines bytes) = bytes := by
  intro bytes
  have encoded : ∃ text, bytes = Utf8.encode text := ⟨text, rfl⟩
  clear_value bytes
  induction bytes using line_induct with
  | none => exact ⟨⟨by simp [textLines], by simp [textLines]⟩, rfl⟩
  | line bytes solid ih =>
      obtain ⟨text, rfl⟩ := encoded
      obtain ⟨first, after, free, line, behind⟩ := encode_cut text
      obtain ⟨lines, joined⟩ := ih ⟨after, behind⟩
      have texts : textLines (Utf8.encode text) = first :: textLines (Utf8.encode after) := by
        rw [textLines, rawLines_eq _ solid, List.map_cons, line, Utf8.decode_encode, behind]
        rfl
      rw [behind] at lines joined
      rcases firstLine_cases (Utf8.encode text) with cut | ⟨whole, none⟩
      · rw [line, behind] at cut
        have closed := closesLines_newline (Utf8.encode first) (Utf8.encode after)
        rw [← cut] at closed
        -- Nothing behind the newline closes the lines, too.
        have ended : closesLines (Utf8.encode after) = true ∨
            textLines (Utf8.encode after) ≠ [] := by
          by_cases empty : textLines (Utf8.encode after) = []
          · rw [empty] at joined
            exact Or.inl (joined ▸ rfl)
          · exact Or.inr empty
        rw [texts, closed, joinLines_cons first ended, joined, ← cut]
        refine ⟨lines.cons free ?_, rfl⟩
        intro opened empty
        rcases ended with ended | ended
        · rw [opened] at ended
          cases ended
        · exact absurd empty ended
      · rw [line] at whole
        rw [none] at behind
        have opened : closesLines (Utf8.encode text) = false := by
          rw [whole] at solid ⊢
          exact closesLines_free (mt (newline_mem_encode_iff _).mp free) solid
        have shown : first ≠ "" := by
          rintro rfl
          exact solid whole
        rw [texts, opened, ← behind, whole]
        refine ⟨.cons free (fun _ _ => shown) ⟨by simp [textLines], by simp [textLines]⟩, ?_⟩
        exact List.append_nil _

/-- Closed lines have one more newline if the same lines are not closed. -/
theorem joinLines_true (closed : Bool) {texts : List String} (solid : texts ≠ []) :
    joinLines true texts = joinLines closed texts ++ if closed then [] else [newline] := by
  induction texts with
  | nil => exact absurd rfl solid
  | cons text rest ih =>
      cases rest with
      | nil => cases closed <;> simp [joinLines]
      | cons next more =>
          rw [joinLines_cons text (by simp), joinLines_cons text (by simp), ih (by simp)]
          simp

namespace Line

/-- The texts that a number of readings answer with, one after the other. -/
def readTexts (step : Nat) (lines : Nat → Allocator) (count : Nat) (input : Input) :
    List (Except Failure (Option String)) :=
  (readTimes step lines count input).1.map fun answer => answer.map (Option.map Line.text)

theorem readTexts_succ (step : Nat) (lines : Nat → Allocator) (count : Nat) (input : Input) :
    readTexts step lines (count + 1) input =
      (read step input (lines 0)).answer.map (Option.map Line.text) ::
        readTexts step (fun index => lines (index + 1)) count
          (read step input (lines 0)).rest := rfl

variable {allocator : Allocator} {lines : Nat → Allocator} {step : Nat} {input : Input}
  {closed : Bool}

/-- A stream at its lasting end stays there. -/
theorem read_ended (allows : allocator.Allows (max step 1)) (ended : input.events = []) :
    (read step input allocator).answer = .ok none ∧
      Input.events (read step input allocator).rest = [] := by
  rw [read_answer allows, events_read allows, ended]
  exact ⟨rfl, rfl⟩

/-- A reading gives the first of some joined texts, and leaves the others. -/
theorem read_joined {text : String} {rest : List String} (allows : allocator.Allows (max step 1))
    (texts : AreLines closed (text :: rest))
    (delivered : input.events = (joinLines closed (text :: rest)).map .byte) :
    (read step input allocator).answer.map (Option.map Line.text) = .ok (some text) ∧
      Input.events (read step input allocator).rest = (joinLines closed rest).map .byte := by
  obtain ⟨solid, first, after⟩ := firstLine_joinLines texts
  obtain ⟨answer, behind⟩ := decision_line step _ solid
  rw [read_answer allows, events_read allows, delivered, answer, behind, first, after]
  refine ⟨?_, rfl⟩
  simp only [Except.map, Option.map, ofBytes_text, Utf8.decode_encode]

/-- Readings give joined texts back one by one, then the end of the stream, and leave the texts that
they have not come to. -/
theorem readTexts_joined {texts : List String}
    (allows : ∀ index, (lines index).Allows (max step 1)) (areLines : AreLines closed texts)
    (delivered : input.events = (joinLines closed texts).map .byte) (count : Nat) :
    readTexts step lines count input =
        (texts.take count).map (fun text => .ok (some text)) ++
          List.replicate (count - texts.length) (.ok none) ∧
      Input.events (readTimes step lines count input).2 =
        (joinLines closed (texts.drop count)).map .byte := by
  induction count generalizing texts input lines with
  | zero => exact ⟨by simp [readTexts, readTimes], delivered⟩
  | succ count ih =>
      rw [readTexts_succ]
      cases texts with
      | nil =>
          have nothing : AreLines closed [] := ⟨by simp, by simp⟩
          obtain ⟨answer, rest⟩ := read_ended (allows 0) delivered
          obtain ⟨texts, left⟩ := ih (fun index => allows (index + 1)) nothing rest
          rw [answer, texts]
          rw [List.drop_nil] at left ⊢
          refine ⟨?_, left⟩
          simp [List.replicate_succ, Except.map]
      | cons text more =>
          obtain ⟨answer, rest⟩ := read_joined (allows 0) areLines delivered
          obtain ⟨texts, left⟩ := ih (fun index => allows (index + 1)) areLines.tail rest
          rw [answer, texts]
          refine ⟨?_, left⟩
          simp

/-- Reading undoes joining, and joining undoes reading. Texts that are joined as lines are read back
in order, the empty ones among them, and then there is the end of the stream, again and again; the
bytes that are left behind each reading are those of the texts it has not come to. And the texts
that are read from the bytes of any text up to the end of the stream, each ended by a newline, are
these bytes, with one newline more exactly if the bytes do not end with one. -/
theorem readTexts_joinLines (step : Nat) (lines : Nat → Allocator)
    (allows : ∀ index, (lines index).Allows (max step 1)) (input : Input) :
    (∀ closed texts, AreLines closed texts →
        input.events = (joinLines closed texts).map .byte → ∀ count,
        readTexts step lines count input =
            (texts.take count).map (fun text => .ok (some text)) ++
              List.replicate (count - texts.length) (.ok none) ∧
          Input.bytes (readTimes step lines count input).2 =
            joinLines closed (texts.drop count)) ∧
      ∀ bytes : Bytes, bytes.toByteArray.IsValidUTF8 → input.events = bytes.map .byte →
        let texts := (readAll lines step input).map Line.text
        readTexts step lines (texts.length + 1) input =
            texts.map (fun text => .ok (some text)) ++ [.ok none] ∧
          joinLines true texts =
            bytes ++ if bytes ≠ [] ∧ bytes.getLast? ≠ some newline then [newline] else [] := by
  constructor
  · intro closed texts areLines delivered count
    obtain ⟨answers, left⟩ := readTexts_joined allows areLines delivered count
    exact ⟨answers, Input.bytes_of_events left⟩
  · intro bytes valid delivered texts
    obtain ⟨text, rfl⟩ := (Utf8.isValidUTF8_iff bytes).mp valid
    have same : texts = textLines (Utf8.encode text) :=
      readAll_texts allows input _ delivered
    obtain ⟨areLines, joined⟩ := joinLines_textLines text
    rw [← same] at areLines joined
    have whole := delivered
    rw [← joined] at whole
    refine ⟨?_, ?_⟩
    · have answers := (readTexts_joined allows areLines whole (texts.length + 1)).1
      rwa [List.take_of_length_le (by omega), Nat.add_sub_cancel_left] at answers
    · by_cases empty : texts = []
      · have none : Utf8.encode text = [] := by
          rw [← joined, empty]
          rfl
        simp [empty, none, joinLines]
      · rw [joinLines_true (closesLines (Utf8.encode text)) empty, joined]
        simp only [← closesLines_eq_false_iff]
        cases closesLines (Utf8.encode text) <;> rfl

/-- Texts with other marks that look like the end of a line, and an empty one, in blocks that cut a
character in two. -/
theorem readTexts_joinLines_opened :
    let texts := ["a\r", "", "\u2028é"]
    let bytes := joinLines false texts
    let input : Input := [.block (bytes.take 8), .failed (.named .interrupted),
      .block (bytes.drop 8)]
    let lines := Memory.standard.lines
    AreLines false texts ∧ input.events = bytes.map .byte ∧ bytes.toByteArray.IsValidUTF8 ∧
      (∀ index, (lines index).Allows (max 4 1)) ∧
      readTexts 4 lines 5 input =
        [.ok (some "a\r"), .ok (some ""), .ok (some "\u2028é"), .ok none, .ok none] ∧
      Input.bytes (readTimes 4 lines 1 input).2 = joinLines false ["", "\u2028é"] ∧
      joinLines true ((readAll lines 4 input).map Line.text) = bytes ++ [newline] := by
  intro texts bytes input lines
  have allows (index : Nat) : (lines index).Allows (max 4 1) :=
    Allocator.standard_allows (by decide)
  have areLines : AreLines false texts := ⟨by decide, by decide⟩
  have delivered : input.events = bytes.map .byte := by decide +kernel
  have valid : bytes.toByteArray.IsValidUTF8 :=
    (Utf8.isValidUTF8_iff bytes).mpr ⟨"a\r\n\n\u2028é", by decide +kernel⟩
  obtain ⟨reading, joining⟩ := readTexts_joinLines 4 lines allows input
  exact ⟨areLines, delivered, valid, allows, (reading false texts areLines delivered 5).1,
    (reading false texts areLines delivered 1).2, (joining bytes valid delivered).2⟩

end Line
end PromptShell
