import PromptShell.Pattern.Escape
import PromptShell.Text.Quoted
namespace PromptShell.Quoted

/-- Where a reader of a quoted text stands: between two characters, behind a backslash, in front of
a number, within one, or behind the closing quote. -/
inductive Stand where
  | between
  | escaped
  | announced
  | number (value : Nat)
  | closed
  deriving Repr, DecidableEq

/-- The letters that stand behind a backslash, each with the character that it means. -/
def escapes : List (Char × Char) :=
  [('0', '\x00'), ('t', '\t'), ('n', '\n'), ('r', '\r'), ('"', '"'), ('\\', '\\')]

/-- One character is read: the characters that it completes, and where the reader stands behind
it. -/
def step : Stand → Char → Option (List Char × Stand)
  | .between, character =>
      if character = '"' then some ([], .closed)
      else if character = '\\' then some ([], .escaped)
      else some ([character], .between)
  | .escaped, character =>
      if character = 'u' then some ([], .announced)
      else (escapes.lookup character).map fun meant => ([meant], .between)
  | .announced, character => if character = '\x7b' then some ([], .number 0) else none
  | .number value, character =>
      if character = '\x7d' then some ([Char.ofNat value], .between)
      else (Pattern.Escape.hexValue? character).map fun digit =>
        ([], .number (16 * value + digit))
  | .closed, _ => none

/-- The characters that are read up to the closing quote, which must be the last one. -/
def read (stand : Stand) : List Char → Option (List Char)
  | [] => if stand = .closed then some [] else none
  | character :: rest =>
      match step stand character with
      | some (told, next) => (read next rest).map (told ++ ·)
      | none => none

/-- The text that a quoted form tells. -/
def decode (form : String) : Option String :=
  match form.toList with
  | '"' :: rest => (read .between rest).map String.ofList
  | _ => none

/-- A written form is a backslash and a letter, a number, or the character itself. -/
theorem encodeChar_cases (character : Char) :
    (∃ letter, (letter, character) ∈ escapes ∧ encodeChar character = ['\\', letter]) ∨
      (isHidden character = true ∧ encodeChar character =
        ['\\', 'u', '\x7b'] ++ hexDigits character.toNat ++ ['\x7d']) ∨
      (isHidden character = false ∧ character ≠ '"' ∧ character ≠ '\\' ∧
        encodeChar character = [character]) := by
  have short : ∀ entry ∈ escapes, encodeChar entry.2 = ['\\', entry.1] := by decide
  by_cases listed : ∃ letter, (letter, character) ∈ escapes
  · obtain ⟨letter, member⟩ := listed
    exact .inl ⟨letter, member, short _ member⟩
  · -- The character is none of the six that a letter stands for.
    simp only [escapes, List.mem_cons, Prod.mk.injEq, List.not_mem_nil, or_false, exists_or,
      exists_eq_left, not_or] at listed
    obtain ⟨zero, tab, newline, back, quote, slash⟩ := listed
    simp only [encodeChar, zero, tab, newline, back, quote, slash, if_false]
    cases hidden : isHidden character with
    | true => exact .inr (.inl ⟨rfl, rfl⟩)
    | false => exact .inr (.inr ⟨rfl, quote, slash, rfl⟩)

/-- A character that completes none is passed over. -/
theorem read_pass {stand next : Stand} {character : Char}
    (passed : step stand character = some ([], next)) (rest : List Char) :
    read stand (character :: rest) = read next rest := by
  simp [read, passed]

/-- A character that completes one tells it. -/
theorem read_tell {stand next : Stand} {character meant : Char}
    (told : step stand character = some ([meant], next)) (rest : List Char) :
    read stand (character :: rest) = (read next rest).map (meant :: ·) := by
  simp only [read, told, List.singleton_append]

/-- A hexadecimal digit has its value. -/
theorem hexValue?_digitChar : ∀ digit < 16,
    Pattern.Escape.hexValue? digit.digitChar = some digit ∧ digit.digitChar ≠ '\x7d' := by
  decide

/-- A digit within a number is added to it. -/
theorem read_digit (value : Nat) {digit : Nat} (small : digit < 16) (rest : List Char) :
    read (.number value) (digit.digitChar :: rest) =
      read (.number (16 * value + digit)) rest := by
  obtain ⟨known, other⟩ := hexValue?_digitChar digit small
  apply read_pass
  simp only [step, if_neg other, known, Option.map_some]

/-- The digits of a number are read as this number. -/
theorem read_hexDigits (number : Nat) (rest : List Char) :
    read (.number 0) (hexDigits number ++ rest) = read (.number number) rest := by
  induction number using Nat.strongRecOn generalizing rest with
  | ind number ih =>
      rw [hexDigits]
      by_cases small : number < 16
      · rw [Nat.toDigits_of_lt_base small, List.singleton_append, read_digit 0 small, Nat.mul_zero,
          Nat.zero_add]
      · have fewer : number / 16 < number := by omega
        have least : number % 16 < 16 := by omega
        have front := ih (number / 16) fewer ((number % 16).digitChar :: rest)
        rw [hexDigits] at front
        rw [Nat.toDigits_of_base_le (by decide) (by omega), List.append_assoc,
          List.singleton_append, front, read_digit _ least, Nat.div_add_mod]

/-- The written form of a character is read as this character, and the reader stands behind it. -/
theorem read_encodeChar (character : Char) (rest : List Char) :
    read .between (encodeChar character ++ rest) =
      (read .between rest).map (character :: ·) := by
  have slash : step .between '\\' = some ([], .escaped) := rfl
  rcases encodeChar_cases character with
    ⟨letter, member, form⟩ | ⟨-, form⟩ | ⟨-, quote, other, form⟩
  · have meant : ∀ entry ∈ escapes, step .escaped entry.1 = some ([entry.2], .between) := by
      decide
    rw [form, List.cons_append, List.singleton_append, read_pass slash]
    exact read_tell (meant _ member) rest
  · have announced : step .escaped 'u' = some ([], .announced) := rfl
    have opened : step .announced '\x7b' = some ([], .number 0) := rfl
    have closed : step (.number character.toNat) '\x7d' = some ([character], .between) := by
      simp [step]
    have whole : encodeChar character ++ rest =
        '\\' :: 'u' :: '\x7b' :: (hexDigits character.toNat ++ '\x7d' :: rest) := by
      simp [form]
    rw [whole, read_pass slash, read_pass announced, read_pass opened, read_hexDigits]
    exact read_tell closed rest
  · rw [form, List.singleton_append]
    apply read_tell
    simp only [step, if_neg quote, if_neg other]

/-- The written forms of some characters up to a closing quote are read as these characters. -/
theorem read_encodeChars (characters : List Char) :
    read .between (characters.flatMap encodeChar ++ ['"']) = some characters := by
  induction characters with
  | nil => rfl
  | cons character rest ih =>
      rw [List.flatMap_cons, List.append_assoc, read_encodeChar, ih, Option.map_some]

/-- A quoted form tells its text. -/
theorem decode_encode (text : String) : decode (encode text) = some text := by
  simp only [decode, encode, encodeChars, String.toList_ofList, read_encodeChars, Option.map_some,
    String.ofList_toList]

example : decode "\"a\\0\\u\x7b200b\x7d\"" = some "a\x00\u200b" := by decide +kernel

/-- Different texts have different quoted forms. -/
theorem encode_injective : Function.Injective encode := by
  intro first second same
  have told := congrArg decode same
  rwa [decode_encode, decode_encode, Option.some.injEq] at told

/-- A character between the space and the tilde is printable. -/
def isPrintable (character : Char) : Bool :=
  0x20 ≤ character.toNat && character.toNat < 0x7F

/-- No printable character is hidden. -/
theorem isHidden_of_isPrintable {character : Char} (printable : isPrintable character = true) :
    isHidden character = false := by
  simp only [isPrintable, Bool.and_eq_true, decide_eq_true_eq] at printable
  have below : ¬ character.toNat < 0x20 := by omega
  have above : ¬ 0x7F ≤ character.toNat := by omega
  simp only [isHidden, isControl, below, above, decide_false, Bool.false_and, Bool.or_false]

/-- The digits of a number can be seen. -/
theorem isHidden_of_mem_hexDigits (number : Nat) :
    ∀ digit ∈ hexDigits number, isHidden digit = false := by
  have printable : ∀ digit < 16, isPrintable digit.digitChar = true := by decide
  have seen (digit : Nat) (small : digit < 16) : isHidden digit.digitChar = false :=
    isHidden_of_isPrintable (printable digit small)
  induction number using Nat.strongRecOn with
  | ind number ih =>
      intro digit member
      rw [hexDigits] at member
      by_cases small : number < 16
      · rw [Nat.toDigits_of_lt_base small, List.mem_singleton] at member
        exact member ▸ seen number small
      · rw [Nat.toDigits_of_base_le (by decide) (by omega)] at member
        rcases List.mem_append.mp member with front | last
        · exact ih (number / 16) (by omega) digit front
        · rw [List.mem_singleton.mp last]
          exact seen (number % 16) (by omega)

/-- No character of a written form is hidden. -/
theorem isHidden_of_mem_encodeChar (character : Char) :
    ∀ written ∈ encodeChar character, isHidden written = false := by
  rcases encodeChar_cases character with
    ⟨letter, member, form⟩ | ⟨-, form⟩ | ⟨seen, -, -, form⟩
  · have printable : ∀ entry ∈ escapes, isPrintable entry.1 = true := by decide
    rw [form, List.forall_mem_cons, List.forall_mem_singleton]
    exact ⟨isHidden_of_isPrintable rfl, isHidden_of_isPrintable (printable _ member)⟩
  · have front : ['\\', 'u', '\x7b'].all isPrintable = true := by decide
    rw [form, List.forall_mem_append, List.forall_mem_append, List.forall_mem_singleton]
    refine ⟨⟨?_, isHidden_of_mem_hexDigits character.toNat⟩, isHidden_of_isPrintable rfl⟩
    intro written member
    exact isHidden_of_isPrintable (List.all_eq_true.mp front written member)
  · rw [form, List.forall_mem_singleton]
    exact seen

/-- No character of a quoted form is hidden, so there is no control among them. -/
theorem isHidden_of_mem_encode (text : String) :
    ∀ character ∈ (encode text).toList, isHidden character = false := by
  intro character member
  simp only [encode, encodeChars, String.toList_ofList, List.mem_cons, List.mem_append,
    List.mem_flatMap, List.not_mem_nil, or_false] at member
  rcases member with rfl | ⟨origin, -, written⟩ | rfl
  · exact isHidden_of_isPrintable rfl
  · exact isHidden_of_mem_encodeChar origin character written
  · exact isHidden_of_isPrintable rfl

end PromptShell.Quoted
