namespace PromptShell

/-- Raw data as it crosses a stream. -/
abbrev Bytes := List UInt8

namespace Utf8

/-- The character that stands for bytes which are no character. -/
def replacement : Char := '\uFFFD'

/-- The number of bytes of a character. -/
def charSize (character : Char) : Nat :=
  let value := character.toNat
  if value < 0x80 then 1 else if value < 0x800 then 2 else if value < 0x10000 then 3 else 4

/-- The bytes of a character, with six bits in each byte after the first. -/
def encodeChar (character : Char) : Bytes :=
  let value := character.toNat
  if value < 0x80 then
    [UInt8.ofNat value]
  else if value < 0x800 then
    [UInt8.ofNat (0xC0 + value / 0x40), UInt8.ofNat (0x80 + value % 0x40)]
  else if value < 0x10000 then
    [UInt8.ofNat (0xE0 + value / 0x1000), UInt8.ofNat (0x80 + value / 0x40 % 0x40),
      UInt8.ofNat (0x80 + value % 0x40)]
  else
    [UInt8.ofNat (0xF0 + value / 0x40000), UInt8.ofNat (0x80 + value / 0x1000 % 0x40),
      UInt8.ofNat (0x80 + value / 0x40 % 0x40), UInt8.ofNat (0x80 + value % 0x40)]

/-- The bytes of a list of characters. -/
def encodeChars (characters : List Char) : Bytes :=
  characters.flatMap encodeChar

/-- The bytes of a text. -/
def encode (text : String) : Bytes :=
  encodeChars text.toList

/-- The number of bytes of a text. -/
def size (text : String) : Nat :=
  text.toList.foldr (fun character size => charSize character + size) 0

/-- The decoder stands between characters, or inside one that still owes bytes: `value` holds the
bits so far, `owed` counts the bytes after the next one, and the six bits that the next one adds
lie between `low` and `high`. -/
inductive State where
  | between
  | inside (value owed low high : Nat)
  deriving Repr, DecidableEq

/-- One byte is read between characters. -/
def start (byte : UInt8) : List Char × State :=
  let value := byte.toNat
  if value < 0x80 then ([Char.ofNat value], .between)
  else if value < 0xC2 then ([replacement], .between)
  else if value < 0xE0 then ([], .inside (value - 0xC0) 0 0 0x3F)
  else if value = 0xE0 then ([], .inside 0 1 0x20 0x3F)
  else if value = 0xED then ([], .inside 0xD 1 0 0x1F)
  else if value < 0xF0 then ([], .inside (value - 0xE0) 1 0 0x3F)
  else if value = 0xF0 then ([], .inside 0 2 0x10 0x3F)
  else if value < 0xF4 then ([], .inside (value - 0xF0) 2 0 0x3F)
  else if value = 0xF4 then ([], .inside 4 2 0 0x0F)
  else ([replacement], .between)

/-- One byte gives the characters that it completes and the next state. Each sequence that no
character can begin with is one replacement character, and the byte that ends it is read again. -/
def step : State → UInt8 → List Char × State
  | .between, byte => start byte
  | .inside value owed low high, byte =>
      if 0x80 + low ≤ byte.toNat ∧ byte.toNat ≤ 0x80 + high then
        let joined := value * 0x40 + (byte.toNat - 0x80)
        match owed with
        | 0 => ([Char.ofNat joined], .between)
        | left + 1 => ([], .inside joined left 0 0x3F)
      else
        let next := start byte
        (replacement :: next.1, next.2)

/-- The end of the data turns a character that still owes bytes into a replacement. -/
def finish : State → List Char
  | .between => []
  | .inside .. => [replacement]

/-- The characters of the bytes, read from a state. -/
def decodeFrom : State → Bytes → List Char
  | state, [] => finish state
  | state, byte :: rest => (step state byte).1 ++ decodeFrom (step state byte).2 rest

/-- The characters of the bytes, gathered from left to right. -/
def decodeChars (bytes : Bytes) : List Char :=
  let reached := bytes.foldl
    (fun (state : State × Array Char) byte =>
      let next := step state.1 byte
      (next.2, next.1.foldl Array.push state.2))
    (.between, #[])
  reached.2.toList ++ finish reached.1

/-- The text of the bytes, with replacement characters where they hold no text. -/
def decode (bytes : Bytes) : String :=
  String.ofList (decodeChars bytes)

@[simp] theorem encodeChars_nil : encodeChars [] = [] := rfl

@[simp] theorem encodeChars_cons (character : Char) (rest : List Char) :
    encodeChars (character :: rest) = encodeChar character ++ encodeChars rest := rfl

@[simp] theorem encodeChars_append (first second : List Char) :
    encodeChars (first ++ second) = encodeChars first ++ encodeChars second := by
  simp [encodeChars]

@[simp] theorem encode_append (first second : String) :
    encode (first ++ second) = encode first ++ encode second := by
  simp [encode]

theorem encodeChar_length (character : Char) :
    (encodeChar character).length = charSize character := by
  simp only [encodeChar, charSize]
  repeat' split
  all_goals rfl

/-- The size of a text is the length of its encoding. -/
theorem encode_length (text : String) : (encode text).length = size text := by
  simp only [encode, size]
  induction text.toList with
  | nil => rfl
  | cons character rest ih => simp [encodeChar_length, ih]

@[simp] theorem decodeFrom_nil (state : State) : decodeFrom state [] = finish state := rfl

@[simp] theorem decodeFrom_cons (state : State) (byte : UInt8) (rest : Bytes) :
    decodeFrom state (byte :: rest) =
      (step state byte).1 ++ decodeFrom (step state byte).2 rest := rfl

/-- Gathering from left to right gives the characters of the recursive reading. -/
theorem decodeChars_eq (bytes : Bytes) : decodeChars bytes = decodeFrom .between bytes := by
  have pushes (characters : List Char) (out : Array Char) :
      (characters.foldl Array.push out).toList = out.toList ++ characters := by
    induction characters generalizing out with
    | nil => simp
    | cons character rest ih => simp
  have gathers (bytes : Bytes) (state : State) (out : Array Char) :
      let reached := bytes.foldl
        (fun (state : State × Array Char) byte =>
          ((step state.1 byte).2, (step state.1 byte).1.foldl Array.push state.2))
        (state, out)
      reached.2.toList ++ finish reached.1 = out.toList ++ decodeFrom state bytes := by
    induction bytes generalizing state out with
    | nil => simp
    | cons byte rest ih => simp only [List.foldl_cons, ih, pushes, decodeFrom_cons,
        List.append_assoc]
  simpa [decodeChars] using gathers bytes .between #[]

/-- An ASCII byte ends what came before it and is a character of its own. -/
theorem step_ascii (state : State) (byte : UInt8) (ascii : byte.toNat < 0x80) :
    step state byte = (finish state ++ [Char.ofNat byte.toNat], .between) := by
  cases state with
  | between => simp [step, start, finish, ascii]
  | inside value owed low high =>
      have outside : ¬ (0x80 + low ≤ byte.toNat ∧ byte.toNat ≤ 0x80 + high) := by omega
      simp [step, start, finish, ascii, outside]

end Utf8
end PromptShell
