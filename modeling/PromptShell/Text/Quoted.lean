import PromptShell.Text.Hidden
namespace PromptShell.Quoted

/-- The digits of a character number, lower-case and without leading zeros. -/
def hexDigits (number : Nat) : List Char :=
  Nat.toDigits 16 number

/-- The written form of one character inside the quotes. -/
def encodeChar (character : Char) : List Char :=
  if character = '\x00' then ['\\', '0']
  else if character = '\t' then ['\\', 't']
  else if character = '\n' then ['\\', 'n']
  else if character = '\r' then ['\\', 'r']
  else if character = '"' then ['\\', '"']
  else if character = '\\' then ['\\', '\\']
  else if isHidden character then
    ['\\', 'u', '\x7b'] ++ hexDigits character.toNat ++ ['\x7d']
  else [character]

/-- The quoted form of a list of characters. -/
def encodeChars (characters : List Char) : List Char :=
  '"' :: (characters.flatMap encodeChar ++ ['"'])

/-- The quoted form of a text. -/
def encode (text : String) : String :=
  String.ofList (encodeChars text.toList)

/-- The quoted form of the empty text is two quotes. -/
@[simp] theorem encodeChars_nil : encodeChars [] = ['"', '"'] := rfl

end PromptShell.Quoted
