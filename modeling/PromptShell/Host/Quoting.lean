namespace PromptShell.Host

/-- A character that is printed as it is: a blank, a letter, a digit or a mark. -/
def isPrintable (character : Char) : Bool := ' ' ≤ character && character < '\x7f'

/-- The three octal digits of a byte. -/
def octalDigits (number : Nat) : List Char :=
  [number / 64, number / 8 % 8, number % 8].map Nat.digitChar

/-- A character that cannot be printed, spelled with a backslash and a letter or octal digits. -/
def spelled (character : Char) : List Char :=
  match character with
  | '\x07' => ['\\', 'a']
  | '\x08' => ['\\', 'b']
  | '\t' => ['\\', 't']
  | '\n' => ['\\', 'n']
  | '\x0b' => ['\\', 'v']
  | '\x0c' => ['\\', 'f']
  | '\r' => ['\\', 'r']
  | _ => '\\' :: octalDigits character.toNat

/-- A word in single quotes, in which quotes and backslashes follow a backslash. -/
def quoted (word : String) : String :=
  let inside := word.toList.flatMap fun character =>
    if !isPrintable character then spelled character
    else if character = '\'' || character = '\\' then ['\\', character]
    else [character]
  "'" ++ String.ofList inside ++ "'"

/-- A word inside single quotes, as a shell reads it back; `spelling` tells that the last character
was spelled. -/
def shellInside (spelling : Bool) : List Char → List Char
  | [] => []
  | character :: rest =>
      if isPrintable character then
        if character = '\'' then ['\'', '\\', '\'', '\''] ++ shellInside false rest
        else (if spelling then ['\'', '\''] else []) ++ character :: shellInside false rest
      else
        (if spelling then [] else ['\'', '$', '\'']) ++ spelled character ++ shellInside true rest

/-- The characters that mean themselves in double quotes. -/
def isPlainInDouble (character : Char) : Bool :=
  character.isAlphanum || ['%', '+', ',', '-', '.', '/', ':', '@', '_', ']', '\'', ' '].contains
    character

/-- A word that can be shown in double quotes: it holds a single quote, and all else means itself
there. -/
def fitsDouble (word : List Char) : Bool :=
  word.contains '\'' && match word with
    | '#' :: rest | '~' :: rest => rest.all isPlainInDouble
    | _ => word.all isPlainInDouble

/-- A word in quotes, as a shell reads it back. A word with a single quote in it that ends in a
spelled character starts as if a spelled one stood in front of it. -/
def shellQuoted (word : String) : String :=
  let characters := word.toList
  let spelling := characters.contains '\'' &&
    characters.getLast?.any fun character => !isPrintable character
  if fitsDouble characters then "\"" ++ word ++ "\""
  else "'" ++ String.ofList (shellInside spelling characters) ++ "'"

/-- A word that a shell reads back without quotes. -/
def needsNoQuotes (word : String) : Bool :=
  let marks := " \t\n\r'\"!$&()*;<=>?[\\^\x60|".toList
  !word.isEmpty && word ≠ "\x7b" && word ≠ "\x7d" &&
    !(word.toList.head?.any fun first => first = '#' || first = '~') &&
    word.toList.all fun character => isPrintable character && !marks.contains character

/-- A word in quotes where a shell needs them. -/
def shellShown (word : String) : String :=
  if needsNoQuotes word then word else shellQuoted word

/-- A word in front of a colon, in quotes where a shell needs them or a colon is part of it. -/
def shellShownBeforeColon (word : String) : String :=
  if needsNoQuotes word && !word.toList.contains ':' then word else shellQuoted word

end PromptShell.Host
