import PromptShell.Host.Script.Command
namespace PromptShell.Host.Script

/-- The beginning of a redirection, in front of its word. -/
inductive Opening where
  | file (descriptor : Nat) (access : Access)
  | copy (descriptor : Nat)
  | document (descriptor : Nat) (strips : Bool)
  deriving Repr

/-- A token. Quotes in a word keep it from being taken for a keyword. -/
inductive Token where
  | ended
  | newline
  | sign (text : String)
  | keyword (text : String)
  | redirection (opening : Opening)
  | word (word : Word) (quoted : Bool)

/-- The words that have a meaning of their own where a command starts. -/
def keywords : List String :=
  ["!", "case", "do", "done", "elif", "else", "esac", "fi", "for", "if", "in", "then", "until",
    "while", "\x7b", "\x7d"]

/-- The calls that are special: their names cannot be names of functions. -/
def specialCalls : List String :=
  [".", ":", "break", "continue", "eval", "exec", "exit", "export", "local", "readonly", "return",
    "set", "shift", "times", "trap", "unset"]

/-- The tokens that may end a list of commands. -/
def listEnds : List String :=
  [")", ";;", "do", "done", "elif", "else", "esac", "fi", "then", "\x7d"]

namespace Token

/-- What a token is called in a complaint. -/
def shown : Token → String
  | ended => "end of file"
  | newline => "newline"
  | sign text | keyword text => "\"" ++ text ++ "\""
  | redirection _ => "redirection"
  | word _ _ => "word"

/-- A list of commands may end in front of the token. -/
def endsList : Token → Bool
  | ended => true
  | sign text | keyword text => listEnds.contains text
  | _ => false

/-- A token is a sign with the given text. -/
def isSign (token : Token) (text : String) : Bool :=
  match token with
  | sign other => other = text
  | _ => false

/-- A token is a keyword with the given text. -/
def isKeyword (token : Token) (text : String) : Bool :=
  match token with
  | keyword other => other = text
  | _ => false

/-- A token is a word. -/
def word? : Token → Option Word
  | word parts _ => some parts
  | keyword text => some (text.toList.map fun character => .literal character false)
  | _ => none

end Token

/-- A document whose text has still to be read: its number, the line that ends it, whether tabs in
front of its lines go, and whether it is taken as it stands. -/
structure Awaited where
  number : Nat
  ending : List Char
  strips : Bool
  plain : Bool
  deriving Repr

/-- An alias whose value is being read, and the length of the text behind it. A blank at its end
lets the word behind it be an alias as well. -/
structure AliasUse where
  name : String
  behind : Nat
  opens : Bool
  deriving Repr

/-- A reader between two tokens. `starved` tells that it has looked beyond the end of the text. The
last word stays until there is another one. -/
structure Reading where
  text : List Char
  line : Nat := 1
  starved : Bool := false
  pushed : Option Token := none
  lastWord : Word := []
  aliases : List (String × String) := []
  inUse : List AliasUse := []
  awaited : List Awaited := []
  documents : List (Nat × Word) := []
  nextDocument : Nat := 0

/-- What is wrong with a script, and in which line. -/
structure Flaw where
  line : Nat
  text : String
  deriving Repr

/-- A part of reading. -/
abbrev Reader := ExceptT Flaw (StateM Reading)

namespace Reader

/-- The script is refused. -/
def refuse {Value : Type} (text : String) : Reader Value := do
  throw ⟨(← get).line, text⟩

/-- A token is refused. -/
def unexpected {Value : Type} (token : Token) : Reader Value :=
  refuse (token.shown ++ " unexpected")

/-- A token is refused, since another one should stand there. -/
def expecting {Value : Type} (token wanted : Token) : Reader Value :=
  refuse (token.shown ++ " unexpected (expecting " ++ wanted.shown ++ ")")

/-- A line ends. -/
def countLine : Reader Unit :=
  modify fun reading => { reading with line := reading.line + 1 }

/-- The next character. -/
def next : Reader (Option Char) := do
  let reading ← get
  match reading.text with
  | [] => do
      set { reading with starved := true }
      return none
  | character :: rest => do
      set { reading with text := rest }
      return some character

/-- A text without the line ends at its front that a backslash takes away, and their number. -/
def withoutJoins (lines : Nat) : List Char → List Char × Nat
  | '\\' :: '\n' :: rest => withoutJoins (lines + 1) rest
  | text => (text, lines)

/-- The lines are joined that a backslash in front of the reader joins. -/
def joinLines : Reader Unit := do
  let reading ← get
  let (text, lines) := withoutJoins 0 reading.text
  set { reading with
    text, line := reading.line + lines
    starved := reading.starved || (match text with
      | ['\\'] => true
      | _ => false) }

/-- The next character, where lines are joined by a backslash at the end of the first. -/
def nextJoined : Reader (Option Char) := do
  joinLines
  next

/-- A character is given back. -/
def giveBack (character : Option Char) : Reader Unit :=
  match character with
  | none => pure ()
  | some character => modify fun reading => { reading with text := character :: reading.text }

/-- A token is given back. -/
def push (token : Token) : Reader Unit :=
  modify fun reading => { reading with pushed := some token }

end Reader
end PromptShell.Host.Script
