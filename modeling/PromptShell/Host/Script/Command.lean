namespace PromptShell.Host.Script

/-- What becomes of the value of a parameter. A word behind it is another value, a text of a
complaint, or a pattern that is cut off. -/
inductive Change where
  | keep
  | flawed
  | orElse
  | ifSet
  | orFail
  | orAssign
  | cutFront (longest : Bool)
  | cutBack (longest : Bool)
  | size
  deriving Repr, DecidableEq

/-- How a redirection opens its file. -/
inductive Access where
  | read
  | readWrite
  | write
  | overwrite
  | append
  deriving Repr, DecidableEq

mutual

/-- A part of a word. A mark stands where a quotation starts or ends. -/
inductive Part where
  | literal (character : Char) (quoted : Bool)
  | mark
  | parameter (name : String) (orNull : Bool) (change : Change) (word : List Part)
  | command (command : Command)
  | sum (text : List Part)

/-- A redirection of one stream. The text of a document is found by its number. -/
inductive Redirection where
  | file (descriptor : Nat) (access : Access) (name : List Part)
  | copy (descriptor : Nat) (source : List Part)
  | document (descriptor : Nat) (number : Nat)

/-- A command, with the line that it starts in where it can tell of a fault. -/
inductive Command where
  | nothing
  | simple (line : Nat) (assignments words : List (List Part)) (changes : List Redirection)
  | pipeline (commands : List Command) (background : Bool)
  | redirected (line : Nat) (body : Command) (changes : List Redirection)
  | subshell (line : Nat) (body : Command) (changes : List Redirection)
  | background (body : Command)
  | sequence (first second : Command)
  | both (first second : Command)
  | either (first second : Command)
  | negation (body : Command)
  | conditional (test body : Command) (otherwise : Option Command)
  | loop (untilDone : Bool) (test body : Command)
  | each (line : Nat) (name : String) (words : List (List Part)) (body : Command)
  | choice (line : Nat) (subject : List Part) (cases : List (List (List Part) × Command))
  | definition (line : Nat) (name : String) (body : Command)

end

instance : Inhabited Command := ⟨.nothing⟩

/-- A word as it is read. -/
abbrev Word := List Part

/-- One command goes behind another. -/
def Command.followedBy : Command → Command → Command
  | .nothing, second => second
  | first, second => .sequence first second

/-- The text of a word that holds nothing but characters without quotes. -/
def plainText? (word : Word) : Option (List Char) :=
  word.mapM fun part => match part with
    | .literal character false => some character
    | _ => none

/-- The characters of a word. -/
def literalText (word : Word) : List Char :=
  word.filterMap fun part => match part with
    | .literal character _ => some character
    | _ => none

/-- A letter that a name may start with. -/
def isNameStart (character : Char) : Bool := character.isAlpha || character = '_'

/-- A character that a name may hold. -/
def isNameCharacter (character : Char) : Bool := character.isAlphanum || character = '_'

/-- A text that can be a name. -/
def isName (text : List Char) : Bool :=
  text.head?.any isNameStart && text.all isNameCharacter

/-- The name of the variable that a word assigns to, and the word behind the equals sign. -/
def assigned? (word : Word) : Option (String × Word) :=
  let name := word.takeWhile fun part => match part with
    | .literal character false => isNameCharacter character
    | _ => false
  match plainText? name, word.drop name.length with
  | some characters, .literal '=' false :: value =>
      if isName characters then some (String.ofList characters, value) else none
  | _, _ => none

end PromptShell.Host.Script
