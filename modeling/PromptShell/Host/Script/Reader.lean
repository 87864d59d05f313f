import PromptShell.Host.Script.Token
namespace PromptShell.Host.Script

/-- What characters stand in. -/
inductive Quoting where
  | bare
  | single
  | double
  | sum
  deriving Repr, DecidableEq

/-- A level of a word. `double` tells that a backslash means itself in front of most characters,
`inner` that a quotation was opened in the braces of this level, and `kept` that the quoting comes
from outside of the braces. -/
structure Level where
  quoting : Quoting := .bare
  double : Bool := false
  inner : Bool := false
  nested : Bool := false
  kept : Bool := false
  parentheses : Nat := 0
  document : Option Awaited := none
  naming : Bool := false

namespace Level

/-- A document is read. -/
def inDocument (level : Level) : Bool := level.document.isSome

/-- A quotation starts or ends inside of braces. -/
def toggle (level : Level) : Level :=
  if level.nested then { level with inner := !level.inner } else level

/-- The level of a word in braces. What is cut off a value is read as if it stood alone. -/
def ofBraces (level : Level) (change : Change) : Level :=
  let quoting := match change with
    | .cutFront _ | .cutBack _ => .bare
    | _ => if level.quoting = .sum then .double else level.quoting
  let double := quoting ≠ .bare
  if quoting = level.quoting && !level.inner then
    { level with nested := true, kept := level.kept || level.double }
  else { level with quoting, double, inner := false, nested := true, kept := double }

end Level

/-- The parts of a level that were read, the last one first, and whether quotes were among them. -/
structure Scanned where
  parts : List Part := []
  quoted : Bool := false

namespace Scanned

/-- A part is added. -/
def add (scanned : Scanned) (part : Part) : Scanned :=
  { scanned with parts := part :: scanned.parts }

/-- A character is added. -/
def addCharacter (scanned : Scanned) (character : Char) (quoted : Bool) : Scanned :=
  scanned.add (.literal character quoted)

/-- The edge of a quotation is added; documents have none. -/
def addMark (scanned : Scanned) (level : Level) : Scanned :=
  if level.inDocument then scanned else scanned.add .mark

/-- The parts in order. -/
def word (scanned : Scanned) : Word := scanned.parts.reverse

end Scanned

/-- How a list of commands is read: up to the end of its line, not empty, perhaps empty, or perhaps
empty and up to a closing parenthesis and behind it. -/
inductive ListKind where
  | line
  | filled
  | any
  | enclosed
  deriving Repr, DecidableEq

/-- Lists of commands are read by what reads words. -/
abbrev ReadList := ListKind → Reader (Option Command)

namespace Reader

/-- A parameter that has no name but a character. -/
def isSpecial (character : Char) : Bool :=
  character.isDigit || ['!', '$', '#', '?', '*', '@', '-'].contains character

/-- Characters for which a test holds, behind a first one. It holds them and what follows. -/
def nameFrom (test : Char → Bool) (bound : Nat) (latest : List Char) (character : Option Char) :
    Reader (String × Option Char) := do
  match bound, character with
  | bound + 1, some found =>
      if test found then nameFrom test bound (found :: latest) (← nextJoined)
      else return (String.ofList latest.reverse, character)
  | _, _ => return (String.ofList latest.reverse, character)

/-- What stands in a text behind the part of another one that it starts with, if it starts with any
of it. -/
def behindShared (shared : List Char) (begun : Bool) (text : List Char) : Option (List Char) :=
  match shared, text with
  | sign :: shared, character :: rest =>
      if sign = character then behindShared shared true rest
      else if begun then some text else none
  | _, _ => if begun then some text else none

/-- A line that starts as the ending does and goes on with a byte beyond ASCII loses that byte. -/
def mended (ending text : List Char) : List Char :=
  match behindShared ending false text with
  | some (character :: rest) =>
      if 0x80 ≤ character.toNat then text.take (text.length - rest.length - 1) ++ rest else text
  | _ => text

/-- The line that ends a document stands in front of the reader, who goes behind it. Lines may be
joined in front of it. -/
def atEnding (awaited : Awaited) (joins : Bool) : Reader Bool := do
  if joins then joinLines
  if awaited.strips then
    modify fun reading => { reading with text := reading.text.dropWhile (· = '\t') }
  let reading ← get
  let short := reading.text.length ≤ awaited.ending.length
  set { reading with
    text := mended awaited.ending reading.text, starved := reading.starved || short }
  if awaited.ending.isPrefixOf reading.text then
    match reading.text.drop awaited.ending.length with
    | [] => do
        set { reading with text := [], line := reading.line + 1, starved := true }
        return true
    | '\n' :: rest => do
        set { reading with text := rest, line := reading.line + 1 }
        return true
    | _ => return false
  else return false

/-- What a letter behind the name of a parameter asks for. -/
def changeOf? (character : Char) : Option Change :=
  match character with
  | '\x7d' => some .keep
  | '-' => some .orElse
  | '+' => some .ifSet
  | '?' => some .orFail
  | '=' => some .orAssign
  | _ => none

/-- The head of a parameter in braces: its name, whether an empty value counts as none, what becomes
of the value, and whether the closing brace was read. -/
structure Head where
  name : String
  orNull : Bool := false
  change : Change
  closed : Bool := false

/-- What stands between the name of a parameter in braces and the word. -/
def headBehind (name : String) (character : Option Char) : Reader Head := do
  match character with
  | some ':' =>
      let letter ← nextJoined
      return { name, orNull := true, change := (letter.bind changeOf?).getD .flawed }
  | some '%' => return { name, change := .cutBack (← longest '%') }
  | some '#' => return { name, change := .cutFront (← longest '#') }
  | _ =>
      let change := (character.bind changeOf?).getD .flawed
      return { name, change, closed := change = .keep }
where
  longest (mark : Char) : Reader Bool := do
    let following ← nextJoined
    if following = some mark then return true
    else do giveBack following; return false

/-- The head of a parameter whose size is asked for. -/
def headOfSize (name : String) (character : Option Char) : Reader Head := do
  giveBack character
  return { name, change := if character = some '\x7d' then .size else .flawed }

/-- The head of a parameter in braces, of which the first character was read. -/
def head (bound : Nat) (first : Option Char) : Reader Head := do
  let named (first : Option Char) : Reader (String × Option Char) :=
    if first.any isNameStart then nameFrom isNameCharacter bound [] first
    else nameFrom Char.isDigit bound [] first
  match first with
  | none | some '\x7d' => do
      giveBack first
      return { name := "", change := .flawed }
  | some letter =>
      if isNameCharacter letter then
        let (name, following) ← named first
        headBehind name following
      else
        let second ← nextJoined
        if letter = '#' then
          if second.any isNameCharacter then
            let (name, following) ← named second
            headOfSize name following
          else
            let third ← nextJoined
            if second = some '\x7d' || third ≠ some '\x7d' then
              giveBack third
              headBehind "#" second
            else if second.any isSpecial then
              headOfSize (String.ofList second.toList) third
            else do
              giveBack third
              return { name := "", change := .flawed }
        else if isSpecial letter then headBehind (String.singleton letter) second
        else do
          giveBack second
          return { name := "", change := .flawed }

/-- The text between back quotes. A backslash stays unless it guards a character of its own. -/
def backQuoted (double : Bool) (bound : Nat) (latest : List Char) : Reader (List Char) := do
  match bound, ← nextJoined with
  | 0, _ | _, none => refuse "EOF in backquote substitution"
  | _ + 1, some '\x60' => return latest.reverse
  | bound + 1, some '\\' =>
      match ← next with
      | none => refuse "EOF in backquote substitution"
      | some guarded =>
          let drops := ['\\', '\x60', '$'].contains guarded || (double && guarded = '"')
          backQuoted double bound (if drops then guarded :: latest else guarded :: '\\' :: latest)
  | bound + 1, some character =>
      if character = '\n' then countLine
      backQuoted double bound (character :: latest)

/-- A text is read in the place of the reader's own. Documents that were read in it stay. -/
def inside (text : List Char) (read : Reader (Option Command)) : Reader Command := do
  let outer ← get
  set { outer with text, line := 1, pushed := none, awaited := [] }
  let command ← read
  let inner ← get
  set { outer with documents := inner.documents, nextDocument := inner.nextDocument }
  return command.getD .nothing

variable (list : ReadList)

/-- What a level does next: it goes on, or it has ended. -/
inductive Progress where
  | goesOn (level : Level) (scanned : Scanned) (plain : Bool)
  | ended (scanned : Scanned)

/-- The text is at an end that a level does not expect. -/
def endOfText (level : Level) (scanned : Scanned) : Reader Progress := do
  if level.quoting = .sum then refuse "Missing '))'"
  else if level.quoting ≠ .bare && !level.inDocument then refuse "Unterminated quoted string"
  else if level.nested then refuse "Missing '\x7d'"
  else return .ended scanned

/-- A line ends inside of a word. -/
def lineInside (level : Level) (scanned : Scanned) : Reader Progress := do
  countLine
  let added := scanned.addCharacter '\n' (level.quoting ≠ .bare)
  match level.document with
  | none => return .goesOn level added false
  | some awaited =>
      if ← atEnding awaited (level.quoting ≠ .single) then endOfText level added
      else return .goesOn level added true

/-- A character behind a backslash. -/
def guarded (level : Level) (scanned : Scanned) : Reader Progress := do
  match ← next with
  | none => return .goesOn level (scanned.addCharacter '\\' true) false
  | some character =>
      let stays := level.double && !(['\\', '\x60', '$'].contains character) &&
        (character ≠ '"' || (level.inDocument && !level.nested)) &&
        (character ≠ '\x7d' || !level.nested)
      let kept := if stays then scanned.addCharacter '\\' true else scanned
      return .goesOn level { kept.addCharacter character true with quoted := true } false

/-- A quotation starts. -/
def openQuote (level : Level) (scanned : Scanned) (character : Char) : Progress :=
  let opened :=
    if character = '"' then ({ level with quoting := .double, double := true } : Level).toggle
    else { level with quoting := .single }
  .goesOn opened (scanned.addMark level) false

/-- A quotation ends. -/
def closeQuote (level : Level) (scanned : Scanned) (character : Char) : Progress :=
  if level.inDocument && !level.nested then
    .goesOn level (scanned.addCharacter character true) false
  else
    let bare := if level.kept then level else { level with quoting := .bare, double := false }
    let closed := if character = '"' then bare.toggle else bare
    .goesOn closed { scanned.addMark level with quoted := true } false

/-- A closing parenthesis in a sum. Two of them end it. -/
def closeSum (level : Level) (scanned : Scanned) : Reader Progress := do
  if 0 < level.parentheses then
    return .goesOn { level with parentheses := level.parentheses - 1 }
      (scanned.addCharacter ')' true) false
  else
    let following ← nextJoined
    if following = some ')' then return .ended scanned
    else do
      giveBack following
      return .goesOn level (scanned.addCharacter ')' true) false

/-- What a level makes of a character that has a meaning in it. The way to read a level inside of
this one is given. -/
def step (bound : Nat) (scan : Level → Scanned → Reader Scanned) (level : Level)
    (scanned : Scanned) (character : Char) : Reader Progress := do
  let quoted := level.quoting ≠ .bare
  let plain : Reader Progress := return .goesOn level (scanned.addCharacter character quoted) false
  if character = '\n' then
    if level.quoting = .bare && !level.nested then do
      giveBack (some character)
      return .ended scanned
    else lineInside level scanned
  else match level.quoting, character with
    | .single, '\'' | .double, '"' => return closeQuote level scanned character
    | .single, _ => plain
    | _, '\\' => guarded level scanned
    | .bare, '\'' | .bare, '"' => return openQuote level scanned character
    | .sum, '(' =>
        return .goesOn { level with parentheses := level.parentheses + 1 }
          (scanned.addCharacter character true) false
    | .sum, ')' => closeSum level scanned
    | _, '\x7d' => if level.nested && !level.inner then return .ended scanned else plain
    | _, '\x60' =>
        if level.naming then plain
        else
          let text ← backQuoted level.double bound []
          let command ← inside text (list .any)
          return .goesOn level (scanned.add (.command command)) false
    | _, '$' =>
        let following ← if level.naming then pure none else nextJoined
        match following with
        | some '(' =>
            let second ← nextJoined
            if second = some '(' then
              let inner ← scan { quoting := .sum, double := true, document := level.document } {}
              return .goesOn level (scanned.add (.sum inner.word)) false
            else
              giveBack second
              let command ← list .enclosed
              return .goesOn level (scanned.add (.command (command.getD .nothing))) false
        | some '\x7b' =>
            let head ← head bound (← nextJoined)
            let word ←
              if head.closed then pure []
              else do
                let inner ← scan (level.ofBraces head.change) {}
                pure inner.word
            return .goesOn level
              (scanned.add (.parameter head.name head.orNull head.change word)) false
        | some first =>
            if isNameStart first then
              let (name, behind) ← nameFrom isNameCharacter bound [] following
              giveBack behind
              return .goesOn level (scanned.add (.parameter name false .keep [])) false
            else if isSpecial first then
              return .goesOn level
                (scanned.add (.parameter (String.singleton first) false .keep [])) false
            else do
              giveBack following
              plain
        | none => plain
    | .bare, _ =>
        if !level.nested && ['<', '>', ';', '&', '(', ')', '|', ' ', '\t'].contains character
        then do
          giveBack (some character)
          return .ended scanned
        else plain
    | _, _ => plain

/-- The rest of a level is read; the bound is the length of the text. -/
def scanLevel (bound : Nat) (plain : Bool) (level : Level) (scanned : Scanned) : Reader Scanned :=
    do
  match bound with
  | 0 => refuse "Unterminated quoted string"
  | bound + 1 =>
      let character ← if plain || level.quoting = .single then next else nextJoined
      let progress ← match character with
        | none => endOfText level scanned
        | some character =>
            step list bound (scanLevel bound false) level scanned character
      match progress with
      | .ended scanned => return scanned
      | .goesOn level scanned plain => scanLevel bound plain level scanned

/-- A word is read. -/
def scanWord (naming : Bool) : Reader Scanned := do
  scanLevel list ((← get).text.length + 2) false { naming } {}

/-- The text of a document is read. -/
def scanDocument (awaited : Awaited) : Reader Unit := do
  let level : Level :=
    if awaited.plain then { quoting := .single, document := some awaited }
    else { quoting := .double, double := true, document := some awaited }
  let scanned ←
    if ← atEnding awaited (!awaited.plain) then pure {}
    else scanLevel list ((← get).text.length + 2) true level {}
  modify fun reading => { reading with
    lastWord := scanned.word
    documents := (awaited.number, scanned.word) :: reading.documents }

end Reader
end PromptShell.Host.Script
