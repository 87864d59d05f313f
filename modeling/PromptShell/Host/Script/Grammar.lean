import PromptShell.Host.Script.Reader
namespace PromptShell.Host.Script

/-- What is looked for in a token: whether ends of lines are passed over, and whether a word may be
a keyword or an alias. -/
structure Wish where
  lines : Bool := false
  keywords : Bool := false
  aliases : Bool := false

/-- Where a command may start on another line. -/
def Wish.start : Wish := ⟨true, true, true⟩

namespace Reader

/-- The rest of a line is passed over. -/
def skipComment (bound : Nat) : Reader Unit := do
  match bound, ← next with
  | bound + 1, some character =>
      if character = '\n' then giveBack (some character) else skipComment bound
  | _, _ => pure ()

/-- The documents that were announced are read. -/
def readDocuments (list : ReadList) : Reader Unit := do
  let awaited := (← get).awaited
  modify fun reading => { reading with awaited := [], pushed := none }
  for document in awaited do
    scanDocument list document

/-- The redirection behind its first character. -/
def opening (character : Char) (digit : Option Nat) : Reader Opening := do
  let following ← nextJoined
  if character = '>' then
    let descriptor := digit.getD 1
    match following with
    | some '>' => return .file descriptor .append
    | some '|' => return .file descriptor .overwrite
    | some '&' => return .copy descriptor
    | _ => do giveBack following; return .file descriptor .write
  else
    let descriptor := digit.getD 0
    match following with
    | some '<' =>
        let third ← nextJoined
        if third = some '-' then return .document descriptor true
        else do giveBack third; return .document descriptor false
    | some '&' => return .copy descriptor
    | some '>' => return .file descriptor .readWrite
    | _ => do giveBack following; return .file descriptor .read

/-- A sign that may be followed by another one. -/
def sign (single double : String) (second : Char) : Reader Token := do
  let following ← nextJoined
  if following = some second then return .sign double
  else do giveBack following; return .sign single

/-- A word, unless it is the number of a stream in front of a redirection. -/
def wordToken (list : ReadList) (naming : Bool) : Reader Token := do
  let scanned ← scanWord list naming
  let word := scanned.word
  let whole : Reader Token := do
    modify fun reading => { reading with lastWord := word }
    return .word word scanned.quoted
  let digit : Option (Option Nat) := match word with
    | [] => some none
    | [.literal character false] =>
        if character.isDigit then some (some (character.toNat - '0'.toNat)) else none
    | _ => none
  match digit, ← nextJoined with
  | some digit, following =>
      match following with
      | some character =>
          if !scanned.quoted && (character = '<' || character = '>') then
            return .redirection (← opening character digit)
          else do giveBack following; whole
      | none => whole
  | none, following => do giveBack following; whole

/-- The next token as it stands. -/
def scanToken (list : ReadList) (naming : Bool) (bound : Nat) : Reader Token := do
  match bound with
  | 0 => return .ended
  | bound + 1 =>
      match ← nextJoined with
      | none => return .ended
      | some '\n' => do countLine; return .newline
      | some ' ' | some '\t' => scanToken list naming bound
      | some '#' => do
          skipComment ((← get).text.length + 1)
          scanToken list naming bound
      | some '&' => sign "&" "&&" '&'
      | some '|' => sign "|" "||" '|'
      | some ';' => sign ";" ";;" ';'
      | some '(' => return .sign "("
      | some ')' => return .sign ")"
      | some character => do
          giveBack (some character)
          wordToken list naming

/-- The next token, which may have been given back. -/
def rawToken (list : ReadList) (naming : Bool := false) : Reader Token := do
  let reading ← get
  match reading.pushed with
  | some token => do
      set { reading with pushed := none }
      return token
  | none => scanToken list naming (reading.text.length + 2)

/-- The next token behind the ends of lines. -/
def afterLines (list : ReadList) (bound : Nat) (token : Token) : Reader Token := do
  match bound, token with
  | bound + 1, .newline => do
      readDocuments list
      afterLines list bound (← rawToken list)
  | _, _ => return token

/-- The alias that a word stands for, unless the word comes from it. -/
def alias? (reading : Reading) (name : String) : Option String :=
  let busy := reading.inUse.any fun entry =>
    entry.name = name && entry.behind ≤ reading.text.length
  if busy then none else reading.aliases.lookup name

/-- The value of an alias ends in a blank. -/
def endsInBlank (value : List Char) : Bool :=
  value.getLast?.any fun character => character = ' ' || character = '\t'

/-- Aliases whose values have been read are not in use any more. It is told whether one of them lets
the word behind it be an alias. -/
def leaveAliases : Reader Bool := do
  let reading ← get
  let (used, left) := reading.inUse.partition fun entry => entry.behind ≤ reading.text.length
  set { reading with inUse := used }
  return left.any AliasUse.opens

/-- The next token. The bound is the number of aliases that may follow each other. -/
def readToken (list : ReadList) (wish : Wish) : Nat → Reader Token
  | 0 => return .ended
  | bound + 1 => do
      let first ← rawToken list
      let token ←
        if wish.lines then afterLines list ((← get).text.length + 2) first else pure first
      let opened ← leaveAliases
      let wish := { wish with aliases := wish.aliases || opened }
      match token with
      | .word word false =>
          match plainText? word with
          | none => return token
          | some characters =>
              let name := String.ofList characters
              if wish.keywords && keywords.contains name then return .keyword name
              else
                let reading ← get
                match if wish.aliases then alias? reading name else none with
                | none => return token
                | some value => do
                    set { reading with
                      inUse := ⟨name, reading.text.length, endsInBlank value.toList⟩ ::
                        reading.inUse
                      text := value.toList ++ reading.text }
                    readToken list wish bound
      | _ => return token

/-- The number of aliases that may follow each other. -/
def aliasLimit : Nat := 1000

/-- The next token. -/
def token (list : ReadList) (wish : Wish := {}) : Reader Token := readToken list wish aliasLimit

/-- The word of a redirection is read. -/
def redirection (list : ReadList) (opening : Opening) : Reader Redirection := do
  let naming := opening matches .document _ _
  match ← if naming then rawToken list naming else token list with
  | .word word quoted =>
      match opening with
      | .file descriptor access => return .file descriptor access word
      | .copy descriptor => return .copy descriptor word
      | .document descriptor strips => do
          let reading ← get
          let number := reading.nextDocument
          let document : Awaited := ⟨number, literalText word, strips, quoted⟩
          set { reading with
            nextDocument := number + 1
            awaited := reading.awaited ++ [document] }
          return .document descriptor number
  | other => unexpected other

/-- What is read of a simple command. -/
structure SimpleParts where
  assignments : List Word := []
  words : List Word := []
  changes : List Redirection := []
  /-- The name of a function that is defined. -/
  defined : Option Word := none

/-- The parts of a simple command are read. -/
def simpleParts (list : ReadList) (bound : Nat) (parts : SimpleParts) : Reader SimpleParts := do
  match bound with
  | 0 => return parts
  | bound + 1 =>
      let atStart := parts.words.isEmpty
      match ← token list { aliases := atStart } with
      | .word word _ =>
          if atStart && (assigned? word).isSome then
            simpleParts list bound { parts with assignments := parts.assignments ++ [word] }
          else simpleParts list bound { parts with words := parts.words ++ [word] }
      | .redirection opening =>
          let change ← redirection list opening
          simpleParts list bound { parts with changes := parts.changes ++ [change] }
      | other =>
          match parts with
          | ⟨[], [name], [], _⟩ =>
              if other.isSign "(" then return { parts with defined := some name }
              else do push other; return parts
          | _ => do push other; return parts

/-- A simple command, or the definition of a function. -/
def simple (list : ReadList) (command : Reader Command) : Reader Command := do
  let line := (← get).line
  let parts ← simpleParts list ((← get).text.length + 2) {}
  match parts.defined with
  | none => return .simple line parts.assignments parts.words parts.changes
  | some name =>
      let closing ← token list
      if !closing.isSign ")" then expecting closing (.sign ")")
      match plainText? name with
      | some characters =>
          if !isName characters || specialCalls.contains (String.ofList characters) then
            refuse "Bad function name"
          else
            let line := (← get).line
            let first ← token list .start
            push first
            return .definition line (String.ofList characters) (← command)
      | none => refuse "Bad function name"

/-- A token has to be there. -/
def need (list : ReadList) (wanted : Token) : Reader Unit := do
  let found ← token list
  let same := match found, wanted with
    | .sign text, .sign other | .keyword text, .keyword other => text = other
    | _, _ => false
  if !same then expecting found wanted

/-- A list of commands that may not be empty. -/
def filledList (list : ReadList) : Reader Command := do
  return (← list .filled).getD .nothing

/-- What follows the body behind a condition: other conditions, or what is done otherwise. -/
def otherwise (list : ReadList) : Nat → Reader (Option Command)
  | 0 => return none
  | bound + 1 => do
      let found ← token list
      if found.isKeyword "elif" then
        let test ← filledList list
        need list (.keyword "then")
        let body ← filledList list
        return some (.conditional test body (← otherwise list bound))
      else if found.isKeyword "else" then return some (← filledList list)
      else do push found; return none

/-- The words that a loop goes through. -/
def loopWords (list : ReadList) (bound : Nat) (words : List Word) : Reader (List Word) := do
  match bound, ← token list with
  | bound + 1, .word word _ => loopWords list bound (words ++ [word])
  | _, .newline => return words
  | _, other => if other.isSign ";" then return words else unexpected other

/-- All arguments, each one as a word. -/
def allArguments : List Word := [[.mark, .parameter "@" false .keep [], .mark]]

/-- A loop over words. -/
def eachCommand (list : ReadList) (line : Nat) : Reader Command := do
  let name ← match ← token list with
    | .word word false =>
        match plainText? word with
        | some characters =>
            if isName characters then pure (String.ofList characters)
            else refuse "Bad for loop variable"
        | none => refuse "Bad for loop variable"
    | _ => refuse "Bad for loop variable"
  let following ← token list .start
  let words ←
    if following.isKeyword "in" then loopWords list ((← get).text.length + 2) []
    else do
      if !following.isSign ";" then push following
      pure allArguments
  let start ← token list .start
  if !start.isKeyword "do" then expecting start (.keyword "do")
  return .each line name words (← filledList list)

/-- The patterns of a case. Where there is something else in the place of one, the last word is the
pattern. -/
def casePatterns (list : ReadList) (bound : Nat) (patterns : List Word) (first : Token) :
    Reader (List Word) := do
  let read := patterns ++ [(first.word?).getD (← get).lastWord]
  match bound, ← token list with
  | bound + 1, .sign "|" => casePatterns list bound read (← token list)
  | _, following =>
      if following.isSign ")" then return read else expecting following (.sign ")")

/-- The cases of a choice, up to its end. -/
def choiceCases (list : ReadList) (bound : Nat) (cases : List (List Word × Command)) :
    Reader (List (List Word × Command)) := do
  match bound, ← token list { lines := true, keywords := true } with
  | 0, _ => return cases
  | bound + 1, first =>
      if first.isKeyword "esac" then return cases
      else
        let first ← if first.isSign "(" then token list else pure first
        let patterns ← casePatterns list ((← get).text.length + 2) [] first
        let body := (← list .any).getD .nothing
        let ending ← token list { lines := true, keywords := true }
        if ending.isKeyword "esac" then return cases ++ [(patterns, body)]
        else if ending.isSign ";;" then choiceCases list bound (cases ++ [(patterns, body)])
        else expecting ending (.sign ";;")

/-- A choice between cases. -/
def choiceCommand (list : ReadList) (line : Nat) : Reader Command := do
  let subject ← match ← token list with
    | .word word _ => pure word
    | other => expecting other (.word [] false)
  let following ← token list .start
  if !following.isKeyword "in" then expecting following (.keyword "in")
  return .choice line subject (← choiceCases list ((← get).text.length + 2) [])

/-- The redirections behind a command. -/
def changesBehind (list : ReadList) (bound : Nat) (wish : Wish) (changes : List Redirection) :
    Reader (List Redirection) := do
  match bound, ← token list wish with
  | bound + 1, .redirection opening =>
      let change ← redirection list opening
      changesBehind list bound {} (changes ++ [change])
  | _, other => do push other; return changes

/-- A command with its redirections. -/
def withChanges (line : Nat) (body : Command) (changes : List Redirection) : Command :=
  match body, changes with
  | _, [] => body
  | .subshell line body _, _ => .subshell line body changes
  | _, _ => .redirected line body changes

/-- A command that is made of commands, behind its first token. -/
def compound (list : ReadList) (line : Nat) (first : Token) : Reader (Option Command) := do
  match first with
  | .keyword "if" =>
      let test ← filledList list
      need list (.keyword "then")
      let body ← filledList list
      let others ← otherwise list ((← get).text.length + 2)
      need list (.keyword "fi")
      return some (.conditional test body others)
  | .keyword "while" | .keyword "until" =>
      let test ← filledList list
      need list (.keyword "do")
      let body ← filledList list
      need list (.keyword "done")
      return some (.loop (first.isKeyword "until") test body)
  | .keyword "for" =>
      let command ← eachCommand list line
      need list (.keyword "done")
      return some command
  | .keyword "case" => return some (← choiceCommand list line)
  | .keyword "\x7b" =>
      let body ← filledList list
      need list (.keyword "\x7d")
      return some body
  | .sign "(" =>
      let body ← filledList list
      need list (.sign ")")
      return some (.subshell line body [])
  | _ => return none

/-- One command. The bound is the number of definitions that may stand in front of it. -/
def command (list : ReadList) : Nat → Reader Command
  | 0 => return .nothing
  | bound + 1 => do
      let first ← token list
      let line := (← get).line
      match first with
      | .word _ _ | .redirection _ => do
          push first
          simple list (command list bound)
      | _ =>
          match ← compound list line first with
          | some body =>
              let changes ← changesBehind list ((← get).text.length + 2)
                { keywords := true, aliases := true } []
              return withChanges line body changes
          | none => unexpected first

/-- The commands behind the first one of a pipeline. -/
def pipelineRest (list : ReadList) (bound : Nat) (commands : List Command) :
    Reader (List Command) := do
  match bound, ← token list with
  | bound + 1, .sign "|" => do
      let first ← token list .start
      push first
      let next ← command list ((← get).text.length + 2)
      pipelineRest list bound (commands ++ [next])
  | _, other => do push other; return commands

/-- A pipeline, which may be negated. -/
def pipeline (list : ReadList) : Reader Command := do
  let first ← token list
  let negated := first.isKeyword "!"
  if negated then
    let following ← token list { keywords := true, aliases := true }
    push following
  else push first
  let head ← command list ((← get).text.length + 2)
  let body ← match ← pipelineRest list ((← get).text.length + 2) [head] with
    | [single] => pure single
    | commands => pure (.pipeline commands false)
  return if negated then .negation body else body

/-- Pipelines that depend on the outcome of those in front of them. -/
def andOrRest (list : ReadList) (bound : Nat) (first : Command) : Reader Command := do
  let found ← token list
  let isBoth := found.isSign "&&"
  match bound with
  | bound + 1 =>
      if isBoth || found.isSign "||" then
        let start ← token list .start
        push start
        let second ← pipeline list
        andOrRest list bound (if isBoth then .both first second else .either first second)
      else do push found; return first
  | 0 => do push found; return first

/-- A pipeline and those that depend on it. -/
def andOr (list : ReadList) : Reader Command := do
  let first ← pipeline list
  andOrRest list ((← get).text.length + 2) first

/-- A command that is not waited for. -/
def inBackground : Command → Command
  | .pipeline commands _ => .pipeline commands true
  | command => .background command

/-- A list of commands, in which some have been read. -/
def commandList (list : ReadList) (kind : ListKind) (bound : Nat) (mayEnd : Bool)
    (read : Command) : Reader (Option Command) := do
  let top := kind = .line
  let first ← token list { lines := !top, keywords := true, aliases := true }
  match bound, first with
  | 0, _ => return some read
  | _, .newline => do
      readDocuments list
      return some read
  | _, .ended => do
      readDocuments list
      push .ended
      return if top && read matches .nothing then none else some read
  | bound + 1, _ => do
      push first
      if mayEnd && first.endsList then return some read
      let part ← andOr list
      let following ← token list
      let inBack := following.isSign "&"
      let joined := read.followedBy (if inBack then inBackground part else part)
      match following with
      | .ended => do
          readDocuments list
          push .ended
          return some joined
      | .newline => do
          push following
          commandList list kind bound (!top) joined
      | _ =>
          if inBack || following.isSign ";" then commandList list kind bound (!top) joined
          else if top then unexpected following
          else do push following; return some joined

/-- Lists of commands that may hold others up to a depth. -/
def lists : Nat → ReadList
  | 0, _ => refuse "Unterminated quoted string"
  | depth + 1, kind => do
      let list : ReadList := fun kind => lists depth kind
      match kind with
      | .enclosed =>
          let outer := (← get).awaited
          modify fun reading => { reading with awaited := [] }
          let command ← commandList list .any ((← get).text.length + 2) true .nothing
          need list (.sign ")")
          readDocuments list
          modify fun reading => { reading with awaited := outer }
          return command
      | _ => commandList list kind ((← get).text.length + 2) (kind = .any) .nothing

end Reader

/-- The next complete command, or none if the text is at its end. -/
def Reading.next (reading : Reading) : Except Flaw (Option Command) × Reading :=
  (Reader.lists (reading.text.length + 2) .line).run
    { reading with pushed := none, awaited := [] }

end PromptShell.Host.Script
