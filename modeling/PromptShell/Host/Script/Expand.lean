import PromptShell.Host.Account
import PromptShell.Host.Script.Fields
import PromptShell.Host.Script.Fork
import PromptShell.Host.Script.Glob
import PromptShell.Host.Script.Sum
import PromptShell.Host.Script.Switch
namespace PromptShell.Host.Script

/-- What a word is expanded for. -/
inductive Purpose where
  | fields
  | pattern
  | text
  deriving Repr, DecidableEq

/-- How a word is expanded. `inWord` tells that it stands for the value of a parameter, and
`assigns` that it holds an assignment, in which colons separate paths. -/
structure Manner where
  purpose : Purpose
  quoted : Bool := false
  inWord : Bool := false
  assigns : Bool := false
  deriving Repr

/-- The place between two parts of a word. `tilde` tells that a tilde may stand there, `equals` that
the equals sign of an assignment lies before, and `skips` counts parts that have been used up. -/
structure Place where
  quoted : Bool := false
  tilde : Bool := false
  equals : Bool := false
  skips : Nat := 0

namespace Manner

/-- Quotes are kept in mind. -/
def keepsQuotes (manner : Manner) : Bool := manner.purpose ≠ .text

/-- A value that was found, and the chunk of it. -/
def chunk (manner : Manner) (cuts : Cuts) (text : List Char) : Chunk :=
  ⟨cuts, text.map fun character => .character character manner.quoted, false⟩

/-- The chunk of a result, which may be cut unless it is quoted. -/
def result (manner : Manner) (text : List Char) : Chunk :=
  manner.chunk (if manner.quoted then .never else .separators) text

end Manner

namespace Shell

/-- The text between the arguments when they are joined, if there is any. -/
def joint (shell : Shell) (manner : Manner) (name : String) : List Char :=
  let fields := manner.purpose = .fields
  let value := shell.value? "IFS"
  if manner.quoted then
    if fields && name = "@" then ['\x00'] else joined value
  else if fields then (if value.isSome then ['\x00'] else [' '])
  else joined value
where
  joined (value : Option String) : List Char :=
    match value with
    | none => [' ']
    | some separators => separators.toList.take 1

/-- The value of a parameter. -/
def parameter? (shell : Shell) (manner : Manner) (name : String) : Option (List Char) :=
  match name with
  | "$" => some (toString shell.root).toList
  | "?" => some (toString shell.status).toList
  | "#" => some (toString shell.arguments.length).toList
  | "!" => shell.lastJob.map fun process => (toString process).toList
  | "-" => some (shownSwitches shell.options)
  | "@" | "*" =>
      let arguments := shell.arguments.map String.toList
      some ((arguments.intersperse (shell.joint manner name)).flatten)
  | _ =>
      if name.toList.all Char.isDigit then
        match name.toNat? with
        | some 0 => some shell.name.toList
        | some (index + 1) => (shell.arguments[index]?).map String.toList
        | none => none
      else (shell.value? name).map String.toList

/-- The chunk of a parameter's value. -/
def parameterChunk (shell : Shell) (manner : Manner) (name : String) (value : List Char) : Chunk :=
  if manner.quoted && name = "@" && !shell.arguments.isEmpty then manner.chunk .arguments value
  else manner.result value

/-- The directory that a tilde stands for, and the number of parts that name it. -/
def tildeHome? (shell : Shell) (assigns : Bool) (behind : Word) : Option (String × Nat) :=
  let name := behind.takeWhile fun part => match part with
    | .literal character false => character ≠ '/' && !(assigns && character = ':')
    | _ => false
  let ended := match behind.drop name.length with
    | [] | .literal _ false :: _ => true
    | _ => false
  let home :=
    if name.isEmpty then shell.value? "HOME"
    else accountHome? (String.ofList (literalText name))
  if ended then home.map fun home => (home, name.length + 1) else none

end Shell

/-- A text up to its first zero. -/
def beforeZero (text : List Char) : List Char := text.takeWhile fun character => character ≠ '\x00'

/-- A value without the part at its front that a pattern matches. -/
def withoutFront (longest : Bool) (pattern value : List Char) : List Char :=
  let counts := List.range (value.length + 1)
  let ordered := if longest then counts.reverse else counts
  match ordered.find? fun count => matchesPattern pattern (beforeZero (value.take count)) with
  | some count => value.drop count
  | none => value

/-- A value without the part at its back that a pattern matches. The longest one is looked for from
the front on, up to the first zero. -/
def withoutBack (longest : Bool) (pattern value : List Char) : List Char :=
  let ordered :=
    if longest then List.range ((beforeZero value).length + 1)
    else (List.range (value.length + 1)).reverse
  match ordered.find? fun count => matchesPattern pattern (beforeZero (value.drop count)) with
  | some count => value.take count
  | none => value

/-- A literal is added to chunks, of which the latest one comes first. -/
def addLiteral (cuts : Cuts) (item : Item) : List Chunk → List Chunk
  | [] => [⟨cuts, [item], true⟩]
  | chunk :: chunks =>
      if chunk.joins && chunk.cuts = cuts then
        { chunk with items := item :: chunk.items } :: chunks
      else ⟨cuts, [item], true⟩ :: chunk :: chunks

/-- Chunks in order, to which nothing is joined any more. The items of those that were joined are
held with the latest one first. -/
def orderedChunks (chunks : List Chunk) : List Chunk :=
  (chunks.map fun chunk =>
    if chunk.joins then { chunk with items := chunk.items.reverse, joins := false }
    else chunk).reverse

namespace Run

/-- A parameter that has to be set is not. -/
def unsetFault {Value : Type} (name text : String) : Run Value :=
  fail (name ++ ": " ++ text)

/-- A parameter is expanded. The word behind it can be expanded in a given manner. -/
def expandParameter (manner : Manner) (name : String) (orNull : Bool) (change : Change)
    (bare : Bool) (word : Manner → Run (List Chunk)) : Run (List Chunk) := do
  let shell ← get
  let counts (value : List Char) : Bool := !(orNull && value.isEmpty)
  let value := shell.parameter? manner name
  let present := value.filter counts
  let chunkOf (value : List Char) : List Chunk := [shell.parameterChunk manner name value]
  let inner : Manner := { manner with inWord := true }
  let plain : Manner := { purpose := .text }
  let refused : Run Unit := do
    if present.isNone && shell.has 'u' then unsetFault name "parameter not set"
  match change with
  | .flawed => fail "Bad substitution"
  | .keep => do
      refused
      return (present.map chunkOf).getD []
  | .orElse =>
      match present with
      | some value => return chunkOf value
      | none => word inner
  | .ifSet =>
      match (shell.parameter? plain name).filter counts with
      | some _ => word inner
      | none => return chunkOf []
  | .orFail =>
      match present with
      | some value => return chunkOf value
      | none => do
          let text := chunksText (← word plain)
          if bare then
            unsetFault name ("parameter not set" ++ if orNull then " or null" else "")
          else unsetFault name text
  | .orAssign =>
      match present with
      | some value => return chunkOf value
      | none => do
          setVariable name (chunksText (← word plain))
          let shell ← get
          let value := (shell.parameter? manner name).getD []
          return [shell.parameterChunk manner name value]
  | .size => do
      refused
      let size := ((shell.parameter? plain name).map List.length).getD 0
      return chunkOf (toString size).toList
  | .cutFront longest => cut value refused chunkOf (withoutFront longest)
  | .cutBack longest => cut value refused chunkOf (withoutBack longest)
where
  cut (value : Option (List Char)) (refused : Run Unit) (chunkOf : List Char → List Chunk)
      (without : List Char → List Char → List Char) : Run (List Chunk) := do
    refused
    match value with
    | none => return []
    | some value => do
        let pattern := chunksPattern (← word { purpose := .pattern })
        return chunkOf (without pattern value)

/-- A text without the newlines at its end. -/
def withoutNewlines (text : List Char) : List Char :=
  (text.reverse.dropWhile fun character => character = '\n').reverse

/-- A command is expanded to what it puts out. -/
def expandCommand (engine : Engine) (manner : Manner) (command : Command) : Run (List Chunk) := do
  match command with
  | .nothing => return [manner.result []]
  | _ => do
      let shell ← get
      let (bytes, status) ← capture engine command
      modify fun after => { after with expansionStatus := status, status := shell.status }
      let text := (Raw.ofBytes bytes).toList.filter fun character => character ≠ '\x00'
      return [manner.result (withoutNewlines text)]

/-- All arguments stand in quotes by themselves behind a mark. -/
def startsWithAll : Word → Bool
  | .parameter "@" false .keep [] :: .mark :: _ => true
  | _ => false

/-- Results apart from the literals beside them. -/
def apart (chunks : List Chunk) : List Chunk :=
  if chunks.isEmpty then [⟨.never, [], false⟩] else chunks.reverse

/-- The parts of a word are expanded one behind the other. Chunks are held with the latest one
first. -/
def expandParts (engine : Engine) (manner : Manner) (place : Place) (chunks : List Chunk) :
    Word → Run (List Chunk)
  | [] => return orderedChunks chunks
  | part :: rest => do
      let quoted := manner.quoted || place.quoted
      let current : Manner := { manner with quoted }
      let next : Place := { place with tilde := false, skips := place.skips - 1 }
      if 0 < place.skips then expandParts engine manner next chunks rest
      else match part with
        | .mark =>
            if !place.quoted && startsWithAll rest then
              let values ← expandParameter { manner with quoted := true } "@" false .keep true
                fun _ => return []
              expandParts engine manner { next with skips := 2 } (values.reverse ++ chunks) rest
            else
              expandParts engine manner { next with quoted := !next.quoted }
                (if manner.keepsQuotes then addLiteral .never .mark chunks else chunks) rest
        | .literal character guarded => do
            let shell ← get
            let home :=
              if place.tilde && character = '~' && !guarded then
                shell.tildeHome? manner.assigns rest
              else none
            match home with
            | some (home, used) =>
                let chunk := { current with quoted := true }.chunk .never home.toList
                expandParts engine manner { next with skips := used - 1 } (chunk :: chunks) rest
            | none =>
                let cuts := if manner.inWord && !quoted && !guarded then Cuts.separators else .never
                let equals := character = '=' && !guarded
                let colon := character = ':' && !guarded
                let tilde := manner.assigns && (colon || (equals && !place.equals))
                expandParts engine manner
                  { next with tilde, equals := place.equals || equals }
                  (addLiteral cuts (.character character (guarded || quoted)) chunks) rest
        | .parameter name orNull change word => do
            let values ← expandParameter current name orNull change word.isEmpty fun inner =>
              expandParts engine inner { tilde := true, equals := place.equals } [] word
            expandParts engine manner next (apart values ++ chunks) rest
        | .command command => do
            let values ← expandCommand engine current command
            expandParts engine manner next (apart values ++ chunks) rest
        | .sum text => do
            let words ← expandParts engine { purpose := .text } {} [] text
            let value ← evaluateSum (chunksText words)
            expandParts engine manner next
              (current.result (toString value).toList :: chunks) rest
termination_by word => sizeOf word

/-- A word is expanded. -/
def expandWord (engine : Engine) (manner : Manner) (tilde : Bool) (word : Word) :
    Run (List Chunk) :=
  expandParts engine manner { tilde } [] word

/-- A word is expanded to a text. -/
def expandText (engine : Engine) (word : Word) : Run String := do
  return chunksText (← expandWord engine { purpose := .text } true word)

/-- A word that holds an assignment is expanded to a text. -/
def expandAssignment (engine : Engine) (word : Word) : Run String := do
  return chunksText (← expandWord engine { purpose := .text, assigns := true } false word)

/-- A word is expanded to a pattern. -/
def expandPattern (engine : Engine) (word : Word) : Run (List Char) := do
  return chunksPattern (← expandWord engine { purpose := .pattern } true word)

/-- A document is expanded to its text. -/
def expandDocument (engine : Engine) (word : Word) : Run String := do
  return chunksText (← expandWord engine { purpose := .text, quoted := true } false word)

/-- The paths that a field matches, or its text if there are none. -/
def pathsOf (shell : Shell) (field : List Item) : List String :=
  let paths :=
    if shell.has 'f' then []
    else if !shell.around.hasRoom 1 then []
    else pathsMatching shell.tree shell.directory (patternText false false field)
  if paths.isEmpty then [String.ofList (itemsText field)] else paths

/-- A word is expanded to fields, which may name files. -/
def expandFields (engine : Engine) (word : Word) : Run (List String) := do
  let chunks ← expandWord engine { purpose := .fields } true word
  let shell ← get
  return (cutFields shell.separators none chunks).flatMap (pathsOf shell)

end Run
end PromptShell.Host.Script
