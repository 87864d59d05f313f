namespace PromptShell.Host.Script

/-- Where a chunk may be cut. Arguments that stand side by side have a zero between them. -/
inductive Cuts where
  | never
  | separators
  | arguments
  deriving Repr, DecidableEq

/-- A character of an expanded word, or the place where a quotation starts or ends. -/
inductive Item where
  | character (character : Char) (quoted : Bool)
  | mark
  deriving Repr, DecidableEq

/-- The character of an item. -/
def Item.character? : Item → Option Char
  | .character value _ => some value
  | .mark => none

/-- A part of an expanded word. Characters that were written side by side may be joined. -/
structure Chunk where
  cuts : Cuts
  items : List Item
  joins : Bool := false
  deriving Repr

/-- The characters of items. -/
def itemsText (items : List Item) : List Char := items.filterMap Item.character?

/-- The text of chunks that are not cut. -/
def chunksText (chunks : List Chunk) : String :=
  String.ofList (chunks.flatMap fun chunk => itemsText chunk.items)

/-- A separator of which many in a row count as one. -/
def isBlankSeparator (character : Char) : Bool :=
  ['\x00', ' ', '\t', '\n'].contains character

/-- The state between two characters when chunks are cut. Fields and their items are held with the
latest one first. `passing` tells that blank separators are being passed over, `left` is the number
of fields that may still end in a separator if there is a limit, and `kept` is what stays of the
last field if only separators follow. -/
structure Cutter where
  fields : List (List Item) := []
  current : List Item := []
  passing : Bool := false
  left : Option Nat := none
  kept : Option (List Item) := none

namespace Cutter

/-- A field ends. -/
def endField (cutter : Cutter) : Cutter :=
  { cutter with fields := cutter.current :: cutter.fields, current := [] }

/-- An item behind the last separator that may end a field. -/
def takeLast (cutter : Cutter) (item : Item) (separates blank : Bool) : Cutter :=
  let kept :=
    if blank then some (cutter.kept.getD cutter.current)
    else if separates && cutter.passing then cutter.kept
    else none
  { cutter with
    current := item :: cutter.current, kept, passing := cutter.passing && blank }

/-- A separator. Blank ones in front of a field are passed over. -/
def separate (cutter : Cutter) (item : Item) (blank : Bool) : Cutter :=
  if cutter.current.isEmpty && blank then { cutter with passing := false }
  else match cutter.left with
    | some 1 =>
        { cutter with
          left := some 0, kept := some cutter.current
          current := item :: cutter.current, passing := blank }
    | left => { cutter.endField with passing := blank, left := left.map (· - 1) }

/-- An item of a chunk that may be cut. `alone` tells that each separator counts by itself. -/
def take (separators : List Char) (alone : Bool) (cutter : Cutter) (item : Item) : Cutter :=
  let character := item.character?
  let separates := character.any fun character =>
    character = '\x00' || separators.contains character
  let blank := separates && character.any isBlankSeparator
  if cutter.left = some 0 then cutter.takeLast item separates blank
  else if cutter.passing && separates then { cutter with passing := blank }
  else if separates then cutter.separate item (blank && !alone)
  else { cutter with current := item :: cutter.current, passing := false }

/-- A chunk goes through, behind one that was cut as told. -/
def takeChunk (separators : List Char) (cutter : Cutter) (before : Cuts) (chunk : Chunk) :
    Cutter :=
  match chunk.cuts with
  | .never => { cutter with current := chunk.items.reverse ++ cutter.current }
  | cuts =>
      let alone := cuts = .arguments || before = .arguments
      let chosen := if cuts = .arguments then [] else separators
      chunk.items.foldl (take chosen alone) { cutter with passing := false }

/-- Chunks go through. An empty field at the end counts if it is an argument. -/
def takeAll (separators : List Char) (cutter : Cutter) (before : Cuts) :
    List Chunk → List (List Item)
  | [] =>
      let last := cutter.kept.getD cutter.current
      let cut := if last.isEmpty && before ≠ .arguments then cutter
        else { cutter with current := last }.endField
      (cut.fields.map List.reverse).reverse
  | chunk :: rest =>
      let cutter := cutter.takeChunk separators before chunk
      cutter.takeAll separators (if chunk.cuts = .never then before else chunk.cuts) rest

/-- An end of a field adds one. -/
@[simp] theorem length_endField (cutter : Cutter) :
    cutter.endField.fields.length = cutter.fields.length + 1 := rfl

end Cutter

/-- The fields of chunks. With a limit the last field takes up the rest, without blanks behind
it. -/
def cutFields (separators : List Char) (limit : Option Nat) (chunks : List Chunk) :
    List (List Item) :=
  ({ left := limit } : Cutter).takeAll separators .never chunks

/-- Nothing makes no field. -/
@[simp] theorem cutFields_nil (separators : List Char) (limit : Option Nat) :
    cutFields separators limit [] = [] := rfl

/-- The characters that a quotation guards in patterns. -/
def isGuarded (character : Char) : Bool := "!*?[]=~:/-\\".toList.contains character

/-- The pattern that items stand for: backslashes guard what was quoted. A backslash that was not
quoted guards what follows by itself. -/
def patternText (guarded quoting : Bool) : List Item → List Char
  | [] => []
  | .mark :: rest => patternText guarded (!quoting) rest
  | .character character false :: rest =>
      character :: patternText (character = '\\') quoting rest
  | .character character true :: rest =>
      let guards :=
        if !guarded then ['\\']
        else if quoting && isGuarded character then ['\\', '\\']
        else []
      guards ++ character :: patternText false quoting rest

/-- The pattern of chunks that are not cut. -/
def chunksPattern (chunks : List Chunk) : List Char :=
  patternText false false (chunks.flatMap Chunk.items)

end PromptShell.Host.Script
