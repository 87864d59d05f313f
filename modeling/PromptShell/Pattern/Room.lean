import PromptShell.Pattern.Encoding
import PromptShell.Pattern.Joining
import Std.Data.TreeMap
namespace PromptShell.Pattern

/-- The bytes that a prepared pattern may take up in one direction. -/
def roomLimit : Nat := 10 * Nat.pow 2 20

/-- The room of a place. -/
def placeRoom : Nat := 32

/-- The room of a jump from a place with several of them. -/
def jumpRoom : Nat := 8

/-- The room of a way out of a fork. -/
def wayRoom : Nat := 4

/-- The size of a graph: its places, and the room of the jumps and ways that are kept with them.
Places are numbered in the order in which they are made. -/
structure Graph where
  places : Nat := 0
  links : Nat := 0
  deriving Repr, DecidableEq

namespace Graph

/-- The room of a graph. -/
def room (graph : Graph) : Nat := placeRoom * graph.places + graph.links

/-- A graph with more places and links. -/
def add (graph : Graph) (places links : Nat) : Graph :=
  ⟨graph.places + places, graph.links + links⟩

/-- A fork with a number of ways out. -/
def fork (graph : Graph) (ways : Nat) : Graph := graph.add 1 (wayRoom * ways)

/-- A part is made a number of times, unless the graph is too large already. -/
def times (part : Graph → Graph) : Nat → Graph → Graph
  | 0, graph => graph
  | count + 1, graph => if roomLimit < graph.room then graph else times part count (part graph)

end Graph

/-- A graph while the places of a set are made. A slot remembers what its latest place is for. -/
structure Building where
  graph : Graph
  slots : Std.TreeMap Nat (List Nat × Nat) := {}

namespace Building

/-- The slot of some numbers, mixed into one. -/
def slotOf (slots : Nat) (numbers : List Nat) : Nat :=
  let mixed : UInt64 := numbers.foldl
    (fun mixed number => (mixed ^^^ number.toUInt64) * 1099511628211) 14695981039346656037
  mixed.toNat % slots

/-- A place for something that numbers tell: the remembered one, or a new one with links. A slot
remembers only its latest place, so the same set may take up more room at one point of a pattern
than at another. -/
def share (slots : Nat) (numbers : List Nat) (links : Nat) : StateM Building Nat := do
  let building ← get
  let slot := slotOf slots numbers
  let fresh : StateM Building Nat := do
    let place := building.graph.places
    set { graph := building.graph.add 1 links
          slots := building.slots.insert slot (numbers, place) : Building }
    return place
  match building.slots[slot]? with
  | some (known, place) => if known = numbers then return place else fresh
  | none => fresh

/-- The number of slots for places that are read forward. -/
def forwardSlots : Nat := 10000

/-- The number of slots for places that are read backward. -/
def backwardSlots : Nat := 1000

end Building

/-- A place that is not made yet: its jumps so far, as numbers, and the range of bytes of the last
one, which leads to another such place. -/
structure Opened where
  jumps : List Nat := []
  last : Option (Nat × Nat) := none

namespace Opened

/-- The last jump leads to a place that is made. -/
def close (opened : Opened) (target : Nat) : Opened :=
  match opened.last with
  | some (low, high) => ⟨opened.jumps ++ [low, high, target], none⟩
  | none => opened

/-- Opened places are made, the last one first. -/
def settle (target : Nat) : List Opened → StateM Building Nat
  | [] => return target
  | opened :: deeper => do
      let jumps := (opened.close (← settle target deeper)).jumps
      Building.share Building.forwardSlots jumps (jumpRoom * (jumps.length / 3))

/-- An encoding goes on behind what it has in common with the one before it. -/
def follow (target : Nat) : List Opened → ByteRanges → StateM Building (List Opened)
  | opened :: deeper, range :: rest => do
      if opened.last = some range then return opened :: (← follow target deeper rest)
      else
        let closed := opened.close (← settle target deeper)
        let further := rest.map fun range => ({ last := some range } : Opened)
        return { closed with last := some range } :: further
  | opened, _ => return opened

end Opened

namespace Ranges

/-- A set that is read forward: encodings share what they have in common at their ends. -/
def buildForward (ranges : Ranges) (graph : Graph) : Graph :=
  let target := graph.places
  let work : StateM Building Unit := do
    let mut opened : List Opened := [{}]
    for encoding in ranges.encodings do
      opened ← Opened.follow target opened encoding
    let _ ← Opened.settle target opened
  (work.run { graph := graph.add 1 0 }).2.graph

/-- A set that is read backward: a fork leads to the last bytes of all encodings, which share what
they have in common at their beginnings. -/
def buildBackward (ranges : Ranges) (graph : Graph) : Graph :=
  let target := graph.places + 1
  let encodings := ranges.encodings
  let work : StateM Building Unit := do
    for encoding in encodings do
      let mut place := target
      for (low, high) in encoding do
        place ← Building.share Building.backwardSlots [place, low, high] 0
  let forked := (graph.fork encodings.length).add 1 0
  (work.run { graph := forked }).2.graph

/-- The places of a set. -/
def build (backward : Bool) (ranges : Ranges) (graph : Graph) : Graph :=
  if ranges.isAscii then graph.add 2 (jumpRoom * ranges.length)
  else if backward then ranges.buildBackward graph
  else ranges.buildForward graph

end Ranges

/-- A word as bytes. -/
abbrev Word := List UInt8

namespace Word

/-- The words behind a first byte. -/
def behind (first : UInt8) (words : List Word) : List Word :=
  words.filterMap fun word => if word.head? = some first then some word.tail else none

/-- The places of words in a choice, up to a number of bytes. Words with the same first byte go on
from one place, unless a word ends between them; a place where nothing goes on is the common end. -/
def build : Nat → List Word → Graph → Graph
  | 0, _, graph => graph
  | count + 1, words, graph =>
      let groups := (words.splitOnP List.isEmpty).filter fun group => !group.isEmpty
      let ends := words.countP List.isEmpty
      if groups.isEmpty then graph
      else
        let inGroup (graph : Graph) (group : List Word) : Graph :=
          let firsts := (group.filterMap List.head?).eraseDups
          let jumps := if firsts.length = 1 then 0 else jumpRoom * firsts.length
          firsts.foldl (fun graph first => build count (behind first group) graph)
            (graph.add 1 jumps)
        groups.foldl inGroup (graph.fork (groups.length + ends))

end Word

/-- The word of a literal; read backward, its last byte comes first. -/
def word? (backward : Bool) : Pattern → Option Word
  | literal text =>
      let bytes := Utf8.encodeChars text
      some (if backward then bytes.reverse else bytes)
  | _ => none

/-- The pattern has a part that matches nothing at all. -/
def hasEmptySet : Pattern → Bool
  | oneOf set => set.isEmpty
  | sequence first second | choice first second => first.hasEmptySet || second.hasEmptySet
  | repetition _ _ _ body | group _ body => body.hasEmptySet
  | _ => false

/-- The pattern cannot match the empty text, as far as its form shows. -/
def takesSome : Pattern → Bool
  | vacant | anchor _ => false
  | literal _ | oneOf _ => true
  | sequence first second => first.takesSome || second.takesSome
  | choice first second => first.takesSome && second.takesSome
  | repetition least _ _ body => 0 < least && body.takesSome
  | group _ body => body.takesSome

/-- Where a pattern stands in a choice: outside of any or in front, as the second branch, or
further behind. -/
inductive Standing where
  | first
  | second
  | further
  deriving Repr, DecidableEq

/-- A branch was made. The fork of the choice and the end of its branches are made behind the second
one. -/
def Standing.join (standing : Standing) (graph : Graph) : Graph :=
  match standing with
  | first => graph
  | second => graph.add 2 (2 * wayRoom)
  | further => graph.add 0 wayRoom

/-- A part is made as often as a repetition may match it. -/
def buildRepetition (least : Nat) (most : Option Nat) (solid : Bool) (body : Graph → Graph)
    (graph : Graph) : Graph :=
  match most with
  | none =>
      if least = 0 then
        if solid then body (graph.fork 2) else (((body graph).fork 2).fork 2).add 1 0
      else (Graph.times body least graph).fork 2
  | some most =>
      if most = least then Graph.times body least graph
      else if least = 0 ∧ most = 1 then (body (graph.fork 2)).add 1 0
      else
        let front := if least = 0 then graph.add 1 0 else Graph.times body least graph
        Graph.times (fun graph => body (graph.fork 2)) (most - least) (front.add 1 0)

/-- The places of a pattern. A choice among words alone shares what they begin with. -/
def build (backward : Bool) (standing : Standing) (pattern : Pattern) (graph : Graph) : Graph :=
  match pattern with
  | choice first second =>
      let words := (choice first second).branches.mapM (word? backward)
      match standing, words with
      | .first, some words =>
          let size := words.foldl (fun count word => count + word.length) 1
          Word.build size words (graph.add 1 0)
      | .first, none => second.build backward .second (first.build backward .first graph)
      | standing, _ =>
          second.build backward .further (standing.join (first.build backward .first graph))
  | vacant | anchor _ => standing.join (graph.add 1 0)
  | literal text => standing.join (graph.add (Utf8.encodeChars text).length 0)
  | oneOf set => standing.join (set.build backward graph)
  | sequence first second =>
      standing.join (if backward then
          first.build backward .first (second.build backward .first graph)
        else second.build backward .first (first.build backward .first graph))
  | repetition least most _ body =>
      standing.join (buildRepetition least most (body.takesSome && !body.hasEmptySet)
        (body.build backward .first) graph)
  | group _ body =>
      standing.join (if backward then body.build backward .first graph
        else (body.build backward .first (graph.add 1 0)).add 1 0)

/-- Each match starts at the start of the text, or ends at its end. -/
def isHeld (atEnd : Bool) : Pattern → Bool
  | anchor condition => condition = if atEnd then .textEnd else .textStart
  | sequence first second =>
      if atEnd then second.isHeld atEnd || (second.takesNothing && first.isHeld atEnd)
      else first.isHeld atEnd || (first.takesNothing && second.isHeld atEnd)
  | choice first second => first.isHeld atEnd && second.isHeld atEnd
  | repetition least _ _ body => 0 < least && body.isHeld atEnd
  | group _ body => body.isHeld atEnd
  | _ => false

/-- The room of a pattern that is searched for anywhere in a text: in front of it any bytes are
passed, unless it is held, and behind it is the place of success. Read forward, the match as a whole
is a group, too. -/
def room (backward : Bool) (pattern : Pattern) : Nat :=
  let passed : Graph :=
    if pattern.isHeld backward then ⟨1, 0⟩ else (({} : Graph).fork 2).add 2 jumpRoom
  let whole := if backward then pattern.build backward .first passed
    else (pattern.build backward .first (passed.add 1 0)).add 1 0
  (whole.add 1 0).room

end PromptShell.Pattern
