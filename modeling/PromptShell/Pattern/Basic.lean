import PromptShell.Pattern.Ranges
namespace PromptShell

/-- A place at which words begin or end, or one at which they do not. -/
inductive WordEdge where
  | either
  | neither
  | start
  | stop
  | startHalf
  | stopHalf
  deriving Repr, DecidableEq

/-- A condition on a place of a text, which takes up no character. -/
inductive Anchor where
  | textStart
  | textEnd
  | lineStart (returns : Bool)
  | lineEnd (returns : Bool)
  | word (edge : WordEdge) (everyScript : Bool)
  deriving Repr, DecidableEq

/-- A pattern. A repetition without an upper bound goes on as long as it can, and a lazy one ends as
soon as it can; a group with a number keeps what it matched. -/
inductive Pattern where
  | vacant
  | literal (text : List Char)
  | oneOf (set : Pattern.Ranges)
  | anchor (condition : Anchor)
  | sequence (first second : Pattern)
  | choice (first second : Pattern)
  | repetition (least : Nat) (most : Option Nat) (lazily : Bool) (body : Pattern)
  | group (number : Nat) (body : Pattern)
  deriving Repr, DecidableEq

namespace Anchor

/-- A character of a word: an ASCII letter, a digit or the low line. -/
def isWordChar (character : Char) : Bool := character.isAlphanum || character = '_'

/-- The condition holds between two characters, one of which is missing at an end of the text. With
returns a line may also end with a carriage return, which stays together with its newline. -/
def holds (anchor : Anchor) (before after : Option Char) : Bool :=
  match anchor with
  | textStart => before.isNone
  | textEnd => after.isNone
  | lineStart false => before.isNone || before = some '\n'
  | lineStart true =>
      before.isNone || before = some '\n' || (before = some '\r' && after ≠ some '\n')
  | lineEnd false => after.isNone || after = some '\n'
  | lineEnd true =>
      after.isNone || after = some '\r' || (after = some '\n' && before ≠ some '\r')
  | word edge _ =>
      let wordBefore := before.any isWordChar
      let wordAfter := after.any isWordChar
      match edge with
      | .either => wordBefore != wordAfter
      | .neither => wordBefore == wordAfter
      | .start => !wordBefore && wordAfter
      | .stop => wordBefore && !wordAfter
      | .startHalf => !wordBefore
      | .stopHalf => !wordAfter

end Anchor

namespace Pattern

/-- A set of places of a text: bit `n` stands for the place behind `n` characters. -/
abbrev Places := Nat

/-- The places at which a condition on the neighbours holds. -/
def placesWhere (holds : Option Char → Option Char → Bool) (before : Option Char) :
    List Char → Places
  | [] => if holds before none then 1 else 0
  | character :: rest =>
      2 * placesWhere holds (some character) rest + if holds before (some character) then 1 else 0

/-- The places in front of the characters of a kind. -/
def placesBefore (wanted : Char → Bool) (text : List Char) : Places :=
  placesWhere (fun _ after => after.any wanted) none text

/-- A step from places to places. -/
structure Step where
  apply : Places → Places

/-- A step is taken a number of times, or until it changes nothing any more. -/
def Step.times (step : Step) : Nat → Places → Places
  | 0, places => places
  | count + 1, places =>
      let next := step.apply places
      if next = places then places else step.times count next

/-- The places of a start and of up to a number of steps from there. -/
def Step.upTo (step : Step) (start : Places) : Nat → Places → Places
  | 0, places => places
  | count + 1, places =>
      let next := start ||| step.apply places
      if next = places then places else step.upTo start count next

/-- The step of a pattern through a text. A repetition without an upper bound reaches all that it
can reach in as many steps as the text has places. -/
def step (text : List Char) : Pattern → Step
  | vacant => ⟨id⟩
  | literal wanted =>
      let masks := wanted.map fun character => placesBefore (· = character) text
      ⟨fun places => masks.foldl (fun places mask => 2 * (places &&& mask)) places⟩
  | oneOf set =>
      let mask := placesBefore (fun character => set.contains character.toNat) text
      ⟨fun places => 2 * (places &&& mask)⟩
  | anchor condition =>
      let mask := placesWhere condition.holds none text
      ⟨fun places => places &&& mask⟩
  | sequence first second =>
      let front := first.step text
      let back := second.step text
      ⟨fun places => back.apply (front.apply places)⟩
  | choice first second =>
      let left := first.step text
      let right := second.step text
      ⟨fun places => left.apply places ||| right.apply places⟩
  | group _ body => body.step text
  | repetition least most _ body =>
      let once := body.step text
      let further := match most with
        | some most => most - least
        | none => text.length + 1
      ⟨fun places =>
        let start := once.times least places
        once.upTo start further start⟩

/-- The pattern matches some part of a text. -/
def foundIn (pattern : Pattern) (text : String) : Bool :=
  let characters := text.toList
  (pattern.step characters).apply (Nat.pow 2 (characters.length + 1) - 1) ≠ 0

@[simp] theorem step_vacant (text : List Char) (places : Places) :
    (vacant.step text).apply places = places := rfl

@[simp] theorem step_sequence (text : List Char) (first second : Pattern) (places : Places) :
    ((sequence first second).step text).apply places =
      (second.step text).apply ((first.step text).apply places) := rfl

@[simp] theorem step_choice (text : List Char) (first second : Pattern) (places : Places) :
    ((choice first second).step text).apply places =
      (first.step text).apply places ||| (second.step text).apply places := rfl

@[simp] theorem step_group (text : List Char) (number : Nat) (body : Pattern) :
    (group number body).step text = body.step text := rfl

end Pattern
end PromptShell
