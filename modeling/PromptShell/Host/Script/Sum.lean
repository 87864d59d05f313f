import PromptShell.Host.Format
import PromptShell.Host.Script.Shell
namespace PromptShell.Host.Script

/-- A whole number in eight bytes with a sign. -/
def wrapped (number : Int) : Int := Int.bmod number (Nat.pow 2 64)

/-- A token of a sum. -/
inductive SumToken where
  | number (value : Int)
  | name (name : String)
  | sign (text : String)
  | bad
  deriving Repr, DecidableEq

/-- The signs of sums; of two that start alike the longer one comes first. -/
def sumSigns : List String :=
  ["<<=", ">>=", "<=", "<<", ">=", ">>", "==", "!=", "||", "|=", "&&", "&=", "*=", "/=", "%=",
    "+=", "-=", "^=", "<", ">", "=", "!", "|", "&", "*", "/", "%", "+", "-", "^", "~", "?", ":",
    "(", ")"]

/-- The tokens of a sum; the bound is its length. -/
def sumTokens (bound : Nat) (text : List Char) : List SumToken :=
  match bound, text with
  | 0, _ | _, [] => []
  | bound + 1, character :: rest =>
      if [' ', '\t', '\n'].contains character then sumTokens bound rest
      else if character.isDigit then
        let found := readInteger text
        .number found.value :: sumTokens bound found.rest
      else if isNameStart character then
        let name := text.takeWhile isNameCharacter
        .name (String.ofList name) :: sumTokens bound (text.drop name.length)
      else match sumSigns.find? fun sign => sign.toList.isPrefixOf text with
        | some sign => .sign sign :: sumTokens bound (text.drop sign.length)
        | none => [.bad]

/-- How tightly a sign between two numbers binds. -/
def bindingStrength? (sign : String) : Option Nat :=
  match sign with
  | "*" | "/" | "%" => some 8
  | "+" | "-" => some 7
  | "<<" | ">>" => some 6
  | "<" | "<=" | ">" | ">=" => some 5
  | "==" | "!=" => some 4
  | "&" => some 3
  | "^" => some 2
  | "|" => some 1
  | _ => none

/-- The number of a truth. -/
def truth (holds : Bool) : Int := if holds then 1 else 0

/-- Two numbers are combined bit by bit. -/
def bitwise (combine : BitVec 64 → BitVec 64 → BitVec 64) (first second : Int) : Int :=
  (combine (BitVec.ofInt 64 first) (BitVec.ofInt 64 second)).toInt

/-- The places that a number is shifted by. -/
def shiftCount (number : Int) : Nat := (number % 64).toNat

/-- What a sign makes of two numbers; there is no division by zero. -/
def combine? (sign : String) (first second : Int) : Option Int :=
  match sign with
  | "*" => some (wrapped (first * second))
  | "/" => if second = 0 then none else some (wrapped (first.tdiv second))
  | "%" => if second = 0 then none else some (wrapped (first.tmod second))
  | "+" => some (wrapped (first + second))
  | "-" => some (wrapped (first - second))
  | "<<" => some (wrapped (first * Int.pow 2 (shiftCount second)))
  | ">>" => some (first.fdiv (Int.pow 2 (shiftCount second)))
  | "<" => some (truth (first < second))
  | "<=" => some (truth (first ≤ second))
  | ">" => some (truth (first > second))
  | ">=" => some (truth (first ≥ second))
  | "==" => some (truth (first = second))
  | "!=" => some (truth (first ≠ second))
  | "&" => some (bitwise (· &&& ·) first second)
  | "^" => some (bitwise (· ^^^ ·) first second)
  | "|" => some (bitwise (· ||| ·) first second)
  | _ => none

/-- The tokens that are left of a sum are worked on. -/
abbrev Summing := StateT (List SumToken) Run

namespace Summing

/-- A part of the script is run in a sum. -/
def script {Value : Type} (run : Run Value) : Summing Value := StateT.lift run

/-- The whole sum is wrong. -/
def fault {Value : Type} (whole text : String) : Summing Value :=
  script (Run.fail ("arithmetic expression: " ++ text ++ ": \"" ++ whole ++ "\""))

/-- The next token is taken. -/
def take : Summing (Option SumToken) := do
  let tokens ← get
  set tokens.tail
  return tokens.head?

/-- The number that a variable holds; an empty one holds zero. -/
def valueOf (name : String) : Summing Int := do
  let shell ← script get
  let text := ((shell.value? name).getD "").toList
  let found := readInteger text
  let behind := found.rest.dropWhile isNumberGap
  if found.beyond || !behind.isEmpty then
    script (Run.fail ("Illegal number: " ++ String.ofList text))
  else return found.value

/-- The signal of a division whose result does not fit. -/
def divisionSignal : Nat := 8

/-- The smallest number divided by minus one does not fit. -/
def overflows (sign : String) (first second : Int) : Bool :=
  (sign = "/" || sign = "%") && first = -Int.pow 2 63 && second = -1

/-- Two numbers are combined. -/
def combined (whole sign : String) (first second : Int) : Summing Int :=
  if overflows sign first second then script (throw (.killed divisionSignal))
  else match combine? sign first second with
  | some result => return result
  | none => fault whole "division by zero"

variable (whole : String) (assignment : Bool → Summing Int)

/-- A number, a variable, a sum in parentheses, or one of them behind signs; the bound is the number
of tokens. -/
def primary (bound : Nat) (idle : Bool) : Summing Int := do
  match bound, ← take with
  | _ + 1, some (.number value) => return value
  | _ + 1, some (.name name) => if idle then return 0 else valueOf name
  | _ + 1, some (.sign "(") => do
      let value ← assignment idle
      if (← take) = some (.sign ")") then return value else fault whole "expecting ')'"
  | bound + 1, some (.sign "+") => primary bound idle
  | bound + 1, some (.sign "-") => return wrapped (-(← primary bound idle))
  | bound + 1, some (.sign "!") => return truth ((← primary bound idle) = 0)
  | bound + 1, some (.sign "~") => return -(← primary bound idle) - 1
  | _, _ => fault whole "expecting primary"

/-- Numbers with signs between them that bind at least as tightly as asked for; the bound is the
number of tokens. -/
def operation (idle : Bool) (bound least : Nat) (first : Int) : Summing Int := do
  match bound, ← get with
  | bound + 1, .sign sign :: rest =>
      match bindingStrength? sign with
      | some strength =>
          if strength < least then return first
          else
            set rest
            let second ← primary whole assignment (rest.length + 1) idle
            let second ← operation idle bound (strength + 1) second
            let value ← if idle then pure second else combined whole sign first second
            operation idle bound least value
      | none => return first
  | _, _ => return first

/-- Numbers that are combined. -/
def operations (idle : Bool) : Summing Int := do
  let count := (← get).length + 1
  let first ← primary whole assignment count idle
  operation whole assignment idle count 1 first

/-- Truths that have to hold together. -/
def conjunction (bound : Nat) (idle : Bool) : Summing Int := do
  let first ← operations whole assignment idle
  match bound, ← get with
  | bound + 1, .sign "&&" :: rest => do
      set rest
      let second ← conjunction bound (idle || first = 0)
      return truth (first ≠ 0 && second ≠ 0)
  | _, _ => return first

/-- Truths of which one has to hold. -/
def disjunction (bound : Nat) (idle : Bool) : Summing Int := do
  let first ← conjunction whole assignment ((← get).length + 1) idle
  match bound, ← get with
  | bound + 1, .sign "||" :: rest => do
      set rest
      let second ← disjunction bound (idle || first ≠ 0)
      return truth (first ≠ 0 || second ≠ 0)
  | _, _ => return first

/-- A choice between two numbers. -/
def conditional (bound : Nat) (idle : Bool) : Summing Int := do
  let test ← disjunction whole assignment ((← get).length + 1) idle
  match bound, ← get with
  | bound + 1, .sign "?" :: rest => do
      set rest
      let first ← assignment (idle || test = 0)
      if (← take) ≠ some (.sign ":") then fault whole "expecting ':'"
      let second ← conditional bound (idle || test ≠ 0)
      return if test ≠ 0 then first else second
  | _, _ => return test

/-- A sum that may be assigned to a variable. -/
def assignments : Nat → Bool → Summing Int
  | 0, _ => fault whole "expecting primary"
  | bound + 1, idle => do
      let assignment (idle : Bool) : Summing Int := assignments bound idle
      let plain : Summing Int := do conditional whole assignment ((← get).length + 1) idle
      match ← get with
      | .name name :: .sign sign :: rest =>
          let isAssignment := sign.toList.getLast? = some '=' &&
            !(["==", "!=", "<=", ">="].contains sign)
          if !isAssignment then plain
          else do
            set rest
            let value ← assignments bound idle
            if idle then return value
            else
              let result ←
                if sign = "=" then pure value
                else
                  let old ← valueOf name
                  combined whole (String.ofList sign.toList.dropLast) old value
              script (Run.assign name (some (toString result)))
              return result
      | _ => plain

end Summing

/-- The value of a sum. -/
def evaluateSum (text : String) : Run Int := do
  let tokens := sumTokens (text.length + 1) text.toList
  let (value, rest) ← (Summing.assignments text (tokens.length + 2) false).run tokens
  if rest.isEmpty then return value
  else Run.fail ("arithmetic expression: expecting EOF: \"" ++ text ++ "\"")

end PromptShell.Host.Script
