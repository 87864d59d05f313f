import PromptShell.Host.Script.Call.Flow
namespace PromptShell.Host.Script

/-- What a word of a condition is. -/
inductive TestToken where
  | ended
  | operand
  | negation
  | opening
  | closing
  | both
  | either
  | unary (name : String)
  | binary (name : String)
  deriving Repr, DecidableEq

namespace TestToken

/-- The operators in front of one operand. -/
def unaryNames : List String :=
  ["-r", "-w", "-x", "-e", "-f", "-d", "-c", "-b", "-p", "-u", "-g", "-k", "-s", "-t", "-z", "-n",
    "-h", "-O", "-G", "-L", "-S"]

/-- The operators between two operands. -/
def binaryNames : List String :=
  ["=", "!=", "<", ">", "-eq", "-ne", "-ge", "-gt", "-le", "-lt", "-nt", "-ot", "-ef"]

/-- The operator that a word spells, wherever it stands. -/
def ofWord (word : String) : TestToken :=
  if unaryNames.contains word then .unary word
  else if binaryNames.contains word then .binary word
  else match word with
    | "!" => .negation
    | "-a" => .both
    | "-o" => .either
    | "(" => .opening
    | ")" => .closing
    | _ => .operand

/-- What the first of some words is. An operator in front of an operand needs one, and does not
stand in front of an operator between two. -/
def first : List String → TestToken
  | [] => .ended
  | word :: rest =>
      match ofWord word, rest with
      | .unary _, [] => .operand
      | .unary name, second :: others =>
          if !others.isEmpty && (ofWord second matches .binary _) then .operand else .unary name
      | .opening, [] => .operand
      | token, _ => token

/-- Behind the last word there is nothing. -/
@[simp] theorem first_nil : first [] = .ended := rfl

end TestToken

/-- The words of a condition that are left; the first one is being looked at. -/
abbrev Testing := StateT (List String) Run

namespace Testing

/-- The condition is wrong. -/
def fault {Value : Type} (text : String) : Testing Value := StateT.lift (Run.fail text)

/-- The condition is wrong at a word. -/
def faultAt {Value : Type} (word text : String) : Testing Value :=
  fault (if word.isEmpty then text else word ++ ": " ++ text)

/-- The number that a word spells. -/
def number (word : String) : Testing Int :=
  match decimalNumber? word with
  | some number => return number
  | none => fault ("Illegal number: " ++ word)

/-- A link is at a path. -/
def isLink (shell : Shell) (path : String) : Bool :=
  match resolveEntry shell.tree shell.directory path with
  | .error _ => false
  | .ok (place, name) =>
      let found := (entriesAt? shell.tree place).bind (List.lookup name)
      path.toList.getLast? ≠ some '/' && (found matches some (.link _) | some (.device (.own _)))

/-- A condition on one file. -/
def holdsOfFile (shell : Shell) (name path : String) : Bool :=
  let sight := shell.scene.sight? shell.descriptors shell.directory path
  let node := match sight with
    | some (.node node) => some node
    | _ => none
  match name, node with
  | "-h", _ | "-L", _ => isLink shell path
  | "-p", _ => match sight with
      | some .pipe => true
      | _ => false
  | _, none => sight.isSome && ["-e", "-r", "-w", "-O", "-G"].contains name
  | "-f", some (.file _) | "-f", some (.tool _) => true
  | "-d", some (.directory _) => true
  | "-c", some (.device _) => true
  | "-s", some (.file file) => !file.content.isEmpty
  | "-s", some (.tool _) | "-s", some (.directory _) => true
  | "-x", some (.file file) => file.isProgram
  | "-u", some (.file file) => file.mode / 2048 % 2 = 1
  | "-g", some (.file file) => file.mode / 1024 % 2 = 1
  | "-k", some (.file file) => file.mode / 512 % 2 = 1
  | "-x", some (.tool _) | "-x", some (.directory _) => true
  | _, _ => ["-e", "-r", "-w", "-O", "-G"].contains name

/-- A condition on one operand. -/
def holdsOfOne (name word : String) : Testing Bool := do
  match name with
  | "-z" => return word.isEmpty
  | "-n" => return !word.isEmpty
  | "-t" => do
      let _ ← number word
      return false
  | _ => return holdsOfFile (← StateT.lift get) name word

/-- The time at which what a path leads to was written last. Only files are written, and directories
count as old as the oldest that are not of the system. -/
def writtenAt? (shell : Shell) (path : String) : Option Nat :=
  (nodeAt? shell.tree shell.directory path).map fun node =>
    match node with
    | .file file => file.written
    | .directory _ => 1
    | _ => 0

/-- A condition on two operands. -/
def holdsOfTwo (name first second : String) : Testing Bool := do
  let compare (holds : Int → Int → Bool) : Testing Bool := do
    let left ← number first
    return holds left (← number second)
  match name with
  | "=" => return first = second
  | "!=" => return first ≠ second
  | "<" => return first < second
  | ">" => return second < first
  | "-eq" => compare fun left right => left = right
  | "-ne" => compare fun left right => left ≠ right
  | "-ge" => compare fun left right => left ≥ right
  | "-gt" => compare fun left right => left > right
  | "-le" => compare fun left right => left ≤ right
  | "-lt" => compare fun left right => left < right
  | "-ef" => do
      let shell ← StateT.lift get
      let identity := shell.scene.identity? shell.descriptors shell.directory
      return (identity first).isSome && identity first = identity second
  | "-nt" => do
      let shell ← StateT.lift get
      return match writtenAt? shell first, writtenAt? shell second with
        | some left, some right => right < left
        | _, _ => false
  | "-ot" => do
      let shell ← StateT.lift get
      return match writtenAt? shell first, writtenAt? shell second with
        | some left, some right => left < right
        | _, _ => false
  | _ => return false

/-- The words are moved on. -/
def move (count : Nat) : Testing Unit := modify fun words => words.drop count

variable (inner : TestToken → Testing Bool)

/-- A single condition, or one in parentheses. -/
def primary (token : TestToken) : Testing Bool := do
  match token with
  | .ended => return false
  | .opening => do
      move 1
      let following := TestToken.first (← get)
      if following = .closing then return false
      else
        let holds ← inner following
        move 1
        if TestToken.first (← get) ≠ .closing then fault "closing paren expected"
        else return holds
  | .unary name => do
      move 1
      match ← get with
      | [] => faultAt name "argument expected"
      | word :: _ => holdsOfOne name word
  | _ =>
      let words ← get
      match TestToken.first words.tail, words with
      | .binary name, left :: _ :: right :: _ => do
          move 2
          holdsOfTwo name left right
      | .binary name, _ => faultAt name "argument expected"
      | _, word :: _ => return !word.isEmpty
      | _, [] => return false

/-- A condition that may be negated; the bound is the number of words. -/
def negated (bound : Nat) (token : TestToken) : Testing Bool := do
  match bound, token with
  | bound + 1, .negation =>
      let following := TestToken.first (← get).tail
      if following ≠ .ended then move 1
      return !(← negated bound following)
  | _, _ => primary inner token

/-- Conditions that have to hold together; the bound is the number of words. -/
def conjunction (bound : Nat) (holds : Bool) (token : TestToken) : Testing Bool := do
  let second ← negated inner ((← get).length + 1) token
  let both := holds && second
  match bound, TestToken.first (← get).tail with
  | bound + 1, .both => do
      move 2
      conjunction bound both (TestToken.first (← get))
  | _, _ => return both

/-- Conditions of which one has to hold; the bound is the number of words. -/
def disjunction (bound : Nat) (holds : Bool) (token : TestToken) : Testing Bool := do
  let second ← conjunction inner ((← get).length + 1) true token
  let either := holds || second
  match bound, TestToken.first (← get).tail with
  | bound + 1, .either => do
      move 2
      disjunction bound either (TestToken.first (← get))
  | _, _ => return either

/-- A whole condition; the bound is the number of parentheses that may nest. -/
def condition : Nat → TestToken → Testing Bool
  | 0, _ => return false
  | bound + 1, token => do
      disjunction (condition bound) ((← get).length + 1) false token

end Testing

namespace Run

/-- How a condition is read: it may be negated, and starts with a token. -/
structure TestPlan where
  negated : Bool := false
  token : TestToken
  words : List String

/-- A condition is read as it stands. -/
def TestPlan.plain (words : List String) : TestPlan where
  token := TestToken.first words
  words := words

/-- A condition in three words is a comparison if it can be one. Of three or four words parentheses
around the others are dropped, and an exclamation mark in front negates the others. -/
def TestPlan.ofWords : List String → TestPlan
  | [first, second, third] =>
      if TestToken.ofWord second matches .binary _ then
        { token := .operand, words := [first, second, third] }
      else if first = "(" && third = ")" then .plain [second]
      else if first = "!" then { TestPlan.plain [second, third] with negated := true }
      else .plain [first, second, third]
  | [first, second, third, fourth] =>
      if first = "(" && fourth = ")" then .plain [second, third]
      else if first = "!" then { TestPlan.ofWords [second, third, fourth] with negated := true }
      else .plain [first, second, third, fourth]
  | words => .plain words

/-- A condition is tested. -/
def test (words : List String) : Run Nat := do
  if words.isEmpty then return 1
  else
    let plan := TestPlan.ofWords words
    let (holds, rest) ← (Testing.condition (plan.words.length + 1) plan.token).run plan.words
    match rest with
    | word :: _ :: _ =>
        fail (if word.isEmpty then "unexpected operator" else word ++ ": unexpected operator")
    | _ => return if holds ≠ plan.negated then 0 else 1

/-- A condition is tested that stands in brackets. -/
def testBracketed (words : List String) : Run Nat := do
  if words.getLast? = some "]" then test words.dropLast else fail "missing ]"

end Run
end PromptShell.Host.Script
