import PromptShell.Host.Fraction
import PromptShell.Host.Help
namespace PromptShell.Host.Sleep

/-- The seconds of the units that may stand behind a number. -/
def units : List (Char × Nat) := [('s', 1), ('m', 60), ('h', 3600), ('d', 86400)]

/-- The seconds that a unit behind a number asks for. -/
def unitSeconds? : List Char → Option Nat
  | [] => some 1
  | [unit] => units.lookup unit
  | _ => none

/-- The longest wait, in millionths of a second. -/
def longest : Nat := Nat.pow 10 15

/-- A span of time in millionths of a second: a number that is not negative, with a unit behind
it. -/
def span? (text : String) : Option Nat := do
  let (fraction, _, rest) ← Fraction.read .extended text.toList
  let seconds ← unitSeconds? rest
  match fraction.magnitude with
  | .undefined => none
  | .infinite => if fraction.negative then none else some longest
  | .finite mantissa exponent =>
      if fraction.negative && 0 < mantissa then none
      else
        let (up, down) := twoPower exponent
        some (min longest (mantissa * up * seconds * 1000000 / down))

/-- Time passes. No argument at all is refused. -/
def run (name : String) (around : Surroundings) (arguments : List String) : Work Nat := do
  match OptionTable.read { letters := [] } arguments with
  | .error ended => around.stop .sleep name ended
  | .ok (_, operands) =>
    if arguments.isEmpty then around.hint name ["missing operand"]
    else
      match operands.filter fun operand => (span? operand).isNone with
      | [] => do
          modify fun scene => scene.passTime ((operands.filterMap span?).foldl (· + ·) 0)
          return 0
      | refused =>
          around.hint name (refused.map fun operand => "invalid time interval " ++ quoted operand)

end PromptShell.Host.Sleep
