import PromptShell.Host.Format
import PromptShell.Signal
namespace PromptShell.Host.Script

/-- The largest number that a script takes as an argument. -/
def numberLimit : Int := Int.pow 2 31 - 1

/-- The whole number that a text spells in decimal digits, with blanks around it. -/
def decimalNumber? (text : String) : Option Int :=
  let trimmed := text.toList.dropWhile isNumberGap
  let (negative, unsigned) := match trimmed with
    | '-' :: rest => (true, rest)
    | '+' :: rest => (false, rest)
    | rest => (false, rest)
  (readDigits 10 unsigned).bind fun (size, rest) =>
    let number : Int := if negative then -(size : Int) else size
    if rest.all isNumberGap && -Int.pow 2 63 ≤ number && number < Int.pow 2 63 then some number
    else none

/-- A number that an argument spells: not negative and within the limit. -/
def argumentNumber? (text : String) : Option Nat :=
  (decimalNumber? text).bind fun number =>
    if 0 ≤ number ∧ number ≤ numberLimit then some number.toNat else none

/-- The names of the real-time signals with their numbers. -/
def realTimeNames : List (String × Nat) :=
  (("RTMIN", 34) :: (List.range 15).map fun index =>
    ("RTMIN+" ++ toString (index + 1), 35 + index)) ++
  ((List.range 14).map fun index => ("RTMAX-" ++ toString (14 - index), 50 + index)) ++
  [("RTMAX", 64)]

/-- The signal that a word names, by number or by name in either case. The number of a stack fault
has no name here. -/
def signalOf? (word : String) : Option Nat :=
  if !word.isEmpty && word.toList.all Char.isDigit then
    word.toNat?.filter fun number => number ≤ 64
  else
    let upper := word.map Char.toUpper
    match Signal.ofName? upper with
    | some signal => some signal.number |>.filter fun number => number ≠ 16
    | none => realTimeNames.lookup upper

/-- The word that a signal is listed under; a signal without a name stands under its number. -/
def signalWord (number : Nat) : String :=
  match Signal.ofNumber? number with
  | some signal => if number = 16 then "16" else String.ofList (signal.name.toList.drop 3)
  | none =>
      ((realTimeNames.find? fun entry => entry.2 = number).map Prod.fst).getD (toString number)

/-- What the options of `kill` ask for: a list, a signal, and the words behind the options. -/
structure KillOptions where
  lists : Bool := false
  signal : Option Nat := none
  targets : List String

/-- The options of `kill`, or the text of a complaint. A word that names a signal is an option. -/
def killOptions (lists : Bool) (signal : Option Nat) : List String → Except String KillOptions
  | [] => .ok ⟨lists, signal, []⟩
  | first :: rest =>
      match first.toList with
      | ['-', '-'] => .ok ⟨lists, signal, rest⟩
      | '-' :: letter :: letters =>
          let options := letter :: letters
          match options.dropWhile fun letter => letter = 'l' with
          | [] => killOptions true signal rest
          | ['s'] =>
              match rest with
              | [] => .error "No arg for -s option"
              | word :: targets =>
                  match signalOf? word with
                  | some number => killOptions (lists || letter = 'l') (some number) targets
                  | none => .error ("invalid signal number or name: " ++ word)
          | 's' :: word =>
              match signalOf? (String.ofList word) with
              | some number => killOptions (lists || letter = 'l') (some number) rest
              | none => .error ("invalid signal number or name: " ++ String.ofList word)
          | other :: _ => .error ("Illegal option -" ++ String.singleton other)
      | _ => .ok ⟨lists, signal, first :: rest⟩

/-- The texts that tell of a death, in the order of the signal numbers, starting with one. -/
def deathTexts : List String := [
  "Hangup", "Interrupt", "Quit", "Illegal instruction", "Trace/breakpoint trap", "Aborted",
  "Bus error", "Floating point exception", "Killed", "User defined signal 1",
  "Segmentation fault", "User defined signal 2", "Broken pipe", "Alarm clock", "Terminated",
  "Stack fault", "Child exited", "Continued", "Stopped (signal)", "Stopped",
  "Stopped (tty input)", "Stopped (tty output)", "Urgent I/O condition",
  "CPU time limit exceeded", "File size limit exceeded", "Virtual timer expired",
  "Profiling timer expired", "Window changed", "I/O possible", "Power failure",
  "Bad system call"]

/-- The text that tells of a death by a signal. -/
def deathText (signal : Nat) : String :=
  match deathTexts[signal - 1]? with
  | some text => text
  | none =>
      if 34 ≤ signal then "Real-time signal " ++ toString (signal - 34)
      else "Unknown signal " ++ toString signal

end PromptShell.Host.Script
