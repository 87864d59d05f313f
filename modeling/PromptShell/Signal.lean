namespace PromptShell

/-- The names of the listed signals in the order of their numbers, starting with one. -/
def signalNames : List String := [
  "HUP", "INT", "QUIT", "ILL", "TRAP", "ABRT", "BUS", "FPE", "KILL", "USR1", "SEGV", "USR2",
  "PIPE", "ALRM", "TERM", "STKFLT", "CHLD", "CONT", "STOP", "TSTP", "TTIN", "TTOU", "URG",
  "XCPU", "XFSZ", "VTALRM", "PROF", "WINCH", "IO", "PWR", "SYS"]

/-- One listed signal, by its place in the list. -/
structure Signal where
  place : Fin signalNames.length
  deriving Repr, DecidableEq

/-- The number of a signal. -/
def Signal.number (signal : Signal) : Nat := signal.place.val + 1

/-- The name of a signal. -/
def Signal.name (signal : Signal) : String := "SIG" ++ signalNames[signal.place]

/-- The listed signal of a number; zero and the real-time numbers have none. -/
def Signal.ofNumber? (number : Nat) : Option Signal :=
  if listed : 0 < number ∧ number - 1 < signalNames.length then some ⟨⟨number - 1, listed.2⟩⟩
  else none

/-- The signal of a bare name, such as `TERM`. -/
def Signal.ofName? (name : String) : Option Signal :=
  Signal.ofNumber? (signalNames.idxOf name + 1)

theorem Signal.ofNumber?_number (signal : Signal) :
    Signal.ofNumber? signal.number = some signal := by
  have := signal.place.isLt
  simp [ofNumber?, number, this]

theorem Signal.number_of_ofNumber? {number : Nat} {signal : Signal}
    (found : Signal.ofNumber? number = some signal) : signal.number = number := by
  simp only [ofNumber?] at found
  split at found
  · rename_i listed
    obtain rfl := Option.some.inj found
    simp only [Signal.number]
    omega
  · simp at found

end PromptShell
