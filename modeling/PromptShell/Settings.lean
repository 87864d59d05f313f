namespace PromptShell

/-- The name that opens every report. -/
def programName : String := "lsh"

/-- The characters that separate the words of a line. -/
def separators : List Char := [' ', '\t', '\r', '\n', '\x07']

/-- The prompt and the two growth steps of one shell. A step of zero is stored as given. -/
structure Settings where
  prompt : String := "> "
  lineStep : Nat := 1024
  argumentStep : Nat := 64
  deriving Repr, DecidableEq

/-- The growth step of a line buffer is never zero. -/
def Settings.lineGrowth (settings : Settings) : Nat := max settings.lineStep 1

/-- The growth step of an argument list is never zero. -/
def Settings.argumentGrowth (settings : Settings) : Nat := max settings.argumentStep 1

@[simp] theorem Settings.max_lineGrowth (settings : Settings) :
    max settings.lineGrowth 1 = settings.lineGrowth := by
  simp only [lineGrowth]
  omega

@[simp] theorem Settings.max_argumentGrowth (settings : Settings) :
    max settings.argumentGrowth 1 = settings.argumentGrowth := by
  simp only [argumentGrowth]
  omega

end PromptShell
