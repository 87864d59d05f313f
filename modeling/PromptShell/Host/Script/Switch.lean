namespace PromptShell.Host.Script

/-- The switches in the order in which they are listed. Two have a letter that nobody can type. -/
def switches : List (String × Char) := [
  ("errexit", 'e'),
  ("noglob", 'f'),
  ("ignoreeof", 'I'),
  ("interactive", 'i'),
  ("monitor", 'm'),
  ("noexec", 'n'),
  ("stdin", 's'),
  ("xtrace", 'x'),
  ("verbose", 'v'),
  ("vi", 'V'),
  ("emacs", 'E'),
  ("noclobber", 'C'),
  ("allexport", 'a'),
  ("notify", 'b'),
  ("nounset", 'u'),
  ("privileged", 'p'),
  ("nolog", '\x00'),
  ("debug", '\x01')]

/-- The letters that can be typed. -/
def switchLetters : List Char :=
  (switches.map Prod.snd).filter fun letter => letter.isAlpha

/-- The letters of the switches that are on, in the order in which they are shown. -/
def shownSwitches (letters : List Char) : List Char :=
  switchLetters.reverse.filter fun letter => letters.contains letter

end PromptShell.Host.Script
