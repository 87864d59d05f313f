namespace PromptShell.Host

/-- The users with their directories. -/
def accounts : List (String × String) := [
  ("root", "/root"),
  ("daemon", "/usr/sbin"),
  ("bin", "/bin"),
  ("sys", "/dev"),
  ("sync", "/bin"),
  ("games", "/usr/games"),
  ("man", "/var/cache/man"),
  ("lp", "/var/spool/lpd"),
  ("mail", "/var/mail"),
  ("news", "/var/spool/news"),
  ("uucp", "/var/spool/uucp"),
  ("proxy", "/bin"),
  ("www-data", "/var/www"),
  ("backup", "/var/backups"),
  ("list", "/var/list"),
  ("irc", "/run/ircd"),
  ("_apt", "/nonexistent"),
  ("nobody", "/nonexistent")]

/-- The directory of a user. -/
def accountHome? (name : String) : Option String := accounts.lookup name

end PromptShell.Host
