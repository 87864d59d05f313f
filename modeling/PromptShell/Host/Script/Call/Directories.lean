import PromptShell.Host.Script.Call.Flow
namespace PromptShell.Host.Script

/-- The names of a path behind others, where two dots take the last name back. Names are held with
the nearest one first. -/
def followNames (names : List String) : List String → List String
  | [] => names
  | name :: rest =>
      if name.isEmpty || name = "." then followNames names rest
      else if name = ".." then followNames names.tail rest
      else followNames (name :: names) rest

/-- A path starts with two slashes and no third one. -/
def startsDouble (path : String) : Bool :=
  match path.toList with
  | '/' :: '/' :: '/' :: _ => false
  | '/' :: '/' :: _ => true
  | _ => false

/-- The path that another one leads to from a directory that is known by a path. Two slashes at the
front are kept. -/
def followPath (start path : String) : String :=
  let absolute := isAbsolute path
  let known := if absolute then [] else followNames [] (cutAt '/' start)
  let names := followNames known (cutAt '/' path)
  let front := if startsDouble (if absolute then path else start) then "//" else "/"
  front ++ "/".intercalate names.reverse

namespace Run

/-- A path of the directory counts as the way that the tree tells it, or as the script knows it. -/
def isPhysical (options : CallOptions) : Bool :=
  options.given.getLast?.any fun option => option.1 = 'P'

/-- The path of the directory in the tree, unless it is gone. -/
def physicalPath (shell : Shell) : Option String :=
  if isKept shell.tree shell.directory then some shell.directory.path else none

/-- The script asks the tree for the path of the directory. -/
def askPath : Run (Option String) := do
  let path := physicalPath (← get)
  if path.isNone then warn "getcwd() failed: No such file or directory"
  modify fun shell => { shell with truePath := path }
  return path

/-- The script moves to a directory, if there is one at the path. -/
def moveTo (physical : Bool) (path : String) : Run Bool := do
  let shell ← get
  let known := if isAbsolute path then some "" else shell.path
  let told := if physical then none else known.map fun start => followPath start path
  match resolveDirectory shell.tree shell.directory (told.getD path) with
  | .error _ => return false
  | .ok directory => do
      assign "OLDPWD" (some (shell.path.getD "")) true
      modify fun shell => { shell with
        directory, path := told, truePath := none
        located := shell.located.map fun entry => (entry.1, { entry.2 with stale := true }) }
      if told.isNone then
        let path ← askPath
        modify fun shell => { shell with path }
      assign "PWD" (some ((← get).path.getD "")) true
      return true

/-- A path that is not looked for in a list of directories. -/
def isDirect (path : String) : Bool :=
  match path.toList with
  | '/' :: _ | ['.'] | '.' :: '/' :: _ | ['.', '.'] | '.' :: '.' :: '/' :: _ => true
  | _ => false

/-- The places where a directory may be, and whether its path is to be shown. -/
def candidates (shell : Shell) (target : String) : List (String × Bool) :=
  if isDirect target then [(target, false)]
  else
    let name := if target.isEmpty then "." else target
    let listed := match shell.value? "CDPATH" with
      | none => []
      | some list =>
          (cutAt ':' list).filterMap fun (part : String) =>
            let path := if part.isEmpty then name else part ++ "/" ++ name
            match resolveDirectory shell.tree shell.directory path with
            | .ok _ => some (path, !part.isEmpty)
            | .error _ => none
    listed.take 1 ++ if listed.isEmpty then [(target, false)] else []

/-- The script moves to another directory. -/
def changeDirectory (arguments : List String) : Run Nat := do
  let options ← options ['L', 'P'] [] arguments
  let shell ← get
  let (target, shows) := match options.operands with
    | [] => ((shell.value? "HOME").getD "", false)
    | "-" :: _ => ((shell.value? "OLDPWD").getD "", true)
    | path :: _ => (path, false)
  match candidates shell target with
  | [] => fail ("can't cd to " ++ target)
  | (path, listed) :: _ => do
      let chosen := if path.isEmpty then "." else path
      if ← moveTo (isPhysical options) chosen then
        if shows || listed then print (((← get).path.getD "") ++ "\n")
        return 0
      else fail ("can't cd to " ++ target)

/-- The path of the directory is printed. -/
def printDirectory (arguments : List String) : Run Nat := do
  let options ← options ['L', 'P'] [] arguments
  let shell ← get
  if isPhysical options && shell.truePath.isNone then
    let _ ← askPath
    assign "PWD" (some (shell.path.getD "")) true
  let after ← get
  let path := if isPhysical options then after.truePath else after.path
  print (path.getD "" ++ "\n")
  return 0

/-- The letters of permissions for a group. -/
def permissionLetters (bits : Nat) : String :=
  String.ofList ([(4, 'r'), (2, 'w'), (1, 'x')].filterMap fun entry =>
    if bits / entry.1 % 2 = 1 then some entry.2 else none)

/-- Four octal digits. -/
def octalMask (mask : Nat) : String :=
  String.ofList ([512, 64, 8, 1].map fun factor => Nat.digitChar (mask / factor % 8))

/-- The permissions that new files do not get are printed or set. -/
def changeMask (arguments : List String) : Run Nat := do
  let options ← options ['S'] [] arguments
  let mask := (← get).allowance.mask
  let setMask (mask : Nat) : Run Nat := do
    modify fun shell => { shell with allowance := { shell.allowance with mask } }
    return 0
  let allowed := allPermissions - mask
  match options.operands with
  | [] => do
      let letters (factor : Nat) : String := permissionLetters (allowed / factor % 8)
      if options.has 'S' then
        print ("u=" ++ letters 64 ++ ",g=" ++ letters 8 ++ ",o=" ++ letters 1 ++ "\n")
      else print (octalMask mask ++ "\n")
      return 0
  | text :: _ =>
      let characters := text.toList
      if characters.head?.any Char.isDigit then
        match (readDigits 8 characters).filter fun found => found.2.isEmpty with
        | some (value, _) => setMask (value % (allPermissions + 1))
        | none => fail ("Illegal number: " ++ text)
      else
        match changePermissions allowed characters.length allowed 0 characters with
        | some changed => setMask (allPermissions - changed)
        | none => fail ("Illegal mode: " ++ text)

/-- The limits that are meant: those that hold, those up to which they may be raised, or both. -/
structure LimitSide where
  soft : Bool
  hard : Bool

/-- The value of a limit that is shown. -/
def LimitSide.shown (side : LimitSide) (limit : Limit) : String :=
  limit.shown (if side.soft then limit.soft else limit.hard) ++ "\n"

/-- A limit is set. Nothing raises the value up to which it may be raised. -/
def setLimit (side : LimitSide) (limit : Limit) (value : Nat) : Run Nat := do
  let next := { limit with
    soft := if side.soft then value else limit.soft
    hard := if side.hard then value else limit.hard }
  let refuse (errno : Errno) : Run Nat :=
    fail ("error setting limit (" ++ libraryText errno.number ++ ")")
  if next.hard < next.soft then refuse .invalid
  else if limit.hard < next.hard then refuse .notPermitted
  else do
    modify fun shell => { shell with allowance := shell.allowance.setLimit next }
    return 0

/-- Limits are printed, or one of them is set. -/
def changeLimit (arguments : List String) : Run Nat := do
  let allowance := (← get).allowance
  let letters := allowance.limits.map Limit.letter
  let options ← options (['H', 'S', 'a'] ++ letters) [] arguments
  let given := options.given.map Prod.fst
  let side := match (given.filter ['H', 'S'].contains).getLast? with
    | some 'H' => ⟨false, true⟩
    | some _ => ⟨true, false⟩
    | none => ⟨true, true⟩
  let letter := ((given.filter letters.contains).getLast?).getD 'f'
  match allowance.limit? letter, options.operands with
  | none, _ => return 0
  | some limit, [] => do
      if options.has 'a' then
        for limit in allowance.limits do
          print (limit.name.pushn ' ' (20 - limit.name.length) ++ " " ++ side.shown limit)
      else print (side.shown limit)
      return 0
  | some limit, text :: others =>
      if options.has 'a' || !others.isEmpty then fail "too many arguments"
      else match limit.value? text with
        | some value => setLimit side limit value
        | none => fail "bad number"

end Run
end PromptShell.Host.Script
