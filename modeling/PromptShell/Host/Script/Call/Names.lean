import PromptShell.Host.Script.Call.Variables
namespace PromptShell.Host.Script

/-- Lists of names are shown by groups, into which a name is put by its characters. -/
def nameGroup (groups : Nat) (name : String) : Nat :=
  let characters := name.toList.map Char.toNat
  characters.foldl (· + ·) (16 * characters.headD 0) % groups

/-- Entries in the order of their groups; those of one group stay in order. -/
def grouped {Value : Type} (groups : Nat) (entries : List (String × Value)) :
    List (String × Value) :=
  entries.mergeSort fun first second => nameGroup groups first.1 ≤ nameGroup groups second.1

/-- Entries with a value put in the place of the one with its name, or behind all others. -/
def putEntry {Value : Type} (name : String) (value : Value) (entries : List (String × Value)) :
    List (String × Value) :=
  if entries.any fun entry => entry.1 = name then
    entries.map fun entry => if entry.1 = name then (name, value) else entry
  else entries ++ [(name, value)]

namespace Run

/-- An alias as it can be set again. -/
def aliasText (entry : String × String) : String := entry.1 ++ "=" ++ inQuotes entry.2 ++ "\n"

/-- Aliases are set or shown. -/
def setAliases (arguments : List String) : Run Nat := do
  if arguments.isEmpty then
    for entry in grouped 39 (← get).aliases do
      print (aliasText entry)
  let mut status := 0
  for text in arguments do
    let name := text.toList.take 1 ++ text.toList.tail.takeWhile fun character => character ≠ '='
    let isSet := name.length < text.length
    let name := String.ofList name
    if isSet then
      let value := String.ofList (text.toList.drop (name.length + 1))
      modify fun shell => { shell with aliases := putEntry name value shell.aliases }
    else
      match (← get).aliases.lookup name with
      | some value => print (aliasText (name, value))
      | none =>
          tell ("alias: " ++ name ++ " not found\n")
          status := 1
  return status

/-- Aliases are removed. -/
def removeAliases (arguments : List String) : Run Nat := do
  match ← operandsUnless 'a' arguments with
  | none => do
    modify fun shell => { shell with aliases := [] }
    return 0
  | some names => do
    let mut status := 0
    for name in names do
      if ((← get).aliases.lookup name).isSome then
        modify fun shell => { shell with
          aliases := shell.aliases.filter fun entry => entry.1 ≠ name }
      else
        tell ("unalias: " ++ name ++ " not found\n")
        status := 1
    return status

/-- What a command is that a word names. A program has a path if it was found. -/
inductive Named where
  | call (special : Bool)
  | function (body : Command)
  | program (path : String)
  | missing (errno : Errno)

/-- The program of a name in the directories of a search path, which are counted: a file that can be
run. A file that cannot be run decides over the error. Where the program was found before, absolute
paths up to there are not looked at again. -/
def locate (shell : Shell) (known : Option Nat) :
    Nat → Errno → List String → Except Errno Located
  | _, last, [] => .error last
  | place, last, path :: rest =>
      if isAbsolute path && known.any (fun found => place < found) then
        locate shell known (place + 1) last rest
      else if isAbsolute path && known = some place then .ok { path, place }
      else match resolve shell.tree shell.directory path with
        | .error errno =>
            let kept := errno = .noEntry || errno = .notDirectory
            locate shell known (place + 1) (if kept then last else errno) rest
        | .ok _ =>
            if fileAt? shell path = some true then .ok { path, place }
            else locate shell known (place + 1) .accessDenied rest

/-- A program that was found is forgotten. -/
def forgetProgram (name : String) : Run Unit :=
  modify fun shell => { shell with
    located := shell.located.filter fun entry => entry.1 ≠ name }

/-- The program of a name in the directories of a search path. What was found in the directories of
the script itself is remembered. -/
def program (searchPath name : String) : Run Named := do
  let shell ← get
  let isOwn := searchPath = shell.searchPath
  let known := if isOwn then shell.located.lookup name else none
  match known.filter fun found => !found.stale with
  | some found => return .program found.path
  | none =>
      let paths := listedPaths searchPath name
      match locate shell (known.map Located.place) 0 .noEntry paths with
      | .error errno => do
          if isOwn then forgetProgram name
          return .missing errno
      | .ok found => do
          if isOwn then set { shell with located := putEntry name found shell.located }
          return .program found.path

/-- What a word names as a command; functions may be passed over. Calls are given by their names,
with a mark for the special ones. -/
def named (calls : String → Option Bool) (withFunctions : Bool) (searchPath name : String) :
    Run Named := do
  let shell ← get
  if name.toList.contains '/' then return .program name
  else match if withFunctions then shell.functions.lookup name else none with
    | some (_, body) => return .function body
    | none =>
        match calls name with
        | some special => return .call special
        | none => program searchPath name

/-- It is told what a name stands for, in a sentence or in short. -/
def describe (calls : String → Option Bool) (searchPath : Option String) (sentence : Bool)
    (name : String) : Run Nat := do
  let shell ← get
  let say (short long : String) : Run Nat := do
    print ((if sentence then name ++ long else short) ++ "\n")
    return 0
  let unknown : Run Nat := do
    if sentence then print (name ++ ": not found\n")
    return 127
  if keywords.contains name then say name " is a shell keyword"
  else match shell.aliases.lookup name with
    | some value =>
        if sentence then say "" (" is an alias for " ++ value)
        else do
          print ("alias " ++ aliasText (name, value))
          return 0
    | none =>
        let known := if searchPath.isNone then shell.located.lookup name else none
        let meaning ← match known with
          | some found => pure (.program found.path)
          | none => named calls true (searchPath.getD shell.searchPath) name
        match meaning with
        | .call special =>
            say name (if special then " is a special shell builtin" else " is a shell builtin")
        | .function _ => say name " is a shell function"
        | .missing _ => unknown
        | .program path =>
            if name.toList.contains '/' &&
                (nodeAt? shell.tree shell.directory path).isNone then unknown
            else say path ((if known.isSome then " is a tracked alias for " else " is ") ++ path)

/-- It is told what names stand for. -/
def describeAll (calls : String → Option Bool) (names : List String) : Run Nat := do
  let mut status := 0
  for name in names do
    if (← describe calls none true name) ≠ 0 then status := 127
  return status

/-- The directories in which the programs of the system are. -/
def standardPath : String :=
  "/usr/local/sbin:/usr/local/bin:/usr/sbin:/usr/bin:/sbin:/bin"

/-- It is told what a name stands for if an option asks for it. -/
def describeCommand (calls : String → Option Bool) (arguments : List String) : Run Nat := do
  let options ← options ['p', 'v', 'V'] [] arguments
  let asks := options.has 'v' || options.has 'V'
  match options.operands with
  | name :: _ =>
      if asks then
        let searchPath := if options.has 'p' then some standardPath else none
        describe calls searchPath (options.has 'V') name
      else return 0
  | [] => return 0

/-- The programs that were found are listed, looked for or forgotten. -/
def trackPrograms (calls : String → Option Bool) (arguments : List String) : Run Nat := do
  match ← operandsUnless 'r' arguments with
  | none => do
    modify fun shell => { shell with located := [] }
    return 0
  | some names => do
    if names.isEmpty then
      for entry in grouped 31 (← get).located do
        print (entry.2.path ++ (if entry.2.stale then "*" else "") ++ "\n")
    let mut status := 0
    for name in names do
      forgetProgram name
      match ← named calls true (← get).searchPath name with
      | .missing errno =>
          warn (name ++ ": " ++ loadText errno)
          status := 1
      | _ => pure ()
    return status

end Run
end PromptShell.Host.Script
