import PromptShell.Host.Help
namespace PromptShell.Host

namespace WorkingDirectory

/-- The options: the path as the environment tells it, or as the tree does. -/
def table : OptionTable where
  letters := ['L', 'P']
  words := [("logical", 'L'), ("physical", 'P')]

/-- The environment tells a path of the directory that leads nowhere up. -/
def told? (scene : Scene) (around : Surroundings) : Option String := do
  let path ← around.bindings.lookup "PWD"
  let names := cutAt '/' path
  guard (isAbsolute path && !names.contains "." && !names.contains "..")
  let place ← (resolveDirectory scene.top around.directory path).toOption
  guard (place = around.directory && isKept scene.top place)
  return path

/-- The path of the working directory is printed, unless the directory is gone. -/
def run (name : String) (around : Surroundings) (arguments : List String) : Work Nat := do
  match table.read arguments with
  | .error ended => around.stop .workingDirectory name ended
  | .ok (letters, operands) =>
      let unsent ←
        if operands.isEmpty then pure {}
        else around.complainBehind name "ignoring non-option arguments" {}
      let scene ← get
      let logical := letters.getLast? = some 'L'
      match if logical then told? scene around else none with
      | some path => around.finish name 0 (unsent.put (Raw.toBytes (path ++ "\n")))
      | none =>
          if isKept scene.top around.directory then
            around.finish name 0 (unsent.put (Raw.toBytes (around.directory.path ++ "\n")))
          else
            around.complain name "couldn't find directory entry in '..' with matching i-node"
            return 1

end WorkingDirectory

namespace RemoveDirectory

/-- The options and their words. -/
def table : OptionTable where
  letters := ['p', 'v']
  words := [("ignore-fail-on-non-empty", 'i'), ("path", 'p'), ("parents", 'p'), ("verbose", 'v')]

/-- Directories that the system holds on to. -/
def heldDirectories : List (List String) := [["dev"], ["proc"], ["sys"]]

/-- The place of an empty directory that may be removed. The last name of the path must be the
directory's own. -/
def removable (top : Node) (directory : Directory) (path : String) :
    Except Errno (List String) := do
  let (place, name) ← resolveEntry top directory path
  match entriesAt? top place with
  | none =>
      .error (if name = "." then .invalid else if name = ".." then .notEmpty else .noEntry)
  | some entries =>
      if name = "." then .error .invalid
      else if name = ".." then .error .notEmpty
      else if nameLimit < name.length then .error .nameTooLong
      else match entries.lookup name with
        | none => .error .noEntry
        | some (.directory held) =>
            if heldDirectories.contains (place ++ [name]) then .error .busy
            else if held.isEmpty then .ok (place ++ [name])
            else .error .notEmpty
        | some _ => .error .notDirectory

/-- A directory is removed from the tree. -/
def remove (around : Surroundings) (path : String) : Work (Option Errno) := fun scene =>
  match removable (scene.seenBy around.descriptors) around.directory path with
  | .ok names => (none, { scene with top := scene.top.remove names })
  | .error errno => (some errno, scene)

/-- A path without the slashes at its end. -/
def withoutSlashes (path : String) : String :=
  let characters := path.toList
  let bare := (characters.reverse.dropWhile fun character => character = '/').reverse
  if bare.isEmpty && !characters.isEmpty then "/" else String.ofList bare

/-- The path in front of its last slashes, if it has any. -/
def parent? (path : String) : Option String :=
  let reversed := path.toList.reverse.dropWhile fun character => character ≠ '/'
  match reversed with
  | [] => none
  | _ =>
      let bare := reversed.dropWhile fun character => character = '/'
      if bare.isEmpty then some "/" else some (String.ofList bare.reverse)

/-- A path with a slash at its end names a link to a directory. -/
def isLinkWithSlash (top : Node) (directory : Directory) (path : String) : Bool :=
  path.toList.getLast? = some '/' &&
    (match resolveDirectory top directory path with
    | .ok _ => true
    | .error errno => errno ≠ .notDirectory) &&
    match resolveEntry top directory (withoutSlashes path) with
    | .ok (place, name) => match top.get? (place ++ [name]) with
        | some (.link _) => true
        | _ => false
    | .error _ => false

/-- What is asked for besides the directories, and what has been printed. -/
structure Manner where
  parents : Bool
  tells : Bool
  ignoresFull : Bool

/-- A failure that says that a directory is not empty, and is not told if that may be. -/
def Manner.ignores (manner : Manner) (errno : Errno) : Bool :=
  manner.ignoresFull && (errno = .notEmpty || errno = .busy)

/-- A note about a directory that is to be removed. -/
def note (name : String) (manner : Manner) (path : String) : Bytes :=
  if manner.tells then
    Raw.toBytes (name ++ ": removing directory, " ++ shellQuoted path ++ "\n")
  else []

/-- Directories above a removed one are removed as well, the nearest one first. It holds whether
all went well, and what is to be printed. -/
def removeParents (name : String) (manner : Manner) (around : Surroundings) (unsent : Unsent)
    (bound : Nat) (path : String) : Work (Bool × Unsent) := do
  match bound, parent? path with
  | 0, _ | _, none => return (true, unsent)
  | bound + 1, some parent =>
      let unsent := unsent.put (note name manner parent)
      match ← remove around parent with
      | none => removeParents name manner around unsent bound parent
      | some errno =>
          if manner.ignores errno then return (true, unsent)
          else
            let what := if errno = .notDirectory then "failed to remove "
              else "failed to remove directory "
            let text := what ++ shellQuoted parent ++ ": " ++ libraryText errno.number
            return (false, ← around.complainBehind name text unsent)

/-- Directories are removed, one after the other. -/
def removeAll (name : String) (manner : Manner) (around : Surroundings) (well : Bool)
    (unsent : Unsent) : List String → Work (Bool × Unsent)
  | [] => return (well, unsent)
  | path :: rest => do
      let unsent := unsent.put (note name manner path)
      let scene ← get
      match ← remove around path with
      | none =>
          if manner.parents then
            let (parentsWell, unsent) ←
              removeParents name manner around unsent (path.length + 1) (withoutSlashes path)
            removeAll name manner around (well && parentsWell) unsent rest
          else removeAll name manner around well unsent rest
      | some errno =>
          if manner.ignores errno then
            removeAll name manner around well unsent rest
          else
            let text :=
              if errno = .notDirectory && isLinkWithSlash scene.top around.directory path then
                "Symbolic link not followed"
              else libraryText errno.number
            let told := "failed to remove " ++ shellQuoted path ++ ": " ++ text
            removeAll name manner around false (← around.complainBehind name told unsent) rest

/-- Empty directories are removed. -/
def run (name : String) (around : Surroundings) (arguments : List String) : Work Nat := do
  match table.read arguments with
  | .error ended => around.stop .removeDirectory name ended
  | .ok (_, []) => around.hint name ["missing operand"]
  | .ok (letters, operands) =>
      let manner : Manner := ⟨letters.contains 'p', letters.contains 'v', letters.contains 'i'⟩
      let (well, unsent) ← removeAll name manner around true {} operands
      around.finish name (if well then 0 else 1) unsent

end RemoveDirectory
end PromptShell.Host
