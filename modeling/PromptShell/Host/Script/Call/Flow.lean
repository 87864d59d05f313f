import PromptShell.Host.Script.Call.Options
import PromptShell.Host.Script.Redirect
namespace PromptShell.Host.Script.Run

/-- The options of a call are read. -/
def options (plain valued : List Char) (arguments : List String) : Run CallOptions :=
  match CallOptions.read plain valued arguments with
  | .ok options => return options
  | .error text => fail text

/-- The operands of a call that has one option, unless that is given, behind which nothing
counts. -/
def operandsUnless (letter : Char) (arguments : List String) : Run (Option (List String)) :=
  match arguments with
  | [] => return some []
  | argument :: rest =>
      match argument.toList with
      | ['-', '-'] => return some rest
      | '-' :: first :: _ =>
          if first = letter then return none
          else fail ("Illegal option -" ++ String.singleton first)
      | _ => return some arguments

/-- Loops are left, or gone on with. -/
def leaveLoops (skip : Nat → Skip) (arguments : List String) : Run Nat := do
  let text := arguments.headD "1"
  let count ← number text
  if count = 0 then fail ("Illegal number: " ++ text)
  else
    let loops := min count (← get).loops
    if 0 < loops then modify fun shell => { shell with skip := skip loops }
    return 0

/-- A function or a file is left. -/
def leaveFunction (arguments : List String) : Run Nat := do
  let status ← match arguments with
    | [] => do pure (← get).status
    | text :: _ => number text
  modify fun shell => { shell with skip := .leaveFunction (!arguments.isEmpty) }
  return status

/-- The script is left. In a trap the outcome in front of it counts. -/
def leave (arguments : List String) : Run Nat := do
  match arguments with
  | [] => modify fun shell => { shell with status := shell.savedStatus.getD shell.status }
  | text :: _ => setStatus (← number text)
  throw .left

/-- Arguments are dropped from the front. -/
def shift (arguments : List String) : Run Nat := do
  let count ← number (arguments.headD "1")
  let shell ← get
  if shell.arguments.length < count then fail "can't shift that many"
  else
    set { shell with
      arguments := shell.arguments.drop count, optionIndex := 1, optionOffset := none }
    return 0

/-- The arguments are run as a text. -/
def evaluateTexts (engine : Engine) (tested : Bool) (arguments : List String) : Run Nat :=
  match arguments with
  | [] => return 0
  | _ => text engine tested (" ".intercalate arguments)

/-- The paths that a name may have in directories that are listed with colons between them. -/
def listedPaths (list name : String) : List String :=
  (cutAt ':' list).map fun part => if part.isEmpty then name else part ++ "/" ++ name

/-- There is a file at a path, and whether it can be run. -/
def fileAt? (shell : Shell) (path : String) : Option Bool :=
  match nodeAt? shell.tree shell.directory path with
  | some (.file file) => some file.isProgram
  | some (.tool _) => some true
  | _ => none

/-- The path of a file that is to be run as a part of the script. -/
def partPath (name : String) : Run String := do
  if name.toList.contains '/' then return name
  else
    let shell ← get
    match (listedPaths shell.searchPath name).find? fun path => (fileAt? shell path).isSome with
    | some path => return path
    | none => fail (name ++ ": not found")

/-- The bytes of a script that are taken at once. -/
def blockSize : Nat := 8192

/-- The next block of a stream that is read as a script, without zeros. -/
def readBlock (id : Nat) : Run (List Char) := do
  let shell ← get
  let block := ((shell.scene.unread id).toOption.getD []).take blockSize
  set { shell with scene := shell.scene.advance id block.length }
  return (Raw.ofBytes block).toList.filter fun character => character ≠ '\x00'

/-- A file that is to be run is opened. Its blocks are taken one after the other. -/
def openScript (path : String) : Run (Run (List Char)) := do
  let shell ← get
  if !shell.around.hasRoom 1 then openFault false path .tooManyOpen
  else match shell.scene.openToRead shell.descriptors shell.directory path with
    | .error errno => openFault false path errno
    | .ok (id, scene) => do
        set { shell with scene }
        (shell.descriptors.free 1).forM putAside
        return readBlock id

/-- A file is run as a part of the script. -/
def runFile (engine : Engine) (arguments : List String) : Run Nat := do
  match (← options [] [] arguments).operands with
  | [] => return 0
  | name :: _ => do
      let path ← partPath name
      let aside := (← get).aside
      let more ← openScript path
      let command := (← get).command
      modify fun shell => { shell with command := some path }
      let status ← commandsInside engine { more, shows := true } false []
      modify fun shell => { shell with
        command, aside
        skip := match shell.skip with
          | .leaveFunction _ => .nothing
          | skip => skip }
      return status

/-- The errors that tell that there is no program: no entry, no directory, a name too long, and too
many links. -/
def isMissing (errno : Errno) : Bool := [2, 20, 36, 40].contains errno.number

/-- What is told of a program that could not be loaded. -/
def loadText (errno : Errno) : String :=
  if errno = .noEntry || errno = .notDirectory then "not found" else libraryText errno.number

/-- The bytes of a file that are looked at to tell whether it may be a script. -/
def sampleSize : Nat := 128

/-- A byte that does not stand in a text: a control character that neither moves on a page nor
starts or ends a way of writing. -/
def isForeign (byte : UInt8) : Bool :=
  (byte < 0x20 && !((0x09 ≤ byte && byte ≤ 0x0F) || byte = 0x1B)) || byte = 0x7F

/-- The first line of a file, as far as it is looked at, may be that of a script. -/
def looksLikeText (content : Bytes) : Bool :=
  !((content.take sampleSize).takeWhile fun byte => byte ≠ 0x0A).any isForeign

/-- The file at a path is loaded for a script. -/
def loadFor (shell : Shell) (path : String) (arguments : List String) : Except Errno Image :=
  loadOrScript shell.tree (shell.around.launching shell.scene) looksLikeText path arguments

/-- The program at the first of the paths that can be loaded. -/
def loadFrom (shell : Shell) (arguments : List String) (last : Errno) :
    List String → Except Errno Image
  | [] => .error last
  | path :: rest =>
      match loadFor shell path arguments with
      | .ok image => .ok image
      | .error errno =>
          let kept := errno = .noEntry || errno = .notDirectory
          loadFrom shell arguments (if kept then last else errno) rest

/-- The program that the first argument names, in the directories of a search path. -/
def loadProgram (shell : Shell) (searchPath : String) (arguments : List String) :
    Except Errno Image :=
  let name := arguments.headD ""
  if name.toList.contains '/' then loadFor shell name arguments
  else loadFrom shell arguments .noEntry (listedPaths searchPath name)

/-- A program is run in the place of the script. -/
def runImage (engine : Engine) (around : Surroundings) (image : Image) : Run Finish := do
  let shell ← get
  let (finish, scene) := engine.spawn around image shell.scene
  set { shell with scene }
  return finish

/-- A program could not be loaded. It ends what would have become the program. -/
def loadFault {Value : Type} (name : String) (errno : Errno) : Run Value := do
  setStatus (if isMissing errno then 127 else 126)
  warn (name ++ ": " ++ loadText errno)
  let _ ← flush
  throw .left

/-- A program takes the place of the script. -/
def becomeProgram (engine : Engine) (searchPath : String) (arguments : List String) : Run Nat := do
  let shell ← get
  match loadProgram shell searchPath arguments with
  | .error errno => loadFault (arguments.headD "") errno
  | .ok image => throw (.replaced (← runImage engine shell.around image))

/-- A program is put in the place of the script, if one is named. -/
def replace (engine : Engine) (arguments : List String) : Run Nat := do
  if arguments.isEmpty then return 0 else becomeProgram engine (← get).searchPath arguments

end PromptShell.Host.Script.Run
