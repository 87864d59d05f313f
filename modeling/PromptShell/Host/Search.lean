import PromptShell.Host.Binary
import PromptShell.Host.Raw
import PromptShell.Host.Walk
namespace PromptShell.Host

/-- A program of the system with its arguments, the first of which is its name. A damaged program is
none of them; it can be loaded, and is killed at once. -/
structure Image where
  tool : Option Tool
  arguments : List String
  deriving Repr, DecidableEq

/-- What a program is loaded with: the directory that it works in, the variables that it gets, and
the files that are being written to, which cannot be run. -/
structure Launching where
  directory : Directory
  bindings : List (String × String)
  busy : List (List String) := []
  deriving Repr

/-- The bytes that one argument with its end mark may have. -/
def argumentLimit : Nat := 131072

/-- The bytes that all arguments and variables may have, with a pointer to each. -/
def argumentsLimit : Nat := 2097152

/-- The shell that runs text files without a runner. -/
def systemShell : String := "/bin/sh"

/-- The directories that are searched when there is no search path. -/
def defaultSearchPath : String := "/bin:/usr/bin"

/-- The runners that may name each other in a chain. -/
def runnerLimit : Nat := 6

/-- The bytes of a file that are looked at for its runner. -/
def headSize : Nat := 256

/-- The head of a file, filled up with zeros. -/
def headOf (content : Bytes) : String :=
  let head := content.take headSize
  Raw.ofBytes (head ++ List.replicate (headSize - head.length) 0)

/-- A blank in the line that names a runner. -/
def isGap (character : Char) : Bool := character = ' ' || character = '\t'

/-- The part of a head that names the runner, if the name is whole. Without a newline the name must
be followed by a blank or a zero, and the last byte counts for nothing. -/
def runnerLine? (text : List Char) : Option (List Char) :=
  let line := text.takeWhile fun character => character ≠ '\n'
  if line.length < text.length then some line
  else
    let name := text.dropWhile isGap
    if name.any fun character => isGap character || character = '\x00' then some text.dropLast
    else none

/-- The runner of a text file and the one argument that it may be given. A zero ends either of
them. -/
def runner? (content : Bytes) : Option (String × List String) :=
  match (headOf content).toList with
  | '#' :: '!' :: text => do
      let untilZero (characters : List Char) : String :=
        String.ofList (characters.takeWhile fun character => character ≠ '\x00')
      let line ← runnerLine? text
      let trimmed := ((line.reverse.dropWhile isGap).reverse).dropWhile isGap
      guard !trimmed.isEmpty
      let behind := trimmed.dropWhile fun character => !isGap character && character ≠ '\x00'
      let argument := match behind with
        | [] | '\x00' :: _ => []
        | _ => [untilZero (behind.dropWhile isGap)]
      some (untilZero (trimmed.takeWhile fun character => !isGap character), argument)
  | _ => none

/-- The room that a path, the variables, and pointers to these and to some arguments take. -/
def takenRoom (launching : Launching) (path : String) (count : Nat) : Nat :=
  path.length + 1 + 8 * max 1 count +
    launching.bindings.foldl (fun room entry => room + entry.1.length + entry.2.length + 10) 0

/-- Arguments fit into the room that the system has for them. -/
def argumentsFit (taken : Nat) (arguments : List String) : Bool :=
  arguments.all (fun text => text.length < argumentLimit) &&
    arguments.foldl (fun room text => room + text.length + 1) taken ≤ argumentsLimit

/-- Each variable fits into the room of one argument. -/
def variablesFit (launching : Launching) : Bool :=
  launching.bindings.all fun entry => entry.1.length + entry.2.length + 1 < argumentLimit

/-- What a file holds that can be run. -/
inductive Loadable where
  | tool (tool : Tool)
  | text (content : Bytes)
  deriving Repr, DecidableEq

/-- The file at a path is opened to be run. -/
def openProgram (top : Node) (launching : Launching) (path : String) : Except Errno Loadable := do
  let arrival ← resolve top launching.directory path
  match arrival.spot with
  | .there (.tool tool) => .ok (.tool tool)
  | .there (.file file) =>
      if !file.isProgram then .error .accessDenied
      else if launching.busy.contains arrival.names then .error .textBusy
      else .ok (.text file.content)
  | _ => .error .accessDenied

/-- The bytes of a file that can be run. -/
def Loadable.content : Loadable → Bytes
  | .tool known => known.content
  | .text bytes => bytes

/-- A binary program is loaded. What names a loader that is one, or needs none, and is no program of
the system, is damaged. -/
def loadBinary (top : Node) (launching : Launching) (content : Bytes) :
    Except Errno (Option Tool) := do
  match Tool.ofContent? content with
  | some tool => .ok (some tool)
  | none =>
      match ← Binary.loader? content with
      | none => .ok none
      | some path =>
          Binary.checkLoader (← openProgram top launching (Raw.ofBytes path)).content
          .ok none

/-- A file that was opened is run, by its runner if it is a text. The runner gets the path of the
text in the place of its name, and must still fit before it is opened. -/
def follow (top : Node) (launching : Launching) (taken : Nat) :
    Nat → String → List String → Loadable → Except Errno Image
  | 0, _, _, _ => .error .tooManyLinks
  | _ + 1, _, arguments, .tool tool => .ok ⟨some tool, arguments⟩
  | bound + 1, path, arguments, .text content =>
      match runner? content with
      | none => do .ok ⟨← loadBinary top launching content, arguments⟩
      | some (name, argument) => do
          let given := name :: argument ++ path :: arguments.tail
          if argumentsFit taken given then
            follow top launching taken bound name given (← openProgram top launching name)
          else .error .argumentsTooLong

/-- The file at a path is loaded as a program. It must be there and allow to be run before its
arguments are looked at, and its content comes last. -/
def load (top : Node) (launching : Launching) (path : String) (arguments : List String) :
    Except Errno Image := do
  let loadable ← openProgram top launching path
  let taken := takenRoom launching path arguments.length
  if variablesFit launching && argumentsFit taken arguments then
    follow top launching taken runnerLimit path arguments loadable
  else .error .argumentsTooLong

/-- The file at a path is loaded, if need be as a text for the shell of the system, unless its
content does not look like one. -/
def loadOrScript (top : Node) (launching : Launching) (isText : Bytes → Bool) (path : String)
    (arguments : List String) : Except Errno Image :=
  match load top launching path arguments with
  | .error errno =>
      let content := ((openProgram top launching path).toOption.map Loadable.content).getD []
      if errno = .notExecutable && isText content then
        load top launching systemShell (systemShell :: path :: arguments.tail)
      else .error errno
  | .ok image => .ok image

/-- The errors after which the search goes on in the next directory: no entry, access denied, no
directory, no device, timed out, and a stale file. -/
def searchGoesOn (errno : Errno) : Bool := [2, 13, 20, 19, 110, 116].contains errno.number

/-- The paths are tried in order. A path to which access was denied decides over the error. -/
def tryEach (top : Node) (launching : Launching) (arguments : List String) (denied : Bool)
    (last : Errno) : List String → Except Errno Image
  | [] => .error (if denied then .accessDenied else last)
  | path :: rest =>
      match loadOrScript top launching (fun _ => true) path arguments with
      | .ok image => .ok image
      | .error errno =>
          if searchGoesOn errno then
            tryEach top launching arguments (denied || errno = .accessDenied) errno rest
          else .error errno

/-- The paths that a name may have. An empty part of the search path is the directory itself. A part
that no path has room for counts as empty, and for nothing if it is the last one. No more is taken
of a name than makes it too long. -/
def searchedPaths (searchPath : Option String) (whole : String) : List String :=
  let name := String.ofList (whole.toList.take (nameLimit + 1))
  let parts := cutAt ':' (searchPath.getD defaultSearchPath)
  let fits (part : String) : Bool := part.length < pathLimit
  let tried := if parts.getLast?.all fits then parts else parts.dropLast
  tried.map fun part => if part.isEmpty || !fits part then name else part ++ "/" ++ name

/-- The program that the first argument names. A search that tries nothing ends with the error that
was there before it. -/
def findProgram (top : Node) (launching : Launching) (searchPath : Option String) (before : Errno)
    (arguments : List String) : Except Errno Image :=
  let name := arguments.headD ""
  if name.isEmpty then .error .noEntry
  else if name.toList.contains '/' then
    loadOrScript top launching (fun _ => true) name arguments
  else tryEach top launching arguments false before (searchedPaths searchPath name)

end PromptShell.Host
