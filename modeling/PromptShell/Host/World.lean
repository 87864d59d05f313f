import PromptShell.Host.Programs
import PromptShell.Machine
namespace PromptShell.Host

/-- The state of a host. The environment is handed to every program. If there is a file of input,
the next program finds it read up to a place; the output is collected in spools. A host that
forgets its children does not report their ends. The clock of its programs starts behind the time at
which the entries of its tree were made. The latest fault is the error that a failed call of the
shell's own process has left behind. -/
structure World where
  top : Node
  notices : Tool → Notice := fun _ => {}
  environment : List (String × String) := []
  nextProcess : Nat := 100
  forgetsChildren : Bool := false
  input : Option Bytes := none
  place : Nat := 0
  spools : Spools := {}
  clock : Nat := 2
  latestFault : Errno := .noEntry

/-- An entry to be made in a tree; the mode of a file tells whether it is a program. -/
inductive Entry where
  | directory (path : String)
  | file (path : String) (content : Bytes) (mode : Nat)
  | link (path target : String)
  deriving Repr

/-- The tree of a fresh system. -/
def systemTree : Node :=
  let programs := Tool.all.map fun tool => (tool.fileName, Node.tool tool)
  let loader : File := { mode := 493, content := binaryContent "loader" }
  .directory [
    ("bin", .link "usr/bin"), ("boot", .vacant),
    ("dev", .directory [
      ("null", .device .null), ("zero", .device .zero), ("full", .device .full),
      ("tty", .device .terminal), ("fd", .link "/proc/self/fd"), ("stdin", .link "fd/0"),
      ("stdout", .link "fd/1"), ("stderr", .link "fd/2")]),
    ("etc", .vacant), ("home", .vacant), ("lib", .link "usr/lib"), ("lib64", .link "usr/lib64"),
    ("media", .vacant), ("mnt", .vacant), ("opt", .vacant),
    ("proc", .directory [("self", .directory [("fd", .vacant)])]),
    ("root", .vacant), ("run", .vacant),
    ("sbin", .link "usr/sbin"), ("srv", .vacant), ("sys", .vacant), ("tmp", .vacant),
    ("usr", .directory [
      ("bin", .directory programs), ("games", .vacant), ("include", .vacant), ("lib", .vacant),
      ("lib64", .directory [("ld-linux-x86-64.so.2", .file loader)]), ("libexec", .vacant),
      ("local", .directory [("bin", .vacant), ("lib", .vacant), ("sbin", .vacant),
        ("share", .vacant)]),
      ("sbin", .vacant), ("share", .vacant), ("src", .vacant)]),
    ("var", .directory [("cache", .vacant), ("lib", .vacant), ("log", .vacant),
      ("tmp", .vacant)])]

/-- The place of an entry below a directory. A path through links is followed as far as it can. -/
def entryPlace (top : Node) (home : Directory) (path : String) : List String :=
  match resolveEntry top home path with
  | .ok (place, name) => place ++ [name]
  | .error _ => home.names ++ (pathNames path).filter fun name => name ≠ "."

/-- The time at which entries are made: after the files of the system, and before what programs
write. -/
def entryTime : Nat := 1

/-- An entry is made below a directory. -/
def addEntry (home : Directory) (top : Node) : Entry → Node
  | .directory path =>
      match resolveDirectory top home (Raw.ofText path) with
      | .ok _ => top
      | .error _ => top.put (entryPlace top home (Raw.ofText path)) .vacant
  | .file path content mode =>
      let file : File := { mode, content, written := entryTime }
      top.put (entryPlace top home (Raw.ofText path)) (.file file)
  | .link path target =>
      top.put (entryPlace top home (Raw.ofText path)) (.link (Raw.ofText target))

/-- A fresh system with a directory and entries below it. -/
def freshTree (home : Directory) (entries : List Entry) : Node :=
  entries.foldl (addEntry home) (systemTree.put home.names .vacant)

/-- The environment of a shell on a fresh host. -/
def environment (searchPath logSetting : Option String) : List (String × String) :=
  (searchPath.map fun path => ("PATH", path)).toList ++
    (logSetting.map fun setting => ("RUST_LOG", setting)).toList

/-- A fresh host with a directory and entries below it, and an environment of texts. Making the
entries, one finds the directory there. -/
def World.fresh (home : Directory) (entries : List Entry) (environment : List (String × String)) :
    World where
  top := freshTree home entries
  environment := environment.map fun entry => (Raw.ofText entry.1, Raw.ofText entry.2)
  latestFault := if entries.isEmpty then .noEntry else .fileThere

/-- The host of a shell that runs as a program of its own with a file as its input. It has found no
terminal. -/
def World.ofProgram (world : World) (input : Bytes) : World :=
  { world with latestFault := .notTerminal, input := some input }

/-- The part of the input that is unread. -/
def World.unread (world : World) : Bytes := (world.input.getD []).drop world.place

/-- The number of the process of the shell. -/
def shellProcess : Nat := 1

/-- A program can look up how the shell was called. -/
def World.titled (world : World) (arguments : List String) : World :=
  let words := (programName :: arguments).map fun word => Utf8.encode word ++ [0]
  let title : File := { mode := 292, content := words.flatten }
  { world with
    top := world.top.put ["proc", toString shellProcess, "cmdline"] (.file title) }

/-- The path of a directory, unless it is gone. -/
def World.path? (world : World) (directory : Directory) : Option String :=
  if isKept world.top directory then some (Raw.shown directory.path) else none

/-- The room that is tried first for the path of a directory and its end mark. -/
def firstRoom : Nat := 512

/-- The shell's own process has asked for the path of a directory, with more and more room. -/
def World.asked (world : World) (directory : Directory) : World :=
  if !isKept world.top directory then { world with latestFault := .noEntry }
  else if firstRoom ≤ directory.path.length then { world with latestFault := .outOfRange }
  else world

/-- The signal of a broken pipe does nothing to the children of the shell. -/
def brokenPipeSignal : Nat := 13

/-- What a child finds around it. Its streams have the numbers that every program knows. -/
def World.around (world : World) (directory : Directory) : Surroundings where
  directory := directory
  bindings := world.environment
  descriptors := [(0, 0), (1, 1), (2, 2)]
  process := world.nextProcess
  parent := shellProcess
  ignored := [brokenPipeSignal]

/-- The scene in which a child starts. -/
def World.scene (world : World) : Scene :=
  let shared (outlet : Outlet) : Stream := { outlet, readable := true, writable := true }
  let input : Stream := match world.input with
    | some _ => { outlet := .input, readable := true, place := world.place }
    | none => { outlet := .device .null, readable := true }
  let streams := [input, shared (.channel .output), shared (.channel .errors)]
  let bare : Scene := {
    top := world.top, notices := world.notices, nextProcess := world.nextProcess + 1
    clock := world.clock
    input := world.input.getD [], spools := world.spools }
  streams.foldl (fun scene stream => (scene.openStream stream).2) bare

/-- A child is run to its end before the shell goes on. What it left to happen later comes too
late. -/
def start (world : World) (directory : Directory) (arguments : List Bytes) :
    Except Errno (Started World) :=
  let around := world.around directory
  let scene := world.scene
  let found := findProgram (scene.seenBy around.descriptors) (around.launching scene)
    (world.environment.lookup "PATH") world.latestFault (arguments.map Raw.ofBytes)
  match found with
  | .error errno =>
      .ok ⟨world.nextProcess, .error errno, { world with
        nextProcess := world.nextProcess + 1
        spools := world.spools.afterAll (Course.refused errno).emissions }⟩
  | .ok image =>
      let (finish, scene) := spawn programDepth around image scene
      let last := scene.catchUp fun time => time ≤ scene.clock
      let place := ((last.stream? 0).map Stream.place).getD world.place
      let emissions := last.latest.reverse
      .ok ⟨world.nextProcess, .ok ⟨emissions, finish.stops, finish.ending⟩,
        { world with
          top := last.top, nextProcess := last.nextProcess
          input := world.input.map fun _ => last.input, place
          spools := world.spools.afterAll emissions, clock := last.clock }⟩

/-- The reports on a child: each stop, and its end unless the host forgets its children. -/
def reports (world : World) (course : Course) : List WaitReport :=
  course.stops.map .stopped ++ if world.forgetsChildren then [] else [course.ending]

/-- The machine of a host. -/
def machine : Machine World where
  enter world directory path := resolveDirectory world.top directory (Raw.ofText path)
  start := start
  reports := reports
  failed world errno := { world with latestFault := errno }
  heard world emissions := { world with spools := world.spools.afterAll emissions }
  offer world bytes :=
    { world with place := world.place + (world.unread.length - bytes.length) }
  left := World.unread
  titled := World.titled

end PromptShell.Host
