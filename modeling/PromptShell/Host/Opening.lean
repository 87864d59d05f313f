import PromptShell.Host.Scene
namespace PromptShell.Host.Scene

/-- The streams that can be named by a redirection. -/
def namedStreams : Nat := 10

/-- What a program finds at the place of one of its streams. -/
def ownNode (scene : Scene) (number id : Nat) : Node :=
  match (scene.stream? id).map Stream.outlet with
  | some (.file names) | some (.directory names) => .link (Directory.mk names).path
  | some (.device device) => .link (Directory.mk device.place).path
  | _ => .device (.own number)

/-- The tree as a program with some streams sees it. -/
def seenBy (scene : Scene) (descriptors : Descriptors) : Node :=
  let entries := (List.range namedStreams).filterMap fun number =>
    (descriptors.lookup number).map fun id => (toString number, scene.ownNode number id)
  scene.top.put ownPlace (.directory entries)

/-- A stream that is open is opened once more. A pipe is shared, whose other end may be meant, and a
file without a place in the tree is read or written from its start on. -/
def reopen (scene : Scene) (id : Nat) (manner : Stream) (empties : Bool) :
    Except Errno (Nat × Scene) :=
  match scene.stream? id with
  | none => .error .noEntry
  | some stream =>
      match stream.outlet with
      | .memory => .ok (if manner.writable then scene.openEntrance id else (id, scene))
      | .entrance output => .ok (if manner.writable then (id, scene) else (output, scene))
      | .channel channel | .spool channel =>
          let prepared := if empties then scene.emit channel .emptied else scene
          .ok (prepared.openStream { manner with outlet := .spool channel })
      | .input =>
          let prepared := if empties then { scene with input := [] } else scene
          .ok (prepared.openStream { manner with outlet := .input })
      | outlet => .ok (scene.openStream { manner with outlet })

/-- The stream of a program that is to be opened once more. -/
def reopenOwn (scene : Scene) (descriptors : Descriptors) (number : Nat) (manner : Stream)
    (empties : Bool) : Except Errno (Nat × Scene) :=
  match descriptors.lookup number with
  | some id => scene.reopen id manner empties
  | none => .error .noEntry

/-- A file is opened to be read. -/
def openToRead (scene : Scene) (descriptors : Descriptors) (directory : Directory)
    (path : String) : Except Errno (Nat × Scene) := do
  let arrival ← resolve (scene.seenBy descriptors) directory path
  let opened (outlet : Outlet) : Stream := { outlet, readable := true }
  match arrival.spot with
  | .there (.device (.own number)) =>
      scene.reopenOwn descriptors number (opened .memory) false
  | .there (.device .terminal) => .error .noDevice
  | .there (.device device) => .ok (scene.openStream (opened (.device device)))
  | .there (.directory _) | .gone => .ok (scene.openStream (opened (.directory arrival.names)))
  | _ => .ok (scene.openStream (opened (.file arrival.names)))

/-- The place of a file that is to be written, which may not exist yet. A slash at the end of its
path asks for a directory, which cannot be written. -/
def writePlace (top : Node) (directory : Directory) (path : String) : Except Errno Arrival :=
  if path.toList.getLast? = some '/' then
    match resolveEntry top directory path with
    | .ok _ | .error .busy => .error .isDirectory
    | .error errno => .error errno
  else resolveNew top directory path

/-- A file is opened to be written, emptied first or written at its end. No file can be made where a
program finds its own streams. -/
def openToWrite (scene : Scene) (descriptors : Descriptors) (directory : Directory)
    (path : String) (readable empties appends : Bool) : Except Errno (Nat × Scene) := do
  let arrival ← writePlace (scene.seenBy descriptors) directory path
  let opened (outlet : Outlet) : Stream := { outlet, readable, writable := true, appends }
  match arrival.spot with
  | .there (.directory _) | .gone => .error .isDirectory
  | .there (.device (.own number)) =>
      scene.reopenOwn descriptors number (opened .memory) empties
  | .there (.device .terminal) => .error .noDevice
  | .there (.device device) => .ok (scene.openStream (opened (.device device)))
  | spot =>
      let fresh := spot matches .absent
      if fresh && arrival.names.dropLast = ownPlace then .error .noEntry
      else
        let prepared := if empties || fresh then scene.setFile arrival.names [] else scene
        .ok (prepared.openStream (opened (.file arrival.names)))

/-- What can be seen at a path: a node of the tree, or a pipe. A file without a place in the tree
is seen as a file. -/
inductive Sight where
  | node (node : Node)
  | pipe

/-- What can be seen of a stream that has no place in the tree. -/
def sightOf (scene : Scene) (id : Nat) : Sight :=
  match (scene.stream? id).map Stream.outlet with
  | some (.channel channel) | some (.spool channel) =>
      .node (.file { content := (scene.spool channel).content })
  | some .input => .node (.file { content := scene.input })
  | _ => .pipe

/-- What a program with some streams sees at a path. -/
def sight? (scene : Scene) (descriptors : Descriptors) (directory : Directory) (path : String) :
    Option Sight :=
  match nodeAt? (scene.seenBy descriptors) directory path with
  | some (.device (.own number)) => (descriptors.lookup number).map scene.sightOf
  | node => node.map .node

/-- What tells two files apart: their places in the tree, or what their streams lead to. -/
inductive Identity where
  | place (names : List String)
  | channel (channel : Channel)
  | input
  | pipe (stream : Nat)
  deriving DecidableEq

/-- What tells a stream without a place in the tree apart from others. -/
def identityOf (scene : Scene) (id : Nat) : Identity :=
  match (scene.stream? id).map Stream.outlet with
  | some (.channel channel) | some (.spool channel) => .channel channel
  | some .input => .input
  | some (.entrance output) => .pipe output
  | _ => .pipe id

/-- What tells the file at a path apart from others. -/
def identity? (scene : Scene) (descriptors : Descriptors) (directory : Directory)
    (path : String) : Option Identity := do
  let arrival ← (resolve (scene.seenBy descriptors) directory path).toOption
  match arrival.spot with
  | .there (.device (.own number)) => (descriptors.lookup number).map scene.identityOf
  | _ => some (.place arrival.names)

end PromptShell.Host.Scene
