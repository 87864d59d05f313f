import PromptShell.Child
import PromptShell.Host.Binary
import PromptShell.Host.Walk
import Std.Data.TreeMap
namespace PromptShell.Host

/-- What a stream leads to. The channels are those that all children share; a stream of its own may
lead to the file behind one of them, too. A stream in memory is a pipe at its end, where it is read,
and the entrance of a pipe leads to the stream at its end. The input is a file without a place in
the tree. -/
inductive Outlet where
  | channel (channel : Channel)
  | spool (channel : Channel)
  | input
  | file (names : List String)
  | directory (names : List String)
  | device (device : Device)
  | memory
  | entrance (stream : Nat)
  deriving Repr, DecidableEq

/-- An open stream. `place` counts the bytes of a file behind which the stream stands. The unread
bytes of a stream in memory are `text` and behind it those that were `added`, the latest first. Such
a stream may have room for a number of bytes only, behind which nobody reads any
more; `cut` is the number of emissions that there were when somebody wanted to write more. -/
structure Stream where
  outlet : Outlet
  readable : Bool := false
  writable : Bool := false
  appends : Bool := false
  place : Nat := 0
  text : Bytes := []
  added : List Bytes := []
  room : Option Nat := none
  cut : Option Nat := none
  deriving Repr

namespace Stream

/-- The unread bytes of a stream in memory. -/
def unread (stream : Stream) : Bytes :=
  if stream.added.isEmpty then stream.text else stream.text ++ stream.added.reverse.flatten

/-- Bytes are written to a stream in memory, as far as there is room for them. -/
def add (stream : Stream) (bytes : Bytes) : Stream × Option Errno :=
  match stream.room with
  | none => ({ stream with added := bytes :: stream.added }, none)
  | some room =>
      let left := stream.room.map (· - bytes.length)
      if bytes.length ≤ room then
        ({ stream with added := bytes :: stream.added, room := left }, none)
      else
        ({ stream with added := bytes.take room :: stream.added, room := left },
          some .brokenPipe)

/-- A stream leads to a file. -/
def isFile (stream : Stream) : Bool :=
  match stream.outlet with
  | .file _ | .channel _ | .spool _ | .input => true
  | .directory _ | .device _ | .memory | .entrance _ => false

/-- A number of bytes of a stream were read. -/
def advance (stream : Stream) (count : Nat) : Stream :=
  { stream with place := stream.place + count, text := stream.unread.drop count, added := [] }

end Stream

/-- Something that happens in the background: bytes reach a stream, or a signal a program. -/
inductive Happening where
  | write (stream : Nat) (bytes : Bytes)
  | signal (process signal : Nat)
  deriving Repr, DecidableEq

/-- Something that happens at a later time, and the process that does it. -/
structure Later where
  time : Nat
  source : Nat
  happening : Happening
  deriving Repr

/-- A part in the background runs ahead of the others, up to a time. What it does to streams that
were open before it started, and to processes with smaller numbers than its own, is held back, the
latest first. -/
structure Held where
  known : Nat
  process : Nat
  horizon : Nat
  latest : List Later := []

/-- What the system that a program comes with has written behind its help, and about its version. -/
structure Notice where
  closing : String := ""
  version : String := ""
  deriving Repr, DecidableEq

/-- What the programs of a host share. The clock counts millionths of a second; only waiting makes
it go on. Emissions are held with the latest one first, and the spools are those from before them; a
signal that was sent stands beside the number of the program that has still to take it. -/
structure Scene where
  top : Node
  notices : Tool → Notice := fun _ => {}
  streams : Std.TreeMap Nat Stream := {}
  input : Bytes := []
  spools : Spools := {}
  latest : List Emission := []
  held : Option Held := none
  later : List Later := []
  sent : List (Nat × Nat) := []
  nextProcess : Nat
  clock : Nat := 0

/-- The streams of a program by their numbers. -/
abbrev Descriptors := List (Nat × Nat)

/-- The numbers that no stream of a program has, the lowest first, so many of them. -/
def Descriptors.free (descriptors : Descriptors) (count : Nat) : List Nat :=
  let numbers := List.range (descriptors.length + count)
  (numbers.filter fun number => (descriptors.lookup number).isNone).take count

namespace Scene

/-- A stream is opened. -/
def openStream (scene : Scene) (stream : Stream) : Nat × Scene :=
  let id := scene.streams.size
  (id, { scene with streams := scene.streams.insert id stream })

/-- The two ends of a pipe. -/
structure Pipe where
  output : Nat
  entrance : Nat

/-- A stream is opened that leads into a pipe. -/
def openEntrance (scene : Scene) (output : Nat) : Nat × Scene :=
  scene.openStream { outlet := .entrance output, writable := true }

/-- A pipe is opened, perhaps with room for so many bytes only. -/
def openPipe (scene : Scene) (room : Option Nat) : Pipe × Scene :=
  let (output, scene) := scene.openStream { outlet := .memory, readable := true, room }
  let (entrance, scene) := scene.openEntrance output
  (⟨output, entrance⟩, scene)

/-- A stream by its identity. -/
def stream? (scene : Scene) (id : Nat) : Option Stream := scene.streams[id]?

/-- A stream that was opened is replaced. -/
def setStream (scene : Scene) (id : Nat) (stream : Stream) : Scene :=
  { scene with streams := scene.streams.insert id stream }

/-- A file, which is empty if there is none. -/
def file (scene : Scene) (names : List String) : File :=
  match scene.top.get? names with
  | some (.file file) => file
  | some (.tool tool) => { mode := 493, content := tool.content }
  | _ => {}

/-- The content of a file. -/
def fileContent (scene : Scene) (names : List String) : Bytes := (scene.file names).content

/-- The content of a file is set. -/
def setFile (scene : Scene) (names : List String) (content : Bytes) : Scene :=
  let file := { scene.file names with content, written := scene.clock }
  { scene with top := scene.top.put names (.file file) }

/-- The file that the output on a channel is collected in. -/
def spool (scene : Scene) (channel : Channel) : Spool :=
  (scene.spools.afterAll scene.latest.reverse).of channel

/-- Something happens to the file behind a channel. -/
def emit (scene : Scene) (channel : Channel) (change : SpoolChange) : Scene :=
  { scene with latest := ⟨channel, change⟩ :: scene.latest }

/-- Bytes reach what a stream leads to. -/
def deliver (scene : Scene) (id : Nat) (stream : Stream) (bytes : Bytes) :
    Scene × Option Errno :=
  let moved := { stream with place := stream.place + bytes.length }
  match stream.outlet with
  | .channel channel => (scene.emit channel (.flowed bytes), none)
  | .spool channel =>
      let change := if stream.appends then .added bytes else .placed stream.place bytes
      ((scene.emit channel change).setStream id moved, none)
  | .entrance output =>
      match scene.stream? output with
      | none => (scene, some .brokenPipe)
      | some stream =>
          let (added, fault) := stream.add bytes
          let after :=
            if fault.isSome && added.cut.isNone then { added with cut := some scene.latest.length }
            else added
          (scene.setStream output after, fault)
  | .file names =>
      let content := scene.fileContent names
      let place := if stream.appends then content.length else stream.place
      ((scene.setFile names (putBytes content place bytes)).setStream id
        { stream with place := place + bytes.length }, none)
  | .input =>
      let place := if stream.appends then scene.input.length else stream.place
      ({ scene with input := putBytes scene.input place bytes }.setStream id
        { stream with place := place + bytes.length }, none)
  | .device .full => (scene, some .noSpace)
  | .device _ => (scene, none)
  | .directory _ | .memory => (scene, some .badDescriptor)

/-- Something is held back. -/
def hold (scene : Scene) (held : Held) (happening : Happening) : Scene :=
  let later : Later := ⟨scene.clock, held.process, happening⟩
  { scene with held := some { held with latest := later :: held.latest } }

/-- A write to a device has its effect at once, even in the background. -/
def isImmediate : Outlet → Bool
  | .device _ | .directory _ => true
  | .channel _ | .spool _ | .memory | .entrance _ | .file _ | .input => false

/-- Bytes are written to a stream. To write nothing is no fault on any stream. -/
def write (scene : Scene) (id : Nat) (bytes : Bytes) : Scene × Option Errno :=
  if bytes.isEmpty then (scene, none)
  else match scene.stream? id with
  | none => (scene, some .badDescriptor)
  | some stream =>
      if !stream.writable then (scene, some .badDescriptor)
      else match scene.held with
        | some held =>
            if id < held.known && !isImmediate stream.outlet then
              (scene.hold held (.write id bytes), none)
            else scene.deliver id stream bytes
        | none => scene.deliver id stream bytes

/-- The place of a file at which the next bytes of a stream will be written. -/
def writingPlace? (scene : Scene) (stream : Stream) : Option Nat :=
  match stream.outlet with
  | .file names => some (if stream.appends then (scene.fileContent names).length else stream.place)
  | .input => some (if stream.appends then scene.input.length else stream.place)
  | .channel channel => some (scene.spool channel).place
  | .spool channel => some (if stream.appends then (scene.spool channel).size else stream.place)
  | _ => none

/-- Bytes are written to a stream, but no file is made larger than it may be. -/
def writeWithin (scene : Scene) (limit : Nat) (id : Nat) (bytes : Bytes) :
    Scene × Option Errno :=
  match (scene.stream? id).bind scene.writingPlace? with
  | none => scene.write id bytes
  | some place =>
      if place + bytes.length ≤ limit then scene.write id bytes
      else
        let (after, fault) := scene.write id (bytes.take (limit - place))
        (after, fault <|> some .fileTooLarge)

/-- A signal is sent to a process. -/
def send (scene : Scene) (process signal : Nat) : Scene :=
  let sent := { scene with sent := scene.sent ++ [(process, signal)] }
  match scene.held with
  | some held => if process < held.process then scene.hold held (.signal process signal) else sent
  | none => sent

/-- What was to happen later happens. -/
def perform (scene : Scene) (later : Later) : Scene :=
  let timed := { scene with clock := max scene.clock later.time }
  match later.happening with
  | .write id bytes => (timed.write id bytes).1
  | .signal process signal => timed.send process signal

/-- What was to happen by now happens, for the things that are chosen by their time. -/
def catchUp (scene : Scene) (chosen : Nat → Bool) : Scene :=
  let (now, after) := scene.later.partition fun later => chosen later.time
  now.foldl perform { scene with later := after }

/-- Time goes on. What was to happen in it happens. -/
def passTime (scene : Scene) (span : Nat) : Scene :=
  let time := scene.clock + span
  let caught := scene.catchUp fun other => other < time
  { caught with clock := time }

/-- Time goes on up to a point, and what was to happen by then happens. -/
def passUntil (scene : Scene) (time : Nat) : Scene :=
  let caught := scene.catchUp fun other => other ≤ time
  { caught with clock := max scene.clock time }

/-- Time goes on until nothing is left that chosen things are to happen. -/
def passAll (scene : Scene) (chosen : Happening → Bool) : Scene :=
  match ((scene.later.filter fun later => chosen later.happening).map Later.time).max? with
  | some time => scene.passUntil time
  | none => scene

/-- Things are added to those that happen later, in the order of their times. -/
def addLater (scene : Scene) (others : List Later) : Scene :=
  { scene with
    later := (scene.later ++ others).mergeSort fun first second => first.time ≤ second.time }

/-- More zeros than anybody reads from a device that never ends. -/
def endlessZeros : Bytes := List.replicate 100000 0

/-- What is left to read from a stream. -/
def unread (scene : Scene) (id : Nat) : Except Errno Bytes :=
  match scene.stream? id with
  | none => .error .badDescriptor
  | some stream =>
      if !stream.readable then .error .badDescriptor
      else match stream.outlet with
        | .file names => .ok ((scene.fileContent names).drop stream.place)
        | .channel channel =>
            let spool := scene.spool channel
            .ok (spool.content.drop spool.place)
        | .spool channel => .ok ((scene.spool channel).content.drop stream.place)
        | .input => .ok (scene.input.drop stream.place)
        | .memory => .ok stream.unread
        | .entrance _ => .error .badDescriptor
        | .directory _ => .error .isDirectory
        | .device .zero | .device .full => .ok endlessZeros
        | .device _ => .ok []

/-- A number of bytes were read from a stream. -/
def advance (scene : Scene) (id : Nat) (count : Nat) : Scene :=
  match scene.stream? id with
  | none => scene
  | some stream =>
      match stream.outlet with
      | .channel channel => if count = 0 then scene else scene.emit channel (.passed count)
      | _ => scene.setStream id (stream.advance count)

/-- All that is left of a stream is read. -/
def readAll (scene : Scene) (id : Nat) : Except Errno Bytes × Scene :=
  match scene.unread id with
  | .error errno => (.error errno, scene)
  | .ok bytes => (.ok bytes, scene.advance id bytes.length)

/-- Nothing is refused when nothing is written. -/
theorem write_nil (scene : Scene) (id : Nat) : scene.write id [] = (scene, none) := by
  simp [write]

end Scene
end PromptShell.Host
