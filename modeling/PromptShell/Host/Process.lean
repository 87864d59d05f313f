import PromptShell.Host.Allowance
import PromptShell.Host.Opening
import PromptShell.Host.Quoting
import PromptShell.Host.Raw
import PromptShell.Host.Search
namespace PromptShell.Host

/-- What a program finds around it when it starts. Some signals do nothing to it, and some streams
that are not its own are held open by others. -/
structure Surroundings where
  directory : Directory
  bindings : List (String × String)
  descriptors : Descriptors
  process : Nat
  parent : Nat
  ignored : List Nat
  heldOpen : List Nat := []
  allowance : Allowance := {}

/-- The output that a program holds back until it complains or ends. Some that went out earlier may
have been lost on the way, and so may some complaint. -/
structure Unsent where
  output : Bytes := []
  lost : Bool := false
  unheard : Bool := false

/-- More output is held back. -/
def Unsent.put (unsent : Unsent) (bytes : Bytes) : Unsent :=
  { unsent with output := unsent.output ++ bytes }

/-- How a program ended, and the signals that stopped it for a while. -/
structure Finish where
  ending : WaitReport
  stops : List Nat := []
  deriving Repr, DecidableEq

/-- A way to run loaded programs. -/
abbrev Spawn := Surroundings → Image → Scene → Finish × Scene

/-- Work on what the programs share. -/
abbrev Work := StateM Scene

namespace Surroundings

/-- All streams that the program or another one holds open. -/
def openStreams (around : Surroundings) : List Nat :=
  around.descriptors.map Prod.snd ++ around.heldOpen

/-- So many more streams may be opened. -/
def hasRoom (around : Surroundings) (count : Nat) : Bool :=
  (Descriptors.free around.descriptors count).all fun number =>
    number < around.allowance.openFiles

/-- What the program hands on to programs that it loads. -/
def launching (around : Surroundings) (scene : Scene) : Launching where
  directory := around.directory
  bindings := around.bindings
  busy := around.openStreams.filterMap fun id => do
    let stream ← scene.stream? id
    guard stream.writable
    match stream.outlet with
    | .file names => some names
    | _ => none

/-- The signal that reaches a program that writes behind the end that a file may have. -/
def sizeSignal : Nat := 25

/-- The program has been killed because of the size of a file. -/
def isKilled (around : Surroundings) (scene : Scene) : Bool :=
  scene.sent.contains (around.process, sizeSignal) && !around.ignored.contains sizeSignal

/-- Bytes are written to a stream. A program that was killed writes nothing any more. -/
def writeTo (around : Surroundings) (id : Nat) (bytes : Bytes) : Work (Option Errno) :=
  fun scene =>
    match around.allowance.fileSize? with
    | none => let (after, fault) := scene.write id bytes; (fault, after)
    | some limit =>
        if around.isKilled scene then (none, scene)
        else
          let (after, fault) := scene.writeWithin limit id bytes
          if fault = some .fileTooLarge then
            (fault, { after with sent := after.sent ++ [(around.process, sizeSignal)] })
          else (fault, after)

/-- The program tries to write behind the end that a file may have. -/
def exceed (around : Surroundings) : Work Unit :=
  modify fun scene => { scene with sent := scene.sent ++ [(around.process, sizeSignal)] }

/-- The output of the program leads to a file that has reached the size that it may have. What is
only added to a file does not count. -/
def isAtLimit (around : Surroundings) (scene : Scene) : Bool :=
  match around.allowance.fileSize?, (around.descriptors.lookup 1).bind scene.stream? with
  | some limit, some stream =>
      !stream.appends && (scene.writingPlace? stream).any fun place => limit ≤ place
  | _, _ => false

/-- Bytes are written to a stream of the program. -/
def write (around : Surroundings) (descriptor : Nat) (bytes : Bytes) : Work (Option Errno) :=
  match around.descriptors.lookup descriptor with
  | some id => around.writeTo id bytes
  | none => return if bytes.isEmpty then none else some .badDescriptor

/-- A text goes to the error stream, with no regard to faults there. -/
def tell (around : Surroundings) (text : String) : Work Unit := do
  let _ ← around.write 2 (Raw.toBytes text)

/-- A program complains under its name. -/
def complain (around : Surroundings) (name text : String) : Work Unit :=
  around.tell (name ++ ": " ++ text ++ "\n")

/-- Complaints about the arguments, and where to find more about them. -/
def hint (around : Surroundings) (name : String) (texts : List String) : Work Nat := do
  for text in texts do
    around.complain name text
  around.tell ("Try '" ++ name ++ " --help' for more information.\n")
  return 1

/-- A program complains under its name. The output that it holds back goes out first. -/
def complainBehind (around : Surroundings) (name text : String) (unsent : Unsent) :
    Work Unsent := do
  let fault ← around.write 1 unsent.output
  let unheard ← around.write 2 (Raw.toBytes (name ++ ": " ++ text ++ "\n"))
  return { lost := unsent.lost || fault.isSome, unheard := unsent.unheard || unheard.isSome }

/-- The output of a program that is still held back is written at its end. A fault there, or an
earlier one, is a complaint. A program of which some complaint was not heard fails at least. -/
def finish (around : Surroundings) (name : String) (code : Nat) (unsent : Unsent) : Work Nat := do
  let fault ← around.write 1 unsent.output
  if unsent.lost || fault.isSome then
    let closed := if (around.descriptors.lookup 1).isNone then some Errno.badDescriptor else none
    let why := (fault <|> closed).map fun errno => ": " ++ libraryText errno.number
    around.complain name ("write error" ++ why.getD "")
    return 1
  else return if unsent.unheard then 1 else code

/-- All that is left of a stream of the program is read. -/
def readAll (around : Surroundings) (descriptor : Nat) : Work (Except Errno Bytes) := fun scene =>
  match around.descriptors.lookup descriptor with
  | some id => scene.readAll id
  | none => (.error .badDescriptor, scene)

end Surroundings
end PromptShell.Host
