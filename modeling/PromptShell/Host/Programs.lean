import PromptShell.Host.Script.Start
import PromptShell.Host.Tool.Cat
import PromptShell.Host.Tool.Directory
import PromptShell.Host.Tool.Echo
import PromptShell.Host.Tool.Head
import PromptShell.Host.Tool.Printf
import PromptShell.Host.Tool.Sleep
namespace PromptShell.Host

/-- A program ends with a code, if it is not killed. -/
def ofWork (around : Surroundings) (work : Work Nat) (scene : Scene) : Finish × Scene :=
  let (code, after) := work scene
  if after.sent.isEmpty then (⟨.exited code, []⟩, after)
  else
    let others := after.sent.filter fun entry => entry ≠ (around.process, Surroundings.sizeSignal)
    let ending := if around.isKilled after then .killed Surroundings.sizeSignal else .exited code
    (⟨ending, []⟩, { after with sent := others })

/-- The signal that kills a damaged program. -/
def segmentationFault : Nat := 11

/-- What keeps a program from starting within what it may use: it is killed, or it complains. -/
inductive StartFault where
  | killed
  | complaint (text : String)

/-- What a program needs at least of its limits, in bytes: so much is mapped of the program itself,
of its library, and as its data and its stack. -/
def startFault? (around : Surroundings) : Option StartFault :=
  let lacks (letter : Char) (need : Nat) : Bool :=
    (around.allowance.bound? letter).any fun bound => bound < need
  let library := "error while loading shared libraries: libc.so.6: "
  if lacks 'v' 400000 || lacks 's' 6000 || lacks 'd' 40000 then some .killed
  else if !around.hasRoom 1 then
    some (.complaint (library ++ "cannot open shared object file: Error 24"))
  else if lacks 'v' 2500000 then
    some (.complaint (library ++ "failed to map segment from shared object"))
  else none

/-- A loaded program is run. -/
def Image.run (spawn : Spawn) (around : Surroundings) (image : Image) (scene : Scene) :
    Finish × Scene :=
  let name := image.arguments.headD ""
  let arguments := image.arguments.tail
  let tellOr (tool : Tool) (code : Nat) : Work Nat :=
    match OptionsEnd.ofOnly? arguments with
    | some ended => do
        let told ← around.stop tool name ended
        return max told code
    | none => return code
  match image.tool, startFault? around with
  | none, _ | _, some .killed => (⟨.killed segmentationFault, []⟩, scene)
  | _, some (.complaint text) =>
      ofWork around (do around.complain name text; return 127) scene
  | some .cat, none => ofWork around (Cat.run name around arguments) scene
  | some .echo, none => ofWork around (Echo.run name around arguments) scene
  | some .failure, none => ofWork around (tellOr .failure 1) scene
  | some .head, none => ofWork around (Head.run name around arguments) scene
  | some .printf, none => ofWork around (Printf.run name around arguments) scene
  | some .removeDirectory, none => ofWork around (RemoveDirectory.run name around arguments) scene
  | some .script, none => Script.run spawn around name arguments scene
  | some .sleep, none => ofWork around (Sleep.run name around arguments) scene
  | some .success, none => ofWork around (tellOr .success 0) scene
  | some .workingDirectory, none => ofWork around (WorkingDirectory.run name around arguments) scene

/-- Programs may start programs up to this depth. -/
def programDepth : Nat := 200

/-- Loaded programs are run; the bound is the depth that is left, and a program beyond it is
killed. -/
def spawn : Nat → Spawn
  | 0 => fun _ _ scene => (⟨.killed 9, []⟩, scene)
  | bound + 1 => fun around image scene => image.run (spawn bound) around scene

end PromptShell.Host
