import PromptShell.Host.World
import PromptShell.Program
namespace PromptShell.Main

/-- All bytes of a stream up to its end. -/
partial def readAll (stream : IO.FS.Stream) (read : ByteArray) : IO ByteArray := do
  let block ← stream.read 8192
  if block.isEmpty then return read else readAll stream (read ++ block)

/-- The startup of the program in the home directory of a fresh host. -/
def startup (arguments : List String) (input : Bytes) (searchPath logSetting : Option String) :
    Startup Host.World where
  arguments := arguments
  input := .file input
  logSetting := logSetting
  directory := ⟨["root"]⟩
  world := (Host.World.fresh ⟨["root"]⟩ [] (Host.environment searchPath logSetting)).ofProgram input

end PromptShell.Main

def main (arguments : List String) : IO UInt32 := do
  let input ← PromptShell.Main.readAll (← IO.getStdin) .empty
  let searchPath ← IO.getEnv "PATH"
  let logSetting ← IO.getEnv "RUST_LOG"
  let time := toString (← IO.monoMsNow)
  let completion := (PromptShell.Main.startup arguments input.toList searchPath logSetting).complete
    PromptShell.Host.machine time
  (← IO.getStdout).write ⟨completion.output.toArray⟩
  (← IO.getStderr).write ⟨completion.errors.toArray⟩
  return UInt32.ofNat completion.code
