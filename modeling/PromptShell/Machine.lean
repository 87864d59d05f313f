import PromptShell.Event
import PromptShell.Failure
namespace PromptShell

/-- A child that was split off. Its program either could not be loaded or ran its course; `world`
is the machine's state after it. -/
structure Started (World : Type) where
  process : Nat
  outcome : Except Errno Course
  world : World

/-- What a shell asks of the machine that it runs on, whose states have a given type. A child works
in a directory of its own, so no program can move the shell. -/
structure Machine (World : Type) where
  /-- The directory that a path leads to from another directory. -/
  enter : World → Directory → String → Except Errno Directory
  /-- A child is split off, if the machine can do that, loads the program that its first argument
  names and runs it. -/
  start : World → Directory → List Bytes → Except Errno (Started World)
  /-- The raw reports on a child to its parent. -/
  reports : World → Course → List WaitReport
  /-- A call of the shell's own process has failed, which its next child may notice. -/
  failed : World → Errno → World
  /-- The shell has written to the streams that its children share. -/
  heard : World → List Emission → World
  /-- The bytes that the next child finds on its input. -/
  offer : World → Bytes → World
  /-- The bytes that are on the input of the children when they have ended. -/
  left : World → Bytes
  /-- The children can see what arguments the shell was started with. -/
  titled : World → List String → World

/-- The course of a child whose program could not be loaded: it says why and ends with code one. -/
def Course.refused (errno : Errno) : Course :=
  ⟨[.flow .errors (Utf8.encode (programName ++ ": " ++ errno.describe ++ "\n"))], [], .exited 1⟩

/-- The course of a child from its start on. -/
def Started.course {World : Type} (started : Started World) : Course :=
  match started.outcome with
  | .ok course => course
  | .error errno => .refused errno

end PromptShell
