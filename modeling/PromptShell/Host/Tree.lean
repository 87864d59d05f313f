import PromptShell.Event
namespace PromptShell.Host

/-- The programs of the system. -/
inductive Tool where
  | cat
  | echo
  | failure
  | head
  | printf
  | removeDirectory
  | script
  | sleep
  | success
  | workingDirectory
  deriving Repr, DecidableEq

/-- The file name of a program of the system. -/
def Tool.fileName : Tool → String
  | .cat => "cat"
  | .echo => "echo"
  | .failure => "false"
  | .head => "head"
  | .printf => "printf"
  | .removeDirectory => "rmdir"
  | .script => "sh"
  | .sleep => "sleep"
  | .success => "true"
  | .workingDirectory => "pwd"

/-- A device: one that takes everything that is written to it and holds nothing or zeros, one that
takes nothing, a terminal that is not there, or a place where every program finds one of its own
streams. -/
inductive Device where
  | null
  | zero
  | full
  | terminal
  | own (descriptor : Nat)
  deriving Repr, DecidableEq

/-- The place of the directory in which a program finds its own streams. -/
def ownPlace : List String := ["proc", "self", "fd"]

/-- The place of a device in the tree. -/
def Device.place : Device → List String
  | .null => ["dev", "null"]
  | .zero => ["dev", "zero"]
  | .full => ["dev", "full"]
  | .terminal => ["dev", "tty"]
  | .own descriptor => ownPlace ++ [toString descriptor]

/-- A file: the bits of its mode, its content, and the time at which it was written last. -/
structure File where
  mode : Nat := 420
  content : Bytes := []
  written : Nat := 0
  deriving Repr, DecidableEq

/-- A file is a program if anyone may execute it. -/
def File.isProgram (file : File) : Bool :=
  file.mode % 2 = 1 || file.mode / 8 % 2 = 1 || file.mode / 64 % 2 = 1

/-- One node of the tree. -/
inductive Node where
  | file (file : File)
  | tool (tool : Tool)
  | link (target : String)
  | device (device : Device)
  | directory (entries : List (String × Node))

namespace Node

/-- A directory without entries. -/
def vacant : Node := .directory []

/-- The entries of a directory; nothing else has any. -/
def entries? : Node → Option (List (String × Node))
  | directory entries => some entries
  | _ => none

/-- The node that the names lead to, without following links. -/
def get? (node : Node) : List String → Option Node
  | [] => some node
  | name :: rest =>
      match node.entries?.bind (List.lookup name) with
      | some child => child.get? rest
      | none => none

/-- The entries with one of them set. -/
def setEntry (entries : List (String × Node)) (name : String) (child : Node) :
    List (String × Node) :=
  if entries.any fun entry => entry.1 = name then
    entries.map fun entry => if entry.1 = name then (name, child) else entry
  else entries ++ [(name, child)]

/-- The tree with a node put at a place; missing directories on the way are made. -/
def put (node : Node) : List String → Node → Node
  | [], fresh => fresh
  | name :: rest, fresh =>
      let entries := node.entries?.getD []
      let child := (entries.lookup name).getD vacant
      .directory (setEntry entries name (child.put rest fresh))

/-- The tree without the node at a place. -/
def remove (node : Node) : List String → Node
  | [] => node
  | [name] => .directory ((node.entries?.getD []).filter fun entry => entry.1 ≠ name)
  | name :: rest =>
      match node.entries?.bind (List.lookup name) with
      | some child => .directory (setEntry (node.entries?.getD []) name (child.remove rest))
      | none => node

@[simp] theorem get?_nil (node : Node) : node.get? [] = some node := by
  cases node <;> rfl

@[simp] theorem put_nil (node fresh : Node) : node.put [] fresh = fresh := rfl

end Node
end PromptShell.Host
