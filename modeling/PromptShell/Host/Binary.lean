import PromptShell.Host.Tree
namespace PromptShell.Host

/-- The number in some bytes of a content, the lowest byte first. What is behind the end counts as
zero. -/
def numberAt (content : Bytes) (place size : Nat) : Nat :=
  ((content.drop place).take size).foldr (fun byte number => byte.toNat + 256 * number) 0

/-- The bytes of a number, the lowest byte first. -/
def numberBytes : Nat → Nat → Bytes
  | 0, _ => []
  | size + 1, number => UInt8.ofNat number :: numberBytes size (number / 256)

namespace Binary

/-- The first bytes of every binary program. -/
def mark : Bytes := [0x7F, 0x45, 0x4C, 0x46]

/-- The size of a head. -/
def headSize : Nat := 64

/-- The size of a row of the table of parts. -/
def rowSize : Nat := 56

/-- The kinds of a binary program that can be run. -/
def kinds : List Nat := [2, 3]

/-- The machine that binary programs are made for. -/
def machine : Nat := 62

/-- The bytes that a table of parts may have. -/
def tableLimit : Nat := 65536

/-- The kind of a part that holds the path of a loader. -/
def loaderKind : Nat := 3

/-- The bytes that the path of a loader may have. -/
def loaderLimit : Nat := 4096

/-- The places of a file are smaller. -/
def placeLimit : Nat := Nat.pow 2 63

/-- A content starts as a binary program for the machine does. -/
def isMarked (content : Bytes) : Bool :=
  content.take 4 = mark && numberAt content 18 2 = machine

/-- The rows of the table of parts, if all of it is there. -/
def rows? (content : Bytes) : Option (List Bytes) :=
  let table := numberAt content 32 8
  let count := numberAt content 56 2
  let size := count * rowSize
  if numberAt content 54 2 = rowSize && 0 < count && size ≤ tableLimit &&
      table + size ≤ content.length then
    some ((List.range count).map fun index =>
      (content.drop (table + index * rowSize)).take rowSize)
  else none

/-- The path of the loader that a content names. A path that is too short or too long, or that does
not end with a zero, makes it no program; one behind the end of the content cannot be read. -/
def loader? (content : Bytes) : Except Errno (Option Bytes) :=
  match rows? content with
  | none => .error .notExecutable
  | some rows =>
      if !(isMarked content && kinds.contains (numberAt content 16 2)) then .error .notExecutable
      else match rows.find? fun row => numberAt row 0 4 = loaderKind with
        | none => .ok none
        | some row =>
            let place := numberAt row 8 8
            let size := numberAt row 32 8
            if size < 2 || loaderLimit < size then .error .notExecutable
            else if placeLimit ≤ place + size then .error .invalid
            else if content.length < place + size then .error .inputOutput
            else
              let path := (content.drop place).take size
              if path.getLast? = some 0 then .ok (some (path.takeWhile fun byte => byte ≠ 0))
              else .error .notExecutable

/-- A content serves as a loader. -/
def checkLoader (content : Bytes) : Except Errno Unit :=
  if content.length < headSize then .error .inputOutput
  else if isMarked content && (rows? content).isSome then .ok ()
  else .error .badLibrary

end Binary

/-- The path of the loader of the programs of the system. -/
def loaderPath : String := "/lib64/ld-linux-x86-64.so.2"

/-- The content of a binary program with a loader and a name of its own: a head, a table with one
part, the path of the loader, and the name. -/
def binaryContent (name : String) : Bytes :=
  let path := Utf8.encode loaderPath ++ [0]
  let head := Binary.mark ++ [2, 1, 1] ++ List.replicate 9 0 ++
    numberBytes 2 3 ++ numberBytes 2 Binary.machine ++ numberBytes 4 1 ++ numberBytes 8 0 ++
    numberBytes 8 Binary.headSize ++ numberBytes 8 0 ++ numberBytes 4 0 ++
    numberBytes 2 Binary.headSize ++ numberBytes 2 Binary.rowSize ++ numberBytes 2 1 ++
    numberBytes 2 64 ++ numberBytes 4 0
  let place := Binary.headSize + Binary.rowSize
  let row := numberBytes 4 Binary.loaderKind ++ numberBytes 4 4 ++ numberBytes 8 place ++
    numberBytes 8 place ++ numberBytes 8 place ++ numberBytes 8 path.length ++
    numberBytes 8 path.length ++ numberBytes 8 1
  head ++ row ++ path ++ Utf8.encode name ++ [0]

/-- All programs of the system. -/
def Tool.all : List Tool :=
  [.cat, .echo, .failure, .head, .printf, .removeDirectory, .script, .sleep, .success,
    .workingDirectory]

/-- The content of the file of a program of the system. -/
def Tool.content (tool : Tool) : Bytes := binaryContent tool.fileName

/-- The program of the system that a content is a copy of. What is behind the copy does not
matter. -/
def Tool.ofContent? (content : Bytes) : Option Tool :=
  Tool.all.find? fun tool => tool.content.isPrefixOf content

end PromptShell.Host
