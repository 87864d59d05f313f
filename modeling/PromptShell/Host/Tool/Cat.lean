import PromptShell.Host.Help
namespace PromptShell.Host.Cat

/-- What is done with the lines. -/
structure Manner where
  numbers : Bool
  numbersNonblank : Bool
  squeezes : Bool
  showsNonprinting : Bool
  showsTabs : Bool
  showsEnds : Bool

/-- Where the copy stands between lines: `newlines` counts those that followed each other, from one
below zero inside of a line. All went well so far, or not, and the output may be broken. -/
structure State where
  newlines : Int := 0
  line : Nat := 0
  pendingReturn : Bool := false
  latest : List UInt8 := []
  well : Bool := true
  broken : Bool := false

/-- The letters of the options and their words. -/
def table : OptionTable where
  letters := "benstuvAET".toList
  words := [("number-nonblank", 'b'), ("number", 'n'), ("squeeze-blank", 's'),
    ("show-nonprinting", 'v'), ("show-ends", 'E'), ("show-tabs", 'T'), ("show-all", 'A')]

/-- The manner that the letters of the options ask for. -/
def Manner.ofLetters (letters : List Char) : Manner where
  numbers := letters.any ['n', 'b'].contains
  numbersNonblank := letters.contains 'b'
  squeezes := letters.contains 's'
  showsNonprinting := letters.any ['v', 'A', 'e', 't'].contains
  showsTabs := letters.any ['T', 'A', 't'].contains
  showsEnds := letters.any ['E', 'A', 'e'].contains

/-- Nothing is done with the lines. -/
def Manner.isPlain (manner : Manner) : Bool :=
  !(manner.numbers || manner.squeezes || manner.showsNonprinting || manner.showsTabs ||
    manner.showsEnds)

namespace State

/-- Bytes are put out. -/
def put (state : State) (bytes : Bytes) : State :=
  { state with latest := bytes.reverse ++ state.latest }

/-- The number of the next line is put out. -/
def putNumber (state : State) : State :=
  let digits := Nat.toDigits 10 (state.line + 1)
  let text := List.replicate (6 - digits.length) ' ' ++ digits ++ ['\t']
  ({ state with line := state.line + 1 }).put (Raw.toBytes (String.ofList text))

/-- A byte behind a caret. -/
def caret (byte : UInt8) : Bytes := [0x5E, byte]

/-- A byte in a form that can be seen. -/
def visible (byte : UInt8) : Bytes :=
  if byte < 0x20 then caret (byte + 0x40)
  else if byte < 0x7F then [byte]
  else if byte = 0x7F then caret 0x3F
  else
    let low := byte - 0x80
    [0x4D, 0x2D] ++
      if low < 0x20 then caret (low + 0x40) else if low = 0x7F then caret 0x3F else [low]

/-- A newline ends a line. -/
def newline (manner : Manner) (state : State) : State :=
  let counted := { state with newlines := min 2 (state.newlines + 1) }
  if 2 ≤ counted.newlines && manner.squeezes then counted
  else
    let numbered :=
      if 0 < counted.newlines && manner.numbers && !manner.numbersNonblank then counted.putNumber
      else counted
    let ended :=
      if manner.showsEnds then
        { numbered with pendingReturn := false }.put
          ((if numbered.pendingReturn then caret 0x4D else []) ++ [0x24])
      else numbered
    ended.put [0x0A]

/-- A byte of a line. A carriage return waits until it is known whether it ends the line. -/
def byte (manner : Manner) (state : State) (byte : UInt8) : State :=
  let settled :=
    if state.pendingReturn then { state with pendingReturn := false }.put [0x0D] else state
  let started :=
    if 0 ≤ settled.newlines && manner.numbers then settled.putNumber else settled
  let inside := { started with newlines := -1 }
  if byte = 0x09 then inside.put (if manner.showsTabs then caret 0x49 else [byte])
  else if manner.showsNonprinting then inside.put (visible byte)
  else if byte = 0x0D && manner.showsEnds then { inside with pendingReturn := true }
  else inside.put [byte]

/-- A file is copied. -/
def copy (manner : Manner) (state : State) (content : Bytes) : State :=
  content.foldl (fun state next =>
    if next = 0x0A then state.newline manner else state.byte manner next) state

/-- What has been put out. -/
def output (state : State) : Bytes :=
  (if state.pendingReturn then 0x0D :: state.latest else state.latest).reverse

end State

/-- A file is also where the output goes, and there is something left to be copied. -/
def isOwnOutput (scene : Scene) (around : Surroundings) (source : Stream) : Bool :=
  match around.descriptors.lookup 1 |>.bind scene.stream? with
  | some target =>
      match source.outlet, target.outlet with
      | .file names, .file others =>
          names = others && source.place < (scene.fileContent names).length
      | .channel channel, .channel other | .channel channel, .spool other =>
          channel = other && (scene.spool channel).place < (scene.spool channel).content.length
      | .spool channel, .channel other | .spool channel, .spool other =>
          channel = other && source.place < (scene.spool channel).content.length
      | _, _ => false
  | none => false

/-- The stream of one operand; a dash is the input. -/
def source (around : Surroundings) (path : String) (scene : Scene) :
    Except Errno (Nat × Scene) :=
  if path = "-" then
    match around.descriptors.lookup 0 with
    | some id => .ok (id, scene)
    | none => .error .badDescriptor
  else scene.openToRead around.descriptors around.directory path

/-- Operands are copied to the output. -/
def copyAll (name : String) (manner : Manner) (around : Surroundings) (state : State) :
    List String → Work State
  | [] => return state
  | path :: rest => do
      let refuse (text : String) : Work State := do
        around.complain name (shellShownBeforeColon path ++ ": " ++ text)
        copyAll name manner around { state with well := false } rest
      let scene ← get
      match source around path scene with
      | .error errno => refuse (libraryText errno.number)
      | .ok (id, opened) =>
          set opened
          if (opened.stream? id).any (isOwnOutput opened around) then
            refuse "input file is output file"
          else
            let (content, after) := opened.readAll id
            set after
            match content with
            | .error errno => refuse (libraryText errno.number)
            | .ok content =>
                let copied := state.copy manner content
                let direct := manner.isPlain && (opened.stream? id).any Stream.isFile
                -- What was copied reaches the output before the next file is opened.
                match ← around.write 1 copied.latest.reverse with
                | none =>
                    if direct && around.isAtLimit (← get) then
                      around.exceed
                      refuse (libraryText Errno.fileTooLarge.number)
                    else copyAll name manner around { copied with latest := [] } rest
                | some errno =>
                    if direct && errno = .fileTooLarge then refuse (libraryText errno.number)
                    else
                      around.complain name ("write error: " ++ libraryText errno.number)
                      return { well := false, broken := true }

/-- An input that was to be read is closed at the end, which fails if there is none. -/
def closeInput (name : String) (around : Surroundings) (operands : List String) (state : State) :
    Work State := do
  if operands.contains "-" && !state.broken && (around.descriptors.lookup 0).isNone then
    around.complain name ("closing standard input: " ++ libraryText Errno.badDescriptor.number)
    return { state with well := false }
  else return state

/-- Files, or the input, are copied to the output. -/
def run (name : String) (around : Surroundings) (arguments : List String) : Work Nat := do
  match table.read arguments with
  | .error ended => around.stop .cat name ended
  | .ok (letters, operands) =>
      if (around.descriptors.lookup 1).isNone then
        around.complain name ("standard output: " ++ libraryText Errno.badDescriptor.number)
        return 1
      else
        let operands := if operands.isEmpty then ["-"] else operands
        let copied ← copyAll name (Manner.ofLetters letters) around {} operands
        let state ← closeInput name around operands copied
        around.finish name (if state.well then 0 else 1) { output := state.output }

end PromptShell.Host.Cat
