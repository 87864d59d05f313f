import PromptShell.Host.Format
import PromptShell.Host.Help
namespace PromptShell.Host.Head

/-- What is shown of a file: the first parts, or all but the last ones, where a part is a byte or a
line, which has an ending; and whether a title stands above it. -/
structure Manner where
  count : Nat := 10
  bytes : Bool := false
  ending : UInt8 := 0x0A
  leavesOut : Bool := false
  titles : Option Bool := none

/-- The size of the blocks in which files are read. -/
def blockSize : Nat := 8192

/-- The parts of a content: lines with their endings, or bytes. -/
def parts (bytes : Bool) (ending : UInt8) : Bytes → List Bytes
  | [] => []
  | byte :: rest =>
      if bytes || byte = ending then [byte] :: parts bytes ending rest
      else match parts bytes ending rest with
        | [] => [[byte]]
        | line :: lines => (byte :: line) :: lines

/-- What is shown of a content. -/
def Manner.shown (manner : Manner) (content : Bytes) : Bytes :=
  let all := parts manner.bytes manner.ending content
  let count := if manner.leavesOut then all.length - manner.count else manner.count
  (all.take count).flatten

/-- The power of a thousand that a letter behind a count stands for. -/
def powers : List (Char × Nat) :=
  [('k', 1), ('K', 1), ('m', 2), ('M', 2), ('G', 3), ('T', 4), ('P', 5), ('E', 6), ('Z', 7),
    ('Y', 8)]

/-- How many times a count is meant that letters stand behind. -/
def times? : List Char → Option Nat
  | [] => some 1
  | ['b'] => some 512
  | letter :: rest => do
      let power ← powers.lookup letter
      match rest with
      | [] | ['i', 'B'] => some (Nat.pow 1024 power)
      | ['B'] | ['D'] => some (Nat.pow 1000 power)
      | _ => none

/-- The largest count. -/
def countLimit : Nat := Nat.pow 2 64 - 1

/-- A count in digits, behind which letters may stand. -/
def readCount (what : String) (text : List Char) : Except String Nat :=
  let trimmed := text.dropWhile isNumberGap
  let unsigned := if trimmed.head? = some '+' then trimmed.drop 1 else trimmed
  let refused := "invalid number of " ++ what ++ ": " ++ quoted (String.ofList text)
  let (number, letters) := match readDigits 10 unsigned with
    | some found => found
    | none => (if text.isEmpty then 0 else 1, text)
  match times? letters with
  | none => .error refused
  | some times =>
      if text.isEmpty then .error refused
      else if countLimit < number * times then
        .error (refused ++ ": " ++ libraryText Errno.tooLarge.number)
      else .ok (number * times)

/-- What parts are called. -/
def Manner.what (bytes : Bool) : String := if bytes then "bytes" else "lines"

/-- A count, which may have a minus sign. -/
def Manner.withCount (manner : Manner) (bytes : Bool) (text : String) : Except String Manner := do
  let leavesOut := text.toList.head? = some '-'
  let digits := if leavesOut then text.toList.drop 1 else text.toList
  let count ← readCount (Manner.what bytes) digits
  return { manner with count, bytes, leavesOut }

/-- The options and their words. -/
def table : OptionTable where
  letters := ['q', 'v', 'z'] ++ "0123456789".toList
  words := [("bytes", 'c'), ("lines", 'n'), ("-presume-input-pipe", 'p'), ("quiet", 'q'),
    ("silent", 'q'), ("verbose", 'v'), ("zero-terminated", 'z')]
  valued := ['c', 'n']

/-- Why nothing is shown: a count cannot be read, or the options end with something else. -/
inductive Refusal where
  | count (text : String)
  | options (ended : OptionsEnd)

/-- A letter stands where it may not. -/
def trailing (letter : Char) : Refusal :=
  .options (.flawed ("invalid trailing option -- " ++ String.singleton letter))

/-- One option takes effect. -/
def Manner.withOption (manner : Manner) (option : Char × String) : Except Refusal Manner :=
  match option.1 with
  | 'c' => (manner.withCount true option.2).mapError .count
  | 'n' => (manner.withCount false option.2).mapError .count
  | 'q' => .ok { manner with titles := some false }
  | 'v' => .ok { manner with titles := some true }
  | 'z' => .ok { manner with ending := 0 }
  | letter =>
      if letter.isDigit then .error (trailing letter)
      else .ok manner

/-- The letters behind a count that is the first argument. The second part is the letter that
belongs to the count. -/
def Manner.withLetters (manner : Manner) (times : List Char) :
    List Char → Except Refusal (Manner × List Char)
  | [] => .ok (manner, times)
  | letter :: rest =>
      match letter with
      | 'c' => { manner with bytes := true }.withLetters [] rest
      | 'b' | 'k' | 'm' => { manner with bytes := true }.withLetters [letter] rest
      | 'l' => { manner with bytes := false }.withLetters times rest
      | 'q' => { manner with titles := some false }.withLetters times rest
      | 'v' => { manner with titles := some true }.withLetters times rest
      | 'z' => { manner with ending := 0 }.withLetters times rest
      | _ => .error (trailing letter)

/-- The manner that the arguments ask for, and the operands. A count may be the first of them. -/
def read (arguments : List String) : Except Refusal (Manner × List String) := do
  let (manner, rest) ← match arguments with
    | first :: rest =>
        match first.toList with
        | '-' :: letters =>
            let digits := letters.takeWhile Char.isDigit
            if digits.isEmpty then pure ({}, arguments)
            else do
              let (manner, times) ← Manner.withLetters {} [] (letters.drop digits.length)
              let count ← (readCount (Manner.what manner.bytes) (digits ++ times)).mapError .count
              pure ({ manner with count }, rest)
        | _ => pure ({}, arguments)
    | [] => pure ({}, [])
  let found := table.readAll rest
  let manner ← found.options.foldlM Manner.withOption manner
  match found.ended with
  | some ended => .error (.options ended)
  | none => .ok (manner, found.operands)

/-- Nothing has to be read where nothing is shown. -/
def Manner.readsNothing (manner : Manner) : Bool := manner.count = 0 && !manner.leavesOut

/-- The number of bytes that are read to show a front. What is read too much can be given back,
except to a pipe, which is read in blocks. -/
def Manner.consumed (manner : Manner) (pipe : Bool) (content front : Bytes) : Nat :=
  if !pipe then front.length
  else if manner.leavesOut then content.length
  else if manner.bytes then front.length
  else min content.length ((front.length + blockSize - 1) / blockSize * blockSize)

/-- The front of one file is shown, with a title if there is to be one. It holds whether all went
well, whether the next title is the first one, and the output. -/
def showFile (name : String) (around : Surroundings) (manner : Manner) (titled first : Bool)
    (unsent : Unsent) (path : String) : Work (Bool × Bool × Unsent) := do
  let isInput := path = "-"
  let shown := if isInput then "standard input" else path
  let title := (if first then "" else "\n") ++ "==> " ++ shown ++ " <==\n"
  let scene ← get
  let told := if titled then unsent.put (Raw.toBytes title) else unsent
  let found : Except Errno (Nat × Scene) :=
    if isInput then .ok ((around.descriptors.lookup 0).getD scene.streams.size, scene)
    else scene.openToRead around.descriptors around.directory path
  match found with
  | .error errno => do
      let text := "cannot open " ++ shellQuoted path ++ " for reading: " ++ libraryText errno.number
      return (false, first, ← around.complainBehind name text unsent)
  | .ok (id, opened) =>
      set opened
      match if manner.readsNothing then .ok [] else opened.unread id with
      | .error errno => do
          let failed := if manner.leavesOut && errno = .badDescriptor then "cannot fstat "
            else "error reading "
          let text := failed ++ shellQuoted shown ++ ": " ++ libraryText errno.number
          return (false, false, ← around.complainBehind name text told)
      | .ok content => do
          let front := manner.shown content
          let pipe := (opened.stream? id).any fun stream => stream.outlet = .memory
          set (opened.advance id (manner.consumed pipe content front))
          return (true, false, told.put front)

/-- The fronts of files, one after the other. It holds whether no title has been put out yet,
whether all went well, and the output. -/
def showAll (name : String) (around : Surroundings) (manner : Manner) (titled first well : Bool)
    (unsent : Unsent) : List String → Work (Bool × Unsent)
  | [] => return (well, unsent)
  | path :: rest => do
      let (shown, first, unsent) ← showFile name around manner titled first unsent path
      showAll name around manner titled first (well && shown) unsent rest

/-- The fronts of files, or of the input, are shown. -/
def run (name : String) (around : Surroundings) (arguments : List String) : Work Nat := do
  match read arguments with
  | .error (.options ended) => around.stop .head name ended
  | .error (.count text) => do
      around.complain name text
      return 1
  | .ok (manner, operands) =>
      let paths := if operands.isEmpty then ["-"] else operands
      let titled := manner.titles.getD (1 < paths.length)
      let (well, unsent) ← showAll name around manner titled true true {} paths
      let unclosed := paths.contains "-" && (around.descriptors.lookup 0).isNone
      let unsent ←
        if unclosed then
          around.complainBehind name ("-: " ++ libraryText Errno.badDescriptor.number) unsent
        else pure unsent
      around.finish name (if well && !unclosed then 0 else 1) unsent

end PromptShell.Host.Head
