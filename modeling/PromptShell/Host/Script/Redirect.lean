import PromptShell.Host.Script.Expand
namespace PromptShell.Host.Script

/-- A redirection whose words have been expanded. -/
inductive Opened where
  | file (descriptor : Nat) (access : Access) (path : String)
  | copy (descriptor : Nat) (source : Option Nat)
  | document (descriptor number : Nat)
  deriving Repr, DecidableEq

/-- The stream that a redirection changes. -/
def Redirection.descriptor : Redirection → Nat
  | .file descriptor _ _ | .copy descriptor _ | .document descriptor _ => descriptor

/-- The stream that an expanded redirection changes. -/
def Opened.descriptor : Opened → Nat
  | .file descriptor _ _ | .copy descriptor _ | .document descriptor _ => descriptor

/-- What an error means for a file that was to be opened or made. -/
def openFaultText (creates : Bool) (errno : Errno) : String :=
  if errno = .noEntry || errno = .notDirectory then
    if creates then "Directory nonexistent" else "No such file"
  else libraryText errno.number

namespace Run

/-- A fault is taken as an outcome. It tells whether the part ran without one. -/
def recovered (part : Run Unit) : Run Bool := do
  let lines := (← get).lines
  let nesting := (← get).nesting
  try
    part
    return true
  catch halt =>
    match halt with
    | .failed => do
        modify fun shell => { shell with lines, nesting }
        return false
    | other => throw other

/-- A number of a stream is flawed. That is told in the line that is being read, since it is a flaw
of the text. -/
def flawedNumber {Value : Type} : Run Value := do
  modify fun shell => { shell with line := shell.lines.headD shell.line }
  fail "Syntax error: Bad fd number"

/-- The words of a redirection are expanded. -/
def prepare (engine : Engine) : Redirection → Run Opened
  | .file descriptor access name => return .file descriptor access (← expandText engine name)
  | .document descriptor number => return .document descriptor number
  | .copy descriptor source => do
      let text ← expandText engine source
      match text.toList with
      | ['-'] => return .copy descriptor none
      | [digit] =>
          if digit.isDigit then return .copy descriptor (some (digit.toNat - '0'.toNat))
          else flawedNumber
      | _ => flawedNumber

/-- A file could not be opened. -/
def openFault {Value : Type} (creates : Bool) (path : String) (errno : Errno) : Run Value :=
  fail ("cannot " ++ (if creates then "create " else "open ") ++ path ++ ": " ++
    openFaultText creates errno)

/-- What a redirection changes: a stream, which may have to be put aside first. -/
structure Change where
  descriptor : Nat
  putsAside : Bool

/-- A stream that is open is put aside if it has to be. If that fails it is closed, and so it is
when another one is copied to its place. -/
def Change.putAside (change : Change) : Run Unit := do
  if change.putsAside && ((← get).descriptors.lookup change.descriptor).isSome then
    disconnect change.descriptor
    Run.putAside change.descriptor

/-- A stream that was opened under the lowest free number takes the place of another one, if that
has a number that it may have. -/
def Change.connectOpened (change : Change) (id : Nat) : Run Unit := do
  let shell ← get
  match shell.descriptors.free 1 with
  | [number] => do
      if number ≠ change.descriptor then
        connect number id
        change.putAside
        disconnect number
      if change.descriptor < shell.allowance.openFiles then connect change.descriptor id
  | _ => pure ()

/-- A stream of the script leads to a file from now on. -/
def connectFile (change : Change) (creates : Bool) (path : String)
    (openIn : Scene → Descriptors → Directory → Except Errno (Nat × Scene)) : Run Unit := do
  let shell ← get
  if !shell.around.hasRoom 1 then openFault creates path .tooManyOpen
  else match openIn shell.scene shell.descriptors shell.directory with
    | .error errno => openFault creates path errno
    | .ok (id, scene) => do
        set { shell with scene }
        change.connectOpened id

/-- A file is opened that must not be emptied if it is there. A link that leads nowhere is something
that is there, too. -/
def openFresh (change : Change) (path : String) : Run Unit := do
  let shell ← get
  let top := shell.tree
  match shell.scene.sight? shell.descriptors shell.directory path with
  | none =>
      let entry := (resolveEntry top shell.directory path).toOption.bind fun entry =>
        (entriesAt? top entry.1).bind fun entries => entries.lookup entry.2
      if entry.isSome && path.toList.getLast? ≠ some '/' then openFault true path .fileThere
      else connectFile change true path fun scene known directory =>
        scene.openToWrite known directory path false true false
  | some (.node (.file _)) | some (.node (.tool _)) => openFault true path .fileThere
  | some _ =>
      connectFile change false path fun scene known directory =>
        scene.openToWrite known directory path false false false

/-- A redirection takes effect. One that puts a stream aside does so before another one is copied to
its place, so that nobody hears of a fault in copying the error stream. -/
def openOne (engine : Engine) (putsAside : Bool) (opened : Opened) : Run Unit := do
  let change : Change := ⟨opened.descriptor, putsAside⟩
  match opened with
  | .file _ access path =>
      match access with
      | .read =>
          connectFile change false path fun scene known directory =>
            scene.openToRead known directory path
      | .readWrite =>
          connectFile change true path fun scene known directory =>
            scene.openToWrite known directory path true false false
      | .append =>
          connectFile change true path fun scene known directory =>
            scene.openToWrite known directory path false false true
      | .overwrite => empty change path
      | .write => do
          if (← get).has 'C' then openFresh change path else empty change path
  | .copy descriptor none => do
      change.putAside
      disconnect descriptor
  | .copy descriptor (some source) => do
      if source ≠ descriptor then
        let shell ← get
        change.putAside
        let fits := descriptor < shell.allowance.openFiles
        match if fits then shell.descriptors.lookup source else none with
        | some id => connect descriptor id
        | none => fail (toString source ++ ": " ++ libraryText Errno.badDescriptor.number)
  | .document _ number => do
      let word := ((← get).documents.lookup number).getD []
      requirePipe 2
      let pipe ← openPipe none
      let numbers := (← get).descriptors.free 2
      for (number, stream) in numbers.zip [pipe.output, pipe.entrance] do
        connect number stream
      let text ← expandDocument engine word
      let _ ← writeBytes pipe.entrance (Raw.toBytes text)
      numbers.forM disconnect
      change.connectOpened pipe.output
where
  empty (change : Change) (path : String) : Run Unit :=
    connectFile change true path fun scene known directory =>
      scene.openToWrite known directory path false true false

/-- The streams stay open behind redirections that will be taken back. -/
def holdOpen (changes : List Redirection) : Run Unit := do
  if !changes.isEmpty then
    modify fun shell => { shell with heldOpen := shell.around.openStreams }

/-- The script remembers that a stream is closed, or that it is not. -/
def noteShut (descriptor : Nat) (shut : Bool) : Run Unit :=
  modify fun shell =>
    let others := shell.shut.filter fun other => other ≠ descriptor
    { shell with shut := if shut then descriptor :: others else others }

/-- Streams get back what they led to in an earlier state. One that the script took for closed is
closed, and one that could not be put aside stays closed. -/
def restore (saved : Shell) (changes : List Redirection) : Run Unit := do
  modify fun shell => { shell with heldOpen := saved.heldOpen, aside := saved.aside }
  for change in changes do
    let before := saved.descriptors.lookup change.descriptor
    if (← get).lost.contains change.descriptor then
      modify fun shell => { shell with
        lost := shell.lost.filter fun number => number ≠ change.descriptor }
    else if before ≠ (← get).descriptors.lookup change.descriptor then
      match before, saved.shut.contains change.descriptor with
      | some id, false => do
          connect change.descriptor id
          noteShut change.descriptor false
      | _, _ => do
          disconnect change.descriptor
          noteShut change.descriptor true

/-- A part runs with streams that were changed for a while. If it ends the script, they are given
back on the way out; what takes the place of the script keeps them. -/
def givingBack {Value : Type} (saved : Shell) (changes : List Redirection) (part : Run Value) :
    Run Value :=
  tryCatch part fun halt => do
    match halt with
    | .killed _ | .replaced _ => throw halt
    | _ => do
        restore saved changes
        throw halt

/-- Redirections take effect, which may be meant for a while only. The first one of a stream puts
the stream aside then. -/
def openAll (engine : Engine) (forWhile : Bool) (aside : List Nat) : List Opened → Run Unit
  | [] => return
  | opened :: rest => do
      openOne engine (forWhile && !aside.contains opened.descriptor) opened
      if forWhile then noteShut opened.descriptor (opened matches .copy _ none)
      openAll engine forWhile (opened.descriptor :: aside) rest

/-- The words of redirections are expanded, and the way to let them take effect is given back, which
tells whether they did. They may be meant for a while only. -/
def preparedChanges (engine : Engine) (forWhile : Bool) (changes : List Redirection) :
    Run (Run Bool) := do
  let opened ← changes.mapM (prepare engine)
  return recovered (openAll engine forWhile [] opened)

end Run
end PromptShell.Host.Script
