import PromptShell.Host.Tree
namespace PromptShell.Host

/-- The links that one walk may follow. -/
def linkLimit : Nat := 40

/-- The bytes that one name may have. -/
def nameLimit : Nat := 255

/-- A path with its end mark must fit into this many bytes. -/
def pathLimit : Nat := 4096

/-- A text cut at every place where a character stands. -/
def cutAt (mark : Char) (text : String) : List String :=
  (text.toList.splitOn mark).map String.ofList

/-- An absolute path starts at the top. -/
def isAbsolute (path : String) : Bool := path.toList.head? = some '/'

/-- The names of a path. A slash at the end asks for a directory, as one more dot does. -/
def pathNames (path : String) : List String :=
  let names := (cutAt '/' path).filter fun name => !name.isEmpty
  if names.isEmpty || path.toList.getLast? ≠ some '/' then names else names ++ ["."]

/-- What is at the end of a path: something, a directory that is gone but still worked in, or
nothing where something may be made. -/
inductive Spot where
  | there (node : Node)
  | gone
  | absent

/-- What can be seen at a spot. A directory that is gone is empty. -/
def Spot.node? : Spot → Option Node
  | .there node => some node
  | .gone => some .vacant
  | .absent => none

/-- The end of a path: its place in the tree and what is there. -/
structure Arrival where
  names : List String
  spot : Spot

/-- The entries of the directory at a place, unless it is gone. -/
def entriesAt? (top : Node) (names : List String) : Option (List (String × Node)) :=
  (top.get? names).bind Node.entries?

/-- The directory at a place. Where there is none any more, it is gone. -/
def directorySpot (top : Node) (names : List String) : Spot :=
  match entriesAt? top names with
  | some entries => .there (.directory entries)
  | none => .gone

/-- The walk goes on from a directory, whose names are held with the nearest one first. A directory
that is gone still knows what is above it. If the walk may make the last name, that one need not be
there. -/
def walk (top : Node) (makes : Bool) (links : Nat) (place : List String) : List String →
    Except Errno Arrival
  | [] => .ok ⟨place.reverse, directorySpot top place.reverse⟩
  | name :: rest =>
      if name = "." then walk top makes links place rest
      else if name = ".." then walk top makes links place.tail rest
      else match entriesAt? top place.reverse with
        | none => .error .noEntry
        | some entries =>
            if nameLimit < name.length then .error .nameTooLong
            else match entries.lookup name with
              | none =>
                  if makes && rest.isEmpty then .ok ⟨(name :: place).reverse, .absent⟩
                  else .error .noEntry
              | some (.link target) =>
                  match links with
                  | 0 => .error .tooManyLinks
                  | left + 1 =>
                      walk top makes left (if isAbsolute target then [] else place)
                        (pathNames target ++ rest)
              | some (.directory _) => walk top makes links (name :: place) rest
              | some node =>
                  if rest.isEmpty then .ok ⟨(name :: place).reverse, .there node⟩
                  else .error .notDirectory
termination_by names => (links, names.length)

/-- The place that a path leads to from a directory, all links followed; it need not be there if it
may be made. -/
def resolvePlace (top : Node) (makes : Bool) (directory : Directory) (path : String) :
    Except Errno Arrival :=
  if path.isEmpty then .error .noEntry
  else if pathLimit ≤ path.length then .error .nameTooLong
  else
    let start := if isAbsolute path then [] else directory.names.reverse
    walk top makes linkLimit start (pathNames path)

/-- The place that a path leads to. -/
def resolve (top : Node) (directory : Directory) (path : String) : Except Errno Arrival :=
  resolvePlace top false directory path

/-- The place that a path leads to or where it would make a file. -/
def resolveNew (top : Node) (directory : Directory) (path : String) : Except Errno Arrival :=
  resolvePlace top true directory path

/-- What can be seen at the end of a path. -/
def nodeAt? (top : Node) (directory : Directory) (path : String) : Option Node :=
  (resolve top directory path).toOption.bind fun arrival => arrival.spot.node?

/-- A directory is still in the tree. -/
def isKept (top : Node) (directory : Directory) : Bool := (entriesAt? top directory.names).isSome

/-- The directory at the end of a walk. One that is gone can still be named from inside. -/
def Arrival.directory (arrival : Arrival) : Except Errno Directory :=
  match arrival.spot with
  | .gone | .there (.directory _) => .ok ⟨arrival.names⟩
  | _ => .error .notDirectory

/-- The directory that a path leads to. -/
def resolveDirectory (top : Node) (directory : Directory) (path : String) :
    Except Errno Directory := do
  (← resolve top directory path).directory

/-- The place of the entry that the last name of a path names, which is not followed. -/
def resolveEntry (top : Node) (directory : Directory) (path : String) :
    Except Errno (List String × String) := do
  let names := (cutAt '/' path).filter fun name => !name.isEmpty
  match names.getLast? with
  | none => .error (if path.isEmpty then .noEntry else .busy)
  | some name =>
      let start := if isAbsolute path then [] else directory.names.reverse
      if pathLimit ≤ path.length then .error .nameTooLong
      else
        let place ← (← walk top false linkLimit start names.dropLast).directory
        .ok (place.names, name)

end PromptShell.Host
