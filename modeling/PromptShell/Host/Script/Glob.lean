import PromptShell.Host.Walk
namespace PromptShell.Host.Script

/-- The classes of characters that a pattern may name. -/
def characterClasses : List (String × (Char → Bool)) := [
  ("alnum", Char.isAlphanum),
  ("cntrl", fun character => character < ' ' || character = '\x7f'),
  ("lower", Char.isLower),
  ("space", fun character => [' ', '\t', '\n', '\x0b', '\x0c', '\r'].contains character),
  ("alpha", Char.isAlpha),
  ("digit", Char.isDigit),
  ("print", fun character => ' ' ≤ character && character < '\x7f'),
  ("upper", Char.isUpper),
  ("blank", fun character => character = ' ' || character = '\t'),
  ("graph", fun character => ' ' < character && character < '\x7f'),
  ("punct", fun character =>
    ' ' < character && character < '\x7f' && !character.isAlphanum),
  ("xdigit", fun character => character.isDigit || ('a' ≤ character && character ≤ 'f') ||
    ('A' ≤ character && character ≤ 'F'))]

/-- The class that is named behind an opening bracket, and the rest. -/
def classAt? (pattern : List Char) : Option ((Char → Bool) × List Char) :=
  characterClasses.findSome? fun entry =>
    let name := ':' :: entry.1.toList ++ [':', ']']
    if name.isPrefixOf pattern then some (entry.2, pattern.drop name.length) else none

/-- The order of bytes in ranges, in which those beyond ASCII come first. -/
def rangeOrder (character : Char) : Int :=
  if character.toNat < 128 then character.toNat else (character.toNat : Int) - 256

/-- One member of a bracket expression: whether it holds the character, and the rest. -/
def bracketMember (character : Char) : List Char → Bool × List Char
  | [] => (false, [])
  | '[' :: rest =>
      match classAt? rest with
      | some (test, behind) => (test character, behind)
      | none => single '[' rest
  | '\\' :: first :: rest => single first rest
  | first :: rest => single first rest
where
  single (first : Char) (rest : List Char) : Bool × List Char :=
    let within (last : Char) : Bool :=
      rangeOrder first ≤ rangeOrder character && rangeOrder character ≤ rangeOrder last
    match rest with
    | '-' :: ']' :: _ => (first = character, rest)
    | '-' :: '\\' :: last :: behind => (within last, behind)
    | '-' :: last :: behind => (within last, behind)
    | _ => (first = character, rest)

/-- The members of a bracket expression up to its end, if it has one; the bound is their length. A
closing bracket that comes first is a member. -/
def bracketMembers (character : Char) (bound : Nat) (found : Bool) (pattern : List Char) :
    Option (Bool × List Char) :=
  match bound, pattern with
  | 0, _ | _, [] => none
  | bound + 1, _ =>
      let (holds, rest) := bracketMember character pattern
      match rest with
      | ']' :: behind => some (found || holds, behind)
      | _ => bracketMembers character bound (found || holds) rest

/-- A bracket expression behind its opening bracket: whether the character belongs to it, and the
rest of the pattern. -/
def bracket? (character : Char) (pattern : List Char) : Option (Bool × List Char) :=
  let (inverted, members) := match pattern with
    | '!' :: members => (true, members)
    | members => (false, members)
  (bracketMembers character (members.length + 1) false members).map fun (found, rest) =>
    (found ≠ inverted, rest)

/-- A pattern matches the whole of a text. -/
def matchesPattern (pattern text : List Char) : Bool :=
  match pattern, text with
  | [], _ => text.isEmpty
  | '*' :: rest, [] => matchesPattern rest []
  | '*' :: rest, character :: others =>
      matchesPattern rest (character :: others) || matchesPattern ('*' :: rest) others
  | _, [] => false
  | '?' :: rest, _ :: others => matchesPattern rest others
  | '\\' :: guarded :: rest, character :: others =>
      guarded = character && matchesPattern rest others
  | '[' :: rest, character :: others =>
      match bracket? character rest with
      | some (belongs, behind) =>
          if behind.length ≤ rest.length then belongs && matchesPattern behind others else false
      | none => character = '[' && matchesPattern rest others
  | first :: rest, character :: others => first = character && matchesPattern rest others
termination_by pattern.length + text.length

/-- A pattern without the backslashes that guard characters. -/
def withoutGuards : List Char → List Char
  | '\\' :: guarded :: rest => guarded :: withoutGuards rest
  | character :: rest => character :: withoutGuards rest
  | [] => []

/-- An opening bracket is closed before the next slash. -/
def isBracketClosed : List Char → Bool
  | [] => false
  | '\\' :: _ :: rest => closedFrom rest
  | '/' :: _ => false
  | _ :: rest => closedFrom rest
where
  closedFrom : List Char → Bool
    | ']' :: _ => true
    | '\\' :: _ :: rest => closedFrom rest
    | [] | '/' :: _ => false
    | _ :: rest => closedFrom rest

/-- A part of a pattern without slashes can match more than one text. -/
def isOpenPattern : List Char → Bool
  | [] => false
  | '*' :: _ | '?' :: _ => true
  | '[' :: rest =>
      let members := match rest with
        | '!' :: members => members
        | members => members
      isBracketClosed members || isOpenPattern rest
  | '\\' :: _ :: rest => isOpenPattern rest
  | _ :: rest => isOpenPattern rest

/-- The parts of a pattern between its slashes; a slash may be guarded. -/
def patternParts (part : List Char) : List Char → List (List Char)
  | [] => [part.reverse]
  | '\\' :: '/' :: rest | '/' :: rest => part.reverse :: patternParts [] rest
  | '\\' :: guarded :: rest => patternParts (guarded :: '\\' :: part) rest
  | character :: rest => patternParts (character :: part) rest

/-- The lowest number that is not among some names. A directory that is being read takes it. -/
def freeNumber (names : List String) : String :=
  let numbers := (List.range (names.length + 1)).map toString
  (numbers.find? fun number => !names.contains number).getD ""

/-- The names in a directory that a part of a pattern matches. Names with a dot in front have to be
asked for by a dot. -/
def namesMatching (top : Node) (directory : Directory) (path : String) (part : List Char) :
    List String :=
  let place := if path.isEmpty then "." else path
  let listed := do
    let arrival ← (resolve top directory place).toOption
    let entries ← entriesAt? top arrival.names
    let names := entries.map Prod.fst
    some (if arrival.names = ownPlace then names ++ [freeNumber names] else names)
  match listed with
  | none => []
  | some names =>
      let dotted := (withoutGuards (part.take 2)).head? = some '.'
      let all := if dotted then "." :: ".." :: names else names
      all.filter fun name =>
        (dotted || name.toList.head? ≠ some '.') && matchesPattern part name.toList

/-- There is something at the end of a path, be it a link that leads nowhere. -/
def isThere (top : Node) (directory : Directory) (path : String) : Bool :=
  match resolveEntry top directory path with
  | .error _ => (nodeAt? top directory path).isSome
  | .ok (place, name) =>
      let ended := path.toList.getLast? = some '/' || name = "." || name = ".."
      if ended then (nodeAt? top directory path).isSome
      else (entriesAt? top place).any fun entries => (entries.lookup name).isSome

/-- The paths that begin with a given one and whose rest matches the parts of a pattern. -/
def pathsFrom (top : Node) (directory : Directory) (path : String) :
    List (List Char) → List String
  | [] => []
  | [part] =>
      if isOpenPattern part then (namesMatching top directory path part).map (path ++ ·)
      else
        let whole := path ++ String.ofList (withoutGuards part)
        if isThere top directory whole then [whole] else []
  | part :: rest =>
      if isOpenPattern part then
        (namesMatching top directory path part).flatMap fun name =>
          pathsFrom top directory (path ++ name ++ "/") rest
      else pathsFrom top directory (path ++ String.ofList (withoutGuards part) ++ "/") rest

/-- The paths that match a pattern, in the order of their bytes. -/
def pathsMatching (top : Node) (directory : Directory) (pattern : List Char) : List String :=
  let parts := patternParts [] pattern
  if parts.any isOpenPattern then
    (pathsFrom top directory "" parts).mergeSort fun first second => first ≤ second
  else []

end PromptShell.Host.Script
