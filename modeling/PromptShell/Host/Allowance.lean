namespace PromptShell.Host

/-- All permissions. -/
def allPermissions : Nat := 511

/-- The permissions for everybody that letters stand for, where `u`, `g` and `o` stand for those
that one group has already, and `X` for running what somebody may run already. -/
def permissionsOf (start : Nat) (letters : List Char) : Nat :=
  letters.foldl (fun bits letter => bits ||| bitsOf letter) 0
where
  bitsOf (letter : Char) : Nat :=
    match letter with
    | 'r' => 4
    | 'w' => 2
    | 'x' => 1
    | 'u' => start / 64 % 8
    | 'g' => start / 8 % 8
    | 'o' => start % 8
    | 'X' => if start &&& 73 = 0 then 0 else 1
    | _ => 0

/-- The groups that letters stand for, as a number with the lowest permission of each of them. -/
def groupsOf (letters : List Char) : Nat :=
  letters.foldl (fun groups letter => groups ||| placeOf letter) 0
where
  placeOf (letter : Char) : Nat :=
    match letter with
    | 'u' => 64
    | 'g' => 8
    | 'o' => 1
    | 'a' => 73
    | _ => 0

/-- Permissions after changes that a text spells, such as `u=rwx,g-w+x`. Letters for groups hold up
to the next comma; without any of them a change is for all. The bound is the length of the text. -/
def changePermissions (start bound allowed groups : Nat) (text : List Char) : Option Nat :=
  match bound, text with
  | _, [] => some allowed
  | 0, _ => none
  | bound + 1, _ =>
      let who := text.takeWhile ['a', 'u', 'g', 'o'].contains
      let named := groups ||| groupsOf who
      let groups := if named = 0 then 73 else named
      match text.drop who.length with
      | [] => some allowed
      | sign :: rest =>
          let letters := rest.takeWhile ['r', 'w', 'x', 'u', 'g', 'o', 'X', 's'].contains
          let bits := permissionsOf start letters * groups
          let changed? := match sign with
            | '=' => some (bits ||| (allowed &&& (allPermissions - groups * 7)))
            | '+' => some (allowed ||| bits)
            | '-' => some (allowed &&& (allPermissions - bits))
            | _ => none
          changed?.bind fun changed =>
            match rest.drop letters.length with
            | [] => some changed
            | ',' :: behind => changePermissions start bound changed 0 behind
            | next :: behind =>
                if ['=', '+', '-'].contains next then
                  changePermissions start bound changed groups (next :: behind)
                else none

/-- A limit on what a program uses: what it is called, its unit, and its value, which may be raised
up to a second value. -/
structure Limit where
  letter : Char
  name : String
  unit : Nat := 1
  soft : Nat
  hard : Nat
  deriving Repr

namespace Limit

/-- The value of a limit that limits nothing. -/
def endless : Nat := Nat.pow 2 64 - 1

/-- The limits that every program starts with. -/
def first : List Limit := [
  ⟨'t', "time(seconds)", 1, endless, endless⟩,
  ⟨'f', "file(blocks)", 512, endless, endless⟩,
  ⟨'d', "data(kbytes)", 1024, endless, endless⟩,
  ⟨'s', "stack(kbytes)", 1024, 8 * 1024 * 1024, endless⟩,
  ⟨'c', "coredump(blocks)", 512, 0, endless⟩,
  ⟨'m', "memory(kbytes)", 1024, endless, endless⟩,
  ⟨'l', "locked memory(kbytes)", 1024, 8 * 1024 * 1024, 8 * 1024 * 1024⟩,
  ⟨'p', "process", 1, 128604, 128604⟩,
  ⟨'n', "nofiles", 1, 20000, 20000⟩,
  ⟨'v', "vmemory(kbytes)", 1024, endless, endless⟩,
  ⟨'w', "locks", 1, endless, endless⟩,
  ⟨'r', "rtprio", 1, 0, 0⟩]

/-- A value in the unit of a limit. -/
def shown (limit : Limit) (value : Nat) : String :=
  if value = endless then "unlimited" else toString (value / limit.unit)

/-- A value that a text spells in the unit of a limit. -/
def value? (limit : Limit) (text : String) : Option Nat :=
  if text = "unlimited" then some endless
  else if text.toList.all Char.isDigit then
    let digits := text.toList.map fun digit => digit.toNat - '0'.toNat
    some ((digits.foldl (fun value digit => 10 * value + digit) 0) * limit.unit % Nat.pow 2 64)
  else none

end Limit

/-- What a program may do. -/
structure Allowance where
  mask : Nat := 18
  limits : List Limit := Limit.first
  deriving Repr

namespace Allowance

/-- A limit by its letter. -/
def limit? (allowance : Allowance) (letter : Char) : Option Limit :=
  allowance.limits.find? fun limit => limit.letter = letter

/-- The value of a limit, unless it limits nothing. -/
def bound? (allowance : Allowance) (letter : Char) : Option Nat := do
  let limit ← allowance.limit? letter
  guard (limit.soft ≠ Limit.endless)
  some limit.soft

/-- The size to which files can be written. -/
def fileSize? (allowance : Allowance) : Option Nat := allowance.bound? 'f'

/-- The numbers that streams can have are below this one. -/
def openFiles (allowance : Allowance) : Nat := (allowance.bound? 'n').getD Limit.endless

/-- A limit is replaced. -/
def setLimit (allowance : Allowance) (limit : Limit) : Allowance :=
  { allowance with
    limits := allowance.limits.map fun other =>
      if other.letter = limit.letter then limit else other }

end Allowance
end PromptShell.Host
