import PromptShell.Host.Script.Call.Flow
namespace PromptShell.Host.Script

/-- A text in quotes, as a script reads it back. Single quotes stand in double ones. -/
def inQuotes (text : String) : String :=
  let parts := (cutAt '\'' text).map fun part => part.toList
  String.ofList (joined parts)
where
  joined : List (List Char) → List Char
    | [] => ['\'', '\'']
    | first :: rest => '\'' :: first ++ ['\''] ++ behind 1 rest
  behind (quotes : Nat) : List (List Char) → List Char
    | [] => []
    | [] :: rest =>
        if rest.isEmpty then doubled quotes else behind (quotes + 1) rest
    | part :: rest => doubled quotes ++ '\'' :: part ++ ['\''] ++ behind 1 rest
  doubled (quotes : Nat) : List Char := '"' :: List.replicate quotes '\'' ++ ['"']

/-- A name is split from the value behind its equals sign. -/
def splitAssignment (text : String) : String × Option String :=
  let name := text.toList.takeWhile fun character => character ≠ '='
  (String.ofList name,
    if name.length < text.length then some (String.ofList (text.toList.drop (name.length + 1)))
    else none)

namespace Run

/-- Variables are listed in the order of their names. -/
def listVariables (start : String) (chosen : Binding → Bool) : Run Unit := do
  let bindings := ((← get).bindings.filter chosen).mergeSort fun first second =>
    first.name ≤ second.name
  for binding in bindings do
    let value := match binding.value with
      | some value => "=" ++ inQuotes value
      | none => ""
    print (start ++ binding.name ++ value ++ "\n")

/-- Variables are marked, and perhaps set. -/
def markVariables (exported constant : Bool) (arguments : List String) : Run Nat := do
  for text in arguments do
    let (name, value) := splitAssignment text
    match value, (← get).binding? name with
    | none, some binding =>
        modify fun shell => shell.put { binding with
          exported := binding.exported || exported, constant := binding.constant || constant }
    | _, _ => assign (← variableName text) value exported constant
  return 0

/-- Variables are handed to programs. -/
def exportVariables (arguments : List String) : Run Nat := do
  let operands := (← operandsUnless 'p' arguments).getD []
  if operands.isEmpty then
    listVariables "export " fun binding => binding.exported
    return 0
  else markVariables true false operands

/-- Variables are made constant. -/
def fixVariables (arguments : List String) : Run Nat := do
  let operands := (← operandsUnless 'p' arguments).getD []
  if operands.isEmpty then
    listVariables "readonly " fun binding => binding.constant
    return 0
  else markVariables false true operands

/-- Variables or functions are removed. -/
def removeNames (arguments : List String) : Run Nat := do
  let options ← options ['v', 'f'] [] arguments
  let functions := options.given.getLast?.any fun option => option.1 = 'f'
  for name in options.operands do
    if functions then
      modify fun shell => { shell with
        functions := shell.functions.filter fun entry => entry.1 ≠ name }
    else unset name
  return 0

/-- A variable will get its value back, and perhaps gets another one for now. With a value any text
is taken as a name, and is a fault only when the variable goes. -/
def hideAssigned (exported : Bool) (text : String) : Run Unit := do
  let (name, value) := splitAssignment text
  if value.isNone && ((← get).binding? name).isNone then
    let _ ← variableName name
  hide name
  match value, (← get).binding? name with
  | none, some _ => return
  | _, _ => assign name value exported

/-- Variables are hidden for the rest of a function. -/
def hideVariables (arguments : List String) : Run Nat := do
  if (← get).hidden.isEmpty then fail "not in a function"
  for text in arguments do
    if text = Shell.switchesName then hideSwitches else hideAssigned false text
  return 0

/-- A switch is turned on or off. -/
def turn (letter : Char) (on : Bool) : Run Unit :=
  modify fun shell =>
    let others := shell.options.filter fun other => other ≠ letter
    { shell with options := if on then letter :: others else others }

/-- The switches are listed, given those that are on. -/
def listSwitches (set : List Char) (on : Bool) : Run Unit := do
  if on then print "Current option settings\n"
  for switch in switches do
    let isOn := set.contains switch.2
    if on then
      let gap := String.ofList (List.replicate (16 - switch.1.length) ' ')
      print (switch.1 ++ gap ++ (if isOn then "on" else "off") ++ "\n")
    else print ("set " ++ (if isOn then "-o " else "+o ") ++ switch.1 ++ "\n")

/-- A switch is turned by its letter. Of the two ways to edit lines the letter of one turns the
other one off. -/
def turnLetter (letter : Char) (on : Bool) : Run Unit := do
  if switchLetters.contains letter then
    turn letter on
    if on && letter = 'V' then turn 'E' false
    if on && letter = 'E' then turn 'V' false
  else fail ("Illegal option -" ++ String.singleton letter)

/-- A switch is turned by its name. -/
def turnNamed (name : String) (on : Bool) : Run Unit :=
  match switches.lookup name with
  | some letter => turn letter on
  | none => fail ("Illegal option -o " ++ name)

/-- Switches are turned by a group of letters. One of the letters takes a name from the arguments
behind the group. -/
def turnLetters (on : Bool) : List Char → List String → Run (List String)
  | [], rest => return rest
  | 'o' :: letters, rest => do
      match rest with
      | [] => do
          listSwitches (← get).options on
          turnLetters on letters []
      | name :: rest => do turnNamed name on; turnLetters on letters rest
  | letter :: letters, rest => do
      turnLetter letter on
      turnLetters on letters rest

/-- The arguments of the script are replaced. -/
def setArguments (arguments : List String) : Run Unit :=
  modify fun shell => { shell with arguments, optionIndex := 1, optionOffset := none }

/-- Switches are turned and arguments set; the bound is the number of arguments. -/
def setFrom (bound : Nat) (arguments : List String) : Run Unit := do
  match bound, arguments with
  | 0, _ | _, [] => return
  | bound + 1, argument :: rest =>
      match argument.toList with
      | ['-'] => do
          turn 'x' false
          turn 'v' false
          if !rest.isEmpty then setArguments rest
      | ['-', '-'] => setArguments rest
      | '-' :: letters => setFrom bound (← turnLetters true letters rest)
      | '+' :: letters => setFrom bound (← turnLetters false letters rest)
      | _ => setArguments arguments

/-- Without a terminal nobody can watch over parts in the background. -/
def checkMonitor : Run Unit := do
  if (← get).has 'm' then
    warn "can't access tty; job control turned off"
    turn 'm' false

/-- Switches are turned and arguments set, or variables listed. -/
def setAll (arguments : List String) : Run Nat := do
  if arguments.isEmpty then listVariables "" fun binding => binding.value.isSome
  else
    setFrom arguments.length arguments
    checkMonitor
  return 0

/-- A line of the input, with what a backslash guards apart from the rest, whether the line has an
end, and the bytes behind it. -/
structure InputLine where
  chunks : List Chunk
  ended : Bool
  used : Nat

/-- The bytes up to the end of a line that is not guarded by a backslash; zeros do not count. The
latest are held first. -/
def lineBytes (raw guarded : Bool) (latest : Bytes) : Bytes → Bytes
  | [] => latest.reverse
  | byte :: rest =>
      if byte = 0x0A && !guarded then (byte :: latest).reverse
      else
        let guards := if byte = 0 then guarded else byte = 0x5C
        lineBytes raw (!raw && guards) (byte :: latest) rest

/-- A line is read from bytes. `open?` holds the items of the chunk that is being read, the latest
first. -/
def inputLine (raw : Bool) (used : Nat) (chunks : List Chunk) (items : List Item) :
    List Char → InputLine
  | [] => ⟨(closed items :: chunks).reverse, false, used⟩
  | '\n' :: _ => ⟨(closed items :: chunks).reverse, true, used + 1⟩
  | '\\' :: rest =>
      if raw then inputLine raw (used + 1) chunks (.character '\\' false :: items) rest
      else
        let zeros := rest.takeWhile fun character => character = '\x00'
        match _ : rest.drop zeros.length with
        | [] => ⟨(closed items :: chunks).reverse, false, used + 1 + zeros.length⟩
        | '\n' :: behind =>
            inputLine raw (used + 2 + zeros.length) (closed items :: chunks) [] behind
        | guarded :: behind =>
            inputLine raw (used + 2 + zeros.length)
              (⟨.never, [.character guarded true], false⟩ :: closed items :: chunks) [] behind
  | '\x00' :: rest => inputLine raw (used + 1) chunks items rest
  | character :: rest =>
      inputLine raw (used + 1) chunks (.character character false :: items) rest
termination_by text => text.length
decreasing_by
  all_goals first
    | (simp; done)
    | (have bound := List.length_drop (i := zeros.length) (l := rest)
       simp_all
       omega)
where
  closed (items : List Item) : Chunk := ⟨.separators, items.reverse, false⟩

/-- Variables get the fields of a line; those that are left get nothing. -/
def setFields : List String → List (List Item) → Run Unit
  | [], _ => return
  | name :: names, fields => do
      setVariable name (String.ofList (itemsText (fields.headD [])))
      setFields names fields.tail

/-- A line of the input is read into variables. -/
def readLine (arguments : List String) : Run Nat := do
  let options ← options ['r'] ['p'] arguments
  if options.operands.isEmpty then fail "arg count"
  else
    let shell ← get
    let id := shell.descriptors.lookup 0
    let bytes := (id.bind fun id => (shell.scene.unread id).toOption).getD []
    let raw := options.has 'r'
    let line := inputLine raw 0 [] [] (Raw.ofBytes (lineBytes raw false [] bytes)).toList
    set { shell with scene := match id with
      | some id => shell.scene.advance id line.used
      | none => shell.scene }
    let fields := cutFields shell.separators (some options.operands.length) line.chunks
    setFields options.operands fields
    return if line.ended then 0 else 1

/-- What is found where the next option may stand: the option, or the end of the options. -/
structure OptionFound where
  letter : Option (Char × List Char)
  index : Nat

/-- The letter that comes next among the arguments, what is left of its argument, and the number of
the argument behind. -/
def nextLetter (arguments : List String) (index : Nat) (offset : Option Nat) : OptionFound :=
  let left := match offset, arguments[index - 2]? with
    | some offset, some argument => if 1 < index then argument.toList.drop offset else []
    | _, _ => []
  match left with
  | letter :: rest => ⟨some (letter, rest), index⟩
  | [] =>
      match (arguments[index - 1]?).map String.toList with
      | some ['-', '-'] => ⟨none, index + 1⟩
      | some ('-' :: letter :: rest) => ⟨some (letter, rest), index + 1⟩
      | _ => ⟨none, index⟩

/-- A letter is an option, and whether it takes a value: a colon follows it then. -/
def takesValue? (letter : Char) : List Char → Option Bool
  | [] => none
  | first :: ':' :: rest => if first = letter then some true else takesValue? letter rest
  | first :: rest => if first = letter then some false else takesValue? letter rest

/-- The next option is taken. -/
def takeOption (known binding : String) (arguments : List String) : Run Nat := do
  let shell ← get
  let found := nextLetter arguments shell.optionIndex shell.optionOffset
  let quiet := known.toList.head? = some ':'
  let finish (letter : Char) (index : Nat) (rest : List Char) (status : Nat) : Run Nat := do
    let old := ((← get).binding? "OPTIND").getD { name := "OPTIND", value := none }
    if old.constant then fail "OPTIND: is read only"
    modify fun shell => shell.put { old with value := some (toString index) }
    setVariable binding (String.singleton letter)
    let offset := (arguments[index - 2]?).map fun argument => argument.length - rest.length
    modify fun shell => { shell with
      optionIndex := index
      optionOffset := if rest.isEmpty then none else offset }
    return status
  match found.letter with
  | none => finish '?' found.index [] 1
  | some (letter, rest) =>
      match takesValue? letter known.toList with
      | none => do
          if quiet then setVariable "OPTARG" (String.singleton letter)
          else do
            tell ("Illegal option -" ++ String.singleton letter ++ "\n")
            unset "OPTARG"
          finish '?' found.index rest 0
      | some false => do
          setVariable "OPTARG" ""
          finish letter found.index rest 0
      | some true =>
          match rest, arguments[found.index - 1]? with
          | _ :: _, _ => do
              setVariable "OPTARG" (String.ofList rest)
              finish letter found.index [] 0
          | [], some value => do
              setVariable "OPTARG" value
              finish letter (found.index + 1) [] 0
          | [], none => do
              if quiet then
                setVariable "OPTARG" (String.singleton letter)
                finish ':' found.index [] 0
              else do
                tell ("No arg for -" ++ String.singleton letter ++ " option\n")
                unset "OPTARG"
                finish '?' found.index [] 0

/-- Options are taken from the arguments of the script, or from those of the call. -/
def takeOptions (arguments : List String) : Run Nat := do
  match arguments with
  | known :: binding :: given => do
      let shell ← get
      let chosen := if given.isEmpty then shell.arguments else given
      if chosen.length + 1 < shell.optionIndex then
        set { shell with optionIndex := 1, optionOffset := none }
      takeOption known binding chosen
  | _ => fail "Usage: getopts optstring var [arg...]"

end Run
end PromptShell.Host.Script
