namespace PromptShell.Host

/-- The options that a program knows: letters, some of which have a value, and words for letters in
the order in which they are offered. -/
structure OptionTable where
  letters : List Char
  words : List (String × Char) := []
  valued : List Char := []

/-- What ends the reading of options: something that cannot be read, or the wish to be told about
the program. -/
inductive OptionsEnd where
  | flawed (text : String)
  | help
  | version
  deriving Repr, DecidableEq

/-- What was read of arguments: the options in front of what ends the reading, with their values,
and the operands. -/
structure OptionsRead where
  options : List (Char × String) := []
  operands : List String := []
  ended : Option OptionsEnd := none
  deriving Repr

namespace OptionsRead

/-- Options stand in front of others. -/
def behind (first : List (Char × String)) (others : OptionsRead) : OptionsRead :=
  { others with options := first ++ others.options }

/-- An operand stands in front of others. -/
def behindOperand (operand : String) (others : OptionsRead) : OptionsRead :=
  { others with operands := operand :: others.operands }

end OptionsRead

namespace OptionTable

/-- The words that all programs know, with a letter that no program has. -/
def commonWords : List (String × Char) := [("help", '\x00'), ("version", '\x01')]

/-- The entry of a word, and the value that stands behind it. -/
def readWord (table : OptionTable) (text : String) :
    Except String ((String × Char) × Option String) :=
  let word := String.ofList (text.toList.takeWhile fun character => character ≠ '=')
  let known := table.words ++ commonWords
  let use (entry : String × Char) : Except String ((String × Char) × Option String) :=
    if word.length < text.length then
      if table.valued.contains entry.2 then
        .ok (entry, some (String.ofList (text.toList.drop (word.length + 1))))
      else .error ("option '--" ++ entry.1 ++ "' doesn't allow an argument")
    else .ok (entry, none)
  match known.find? fun entry => entry.1 = word with
  | some entry => use entry
  | none =>
      match known.filter fun entry => entry.1.startsWith word with
      | [] => .error ("unrecognized option '--" ++ text ++ "'")
      | first :: others =>
          if others.all fun entry => entry.2 = first.2 then use first
          else
            let offered := (first :: others).map fun entry => " '--" ++ entry.1 ++ "'"
            .error ("option '--" ++ text ++ "' is ambiguous; possibilities:" ++ String.join offered)

/-- The options among letters behind one dash. The last one may wait for its value. -/
def readLetters (table : OptionTable) : List Char → OptionsRead × Option Char
  | [] => ({}, none)
  | letter :: rest =>
      if table.valued.contains letter then
        if rest.isEmpty then ({}, some letter)
        else (.behind [(letter, String.ofList rest)] {}, none)
      else if table.letters.contains letter then
        let (others, waiting) := table.readLetters rest
        (others.behind [(letter, "")], waiting)
      else
        let text := "invalid option -- '" ++ String.singleton letter ++ "'"
        ({ ended := some (.flawed text) }, none)

/-- The options among the arguments, and the operands. -/
def readAll (table : OptionTable) : List String → OptionsRead
  | [] => {}
  | argument :: rest =>
      match argument.toList with
      | ['-', '-'] => { operands := rest }
      | '-' :: '-' :: word =>
          match table.readWord (String.ofList word) with
          | .error text => { ended := some (.flawed text) }
          | .ok ((_, '\x00'), _) => { ended := some .help }
          | .ok ((_, '\x01'), _) => { ended := some .version }
          | .ok ((_, letter), some value) => (table.readAll rest).behind [(letter, value)]
          | .ok ((name, letter), none) =>
              if table.valued.contains letter then
                match rest with
                | [] =>
                    let text := "option '--" ++ name ++ "' requires an argument"
                    { ended := some (.flawed text) }
                | value :: rest => (table.readAll rest).behind [(letter, value)]
              else (table.readAll rest).behind [(letter, "")]
      | '-' :: letter :: letters =>
          match table.readLetters (letter :: letters) with
          | (first, none) =>
              if first.ended.isSome then first else (table.readAll rest).behind first.options
          | (first, some letter) =>
              match rest with
              | [] =>
                  let text := "option requires an argument -- '" ++ String.singleton letter ++ "'"
                  { first with ended := some (.flawed text) }
              | value :: rest =>
                  (table.readAll rest).behind (first.options ++ [(letter, value)])
      | _ => (table.readAll rest).behindOperand argument

/-- The letters of the options among the arguments, and the operands. -/
def read (table : OptionTable) (arguments : List String) :
    Except OptionsEnd (List Char × List String) :=
  let found := table.readAll arguments
  match found.ended with
  | some ended => .error ended
  | none => .ok (found.options.map Prod.fst, found.operands)

end OptionTable
end PromptShell.Host
