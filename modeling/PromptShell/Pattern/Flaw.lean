namespace PromptShell.Pattern

/-- A part of a pattern's text, from one character up to another. -/
structure Span where
  start : Nat
  stop : Nat
  deriving Repr, DecidableEq

/-- How deep groups, classes and repetitions may stand in each other. -/
def nestLimit : Nat := 250

/-- What is wrong with a written pattern. -/
inductive FlawCause where
  | classEscape
  | classRangeOrder
  | classRangeBound
  | classUnclosed
  | decimalEmpty
  | decimalTooLarge
  | hexEmpty
  | hexNoCharacter
  | hexDigit
  | escapeUnfinished
  | escapeUnknown
  | flagDanglingNegation
  | flagTwice
  | flagNegationTwice
  | flagUnfinished
  | flagUnknown
  | groupNameTwice
  | groupNameEmpty
  | groupNameCharacter
  | groupNameUnfinished
  | groupUnclosed
  | groupUnopened
  | nestedTooDeep
  | countOrder
  | countNoDecimal
  | countUnclosed
  | edgeUnclosed
  | edgeUnknown
  | edgeOrCountUnfinished
  | repetitionOfNothing
  | propertyName
  | backReference
  | lookAround
  | unicodeNotAllowed
  | notText
  | propertyMissing
  | propertyValueMissing
  | shorthandMissing
  | caseMissing
  deriving Repr, DecidableEq

/-- The wording of a cause. -/
def FlawCause.message : FlawCause → String
  | .classEscape => "invalid escape sequence found in character class"
  | .classRangeOrder => "invalid character class range, the start must be <= the end"
  | .classRangeBound => "invalid range boundary, must be a literal"
  | .classUnclosed => "unclosed character class"
  | .decimalEmpty => "decimal literal empty"
  | .decimalTooLarge => "decimal literal invalid"
  | .hexEmpty => "hexadecimal literal empty"
  | .hexNoCharacter => "hexadecimal literal is not a Unicode scalar value"
  | .hexDigit => "invalid hexadecimal digit"
  | .escapeUnfinished => "incomplete escape sequence, reached end of pattern prematurely"
  | .escapeUnknown => "unrecognized escape sequence"
  | .flagDanglingNegation => "dangling flag negation operator"
  | .flagTwice => "duplicate flag"
  | .flagNegationTwice => "flag negation operator repeated"
  | .flagUnfinished => "expected flag but got end of regex"
  | .flagUnknown => "unrecognized flag"
  | .groupNameTwice => "duplicate capture group name"
  | .groupNameEmpty => "empty capture group name"
  | .groupNameCharacter => "invalid capture group character"
  | .groupNameUnfinished => "unclosed capture group name"
  | .groupUnclosed => "unclosed group"
  | .groupUnopened => "unopened group"
  | .nestedTooDeep =>
      "exceed the maximum number of nested parentheses/brackets (" ++ toString nestLimit ++ ")"
  | .countOrder => "invalid repetition count range, the start must be <= the end"
  | .countNoDecimal => "repetition quantifier expects a valid decimal"
  | .countUnclosed => "unclosed counted repetition"
  | .edgeUnclosed =>
      "special word boundary assertion is either unclosed or contains an invalid character"
  | .edgeUnknown =>
      "unrecognized special word boundary assertion, valid choices are: start, end, start-half " ++
        "or end-half"
  | .edgeOrCountUnfinished =>
      "found either the beginning of a special word boundary or a bounded repetition on a \\b " ++
        "with an opening brace, but no closing brace"
  | .repetitionOfNothing => "repetition operator missing expression"
  | .propertyName => "invalid Unicode character class"
  | .backReference => "backreferences are not supported"
  | .lookAround => "look-around, including look-ahead and look-behind, is not supported"
  | .unicodeNotAllowed => "Unicode not allowed here"
  | .notText => "pattern can match invalid UTF-8"
  | .propertyMissing => "Unicode property not found"
  | .propertyValueMissing => "Unicode property value not found"
  | .shorthandMissing =>
      "Unicode-aware Perl class not found (make sure the unicode-perl feature is enabled)"
  | .caseMissing =>
      "Unicode-aware case insensitivity matching is not available (make sure the unicode-case " ++
        "feature is enabled)"

/-- A cause at a span of a pattern's text; a second span shows what it clashes with. -/
structure Flaw where
  cause : FlawCause
  span : Span
  earlier : Option Span := none
  deriving Repr, DecidableEq

namespace Flaw

/-- The lines of a text. A newline ends a line, and takes a return in front of it along; behind the
last newline there is one more line only if it holds something. -/
def textLines (text : List Char) : List (List Char) :=
  let pieces := text.splitOn '\n'
  let trimmed := pieces.dropLast.map fun line =>
    if line.getLast? = some '\r' then line.dropLast else line
  match pieces.getLast? with
  | none | some [] => trimmed
  | some last => trimmed ++ [last]

/-- The line and the column of a place, both counted from zero. -/
def position (text : List Char) (place : Nat) : Nat × Nat :=
  (text.take place).foldl
    (fun reached character => if character = '\n' then (reached.1 + 1, 0)
      else (reached.1, reached.2 + 1)) (0, 0)

/-- The spans of a flaw in the order of their places. -/
def spans (flaw : Flaw) : List Span :=
  match flaw.earlier with
  | none => [flaw.span]
  | some earlier =>
      if earlier.start < flaw.span.start ∨
          (earlier.start = flaw.span.start ∧ earlier.stop ≤ flaw.span.stop)
      then [earlier, flaw.span] else [flaw.span, earlier]

/-- A text of carets under columns; each span has at least one caret. -/
def carets (columns : List (Nat × Nat)) : List Char :=
  columns.foldl (fun drawn column =>
    drawn ++ List.replicate (column.1 - drawn.length) ' ' ++
      List.replicate (max 1 (column.2 - column.1)) '^') []

/-- The spans that lie within one line, as columns of that line. -/
def columnsIn (text : List Char) (spans : List Span) (line : Nat) : List (Nat × Nat) :=
  spans.filterMap fun span =>
    let start := position text span.start
    let stop := position text span.stop
    if start.1 = line ∧ stop.1 = line then some (start.2, stop.2) else none

/-- The remark on a span that lies in several lines. -/
def remark? (text : List Char) (span : Span) : Option String :=
  let start := position text span.start
  let stop := position text span.stop
  if start.1 = stop.1 then none
  else some ("on line " ++ toString (start.1 + 1) ++ " (column " ++ toString (start.2 + 1) ++
    ") through line " ++ toString (stop.1 + 1) ++ " (column " ++ toString stop.2 ++ ")\n")

/-- The lines of a text behind their margins, each followed by its carets. -/
def drawing (text : List Char) (flaw : Flaw) : String :=
  let lines := textLines text
  let count := lines.length + if text.getLast? = some '\n' then 1 else 0
  let width := if count ≤ 1 then 0 else (toString count).length
  let margin (index : Nat) : String :=
    if width = 0 then "    "
    else
      let number := toString (index + 1)
      String.ofList (List.replicate (width - number.length) ' ') ++ number ++ ": "
  let padding := String.ofList (List.replicate (if width = 0 then 4 else width + 2) ' ')
  String.join ((lines.zipIdx).map fun entry =>
    let columns := columnsIn text flaw.spans entry.2
    margin entry.2 ++ String.ofList entry.1 ++ "\n" ++
      if columns.isEmpty then "" else padding ++ String.ofList (carets columns) ++ "\n")

/-- The report on a flaw in the text of a pattern. -/
def report (flaw : Flaw) (text : String) : String :=
  let characters := text.toList
  let heading := "regex parse error:\n"
  let ending := "error: " ++ flaw.cause.message
  if characters.contains '\n' then
    let divider := String.ofList (List.replicate 79 '~') ++ "\n"
    heading ++ divider ++ drawing characters flaw ++ divider ++
      String.join (flaw.spans.filterMap (remark? characters)) ++ ending
  else heading ++ drawing characters flaw ++ ending

end Flaw
end PromptShell.Pattern
