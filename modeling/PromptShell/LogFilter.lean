import PromptShell.Pattern.Meaning
import PromptShell.Record
import PromptShell.Text.Blank
namespace PromptShell

/-- A rule shows the records below its target up to a rank; rank zero shows none. -/
structure LogRule where
  target : Option String
  rank : Nat
  deriving Repr, DecidableEq

/-- A part of a setting that is left out. -/
inductive LogWarning where
  | noRule (item : String)
  | manyPatterns (setting : String)
  | noPattern (text : String) (refusal : Pattern.Refusal)
  deriving Repr, DecidableEq

/-- The wording of a warning. -/
def LogWarning.message : LogWarning → String
  | noRule item => "invalid logging spec '" ++ item ++ "'"
  | manyPatterns setting => "invalid logging spec '" ++ setting ++ "' (too many '/'s)"
  | noPattern text refusal => "invalid regex filter - " ++ refusal.message text

/-- The rules of a setting, its pattern, and the warnings about its other parts. -/
structure LogFilter where
  rules : List LogRule := []
  pattern : Option Pattern := none
  warnings : List LogWarning := []
  deriving Repr

namespace LogFilter

/-- A level is read in either case. -/
def rank? (word : String) : Option Nat :=
  ["OFF", "ERROR", "WARN", "INFO", "DEBUG", "TRACE"].findIdx? fun name =>
    name = word.map Char.toUpper

/-- A text without blanks at its two ends. -/
def trim (text : String) : String :=
  String.ofList ((trimEnd text).toList.dropWhile isBlank)

/-- A text cut at every place where a character stands. -/
def splitAt (mark : Char) (text : String) : List String :=
  (text.toList.splitOn mark).map String.ofList

/-- A rule is added, and replaces an earlier one for the same target. -/
def insert (filter : LogFilter) (rule : LogRule) : LogFilter :=
  if filter.rules.any fun earlier => earlier.target = rule.target then
    { filter with rules := filter.rules.map fun earlier =>
        if earlier.target = rule.target then rule else earlier }
  else
    { filter with rules := filter.rules ++ [rule] }

/-- A part of the setting is left out with a warning. -/
def warn (filter : LogFilter) (warning : LogWarning) : LogFilter :=
  { filter with warnings := filter.warnings ++ [warning] }

/-- One item of the setting is read. A lone word that is no level is a target in full. -/
def read (filter : LogFilter) (item : String) : LogFilter :=
  match splitAt '=' item with
  | [word] =>
      match rank? word with
      | some rank => filter.insert ⟨none, rank⟩
      | none => filter.insert ⟨some word, Level.trace.rank⟩
  | [target, level] =>
      let word := trim level
      if word.isEmpty then filter.insert ⟨some target, Level.trace.rank⟩
      else match rank? word with
        | some rank => filter.insert ⟨some target, rank⟩
        | none => filter.warn (.noRule word)
  | _ => filter.warn (.noRule item)

/-- The rules of a list of items. -/
def ofItems (list : String) : LogFilter :=
  (((splitAt ',' list).map trim).filter fun item => !item.isEmpty).foldl read {}

/-- The pattern of a setting is added. -/
def readPattern (filter : LogFilter) (text : String) : LogFilter :=
  match Pattern.ofText text with
  | .ok pattern => { filter with pattern := some pattern }
  | .error refusal => filter.warn (.noPattern text refusal)

/-- A filter without rules shows errors. -/
def orErrors (filter : LogFilter) : LogFilter :=
  if filter.rules.isEmpty then { filter with rules := [⟨none, Level.error.rank⟩] } else filter

/-- The filter of a written setting: a list of levels and of targets with a level, and behind a
slash a pattern. No setting shows nothing, and a setting without rules shows errors. -/
def ofSetting : Option String → LogFilter
  | none => { rules := [⟨none, 0⟩] }
  | some setting =>
      match splitAt '/' setting with
      | [] => orErrors {}
      | [list] => (ofItems list).orErrors
      | [list, text] => ((ofItems list).readPattern text).orErrors
      | _ => ({ warnings := [.manyPatterns setting] } : LogFilter).orErrors

/-- The length of a rule's target; a rule without one is the shortest. -/
def targetSize (rule : LogRule) : Nat :=
  (rule.target.map Utf8.size).getD 0

/-- The rule that decides over a target: of the longest ones, the last. -/
def rule? (filter : LogFilter) (target : String) : Option LogRule :=
  let fitting := filter.rules.filter fun rule =>
    match rule.target with
    | none => true
    | some start => start.toList.isPrefixOf target.toList
  fitting.foldl (fun best rule =>
    match best with
    | none => some rule
    | some earlier => if targetSize earlier ≤ targetSize rule then some rule else best) none

/-- A record is shown when the rule over its target reaches its level and its text holds the
pattern. -/
def shows (filter : LogFilter) (record : Record) : Bool :=
  match filter.rule? record.target with
  | some rule =>
      record.level.rank ≤ rule.rank &&
        filter.pattern.all fun pattern => pattern.foundIn record.message
  | none => false

/-- The lines of the warnings. -/
def complaints (filter : LogFilter) : List String :=
  filter.warnings.map fun warning => "warning: " ++ warning.message ++ ", ignoring it\n"

end LogFilter
end PromptShell
