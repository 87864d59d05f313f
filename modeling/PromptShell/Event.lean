import PromptShell.Record
namespace PromptShell

/-- A directory by its names from the top of the tree on. -/
structure Directory where
  names : List String
  deriving Repr, DecidableEq

/-- The absolute path of a directory. -/
def Directory.path (directory : Directory) : String :=
  if directory.names.isEmpty then "/" else String.join (directory.names.map ("/" ++ ·))

/-- One event. The bytes of a write are those that the sink took, and a report is noted even when
its sink took nothing. -/
inductive Event where
  /-- The prompt was written. -/
  | prompted (taken : Bytes)
  /-- A command wrote to the output stream. -/
  | printed (taken : Bytes)
  /-- The output stream was flushed, with or without success. -/
  | flushed (succeeded : Bool)
  /-- The input stream was asked for a line. -/
  | awaited
  /-- The words of a line were handed over for execution. -/
  | dispatched (words : List String)
  /-- A child was started in a directory with these arguments. -/
  | started (directory : Directory) (arguments : List Bytes)
  /-- A child changed one of the files that its output is collected in. -/
  | emitted (emission : Emission)
  /-- A message was reported on the error stream. -/
  | reported (message : String) (taken : Bytes)
  /-- A record was logged. -/
  | logged (record : Record)
  deriving Repr, DecidableEq

namespace Event

/-- The bytes that the shell itself put on its output stream. -/
def ownOutput : Event → Bytes
  | prompted taken | printed taken => taken
  | _ => []

/-- The bytes that the shell itself put on its error stream. -/
def ownErrors : Event → Bytes
  | reported _ taken => taken
  | _ => []

/-- The change of one of the files of children. -/
def emitted? : Event → Option Emission
  | emitted emission => some emission
  | _ => none

/-- The record of an event that is one. -/
def record? : Event → Option Record
  | logged record => some record
  | _ => none

/-- The words of an event that hands over a line. -/
def dispatched? : Event → Option (List String)
  | dispatched words => some words
  | _ => none

/-- The directory and the arguments of an event that starts a child. -/
def started? : Event → Option (Directory × List Bytes)
  | started directory arguments => some (directory, arguments)
  | _ => none

/-- The message of an event that is a report. -/
def reported? : Event → Option String
  | reported message _ => some message
  | _ => none

end Event

/-- The output bytes of the shell in a list of events. -/
def outputOf (events : List Event) : Bytes := events.flatMap Event.ownOutput

/-- The error bytes of the shell in a list of events. -/
def errorsOf (events : List Event) : Bytes := events.flatMap Event.ownErrors

/-- What the children did to the files that their output is collected in. -/
def emissionsOf (events : List Event) : List Emission := events.filterMap Event.emitted?

/-- The bytes of all children on one stream in a list of events, which they found empty. -/
def childBytesOf (channel : Channel) (events : List Event) : Bytes :=
  ((({} : Spools).afterAll (emissionsOf events)).of channel).content

/-- The log in a list of events. -/
def logOf (events : List Event) : List Record := events.filterMap Event.record?

/-- The lines handed over in a list of events. -/
def dispatchesOf (events : List Event) : List (List String) :=
  events.filterMap Event.dispatched?

/-- The children started in a list of events. -/
def startsOf (events : List Event) : List (Directory × List Bytes) :=
  events.filterMap Event.started?

/-- The messages reported in a list of events. -/
def reportsOf (events : List Event) : List String := events.filterMap Event.reported?

@[simp] theorem outputOf_append (first second : List Event) :
    outputOf (first ++ second) = outputOf first ++ outputOf second := by
  simp [outputOf]

@[simp] theorem errorsOf_append (first second : List Event) :
    errorsOf (first ++ second) = errorsOf first ++ errorsOf second := by
  simp [errorsOf]

@[simp] theorem emissionsOf_append (first second : List Event) :
    emissionsOf (first ++ second) = emissionsOf first ++ emissionsOf second := by
  simp [emissionsOf]

@[simp] theorem logOf_append (first second : List Event) :
    logOf (first ++ second) = logOf first ++ logOf second := by
  simp [logOf]

/-- The log of records that are made of some items. -/
@[simp] theorem logOf_logged {Item : Type} (items : List Item) (record : Item → Record) :
    logOf (items.map fun item => .logged (record item)) = items.map record := by
  rw [logOf, List.filterMap_map]
  change items.filterMap (some ∘ record) = _
  rw [List.filterMap_eq_map]

/-- What children do is not logged. -/
@[simp] theorem logOf_emitted (emissions : List Emission) :
    logOf (emissions.map .emitted) = [] := by
  simp [logOf, Event.record?]

@[simp] theorem dispatchesOf_append (first second : List Event) :
    dispatchesOf (first ++ second) = dispatchesOf first ++ dispatchesOf second := by
  simp [dispatchesOf]

@[simp] theorem startsOf_append (first second : List Event) :
    startsOf (first ++ second) = startsOf first ++ startsOf second := by
  simp [startsOf]

@[simp] theorem reportsOf_append (first second : List Event) :
    reportsOf (first ++ second) = reportsOf first ++ reportsOf second := by
  simp [reportsOf]

end PromptShell
