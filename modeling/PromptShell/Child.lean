import PromptShell.Errno
import PromptShell.Signal
import PromptShell.Spool
namespace PromptShell

/-- How a child ended. -/
inductive ChildEnd where
  | exited (code : Nat)
  | signaled (signal : Signal)
  deriving Repr, DecidableEq

/-- The wording of an end in the log. -/
def ChildEnd.trace : ChildEnd → String
  | .exited code => "Exited(" ++ toString code ++ ")"
  | .signaled signal => "Signaled(" ++ signal.name ++ ")"

/-- One raw answer of the system to a wait. -/
inductive WaitReport where
  | exited (code : Nat)
  | killed (signal : Nat)
  | stopped (signal : Nat)
  | traced (signal : Nat) (event : Nat)
  | tracedCall
  | continued
  | interrupted
  | failed (errno : Errno)
  deriving Repr, DecidableEq

/-- What a report says about a child that has not ended. -/
inductive Notice where
  | stopped (signal : Signal)
  | traced (signal : Signal) (event : Nat)
  | tracedCall
  | continued
  deriving Repr, DecidableEq

/-- The wording of a notice about a process. -/
def Notice.trace (process : Nat) : Notice → String
  | .stopped signal => "Stopped(Pid(" ++ toString process ++ "), " ++ signal.name ++ ")"
  | .traced signal event =>
      "PtraceEvent(Pid(" ++ toString process ++ "), " ++ signal.name ++ ", " ++ toString event ++
        ")"
  | .tracedCall => "PtraceSyscall(Pid(" ++ toString process ++ "))"
  | .continued => "Continued(Pid(" ++ toString process ++ "))"

/-- A report that was read: the child ended, it goes on, or the wait has an error. -/
inductive WaitAnswer where
  | ended (ending : ChildEnd)
  | running (notice : Notice)
  | error (errno : Errno)
  deriving Repr, DecidableEq

/-- The value made of a signal number, or the error that the number has no name. -/
def readSignal (number : Nat) (use : Signal → WaitAnswer) : WaitAnswer :=
  match Signal.ofNumber? number with
  | some signal => use signal
  | none => .error .invalid

/-- A raw report is read. One about a signal without a name cannot be read: it gives the error for
an invalid value, although the child is gone. -/
def WaitReport.read : WaitReport → WaitAnswer
  | .exited code => .ended (.exited code)
  | .killed signal => readSignal signal fun known => .ended (.signaled known)
  | .stopped signal => readSignal signal fun known => .running (.stopped known)
  | .traced signal event => readSignal signal fun known => .running (.traced known event)
  | .tracedCall => .running .tracedCall
  | .continued => .running .continued
  | .interrupted => .error .interrupted
  | .failed errno => .error errno

/-- The error of a call for a report that failed. A report that cannot be read is no such call. -/
def WaitReport.fault? : WaitReport → Option Errno
  | .failed errno => some errno
  | .interrupted => some .interrupted
  | _ => none

/-- The outcome of a wait, the notices before it, the reports that were never asked for, and the
error of the last call for a report that failed. -/
structure Wait where
  outcome : Except Errno ChildEnd
  notices : List Notice
  unasked : List WaitReport
  fault : Option Errno := none

/-- The reports are asked for one by one until one decides. When none is left, the system knows no
such child. -/
def awaitEnd : List WaitReport → Wait
  | [] => ⟨.error .noChild, [], [], some .noChild⟩
  | report :: rest =>
      match report.read with
      | .ended ending => ⟨.ok ending, [], rest, none⟩
      | .running notice =>
          let wait := awaitEnd rest
          { wait with notices := notice :: wait.notices }
      | .error errno =>
          if errno = .interrupted then
            let wait := awaitEnd rest
            { wait with fault := wait.fault <|> some .interrupted }
          else ⟨.error errno, [], rest, report.fault?⟩

@[simp] theorem awaitEnd_exited (code : Nat) (rest : List WaitReport) :
    awaitEnd (.exited code :: rest) = ⟨.ok (.exited code), [], rest, none⟩ := rfl

/-- The course of a child: what it wrote and where, the signals that stopped it for a while, and the
raw report of its end. -/
structure Course where
  emissions : List Emission
  stops : List Nat
  ending : WaitReport
  deriving Repr, DecidableEq

end PromptShell
