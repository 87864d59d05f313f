import PromptShell.Prompt
namespace PromptShell

/-- One call of a shell. -/
inductive Call where
  | step
  | run
  | execute (words : List String)
  | executeText (text : String)
  deriving Repr, DecidableEq

/-- What a call answers. -/
inductive Answer where
  | stepped (outcome : Except Failure (Option Status))
  | ran (outcome : Except Failure Unit)
  | executed (status : Status)
  | executedText (outcome : Except Failure Status)

namespace Session

variable {World : Type}

/-- A shell is called once. -/
def call (machine : Machine World) (session : Session World) : Call → Turn World Answer
  | .step => (session.step machine).map .stepped
  | .run => (session.run machine).map .ran
  | .execute words => (session.execute machine words).map .executed
  | .executeText text => (session.executeText machine text).map .executedText

/-- A shell is called several times, and answers each call. -/
def callAll (machine : Machine World) (session : Session World) :
    List Call → Turn World (List Answer)
  | [] => session.stay []
  | call :: rest =>
      (session.call machine call).andThen fun answer next =>
        (next.callAll machine rest).map (answer :: ·)

/-- Calls that follow others go on behind them. -/
theorem callAll_append (machine : Machine World) (session : Session World)
    (first second : List Call) :
    session.callAll machine (first ++ second) =
      (session.callAll machine first).andThen fun answers next =>
        (next.callAll machine second).map (answers ++ ·) := by
  induction first generalizing session with
  | nil => rfl
  | cons call rest ih => simp [callAll, ih, Turn.andThen, Turn.map]

end Session
end PromptShell
