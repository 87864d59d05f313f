namespace PromptShell

/-- A failed command has reported its failure, and the loop goes on. -/
inductive Status where
  | proceed
  | failed
  | terminate
  deriving Repr, DecidableEq

/-- Every outcome but one keeps the loop going. -/
def Status.keepsRunning : Status → Bool
  | .terminate => false
  | _ => true

/-- The outcome as a number: zero ends the loop. -/
def Status.code : Status → Nat
  | .terminate => 0
  | _ => 1

theorem Status.keepsRunning_iff (status : Status) :
    status.keepsRunning = true ↔ status ≠ .terminate := by
  cases status <;> simp [keepsRunning]

end PromptShell
