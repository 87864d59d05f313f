import PromptShell.Host.Script.Shell
namespace PromptShell.Host.Script.Run

/-- The signal that tells of the end of a process. -/
def childSignal : Nat := 17

/-- The lowest place for a new process, from one on; the bound is the number of places in use. -/
def lowestPlace (jobs : List Job) (place : Nat) : Nat → Nat
  | 0 => place
  | bound + 1 =>
      let inUse := jobs.any fun job => job.place = place && !(job.noticed && job.waited)
      if inUse then lowestPlace jobs (place + 1) bound else place

/-- A new process takes a place, and what stood there is forgotten. -/
def takePlace : Run Nat := do
  let shell ← get
  let place := lowestPlace shell.jobs 1 shell.jobs.length
  set { shell with jobs := shell.jobs.filter fun job => job.place ≠ place }
  return place

/-- The ends of chosen parts are noticed. -/
def notice (chosen : Job → Bool) : Run Unit := do
  let shell ← get
  let fresh := shell.jobs.filter fun job => chosen job && !job.noticed
  let noticed (job : Job) : Job := { job with noticed := job.noticed || chosen job }
  set { shell with jobs := shell.jobs.map noticed }
  for _ in fresh do
    receive childSignal

/-- The parts that have ended by now are noticed. -/
def noticeEnded : Run Unit := do
  let clock := (← get).scene.clock
  notice fun job => job.due < clock

/-- A part is forgotten. -/
def forget (job : Job) : Run Unit :=
  modify fun shell => { shell with
    jobs := shell.jobs.filter fun other => other.place ≠ job.place }

end PromptShell.Host.Script.Run
