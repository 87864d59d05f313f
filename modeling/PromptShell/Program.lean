import PromptShell.LogFilter
import PromptShell.Startup
namespace PromptShell

/-- What a filter shows. -/
def LogFilter.view (filter : LogFilter) : LogView := ⟨filter.complaints, filter.shows⟩

/-- The cycles for which a program is waited for. -/
def cycleLimit : Nat := Nat.pow 10 9

/-- The program is run with the filter of its log that the setting names. One that is not waited for
any longer has nothing to show. -/
def Startup.complete {World : Type} (machine : Machine World) (time : String)
    (startup : Startup World) : Completion :=
  let logger (setting : Option String) : LogView := (LogFilter.ofSetting setting).view
  ((startup.run? machine logger time cycleLimit).map (startup.completion logger time)).getD {}

end PromptShell
