import PromptShell.Main
import PromptShell.Proofs.Pieces
import PromptShell.Proofs.Reading
import PromptShell.Proofs.Cycle
import PromptShell.Proofs.Outcome
import PromptShell.Proofs.Streams
import PromptShell.Proofs.Transcript
import PromptShell.Proofs.FullOutput
import PromptShell.Proofs.Waiting
import PromptShell.Proofs.FailedCycle
import PromptShell.Proofs.FailedReading
import PromptShell.Proofs.ErrorStream
import PromptShell.Proofs.HeldOutput
import PromptShell.Proofs.Deliveries
import PromptShell.Proofs.GrowthSteps
import PromptShell.Proofs.JoinedLines
import PromptShell.Proofs.WorkingDirectory
import PromptShell.Proofs.Termination
import PromptShell.Proofs.SharedLoop
import PromptShell.Proofs.ExitCode
import PromptShell.Proofs.Capacity
import PromptShell.Proofs.FixedBuffer
import PromptShell.Proofs.LineBuffer
import PromptShell.Proofs.WordList
import PromptShell.Proofs.DecisiveEvent
import PromptShell.Proofs.WaitCalls
import PromptShell.Proofs.Chronicle
import PromptShell.Proofs.Layout
import PromptShell.Proofs.ChildAccount
import PromptShell.Proofs.Crossing
import PromptShell.Proofs.ProgramSearch
import PromptShell.Proofs.Positional
import PromptShell.Proofs.TypedLine
import PromptShell.Proofs.QuotedText
import PromptShell.Proofs.ArgumentReport
