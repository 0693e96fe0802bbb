import Linewise.Fallback
import Linewise.Json.Writer
import Linewise.Main
import Linewise.Measure.Exercise
import Linewise.Measure.Round
import Linewise.Measure.TimeShare
import Linewise.Session.Step
import Linewise.Proofs.Text
import Linewise.Proofs.Line
import Linewise.Proofs.Tree
import Linewise.Proofs.Block
import Linewise.Proofs.Run
import Linewise.Proofs.Structure
import Linewise.Proofs.Failure
import Linewise.Proofs.Constants
import Linewise.Proofs.Wiring
import Linewise.Proofs.Redirection
import Linewise.Proofs.Course
import Linewise.Proofs.Inline
import Linewise.Proofs.Deletion
import Linewise.Proofs.Typing
import Linewise.Proofs.Simulation
import Linewise.Proofs.Outlet
import Linewise.Proofs.Pending
import Linewise.Proofs.Isolation
import Linewise.Proofs.Transcript
import Linewise.Proofs.Warnings
import Linewise.Proofs.Report
import Linewise.Proofs.Comments
import Linewise.Proofs.Declarations
import Linewise.Proofs.Ending
import Linewise.Proofs.Stopping
import Linewise.Proofs.Respelling
import Linewise.Proofs.Truth
import Linewise.Proofs.Pasting
import Linewise.Proofs.Expansion
import Linewise.Proofs.Cutting
import Linewise.Proofs.Saying
import Linewise.Proofs.Items
import Linewise.Proofs.Entry
import Linewise.Proofs.Conservation
import Linewise.Proofs.Subjects
import Linewise.Proofs.Creation
import Linewise.Proofs.References
import Linewise.Proofs.LetterCase
import Linewise.Proofs.Spelling
import Linewise.Proofs.Recasing
import Linewise.Proofs.NameCase
import Linewise.Proofs.Repetition
import Linewise.Proofs.Chunks
import Linewise.Proofs.Causes
import Linewise.Proofs.Nesting
import Linewise.Proofs.Effort
import Linewise.Proofs.Template
import Linewise.Proofs.Chance
import Linewise.Proofs.Lexing
import Linewise.Proofs.Numeral
import Linewise.Proofs.Decimal
import Linewise.Proofs.Brackets
import Linewise.Proofs.Lasting
import Linewise.Proofs.Naming
