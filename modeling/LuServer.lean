import LuServer.Debounce.Tasks
import LuServer.Files.Resource
import LuServer.Proofs.Caret.Copies
import LuServer.Proofs.Debounce.Document
import LuServer.Proofs.Debounce.Trace
import LuServer.Proofs.Draft.Attribution
import LuServer.Proofs.Draft.Checked
import LuServer.Proofs.Session.Consistency
import LuServer.Proofs.Session.Questions
import LuServer.Proofs.Caret.LineEndings
import LuServer.Proofs.Caret.Suggestions
import LuServer.Proofs.Model.Closed
import LuServer.Proofs.Debounce.Tracked
import LuServer.Proofs.Debounce.Guard
import LuServer.Proofs.Debounce.Order
import LuServer.Proofs.Debounce.Sequential
import LuServer.Proofs.Text.Offsets
import LuServer.Proofs.Diagnostic.Marks
import LuServer.Proofs.Draft.Fallback
import LuServer.Proofs.Caret.Owner
import LuServer.Proofs.Text.Replaced
import LuServer.Proofs.Caret.Continued
import LuServer.Proofs.Caret.Removed
import LuServer.Proofs.Caret.KindSlot
import LuServer.Proofs.Caret.Readings
import LuServer.Proofs.Caret.Placed
import LuServer.Proofs.Draft.Utterances
import LuServer.Proofs.Grammar.Clauses
import LuServer.Proofs.Draft.Declared
import LuServer.Proofs.Draft.Kept
import LuServer.Proofs.Draft.Exchanged
import LuServer.Proofs.Draft.Introduced
import LuServer.Proofs.Text.Columns
import LuServer.Proofs.Document.Lines
import LuServer.Proofs.Settings.Nearest
import LuServer.Proofs.Model.Distinct
import LuServer.Proofs.Grammar.Occurrences
