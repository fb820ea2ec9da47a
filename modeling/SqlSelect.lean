import SqlSelect.Session
import SqlSelect.Proofs.Opacity
import SqlSelect.Proofs.Failure
import SqlSelect.Proofs.Placeholders
import SqlSelect.Proofs.Quoting
import SqlSelect.Proofs.History
import SqlSelect.Proofs.Numbering
import SqlSelect.Proofs.Spelling
import SqlSelect.Proofs.Isolation
import SqlSelect.Proofs.Refusal
import SqlSelect.Proofs.Execution
import SqlSelect.Proofs.Unquoting
import SqlSelect.Proofs.Parentheses
import SqlSelect.Proofs.Memberships
import SqlSelect.Proofs.Recompiling
import SqlSelect.Proofs.Conjunctions
import SqlSelect.Proofs.Ordering
import SqlSelect.Proofs.Rounding
import SqlSelect.Proofs.Counts
import SqlSelect.Proofs.Paging
import SqlSelect.Proofs.Processors
import SqlSelect.Proofs.Resetting
import SqlSelect.Proofs.Qualifying
import SqlSelect.Proofs.Collecting
import SqlSelect.Proofs.Reading
import SqlSelect.Proofs.Settings
