import RowQuery.Update.Recipe
import RowQuery.Scope.Recipe
import RowQuery.Document
import RowQuery.Literal
import RowQuery.Settings
import RowQuery.Database.Execution
import RowQuery.Database.Model
import RowQuery.Access.Recipe
import RowQuery.Access.Script
import RowQuery.Proofs.Alignment
import RowQuery.Proofs.Numbering
import RowQuery.Proofs.Policy
import RowQuery.Proofs.Independence
import RowQuery.Proofs.Words
import RowQuery.Proofs.Composition
import RowQuery.Proofs.Outlines
import RowQuery.Proofs.Paging
import RowQuery.Proofs.Refinement
import RowQuery.Proofs.Accounts
import RowQuery.Proofs.Failures
import RowQuery.Proofs.Timeouts
import RowQuery.Proofs.Interleavings
import RowQuery.Proofs.Emptiness
import RowQuery.Proofs.Components
import RowQuery.Proofs.Runs
import RowQuery.Proofs.Isolation
import RowQuery.Proofs.PageRuns
import RowQuery.Proofs.Loading
import RowQuery.Proofs.Memberships
import RowQuery.Proofs.Groups
import RowQuery.Proofs.Assembly
import RowQuery.Proofs.Clipping
import RowQuery.Proofs.Reordering
