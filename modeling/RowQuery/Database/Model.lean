import RowQuery.Access.Operation
import RowQuery.Database.Row
import RowQuery.Database.Session

namespace RowQuery.Database

structure Field where
  name : String
  target : Target
  deriving DecidableEq

/-- A table, and the fields that its rows are read into, in that order. -/
structure Model where
  table : Table
  fields : List Field

abbrev Entry := List (String × Cell)

/-- The kind of a pair: what its two columns are read as. -/
abbrev PairKind := Target × Target

namespace Model

def read (m : Model) (r : Row) : Except Failure Entry :=
  m.fields.mapM (fun f => (r.readColumn f.name f.target).map (fun cell => (f.name, cell)))

def reading (m : Model) : Reading Row Entry PairKind Cell Cell :=
  ⟨m.read, fun kind r => r.readPair kind.1 kind.2⟩

end Model

/-- A client that can cancel its statements, and that cannot send a text with a null character. -/
def Client.standard : Client Row where
  refusal sql := if sql.toList.contains '\x00' then some unsendable else none
  integer name r := r.readInt name
  cancellable := true
where
  unsendable : Failure := .query "error encoding message to server"

end RowQuery.Database
