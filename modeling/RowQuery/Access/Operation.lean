import RowQuery.Access.Dialogue

namespace RowQuery

/-- One page of rows, and the number of rows on all pages. -/
structure Page (M : Type) where
  total : Int
  rows : List M

/-- How rows are read: as models of type `M`, or as pairs of a kind `P`. -/
structure Reading (R M P K A : Type) where
  model : R → Except Failure M
  pair : P → R → Except Failure (K × A)

namespace Access

variable {V R M K A : Type}

/-- The rows a filter selects from a table; no filter selects all of them. -/
def matching (t : Table) (c : Option (Filter V)) : Scope V :=
  c.elim (.ofTable t) (Scope.ofTable t).matching

def listing (t : Table) (c : Option (Filter V)) : Scope V :=
  c.elim (.ofTable t) (Scope.ofTable t).listing

/-- The rows a filter selects, to be changed and not to be read. -/
def reached (t : Table) (c : Option (Filter V)) : Scope V :=
  c.elim (.all t.name) (Scope.all t.name).matching

/-- Numbers of rows have 64 bits, so they stay below this bound. -/
def rowBound : Nat := 18446744073709551616

/-- All rows read as models, or the failure of the first row that cannot be. -/
def models (read : R → Except Failure M) (rows : List R) : Dialogue V R (List M) :=
  .done (rows.mapM read)

/-- Only the first row is loaded, and only it is read. -/
def first (t : Table) (read : R → Except Failure M) (c : Option (Filter V)) :
    Dialogue V R (Option M) := do
  match ← Dialogue.find ((matching t c).take 1) with
  | [] => return none
  | row :: _ => .done ((read row).map some)

def byId (t : Table) (read : R → Except Failure M) (id : V) : Dialogue V R (Option M) :=
  first t read (some (Filter.empty.compare t.idColumn .equal id))

/-- No id selects no row, so nothing is asked for. -/
def byIds (t : Table) (read : R → Except Failure M) (ids : List V) : Dialogue V R (List M) :=
  if ids.isEmpty then return []
  else do
    let rows ← Dialogue.find ((Scope.ofTable t).matching (Filter.empty.isInList t.idColumn ids))
    models read rows

def all (t : Table) (read : R → Except Failure M) (c : Option (Filter V)) :
    Dialogue V R (List M) := do
  let rows ← Dialogue.find (listing t c)
  models read rows

/-- Pages are counted from zero. -/
def page (t : Table) (read : R → Except Failure M) (index size : Nat) (c : Option (Filter V)) :
    Dialogue V R (Page M) :=
  if size = 0 then .fail (.validation .pageSize)
  else if rowBound ≤ index * size then .fail (.validation (.pageOffset index size))
  else do
    let total ← Dialogue.count (matching t c)
    let rows ← Dialogue.find (((listing t c).skip (index * size)).take size)
    let found ← models read rows
    return ⟨total, found⟩

def delete (t : Table) (c : Option (Filter V)) : Dialogue V R Nat := .delete (reached t c)

/-- An update without assignments affects no row, so nothing is asked for. -/
def update (t : Table) (u : Option (Update V)) : Dialogue V R Nat :=
  match u with
  | none => return 0
  | some u =>
    if u.isIdle then return 0
    else .update (reached t (some u.filter)) u.assignments

/-- A column of the selected rows by their ids; the last row of an id is kept. -/
def columnMap [KeyOrder K] (t : Table) (read : R → Except Failure (K × A)) (column : String)
    (c : Option (Filter V)) : Dialogue V R (SortedMap K A) := do
  let scope := (Scope.all t.name).select [t.idColumn, column]
  let rows ← Dialogue.find (c.elim scope scope.matching)
  let pairs ← models read rows
  return SortedMap.ofList pairs

end Access

/-- One call, as data. Its filters, updates and scopes are of types `F`, `U` and `S`. -/
inductive Operation (V F U S P : Type) where
  | byId (id : V)
  | byIds (ids : List V)
  | first (filter : Option F)
  | all (filter : Option F)
  | page (index size : Nat) (filter : Option F)
  | delete (filter : Option F)
  | update (update : Option U)
  | columnMap (kind : P) (column : String) (filter : Option F)
  | countScope (scope : S)
  | findScope (scope : S)
  | deleteScope (scope : S)
  | updateScope (scope : S) (update : U)

inductive Outcome (R M K A : Type) [KeyOrder K] where
  | found (model : Option M)
  | models (rows : List M)
  | page (p : Page M)
  | affected (n : Nat)
  | columnMap (m : SortedMap K A)
  | total (n : Int)
  | rows (rows : List R)

variable {V R M P K A : Type} [KeyOrder K]

/-- The dialogue of a call. Calls on a scope put exactly one request. -/
def Operation.dialogue (t : Table) (reading : Reading R M P K A) :
    Operation V (Filter V) (Update V) (Scope V) P → Dialogue V R (Outcome R M K A)
  | .byId id => Outcome.found <$> Access.byId t reading.model id
  | .byIds ids => Outcome.models <$> Access.byIds t reading.model ids
  | .first c => Outcome.found <$> Access.first t reading.model c
  | .all c => Outcome.models <$> Access.all t reading.model c
  | .page index size c => Outcome.page <$> Access.page t reading.model index size c
  | .delete c => Outcome.affected <$> Access.delete t c
  | .update u => Outcome.affected <$> Access.update t u
  | .columnMap kind column c =>
    Outcome.columnMap <$> Access.columnMap t (reading.pair kind) column c
  | .countScope s => Outcome.total <$> Dialogue.count s
  | .findScope s => Outcome.rows <$> Dialogue.find s
  | .deleteScope s => Outcome.affected <$> Dialogue.delete s
  | .updateScope s u => Outcome.affected <$> Dialogue.update s u.assignments

end RowQuery
