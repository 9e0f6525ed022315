import RowQuery.Failure
import RowQuery.SortedMap

/-! Rows as a database library hands them out. The types of columns, what is read from them, how a
column is found and the texts of the errors are assumed of that library. What an error is in a call
is up to `pairOf` and `Row.readColumn`. -/

namespace RowQuery.Database

inductive ColumnType where
  | int2
  | int4
  | int8
  | text
  | varchar
  | bool
  deriving DecidableEq

inductive Cell where
  | null
  | bool (b : Bool)
  | int (n : Int)
  | text (s : String)
  deriving DecidableEq

structure Column where
  name : String
  type : ColumnType
  deriving DecidableEq

structure Row where
  columns : List Column
  cells : List Cell
  deriving DecidableEq

inductive Kind where
  | int32
  | int64
  | bool
  | text
  deriving DecidableEq

structure Target where
  kind : Kind
  nullable : Bool
  deriving DecidableEq

namespace Cell

/-- Nulls come first, then truth values, then numbers, then text. -/
def before : Cell → Cell → Bool
  | .null, .null => false
  | .null, _ => true
  | .bool a, .bool b => !a && b
  | .bool _, .int _ => true
  | .bool _, .text _ => true
  | .int a, .int b => KeyOrder.before a b
  | .int _, .text _ => true
  | .text a, .text b => KeyOrder.before a b
  | _, _ => false

instance : KeyOrder Cell where
  before := before
  irrefl a := by cases a <;> simp [before, KeyOrder.irrefl]
  trans a b c hab hbc := by
    cases a <;> cases b <;> cases c <;> simp_all [before]
    · exact KeyOrder.trans _ _ _ hab hbc
    · exact KeyOrder.trans _ _ _ hab hbc
  eq_of_not_before a b hab hba := by
    cases a <;> cases b <;> simp_all [before]
    · rename_i a b
      cases a <;> cases b <;> simp_all
    · exact KeyOrder.eq_of_not_before _ _ hab hba
    · exact KeyOrder.eq_of_not_before _ _ hab hba

end Cell

/-- Each kind is read from columns of its own types only. -/
def Kind.accepts : Kind → ColumnType → Bool
  | .int32, .int4 => true
  | .int64, .int8 => true
  | .bool, .bool => true
  | .text, .text => true
  | .text, .varchar => true
  | _, _ => false

def Kind.holds : Kind → Cell → Bool
  | .int32, .int _ => true
  | .int64, .int _ => true
  | .bool, .bool _ => true
  | .text, .text _ => true
  | _, _ => false

/-- Two columns of a row as a pair, however they are read; the first one is read first. -/
def pairOf {R K A : Type} (key : R → Except String K) (value : R → Except String A) (r : R) :
    Except Failure (K × A) := do
  let k ← (key r).mapError (.column "#0")
  let a ← (value r).mapError (.column "#1")
  return (k, a)

namespace Row

def missing (label : String) : String := "invalid column `" ++ label ++ "`"

def unreadable (index : Nat) : String := "error deserializing column " ++ toString index

/-- Read the column at an index. Its type is checked first, so a null of the wrong type is refused
even where nulls are welcome. -/
def readAt (r : Row) (index : Nat) (label : String) (t : Target) : Except String Cell :=
  match r.columns[index]?, r.cells[index]? with
  | some column, some cell =>
    if !t.kind.accepts column.type then .error (unreadable index)
    else if cell = .null then if t.nullable then .ok .null else .error (unreadable index)
    else if t.kind.holds cell then .ok cell
    else .error (unreadable index)
  | _, _ => .error (missing label)

/-- Equal up to the case of ASCII letters. -/
def sameLetters (a b : String) : Bool :=
  a.toList.map Char.toLower == b.toList.map Char.toLower

/-- A column is found by its exact name, or else by its name up to the case of ASCII letters. -/
def index? (r : Row) (name : String) : Option Nat :=
  (r.columns.findIdx? (fun c => c.name == name)).or
    (r.columns.findIdx? (fun c => sameLetters c.name name))

def readNamed (r : Row) (name : String) (t : Target) : Except String Cell :=
  match r.index? name with
  | some index => r.readAt index name t
  | none => .error (missing name)

/-- Read a number that cannot be null; a cell read as one is a number, so the last case does not
arise. -/
def readInt (r : Row) (name : String) : Except String Int := do
  match ← r.readNamed name ⟨.int64, false⟩ with
  | .int n => return n
  | _ => .error (unreadable 0)

def readColumn (r : Row) (name : String) (t : Target) : Except Failure Cell :=
  (r.readNamed name t).mapError (.column name)

def readPair (k v : Target) : Row → Except Failure (Cell × Cell) :=
  pairOf (fun r => r.readAt 0 "0" k) (fun r => r.readAt 1 "1" v)

end Row

end RowQuery.Database
