import RowQuery.Proofs.CallMaps
import RowQuery.Statement.Rendering

namespace RowQuery

variable {V W : Type} (f : V → W)

theorem Token.ofArg_map (bound : Nat) (a : Arg V) :
    Token.ofArg bound (a.map f) = Token.ofArg bound a := by
  cases a with
  | scalar v => rfl
  | list vs =>
    cases vs with
    | nil => rfl
    | cons v vs =>
      have hn : (Arg.list ((v :: vs).map f)).numbers bound = (Arg.list (v :: vs)).numbers bound := by
        rw [Arg.numbers, ← Arg.map, Arg.size_map, Arg.numbers]
      exact congrArg (fun ns => .char '(' :: (Token.listing ns ++ [.char ')'])) hn

namespace Statement

@[simp] theorem text_map (s : Statement V) : (s.map f).text = s.text := rfl

@[simp] theorem surplus_map (s : Statement V) : (s.map f).surplus = s.surplus := rfl

@[simp] theorem length_params_map (s : Statement V) :
    (s.map f).params.length = s.params.length := by
  simp [map]

theorem map_write (s : Statement V) (t : String) : (s.write t).map f = (s.map f).write t := rfl

theorem map_bind (s : Statement V) (v : V) : (s.bind v).map f = (s.map f).bind (f v) := by
  simp [bind, map]

/-- Only the number of values in each argument matters to the text. -/
theorem map_fillPieces (bound : Nat) (ps : List Piece) (as : List (Arg V)) :
    (fillPieces bound ps as).map f = fillPieces bound ps (as.map (Arg.map f)) := by
  induction ps generalizing bound as with
  | nil => simp [fillPieces, map]
  | cons p ps ih =>
    cases p with
    | char c =>
      rw [fillPieces, fillPieces, ← ih]
      rfl
    | slot =>
      cases as with
      | nil =>
        have hr : fillPieces bound ps [] = (fillPieces bound ps ([] : List (Arg V))).map f :=
          (ih bound []).symm
        rw [List.map_nil, fillPieces, fillPieces, hr]
        rfl
      | cons a as =>
        rw [List.map_cons, fillPieces, fillPieces, Token.ofArg_map, Arg.values_map, Arg.size_map,
          ← ih, map, List.map_append]
        rfl

theorem map_fill (s : Statement V) (template : String) (as : List (Arg V)) :
    (s.fill template as).map f = (s.map f).fill template (as.map (Arg.map f)) := by
  simp only [fill, length_params_map, ← map_fillPieces]
  simp only [map, List.map_append]

theorem map_filtered (s : Statement V) (scope : Scope V) :
    (s.filtered scope).map f = (s.map f).filtered (scope.map f) := by
  have hu : (scope.map f).isUnfiltered = scope.isUnfiltered := rfl
  rw [filtered, filtered, hu]
  by_cases h : scope.isUnfiltered
  · rw [if_pos h, if_pos h]
  · rw [if_neg h, if_neg h, map_fill, map_write]
    rfl

theorem map_setColumn (s : Statement V) (column : String) (a : Assignment V) :
    (s.setColumn column a).map f = (s.map f).setColumn column (a.map f) := by
  cases a with
  | value v => exact map_bind f (s.write (column ++ " = ")) v
  | expr sql as => exact map_fill f (s.write (column ++ " = ")) sql as

theorem map_setColumns (s : Statement V) (es : List (String × Assignment V)) :
    (s.setColumns es).map f = (s.map f).setColumns (es.map (fun e => (e.1, e.2.map f))) := by
  induction es generalizing s with
  | nil => rfl
  | cons e es ih =>
    cases es with
    | nil => exact map_setColumn f s e.1 e.2
    | cons e' es =>
      change (((s.setColumn e.1 e.2).write ", ").setColumns (e' :: es)).map f = _
      rw [ih, map_write, map_setColumn]
      rfl

end Statement

namespace Scope

theorem countStatement_map (s : Scope V) : (s.map f).countStatement = s.countStatement.map f := by
  rw [countStatement, countStatement, Statement.map_filtered]
  rfl

theorem selectStatement_map (s : Scope V) : (s.map f).selectStatement = s.selectStatement.map f := by
  simp only [selectStatement, Statement.map_write, Statement.map_filtered]
  rfl

theorem deleteStatement_map (s : Scope V) : (s.map f).deleteStatement = s.deleteStatement.map f := by
  rw [deleteStatement, deleteStatement, Statement.map_filtered]
  rfl

theorem updateStatement_map (s : Scope V) (a : Assignments V) :
    (s.map f).updateStatement (a.map (Assignment.map f)) = (s.updateStatement a).map f := by
  rw [updateStatement, updateStatement, Statement.map_filtered, Statement.map_setColumns]
  rfl

end Scope

end RowQuery
