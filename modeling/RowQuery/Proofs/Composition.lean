import RowQuery.Proofs.Filling
import RowQuery.Proofs.Texts

namespace RowQuery

variable {V : Type}

namespace Token

/-- The token as it stands after `k` further values. -/
def shift (k : Nat) : Token → Token
  | .char c => .char c
  | .param n => .param (n + k)

theorem shift_zero (t : Token) : t.shift 0 = t := by
  cases t <;> rfl

theorem shift_shift (k m : Nat) (t : Token) : (t.shift k).shift m = t.shift (k + m) := by
  cases t with
  | char c => rfl
  | param n => exact congrArg param (Nat.add_assoc n k m)

theorem map_shift_ofText (k : Nat) (t : String) : (ofText t).map (shift k) = ofText t := by
  rw [ofText, List.map_map]
  rfl

theorem map_shift_listing (k : Nat) (ns : List Nat) :
    (listing ns).map (shift k) = listing (ns.map (· + k)) := by
  induction ns with
  | nil => rfl
  | cons n ns ih =>
    cases ns with
    | nil => rfl
    | cons m ns =>
      change param (n + k) :: (ofText ", " ++ listing (m :: ns)).map (shift k) = _
      rw [List.map_append, map_shift_ofText, ih]
      rfl

theorem map_shift_ofArg (k bound : Nat) (a : Arg V) :
    (ofArg bound a).map (shift k) = ofArg (bound + k) a := by
  cases a with
  | scalar v =>
    have hn : bound + 1 + k = bound + k + 1 := Nat.add_right_comm bound 1 k
    simp [ofArg, shift, hn]
  | list vs =>
    cases vs with
    | nil => exact map_shift_ofText k "(NULL)"
    | cons v vs =>
      have hn : ((Arg.list (v :: vs)).numbers bound).map (· + k) =
          (Arg.list (v :: vs)).numbers (bound + k) := by
        have hk : (fun n => n + k) = (fun n => k + n) := funext fun n => Nat.add_comm n k
        have hb : k + (bound + 1) = bound + k + 1 := by omega
        rw [Arg.numbers, Arg.numbers, hk, List.map_add_range', hb]
      simp [ofArg, map_shift_listing, hn, shift]

end Token

namespace Statement

/-- The statement as it stands after `k` further values. -/
def shift (k : Nat) (s : Statement V) : Statement V :=
  ⟨s.tokens.map (Token.shift k), s.params, s.surplus⟩

/-- Two statements as one: the values of the second are numbered after those of the first. -/
def followedBy (s t : Statement V) : Statement V := s.append (t.shift s.params.length)

def literal (t : String) : Statement V := ⟨Token.ofText t, [], 0⟩

theorem shift_zero (s : Statement V) : s.shift 0 = s := by
  have hs : s.tokens.map (Token.shift 0) = s.tokens :=
    List.map_id'' Token.shift_zero s.tokens
  rw [shift, hs]

theorem shift_shift (k m : Nat) (s : Statement V) : (s.shift k).shift m = s.shift (k + m) := by
  have hs : (s.tokens.map (Token.shift k)).map (Token.shift m) =
      s.tokens.map (Token.shift (k + m)) := by
    rw [List.map_map]
    exact List.map_congr_left fun t _ => Token.shift_shift k m t
  rw [shift, shift, hs, shift]

theorem shift_literal (k : Nat) (t : String) : (literal t : Statement V).shift k = literal t :=
  congrArg (fun ts => Statement.mk ts [] 0) (Token.map_shift_ofText k t)

theorem shift_append (k : Nat) (s t : Statement V) :
    (s.append t).shift k = (s.shift k).append (t.shift k) := by
  rw [shift, append, List.map_append]
  rfl

theorem append_assoc (s t u : Statement V) :
    (s.append t).append u = s.append (t.append u) := by
  simp only [append, List.append_assoc, Nat.add_assoc]

theorem followedBy_assoc (s t u : Statement V) :
    (s.followedBy t).followedBy u = s.followedBy (t.followedBy u) := by
  have hl : (s.followedBy t).params.length = t.params.length + s.params.length := by
    rw [Nat.add_comm]
    exact List.length_append
  rw [followedBy, hl, ← shift_shift, followedBy, followedBy, followedBy, append_assoc, shift_append]

theorem followedBy_empty (s : Statement V) : s.followedBy empty = s := by
  simp [followedBy, append, shift, empty]

theorem empty_followedBy (s : Statement V) : empty.followedBy s = s := by
  have hs : s.shift 0 = s := shift_zero s
  simp [followedBy, append, empty, hs]

/-- What is written does not depend on the values before it. -/
theorem write_eq_followedBy (s : Statement V) (t : String) :
    s.write t = s.followedBy (literal t) := by
  rw [followedBy, shift_literal, append, literal, List.append_nil]
  rfl

theorem bind_eq_followedBy (s : Statement V) (v : V) : s.bind v = s.followedBy (empty.bind v) := by
  have hn : 0 + 1 + s.params.length = s.params.length + 1 := by omega
  simp [followedBy, append, shift, bind, empty, Token.shift, hn]

/-- A template that is filled later takes later numbers and is otherwise the same. -/
theorem shift_fillPieces (k bound : Nat) (ps : List Piece) (as : List (Arg V)) :
    (fillPieces bound ps as).shift k = fillPieces (bound + k) ps as := by
  induction ps generalizing bound as with
  | nil => rfl
  | cons p ps ih =>
    cases p with
    | char c =>
      rw [fillPieces, fillPieces, ← ih]
      rfl
    | slot =>
      cases as with
      | nil =>
        rw [fillPieces, fillPieces, ← ih]
        rfl
      | cons a as =>
        rw [fillPieces, fillPieces, Nat.add_right_comm bound k, ← ih, ← Token.map_shift_ofArg, shift,
          List.map_append]
        rfl

theorem fill_eq_followedBy (s : Statement V) (template : String) (as : List (Arg V)) :
    s.fill template as = s.followedBy (empty.fill template as) := by
  have he : empty.fill template as = fillPieces 0 (pieces template.toList) as := by
    simp [fill, empty]
  rw [fill_eq_append, he, followedBy, shift_fillPieces, Nat.zero_add]

theorem text_followedBy (s t : Statement V) :
    (s.followedBy t).text = s.text ++ (t.shift s.params.length).text := by
  rw [← String.toList_inj, String.toList_append, toList_text, toList_text, toList_text]
  exact List.flatMap_append

theorem text_literal (t : String) : (literal t : Statement V).text = t := by
  rw [← String.toList_inj, toList_text]
  exact chars_ofText t

/-- The condition of a statement: nothing without a predicate. -/
def condition (predicate : String) (args : List (Arg V)) : Statement V :=
  if predicate = "" then empty else (literal " WHERE ").followedBy (empty.fill predicate args)

theorem filtered_eq_followedBy (s : Statement V) (scope : Scope V) :
    s.filtered scope = s.followedBy (condition scope.predicate scope.args) := by
  by_cases h : scope.predicate = ""
  · have hu : scope.isUnfiltered = true := by simp [Scope.isUnfiltered, h]
    rw [filtered_of_unfiltered hu, condition, if_pos h, followedBy_empty]
  · have hu : ¬scope.isUnfiltered = true := by simpa [Scope.isUnfiltered] using h
    rw [filtered, if_neg hu, condition, if_neg h, fill_eq_followedBy, write_eq_followedBy,
      followedBy_assoc]

theorem text_condition (predicate : String) (args : List (Arg V)) :
    (condition predicate args).text =
      if predicate = "" then "" else " WHERE " ++ (empty.fill predicate args).text := by
  by_cases h : predicate = ""
  · rw [condition, if_pos h, if_pos h]
    rfl
  · rw [condition, if_neg h, if_neg h, text_followedBy, text_literal]
    exact congrArg (fun s : Statement V => " WHERE " ++ s.text) (shift_zero _)

theorem text_literal_followedBy (t : String) (s : Statement V) :
    ((literal t).followedBy s).text = t ++ s.text := by
  have hs : s.shift 0 = s := shift_zero s
  rw [text_followedBy, text_literal]
  exact congrArg (fun s : Statement V => t ++ s.text) hs

end Statement

/-- The values that an assignment binds. -/
def Assignment.bound : Assignment V → List V
  | .value v => [v]
  | .expr sql args => Arg.flatten (args.take (Statement.slots sql))

/-- The arguments that an assignment has no slot for. -/
def Assignment.unbound : Assignment V → List (Arg V)
  | .value _ => []
  | .expr sql args => args.drop (Statement.slots sql)

namespace Statement

theorem setColumn_eq_followedBy (s : Statement V) (column : String) (a : Assignment V) :
    s.setColumn column a = s.followedBy (empty.setColumn column a) := by
  cases a with
  | value v =>
    rw [setColumn, setColumn, bind_eq_followedBy, write_eq_followedBy,
      bind_eq_followedBy (empty.write _), write_eq_followedBy empty, empty_followedBy,
      followedBy_assoc]
  | expr sql args =>
    rw [setColumn, setColumn, fill_eq_followedBy, write_eq_followedBy,
      fill_eq_followedBy (empty.write _), write_eq_followedBy empty, empty_followedBy,
      followedBy_assoc]

theorem setColumns_cons_cons (s : Statement V) (e f : String × Assignment V)
    (es : List (String × Assignment V)) :
    s.setColumns (e :: f :: es) = ((s.setColumn e.1 e.2).write ", ").setColumns (f :: es) := rfl

/-- Assignments are written alike after whatever comes before them. -/
theorem setColumns_eq_followedBy (s : Statement V) (es : List (String × Assignment V)) :
    s.setColumns es = s.followedBy (empty.setColumns es) := by
  induction es generalizing s with
  | nil => exact (followedBy_empty s).symm
  | cons e es ih =>
    cases es with
    | nil => exact setColumn_eq_followedBy s e.1 e.2
    | cons f es =>
      rw [setColumns_cons_cons, setColumns_cons_cons, ih,
        ih ((empty.setColumn e.1 e.2).write ", "), setColumn_eq_followedBy, write_eq_followedBy,
        write_eq_followedBy, followedBy_assoc, followedBy_assoc, followedBy_assoc]

theorem params_setColumn (s : Statement V) (column : String) (a : Assignment V) :
    (s.setColumn column a).params = s.params ++ a.bound := by
  cases a with
  | value v => rfl
  | expr sql args =>
    exact congrArg (s.params ++ ·) (params_fillPieces _ (pieces sql.toList) args)

theorem surplus_setColumn (s : Statement V) (column : String) (a : Assignment V) :
    (s.setColumn column a).surplus = s.surplus + a.unbound.length := by
  cases a with
  | value v => rfl
  | expr sql args =>
    rw [Assignment.unbound, List.length_drop]
    exact congrArg (s.surplus + ·) (surplus_fillPieces _ (pieces sql.toList) args)

theorem params_setColumns (s : Statement V) (es : List (String × Assignment V)) :
    (s.setColumns es).params = s.params ++ es.flatMap (fun e => e.2.bound) := by
  induction es generalizing s with
  | nil => exact (List.append_nil s.params).symm
  | cons e es ih =>
    have he : ((s.setColumn e.1 e.2).write ", ").params = s.params ++ e.2.bound :=
      params_setColumn s e.1 e.2
    rw [List.flatMap_cons, ← List.append_assoc, ← he]
    cases es with
    | nil => exact (List.append_nil _).symm
    | cons f es => rw [setColumns_cons_cons, ih]

theorem surplus_setColumns (s : Statement V) (es : List (String × Assignment V)) :
    (s.setColumns es).surplus = s.surplus + (es.flatMap (fun e => e.2.unbound)).length := by
  induction es generalizing s with
  | nil => rfl
  | cons e es ih =>
    have he : ((s.setColumn e.1 e.2).write ", ").surplus = s.surplus + e.2.unbound.length :=
      surplus_setColumn s e.1 e.2
    rw [List.flatMap_cons, List.length_append, ← Nat.add_assoc, ← he]
    cases es with
    | nil => rfl
    | cons f es => rw [setColumns_cons_cons, ih]

end Statement

/-- The assignments of an update, written on their own. -/
def Assignments.statement (a : Assignments V) : Statement V := Statement.empty.setColumns a.entries

namespace Scope

open Statement

/-- The condition of a scope, written on its own. Only the predicate and its arguments matter. -/
def condition (s : Scope V) : Statement V := Statement.condition s.predicate s.args

theorem text_condition_eq_empty_iff (s : Scope V) : s.condition.text = "" ↔ s.predicate = "" := by
  rw [condition, text_condition]
  by_cases h : s.predicate = ""
  · simp [h]
  · simp [h]

theorem projection_eq (s : Scope V) :
    s.projection = if s.columns = [] then "*" else ", ".intercalate s.columns := by
  simp only [projection, List.isEmpty_iff]

theorem tail_eq (s : Scope V) :
    s.tail = (if s.order = "" then "" else " ORDER BY " ++ s.order) ++
      s.limit.elim "" (" LIMIT " ++ toString ·) ++ s.offset.elim "" (" OFFSET " ++ toString ·) := by
  simp only [tail, String.isEmpty_iff]

theorem countStatement_eq (s : Scope V) :
    s.countStatement = (literal ("SELECT COUNT(*) FROM " ++ s.table)).followedBy s.condition := by
  rw [countStatement, filtered_eq_followedBy, write_eq_followedBy, empty_followedBy, condition]

theorem deleteStatement_eq (s : Scope V) :
    s.deleteStatement = (literal ("DELETE FROM " ++ s.table)).followedBy s.condition := by
  rw [deleteStatement, filtered_eq_followedBy, write_eq_followedBy, empty_followedBy, condition]

theorem selectStatement_eq (s : Scope V) :
    s.selectStatement =
      ((literal ("SELECT " ++ s.projection ++ " FROM " ++ s.table)).followedBy s.condition).write
        s.tail := by
  rw [selectStatement, filtered_eq_followedBy, write_eq_followedBy empty, empty_followedBy,
    condition]

theorem updateStatement_eq (s : Scope V) (a : Assignments V) :
    s.updateStatement a =
      (literal ("UPDATE " ++ s.table ++ " SET ")).followedBy
        (a.statement.followedBy s.condition) := by
  rw [updateStatement, filtered_eq_followedBy, setColumns_eq_followedBy, write_eq_followedBy,
    empty_followedBy, followedBy_assoc, condition, Assignments.statement]

/-- The four statements of a scope select the same rows: all have the same condition with the same
values, whatever the table, the columns, the order and the bounds are. In an update the condition
comes after the assignments, and so do its numbers; only the expressions of the assignments have
slots for arguments. -/
theorem statements_share_condition (s : Scope V) (a : Assignments V) :
    (s.condition.text = "" ↔ s.predicate = "") ∧
    (s.condition.text =
      if s.predicate = "" then "" else " WHERE " ++ (empty.fill s.predicate s.args).text) ∧
    s.countStatement.text = "SELECT COUNT(*) FROM " ++ s.table ++ s.condition.text ∧
    s.deleteStatement.text = "DELETE FROM " ++ s.table ++ s.condition.text ∧
    s.selectStatement.text =
      "SELECT " ++ (if s.columns = [] then "*" else ", ".intercalate s.columns) ++ " FROM " ++
        s.table ++ s.condition.text ++ (if s.order = "" then "" else " ORDER BY " ++ s.order) ++
        s.limit.elim "" (" LIMIT " ++ toString ·) ++ s.offset.elim "" (" OFFSET " ++ toString ·) ∧
    (s.countStatement.params = s.condition.params ∧ s.deleteStatement.params = s.condition.params ∧
      s.selectStatement.params = s.condition.params) ∧
    (s.countStatement.surplus = s.condition.surplus ∧
      s.deleteStatement.surplus = s.condition.surplus ∧
      s.selectStatement.surplus = s.condition.surplus) ∧
    (s.updateStatement a).text = "UPDATE " ++ s.table ++ " SET " ++ a.statement.text ++
      (s.condition.shift a.statement.params.length).text ∧
    (s.updateStatement a).params = a.statement.params ++ s.condition.params ∧
    (s.updateStatement a).surplus = a.statement.surplus + s.condition.surplus ∧
    a.statement.params = a.entries.flatMap (fun e => e.2.bound) ∧
    a.statement.surplus = (a.entries.flatMap (fun e => e.2.unbound)).length := by
  have hp (t : String) (q : Statement V) : ((literal t).followedBy q).params = q.params := rfl
  have hs (t : String) (q : Statement V) : ((literal t).followedBy q).surplus = q.surplus :=
    Nat.zero_add q.surplus
  refine ⟨s.text_condition_eq_empty_iff, text_condition s.predicate s.args, ?_, ?_, ?_,
    ⟨?_, ?_, ?_⟩, ⟨?_, ?_, ?_⟩, ?_, ?_, ?_, ?_, ?_⟩
  · rw [countStatement_eq, text_literal_followedBy]
  · rw [deleteStatement_eq, text_literal_followedBy]
  · rw [selectStatement_eq, text_write, text_literal_followedBy, projection_eq, tail_eq,
      ← String.append_assoc, ← String.append_assoc]
  · rw [countStatement_eq, hp]
  · rw [deleteStatement_eq, hp]
  · rw [selectStatement_eq]
    exact hp _ s.condition
  · rw [countStatement_eq, hs]
  · rw [deleteStatement_eq, hs]
  · rw [selectStatement_eq]
    exact hs _ s.condition
  · rw [updateStatement_eq, text_literal_followedBy, text_followedBy, ← String.append_assoc]
  · rw [updateStatement_eq, hp]
    rfl
  · rw [updateStatement_eq, hs]
    rfl
  · exact params_setColumns empty a.entries
  · rw [Assignments.statement, surplus_setColumns]
    exact Nat.zero_add _

end Scope

end RowQuery
