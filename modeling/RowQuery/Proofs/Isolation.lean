import Mathlib
import RowQuery.Proofs.Composition
import RowQuery.Proofs.SortedMaps

namespace RowQuery

variable {V : Type}

open Statement

/-- What is assigned to a column, written on its own. -/
def Assignment.alone : Assignment V → Statement V
  | .value v => empty.bind v
  | .expr sql args => empty.fill sql args

/-- How many values are bound before the column of number `i`. -/
def boundBefore (es : List (String × Assignment V)) (i : Nat) : Nat :=
  ((es.take i).flatMap (fun e => e.2.alone.params)).length

namespace Statement

/-- One column with what is assigned to it, written on its own. -/
def column (e : String × Assignment V) : Statement V :=
  (literal (e.1 ++ " = ")).followedBy e.2.alone

theorem setColumn_eq_column (e : String × Assignment V) :
    empty.setColumn e.1 e.2 = column e := by
  obtain ⟨name, a⟩ := e
  cases a with
  | value v =>
    rw [setColumn, bind_eq_followedBy, write_eq_followedBy, empty_followedBy]
    rfl
  | expr sql args =>
    rw [setColumn, fill_eq_followedBy, write_eq_followedBy, empty_followedBy]
    rfl

theorem setColumns_singleton (e : String × Assignment V) : empty.setColumns [e] = column e :=
  setColumn_eq_column e

theorem setColumns_cons (e f : String × Assignment V) (es : List (String × Assignment V)) :
    empty.setColumns (e :: f :: es) =
      (column e).followedBy ((literal ", ").followedBy (empty.setColumns (f :: es))) := by
  rw [setColumns_cons_cons, setColumns_eq_followedBy, write_eq_followedBy, setColumn_eq_column,
    followedBy_assoc]

theorem text_shift_followedBy (k : Nat) (s t : Statement V) :
    ((s.followedBy t).shift k).text =
      (s.shift k).text ++ (t.shift (s.params.length + k)).text := by
  rw [followedBy, shift_append, shift_shift, ← String.toList_inj, String.toList_append, toList_text,
    toList_text, toList_text]
  exact List.flatMap_append

theorem text_shift_literal_followedBy (k : Nat) (t : String) (s : Statement V) :
    (((literal t).followedBy s).shift k).text = t ++ (s.shift k).text := by
  have hk : (literal t : Statement V).params.length + k = k := Nat.zero_add k
  rw [text_shift_followedBy, shift_literal, text_literal, hk]

/-- The text of a column where `k` values are bound before it. -/
def columnText (k : Nat) (e : String × Assignment V) : String :=
  e.1 ++ " = " ++ (e.2.alone.shift k).text

/-- Every column is written as on its own, only that its numbers come after those before it. -/
theorem text_setColumns (k : Nat) (es : List (String × Assignment V)) :
    ((empty.setColumns es).shift k).text =
      ", ".intercalate (es.mapIdx fun i e => columnText (boundBefore es i + k) e) := by
  -- `k` grows by what the first column binds
  induction es generalizing k with
  | nil => rfl
  | cons e es ih =>
    have hz : boundBefore (e :: es) 0 + k = k := Nat.zero_add k
    have hc : ((column e).shift k).text = columnText k e :=
      text_shift_literal_followedBy k (e.1 ++ " = ") e.2.alone
    cases es with
    | nil =>
      rw [setColumns_singleton, hc, List.mapIdx_cons, List.mapIdx_nil,
        String.intercalate_singleton, hz]
    | cons f es =>
      let later := e.2.alone.params.length + k
      have hb (i : Nat) :
          boundBefore (e :: f :: es) (i + 1) + k = boundBefore (f :: es) i + later := by
        simp only [boundBefore, List.take_succ_cons, List.flatMap_cons, List.length_append, later]
        omega
      have hm : (e :: f :: es).mapIdx
            (fun i g => columnText (boundBefore (e :: f :: es) i + k) g) =
          columnText k e ::
            (f :: es).mapIdx (fun i g => columnText (boundBefore (f :: es) i + later) g) := by
        rw [List.mapIdx_cons, hz]
        simp only [hb]
      have hl : (column e).params.length + k = later := rfl
      rw [setColumns_cons, text_shift_followedBy, text_shift_literal_followedBy, hc, hl, ih later,
        hm, String.intercalate_cons_of_ne_nil (by simp), String.append_assoc]

/-- The tokens of a statement with the values in the place of their numbers. -/
def resolved (s : Statement V) : List (Char ⊕ Option V) :=
  s.tokens.map fun
    | .char c => .inl c
    | .param n => .inr s.params[n - 1]?

/-- Every number has a value. -/
def Grounded (s : Statement V) : Prop := ∀ n, .param n ∈ s.tokens → 0 < n ∧ n ≤ s.params.length

theorem grounded_literal (t : String) : (literal t : Statement V).Grounded := by
  intro n hn
  obtain ⟨c, -, hc⟩ := List.mem_map.mp hn
  cases hc

theorem mem_of_mem_listing {n : Nat} {ns : List Nat} (h : .param n ∈ Token.listing ns) :
    n ∈ ns := by
  induction ns with
  | nil => cases h
  | cons m ns ih =>
    cases ns with
    | nil => simpa [Token.listing] using h
    | cons k ns =>
      change .param n ∈ .param m :: (Token.ofText ", " ++ Token.listing (k :: ns)) at h
      obtain h | h := List.mem_cons.mp h
      · exact List.mem_cons.mpr (.inl (Token.param.inj h))
      · obtain h | h := List.mem_append.mp h
        · exact absurd h (by simp [Token.ofText])
        · exact List.mem_cons_of_mem m (ih h)

theorem bounds_of_mem_ofArg {n bound : Nat} {a : Arg V} (h : .param n ∈ Token.ofArg bound a) :
    bound < n ∧ n ≤ bound + a.size := by
  cases a with
  | scalar v =>
    obtain rfl : n = bound + 1 := by simpa [Token.ofArg] using h
    exact ⟨Nat.lt_succ_self bound, Nat.le_refl _⟩
  | list vs =>
    cases vs with
    | nil => exact absurd h (by simp [Token.ofArg, Token.ofText])
    | cons v vs =>
      have hn : n ∈ (Arg.list (v :: vs)).numbers bound :=
        mem_of_mem_listing (by simpa [Token.ofArg] using h)
      rw [Arg.numbers, List.mem_range'_1] at hn
      omega

theorem bounds_of_mem_fillPieces {n bound : Nat} {ps : List Piece} {as : List (Arg V)}
    (h : .param n ∈ (fillPieces bound ps as).tokens) :
    bound < n ∧ n ≤ bound + (fillPieces bound ps as).params.length := by
  induction ps generalizing bound as with
  | nil => cases h
  | cons p ps ih =>
    cases p with
    | char c =>
      exact ih (by simpa [fillPieces] using h)
    | slot =>
      cases as with
      | nil => exact ih (by simpa [fillPieces] using h)
      | cons a as =>
        have hl : (fillPieces bound (.slot :: ps) (a :: as)).params.length =
            a.size + (fillPieces (bound + a.size) ps as).params.length := List.length_append
        rw [hl]
        obtain h | h := List.mem_append.mp h
        · have := bounds_of_mem_ofArg h
          omega
        · have := ih h
          omega

theorem grounded_fill (template : String) (args : List (Arg V)) :
    (empty.fill template args).Grounded := by
  intro n hn
  have h := bounds_of_mem_fillPieces hn
  exact ⟨h.1, h.2.trans (Nat.zero_add _).le⟩

theorem Grounded.followedBy {s t : Statement V} (hs : s.Grounded) (ht : t.Grounded) :
    (s.followedBy t).Grounded := by
  intro n hn
  have hl : (s.followedBy t).params.length = s.params.length + t.params.length :=
    List.length_append
  rw [hl]
  obtain hn | hn := List.mem_append.mp hn
  · have := hs n hn
    omega
  · obtain ⟨x, hx, hxn⟩ := List.mem_map.mp hn
    cases x with
    | char c => cases hxn
    | param m =>
      obtain rfl : m + s.params.length = n := Token.param.inj hxn
      have := ht m hx
      omega

theorem grounded_alone (a : Assignment V) : a.alone.Grounded := by
  cases a with
  | value v =>
    intro n hn
    obtain rfl : n = 1 := by simpa [Assignment.alone, bind, empty] using hn
    exact ⟨Nat.one_pos, Nat.le_refl 1⟩
  | expr sql args => exact grounded_fill sql args

theorem grounded_column (e : String × Assignment V) : (column e).Grounded :=
  (grounded_literal _).followedBy (grounded_alone e.2)

/-- Two statements one after another keep their own values, though not their numbers. -/
theorem resolved_followedBy {s t : Statement V} (hs : s.Grounded) (ht : t.Grounded) :
    (s.followedBy t).resolved = s.resolved ++ t.resolved := by
  have hp : (s.followedBy t).params = s.params ++ t.params := rfl
  have hk : (s.followedBy t).tokens = s.tokens ++ t.tokens.map (Token.shift s.params.length) := rfl
  rw [resolved, hk, hp, List.map_append, List.map_map, resolved, resolved]
  congr 1
  · refine List.map_congr_left fun x hx => ?_
    cases x with
    | char c => rfl
    | param n =>
      have := hs n hx
      exact congrArg Sum.inr (List.getElem?_append_left (by omega))
  · refine List.map_congr_left fun x hx => ?_
    cases x with
    | char c => rfl
    | param n =>
      have := ht n hx
      have hi : n + s.params.length - 1 - s.params.length = n - 1 := by omega
      refine congrArg Sum.inr ((List.getElem?_append_right (by omega)).trans ?_)
      rw [hi]

theorem grounded_setColumns (es : List (String × Assignment V)) :
    (empty.setColumns es).Grounded := by
  induction es with
  | nil => exact grounded_literal ""
  | cons e es ih =>
    cases es with
    | nil =>
      rw [setColumns_singleton]
      exact grounded_column e
    | cons f es =>
      rw [setColumns_cons]
      exact (grounded_column e).followedBy ((grounded_literal ", ").followedBy ih)

/-- Text as it stands among resolved tokens. -/
def plain (t : String) : List (Char ⊕ Option V) := t.toList.map .inl

theorem resolved_literal (t : String) : (literal t : Statement V).resolved = plain t := by
  rw [resolved, literal, Token.ofText, List.map_map, plain]
  rfl

theorem resolved_column (e : String × Assignment V) :
    (column e).resolved = plain (e.1 ++ " = ") ++ e.2.alone.resolved := by
  rw [column, resolved_followedBy (grounded_literal _) (grounded_alone e.2), resolved_literal]

theorem resolved_setColumns (es : List (String × Assignment V)) :
    (empty.setColumns es).resolved =
      (plain ", ").intercalate (es.map fun e => plain (e.1 ++ " = ") ++ e.2.alone.resolved) := by
  induction es with
  | nil => rfl
  | cons e es ih =>
    cases es with
    | nil =>
      rw [setColumns_singleton, resolved_column, List.map_singleton, List.intercalate_singleton]
    | cons f es =>
      have hc := grounded_setColumns (f :: es)
      rw [setColumns_cons, resolved_followedBy (grounded_column e)
          ((grounded_literal ", ").followedBy hc),
        resolved_followedBy (grounded_literal ", ") hc, resolved_literal, resolved_column, ih,
        ← List.append_assoc]
      exact (List.intercalate_cons_cons ..).symm

theorem params_alone (a : Assignment V) : a.alone.params = a.bound := by
  cases a with
  | value v => rfl
  | expr sql args => exact params_fillPieces _ (pieces sql.toList) args

theorem surplus_alone (a : Assignment V) : a.alone.surplus = a.unbound.length := by
  cases a with
  | value v => rfl
  | expr sql args =>
    rw [Assignment.unbound, List.length_drop]
    exact (Nat.zero_add _).trans (surplus_fillPieces _ (pieces sql.toList) args)

end Statement

namespace Scope

/-- What a scope selects rows by, written on its own. Without a predicate there is nothing to
write. -/
def selection (s : Scope V) : Statement V :=
  if s.predicate = "" then empty else empty.fill s.predicate s.args

theorem condition_eq_selection (s : Scope V) :
    s.condition =
      if s.predicate = "" then empty else (literal " WHERE ").followedBy s.selection := by
  rw [condition, Statement.condition, selection]
  by_cases h : s.predicate = ""
  · rw [if_pos h, if_pos h]
  · rw [if_neg h, if_neg h, if_neg h]

theorem params_condition (s : Scope V) : s.condition.params = s.selection.params := by
  rw [condition_eq_selection]
  by_cases h : s.predicate = ""
  · rw [if_pos h, selection, if_pos h]
  · rw [if_neg h]
    rfl

theorem surplus_condition (s : Scope V) : s.condition.surplus = s.selection.surplus := by
  rw [condition_eq_selection]
  by_cases h : s.predicate = ""
  · rw [if_pos h, selection, if_pos h]
  · rw [if_neg h]
    exact Nat.zero_add _

theorem text_shift_condition (s : Scope V) (k : Nat) :
    (s.condition.shift k).text =
      if s.predicate = "" then "" else " WHERE " ++ (s.selection.shift k).text := by
  rw [condition_eq_selection]
  by_cases h : s.predicate = ""
  · rw [if_pos h, if_pos h]
    rfl
  · rw [if_neg h, if_neg h, text_shift_literal_followedBy]

theorem grounded_selection (s : Scope V) : s.selection.Grounded := by
  rw [selection]
  split
  · exact grounded_literal ""
  · exact grounded_fill s.predicate s.args

theorem grounded_condition (s : Scope V) : s.condition.Grounded := by
  rw [condition_eq_selection]
  split
  · exact grounded_literal ""
  · exact (grounded_literal " WHERE ").followedBy s.grounded_selection

theorem resolved_condition (s : Scope V) :
    s.condition.resolved =
      if s.predicate = "" then [] else plain " WHERE " ++ s.selection.resolved := by
  rw [condition_eq_selection]
  by_cases h : s.predicate = ""
  · rw [if_pos h, if_pos h]
    rfl
  · rw [if_neg h, if_neg h, resolved_followedBy (grounded_literal _) s.grounded_selection,
      resolved_literal]

/-- In an update every column keeps its own values. The columns are in the order of their bytes;
each of them and the condition is written as on its own, with its numbers after those before it; the
values and the arguments left over are those of the columns and the condition on their own. With the
values in the place of their numbers, no column and no condition depends on another one, however
many arguments one of them lacks or has too many. -/
theorem update_isolates_columns (s : Scope V) (a : Assignments V) :
    let q := s.updateStatement a
    let es := a.entries
    q.text = "UPDATE " ++ s.table ++ " SET " ++
      ", ".intercalate (es.mapIdx fun i e => columnText (boundBefore es i) e) ++
      (if s.predicate = "" then ""
        else " WHERE " ++ (s.selection.shift (boundBefore es es.length)).text) ∧
    es.Pairwise (fun e f => KeyOrder.textBytes e.1 < KeyOrder.textBytes f.1) ∧
    q.params = es.flatMap (fun e => e.2.alone.params) ++ s.selection.params ∧
    q.surplus = (es.map (fun e => e.2.alone.surplus)).sum + s.selection.surplus ∧
    q.resolved = plain ("UPDATE " ++ s.table ++ " SET ") ++
      (plain ", ").intercalate (es.map fun e => plain (e.1 ++ " = ") ++ e.2.alone.resolved) ++
      (if s.predicate = "" then [] else plain " WHERE " ++ s.selection.resolved) := by
  intro q es
  let set : Statement V := empty.setColumns es
  have hq : q = (literal ("UPDATE " ++ s.table ++ " SET ")).followedBy
      (set.followedBy s.condition) := s.updateStatement_eq a
  have hparams : set.params = es.flatMap (fun e => e.2.alone.params) := by
    simp only [params_alone]
    exact params_setColumns empty es
  have hbound : set.params.length = boundBefore es es.length := by
    rw [hparams, boundBefore, List.take_length]
  have hset : set.text = ", ".intercalate (es.mapIdx fun i e => columnText (boundBefore es i) e) :=
    (congrArg text (shift_zero set)).symm.trans (text_setColumns 0 es)
  have hsurplus : set.surplus = (es.map (fun e => e.2.alone.surplus)).sum := by
    simp only [surplus_alone]
    rw [surplus_setColumns, List.length_flatMap]
    exact Nat.zero_add _
  refine ⟨?_, a.sorted.imp KeyOrder.before_textBytes, ?_, ?_, ?_⟩
  · rw [hq, text_literal_followedBy, text_followedBy, hset, hbound, text_shift_condition,
      ← String.append_assoc]
  · rw [hq, ← hparams, ← params_condition]
    rfl
  · rw [hq, ← hsurplus, ← surplus_condition]
    exact Nat.zero_add _
  · have hg : set.Grounded := grounded_setColumns es
    rw [hq, resolved_followedBy (grounded_literal _) (hg.followedBy s.grounded_condition),
      resolved_followedBy hg s.grounded_condition, resolved_literal, resolved_setColumns,
      resolved_condition, List.append_assoc]

/-- One column lacks an argument and another has one too many. -/
example :
    let s : Scope Nat := ⟨"t", [], "d = ?", [.scalar 4], "", none, none⟩
    let q := s.updateStatement (((SortedMap.empty.insert "c" (.value 3)).insert "b"
      (.expr "?" [.scalar 2, .scalar 5])).insert "a" (.expr "? + ?" [.scalar 1]))
    q.text = "UPDATE t SET a = $1 + ?, b = $2, c = $3 WHERE d = $4" ∧ q.params = [1, 2, 3, 4] ∧
      q.surplus = 1 := by
  decide +kernel

end Scope

end RowQuery
