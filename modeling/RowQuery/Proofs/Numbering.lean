import Mathlib.Data.List.Chain
import RowQuery.Proofs.Numbers

namespace RowQuery

namespace Statement

variable {V : Type}

/-- A template in which nothing looks like a number of its own: there is no dollar sign, and no
question mark stands directly before a digit. -/
structure Legible (cs : List Char) : Prop where
  dollarless : '$' ∉ cs
  spaced : cs.IsChain (fun a b => a = '?' → b.isDigit = false)

theorem Legible.tail {c : Char} {cs : List Char} (h : Legible (c :: cs)) : Legible cs :=
  ⟨List.not_mem_of_not_mem_cons h.dollarless, h.spaced.tail⟩

theorem Legible.apart {cs : List Char} (h : Legible ('?' :: cs)) : Apart cs := by
  intro c hc
  cases cs with
  | nil => simp at hc
  | cons d cs =>
    obtain rfl : d = c := by simpa using hc
    exact (List.isChain_cons_cons.mp h.spaced).1 rfl

theorem apart_ofArg (bound : Nat) (a : Arg V) (ts : List Token) :
    Apart ((Token.ofArg bound a ++ ts).flatMap Token.chars) := by
  cases a with
  | scalar v => exact apart_cons (by decide) _
  | list vs =>
    cases vs with
    | nil => exact apart_cons (by decide) _
    | cons v vs => exact apart_cons (by decide) _

/-- Filling a template does not put a digit at its front. -/
theorem apart_fillPieces (bound : Nat) {cs : List Char} (h : Apart cs) (as : List (Arg V)) :
    Apart (fillPieces bound (pieces cs) as).chars := by
  fun_cases pieces cs with
  | case1 => simp [fillPieces, chars, Apart]
  | case2 cs => exact apart_cons (by decide) _
  | case3 cs _ =>
    cases as with
    | nil => exact apart_cons (by decide) _
    | cons a as => exact apart_ofArg bound a _
  | case4 c cs _ _ => exact apart_cons (h c rfl) _

theorem numbers_cons {c : Char} (hc : c ≠ '$') (cs : List Char) :
    numbers (c :: cs) = numbers cs := by
  rw [numbers, if_neg hc]

/-- The numbers of a filled template go on from those before it. -/
theorem numbers_fillPieces (bound : Nat) {cs : List Char} (h : Legible cs) (as : List (Arg V)) :
    numbers (fillPieces bound (pieces cs) as).chars =
      List.range' (bound + 1) (fillPieces bound (pieces cs) as).params.length := by
  fun_induction pieces cs generalizing bound as with
  | case1 => rfl
  | case2 cs ih =>
    change numbers ('?' :: (fillPieces bound (pieces cs) as).chars) = _
    rw [numbers_cons (by decide), ih bound h.tail.tail]
    rfl
  | case3 cs _ ih =>
    cases as with
    | nil =>
      change numbers ('?' :: (fillPieces bound (pieces cs) []).chars) = _
      rw [numbers_cons (by decide), ih bound h.tail]
      rfl
    | cons a as =>
      let rest := fillPieces (bound + a.size) (pieces cs) as
      have ha : Apart rest.chars := apart_fillPieces (bound + a.size) h.apart as
      have hr : numbers rest.chars = List.range' (bound + a.size + 1) rest.params.length :=
        ih (bound + a.size) h.tail as
      have hl : (a.values ++ rest.params).length = a.size + rest.params.length :=
        List.length_append
      have hs : (Token.ofArg bound a ++ rest.tokens).flatMap Token.chars =
          (Token.ofArg bound a).flatMap Token.chars ++ rest.chars := List.flatMap_append
      change numbers ((Token.ofArg bound a ++ rest.tokens).flatMap Token.chars) =
        List.range' (bound + 1) (a.values ++ rest.params).length
      rw [hs, numbers_append _ ha, numbers_ofArg, hr, hl, Arg.numbers, Nat.add_right_comm,
        List.range'_append_1]
  | case4 c cs _ _ ih =>
    have hc : c ≠ '$' := Ne.symm (List.ne_of_not_mem_cons h.dollarless)
    change numbers (c :: (fillPieces bound (pieces cs) as).chars) = _
    rw [numbers_cons hc, ih bound h.tail]
    rfl

/-- The numbers in the text of a statement are 1, 2, 3 and so on, one for each bound value. -/
def Numbered (s : Statement V) : Prop := numbers s.chars = List.range' 1 s.params.length

/-- Text between values: it has no number of its own and does not run on from one. -/
structure Joint (t : String) : Prop where
  dollarless : '$' ∉ t.toList
  apart : Apart t.toList

instance (t : String) : Decidable (Joint t) :=
  decidable_of_iff ('$' ∉ t.toList ∧ Apart t.toList) ⟨fun h => ⟨h.1, h.2⟩, fun h => ⟨h.1, h.2⟩⟩

theorem Numbered.write {s : Statement V} (h : s.Numbered) {t : String} (ht : Joint t) :
    (s.write t).Numbered := by
  rw [Numbered, chars_write, numbers_append _ ht.apart, numbers_plain ht.dollarless,
    List.append_nil]
  exact h

theorem Numbered.extend {s : Statement V} (h : s.Numbered) {x : List Char} (hx : Apart x)
    {vs : List V} (hv : numbers x = List.range' (s.params.length + 1) vs.length) :
    numbers (s.chars ++ x) = List.range' 1 (s.params ++ vs).length := by
  rw [numbers_append _ hx, hv, h, List.length_append, Nat.add_comm s.params.length 1,
    List.range'_append_1]

theorem Joint.apart_append {t : String} (h : Joint t) (hne : t ≠ "") (x : List Char) :
    Apart (t.toList ++ x) :=
  Statement.apart_append h.apart (fun he => hne (String.toList_eq_nil_iff.mp he)) x

theorem Numbered.fill {s : Statement V} (h : s.Numbered) {t template : String} (ht : Joint t)
    (hne : t ≠ "") (hl : Legible template.toList) (args : List (Arg V)) :
    ((s.write t).fill template args).Numbered := by
  let filled := fillPieces s.params.length (pieces template.toList) args
  have hf : numbers (t.toList ++ filled.chars) =
      List.range' (s.params.length + 1) filled.params.length := by
    rw [numbers_plain_append ht.dollarless, numbers_fillPieces _ hl]
  have hc : ((s.write t).fill template args).chars = s.chars ++ (t.toList ++ filled.chars) := by
    rw [← List.append_assoc, ← chars_write]
    exact List.flatMap_append
  rw [Numbered, hc]
  exact h.extend (ht.apart_append hne _) hf

theorem Numbered.bind {s : Statement V} (h : s.Numbered) {t : String} (ht : Joint t)
    (hne : t ≠ "") (v : V) : ((s.write t).bind v).Numbered := by
  let param : Token := .param (s.params.length + 1)
  have hp : numbers (t.toList ++ param.chars) =
      List.range' (s.params.length + 1) [v].length := by
    rw [numbers_plain_append ht.dollarless, numbers_param]
    rfl
  have hc : ((s.write t).bind v).chars = s.chars ++ (t.toList ++ param.chars) := by
    rw [← List.append_assoc, ← chars_write]
    simp [Statement.bind, chars, param]
    rfl
  rw [Numbered, hc]
  exact h.extend (ht.apart_append hne _) hp

theorem Numbered.filtered {s : Statement V} (h : s.Numbered) {scope : Scope V}
    (hl : Legible scope.predicate.toList) : (s.filtered scope).Numbered := by
  by_cases hu : scope.isUnfiltered
  · rwa [filtered_of_unfiltered hu]
  · rw [Statement.filtered, if_neg hu]
    exact h.fill (by decide) (by decide) hl scope.args

end Statement

open Statement

variable {V : Type}

/-- Names without dollar signs, and a condition in which nothing looks like a number of its own. -/
structure Scope.Legible (s : Scope V) : Prop where
  table : '$' ∉ s.table.toList
  columns : ∀ c ∈ s.columns, '$' ∉ c.toList
  order : '$' ∉ s.order.toList
  predicate : Statement.Legible s.predicate.toList

def Assignment.Legible : Assignment V → Prop
  | .value _ => True
  | .expr sql _ => Statement.Legible sql.toList

def Assignments.Legible (a : Assignments V) : Prop :=
  ∀ e ∈ a.entries, '$' ∉ e.1.toList ∧ e.2.Legible

theorem setColumn_write (s : Statement V) (t column : String) (a : Assignment V) :
    (s.write t).setColumn column a = s.setColumn (t ++ column) a := by
  cases a <;> simp only [setColumn, write_write, String.append_assoc]

theorem Statement.Joint.append {t u : String} (ht : Joint t) (hne : t ≠ "")
    (hu : '$' ∉ u.toList) : Joint (t ++ u) := by
  refine ⟨?_, ?_⟩
  · simp [ht.dollarless, hu]
  · rw [String.toList_append]
    exact ht.apart_append hne _

theorem Statement.Numbered.setColumn {s : Statement V} (h : s.Numbered) {t : String}
    (ht : Joint t) (hne : t ≠ "") {a : Assignment V} (ha : a.Legible) :
    (s.setColumn t a).Numbered := by
  have hj : Joint (t ++ " = ") := ht.append hne (by decide)
  have hn : t ++ " = " ≠ "" := by simp
  cases a with
  | value v => exact h.bind hj hn v
  | expr sql args => exact h.fill hj hn ha args

/-- Each column is numbered after those before it. -/
theorem Statement.Numbered.setColumns {s : Statement V} (h : s.Numbered) {t : String}
    (ht : Joint t) (hne : t ≠ "") {es : List (String × Assignment V)}
    (he : ∀ e ∈ es, '$' ∉ e.1.toList ∧ e.2.Legible) :
    ((s.write t).setColumns es).Numbered := by
  induction es generalizing s t with
  | nil => exact h.write ht
  | cons e es ih =>
    obtain ⟨hd, hl⟩ := he e (by simp)
    have hn : t ++ e.1 ≠ "" := by simp [hne]
    have hc : ((s.write t).setColumn e.1 e.2).Numbered := by
      rw [setColumn_write]
      exact h.setColumn (ht.append hne hd) hn hl
    cases es with
    | nil => exact hc
    | cons f es => exact ih hc (by decide) (by decide) fun g hg => he g (by simp [hg])

theorem numbered_empty : (Statement.empty : Statement V).Numbered := rfl

theorem dollar_notMem_toString (n : Nat) : '$' ∉ (toString n).toList := by
  rw [Nat.toString_eq_repr, Nat.toList_repr]
  exact dollar_notMem_toDigits n

theorem dollar_notMem_intercalate {cs : List String} (h : ∀ c ∈ cs, '$' ∉ c.toList) :
    '$' ∉ (", ".intercalate cs).toList := by
  induction cs with
  | nil => simp
  | cons c cs ih =>
    cases cs with
    | nil => simpa using h c (by simp)
    | cons d cs =>
      have hc : '$' ∉ c.toList := h c (by simp)
      have hs : '$' ∉ ", ".toList := by decide
      have hd := ih fun e he => h e (by simp [he])
      rw [String.intercalate_cons_cons, String.toList_append, String.toList_append]
      simp only [List.mem_append, not_or]
      exact ⟨⟨hc, hs⟩, hd⟩

theorem dollar_notMem_projection {s : Scope V} (h : ∀ c ∈ s.columns, '$' ∉ c.toList) :
    '$' ∉ s.projection.toList := by
  by_cases hc : s.columns.isEmpty
  · rw [Scope.projection, if_pos hc]
    decide
  · rw [Scope.projection, if_neg hc]
    exact dollar_notMem_intercalate h

theorem joint_empty : Joint "" := by decide

theorem Statement.Joint.concat {t u : String} (ht : Joint t) (hu : Joint u) : Joint (t ++ u) := by
  by_cases hne : t = ""
  · simpa [hne] using hu
  · exact ht.append hne hu.dollarless

theorem joint_bound {t : String} (ht : Joint t) (hne : t ≠ "") (n : Option Nat) :
    Joint (n.elim "" (t ++ toString ·)) := by
  cases n with
  | none => exact joint_empty
  | some n => exact ht.append hne (dollar_notMem_toString n)

theorem joint_tail {s : Scope V} (h : '$' ∉ s.order.toList) : Joint s.tail := by
  have ho : Joint (if s.order.isEmpty then "" else " ORDER BY " ++ s.order) := by
    by_cases he : s.order.isEmpty
    · rw [if_pos he]
      exact joint_empty
    · rw [if_neg he]
      exact Joint.append (by decide) (by decide) h
  have hl : Joint (s.limit.elim "" (" LIMIT " ++ toString ·)) :=
    joint_bound (by decide) (by decide) s.limit
  have hf : Joint (s.offset.elim "" (" OFFSET " ++ toString ·)) :=
    joint_bound (by decide) (by decide) s.offset
  exact (ho.concat hl).concat hf

/-- The values of a statement can be told from its text: the numbers in it, read from left to right,
are those of the bound values in their order, however many arguments or placeholders there are. -/
theorem numbers_statements (s : Scope V) (h : s.Legible) :
    numbers s.selectStatement.text.toList = List.range' 1 s.selectStatement.params.length ∧
    numbers s.countStatement.text.toList = List.range' 1 s.countStatement.params.length ∧
    numbers s.deleteStatement.text.toList = List.range' 1 s.deleteStatement.params.length ∧
    ∀ a : Assignments V, a.Legible →
      numbers (s.updateStatement a).text.toList =
        List.range' 1 (s.updateStatement a).params.length := by
  have ht : ∀ {t : String}, Joint t → t ≠ "" → Joint (t ++ s.table) := fun hj hne =>
    hj.append hne h.table
  have hc : (s.countStatement).Numbered :=
    (numbered_empty.write (ht (by decide) (by decide))).filtered h.predicate
  have hd : (s.deleteStatement).Numbered :=
    (numbered_empty.write (ht (by decide) (by decide))).filtered h.predicate
  have hs : (s.selectStatement).Numbered := by
    have hp : Joint ("SELECT " ++ s.projection ++ " FROM ") :=
      (Joint.append (by decide) (by decide) (dollar_notMem_projection h.columns)).append
        (by simp) (by decide)
    have hf := (numbered_empty.write (ht hp (by simp))).filtered h.predicate
    exact hf.write (joint_tail h.order)
  have hu : ∀ a : Assignments V, a.Legible → (s.updateStatement a).Numbered := by
    intro a ha
    have hj : Joint ("UPDATE " ++ s.table ++ " SET ") :=
      (ht (by decide) (by decide)).append (by simp) (by decide)
    exact (numbered_empty.setColumns hj (by simp) ha).filtered h.predicate
  simp only [toList_text]
  exact ⟨hs, hc, hd, hu⟩

/-- A condition with an escaped mark, an empty list and a missing argument. -/
def mismatchedScope : Scope Nat :=
  ⟨"logs", ["id"], "a in ? and b ??| ? and c = ?", [.list [], .scalar 5], "id desc", some 10, none⟩

def longAssignments : Assignments Nat :=
  SortedMap.ofList [("n", .value 0), ("m", .expr "f(?)" [.list (List.range 10), .scalar 1])]

theorem numbers_statements_mismatched :
    mismatchedScope.Legible ∧ longAssignments.Legible ∧
    numbers (mismatchedScope.updateStatement longAssignments).text.toList = List.range' 1 12 := by
  have hs : mismatchedScope.Legible :=
    ⟨by decide, by decide, by decide, ⟨by decide, by decide⟩⟩
  have he : longAssignments.entries =
      [("m", .expr "f(?)" [.list (List.range 10), .scalar 1]), ("n", .value 0)] := by decide
  have hm : Statement.Legible "f(?)".toList := ⟨by decide, by decide⟩
  have ha : longAssignments.Legible := by
    simpa [Assignments.Legible, he, Assignment.Legible] using hm
  exact ⟨hs, ha, (numbers_statements mismatchedScope hs).2.2.2 longAssignments ha⟩

end RowQuery
