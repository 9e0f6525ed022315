import RowQuery.Filter.Recipe

namespace RowQuery.Filter

variable {V : Type}

theorem joined_cons_cons (c d : Clause V) (rest : List (Clause V)) :
    joined (c :: d :: rest) = c.sql ++ d.join.separator ++ joined (d :: rest) := by
  simp [joined, continuation, String.append_assoc]

/-- A part of a group as one clause: its condition in parentheses, with all its arguments. -/
def asClause (join : Join) (p : Filter V) : Clause V := ⟨join, group p.predicate, p.args⟩

/-- The clauses an alternative adds: none if it filters nothing. -/
def alternative (p : Filter V) : List (Clause V) := if p.isTrivial then [] else [p.asClause .or]

@[simp] theorem clauses_empty : (empty : Filter V).clauses = [] := rfl

@[simp] theorem clauses_push (c : Filter V) (j : Join) (sql : String) (as : List (Arg V)) :
    (c.push j sql as).clauses = c.clauses ++ [⟨j, sql, as⟩] := rfl

theorem clauses_foldl_conjunct (c : Filter V) (parts : List (Filter V)) :
    (parts.foldl (fun c p => c.push .and (group p.predicate) p.args) c).clauses =
      c.clauses ++ parts.map (asClause .and) := by
  induction parts generalizing c with
  | nil => simp
  | cons p ps ih =>
    rw [List.foldl_cons, ih, clauses_push, List.append_assoc, List.map_cons]
    rfl

theorem clauses_andGroups (c : Filter V) (parts : List (Filter V)) :
    (c.andGroups parts).clauses =
      c.clauses ++ if parts.any isTrivial then [] else parts.map (asClause .and) := by
  cases parts with
  | nil => simp [andGroups]
  | cons p ps =>
    rw [andGroups, List.isEmpty_cons, Bool.false_or]
    by_cases h : (p :: ps).any isTrivial
    · rw [if_pos h, if_pos h, List.append_nil]
    · rw [if_neg h, if_neg h]
      exact clauses_foldl_conjunct c (p :: ps)

theorem clauses_orGroup (c p : Filter V) :
    (c.orGroup p).clauses = c.clauses ++ p.alternative := by
  rw [orGroup, alternative]
  by_cases h : p.isTrivial
  · rw [if_pos h, if_pos h, List.append_nil]
  · rw [if_neg h, if_neg h]
    rfl

theorem clauses_foldl_orGroup (c : Filter V) (parts : List (Filter V)) :
    (parts.foldl orGroup c).clauses = c.clauses ++ parts.flatMap alternative := by
  induction parts generalizing c with
  | nil => simp
  | cons p ps ih => rw [List.foldl_cons, ih, clauses_orGroup, List.append_assoc, List.flatMap_cons]

/-- A list of alternatives of which there is not just one. -/
theorem clauses_either (p q : Filter V) (ps : List (Filter V)) :
    (either (p :: q :: ps)).clauses = (p :: q :: ps).flatMap alternative := by
  change ((p :: q :: ps).foldl orGroup empty).clauses = _
  rw [clauses_foldl_orGroup, clauses_empty, List.nil_append]

theorem clauses_isIn (c : Filter V) (field : String) (values : List (Arg V)) :
    (c.isIn field values).clauses = c.clauses ++ (empty.isIn field values).clauses := by
  rw [isIn, isIn]
  cases Arg.flatten values with
  | nil => simp
  | cons v vs => cases vs <;> rfl

/-- What a call adds does not depend on the clauses before it. -/
theorem clauses_apply (c : Filter V) (call : Call V (Filter V)) :
    (call.apply c).clauses = c.clauses ++ (call.apply empty).clauses := by
  cases call with
  | expr sql args => rfl
  | compare field op value => rfl
  | isIn field values => exact clauses_isIn c field values
  | isInList field values => exact clauses_isIn c field [.list values]
  | isInQuery field query args => rfl
  | andGroups parts => simp [Call.apply, clauses_andGroups]
  | orGroup part => simp [Call.apply, clauses_orGroup]
  | ascending fields => simp [Call.apply, ascending, pushOrder]
  | descending fields => simp [Call.apply, descending, pushOrder]

end RowQuery.Filter
