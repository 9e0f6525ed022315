import Mathlib.Data.List.Basic
import RowQuery.Proofs.Clauses
import RowQuery.Proofs.Recipes

namespace RowQuery.Filter

variable {V : Type}

/-- A filter as it was put together: single conditions with their own arguments, and groups of
further branches in parentheses. -/
inductive Branch (V : Type) where
  | leaf (join : Join) (sql : String) (args : List (Arg V))
  | group (join : Join) (branches : List (Branch V))

namespace Branch

def join : Branch V → Join
  | .leaf join _ _ => join
  | .group join _ => join

mutual

def clause : Branch V → Clause V
  | .leaf join sql args => ⟨join, sql, args⟩
  | .group join branches => asClause join ⟨clauses branches, []⟩

def clauses : List (Branch V) → List (Clause V)
  | [] => []
  | b :: bs => b.clause :: clauses bs

end

theorem join_clause (b : Branch V) : b.clause.join = b.join := by
  cases b <;> rfl

theorem clauses_eq_map (bs : List (Branch V)) : clauses bs = bs.map clause := by
  induction bs with
  | nil => rfl
  | cons b bs ih => rw [clauses, ih, List.map_cons]

/-- The filter that has just these conditions. -/
def toFilter (bs : List (Branch V)) : Filter V := ⟨clauses bs, []⟩

def conjunction (parts : List (List (Branch V))) : List (Branch V) :=
  if parts.any (fun p => (toFilter p).isTrivial) then [] else parts.map (.group .and)

def alternative (part : List (Branch V)) : List (Branch V) :=
  if (toFilter part).isTrivial then [] else [.group .or part]

def either : List (List (Branch V)) → List (Branch V)
  | [part] => part
  | parts => parts.flatMap alternative

/-- Membership in a set of values: no value is no condition, and one value is equality. -/
def membership (field : String) : List V → List (Branch V)
  | [] => []
  | [v] => [.leaf .and (field ++ " = ?") [.scalar v]]
  | vs => [.leaf .and (field ++ " in ?") [.list vs]]

/-- A comparison as it is written behind a field. -/
def comparison : Comparison → String
  | .like => " like ?"
  | .equal => " = ?"
  | .greater => " > ?"
  | .atLeast => " >= ?"
  | .less => " < ?"
  | .atMost => " <= ?"

/-- The single condition that a call adds, if it adds one. -/
def ofCall {S : Type} : Call V S → List (Branch V)
  | .expr sql args => [.leaf .and sql args]
  | .compare field op value => [.leaf .and (field ++ comparison op) [.scalar value]]
  | .isIn field values => membership field (Arg.flatten values)
  | .isInList field values => membership field values
  | .isInQuery field query args => [.leaf .and (field ++ " in (" ++ query ++ ")") args]
  | .andGroups _ | .orGroup _ | .ascending _ | .descending _ => []

theorem mem_alternative {part : List (Branch V)} {b : Branch V} (h : b ∈ alternative part) :
    b = .group .or part := by
  by_cases ht : (toFilter part).isTrivial
  · rw [alternative, if_pos ht] at h
    cases h
  · rw [alternative, if_neg ht] at h
    exact List.mem_singleton.mp h

theorem mem_conjunction {parts : List (List (Branch V))} {b : Branch V}
    (h : b ∈ conjunction parts) : ∃ part ∈ parts, b = .group .and part := by
  by_cases ht : parts.any (fun p => (toFilter p).isTrivial)
  · rw [conjunction, if_pos ht] at h
    cases h
  · rw [conjunction, if_neg ht] at h
    obtain ⟨part, hp, rfl⟩ := List.mem_map.mp h
    exact ⟨part, hp, rfl⟩

theorem mem_either {parts : List (List (Branch V))} {b : Branch V} (h : b ∈ either parts) :
    ∃ part ∈ parts, b ∈ part ∨ b = .group .or part := by
  rcases parts with _ | ⟨p, _ | ⟨q, ps⟩⟩
  · cases h
  · exact ⟨p, by simp, .inl h⟩
  · obtain ⟨part, hp, hb⟩ := List.mem_flatMap.mp h
    exact ⟨part, hp, .inr (mem_alternative hb)⟩

end Branch

namespace Recipe

mutual

/-- What a recipe puts together, with the structure of its groups. -/
def branches : Recipe V → List (Branch V)
  | .blank => []
  | .either parts => Branch.either (branchesAll parts)
  | .step before enabled call => if enabled then before.branches ++ added call else before.branches

def branchesAll : List (Recipe V) → List (List (Branch V))
  | [] => []
  | p :: ps => p.branches :: branchesAll ps

/-- The branches that a call adds. -/
def added : Call V (Recipe V) → List (Branch V)
  | .andGroups parts => Branch.conjunction (branchesAll parts)
  | .orGroup part => Branch.alternative part.branches
  | call => Branch.ofCall call

end

theorem branchesAll_eq_map (parts : List (Recipe V)) : branchesAll parts = parts.map branches := by
  induction parts with
  | nil => rfl
  | cons p ps ih => rw [branchesAll, ih, List.map_cons]

theorem added_eq_ofCall {call : Call V (Recipe V)} (h : call.parts = []) :
    added call = Branch.ofCall call := by
  cases call with
  | andGroups parts =>
    obtain rfl : parts = [] := h
    rfl
  | orGroup part => cases h
  | _ => rfl

theorem clauses_compare (field : String) (op : Comparison) (value : V) :
    Branch.clauses [.leaf .and (field ++ Branch.comparison op) [.scalar value]] =
      ((empty : Filter V).compare field op value).clauses := by
  have hop : field ++ Branch.comparison op = field ++ " " ++ op.symbol ++ " ?" := by
    rw [String.append_assoc, String.append_assoc]
    cases op <;> rfl
  rw [hop]
  rfl

theorem clauses_membership (field : String) (values : List (Arg V)) :
    Branch.clauses (Branch.membership field (Arg.flatten values)) =
      ((empty : Filter V).isIn field values).clauses := by
  rw [isIn]
  rcases Arg.flatten values with _ | ⟨v, _ | ⟨w, vs⟩⟩
  · rfl
  · exact clauses_compare field .equal v
  · rfl

/-- The text of a single condition is the one that the call writes. -/
theorem clauses_ofCall {call : Call V (Recipe V)} (h : call.parts = []) :
    Branch.clauses (Branch.ofCall call) = ((buildParts call).apply empty).clauses := by
  cases call with
  | compare field op value => exact clauses_compare field op value
  | isIn field values => exact clauses_membership field values
  | isInList field values =>
    have hv : Arg.flatten [Arg.list values] = values := List.append_nil values
    have hm := clauses_membership field [.list values]
    rwa [hv] at hm
  | andGroups parts =>
    obtain rfl : parts = [] := h
    rfl
  | orGroup part => cases h
  | _ => rfl

theorem isTrivial_toFilter (r : Recipe V) (h : r.build.clauses = Branch.clauses r.branches) :
    (Branch.toFilter r.branches).isTrivial = r.build.isTrivial := by
  simp only [isTrivial, predicate, Branch.toFilter, h]

theorem clause_group (j : Join) (r : Recipe V) (h : r.build.clauses = Branch.clauses r.branches) :
    (Branch.group j r.branches).clause = r.build.asClause j := by
  simp only [Branch.clause, asClause, predicate, args, h]

theorem clauses_alternative (r : Recipe V) (h : r.build.clauses = Branch.clauses r.branches) :
    Branch.clauses (Branch.alternative r.branches) = r.build.alternative := by
  rw [Branch.alternative, alternative, isTrivial_toFilter r h]
  by_cases ht : r.build.isTrivial
  · rw [if_pos ht, if_pos ht]
    rfl
  · rw [if_neg ht, if_neg ht, ← clause_group .or r h]
    rfl

theorem clauses_alternatives (ps : List (Recipe V))
    (h : ∀ p ∈ ps, p.build.clauses = Branch.clauses p.branches) :
    Branch.clauses ((ps.map branches).flatMap Branch.alternative) =
      (ps.map build).flatMap alternative := by
  rw [Branch.clauses_eq_map, List.map_flatMap, List.flatMap_map, List.flatMap_map]
  apply List.flatMap_congr
  intro p hp
  rw [← Branch.clauses_eq_map, clauses_alternative p (h p hp)]

theorem clauses_conjunction (ps : List (Recipe V))
    (h : ∀ p ∈ ps, p.build.clauses = Branch.clauses p.branches) :
    Branch.clauses (Branch.conjunction (ps.map branches)) =
      if (ps.map build).any isTrivial then [] else (ps.map build).map (asClause .and) := by
  have hm : ps.map (fun p => (Branch.toFilter p.branches).isTrivial) =
      ps.map (fun p => p.build.isTrivial) :=
    List.map_congr_left fun p hp => isTrivial_toFilter p (h p hp)
  have ht : (ps.map branches).any (fun p => (Branch.toFilter p).isTrivial) =
      (ps.map build).any isTrivial := by
    simpa [List.any_map, Function.comp_def] using congrArg (List.any · id) hm
  rw [Branch.conjunction, ht]
  by_cases hi : (ps.map build).any isTrivial
  · rw [if_pos hi, if_pos hi]
    rfl
  · rw [if_neg hi, if_neg hi, Branch.clauses_eq_map, List.map_map, List.map_map, List.map_map]
    exact List.map_congr_left fun p hp => clause_group .and p (h p hp)

/-- What a call adds, given that the branches of its parts are right. -/
theorem clauses_added (call : Call V (Recipe V))
    (h : ∀ p ∈ call.parts, p.build.clauses = Branch.clauses p.branches) :
    Branch.clauses (added call) = ((buildParts call).apply empty).clauses := by
  cases call with
  | andGroups parts =>
    rw [added, branchesAll_eq_map, clauses_conjunction parts h, buildParts, buildAll_eq_map,
      Call.apply, clauses_andGroups, clauses_empty, List.nil_append]
  | orGroup part =>
    rw [added, clauses_alternative part (h part (by simp [Call.parts])), buildParts, Call.apply,
      clauses_orGroup, clauses_empty, List.nil_append]
  | _ => rw [added_eq_ofCall, clauses_ofCall] <;> rfl

/-- The branches of a recipe are the clauses of the filter that it builds. -/
theorem clauses_build (r : Recipe V) : r.build.clauses = Branch.clauses r.branches := by
  induction r with
  | blank => rfl
  | either parts ih =>
    rcases parts with _ | ⟨p, _ | ⟨q, ps⟩⟩
    · rfl
    · exact ih p (by simp)
    · have h := clauses_alternatives (p :: q :: ps) ih
      rw [build, buildAll_eq_map, branches, branchesAll_eq_map]
      exact (clauses_either p.build q.build (ps.map build)).trans h.symm
  | step before enabled call hb hp =>
    cases enabled with
    | false => exact hb
    | true =>
      change ((buildParts call).apply before.build).clauses =
        Branch.clauses (before.branches ++ added call)
      rw [clauses_apply, hb, Branch.clauses_eq_map, Branch.clauses_eq_map, List.map_append,
        ← Branch.clauses_eq_map (added call), clauses_added call hp]

end Recipe

end RowQuery.Filter
