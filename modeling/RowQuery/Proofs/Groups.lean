import Mathlib.Data.List.Basic
import RowQuery.Proofs.Interleavings

namespace RowQuery

variable {V : Type}

namespace Filter

theorem isTrivial_iff (p : Filter V) : p.isTrivial = true ↔ p.predicate = "" := String.isEmpty_iff

theorem flatMap_args_asClause (j : Join) (parts : List (Filter V)) :
    (parts.map (asClause j)).flatMap Clause.args = parts.flatMap args := by
  rw [List.flatMap_map]
  rfl

theorem andGroups_eq_self_iff (c : Filter V) (parts : List (Filter V)) :
    c.andGroups parts = c ↔ parts = [] ∨ ∃ p ∈ parts, p.isTrivial = true := by
  constructor
  · intro h
    have hc := congrArg (fun c => c.clauses.length) h
    simp only [clauses_andGroups, List.length_append] at hc
    by_cases ht : parts.any isTrivial
    · exact .inr (by simpa using ht)
    · rw [if_neg ht, List.length_map] at hc
      exact .inl (List.length_eq_zero_iff.mp (by omega))
  · rintro (rfl | ht)
    · rfl
    · rw [andGroups, if_pos (by simpa using .inr ht)]

theorem andGroups_eq {parts : List (Filter V)} (h : ∀ p ∈ parts, p.predicate ≠ "") (c : Filter V) :
    c.andGroups parts = ⟨c.clauses ++ parts.map (asClause .and), c.order⟩ := by
  have ht : ¬parts.any isTrivial = true := by
    simpa [isTrivial_iff] using h
  have hc := clauses_andGroups c parts
  rw [if_neg ht] at hc
  rw [← hc, ← order_andGroups c parts]

theorem andGroups_append {xs ys : List (Filter V)} (h : ∀ p ∈ xs ++ ys, p.predicate ≠ "")
    (c : Filter V) : c.andGroups (xs ++ ys) = (c.andGroups xs).andGroups ys := by
  obtain ⟨hx, hy⟩ := List.forall_mem_append.mp h
  rw [andGroups_eq h, andGroups_eq hy, andGroups_eq hx, List.map_append, List.append_assoc]

/-- A list of groups is added as a whole or not at all. It is left out when there is no part or some
part is blank, whatever arguments and sort directives go with that part; otherwise there is one
group for each part, and two lists can be added one after the other. -/
theorem andGroups_all_or_none (parts : List (Filter V)) :
    (∀ c : Filter V, c.andGroups parts = c ↔ parts = [] ∨ ∃ p ∈ parts, p.predicate = "") ∧
    ((∀ p ∈ parts, p.predicate ≠ "") → ∀ c : Filter V,
      c.andGroups parts =
        ⟨c.clauses ++ parts.map (fun p => ⟨.and, "( " ++ p.predicate ++ " )", p.args⟩), c.order⟩ ∧
      (c.andGroups parts).args = c.args ++ parts.flatMap args) ∧
    (∀ u : Update V, Update.Change.apply u (.narrow (.andGroups parts)) =
      .ok ⟨u.filter.andGroups parts, u.assignments⟩) ∧
    ∀ (xs ys : List (Filter V)) (c : Filter V),
      ((∀ p ∈ xs ++ ys, p.predicate ≠ "") →
        c.andGroups (xs ++ ys) = (c.andGroups xs).andGroups ys) ∧
      ((∃ p ∈ xs ++ ys, p.predicate = "") → c.andGroups (xs ++ ys) = c) := by
  have hself (qs : List (Filter V)) (c : Filter V) :
      c.andGroups qs = c ↔ qs = [] ∨ ∃ p ∈ qs, p.predicate = "" := by
    simpa only [isTrivial_iff] using andGroups_eq_self_iff c qs
  refine ⟨hself parts, fun h c => ⟨andGroups_eq h c, ?_⟩, fun u => rfl,
    fun xs ys c => ⟨fun h => andGroups_append h c, fun h => (hself _ c).mpr (.inr h)⟩⟩
  rw [andGroups_eq h c, args, args, List.flatMap_append, flatMap_args_asClause]

/-- The second part is blank, although it comes with an argument and a sort directive. -/
theorem andGroups_all_or_none_blankPart :
    let a : Filter Nat := Filter.empty.expr "a = ? or b" [.scalar 1]
    let blank : Filter Nat := (Filter.empty.expr "" [.scalar 2]).ascending ["id"]
    let u : Update Nat := Update.blank.set "name" 3
    ((a.andGroups [a, blank] = a ∧ Update.Change.apply u (.narrow (.andGroups [])) = .ok u) ∧
      a.andGroups ([blank] ++ [a]) = a) ∧
    (∀ p ∈ [a] ++ [a], p.predicate ≠ "") ∧
    (a.andGroups ([a] ++ [a])).predicate = "a = ? or b and ( a = ? or b ) and ( a = ? or b )" ∧
    a.andGroups ([a] ++ [a]) = (a.andGroups [a]).andGroups [a] := by
  intro a blank u
  have hn : ∀ p ∈ [a] ++ [a], p.predicate ≠ "" := by
    intro p hp
    obtain rfl : p = a := by simpa using hp
    decide
  obtain ⟨hself, -, -, happend⟩ := andGroups_all_or_none [a, blank]
  obtain ⟨-, -, hupdate, -⟩ := andGroups_all_or_none ([] : List (Filter Nat))
  obtain ⟨-, hgroups, -, -⟩ := andGroups_all_or_none ([a] ++ [a])
  refine ⟨⟨⟨(hself a).mpr (.inr ⟨blank, by simp, rfl⟩), hupdate u⟩,
    (happend [blank] [a] a).2 ⟨blank, by simp, rfl⟩⟩, hn, ?_, (happend [a] [a] a).1 hn⟩
  rw [(hgroups hn a).1]
  decide

theorem orGroup_eq_self_iff (c p : Filter V) : c.orGroup p = c ↔ p.isTrivial = true := by
  constructor
  · intro h
    have hc := congrArg (fun c => c.clauses.length) h
    simp only [clauses_orGroup, List.length_append, alternative] at hc
    by_contra ht
    rw [if_neg ht, List.length_singleton] at hc
    omega
  · intro ht
    rw [orGroup, if_pos ht]

/-- The filters of a list that filter something. -/
def selective (parts : List (Filter V)) : List (Filter V) :=
  parts.filter (fun p => decide (p.predicate ≠ ""))

theorem flatMap_alternative_eq (parts : List (Filter V)) :
    parts.flatMap alternative = (selective parts).map (asClause .or) := by
  induction parts with
  | nil => rfl
  | cons p ps ih =>
    rw [List.flatMap_cons, ih, alternative, selective, selective]
    by_cases h : p.predicate = ""
    · rw [if_pos ((isTrivial_iff p).mpr h), List.filter_cons_of_neg (by simpa using h)]
      rfl
    · rw [if_neg (mt (isTrivial_iff p).mp h), List.filter_cons_of_pos (by simpa using h)]
      rfl

/-- Alternatives leave out the blank filters and nothing else, wherever these are. -/
theorem foldl_orGroup_eq (c : Filter V) (parts : List (Filter V)) :
    parts.foldl orGroup c = ⟨c.clauses ++ (selective parts).map (asClause .or), c.order⟩ := by
  have ho : (parts.foldl orGroup c).order = c.order := by
    induction parts generalizing c with
    | nil => rfl
    | cons p ps ih => rw [List.foldl_cons, ih, order_orGroup]
  rw [← flatMap_alternative_eq, ← clauses_foldl_orGroup, ← ho]

theorem either_eq_foldl {parts : List (Filter V)} (h : 2 ≤ parts.length) :
    either parts = parts.foldl orGroup empty := by
  match parts, h with
  | _ :: _ :: _, _ => rfl

theorem either_eq {parts : List (Filter V)} (h : 2 ≤ parts.length) :
    either parts = ⟨(selective parts).map (asClause .or), []⟩ := by
  rw [either_eq_foldl h, foldl_orGroup_eq]
  rfl

/-- The join of the first group is not written, so all the others are written between groups. -/
theorem joined_map_asClause (j : Join) (parts : List (Filter V)) :
    joined (parts.map (asClause j)) =
      j.separator.intercalate (parts.map (fun p => group p.predicate)) := by
  induction parts with
  | nil => rfl
  | cons p ps ih =>
    cases ps with
    | nil =>
      rw [List.map_singleton, List.map_singleton, String.intercalate_singleton]
      exact String.append_empty
    | cons q ps =>
      have hn : (q :: ps).map (fun p => group p.predicate) ≠ [] := by simp
      have hj : joined ((p :: q :: ps).map (asClause j)) =
          group p.predicate ++ j.separator ++ joined ((q :: ps).map (asClause j)) :=
        joined_cons_cons _ _ _
      rw [hj, ih]
      exact (String.intercalate_cons_of_ne_nil hn).symm

/-- The alternatives of a list. None is the empty filter, and one filter stands for itself with its
sort directives. Of two or more, those that filter something are the groups, and the blank ones go
with all that they carry, so they can be put in or taken out anywhere; more alternatives can be
added one by one. -/
theorem either_closed_form :
    either ([] : List (Filter V)) = empty ∧
    (∀ p : Filter V, either [p] = p) ∧
    (∀ parts : List (Filter V), 2 ≤ parts.length →
      (either parts).predicate =
        " or ".intercalate ((selective parts).map (fun p => "( " ++ p.predicate ++ " )")) ∧
      (either parts).args = (selective parts).flatMap args ∧ (either parts).order = []) ∧
    (∀ xs ys : List (Filter V), 2 ≤ xs.length → 2 ≤ ys.length → selective xs = selective ys →
      either xs = either ys) ∧
    ∀ xs ys : List (Filter V), 2 ≤ xs.length →
      either (xs ++ ys) = ys.foldl orGroup (either xs) := by
  refine ⟨rfl, fun p => rfl, fun parts h => ?_, fun xs ys hx hy h => ?_, fun xs ys h => ?_⟩
  · rw [either_eq h]
    exact ⟨joined_map_asClause .or _, flatMap_args_asClause .or _, rfl⟩
  · rw [either_eq hx, either_eq hy, h]
  · have hl : 2 ≤ (xs ++ ys).length := by
      rw [List.length_append]
      omega
    rw [either_eq_foldl hl, either_eq_foldl h, List.foldl_append]

theorem either_closed_form_blankFirst :
    let blank : Filter Nat := (Filter.empty.expr "" [.scalar 1]).ascending ["id"]
    let a : Filter Nat := Filter.empty.expr "a = ?" [.scalar 2]
    let b : Filter Nat := (Filter.empty.expr "b or c" []).descending ["b"]
    (2 ≤ [blank, a, blank, b].length ∧ 2 ≤ [a, b].length ∧ 2 ≤ [b, blank].length ∧
      selective [blank, a, blank, b] = selective [a, b]) ∧
    (either [blank, a, blank, b]).predicate = "( a = ? ) or ( b or c )" ∧
    (either [blank, a, blank, b]).args = [.scalar 2] ∧
    either [blank, a, blank, b] = either [a, b] ∧
    either ([b, blank] ++ [a]) = [a].foldl orGroup (either [b, blank]) := by
  intro blank a b
  obtain ⟨-, -, hclosed, hblank, happend⟩ := either_closed_form (V := Nat)
  have hs : selective [blank, a, blank, b] = selective [a, b] := by decide
  obtain ⟨hp, ha, -⟩ := hclosed [blank, a, blank, b] (by decide)
  exact ⟨⟨by decide, by decide, by decide, hs⟩, hp.trans (by decide), ha.trans (by decide),
    hblank _ _ (by decide) (by decide) hs, happend _ _ (by decide)⟩

end Filter

end RowQuery
