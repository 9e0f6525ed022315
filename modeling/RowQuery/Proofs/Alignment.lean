import RowQuery.Proofs.Balance
import RowQuery.Scope.Basic

namespace RowQuery.Filter

open Statement

variable {V : Type}

/-- Clauses written one after another, each filled with its own arguments only. -/
def fillClauses (s : Statement V) : List (Clause V) → Statement V
  | [] => s
  | c :: rest =>
    rest.foldl (fun s c => (s.write c.join.separator).fill c.sql c.args) (s.fill c.sql c.args)

namespace Branch

mutual

/-- A branch written with every leaf filled on its own. -/
def fill (s : Statement V) : Branch V → Statement V
  | .leaf _ sql args => s.fill sql args
  | .group _ branches => (fillAll (s.write "( ") branches).write " )"

def fillAll (s : Statement V) : List (Branch V) → Statement V
  | [] => s
  | b :: bs => fillRest (b.fill s) bs

def fillRest (s : Statement V) : List (Branch V) → Statement V
  | [] => s
  | b :: bs => fillRest (b.fill (s.write b.join.separator)) bs

end

end Branch

theorem separator_join (j : Join) : Separator j.separator := by
  cases j <;> decide

theorem balanced_joined {cs : List (Clause V)} (h : ∀ c ∈ cs, Statement.Balanced c.sql c.args) :
    Statement.Balanced (joined cs) (cs.flatMap Clause.args) := by
  induction cs with
  | nil => rfl
  | cons c rest ih =>
    cases rest with
    | nil => simpa [joined] using h c (by simp)
    | cons d rest =>
      rw [joined_cons_cons, List.flatMap_cons]
      exact (h c (by simp)).separated (ih fun e he => h e (by simp [he])) (separator_join d.join)

/-- No run of question marks reaches over a separator, so the clauses share no argument. -/
theorem fill_joined {cs : List (Clause V)} (h : ∀ c ∈ cs, Statement.Balanced c.sql c.args)
    (s : Statement V) : s.fill (joined cs) (cs.flatMap Clause.args) = fillClauses s cs := by
  induction cs generalizing s with
  | nil => exact fill_blank s
  | cons c rest ih =>
    cases rest with
    | nil => simp [joined, fillClauses]
    | cons d rest =>
      have hd := ih (fun e he => h e (by simp [he])) ((s.fill c.sql c.args).write d.join.separator)
      rw [joined_cons_cons, List.flatMap_cons, fill_separated (h c (by simp)) (separator_join d.join),
        hd]
      rfl

namespace Branch

theorem foldl_clauses {bs : List (Branch V)}
    (h : ∀ b ∈ bs, ∀ s : Statement V, s.fill b.clause.sql b.clause.args = b.fill s)
    (s : Statement V) :
    (clauses bs).foldl (fun s c => (s.write c.join.separator).fill c.sql c.args) s =
      fillRest s bs := by
  induction bs generalizing s with
  | nil => rfl
  | cons b bs ih =>
    rw [clauses, List.foldl_cons, h b (by simp), join_clause, ih fun c hc => h c (by simp [hc])]
    rfl

theorem fillClauses_clauses {bs : List (Branch V)}
    (h : ∀ b ∈ bs, ∀ s : Statement V, s.fill b.clause.sql b.clause.args = b.fill s)
    (s : Statement V) : fillClauses s (clauses bs) = fillAll s bs := by
  cases bs with
  | nil => rfl
  | cons b bs =>
    rw [clauses, fillClauses, h b (by simp), foldl_clauses fun c hc => h c (by simp [hc])]
    rfl

/-- The text of a balanced branch is balanced, and to fill it is to fill its leaves. -/
theorem Balanced.clause {b : Branch V} (h : b.Balanced) :
    Statement.Balanced b.clause.sql b.clause.args ∧
      ∀ s : Statement V, s.fill b.clause.sql b.clause.args = b.fill s := by
  induction h with
  | leaf join h => exact ⟨h, fun _ => rfl⟩
  | @group join bs h ih =>
    have hb : ∀ c ∈ clauses bs, Statement.Balanced c.sql c.args := by
      intro c hc
      rw [clauses_eq_map] at hc
      obtain ⟨b, hbs, rfl⟩ := List.mem_map.mp hc
      exact (ih b hbs).1
    have ho : Separator "( " := by decide
    have hc : Separator " )" := by decide
    refine ⟨(balanced_joined hb).enclosed ho hc, fun s => ?_⟩
    have hs := fill_enclosed (balanced_joined hb) ho hc s
    rw [fill_joined hb, fillClauses_clauses fun b hbs => (ih b hbs).2] at hs
    exact hs

end Branch

/-- A condition in parentheses, filled on its own. -/
def fillGroup (s : Statement V) (predicate : String) (args : List (Arg V)) : Statement V :=
  ((s.write "( ").fill predicate args).write " )"

/-- The condition of a scope and that of a filter, each filled on its own. -/
def fillMatching (s : Statement V) (scope : Scope V) (c : Filter V) : Statement V :=
  if c.isTrivial then s.fill scope.predicate scope.args
  else if scope.isUnfiltered then s.fill c.predicate c.args
  else fillGroup ((fillGroup s scope.predicate scope.args).write " and ") c.predicate c.args

theorem fill_group {p : String} {as : List (Arg V)} (h : Statement.Balanced p as)
    (s : Statement V) : s.fill (group p) as = fillGroup s p as :=
  fill_enclosed h (by decide) (by decide) s

theorem balanced_group {p : String} {as : List (Arg V)} (h : Statement.Balanced p as) :
    Statement.Balanced (group p) as :=
  h.enclosed (by decide) (by decide)

theorem args_of_unfiltered {scope : Scope V}
    (h : Statement.Balanced scope.predicate scope.args) (hu : scope.isUnfiltered = true) :
    scope.args = [] := by
  have hp : scope.predicate = "" := by simpa [Scope.isUnfiltered] using hu
  rw [hp] at h
  exact List.length_eq_zero_iff.mp h.symm

theorem balanced_matching {scope : Scope V} {c : Filter V}
    (hs : Statement.Balanced scope.predicate scope.args)
    (hc : Statement.Balanced c.predicate c.args) :
    Statement.Balanced (scope.matching c).predicate (scope.matching c).args := by
  by_cases hp : c.predicate.isEmpty
  · rwa [Scope.matching, Scope.narrow, if_pos hp]
  · rw [Scope.matching, Scope.narrow, if_neg hp]
    by_cases hq : scope.predicate.isEmpty
    · rw [if_pos hq, args_of_unfiltered hs hq]
      exact hc
    · rw [if_neg hq]
      exact (balanced_group hs).separated (balanced_group hc) (by decide)

theorem fill_matching {scope : Scope V} {c : Filter V}
    (hs : Statement.Balanced scope.predicate scope.args)
    (hc : Statement.Balanced c.predicate c.args) (s : Statement V) :
    s.fill (scope.matching c).predicate (scope.matching c).args = fillMatching s scope c := by
  rw [fillMatching, isTrivial, Scope.isUnfiltered, Scope.matching, Scope.narrow]
  by_cases hp : c.predicate.isEmpty
  · rw [if_pos hp, if_pos hp]
  · rw [if_neg hp, if_neg hp]
    by_cases hq : scope.predicate.isEmpty
    · rw [if_pos hq, if_pos hq, args_of_unfiltered hs hq]
      rfl
    · have ht : Separator " and " := by decide
      rw [if_neg hq, if_neg hq]
      exact (fill_separated (balanced_group hs) ht s _ _).trans
        (by rw [fill_group hs, fill_group hc])

/-- The values of a filter reach the placeholders of their own conditions. The whole condition,
filled with all arguments at once, is its clauses filled one by one, and in the same way every
group down to its single conditions; all arguments are bound in order, and none is missing or left
over. A scope that is narrowed by the filter keeps its own arguments apart from those of the
filter. -/
theorem fill_build (r : Recipe V) (h : r.Each Call.Balanced) (s : Statement V) :
    s.fill r.build.predicate r.build.args = fillClauses s r.build.clauses ∧
    s.fill r.build.predicate r.build.args = Branch.fillAll s r.branches ∧
    (s.fill r.build.predicate r.build.args).params = s.params ++ Arg.flatten r.build.args ∧
    (s.fill r.build.predicate r.build.args).surplus = s.surplus ∧
    placeholders r.build.predicate = r.build.args.length ∧
    ∀ scope : Scope V, Statement.Balanced scope.predicate scope.args →
      s.fill (scope.matching r.build).predicate (scope.matching r.build).args =
        fillMatching s scope r.build ∧
      Statement.Balanced (scope.matching r.build).predicate (scope.matching r.build).args := by
  have hb := Recipe.balanced_branches h
  have hc : ∀ c ∈ r.build.clauses, Statement.Balanced c.sql c.args := by
    intro c hc
    rw [Recipe.clauses_build, Branch.clauses_eq_map] at hc
    obtain ⟨b, hm, rfl⟩ := List.mem_map.mp hc
    exact (hb b hm).clause.1
  have hj : Statement.Balanced r.build.predicate r.build.args := balanced_joined hc
  have hs : s.fill r.build.predicate r.build.args = fillClauses s r.build.clauses := fill_joined hc s
  have hf : fillClauses s r.build.clauses = Branch.fillAll s r.branches := by
    rw [Recipe.clauses_build]
    exact Branch.fillClauses_clauses (fun b hm => (hb b hm).clause.2) s
  exact ⟨hs, hs.trans hf, params_fill hj s, surplus_fill hj s, hj,
    fun scope hscope => ⟨fill_matching hscope hj s, balanced_matching hscope hj⟩⟩

/-- A kind, and one of two groups: a tag out of a list beside an escaped mark, or a range. -/
def taggedOrRecent : Recipe Nat :=
  .step (.step .blank true (.compare "kind" .equal 7)) true (.andGroups [.either [
    .step .blank true (.expr "tags ??| ?" [.list [1, 2]]),
    .step (.step .blank true (.compare "year" .atLeast 3)) false (.expr "?" [])]])

theorem fill_build_taggedOrRecent :
    taggedOrRecent.Each Call.Balanced ∧
    ((⟨[], [9], 0⟩ : Statement Nat).fill taggedOrRecent.build.predicate
      taggedOrRecent.build.args).text =
      "kind = $2 and ( ( tags ?| ($3, $4) ) or ( year >= $5 ) )" := by
  have hk : EvenRuns "kind" := by decide
  have hy : EvenRuns "year" := by decide
  have htag : (Recipe.step .blank true (.expr "tags ??| ?" [.list [1, 2]])).Each
      Call.Balanced := .on .blank rfl (by simp [Call.parts])
  have hyear : (Recipe.step (.step .blank true (.compare "year" .atLeast 3)) false
      (.expr "?" [])).Each Call.Balanced := .off (.on .blank hy (by simp [Call.parts])) _
  have h : taggedOrRecent.Each Call.Balanced :=
    .on (.on .blank hk (by simp [Call.parts])) trivial
      (by simpa [Call.parts] using .either (by simp [htag, hyear]))
  obtain ⟨_, hf, _⟩ := fill_build taggedOrRecent h ⟨[], [9], 0⟩
  rw [hf]
  exact ⟨h, by decide⟩

end RowQuery.Filter
