import RowQuery.Proofs.Branches
import RowQuery.Proofs.Filling

namespace RowQuery.Filter

open Statement

variable {V S : Type}

/-- Every leaf has as many arguments as placeholders. -/
inductive Branch.Balanced : Branch V → Prop where
  | leaf (join : Join) {sql : String} {args : List (Arg V)} (h : Statement.Balanced sql args) :
    Balanced (.leaf join sql args)
  | group (join : Join) {branches : List (Branch V)} (h : ∀ b ∈ branches, Balanced b) :
    Balanced (.group join branches)

/-- What a caller has to keep to: text written by hand has as many arguments as placeholders, and
the name of a field has no placeholder. -/
def Call.Balanced : Call V S → Prop
  | .expr sql args => Statement.Balanced sql args
  | .compare field _ _ => EvenRuns field
  | .isIn field _ => EvenRuns field
  | .isInList field _ => EvenRuns field
  | .isInQuery field query args => EvenRuns field ∧ Statement.Balanced query args
  | _ => True

theorem balanced_compare {field : String} (h : EvenRuns field) (op : Comparison) (v : V) :
    Statement.Balanced (field ++ Branch.comparison op) [.scalar v] := by
  have ho : Statement.Balanced (op.symbol ++ " ?") [Arg.scalar v] := by
    cases op <;> rfl
  have hs : Separator " " := by decide
  have hop : Branch.comparison op = " " ++ (op.symbol ++ " ?") := by
    cases op <;> rfl
  rw [hop]
  simpa only [String.append_assoc, List.nil_append] using h.balanced.separated ho hs

theorem balanced_membership {field : String} (h : EvenRuns field) (vs : List V) :
    ∀ b ∈ Branch.membership field vs, b.Balanced := by
  rcases vs with _ | ⟨v, _ | ⟨w, vs⟩⟩
  · simp [Branch.membership]
  · simpa [Branch.membership, Branch.comparison] using
      Branch.Balanced.leaf .and (balanced_compare h .equal v)
  · have hq : Statement.Balanced "in ?" [Arg.list (v :: w :: vs)] := rfl
    have hs : Separator " " := by decide
    have hb := h.balanced.separated hq hs
    rw [String.append_assoc] at hb
    simpa [Branch.membership] using Branch.Balanced.leaf .and hb

theorem balanced_isInQuery {field query : String} {args : List (Arg V)} (h : EvenRuns field)
    (hq : Statement.Balanced query args) :
    Statement.Balanced (field ++ " in (" ++ query ++ ")") args := by
  have hb : Statement.Balanced "" ([] : List (Arg V)) := rfl
  have ho : Separator " in (" := by decide
  have hc : Separator ")" := by decide
  simpa using (h.balanced.separated hq ho).separated hb hc

/-- A condition that is no group is balanced with the arguments it is given. -/
theorem balanced_ofCall {call : Call V S} (h : call.Balanced) :
    ∀ b ∈ Branch.ofCall call, b.Balanced := by
  cases call with
  | expr sql args => simpa [Branch.ofCall] using Branch.Balanced.leaf .and h
  | compare field op value =>
    simpa [Branch.ofCall] using Branch.Balanced.leaf .and (balanced_compare h op value)
  | isIn field values => exact balanced_membership h (Arg.flatten values)
  | isInList field values => exact balanced_membership h values
  | isInQuery field query args =>
    simpa [Branch.ofCall] using Branch.Balanced.leaf .and (balanced_isInQuery h.1 h.2)
  | _ => simp [Branch.ofCall]

namespace Recipe

theorem balanced_added {call : Call V (Recipe V)} (h : call.Balanced)
    (hp : ∀ p ∈ call.parts, ∀ b ∈ p.branches, b.Balanced) : ∀ b ∈ added call, b.Balanced := by
  cases call with
  | andGroups parts =>
    intro b hb
    rw [added, branchesAll_eq_map] at hb
    obtain ⟨_, hm, rfl⟩ := Branch.mem_conjunction hb
    obtain ⟨p, hpm, rfl⟩ := List.mem_map.mp hm
    exact .group .and (hp p hpm)
  | orGroup part =>
    intro b hb
    rw [Branch.mem_alternative hb]
    exact .group .or (hp part (by simp [Call.parts]))
  | _ => exact balanced_ofCall h

theorem balanced_branches {r : Recipe V} (h : r.Each Call.Balanced) :
    ∀ b ∈ r.branches, b.Balanced := by
  induction h with
  | blank => simp [branches]
  | @either parts _ ih =>
    intro b hb
    rw [branches, branchesAll_eq_map] at hb
    obtain ⟨_, hm, hb⟩ := Branch.mem_either hb
    obtain ⟨p, hp, rfl⟩ := List.mem_map.mp hm
    rcases hb with hb | rfl
    · exact ih p hp b hb
    · exact .group .or (ih p hp)
  | off _ _ ih => exact ih
  | on _ hc _ ihb ihp =>
    intro b hb
    rcases List.mem_append.mp hb with hb | hb
    · exact ihb b hb
    · exact balanced_added hc ihp b hb

end Recipe

end RowQuery.Filter
