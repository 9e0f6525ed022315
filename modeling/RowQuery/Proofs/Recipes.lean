import RowQuery.Filter.Recipe

namespace RowQuery.Filter

variable {V S : Type}

namespace Call

/-- The recipes or filters that a call puts in parentheses. -/
def parts : Call V S → List S
  | .andGroups parts => parts
  | .orGroup part => [part]
  | _ => []

end Call

namespace Recipe

/-- A recipe is built from its parts: those of a list of alternatives, and those of each call. -/
@[elab_as_elim, induction_eliminator]
theorem induction {motive : Recipe V → Prop} (blank : motive .blank)
    (either : ∀ parts, (∀ p ∈ parts, motive p) → motive (.either parts))
    (step : ∀ before enabled call, motive before → (∀ p ∈ Call.parts call, motive p) →
      motive (.step before enabled call)) (r : Recipe V) : motive r := by
  have hnil : ∀ p ∈ ([] : List (Recipe V)), motive p := by simp
  have hcons : ∀ (p : Recipe V) (ps : List (Recipe V)), motive p → (∀ q ∈ ps, motive q) →
      ∀ q ∈ p :: ps, motive q := by
    intro p ps hp hps q hq
    rcases List.mem_cons.mp hq with rfl | hq
    · exact hp
    · exact hps q hq
  exact @Recipe.rec V motive (fun ps => ∀ p ∈ ps, motive p) (fun call => ∀ p ∈ call.parts, motive p)
    blank either (fun _ _ _ hb hc => step _ _ _ hb hc) hnil hcons
    (fun _ _ => hnil) (fun _ _ _ => hnil) (fun _ _ => hnil) (fun _ _ => hnil)
    (fun _ _ _ => hnil) (fun _ h => h) (fun p h => hcons p [] h hnil)
    (fun _ => hnil) (fun _ => hnil) r

/-- Every call that is switched on satisfies a condition, also within the parts. -/
inductive Each (P : Call V (Recipe V) → Prop) : Recipe V → Prop where
  | blank : Each P .blank
  | either {parts : List (Recipe V)} (hp : ∀ p ∈ parts, Each P p) : Each P (.either parts)
  | off {before : Recipe V} (h : Each P before) (call : Call V (Recipe V)) :
    Each P (.step before false call)
  | on {before : Recipe V} {call : Call V (Recipe V)} (h : Each P before) (hc : P call)
    (hp : ∀ p ∈ call.parts, Each P p) : Each P (.step before true call)

end Recipe

end RowQuery.Filter
