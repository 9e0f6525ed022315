import RowQuery.Database.Model
import RowQuery.Proofs.Execution
import RowQuery.Proofs.Operations
import RowQuery.Proofs.Texts

namespace RowQuery

variable {V : Type}

namespace Settings

theorem policy_setPolicy_self (settings : Settings) (p : Policy) (rule : Rule) :
    (settings.setPolicy p rule).policy rule = p := by
  cases rule <;> rfl

theorem policy_setPolicy_of_ne (settings : Settings) (p : Policy) {rule other : Rule}
    (h : other ≠ rule) : (settings.setPolicy p rule).policy other = settings.policy other := by
  cases rule with
  | unfilteredDelete =>
    cases other with
    | unfilteredDelete => exact absurd rfl h
    | unfilteredUpdate => rfl
  | unfilteredUpdate =>
    cases other with
    | unfilteredDelete => rfl
    | unfilteredUpdate => exact absurd rfl h

end Settings

namespace Request

/-- A request that would change every row of its table, and the setting that guards it. -/
inductive Exposed : Request V → Rule → Prop
  | delete {scope : Scope V} (h : scope.predicate = "") : Exposed (.delete scope) .unfilteredDelete
  | update {scope : Scope V} {a : Assignments V} (h : scope.predicate = "") (ha : a.entries ≠ []) :
      Exposed (.update scope a) .unfilteredUpdate

theorem exposed_iff (q : Request V) (rule : Rule) :
    q.Exposed rule ↔ q.isIdle = false ∧ q.rule? = some rule := by
  constructor
  · rintro (h | ⟨h, ha⟩)
    · simp [isIdle, rule?, scope, Scope.isUnfiltered, h]
    · simp [isIdle, rule?, scope, Scope.isUnfiltered, h, SortedMap.isEmpty, ha]
  · rintro ⟨hi, hr⟩
    cases q with
    | count s => simp [rule?] at hr
    | find s => simp [rule?] at hr
    | delete s =>
      by_cases hu : s.isUnfiltered
      · obtain rfl : .unfilteredDelete = rule := by simpa [rule?, scope, hu] using hr
        exact .delete (by simpa [Scope.isUnfiltered] using hu)
      · simp [rule?, scope, hu] at hr
    | update s a =>
      by_cases hu : s.isUnfiltered
      · obtain rfl : .unfilteredUpdate = rule := by simpa [rule?, scope, hu] using hr
        exact .update (by simpa [Scope.isUnfiltered] using hu)
          (by simpa [isIdle, SortedMap.isEmpty] using hi)
      · simp [rule?, scope, hu] at hr

/-- The statement of a request before the condition of its scope. -/
def head : Request V → Statement V
  | .count s => Statement.empty.write ("SELECT COUNT(*) FROM " ++ s.table)
  | .find s => Statement.empty.write ("SELECT " ++ s.projection ++ " FROM " ++ s.table)
  | .delete s => Statement.empty.write ("DELETE FROM " ++ s.table)
  | .update s a => (Statement.empty.write ("UPDATE " ++ s.table ++ " SET ")).setColumns a.entries

theorem statement_eq_filtered {q : Request V} (h : q.purpose = .execute) :
    q.statement = q.head.filtered q.scope := by
  cases q with
  | count s => cases h
  | find s => cases h
  | delete s => rfl
  | update s a => rfl

theorem isSome_rule? {q : Request V} (h : q.purpose = .execute) :
    q.rule?.isSome = q.scope.isUnfiltered := by
  cases q with
  | count s => cases h
  | find s => cases h
  | delete s => by_cases hu : s.isUnfiltered <;> simp [rule?, scope, hu]
  | update s a => by_cases hu : s.isUnfiltered <;> simp [rule?, scope, hu]

/-- The policy and the statement agree on whether there is a condition. -/
theorem rule?_iff_text {q : Request V} (h : q.purpose = .execute) :
    (q.rule?.isSome ↔ q.statement.text = q.head.text) ∧
    (q.rule? = none ↔ ∃ condition, condition ≠ "" ∧
      q.statement.text = q.head.text ++ " WHERE " ++ condition) := by
  have hn : q.rule? = none ↔ q.scope.isUnfiltered = false := by
    rw [← isSome_rule? h, Option.isSome_eq_false_iff, Option.isNone_iff_eq_none]
  rw [statement_eq_filtered h, Statement.text_filtered_eq_iff, Statement.text_filtered_eq_where_iff,
    isSome_rule? h]
  exact ⟨Iff.rfl, hn⟩

end Request

namespace Database

variable {R M P K A : Type} (client : Client R) (settings : Settings) (rule : Rule)
  (s : Session V R)

theorem transmit_setPolicy (p : Policy) :
    @transmit V R client (settings.setPolicy p rule) = transmit client settings := by
  cases rule <;> rfl

theorem permit_of_exposed {q : Request V} (h : q.Exposed rule) :
    permit settings q s = s.guard settings rule q.statement.text := by
  rw [permit, ((q.exposed_iff rule).mp h).2]

theorem respond_setPolicy_of_not_exposed {q : Request V} (h : ¬q.Exposed rule) (p : Policy) :
    respond client (settings.setPolicy p rule) q = respond client settings q := by
  funext s
  by_cases hi : q.isIdle
  · rw [respond_of_idle _ _ hi, respond_of_idle _ _ hi]
  · have hp : permit (settings.setPolicy p rule) q s = permit settings q s := by
      rw [permit, permit]
      cases hr : q.rule? with
      | none => rfl
      | some other =>
        have hne : other ≠ rule := by
          rintro rfl
          exact h ((q.exposed_iff other).mpr ⟨by simpa using hi, hr⟩)
        simp only [Session.guard, settings.policy_setPolicy_of_ne p hne]
    rw [respond_eq _ _ (by simpa using hi), respond_eq _ _ (by simpa using hi), hp,
      transmit_setPolicy]

theorem respond_setPolicy_of_exposed {q : Request V} (h : q.Exposed rule) (p : Policy) :
    respond client (settings.setPolicy p rule) q s =
      match p with
      | .allow => transmit client settings q s
      | .warn => transmit client settings q (s.log (.policy rule q.statement.text))
      | .refuse => (.error (.validation (.policy rule q.statement.text)), s) := by
  rw [respond_eq _ _ ((q.exposed_iff rule).mp h).1, permit_of_exposed _ rule s h, Session.guard,
    settings.policy_setPolicy_self, transmit_setPolicy]
  cases p <;> rfl

variable [KeyOrder K] (t : Table) (reading : Reading R M P K A)

/-- A call that puts an exposed request puts no other one. -/
theorem dialogue_of_exposed {call : Operation V (Filter V) (Update V) (Scope V) P}
    {x : Exchange V R} (hx : x ∈ exchanges client settings t reading call s)
    (h : x.request.Exposed rule) :
    ∃ f : x.request.Reply R → Outcome R M K A,
      call.dialogue t reading = .ask x.request (fun reply => .done (.ok (f reply))) := by
  obtain hd | ⟨q, f, hd⟩ := call.dialogue_reads_or_asks t reading
  · obtain ⟨scope, hq | hq⟩ := hd.transcript (respond client settings) s hx
    · rw [hq] at h
      cases h
    · rw [hq] at h
      cases h
  · rw [exchanges, hd] at hx
    obtain hq | ⟨reply, s', hx⟩ := Dialogue.request_of_mem_transcript hx
    · subst hq
      exact ⟨f, hd⟩
    · cases hx

/-- A filter that looks like a condition and is none: one part of its group filters nothing. -/
def discardedDelete : Operation Nat (Filter Nat) (Update Nat) (Scope Nat) PairKind :=
  .delete (some (Filter.empty.andGroups [Filter.empty.compare "id" .equal 7, .empty]))

def people : Model := ⟨⟨"people", "id", ["id"]⟩, [⟨"id", ⟨.int64, false⟩⟩]⟩

def wholeTable : Exchange Nat Row := ⟨.delete (.all "people"), .ok (3 : Nat)⟩

end Database

end RowQuery
