import RowQuery.Proofs.Groups
import RowQuery.Proofs.Recipes
import RowQuery.Proofs.Refinement

namespace RowQuery

variable {V R S M P K A α : Type}

namespace Filter

/-- What is written by hand is not blank. -/
def Call.Worded : Call V S → Prop
  | .expr sql _ => sql ≠ ""
  | _ => True

/-- No clause is blank, so none is lost in the text of the predicate. -/
def Worded (c : Filter V) : Prop := ∀ k ∈ c.clauses, k.sql ≠ ""

theorem isTrivial_of_worded {c : Filter V} (h : c.Worded) : c.isTrivial = c.isEmpty := by
  cases hc : c.clauses with
  | nil => simp [isTrivial, isEmpty, predicate, joined, hc]
  | cons k ks =>
    have hk : k.sql ≠ "" := h k (by simp [hc])
    simp [isTrivial, isEmpty, predicate, joined, hc, hk]

theorem predicate_eq_empty_iff {c : Filter V} (h : c.Worded) :
    c.predicate = "" ↔ c.isEmpty = true := by
  rw [← isTrivial_of_worded h, isTrivial, String.isEmpty_iff]

theorem worded_empty : (empty : Filter V).Worded := by simp [Worded]

theorem worded_expr {sql : String} (h : sql ≠ "") (args : List (Arg V)) :
    (empty.expr sql args).Worded := by
  simpa [Worded, Filter.expr] using h

theorem worded_isIn (field : String) (values : List (Arg V)) : (empty.isIn field values).Worded := by
  rw [isIn]
  cases Arg.flatten values with
  | nil => exact worded_empty
  | cons v vs => cases vs <;> exact worded_expr (by simp) _

theorem group_ne_empty (predicate : String) : group predicate ≠ "" := by simp [group]

theorem worded_andGroups (parts : List (Filter V)) : (empty.andGroups parts).Worded := by
  intro k hk
  rw [clauses_andGroups, clauses_empty, List.nil_append] at hk
  by_cases ht : parts.any isTrivial
  · rw [if_pos ht] at hk
    cases hk
  · rw [if_neg ht] at hk
    obtain ⟨p, -, rfl⟩ := List.mem_map.mp hk
    exact group_ne_empty p.predicate

theorem worded_alternative (p : Filter V) : ∀ k ∈ p.alternative, k.sql ≠ "" := by
  intro k hk
  rw [alternative] at hk
  by_cases ht : p.isTrivial
  · rw [if_pos ht] at hk
    cases hk
  · rw [if_neg ht, List.mem_singleton] at hk
    rw [hk]
    exact group_ne_empty p.predicate

theorem worded_orGroup (p : Filter V) : (empty.orGroup p).Worded := by
  rw [Worded, clauses_orGroup]
  exact worded_alternative p

/-- A call adds no blank clause, whatever its parts are. -/
theorem worded_apply {call : Call V (Filter V)} (h : call.Worded) : (call.apply empty).Worded := by
  cases call with
  | expr sql args => exact worded_expr h args
  | compare field op value => exact worded_expr (by simp) _
  | isIn field values => exact worded_isIn field values
  | isInList field values => exact worded_isIn field [.list values]
  | isInQuery field query args => exact worded_expr (by simp) _
  | andGroups parts => exact worded_andGroups parts
  | orGroup part => exact worded_orGroup part
  | ascending fields => exact worded_empty
  | descending fields => exact worded_empty

theorem worded_either {parts : List (Filter V)} (h : ∀ p ∈ parts, p.Worded) :
    (either parts).Worded := by
  rcases parts with _ | ⟨p, _ | ⟨q, ps⟩⟩
  · exact worded_empty
  · exact h p (by simp)
  · intro k hk
    rw [clauses_either] at hk
    obtain ⟨p, -, hk⟩ := List.mem_flatMap.mp hk
    exact worded_alternative p k hk

theorem worded_buildParts {call : Call V (Recipe V)} (h : call.Worded) :
    (Recipe.buildParts call).Worded := by
  cases call with
  | expr sql args => exact h
  | _ => trivial

theorem Recipe.worded_build {r : Recipe V} (h : r.Each Call.Worded) : r.build.Worded := by
  induction h with
  | blank => exact worded_empty
  | @either parts _ ih =>
    rw [build, buildAll_eq_map]
    exact worded_either (List.forall_mem_map.mpr ih)
  | off _ _ ih => exact ih
  | @on before call _ hc _ ih _ =>
    change ((buildParts call).apply before.build).Worded
    rw [Worded, clauses_apply]
    intro k hk
    exact (List.mem_append.mp hk).elim (ih k) (worded_apply (worded_buildParts hc) k)

theorem flatMap_alternative {parts : List (Filter V)} (h : ∀ p ∈ parts, p.Worded) :
    parts.flatMap alternative =
      (parts.filter (fun p => !p.isEmpty)).map (asClause .or) := by
  have hs : selective parts = parts.filter (fun p => !p.isEmpty) := by
    refine List.filter_congr (fun p hp => ?_)
    rw [← isTrivial_of_worded (h p hp)]
    by_cases he : p.predicate = "" <;> simp [isTrivial, he]
  rw [flatMap_alternative_eq, hs]

namespace Recipe

variable {parts : List (Recipe V)}

theorem worded_buildAll (h : ∀ p ∈ parts, p.Each Call.Worded) :
    ∀ c ∈ parts.map build, c.Worded :=
  List.forall_mem_map.mpr (fun p hp => worded_build (h p hp))

/-- A list of groups is dropped exactly when there is none or some filter among them is empty. -/
theorem andGroups_build_eq_self_iff (h : ∀ p ∈ parts, p.Each Call.Worded) (c : Filter V) :
    c.andGroups (parts.map build) = c ↔ parts = [] ∨ ∃ p ∈ parts, p.build.isEmpty = true := by
  rw [andGroups_eq_self_iff, List.map_eq_nil_iff]
  refine or_congr_right ⟨?_, ?_⟩
  · rintro ⟨c, hc, ht⟩
    obtain ⟨p, hp, rfl⟩ := List.mem_map.mp hc
    exact ⟨p, hp, isTrivial_of_worded (worded_build (h p hp)) ▸ ht⟩
  · rintro ⟨p, hp, he⟩
    exact ⟨p.build, List.mem_map_of_mem hp,
      (isTrivial_of_worded (worded_build (h p hp))).trans he⟩

/-- Of two or more alternatives exactly the empty filters are skipped. -/
theorem clauses_either_build (h : ∀ p ∈ parts, p.Each Call.Worded) (hl : 2 ≤ parts.length) :
    (Filter.either (parts.map build)).clauses =
      ((parts.map build).filter (fun p => !p.isEmpty)).map (asClause .or) := by
  rw [← flatMap_alternative (worded_buildAll h)]
  match parts, hl with
  | p :: q :: ps, _ => exact clauses_either p.build q.build (ps.map build)

end Recipe

end Filter

namespace Update

def Start.asFilter : Start (Filter.Recipe V) → Filter.Recipe V
  | .blank => .blank
  | .confined parts => .step .blank true (.andGroups parts)

/-- The recipe of the filter of an update. -/
def Recipe.asFilter (r : Recipe V) : Filter.Recipe V :=
  r.narrowings.foldl (fun before call => .step before true call) r.start.asFilter

theorem Recipe.build_asFilter (r : Recipe V) : r.asFilter.build = r.build.filter := by
  have hs : r.start.asFilter.build = r.start.build.filter := by
    cases r.start with
    | blank => rfl
    | confined parts =>
      exact congrArg Filter.empty.andGroups (Filter.Recipe.buildAll_eq_map parts)
  rw [filter_build, Filter.Recipe.narrow, asFilter, ← hs]
  exact (List.foldl_hom Filter.Recipe.build (fun _ _ => rfl)).symm

end Update

namespace Database

/-- The runs of a change of a whole table under each policy for a rule: the statement is its head
alone, it can be sent with a warning, and it can be refused. -/
structure ReachesAll (rule : Rule) (head : String) (s : Session V R)
    (run : Policy → Except Failure α × Session V R) : Prop where
  sends : ∀ p, p ≠ .refuse →
    ∃ params, (run p).2.statements = s.statements ++ [⟨.execute, head, params⟩]
  warns : (run .warn).1 = (run .allow).1 ∧
    ∃ logged, (run .allow).2.events = s.events ++ logged ∧
      (run .warn).2.events = s.events ++ .policy rule head :: logged
  refuses : run .refuse = (.error (.validation (.policy rule head)), s)

/-- The runs of a change of certain rows: the statement has a condition, and no policy matters. -/
structure ReachesSome (head : String) (s : Session V R)
    (run : Policy → Except Failure α × Session V R) : Prop where
  sends : ∃ condition params, condition ≠ "" ∧ ∀ p, (run p).2.statements =
    s.statements ++ [⟨.execute, head ++ " WHERE " ++ condition, params⟩]
  unaffected : ∀ p p', run p = run p'

theorem ReachesAll.not_reachesSome {rule : Rule} {head : String} {s : Session V R}
    {run : Policy → Except Failure α × Session V R} (h : ReachesAll rule head s run) :
    ¬ReachesSome head s run := by
  rintro ⟨⟨condition, params, -, hs⟩, -⟩
  obtain ⟨params', ha⟩ := h.sends .allow (by decide)
  have hsent := List.append_cancel_left (ha.symm.trans (hs .allow))
  simp only [List.cons.injEq, Sent.mk.injEq] at hsent
  exact Statement.ne_append_where head condition hsent.1.2.1

variable (client : Client R) (settings : Settings) (s : Session V R)

theorem reachesAll_of_exposed {q : Request V} {rule : Rule} (h : q.Exposed rule)
    (f : q.Reply R → α) :
    ReachesAll rule q.head.text s (fun p =>
      (Dialogue.ask q (fun reply => .done (.ok (f reply)))).run
        (respond client (settings.setPolicy p rule)) s) := by
  obtain ⟨hi, hr⟩ := (q.exposed_iff rule).mp h
  have hq : q.purpose = .execute := by
    cases h <;> rfl
  have ht : q.statement.text = q.head.text :=
    (Request.rule?_iff_text hq).1.mp (by rw [hr]; rfl)
  simp only [Dialogue.run_ask_done]
  refine ⟨fun p hp => ⟨q.statement.params, ?_⟩, ?_, ?_⟩
  · have hu : ¬q.Unsent (settings.setPolicy p rule) := by
      rw [q.unsent_iff, hi, hr, Option.map_some, settings.policy_setPolicy_self]
      simpa using hp
    rw [statements_respond_of_sent _ _ hu, Request.sent_eq, hq, ht]
  · simp only [respond_setPolicy_of_exposed client settings rule s h, Session.log, transmit_events,
      events_transmit, ht]
    exact ⟨trivial, q.traced settings, rfl, by simp⟩
  · simp only [respond_setPolicy_of_exposed client settings rule s h, ht]
    rfl

theorem reachesSome_of_filtered {q : Request V} (rule : Rule) (hq : q.purpose = .execute)
    (hi : q.isIdle = false) (hs : q.scope.isUnfiltered = false) (f : q.Reply R → α) :
    ReachesSome q.head.text s (fun p =>
      (Dialogue.ask q (fun reply => .done (.ok (f reply)))).run
        (respond client (settings.setPolicy p rule)) s) := by
  have hr : q.rule? = none := by
    rw [← Option.isNone_iff_eq_none, ← Option.isSome_eq_false_iff, Request.isSome_rule? hq, hs]
  have he : ¬q.Exposed rule := by
    rw [q.exposed_iff, hr]
    simp
  have hu : ¬q.Unsent settings := by
    rw [q.unsent_iff, hi, hr]
    simp
  obtain ⟨condition, hc, ht⟩ := (Request.rule?_iff_text hq).2.mp hr
  simp only [Dialogue.run_ask_done, respond_setPolicy_of_not_exposed client settings rule he]
  refine ⟨⟨condition, q.statement.params, hc, fun p => ?_⟩, fun _ _ => rfl⟩
  rw [statements_respond_of_sent _ _ hu, Request.sent_eq, hq, ht]

theorem reaches_iff {q : Request V} {rule : Rule} {empty : Prop}
    (hq : q.purpose = .execute) (hi : q.isIdle = false)
    (hs : q.scope.isUnfiltered = true ↔ empty)
    (he : q.scope.isUnfiltered = true → q.Exposed rule) (f : q.Reply R → α) :
    let run := fun p => (Dialogue.ask q (fun reply => .done (.ok (f reply)))).run
      (respond client (settings.setPolicy p rule)) s
    (ReachesAll rule q.head.text s run ↔ empty) ∧
    (ReachesSome q.head.text s run ↔ ¬empty) := by
  intro run
  by_cases hu : q.scope.isUnfiltered = true
  · have hall : ReachesAll rule q.head.text s run := reachesAll_of_exposed client settings s (he hu) f
    exact ⟨⟨fun _ => hs.mp hu, fun _ => hall⟩,
      ⟨fun h => absurd h hall.not_reachesSome, fun h => absurd (hs.mp hu) h⟩⟩
  · have hsome : ReachesSome q.head.text s run :=
      reachesSome_of_filtered client settings s rule hq hi (by simpa using hu) f
    exact ⟨⟨fun h => absurd hsome h.not_reachesSome, fun h => absurd (hs.mpr h) hu⟩,
      ⟨fun _ => mt hs.mpr hu, fun _ => hsome⟩⟩

theorem isUnfiltered_reached (t : Table) (c : Filter V) :
    (Access.reached t (some c)).isUnfiltered = c.isTrivial := by
  by_cases h : c.predicate.isEmpty
  · simp [Access.reached, Scope.matching, Scope.narrow, Scope.isUnfiltered, Filter.isTrivial,
      Scope.all, h]
  · simp [Access.reached, Scope.matching, Scope.narrow, Scope.isUnfiltered, Filter.isTrivial,
      Scope.all, h]

theorem table_reached (t : Table) (c : Filter V) : (Access.reached t (some c)).table = t.name := by
  by_cases h : c.predicate.isEmpty <;>
    simp [Access.reached, Scope.matching, Scope.narrow, Scope.all, h]

theorem head_delete (t : Table) (c : Filter V) :
    (Request.delete (Access.reached t (some c))).head.text = "DELETE FROM " ++ t.name := by
  rw [Request.head, Statement.text_write, table_reached]
  rfl

theorem dialogue_of_idle [KeyOrder K] (t : Table) (reading : Reading R M P K A) {u : Update V}
    (h : u.isIdle = true) :
    (Operation.update (some u) : Operation V (Filter V) (Update V) (Scope V) P).dialogue t reading =
      .done (.ok (.affected 0)) := by
  rw [Operation.dialogue, Access.update, if_pos h]
  rfl

theorem dialogue_of_not_idle [KeyOrder K] (t : Table) (reading : Reading R M P K A)
    {u : Update V} (h : u.isIdle = false) :
    (Operation.update (some u) : Operation V (Filter V) (Update V) (Scope V) P).dialogue t reading =
      .ask (.update (Access.reached t (some u.filter)) u.assignments)
        (fun n => .done (.ok (.affected n))) := by
  rw [Operation.dialogue, Access.update, if_neg (by simp [h])]
  rfl

theorem delete_reaches_iff [KeyOrder K] (t : Table) (reading : Reading R M P K A) {c : Filter V}
    (h : c.Worded) :
    let call : Operation V (Filter V) (Update V) (Scope V) P := .delete (some c)
    let run := fun p =>
      (call.dialogue t reading).run (respond client (settings.setPolicy p .unfilteredDelete)) s
    (ReachesAll .unfilteredDelete ("DELETE FROM " ++ t.name) s run ↔ c.isEmpty = true) ∧
    (ReachesSome ("DELETE FROM " ++ t.name) s run ↔ ¬c.isEmpty = true) := by
  have hs : (Access.reached t (some c)).isUnfiltered = true ↔ c.isEmpty = true := by
    rw [isUnfiltered_reached, Filter.isTrivial_of_worded h]
  rw [← head_delete t c]
  exact reaches_iff client settings s (q := .delete (Access.reached t (some c))) rfl rfl hs
    (fun hu => .delete (String.isEmpty_iff.mp hu)) Outcome.affected

theorem update_reaches_iff [KeyOrder K] (t : Table) (reading : Reading R M P K A) {u : Update V}
    (h : u.filter.Worded) (hi : u.isIdle = false) :
    let call : Operation V (Filter V) (Update V) (Scope V) P := .update (some u)
    let run := fun p =>
      (call.dialogue t reading).run (respond client (settings.setPolicy p .unfilteredUpdate)) s
    let head := (Request.update (Access.reached t (some u.filter)) u.assignments).head.text
    (ReachesAll .unfilteredUpdate head s run ↔ u.filter.isEmpty = true) ∧
    (ReachesSome head s run ↔ ¬u.filter.isEmpty = true) := by
  intro call run head
  have hs : (Access.reached t (some u.filter)).isUnfiltered = true ↔ u.filter.isEmpty = true := by
    rw [isUnfiltered_reached, Filter.isTrivial_of_worded h]
  have ha : u.assignments.entries ≠ [] := by
    simpa [Update.isIdle, SortedMap.isEmpty] using hi
  simp only [run, call, dialogue_of_not_idle t reading hi]
  exact reaches_iff client settings s
    (q := .update (Access.reached t (some u.filter)) u.assignments) rfl hi hs
    (fun hu => .update (String.isEmpty_iff.mp hu) ha) Outcome.affected

/-- A filter made of calls is empty exactly when its predicate is blank. So lists of groups are
dropped and alternatives are skipped exactly where a filter is empty, and a change of the rows that
a filter selects is a change of the whole table exactly when the filter is empty. Only an update
without assignments changes nothing. -/
theorem empty_filter_reaches_all [KeyOrder K] {r : Filter.Recipe V} (hr : r.Each Filter.Call.Worded)
    {parts : List (Filter.Recipe V)} (hp : ∀ p ∈ parts, p.Each Filter.Call.Worded)
    {u : Update.Recipe V} (hu : u.asFilter.Each Filter.Call.Worded)
    (t : Table) (reading : Reading R M P K A) :
    let groups := parts.map Filter.Recipe.build
    let delete : Operation V (Filter V) (Update V) (Scope V) P := .delete (some r.build)
    let update : Operation V (Filter V) (Update V) (Scope V) P := .update (some u.build)
    let deletes := fun p =>
      (delete.dialogue t reading).run (respond client (settings.setPolicy p .unfilteredDelete)) s
    let updates := fun p =>
      (update.dialogue t reading).run (respond client (settings.setPolicy p .unfilteredUpdate)) s
    let updateHead :=
      (Request.update (Access.reached t (some u.build.filter)) u.build.assignments).head.text
    (r.build.predicate = "" ↔ r.build.isEmpty = true) ∧
    (∀ c : Filter V, c.andGroups groups = c ↔ parts = [] ∨ ∃ p ∈ parts, p.build.isEmpty = true) ∧
    (∀ c : Filter V, c.orGroup r.build = c ↔ r.build.isEmpty = true) ∧
    (2 ≤ parts.length → (Filter.either groups).clauses =
      (groups.filter (fun p => !p.isEmpty)).map (Filter.asClause .or)) ∧
    ((ReachesAll .unfilteredDelete ("DELETE FROM " ++ t.name) s deletes ↔
        r.build.isEmpty = true) ∧
      (ReachesSome ("DELETE FROM " ++ t.name) s deletes ↔ ¬r.build.isEmpty = true)) ∧
    (u.build.filter.predicate = "" ↔ u.build.filter.isEmpty = true) ∧
    (u.build.isIdle = true → ∀ p, updates p = (.ok (.affected 0), s)) ∧
    (u.build.isIdle = false →
      (ReachesAll .unfilteredUpdate updateHead s updates ↔ u.build.filter.isEmpty = true) ∧
      (ReachesSome updateHead s updates ↔ ¬u.build.filter.isEmpty = true)) := by
  intro groups delete update deletes updates updateHead
  have hrw : r.build.Worded := Filter.Recipe.worded_build hr
  have huw : u.build.filter.Worded := u.build_asFilter ▸ Filter.Recipe.worded_build hu
  refine ⟨Filter.predicate_eq_empty_iff hrw, Filter.Recipe.andGroups_build_eq_self_iff hp,
    fun c => ?_, Filter.Recipe.clauses_either_build hp,
    delete_reaches_iff client settings s t reading hrw,
    Filter.predicate_eq_empty_iff huw, fun hi p => ?_,
    update_reaches_iff client settings s t reading huw⟩
  · rw [Filter.orGroup_eq_self_iff, Filter.isTrivial_of_worded hrw]
  · simp only [updates, update, dialogue_of_idle t reading hi, Dialogue.run]

def seventh : Filter.Recipe Nat := .step .blank true (.expr "id = ?" [.scalar 7])

/-- The second group is empty, so the first one is dropped as well. -/
def discarded : Filter.Recipe Nat := .step .blank true (.andGroups [seventh, .blank])

def renamed : Update.Recipe Nat :=
  ⟨.confined [seventh], [(true, .set "name" 3), (false, .narrow (.expr "" []))]⟩

theorem empty_filter_reaches_all_discarded :
    let s : Session Nat Row := Session.start []
    let delete : Operation Nat (Filter Nat) (Update Nat) (Scope Nat) PairKind :=
      .delete (some discarded.build)
    let update : Operation Nat (Filter Nat) (Update Nat) (Scope Nat) PairKind :=
      .update (some renamed.build)
    (discarded.Each Filter.Call.Worded ∧ discarded.build.isEmpty = true) ∧
    (∀ p ∈ [seventh, .blank], p.Each Filter.Call.Worded) ∧
    (renamed.asFilter.Each Filter.Call.Worded ∧ renamed.build.isIdle = false ∧
      ¬renamed.build.filter.isEmpty = true) ∧
    (Filter.either [seventh.build, .empty]).clauses = [⟨.or, "( id = ? )", [.scalar 7]⟩] ∧
    ReachesAll .unfilteredDelete "DELETE FROM people" s (fun p =>
      (delete.dialogue people.table people.reading).run
        (respond .standard (Settings.standard.setPolicy p .unfilteredDelete)) s) ∧
    ReachesSome "UPDATE people SET name = $1" s (fun p =>
      (update.dialogue people.table people.reading).run
        (respond .standard (Settings.standard.setPolicy p .unfilteredUpdate)) s) := by
  intro s delete update
  have hs : seventh.Each Filter.Call.Worded :=
    .on .blank (by simp [Filter.Call.Worded]) (by simp [Filter.Call.parts])
  have hp : ∀ p ∈ [seventh, .blank], p.Each Filter.Call.Worded := by
    intro p hm
    obtain rfl | rfl : p = seventh ∨ p = .blank := by simpa using hm
    · exact hs
    · exact .blank
  have hr : discarded.Each Filter.Call.Worded := .on .blank trivial hp
  have hu : renamed.asFilter.Each Filter.Call.Worded :=
    .on .blank trivial (fun p hm => by rw [List.mem_singleton.mp hm]; exact hs)
  obtain ⟨-, -, -, heither, ⟨hdelete, -⟩, -, -, hupdate⟩ :=
    empty_filter_reaches_all .standard .standard s hr hp hu people.table people.reading
      (P := PairKind)
  have hi : renamed.build.isIdle = false := by decide
  have hn : ¬renamed.build.filter.isEmpty = true := by decide
  exact ⟨⟨hr, rfl⟩, hp, ⟨hu, hi, hn⟩, heither (by decide), hdelete.mpr rfl, (hupdate hi).2.mpr hn⟩

end Database

end RowQuery
