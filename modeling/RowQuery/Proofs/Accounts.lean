import Mathlib
import RowQuery.Proofs.Composition
import RowQuery.Proofs.Refinement

namespace RowQuery

variable {V : Type}

/-- A text with placeholders, and the arguments it is given. -/
structure Template (V : Type) where
  text : String
  args : List (Arg V)

/-- How many arguments find no placeholder. -/
def Template.unused (t : Template V) : Nat := t.args.length - Statement.placeholders t.text

def Assignment.templates : Assignment V → List (Template V)
  | .value _ => []
  | .expr sql args => [⟨sql, args⟩]

def Scope.templates (s : Scope V) : List (Template V) :=
  if s.predicate = "" then [] else [⟨s.predicate, s.args⟩]

namespace Statement

theorem surplus_filtered (s : Statement V) (scope : Scope V) :
    (s.filtered scope).surplus = s.surplus + (scope.templates.map Template.unused).sum := by
  by_cases h : scope.predicate = ""
  · have hu : scope.isUnfiltered = true := by simp [Scope.isUnfiltered, h]
    rw [filtered_of_unfiltered hu, Scope.templates, if_pos h]
    rfl
  · have hu : ¬scope.isUnfiltered = true := by simpa [Scope.isUnfiltered] using h
    have hs : ((s.write " WHERE ").fill scope.predicate scope.args).surplus =
        s.surplus + (scope.args.length - slots scope.predicate) :=
      congrArg (s.surplus + ·) (surplus_fillPieces _ (pieces scope.predicate.toList) scope.args)
    rw [filtered, if_neg hu, hs, slots_eq_placeholders, Scope.templates, if_neg h]
    simp [Template.unused]

theorem unused_templates (a : Assignment V) :
    (a.templates.map Template.unused).sum = a.unbound.length := by
  cases a with
  | value v => rfl
  | expr sql args =>
    simp [Assignment.templates, Template.unused, Assignment.unbound, slots_eq_placeholders]

theorem surplus_setColumns_eq_sum (s : Statement V) (es : List (String × Assignment V)) :
    (s.setColumns es).surplus =
      s.surplus + ((es.flatMap fun e => e.2.templates).map Template.unused).sum := by
  rw [surplus_setColumns]
  congr 1
  induction es with
  | nil => rfl
  | cons e es ih =>
    rw [List.flatMap_cons, List.flatMap_cons, List.length_append, List.map_append, List.sum_append,
      ih, unused_templates]

end Statement

namespace Request

/-- The templates of a statement: the expressions that are assigned, and the condition. -/
def templates : Request V → List (Template V)
  | .count s => s.templates
  | .find s => s.templates
  | .delete s => s.templates
  | .update s a => a.entries.flatMap (fun e => e.2.templates) ++ s.templates

/-- No template makes up for another: what one of them leaves over is not used up by one that has
too few arguments. -/
theorem surplus_statement (q : Request V) :
    q.statement.surplus = (q.templates.map Template.unused).sum := by
  have hw (s : Statement V) (t : String) : (s.write t).surplus = s.surplus := rfl
  have he : (Statement.empty : Statement V).surplus = 0 := rfl
  cases q with
  | count s =>
    rw [statement, Scope.countStatement, Statement.surplus_filtered, hw, he, Nat.zero_add, templates]
  | find s =>
    rw [statement, Scope.selectStatement, hw, Statement.surplus_filtered, hw, he, Nat.zero_add,
      templates]
  | delete s =>
    rw [statement, Scope.deleteStatement, Statement.surplus_filtered, hw, he, Nat.zero_add,
      templates]
  | update s a =>
    rw [statement, Scope.updateStatement, Statement.surplus_filtered,
      Statement.surplus_setColumns_eq_sum, hw, he, Nat.zero_add, templates, List.map_append,
      List.sum_append]

theorem surplus_eq_zero_iff (q : Request V) :
    q.statement.surplus = 0 ↔
      ¬∃ t ∈ q.templates, Statement.placeholders t.text < t.args.length := by
  rw [surplus_statement, List.sum_eq_zero_iff_forall_eq_nat]
  simp [Template.unused, Nat.sub_eq_zero_iff_le]

/-- A missing argument of the assignment does not hide the two that the condition leaves over. -/
example :
    (Request.update ⟨"t", [], "a", [.scalar 1, .scalar 2], "", none, none⟩
      (SortedMap.empty.insert "b" (.expr "?" [])) : Request Nat).statement.surplus = 2 := by
  decide +kernel

/-- The warning that comes before a change of a whole table. -/
def warned (settings : Settings) (q : Request V) : List Database.Event :=
  match q with
  | .delete s => ofRule s .unfilteredDelete
  | .update s _ => ofRule s .unfilteredUpdate
  | _ => []
where
  ofRule (s : Scope V) (rule : Rule) : List Database.Event :=
    if s.predicate = "" ∧ settings.policy rule = .warn then [.policy rule q.sent.sql] else []

/-- The operation and the table that are named in the log. -/
def label : Request V → String × String
  | .count s => ("count", s.table)
  | .find s => ("find", s.table)
  | .delete s => ("delete", s.table)
  | .update s _ => ("update", s.table)

theorem label_eq (q : Request V) : q.label = (q.name, q.scope.table) := by
  cases q <;> rfl

/-- The entry of a statement in the log. -/
def entry (settings : Settings) (q : Request V) : Database.Event :=
  .statement q.label.1 q.label.2 q.sent.params.length (settings.logged q.sent.sql)

/-- What is logged of a request that reaches the client: perhaps a warning of the policy, then the
statement itself, and then the arguments that some template leaves over. -/
def account (settings : Settings) (q : Request V) : List Database.Event :=
  q.warned settings ++ q.entry settings ::
    if ∃ t ∈ q.templates, Statement.placeholders t.text < t.args.length then
      [.surplus q.label.1 q.label.2 (q.templates.map Template.unused).sum
        (settings.logged q.sent.sql)]
    else []

theorem account_eq (settings : Settings) (q : Request V) :
    q.account settings = q.warned settings ++ q.traced settings := by
  rw [account, entry, traced, label_eq, sent_eq, ← surplus_statement]
  by_cases h : q.statement.surplus = 0
  · rw [if_pos h, if_neg (q.surplus_eq_zero_iff.mp h)]
  · rw [if_neg h, if_pos (Classical.not_not.mp (mt q.surplus_eq_zero_iff.mpr h))]

theorem level_warned (settings : Settings) (q : Request V) :
    ∀ e ∈ q.warned settings, e.level = .warn := by
  have hr (s : Scope V) (rule : Rule) :
      ∀ e ∈ warned.ofRule settings q s rule, e.level = .warn := by
    intro e he
    rw [warned.ofRule] at he
    split at he
    · rw [List.mem_singleton.mp he]
      rfl
    · cases he
  cases q with
  | count s => intro e he; cases he
  | find s => intro e he; cases he
  | delete s => exact hr s .unfilteredDelete
  | update s a => exact hr s .unfilteredUpdate

/-- Of all that is logged of a request, the statement alone is no warning. -/
theorem debug_account (settings : Settings) (q : Request V) :
    (q.account settings).filter (fun e => e.level = .debug) = [q.entry settings] := by
  have hw : (q.warned settings).filter (fun e => e.level = .debug) = [] := by
    refine List.filter_eq_nil_iff.mpr fun e he => ?_
    simp [level_warned settings q e he]
  have he : (q.entry settings).level = .debug := rfl
  rw [account, List.filter_append, hw, List.nil_append, List.filter_cons_of_pos (by simp [he])]
  split
  · rfl
  · rfl

theorem warned_of_exposed (settings : Settings) {q : Request V} {rule : Rule}
    (h : q.Exposed rule) :
    q.warned settings =
      if settings.policy rule = .warn then [.policy rule q.statement.text] else [] := by
  cases h with
  | delete h => simp [warned, warned.ofRule, h, sent, statement]
  | update h ha => simp [warned, warned.ofRule, h, sent, statement]

theorem warned_of_rule?_eq_none (settings : Settings) {q : Request V} (h : q.rule? = none) :
    q.warned settings = [] := by
  cases q with
  | count s => rfl
  | find s => rfl
  | delete s => simp_all [warned, warned.ofRule, rule?, scope, Scope.isUnfiltered]
  | update s a => simp_all [warned, warned.ofRule, rule?, scope, Scope.isUnfiltered]

end Request

namespace Database

variable {R : Type} (client : Client R) (settings : Settings)

theorem permit_eq {q : Request V} (h : ¬q.Unsent settings) (s : Session V R) :
    permit settings q s = (.ok (), { s with events := s.events ++ q.warned settings }) := by
  rw [Request.unsent_iff, not_or, Bool.not_eq_true] at h
  obtain ⟨hi, hp⟩ := h
  rw [permit]
  cases hr : q.rule? with
  | none => simp [Request.warned_of_rule?_eq_none settings hr]
  | some rule =>
    rw [Request.warned_of_exposed settings ((q.exposed_iff rule).mpr ⟨hi, hr⟩)]
    cases hs : settings.policy rule with
    | allow => simp [Session.guard, hs]
    | warn => simp [Session.guard, hs, Session.log]
    | refuse => simp [hr, hs] at hp

theorem unsent_congr {settings' : Settings} (h : settings'.policy = settings.policy)
    (q : Request V) : q.Unsent settings' ↔ q.Unsent settings := by
  rw [q.unsent_iff, q.unsent_iff, h]

/-- What becomes of a request that sends nothing is up to the policies alone. -/
theorem respond_unsent {q : Request V} (h : q.Unsent settings) :
    ∃ result, ∀ settings', settings'.policy = settings.policy →
      ∀ s : Session V R, respond client settings' q s = (result, s) := by
  cases h with
  | @refused _ rule he hp =>
    refine ⟨.error (.validation (.policy rule q.statement.text)), fun settings' h s => ?_⟩
    exact respond_of_refused client settings' he (by rw [h, hp]) s
  | @idle scope a ha =>
    refine ⟨.ok ((Request.update scope a).nothing R), fun settings' _ s => ?_⟩
    exact respond_of_idle client settings' ((Request.isIdle_iff _).mpr ⟨scope, a, rfl, ha⟩) s

/-- What becomes of a request that reaches the client. -/
theorem respond_of_sent {q : Request V} (h : ¬q.Unsent settings) (s : Session V R) :
    respond client settings q s =
      ((verdict client settings q.sent.sql s.script).result.bind (conclude client q),
        { script := (verdict client settings q.sent.sql s.script).rest
          statements := s.statements ++ [q.sent]
          cancels := s.cancels + (verdict client settings q.sent.sql s.script).cancels
          events := s.events ++ q.account settings }) := by
  have hi : q.isIdle = false := by
    simpa using fun hi => h ((q.unsent_iff settings).mpr (.inl hi))
  rw [respond_eq client settings hi, permit_eq settings h]
  simp only [transmit, Session.trace_eq, Session.send_eq, Request.sent_eq, Request.account_eq,
    List.append_assoc]
  cases (verdict client settings q.statement.text s.script).result <;> rfl

theorem events_respond (q : Request V) (s : Session V R) :
    (respond client settings q s).2.events =
      s.events ++ if q.Unsent settings then [] else q.account settings := by
  by_cases h : q.Unsent settings
  · rw [respond_of_unsent client settings h, if_pos h, List.append_nil]
  · rw [respond_of_sent client settings h, if_neg h]

/-- The requests of a run that reach the client. -/
def dispatched (asked : List (Exchange V R)) : List (Request V) :=
  (asked.map Exchange.request).filter (fun q => ¬q.Unsent settings)

theorem flatMap_dispatched {L : Type} (f : Request V → List L) (asked : List (Exchange V R)) :
    (dispatched settings asked).flatMap f =
      asked.flatMap (fun x => if x.request.Unsent settings then [] else f x.request) := by
  induction asked with
  | nil => rfl
  | cons x xs ih =>
    rw [List.flatMap_cons, ← ih, dispatched, List.map_cons]
    by_cases h : x.request.Unsent settings
    · rw [List.filter_cons_of_neg (by simpa using h), if_pos h]
      rfl
    · rw [List.filter_cons_of_pos (by simpa using h), if_neg h, List.flatMap_cons]
      rfl

/-- An event without the text that is clipped for the log. A warning of the policy is never
clipped. -/
def Event.bare : Event → Event
  | .statement operation table paramCount _ => .statement operation table paramCount ""
  | .surplus operation table count _ => .surplus operation table count ""
  | .policy rule sql => .policy rule sql

/-- Two sessions are alike if at most the clipped texts of their logs differ. -/
structure Session.Alike (s t : Session V R) : Prop where
  script : s.script = t.script
  statements : s.statements = t.statements
  cancels : s.cancels = t.cancels
  events : s.events.map Event.bare = t.events.map Event.bare

section LogLimit

variable (limit : Option Nat)

theorem policy_logLimit :
    ({ settings with logLimit := limit } : Settings).policy = settings.policy := by
  funext rule
  cases rule <;> rfl

theorem bare_account_logLimit (q : Request V) :
    (q.account { settings with logLimit := limit }).map Event.bare =
      (q.account settings).map Event.bare := by
  have hw : q.warned { settings with logLimit := limit } = q.warned settings := by
    cases q <;> simp only [Request.warned, Request.warned.ofRule, policy_logLimit]
  rw [Request.account, Request.account, Request.entry, Request.entry, hw, List.map_append,
    List.map_append]
  by_cases h : ∃ t ∈ q.templates, Statement.placeholders t.text < t.args.length
  · rw [if_pos h, if_pos h]
    rfl
  · rw [if_neg h, if_neg h]
    rfl

theorem respond_logLimit (q : Request V) (s t : Session V R) (h : s.Alike t) :
    (respond client { settings with logLimit := limit } q s).1 = (respond client settings q t).1 ∧
      (respond client { settings with logLimit := limit } q s).2.Alike
        (respond client settings q t).2 := by
  by_cases hu : q.Unsent settings
  · obtain ⟨result, hr⟩ := respond_unsent client settings hu
    rw [hr _ (policy_logLimit settings limit), hr settings rfl]
    exact ⟨rfl, h⟩
  · have hv (sql : String) (script : List (Response R)) :
        verdict client { settings with logLimit := limit } sql script =
          verdict client settings sql script := rfl
    have hu' : ¬q.Unsent { settings with logLimit := limit } :=
      mt (unsent_congr settings (policy_logLimit settings limit) q).mp hu
    rw [respond_of_sent client settings hu, respond_of_sent client _ hu', hv, h.script]
    refine ⟨rfl, rfl, ?_, ?_, ?_⟩
    · exact congrArg (· ++ [q.sent]) h.statements
    · exact congrArg (· + _) h.cancels
    · rw [List.map_append, List.map_append, h.events, bare_account_logLimit]

end LogLimit

/-- The log of a call is an account of what was sent. For every request that reaches the client, in
order, there is one statement and one entry in the log with the number of its parameters and its
clipped text, directly before it the warning of a policy and directly after it the count of left
over arguments, where there is one; nothing else is logged. Where the texts are clipped makes no
difference to anything but these texts. -/
theorem events_account_for_statements {M P K A : Type} [KeyOrder K] (t : Table)
    (reading : Reading R M P K A) (call : Operation V (Filter V) (Update V) (Scope V) P)
    (s : Session V R) :
    let d := call.dialogue t reading
    let run := d.run (respond client settings) s
    let requests := dispatched settings (d.transcript (respond client settings) s)
    run.2.statements = s.statements ++ requests.map Request.sent ∧
    run.2.events = s.events ++ requests.flatMap (Request.account settings) ∧
    run.2.events.filter (fun e => e.level = .debug) =
      s.events.filter (fun e => e.level = .debug) ++ requests.map (Request.entry settings) ∧
    ∀ limit,
      let other := d.run (respond client { settings with logLimit := limit }) s
      other.1 = run.1 ∧ other.2.Alike run.2 := by
  intro d run requests
  have hevents : run.2.events = s.events ++ requests.flatMap (Request.account settings) := by
    rw [flatMap_dispatched]
    exact Dialogue.log_run Session.events _ (events_respond client settings) d s
  refine ⟨?_, hevents, ?_, fun limit => ?_⟩
  · rw [List.map_eq_flatMap, flatMap_dispatched]
    exact Dialogue.log_run Session.statements _ (statements_respond client settings) d s
  · rw [hevents, List.filter_append, List.filter_flatMap, List.map_eq_flatMap]
    simp only [Request.debug_account]
  · exact Dialogue.run_related Session.Alike (respond_logLimit client settings limit) d
      ⟨rfl, rfl, rfl, rfl⟩

end Database

end RowQuery
