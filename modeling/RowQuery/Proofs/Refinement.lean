import RowQuery.Access.Script
import RowQuery.Proofs.Policy

namespace RowQuery

variable {V R σ τ α : Type}

/-- In turn, each request of a list is given the result that stands beside it. -/
def Replays (other : Responder V R τ) : τ → List (Exchange V R) → Prop
  | _, [] => True
  | t, x :: xs => (other x.request t).1 = x.result ∧ Replays other (other x.request t).2 xs

namespace Dialogue

variable {respond : Responder V R σ} {other : Responder V R τ}

/-- A dialogue learns of a responder only what its requests are given. -/
theorem eq_of_replays (d : Dialogue V R α) {s : σ} {t : τ}
    (h : Replays other t (d.transcript respond s)) :
    d.transcript other t = d.transcript respond s ∧ (d.run other t).1 = (d.run respond s).1 := by
  fun_induction transcript respond d s generalizing t with
  | case1 result s => exact ⟨rfl, rfl⟩
  | case2 q next s reply s' hr ih =>
    obtain ⟨hx, hrest⟩ := h
    have ht : other q t = (.ok reply, (other q t).2) := Prod.ext hx rfl
    rw [transcript_ask_ok ht, run_ask_ok ht, run_ask_ok hr]
    obtain ⟨hxs, ho⟩ := ih hrest
    exact ⟨by rw [hxs], ho⟩
  | case3 q next s e s' hr =>
    have ht : other q t = (.error e, (other q t).2) := Prod.ext h.1 rfl
    rw [transcript_ask_error ht, run_ask_error ht, run_ask_error hr]
    exact ⟨rfl, rfl⟩

end Dialogue

/-- The reply that gives a request its result again. -/
def Exchange.prepared : Exchange V R → Prepared R
  | ⟨.count _, .ok n⟩ => ⟨none, n, [], 0⟩
  | ⟨.find _, .ok rows⟩ => ⟨none, 0, rows, 0⟩
  | ⟨.delete _, .ok n⟩ => ⟨none, 0, [], n⟩
  | ⟨.update _ _, .ok n⟩ => ⟨none, 0, [], n⟩
  | ⟨_, .error e⟩ => ⟨some e, 0, [], 0⟩

namespace Script

theorem respond_prepared (x : Exchange V R) (replies : List (Prepared R))
    (requests : List (Request V)) :
    respond x.request ⟨x.prepared :: replies, requests⟩ =
      (x.result, ⟨replies, requests ++ [x.request]⟩) := by
  obtain ⟨q, result⟩ := x
  cases result with
  | error e => cases q <;> rfl
  | ok reply => cases q <;> rfl

/-- Every list of exchanges can be replayed. -/
theorem replays_prepared (xs : List (Exchange V R)) (requests : List (Request V)) :
    Replays respond ⟨xs.map Exchange.prepared, requests⟩ xs := by
  induction xs generalizing requests with
  | nil => trivial
  | cons x xs ih =>
    rw [Replays, List.map_cons, respond_prepared]
    exact ⟨rfl, ih _⟩

end Script

namespace Request

/-- What is sent for a request. -/
def sent : Request V → Database.Sent V
  | .count s => ⟨.query, s.countStatement.text, s.countStatement.params⟩
  | .find s => ⟨.query, s.selectStatement.text, s.selectStatement.params⟩
  | .delete s => ⟨.execute, s.deleteStatement.text, s.deleteStatement.params⟩
  | .update s a => ⟨.execute, (s.updateStatement a).text, (s.updateStatement a).params⟩

theorem sent_eq (q : Request V) : q.sent = ⟨q.purpose, q.statement.text, q.statement.params⟩ := by
  cases q <;> rfl

/-- Nothing is sent for a change that is refused, or for an update without assignments. -/
inductive Unsent (settings : Settings) : Request V → Prop
  | refused {q : Request V} {rule : Rule} (h : q.Exposed rule)
      (hp : settings.policy rule = .refuse) : Unsent settings q
  | idle {scope : Scope V} {a : Assignments V} (h : a.entries = []) :
      Unsent settings (.update scope a)

theorem isIdle_iff (q : Request V) :
    q.isIdle = true ↔ ∃ scope a, q = .update scope a ∧ a.entries = [] := by
  constructor
  · intro h
    cases q with
    | update scope a => exact ⟨scope, a, rfl, by simpa [isIdle, SortedMap.isEmpty] using h⟩
    | _ => cases h
  · rintro ⟨scope, a, rfl, h⟩
    simp [isIdle, SortedMap.isEmpty, h]

theorem unsent_iff (settings : Settings) (q : Request V) :
    q.Unsent settings ↔ q.isIdle = true ∨ q.rule?.map settings.policy = some .refuse := by
  constructor
  · rintro (⟨h, hp⟩ | h)
    · exact .inr (by rw [((q.exposed_iff _).mp h).2, Option.map_some, hp])
    · exact .inl ((isIdle_iff _).mpr ⟨_, _, rfl, h⟩)
  · intro h
    by_cases hi : q.isIdle = true
    · obtain ⟨scope, a, rfl, ha⟩ := q.isIdle_iff.mp hi
      exact .idle ha
    · obtain ⟨rule, hr, hp⟩ := Option.map_eq_some_iff.mp (h.resolve_left hi)
      exact .refused ((q.exposed_iff rule).mpr ⟨by simpa using hi, hr⟩) hp

instance (settings : Settings) : DecidablePred (@Unsent V settings) :=
  fun q => decidable_of_iff _ (q.unsent_iff settings).symm

end Request

namespace Database

variable {R M P K A : Type} (client : Client R) (settings : Settings)

theorem respond_of_refused {q : Request V} {rule : Rule} (h : q.Exposed rule)
    (hp : settings.policy rule = .refuse) (s : Session V R) :
    respond client settings q s = (.error (.validation (.policy rule q.statement.text)), s) := by
  rw [respond_eq client settings ((q.exposed_iff rule).mp h).1,
    permit_of_exposed settings rule s h, Session.guard, hp]

theorem respond_of_unsent {q : Request V} (h : q.Unsent settings) (s : Session V R) :
    (respond client settings q s).2 = s := by
  cases h with
  | refused h hp => rw [respond_of_refused client settings h hp]
  | idle h => rw [respond_of_idle client settings ((Request.isIdle_iff _).mpr ⟨_, _, rfl, h⟩)]

/-- What is not refused is let through, though perhaps with a warning. -/
theorem permit_of_sent {q : Request V} (h : ¬q.Unsent settings) (s : Session V R) :
    ∃ s', permit settings q s = (.ok (), s') ∧ s'.statements = s.statements := by
  rw [permit]
  cases hr : q.rule? with
  | none => exact ⟨s, rfl, rfl⟩
  | some rule =>
    cases hp : settings.policy rule with
    | allow => exact ⟨s, by simp only [Session.guard, hp], rfl⟩
    | warn => exact ⟨s.log (.policy rule q.statement.text), by simp only [Session.guard, hp], rfl⟩
    | refuse =>
      refine absurd ((q.unsent_iff settings).mpr (.inr ?_)) h
      rw [hr, Option.map_some, hp]

theorem statements_transmit (q : Request V) (s : Session V R) :
    (transmit client settings q s).2.statements = s.statements ++ [q.sent] := by
  simp only [transmit, Session.trace_eq, Session.send_eq, Request.sent_eq]
  cases (verdict client settings q.statement.text s.script).result <;> rfl

/-- Whatever comes of it, one statement is sent. -/
theorem statements_respond_of_sent {q : Request V} (h : ¬q.Unsent settings) (s : Session V R) :
    (respond client settings q s).2.statements = s.statements ++ [q.sent] := by
  have hi : q.isIdle = false := by
    simpa using fun hi => h ((q.unsent_iff settings).mpr (.inl hi))
  obtain ⟨s', hp, hs⟩ := permit_of_sent settings h s
  rw [respond_eq client settings hi, hp, ← hs]
  exact statements_transmit client settings q s'

theorem statements_respond (q : Request V) (s : Session V R) :
    (respond client settings q s).2.statements =
      s.statements ++ if q.Unsent settings then [] else [q.sent] := by
  by_cases h : q.Unsent settings
  · rw [respond_of_unsent client settings h, if_pos h, List.append_nil]
  · rw [statements_respond_of_sent client settings h, if_neg h]

/-- A session is one way to answer requests. What a call asks for, and what comes of it, is settled
by the results of its requests, whoever gives them. Each of its requests sends the statement that
its scope is rendered to, in the same order; only the changes that a policy refuses and the updates
without assignments send nothing. -/
theorem operation_refines [KeyOrder K] (t : Table) (reading : Reading R M P K A)
    (call : Operation V (Filter V) (Update V) (Scope V) P) (s : Session V R) :
    let d := call.dialogue t reading
    let asked := d.transcript (respond client settings) s
    (∀ {τ : Type} (other : Responder V R τ) (st : τ), Replays other st asked →
      d.transcript other st = asked ∧
        (d.run other st).1 = (d.run (respond client settings) s).1) ∧
    (d.run (respond client settings) s).2.statements = s.statements ++
      asked.flatMap (fun x => if x.request.Unsent settings then [] else [x.request.sent]) ∧
    ∀ x ∈ asked,
      (∀ rule, x.request.Exposed rule → settings.policy rule = .refuse →
        x.result = .error (.validation (.policy rule x.request.statement.text))) ∧
      (x.request.isIdle = true → x.result = .ok (x.request.nothing R)) := by
  intro d asked
  refine ⟨fun other st h => d.eq_of_replays h, ?_, fun x hx => ?_⟩
  · exact Dialogue.log_run Session.statements _ (statements_respond client settings) d s
  · obtain ⟨s', hr⟩ := Dialogue.result_of_mem_transcript d hx
    refine ⟨fun rule h hp => ?_, fun h => ?_⟩
    · rw [hr, respond_of_refused client settings h hp]
    · rw [hr, respond_of_idle client settings h]

/-- Deletes of a whole table are refused, and a statement has five nanoseconds. -/
def strict : Settings := ⟨some ⟨5⟩, .refuse, .allow, none⟩

/-- A count of three, and then rows that come too late. -/
def lateRows : List (Response Row) :=
  [⟨none, [⟨[⟨"count", .int8⟩], [.int 3]⟩], 0, ⟨0⟩⟩, ⟨none, [⟨[⟨"id", .int8⟩], [.int 7]⟩], 0, ⟨6⟩⟩]

theorem operation_refines_strict :
    let s : Session Nat Row := Session.start lateRows
    let page : Operation Nat (Filter Nat) (Update Nat) (Scope Nat) PairKind := .page 1 2 none
    let idle : Operation Nat (Filter Nat) (Update Nat) (Scope Nat) PairKind :=
      .updateScope (.all "people") .blank
    let asked := fun call => exchanges .standard strict people.table people.reading call s
    let script : Script Nat Row := .ofReplies ((asked page).map Exchange.prepared)
    Replays Script.respond script (asked page) ∧
    ((page.dialogue people.table people.reading).run Script.respond script).1 =
      .error (.timeout ⟨5⟩) ∧
    (answer .standard strict people.table people.reading page s).2.statements =
      [⟨.query, "SELECT COUNT(*) FROM people", []⟩,
        ⟨.query, "SELECT id FROM people LIMIT 2 OFFSET 2", []⟩] ∧
    (∃ x ∈ asked discardedDelete,
      x.request.Exposed .unfilteredDelete ∧ strict.policy .unfilteredDelete = .refuse ∧
      x.result = .error (.validation (.policy .unfilteredDelete x.request.statement.text))) ∧
    ∃ x ∈ asked idle,
      x.request.isIdle = true ∧ x.result = .ok (x.request.nothing Row) := by
  intro s page idle asked script
  obtain ⟨hreplay, hsent, -⟩ :=
    operation_refines .standard strict people.table people.reading page s
  obtain ⟨-, -, hrefused⟩ :=
    operation_refines .standard strict people.table people.reading discardedDelete s
  obtain ⟨-, -, hidle⟩ := operation_refines .standard strict people.table people.reading idle s
  have hs : Replays Script.respond script (asked page) := Script.replays_prepared (asked page) []
  have hr : (answer .standard strict people.table people.reading page s).1 =
      .error (.timeout ⟨5⟩) := rfl
  have hx : ⟨.delete (.all "people"),
      .error (.validation (.policy .unfilteredDelete "DELETE FROM people"))⟩ ∈
      asked discardedDelete := List.mem_singleton_self _
  have he : (.delete (.all "people") : Request Nat).Exposed .unfilteredDelete := .delete rfl
  have hi : ⟨.update (.all "people") .empty, .ok (0 : Nat)⟩ ∈ asked idle :=
    List.mem_singleton_self _
  exact ⟨hs, (hreplay Script.respond script hs).2.trans hr, hsent.trans (by decide),
    ⟨_, hx, he, rfl, (hrefused _ hx).1 _ he rfl⟩, ⟨_, hi, rfl, (hidle _ hi).2 rfl⟩⟩

end Database

end RowQuery
