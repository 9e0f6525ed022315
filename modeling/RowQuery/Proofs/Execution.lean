import RowQuery.Database.Execution
import RowQuery.Proofs.Transcripts

namespace RowQuery

variable {V : Type}

/-- What is logged of a request that is sent: its statement, and the arguments it leaves out. -/
def Request.traced (settings : Settings) (q : Request V) : List Database.Event :=
  let sql := settings.logged q.statement.text
  .statement q.name q.scope.table q.statement.params.length sql ::
    if q.statement.surplus = 0 then []
    else [.surplus q.name q.scope.table q.statement.surplus sql]

namespace Database

variable {R M P K A : Type}

theorem Session.trace_eq (settings : Settings) (q : Request V) (s : Session V R) :
    s.trace settings q.name q.scope.table q.statement =
      { s with events := s.events ++ q.traced settings } := by
  by_cases h : q.statement.surplus = 0 <;> simp [Session.trace, Session.log, Request.traced, h]

/-- What comes of a statement: its result, the responses still to come, and how often it is
cancelled. -/
structure Verdict (R : Type) where
  result : Except Failure (Response R)
  rest : List (Response R)
  cancels : Nat

variable (client : Client R) (settings : Settings)

/-- What comes of a statement whose response is awaited. -/
def awaited (r : Response R) (rest : List (Response R)) : Verdict R :=
  match Session.exceeded settings r with
  | some limit => ⟨.error (.timeout limit), rest, client.cancellable.toNat⟩
  | none =>
    match r.failure with
    | some e => ⟨.error e, rest, 0⟩
    | none => ⟨.ok r, rest, 0⟩

/-- Only the text of a statement and the next response decide. -/
def verdict (sql : String) (script : List (Response R)) : Verdict R :=
  match client.refusal sql with
  | some e => ⟨.error e, script, 0⟩
  | none => awaited client settings (script.headD .blank) script.tail

theorem Session.send_eq (purpose : Purpose) (q : Statement V) (s : Session V R) :
    s.send client settings purpose q =
      ((verdict client settings q.text s.script).result,
        { script := (verdict client settings q.text s.script).rest
          statements := s.statements ++ [⟨purpose, q.text, q.params⟩]
          cancels := s.cancels + (verdict client settings q.text s.script).cancels
          events := s.events }) := by
  cases hn : client.refusal q.text with
  | some e => simp only [send, verdict, hn, Nat.add_zero]
  | none =>
    cases he : exceeded settings (s.script.headD .blank) with
    | some limit => simp only [send, verdict, awaited, hn, he]
    | none =>
      cases hf : (s.script.headD .blank).failure with
      | some e => simp only [send, verdict, awaited, hn, he, hf, Nat.add_zero]
      | none => simp only [send, verdict, awaited, hn, he, hf, Nat.add_zero]

/-- A request that passed the policy is logged, sent, and answered from the response. -/
def transmit (q : Request V) (s : Session V R) : Except Failure (q.Reply R) × Session V R :=
  match (s.trace settings q.name q.scope.table q.statement).send client settings q.purpose
      q.statement with
  | (.error e, s) => (.error e, s)
  | (.ok r, s) => (conclude client q r, s)

theorem respond_of_idle {q : Request V} (h : q.isIdle = true) (s : Session V R) :
    respond client settings q s = (.ok (q.nothing R), s) := by
  rw [respond, if_pos h]

theorem respond_eq {q : Request V} (h : q.isIdle = false) (s : Session V R) :
    respond client settings q s =
      match permit settings q s with
      | (.error e, s') => (.error e, s')
      | (.ok _, s') => transmit client settings q s' := by
  rw [respond, if_neg (by simp [h])]
  rfl

theorem transmit_events (q : Request V) (s : Session V R) (es : List Event) :
    transmit client settings q { s with events := es } =
      ((transmit client settings q s).1,
        { (transmit client settings q s).2 with events := es ++ q.traced settings }) := by
  simp only [transmit, Session.trace_eq, Session.send_eq]
  cases (verdict client settings q.statement.text s.script).result <;> rfl

/-- Whatever comes of a request, it is logged. -/
theorem events_transmit (q : Request V) (s : Session V R) :
    (transmit client settings q s).2.events = s.events ++ q.traced settings :=
  congrArg (fun r => r.2.events) (transmit_events client settings q s s.events)

variable [KeyOrder K] (t : Table) (reading : Reading R M P K A)

/-- A call on a connection that is there. -/
def answer (call : Operation V (Filter V) (Update V) (Scope V) P) (s : Session V R) :
    Except Failure (Outcome R M K A) × Session V R :=
  (call.dialogue t reading).run (respond client settings) s

def exchanges (call : Operation V (Filter V) (Update V) (Scope V) P) (s : Session V R) :
    List (Exchange V R) :=
  (call.dialogue t reading).transcript (respond client settings) s

theorem perform_eq (source : Source) (call : Operation V (Filter V) (Update V) (Scope V) P)
    (script : List (Response R)) :
    perform source client settings t reading call script =
      source.checkOut.map
        (fun _ => answer client settings t reading call (Session.start script)) := rfl

end Database

end RowQuery
