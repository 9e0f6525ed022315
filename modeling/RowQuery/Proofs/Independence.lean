import RowQuery.Proofs.DialogueMaps
import RowQuery.Proofs.Execution

namespace RowQuery

variable {V W R : Type} (f : V → W)

namespace Database

def Sent.map (sent : Sent V) : Sent W := ⟨sent.purpose, sent.sql, sent.params.map f⟩

/-- The same session with the parameters of every statement mapped. -/
def Session.map (s : Session V R) : Session W R :=
  ⟨s.script, s.statements.map (Sent.map f), s.cancels, s.events⟩

namespace Session

theorem map_log (s : Session V R) (e : Event) : (s.log e).map f = (s.map f).log e := rfl

theorem guard_map (settings : Settings) (rule : Rule) (sql : String) (s : Session V R) :
    (s.map f).guard settings rule sql =
      ((s.guard settings rule sql).1, (s.guard settings rule sql).2.map f) := by
  rw [guard, guard]
  cases settings.policy rule <;> rfl

theorem trace_map (settings : Settings) (operation table : String) (q : Statement V)
    (s : Session V R) : (s.map f).trace settings operation table (q.map f) =
      (s.trace settings operation table q).map f := by
  simp only [trace, Statement.text_map, Statement.surplus_map, Statement.length_params_map]
  by_cases h : q.surplus = 0
  · rw [if_pos h, if_pos h, map_log]
  · rw [if_neg h, if_neg h, map_log, map_log]

theorem send_map (client : Client R) (settings : Settings) (purpose : Purpose) (q : Statement V)
    (s : Session V R) : (s.map f).send client settings purpose (q.map f) =
      ((s.send client settings purpose q).1, (s.send client settings purpose q).2.map f) := by
  have hs : (s.map f).statements ++ [Sent.mk purpose q.text (q.params.map f)] =
      (s.statements ++ [Sent.mk purpose q.text q.params]).map (Sent.map f) := by
    rw [List.map_append]
    rfl
  rw [send_eq, send_eq]
  exact congrArg (fun sent => (_, Session.mk _ sent _ _)) hs

end Session

variable (client : Client R) (settings : Settings)

/-- The policy reads the text of a statement and no value. -/
theorem permit_map (q : Request V) (s : Session V R) :
    permit settings (q.map f) (s.map f) =
      ((permit settings q s).1, (permit settings q s).2.map f) := by
  rw [permit, permit, Request.rule?_map, Request.statement_map]
  cases q.rule? with
  | none => rfl
  | some rule => exact Session.guard_map f settings rule q.statement.text s

theorem conclude_map (q : Request V) (r : Response R) :
    (conclude client (q.map f) r).map (q.reply f) = conclude client q r := by
  cases q with
  | count s =>
    have hid (x : Except Failure Int) : x.map (fun n => n) = x := by cases x <;> rfl
    exact hid (conclude client (.count s) r)
  | find s => rfl
  | delete s => rfl
  | update s a => rfl

theorem transmit_map (q : Request V) (s : Session V R) :
    ((transmit client settings (q.map f) (s.map f)).1.map (q.reply f),
        (transmit client settings (q.map f) (s.map f)).2) =
      ((transmit client settings q s).1, (transmit client settings q s).2.map f) := by
  have ht : (q.scope.map f).table = q.scope.table := rfl
  rw [transmit, transmit, Request.name_map, Request.scope_map, Request.statement_map,
    Request.purpose_map, ht, Session.trace_map, Session.send_map]
  cases (s.trace settings q.name q.scope.table q.statement).send client settings q.purpose
      q.statement with
  | mk result s' =>
    cases result with
    | error e => rfl
    | ok r => exact congrArg (fun reply => (reply, s'.map f)) (conclude_map f client q r)

theorem respond_map (q : Request V) (s : Session V R) :
    ((respond client settings (q.map f) (s.map f)).1.map (q.reply f),
        (respond client settings (q.map f) (s.map f)).2) =
      ((respond client settings q s).1, (respond client settings q s).2.map f) := by
  by_cases h : q.isIdle
  · rw [respond_of_idle _ _ h, respond_of_idle _ _ (by rw [Request.isIdle_map, h])]
    exact congrArg (fun r => (Except.ok r, s.map f)) (Request.reply_nothing f q)
  · rw [Bool.not_eq_true] at h
    rw [respond_eq _ _ h, respond_eq _ _ (by rw [Request.isIdle_map, h]), permit_map]
    cases permit settings q s with
    | mk result s' =>
      cases result with
      | error e => rfl
      | ok _ => exact transmit_map f client settings q s'

variable {M P K A : Type} [KeyOrder K] (t : Table) (reading : Reading R M P K A)

theorem answer_map (call : Operation V (Filter V) (Update V) (Scope V) P) (s : Session V R) :
    answer client settings t reading
        (call.map f (Filter.map f) (Update.map f) (Scope.map f)) (s.map f) =
      ((answer client settings t reading call s).1,
        (answer client settings t reading call s).2.map f) := by
  rw [answer, Operation.dialogue_map]
  exact Dialogue.run_mapValues f (Session.map f) (respond_map f client settings) _ s

/-- Values never reach the text of a statement: in a call built in the same way from other values,
nothing but the parameters of the statements is different, and these are the other values in the
same places. -/
theorem perform_map (source : Source) (call : Operation.Recipe V P) (script : List (Response R)) :
    perform source client settings t reading (Operation.Recipe.map f call).build script =
      (perform source client settings t reading call.build script).map
        (fun run => (run.1, run.2.map f)) := by
  rw [Operation.Recipe.build_map, perform_eq, perform_eq]
  cases source.checkOut with
  | error e => rfl
  | ok _ =>
    exact congrArg Except.ok
      (answer_map f client settings t reading call.build (Session.start script))

end Database

end RowQuery
