import RowQuery.Proofs.Accounts
import RowQuery.Proofs.Failures

namespace RowQuery

variable {V R M P K A α : Type}

namespace Database

/-- A statement whose text is not turned down, so that a response is taken for it. -/
def Client.accepts (client : Client R) (q : Sent V) : Bool := (client.refusal q.sql).isNone

/-- A statement with the response that is taken for it. -/
structure Delivery (V R : Type) where
  statement : Sent V
  response : Option (Response R)

def Delivery.Late (limit : Duration) (x : Delivery V R) : Prop :=
  ∃ r ∈ x.response, limit.nanos < r.delay.nanos

variable (client : Client R)

/-- Statements take the responses of a script in turn; after the last one they are blank. -/
def deliveries : List (Sent V) → List (Response R) → List (Delivery V R)
  | [], _ => []
  | q :: qs, script =>
    if client.accepts q then ⟨q, some (script.headD .blank)⟩ :: deliveries qs script.tail
    else ⟨q, none⟩ :: deliveries qs script

theorem deliveries_append (qs rs : List (Sent V)) (script : List (Response R)) :
    deliveries client (qs ++ rs) script =
      deliveries client qs script ++
        deliveries client rs (script.drop (qs.countP client.accepts)) := by
  induction qs generalizing script with
  | nil => rfl
  | cons q qs ih =>
    rw [List.cons_append, deliveries, deliveries]
    by_cases h : client.accepts q
    · rw [if_pos h, if_pos h, ih, List.countP_cons_of_pos h, List.drop_tail]
      rfl
    · rw [if_neg h, if_neg h, ih, List.countP_cons_of_neg h]
      rfl

/-- From one session to the next, statements are sent and take their responses. -/
structure Sends (s s' : Session V R) (qs : List (Sent V)) : Prop where
  statements : s'.statements = s.statements ++ qs
  script : s'.script = s.script.drop (qs.countP client.accepts)

namespace Sends

variable {client}

theorem refl (s : Session V R) : Sends client s s [] := ⟨(List.append_nil _).symm, rfl⟩

theorem trans {s s' s'' : Session V R} {qs rs : List (Sent V)} (h : Sends client s s' qs)
    (h' : Sends client s' s'' rs) : Sends client s s'' (qs ++ rs) := by
  refine ⟨?_, ?_⟩
  · rw [h'.statements, h.statements, List.append_assoc]
  · rw [h'.script, h.script, List.drop_drop, List.countP_append]

theorem deliveries_append {s s' : Session V R} {qs : List (Sent V)} (h : Sends client s s' qs)
    (rs : List (Sent V)) :
    deliveries client (qs ++ rs) s.script =
      deliveries client qs s.script ++ deliveries client rs s'.script := by
  rw [Database.deliveries_append, h.script]

end Sends

variable (settings : Settings)

theorem verdict_of_refused {q : Sent V} {e : Failure} (h : client.refusal q.sql = some e)
    (script : List (Response R)) :
    verdict client settings q.sql script = ⟨.error e, script, 0⟩ := by
  rw [verdict, h]

theorem verdict_of_accepted {q : Sent V} (h : client.accepts q = true)
    (script : List (Response R)) :
    verdict client settings q.sql script =
      awaited client settings (script.headD .blank) script.tail := by
  have hn : client.refusal q.sql = none := Option.isNone_iff_eq_none.mp h
  rw [verdict, hn]

theorem refusal_of_not_accepted {q : Sent V} (h : ¬client.accepts q = true) :
    ∃ e, client.refusal q.sql = some e := by
  rw [Client.accepts, Option.isNone_iff_eq_none] at h
  exact Option.ne_none_iff_exists'.mp h

theorem rest_verdict (q : Sent V) (script : List (Response R)) :
    (verdict client settings q.sql script).rest = script.drop ([q].countP client.accepts) := by
  by_cases h : client.accepts q
  · rw [verdict_of_accepted client settings h, awaited, List.countP_cons_of_pos h,
      List.countP_nil, List.drop_one]
    cases Session.exceeded settings (script.headD .blank) with
    | some limit => rfl
    | none => cases (script.headD .blank).failure <;> rfl
  · obtain ⟨e, he⟩ := refusal_of_not_accepted client h
    rw [verdict_of_refused client settings he, List.countP_cons_of_neg h]
    rfl

/-- The statements that a request sends: one, or none. -/
def sending (q : Request V) : List (Sent V) := if q.Unsent settings then [] else [q.sent]

theorem sends_respond (q : Request V) (s : Session V R) :
    Sends client s (respond client settings q s).2 (sending settings q) := by
  refine ⟨statements_respond client settings q s, ?_⟩
  by_cases h : q.Unsent settings
  · rw [respond_of_unsent client settings h, sending, if_pos h]
    rfl
  · rw [respond_of_sent client settings h, sending, if_neg h, ← rest_verdict client settings]

theorem sends_run (d : Dialogue V R α) (s : Session V R) :
    ∃ qs, Sends client s (d.run (respond client settings) s).2 qs := by
  fun_induction Dialogue.transcript (respond client settings) d s with
  | case1 result s => exact ⟨[], .refl s⟩
  | case2 q next s reply s' hr ih =>
    obtain ⟨qs, hs⟩ := ih
    have hq := sends_respond client settings q s
    rw [hr] at hq
    rw [Dialogue.run_ask_ok hr]
    exact ⟨_, hq.trans hs⟩
  | case3 q next s e s' hr =>
    have hq := sends_respond client settings q s
    rw [hr] at hq
    rw [Dialogue.run_ask_error hr]
    exact ⟨_, hq⟩

section Limit

variable (limit : Duration)

theorem policy_timeout (limit : Option Duration) :
    ({ settings with timeout := limit } : Settings).policy = settings.policy := by
  funext rule
  cases rule <;> rfl

theorem unsent_timeout (limit : Option Duration) (q : Request V) :
    q.Unsent { settings with timeout := limit } ↔ q.Unsent settings :=
  unsent_congr settings (policy_timeout settings limit) q

theorem sending_timeout (limit : Option Duration) (q : Request V) :
    sending { settings with timeout := limit } q = sending settings q := by
  simp only [sending, unsent_timeout]

theorem exceeded_of_late {r : Response R} (h : limit.nanos < r.delay.nanos) :
    Session.exceeded { settings with timeout := some limit } r = some limit := by
  rw [Session.exceeded, Option.filter_some, if_pos (decide_eq_true h)]

theorem exceeded_of_prompt {r : Response R} (h : ¬limit.nanos < r.delay.nanos) :
    Session.exceeded { settings with timeout := some limit } r = none := by
  rw [Session.exceeded, Option.filter_some, if_neg (by simpa using h)]

theorem exceeded_untimed (r : Response R) :
    Session.exceeded { settings with timeout := none } r = none := rfl

theorem verdict_of_late {q : Sent V} {script : List (Response R)} {x : Delivery V R}
    (hx : x ∈ deliveries client [q] script) (h : x.Late limit) :
    verdict client { settings with timeout := some limit } q.sql script =
      ⟨.error (.timeout limit), script.tail, client.cancellable.toNat⟩ := by
  by_cases ha : client.accepts q
  · rw [deliveries, if_pos ha, deliveries, List.mem_singleton] at hx
    obtain ⟨r, hr, hl⟩ := h
    rw [hx, Option.mem_some] at hr
    rw [verdict_of_accepted client _ ha, hr, awaited, exceeded_of_late settings limit hl]
  · rw [deliveries, if_neg ha, deliveries, List.mem_singleton] at hx
    obtain ⟨r, hr, -⟩ := h
    simp [hx] at hr

theorem verdict_of_prompt {q : Sent V} {script : List (Response R)}
    (h : ∀ x ∈ deliveries client [q] script, ¬x.Late limit) :
    verdict client { settings with timeout := some limit } q.sql script =
      verdict client { settings with timeout := none } q.sql script := by
  by_cases ha : client.accepts q
  · rw [deliveries, if_pos ha, deliveries] at h
    have hl : ¬limit.nanos < (script.headD .blank).delay.nanos :=
      fun hl => h _ (List.mem_singleton_self _) ⟨_, rfl, hl⟩
    rw [verdict_of_accepted client _ ha, verdict_of_accepted client _ ha, awaited, awaited,
      exceeded_of_prompt settings limit hl, exceeded_untimed]
  · obtain ⟨e, he⟩ := refusal_of_not_accepted client ha
    rw [verdict_of_refused client _ he, verdict_of_refused client _ he]

theorem cancels_verdict_untimed (q : Sent V) (script : List (Response R)) :
    (verdict client { settings with timeout := none } q.sql script).cancels = 0 := by
  by_cases ha : client.accepts q
  · rw [verdict_of_accepted client _ ha, awaited, exceeded_untimed]
    cases (script.headD .blank).failure <;> rfl
  · obtain ⟨e, he⟩ := refusal_of_not_accepted client ha
    rw [verdict_of_refused client _ he]

/-- A limit makes no difference to a request whose response comes in time. -/
theorem respond_of_prompt {q : Request V} {s : Session V R}
    (h : ∀ x ∈ deliveries client (sending settings q) s.script, ¬x.Late limit) :
    respond client { settings with timeout := some limit } q s =
        respond client { settings with timeout := none } q s ∧
      (respond client { settings with timeout := none } q s).2.cancels = s.cancels := by
  by_cases hu : q.Unsent settings
  · obtain ⟨result, hr⟩ := respond_unsent client settings hu
    rw [hr _ (policy_timeout settings _), hr _ (policy_timeout settings _)]
    exact ⟨rfl, rfl⟩
  · rw [sending, if_neg hu] at h
    rw [respond_of_sent client _ (mt (unsent_timeout settings _ q).mp hu),
      respond_of_sent client _ (mt (unsent_timeout settings _ q).mp hu),
      verdict_of_prompt client settings limit h, cancels_verdict_untimed]
    exact ⟨rfl, rfl⟩

/-- A request whose response comes too late is given up, and cancelled once with a token. -/
theorem respond_of_late {q : Request V} {s : Session V R} {x : Delivery V R}
    (hx : x ∈ deliveries client (sending settings q) s.script) (h : x.Late limit) :
    ∃ s', respond client { settings with timeout := some limit } q s =
        (.error (.timeout limit), s') ∧
      s'.cancels = s.cancels + client.cancellable.toNat := by
  by_cases hu : q.Unsent settings
  · rw [sending, if_pos hu] at hx
    cases hx
  · rw [sending, if_neg hu] at hx
    rw [respond_of_sent client _ (mt (unsent_timeout settings _ q).mp hu),
      verdict_of_late client settings limit hx h]
    exact ⟨_, rfl, rfl⟩

variable {limit : Duration}

/-- No response came too late, and a run with a limit was like a run without one. -/
structure InTime (limit : Duration) (s : Session V R) (free timed : Except Failure α × Session V R)
    (met : List (Delivery V R)) : Prop where
  same : timed = free
  cancels : timed.2.cancels = s.cancels
  prompt : ∀ x ∈ met, ¬x.Late limit

/-- The last response came too late, and a run with a limit was cut off there. -/
structure OutOfTime (limit : Duration) (s : Session V R) (timed : Except Failure α × Session V R)
    (met : List (Delivery V R)) : Prop where
  result : timed.1 = .error (.timeout limit)
  cancels : timed.2.cancels = s.cancels + client.cancellable.toNat
  late : ∃ before x, met = before ++ [x] ∧ x.Late limit ∧ ∀ y ∈ before, ¬y.Late limit

theorem InTime.after {s s' : Session V R} {free timed : Except Failure α × Session V R}
    {met before : List (Delivery V R)} (h : InTime limit s' free timed met)
    (hc : s'.cancels = s.cancels) (hb : ∀ x ∈ before, ¬x.Late limit) :
    InTime limit s free timed (before ++ met) := by
  refine ⟨h.same, h.cancels.trans hc, fun x hx => ?_⟩
  exact (List.mem_append.mp hx).elim (hb x) (h.prompt x)

variable {client} in
theorem OutOfTime.after {s s' : Session V R} {timed : Except Failure α × Session V R}
    {met before : List (Delivery V R)} (h : OutOfTime client limit s' timed met)
    (hc : s'.cancels = s.cancels) (hb : ∀ x ∈ before, ¬x.Late limit) :
    OutOfTime client limit s timed (before ++ met) := by
  obtain ⟨ys, x, hm, hx, hy⟩ := h.late
  refine ⟨h.result, by rw [h.cancels, hc], before ++ ys, x, ?_, hx, fun y hm => ?_⟩
  · rw [hm, List.append_assoc]
  · exact (List.mem_append.mp hm).elim (hb y) (hy y)

/-- Two runs from one session, one with a limit and one without: both send the same statements, to
the end or up to the first response that comes too late. -/
structure Course (limit : Duration) (s : Session V R) (free timed : Except Failure α × Session V R)
    (qs rs : List (Sent V)) : Prop where
  sends : Sends client s timed.2 qs
  continues : Sends client s free.2 (qs ++ rs)
  ends : InTime limit s free timed (deliveries client qs s.script) ∨
    OutOfTime client limit s timed (deliveries client qs s.script)

namespace Course

variable {client}

theorem after {s s' : Session V R} {free timed : Except Failure α × Session V R}
    {ps qs rs : List (Sent V)} (h : Course client limit s' free timed qs rs)
    (hs : Sends client s s' ps) (hc : s'.cancels = s.cancels)
    (hp : ∀ x ∈ deliveries client ps s.script, ¬x.Late limit) :
    Course client limit s free timed (ps ++ qs) rs := by
  refine ⟨hs.trans h.sends, ?_, ?_⟩
  · rw [List.append_assoc]
    exact hs.trans h.continues
  · rw [hs.deliveries_append]
    exact h.ends.imp (·.after hc hp) (·.after hc hp)

theorem of_same {s : Session V R} {run : Except Failure α × Session V R} {qs : List (Sent V)}
    (hs : Sends client s run.2 qs) (hc : run.2.cancels = s.cancels)
    (hp : ∀ x ∈ deliveries client qs s.script, ¬x.Late limit) :
    Course client limit s run run qs [] :=
  ⟨hs, by rwa [List.append_nil], .inl ⟨rfl, hc, hp⟩⟩

end Course

theorem deliveries_sending {q : Request V} {script : List (Response R)} {x : Delivery V R}
    (hx : x ∈ deliveries client (sending settings q) script) :
    deliveries client (sending settings q) script = [x] := by
  by_cases hu : q.Unsent settings
  · rw [sending, if_pos hu] at hx
    cases hx
  · rw [sending, if_neg hu, deliveries] at hx ⊢
    by_cases ha : client.accepts q.sent
    · rw [if_pos ha, deliveries] at hx ⊢
      rw [List.mem_singleton.mp hx]
    · rw [if_neg ha, deliveries] at hx ⊢
      rw [List.mem_singleton.mp hx]

theorem run_timed (d : Dialogue V R α) (s : Session V R) :
    ∃ qs rs, Course client limit s (d.run (respond client { settings with timeout := none }) s)
      (d.run (respond client { settings with timeout := some limit }) s) qs rs := by
  induction d generalizing s with
  | done result => exact ⟨[], [], .of_same (.refl s) rfl (fun x hx => by cases hx)⟩
  | ask q next ih =>
    obtain ⟨result, s', hr⟩ :
        ∃ result s', respond client { settings with timeout := none } q s = (result, s') :=
      ⟨_, _, rfl⟩
    have hs : Sends client s s' (sending settings q) := by
      simpa only [hr, sending_timeout] using
        sends_respond client { settings with timeout := none } q s
    by_cases hp : ∀ x ∈ deliveries client (sending settings q) s.script, ¬x.Late limit
    · obtain ⟨hsame, hc⟩ := respond_of_prompt client settings limit hp
      rw [hr] at hsame hc
      cases result with
      | error e =>
        rw [Dialogue.run_ask_error hsame, Dialogue.run_ask_error hr]
        exact ⟨_, _, .of_same hs hc hp⟩
      | ok reply =>
        obtain ⟨qs, rs, h⟩ := ih reply s'
        rw [Dialogue.run_ask_ok hsame, Dialogue.run_ask_ok hr]
        exact ⟨_, _, h.after hs hc hp⟩
    · simp only [Classical.not_forall, Classical.not_not] at hp
      obtain ⟨x, hx, hl⟩ := hp
      obtain ⟨t, ht, hc⟩ := respond_of_late client settings limit hx hl
      have hst : Sends client s t (sending settings q) := by
        simpa only [ht, sending_timeout] using
          sends_respond client { settings with timeout := some limit } q s
      have hend : OutOfTime client limit s
          ((.error (.timeout limit), t) : Except Failure α × Session V R)
          (deliveries client (sending settings q) s.script) :=
        ⟨rfl, hc, [], x, deliveries_sending client settings hx, hl, fun y hy => by cases hy⟩
      rw [Dialogue.run_ask_error ht]
      cases result with
      | error e =>
        rw [Dialogue.run_ask_error hr]
        exact ⟨_, [], hst, by rwa [List.append_nil], .inr hend⟩
      | ok reply =>
        obtain ⟨rs, hrs⟩ := sends_run client { settings with timeout := none } (next reply) s'
        rw [Dialogue.run_ask_ok hr]
        exact ⟨_, rs, hst, hs.trans hrs, .inr hend⟩

end Limit

/-- The failures that a client has of itself, as responses and to the texts that it turns down. -/
structure Client.FailsWith (script : List (Response R)) (F : Failure → Prop) : Prop where
  refusal : ∀ sql e, client.refusal sql = some e → F e
  response : ∀ r ∈ script, ∀ e, r.failure = some e → F e

theorem Client.FailsWith.drop {client : Client R} {script : List (Response R)}
    {F : Failure → Prop} (h : client.FailsWith script F) (n : Nat) :
    client.FailsWith (script.drop n) F :=
  ⟨h.refusal, fun r hr => h.response r (List.mem_of_mem_drop hr)⟩

variable {F : Failure → Prop}

/-- Rows of a database are read without waiting. -/
theorem Model.failsWith_reading (hF : OwnFailure F) (m : Model) : m.reading.FailsWith F where
  model _ _ h := by
    refine mapM_error (fun f e he => ?_) m.fields h
    obtain ⟨reason, rfl⟩ := mapError_error (map_error he)
    exact hF.column _ reason
  pair kind row e h := by
    obtain hk | ⟨key, -, h⟩ := bind_error h
    · obtain ⟨reason, rfl⟩ := mapError_error hk
      exact hF.column _ reason
    · obtain hv | ⟨value, -, h⟩ := bind_error h
      · obtain ⟨reason, rfl⟩ := mapError_error hv
        exact hF.column _ reason
      · cases h

theorem conclude_error (hF : OwnFailure F) {q : Request V} {r : Response R} {e : Failure}
    (h : conclude client q r = .error e) : F e := by
  cases q with
  | find s => cases h
  | delete s => cases h
  | update s a => cases h
  | count s =>
    rw [conclude] at h
    cases hr : r.rows with
    | nil =>
      rw [hr] at h
      cases h
      exact hF.uncounted s.table
    | cons row rows =>
      rw [hr] at h
      obtain ⟨reason, rfl⟩ := mapError_error h
      exact hF.column _ reason

/-- A run that was not cancelled fails in another way than by the limit, and one that was cancelled
fails by the limit. Without a token there is nothing to cancel with. -/
inductive Settled (F : Failure → Prop) (s : Session V R) (run : Except Failure α × Session V R) :
    Prop
  | kept (hc : run.2.cancels = s.cancels) (h : ∀ e, run.1 = .error e → F e)
  | cancelled (hc : run.2.cancels = s.cancels + client.cancellable.toNat)
      (h : ∃ limit, run.1 = .error (.timeout limit))

theorem settled_verdict {s : Session V R} (hc : client.FailsWith s.script F) (q : Sent V) :
    let v := verdict client settings q.sql s.script
    (v.cancels = 0 ∧ ∀ e, v.result = .error e → F e) ∨
      v.cancels = client.cancellable.toNat ∧ ∃ limit, v.result = .error (.timeout limit) := by
  intro v
  by_cases ha : client.accepts q
  · simp only [v, verdict_of_accepted client settings ha, awaited]
    cases Session.exceeded settings (s.script.headD .blank) with
    | some limit => exact .inr ⟨rfl, limit, rfl⟩
    | none =>
      cases hf : (s.script.headD .blank).failure with
      | none => exact .inl ⟨rfl, fun e h => by cases h⟩
      | some e =>
        refine .inl ⟨rfl, fun e' h => ?_⟩
        cases h
        cases hs : s.script with
        | nil =>
          rw [hs] at hf
          cases hf
        | cons r rs =>
          rw [hs] at hf
          exact hc.response r (hs ▸ List.mem_cons_self) e hf
  · obtain ⟨e, he⟩ := refusal_of_not_accepted client ha
    have hv : v = ⟨.error e, s.script, 0⟩ := verdict_of_refused client settings he s.script
    rw [hv]
    refine .inl ⟨rfl, fun e' h => ?_⟩
    cases h
    exact hc.refusal q.sql e he

theorem settled_respond (hF : OwnFailure F) (q : Request V) {s : Session V R}
    (hc : client.FailsWith s.script F) : Settled client F s (respond client settings q s) := by
  by_cases hu : q.Unsent settings
  · cases hu with
    | refused he hp =>
      rw [respond_of_refused client settings he hp]
      exact .kept rfl (fun e h => by cases h; exact hF.validation _)
    | idle h =>
      rw [respond_of_idle client settings ((Request.isIdle_iff _).mpr ⟨_, _, rfl, h⟩)]
      exact .kept rfl (fun e h => by cases h)
  · rw [respond_of_sent client settings hu]
    obtain ⟨hv, he⟩ | ⟨hv, limit, hl⟩ := settled_verdict client settings hc q.sent
    · refine .kept (by simp only [hv, Nat.add_zero]) (fun e h => ?_)
      obtain h | ⟨r, -, h⟩ := bind_error h
      · exact he e h
      · exact conclude_error client hF h
    · refine .cancelled (by simp only [hv]) ⟨limit, ?_⟩
      simp only [hl]
      rfl

theorem settled_run (hF : OwnFailure F) {d : Dialogue V R α} (hd : d.FailsWith F)
    {s : Session V R} (hc : client.FailsWith s.script F) :
    Settled client F s (d.run (respond client settings) s) := by
  induction hd generalizing s with
  | ok a => exact .kept rfl (fun e h => by cases h)
  | error he => exact .kept rfl (fun e h => by cases h; exact he)
  | @ask q next hd ih =>
    have hq := settled_respond client settings hF q hc
    have hs := (sends_respond client settings q s).script
    obtain ⟨result, s', hr⟩ : ∃ result s', respond client settings q s = (result, s') :=
      ⟨_, _, rfl⟩
    rw [hr] at hq hs
    cases result with
    | error e =>
      rw [Dialogue.run_ask_error hr]
      cases hq with
      | kept hc h => exact .kept hc (fun e he => by cases he; exact h _ rfl)
      | cancelled hc h =>
        obtain ⟨limit, h⟩ := h
        cases h
        exact .cancelled hc ⟨limit, rfl⟩
    | ok reply =>
      rw [Dialogue.run_ask_ok hr]
      have hc' : client.FailsWith s'.script F := hs ▸ hc.drop _
      cases hq with
      | kept hk h =>
        cases ih reply hc' with
        | kept hk' h' => exact .kept (hk'.trans hk) h'
        | cancelled hk' h' => exact .cancelled (by rw [hk', hk]) h'
      | cancelled hk h =>
        obtain ⟨limit, h⟩ := h
        cases h

theorem settled_any (d : Dialogue V R α) (script : List (Response R)) :
    Settled client (fun _ => True) (Session.start script)
      (d.run (respond client settings) (Session.start script)) :=
  settled_run client settings ⟨fun _ => trivial, fun _ => trivial, fun _ _ => trivial⟩
    d.failsWith_true ⟨fun _ _ _ => trivial, fun _ _ _ _ => trivial⟩

namespace Settled

variable {client} {script : List (Response R)} {run : Except Failure α × Session V R}

theorem cancels_le (h : Settled client F (Session.start script) run) : run.2.cancels ≤ 1 := by
  cases h with
  | kept hc h => exact hc ▸ Nat.zero_le 1
  | cancelled hc h =>
    rw [hc, Session.start, Nat.zero_add]
    exact Bool.toNat_le client.cancellable

theorem timeout_of_cancelled (h : Settled client F (Session.start script) run)
    (h1 : run.2.cancels = 1) : ∃ limit, run.1 = .error (.timeout limit) := by
  cases h with
  | kept hc h => cases hc.symm.trans h1
  | cancelled hc h => exact h

theorem cancelled_of_timeout
    (h : Settled client (fun e => e.isTimeout = false) (Session.start script) run)
    (ht : client.cancellable = true) (ho : ∃ limit, run.1 = .error (.timeout limit)) :
    run.2.cancels = 1 := by
  cases h with
  | kept hc h =>
    obtain ⟨limit, he⟩ := ho
    cases h _ he
  | cancelled hc h =>
    rw [hc, Session.start, ht]
    rfl

end Settled

/-- A limit on the time of a statement makes no difference to a call whose responses all come in
time. Otherwise the call sends what it sends without a limit up to the first statement whose
response is late, takes that response, cancels that statement if there is a token, and fails. No
call cancels more than once, and one that cancels has run out of time. Where there is a token, and
neither the client nor the reading of rows fails with a timeout of its own, a call that has run out
of time has cancelled. -/
theorem late_response_times_out [KeyOrder K] (t : Table) (reading : Reading R M P K A)
    (call : Operation V (Filter V) (Update V) (Scope V) P) (limit : Duration)
    (script : List (Response R)) :
    let d := call.dialogue t reading
    let free := d.run (respond client { settings with timeout := none }) (Session.start script)
    let timed :=
      d.run (respond client { settings with timeout := some limit }) (Session.start script)
    let met := deliveries client timed.2.statements script
    ((∀ x ∈ met, ¬x.Late limit) → timed = free ∧ timed.2.cancels = 0) ∧
    (∀ x ∈ met, x.Late limit →
      timed.1 = .error (.timeout limit) ∧ timed.2.cancels = client.cancellable.toNat ∧
      (∃ before, met = before ++ [x] ∧ ∀ y ∈ before, ¬y.Late limit) ∧
      timed.2.statements <+: free.2.statements) ∧
    timed.2.script = script.drop (timed.2.statements.countP client.accepts) ∧
    ∀ settings',
      let run := d.run (respond client settings') (Session.start script)
      run.2.cancels ≤ 1 ∧
      (run.2.cancels = 1 → ∃ limit, run.1 = .error (.timeout limit)) ∧
      (client.cancellable = true → client.FailsWith script (fun e => e.isTimeout = false) →
        reading.FailsWith (fun e => e.isTimeout = false) →
          (∃ limit, run.1 = .error (.timeout limit)) → run.2.cancels = 1) := by
  intro d free timed met
  obtain ⟨qs, rs, hcourse⟩ :
      ∃ qs rs, Course client limit (Session.start script) free timed qs rs :=
    run_timed client settings d (Session.start script)
  have hq : timed.2.statements = qs := hcourse.sends.statements
  have hf : free.2.statements = qs ++ rs := hcourse.continues.statements
  have hends : InTime limit (Session.start script) free timed met ∨
      OutOfTime client limit (Session.start script) timed met := by
    simpa only [met, hq, Session.start] using hcourse.ends
  refine ⟨fun hp => ?_, fun x hx hl => ?_, ?_, fun settings' => ⟨?_, ?_, ?_⟩⟩
  · obtain h | h := hends
    · exact ⟨h.same, h.cancels⟩
    · obtain ⟨before, x, hm, hl, -⟩ := h.late
      exact absurd hl (hp x (by simp [hm]))
  · obtain h | h := hends
    · exact absurd hl (h.prompt x hx)
    · obtain ⟨before, y, hm, hy, hb⟩ := h.late
      have hxy : x = y := by
        rw [hm, List.mem_append, List.mem_singleton] at hx
        exact hx.resolve_left (fun hx => hb x hx hl)
      refine ⟨h.result, h.cancels.trans (Nat.zero_add _), ⟨before, by rw [hm, hxy], hb⟩, ?_⟩
      rw [hq, hf]
      exact List.prefix_append qs rs
  · rw [hq]
    exact hcourse.sends.script
  · exact (settled_any client settings' d script).cancels_le
  · exact (settled_any client settings' d script).timeout_of_cancelled
  · intro hc hclient hreading
    have hd := call.failsWith_dialogue t hreading ownFailure_isTimeout.validation
    exact (settled_run client settings' ownFailure_isTimeout hd hclient).cancelled_of_timeout hc

/-- The rows of a page, with a response that takes six nanoseconds. -/
def lateDelivery : Delivery Nat Row :=
  ⟨⟨.query, "SELECT id FROM people LIMIT 2 OFFSET 2", []⟩,
    some ⟨none, [⟨[⟨"id", .int8⟩], [.int 7]⟩], 0, ⟨6⟩⟩⟩

theorem late_response_times_out_lateRows :
    let page : Operation Nat (Filter Nat) (Update Nat) (Scope Nat) PairKind := .page 1 2 none
    let d := page.dialogue people.table people.reading
    let run := fun timeout =>
      d.run (respond .standard { strict with timeout := timeout }) (Session.start lateRows)
    let five := run (some ⟨5⟩)
    let seven := run (some ⟨7⟩)
    (lateDelivery ∈ deliveries .standard five.2.statements lateRows ∧ lateDelivery.Late ⟨5⟩) ∧
    five.1 = .error (.timeout ⟨5⟩) ∧
    (∀ x ∈ deliveries .standard seven.2.statements lateRows, ¬x.Late ⟨7⟩) ∧
    seven = run none ∧
    (Client.standard.cancellable = true ∧
      Client.standard.FailsWith lateRows (fun e => e.isTimeout = false) ∧
      people.reading.FailsWith (fun e => e.isTimeout = false)) ∧
    five.2.cancels = 1 ∧ ∃ limit, five.1 = .error (.timeout limit) := by
  intro page d run five seven
  obtain ⟨-, hlate, -, hsettled⟩ :=
    late_response_times_out .standard strict people.table people.reading page ⟨5⟩ lateRows
  obtain ⟨hprompt, -⟩ :=
    late_response_times_out .standard strict people.table people.reading page ⟨7⟩ lateRows
  have hm : lateDelivery ∈ deliveries .standard five.2.statements lateRows :=
    List.mem_cons_of_mem _ (List.mem_singleton_self _)
  have hl : lateDelivery.Late ⟨5⟩ := ⟨_, rfl, by decide⟩
  have hp : ∀ x ∈ deliveries .standard seven.2.statements lateRows, ¬x.Late ⟨7⟩ := by
    have hd : deliveries .standard seven.2.statements lateRows =
        [⟨⟨.query, "SELECT COUNT(*) FROM people", []⟩,
          some ⟨none, [⟨[⟨"count", .int8⟩], [.int 3]⟩], 0, ⟨0⟩⟩⟩, lateDelivery] := rfl
    rw [hd]
    simp [Delivery.Late, lateDelivery]
  have hr := people.failsWith_reading ownFailure_isTimeout
  have hc : Client.standard.FailsWith lateRows (fun e => e.isTimeout = false) := by
    refine ⟨fun sql e he => ?_, by simp [lateRows]⟩
    simp only [Client.standard] at he
    split at he
    · cases he
      rfl
    · cases he
  obtain ⟨-, htimeout, hcancelled⟩ := hsettled { strict with timeout := some ⟨5⟩ }
  have hone : five.2.cancels = 1 := hcancelled rfl hc hr ⟨⟨5⟩, (hlate _ hm hl).1⟩
  exact ⟨⟨hm, hl⟩, (hlate _ hm hl).1, hp, (hprompt hp).1, ⟨rfl, hc, hr⟩, hone, htimeout hone⟩

/-- A reading of rows, or a client, may fail with a timeout of its own. Then a call ends with a
timeout and nothing is cancelled, though no response is late. -/
theorem own_timeout_is_not_cancelled :
    let all : Operation Nat (Filter Nat) (Update Nat) (Scope Nat) PairKind := .all none
    let slow : Reading Row Entry PairKind Cell Cell :=
      ⟨fun _ => .error (.timeout ⟨7⟩), people.reading.pair⟩
    let rows : List (Response Row) := [⟨none, [⟨[⟨"id", .int8⟩], [.int 7]⟩], 0, ⟨1⟩⟩]
    let lost : List (Response Row) := [⟨some (.timeout ⟨7⟩), [], 0, ⟨1⟩⟩]
    let run := fun reading script =>
      (all.dialogue people.table reading).run
        (respond .standard { Settings.standard with timeout := some ⟨5⟩ }) (Session.start script)
    Client.standard.cancellable = true ∧ (∀ r ∈ rows ++ lost, r.delay.nanos < 5) ∧
    ((run slow rows).1 = .error (.timeout ⟨7⟩) ∧ (run slow rows).2.cancels = 0) ∧
    ((run people.reading lost).1 = .error (.timeout ⟨7⟩) ∧
      (run people.reading lost).2.cancels = 0) ∧
    ¬((∃ limit, (run slow rows).1 = .error (.timeout limit)) ↔ (run slow rows).2.cancels = 1) ∧
    ¬((∃ limit, (run people.reading lost).1 = .error (.timeout limit)) ↔
      (run people.reading lost).2.cancels = 1) := by
  intro all slow rows lost run
  have hread : (run slow rows).1 = .error (.timeout ⟨7⟩) := rfl
  have hlost : (run people.reading lost).1 = .error (.timeout ⟨7⟩) := rfl
  have hr : (run slow rows).2.cancels = 0 := rfl
  have hl : (run people.reading lost).2.cancels = 0 := rfl
  refine ⟨rfl, by simp [rows, lost], ⟨hread, hr⟩, ⟨hlost, hl⟩, fun h => ?_, fun h => ?_⟩
  · have := h.mp ⟨_, hread⟩
    omega
  · have := h.mp ⟨_, hlost⟩
    omega

end Database

end RowQuery
