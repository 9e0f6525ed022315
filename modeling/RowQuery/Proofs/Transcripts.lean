import RowQuery.Access.Operation

namespace RowQuery

variable {V R σ τ α β : Type}

/-- A request with the result it was given. -/
structure Exchange (V R : Type) where
  request : Request V
  result : Except Failure (request.Reply R)

namespace Dialogue

/-- All exchanges of a run. Only the last one can hold a failure. -/
def transcript (respond : Responder V R σ) : Dialogue V R α → σ → List (Exchange V R)
  | .done _, _ => []
  | .ask q next, s =>
    match respond q s with
    | (.ok reply, s') => ⟨q, .ok reply⟩ :: (next reply).transcript respond s'
    | (.error e, _) => [⟨q, .error e⟩]

theorem run_ask_ok {respond : Responder V R σ} {q : Request V} {s s' : σ} {reply : q.Reply R}
    (hr : respond q s = (.ok reply, s')) (next : q.Reply R → Dialogue V R α) :
    (ask q next).run respond s = (next reply).run respond s' := by
  simp only [run, hr]

theorem run_ask_error {respond : Responder V R σ} {q : Request V} {s s' : σ} {e : Failure}
    (hr : respond q s = (.error e, s')) (next : q.Reply R → Dialogue V R α) :
    (ask q next).run respond s = (.error e, s') := by
  simp only [run, hr]

theorem transcript_ask_ok {respond : Responder V R σ} {q : Request V} {s s' : σ}
    {reply : q.Reply R} (hr : respond q s = (.ok reply, s')) (next : q.Reply R → Dialogue V R α) :
    (ask q next).transcript respond s = ⟨q, .ok reply⟩ :: (next reply).transcript respond s' := by
  simp only [transcript, hr]

theorem transcript_ask_error {respond : Responder V R σ} {q : Request V} {s s' : σ} {e : Failure}
    (hr : respond q s = (.error e, s')) (next : q.Reply R → Dialogue V R α) :
    (ask q next).transcript respond s = [⟨q, .error e⟩] := by
  simp only [transcript, hr]

theorem request_of_mem_transcript {respond : Responder V R σ} {q : Request V}
    {next : q.Reply R → Dialogue V R α} {s : σ} {x : Exchange V R}
    (hx : x ∈ (ask q next).transcript respond s) :
    x.request = q ∨ ∃ reply s', x ∈ (next reply).transcript respond s' := by
  cases hr : respond q s with
  | mk result s' =>
    cases result with
    | error e =>
      rw [transcript_ask_error hr, List.mem_singleton] at hx
      exact .inl (by rw [hx])
    | ok reply =>
      rw [transcript_ask_ok hr, List.mem_cons] at hx
      exact hx.imp (fun h => by rw [h]) (fun h => ⟨reply, s', h⟩)

theorem result_of_mem_transcript {respond : Responder V R σ} (d : Dialogue V R α) {s : σ}
    {x : Exchange V R} (hx : x ∈ d.transcript respond s) :
    ∃ s', x.result = (respond x.request s').1 := by
  fun_induction transcript respond d s with
  | case1 result s => cases hx
  | case2 q next s reply s' hr ih =>
    obtain hx | hx := List.mem_cons.mp hx
    · exact ⟨s, by rw [hx, hr]⟩
    · exact ih hx
  | case3 q next s e s' hr => exact ⟨s, by rw [List.mem_singleton.mp hx, hr]⟩

theorem run_congr {first second : Responder V R σ} (d : Dialogue V R α) (s : σ)
    (h : ∀ x ∈ d.transcript first s, first x.request = second x.request) :
    d.run first s = d.run second s := by
  fun_induction transcript first d s with
  | case1 result s => rfl
  | case2 q next s reply s' hr ih =>
    have hq : first q = second q := h _ List.mem_cons_self
    rw [run_ask_ok hr, run_ask_ok (hq ▸ hr)]
    exact ih (fun x hx => h x (List.mem_cons_of_mem _ hx))
  | case3 q next s e s' hr =>
    have hq : first q = second q := h _ List.mem_cons_self
    rw [run_ask_error hr, run_ask_error (hq ▸ hr)]

/-- Two ways to answer that give every request the same result, in states that stay related. -/
theorem run_related {first : Responder V R σ} {second : Responder V R τ} (Rel : σ → τ → Prop)
    (hstep : ∀ q s t, Rel s t →
      (first q s).1 = (second q t).1 ∧ Rel (first q s).2 (second q t).2)
    (d : Dialogue V R α) {s : σ} {t : τ} (h : Rel s t) :
    (d.run first s).1 = (d.run second t).1 ∧ Rel (d.run first s).2 (d.run second t).2 := by
  fun_induction transcript first d s generalizing t with
  | case1 result s => exact ⟨rfl, h⟩
  | case2 q next s reply s' hr ih =>
    obtain ⟨hq, hs⟩ := hstep q s t h
    rw [hr] at hq hs
    rw [run_ask_ok hr, run_ask_ok (Prod.ext hq.symm rfl)]
    exact ih hs
  | case3 q next s e s' hr =>
    obtain ⟨hq, hs⟩ := hstep q s t h
    rw [hr] at hq hs
    rw [run_ask_error hr, run_ask_error (Prod.ext hq.symm rfl)]
    exact ⟨rfl, hs⟩

/-- When every request adds to a log of the state what `emits` says of it, a run adds that of all its
exchanges. -/
theorem log_run {L : Type} {respond : Responder V R σ} (log : σ → List L)
    (emits : Exchange V R → List L)
    (hstep : ∀ q s, log (respond q s).2 = log s ++ emits ⟨q, (respond q s).1⟩)
    (d : Dialogue V R α) (s : σ) :
    log (d.run respond s).2 = log s ++ (d.transcript respond s).flatMap emits := by
  fun_induction transcript respond d s with
  | case1 result s => exact (List.append_nil _).symm
  | case2 q next s reply s' hr ih =>
    have hs : log s' = log s ++ emits ⟨q, .ok reply⟩ := by simpa only [hr] using hstep q s
    rw [run_ask_ok hr, ih, hs, List.append_assoc, List.flatMap_cons]
  | case3 q next s e s' hr =>
    have hs : log s' = log s ++ emits ⟨q, .error e⟩ := by simpa only [hr] using hstep q s
    rw [run_ask_error hr, hs, List.flatMap_singleton]

theorem run_ask_done (respond : Responder V R σ) (q : Request V) (f : q.Reply R → α) (s : σ) :
    (ask q (fun reply => .done (.ok (f reply)))).run respond s =
      ((respond q s).1.map f, (respond q s).2) := by
  obtain ⟨result, s', hr⟩ : ∃ result s', respond q s = (result, s') := ⟨_, _, rfl⟩
  cases result <;> simp only [run, hr] <;> rfl

theorem transcript_ask_done (respond : Responder V R σ) (q : Request V)
    (f : q.Reply R → Except Failure α) (s : σ) :
    (ask q (fun reply => .done (f reply))).transcript respond s = [⟨q, (respond q s).1⟩] := by
  obtain ⟨result, s', hr⟩ : ∃ result s', respond q s = (result, s') := ⟨_, _, rfl⟩
  cases result <;> simp only [transcript, hr]

/-- Whatever the replies are, only counts and rows are asked for. -/
inductive Reads : Dialogue V R α → Prop
  | done (result : Except Failure α) : Reads (.done result)
  | count (scope : Scope V) {next : Int → Dialogue V R α} (h : ∀ n, Reads (next n)) :
      Reads (.ask (.count scope) next)
  | find (scope : Scope V) {next : List R → Dialogue V R α} (h : ∀ rows, Reads (next rows)) :
      Reads (.ask (.find scope) next)

namespace Reads

theorem bind {d : Dialogue V R α} {f : α → Dialogue V R β} (hd : d.Reads)
    (hf : ∀ a, (f a).Reads) : (d >>= f).Reads := by
  induction hd with
  | done result =>
    cases result with
    | error e => exact .done (.error e)
    | ok a => exact hf a
  | count scope h ih => exact .count scope ih
  | find scope h ih => exact .find scope ih

theorem map {d : Dialogue V R α} (hd : d.Reads) (f : α → β) : (f <$> d).Reads :=
  hd.bind (fun a => .done (.ok (f a)))

theorem of_find {scope : Scope V} {f : List R → Dialogue V R α} (hf : ∀ rows, (f rows).Reads) :
    (Dialogue.find scope >>= f).Reads :=
  bind (.find scope (fun rows => .done (.ok rows))) hf

theorem transcript {d : Dialogue V R α} (hd : d.Reads) (respond : Responder V R σ) (s : σ)
    {x : Exchange V R} (hx : x ∈ d.transcript respond s) :
    ∃ scope, x.request = .count scope ∨ x.request = .find scope := by
  induction hd generalizing s with
  | done result => cases hx
  | count scope h ih =>
    obtain hq | ⟨n, s', hx⟩ := request_of_mem_transcript hx
    · exact ⟨scope, .inl hq⟩
    · exact ih n s' hx
  | find scope h ih =>
    obtain hq | ⟨rows, s', hx⟩ := request_of_mem_transcript hx
    · exact ⟨scope, .inr hq⟩
    · exact ih rows s' hx

end Reads

end Dialogue

end RowQuery
