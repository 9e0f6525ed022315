import RowQuery.Access.Operation

namespace RowQuery

variable {V R M P K A α β : Type}

namespace Dialogue

/-- Whatever the replies are, a dialogue that fails of itself and not with one of its requests has a
failure that satisfies a condition. -/
inductive FailsWith (F : Failure → Prop) : Dialogue V R α → Prop
  | ok (a : α) : FailsWith F (.done (.ok a))
  | error {e : Failure} (h : F e) : FailsWith F (.done (.error e))
  | ask {request : Request V} {next : request.Reply R → Dialogue V R α}
      (h : ∀ reply, FailsWith F (next reply)) : FailsWith F (.ask request next)

namespace FailsWith

variable {F : Failure → Prop}

theorem of_result {result : Except Failure α} (h : ∀ e, result = .error e → F e) :
    (done result : Dialogue V R α).FailsWith F := by
  cases result with
  | ok a => exact .ok a
  | error e => exact .error (h e rfl)

theorem bind {d : Dialogue V R α} {f : α → Dialogue V R β} (hd : d.FailsWith F)
    (hf : ∀ a, (f a).FailsWith F) : (d >>= f).FailsWith F := by
  induction hd with
  | ok a => exact hf a
  | error h => exact .error h
  | ask h ih => exact .ask ih

theorem map {d : Dialogue V R α} (hd : d.FailsWith F) (f : α → β) : (f <$> d).FailsWith F :=
  hd.bind (fun a => .ok (f a))

theorem of_request (q : Request V) :
    (Dialogue.ask q (fun reply => .done (.ok reply)) : Dialogue V R (q.Reply R)).FailsWith F :=
  .ask (fun reply => .ok reply)

theorem of_find {scope : Scope V} {f : List R → Dialogue V R α}
    (hf : ∀ rows, (f rows).FailsWith F) :
    (Dialogue.find scope >>= f).FailsWith F :=
  bind (.of_request (.find scope)) hf

end FailsWith

theorem failsWith_true (d : Dialogue V R α) : d.FailsWith (fun _ => True) := by
  induction d with
  | done result => exact .of_result (fun _ _ => trivial)
  | ask q next ih => exact .ask ih

end Dialogue

/-- A condition on failures that covers the ones of a call itself: what it objects to, a count
without a row, and a column that cannot be read. -/
structure OwnFailure (F : Failure → Prop) : Prop where
  validation : ∀ objection, F (.validation objection)
  uncounted : ∀ table, F (.uncounted table)
  column : ∀ name reason, F (.column name reason)

theorem ownFailure_isTimeout : OwnFailure (fun e => e.isTimeout = false) :=
  ⟨fun _ => rfl, fun _ => rfl, fun _ _ => rfl⟩

/-- The failures that come of reading rows. -/
structure Reading.FailsWith (reading : Reading R M P K A) (F : Failure → Prop) : Prop where
  model : ∀ row e, reading.model row = .error e → F e
  pair : ∀ kind row e, reading.pair kind row = .error e → F e

theorem bind_error {x : Except Failure α} {f : α → Except Failure β} {e : Failure}
    (h : x >>= f = .error e) : x = .error e ∨ ∃ a, x = .ok a ∧ f a = .error e := by
  cases x with
  | error e' => exact .inl (by cases h; rfl)
  | ok a => exact .inr ⟨a, rfl, h⟩

theorem map_error {x : Except Failure α} {f : α → β} {e : Failure} (h : x.map f = .error e) :
    x = .error e := by
  cases x with
  | error e' => cases h; rfl
  | ok a => cases h

theorem mapError_error {x : Except String α} {f : String → Failure} {e : Failure}
    (h : x.mapError f = .error e) : ∃ reason, e = f reason := by
  cases x with
  | error reason => exact ⟨reason, by cases h; rfl⟩
  | ok a => cases h

theorem mapM_error {read : R → Except Failure M} {F : Failure → Prop}
    (h : ∀ row e, read row = .error e → F e) (rows : List R) {e : Failure}
    (he : rows.mapM read = .error e) : F e := by
  induction rows with
  | nil => cases he
  | cons row rows ih =>
    rw [List.mapM_cons] at he
    obtain hr | ⟨m, -, hs⟩ := bind_error he
    · exact h row e hr
    · obtain hs | ⟨ms, -, hm⟩ := bind_error hs
      · exact ih hs
      · cases hm

namespace Access

open Dialogue

variable {F : Failure → Prop}

theorem failsWith_models {read : R → Except Failure M} (h : ∀ row e, read row = .error e → F e)
    (rows : List R) : (models read rows : Dialogue V R (List M)).FailsWith F :=
  .of_result (fun _ => mapM_error h rows)

theorem failsWith_first (t : Table) {read : R → Except Failure M}
    (h : ∀ row e, read row = .error e → F e) (c : Option (Filter V)) :
    (first t read c).FailsWith F := by
  refine .of_find (fun rows => ?_)
  cases rows with
  | nil => exact .ok none
  | cons row rows => exact .of_result (fun e he => h row e (map_error he))

theorem failsWith_byIds (t : Table) {read : R → Except Failure M}
    (h : ∀ row e, read row = .error e → F e) (ids : List V) : (byIds t read ids).FailsWith F := by
  rw [byIds]
  by_cases hi : ids.isEmpty
  · rw [if_pos hi]
    exact .ok []
  · rw [if_neg hi]
    exact .of_find (failsWith_models h)

theorem failsWith_all (t : Table) {read : R → Except Failure M}
    (h : ∀ row e, read row = .error e → F e) (c : Option (Filter V)) : (all t read c).FailsWith F :=
  .of_find (failsWith_models h)

theorem failsWith_page (t : Table) {read : R → Except Failure M}
    (h : ∀ row e, read row = .error e → F e) (hv : ∀ objection, F (.validation objection))
    (index size : Nat) (c : Option (Filter V)) : (page t read index size c).FailsWith F := by
  rw [page]
  by_cases hs : size = 0
  · rw [if_pos hs]
    exact .error (hv _)
  · rw [if_neg hs]
    by_cases hb : rowBound ≤ index * size
    · rw [if_pos hb]
      exact .error (hv _)
    · rw [if_neg hb]
      refine .bind (.of_request (.count _)) (fun total => .of_find (fun rows => ?_))
      exact .bind (failsWith_models h rows) (fun found => .ok (Page.mk total found))

theorem failsWith_update (t : Table) (u : Option (Update V)) :
    (update t u : Dialogue V R Nat).FailsWith F := by
  cases u with
  | none => exact .ok 0
  | some u =>
    rw [update]
    by_cases h : u.isIdle
    · rw [if_pos h]
      exact .ok 0
    · rw [if_neg h]
      exact .of_request (.update _ _)

theorem failsWith_columnMap [KeyOrder K] (t : Table) {read : R → Except Failure (K × A)}
    (h : ∀ row e, read row = .error e → F e) (column : String) (c : Option (Filter V)) :
    (columnMap t read column c).FailsWith F :=
  .of_find (fun rows => .bind (failsWith_models h rows) (fun pairs => .ok (SortedMap.ofList pairs)))

end Access

/-- A call fails of itself by an objection to what was asked for, or by a row that cannot be
read. -/
theorem Operation.failsWith_dialogue [KeyOrder K] (t : Table) {reading : Reading R M P K A}
    {F : Failure → Prop} (h : reading.FailsWith F) (hv : ∀ objection, F (.validation objection))
    (call : Operation V (Filter V) (Update V) (Scope V) P) :
    (call.dialogue t reading).FailsWith F := by
  cases call with
  | byId id => exact .map (Access.failsWith_first t h.model _) _
  | byIds ids => exact .map (Access.failsWith_byIds t h.model ids) _
  | first c => exact .map (Access.failsWith_first t h.model c) _
  | all c => exact .map (Access.failsWith_all t h.model c) _
  | page index size c => exact .map (Access.failsWith_page t h.model hv index size c) _
  | delete c => exact .map (.of_request (.delete _)) _
  | update u => exact .map (Access.failsWith_update t u) _
  | columnMap kind column c =>
    exact .map (Access.failsWith_columnMap t (h.pair kind) column c) _
  | countScope s => exact .map (.of_request (.count s)) _
  | findScope s => exact .map (.of_request (.find s)) _
  | deleteScope s => exact .map (.of_request (.delete s)) _
  | updateScope s u => exact .map (.of_request (.update s u.assignments)) _

end RowQuery
