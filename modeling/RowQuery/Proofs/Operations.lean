import RowQuery.Proofs.Transcripts

namespace RowQuery

variable {V R M P K A : Type}

namespace Access

theorem reads_models (read : R → Except Failure M) (rows : List R) :
    (models read rows : Dialogue V R (List M)).Reads :=
  .done (rows.mapM read)

theorem reads_first (t : Table) (read : R → Except Failure M) (c : Option (Filter V)) :
    (first t read c).Reads := by
  refine .of_find (fun rows => ?_)
  cases rows with
  | nil => exact .done (.ok none)
  | cons row rows => exact .done ((read row).map some)

theorem reads_byIds (t : Table) (read : R → Except Failure M) (ids : List V) :
    (byIds t read ids).Reads := by
  rw [byIds]
  by_cases h : ids.isEmpty
  · rw [if_pos h]
    exact .done (.ok [])
  · rw [if_neg h]
    exact .of_find (reads_models read)

theorem reads_all (t : Table) (read : R → Except Failure M) (c : Option (Filter V)) :
    (all t read c).Reads :=
  .of_find (reads_models read)

theorem reads_page (t : Table) (read : R → Except Failure M) (index size : Nat)
    (c : Option (Filter V)) : (page t read index size c).Reads := by
  rw [page]
  by_cases h : size = 0
  · rw [if_pos h]
    exact .done (.error (.validation .pageSize))
  · rw [if_neg h]
    by_cases hb : rowBound ≤ index * size
    · rw [if_pos hb]
      exact .done (.error (.validation (.pageOffset index size)))
    · rw [if_neg hb]
      refine .bind (.count _ (fun n => .done (.ok n))) (fun total => ?_)
      refine .of_find (fun rows => .bind (reads_models read rows) (fun found => ?_))
      exact .done (.ok (Page.mk total found))

theorem reads_columnMap [KeyOrder K] (t : Table) (read : R → Except Failure (K × A))
    (column : String) (c : Option (Filter V)) : (columnMap t read column c).Reads :=
  .of_find (fun rows => .bind (reads_models read rows) (fun pairs =>
    .done (.ok (SortedMap.ofList pairs))))

end Access

/-- A call reads, or it puts one request and ends with the reply. -/
theorem Operation.dialogue_reads_or_asks [KeyOrder K] (t : Table) (reading : Reading R M P K A)
    (call : Operation V (Filter V) (Update V) (Scope V) P) :
    (call.dialogue t reading).Reads ∨
      ∃ (q : Request V) (f : q.Reply R → Outcome R M K A),
        call.dialogue t reading = .ask q (fun reply => .done (.ok (f reply))) := by
  cases call with
  | byId id => exact .inl (.map (Access.reads_first t _ _) _)
  | byIds ids => exact .inl (.map (Access.reads_byIds t _ ids) _)
  | first c => exact .inl (.map (Access.reads_first t _ c) _)
  | all c => exact .inl (.map (Access.reads_all t _ c) _)
  | page index size c => exact .inl (.map (Access.reads_page t _ index size c) _)
  | columnMap kind column c => exact .inl (.map (Access.reads_columnMap t _ column c) _)
  | delete c => exact .inr ⟨.delete (Access.reached t c), Outcome.affected, rfl⟩
  | update u =>
    cases u with
    | none => exact .inl (.map (.done (.ok 0)) _)
    | some u =>
      simp only [dialogue, Access.update]
      by_cases h : u.isIdle
      · rw [if_pos h]
        exact .inl (.map (.done (.ok 0)) _)
      · rw [if_neg h]
        exact .inr ⟨.update (Access.reached t (some u.filter)) u.assignments, Outcome.affected, rfl⟩
  | countScope s => exact .inr ⟨.count s, Outcome.total, rfl⟩
  | findScope s => exact .inr ⟨.find s, Outcome.rows, rfl⟩
  | deleteScope s => exact .inr ⟨.delete s, Outcome.affected, rfl⟩
  | updateScope s u => exact .inr ⟨.update s u.assignments, Outcome.affected, rfl⟩

end RowQuery
