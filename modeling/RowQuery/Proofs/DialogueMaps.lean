import RowQuery.Database.Execution
import RowQuery.Proofs.StatementMaps

namespace RowQuery

variable {V W R M P K A α β σ τ : Type} (f : V → W)

namespace Request

def map : Request V → Request W
  | .count s => .count (s.map f)
  | .find s => .find (s.map f)
  | .delete s => .delete (s.map f)
  | .update s a => .update (s.map f) (a.map (Assignment.map f))

/-- What answers the mapped request answers the request. -/
def reply : (q : Request V) → (q.map f).Reply R → q.Reply R
  | .count _, n => n
  | .find _, rows => rows
  | .delete _, n => n
  | .update _ _, n => n

theorem name_map (q : Request V) : (q.map f).name = q.name := by
  cases q <;> rfl

theorem purpose_map (q : Request V) : (q.map f).purpose = q.purpose := by
  cases q <;> rfl

theorem scope_map (q : Request V) : (q.map f).scope = q.scope.map f := by
  cases q <;> rfl

theorem isIdle_map (q : Request V) : (q.map f).isIdle = q.isIdle := by
  cases q with
  | update s a => exact SortedMap.isEmpty_map (Assignment.map f) a
  | _ => rfl

theorem rule?_map (q : Request V) : (q.map f).rule? = q.rule? := by
  cases q <;> rfl

theorem statement_map (q : Request V) : (q.map f).statement = q.statement.map f := by
  cases q with
  | count s => exact Scope.countStatement_map f s
  | find s => exact Scope.selectStatement_map f s
  | delete s => exact Scope.deleteStatement_map f s
  | update s a => exact Scope.updateStatement_map f s a

theorem reply_nothing (q : Request V) : q.reply f ((q.map f).nothing R) = q.nothing R := by
  cases q <;> rfl

end Request

namespace Dialogue

/-- The same dialogue with the values of its requests mapped. -/
def mapValues : Dialogue V R α → Dialogue W R α
  | .done result => .done result
  | .ask q next => .ask (q.map f) (fun r => mapValues (next (q.reply f r)))

theorem mapValues_bind (d : Dialogue V R α) (k : α → Dialogue V R β) :
    (d >>= k).mapValues f = d.mapValues f >>= fun a => (k a).mapValues f := by
  induction d with
  | done result => cases result <;> rfl
  | ask q next ih =>
    refine congrArg (Dialogue.ask (q.map f)) ?_
    funext r
    exact ih (q.reply f r)

theorem map_mapValues {d : Dialogue V R α} {e : Dialogue W R α} (h : e = d.mapValues f)
    (g : α → β) : g <$> e = (g <$> d).mapValues f := by
  subst h
  exact (mapValues_bind f d (fun a => .done (.ok (g a)))).symm

/-- Responders that treat the values alike from one request to the next do so in a whole run. -/
theorem run_mapValues {first : Responder V R σ} {second : Responder W R τ} (g : σ → τ)
    (h : ∀ q s, ((second (q.map f) (g s)).1.map (q.reply f), (second (q.map f) (g s)).2) =
      ((first q s).1, g (first q s).2)) (d : Dialogue V R α) (s : σ) :
    (d.mapValues f).run second (g s) = ((d.run first s).1, g (d.run first s).2) := by
  induction d generalizing s with
  | done result => rfl
  | ask q next ih =>
    obtain ⟨hresult, hstate⟩ := Prod.mk.inj (h q s)
    cases hr : first q s with
    | mk result s' =>
      cases hr' : second (q.map f) (g s) with
      | mk result' t =>
        simp only [hr, hr'] at hresult hstate
        subst hstate
        cases result' with
        | error e =>
          subst hresult
          simp only [mapValues, run, hr, hr']
          rfl
        | ok reply =>
          subst hresult
          simp only [mapValues, run, hr']
          rw [ih]
          simp only [hr]
          rfl

end Dialogue

namespace Access

theorem matching_map (t : Table) (c : Option (Filter V)) :
    matching t (c.map (Filter.map f)) = (matching t c).map f := by
  cases c with
  | none => rfl
  | some c => exact (Scope.map_matching f (.ofTable t) c).symm

theorem listing_map (t : Table) (c : Option (Filter V)) :
    listing t (c.map (Filter.map f)) = (listing t c).map f := by
  cases c with
  | none => rfl
  | some c => exact (Scope.map_listing f (.ofTable t) c).symm

theorem reached_map (t : Table) (c : Option (Filter V)) :
    reached t (c.map (Filter.map f)) = (reached t c).map f := by
  cases c with
  | none => rfl
  | some c => exact (Scope.map_matching f (.all t.name) c).symm

theorem first_map (t : Table) (read : R → Except Failure M) (c : Option (Filter V)) :
    first t read (c.map (Filter.map f)) = (first t read c).mapValues f := by
  rw [first, matching_map, first, Dialogue.mapValues_bind]
  refine congrArg (Dialogue.ask (.find (((matching t c).map f).take 1))) ?_
  funext rows
  cases rows <;> rfl

theorem byIds_map (t : Table) (read : R → Except Failure M) (ids : List V) :
    byIds t read (ids.map f) = (byIds t read ids).mapValues f := by
  have hs : (Scope.ofTable t).matching (Filter.empty.isInList t.idColumn (ids.map f)) =
      ((Scope.ofTable t).matching (Filter.empty.isInList t.idColumn ids)).map f := by
    rw [Scope.map_matching, Filter.isInList, Filter.isInList, Filter.map_isIn]
    rfl
  rw [byIds, byIds, List.isEmpty_map, hs]
  by_cases h : ids.isEmpty
  · rw [if_pos h, if_pos h]
    rfl
  · rw [if_neg h, if_neg h]
    rfl

theorem all_map (t : Table) (read : R → Except Failure M) (c : Option (Filter V)) :
    all t read (c.map (Filter.map f)) = (all t read c).mapValues f := by
  rw [all, listing_map, all]
  rfl

theorem page_map (t : Table) (read : R → Except Failure M) (index size : Nat)
    (c : Option (Filter V)) :
    page t read index size (c.map (Filter.map f)) = (page t read index size c).mapValues f := by
  rw [page, page, matching_map, listing_map]
  by_cases h : size = 0
  · rw [if_pos h, if_pos h]
    rfl
  · rw [if_neg h, if_neg h]
    by_cases hb : rowBound ≤ index * size
    · rw [if_pos hb, if_pos hb]
      rfl
    · rw [if_neg hb, if_neg hb]
      simp only [Dialogue.mapValues_bind]
      rfl

theorem delete_map (t : Table) (c : Option (Filter V)) :
    (delete t (c.map (Filter.map f)) : Dialogue W R Nat) = (delete t c).mapValues f := by
  rw [delete, reached_map]
  rfl

theorem update_map (t : Table) (u : Option (Update V)) :
    (update t (u.map (Update.map f)) : Dialogue W R Nat) = (update t u).mapValues f := by
  cases u with
  | none => rfl
  | some u =>
    have hr : reached t (some (u.map f).filter) = (reached t (some u.filter)).map f :=
      reached_map f t (some u.filter)
    simp only [update, Option.map_some, Update.isIdle_map, hr]
    by_cases h : u.isIdle
    · rw [if_pos h, if_pos h]
      rfl
    · rw [if_neg h, if_neg h]
      rfl

theorem columnMap_map [KeyOrder K] (t : Table) (read : R → Except Failure (K × A))
    (column : String) (c : Option (Filter V)) :
    columnMap t read column (c.map (Filter.map f)) = (columnMap t read column c).mapValues f := by
  let scope : Scope V := (Scope.all t.name).select [t.idColumn, column]
  have hs : (c.map (Filter.map f)).elim (scope.map f) (scope.map f).matching =
      (c.elim scope scope.matching).map f := by
    cases c with
    | none => rfl
    | some c => exact (Scope.map_matching f scope c).symm
  simp only [columnMap, Dialogue.mapValues_bind]
  exact congrArg (fun s => Dialogue.find s >>= fun rows => models read rows >>= fun pairs =>
    .done (.ok (SortedMap.ofList pairs))) hs

end Access

/-- A call with other values puts the same requests with those values in them. -/
theorem Operation.dialogue_map [KeyOrder K] (t : Table) (reading : Reading R M P K A)
    (call : Operation V (Filter V) (Update V) (Scope V) P) :
    (call.map f (Filter.map f) (Update.map f) (Scope.map f)).dialogue t reading =
      (call.dialogue t reading).mapValues f := by
  cases call with
  | byId id =>
    exact Dialogue.map_mapValues f
      (Access.first_map f t reading.model (some (Filter.empty.compare t.idColumn .equal id))) _
  | byIds ids => exact Dialogue.map_mapValues f (Access.byIds_map f t _ ids) _
  | first c => exact Dialogue.map_mapValues f (Access.first_map f t _ c) _
  | all c => exact Dialogue.map_mapValues f (Access.all_map f t _ c) _
  | page index size c => exact Dialogue.map_mapValues f (Access.page_map f t _ index size c) _
  | delete c => exact Dialogue.map_mapValues f (Access.delete_map f t c) _
  | update u => exact Dialogue.map_mapValues f (Access.update_map f t u) _
  | columnMap kind column c => exact Dialogue.map_mapValues f (Access.columnMap_map f t _ column c) _
  | countScope s => rfl
  | findScope s => rfl
  | deleteScope s => rfl
  | updateScope s u => rfl

end RowQuery
