import RowQuery.Filter.Conditions

namespace RowQuery.Filter

variable {V : Type}

/-- A filter with more clauses, added one by one. -/
def pushAll (c : Filter V) (ks : List (Clause V)) : Filter V :=
  ks.foldl (fun c k => c.push k.join k.sql k.args) c

theorem pushAll_eq (c : Filter V) (ks : List (Clause V)) :
    c.pushAll ks = ⟨c.clauses ++ ks, c.order⟩ := by
  induction ks generalizing c with
  | nil =>
    rw [List.append_nil]
    rfl
  | cons k ks ih =>
    have hc : c.pushAll (k :: ks) = (c.push k.join k.sql k.args).pushAll ks := rfl
    rw [hc, ih, push, List.append_assoc]
    rfl

/-- What is written stands behind the text, and the text itself stays. -/
theorem written_eq_append (text : String) (ks : List (Clause V)) :
    written text ks = text ++ String.join (ks.map continuation) := by
  induction ks generalizing text with
  | nil => exact String.append_empty.symm
  | cons k ks ih =>
    have hw : written text (k :: ks) = written (text ++ k.join.separator ++ k.sql) ks := rfl
    rw [hw, ih, List.map_cons, String.join_cons, continuation, String.append_assoc,
      String.append_assoc, String.append_assoc]

theorem written_append (text : String) (ks ls : List (Clause V)) :
    written text (ks ++ ls) = written (written text ks) ls :=
  List.foldl_append

theorem joined_cons (k : Clause V) (ks : List (Clause V)) : joined (k :: ks) = written k.sql ks :=
  (written_eq_append k.sql ks).symm

/-- No clause, one clause and several clauses are all written in the same way. -/
theorem predicate_eq_written (c : Filter V) :
    c.predicate = written (c.clauses.head?.elim "" Clause.sql) c.clauses.tail := by
  rw [predicate]
  cases c.clauses with
  | nil => rfl
  | cons k ks => exact joined_cons k ks

theorem predicate_pushAll {c : Filter V} (h : c.isEmpty = false) (ks : List (Clause V)) :
    (c.pushAll ks).predicate = written c.predicate ks := by
  obtain ⟨clauses, order⟩ := c
  cases clauses with
  | nil => cases h
  | cons k js =>
    rw [pushAll_eq]
    change joined (k :: (js ++ ks)) = written (joined (k :: js)) ks
    rw [joined_cons, joined_cons, written_append]

theorem utf8ByteSize_written (text : String) (ks : List (Clause V)) :
    (written text ks).utf8ByteSize = text.utf8ByteSize + continuationSize ks := by
  induction ks generalizing text with
  | nil => rfl
  | cons k ks ih =>
    have hw : written text (k :: ks) = written (text ++ k.join.separator ++ k.sql) ks := rfl
    rw [hw, ih, String.utf8ByteSize_append, String.utf8ByteSize_append, continuationSize]
    omega

/-- Two traversals agree: the text that is written has the size that is added up. -/
theorem utf8ByteSize_predicate (c : Filter V) : c.predicate.utf8ByteSize = c.predicateSize := by
  rw [predicate, predicateSize]
  cases c.clauses with
  | nil => rfl
  | cons k ks => rw [joined_cons, utf8ByteSize_written]

/-- Writing the predicate does not fail, for its size turns out right. -/
theorem assembled?_eq (c : Filter V) : c.assembled? = some c.predicate := by
  have hs : c.predicate.utf8ByteSize = c.predicateSize := c.utf8ByteSize_predicate
  obtain ⟨clauses, order⟩ := c
  rcases clauses with _ | ⟨first, _ | ⟨second, rest⟩⟩
  · rfl
  · exact congrArg some (joined_cons first []).symm
  · let c : Filter V := ⟨first :: second :: rest, order⟩
    have hw : written first.sql (second :: rest) = c.predicate := (joined_cons first _).symm
    have ha : c.assembled? =
        if (written first.sql (second :: rest)).utf8ByteSize = c.predicateSize then
          some (written first.sql (second :: rest))
        else none := rfl
    rw [ha, hw, if_pos hs]

/-- The predicate is written in one way, however many clauses there are: the text of the first one,
whose join does not count, and then the join and the text of each of the others. Clauses that are
added to a filter are written behind what it was before. The size that is added up for the text is
its size in bytes, so that the text is never refused. -/
theorem predicate_in_one_pass (c : Filter V) :
    c.predicate = written (c.clauses.head?.elim "" Clause.sql) c.clauses.tail ∧
    (∀ (j : Join) (k : Clause V) (ks : List (Clause V)) (order : List String),
      (⟨{ k with join := j } :: ks, order⟩ : Filter V).predicate =
        (⟨k :: ks, order⟩ : Filter V).predicate) ∧
    (c.isEmpty = false → ∀ ks : List (Clause V),
      (c.pushAll ks).clauses = c.clauses ++ ks ∧
      (c.pushAll ks).predicate =
        c.predicate ++ String.join (ks.map (fun k => k.join.separator ++ k.sql))) ∧
    (2 ≤ c.clauses.length → c.predicate.utf8ByteSize = c.predicateSize) ∧
    c.assembled? = some c.predicate := by
  refine ⟨c.predicate_eq_written, fun j k ks order => rfl, fun h ks => ⟨?_, ?_⟩,
    fun _ => c.utf8ByteSize_predicate, c.assembled?_eq⟩
  · rw [pushAll_eq]
  · rw [predicate_pushAll h, written_eq_append]
    rfl

/-- The first join is not written, and not every character has one byte. -/
theorem predicate_in_one_pass_mixedJoins :
    let c : Filter Nat := ⟨[⟨.or, "ñ = ?", [.scalar 1]⟩, ⟨.and, "b = ?", [.scalar 2]⟩], []⟩
    let ks : List (Clause Nat) := [⟨.or, "c = ?", [.scalar 3]⟩, ⟨.and, "", []⟩]
    (c.isEmpty = false ∧ c.predicate = "ñ = ? and b = ?" ∧
      (c.pushAll ks).predicate = "ñ = ? and b = ?" ++ " or c = ? and ") ∧
    2 ≤ c.clauses.length ∧ c.predicate.utf8ByteSize = c.predicateSize ∧ c.predicateSize = 16 ∧
    c.assembled? = some "ñ = ? and b = ?" := by
  intro c ks
  obtain ⟨hwritten, -, hpush, hsize, hassembled⟩ := c.predicate_in_one_pass
  have hc : c.predicate = "ñ = ? and b = ?" := hwritten.trans (by decide)
  have he : c.isEmpty = false := rfl
  have hl : 2 ≤ c.clauses.length := by decide
  refine ⟨⟨he, hc, ?_⟩, hl, hsize hl, by decide, hc ▸ hassembled⟩
  rw [(hpush he ks).2, hc]
  decide

end RowQuery.Filter
