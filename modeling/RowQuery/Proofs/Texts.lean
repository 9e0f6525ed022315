import RowQuery.Proofs.Placeholders
import RowQuery.Statement.Rendering

namespace RowQuery

namespace Statement

variable {V : Type}

def chars (s : Statement V) : List Char := s.tokens.flatMap Token.chars

theorem toList_text (s : Statement V) : s.text.toList = s.chars := by
  simp [text, chars]

theorem chars_ofText (t : String) : (Token.ofText t).flatMap Token.chars = t.toList := by
  simp [Token.ofText, List.flatMap_map, Token.chars]

theorem chars_write (s : Statement V) (t : String) : (s.write t).chars = s.chars ++ t.toList := by
  simp only [chars, write, List.flatMap_append, chars_ofText]

theorem write_write (s : Statement V) (t u : String) : (s.write t).write u = s.write (t ++ u) := by
  simp [write, Token.ofText]

theorem text_write (s : Statement V) (t : String) : (s.write t).text = s.text ++ t := by
  rw [← String.toList_inj, String.toList_append, toList_text, toList_text, chars_write]

theorem text_fill (s : Statement V) (template : String) (args : List (Arg V)) :
    (s.fill template args).text =
      s.text ++ (fillPieces s.params.length (pieces template.toList) args).text := by
  rw [← String.toList_inj, String.toList_append]
  simp only [toList_text]
  exact List.flatMap_append

theorem pieces_ne_nil {cs : List Char} (h : cs ≠ []) : pieces cs ≠ [] := by
  fun_cases pieces cs <;> simp_all

/-- Every piece of a template leaves some text. -/
theorem chars_fillPieces_ne {ps : List Piece} (h : ps ≠ []) (bound : Nat) (as : List (Arg V)) :
    (fillPieces bound ps as).chars ≠ [] := by
  cases ps with
  | nil => exact absurd rfl h
  | cons p ps =>
    cases p with
    | char c => exact List.cons_ne_nil _ _
    | slot =>
      cases as with
      | nil => exact List.cons_ne_nil _ _
      | cons a as =>
        cases a with
        | scalar v => exact List.cons_ne_nil _ _
        | list vs => cases vs <;> exact List.cons_ne_nil _ _

theorem filtered_of_unfiltered {scope : Scope V} (h : scope.isUnfiltered = true)
    (s : Statement V) : s.filtered scope = s := by
  rw [filtered, if_pos h]

theorem text_filtered {scope : Scope V} (h : scope.isUnfiltered = false) (s : Statement V) :
    ∃ condition, condition ≠ "" ∧
      (s.filtered scope).text = s.text ++ " WHERE " ++ condition := by
  let condition : Statement V :=
    fillPieces (s.write " WHERE ").params.length (pieces scope.predicate.toList) scope.args
  have hp : scope.predicate.toList ≠ [] := by
    intro he
    rw [String.toList_eq_nil_iff] at he
    simp [Scope.isUnfiltered, he] at h
  have hc : condition.text ≠ "" := by
    intro he
    apply chars_fillPieces_ne (pieces_ne_nil hp) (s.write " WHERE ").params.length scope.args
    rw [← toList_text, he]
    rfl
  refine ⟨condition.text, hc, ?_⟩
  rw [filtered, if_neg (by simp [h]), text_fill, text_write]

theorem ne_append_where (t condition : String) : t ≠ t ++ " WHERE " ++ condition := by
  intro h
  have hl := congrArg String.length h
  have hw : " WHERE ".length = 7 := rfl
  simp only [String.length_append] at hl
  omega

/-- A statement has no condition exactly when its scope has none. -/
theorem text_filtered_eq_iff (s : Statement V) (scope : Scope V) :
    (s.filtered scope).text = s.text ↔ scope.isUnfiltered = true := by
  refine ⟨fun ht => ?_, fun h => by rw [filtered_of_unfiltered h]⟩
  by_cases h : scope.isUnfiltered
  · exact h
  · obtain ⟨condition, -, hc⟩ := text_filtered (by simpa using h) s
    exact absurd (ht.symm.trans hc) (ne_append_where s.text condition)

theorem text_filtered_eq_where_iff (s : Statement V) (scope : Scope V) :
    (∃ condition, condition ≠ "" ∧ (s.filtered scope).text = s.text ++ " WHERE " ++ condition) ↔
      scope.isUnfiltered = false := by
  refine ⟨?_, fun h => text_filtered h s⟩
  rintro ⟨condition, -, hc⟩
  by_cases h : scope.isUnfiltered
  · rw [filtered_of_unfiltered h] at hc
    exact absurd hc (ne_append_where s.text condition)
  · simpa using h

end Statement

end RowQuery
