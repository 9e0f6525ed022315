import RowQuery.Statement.Template

namespace RowQuery.Statement

/-- The lengths of the maximal runs of question marks: one before, between and after the other
characters, where a run may be empty. -/
def runs : List Char → List Nat
  | [] => [0]
  | c :: cs => if c = '?' then (runs cs).modifyHead (· + 1) else 0 :: runs cs

/-- A run of odd length asks for one argument and a run of even length for none. -/
def placeholders (template : String) : Nat := (runs template.toList).countP (fun n => n % 2 == 1)

def EvenRuns (text : String) : Prop := ∀ n ∈ runs text.toList, n % 2 = 0

instance (text : String) : Decidable (EvenRuns text) :=
  inferInstanceAs (Decidable (∀ n ∈ runs text.toList, n % 2 = 0))

theorem runs_ne_nil (cs : List Char) : runs cs ≠ [] := by
  induction cs with
  | nil => simp [runs]
  | cons c cs ih =>
    by_cases hc : c = '?'
    · simpa [runs, hc] using ih
    · simp [runs, hc]

theorem runs_cons {c : Char} (hc : c ≠ '?') (cs : List Char) : runs (c :: cs) = 0 :: runs cs := by
  simp [runs, hc]

/-- Two more question marks change the parity of no run. -/
theorem countP_runs_double (cs : List Char) :
    (runs ('?' :: '?' :: cs)).countP (fun n => n % 2 == 1) =
      (runs cs).countP (fun n => n % 2 == 1) := by
  obtain ⟨n, ns, hn⟩ := List.exists_cons_of_ne_nil (runs_ne_nil cs)
  have hp : (n + 1 + 1) % 2 = n % 2 := by omega
  simp [runs, hn, List.countP_cons, hp]

/-- One question mark before another character is a run of its own. -/
theorem countP_runs_single {cs : List Char} (h : ∀ rest, cs ≠ '?' :: rest) :
    (runs ('?' :: cs)).countP (fun n => n % 2 == 1) =
      (runs cs).countP (fun n => n % 2 == 1) + 1 := by
  cases cs with
  | nil => rfl
  | cons c cs =>
    have hc : c ≠ '?' := fun he => h cs (by rw [he])
    simp [runs, hc]

/-- The scanner sees one slot for every run of odd length. -/
theorem slots_eq_placeholders (template : String) : slots template = placeholders template := by
  unfold slots placeholders
  fun_induction pieces template.toList with
  | case1 => rfl
  | case2 cs ih => rw [countP_runs_double, ← ih]; simp
  | case3 cs hne ih => rw [countP_runs_single (fun rest he => hne rest he), ← ih]; simp
  | case4 c cs hne hc ih =>
    rw [runs_cons (fun he => hc (by rw [he])), List.countP_cons_of_neg (by simp), ← ih]
    simp

theorem EvenRuns.slots_eq_zero {text : String} (h : EvenRuns text) : slots text = 0 := by
  rw [slots_eq_placeholders, placeholders, List.countP_eq_zero]
  intro n hn
  simp [h n hn]

theorem pieces_slot {cs : List Char} (h : ∀ rest, cs ≠ '?' :: rest) :
    pieces ('?' :: cs) = .slot :: pieces cs := by
  rw [pieces]
  exact fun rest he => h rest he

theorem pieces_char {c : Char} (hc : c ≠ '?') (cs : List Char) :
    pieces (c :: cs) = .char c :: pieces cs := by
  rw [pieces]
  · exact fun _ he => absurd he hc
  · exact hc

/-- A text that does not begin with a question mark is scanned on its own: no run reaches over the
boundary before it. -/
theorem pieces_append (a : List Char) {b : List Char} (hb : ∀ rest, b ≠ '?' :: rest) :
    pieces (a ++ b) = pieces a ++ pieces b := by
  fun_induction pieces a with
  | case1 => rfl
  | case2 cs ih => simp [pieces, ih]
  | case3 cs hne ih =>
    have h : ∀ rest, cs ++ b ≠ '?' :: rest := by
      intro rest he
      cases cs with
      | nil => exact hb rest he
      | cons c cs => exact hne cs (by rw [(List.cons.inj he).1])
    rw [List.cons_append, pieces_slot h, ih, List.cons_append]
  | case4 c cs hne hc ih =>
    rw [List.cons_append, pieces_char hc, ih, List.cons_append]

/-- A text without question marks is its own scan, whatever comes after it. -/
theorem pieces_plain_append {t : List Char} (h : '?' ∉ t) (b : List Char) :
    pieces (t ++ b) = t.map .char ++ pieces b := by
  induction t with
  | nil => rfl
  | cons c t ih =>
    obtain ⟨hc, ht⟩ := List.ne_and_not_mem_of_not_mem_cons h
    rw [List.cons_append, pieces_char (Ne.symm hc), ih ht, List.map_cons, List.cons_append]

/-- A text that keeps the runs before it apart from the runs after it. -/
def Separator (t : String) : Prop := t ≠ "" ∧ '?' ∉ t.toList

instance (t : String) : Decidable (Separator t) := inferInstanceAs (Decidable (_ ∧ _))

theorem Separator.pieces_append {t : String} (h : Separator t) (a b : String) :
    pieces (a ++ t ++ b).toList = pieces a.toList ++ (t.toList.map .char ++ pieces b.toList) := by
  obtain ⟨hne, hq⟩ := h
  have hb : ∀ rest, t.toList ++ b.toList ≠ '?' :: rest := by
    intro rest he
    cases ht : t.toList with
    | nil => exact hne (String.toList_eq_nil_iff.mp ht)
    | cons c cs =>
      rw [ht, List.cons_append] at he
      exact hq (by simp [ht, (List.cons.inj he).1])
  rw [String.toList_append, String.toList_append, List.append_assoc,
    Statement.pieces_append a.toList hb, pieces_plain_append hq]

theorem Separator.slots_append {t : String} (h : Separator t) (a b : String) :
    slots (a ++ t ++ b) = slots a + slots b := by
  have ht : (t.toList.map Piece.char).count .slot = 0 := by
    rw [List.count_eq_zero]
    simp
  rw [slots, h.pieces_append, List.count_append, List.count_append, ht, Nat.zero_add, slots, slots]

end RowQuery.Statement
