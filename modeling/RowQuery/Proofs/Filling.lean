import RowQuery.Proofs.Placeholders
import RowQuery.Statement.Basic

namespace RowQuery.Statement

variable {V : Type}

/-- Every placeholder of a template has an argument of its own, and no argument is left over. -/
def Balanced (template : String) (args : List (Arg V)) : Prop := placeholders template = args.length

def append (s t : Statement V) : Statement V :=
  ⟨s.tokens ++ t.tokens, s.params ++ t.params, s.surplus + t.surplus⟩

theorem fill_eq_append (s : Statement V) (template : String) (args : List (Arg V)) :
    s.fill template args = s.append (fillPieces s.params.length (pieces template.toList) args) := rfl

/-- Only as many arguments are bound as there are slots. -/
theorem params_fillPieces (bound : Nat) (ps : List Piece) (as : List (Arg V)) :
    (fillPieces bound ps as).params = Arg.flatten (as.take (ps.count .slot)) := by
  induction ps generalizing bound as with
  | nil => simp [fillPieces, Arg.flatten]
  | cons p ps ih =>
    cases p with
    | char c => simp [fillPieces, ih]
    | slot =>
      cases as with
      | nil => simp [fillPieces, ih, Arg.flatten]
      | cons a as => simp [fillPieces, ih, Arg.flatten]

theorem surplus_fillPieces (bound : Nat) (ps : List Piece) (as : List (Arg V)) :
    (fillPieces bound ps as).surplus = as.length - ps.count .slot := by
  induction ps generalizing bound as with
  | nil => simp [fillPieces]
  | cons p ps ih =>
    cases p with
    | char c => simp [fillPieces, ih]
    | slot =>
      cases as with
      | nil => simp [fillPieces, ih]
      | cons a as => simp [fillPieces, ih]

/-- Slots and arguments that match are used up before the rest of the template is reached. -/
theorem fillPieces_append {ps : List Piece} {as : List (Arg V)} (h : ps.count .slot = as.length)
    (bound : Nat) (qs : List Piece) (bs : List (Arg V)) :
    fillPieces bound (ps ++ qs) (as ++ bs) =
      (fillPieces bound ps as).append (fillPieces (bound + (Arg.flatten as).length) qs bs) := by
  induction ps generalizing bound as with
  | nil =>
    have has : as = [] := List.length_eq_zero_iff.mp h.symm
    subst as
    simp [fillPieces, append, Arg.flatten]
  | cons p ps ih =>
    cases p with
    | char c =>
      have hs : ps.count .slot = as.length := by simpa using h
      simp [fillPieces, ih hs, append]
    | slot =>
      cases as with
      | nil => simp at h
      | cons a as =>
        have hs : ps.count .slot = as.length := by simpa using h
        simp [fillPieces, ih hs, append, Arg.flatten, Arg.size, Nat.add_assoc]

theorem fillPieces_chars (bound : Nat) (t : List Char) (ps : List Piece) (as : List (Arg V)) :
    fillPieces bound (t.map .char ++ ps) as =
      append ⟨t.map .char, [], 0⟩ (fillPieces bound ps as) := by
  induction t with
  | nil => simp [append]
  | cons c t ih => simp [fillPieces, ih, append]

theorem balanced_iff {template : String} {args : List (Arg V)} :
    Balanced template args ↔ slots template = args.length := by
  rw [slots_eq_placeholders, Balanced]

theorem EvenRuns.balanced {field : String} (h : EvenRuns field) :
    Balanced field ([] : List (Arg V)) :=
  balanced_iff.mpr h.slots_eq_zero

theorem params_fill {template : String} {args : List (Arg V)} (h : Balanced template args)
    (s : Statement V) : (s.fill template args).params = s.params ++ Arg.flatten args := by
  have hs : (pieces template.toList).count .slot = args.length := balanced_iff.mp h
  simp only [fill, params_fillPieces, hs, List.take_length]

theorem surplus_fill {template : String} {args : List (Arg V)} (h : Balanced template args)
    (s : Statement V) : (s.fill template args).surplus = s.surplus := by
  have hs : (pieces template.toList).count .slot = args.length := balanced_iff.mp h
  simp only [fill, surplus_fillPieces, hs, Nat.sub_self, Nat.add_zero]

@[simp] theorem fill_blank (s : Statement V) : s.fill "" [] = s := by
  simp [fill, pieces, fillPieces]

/-- A template with balanced text before a separator is filled part by part. -/
theorem fill_separated {x t : String} {as : List (Arg V)} (h : Balanced x as) (ht : Separator t)
    (s : Statement V) (y : String) (bs : List (Arg V)) :
    s.fill (x ++ t ++ y) (as ++ bs) = ((s.fill x as).write t).fill y bs := by
  have hs : (pieces x.toList).count .slot = as.length := balanced_iff.mp h
  have hp : ((s.fill x as).write t).params.length = s.params.length + (Arg.flatten as).length := by
    simp [write, params_fill h]
  rw [fill_eq_append, ht.pieces_append, fillPieces_append hs, fillPieces_chars]
  rw [fill_eq_append ((s.fill x as).write t), hp]
  simp [append, write, fill, Token.ofText, Nat.add_assoc]

theorem Balanced.separated {x y t : String} {as bs : List (Arg V)} (hx : Balanced x as)
    (hy : Balanced y bs) (ht : Separator t) : Balanced (x ++ t ++ y) (as ++ bs) := by
  rw [balanced_iff] at *
  rw [ht.slots_append, hx, hy, List.length_append]

/-- Text put around a balanced template asks for no argument. -/
theorem Balanced.enclosed {x o c : String} {as : List (Arg V)} (h : Balanced x as)
    (ho : Separator o) (hc : Separator c) : Balanced (o ++ x ++ c) as := by
  have hb : Balanced "" ([] : List (Arg V)) := rfl
  simpa using (hb.separated h ho).separated hb hc

theorem fill_enclosed {x o c : String} {as : List (Arg V)} (h : Balanced x as) (ho : Separator o)
    (hc : Separator c) (s : Statement V) :
    s.fill (o ++ x ++ c) as = ((s.write o).fill x as).write c := by
  have hb : Balanced "" ([] : List (Arg V)) := rfl
  have hx : s.fill (o ++ x) as = (s.write o).fill x as := by
    simpa using fill_separated hb ho s x as
  have hox : Balanced (o ++ x) as := by simpa using hb.separated h ho
  have hs := fill_separated hox hc s "" []
  rwa [String.append_empty, List.append_nil, fill_blank, hx] at hs

end RowQuery.Statement
