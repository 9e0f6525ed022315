import Mathlib.Data.List.TakeWhile
import RowQuery.Proofs.Texts

namespace RowQuery.Statement

/-- The number after every dollar sign: the digits that follow it, read in base ten. -/
def numbers : List Char → List Nat
  | [] => []
  | c :: cs =>
    if c = '$' then Nat.ofDigitChars 10 (cs.takeWhile Char.isDigit) 0 :: numbers cs else numbers cs

/-- A text that no number before it runs into. -/
def Apart (cs : List Char) : Prop := ∀ c ∈ cs.head?, c.isDigit = false

instance : (cs : List Char) → Decidable (Apart cs)
  | [] => isTrue (by simp [Apart])
  | c :: _ => decidable_of_iff (c.isDigit = false) (by simp [Apart])

theorem apart_cons {c : Char} (h : c.isDigit = false) (cs : List Char) : Apart (c :: cs) := by
  intro d hd
  obtain rfl : c = d := by simpa using hd
  exact h

theorem apart_append {t : List Char} (h : Apart t) (hne : t ≠ []) (x : List Char) :
    Apart (t ++ x) := by
  obtain ⟨c, cs, rfl⟩ := List.exists_cons_of_ne_nil hne
  exact apart_cons (h c rfl) _

theorem takeWhile_apart (x : List Char) {y : List Char} (hy : Apart y) :
    (x ++ y).takeWhile Char.isDigit = x.takeWhile Char.isDigit := by
  have hn : y.takeWhile Char.isDigit = [] := by
    cases y with
    | nil => rfl
    | cons c cs => simp [hy c rfl]
  rw [List.takeWhile_append, hn, List.append_nil]
  split
  · next h => exact (List.takeWhile_sublist _).eq_of_length h |>.symm
  · rfl

/-- Numbers are read on either side of a boundary that no number runs over. -/
theorem numbers_append (x : List Char) {y : List Char} (hy : Apart y) :
    numbers (x ++ y) = numbers x ++ numbers y := by
  induction x with
  | nil => rfl
  | cons c x ih =>
    rw [List.cons_append, numbers, numbers, takeWhile_apart x hy, ih]
    split <;> rfl

theorem numbers_plain_append {t : List Char} (h : '$' ∉ t) (x : List Char) :
    numbers (t ++ x) = numbers x := by
  induction t with
  | nil => rfl
  | cons c t ih =>
    obtain ⟨hc, ht⟩ := List.ne_and_not_mem_of_not_mem_cons h
    rw [List.cons_append, numbers, if_neg (Ne.symm hc), ih ht]

theorem numbers_plain {t : List Char} (h : '$' ∉ t) : numbers t = [] := by
  simpa [numbers] using numbers_plain_append h []

theorem dollar_notMem_toDigits (n : Nat) : '$' ∉ Nat.toDigits 10 n := by
  intro h
  have hd : Char.isDigit '$' := Nat.isDigit_of_mem_toDigits (by decide) (by decide) h
  simp at hd

/-- A number that is written is read back. -/
theorem numbers_param (n : Nat) : numbers (Token.param n).chars = [n] := by
  have ht : (Nat.toDigits 10 n).takeWhile Char.isDigit = Nat.toDigits 10 n :=
    List.takeWhile_eq_self_iff.mpr fun c hc =>
      Nat.isDigit_of_mem_toDigits (by decide) (by decide) hc
  rw [Token.chars, numbers, if_pos rfl, ht, Nat.ofDigitChars_ten_toDigits,
    numbers_plain (dollar_notMem_toDigits n)]

theorem numbers_listing (ns : List Nat) :
    numbers ((Token.listing ns).flatMap Token.chars) = ns := by
  induction ns with
  | nil => rfl
  | cons n ns ih =>
    cases ns with
    | nil => simpa [Token.listing] using numbers_param n
    | cons m ns =>
      have ha : Apart (", ".toList ++ (Token.listing (m :: ns)).flatMap Token.chars) :=
        apart_append (apart_cons (by decide) _) (by decide) _
      change numbers ((.param n :: (Token.ofText ", " ++ Token.listing (m :: ns))).flatMap
        Token.chars) = _
      rw [List.flatMap_cons, List.flatMap_append, chars_ofText, numbers_append _ ha,
        numbers_param, numbers_plain_append (by decide), ih]
      rfl

/-- The numbers of an argument are those of its values. -/
theorem numbers_ofArg {V : Type} (bound : Nat) (a : Arg V) :
    numbers ((Token.ofArg bound a).flatMap Token.chars) = a.numbers bound := by
  cases a with
  | scalar v => simpa [Token.ofArg, Arg.numbers, Arg.size] using numbers_param (bound + 1)
  | list vs =>
    cases vs with
    | nil =>
      rw [Token.ofArg, chars_ofText, numbers_plain (by decide)]
      rfl
    | cons v vs =>
      have ht : (Token.ofArg bound (Arg.list (v :: vs))).flatMap Token.chars =
          ['('] ++ ((Token.listing ((Arg.list (v :: vs)).numbers bound)).flatMap Token.chars ++
            [')']) := by
        simp [Token.ofArg, Token.chars]
      have hc : Apart [')'] := apart_cons (by decide) []
      have hn : numbers [')'] = [] := numbers_plain (by decide)
      rw [ht, numbers_plain_append (by decide), numbers_append _ hc, numbers_listing, hn,
        List.append_nil]

end RowQuery.Statement
