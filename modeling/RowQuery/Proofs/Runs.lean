import Mathlib.Data.List.SplitBy
import Mathlib.Data.Nat.Init
import RowQuery.Proofs.Filling
import RowQuery.Proofs.Texts

namespace RowQuery

variable {V : Type}

/-- The number of a value as text. -/
def Arg.numeral (n : Nat) : String := "$" ++ toString n

/-- An argument as text, where `bound` values come before it. -/
def Arg.written (bound : Nat) : Arg V → String
  | .scalar _ => numeral (bound + 1)
  | .list [] => "(NULL)"
  | .list (v :: vs) =>
    "(" ++ ", ".intercalate (((list (v :: vs)).numbers bound).map numeral) ++ ")"

namespace Statement

/-- Two question marks, or two other characters. -/
def alike (a b : Char) : Bool := decide (a = '?' ↔ b = '?')

/-- The maximal runs of question marks in a template and the texts between them, in their order. -/
def blocks (template : String) : List (List Char) := template.toList.splitBy alike

def IsRun (block : List Char) : Prop := block.head? = some '?'

instance (block : List Char) : Decidable (IsRun block) :=
  inferInstanceAs (Decidable (block.head? = some '?'))

/-- A run of question marks stands for half as many, with a slot after them if there is one too
many. Other text stands for itself. -/
def blockPieces (block : List Char) : List Piece :=
  if IsRun block then
    List.replicate (block.length / 2) (.char '?') ++ List.replicate (block.length % 2) .slot
  else block.map .char

/-- Blocks of one kind of character each, which cannot be longer than they are. -/
structure Alternating (bs : List (List Char)) : Prop where
  uniform : ∀ b ∈ bs, (∃ k, b = List.replicate (k + 1) '?') ∨ b ≠ [] ∧ '?' ∉ b
  apart : bs.IsChain (fun a b => ¬(IsRun a ↔ IsRun b))

theorem alike_iff {a b : Char} : alike a b = true ↔ (a = '?' ↔ b = '?') := decide_eq_true_iff

theorem alike_head {c : Char} {cs : List Char} (h : (c :: cs).IsChain (fun a b => alike a b)) :
    ∀ d ∈ cs, d = '?' ↔ c = '?' := by
  induction cs generalizing c with
  | nil => simp
  | cons d cs ih =>
    obtain ⟨hcd, hrest⟩ := List.isChain_cons_cons.mp h
    have hd : d = '?' ↔ c = '?' := (alike_iff.mp hcd).symm
    intro e he
    obtain rfl | he := List.mem_cons.mp he
    · exact hd
    · exact (ih hrest e he).trans hd

/-- A block is a run of question marks, or it has none. -/
theorem uniform_of_isChain {b : List Char} (hn : b ≠ [])
    (h : b.IsChain (fun a b => alike a b)) :
    (∃ k, b = List.replicate (k + 1) '?') ∨ b ≠ [] ∧ '?' ∉ b := by
  obtain ⟨c, cs, rfl⟩ := List.exists_cons_of_ne_nil hn
  have hc := alike_head h
  by_cases hq : c = '?'
  · refine .inl ⟨cs.length, ?_⟩
    rw [List.replicate_succ, hq, ← List.eq_replicate_of_mem fun d hd => (hc d hd).mpr hq]
  · refine .inr ⟨hn, fun hm => ?_⟩
    obtain rfl | hm := List.mem_cons.mp hm
    · exact hq rfl
    · exact hq ((hc _ hm).mp rfl)

theorem isRun_replicate (k : Nat) : IsRun (List.replicate (k + 1) '?') := rfl

theorem not_isRun {b : List Char} (h : '?' ∉ b) : ¬IsRun b := fun hb => h (List.mem_of_head? hb)

/-- In a block, the last character tells what the first one is. -/
theorem isRun_iff_getLast {b : List Char}
    (h : (∃ k, b = List.replicate (k + 1) '?') ∨ b ≠ [] ∧ '?' ∉ b) (hn : b ≠ []) :
    IsRun b ↔ b.getLast hn = '?' := by
  obtain ⟨k, rfl⟩ | ⟨-, hq⟩ := h
  · simp [isRun_replicate]
  · refine iff_of_false (not_isRun hq) (fun he => hq ?_)
    rw [← he]
    exact List.getLast_mem hn

theorem blocks_alternating (template : String) : Alternating (blocks template) := by
  have huniform : ∀ b ∈ blocks template,
      (∃ k, b = List.replicate (k + 1) '?') ∨ b ≠ [] ∧ '?' ∉ b := fun b hb =>
    uniform_of_isChain (List.ne_nil_of_mem_splitBy hb) (List.isChain_of_mem_splitBy hb)
  refine ⟨huniform, (List.isChain_getLast_head_splitBy alike template.toList).imp_of_mem_imp ?_⟩
  rintro a b ha - ⟨hna, hnb, h⟩
  have hb : IsRun b ↔ b.head hnb = '?' := by
    rw [IsRun, List.head?_eq_some_head hnb, Option.some_inj]
  rw [isRun_iff_getLast (huniform a ha) hna, hb, ← alike_iff, h]
  simp

theorem pieces_replicate (k : Nat) :
    pieces (List.replicate k '?') =
      List.replicate (k / 2) (.char '?') ++ List.replicate (k % 2) .slot := by
  induction k using Nat.twoStepInduction with
  | zero => rfl
  | one => rfl
  | more k ih _ =>
    have hd : (k + 2) / 2 = k / 2 + 1 := by omega
    have hm : (k + 2) % 2 = k % 2 := by omega
    rw [List.replicate_succ, List.replicate_succ, pieces, ih, hd, hm, List.replicate_succ,
      List.cons_append]

/-- The scanner works on each block on its own. -/
theorem pieces_flatten {bs : List (List Char)} (h : Alternating bs) :
    pieces bs.flatten = bs.flatMap blockPieces := by
  obtain ⟨huniform, hapart⟩ := h
  induction bs with
  | nil => rfl
  | cons b bs ih =>
    have hrest := ih (fun a ha => huniform a (List.mem_cons_of_mem b ha)) hapart.tail
    rw [List.flatten_cons, List.flatMap_cons, ← hrest]
    obtain ⟨k, rfl⟩ | ⟨-, hq⟩ := huniform b List.mem_cons_self
    · -- no question mark follows the run, so the scanner pairs only those of the run itself
      have hne : ∀ rest, bs.flatten ≠ '?' :: rest := by
        intro rest he
        cases bs with
        | nil => cases he
        | cons a as =>
          have hr : ¬IsRun a := fun ha =>
            (List.isChain_cons_cons.mp hapart).1 (iff_of_true (isRun_replicate k) ha)
          obtain ⟨m, rfl⟩ | ⟨hn, hq⟩ := huniform a (by simp)
          · exact hr (isRun_replicate m)
          · obtain ⟨c, cs, rfl⟩ := List.exists_cons_of_ne_nil hn
            exact hq (by rw [(List.cons.inj he).1]; exact List.mem_cons_self)
      rw [pieces_append _ hne, pieces_replicate, blockPieces, if_pos (isRun_replicate k),
        List.length_replicate]
    · rw [pieces_plain_append hq, blockPieces, if_neg (not_isRun hq)]

theorem pieces_template (template : String) :
    pieces template.toList = (blocks template).flatMap blockPieces := by
  rw [← pieces_flatten (blocks_alternating template), blocks, List.flatten_splitBy]

/-- A run of odd length asks for one argument. -/
def Asks (block : List Char) : Bool := IsRun block && block.length % 2 == 1

theorem count_blockPieces (b : List Char) :
    (blockPieces b).count .slot = if Asks b then 1 else 0 := by
  by_cases hb : IsRun b
  · obtain hm | hm := Nat.mod_two_eq_zero_or_one b.length
    · simp [blockPieces, Asks, hb, hm, List.count_replicate]
    · simp [blockPieces, Asks, hb, hm, List.count_replicate]
  · have hz : (b.map Piece.char).count .slot = 0 := by
      rw [List.count_eq_zero]
      simp
    simp [blockPieces, Asks, hb, hz]

theorem count_flatMap_blockPieces (bs : List (List Char)) :
    (bs.flatMap blockPieces).count .slot = bs.countP Asks := by
  induction bs with
  | nil => rfl
  | cons b bs ih =>
    rw [List.flatMap_cons, List.count_append, count_blockPieces, ih, List.countP_cons, Nat.add_comm]

theorem slots_eq_countP (template : String) : slots template = (blocks template).countP Asks := by
  rw [slots, pieces_template, count_flatMap_blockPieces]

/-- The text of a slot: its argument, numbered after all arguments before it, or a question mark if
there is no argument for it. -/
def slotText (bound : Nat) (args : List (Arg V)) (i : Nat) : String :=
  match args[i]? with
  | some a => a.written (bound + (Arg.flatten (args.take i)).length)
  | none => "?"

/-- Pieces as text, where the slots are counted from `i`. -/
def spell (slot : Nat → String) : Nat → List Piece → String
  | _, [] => ""
  | i, .char c :: ps => String.singleton c ++ spell slot i ps
  | i, .slot :: ps => slot i ++ spell slot (i + 1) ps

theorem chars_param (n : Nat) : (Token.param n).chars = (Arg.numeral n).toList := by
  rw [Arg.numeral, String.toList_append, Nat.toString_eq_repr, Nat.toList_repr]
  rfl

theorem chars_listing (ns : List Nat) :
    (Token.listing ns).flatMap Token.chars = (", ".intercalate (ns.map Arg.numeral)).toList := by
  induction ns with
  | nil => rfl
  | cons n ns ih =>
    cases ns with
    | nil =>
      rw [Token.listing, List.flatMap_singleton, chars_param, List.map_singleton,
        String.intercalate_singleton]
    | cons m ns =>
      have hn : (m :: ns).map Arg.numeral ≠ [] := by simp
      change (Token.param n).chars ++ (Token.ofText ", " ++ Token.listing (m :: ns)).flatMap
        Token.chars = _
      rw [List.flatMap_append, chars_ofText, ih, chars_param, List.map_cons (l := m :: ns),
        String.intercalate_cons_of_ne_nil hn, String.toList_append, String.toList_append,
        List.append_assoc]

theorem chars_ofArg (bound : Nat) (a : Arg V) :
    (Token.ofArg bound a).flatMap Token.chars = (a.written bound).toList := by
  cases a with
  | scalar v => rw [Token.ofArg, List.flatMap_singleton, chars_param, Arg.written]
  | list vs =>
    cases vs with
    | nil => exact chars_ofText "(NULL)"
    | cons v vs =>
      change Token.chars (.char '(') ++ List.flatMap Token.chars (_ ++ [.char ')']) = _
      rw [List.flatMap_append, chars_listing, Arg.written, String.toList_append,
        String.toList_append, List.append_assoc]
      rfl

theorem text_ofArg_append (bound : Nat) (a : Arg V) (q : Statement V) (params : List V) :
    (⟨Token.ofArg bound a ++ q.tokens, params, q.surplus⟩ : Statement V).text =
      a.written bound ++ q.text := by
  rw [← String.toList_inj, toList_text, chars, List.flatMap_append, chars_ofArg,
    String.toList_append, toList_text]
  rfl

theorem text_char_cons (c : Char) (q : Statement V) :
    ({ q with tokens := .char c :: q.tokens } : Statement V).text =
      String.singleton c ++ q.text := by
  rw [← String.toList_inj, toList_text, String.toList_append, toList_text]
  simp [chars, Token.chars]

/-- What is filled in from the slot of number `i` on. -/
theorem text_fillPieces (bound : Nat) (args : List (Arg V)) (ps : List Piece) (i : Nat) :
    (fillPieces (bound + (Arg.flatten (args.take i)).length) ps (args.drop i)).text =
      spell (slotText bound args) i ps := by
  induction ps generalizing i with
  | nil => rfl
  | cons p ps ih =>
    cases p with
    | char c => rw [fillPieces, text_char_cons, ih, spell]
    | slot =>
      by_cases hi : i < args.length
      · have hd : args.drop i = args[i] :: args.drop (i + 1) := List.drop_eq_getElem_cons hi
        have ht : bound + (Arg.flatten (args.take i)).length + args[i].size =
            bound + (Arg.flatten (args.take (i + 1))).length := by
          rw [List.take_succ_eq_append_getElem hi, Arg.flatten, Arg.flatten, List.flatMap_append,
            List.flatMap_singleton, List.length_append, Nat.add_assoc]
          rfl
        rw [hd, fillPieces, text_ofArg_append, ht, ih, spell, slotText, List.getElem?_eq_getElem hi]
      · have hd : args.drop i = [] := List.drop_eq_nil_of_le (by omega)
        have hd' : args.drop (i + 1) = [] := List.drop_eq_nil_of_le (by omega)
        have ht : args.take (i + 1) = args.take i := by
          rw [List.take_of_length_le (by omega), List.take_of_length_le (by omega)]
        have hs := ih (i + 1)
        rw [hd', ht] at hs
        rw [hd, fillPieces, text_char_cons, hs, spell, slotText, List.getElem?_eq_none (by omega)]
        rfl

/-- Every question mark twice. -/
def doubled (text : String) : String :=
  String.ofList (text.toList.flatMap (fun c => if c = '?' then ['?', '?'] else [c]))

theorem pieces_doubled (text : String) :
    pieces (doubled text).toList = text.toList.map .char := by
  rw [doubled, String.toList_ofList]
  induction text.toList with
  | nil => rfl
  | cons c cs ih =>
    by_cases hc : c = '?'
    · simp [hc, pieces, ih]
    · simp [hc, pieces_char, ih]

/-- A text with every question mark doubled is written as it is, and it takes no argument. -/
theorem fill_doubled (s : Statement V) (text : String) (args : List (Arg V)) :
    s.fill (doubled text) args = { s.write text with surplus := s.surplus + args.length } := by
  have hp := fillPieces_chars s.params.length text.toList [] args
  rw [List.append_nil] at hp
  rw [fill, pieces_doubled, hp]
  simp [append, fillPieces, write, Token.ofText]

/-- Of three question marks two are one literal one; a slot without an argument is one, too. -/
example : (empty.fill "a ??? b ? c ????" [.list [7, 8]] : Statement Nat).text =
    "a ?($1, $2) b ? c ??" := rfl

end Statement

end RowQuery
