import Mathlib.Data.List.Infix
import RowQuery.Filter.Conditions

namespace RowQuery.Filter

/-- What stands between two blanks of a text. -/
abbrev Word := List Char

def words (text : String) : List Word := text.toList.splitOn ' '

def unwords (ws : List Word) : String := String.ofList ([' '].intercalate ws)

theorem unwords_words (text : String) : unwords (words text) = text := by
  rw [unwords, words, List.intercalate_splitOn, String.ofList_toList]

theorem words_ne_nil (text : String) : words text ≠ [] := List.splitOn_ne_nil ' ' text.toList

theorem words_append_blank (a b : String) : words (a ++ " " ++ b) = words a ++ words b := by
  have hb : (a ++ " " ++ b).toList = a.toList ++ ' ' :: b.toList := by simp
  rw [words, hb, List.splitOn_eq_splitOnP, List.splitOnP_append_cons _ _ rfl,
    ← List.splitOn_eq_splitOnP, ← List.splitOn_eq_splitOnP, words, words]

/-- Between two texts a join is a word of its own. -/
theorem words_join (a : String) (j : Join) (b : String) :
    words (a ++ j.separator ++ b) = words a ++ j.word.toList :: words b := by
  have hj : j.separator = " " ++ j.word ++ " " := by
    cases j <;> rfl
  have hw : words j.word = [j.word.toList] := by
    cases j <;> rfl
  have hs : a ++ j.separator ++ b = a ++ " " ++ (j.word ++ " " ++ b) := by
    simp only [hj, String.append_assoc]
  rw [hs, words_append_blank, words_append_blank, hw, List.singleton_append]

theorem words_group (text : String) : words (group text) = ['('] :: (words text ++ [[')']]) := by
  have hg : group text = "(" ++ " " ++ (text ++ " " ++ ")") := by
    simp only [group, String.append_assoc]
    rfl
  rw [hg, words_append_blank, words_append_blank]
  rfl

theorem word_injective {j k : Join} (h : j.word.toList = k.word.toList) : j = k := by
  cases j <;> cases k <;> simp [Join.word] at h ⊢

/-- How many parentheses a text opens and does not close. -/
def rise (cs : List Char) : Int := cs.count '(' - cs.count ')'

@[simp] theorem rise_nil : rise [] = 0 := rfl

@[simp] theorem rise_append (a b : List Char) : rise (a ++ b) = rise a + rise b := by
  simp only [rise, List.count_append]
  omega

@[simp] theorem rise_word (j : Join) : rise j.word.toList = 0 := by
  cases j <;> rfl

theorem rise_flatten_cons (w : Word) (ws : List Word) :
    rise (w :: ws).flatten = rise w + rise ws.flatten := by
  rw [List.flatten_cons, rise_append]

theorem rise_intercalate (ws : List Word) : rise ([' '].intercalate ws) = rise ws.flatten := by
  induction ws with
  | nil => rfl
  | cons w ws ih =>
    cases ws with
    | nil => simp
    | cons v ws =>
      have hb : rise [' '] = 0 := rfl
      rw [List.intercalate_cons_cons, rise_append, rise_append, ih, hb, Int.add_zero,
        rise_flatten_cons w]

theorem rise_words (text : String) : rise (words text).flatten = rise text.toList := by
  rw [← rise_intercalate, words, List.intercalate_splitOn]

theorem intercalate_prefix {p ws : List Word} (h : p <+: ws) :
    [' '].intercalate p <+: [' '].intercalate ws := by
  induction ws generalizing p with
  | nil => rw [List.prefix_nil.mp h]
  | cons w ws ih =>
    rcases List.prefix_cons_iff.mp h with rfl | ⟨p, rfl, hp⟩
    · exact List.nil_prefix
    · cases p with
      | nil =>
        cases ws with
        | nil => exact List.prefix_rfl
        | cons v ws =>
          rw [List.intercalate_cons_cons, List.append_assoc, List.intercalate_singleton]
          exact List.prefix_append w _
      | cons u p =>
        obtain ⟨v, vs, rfl⟩ : ∃ v vs, ws = v :: vs :=
          List.exists_cons_of_ne_nil (fun he => by simp [he] at hp)
        rw [List.intercalate_cons_cons, List.intercalate_cons_cons]
        exact (List.prefix_append_right_inj _).mpr (ih hp)

/-- No word that stands outside of parentheses is a join. Before the first word, `depth`
parentheses are open. -/
def Joinless (depth : Int) (ws : List Word) : Prop :=
  ∀ p w s, ws = p ++ w :: s → depth + rise p.flatten = 0 → ∀ j : Join, w ≠ j.word.toList

theorem Joinless.head {depth : Int} {w : Word} {ws : List Word} (h : Joinless depth (w :: ws))
    (j : Join) : ¬(depth = 0 ∧ w = j.word.toList) := by
  rintro ⟨hd, hw⟩
  exact h [] w ws rfl (by simpa using hd) j hw

theorem Joinless.tail {depth : Int} {w : Word} {ws : List Word} (h : Joinless depth (w :: ws)) :
    Joinless (depth + rise w) ws := by
  intro p v s hs hd
  refine h (w :: p) v s (by rw [hs, List.cons_append]) ?_
  rw [rise_flatten_cons]
  omega

/-- Words that close every parenthesis they open, and none before it is opened. -/
structure Closed (ws : List Word) : Prop where
  level : rise ws.flatten = 0
  nested : ∀ p, p <+: ws → 0 ≤ rise p.flatten

/-- Closed words without a join outside of their parentheses. -/
structure Sealed (ws : List Word) : Prop extends Closed ws where
  joinless : Joinless 0 ws

theorem Closed.append {a b : List Word} (ha : Closed a) (hb : Closed b) : Closed (a ++ b) := by
  refine ⟨?_, fun p hp => ?_⟩
  · rw [List.flatten_append, rise_append, ha.level, hb.level, Int.add_zero]
  · obtain ⟨s, hs⟩ := hp
    rcases List.append_eq_append_iff.mp hs with ⟨q, rfl, -⟩ | ⟨q, rfl, hq⟩
    · exact ha.nested p (List.prefix_append p q)
    · rw [List.flatten_append, rise_append, ha.level, Int.zero_add]
      exact hb.nested q ⟨s, hq.symm⟩

theorem closed_blank : Closed [[]] := by
  refine ⟨rfl, fun p hp => ?_⟩
  rcases List.prefix_cons_iff.mp hp with rfl | ⟨q, rfl, hq⟩
  · exact Int.le_refl 0
  · rw [List.prefix_nil.mp hq]
    exact Int.le_refl 0

theorem closed_join (j : Join) : Closed [j.word.toList] := by
  refine ⟨by simp, fun p hp => ?_⟩
  rcases List.prefix_cons_iff.mp hp with rfl | ⟨q, rfl, hq⟩
  · exact Int.le_refl 0
  · rw [List.prefix_nil.mp hq]
    simp

/-- Between the parentheses of a group no word is outside of them. -/
theorem Closed.group {ws : List Word} (h : Closed ws) : Sealed (['('] :: (ws ++ [[')']])) := by
  have ho : ∀ p : List Word, rise (['('] :: p).flatten = 1 + rise p.flatten := fun p =>
    rise_flatten_cons ['('] p
  have hc : rise (ws ++ [[')']]).flatten = -1 := by
    rw [List.flatten_append, rise_append, h.level]
    rfl
  have hn : ∀ p, p <+: ws ++ [[')']] → p ≠ ws ++ [[')']] → 0 ≤ rise p.flatten := by
    intro p hp hne
    rcases List.prefix_concat_iff.mp hp with rfl | hp
    · exact absurd rfl hne
    · exact h.nested p hp
  refine ⟨⟨by rw [ho, hc]; rfl, fun p hp => ?_⟩, fun p w s hs hr j hw => ?_⟩
  · rcases List.prefix_cons_iff.mp hp with rfl | ⟨q, rfl, hq⟩
    · exact Int.le_refl 0
    · rw [ho]
      by_cases he : q = ws ++ [[')']]
      · rw [he, hc]
        decide
      · have := hn q hq he
        omega
  · cases p with
    | nil =>
      obtain rfl : ['('] = w := (List.cons.inj hs).1
      cases j <;> cases hw
    | cons v q =>
      obtain ⟨rfl, hq⟩ := List.cons.inj hs
      have hne : q ≠ ws ++ [[')']] := by
        intro he
        rw [he] at hq
        simp at hq
      have := hn q ⟨w :: s, hq.symm⟩ hne
      rw [ho] at hr
      omega

/-- The words before the first join outside of parentheses, and that join with the words after
it. -/
def cut (depth : Int) : List Word → List Word × Option (Join × List Word)
  | [] => ([], none)
  | w :: ws =>
    if depth = 0 ∧ w = Join.and.word.toList then ([], some (.and, ws))
    else if depth = 0 ∧ w = Join.or.word.toList then ([], some (.or, ws))
    else
      let rest := cut (depth + rise w) ws
      (w :: rest.1, rest.2)

theorem cut_word (j : Join) (ws : List Word) :
    cut 0 (j.word.toList :: ws) = ([], some (j, ws)) := by
  cases j <;> simp [cut, Join.word]

theorem length_cut (depth : Int) (ws : List Word) : (cut depth ws).1.length ≤ ws.length := by
  fun_induction cut depth ws with
  | case1 => exact Nat.le_refl 0
  | case2 => exact Nat.zero_le _
  | case3 => exact Nat.zero_le _
  | case4 depth w ws _ _ rest ih => exact Nat.succ_le_succ ih

theorem length_rest {depth : Int} {ws rest : List Word} {j : Join}
    (h : (cut depth ws).2 = some (j, rest)) : rest.length < ws.length := by
  fun_induction cut depth ws with
  | case1 => cases h
  | case2 =>
    cases h
    exact Nat.lt_succ_self _
  | case3 =>
    cases h
    exact Nat.lt_succ_self _
  | case4 depth w ws _ _ tail ih => exact Nat.lt_succ_of_lt (ih h)

theorem cut_append {ws : List Word} {depth : Int} (h : Joinless depth ws) (rest : List Word) :
    cut depth (ws ++ rest) =
      (ws ++ (cut (depth + rise ws.flatten) rest).1, (cut (depth + rise ws.flatten) rest).2) := by
  induction ws generalizing depth with
  | nil => simp
  | cons w ws ih =>
    rw [List.cons_append, cut, if_neg (h.head .and), if_neg (h.head .or), ih h.tail,
      rise_flatten_cons, Int.add_assoc]
    rfl

theorem joinless_of_cut {depth : Int} {ws : List Word} (h : (cut depth ws).2 = none) :
    Joinless depth ws := by
  intro p
  fun_induction cut depth ws generalizing p with
  | case1 =>
    intro w s hs
    simp at hs
  | case2 => cases h
  | case3 => cases h
  | case4 depth v vs hand hor rest ih =>
    intro w s hs hr j hw
    cases p with
    | nil =>
      obtain rfl : v = w := (List.cons.inj hs).1
      have hd : depth = 0 := by simpa using hr
      cases j with
      | and => exact hand ⟨hd, hw⟩
      | or => exact hor ⟨hd, hw⟩
    | cons u p =>
      obtain ⟨rfl, hp⟩ := List.cons.inj hs
      rw [rise_flatten_cons, ← Int.add_assoc] at hr
      exact ih h p w s hp hr j hw

theorem map_modifyHead {A B : Type} {f : A → A} {g : A → B} {f' : B → B}
    (h : ∀ a, g (f a) = f' (g a)) (as : List A) :
    (as.modifyHead f).map g = (as.map g).modifyHead f' := by
  cases as with
  | nil => rfl
  | cons a as => rw [List.modifyHead_cons, List.map_cons, List.map_cons, List.modifyHead_cons, h]

/-- The words between the joins of one kind outside of parentheses. -/
def split (join : Join) (depth : Int) : List Word → List (List Word)
  | [] => [[]]
  | w :: ws =>
    if depth = 0 ∧ w = join.word.toList then [] :: split join 0 ws
    else (split join (depth + rise w) ws).modifyHead (w :: ·)

theorem split_append {ws : List Word} {depth : Int} (h : Joinless depth ws) (join : Join)
    (rest : List Word) :
    split join depth (ws ++ rest) =
      (split join (depth + rise ws.flatten) rest).modifyHead (ws ++ ·) := by
  induction ws generalizing depth with
  | nil =>
    have hid : (fun x : List Word => [] ++ x) = id := rfl
    rw [List.nil_append, List.flatten_nil, rise_nil, Int.add_zero, hid, List.modifyHead_id, id]
  | cons w ws ih =>
    rw [List.cons_append, split, if_neg (h.head join), ih h.tail, List.modifyHead_modifyHead,
      rise_flatten_cons, Int.add_assoc]
    rfl

namespace Sealed

variable {ws : List Word} (h : Sealed ws) (join : Join) (rest : List Word)

include h

theorem cut : Filter.cut 0 ws = (ws, none) := by
  simpa [h.level, Filter.cut] using cut_append h.joinless []

theorem cut_join : Filter.cut 0 (ws ++ join.word.toList :: rest) = (ws, some (join, rest)) := by
  simpa [h.level, cut_word] using cut_append h.joinless (join.word.toList :: rest)

theorem split_append : Filter.split join 0 (ws ++ rest) =
    (Filter.split join 0 rest).modifyHead (ws ++ ·) := by
  simpa [h.level] using Filter.split_append h.joinless join rest

theorem split : Filter.split join 0 ws = [ws] := by
  simpa [Filter.split] using h.split_append join []

theorem split_join : Filter.split join 0 (ws ++ join.word.toList :: rest) =
    ws :: Filter.split join 0 rest := by
  rw [h.split_append, Filter.split, if_pos ⟨rfl, rfl⟩, List.modifyHead_cons, List.append_nil]

theorem split_other {other : Join} (hne : other ≠ join) :
    Filter.split join 0 (ws ++ other.word.toList :: rest) =
      (Filter.split join 0 rest).modifyHead (ws ++ other.word.toList :: ·) := by
  rw [h.split_append, Filter.split, if_neg (fun hd => hne (word_injective hd.2)), rise_word,
    Int.add_zero, List.modifyHead_modifyHead]
  rfl

end Sealed

end RowQuery.Filter
