import RowQuery.Proofs.Branches
import RowQuery.Proofs.Words

namespace RowQuery.Filter

variable {V W : Type}

/-- A condition as it is read from a text: a text of its own, or a group of further parts. -/
inductive Part where
  | leaf (join : Join) (sql : String)
  | group (join : Join) (parts : List Part)

mutual

/-- One part after a given join. A group is read without its parentheses. -/
def readPart (join : Join) (ws : List Word) : Part :=
  if _h : ws.head? = some ['('] then .group join (readParts .and ws.tail.dropLast)
  else .leaf join (unwords ws)
termination_by (ws.length, 0)
decreasing_by
  obtain ⟨w, rest, rfl⟩ : ∃ w rest, ws = w :: rest :=
    List.exists_cons_of_ne_nil (fun he => by simp [he] at _h)
  simp only [List.tail_cons, List.length_dropLast, List.length_cons, Prod.lex_def]
  omega

/-- The parts between the joins outside of parentheses. The first one follows a given join. -/
def readParts (join : Join) (ws : List Word) : List Part :=
  if ws = [[]] then []
  else
    readPart join (cut 0 ws).1 ::
      match _h : (cut 0 ws).2 with
      | none => []
      | some (next, rest) => readParts next rest
termination_by (ws.length, 1)
decreasing_by
  · have := length_cut 0 ws
    omega
  · have := length_rest _h
    omega

end

def outlineOf (text : String) : List Part := readParts .and (words text)

/-- A text taken apart by a reader to whom `and` binds tighter than `or`: first at every `or`
outside of parentheses, and then at every `and`. -/
def alternativesOf (text : String) : List (List String) :=
  (split .or 0 (words text)).map (fun ws => (split .and 0 ws).map unwords)

theorem words_ne_blank {text : String} (h : text ≠ "") : words text ≠ [[]] := by
  intro hw
  apply h
  rw [← unwords_words text, hw]
  rfl

theorem readParts_sealed {ws : List Word} (h : Sealed ws) (hne : ws ≠ [[]]) (j : Join) :
    readParts j ws = [readPart j ws] := by
  rw [readParts, if_neg hne, h.cut]

theorem readParts_join {ws : List Word} (h : Sealed ws) (j next : Join) (rest : List Word) :
    readParts j (ws ++ next.word.toList :: rest) = readPart j ws :: readParts next rest := by
  have hne : ws ++ next.word.toList :: rest ≠ [[]] := by
    intro he
    have hw : next.word.toList ∈ [([] : Word)] := he ▸ by simp
    cases next <;> simp [Join.word] at hw
  rw [readParts, if_neg hne, h.cut_join]

theorem readPart_leaf {ws : List Word} (h : ws.head? ≠ some ['(']) (j : Join) :
    readPart j ws = .leaf j (unwords ws) := by
  rw [readPart, dif_neg h]

theorem readPart_group (ws : List Word) (j : Join) :
    readPart j (['('] :: (ws ++ [[')']])) = .group j (readParts .and ws) := by
  have hh : (['('] :: (ws ++ [[')']])).head? = some ['('] := rfl
  rw [readPart, dif_pos hh, List.tail_cons, List.dropLast_concat]

/-- A text that cannot be taken for the structure around it: its parentheses are closed, it does not
begin like a group, and it has no join outside of its parentheses. -/
structure Plain (text : String) : Prop where
  ne_empty : text ≠ ""
  level : rise text.toList = 0
  nested : ∀ p, p <+: text.toList → 0 ≤ rise p
  opening : ¬"( ".toList <+: text.toList
  joinless : Joinless 0 (words text)

instance (text : String) : Decidable (Plain text) :=
  decidable_of_iff (text ≠ "" ∧ rise text.toList = 0 ∧ (∀ p ∈ text.toList.inits, 0 ≤ rise p) ∧
      ¬"( ".toList <+: text.toList ∧ (cut 0 (words text)).2.isNone) (by
    simp only [List.mem_inits, Option.isNone_iff_eq_none]
    constructor
    · rintro ⟨hne, hl, hn, ho, hc⟩
      exact ⟨hne, hl, hn, ho, joinless_of_cut hc⟩
    · rintro ⟨hne, hl, hn, ho, hj⟩
      refine ⟨hne, hl, hn, ho, ?_⟩
      have hc := cut_append hj []
      rw [List.append_nil] at hc
      rw [hc]
      rfl)

theorem Plain.sealed {text : String} (h : Plain text) : Sealed (words text) := by
  refine ⟨⟨by rw [rise_words, h.level], fun p hp => ?_⟩, h.joinless⟩
  have ht := intercalate_prefix hp
  rw [words, List.intercalate_splitOn] at ht
  rw [← rise_intercalate]
  exact h.nested _ ht

/-- The first word of a plain text does not open a group. -/
theorem Plain.head_words {text : String} (h : Plain text) : (words text).head? ≠ some ['('] := by
  intro hw
  obtain ⟨w, ws, hws⟩ := List.exists_cons_of_ne_nil (words_ne_nil text)
  rw [hws] at hw
  obtain rfl : w = ['('] := Option.some.inj hw
  have ht : text.toList = [' '].intercalate (['('] :: ws) := by
    rw [← hws, words, List.intercalate_splitOn]
  cases ws with
  | nil =>
    have hr := h.level
    rw [ht] at hr
    cases hr
  | cons v ws =>
    rw [List.intercalate_cons_cons] at ht
    exact h.opening ⟨_, ht.symm⟩

namespace Branch

/-- Every leaf has a plain text. -/
inductive Plain : Branch V → Prop where
  | leaf (join : Join) {sql : String} (args : List (Arg V)) (h : Filter.Plain sql) :
    Plain (.leaf join sql args)
  | group (join : Join) {branches : List (Branch V)} (h : ∀ b ∈ branches, Plain b) :
    Plain (.group join branches)

def leading : List (Branch V) → Join
  | [] => .and
  | b :: _ => b.join

mutual

/-- The structure of a branch after a given join, without its arguments. -/
def part (join : Join) : Branch V → Part
  | .leaf _ sql _ => .leaf join sql
  | .group _ branches => .group join (outline .and branches)

/-- The structure of branches. A given join stands for that of the first one, which is not
written. -/
def outline (join : Join) : List (Branch V) → List Part
  | [] => []
  | b :: bs => b.part join :: outline (leading bs) bs

end

/-- The branches between one `or` and the next. -/
def alternatives : List (Branch V) → List (List (Branch V))
  | [] => []
  | [b] => [[b]]
  | b :: c :: bs =>
    match c.join with
    | .and => (alternatives (c :: bs)).modifyHead (b :: ·)
    | .or => [b] :: alternatives (c :: bs)

/-- A branch that is read back from its text. -/
structure Readable (b : Branch V) : Prop where
  ne_empty : b.clause.sql ≠ ""
  isSealed : Sealed (words b.clause.sql)
  readPart_eq : ∀ j, readPart j (words b.clause.sql) = b.part j

theorem joined_singleton (b : Branch V) : joined (clauses [b]) = b.clause.sql := by
  simp [clauses, joined]

theorem words_joined (b c : Branch V) (bs : List (Branch V)) :
    words (joined (clauses (b :: c :: bs))) =
      words b.clause.sql ++ c.join.word.toList :: words (joined (clauses (c :: bs))) := by
  rw [clauses, clauses, joined_cons_cons, words_join, join_clause]

theorem closed_joined {bs : List (Branch V)} (h : ∀ b ∈ bs, b.Readable) :
    Closed (words (joined (clauses bs))) := by
  induction bs with
  | nil => exact closed_blank
  | cons b bs ih =>
    have hb : Closed (words b.clause.sql) := (h b (by simp)).isSealed.toClosed
    cases bs with
    | nil => rwa [joined_singleton]
    | cons c bs =>
      rw [words_joined]
      exact hb.append ((closed_join c.join).append (ih fun d hd => h d (by simp [hd])))

theorem readParts_joined {bs : List (Branch V)} (h : ∀ b ∈ bs, b.Readable) (j : Join) :
    readParts j (words (joined (clauses bs))) = outline j bs := by
  induction bs generalizing j with
  | nil =>
    have hw : words (joined (clauses ([] : List (Branch V)))) = [[]] := rfl
    rw [hw, readParts, if_pos rfl]
    rfl
  | cons b bs ih =>
    have hb := h b (by simp)
    cases bs with
    | nil =>
      rw [joined_singleton, readParts_sealed hb.isSealed (words_ne_blank hb.ne_empty),
        hb.readPart_eq]
      rfl
    | cons c bs =>
      rw [words_joined, readParts_join hb.isSealed, hb.readPart_eq,
        ih fun d hd => h d (by simp [hd])]
      rfl

theorem Plain.readable {b : Branch V} (h : b.Plain) : b.Readable := by
  induction h with
  | leaf join args h =>
    refine ⟨h.ne_empty, h.sealed, fun j => ?_⟩
    rw [clause, readPart_leaf h.head_words, unwords_words]
    rfl
  | @group join bs h ih =>
    have hw : words (Branch.group join bs).clause.sql =
        ['('] :: (words (joined (clauses bs)) ++ [[')']]) := words_group _
    refine ⟨by simp [clause, asClause, Filter.group], ?_, fun j => ?_⟩
    · rw [hw]
      exact (closed_joined ih).group
    · rw [hw, readPart_group, readParts_joined ih]
      rfl

/-- The words of a level, taken apart at `or` and then at `and`, are those of its alternatives. -/
theorem split_joined {bs : List (Branch V)} (h : ∀ b ∈ bs, b.Readable) (hne : bs ≠ []) :
    (split .or 0 (words (joined (clauses bs)))).map (split .and 0) =
      (alternatives bs).map (List.map fun b => words b.clause.sql) := by
  induction bs with
  | nil => exact absurd rfl hne
  | cons b bs ih =>
    have hb := (h b (by simp)).isSealed
    cases bs with
    | nil => rw [joined_singleton, hb.split, List.map_singleton, hb.split]; rfl
    | cons c bs =>
      have hc := ih (fun d hd => h d (by simp [hd])) (by simp)
      rw [words_joined, alternatives]
      cases c.join with
      | or => rw [hb.split_join, List.map_cons, hb.split, hc]; rfl
      | and =>
        have hl : ∀ ws, split .and 0 (words b.clause.sql ++ Join.and.word.toList :: ws) =
            words b.clause.sql :: split .and 0 ws := hb.split_join .and
        have hr : ∀ ds : List (Branch V), (b :: ds).map (fun d => words d.clause.sql) =
            words b.clause.sql :: ds.map (fun d => words d.clause.sql) := fun _ => rfl
        rw [hb.split_other .or _ (by decide), map_modifyHead hl, hc, map_modifyHead hr]

end Branch

theorem outlineOf_predicate {r : Recipe V} (h : ∀ b ∈ r.branches, b.Plain) :
    outlineOf r.build.predicate = Branch.outline .and r.branches := by
  rw [outlineOf, predicate, Recipe.clauses_build]
  exact Branch.readParts_joined (fun b hb => (h b hb).readable) .and

theorem alternativesOf_predicate {r : Recipe V} (h : ∀ b ∈ r.branches, b.Plain)
    (hne : r.branches ≠ []) :
    alternativesOf r.build.predicate =
      (Branch.alternatives r.branches).map (List.map fun b => b.clause.sql) := by
  have hs := Branch.split_joined (fun b hb => (h b hb).readable) hne
  have hm := congrArg (List.map (List.map unwords)) hs
  simp only [List.map_map, Function.comp_def, unwords_words] at hm
  rw [alternativesOf, predicate, Recipe.clauses_build]
  exact hm

/-- The condition of a filter has one structure only. Where all single conditions are plain, it is
read back from the text alone, group by group and join by join; a reader to whom `and` binds tighter
than `or` finds the alternatives that were put together; and two filters with the same text were put
together in the same way. -/
theorem predicate_unambiguous (r : Recipe V) (h : ∀ b ∈ r.branches, b.Plain) :
    outlineOf r.build.predicate = Branch.outline .and r.branches ∧
    (r.branches ≠ [] → alternativesOf r.build.predicate =
      (Branch.alternatives r.branches).map (List.map fun b => b.clause.sql)) ∧
    ∀ r' : Recipe W, (∀ b ∈ r'.branches, b.Plain) → r'.build.predicate = r.build.predicate →
      Branch.outline .and r'.branches = Branch.outline .and r.branches := by
  have hr := outlineOf_predicate h
  refine ⟨hr, alternativesOf_predicate h, fun r' h' hp => ?_⟩
  rw [← outlineOf_predicate h', hp, hr]

/-- Two alternatives; the words of a join stand inside of the parentheses of a condition. -/
def eitherWay : Recipe Nat :=
  .step (.step .blank true
    (.orGroup (.step (.step .blank true (.expr "f( and ) = ?" [.scalar 1])) true
      (.compare "kind" .equal 7)))) true
    (.orGroup (.step .blank true (.isInList "id" [1, 2])))

/-- The same alternatives as a list. -/
def eitherList : Recipe Bool :=
  .either [
    .step (.step .blank true (.expr "f( and ) = ?" [])) true (.compare "kind" .equal true),
    .step .blank true (.isInList "id" [true, false, true])]

theorem predicate_unambiguous_alternatives :
    (∀ b ∈ eitherWay.branches, b.Plain) ∧ eitherWay.branches ≠ [] ∧
    (∀ b ∈ eitherList.branches, b.Plain) ∧
    eitherList.build.predicate = eitherWay.build.predicate ∧
    outlineOf "( f( and ) = ? and kind = ? ) or ( id in ? )" =
      [.group .and [.leaf .and "f( and ) = ?", .leaf .and "kind = ?"],
        .group .or [.leaf .and "id in ?"]] ∧
    alternativesOf "( f( and ) = ? and kind = ? ) or ( id in ? )" =
      [["( f( and ) = ? and kind = ? )"], ["( id in ? )"]] ∧
    Branch.outline .and eitherList.branches = Branch.outline .and eitherWay.branches := by
  have hf : Plain "f( and ) = ?" := by decide
  have hk : Plain "kind = ?" := by decide
  have hi : Plain "id in ?" := by decide
  have hb : ∀ (U : Type) (as bs cs : List (Arg U)),
      ∀ b ∈ [Branch.group .or [.leaf .and "f( and ) = ?" as, .leaf .and "kind = ?" bs],
        .group .or [.leaf .and "id in ?" cs]], b.Plain := by
    intro U as bs cs b hb
    rcases List.mem_pair.mp hb with rfl | rfl
    · exact .group .or (by simp [Branch.Plain.leaf, hf, hk])
    · exact .group .or (by simp [Branch.Plain.leaf, hi])
  have hw : ∀ b ∈ eitherWay.branches, b.Plain :=
    hb Nat [.scalar 1] [.scalar 7] [.list [1, 2]]
  have hl : ∀ b ∈ eitherList.branches, b.Plain :=
    hb Bool [] [.scalar true] [.list [true, false, true]]
  have hp : eitherList.build.predicate = eitherWay.build.predicate := by decide
  have hne : eitherWay.branches ≠ [] := List.cons_ne_nil _ _
  obtain ⟨ho, ha, hu⟩ := predicate_unambiguous eitherWay hw
  exact ⟨hw, hne, hl, hp, ho, ha hne, hu eitherList hl hp⟩

end RowQuery.Filter
