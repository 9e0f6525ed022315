import Mathlib.Data.List.Induction
import Mathlib.Data.List.Sort
import RowQuery.SortedMap

namespace RowQuery

namespace KeyOrder

variable {K : Type} [KeyOrder K]

theorem ne_of_before {k l : K} (h : before k l = true) : k ≠ l := by
  rintro rfl
  rw [irrefl] at h
  cases h

theorem not_before_of_before {k l : K} (h : before k l = true) : ¬before l k = true := by
  intro hl
  exact ne_of_before (trans _ _ _ h hl) rfl

theorem before_textBytes {s t : String} (h : before s t = true) : textBytes s < textBytes t :=
  of_decide_eq_true h

end KeyOrder

namespace SortedMap

variable {K A : Type} [KeyOrder K]

theorem mem_place_iff {k : K} {a : A} {e : K × A} {es : List (K × A)}
    (h : es.Pairwise (fun p q => KeyOrder.before p.1 q.1 = true)) :
    e ∈ place k a es ↔ e = (k, a) ∨ e ∈ es ∧ e.1 ≠ k := by
  induction es with
  | nil => simp [place]
  | cons x rest ih =>
    obtain ⟨hx, hrest⟩ := List.pairwise_cons.mp h
    rw [place]
    by_cases hk : KeyOrder.before k x.1 = true
    · -- the new key comes first, so no entry has it yet
      have hn : ∀ y ∈ x :: rest, y.1 ≠ k := by
        intro y hy
        refine (KeyOrder.ne_of_before ?_).symm
        obtain rfl | hy := List.mem_cons.mp hy
        · exact hk
        · exact KeyOrder.trans _ _ _ hk (hx y hy)
      rw [if_pos hk, List.mem_cons]
      exact or_congr_right ⟨fun he => ⟨he, hn e he⟩, fun he => he.1⟩
    · rw [if_neg hk]
      by_cases hl : KeyOrder.before x.1 k = true
      · have hxk : x.1 ≠ k := KeyOrder.ne_of_before hl
        rw [if_pos hl, List.mem_cons, ih hrest, List.mem_cons]
        constructor
        · rintro (rfl | rfl | ⟨he, hn⟩)
          · exact .inr ⟨.inl rfl, hxk⟩
          · exact .inl rfl
          · exact .inr ⟨.inr he, hn⟩
        · rintro (rfl | ⟨rfl | he, hn⟩)
          · exact .inr (.inl rfl)
          · exact .inl rfl
          · exact .inr (.inr ⟨he, hn⟩)
      · have hxk : k = x.1 :=
          KeyOrder.eq_of_not_before k x.1 (by simpa using hk) (by simpa using hl)
        rw [if_neg hl, List.mem_cons, List.mem_cons]
        refine or_congr_right ⟨fun he => ⟨.inr he, ?_⟩, ?_⟩
        · rw [hxk]
          exact (KeyOrder.ne_of_before (hx e he)).symm
        · rintro ⟨rfl | he, hn⟩
          · exact absurd hxk.symm hn
          · exact he

theorem mem_insert {m : SortedMap K A} {k : K} {a : A} {e : K × A} :
    e ∈ (m.insert k a).entries ↔ e = (k, a) ∨ e ∈ m.entries ∧ e.1 ≠ k :=
  mem_place_iff m.sorted

theorem ofList_concat (es : List (K × A)) (e : K × A) :
    ofList (es ++ [e]) = (ofList es).insert e.1 e.2 := by
  rw [ofList, List.foldl_append]
  rfl

/-- A key holds what was written to it last. -/
theorem mem_ofList [DecidableEq K] {es : List (K × A)} {e : K × A} :
    e ∈ (ofList es).entries ↔ (es.filter (fun w => w.1 = e.1)).getLast? = some e := by
  induction es using List.reverseRecOn with
  | nil => simp [ofList, empty]
  | append_singleton es w ih =>
    rw [ofList_concat, mem_insert, List.filter_append]
    by_cases hw : w.1 = e.1
    · rw [List.filter_cons_of_pos (by simpa using hw), List.filter_nil, List.getLast?_concat,
        Option.some_inj]
      exact ⟨fun h => (h.resolve_right (fun h => h.2 hw.symm)).symm, fun h => .inl h.symm⟩
    · rw [List.filter_cons_of_neg (by simpa using hw), List.filter_nil, List.append_nil, ← ih]
      refine ⟨fun h => (h.resolve_left ?_).1, fun h => .inr ⟨h, Ne.symm hw⟩⟩
      rintro rfl
      exact hw rfl

theorem mem_keys_ofList [DecidableEq K] {es : List (K × A)} {k : K} :
    k ∈ (ofList es).keys ↔ ∃ a, (k, a) ∈ es := by
  constructor
  · intro hk
    obtain ⟨e, he, rfl⟩ := List.mem_map.mp hk
    exact ⟨e.2, (List.mem_filter.mp (List.mem_of_getLast? (mem_ofList.mp he))).1⟩
  · rintro ⟨a, ha⟩
    have hw : (k, a) ∈ es.filter (fun w => w.1 = k) := List.mem_filter.mpr ⟨ha, by simp⟩
    obtain ⟨e, he⟩ : ∃ e, (es.filter (fun w => w.1 = k)).getLast? = some e :=
      ⟨_, List.getLast?_eq_some_getLast (List.ne_nil_of_mem hw)⟩
    have hk : e.1 = k := by simpa using (List.mem_filter.mp (List.mem_of_getLast? he)).2
    refine List.mem_map.mpr ⟨e, mem_ofList.mpr ?_, hk⟩
    rw [hk, he]

theorem eq_of_mem_iff {m n : SortedMap K A} (h : ∀ e, e ∈ m.entries ↔ e ∈ n.entries) : m = n := by
  let before : K × A → K × A → Prop := fun p q => KeyOrder.before p.1 q.1 = true
  have : Std.Irrefl before := ⟨fun _ hp => KeyOrder.ne_of_before hp rfl⟩
  have : Std.Antisymm before := ⟨fun _ _ hp hq => absurd hq (KeyOrder.not_before_of_before hp)⟩
  exact ext (List.Pairwise.eq_of_mem_iff (r := before) m.sorted n.sorted h)

/-- Writes to different keys can be made in any order. -/
theorem ofList_congr [DecidableEq K] {es fs : List (K × A)}
    (h : ∀ k, es.filter (fun w => w.1 = k) = fs.filter (fun w => w.1 = k)) :
    ofList es = ofList fs :=
  eq_of_mem_iff (fun e => by rw [mem_ofList, mem_ofList, h])

end SortedMap

end RowQuery
