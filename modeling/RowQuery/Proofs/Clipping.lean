import Mathlib.Data.String.Basic
import RowQuery.Settings

namespace RowQuery

namespace Text.Clip

open String (utf8Len)

/-- The longest start of a text that has at most `limit` bytes. A text is made of whole characters,
and so are its starts. -/
structure LongestStart (limit : Nat) (s p : String) : Prop where
  starts : p.toList <+: s.toList
  fits : p.utf8ByteSize ≤ limit
  longest : ∀ q : String, q.toList <+: s.toList → q.utf8ByteSize ≤ limit → q.toList <+: p.toList

/-- What a text is cut down to. -/
def kept (limit : Nat) (s : String) : String :=
  String.ofList (before s.toList (floorBoundary s.toList limit))

theorem utf8Len_toList (s : String) : utf8Len s.toList = s.utf8ByteSize := by
  rw [← String.utf8ByteSize_ofList, String.ofList_toList]

theorem utf8Len_mono {start cs : List Char} (h : start <+: cs) :
    utf8Len start ≤ utf8Len cs := by
  obtain ⟨rest, rfl⟩ := h
  rw [String.utf8Len_append]
  exact Nat.le_add_right _ _

/-- The boundaries of a text are the sizes of its starts. -/
theorem isBoundary_iff {cs : List Char} {n : Nat} :
    isBoundary cs n = true ↔ ∃ start, start <+: cs ∧ utf8Len start = n := by
  induction cs generalizing n with
  | nil =>
    cases n with
    | zero => exact ⟨fun _ => ⟨[], List.prefix_rfl, rfl⟩, fun _ => rfl⟩
    | succ n => simp [isBoundary]
  | cons c cs ih =>
    cases n with
    | zero => exact ⟨fun _ => ⟨[], List.nil_prefix, rfl⟩, fun _ => rfl⟩
    | succ n =>
      have hb : isBoundary (c :: cs) (n + 1) =
          (decide (c.utf8Size ≤ n + 1) && isBoundary cs (n + 1 - c.utf8Size)) := rfl
      rw [hb, Bool.and_eq_true, decide_eq_true_eq, ih]
      constructor
      · rintro ⟨hc, start, hs, hn⟩
        refine ⟨c :: start, List.cons_prefix_cons.mpr ⟨rfl, hs⟩, ?_⟩
        rw [String.utf8Len_cons, hn]
        omega
      · rintro ⟨start, hs, hn⟩
        cases start with
        | nil => simp at hn
        | cons d start =>
          obtain ⟨rfl, ht⟩ := List.cons_prefix_cons.mp hs
          rw [String.utf8Len_cons] at hn
          exact ⟨by omega, start, ht, by omega⟩

/-- The boundaries of a text are its valid positions, at which it can be sliced. -/
theorem isBoundary_iff_isValid (s : String) (n : Nat) :
    isBoundary s.toList n = true ↔ String.Pos.Raw.IsValid s ⟨n⟩ := by
  rw [isBoundary_iff, String.Pos.Raw.isValid_iff_exists_take_toList]
  constructor
  · rintro ⟨start, hs, hn⟩
    refine ⟨start.length, ?_⟩
    rw [← List.prefix_iff_eq_take.mp hs, String.utf8ByteSize_ofList, hn]
  · rintro ⟨i, hi⟩
    refine ⟨s.toList.take i, List.take_prefix i _, ?_⟩
    rw [← String.utf8ByteSize_ofList]
    exact hi.symm

/-- The backward search misses no boundary. -/
theorem le_floorBoundary {cs : List Char} {m n : Nat} (h : isBoundary cs m = true) (hm : m ≤ n) :
    m ≤ floorBoundary cs n := by
  induction n with
  | zero => exact hm
  | succ n ih =>
    rw [floorBoundary]
    by_cases hn : isBoundary cs (n + 1) = true
    · rw [if_pos hn]
      exact hm
    · rw [if_neg hn]
      obtain rfl | hlt := Nat.eq_or_lt_of_le hm
      · exact absurd h hn
      · exact ih (Nat.le_of_lt_succ hlt)

theorem before_isPrefix (cs : List Char) (n : Nat) : before cs n <+: cs := by
  induction cs generalizing n with
  | nil => exact List.prefix_rfl
  | cons c cs ih =>
    rw [before]
    by_cases hc : c.utf8Size ≤ n
    · rw [if_pos hc]
      exact List.cons_prefix_cons.mpr ⟨rfl, ih _⟩
    · rw [if_neg hc]
      exact List.nil_prefix

theorem utf8Len_before_le (cs : List Char) (n : Nat) : utf8Len (before cs n) ≤ n := by
  induction cs generalizing n with
  | nil => exact Nat.zero_le n
  | cons c cs ih =>
    rw [before]
    by_cases hc : c.utf8Size ≤ n
    · have ht := ih (n - c.utf8Size)
      rw [if_pos hc, String.utf8Len_cons]
      omega
    · rw [if_neg hc]
      exact Nat.zero_le n

theorem isPrefix_before {start cs : List Char} {n : Nat} (h : start <+: cs) (hn : utf8Len start ≤ n) :
    start <+: before cs n := by
  induction cs generalizing start n with
  | nil => exact h
  | cons c cs ih =>
    cases start with
    | nil => exact List.nil_prefix
    | cons d start =>
      obtain ⟨rfl, hs⟩ := List.cons_prefix_cons.mp h
      rw [String.utf8Len_cons] at hn
      rw [before, if_pos (by omega)]
      exact List.cons_prefix_cons.mpr ⟨rfl, ih hs (by omega)⟩

/-- The character that does not fit any more has at most four bytes. -/
theorem lt_utf8Len_before {cs : List Char} {n : Nat} (h : n < utf8Len cs) :
    n < utf8Len (before cs n) + 4 := by
  induction cs generalizing n with
  | nil => cases h
  | cons c cs ih =>
    rw [String.utf8Len_cons] at h
    have hc4 : c.utf8Size ≤ 4 := c.utf8Size_le_four
    rw [before]
    by_cases hc : c.utf8Size ≤ n
    · have ht := ih (n := n - c.utf8Size) (by omega)
      rw [if_pos hc, String.utf8Len_cons]
      omega
    · rw [if_neg hc]
      omega

/-- Up to a boundary, no byte is left out. -/
theorem utf8Len_before_of_isBoundary {cs : List Char} {n : Nat} (h : isBoundary cs n = true) :
    utf8Len (before cs n) = n := by
  obtain ⟨start, hs, rfl⟩ := isBoundary_iff.mp h
  exact Nat.le_antisymm (utf8Len_before_le cs _)
    (utf8Len_mono (isPrefix_before hs (Nat.le_refl _)))

theorem utf8ByteSize_kept (limit : Nat) (s : String) :
    (kept limit s).utf8ByteSize = floorBoundary s.toList limit := by
  rw [kept, String.utf8ByteSize_ofList]
  exact utf8Len_before_of_isBoundary (isBoundary_floorBoundary s.toList limit)

theorem longestStart_kept (limit : Nat) (s : String) : LongestStart limit s (kept limit s) := by
  refine ⟨?_, ?_, fun q hq hs => ?_⟩
  · rw [kept, String.toList_ofList]
    exact before_isPrefix s.toList _
  · rw [utf8ByteSize_kept]
    exact floorBoundary_le s.toList limit
  · rw [← utf8Len_toList] at hs
    rw [kept, String.toList_ofList]
    exact isPrefix_before hq (le_floorBoundary (isBoundary_iff.mpr ⟨_, hq, rfl⟩) hs)

/-- A larger limit keeps more. -/
theorem kept_mono {small large : Nat} (h : small ≤ large) (s : String) :
    (kept small s).toList <+: (kept large s).toList := by
  have hk : LongestStart small s (kept small s) := longestStart_kept small s
  exact (longestStart_kept large s).longest _ hk.starts (Nat.le_trans hk.fits h)

/-- The backward search ends after at most three steps, at the first boundary that it meets. -/
theorem searched_back {s : String} {limit : Nat} (h : limit < s.utf8ByteSize) :
    ∃ steps ≤ 3, floorBoundary s.toList limit + steps = limit ∧
      ∀ k < steps, isBoundary s.toList (limit - k) = false := by
  have hle : floorBoundary s.toList limit ≤ limit := floorBoundary_le s.toList limit
  refine ⟨limit - floorBoundary s.toList limit, ?_, by omega, fun k hk => ?_⟩
  · -- what the limit alone keeps is what the boundary before it keeps
    rw [← utf8Len_toList] at h
    have hnear : limit < utf8Len (before s.toList limit) + 4 := lt_utf8Len_before h
    have hkept : utf8Len (before s.toList limit) ≤ floorBoundary s.toList limit :=
      le_floorBoundary (isBoundary_iff.mpr ⟨_, before_isPrefix s.toList limit, rfl⟩)
        (utf8Len_before_le s.toList limit)
    omega
  · rw [← Bool.not_eq_true]
    intro hb
    have hk' : limit - k ≤ floorBoundary s.toList limit := le_floorBoundary hb (Nat.sub_le limit k)
    omega

/-- The position at which a text is cut. -/
def cutAt (limit : Nat) (s : String) : s.Pos :=
  s.pos ⟨floorBoundary s.toList limit⟩
    ((isBoundary_iff_isValid s _).mp (isBoundary_floorBoundary s.toList limit))

/-- What is kept is a slice of the text, and a slice ends at a valid position. -/
theorem kept_eq_slice (limit : Nat) (s : String) :
    kept limit s = (s.sliceTo (cutAt limit s)).copy := by
  obtain ⟨rest, hrest⟩ := (longestStart_kept limit s).starts
  refine (String.copy_sliceTo_eq_iff_exists_splits.mpr ⟨String.ofList rest, ?_, ?_⟩).symm
  · rw [← String.toList_inj, String.toList_append, String.toList_ofList, hrest]
  · rw [String.Pos.Raw.ext_iff]
    exact (utf8ByteSize_kept limit s).symm

end Text.Clip

namespace Settings

open Text.Clip

/-- A text is logged in full when there is no limit or it keeps within the limit. Otherwise it is cut
at the last valid position within the limit, which is at most three bytes before it: what is logged
is the longest start that fits, and a mark that something is left out. -/
theorem logged_longest_start (settings : Settings) (sql : String) :
    (settings.logLimit = none → settings.logged sql = sql) ∧
    ∀ limit, settings.logLimit = some limit →
      (sql.utf8ByteSize ≤ limit → settings.logged sql = sql) ∧
      (limit < sql.utf8ByteSize →
        settings.logged sql = kept limit sql ++ "..." ∧
        LongestStart limit sql (kept limit sql) ∧
        kept limit sql = (sql.sliceTo (cutAt limit sql)).copy ∧
        ∃ steps ≤ 3, (cutAt limit sql).offset.byteIdx + steps = limit ∧
          ∀ k < steps, isBoundary sql.toList (limit - k) = false) ∧
      ∀ small ≤ limit, (kept small sql).toList <+: (kept limit sql).toList := by
  refine ⟨fun h => ?_, fun limit h => ⟨fun hs => ?_, fun hs => ⟨?_, ?_, ?_, ?_⟩, fun small hl => ?_⟩⟩
  · rw [logged, h]
  · simp only [logged, h, clip, if_pos hs]
  · simp only [logged, h, clip, if_neg (Nat.not_le.mpr hs), kept]
  · exact longestStart_kept limit sql
  · exact kept_eq_slice limit sql
  · exact searched_back hs
  · exact kept_mono hl sql

def loggedInFull : Settings := { standard with logLimit := none }

def loggedUpTo (limit : Nat) : Settings := { standard with logLimit := some limit }

/-- The limits are inside of characters of two and of four bytes. -/
theorem logged_longest_start_insideCharacter :
    (loggedInFull.logLimit = none ∧ loggedInFull.logged "abcé1" = "abcé1") ∧
    ((loggedUpTo 5).logLimit = some 5 ∧ "abcé".utf8ByteSize ≤ 5 ∧
      (loggedUpTo 5).logged "abcé" = "abcé") ∧
    (4 < "abcé1".utf8ByteSize ∧ (loggedUpTo 4).logged "abcé1" = "abc..." ∧
      LongestStart 4 "abcé1" "abc") ∧
    (3 < "😀x".utf8ByteSize ∧ (loggedUpTo 3).logged "😀x" = "...") ∧
    1 ≤ 4 ∧ (kept 1 "abcé1").toList <+: (kept 4 "abcé1").toList := by
  have hk : kept 4 "abcé1" = "abc" := by decide
  obtain ⟨hfull, -⟩ := loggedInFull.logged_longest_start "abcé1"
  obtain ⟨-, hfits⟩ := (loggedUpTo 5).logged_longest_start "abcé"
  obtain ⟨-, htwo⟩ := (loggedUpTo 4).logged_longest_start "abcé1"
  obtain ⟨-, hfour⟩ := (loggedUpTo 3).logged_longest_start "😀x"
  have h5 : "abcé".utf8ByteSize ≤ 5 := by decide
  have h4 : 4 < "abcé1".utf8ByteSize := by decide
  have h3 : 3 < "😀x".utf8ByteSize := by decide
  obtain ⟨-, hcut, hless⟩ := htwo 4 rfl
  obtain ⟨htext, hlongest, -⟩ := hcut h4
  rw [hk] at htext hlongest
  exact ⟨⟨rfl, hfull rfl⟩, ⟨rfl, h5, (hfits 5 rfl).1 h5⟩, ⟨h4, htext, hlongest⟩,
    ⟨h3, ((hfour 3 rfl).2.1 h3).1.trans (by decide)⟩, by decide, hless 1 (by decide)⟩

end Settings

end RowQuery
