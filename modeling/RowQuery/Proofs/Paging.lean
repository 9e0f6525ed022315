import RowQuery.Proofs.Transcripts

namespace RowQuery

variable {V R M σ α : Type}

namespace Scope

/-- The scope of all rows, of which the bounds are to keep some. -/
def unbounded (s : Scope V) : Scope V := { s with limit := none, offset := none }

/-- The rows that the bounds of a scope keep: first the offset is left out, then the limit counts. -/
def window (s : Scope V) (rows : List R) : List R :=
  s.limit.elim (rows.drop (s.offset.getD 0)) (rows.drop (s.offset.getD 0)).take

theorem unbounded_skip_take (s : Scope V) (offset limit : Nat) :
    ((s.skip offset).take limit).unbounded = s.unbounded := rfl

theorem window_skip_take (s : Scope V) (offset limit : Nat) (rows : List R) :
    ((s.skip offset).take limit).window rows = (rows.drop offset).take limit := rfl

theorem window_unbounded (s : Scope V) (rows : List R) : s.unbounded.window rows = rows := rfl

theorem unbounded_narrow (s : Scope V) (predicate : String) (args : List (Arg V)) :
    (s.narrow predicate args).unbounded = s.unbounded.narrow predicate args := by
  rw [narrow, narrow]
  by_cases h : predicate.isEmpty
  · rw [if_pos h, if_pos h]
  · rw [if_neg h, if_neg h]
    by_cases hs : s.predicate.isEmpty <;> simp [unbounded, hs]

theorem unbounded_sort (s : Scope V) (order : String) :
    (s.sort order).unbounded = s.unbounded.sort order := by
  rw [sort, sort]
  by_cases h : order.isEmpty
  · rw [if_pos h, if_pos h]
  · rw [if_neg h, if_neg h]
    by_cases hs : s.order.isEmpty <;> simp [unbounded, hs]

end Scope

/-- What the tables hold: the rows that a scope lists, and their number. The number depends on
neither the projection nor the order. -/
structure Contents (V R : Type) where
  rows : Scope V → List R
  count : (table predicate : String) → List (Arg V) → Nat
  length_rows : ∀ s, (rows s).length = count s.table s.predicate s.args

/-- In every state that `holds`, counts and rows are answered from the contents, and what is asked
for changes nothing about that. -/
structure Faithful (respond : Responder V R σ) (contents : Contents V R) (holds : σ → Prop) :
    Prop where
  count : ∀ s st, holds st → ∃ st', holds st' ∧
    respond (.count s) st = (.ok (contents.count s.table s.predicate s.args : Int), st')
  find : ∀ s st, holds st → ∃ st', holds st' ∧
    respond (.find s) st = (.ok (s.window (contents.rows s.unbounded)), st')

theorem mapM_eq_of_map_eq {read : R → Except Failure M} {rows : List R} {found : List M}
    (h : rows.map read = found.map .ok) : rows.mapM read = .ok found := by
  induction rows generalizing found with
  | nil =>
    obtain rfl : found = [] := by simpa using h.symm
    rfl
  | cons row rows ih =>
    cases found with
    | nil => simp at h
    | cons m found =>
      obtain ⟨hm, hrows⟩ := List.cons.inj h
      rw [List.mapM_cons, hm, ih hrows]
      rfl

theorem exists_map_eq_map_ok {read : R → Except Failure M} {rows : List R}
    (h : ∀ row ∈ rows, ∃ m, read row = .ok m) :
    ∃ found : List M, rows.map read = found.map .ok := by
  induction rows with
  | nil => exact ⟨[], rfl⟩
  | cons row rows ih =>
    obtain ⟨m, hm⟩ := h row (by simp)
    obtain ⟨found, hf⟩ := ih fun r hr => h r (by simp [hr])
    exact ⟨m :: found, by rw [List.map_cons, List.map_cons, hm, hf]⟩

namespace Faithful

variable {respond : Responder V R σ} {contents : Contents V R} {holds : σ → Prop}
  (h : Faithful respond contents holds)

include h

theorem run_find {st : σ} (hst : holds st) (s : Scope V) (next : List R → Dialogue V R α) :
    ∃ st', holds st' ∧ (Dialogue.find s >>= next).run respond st =
      (next (s.window (contents.rows s.unbounded))).run respond st' := by
  obtain ⟨st', hst', hr⟩ := h.find s st hst
  exact ⟨st', hst', Dialogue.run_ask_ok hr next⟩

theorem run_count {st : σ} (hst : holds st) (s : Scope V) (next : Int → Dialogue V R α) :
    ∃ st', holds st' ∧ (Dialogue.count s >>= next).run respond st =
      (next (contents.count s.table s.predicate s.args)).run respond st' := by
  obtain ⟨st', hst', hr⟩ := h.count s st hst
  exact ⟨st', hst', Dialogue.run_ask_ok hr next⟩

end Faithful

namespace Access

theorem unbounded_listing (t : Table) (c : Option (Filter V)) :
    (listing t c).unbounded = listing t c := by
  cases c with
  | none => rfl
  | some c =>
    have hn : ((Scope.ofTable t).matching c).unbounded = (Scope.ofTable t).matching c :=
      Scope.unbounded_narrow (.ofTable t) c.predicate c.args
    exact (Scope.unbounded_sort _ c.orderText).trans (congrArg (Scope.sort · c.orderText) hn)

/-- The rows that are listed are those that are counted. -/
theorem count_matching (contents : Contents V R) (t : Table) (c : Option (Filter V)) :
    contents.count (matching t c).table (matching t c).predicate (matching t c).args =
      (contents.rows (listing t c)).length := by
  rw [contents.length_rows]
  cases c with
  | none => rfl
  | some c =>
    rw [listing, Option.elim_some, Scope.listing, Scope.sortedBy, Scope.sort]
    split
    · rfl
    · split <;> rfl

/-- The rows of one page; pages are counted from zero. -/
def pageOf (found : List M) (size index : Nat) : List M := (found.drop (index * size)).take size

/-- The pages of a list, one after another, are the list up to the end of the last of them. -/
theorem flatMap_pageOf (found : List M) (size count : Nat) :
    (List.range count).flatMap (pageOf found size) = found.take (count * size) := by
  induction count with
  | zero => simp
  | succ count ih =>
    rw [List.range_succ, List.flatMap_append, ih, List.flatMap_singleton, pageOf, Nat.succ_mul,
      List.take_add]

theorem length_pageOf (found : List M) (size index : Nat) :
    (pageOf found size index).length = min size (found.length - index * size) := by
  rw [pageOf, List.length_take, List.length_drop]

/-- How many pages it takes to hold some rows. -/
def pageCount (rows size : Nat) : Nat := (rows + size - 1) / size

theorem lt_pageCount_iff {size : Nat} (hsize : 0 < size) (rows index : Nat) :
    index < pageCount rows size ↔ index * size < rows := by
  rw [pageCount, Nat.lt_iff_add_one_le, Nat.le_div_iff_mul_le hsize, Nat.succ_mul]
  omega

variable {respond : Responder V R σ} {contents : Contents V R} {holds : σ → Prop}

theorem run_all (h : Faithful respond contents holds) (t : Table) {read : R → Except Failure M}
    (c : Option (Filter V)) {found : List M}
    (hf : (contents.rows (listing t c)).map read = found.map .ok) {st : σ} (hst : holds st) :
    ∃ st', holds st' ∧ (all t read c).run respond st = (.ok found, st') := by
  obtain ⟨st', hst', hr⟩ := h.run_find hst (listing t c) (models read)
  refine ⟨st', hst', hr.trans ?_⟩
  have hw : (listing t c).window (contents.rows (listing t c).unbounded) =
      contents.rows (listing t c) := by
    rw [unbounded_listing, ← unbounded_listing t c, Scope.window_unbounded]
  rw [hw, models, mapM_eq_of_map_eq hf]
  rfl

theorem run_page (h : Faithful respond contents holds) (t : Table) {read : R → Except Failure M}
    (c : Option (Filter V)) {found : List M}
    (hf : (contents.rows (listing t c)).map read = found.map .ok) {index size : Nat}
    (hsize : 0 < size) (hbound : index * size < rowBound) {st : σ} (hst : holds st) :
    ∃ st', holds st' ∧ (page t read index size c).run respond st =
      (.ok ⟨contents.count (matching t c).table (matching t c).predicate (matching t c).args,
        pageOf found size index⟩, st') := by
  let part : Scope V := ((listing t c).skip (index * size)).take size
  let finish : Int → List R → Dialogue V R (Page M) := fun total rows => do
    let found ← models read rows
    return ⟨total, found⟩
  have hp : (part.window (contents.rows part.unbounded)).map read =
      (pageOf found size index).map .ok := by
    rw [Scope.unbounded_skip_take, unbounded_listing, Scope.window_skip_take, List.map_take,
      List.map_drop, hf, pageOf, List.map_take, List.map_drop]
  obtain ⟨st₁, hst₁, hc⟩ := h.run_count hst (matching t c)
    (fun total => Dialogue.find part >>= finish total)
  obtain ⟨st₂, hst₂, hr⟩ := h.run_find hst₁ part (finish _)
  refine ⟨st₂, hst₂, ?_⟩
  rw [page, if_neg (Nat.ne_of_gt hsize), if_neg (Nat.not_le.mpr hbound)]
  refine hc.trans (hr.trans ?_)
  simp only [finish, models, mapM_eq_of_map_eq hp]
  rfl

/-- Pages neither lose nor repeat a row. As long as requests are answered from the same contents,
every page without an overflow is found, with the number of all rows; the pages one after another
are what is found without pages; only the last one may be short, and those after it are empty. -/
theorem pages_partition (h : Faithful respond contents holds) (t : Table)
    (read : R → Except Failure M) (c : Option (Filter V)) (size : Nat) (hsize : 0 < size)
    (hread : ∀ row ∈ contents.rows (listing t c), ∃ m, read row = .ok m)
    (total : Nat) (htotal : total =
      contents.count (matching t c).table (matching t c).predicate (matching t c).args)
    (hbound : total < rowBound) :
    ∃ (found : List M) (pages : Nat → List M),
      (∀ st, holds st → ∃ st', holds st' ∧ (all t read c).run respond st = (.ok found, st')) ∧
      (∀ index, index * size < rowBound → ∀ st, holds st → ∃ st', holds st' ∧
        (page t read index size c).run respond st = (.ok ⟨total, pages index⟩, st')) ∧
      (∀ index < pageCount total size, index * size < rowBound) ∧
      (List.range (pageCount total size)).flatMap pages = found ∧
      (∀ index, index + 1 < pageCount total size → (pages index).length = size) ∧
      ∀ index, pageCount total size ≤ index → pages index = [] := by
  obtain ⟨found, hf⟩ := exists_map_eq_map_ok hread
  have hl : found.length = total := by
    rw [htotal, count_matching, ← List.length_map read, hf, List.length_map]
  refine ⟨found, pageOf found size, fun st hst => run_all h t c hf hst, fun index hi st hst => ?_,
    fun index hi => ?_, ?_, fun index hi => ?_, fun index hi => ?_⟩
  · rw [htotal]
    exact run_page h t c hf hsize hi hst
  · have := (lt_pageCount_iff hsize total index).mp hi
    omega
  · have := (not_congr (lt_pageCount_iff hsize total _)).mp (Nat.lt_irrefl _)
    rw [flatMap_pageOf, List.take_of_length_le (by omega)]
  · have := (lt_pageCount_iff hsize total (index + 1)).mp hi
    rw [Nat.succ_mul] at this
    rw [length_pageOf]
    omega
  · have := (not_congr (lt_pageCount_iff hsize total index)).mp (Nat.not_lt.mpr hi)
    rw [pageOf, List.drop_eq_nil_of_le (by omega), List.take_nil]

/-- Five rows in either order. -/
def fiveRows : Contents Nat Nat where
  rows s := if s.order = "id desc" then [5, 4, 3, 2, 1] else [1, 2, 3, 4, 5]
  count _ _ _ := 5
  length_rows s := by split <;> rfl

/-- Requests are answered from the contents, and counted. -/
def answer (contents : Contents V R) : Responder V R Nat := fun q n =>
  (match q with
    | .count s => .ok (contents.count s.table s.predicate s.args : Int)
    | .find s => .ok (s.window (contents.rows s.unbounded))
    | .delete _ => .ok (0 : Nat)
    | .update _ _ => .ok (0 : Nat),
    n + 1)

theorem faithful_answer (contents : Contents V R) :
    Faithful (answer contents) contents (fun _ => True) :=
  ⟨fun _ n _ => ⟨n + 1, trivial, rfl⟩, fun _ n _ => ⟨n + 1, trivial, rfl⟩⟩

theorem pages_partition_fiveRows :
    let t : Table := ⟨"books", "id", ["id"]⟩
    let newest : Option (Filter Nat) := some (Filter.empty.descending ["id"])
    let read : Nat → Except Failure Nat := fun row => .ok (10 * row)
    (∀ row ∈ fiveRows.rows (listing t newest), ∃ m, read row = .ok m) ∧
    5 = fiveRows.count (matching t newest).table (matching t newest).predicate
      (matching t newest).args ∧
    ∃ pages : Nat → List Nat,
      pages 0 ++ pages 1 ++ pages 2 = [50, 40, 30, 20, 10] ∧ (pages 1).length = 2 ∧ pages 3 = [] ∧
      ((page t read 2 2 newest).run (answer fiveRows) 7).1 = .ok ⟨5, pages 2⟩ := by
  intro t newest read
  have hread : ∀ row ∈ fiveRows.rows (listing t newest), ∃ m, read row = .ok m :=
    fun row _ => ⟨10 * row, rfl⟩
  obtain ⟨found, pages, hall, hpage, -, hpages, hfull, hlater⟩ :=
    pages_partition (faithful_answer fiveRows) t read newest 2 (by decide) hread 5 rfl (by decide)
  obtain ⟨_, -, hfound⟩ := hall 0 trivial
  obtain ⟨_, -, hlast⟩ := hpage 2 (by decide) 7 trivial
  have hf : found = [50, 40, 30, 20, 10] := by
    have he : (all t read newest).run (answer fiveRows) 0 = (.ok [50, 40, 30, 20, 10], 1) := by
      rfl
    rw [he] at hfound
    injection hfound with hok
    injection hok with hok
    exact hok.symm
  have hcount : pageCount 5 2 = 3 := by decide
  rw [hcount] at hpages
  refine ⟨hread, rfl, pages, ?_, hfull 1 (by decide), hlater 3 (by decide),
    congrArg Prod.fst hlast⟩
  rw [← hf, ← hpages]
  simp [List.range_succ]

end Access

end RowQuery
