import RowQuery.Proofs.Interleavings
import RowQuery.Proofs.Loading

namespace RowQuery

variable {V R M K A σ τ α : Type}

/-- The same exchange, but for rows in the given order. -/
def Exchange.inOrder (order : String) : Exchange V R → Exchange V R
  | ⟨.find s, result⟩ => ⟨.find { s with order := order }, result⟩
  | x => x

/-- An executor that puts the given order in place of the one that rows are asked for in. -/
def Responder.inOrder (order : String) (respond : Responder V R σ) : Responder V R σ
  | .find s, st => respond (.find { s with order := order }) st
  | q, st => respond q st

namespace Dialogue

def inOrder (order : String) : Dialogue V R α → Dialogue V R α
  | .done result => .done result
  | .ask (.find s) next =>
    .ask (.find { s with order := order }) fun rows => (next rows).inOrder order
  | .ask q next => .ask q fun reply => (next reply).inOrder order

theorem transcript_inOrder (order : String) (d : Dialogue V R α) (respond : Responder V R σ)
    (st : σ) : (d.inOrder order).transcript respond st =
      (d.transcript (respond.inOrder order) st).map (Exchange.inOrder order) := by
  induction d generalizing st with
  | done result => rfl
  | ask q next ih =>
    obtain ⟨result, st', hr⟩ : ∃ result st', respond.inOrder order q st = (result, st') :=
      ⟨_, _, rfl⟩
    cases q with
    | find s | count s | delete s | update s a =>
      have hq := hr
      change respond _ st = _ at hq
      cases result with
      | error e =>
        rw [transcript_ask_error hr]
        exact transcript_ask_error hq _
      | ok reply =>
        rw [transcript_ask_ok hr, List.map_cons, ← ih]
        exact transcript_ask_ok hq _

/-- To ask for rows in another order is to be answered in another order. -/
theorem run_inOrder (order : String) (d : Dialogue V R α) (respond : Responder V R σ) (st : σ) :
    (d.inOrder order).run respond st = d.run (respond.inOrder order) st := by
  induction d generalizing st with
  | done result => rfl
  | ask q next ih =>
    obtain ⟨result, st', hr⟩ : ∃ result st', respond.inOrder order q st = (result, st') :=
      ⟨_, _, rfl⟩
    cases q with
    | find s | count s | delete s | update s a =>
      have hq := hr
      change respond _ st = _ at hq
      cases result with
      | error e =>
        rw [run_ask_error hr]
        exact run_ask_error hq _
      | ok reply =>
        rw [run_ask_ok hr, ← ih]
        exact run_ask_ok hq _

/-- A script does not look at what it is asked for. -/
theorem result_inOrder (order : String) (d : Dialogue V R α) (script : Script V R) :
    ((d.inOrder order).run Script.respond script).1 = (d.run Script.respond script).1 := by
  rw [run_inOrder]
  refine (run_related (fun s t => s.replies = t.replies) (fun q s t h => ?_) d rfl).1
  obtain ⟨replies, asked⟩ := s
  obtain ⟨replies', asked'⟩ := t
  obtain rfl : replies = replies' := h
  cases q <;> exact ⟨rfl, rfl⟩

/-- Whoever answers, a dialogue puts one request and no other one. -/
def Puts (d : Dialogue V R α) (q : Request V) : Prop :=
  ∀ (σ : Type) (respond : Responder V R σ) (st : σ),
    d.transcript respond st = [⟨q, (respond q st).1⟩]

theorem puts_ask (q : Request V) (f : q.Reply R → Except Failure α) :
    (ask q fun reply => .done (f reply)).Puts q :=
  fun _ respond st => transcript_ask_done respond q f st

/-- Whoever answers, both dialogues have the same exchanges and the same outcome. -/
structure SameAs (d d' : Dialogue V R α) : Prop where
  asks : ∀ {σ : Type} (respond : Responder V R σ) (st : σ),
    d.transcript respond st = d'.transcript respond st
  ends : ∀ {σ : Type} (respond : Responder V R σ) (st : σ), d.run respond st = d'.run respond st

/-- The first dialogue goes as the second one does with an executor that puts the given order in
place of its orders. Whatever replies are prepared, the result is the same. -/
structure SameInOrder (order : String) (d d' : Dialogue V R α) : Prop where
  asks : ∀ {σ : Type} (respond : Responder V R σ) (st : σ),
    d.transcript respond st =
      (d'.transcript (respond.inOrder order) st).map (Exchange.inOrder order)
  ends : ∀ {σ : Type} (respond : Responder V R σ) (st : σ),
    d.run respond st = d'.run (respond.inOrder order) st
  result : ∀ script : Script V R,
    (d.run Script.respond script).1 = (d'.run Script.respond script).1

theorem SameAs.of_eq {d d' : Dialogue V R α} (h : d = d') : d.SameAs d' :=
  h ▸ ⟨fun _ _ => rfl, fun _ _ => rfl⟩

theorem SameInOrder.of_eq {d d' : Dialogue V R α} {order : String} (h : d = d'.inOrder order) :
    d.SameInOrder order d' where
  asks := h ▸ transcript_inOrder order d'
  ends := h ▸ run_inOrder order d'
  result := h ▸ result_inOrder order d'

end Dialogue

namespace Update.Recipe

/-- An update is idle exactly when none of its steps writes to a column. -/
theorem isIdle_build_iff (r : Recipe V) : r.build.isIdle = true ↔ r.writes = [] := by
  rw [isIdle, assignments_build]
  constructor
  · intro h
    refine List.eq_nil_iff_forall_not_mem.mpr fun w hw => ?_
    have hk : w.1 ∈ (SortedMap.ofList r.writes).keys := SortedMap.mem_keys_ofList.mpr ⟨w.2, hw⟩
    rw [SortedMap.keys, List.isEmpty_iff.mp h] at hk
    cases hk
  · intro h
    rw [h]
    rfl

end Update.Recipe

namespace Access

open Dialogue

theorem condition_congr {c d : Filter V} (hp : c.predicate = d.predicate) (ha : c.args = d.args) :
    condition (some c) = condition (some d) := by
  simp [condition, Filter.usedArgs, hp, ha]

variable {c d : Option (Filter V)}

theorem elim_matching_congr (h : condition c = condition d) {s : Scope V} (hp : s.predicate = "")
    (ha : s.args = []) : c.elim s s.matching = d.elim s s.matching := by
  rw [elim_matching s hp ha, elim_matching s hp ha, h]

/-- What a call asks for that is confined to the condition of a filter and is in no order. -/
def unordered (table : String) (columns : List String) (limit : Option Nat)
    (c : Option (Filter V)) : Scope V :=
  ⟨table, columns, (condition c).1, (condition c).2, "", limit, none⟩

theorem puts_first (t : Table) (read : R → Except Failure M) (c : Option (Filter V)) :
    (first t read c).Puts (.find (unordered t.name t.columns (some 1) c)) := by
  rw [first_eq_ask, matching_eq_counted]
  exact puts_ask _ _

theorem reached_eq_unordered (t : Table) (c : Option (Filter V)) :
    reached t c = unordered t.name [] none c :=
  elim_matching (.all t.name) rfl rfl c

theorem puts_delete (t : Table) (c : Option (Filter V)) :
    (delete t c : Dialogue V R Nat).Puts (.delete (unordered t.name [] none c)) := by
  rw [delete, reached_eq_unordered]
  exact puts_ask _ _

theorem puts_columnMap [KeyOrder K] (t : Table) (read : R → Except Failure (K × A))
    (column : String) (c : Option (Filter V)) :
    (columnMap t read column c).Puts (.find (unordered t.name [t.idColumn, column] none c)) := by
  have hp : pairing t column c = unordered t.name [t.idColumn, column] none c :=
    elim_matching ((Scope.all t.name).select [t.idColumn, column]) rfl rfl c
  rw [columnMap_eq_ask, hp]
  exact puts_ask _ _

theorem puts_all (t : Table) (read : R → Except Failure M) (c : Option (Filter V)) :
    (all t read c).Puts
      (.find { unordered t.name t.columns none c with order := orderOf c }) := by
  rw [all_eq_ask, listing_eq, matching_eq_counted]
  exact puts_ask _ _

theorem puts_update (t : Table) {u : Update V} (h : u.isIdle = false) :
    (update t (some u) : Dialogue V R Nat).Puts
      (.update (unordered t.name [] none (some u.filter)) u.assignments) := by
  rw [update, if_neg (by simp [h]), reached_eq_unordered]
  exact puts_ask _ _

/-- A page that can be asked for is counted first. -/
theorem page_counts_first (t : Table) (read : R → Except Failure M) {index size : Nat}
    (h : InRange index size) (c : Option (Filter V)) (respond : Responder V R σ) (st : σ) :
    ∃ rest, (page t read index size c).transcript respond st =
      ⟨.count (unordered t.name t.columns none c),
        (respond (.count (unordered t.name t.columns none c)) st).1⟩ :: rest := by
  have hc : counted t c = unordered t.name t.columns none c := rfl
  rw [page_of_inRange h, hc]
  obtain ⟨result, st', hr⟩ :
      ∃ result st', respond (.count (unordered t.name t.columns none c)) st = (result, st') :=
    ⟨_, _, rfl⟩
  cases result with
  | error e =>
    rw [transcript_ask_error hr, hr]
    exact ⟨[], rfl⟩
  | ok total =>
    rw [transcript_ask_ok hr, hr]
    exact ⟨_, rfl⟩

theorem matching_congr (h : condition c = condition d) (t : Table) : matching t c = matching t d :=
  elim_matching_congr h rfl rfl

theorem reached_congr (h : condition c = condition d) (t : Table) : reached t c = reached t d :=
  elim_matching_congr h rfl rfl

theorem pairing_congr (h : condition c = condition d) (t : Table) (column : String) :
    pairing t column c = pairing t column d :=
  elim_matching_congr h rfl rfl

theorem first_congr (h : condition c = condition d) (t : Table) (read : R → Except Failure M) :
    first t read c = first t read d := by
  rw [first, matching_congr h, ← first]

theorem delete_congr (h : condition c = condition d) (t : Table) :
    (delete t c : Dialogue V R Nat) = delete t d := by
  rw [delete, reached_congr h, ← delete]

theorem columnMap_congr [KeyOrder K] (h : condition c = condition d) (t : Table)
    (read : R → Except Failure (K × A)) (column : String) :
    columnMap t read column c = columnMap t read column d := by
  rw [columnMap_eq_ask, columnMap_eq_ask, pairing_congr h]

theorem update_congr {u u' : Update V} (h : condition (some u.filter) = condition (some u'.filter))
    (ha : u.assignments = u'.assignments) (t : Table) :
    (update t (some u) : Dialogue V R Nat) = update t (some u') := by
  obtain ⟨c, a⟩ := u
  obtain ⟨d, b⟩ := u'
  obtain rfl : a = b := ha
  have hr : reached t (some c) = reached t (some d) := reached_congr h t
  have hu (c : Filter V) : (update t (some ⟨c, a⟩) : Dialogue V R Nat) =
      if a.isEmpty then .done (.ok 0) else .update (reached t (some c)) a := rfl
  rw [hu, hu, hr]

theorem counted_congr (h : condition c = condition d) (t : Table) : counted t c = counted t d := by
  rw [← matching_eq_counted, matching_congr h, matching_eq_counted]

theorem loaded_congr (h : condition c = condition d) (t : Table) (index size : Nat) :
    loaded t index size c = { loaded t index size d with order := orderOf c } := by
  rw [loaded, counted_congr h]
  rfl

theorem listing_congr (h : condition c = condition d) (t : Table) :
    listing t c = { listing t d with order := orderOf c } := by
  rw [listing_eq, listing_eq, matching_congr h]

theorem all_inOrder (h : condition c = condition d) (t : Table) (read : R → Except Failure M) :
    all t read c = (all t read d).inOrder (orderOf c) := by
  rw [all_eq_ask, all_eq_ask, listing_congr h]
  rfl

theorem page_inOrder (h : condition c = condition d) (t : Table) (read : R → Except Failure M)
    (index size : Nat) :
    page t read index size c = (page t read index size d).inOrder (orderOf c) := by
  by_cases hr : InRange index size
  · rw [page_of_inRange hr, page_of_inRange hr, counted_congr h, loaded_congr h]
    rfl
  · rw [page_of_not_inRange hr, page_of_not_inRange hr]
    rfl

/-- What two filters have in common when the same rows are to be reached: reading one row, deleting
and mapping a column are the same, and lists and pages are the same but for their order. Each of
these calls asks for the rows of the condition, and only for a list there is an order. -/
structure Interchangeable [KeyOrder K] (t : Table) (read : R → Except Failure M)
    (pair : R → Except Failure (K × A)) (c d : Option (Filter V)) : Prop where
  first : (first t read c).SameAs (first t read d)
  firstAsks : (Access.first t read c).Puts (.find (unordered t.name t.columns (some 1) c))
  delete : (delete t c : Dialogue V R Nat).SameAs (delete t d)
  deleteAsks : (Access.delete t c : Dialogue V R Nat).Puts (.delete (unordered t.name [] none c))
  columnMap : ∀ column, (columnMap t pair column c).SameAs (columnMap t pair column d)
  columnMapAsks : ∀ column, (Access.columnMap t pair column c).Puts
    (.find (unordered t.name [t.idColumn, column] none c))
  all : (all t read c).SameInOrder (orderOf c) (all t read d)
  allAsks : (Access.all t read c).Puts
    (.find { unordered t.name t.columns none c with order := orderOf c })
  count : matching t c = matching t d
  page : ∀ index size,
    (page t read index size c).SameInOrder (orderOf c) (page t read index size d)
  pageCounts : ∀ index size, InRange index size →
    ∀ {σ : Type} (respond : Responder V R σ) (st : σ), ∃ rest,
      (Access.page t read index size c).transcript respond st =
        ⟨.count (unordered t.name t.columns none c),
          (respond (.count (unordered t.name t.columns none c)) st).1⟩ :: rest

theorem interchangeable [KeyOrder K] (h : condition c = condition d) (t : Table)
    (read : R → Except Failure M) (pair : R → Except Failure (K × A)) :
    Interchangeable t read pair c d where
  first := .of_eq (first_congr h t read)
  firstAsks := puts_first t read c
  delete := .of_eq (delete_congr h t)
  deleteAsks := puts_delete t c
  columnMap column := .of_eq (columnMap_congr h t pair column)
  columnMapAsks column := puts_columnMap t pair column c
  all := .of_eq (all_inOrder h t read)
  allAsks := puts_all t read c
  count := matching_congr h t
  page index size := .of_eq (page_inOrder h t read index size)
  pageCounts _ _ hr _ respond st := page_counts_first t read hr c respond st

theorem update_of_idle (t : Table) {u : Option (Update V)} (h : ∀ v ∈ u, v.isIdle = true) :
    (update t u : Dialogue V R Nat) = .done (.ok 0) := by
  cases u with
  | none => rfl
  | some u =>
    rw [update, if_pos (h u rfl)]
    rfl

/-- A filter that filters nothing is as good as none, and filters with the same condition differ in
the order of lists and pages only. What is counted for a page has no order, nor has a change of
rows; an update that writes to no column is over before anything is asked for, and any other one
puts one request. -/
theorem only_lists_are_ordered [KeyOrder K] (t : Table) (read : R → Except Failure M)
    (pair : R → Except Failure (K × A)) :
    (∀ c : Filter V, c.predicate = "" → Interchangeable t read pair (some c) none) ∧
    (∀ c d : Filter V, c.predicate = d.predicate → c.args = d.args →
      Interchangeable t read pair (some c) (some d)) ∧
    (∀ u u' : Update V, u.filter.predicate = u'.filter.predicate →
      u.filter.args = u'.filter.args → u.assignments = u'.assignments →
      (update t (some u) : Dialogue V R Nat).SameAs (update t (some u'))) ∧
    (∀ u : Update V, u.isIdle = false → (update t (some u) : Dialogue V R Nat).Puts
      (.update (unordered t.name [] none (some u.filter)) u.assignments)) ∧
    (∀ u : Option (Update V), (∀ v ∈ u, v.isIdle = true) →
      ∀ {σ : Type} (respond : Responder V R σ) (st : σ),
        (update t u).transcript respond st = [] ∧ (update t u).run respond st = (.ok 0, st)) ∧
    ∀ r : Update.Recipe V, r.build.isIdle = true ↔ r.writes = [] := by
  refine ⟨fun c h => interchangeable (condition_eq_none h) t read pair,
    fun c d hp ha => interchangeable (condition_congr hp ha) t read pair,
    fun u u' hp ha hw => .of_eq (update_congr (condition_congr hp ha) hw t),
    fun u h => puts_update t h, fun u h σ respond st => ?_, Update.Recipe.isIdle_build_iff⟩
  rw [update_of_idle t h]
  exact ⟨rfl, rfl⟩

/-- The blank filter has an argument and a sort directive, and the two others differ in theirs. -/
theorem only_lists_are_ordered_recentBooks :
    let t : Table := ⟨"books", "id", ["id", "title"]⟩
    let read : Nat → Except Failure Nat := .ok
    let script : Script Nat Nat := .ofReplies [⟨none, 9, [5, 7], 2⟩, ⟨none, 9, [5, 7], 2⟩]
    let blank : Filter Nat := (Filter.empty.expr "" [.scalar 1]).ascending ["title"]
    let recent : Filter Nat := (Filter.empty.compare "year" .greater 2020).descending ["year"]
    let titled : Filter Nat := (Filter.empty.compare "year" .greater 2020).ascending ["title"]
    let sold : Filter Nat → Update Nat := fun c => (⟨c, .empty⟩ : Update Nat).set "sold" 1
    let kept : Update.Recipe Nat :=
      ⟨.confined [.step .blank true (.compare "year" .less 1900)], [(false, .set "sold" 1)]⟩
    (blank.predicate = "" ∧
      (first t read (some blank)).run Script.respond script =
        (first t read none).run Script.respond script ∧
      (all t read (some blank)).transcript Script.respond script =
        [⟨.find ⟨"books", ["id", "title"], "", [], "title", none, none⟩, .ok [5, 7]⟩] ∧
      ((all t read (some blank)).run Script.respond script).1 =
        ((all t read none).run Script.respond script).1) ∧
    (recent.predicate = titled.predicate ∧ recent.args = titled.args ∧
      recent.order ≠ titled.order ∧
      (delete t (some recent)).run Script.respond script =
        (delete t (some titled)).run Script.respond script ∧
      ((page t read 1 2 (some recent)).run Script.respond script).1 =
        ((page t read 1 2 (some titled)).run Script.respond script).1 ∧
      (update t (some (sold recent))).run Script.respond script =
        (update t (some (sold titled))).run Script.respond script) ∧
    (InRange 1 2 ∧ ∃ rest, (page t read 1 2 (some recent)).transcript Script.respond script =
      ⟨.count ⟨"books", ["id", "title"], "year > ?", [.scalar 2020], "", none, none⟩,
        .ok (9 : Int)⟩ :: rest) ∧
    ((sold recent).isIdle = false ∧
      (update t (some (sold recent))).transcript Script.respond script =
        [⟨.update ⟨"books", [], "year > ?", [.scalar 2020], "", none, none⟩
          (sold recent).assignments, .ok (2 : Nat)⟩]) ∧
    ((∀ v ∈ some kept.build, v.isIdle = true) ∧ kept.build.filter.predicate = "( year < ? )" ∧
      (update t (some kept.build)).run Script.respond script = (.ok 0, script)) := by
  intro t read script blank recent titled sold kept
  let pair : Nat → Except Failure (Int × Nat) := fun row => .ok ((row : Int), row)
  obtain ⟨hblank, hsame, hupdate, hasks, hidle, hwrites⟩ :=
    only_lists_are_ordered (V := Nat) t read pair
  have hb : Interchangeable t read pair (some blank) none := hblank blank rfl
  have hs : Interchangeable t read pair (some recent) (some titled) := hsame recent titled rfl rfl
  have hu := hupdate (sold recent) (sold titled) rfl rfl rfl
  have hk : ∀ v ∈ some kept.build, v.isIdle = true := by
    intro v hv
    obtain rfl : kept.build = v := Option.some.inj hv
    exact (hwrites kept).mpr rfl
  have hp : InRange 1 2 := ⟨by decide, by decide⟩
  have hi : (sold recent).isIdle = false := rfl
  refine ⟨⟨rfl, hb.first.ends _ _, ?_, hb.all.result script⟩,
    ⟨rfl, rfl, by decide, hs.delete.ends _ _, (hs.page 1 2).result script, hu.ends _ _⟩,
    ⟨hp, hs.pageCounts 1 2 hp _ _⟩, ⟨hi, hasks (sold recent) hi _ _ _⟩, hk, by decide,
    (hidle _ hk _ _).2⟩
  rw [hb.all.asks]
  rfl

end Access

end RowQuery
