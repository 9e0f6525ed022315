import RowQuery.Access.Script
import RowQuery.Proofs.Paging

namespace RowQuery

variable {V R M σ α : Type}

/-- The arguments that rows are selected by. Without a predicate there are none. -/
def Filter.usedArgs (c : Filter V) : List (Arg V) := if c.predicate = "" then [] else c.args

theorem mapM_append_cons_error {read : R → Except Failure M} {before after : List R} {row : R}
    {found : List M} {e : Failure} (hb : before.map read = found.map .ok)
    (hr : read row = .error e) :
    (before ++ row :: after).mapM read = .error e := by
  rw [List.mapM_append, mapM_eq_of_map_eq hb, List.mapM_cons, hr]
  rfl

/-- Rows can all be read, or there is a first one that cannot. -/
theorem all_read_or_first_error (read : R → Except Failure M) (rows : List R) :
    (∃ found : List M, rows.map read = found.map .ok) ∨
      ∃ before row after, ∃ (found : List M) (e : Failure), rows = before ++ row :: after ∧
        before.map read = found.map .ok ∧ read row = .error e := by
  induction rows with
  | nil => exact .inl ⟨[], rfl⟩
  | cons row rows ih =>
    cases hr : read row with
    | error e => exact .inr ⟨[], row, rows, [], e, rfl, rfl, hr⟩
    | ok m =>
      obtain ⟨found, hf⟩ | ⟨before, row', after, found, e, rfl, hb, he⟩ := ih
      · exact .inl ⟨m :: found, by rw [List.map_cons, List.map_cons, hr, hf]⟩
      · exact .inr ⟨row :: before, row', after, m :: found, e, rfl,
          by rw [List.map_cons, List.map_cons, hr, hb], he⟩

namespace Access

open Dialogue

/-- What is counted for a page: the rows that the filter selects, in no order and without bounds. -/
def counted (t : Table) (c : Option (Filter V)) : Scope V where
  table := t.name
  columns := t.columns
  predicate := c.elim "" Filter.predicate
  args := c.elim [] Filter.usedArgs
  order := ""
  limit := none
  offset := none

/-- What is loaded for a page: a part of what is counted, in the order of the filter. -/
def loaded (t : Table) (index size : Nat) (c : Option (Filter V)) : Scope V :=
  { counted t c with
    order := c.elim "" Filter.orderText
    limit := some size
    offset := some (index * size) }

/-- The condition that a call is confined to, and its arguments. No filter is as good as one that
filters nothing. -/
def condition (c : Option (Filter V)) : String × List (Arg V) :=
  (c.elim "" Filter.predicate, c.elim [] Filter.usedArgs)

/-- The order in which a filter lists its rows. -/
def orderOf (c : Option (Filter V)) : String := c.elim "" Filter.orderText

theorem condition_eq_none {c : Filter V} (h : c.predicate = "") :
    condition (some c) = condition none := by
  simp [condition, Filter.usedArgs, h]

/-- A fresh scope is confined to the condition, and nothing else about a filter matters to it. -/
theorem elim_matching (s : Scope V) (hp : s.predicate = "") (ha : s.args = [])
    (c : Option (Filter V)) :
    c.elim s s.matching = { s with predicate := (condition c).1, args := (condition c).2 } := by
  cases c with
  | none => rw [condition, Option.elim_none, Option.elim_none, Option.elim_none, ← hp, ← ha]
  | some c =>
    rw [Option.elim_some, Scope.matching, Scope.narrow]
    by_cases h : c.predicate = ""
    · rw [if_pos (String.isEmpty_iff.mpr h), condition_eq_none h]
      simp only [condition, Option.elim_none, ← hp, ← ha]
    · rw [if_neg (mt String.isEmpty_iff.mp h), if_pos (String.isEmpty_iff.mpr hp), ha]
      simp [condition, Filter.usedArgs, h]

theorem matching_eq_counted (t : Table) (c : Option (Filter V)) : matching t c = counted t c :=
  elim_matching (.ofTable t) rfl rfl c

/-- A list has the rows that are counted, in the order of the filter. -/
theorem listing_eq (t : Table) (c : Option (Filter V)) :
    listing t c = { matching t c with order := orderOf c } := by
  cases c with
  | none => rfl
  | some c =>
    have hm : (matching t (some c)).order = "" := by rw [matching_eq_counted, counted]
    change (matching t (some c)).sort c.orderText = _
    rw [Scope.sort, orderOf, Option.elim_some, if_pos (String.isEmpty_iff.mpr hm)]
    by_cases ho : c.orderText = ""
    · rw [if_pos (String.isEmpty_iff.mpr ho), ho, ← hm]
    · rw [if_neg (mt String.isEmpty_iff.mp ho)]

theorem listing_eq_loaded (t : Table) (index size : Nat) (c : Option (Filter V)) :
    ((listing t c).skip (index * size)).take size = loaded t index size c := by
  rw [listing_eq, matching_eq_counted]
  rfl

/-- The bounds of a page that can be asked for. -/
def InRange (index size : Nat) : Prop := 0 < size ∧ index * size < rowBound

/-- Why the bounds of a page are turned down. -/
def objection (index size : Nat) : Objection :=
  if size = 0 then .pageSize else .pageOffset index size

theorem page_of_not_inRange {index size : Nat} (h : ¬InRange index size) (t : Table)
    (read : R → Except Failure M) (c : Option (Filter V)) :
    page t read index size c = .fail (.validation (objection index size)) := by
  rw [page, objection]
  by_cases hs : size = 0
  · rw [if_pos hs, if_pos hs]
  · have hb : rowBound ≤ index * size :=
      Nat.not_lt.mp fun hlt => h ⟨Nat.pos_of_ne_zero hs, hlt⟩
    rw [if_neg hs, if_neg hs, if_pos hb]

theorem models_bind_return (read : R → Except Failure M) (rows : List R) (f : List M → α) :
    (do let found ← models read rows; return f found : Dialogue V R α) =
      .done ((rows.mapM read).map f) := by
  rw [models]
  cases rows.mapM read <;> rfl

/-- A page in range takes two requests, and then its rows are read. -/
theorem page_of_inRange {index size : Nat} (h : InRange index size) (t : Table)
    (read : R → Except Failure M) (c : Option (Filter V)) :
    page t read index size c =
      .ask (.count (counted t c)) fun total =>
        .ask (.find (loaded t index size c)) fun rows =>
          .done ((rows.mapM read).map (Page.mk total)) := by
  rw [page, if_neg (Nat.ne_of_gt h.1), if_neg (Nat.not_le.mpr h.2), matching_eq_counted,
    listing_eq_loaded]
  simp only [models_bind_return]
  rfl

/-- The courses that asking for a page can take, each with its exchanges, its result and the state
it leaves. The first failure ends it. -/
inductive PageRun (t : Table) (read : R → Except Failure M) (index size : Nat)
    (c : Option (Filter V)) (respond : Responder V R σ) (st : σ) :
    List (Exchange V R) → Except Failure (Page M) × σ → Prop
  | refused (h : ¬InRange index size) :
      PageRun t read index size c respond st []
        (.error (.validation (objection index size)), st)
  | uncounted {e : Failure} {st₁ : σ} (h : InRange index size)
      (hcount : respond (.count (counted t c)) st = (.error e, st₁)) :
      PageRun t read index size c respond st [⟨.count (counted t c), .error e⟩] (.error e, st₁)
  | unloaded {total : Int} {e : Failure} {st₁ st₂ : σ} (h : InRange index size)
      (hcount : respond (.count (counted t c)) st = (.ok total, st₁))
      (hfind : respond (.find (loaded t index size c)) st₁ = (.error e, st₂)) :
      PageRun t read index size c respond st
        [⟨.count (counted t c), .ok total⟩, ⟨.find (loaded t index size c), .error e⟩]
        (.error e, st₂)
  | unread {total : Int} {before after : List R} {row : R} {found : List M} {e : Failure}
      {st₁ st₂ : σ} (h : InRange index size)
      (hcount : respond (.count (counted t c)) st = (.ok total, st₁))
      (hfind : respond (.find (loaded t index size c)) st₁ = (.ok (before ++ row :: after), st₂))
      (hbefore : before.map read = found.map .ok) (hrow : read row = .error e) :
      PageRun t read index size c respond st
        [⟨.count (counted t c), .ok total⟩,
          ⟨.find (loaded t index size c), .ok (before ++ row :: after)⟩]
        (.error e, st₂)
  | found {total : Int} {rows : List R} {found : List M} {st₁ st₂ : σ} (h : InRange index size)
      (hcount : respond (.count (counted t c)) st = (.ok total, st₁))
      (hfind : respond (.find (loaded t index size c)) st₁ = (.ok rows, st₂))
      (hrows : rows.map read = found.map .ok) :
      PageRun t read index size c respond st
        [⟨.count (counted t c), .ok total⟩, ⟨.find (loaded t index size c), .ok rows⟩]
        (.ok ⟨total, found⟩, st₂)

variable {t : Table} {read : R → Except Failure M} {index size : Nat} {c : Option (Filter V)}
  {respond : Responder V R σ} {st : σ}

theorem PageRun.sound {xs : List (Exchange V R)} {out : Except Failure (Page M) × σ}
    (h : PageRun t read index size c respond st xs out) :
    (page t read index size c).transcript respond st = xs ∧
      (page t read index size c).run respond st = out := by
  cases h with
  | refused h =>
    rw [page_of_not_inRange h]
    exact ⟨rfl, rfl⟩
  | uncounted h hcount =>
    rw [page_of_inRange h, transcript_ask_error hcount, run_ask_error hcount]
    exact ⟨rfl, rfl⟩
  | unloaded h hcount hfind =>
    rw [page_of_inRange h, transcript_ask_ok hcount, run_ask_ok hcount,
      transcript_ask_error hfind, run_ask_error hfind]
    exact ⟨rfl, rfl⟩
  | unread h hcount hfind hbefore hrow =>
    rw [page_of_inRange h, transcript_ask_ok hcount, run_ask_ok hcount, transcript_ask_ok hfind,
      run_ask_ok hfind, mapM_append_cons_error hbefore hrow]
    exact ⟨rfl, rfl⟩
  | found h hcount hfind hrows =>
    rw [page_of_inRange h, transcript_ask_ok hcount, run_ask_ok hcount, transcript_ask_ok hfind,
      run_ask_ok hfind, mapM_eq_of_map_eq hrows]
    exact ⟨rfl, rfl⟩

theorem PageRun.exists (t : Table) (read : R → Except Failure M) (index size : Nat)
    (c : Option (Filter V)) (respond : Responder V R σ) (st : σ) :
    ∃ xs out, PageRun t read index size c respond st xs out := by
  by_cases h : InRange index size
  · obtain ⟨count, st₁, hcount⟩ : ∃ count st₁, respond (.count (counted t c)) st = (count, st₁) :=
      ⟨_, _, rfl⟩
    cases count with
    | error e => exact ⟨_, _, .uncounted h hcount⟩
    | ok total =>
      obtain ⟨reply, st₂, hfind⟩ :
          ∃ reply st₂, respond (.find (loaded t index size c)) st₁ = (reply, st₂) := ⟨_, _, rfl⟩
      cases reply with
      | error e => exact ⟨_, _, .unloaded h hcount hfind⟩
      | ok rows =>
        obtain ⟨found, hrows⟩ | ⟨before, row, after, found, e, rfl, hbefore, hrow⟩ :=
          all_read_or_first_error read rows
        · exact ⟨_, _, .found h hcount hfind hrows⟩
        · exact ⟨_, _, .unread h hcount hfind hbefore hrow⟩
  · exact ⟨_, _, .refused h⟩

/-- Asking for a page takes exactly the course that its bounds, the replies and the rows call for.
Out of range, nothing is asked for. Otherwise the count comes first, then, unless that fails, one
part of the rows; a failure is handed on as it is, be it of a request or of the first row that
cannot be read. -/
theorem pageRun_iff (t : Table) (read : R → Except Failure M) (index size : Nat)
    (c : Option (Filter V)) (respond : Responder V R σ) (st : σ) (xs : List (Exchange V R))
    (out : Except Failure (Page M) × σ) :
    PageRun t read index size c respond st xs out ↔
      (page t read index size c).transcript respond st = xs ∧
        (page t read index size c).run respond st = out := by
  constructor
  · exact PageRun.sound
  · -- some course is taken, and a course determines its exchanges and its outcome
    rintro ⟨rfl, rfl⟩
    obtain ⟨xs, out, h⟩ := PageRun.exists t read index size c respond st
    obtain ⟨rfl, rfl⟩ := h.sound
    exact h

/-- The arguments of a blank condition are not among those of the count. -/
theorem page_omits_blank_args :
    let t : Table := ⟨"users", "id", ["id", "name"]⟩
    let c : Filter Nat := Filter.empty.expr "" [.scalar 1]
    let read : Nat → Except Failure Nat := .ok
    let asked : List (Request Nat) :=
      ((page t read 0 1 (some c)).transcript Script.respond (.ofReplies [])).map Exchange.request
    InRange 0 1 ∧ c.args = [.scalar 1] ∧
      asked = [.count ⟨t.name, t.columns, "", [], "", none, none⟩,
        .find ⟨t.name, t.columns, "", [], "", some 1, some 0⟩] ∧
      .count ⟨t.name, t.columns, c.predicate, c.args, "", none, none⟩ ∉ asked := by
  intro t c read asked
  have ha : asked = [.count ⟨t.name, t.columns, "", [], "", none, none⟩,
      .find ⟨t.name, t.columns, "", [], "", some 1, some 0⟩] := rfl
  refine ⟨⟨Nat.one_pos, by decide⟩, rfl, ha, ?_⟩
  rw [ha]
  simp [c, Filter.empty, Filter.expr]

end Access

end RowQuery
