import Mathlib.Data.List.Forall2
import RowQuery.Database.Model
import RowQuery.Proofs.PageRuns
import RowQuery.Proofs.SortedMaps

namespace RowQuery

variable {V R M K A σ α : Type}

namespace SortedMap

/-- Each key of the pairs is a key of the map, with the value of the last pair that carries it. -/
structure LastWins [KeyOrder K] (pairs : List (K × A)) (m : SortedMap K A) : Prop where
  keys : ∀ k, k ∈ m.keys ↔ ∃ a, (k, a) ∈ pairs
  entries : ∀ k a, (k, a) ∈ m.entries ↔
    ∃ before after, pairs = before ++ (k, a) :: after ∧ ∀ p ∈ after, p.1 ≠ k

theorem getLast?_filter_eq_some_iff {p : α → Bool} {l : List α} {a : α} :
    (l.filter p).getLast? = some a ↔
      p a = true ∧ ∃ before after, l = before ++ a :: after ∧ ∀ b ∈ after, p b = false := by
  rw [List.getLast?_eq_head?_reverse, ← List.filter_reverse, List.head?_filter,
    List.find?_eq_some_iff_append]
  refine and_congr_right fun _ => ⟨?_, ?_⟩
  · rintro ⟨xs, ys, hl, hx⟩
    refine ⟨ys.reverse, xs.reverse, ?_, fun b hb => ?_⟩
    · rw [← List.reverse_reverse l, hl]
      simp
    · simpa using hx b (List.mem_reverse.mp hb)
  · rintro ⟨before, after, rfl, hb⟩
    exact ⟨after.reverse, before.reverse, by simp,
      fun b hm => by simp [hb b (List.mem_reverse.mp hm)]⟩

theorem lastWins_ofList [KeyOrder K] (pairs : List (K × A)) : LastWins pairs (ofList pairs) := by
  classical
  refine ⟨fun k => mem_keys_ofList, fun k a => ?_⟩
  rw [mem_ofList, getLast?_filter_eq_some_iff]
  simp

end SortedMap

/-- What comes of reading rows in their order: something that is made of all the models, or the
failure of the first row that cannot be read. -/
inductive ReadInOrder (read : R → Except Failure M) (Made : List M → α → Prop) :
    List R → Except Failure α → Prop
  | all {rows : List R} {found : List M} {a : α}
      (hrows : List.Forall₂ (fun row m => read row = .ok m) rows found) (ha : Made found a) :
      ReadInOrder read Made rows (.ok a)
  | failed {before after : List R} {row : R} {found : List M} {e : Failure}
      (hbefore : List.Forall₂ (fun row m => read row = .ok m) before found)
      (hrow : read row = .error e) : ReadInOrder read Made (before ++ row :: after) (.error e)

/-- What comes of reading the first of some rows, whatever the others are. -/
inductive ReadFirst (read : R → Except Failure M) : List R → Except Failure (Option M) → Prop
  | none : ReadFirst read [] (.ok none)
  | found {row : R} {m : M} (rest : List R) (h : read row = .ok m) :
      ReadFirst read (row :: rest) (.ok (some m))
  | failed {row : R} {e : Failure} (rest : List R) (h : read row = .error e) :
      ReadFirst read (row :: rest) (.error e)

theorem forall₂_of_map_eq {read : R → Except Failure M} {rows : List R} {found : List M}
    (h : rows.map read = found.map .ok) :
    List.Forall₂ (fun row m => read row = .ok m) rows found := by
  rwa [← List.forall₂_eq_eq_eq, List.forall₂_map_left_iff, List.forall₂_map_right_iff] at h

theorem readInOrder_mapM (read : R → Except Failure M) {Made : List M → α → Prop}
    {make : List M → α} (hmake : ∀ found, Made found (make found)) (rows : List R) :
    ReadInOrder read Made rows ((rows.mapM read).map make) := by
  obtain ⟨found, hf⟩ | ⟨before, row, after, found, e, rfl, hb, hr⟩ :=
    all_read_or_first_error read rows
  · rw [mapM_eq_of_map_eq hf]
    exact .all (forall₂_of_map_eq hf) (hmake found)
  · rw [mapM_append_cons_error hb hr]
    exact .failed (forall₂_of_map_eq hb) hr

theorem readInOrder_models (read : R → Except Failure M) (rows : List R) :
    ReadInOrder read Eq rows (rows.mapM read) := by
  have h : ReadInOrder read Eq rows ((rows.mapM read).map id) :=
    readInOrder_mapM read (fun _ => rfl) rows
  have hid : (rows.mapM read).map id = rows.mapM read := by
    cases rows.mapM read <;> rfl
  rwa [hid] at h

namespace Dialogue

/-- Once an executor has returned rows for a scope, a dialogue is over: its result fits the rows,
and the executor is asked for nothing more. -/
def Loads (respond : Responder V R σ) (d : Dialogue V R α) (scope : Scope V)
    (Fits : List R → Except Failure α → Prop) : Prop :=
  ∀ st st' (rows : List R), respond (.find scope) st = (.ok rows, st') →
    ∃ result, d.run respond st = (result, st') ∧ Fits rows result

theorem loads_ask (respond : Responder V R σ) (scope : Scope V)
    {make : List R → Except Failure α} {Fits : List R → Except Failure α → Prop}
    (h : ∀ rows, Fits rows (make rows)) :
    Loads respond (.ask (.find scope) fun rows => .done (make rows)) scope Fits :=
  fun _ _ rows hr => ⟨make rows, run_ask_ok hr _, h rows⟩

end Dialogue

namespace Access

open Dialogue

def readFirst (read : R → Except Failure M) : List R → Except Failure (Option M)
  | [] => .ok none
  | row :: _ => (read row).map some

theorem readFirst_fits (read : R → Except Failure M) (rows : List R) :
    ReadFirst read rows (readFirst read rows) := by
  cases rows with
  | nil => exact .none
  | cons row rest =>
    rw [readFirst]
    cases hr : read row with
    | ok m => exact .found rest hr
    | error e => exact .failed rest hr

theorem all_eq_ask (t : Table) (read : R → Except Failure M) (c : Option (Filter V)) :
    all t read c = .ask (.find (listing t c)) fun rows => .done (rows.mapM read) := rfl

theorem byIds_eq_ask (t : Table) (read : R → Except Failure M) {ids : List V} (h : ids ≠ []) :
    byIds t read ids =
      .ask (.find (matching t (some (Filter.empty.isInList t.idColumn ids)))) fun rows =>
        .done (rows.mapM read) := by
  rw [byIds, if_neg (by simpa using h)]
  rfl

theorem first_eq_ask (t : Table) (read : R → Except Failure M) (c : Option (Filter V)) :
    first t read c =
      .ask (.find ((matching t c).take 1)) fun rows => .done (readFirst read rows) := by
  refine congrArg (ask (.find ((matching t c).take 1))) (funext fun rows => ?_)
  cases rows <;> rfl

/-- The ids and another column of the rows that a filter selects. -/
def pairing (t : Table) (column : String) (c : Option (Filter V)) : Scope V :=
  c.elim ((Scope.all t.name).select [t.idColumn, column])
    ((Scope.all t.name).select [t.idColumn, column]).matching

theorem columnMap_eq_ask [KeyOrder K] (t : Table) (read : R → Except Failure (K × A))
    (column : String) (c : Option (Filter V)) :
    columnMap t read column c =
      .ask (.find (pairing t column c)) fun rows =>
        .done ((rows.mapM read).map SortedMap.ofList) := by
  refine congrArg (ask (.find (pairing t column c))) (funext fun rows => ?_)
  exact models_bind_return read rows SortedMap.ofList

/-- A pair of columns is read from the first of them to the second. -/
theorem pairOf_eq (key : R → Except String K) (value : R → Except String A) (row : R) :
    Database.pairOf key value row =
      match key row, value row with
      | .error fault, _ => .error (.column "#0" fault)
      | .ok _, .error fault => .error (.column "#1" fault)
      | .ok k, .ok a => .ok (k, a) := by
  rw [Database.pairOf]
  cases key row with
  | error fault => rfl
  | ok k => cases value row <;> rfl

theorem pair_eq (m : Database.Model) (kind : Database.PairKind) :
    m.reading.pair kind = Database.pairOf (fun row => row.readAt 0 "0" kind.1)
      (fun row => row.readAt 1 "1" kind.2) := rfl

/-- Rows decide the result of a call in their order. All of them are read, and the first failure is
the result; or else there are as many models as rows. Where one row is wanted, only the first one
counts. A map by ids keeps the last row of each id, and a failure is not hidden by a later row with
the same id. In a database, the id is read before the other column. -/
theorem rows_read_in_order [KeyOrder K] (t : Table) (read : R → Except Failure M)
    (pair : R → Except Failure (K × A)) (respond : Responder V R σ) :
    (∀ c, (all t read c).Loads respond (listing t c) (ReadInOrder read Eq)) ∧
    (∀ ids, ids ≠ [] → (byIds t read ids).Loads respond
      (matching t (some (Filter.empty.isInList t.idColumn ids))) (ReadInOrder read Eq)) ∧
    (∀ index size c, InRange index size → ∀ st (total : Int) st₁,
      respond (.count (counted t c)) st = (.ok total, st₁) → ∀ (rows : List R) st₂,
        respond (.find (loaded t index size c)) st₁ = (.ok rows, st₂) →
          ∃ result, (page t read index size c).run respond st = (result, st₂) ∧
            ReadInOrder read (fun found p => p = ⟨total, found⟩) rows result) ∧
    (∀ c, (first t read c).Loads respond ((matching t c).take 1) (ReadFirst read)) ∧
    (∀ id, (byId t read id).Loads respond
      ((matching t (some (Filter.empty.compare t.idColumn .equal id))).take 1)
      (ReadFirst read)) ∧
    (∀ column c, (columnMap t pair column c).Loads respond (pairing t column c)
      (ReadInOrder pair SortedMap.LastWins)) ∧
    ∀ (m : Database.Model) (kind : Database.PairKind) (row : Database.Row),
      (∀ fault, row.readAt 0 "0" kind.1 = .error fault →
        m.reading.pair kind row = .error (.column "#0" fault)) ∧
      (∀ key fault, row.readAt 0 "0" kind.1 = .ok key → row.readAt 1 "1" kind.2 = .error fault →
        m.reading.pair kind row = .error (.column "#1" fault)) ∧
      ∀ key value, row.readAt 0 "0" kind.1 = .ok key → row.readAt 1 "1" kind.2 = .ok value →
        m.reading.pair kind row = .ok (key, value) := by
  refine ⟨fun c => ?_, fun ids hids => ?_, ?_, fun c => ?_, fun id => ?_, fun column c => ?_,
    fun m kind row => ⟨?_, ?_, ?_⟩⟩
  · exact loads_ask respond _ (readInOrder_models read)
  · rw [byIds_eq_ask t read hids]
    exact loads_ask respond _ (readInOrder_models read)
  · intro index size c h st total st₁ hcount rows st₂ hfind
    refine ⟨(rows.mapM read).map (Page.mk total), ?_, readInOrder_mapM read ?_ rows⟩
    · rw [page_of_inRange h, run_ask_ok hcount, run_ask_ok hfind]
      rfl
    · exact fun _ => rfl
  · rw [first_eq_ask]
    exact loads_ask respond _ (readFirst_fits read)
  · rw [byId, first_eq_ask]
    exact loads_ask respond _ (readFirst_fits read)
  · rw [columnMap_eq_ask]
    exact loads_ask respond _ (readInOrder_mapM pair SortedMap.lastWins_ofList)
  · intro fault hkey
    rw [pair_eq, pairOf_eq, hkey]
  · intro key fault hkey hvalue
    rw [pair_eq, pairOf_eq, hkey, hvalue]
  · intro key value hkey hvalue
    rw [pair_eq, pairOf_eq, hkey, hvalue]

/-- The third row cannot be read, and the last one has the id of the first one. -/
theorem rows_read_in_order_badThird :
    let t : Table := ⟨"books", "id", ["id", "title"]⟩
    let bad : Failure := .stated "unreadable"
    let read : Nat → Except Failure Nat := fun row => if row = 0 then .error bad else .ok (10 * row)
    let pair : Nat → Except Failure (Int × Nat) := fun row =>
      (read row).map fun m => ((row % 2 : Nat), m)
    let returning : List Nat → Script Nat Nat := fun rows => .ofReplies [⟨none, 0, rows, 0⟩]
    let paged : Script Nat Nat := .ofReplies [⟨none, 9, [], 0⟩, ⟨none, 0, [3, 5], 0⟩]
    ([1, 2] ≠ [] ∧ InRange 4 2) ∧
    (((byIds t read [1, 2]).run Script.respond (returning [3, 4, 0, 5])).1 = .error bad ∧
      ReadInOrder read Eq [3, 4, 0, 5] (.error bad)) ∧
    (((byId t read 1).run Script.respond (returning [3, 4, 0, 5])).1 = .ok (some 30) ∧
      ReadFirst read [3, 4, 0, 5] (.ok (some 30))) ∧
    (((page t read 4 2 none).run Script.respond paged).1 = .ok ⟨9, [30, 50]⟩ ∧
      ReadInOrder read (fun found p => p = Page.mk 9 found) [3, 5] (.ok ⟨9, [30, 50]⟩)) ∧
    ∃ m, ((columnMap t pair "title" none).run Script.respond (returning [3, 4, 5])).1 = .ok m ∧
      m.entries = [(0, 40), (1, 50)] ∧
      ReadInOrder pair SortedMap.LastWins [3, 4, 5] (.ok m) := by
  intro t bad read pair returning paged
  have hbounds : InRange 4 2 := ⟨by decide, by decide⟩
  obtain ⟨-, hids, hpage, -, hid, hmap, -⟩ :=
    rows_read_in_order t read pair (Script.respond (V := Nat))
  refine ⟨⟨by simp, hbounds⟩, ⟨rfl, ?_⟩, ⟨rfl, ?_⟩, ⟨rfl, ?_⟩, ⟨_, rfl, rfl, ?_⟩⟩
  · obtain ⟨result, hrun, h⟩ := hids [1, 2] (by simp) (returning [3, 4, 0, 5]) _ _ rfl
    have hr : result = .error bad := (congrArg Prod.fst hrun).symm
    rwa [hr] at h
  · obtain ⟨result, hrun, h⟩ := hid 1 (returning [3, 4, 0, 5]) _ _ rfl
    have hr : result = .ok (some 30) := (congrArg Prod.fst hrun).symm
    rwa [hr] at h
  · obtain ⟨result, hrun, h⟩ := hpage 4 2 none hbounds paged 9 _ rfl _ _ rfl
    have hr : result = .ok ⟨9, [30, 50]⟩ := (congrArg Prod.fst hrun).symm
    rwa [hr] at h
  · obtain ⟨result, hrun, h⟩ := hmap "title" none (returning [3, 4, 5]) _ _ rfl
    have hr : result = _ := (congrArg Prod.fst hrun).symm
    rwa [hr] at h

end Access

end RowQuery
