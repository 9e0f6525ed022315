import RowQuery.Proofs.Interleavings
import RowQuery.Proofs.Loading
import RowQuery.Proofs.Runs

namespace RowQuery

variable {V R M σ : Type}

namespace Statement

/-- Every two question marks after one another as one of them. -/
def undouble : List Char → List Char
  | [] => []
  | '?' :: '?' :: cs => '?' :: undouble cs
  | c :: cs => c :: undouble cs

def undoubled (text : String) : String := String.ofList (undouble text.toList)

theorem flatMap_undouble {cs : List Char} (h : (runs cs).countP (fun n => n % 2 == 1) = 0) :
    (undouble cs).flatMap (fun c => if c = '?' then ['?', '?'] else [c]) = cs := by
  fun_induction undouble cs with
  | case1 => rfl
  | case2 cs ih =>
    rw [countP_runs_double] at h
    simp [ih h]
  | case3 c cs hne ih =>
    by_cases hc : c = '?'
    · -- a run of one question mark has odd length
      have hs : ∀ rest, cs ≠ '?' :: rest := fun rest he => hne rest hc he
      rw [hc, countP_runs_single hs] at h
      omega
    · rw [runs_cons hc, List.countP_cons_of_neg (by simp)] at h
      simp [hc, ih h]

theorem EvenRuns.doubled_undoubled {text : String} (h : EvenRuns text) :
    doubled (undoubled text) = text := by
  have hc : (runs text.toList).countP (fun n => n % 2 == 1) = 0 := by
    rw [← placeholders, ← slots_eq_placeholders, h.slots_eq_zero]
  rw [doubled, undoubled, String.toList_ofList, flatMap_undouble hc, String.ofList_toList]

/-- A text without placeholders is written with its question marks undoubled. -/
theorem EvenRuns.fill_eq {text : String} (h : EvenRuns text) (s : Statement V) :
    s.fill text [] = s.write (undoubled text) := by
  have hd := fill_doubled s (undoubled text) ([] : List (Arg V))
  rwa [h.doubled_undoubled] at hd

theorem text_fill_slot (s : Statement V) (a : Arg V) :
    (s.fill "?" [a]).text = s.text ++ a.written s.params.length := by
  have ha := text_ofArg_append s.params.length a empty (a.values ++ [])
  have he : (empty : Statement V).text = "" := rfl
  rw [he, String.append_empty] at ha
  rw [text_fill]
  exact congrArg (s.text ++ ·) ha

/-- A field, an operator and one argument. -/
theorem EvenRuns.fill_operator {field op : String} (h : EvenRuns field) (ho : Separator op)
    (s : Statement V) (a : Arg V) :
    let q := s.fill (field ++ (op ++ "?")) [a]
    q.text = s.text ++ undoubled field ++ (op ++ a.written s.params.length) ∧
    q.params = s.params ++ a.values ∧ q.surplus = s.surplus := by
  intro q
  have hq : q = ((s.write (undoubled field)).write op).fill "?" [a] := by
    have hs := fill_separated h.balanced ho s "?" [a]
    rwa [List.nil_append, h.fill_eq, String.append_assoc] at hs
  have hb : Balanced "?" [a] := rfl
  refine ⟨?_, ?_, ?_⟩
  · rw [hq, text_fill_slot, text_write, text_write, String.append_assoc]
    rfl
  · rw [hq, params_fill hb]
    simp [write, Arg.flatten]
  · rw [hq, surplus_fill hb]
    rfl

end Statement

namespace Filter

open Statement

/-- The condition that a field has one of some values. No value is no condition, and one value is
not made a list. -/
def membership (field : String) : List V → List (Clause V)
  | [] => []
  | [v] => [⟨.and, field ++ " = ?", [.scalar v]⟩]
  | vs => [⟨.and, field ++ " in ?", [.list vs]⟩]

/-- How membership in some values is written, where `bound` values come before them. -/
def membershipText (bound : Nat) (vs : List V) : String :=
  if vs.length = 1 then " = " ++ Arg.numeral (bound + 1)
  else " in (" ++ ", ".intercalate ((List.range' (bound + 1) vs.length).map Arg.numeral) ++ ")"

theorem compare_equal (c : Filter V) (field : String) (v : V) :
    c.compare field .equal v = ⟨c.clauses ++ membership field [v], c.order⟩ := by
  have hs : field ++ " " ++ Comparison.equal.symbol ++ " ?" = field ++ " = ?" := by
    rw [String.append_assoc, String.append_assoc]
    rfl
  rw [compare, hs]
  rfl

theorem isIn_eq (c : Filter V) (field : String) (values : List (Arg V)) :
    c.isIn field values = ⟨c.clauses ++ membership field (Arg.flatten values), c.order⟩ := by
  rw [isIn]
  rcases Arg.flatten values with _ | ⟨v, _ | ⟨w, vs⟩⟩
  · rw [membership, List.append_nil]
  · exact compare_equal c field v
  · rfl

theorem membership_of_two_le (field : String) {vs : List V} (h : 2 ≤ vs.length) :
    membership field vs = [⟨.and, field ++ " in ?", [.list vs]⟩] := by
  match vs, h with
  | _ :: _ :: _, _ => rfl

theorem flatten_list (vs : List V) : Arg.flatten [.list vs] = vs := List.append_nil vs

theorem written_list (bound : Nat) {vs : List V} (h : 2 ≤ vs.length) :
    " in " ++ (Arg.list vs).written bound = membershipText bound vs := by
  match vs, h with
  | v :: w :: vs, _ =>
    rw [Arg.written, membershipText, if_neg (by simp), ← String.append_assoc, ← String.append_assoc]
    rfl

theorem fill_membership {field : String} (h : EvenRuns field) {vs : List V} {k : Clause V}
    (hk : k ∈ membership field vs) (s : Statement V) :
    let q := s.fill k.sql k.args
    q.text = s.text ++ undoubled field ++ membershipText s.params.length vs ∧
    q.params = s.params ++ vs ∧ q.surplus = s.surplus := by
  rcases vs with _ | ⟨v, _ | ⟨w, vs⟩⟩
  · cases hk
  · obtain rfl := List.mem_singleton.mp hk
    have ho : Separator " = " := by decide
    exact h.fill_operator ho s (.scalar v)
  · obtain rfl := List.mem_singleton.mp hk
    have ho : Separator " in " := by decide
    have hq := h.fill_operator ho s (.list (v :: w :: vs))
    rwa [written_list _ (by simp)] at hq

theorem predicate_isInList_ne (field : String) {vs : List V} (h : vs ≠ []) :
    (empty.isInList field vs).predicate ≠ "" := by
  rw [isInList, isIn_eq, flatten_list]
  rcases vs with _ | ⟨v, _ | ⟨w, vs⟩⟩
  · exact absurd rfl h
  · simp [predicate, joined, membership]
  · simp [predicate, joined, membership]

end Filter

namespace Access

open Dialogue Statement

/-- The rows that a condition selects from a table, in no order and without bounds. -/
def selected (t : Table) (c : Filter V) : Scope V where
  table := t.name
  columns := t.columns
  predicate := c.predicate
  args := c.args
  order := ""
  limit := none
  offset := none

theorem matching_eq_selected (t : Table) {c : Filter V} (h : c.predicate ≠ "") :
    matching t (some c) = selected t c := by
  rw [matching_eq_counted, counted, Option.elim_some, Option.elim_some, Filter.usedArgs, if_neg h]
  rfl

theorem transcript_byIds (t : Table) (read : R → Except Failure M) (respond : Responder V R σ)
    (st : σ) {ids : List V} (h : ids ≠ []) :
    ∃ reply, (byIds t read ids).transcript respond st =
      [⟨.find (selected t (Filter.empty.isInList t.idColumn ids)), reply⟩] := by
  have hs := matching_eq_selected t (Filter.predicate_isInList_ne t.idColumn h)
  rw [byIds_eq_ask t read h, hs]
  exact ⟨_, transcript_ask_done respond (.find _) (fun rows : List R => rows.mapM read) st⟩

theorem transcript_byId (t : Table) (read : R → Except Failure M) (respond : Responder V R σ)
    (st : σ) (id : V) :
    ∃ reply, (byId t read id).transcript respond st =
      [⟨.find ((selected t (Filter.empty.isInList t.idColumn [id])).take 1), reply⟩] := by
  have hc : Filter.empty.compare t.idColumn .equal id = Filter.empty.isInList t.idColumn [id] := by
    rw [Filter.compare_equal]
    exact (Filter.isIn_eq .empty t.idColumn [.list [id]]).symm
  have hs := matching_eq_selected t (Filter.predicate_isInList_ne t.idColumn (List.cons_ne_nil id []))
  rw [byId, first_eq_ask, hc, hs]
  exact ⟨_, transcript_ask_done respond (.find _) (readFirst read) st⟩

/-- Membership in a set of values depends on nothing but the values, one after another. No value is
no condition, one value is equality, and a list that is written has at least two values, which are
all bound in their order. Ids are looked up by the same conditions, and without an id nothing is
asked for. -/
theorem isIn_by_values {field : String} (h : EvenRuns field) (values : List (Arg V)) (t : Table)
    (read : R → Except Failure M) (respond : Responder V R σ) (st : σ) :
    let vs := Arg.flatten values
    (∀ c : Filter V,
      (vs = [] → c.isIn field values = c) ∧
      (∀ v, vs = [v] → c.isIn field values = c.compare field .equal v) ∧
      (2 ≤ vs.length → c.isIn field values =
        ⟨c.clauses ++ [⟨.and, field ++ " in ?", [.list vs]⟩], c.order⟩) ∧
      (∀ others, Arg.flatten others = vs → c.isIn field others = c.isIn field values) ∧
      c.isInList field vs = c.isIn field values ∧
      ∀ k, (c.isIn field values).clauses = c.clauses ++ [k] → ∀ s : Statement V,
        let q := s.fill k.sql k.args
        q.text = s.text ++ undoubled field ++ Filter.membershipText s.params.length vs ∧
        q.params = s.params ++ vs ∧ q.surplus = s.surplus) ∧
    (∀ u : Update V,
      Update.Change.apply u (.narrow (.isIn field values)) =
        .ok ⟨u.filter.isIn field values, u.assignments⟩ ∧
      Update.Change.apply u (.narrow (.isInList field vs)) =
        .ok ⟨u.filter.isIn field values, u.assignments⟩) ∧
    ((byIds t read []).transcript respond st = [] ∧
      (byIds t read []).run respond st = (.ok [], st)) ∧
    ∀ ids, ids ≠ [] →
      (∃ reply, (byIds t read ids).transcript respond st =
        [⟨.find (selected t (Filter.empty.isInList t.idColumn ids)), reply⟩]) ∧
      ∀ id, ids = [id] → ∃ reply, (byId t read id).transcript respond st =
        [⟨.find ((selected t (Filter.empty.isInList t.idColumn ids)).take 1), reply⟩] := by
  intro vs
  have hin (c : Filter V) :
      c.isIn field values = ⟨c.clauses ++ Filter.membership field vs, c.order⟩ :=
    Filter.isIn_eq c field values
  have hlist (c : Filter V) : c.isInList field vs = c.isIn field values := by
    rw [hin, Filter.isInList, Filter.isIn_eq, Filter.flatten_list]
  refine ⟨fun c => ⟨fun hv => ?_, fun v hv => ?_, fun hv => ?_, fun others ho => ?_, hlist c,
    fun k hk s => ?_⟩, fun u => ⟨rfl, ?_⟩, ⟨rfl, rfl⟩,
    fun ids hids => ⟨transcript_byIds t read respond st hids, ?_⟩⟩
  · rw [hin, hv, Filter.membership, List.append_nil]
  · rw [hin, hv, Filter.compare_equal]
  · rw [hin, Filter.membership_of_two_le field hv]
  · rw [hin, Filter.isIn_eq, ho]
  · rw [hin] at hk
    refine Filter.fill_membership h ?_ s
    rw [List.append_cancel_left hk]
    exact List.mem_singleton_self k
  · exact congrArg (fun c => Except.ok (⟨c, u.assignments⟩ : Update V)) (hlist u.filter)
  · rintro id rfl
    exact transcript_byId t read respond st id

/-- An empty list, a value and a list, for a field with an escaped question mark. -/
theorem isIn_by_values_nested :
    let field := "meta ?? 'k'"
    let c : Filter Nat := Filter.empty.expr "kind = 'doc'" []
    let d : Filter Nat := c.isIn field [.list [], .scalar 5, .list [6, 5]]
    let s : Statement Nat := ⟨[], [9], 0⟩
    let t : Table := ⟨"docs", "d.id", ["d.id"]⟩
    EvenRuns field ∧ d = c.isInList field [5, 6, 5] ∧ ([7] : List Nat) ≠ [] ∧
    (∃ k, d.clauses = c.clauses ++ [k] ∧
      (s.fill k.sql k.args).text = "meta ? 'k' in ($2, $3, $4)" ∧
      (s.fill k.sql k.args).params = [9, 5, 6, 5]) ∧
    ∃ reply, (byIds t (Except.ok : Nat → Except Failure Nat) [7]).transcript Script.respond
      (.ofReplies []) = [⟨.find ⟨"docs", ["d.id"], "d.id = ?", [.scalar 7], "", none, none⟩, reply⟩] := by
  intro field c d s t
  have h : EvenRuns field := by decide
  obtain ⟨hc, -, -, hids⟩ := isIn_by_values h [.list [], .scalar 5, .list [6, 5]] t
    (Except.ok : Nat → Except Failure Nat) Script.respond (.ofReplies [])
  obtain ⟨-, -, htwo, -, hlist, hfill⟩ := hc c
  have hd := congrArg Filter.clauses (htwo (by decide))
  obtain ⟨ht, hp, -⟩ := hfill _ hd s
  exact ⟨h, hlist.symm, by simp, ⟨_, hd, ht.trans (by decide), hp⟩, (hids [7] (by simp)).1⟩

end Access

end RowQuery
