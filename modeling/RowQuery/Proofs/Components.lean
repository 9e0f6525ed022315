import Mathlib.Data.List.Basic
import Mathlib.Data.List.Induction
import RowQuery.Proofs.Composition
import RowQuery.Scope.Recipe

namespace RowQuery.Scope

variable {V S : Type}

/-- The parts of a scope that steps can change. -/
inductive Component where
  | columns
  | condition
  | order
  | limit
  | offset
  deriving DecidableEq

/-- A predicate with its arguments. -/
structure Restriction (V : Type) where
  predicate : String
  args : List (Arg V)

namespace Restriction

def none : Restriction V := ⟨"", []⟩

/-- One restriction after another. A blank one changes nothing, whatever its arguments. -/
def narrow (c d : Restriction V) : Restriction V :=
  if d.predicate.isEmpty then c
  else if c.predicate.isEmpty then ⟨d.predicate, c.args ++ d.args⟩
  else ⟨Filter.group c.predicate ++ " and " ++ Filter.group d.predicate, c.args ++ d.args⟩

def worded (ds : List (Restriction V)) : List (Restriction V) :=
  ds.filter (fun d => d.predicate ≠ "")

end Restriction

namespace Step

def touches : Step V S → List Component
  | .select _ => [.columns]
  | .narrow _ _ => [.condition]
  | .sort _ => [.order]
  | .matching _ => [.condition]
  | .sortedBy _ => [.order]
  | .listing _ => [.condition, .order]
  | .take _ => [.limit]
  | .skip _ => [.offset]

/-- The predicates that a step applies, also the blank ones. -/
def restrictions : Step V (Filter V) → List (Restriction V)
  | .narrow predicate args => [⟨predicate, args⟩]
  | .matching c => [⟨c.predicate, c.args⟩]
  | .listing c => [⟨c.predicate, c.args⟩]
  | _ => []

/-- The orders that a step applies, also the blank ones. -/
def orders : Step V (Filter V) → List String
  | .sort order => [order]
  | .sortedBy c => [c.orderText]
  | .listing c => [c.orderText]
  | _ => []

/-- The sort directives of a step one by one. -/
def directives : Step V (Filter V) → List String
  | .sort order => if order = "" then [] else [order]
  | .sortedBy c => c.order
  | .listing c => c.order
  | _ => []

def columns? : Step V S → Option (List String)
  | .select columns => some columns
  | _ => none

def limit? : Step V S → Option Nat
  | .take limit => some limit
  | _ => none

def offset? : Step V S → Option Nat
  | .skip offset => some offset
  | _ => none

end Step

/-- Predicates joined one after another, with parentheses around all that came before. -/
def conjunction : List String → String
  | [] => ""
  | p :: ps => ps.foldl (fun q p => Filter.group q ++ " and " ++ Filter.group p) p

theorem conjunction_concat {ps : List String} (h : ps ≠ []) (p : String) :
    conjunction (ps ++ [p]) =
      Filter.group (conjunction ps) ++ " and " ++ Filter.group p := by
  obtain ⟨q, qs, rfl⟩ := List.exists_cons_of_ne_nil h
  rw [List.cons_append, conjunction, List.foldl_append]
  rfl

theorem conjunction_eq_empty_iff {ps : List String} (h : ∀ p ∈ ps, p ≠ "") :
    conjunction ps = "" ↔ ps = [] := by
  refine ⟨fun he => ?_, fun he => by rw [he, conjunction]⟩
  induction ps using List.reverseRecOn with
  | nil => rfl
  | append_singleton ps p _ =>
    by_cases hn : ps = []
    · subst hn
      exact absurd he (h p (by simp))
    · rw [conjunction_concat hn] at he
      simp [Filter.group] at he

namespace Restriction

theorem predicate_ne_of_mem_worded {ds : List (Restriction V)} :
    ∀ p ∈ (worded ds).map predicate, p ≠ "" := by
  intro p hp
  obtain ⟨d, hd, rfl⟩ := List.mem_map.mp hp
  simpa [worded] using (List.mem_filter.mp hd).2

/-- The closed form of restrictions one after another. -/
theorem foldl_narrow (ds : List (Restriction V)) :
    ds.foldl narrow none =
      ⟨conjunction ((worded ds).map predicate), (worded ds).flatMap args⟩ := by
  induction ds using List.reverseRecOn with
  | nil => rfl
  | append_singleton ds d ih =>
    rw [List.foldl_append, List.foldl_cons, List.foldl_nil, ih, narrow]
    by_cases hd : d.predicate = ""
    · have hw : worded (ds ++ [d]) = worded ds := by simp [worded, hd]
      rw [if_pos (String.isEmpty_iff.mpr hd), hw]
    · have hw : worded (ds ++ [d]) = worded ds ++ [d] := by simp [worded, hd]
      rw [if_neg (by simpa using hd), hw, List.map_append, List.flatMap_append]
      by_cases hn : worded ds = []
      · simp [hn, conjunction]
      · have hm : (worded ds).map predicate ≠ [] := by simpa using hn
        have hc : conjunction ((worded ds).map predicate) ≠ "" :=
          mt (conjunction_eq_empty_iff predicate_ne_of_mem_worded).mp hm
        rw [if_neg (by simpa using hc), List.map_singleton, conjunction_concat hm]
        simp

end Restriction

def restriction (s : Scope V) : Restriction V := ⟨s.predicate, s.args⟩

/-- One order after another. A blank one changes nothing. -/
def orderThen (o p : String) : String :=
  if p.isEmpty then o else if o.isEmpty then p else o ++ ", " ++ p

def worded (os : List String) : List String := os.filter (fun o => o ≠ "")

theorem intercalate_eq_empty_iff {os : List String} (h : ∀ o ∈ os, o ≠ "") :
    ", ".intercalate os = "" ↔ os = [] := by
  refine ⟨fun he => ?_, fun he => by rw [he, String.intercalate_nil]⟩
  cases os with
  | nil => rfl
  | cons o os =>
    have ho : o ≠ "" := h o (by simp)
    cases os with
    | nil => exact absurd (String.intercalate_singleton.symm.trans he) ho
    | cons p os => simp [ho] at he

theorem ne_of_mem_worded {os : List String} : ∀ o ∈ worded os, o ≠ "" := by
  intro o ho
  simpa [worded] using (List.mem_filter.mp ho).2

theorem foldl_orderThen (os : List String) :
    os.foldl orderThen "" = ", ".intercalate (worded os) := by
  induction os using List.reverseRecOn with
  | nil => rfl
  | append_singleton os o ih =>
    rw [List.foldl_append, List.foldl_cons, List.foldl_nil, ih, orderThen]
    by_cases ho : o = ""
    · have hw : worded (os ++ [o]) = worded os := by simp [worded, ho]
      rw [if_pos (String.isEmpty_iff.mpr ho), hw]
    · have hw : worded (os ++ [o]) = worded os ++ [o] := by simp [worded, ho]
      rw [if_neg (by simpa using ho), hw]
      by_cases hn : worded os = []
      · simp [hn]
      · have hc : ", ".intercalate (worded os) ≠ "" :=
          mt (intercalate_eq_empty_iff ne_of_mem_worded).mp hn
        rw [if_neg (by simpa using hc), String.intercalate_append_of_ne_nil hn (by simp),
          String.intercalate_singleton]

/-- Lists that are joined and then joined again, where the empty ones leave nothing. -/
theorem intercalate_worded_map {dss : List (List String)} (h : ∀ ds ∈ dss, ∀ d ∈ ds, d ≠ "") :
    ", ".intercalate (worded (dss.map (", ".intercalate ·))) = ", ".intercalate dss.flatten := by
  induction dss with
  | nil => rfl
  | cons ds dss ih =>
    have hds : ∀ d ∈ ds, d ≠ "" := h ds (by simp)
    have hrest : ∀ es ∈ dss, ∀ d ∈ es, d ≠ "" := fun es he => h es (by simp [he])
    rw [List.map_cons, List.flatten_cons]
    by_cases hn : ds = []
    · subst hn
      simpa [worded] using ih hrest
    · have hw : worded (", ".intercalate ds :: dss.map (", ".intercalate ·)) =
          ", ".intercalate ds :: worded (dss.map (", ".intercalate ·)) :=
        List.filter_cons_of_pos (by simpa using mt (intercalate_eq_empty_iff hds).mp hn)
      have hflat : ∀ d ∈ dss.flatten, d ≠ "" := by
        intro d hd
        obtain ⟨es, he, hd⟩ := List.mem_flatten.mp hd
        exact hrest es he d hd
      have hf : worded (dss.map (", ".intercalate ·)) = [] ↔ dss.flatten = [] := by
        rw [← intercalate_eq_empty_iff ne_of_mem_worded, ih hrest, intercalate_eq_empty_iff hflat]
      rw [hw]
      by_cases he : dss.flatten = []
      · rw [hf.mpr he, he, List.append_nil, String.intercalate_singleton]
      · rw [String.intercalate_cons_of_ne_nil (mt hf.mp he), ih hrest,
          String.intercalate_append_of_ne_nil hn he]

theorem narrow_eq (s : Scope V) (predicate : String) (args : List (Arg V)) :
    s.narrow predicate args =
      let c := s.restriction.narrow ⟨predicate, args⟩
      { s with predicate := c.predicate, args := c.args } := by
  by_cases hp : predicate.isEmpty
  · simp [narrow, Restriction.narrow, restriction, hp]
  · by_cases hs : s.predicate.isEmpty
    · simp [narrow, Restriction.narrow, restriction, hp, hs]
    · simp [narrow, Restriction.narrow, restriction, hp, hs]

theorem sort_eq (s : Scope V) (order : String) :
    s.sort order = { s with order := orderThen s.order order } := by
  by_cases ho : order.isEmpty
  · simp [sort, orderThen, ho]
  · by_cases hs : s.order.isEmpty
    · simp [sort, orderThen, ho, hs]
    · simp [sort, orderThen, ho, hs]

namespace Step

/-- What a step does to each part of a scope. -/
theorem apply_eq (s : Scope V) (step : Step V (Filter V)) :
    step.apply s =
      let c := step.restrictions.foldl Restriction.narrow s.restriction
      { table := s.table
        columns := step.columns?.getD s.columns
        predicate := c.predicate
        args := c.args
        order := step.orders.foldl orderThen s.order
        limit := step.limit?.or s.limit
        offset := step.offset?.or s.offset } := by
  cases step with
  | select columns => rfl
  | narrow predicate args => exact narrow_eq s predicate args
  | sort order => exact sort_eq s order
  | matching c => exact narrow_eq s c.predicate c.args
  | sortedBy c => exact sort_eq s c.orderText
  | listing c =>
    rw [apply, Scope.listing, Scope.sortedBy, Scope.matching, sort_eq, narrow_eq]
    rfl
  | take limit => rfl
  | skip offset => rfl

/-- Parts that a step does not touch stay as they are. -/
theorem untouched (step : Step V (Filter V)) :
    (.columns ∉ step.touches → step.columns? = none) ∧
    (.condition ∉ step.touches → step.restrictions = []) ∧
    (.order ∉ step.touches → step.orders = []) ∧
    (.limit ∉ step.touches → step.limit? = none) ∧
    (.offset ∉ step.touches → step.offset? = none) := by
  cases step <;> simp [touches, columns?, restrictions, orders, limit?, offset?]

/-- Steps on different parts of a scope can be exchanged. -/
theorem apply_comm {a b : Step V (Filter V)} (h : ∀ x ∈ a.touches, x ∉ b.touches) (s : Scope V) :
    b.apply (a.apply s) = a.apply (b.apply s) := by
  obtain ⟨hac, har, hao, hal, has⟩ := a.untouched
  obtain ⟨hbc, hbr, hbo, hbl, hbs⟩ := b.untouched
  -- of two steps on different parts, one leaves a given part alone
  have hone (x : Component) : x ∉ a.touches ∨ x ∉ b.touches :=
    or_iff_not_imp_left.mpr fun hx => h x (not_not.mp hx)
  have hcolumns : b.columns?.getD (a.columns?.getD s.columns) =
      a.columns?.getD (b.columns?.getD s.columns) := by
    obtain hx | hx := hone .columns
    · rw [hac hx, Option.getD_none, Option.getD_none]
    · rw [hbc hx, Option.getD_none, Option.getD_none]
  have hcondition : b.restrictions.foldl .narrow (a.restrictions.foldl .narrow s.restriction) =
      a.restrictions.foldl .narrow (b.restrictions.foldl .narrow s.restriction) := by
    obtain hx | hx := hone .condition
    · rw [har hx, List.foldl_nil, List.foldl_nil]
    · rw [hbr hx, List.foldl_nil, List.foldl_nil]
  have horder : b.orders.foldl orderThen (a.orders.foldl orderThen s.order) =
      a.orders.foldl orderThen (b.orders.foldl orderThen s.order) := by
    obtain hx | hx := hone .order
    · rw [hao hx, List.foldl_nil, List.foldl_nil]
    · rw [hbo hx, List.foldl_nil, List.foldl_nil]
  have hlimit : b.limit?.or (a.limit?.or s.limit) = a.limit?.or (b.limit?.or s.limit) := by
    obtain hx | hx := hone .limit
    · rw [hal hx, Option.none_or, Option.none_or]
    · rw [hbl hx, Option.none_or, Option.none_or]
  have hoffset : b.offset?.or (a.offset?.or s.offset) = a.offset?.or (b.offset?.or s.offset) := by
    obtain hx | hx := hone .offset
    · rw [has hx, Option.none_or, Option.none_or]
    · rw [hbs hx, Option.none_or, Option.none_or]
  have hr (step : Step V (Filter V)) :
      (step.apply s).restriction = step.restrictions.foldl .narrow s.restriction := by
    rw [apply_eq]
    rfl
  rw [apply_eq (a.apply s), apply_eq (b.apply s), hr, hr, hcondition, apply_eq, apply_eq, hcolumns,
    horder, hlimit, hoffset]

/-- Without blanks, the orders of a step are its directives put together. -/
theorem worded_orders (step : Step V (Filter V)) :
    worded step.orders = worded [", ".intercalate step.directives] := by
  cases step with
  | sort order =>
    by_cases h : order = ""
    · simp [orders, directives, worded, h]
    · simp [orders, directives, worded, h]
  | _ => rfl

end Step

theorem foldl_or {α β : Type} (f : α → Option β) (xs : List α) (o : Option β) :
    xs.foldl (fun o x => (f x).or o) o = (xs.filterMap f).getLast?.or o := by
  induction xs using List.reverseRecOn with
  | nil => rfl
  | append_singleton xs x ih =>
    rw [List.foldl_append, ih, List.filterMap_append, List.getLast?_append, Option.or_assoc]
    cases h : f x <;> simp [h]

namespace Recipe

/-- The steps of a recipe with their filters built. -/
def built (r : Recipe V) : List (Step V (Filter V)) := r.steps.map Step.buildParts

/-- The predicates that a recipe applies, without the blank ones. -/
def restrictions (r : Recipe V) : List (Restriction V) :=
  Restriction.worded (r.built.flatMap Step.restrictions)

def orders (r : Recipe V) : List String := worded (r.built.flatMap Step.orders)

def directives (r : Recipe V) : List String := r.built.flatMap Step.directives

theorem build_eq_foldl (r : Recipe V) : r.build = r.built.foldl Step.apply r.start.build := by
  rw [built, List.foldl_map]
  rfl

theorem restriction_build (r : Recipe V) :
    r.build.restriction =
      ⟨conjunction (r.restrictions.map Restriction.predicate),
        r.restrictions.flatMap Restriction.args⟩ := by
  have hs : (r.start.build : Scope V).restriction = .none := by
    cases r.start <;> rfl
  rw [restrictions, ← Restriction.foldl_narrow, List.foldl_flatMap, build_eq_foldl, ← hs]
  refine (List.foldl_hom restriction (fun s step => ?_)).symm
  rw [Step.apply_eq]
  rfl

theorem order_build (r : Recipe V) : r.build.order = ", ".intercalate r.orders := by
  have hs : (r.start.build : Scope V).order = "" := by
    cases r.start <;> rfl
  rw [orders, ← foldl_orderThen, List.foldl_flatMap, build_eq_foldl, ← hs]
  refine (List.foldl_hom Scope.order (fun s step => ?_)).symm
  rw [Step.apply_eq]

theorem table_build (r : Recipe V) : r.build.table = (r.start.build : Scope V).table := by
  rw [build_eq_foldl]
  refine List.foldlRecOn (motive := fun s => s.table = (r.start.build : Scope V).table) r.built
    Step.apply rfl ?_
  intro s hs step _
  rw [Step.apply_eq, hs]

theorem columns_build (r : Recipe V) :
    r.build.columns =
      (r.built.filterMap Step.columns?).getLast?.getD (r.start.build : Scope V).columns := by
  rw [← Option.some_inj, ← Option.or_some, ← foldl_or, build_eq_foldl]
  refine (List.foldl_hom (fun s : Scope V => some s.columns) (fun s step => ?_)).symm
  rw [Step.apply_eq, Option.or_some]

theorem limit_build (r : Recipe V) :
    r.build.limit = (r.built.filterMap Step.limit?).getLast? := by
  have hs : (r.start.build : Scope V).limit = none := by
    cases r.start <;> rfl
  rw [← Option.or_none (o := List.getLast? _), ← foldl_or, build_eq_foldl, ← hs]
  refine (List.foldl_hom Scope.limit (fun s step => ?_)).symm
  rw [Step.apply_eq]

theorem offset_build (r : Recipe V) :
    r.build.offset = (r.built.filterMap Step.offset?).getLast? := by
  have hs : (r.start.build : Scope V).offset = none := by
    cases r.start <;> rfl
  rw [← Option.or_none (o := List.getLast? _), ← foldl_or, build_eq_foldl, ← hs]
  refine (List.foldl_hom Scope.offset (fun s step => ?_)).symm
  rw [Step.apply_eq]

/-- Where no sort directive is blank, the order is all of them put together. -/
theorem order_build_of_worded (r : Recipe V) (h : ∀ d ∈ r.directives, d ≠ "") :
    r.build.order = ", ".intercalate r.directives := by
  have hw : r.orders = worded ((r.built.map Step.directives).map (", ".intercalate ·)) := by
    rw [orders, worded, List.filter_flatMap, List.map_map, List.map_eq_flatMap, worded,
      List.filter_flatMap]
    exact List.flatMap_congr (fun step _ => step.worded_orders)
  have hd : ∀ ds ∈ r.built.map Step.directives, ∀ d ∈ ds, d ≠ "" := by
    intro ds hds d hd
    exact h d (List.mem_flatten.mpr ⟨ds, hds, hd⟩)
  rw [order_build, hw, intercalate_worded_map hd]
  rfl

/-- A scope that reaches every row has no arguments, for they go with the predicates. -/
theorem args_of_predicate_empty (r : Recipe V) (h : r.build.predicate = "") :
    r.build.args = [] := by
  have hp : r.build.predicate = conjunction (r.restrictions.map Restriction.predicate) :=
    congrArg Restriction.predicate r.restriction_build
  have ha : r.build.args = r.restrictions.flatMap Restriction.args :=
    congrArg Restriction.args r.restriction_build
  have hn : r.restrictions.map Restriction.predicate = [] :=
    (conjunction_eq_empty_iff Restriction.predicate_ne_of_mem_worded).mp (hp.symm.trans h)
  rw [ha, List.map_eq_nil_iff.mp hn, List.flatMap_nil]

end Recipe

open Statement

/-- The arguments of a condition are bound as long as there are slots, and the others are left
over. -/
theorem condition_accounts {s : Scope V} (h : s.predicate = "" → s.args = []) :
    s.condition.params = Arg.flatten (s.args.take (placeholders s.predicate)) ∧
    (s.args.take (placeholders s.predicate)).length + s.condition.surplus = s.args.length := by
  by_cases hp : s.predicate = ""
  · rw [condition, Statement.condition, if_pos hp, h hp, List.take_nil]
    exact ⟨rfl, rfl⟩
  · have hq : s.condition = (literal " WHERE ").followedBy (empty.fill s.predicate s.args) := by
      rw [condition, Statement.condition, if_neg hp]
    have hparams : s.condition.params = Arg.flatten (s.args.take (slots s.predicate)) := by
      rw [hq]
      exact params_fillPieces 0 (pieces s.predicate.toList) s.args
    have hsurplus : s.condition.surplus = s.args.length - slots s.predicate := by
      rw [hq]
      exact (Nat.zero_add _).trans ((Nat.zero_add _).trans
        (surplus_fillPieces 0 (pieces s.predicate.toList) s.args))
    rw [← slots_eq_placeholders, hsurplus, List.length_take]
    exact ⟨hparams, by omega⟩

theorem statements_account {s : Scope V} (h : s.predicate = "" → s.args = []) :
    ∀ q ∈ [s.countStatement, s.selectStatement, s.deleteStatement],
      q.params = Arg.flatten (s.args.take (placeholders s.predicate)) ∧
      (s.args.take (placeholders s.predicate)).length + q.surplus = s.args.length := by
  obtain ⟨hp, hs⟩ := condition_accounts h
  have hl (t : String) : ((literal t).followedBy s.condition).surplus = s.condition.surplus :=
    Nat.zero_add _
  have hw (q : Statement V) (t : String) : (q.write t).surplus = q.surplus := rfl
  have hq : ∀ q ∈ [s.countStatement, s.selectStatement, s.deleteStatement],
      q.params = s.condition.params ∧ q.surplus = s.condition.surplus := by
    rw [countStatement_eq, selectStatement_eq, deleteStatement_eq]
    simp only [List.forall_mem_cons, hw, hl]
    exact ⟨⟨rfl, trivial⟩, ⟨rfl, trivial⟩, ⟨rfl, trivial⟩, by simp⟩
  intro q hm
  rw [(hq q hm).1, (hq q hm).2]
  exact ⟨hp, hs⟩

namespace Recipe

/-- The parts of a scope are built independently. The predicates that are not blank are joined in
turn, and all their arguments come one after another; so do the orders; of the columns and of each
bound the last one counts. Steps on different parts can be exchanged. A scope without a predicate
has no arguments, so a statement that reads or deletes binds or leaves over every argument of its
scope. -/
theorem scope_is_product (r : Recipe V) :
    let s : Scope V := r.build
    let start : Scope V := r.start.build
    s.table = start.table ∧
    (s.predicate = conjunction (r.restrictions.map Restriction.predicate) ∧
      s.args = r.restrictions.flatMap Restriction.args) ∧
    s.order = ", ".intercalate r.orders ∧
    s.columns = (r.built.filterMap Step.columns?).getLast?.getD start.columns ∧
    s.limit = (r.built.filterMap Step.limit?).getLast? ∧
    s.offset = (r.built.filterMap Step.offset?).getLast? ∧
    (∀ (s : Scope V) (a b : Step V (Filter V)), (∀ x ∈ a.touches, x ∉ b.touches) →
      b.apply (a.apply s) = a.apply (b.apply s)) ∧
    (∀ (s : Scope V) (c : Filter V), s.listing c = (s.matching c).sortedBy c ∧
      s.listing c = (s.sortedBy c).matching c) ∧
    ((∀ d ∈ r.directives, d ≠ "") → s.order = ", ".intercalate r.directives) ∧
    (s.predicate = "" → s.args = []) ∧
    ∀ q ∈ [s.countStatement, s.selectStatement, s.deleteStatement],
      q.params = Arg.flatten (s.args.take (placeholders s.predicate)) ∧
      (s.args.take (placeholders s.predicate)).length + q.surplus = s.args.length := by
  intro s start
  have hcomm (s : Scope V) (c : Filter V) : (s.matching c).sortedBy c = (s.sortedBy c).matching c :=
    Step.apply_comm (a := .matching c) (b := .sortedBy c) (by simp [Step.touches]) s
  refine ⟨r.table_build, ⟨congrArg Restriction.predicate r.restriction_build,
    congrArg Restriction.args r.restriction_build⟩, r.order_build, r.columns_build, r.limit_build,
    r.offset_build, fun s a b h => Step.apply_comm h s, fun s c => ⟨rfl, hcomm s c⟩,
    r.order_build_of_worded, r.args_of_predicate_empty, ?_⟩
  exact statements_account r.args_of_predicate_empty

/-- Blank predicates and orders among others, and every bound set twice. -/
def recentPosts : Recipe Nat :=
  ⟨.all "posts",
    [.narrow "" [.scalar 1], .take 5,
      .listing (.step (.step .blank true (.compare "author" .equal 7)) true (.descending ["day"])),
      .sort "", .select ["id"], .matching (.step .blank true (.expr "" [.scalar 2])),
      .narrow "tag in ?" [.list [3, 4], .scalar 9], .skip 20, .sort "id", .take 10, .skip 0]⟩

theorem scope_is_product_recentPosts :
    let s : Scope Nat := recentPosts.build
    let unfiltered : Recipe Nat := ⟨.all "posts", [.narrow "" [.scalar 1]]⟩
    (s.predicate = "( author = ? ) and ( tag in ? )" ∧
      s.args = [.scalar 7, .list [3, 4], .scalar 9]) ∧
    ((∀ d ∈ recentPosts.directives, d ≠ "") ∧ s.order = "day desc, id") ∧
    (s.columns = ["id"] ∧ s.limit = some 10 ∧ s.offset = some 0) ∧
    (s.countStatement.params = [7, 3, 4] ∧ 2 + s.countStatement.surplus = 3) ∧
    ((s.sort "id").take 3 = (s.take 3).sort "id") ∧
    (unfiltered.build.predicate = "" ∧ unfiltered.build.args = []) := by
  intro s unfiltered
  obtain ⟨-, ⟨hpredicate, hargs⟩, -, hcolumns, hlimit, hoffset, hcomm, -, horder, -, hq⟩ :=
    recentPosts.scope_is_product
  obtain ⟨-, -, -, -, -, -, -, -, -, hempty, -⟩ := unfiltered.scope_is_product
  have hp : placeholders s.predicate = 2 := by
    rw [hpredicate]
    decide
  have ha : s.args = [.scalar 7, .list [3, 4], .scalar 9] := hargs.trans (by decide)
  have hd : recentPosts.directives = ["day desc", "id"] := by decide
  have hw : ∀ d ∈ recentPosts.directives, d ≠ "" := by simp [hd]
  have hc := hq s.countStatement List.mem_cons_self
  rw [hp, ha] at hc
  exact ⟨⟨hpredicate.trans (by decide), ha⟩, ⟨hw, (horder hw).trans (by rw [hd]; rfl)⟩,
    ⟨hcolumns, hlimit, hoffset⟩, hc, (hcomm s (.sort "id") (.take 3) (by simp [Step.touches])),
    rfl, hempty rfl⟩

end Recipe

end RowQuery.Scope
