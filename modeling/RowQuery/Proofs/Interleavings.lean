import RowQuery.Proofs.Clauses
import RowQuery.Proofs.SortedMaps
import RowQuery.Update.Recipe

namespace RowQuery

variable {V S : Type}

namespace Filter

namespace Call

/-- Sort directives are no condition. -/
def isSort : Call V S → Bool
  | .ascending _ => true
  | .descending _ => true
  | _ => false

def directives : Call V S → List String
  | .ascending fields => fields
  | .descending fields => fields.map (· ++ " desc")
  | _ => []

end Call

theorem order_foldl_conjunct (c : Filter V) (parts : List (Filter V)) :
    (parts.foldl (fun c p => c.push .and (group p.predicate) p.args) c).order = c.order := by
  induction parts generalizing c with
  | nil => rfl
  | cons p ps ih => rw [List.foldl_cons, ih, order_push]

theorem order_andGroups (c : Filter V) (parts : List (Filter V)) :
    (c.andGroups parts).order = c.order := by
  rw [andGroups]
  by_cases h : parts.isEmpty || parts.any isTrivial
  · rw [if_pos h]
  · rw [if_neg h, order_foldl_conjunct]

theorem order_orGroup (c part : Filter V) : (c.orGroup part).order = c.order := by
  rw [orGroup]
  by_cases h : part.isTrivial
  · rw [if_pos h]
  · rw [if_neg h, order_push]

theorem order_isIn (c : Filter V) (field : String) (values : List (Arg V)) :
    (c.isIn field values).order = c.order := by
  rw [isIn]
  cases Arg.flatten values with
  | nil => rfl
  | cons v vs => cases vs <;> rfl

theorem order_apply (c : Filter V) (call : Call V (Filter V)) :
    (call.apply c).order = c.order ++ call.directives := by
  cases call with
  | ascending fields => rfl
  | descending fields => rfl
  | expr sql args => exact (List.append_nil _).symm
  | compare field op value => exact (List.append_nil _).symm
  | isIn field values => exact (order_isIn c field values).trans (List.append_nil _).symm
  | isInList field values =>
    exact (order_isIn c field [.list values]).trans (List.append_nil _).symm
  | isInQuery field query args => exact (List.append_nil _).symm
  | andGroups parts => exact (order_andGroups c parts).trans (List.append_nil _).symm
  | orGroup part => exact (order_orGroup c part).trans (List.append_nil _).symm

namespace Recipe

theorem directives_buildParts (call : Call V (Recipe V)) :
    (buildParts call).directives = call.directives := by
  cases call <;> rfl

/-- The filter after some more calls. -/
def narrow (c : Filter V) (calls : List (Call V (Recipe V))) : Filter V :=
  calls.foldl (fun c call => (buildParts call).apply c) c

theorem clauses_narrow (c : Filter V) (calls : List (Call V (Recipe V))) :
    (narrow c calls).clauses =
      c.clauses ++ calls.flatMap (fun call => ((buildParts call).apply empty).clauses) := by
  induction calls generalizing c with
  | nil => exact (List.append_nil _).symm
  | cons call calls ih =>
    have hc : narrow c (call :: calls) = narrow ((buildParts call).apply c) calls := rfl
    rw [hc, ih, clauses_apply, List.append_assoc, List.flatMap_cons]

theorem order_narrow (c : Filter V) (calls : List (Call V (Recipe V))) :
    (narrow c calls).order = c.order ++ calls.flatMap Call.directives := by
  induction calls generalizing c with
  | nil => exact (List.append_nil _).symm
  | cons call calls ih =>
    have hc : narrow c (call :: calls) = narrow ((buildParts call).apply c) calls := rfl
    rw [hc, ih, order_apply, directives_buildParts, List.append_assoc, List.flatMap_cons]

/-- Calls that sort make no difference to the clauses. -/
theorem clauses_narrow_conditions (c : Filter V) (calls : List (Call V (Recipe V))) :
    (narrow c calls).clauses = (narrow c (calls.filter (fun call => !call.isSort))).clauses := by
  rw [clauses_narrow, clauses_narrow]
  congr 1
  induction calls with
  | nil => rfl
  | cons call calls ih =>
    rw [List.flatMap_cons, ih]
    cases call <;> rfl

end Recipe

end Filter

namespace Update

namespace Change

/-- What a change does to the filter, if it is for the filter. -/
def narrowing? : Change V S → Option (Filter.Call V S)
  | .narrow call => some call
  | _ => none

/-- What a change assigns to a column. A document that could not be stored is not assigned. -/
def write? : Change V S → Option (String × Assignment V)
  | .set column v => some (column, .value v)
  | .setExpr column sql args => some (column, .expr sql args)
  | .setDocument column (.ok v) => some (column, .value v)
  | _ => none

/-- The update after a change that is switched on. -/
def make (u : Update V) (change : Change V (Filter.Recipe V)) : Update V :=
  (change.buildParts.applyIf true u).1

theorem filter_make (u : Update V) (change : Change V (Filter.Recipe V)) :
    (make u change).filter =
      change.narrowing?.elim u.filter
        (fun call => (Filter.Recipe.buildParts call).apply u.filter) := by
  cases change with
  | setDocument column document => cases document <;> rfl
  | _ => rfl

theorem assignments_make (u : Update V) (change : Change V (Filter.Recipe V)) :
    (make u change).assignments =
      change.write?.elim u.assignments (fun w => u.assignments.insert w.1 w.2) := by
  cases change with
  | setDocument column document => cases document <;> rfl
  | _ => rfl

end Change

namespace Recipe

/-- The changes that are switched on. -/
def effective (r : Recipe V) : List (Change V (Filter.Recipe V)) :=
  (r.steps.filter (fun step => step.1)).map (fun step => step.2)

/-- The calls on the filter, in their order. -/
def narrowings (r : Recipe V) : List (Filter.Call V (Filter.Recipe V)) :=
  r.effective.filterMap Change.narrowing?

def conditions (r : Recipe V) : List (Filter.Call V (Filter.Recipe V)) :=
  r.narrowings.filter (fun call => !call.isSort)

def directives (r : Recipe V) : List String := r.narrowings.flatMap Filter.Call.directives

def writes (r : Recipe V) : List (String × Assignment V) := r.effective.filterMap Change.write?

theorem stepFrom_eq (u : Update V) (step : Bool × Change V (Filter.Recipe V)) :
    (stepFrom u step).1 = if step.1 then step.2.make u else u := by
  obtain ⟨enabled, change⟩ := step
  cases enabled <;> rfl

theorem build_eq_foldl (r : Recipe V) : r.build = r.effective.foldl Change.make r.start.build := by
  rw [effective, List.foldl_map, List.foldl_filter, build]
  simp only [stepFrom_eq]

theorem filter_build (r : Recipe V) :
    r.build.filter = Filter.Recipe.narrow r.start.build.filter r.narrowings := by
  rw [build_eq_foldl, narrowings, Filter.Recipe.narrow, List.foldl_filterMap]
  refine (List.foldl_hom Update.filter (fun u change => ?_)).symm
  rw [Change.filter_make]
  cases change.narrowing? <;> rfl

theorem assignments_start (s : Start (Filter.Recipe V)) : s.build.assignments = .empty := by
  cases s <;> rfl

theorem order_start (s : Start (Filter.Recipe V)) : s.build.filter.order = [] := by
  cases s with
  | blank => rfl
  | confined parts => exact Filter.order_andGroups .empty _

theorem assignments_build (r : Recipe V) : r.build.assignments = SortedMap.ofList r.writes := by
  rw [build_eq_foldl, writes, SortedMap.ofList, List.foldl_filterMap, ← assignments_start r.start]
  refine (List.foldl_hom Update.assignments (fun u change => ?_)).symm
  rw [Change.assignments_make]
  cases change.write? <;> rfl

theorem clauses_build (r : Recipe V) :
    r.build.filter.clauses =
      (Filter.Recipe.narrow r.start.build.filter r.conditions).clauses := by
  rw [filter_build, Filter.Recipe.clauses_narrow_conditions]
  rfl

theorem order_build (r : Recipe V) : r.build.filter.order = r.directives := by
  rw [filter_build, Filter.Recipe.order_narrow, order_start, List.nil_append]
  rfl

/-- Only a document that could not be stored is a fault, and it changes nothing. -/
theorem stepFrom_fault (u : Update V) (step : Bool × Change V (Filter.Recipe V))
    (fault : String) :
    ((stepFrom u step).2 = some fault ↔
      ∃ column, step = (true, .setDocument column (.error fault))) ∧
    ((stepFrom u step).2 = some fault → (stepFrom u step).1 = u) := by
  obtain ⟨enabled, change⟩ := step
  cases enabled with
  | false => simp [stepFrom, Change.applyIf]
  | true =>
    cases change with
    | setDocument column document =>
      cases document with
      | error e =>
        simp [stepFrom, Change.applyIf, Change.buildParts, Change.apply, setDocument, Except.map]
      | ok v =>
        simp [stepFrom, Change.applyIf, Change.buildParts, Change.apply, setDocument, Except.map]
    | _ => simp [stepFrom, Change.applyIf, Change.buildParts, Change.apply]

theorem build_congr {r r' : Recipe V} (hs : r'.start = r.start)
    (hc : r'.conditions = r.conditions) (hd : r'.directives = r.directives)
    (hw : ∀ column, r'.writes.filter (fun w => w.1 = column) =
      r.writes.filter (fun w => w.1 = column)) :
    r'.build = r.build := by
  have hclauses : r'.build.filter.clauses = r.build.filter.clauses := by
    rw [clauses_build, clauses_build, hs, hc]
  have horder : r'.build.filter.order = r.build.filter.order := by
    rw [order_build, order_build, hd]
  have hassignments : r'.build.assignments = r.build.assignments := by
    rw [assignments_build, assignments_build, SortedMap.ofList_congr hw]
  calc r'.build = ⟨⟨r'.build.filter.clauses, r'.build.filter.order⟩, r'.build.assignments⟩ := rfl
    _ = ⟨⟨r.build.filter.clauses, r.build.filter.order⟩, r.build.assignments⟩ := by
      rw [hclauses, horder, hassignments]
    _ = r.build := rfl

/-- The conditions, the order and the assignments of an update are built independently, each by the
steps that are for it. A column is assigned what is written to it last. Two recipes with the same
conditions, the same sort directives and, for each column, the same writes build the same update,
in whatever way these are interleaved. -/
theorem update_is_product (r : Recipe V) :
    let condition := Filter.Recipe.narrow r.start.build.filter r.conditions
    (r.build.filter.clauses = condition.clauses ∧ r.build.filter.args = condition.args) ∧
    r.build.filter.order = r.directives ∧
    (∀ column, column ∈ r.build.assignments.keys ↔ ∃ a, (column, a) ∈ r.writes) ∧
    (∀ column a, (column, a) ∈ r.build.assignments.entries ↔
      (r.writes.filter (fun w => w.1 = column)).getLast? = some (column, a)) ∧
    r.build.assignments.entries.Pairwise
      (fun p q => KeyOrder.textBytes p.1 < KeyOrder.textBytes q.1) ∧
    (∀ u : Update V, ∀ step fault,
      ((stepFrom u step).2 = some fault ↔
        ∃ column, step = (true, .setDocument column (.error fault))) ∧
      ((stepFrom u step).2 = some fault → (stepFrom u step).1 = u)) ∧
    ∀ r' : Recipe V, r'.start = r.start → r'.conditions = r.conditions →
      r'.directives = r.directives →
      (∀ column, r'.writes.filter (fun w => w.1 = column) =
        r.writes.filter (fun w => w.1 = column)) →
      r'.build = r.build := by
  intro condition
  have hclauses : r.build.filter.clauses = condition.clauses := r.clauses_build
  refine ⟨⟨hclauses, congrArg (List.flatMap Clause.args) hclauses⟩, r.order_build,
    fun column => ?_, fun column a => ?_, ?_, stepFrom_fault, fun r' => build_congr⟩
  · rw [assignments_build, SortedMap.mem_keys_ofList]
  · rw [assignments_build, SortedMap.mem_ofList]
  · exact r.build.assignments.sorted.imp KeyOrder.before_textBytes

def viewsFirst : Recipe Nat :=
  ⟨.blank,
    [(true, .set "views" 0), (true, .narrow (.compare "id" .equal 7)),
      (true, .setExpr "views" "views + ?" [.scalar 1]), (false, .set "views" 9),
      (true, .setDocument "meta" (.error "key must be a string")),
      (true, .narrow (.descending ["id"])), (true, .set "name" 3)]⟩

/-- The steps of `viewsFirst` that take effect, in another order. -/
def nameFirst : Recipe Nat :=
  ⟨.blank,
    [(true, .narrow (.descending ["id"])), (true, .set "name" 3), (true, .set "views" 0),
      (true, .setExpr "views" "views + ?" [.scalar 1]), (true, .narrow (.compare "id" .equal 7))]⟩

theorem update_is_product_viewsFirst :
    let fault : Bool × Change Nat (Filter.Recipe Nat) :=
      (true, .setDocument "meta" (.error "key must be a string"))
    nameFirst.start = viewsFirst.start ∧ nameFirst.conditions = viewsFirst.conditions ∧
    nameFirst.directives = viewsFirst.directives ∧
    (∀ column, nameFirst.writes.filter (fun w => w.1 = column) =
      viewsFirst.writes.filter (fun w => w.1 = column)) ∧
    nameFirst.build = viewsFirst.build ∧
    viewsFirst.build.filter.order = ["id desc"] ∧
    ("views", .expr "views + ?" [.scalar 1]) ∈ viewsFirst.build.assignments.entries ∧
    (stepFrom viewsFirst.build fault).2 = some "key must be a string" ∧
    (stepFrom viewsFirst.build fault).1 = viewsFirst.build := by
  intro fault
  obtain ⟨-, horder, -, hlast, -, hfault, hcongr⟩ := viewsFirst.update_is_product
  have hw : ∀ column, nameFirst.writes.filter (fun w => w.1 = column) =
      viewsFirst.writes.filter (fun w => w.1 = column) := by
    intro column
    have hn : nameFirst.writes =
        [("name", .value 3), ("views", .value 0), ("views", .expr "views + ?" [.scalar 1])] := rfl
    have hv : viewsFirst.writes =
        [("views", .value 0), ("views", .expr "views + ?" [.scalar 1]), ("name", .value 3)] := rfl
    rw [hn, hv]
    by_cases hname : "name" = column
    · subst hname
      rfl
    · simp [List.filter_cons, hname]
  have he : (stepFrom viewsFirst.build fault).2 = some "key must be a string" := rfl
  exact ⟨rfl, rfl, rfl, hw, hcongr nameFirst rfl rfl rfl hw, horder.trans rfl,
    (hlast "views" _).mpr rfl, he, (hfault _ fault "key must be a string").2 he⟩

end Recipe

end Update

end RowQuery
