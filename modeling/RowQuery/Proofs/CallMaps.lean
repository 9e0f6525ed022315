import RowQuery.Proofs.ValueMaps

namespace RowQuery

variable {V W S T F G U X P K A B : Type}

namespace SortedMap

variable [KeyOrder K]

theorem place_map (f : A → B) (k : K) (a : A) (es : List (K × A)) :
    (place k a es).map (fun e => (e.1, f e.2)) =
      place k (f a) (es.map (fun e => (e.1, f e.2))) := by
  induction es with
  | nil => rfl
  | cons e es ih =>
    simp only [place, List.map_cons]
    by_cases h : KeyOrder.before k e.1
    · rw [if_pos h, if_pos h, List.map_cons, List.map_cons]
    · rw [if_neg h, if_neg h]
      by_cases h' : KeyOrder.before e.1 k
      · rw [if_pos h', if_pos h', List.map_cons, ih]
      · rw [if_neg h', if_neg h', List.map_cons]

theorem map_insert (f : A → B) (m : SortedMap K A) (k : K) (a : A) :
    (m.insert k a).map f = (m.map f).insert k (f a) :=
  SortedMap.ext (place_map f k a m.entries)

theorem isEmpty_map (f : A → B) (m : SortedMap K A) : (m.map f).isEmpty = m.isEmpty :=
  List.isEmpty_map

end SortedMap

namespace Scope

variable (f : V → W)

theorem map_narrow (s : Scope V) (predicate : String) (as : List (Arg V)) :
    (s.narrow predicate as).map f = (s.map f).narrow predicate (as.map (Arg.map f)) := by
  rw [narrow, narrow]
  by_cases h : predicate.isEmpty
  · rw [if_pos h, if_pos h]
  · rw [if_neg h, if_neg h]
    by_cases hs : s.predicate.isEmpty <;> simp [map, hs]

theorem map_sort (s : Scope V) (order : String) : (s.sort order).map f = (s.map f).sort order := by
  rw [sort, sort]
  by_cases h : order.isEmpty
  · rw [if_pos h, if_pos h]
  · rw [if_neg h, if_neg h]
    by_cases hs : s.order.isEmpty <;> simp [map, hs]

theorem map_matching (s : Scope V) (c : Filter V) :
    (s.matching c).map f = (s.map f).matching (c.map f) := by
  rw [matching, map_narrow, matching, Filter.predicate_map, Filter.args_map]

theorem map_listing (s : Scope V) (c : Filter V) :
    (s.listing c).map f = (s.map f).listing (c.map f) := by
  rw [listing, sortedBy, map_sort, map_matching]
  rfl

/-- The step with its values mapped by `f`, and its filter by `g`. -/
def Step.map (g : S → T) : Step V S → Step W T
  | .select columns => .select columns
  | .narrow predicate args => .narrow predicate (args.map (Arg.map f))
  | .sort order => .sort order
  | .matching filter => .matching (g filter)
  | .sortedBy filter => .sortedBy (g filter)
  | .listing filter => .listing (g filter)
  | .take limit => .take limit
  | .skip offset => .skip offset

theorem Step.map_apply (s : Scope V) (step : Step V (Filter V)) :
    (step.apply s).map f = (step.map f (Filter.map f)).apply (s.map f) := by
  cases step with
  | select columns => rfl
  | narrow predicate args => exact map_narrow f s predicate args
  | sort order => exact map_sort f s order
  | matching filter => exact map_matching f s filter
  | sortedBy filter => exact map_sort f s filter.orderText
  | listing filter => exact map_listing f s filter
  | take limit => rfl
  | skip offset => rfl

theorem Step.buildParts_map (step : Step V (Filter.Recipe V)) :
    (step.map f (Filter.Recipe.map f)).buildParts = step.buildParts.map f (Filter.map f) := by
  cases step with
  | matching filter => exact congrArg Step.matching (Filter.Recipe.build_map f filter)
  | sortedBy filter => exact congrArg Step.sortedBy (Filter.Recipe.build_map f filter)
  | listing filter => exact congrArg Step.listing (Filter.Recipe.build_map f filter)
  | _ => rfl

def Recipe.map (r : Recipe V) : Recipe W :=
  ⟨r.start, r.steps.map (Step.map f (Filter.Recipe.map f))⟩

theorem Recipe.stepFrom_map (s : Scope V) (step : Step V (Filter.Recipe V)) :
    stepFrom (s.map f) (step.map f (Filter.Recipe.map f)) = (stepFrom s step).map f := by
  rw [stepFrom, stepFrom, Step.map_apply, Step.buildParts_map]

theorem Recipe.build_map (r : Recipe V) : (r.map f).build = r.build.map f := by
  have hs : (r.start.build : Scope W) = r.start.build.map f := by
    cases r.start <;> rfl
  rw [build, map, hs, List.foldl_map, build]
  exact List.foldl_hom (Scope.map f) (stepFrom_map f)

end Scope

namespace Update

variable (f : V → W)

theorem map_assign (u : Update V) (column : String) (a : Assignment V) :
    (u.assign column a).map f = (u.map f).assign column (a.map f) := by
  simp only [assign, map, SortedMap.map_insert]

theorem isIdle_map (u : Update V) : (u.map f).isIdle = u.isIdle :=
  SortedMap.isEmpty_map (Assignment.map f) u.assignments

/-- The change with its values mapped by `f`, and its parts by `g`. -/
def Change.map (g : S → T) : Change V S → Change W T
  | .narrow call => .narrow (call.map f g)
  | .set column value => .set column (f value)
  | .setExpr column sql args => .setExpr column sql (args.map (Arg.map f))
  | .setDocument column document => .setDocument column (document.map f)

theorem Change.apply_map (u : Update V) (change : Change V (Filter V)) :
    (change.map f (Filter.map f)).apply (u.map f) = (change.apply u).map (Update.map f) := by
  cases change with
  | narrow call =>
    have hc := (Filter.Call.map_apply f u.filter call).symm
    exact congrArg (fun c => Except.ok (Update.mk c (u.assignments.map (Assignment.map f)))) hc
  | set column value => exact congrArg Except.ok (map_assign f u column (.value value)).symm
  | setExpr column sql args => exact congrArg Except.ok (map_assign f u column (.expr sql args)).symm
  | setDocument column document =>
    cases document with
    | error e => rfl
    | ok value => exact congrArg Except.ok (map_assign f u column (.value value)).symm

theorem Change.applyIf_map (enabled : Bool) (u : Update V) (change : Change V (Filter V)) :
    (change.map f (Filter.map f)).applyIf enabled (u.map f) =
      ((change.applyIf enabled u).1.map f, (change.applyIf enabled u).2) := by
  cases enabled with
  | false => rfl
  | true =>
    simp only [applyIf, if_true, apply_map]
    cases change.apply u <;> rfl

theorem Change.buildParts_map (change : Change V (Filter.Recipe V)) :
    (change.map f (Filter.Recipe.map f)).buildParts = change.buildParts.map f (Filter.map f) := by
  cases change with
  | narrow call =>
    exact congrArg Change.narrow
      (Filter.Recipe.buildParts_map f (fun p _ => Filter.Recipe.build_map f p))
  | _ => rfl

def Start.map (g : S → T) : Start S → Start T
  | .blank => .blank
  | .confined parts => .confined (parts.map g)

theorem Start.build_map (start : Start (Filter.Recipe V)) :
    (start.map (Filter.Recipe.map f)).build = start.build.map f := by
  cases start with
  | blank => rfl
  | confined parts =>
    have hp : (parts.map (Filter.Recipe.map f)).map Filter.Recipe.build =
        (parts.map Filter.Recipe.build).map (Filter.map f) := by
      simp only [List.map_map, Function.comp_def, Filter.Recipe.build_map]
    rw [map, build, hp, build, Update.confined, Update.confined, Update.map, Filter.map_andGroups]
    rfl

def Recipe.map (r : Recipe V) : Recipe W :=
  ⟨r.start.map (Filter.Recipe.map f),
    r.steps.map (fun step => (step.1, step.2.map f (Filter.Recipe.map f)))⟩

theorem Recipe.stepFrom_map (u : Update V) (step : Bool × Change V (Filter.Recipe V)) :
    stepFrom (u.map f) (step.1, step.2.map f (Filter.Recipe.map f)) =
      ((stepFrom u step).1.map f, (stepFrom u step).2) := by
  rw [stepFrom, Change.buildParts_map, Change.applyIf_map]
  rfl

theorem Recipe.build_map (r : Recipe V) : (r.map f).build = r.build.map f := by
  rw [build, map, Start.build_map, List.foldl_map, build]
  refine List.foldl_hom (Update.map f) (fun u step => ?_)
  rw [stepFrom_map]

end Update

namespace Operation

/-- The call with its values, filters, updates and scopes mapped. -/
def map (f : V → W) (g : F → G) (h : U → X) (k : S → T) :
    Operation V F U S P → Operation W G X T P
  | .byId id => .byId (f id)
  | .byIds ids => .byIds (ids.map f)
  | .first c => .first (c.map g)
  | .all c => .all (c.map g)
  | .page index size c => .page index size (c.map g)
  | .delete c => .delete (c.map g)
  | .update u => .update (u.map h)
  | .columnMap kind column c => .columnMap kind column (c.map g)
  | .countScope s => .countScope (k s)
  | .findScope s => .findScope (k s)
  | .deleteScope s => .deleteScope (k s)
  | .updateScope s u => .updateScope (k s) (h u)

def Recipe.map (f : V → W) : Recipe V P → Recipe W P :=
  Operation.map f (Filter.Recipe.map f) (Update.Recipe.map f) (Scope.Recipe.map f)

theorem Recipe.build_map (f : V → W) (call : Recipe V P) :
    (Recipe.map f call).build =
      call.build.map f (Filter.map f) (Update.map f) (Scope.map f) := by
  have hf (c : Option (Filter.Recipe V)) : (c.map (Filter.Recipe.map f)).map Filter.Recipe.build =
      (c.map Filter.Recipe.build).map (Filter.map f) := by
    cases c with
    | none => rfl
    | some r => exact congrArg some (Filter.Recipe.build_map f r)
  cases call with
  | byId id => rfl
  | byIds ids => rfl
  | first c => exact congrArg Operation.first (hf c)
  | all c => exact congrArg Operation.all (hf c)
  | page index size c => exact congrArg (Operation.page index size) (hf c)
  | delete c => exact congrArg Operation.delete (hf c)
  | update u =>
    cases u with
    | none => rfl
    | some r => exact congrArg (fun u => Operation.update (some u)) (Update.Recipe.build_map f r)
  | columnMap kind column c => exact congrArg (Operation.columnMap kind column) (hf c)
  | countScope s => exact congrArg Operation.countScope (Scope.Recipe.build_map f s)
  | findScope s => exact congrArg Operation.findScope (Scope.Recipe.build_map f s)
  | deleteScope s => exact congrArg Operation.deleteScope (Scope.Recipe.build_map f s)
  | updateScope s u =>
    rw [Recipe.map, Operation.map, build, Scope.Recipe.build_map, Update.Recipe.build_map]
    rfl

end Operation

end RowQuery
