import RowQuery.Access.Recipe
import RowQuery.Proofs.Recipes

namespace RowQuery

variable {V W S T : Type}

theorem Arg.flatten_map (f : V → W) (as : List (Arg V)) :
    Arg.flatten (as.map (Arg.map f)) = (Arg.flatten as).map f := by
  simp [Arg.flatten, List.flatMap_map, List.map_flatMap]

namespace Filter

variable (f : V → W)

theorem args_map (c : Filter V) : (c.map f).args = c.args.map (Arg.map f) := by
  simp only [args, map, List.flatMap_map, List.map_flatMap]
  rfl

theorem joined_map (cs : List (Clause V)) : joined (cs.map (Clause.map f)) = joined cs := by
  cases cs with
  | nil => rfl
  | cons c rest =>
    simp only [List.map_cons, joined, List.map_map]
    rfl

@[simp] theorem predicate_map (c : Filter V) : (c.map f).predicate = c.predicate :=
  joined_map f c.clauses

@[simp] theorem isTrivial_map (c : Filter V) : (c.map f).isTrivial = c.isTrivial := by
  rw [isTrivial, predicate_map, isTrivial]

theorem map_push (c : Filter V) (j : Join) (sql : String) (as : List (Arg V)) :
    (c.push j sql as).map f = (c.map f).push j sql (as.map (Arg.map f)) := by
  simp only [push, map, List.map_append]
  rfl

theorem map_compare (c : Filter V) (field : String) (op : Comparison) (v : V) :
    (c.compare field op v).map f = (c.map f).compare field op (f v) :=
  map_push f c .and _ _

theorem map_isIn (c : Filter V) (field : String) (vs : List (Arg V)) :
    (c.isIn field vs).map f = (c.map f).isIn field (vs.map (Arg.map f)) := by
  rw [isIn, isIn, Arg.flatten_map]
  cases Arg.flatten vs with
  | nil => rfl
  | cons v rest =>
    cases rest with
    | nil => exact map_compare f c field .equal v
    | cons w rest => exact map_push f c .and _ _

theorem map_orGroup (c p : Filter V) : (c.orGroup p).map f = (c.map f).orGroup (p.map f) := by
  rw [orGroup, orGroup, isTrivial_map]
  by_cases h : p.isTrivial
  · rw [if_pos h, if_pos h]
  · rw [if_neg h, if_neg h, map_push, predicate_map, args_map]

theorem map_andGroups (c : Filter V) (ps : List (Filter V)) :
    (c.andGroups ps).map f = (c.map f).andGroups (ps.map (map f)) := by
  have ht : (ps.map (map f)).any isTrivial = ps.any isTrivial := by
    simp only [List.any_map, Function.comp_def, isTrivial_map]
  have hp : ∀ c p : Filter V, (c.map f).push .and (group (p.map f).predicate) (p.map f).args =
      (c.push .and (group p.predicate) p.args).map f := by
    intro c p
    rw [map_push, predicate_map, args_map]
  rw [andGroups, andGroups, List.isEmpty_map, ht]
  by_cases h : ps.isEmpty || ps.any isTrivial
  · rw [if_pos h, if_pos h]
  · rw [if_neg h, if_neg h]
    exact (List.foldl_map_hom hp).symm

theorem map_either (ps : List (Filter V)) :
    (either ps).map f = either (ps.map (map f)) := by
  cases ps with
  | nil => rfl
  | cons p ps =>
    cases ps with
    | nil => rfl
    | cons q ps => exact (List.foldl_map_hom fun c p => (map_orGroup f c p).symm).symm

namespace Call

/-- The call with its values mapped by `f`, and its parts by `g`. -/
def map (f : V → W) (g : S → T) : Call V S → Call W T
  | .expr sql args => .expr sql (args.map (Arg.map f))
  | .compare field op value => .compare field op (f value)
  | .isIn field values => .isIn field (values.map (Arg.map f))
  | .isInList field values => .isInList field (values.map f)
  | .isInQuery field query args => .isInQuery field query (args.map (Arg.map f))
  | .andGroups parts => .andGroups (parts.map g)
  | .orGroup part => .orGroup (g part)
  | .ascending fields => .ascending fields
  | .descending fields => .descending fields

theorem map_apply (c : Filter V) (call : Call V (Filter V)) :
    (call.apply c).map f = (call.map f (Filter.map f)).apply (c.map f) := by
  cases call with
  | expr sql args => exact map_push f c .and sql args
  | compare field op value => exact map_compare f c field op value
  | isIn field values => exact map_isIn f c field values
  | isInList field values => exact map_isIn f c field [.list values]
  | isInQuery field query args => exact map_push f c .and _ args
  | andGroups parts => exact map_andGroups f c parts
  | orGroup part => exact map_orGroup f c part
  | ascending fields => rfl
  | descending fields => rfl

theorem map_applyIf (enabled : Bool) (c : Filter V) (call : Call V (Filter V)) :
    (call.applyIf enabled c).map f = (call.map f (Filter.map f)).applyIf enabled (c.map f) := by
  cases enabled with
  | false => rfl
  | true => exact map_apply f c call

end Call

mutual

/-- The recipe with all its values mapped. -/
def Recipe.map (f : V → W) : Recipe V → Recipe W
  | .blank => .blank
  | .either parts => .either (Recipe.mapAll f parts)
  | .step before enabled call => .step (before.map f) enabled (Recipe.mapParts f call)

def Recipe.mapAll (f : V → W) : List (Recipe V) → List (Recipe W)
  | [] => []
  | part :: parts => part.map f :: Recipe.mapAll f parts

def Recipe.mapParts (f : V → W) : Call V (Recipe V) → Call W (Recipe W)
  | .expr sql args => .expr sql (args.map (Arg.map f))
  | .compare field op value => .compare field op (f value)
  | .isIn field values => .isIn field (values.map (Arg.map f))
  | .isInList field values => .isInList field (values.map f)
  | .isInQuery field query args => .isInQuery field query (args.map (Arg.map f))
  | .andGroups parts => .andGroups (Recipe.mapAll f parts)
  | .orGroup part => .orGroup (part.map f)
  | .ascending fields => .ascending fields
  | .descending fields => .descending fields

end

namespace Recipe

theorem mapAll_eq_map (parts : List (Recipe V)) : mapAll f parts = parts.map (map f) := by
  induction parts with
  | nil => rfl
  | cons p ps ih => rw [mapAll, ih, List.map_cons]

theorem mapParts_eq_map (call : Call V (Recipe V)) : mapParts f call = call.map f (map f) := by
  cases call with
  | andGroups parts => rw [mapParts, mapAll_eq_map, Call.map]
  | _ => rfl

theorem buildAll_map {parts : List (Recipe V)} (h : ∀ p ∈ parts, (p.map f).build = p.build.map f) :
    buildAll (parts.map (map f)) = (buildAll parts).map (Filter.map f) := by
  simp only [buildAll_eq_map, List.map_map]
  exact List.map_congr_left h

theorem buildParts_map {call : Call V (Recipe V)}
    (h : ∀ p ∈ call.parts, (p.map f).build = p.build.map f) :
    buildParts (call.map f (map f)) = (buildParts call).map f (Filter.map f) := by
  cases call with
  | andGroups parts => exact congrArg Call.andGroups (buildAll_map f h)
  | orGroup part => exact congrArg Call.orGroup (h part (List.mem_singleton_self part))
  | _ => rfl

theorem build_map (r : Recipe V) : (r.map f).build = r.build.map f := by
  induction r with
  | blank => rfl
  | either parts ih => rw [map, mapAll_eq_map, build, buildAll_map f ih, build, map_either]
  | step before enabled call hb hc =>
    rw [map, mapParts_eq_map, build, hb, buildParts_map f hc, build, Call.map_applyIf]

end Recipe

end Filter

end RowQuery
