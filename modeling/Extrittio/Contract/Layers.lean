import Extrittio.Contract.Defaults

/-!
Configuration layers, path by path. A layer decides the paths at which it has a
value that is no object, and all below them; what it does not reach is left as the
layers before it have it.
-/
namespace Extrittio

open List Option OrderedMap

namespace Json

def isObject : Json → Bool
  | .object _ => true
  | _ => false

def follow (value : Json) : List String → Option Json
  | [] => some value
  | name :: path => (value.get name).bind (follow · path)

/-- The value has something other than an object at a path. -/
def Gives (value : Json) (path : List String) : Prop :=
  ∃ leaf, value.follow path = some leaf ∧ leaf.isObject = false

/-- A layer reaches a path if it has a value there, or no object on the way. -/
def Reaches (layer : Json) (path : List String) : Prop :=
  (layer.follow path).isSome = true ∨ ∃ upper, upper <+: path ∧ layer.Gives upper

section

variable {value : Json} {name : String} {path rest : List String}

theorem follow_append : value.follow (path ++ rest) = (value.follow path).bind (follow · rest) := by
  induction path generalizing value with
  | nil => rfl
  | cons name path ih =>
    rw [cons_append, follow, follow, bind_assoc]
    exact Option.bind_congr fun child _ => ih

theorem not_reaches_nil (h : ¬value.Reaches []) : False := h (.inl rfl)

theorem not_reaches_cons (h : ¬value.Reaches (name :: path)) :
    value.isObject ∧ ∀ child, value.get name = some child → ¬child.Reaches path := by
  constructor
  · by_contra hobject
    exact h (.inr ⟨[], nil_prefix, value, rfl, Bool.eq_false_iff.mpr hobject⟩)
  · intro child hchild hreaches
    have hfollow (path : List String) : value.follow (name :: path) = child.follow path := by
      rw [follow, hchild, bind_some]
    refine h ?_
    rcases hreaches with hsome | ⟨upper, hupper, leaf, hleaf, hobject⟩
    · exact .inl (by rwa [hfollow])
    · exact .inr ⟨name :: upper, (prefix_cons_inj name).mpr hupper, leaf,
        (hfollow upper).trans hleaf, hobject⟩

end

namespace Canonical

variable {value : Json} {fields : List (String × Json)} {name : String}

theorem get?_ofList (h : Canonical (.object fields)) :
    (ofList fields).get? name = fields.lookup name :=
  get?_ofList_of_nodup h.fields_inOrder.nodup_keys

theorem of_get (h : value.Canonical) {child : Json} (hchild : value.get name = some child) :
    child.Canonical := by
  cases value with
  | object fields => exact h.of_lookup hchild
  | _ => cases hchild

theorem null : Canonical .null := ⟨nofun, nofun, nofun⟩

theorem getD_get (h : value.Canonical) : ((value.get name).getD .null).Canonical := by
  cases hchild : value.get name with
  | none => exact null
  | some child => exact h.of_get hchild

theorem eq_of_get (h : value.Canonical) {other : Json} (hother : other.Canonical)
    (hobject : value.isObject) (hobject' : other.isObject)
    (hget : ∀ name, value.get name = other.get name) : value = other := by
  cases value with
  | object fields =>
    cases other with
    | object others =>
      rw [InOrder.eq_of_lookup_eq h.fields_inOrder hother.fields_inOrder hget]
    | _ => cases hobject'
  | _ => cases hobject

end Canonical

end Json

/-- A `serde_json::Value`: the members of every object are those of a map. -/
structure Document where
  value : Json
  canonical : value.Canonical

namespace BlueprintCompiler

open Json

variable {base layer : Json} {name : String} {path : List String}

theorem get_mergeValue {given : List (String × Json)} (hbase : base.Canonical)
    (hlayer : Canonical (.object given)) :
    (mergeValue base (.object given)).get name =
      match given.lookup name with
      | some child => some (mergeValue ((base.get name).getD .null) child)
      | none => base.get name := by
  cases base with
  | object fields =>
    show (mergeEntries (.ofList fields) given).get? name = _
    rw [get?_mergeEntries hlayer.fields_inOrder, hbase.get?_ofList]
    rfl
  | _ =>
    show given.lookup name = _
    cases given.lookup name with
    | none => rfl
    | some child => exact congrArg some mergeValue_null.symm

theorem mergeValue_of_isObject_false (h : layer.isObject = false) : mergeValue base layer = layer := by
  refine mergeValue_of_not_objects fun _ given _ hobject => ?_
  rw [hobject] at h
  cases h

theorem isObject_mergeValue {given : List (String × Json)} :
    (mergeValue base (.object given)).isObject := by
  cases base <;> rfl

theorem canonical_mergeValue (hbase : base.Canonical) (hlayer : layer.Canonical) :
    (mergeValue base layer).Canonical := by
  induction hlayer generalizing base with
  | @intro layer hinOrder _ hentries _ ih =>
    have hcanonical : layer.Canonical := ⟨hinOrder, by assumption, hentries⟩
    cases layer with
    | object given =>
      cases base with
      | object fields =>
        refine Canonical.object_iff.mpr ⟨inOrder _, fun entry hentry => ?_⟩
        have hget := get?_eq_some_iff.mpr hentry
        rw [get?_mergeEntries (hinOrder given rfl), hbase.get?_ofList] at hget
        cases hgiven : given.lookup entry.1 with
        | none =>
          rw [hgiven] at hget
          exact hbase.of_lookup hget
        | some child =>
          rw [hgiven] at hget
          rw [← Option.some.inj hget]
          exact ih given rfl (entry.1, child) ((hinOrder given rfl).lookup_eq_some_iff.mp hgiven)
            hbase.getD_get
      | _ => exact hcanonical
    | _ => exact hcanonical

theorem mergeValue_twice (hbase : base.Canonical) (hlayer : layer.Canonical) :
    mergeValue (mergeValue base layer) layer = mergeValue base layer := by
  induction hlayer generalizing base with
  | @intro layer hinOrder _ hentries _ ih =>
    have hcanonical : layer.Canonical := ⟨hinOrder, by assumption, hentries⟩
    cases hobject : layer.isObject with
    | false => rw [mergeValue_of_isObject_false hobject, mergeValue_of_isObject_false hobject]
    | true =>
      cases layer with
      | object given =>
        have hmerged := canonical_mergeValue hbase hcanonical
        refine Canonical.eq_of_get (canonical_mergeValue hmerged hcanonical) hmerged
          isObject_mergeValue isObject_mergeValue fun name => ?_
        rw [get_mergeValue hmerged hcanonical, get_mergeValue hbase hcanonical]
        cases hgiven : given.lookup name with
        | none => rfl
        | some child =>
          have hmem := (hinOrder given rfl).lookup_eq_some_iff.mp hgiven
          exact congrArg some (ih given rfl (name, child) hmem hbase.getD_get)
      | _ => cases hobject

/-- What a layer gives stands at its path. -/
theorem follow_mergeValue_of_gives {leaf : Json} (hbase : base.Canonical) (hlayer : layer.Canonical)
    (hleaf : layer.follow path = some leaf) (hobject : leaf.isObject = false) :
    (mergeValue base layer).follow path = some leaf := by
  induction path generalizing base layer with
  | nil =>
    cases hleaf
    exact congrArg some (mergeValue_of_isObject_false hobject)
  | cons name path ih =>
    obtain ⟨child, hchild, hbelow⟩ := bind_eq_some_iff.mp hleaf
    cases layer with
    | object given =>
      have hget : given.lookup name = some child := hchild
      rw [follow, get_mergeValue hbase hlayer, hget]
      exact ih hbase.getD_get (hlayer.of_get hchild) hbelow
    | _ => cases hchild

theorem follow_mergeValue_of_not_reaches (hbase : base.Canonical) (hlayer : layer.Canonical)
    (h : ¬layer.Reaches path) : (mergeValue base layer).follow path = base.follow path := by
  induction path generalizing base layer with
  | nil => exact (not_reaches_nil h).elim
  | cons name path ih =>
    obtain ⟨hobject, hbelow⟩ := not_reaches_cons h
    cases layer with
    | object given =>
      rw [follow, follow, get_mergeValue hbase hlayer]
      cases hchild : given.lookup name with
      | none => rfl
      | some child =>
        have hchildReaches := hbelow child hchild
        simp only [bind_some]
        rw [ih hbase.getD_get (hlayer.of_get hchild) hchildReaches]
        cases base.get name with
        | some value => rfl
        | none =>
          -- a null has no members, and the path does not end here
          cases path with
          | nil => exact (not_reaches_nil hchildReaches).elim
          | cons => rfl
    | _ => cases hobject

theorem follow_mergeValue_of_upper {upper : List String} (hbase : base.Canonical)
    (hlayer : layer.Canonical) (hupper : upper <+: path) (h : layer.Gives upper) :
    (mergeValue base layer).follow path = layer.follow path := by
  obtain ⟨rest, rfl⟩ := hupper
  obtain ⟨leaf, hleaf, hobject⟩ := h
  rw [follow_append, follow_append, follow_mergeValue_of_gives hbase hlayer hleaf hobject, hleaf]

section

variable {layers : List Json}

theorem canonical_foldl (hbase : base.Canonical) (hlayers : ∀ layer ∈ layers, layer.Canonical) :
    (layers.foldl mergeValue base).Canonical := by
  induction layers generalizing base with
  | nil => exact hbase
  | cons layer layers ih =>
    obtain ⟨hlayer, hrest⟩ := forall_mem_cons.mp hlayers
    exact ih (canonical_mergeValue hbase hlayer) hrest

theorem follow_foldl_of_not_reaches (hbase : base.Canonical)
    (hlayers : ∀ layer ∈ layers, layer.Canonical) (h : ∀ layer ∈ layers, ¬layer.Reaches path) :
    (layers.foldl mergeValue base).follow path = base.follow path := by
  induction layers generalizing base with
  | nil => rfl
  | cons layer layers ih =>
    obtain ⟨hlayer, hrest⟩ := forall_mem_cons.mp hlayers
    obtain ⟨hreaches, hothers⟩ := forall_mem_cons.mp h
    rw [foldl_cons, ih (canonical_mergeValue hbase hlayer) hrest hothers]
    exact follow_mergeValue_of_not_reaches hbase hlayer hreaches

/-- The last layer that gives something at a path or above it decides the path, if no
later one reaches it. -/
theorem follow_foldl_of_last {earlier later : List Json} {upper : List String}
    (hbase : base.Canonical) (hlayers : ∀ other ∈ earlier ++ layer :: later, other.Canonical)
    (hupper : upper <+: path) (h : layer.Gives upper)
    (hlater : ∀ other ∈ later, ¬other.Reaches path) :
    ((earlier ++ layer :: later).foldl mergeValue base).follow path = layer.follow path := by
  obtain ⟨hearlier, hrest⟩ := forall_mem_append.mp hlayers
  obtain ⟨hlayer, hrest⟩ := forall_mem_cons.mp hrest
  have hbefore := canonical_foldl hbase hearlier
  rw [foldl_append, foldl_cons,
    follow_foldl_of_not_reaches (canonical_mergeValue hbefore hlayer) hrest hlater]
  exact follow_mergeValue_of_upper hbefore hlayer hupper h

end

/-! The configuration of a contract. -/

theorem canonical_defaultsFromSchema {schema : Json} (h : schema.Canonical) :
    (∀ value, defaultsFromSchema schema = some value → value.Canonical) ∧
      ∀ name child, schema.get name = some child →
        ∀ value, defaultsFromSchema child = some value → value.Canonical := by
  induction h with
  | @intro schema hinOrder _ hentries _ ih =>
    have hcanonical : schema.Canonical := ⟨hinOrder, by assumption, hentries⟩
    cases schema with
    | object fields =>
      have hmember (name : String) (child : Json) (hchild : fields.lookup name = some child) :=
        ih fields rfl (name, child) ((hinOrder fields rfl).lookup_eq_some_iff.mp hchild)
      refine ⟨fun value hvalue => ?_, fun name child hchild => (hmember name child hchild).1⟩
      rw [defaultsFromSchema] at hvalue
      cases hdefault : fields.lookup "default" with
      | some found =>
        rw [hdefault] at hvalue
        exact hcanonical.of_lookup (hdefault.trans hvalue)
      | none =>
        rw [hdefault] at hvalue
        simp only [ite_none_right_eq_some, Option.some.injEq] at hvalue
        obtain ⟨-, rfl⟩ := hvalue
        refine Canonical.object_iff.mpr ⟨OrderedMap.inOrder _, fun entry hentry => ?_⟩
        have hget := OrderedMap.get?_eq_some_iff.mpr hentry
        rw [get?_propertyDefaults hcanonical] at hget
        -- the property schemas are two levels down: members of the member `properties`
        obtain ⟨child, hchild, hdefaults⟩ := bind_eq_some_iff.mp hget
        obtain ⟨properties, hproperties, hchild⟩ := bind_eq_some_iff.mp hchild
        exact (hmember "properties" properties hproperties).2 entry.1 child hchild _ hdefaults
    | _ =>
      constructor
      · rintro value ⟨⟩
      · rintro name child ⟨⟩

theorem canonical_compileConfiguration {p : Platform} {configuration : ConfigurationDefinition}
    {context : CompileContext} {compiled : CompiledConfiguration}
    (hschema : configuration.schema.Canonical) (hdefaults : configuration.defaults.Canonical)
    (hlayers : ∀ layer ∈ context.configurationLayers, layer.Canonical)
    (h : compileConfiguration p configuration context = .ok compiled) :
    compiled.schema.Canonical ∧ compiled.desired.Canonical := by
  obtain ⟨-, -, h⟩ := of_bind_ok h
  obtain ⟨timeout, -, h⟩ := of_bind_ok h
  cases h
  have hfromSchema : ((defaultsFromSchema configuration.schema).getD .null).Canonical := by
    cases hfound : defaultsFromSchema configuration.schema with
    | none => exact .null
    | some value => exact (canonical_defaultsFromSchema hschema).1 value hfound
  refine ⟨hschema, canonical_foldl ?_ hlayers⟩
  split_ifs
  · exact hfromSchema
  · exact canonical_mergeValue hfromSchema hdefaults

theorem layers_decide_paths (base overlay : Document) (layers : List Document) :
    (∀ path leaf, overlay.value.follow path = some leaf → leaf.isObject = false →
      (mergeValue base.value overlay.value).follow path = some leaf) ∧
    (∀ path, ¬overlay.value.Reaches path →
      (mergeValue base.value overlay.value).follow path = base.value.follow path) ∧
    mergeValue (mergeValue base.value overlay.value) overlay.value =
      mergeValue base.value overlay.value ∧
    ∀ path upper earlier layer later, layers = earlier ++ layer :: later → upper <+: path →
      layer.value.Gives upper → (∀ other ∈ later, ¬other.value.Reaches path) →
      ((layers.map Document.value).foldl mergeValue base.value).follow path =
        layer.value.follow path := by
  refine ⟨fun path leaf => follow_mergeValue_of_gives base.canonical overlay.canonical,
    fun path => follow_mergeValue_of_not_reaches base.canonical overlay.canonical,
    mergeValue_twice base.canonical overlay.canonical, ?_⟩
  rintro path upper earlier layer later rfl hupper hgives hlater
  rw [map_append, map_cons]
  refine follow_foldl_of_last base.canonical (fun value hvalue => ?_) hupper hgives
    fun value hvalue => ?_
  · rw [← map_cons, ← map_append] at hvalue
    obtain ⟨document, -, rfl⟩ := List.mem_map.mp hvalue
    exact document.canonical
  · obtain ⟨document, hdocument, rfl⟩ := List.mem_map.mp hvalue
    exact hlater document hdocument

def scalarLayer : Document where
  value := .object [("mode", .integer 5)]
  canonical := by simp [Canonical.object_iff, InOrder, Canonical.integer]

def objectLayer : Document where
  value := .object [("mode", .object [("fast", .integer 1)])]
  canonical := by simp [Canonical.object_iff, InOrder, Canonical.integer]

def otherLayer : Document where
  value := .object [("mode", .object [("slow", .integer 2)])]
  canonical := by simp [Canonical.object_iff, InOrder, Canonical.integer]

/-- The number hides what the defaults had below the name, although the object over it
does not reach there. -/
theorem layers_decide_paths_replaced :
    objectLayer.value.follow ["mode", "fast"] = some (.integer 1) ∧
    (([scalarLayer, otherLayer].map Document.value).foldl mergeValue objectLayer.value).follow
      ["mode", "fast"] = none := by
  refine ⟨rfl, ?_⟩
  obtain ⟨-, -, -, hdecides⟩ := layers_decide_paths objectLayer scalarLayer [scalarLayer, otherLayer]
  refine (hdecides ["mode", "fast"] ["mode"] [] scalarLayer [otherLayer] rfl ⟨["fast"], rfl⟩
    ⟨.integer 5, rfl, rfl⟩ fun other hother => ?_).trans rfl
  obtain rfl := mem_singleton.mp hother
  rintro (hsome | ⟨upper, hupper, leaf, hleaf, hobject⟩)
  · cases hsome
  · have hcases : upper = [] ∨ upper = ["mode"] ∨ upper = ["mode", "fast"] := by
      have := mem_inits _ _ |>.mpr hupper
      simpa using this
    rcases hcases with rfl | rfl | rfl
    · cases hleaf
      cases hobject
    · cases hleaf
      cases hobject
    · cases hleaf

end BlueprintCompiler

end Extrittio
