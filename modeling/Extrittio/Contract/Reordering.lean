import Extrittio.Contract.Sections
import Extrittio.Contract.Semantics

/-!
The order in which a blueprint lists its transports, routes, schemas, streams, fields and
commands: a blueprint that lists them in another order is as valid, and compiles to the
same document.
-/
namespace Extrittio

open List

theorem Schema.validateSchemaDocument_path {schema : Json} {path path' : String}
    (h : validateSchemaDocument schema path = []) : validateSchemaDocument schema path' = [] :=
  inspectSchema_eq_nil.mpr (inspectSchema_eq_nil.mp h)

/-- Listed in another order, item by item up to a relation. -/
def Rearranged {T : Type} (R : T → T → Prop) : List T → List T → Prop :=
  Relation.Comp List.Perm (List.Forall₂ R)

namespace Rearranged

variable {T U : Type} {R : T → T → Prop} {items others : List T}

theorem exists_left (h : Rearranged R items others) {other : T} (hother : other ∈ others) :
    ∃ item ∈ items, R item other := by
  obtain ⟨middle, hperm, hforall⟩ := h
  obtain ⟨item, hitem, hR⟩ := exists_left_of_forall₂ hforall hother
  exact ⟨item, hperm.mem_iff.mpr hitem, hR⟩

theorem exists_right (h : Rearranged R items others) {item : T} (hitem : item ∈ items) :
    ∃ other ∈ others, R item other := by
  obtain ⟨middle, hperm, hforall⟩ := h
  exact exists_right_of_forall₂ hforall (hperm.mem_iff.mp hitem)

theorem map_perm (h : Rearranged R items others) {f : T → U} (hf : ∀ a b, R a b → f a = f b) :
    (items.map f).Perm (others.map f) := by
  obtain ⟨middle, hperm, hforall⟩ := h
  rw [← map_eq_of_forall₂ hforall hf]
  exact hperm.map f

end Rearranged

structure BlueprintLists where
  transports : List TransportDefinition
  routes : List RouteDefinition
  schemas : List SchemaDefinition
  streams : List StreamDefinition
  commands : List CommandDefinition

def DeviceBlueprint.withLists (blueprint : DeviceBlueprint) (lists : BlueprintLists) :
    DeviceBlueprint :=
  { blueprint with
    spec := { blueprint.spec with
      transports := lists.transports
      routes := lists.routes
      schemas := lists.schemas
      streams := lists.streams
      commands := lists.commands } }

namespace Blueprint

structure SameStream (stream other : StreamDefinition) : Prop where
  key : other.key = stream.key
  route : other.route = stream.route
  timestamp : other.timestamp = stream.timestamp
  retention : other.retention = stream.retention
  fields : stream.fields.Perm other.fields

structure Permuted (blueprint : DeviceBlueprint) (lists : BlueprintLists) : Prop where
  transports : blueprint.spec.transports.Perm lists.transports
  routes : blueprint.spec.routes.Perm lists.routes
  schemas : blueprint.spec.schemas.Perm lists.schemas
  streams : Rearranged SameStream blueprint.spec.streams lists.streams
  commands : blueprint.spec.commands.Perm lists.commands

section

variable {T : Type} {items others : List T} {key : T → String} {path : String}

theorem keyedFrom_snd_of_nodup {index : ℕ} {values : OrderedMap String T}
    (hnodup : (items.map key).Nodup) (hnone : ∀ item ∈ items, values.get? (key item) = none) :
    (keyedFrom key path index values items).2 = [] := by
  induction items generalizing index values with
  | nil => rfl
  | cons item items ih =>
    obtain ⟨hfresh, hnodup⟩ := nodup_cons.mp hnodup
    obtain ⟨hfirst, hnone⟩ := forall_mem_cons.mp hnone
    refine append_eq_nil_iff.mpr ⟨?_, ih hnodup fun other hother => ?_⟩
    · rw [require_eq_nil, hfirst]
      rfl
    · rw [OrderedMap.get?_insert, if_neg, hnone other hother]
      exact fun hkey => hfresh (hkey ▸ mem_map_of_mem hother)

theorem keyed_snd_of_nodup (hnodup : (items.map key).Nodup) : (keyed items key path).2 = [] :=
  keyedFrom_snd_of_nodup hnodup fun _ _ => rfl

theorem nodup_of_perm (hperm : items.Perm others) (hnodup : (items.map key).Nodup) :
    (others.map key).Nodup := (hperm.map key).nodup_iff.mp hnodup

theorem keyed_fst_of_perm (hperm : items.Perm others) (hnodup : (items.map key).Nodup) :
    (keyed others key path).1 = (keyed items key path).1 := by
  rw [keyed_fst, keyed_fst]
  refine OrderedMap.ofList_map_congr (fun _ => rfl) (nodup_of_perm hperm hnodup) hnodup fun entry => ?_
  simp only [hperm.mem_iff]

theorem each_eq_nil_of_forall {issues issues' : ℕ → T → List ValidationIssue}
    (heach : each items issues = [])
    (h : ∀ other ∈ others, ∃ item ∈ items, ∀ index index',
      issues index item = [] → issues' index' other = []) : each others issues' = [] := by
  refine flatMap_eq_nil_iff.mpr fun entry hentry => ?_
  obtain ⟨item, hitem, hissues⟩ := h entry.1 (fst_mem_of_mem_zipIdx hentry)
  obtain ⟨index, hindex⟩ := of_each_eq_nil heach hitem
  exact hissues index entry.2 hindex

theorem each_eq_nil_of_perm {issues issues' : ℕ → T → List ValidationIssue}
    (hperm : items.Perm others) (heach : each items issues = [])
    (h : ∀ item index index', issues index item = [] → issues' index' item = []) :
    each others issues' = [] :=
  each_eq_nil_of_forall heach fun other hother => ⟨other, hperm.mem_iff.mpr hother, h other⟩

end

theorem validateSchemaKey_path {value path path' : String} (h : validateSchemaKey value path = []) :
    validateSchemaKey value path' = [] := by
  unfold validateSchemaKey at h ⊢
  split at h
  · cases h
  · simp only [validateKey, append_eq_nil_iff, require_eq_nil] at h ⊢
    exact h

theorem validateFields_of_perm {streamIndex streamIndex' : ℕ} {fields others : List FieldDefinition}
    (hperm : fields.Perm others) (h : validateFields streamIndex 0 [] fields = []) :
    validateFields streamIndex' 0 [] others = [] := by
  obtain ⟨⟨hnodup, -⟩, hfields⟩ := validateFields_eq_nil_iff.mp h
  refine validateFields_eq_nil_iff.mpr ⟨⟨nodup_of_perm hperm hnodup, fun _ _ => not_mem_nil⟩, ?_⟩
  exact fun field hfield => hfields field (hperm.mem_iff.mpr hfield)

section

variable {blueprint : DeviceBlueprint} {lists : BlueprintLists} (h : Permuted blueprint lists)
  (hs : Sound blueprint)

include h

theorem validateTransports_withLists (hissues : validateTransports blueprint = []) :
    validateTransports (blueprint.withLists lists) = [] := by
  obtain ⟨hkeys, heach⟩ := append_eq_nil_iff.mp hissues
  refine append_eq_nil_iff.mpr
    ⟨keyed_snd_of_nodup (nodup_of_perm h.transports (nodup_of_keyed hkeys)),
      each_eq_nil_of_perm h.transports heach fun transport index index' hitem => ?_⟩
  simp only [validateKey, append_eq_nil_iff, require_eq_nil] at hitem ⊢
  exact hitem

theorem validateSchemas_withLists (hissues : validateSchemas blueprint = []) :
    validateSchemas (blueprint.withLists lists) = [] := by
  obtain ⟨hkeys, heach⟩ := append_eq_nil_iff.mp hissues
  refine append_eq_nil_iff.mpr
    ⟨keyed_snd_of_nodup (nodup_of_perm h.schemas (nodup_of_keyed hkeys)),
      each_eq_nil_of_perm h.schemas heach fun schema index index' hitem => ?_⟩
  obtain ⟨hkey, hschema⟩ := append_eq_nil_iff.mp hitem
  refine append_eq_nil_iff.mpr ⟨validateSchemaKey_path hkey, ?_⟩
  split_ifs at hschema ⊢
  · exact Schema.validateSchemaDocument_path hschema
  · rfl

theorem validateCardinality_withLists (hissues : validateCardinality blueprint = []) :
    validateCardinality (blueprint.withLists lists) = [] := by
  have hperm := h.streams.map_perm (f := fun stream => stream.fields.length) fun stream other hsame =>
    hsame.fields.length_eq
  simp only [validateCardinality, require_eq_nil, decide_eq_true_eq] at hissues ⊢
  exact hperm.sum_eq ▸ hissues

theorem metricPaths_withLists {name : String} (hname : name ∈ metricPaths blueprint) :
    name ∈ metricPaths (blueprint.withLists lists) := by
  obtain ⟨stream, hstream, hpath⟩ := mem_flatMap.mp hname
  obtain ⟨field, hfield, rfl⟩ := mem_map.mp hpath
  obtain ⟨other, hother, hsame⟩ := h.streams.exists_right hstream
  refine mem_flatMap.mpr ⟨other, hother, mem_map.mpr ⟨field, ?_, by rw [hsame.key]⟩⟩
  exact hsame.fields.mem_iff.mp hfield

theorem validateHealth_withLists (hissues : validateHealth blueprint = []) :
    validateHealth (blueprint.withLists lists) = [] := by
  unfold validateHealth at hissues ⊢
  rw [show (blueprint.withLists lists).spec.health = blueprint.spec.health from rfl]
  cases hhealth : blueprint.spec.health with
  | none => rfl
  | some health =>
    rw [hhealth] at hissues
    obtain ⟨hkeys, heach⟩ := append_eq_nil_iff.mp hissues
    refine append_eq_nil_iff.mpr ⟨hkeys, each_eq_nil_of_perm (.refl _) heach ?_⟩
    intro signal index index' hsignal
    simp only [validateKey, append_eq_nil_iff, require_eq_nil, Bool.or_eq_true,
      decide_eq_true_eq] at hsignal ⊢
    exact ⟨hsignal.1, hsignal.2.imp_right (metricPaths_withLists h)⟩

theorem validatePresentation_withLists (hissues : validatePresentation blueprint = []) :
    validatePresentation (blueprint.withLists lists) = [] := by
  unfold validatePresentation at hissues ⊢
  rw [show (blueprint.withLists lists).spec.presentation = blueprint.spec.presentation from rfl]
  cases hpresentation : blueprint.spec.presentation with
  | none => rfl
  | some presentation =>
    rw [hpresentation] at hissues
    refine each_eq_nil_of_perm (.refl _) hissues fun reference index index' hreference => ?_
    simp only [require_eq_nil, decide_eq_true_eq] at hreference ⊢
    exact metricPaths_withLists h hreference

include hs

theorem transports_withLists :
    (transports (blueprint.withLists lists)).1 = (transports blueprint).1 :=
  keyed_fst_of_perm h.transports hs.transportKeys

theorem schemas_withLists : (schemas (blueprint.withLists lists)).1 = (schemas blueprint).1 :=
  keyed_fst_of_perm h.schemas hs.schemaKeys

theorem routes_withLists : (routes (blueprint.withLists lists)).1 = (routes blueprint).1 :=
  keyed_fst_of_perm h.routes hs.routeKeys

theorem streamKeys_withLists : (lists.streams.map (·.key)).Nodup :=
  (h.streams.map_perm fun _ _ hsame => hsame.key.symm).nodup_iff.mp hs.streamKeys

theorem get?_streams_withLists {name : String} {stream : StreamDefinition}
    (hget : (streams blueprint).1.get? name = some stream) :
    ∃ other, (streams (blueprint.withLists lists)).1.get? name = some other ∧
      SameStream stream other := by
  obtain ⟨hstream, rfl⟩ := of_get?_keyed hget
  obtain ⟨other, hother, hsame⟩ := h.streams.exists_right hstream
  refine ⟨other, ?_, hsame⟩
  rw [← hsame.key]
  exact get?_keyed (streamKeys_withLists h hs) hother

theorem validateRoutes_withLists (hissues : validateRoutes blueprint = []) :
    validateRoutes (blueprint.withLists lists) = [] := by
  obtain ⟨-, heach⟩ := append_eq_nil_iff.mp hissues
  refine append_eq_nil_iff.mpr ⟨keyed_snd_of_nodup (nodup_of_perm h.routes hs.routeKeys),
    each_eq_nil_of_perm h.routes heach fun route index index' hroute => ?_⟩
  simp only [validateRoute, validateKey, validateAddress, transports_withLists h hs,
    schemas_withLists h hs, append_eq_nil_iff, require_eq_nil] at hroute ⊢
  refine ⟨hroute.1, ?_⟩
  cases hschema : (schemas blueprint).1.get? route.messageSchema with
  | none => rfl
  | some schema =>
    have hencoding := hroute.2
    rw [hschema] at hencoding
    simp only [validateEncodingSchema, require_eq_nil] at hencoding ⊢
    exact hencoding

theorem validateStreams_withLists (hissues : validateStreams blueprint = []) :
    validateStreams (blueprint.withLists lists) = [] := by
  obtain ⟨-, heach⟩ := append_eq_nil_iff.mp hissues
  refine append_eq_nil_iff.mpr ⟨keyed_snd_of_nodup (streamKeys_withLists h hs),
    each_eq_nil_of_forall heach fun other hother => ?_⟩
  obtain ⟨stream, hstream, hsame⟩ := h.streams.exists_left hother
  refine ⟨stream, hstream, fun index index' hitem => ?_⟩
  simp only [validateStream, validateKey, routes_withLists h hs, append_eq_nil_iff,
    require_eq_nil, hsame.key, hsame.route] at hitem ⊢
  obtain ⟨⟨hkey, hroute⟩, hfields⟩ := hitem
  refine ⟨⟨hkey, ?_⟩, validateFields_of_perm hsame.fields hfields⟩
  cases hget : (routes blueprint).1.get? stream.route with
  | none =>
    rw [hget] at hroute
    cases hroute
  | some route =>
    rw [hget] at hroute
    simp only [require_eq_nil] at hroute ⊢
    exact hroute

theorem validateCommandRoute_withLists {route path path' message message' : String}
    {direction : RouteDirection}
    (hissues : validateCommandRoute blueprint route direction path message = []) :
    validateCommandRoute (blueprint.withLists lists) route direction path' message' = [] := by
  unfold validateCommandRoute at hissues ⊢
  rw [routes_withLists h hs]
  cases hget : (routes blueprint).1.get? route with
  | none =>
    rw [hget] at hissues
    cases hissues
  | some found =>
    rw [hget] at hissues
    simp only [require_eq_nil] at hissues ⊢
    exact hissues

theorem validateCommands_withLists (hissues : validateCommands blueprint = []) :
    validateCommands (blueprint.withLists lists) = [] := by
  obtain ⟨-, heach⟩ := append_eq_nil_iff.mp hissues
  refine append_eq_nil_iff.mpr ⟨keyed_snd_of_nodup (nodup_of_perm h.commands hs.commandKeys),
    each_eq_nil_of_perm h.commands heach fun command index index' hcommand => ?_⟩
  simp only [validateCommand, validateKey, validateDuration, append_eq_nil_iff,
    require_eq_nil] at hcommand ⊢
  obtain ⟨⟨⟨⟨hkeys, hrequest⟩, hresponse⟩, hinput⟩, hresult⟩ := hcommand
  exact ⟨⟨⟨⟨hkeys, validateCommandRoute_withLists h hs hrequest⟩,
    validateCommandRoute_withLists h hs hresponse⟩, Schema.validateSchemaDocument_path hinput⟩,
    Schema.validateSchemaDocument_path hresult⟩

theorem validateLocation_withLists (hissues : validateLocation blueprint = []) :
    validateLocation (blueprint.withLists lists) = [] := by
  unfold validateLocation at hissues ⊢
  rw [show (blueprint.withLists lists).spec.location = blueprint.spec.location from rfl]
  cases hlocation : blueprint.spec.location with
  | none => rfl
  | some location =>
    simp only [hlocation, append_eq_nil_iff] at hissues ⊢
    refine ⟨hissues.1, ?_⟩
    have hstream := hissues.2
    cases hget : (streams blueprint).1.get? location.stream with
    | none =>
      rw [hget] at hstream
      cases hstream
    | some stream =>
      obtain ⟨other, hother, hsame⟩ := get?_streams_withLists h hs hget
      rw [hget] at hstream
      rw [hother]
      simp only [hasNumericField, append_eq_nil_iff, require_eq_nil, any_eq_true,
        hsame.fields.mem_iff] at hstream ⊢
      exact hstream

theorem validateRelationships_withLists (hissues : validateRelationships blueprint = []) :
    validateRelationships (blueprint.withLists lists) = [] := by
  refine each_eq_nil_of_perm (.refl _) hissues fun relationship index index' hitem => ?_
  simp only [validateKey, append_eq_nil_iff, require_eq_nil] at hitem ⊢
  obtain ⟨⟨hkey, hstream⟩, hpointer⟩ := hitem
  obtain ⟨stream, hget⟩ := Option.isSome_iff_exists.mp hstream
  obtain ⟨other, hother, -⟩ := get?_streams_withLists h hs hget
  exact ⟨⟨hkey, Option.isSome_iff_exists.mpr ⟨other, hother⟩⟩, hpointer⟩

end

/-- A valid blueprint is valid in any order. -/
theorem issues_withLists {p : Platform} {blueprint : DeviceBlueprint} {lists : BlueprintLists}
    (h : Permuted blueprint lists) (hissues : issues blueprint p = []) :
    issues (blueprint.withLists lists) p = [] := by
  have hs := sound_of_issues hissues
  simp only [issues, append_eq_nil_iff] at hissues ⊢
  obtain ⟨⟨⟨⟨⟨⟨⟨⟨⟨⟨⟨⟨⟨hmetadata, hruntime⟩, htransports⟩, hschemas⟩, hroutes⟩, hstreams⟩, hlocation⟩,
    hcommands⟩, hconfiguration⟩, hreported⟩, hhealth⟩, hrelationships⟩, hpresentation⟩,
    hcardinality⟩ := hissues
  exact ⟨⟨⟨⟨⟨⟨⟨⟨⟨⟨⟨⟨⟨hmetadata, hruntime⟩, validateTransports_withLists h htransports⟩,
    validateSchemas_withLists h hschemas⟩, validateRoutes_withLists h hs hroutes⟩,
    validateStreams_withLists h hs hstreams⟩, validateLocation_withLists h hs hlocation⟩,
    validateCommands_withLists h hs hcommands⟩, hconfiguration⟩, hreported⟩,
    validateHealth_withLists h hhealth⟩, validateRelationships_withLists h hs hrelationships⟩,
    validatePresentation_withLists h hpresentation⟩, validateCardinality_withLists h hcardinality⟩

end Blueprint

namespace BlueprintCompiler

open Blueprint

variable {p : Platform} {blueprint : DeviceBlueprint} {lists : BlueprintLists}

theorem compileStream_eq_of_sameStream {stream other : StreamDefinition} (h : SameStream stream other)
    (hpaths : (stream.fields.map (·.path)).Nodup) : compileStream stream = compileStream other := by
  have hfields : OrderedMap.ofList (stream.fields.map compileField) =
      .ofList (other.fields.map compileField) := by
    refine OrderedMap.ofList_map_congr (fun _ => rfl) hpaths (nodup_of_perm h.fields hpaths)
      fun entry => ?_
    simp only [h.fields.mem_iff]
  rw [compileStream, compileStream, h.key, h.route, h.timestamp, hfields]

theorem sameDeclarations_withLists (h : Permuted blueprint lists) (hs : Sound blueprint) :
    SameDeclarations blueprint (blueprint.withLists lists) where
  metadata := rfl
  transports _ := h.transports.mem_iff
  routes _ := h.routes.mem_iff
  schemas _ := h.schemas.mem_iff
  streams entry := by
    constructor
    · rintro ⟨stream, hstream, rfl⟩
      obtain ⟨other, hother, hsame⟩ := h.streams.exists_right hstream
      exact ⟨other, hother, (compileStream_eq_of_sameStream hsame (hs.fieldPaths stream hstream)).symm⟩
    · rintro ⟨other, hother, rfl⟩
      obtain ⟨stream, hstream, hsame⟩ := h.streams.exists_left hother
      exact ⟨stream, hstream, compileStream_eq_of_sameStream hsame (hs.fieldPaths stream hstream)⟩
  commands _ := h.commands.mem_iff
  location := rfl
  reportedState := rfl
  presentation := rfl

/-- A valid blueprint compiles to the same document in any order. -/
theorem compileDocument_withLists (h : Permuted blueprint lists) (hissues : issues blueprint p = [])
    (context : CompileContext) : (compileDocument p (blueprint.withLists lists) context).toOption =
      (compileDocument p blueprint context).toOption := by
  have hs := sound_of_issues hissues
  have hs' := sound_of_issues (issues_withLists h hissues)
  rw [toOption_compileDocument, toOption_compileDocument,
    comparedParts_congr hs hs' (sameDeclarations_withLists h hs)]
  rfl

end BlueprintCompiler

end Extrittio
