import Extrittio.Contract.Laws

/-!
The comparison of two published blueprints. Removals and most changes are
breaking, additions never are.
-/
namespace Extrittio

open List OrderedMap

inductive CompatibilityChangeKind where
  | added
  | removed
  | changed
  deriving DecidableEq

structure CompatibilityChange where
  path : String
  kind : CompatibilityChangeKind
  breaking : Bool
  message : String
  deriving DecidableEq

structure Compatibility where
  breaking : Bool
  changes : List CompatibilityChange
  deriving DecidableEq

namespace Blueprint

def changed (path : String) (breaking : Bool) (message : String) : List CompatibilityChange :=
  [⟨path, .changed, breaking, message⟩]

def compareSerialized {T : Type} [DecidableEq T] (previous next : T) (path : String)
    (breaking : Bool) : List CompatibilityChange :=
  if previous ≠ next then changed path breaking "declaration changed" else []

def compareItem {T : Type} (next : OrderedMap String T) (path : String) (removalBreaking : Bool)
    (compare : T → T → String → List CompatibilityChange) (entry : String × T) :
    List CompatibilityChange :=
  match next.get? entry.1 with
  | some nextItem => compare entry.2 nextItem s!"{path}/{entry.1}"
  | none => [⟨s!"{path}/{entry.1}", .removed, removalBreaking, "declaration was removed"⟩]

def compareKeyed {T : Type} (previous next : List T) (key : T → String) (path : String)
    (removalBreaking : Bool) (compare : T → T → String → List CompatibilityChange) :
    List CompatibilityChange :=
  let previous := OrderedMap.ofList (previous.map fun item => (key item, item))
  let next := OrderedMap.ofList (next.map fun item => (key item, item))
  previous.entries.flatMap (compareItem next path removalBreaking compare) ++
    (next.entries.filter fun entry => (previous.get? entry.1).isNone).map fun entry =>
      ⟨s!"{path}/{entry.1}", .added, false, "declaration was added"⟩

def compareTransport (previous next : TransportDefinition) (path : String) :
    List CompatibilityChange :=
  if previous.protocol ≠ next.protocol ∨ previous.binding ≠ next.binding then
    changed path true "transport protocol or deployment binding changed"
  else if previous ≠ next then changed path false "transport delivery policy changed"
  else []

def compareSchema (previous next : SchemaDefinition) (path : String) : List CompatibilityChange :=
  if previous ≠ next then
    changed path true "schema changed; schema changes are conservatively classified as breaking"
  else []

def compareRoute (previous next : RouteDefinition) (path : String) : List CompatibilityChange :=
  if previous ≠ next then changed path true "route contract changed" else []

def compareField (previous next : FieldDefinition) (path : String) : List CompatibilityChange :=
  if previous.valueType ≠ next.valueType ∨ previous.unit ≠ next.unit ∨
      previous.semantic ≠ next.semantic then
    changed path true "field type, unit, or semantic changed"
  else if previous ≠ next then changed path false "field metadata changed"
  else []

def compareStream (previous next : StreamDefinition) (path : String) : List CompatibilityChange :=
  (if previous.route ≠ next.route ∨ previous.timestamp ≠ next.timestamp then
    changed path true "stream route or timestamp source changed"
  else []) ++
  compareKeyed previous.fields next.fields (·.path) s!"{path}/fields" true compareField

/-- The routes of a command may change without a break. -/
def compareCommand (previous next : CommandDefinition) (path : String) :
    List CompatibilityChange :=
  if previous.inputSchema ≠ next.inputSchema ∨ previous.resultSchema ≠ next.resultSchema then
    changed path true "command input or result schema changed"
  else if previous ≠ next then changed path false "command metadata or policy changed"
  else []

def compareRuntime (previous next : RuntimeDefinition) : List CompatibilityChange :=
  (if previous.minimumContractApi < next.minimumContractApi then
    changed "/spec/runtime/minimumContractApi" true "minimum contract API increased"
  else []) ++
  (if next.limits.maxMessageBytes < previous.limits.maxMessageBytes ∨
      next.limits.maxMessagesPerMinute < previous.limits.maxMessagesPerMinute ∨
      next.limits.maxMetricCardinality < previous.limits.maxMetricCardinality then
    changed "/spec/runtime/limits" true "one or more runtime limits were reduced"
  else [])

def compareChanges (previous next : DeviceBlueprint) : List CompatibilityChange :=
  compareRuntime previous.spec.runtime next.spec.runtime ++
  compareKeyed previous.spec.transports next.spec.transports (·.key) "/spec/transports" true
    compareTransport ++
  compareKeyed previous.spec.schemas next.spec.schemas (·.key) "/spec/schemas" true compareSchema ++
  compareKeyed previous.spec.routes next.spec.routes (·.key) "/spec/routes" true compareRoute ++
  compareKeyed previous.spec.streams next.spec.streams (·.key) "/spec/streams" true compareStream ++
  compareKeyed previous.spec.commands next.spec.commands (·.key) "/spec/commands" true
    compareCommand ++
  compareSerialized previous.metadata next.metadata "/metadata" false ++
  compareSerialized (previous.spec.configuration.map (·.schema))
    (next.spec.configuration.map (·.schema)) "/spec/configuration/schema" true ++
  compareSerialized previous.spec.reportedState next.spec.reportedState "/spec/reportedState" true ++
  compareSerialized previous.spec.location next.spec.location "/spec/location"
    previous.spec.location.isSome ++
  compareSerialized previous.spec.presentation next.spec.presentation "/spec/presentation" false

def compareBlueprints {p : Platform} (previous next : ValidatedBlueprint p) : Compatibility :=
  let changes := compareChanges previous.blueprint next.blueprint
  ⟨changes.any (·.breaking), changes⟩

/-! What a comparison without a breaking change says. -/

def Compatible (changes : List CompatibilityChange) : Prop :=
  ∀ change ∈ changes, change.breaking = false

theorem compatible_append {a b : List CompatibilityChange} :
    Compatible (a ++ b) ↔ Compatible a ∧ Compatible b := forall_mem_append

theorem not_of_compatible {condition : Prop} [Decidable condition] {path message : String}
    {otherwise : List CompatibilityChange}
    (h : Compatible (if condition then changed path true message else otherwise)) : ¬condition := by
  intro hcondition
  rw [if_pos hcondition] at h
  exact Bool.noConfusion (h _ mem_cons_self)

section

variable {T : Type} {previous next : List T} {key : T → String} {path : String} {item : T}
  {removalBreaking : Bool} {compare : T → T → String → List CompatibilityChange}

theorem compareItem_subset (hkeys : (previous.map key).Nodup) (hitem : item ∈ previous) :
    compareItem (.ofList (next.map fun item => (key item, item))) path removalBreaking compare
      (key item, item) ⊆ compareKeyed previous next key path removalBreaking compare := by
  have hentry : (key item, item) ∈
      (ofList (previous.map fun item => (key item, item))).entries := by
    rw [mem_ofList]
    · exact mem_map_of_mem (f := fun item => (key item, item)) hitem
    · rwa [map_map]
  intro change hchange
  exact mem_append_left _ (mem_flatMap.mpr ⟨_, hentry, hchange⟩)

theorem compareItem_cases (next : List T) (item : T) :
    (∃ nextItem ∈ next, key nextItem = key item ∧
      compareItem (.ofList (next.map fun item => (key item, item))) path removalBreaking compare
        (key item, item) = compare item nextItem s!"{path}/{key item}") ∨
    compareItem (.ofList (next.map fun item => (key item, item))) path removalBreaking compare
      (key item, item) =
        [⟨s!"{path}/{key item}", .removed, removalBreaking, "declaration was removed"⟩] := by
  simp only [compareItem]
  split
  · rename_i nextItem hget
    obtain ⟨found, hmem, heq⟩ := mem_map.mp
      (of_mem_ofList (get?_eq_some_iff.mp hget))
    obtain ⟨hkey, rfl⟩ := Prod.mk.inj heq
    exact .inl ⟨found, hmem, hkey, rfl⟩
  · exact .inr rfl

/-- Every item of the previous section is in the next one, without a breaking change. -/
theorem of_compareKeyed (hkeys : (previous.map key).Nodup)
    (h : Compatible (compareKeyed previous next key path true compare)) (hitem : item ∈ previous) :
    ∃ nextItem ∈ next, key nextItem = key item ∧
      ∃ itemPath, Compatible (compare item nextItem itemPath) := by
  have hcompared := fun change hchange => h change (compareItem_subset hkeys hitem hchange)
  rcases compareItem_cases next item with ⟨nextItem, hmem, hkey, heq⟩ | hremoved
  · rw [heq] at hcompared
    exact ⟨nextItem, hmem, hkey, _, hcompared⟩
  · rw [hremoved] at hcompared
    exact Bool.noConfusion (hcompared _ mem_cons_self)

theorem of_compareKeyed_eq_nil (hkeys : (previous.map key).Nodup) (hnext : (next.map key).Nodup)
    (h : compareKeyed previous next key path removalBreaking compare = []) :
    (∀ item ∈ previous, ∃ nextItem ∈ next, key nextItem = key item ∧
      ∃ itemPath, compare item nextItem itemPath = []) ∧
    ∀ nextItem ∈ next, ∃ item ∈ previous, key item = key nextItem := by
  constructor
  · intro item hitem
    have hcompared : compareItem (.ofList (next.map fun item => (key item, item))) path
        removalBreaking compare (key item, item) = [] :=
      subset_nil.mp (h ▸ compareItem_subset hkeys hitem)
    rcases compareItem_cases next item with ⟨nextItem, hmem, hkey, heq⟩ | hremoved
    · exact ⟨nextItem, hmem, hkey, _, heq ▸ hcompared⟩
    · rw [hremoved] at hcompared
      cases hcompared
  · intro nextItem hitem
    have hentry : (key nextItem, nextItem) ∈
        (ofList (next.map fun item => (key item, item))).entries := by
      rw [mem_ofList (by rwa [map_map])]
      exact mem_map_of_mem (f := fun item => (key item, item)) hitem
    have hkept := filter_eq_nil_iff.mp (map_eq_nil_iff.mp (append_eq_nil_iff.mp h).2)
      (key nextItem, nextItem) hentry
    simp only [Option.isNone_iff_eq_none, ← ne_eq, Option.ne_none_iff_exists'] at hkept
    obtain ⟨item, hget⟩ := hkept
    obtain ⟨found, hmem, heq⟩ := mem_map.mp
      (of_mem_ofList (get?_eq_some_iff.mp hget))
    exact ⟨found, hmem, (Prod.mk.inj heq).1⟩

end

/-- What a comparison without a breaking change keeps for ingestion. -/
structure Retains (previous next : DeviceBlueprint) : Prop where
  maxMessageBytes : previous.spec.runtime.limits.maxMessageBytes ≤
    next.spec.runtime.limits.maxMessageBytes
  schemas : ∀ schema ∈ previous.spec.schemas, schema ∈ next.spec.schemas
  routes : ∀ route ∈ previous.spec.routes, route ∈ next.spec.routes
  streams : ∀ stream ∈ previous.spec.streams, ∃ nextStream ∈ next.spec.streams,
    nextStream.key = stream.key ∧ nextStream.route = stream.route ∧
      ∀ field ∈ stream.fields, ∃ nextField ∈ nextStream.fields,
        nextField.path = field.path ∧ nextField.valueType = field.valueType

theorem of_compareStream {previous next : StreamDefinition} {path : String}
    (hpaths : (previous.fields.map (·.path)).Nodup) (h : Compatible (compareStream previous next path)) :
    next.route = previous.route ∧ ∀ field ∈ previous.fields, ∃ nextField ∈ next.fields,
      nextField.path = field.path ∧ nextField.valueType = field.valueType := by
  obtain ⟨hroute, hfields⟩ := compatible_append.mp h
  constructor
  · have hsame := not_of_compatible hroute
    push Not at hsame
    exact hsame.1.symm
  · intro field hfield
    obtain ⟨nextField, hmem, hpath, _, hcompare⟩ := of_compareKeyed hpaths hfields hfield
    have hsame := not_of_compatible hcompare
    push Not at hsame
    exact ⟨nextField, hmem, hpath, hsame.1.symm⟩

theorem retains_of_compareBlueprints {p : Platform} {previous next : ValidatedBlueprint p}
    (h : (compareBlueprints previous next).breaking = false) :
    Retains previous.blueprint next.blueprint := by
  have hs := previous.sound
  have hchanges : Compatible (compareChanges previous.blueprint next.blueprint) := by
    intro change hchange
    simpa using any_eq_false.mp h change hchange
  simp only [compareChanges, compareRuntime, compatible_append, and_assoc] at hchanges
  obtain ⟨-, hlimits, -, hschemas, hroutes, hstreams, -⟩ := hchanges
  constructor
  · have hreduced := not_of_compatible hlimits
    omega
  · intro schema hschema
    obtain ⟨nextSchema, hmem, -, _, hcompare⟩ := of_compareKeyed hs.schemaKeys hschemas hschema
    obtain rfl : schema = nextSchema := not_not.mp (not_of_compatible hcompare)
    exact hmem
  · intro route hroute
    obtain ⟨nextRoute, hmem, -, _, hcompare⟩ := of_compareKeyed hs.routeKeys hroutes hroute
    obtain rfl : route = nextRoute := not_not.mp (not_of_compatible hcompare)
    exact hmem
  · intro stream hstream
    obtain ⟨nextStream, hmem, hkey, _, hcompare⟩ := of_compareKeyed hs.streamKeys hstreams hstream
    exact ⟨nextStream, hmem, hkey, of_compareStream (hs.fieldPaths stream hstream) hcompare⟩

end Blueprint

end Extrittio
