import Extrittio.Contract.Compiler

/-!
What validation establishes about a blueprint, and what compilation keeps of it.
-/
namespace Extrittio

open List OrderedMap

namespace Blueprint

variable {T : Type} {items : List T} {key : T → String} {path : String}

@[simp] theorem require_eq_nil {check : Bool} {message : String} :
    require check path message = [] ↔ check := by
  cases check <;> simp [require]

theorem of_each_eq_nil {issues : ℕ → T → List ValidationIssue} (h : each items issues = []) {item : T}
    (hitem : item ∈ items) : ∃ index, issues index item = [] := by
  obtain ⟨index, hindex⟩ : ∃ index, (item, index) ∈ items.zipIdx := by
    rw [← zipIdx_map_fst (l := items) (i := 0), mem_map] at hitem
    obtain ⟨⟨item', index⟩, hmem, rfl⟩ := hitem
    exact ⟨index, hmem⟩
  exact ⟨index, flatMap_eq_nil_iff.mp h _ hindex⟩

theorem keyedFrom_fst (index : ℕ) (values : OrderedMap String T) :
    (keyedFrom key path index values items).1 =
      items.foldl (fun m item => m.insert (key item) item) values := by
  induction items generalizing index values with
  | nil => rfl
  | cons item items ih => exact ih (index + 1) (values.insert (key item) item)

theorem keyed_fst : (keyed items key path).1 = .ofList (items.map fun item => (key item, item)) := by
  rw [keyed, keyedFrom_fst, ofList, foldl_map]

theorem keyedFrom_snd_eq_nil {index : ℕ} {values : OrderedMap String T}
    (h : (keyedFrom key path index values items).2 = []) :
    (items.map key).Nodup ∧ ∀ item ∈ items, values.get? (key item) = none := by
  induction items generalizing index values with
  | nil => simp
  | cons item items ih =>
    obtain ⟨hfirst, hrest⟩ := append_eq_nil_iff.mp h
    have hfirst : values.get? (key item) = none := by simpa using hfirst
    obtain ⟨hnodup, hnone⟩ := ih hrest
    have hother (other : T) (hmem : other ∈ items) :
        key other ≠ key item ∧ values.get? (key other) = none := by
      have := hnone other hmem
      rw [get?_insert] at this
      split_ifs at this with hk
      exact ⟨hk, this⟩
    constructor
    · refine nodup_cons.mpr ⟨fun hmem => ?_, hnodup⟩
      obtain ⟨other, hother', hk⟩ := mem_map.mp hmem
      exact (hother other hother').1 hk
    · intro other hmem
      rcases mem_cons.mp hmem with rfl | hmem
      · exact hfirst
      · exact (hother other hmem).2

theorem nodup_of_keyed (h : (keyed items key path).2 = []) : (items.map key).Nodup :=
  (keyedFrom_snd_eq_nil h).1

theorem of_get?_keyed {name : String} {item : T} (h : (keyed items key path).1.get? name = some item) :
    item ∈ items ∧ key item = name := by
  rw [keyed_fst] at h
  obtain ⟨other, hmem, heq⟩ := mem_map.mp (of_mem_ofList (get?_eq_some_iff.mp h))
  cases heq
  exact ⟨hmem, rfl⟩

theorem get?_keyed (h : (items.map key).Nodup) {item : T} (hitem : item ∈ items) :
    (keyed items key path).1.get? (key item) = some item := by
  rw [keyed_fst, get?_eq_some_iff, mem_ofList]
  · exact mem_map_of_mem (f := fun item => (key item, item)) hitem
  · rwa [map_map]

/-- The conditions on the fields of a stream, without their order. -/
theorem validateFields_eq_nil_iff {streamIndex index : ℕ} {seen : List String}
    {fields : List FieldDefinition} : validateFields streamIndex index seen fields = [] ↔
      ((fields.map (·.path)).Nodup ∧ ∀ field ∈ fields, field.path ∉ seen) ∧
      ∀ field ∈ fields, isJsonPointer field.path ∧ (!blank field.label) ∧
        (field.valueType.isNumeric ||
          field.aggregates.all fun aggregate => aggregate = .count || aggregate = .last) := by
  induction fields generalizing index seen with
  | nil => simp [validateFields]
  | cons field fields ih =>
    simp only [validateFields, append_eq_nil_iff, require_eq_nil, decide_eq_true_eq, ih,
      map_cons, nodup_cons, mem_map, mem_cons, forall_eq_or_imp, not_or]
    constructor
    · rintro ⟨⟨⟨⟨hpointer, hseen⟩, hlabel⟩, haggregates⟩, ⟨hnodup, hfresh⟩, hfields⟩
      refine ⟨⟨⟨?_, hnodup⟩, hseen, fun other hother => (hfresh other hother).2⟩,
        ⟨hpointer, hlabel, haggregates⟩, hfields⟩
      rintro ⟨other, hother, hpath⟩
      exact (hfresh other hother).1 hpath
    · rintro ⟨⟨⟨hfresh, hnodup⟩, hseen, hunseen⟩, ⟨hpointer, hlabel, haggregates⟩, hfields⟩
      refine ⟨⟨⟨⟨hpointer, hseen⟩, hlabel⟩, haggregates⟩, ⟨hnodup, fun other hother => ⟨?_, ?_⟩⟩,
        hfields⟩
      · exact fun hpath => hfresh ⟨other, hother, hpath⟩
      · exact hunseen other hother

/-- What validation establishes for the compiler and for routing. -/
structure Sound (blueprint : DeviceBlueprint) : Prop where
  heartbeat : (parseDurationMs blueprint.spec.runtime.heartbeat.interval).isSome
  offline : (parseDurationMs blueprint.spec.runtime.heartbeat.offlineAfter).isSome
  transportKeys : (blueprint.spec.transports.map (·.key)).Nodup
  schemaKeys : (blueprint.spec.schemas.map (·.key)).Nodup
  routeKeys : (blueprint.spec.routes.map (·.key)).Nodup
  streamKeys : (blueprint.spec.streams.map (·.key)).Nodup
  commandKeys : (blueprint.spec.commands.map (·.key)).Nodup
  fieldPaths : ∀ stream ∈ blueprint.spec.streams, (stream.fields.map (·.path)).Nodup
  routeTransport : ∀ route ∈ blueprint.spec.routes,
    ∃ transport ∈ blueprint.spec.transports, transport.key = route.transport ∧
      (transport.protocol = .zenoh → zenohPrefix <+: route.address.toList)
  routeSchema : ∀ route ∈ blueprint.spec.routes, builtinSchema route.messageSchema = true ∨
    ∃ schema ∈ blueprint.spec.schemas, schema.key = route.messageSchema
  routeAddress : ∀ route ∈ blueprint.spec.routes,
    ('{' ∉ Template.replaceAll deviceVariable [] route.address.toList ∧
      '}' ∉ Template.replaceAll deviceVariable [] route.address.toList) ∧
    '*' ∉ route.address.toList ∧ '#' ∉ route.address.toList
  streamRoute : ∀ stream ∈ blueprint.spec.streams,
    ∃ route ∈ blueprint.spec.routes, route.key = stream.route ∧ route.direction = .deviceToCloud
  location : ∀ location, blueprint.spec.location = some location →
    (parseDurationMs location.maxAge).isSome ∧ location.latitudePath ≠ location.longitudePath ∧
      ∃ stream ∈ blueprint.spec.streams, stream.key = location.stream ∧
        hasNumericField stream location.latitudePath = true ∧
        hasNumericField stream location.longitudePath = true
  commandTimeout : ∀ command ∈ blueprint.spec.commands, (parseDurationMs command.timeout).isSome
  commandRequest : ∀ command ∈ blueprint.spec.commands, ∃ route ∈ blueprint.spec.routes,
    route.key = command.requestRoute ∧ route.direction = .cloudToDevice
  commandResponse : ∀ command ∈ blueprint.spec.commands, ∃ route ∈ blueprint.spec.routes,
    route.key = command.responseRoute ∧ route.direction = .deviceToCloud
  acknowledgement : ∀ configuration, blueprint.spec.configuration = some configuration →
    (parseDurationMs configuration.apply.acknowledgementTimeout).isSome

theorem isSome_of_validateDuration {value : String} (h : validateDuration value path = []) :
    (parseDurationMs value).isSome := by
  rw [validateDuration, require_eq_nil, Option.any_eq_true] at h
  obtain ⟨n, hn, -⟩ := h
  exact Option.isSome_iff_exists.mpr ⟨n, hn⟩

section

variable {blueprint : DeviceBlueprint}

theorem durations_of_validateRuntime (h : validateRuntime blueprint = []) :
    (parseDurationMs blueprint.spec.runtime.heartbeat.interval).isSome ∧
      (parseDurationMs blueprint.spec.runtime.heartbeat.offlineAfter).isSome := by
  simp only [validateRuntime, append_eq_nil_iff] at h
  exact ⟨isSome_of_validateDuration h.1.1.1.1.1.2, isSome_of_validateDuration h.1.1.1.1.2⟩

theorem of_validateRoute {index : ℕ} {route : RouteDefinition}
    (h : validateRoute blueprint index route = []) :
    (∃ transport ∈ blueprint.spec.transports, transport.key = route.transport ∧
      (transport.protocol = .zenoh → zenohPrefix <+: route.address.toList)) ∧
    (builtinSchema route.messageSchema ∨
      ∃ schema ∈ blueprint.spec.schemas, schema.key = route.messageSchema) ∧
    ('{' ∉ Template.replaceAll deviceVariable [] route.address.toList ∧
      '}' ∉ Template.replaceAll deviceVariable [] route.address.toList) ∧
    '*' ∉ route.address.toList ∧ '#' ∉ route.address.toList := by
  simp only [validateRoute, validateAddress, append_eq_nil_iff, require_eq_nil] at h
  obtain ⟨⟨⟨⟨⟨-, htransport⟩, hschema⟩, ⟨-, hbrace⟩, hwild⟩, hzenoh⟩, -⟩ := h
  obtain ⟨transport, hget⟩ := Option.isSome_iff_exists.mp htransport
  obtain ⟨hmem, hkey⟩ := of_get?_keyed hget
  refine ⟨⟨transport, hmem, hkey, fun hprotocol => ?_⟩, ?_, by simpa using hbrace,
    by simpa using hwild⟩
  · rw [hget] at hzenoh
    simpa [hprotocol, isPrefixOf_iff_prefix] using hzenoh
  · rcases Bool.or_eq_true_iff.mp hschema with hbuiltin | hfound
    · exact .inl hbuiltin
    · obtain ⟨schema, hget⟩ := Option.isSome_iff_exists.mp hfound
      exact .inr ⟨schema, of_get?_keyed hget⟩

theorem of_validateStream {index : ℕ} {stream : StreamDefinition}
    (h : validateStream blueprint index stream = []) :
    (∃ route ∈ blueprint.spec.routes, route.key = stream.route ∧
      route.direction = .deviceToCloud) ∧ (stream.fields.map (·.path)).Nodup := by
  simp only [validateStream, append_eq_nil_iff] at h
  obtain ⟨⟨-, hroute⟩, hfields⟩ := h
  refine ⟨?_, (validateFields_eq_nil_iff.mp hfields).1.1⟩
  cases hget : (routes blueprint).1.get? stream.route with
  | none => simp [hget] at hroute
  | some route =>
    obtain ⟨hmem, hkey⟩ := of_get?_keyed hget
    exact ⟨route, hmem, hkey, by simpa [hget] using hroute⟩

theorem of_validateCommandRoute {route message : String} {direction : RouteDirection}
    (h : validateCommandRoute blueprint route direction path message = []) :
    ∃ found ∈ blueprint.spec.routes, found.key = route ∧ found.direction = direction := by
  unfold validateCommandRoute at h
  cases hget : (routes blueprint).1.get? route with
  | none => simp [hget] at h
  | some found =>
    obtain ⟨hmem, hkey⟩ := of_get?_keyed hget
    exact ⟨found, hmem, hkey, by simpa [hget] using h⟩

theorem of_validateLocation (h : validateLocation blueprint = []) {location : LocationDefinition}
    (hlocation : blueprint.spec.location = some location) :
    (parseDurationMs location.maxAge).isSome ∧ location.latitudePath ≠ location.longitudePath ∧
      ∃ stream ∈ blueprint.spec.streams, stream.key = location.stream ∧
        hasNumericField stream location.latitudePath ∧
        hasNumericField stream location.longitudePath := by
  simp only [validateLocation, hlocation, append_eq_nil_iff] at h
  obtain ⟨⟨hage, hdistinct⟩, hstream⟩ := h
  refine ⟨isSome_of_validateDuration hage, by simpa using hdistinct, ?_⟩
  cases hget : (streams blueprint).1.get? location.stream with
  | none => simp [hget] at hstream
  | some stream =>
    obtain ⟨hmem, hkey⟩ := of_get?_keyed hget
    simp only [hget, append_eq_nil_iff, require_eq_nil] at hstream
    exact ⟨stream, hmem, hkey, hstream⟩

theorem of_validateConfiguration {p : Platform} (h : validateConfiguration blueprint p = [])
    {configuration : ConfigurationDefinition}
    (hconfiguration : blueprint.spec.configuration = some configuration) :
    (parseDurationMs configuration.apply.acknowledgementTimeout).isSome := by
  simp only [validateConfiguration, hconfiguration, append_eq_nil_iff] at h
  exact isSome_of_validateDuration h.2

theorem sound_of_issues {p : Platform} (h : issues blueprint p = []) : Sound blueprint := by
  simp only [issues, append_eq_nil_iff] at h
  obtain ⟨⟨⟨⟨⟨⟨⟨⟨⟨⟨⟨⟨⟨-, hruntime⟩, htransports⟩, hschemas⟩, hroutes⟩, hstreams⟩, hlocation⟩,
    hcommands⟩, hconfiguration⟩, -⟩, -⟩, -⟩, -⟩, -⟩ := h
  obtain ⟨htransportKeys, -⟩ := append_eq_nil_iff.mp htransports
  obtain ⟨hschemaKeys, -⟩ := append_eq_nil_iff.mp hschemas
  obtain ⟨hrouteKeys, heachRoute⟩ := append_eq_nil_iff.mp hroutes
  obtain ⟨hstreamKeys, heachStream⟩ := append_eq_nil_iff.mp hstreams
  obtain ⟨hcommandKeys, heachCommand⟩ := append_eq_nil_iff.mp hcommands
  have hroute (route : RouteDefinition) (hmem : route ∈ blueprint.spec.routes) :=
    of_validateRoute (of_each_eq_nil heachRoute hmem).choose_spec
  have hstream (stream : StreamDefinition) (hmem : stream ∈ blueprint.spec.streams) :=
    of_validateStream (of_each_eq_nil heachStream hmem).choose_spec
  have hcommand (command : CommandDefinition) (hmem : command ∈ blueprint.spec.commands) :
      (parseDurationMs command.timeout).isSome ∧
      (∃ route ∈ blueprint.spec.routes,
        route.key = command.requestRoute ∧ route.direction = .cloudToDevice) ∧
      ∃ route ∈ blueprint.spec.routes,
        route.key = command.responseRoute ∧ route.direction = .deviceToCloud := by
    obtain ⟨index, hissues⟩ := of_each_eq_nil heachCommand hmem
    simp only [validateCommand, append_eq_nil_iff] at hissues
    obtain ⟨⟨⟨⟨⟨-, htimeout⟩, hrequest⟩, hresponse⟩, -⟩, -⟩ := hissues
    exact ⟨isSome_of_validateDuration htimeout, of_validateCommandRoute hrequest,
      of_validateCommandRoute hresponse⟩
  exact {
    heartbeat := (durations_of_validateRuntime hruntime).1
    offline := (durations_of_validateRuntime hruntime).2
    transportKeys := nodup_of_keyed htransportKeys
    schemaKeys := nodup_of_keyed hschemaKeys
    routeKeys := nodup_of_keyed hrouteKeys
    streamKeys := nodup_of_keyed hstreamKeys
    commandKeys := nodup_of_keyed hcommandKeys
    fieldPaths := fun stream hmem => (hstream stream hmem).2
    routeTransport := fun route hmem => (hroute route hmem).1
    routeSchema := fun route hmem => (hroute route hmem).2.1
    routeAddress := fun route hmem => (hroute route hmem).2.2
    streamRoute := fun stream hmem => (hstream stream hmem).1
    location := fun _ => of_validateLocation hlocation
    commandTimeout := fun command hmem => (hcommand command hmem).1
    commandRequest := fun command hmem => (hcommand command hmem).2.1
    commandResponse := fun command hmem => (hcommand command hmem).2.2
    acknowledgement := fun _ => of_validateConfiguration hconfiguration }

end

end Blueprint

theorem ValidatedBlueprint.sound {p : Platform} (blueprint : ValidatedBlueprint p) :
    Blueprint.Sound blueprint.blueprint :=
  Blueprint.sound_of_issues blueprint.valid

end Extrittio
