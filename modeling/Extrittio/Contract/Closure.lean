import Extrittio.Contract.Laws

/-!
A validated blueprint compiles without a failed expectation, and the contract
keeps every declaration and refers only to what it contains.
-/
namespace Extrittio

open List OrderedMap

namespace BlueprintCompiler

/-! Failed expectations. -/

/-- The computation does not end in a failed expectation. -/
def NoPanic {α : Type} (x : Except CompileFailure α) : Prop :=
  ∀ message, x ≠ .error (.panicked message)

section

variable {α β : Type}

theorem NoPanic.ok (value : α) : NoPanic (.ok value) := nofun

theorem NoPanic.bind {x : Except CompileFailure α} {f : α → Except CompileFailure β}
    (hx : NoPanic x) (hf : ∀ a, NoPanic (f a)) : NoPanic (x >>= f) := by
  cases x with
  | error e =>
    intro message h
    exact hx message (congrArg Except.error (Except.error.inj h))
  | ok a => exact hf a

theorem NoPanic.refused (x : Except ContractError α) : NoPanic (x.mapError .refused) := by
  cases x with
  | error e => exact nofun
  | ok a => exact nofun

theorem NoPanic.expect {value : Option α} (h : value.isSome) (message : String) :
    NoPanic (BlueprintCompiler.expect value message) := by
  cases value with
  | none => cases h
  | some value => exact nofun

theorem NoPanic.mapM {f : α → Except CompileFailure β} {l : List α} (h : ∀ a ∈ l, NoPanic (f a)) :
    NoPanic (l.mapM f) := by
  induction l with
  | nil => exact .ok _
  | cons a l ih =>
    rw [mapM_cons]
    refine .bind (h a mem_cons_self) fun b => ?_
    refine .bind (ih fun a ha => h a (mem_cons_of_mem _ ha)) fun bs => ?_
    exact .ok _

theorem NoPanic.traverse {f : α → Except CompileFailure β} {value : Option α}
    (h : ∀ a, value = some a → NoPanic (f a)) : NoPanic (traverse f value) := by
  cases value with
  | none => exact .ok _
  | some a =>
    show NoPanic ((f a).map some)
    have hf := h a rfl
    cases hfa : f a with
    | error e =>
      intro message heq
      rw [hfa] at hf
      exact hf message (congrArg Except.error (Except.error.inj heq))
    | ok b => exact .ok _

end

variable {p : Platform} {blueprint : DeviceBlueprint} {context : CompileContext}

/-- The durations that compilation expects to parse were checked by validation. -/
theorem noPanic_compileDocument (h : Blueprint.Sound blueprint) (context : CompileContext) :
    NoPanic (compileDocument p blueprint context) := by
  unfold compileDocument
  refine .bind (.refused _) fun _ => .bind (.refused _) fun transports => ?_
  refine .bind (.mapM fun command hcommand => ?_) fun commands => ?_
  · exact .bind (.expect (h.commandTimeout command hcommand) _) fun _ => .ok _
  refine .bind (.traverse fun configuration hconfiguration => ?_) fun configuration => ?_
  · refine .bind (.refused _) fun _ => .bind ?_ fun _ => .ok _
    exact .expect (h.acknowledgement configuration hconfiguration) _
  split
  · exact nofun
  · refine .bind ?_ fun runtime => ?_
    · exact .bind (.expect h.heartbeat _) fun _ => .bind (.expect h.offline _) fun _ => .ok _
    refine .bind (.traverse fun location hlocation => ?_) fun location => .ok _
    exact .bind (.expect (h.location location hlocation).1 _) fun _ => .ok _

/-! What a compiled document contains. -/

/-- The declarations of a blueprint as a document of a device has them. -/
structure CompiledFrom (blueprint : DeviceBlueprint) (context : CompileContext)
    (document : CompiledContractDocument) : Prop where
  admitted : validateContext context = .ok ()
  deviceId : document.deviceId = context.deviceId
  maxMessageBytes :
    document.runtime.maxMessageBytes = blueprint.spec.runtime.limits.maxMessageBytes
  transports : ∃ compiled,
    List.Forall₂ (fun transport entry => compileTransport context transport = .ok entry)
      blueprint.spec.transports compiled ∧ document.transports = .ofList compiled
  routes : document.routes = .ofList (blueprint.spec.routes.map (compileRoute context))
  schemas : document.schemas = .ofList (blueprint.spec.schemas.map compileSchema)
  streams : document.streams = .ofList (blueprint.spec.streams.map compileStream)
  commands : ∃ compiled,
    List.Forall₂ (fun command entry => compileCommand command = .ok entry)
      blueprint.spec.commands compiled ∧ document.commands = .ofList compiled
  location : traverse compileLocation blueprint.spec.location = .ok document.location

theorem compiledFrom_of_compileDocument {document : CompiledContractDocument}
    (h : compileDocument p blueprint context = .ok document) :
    CompiledFrom blueprint context document := by
  obtain ⟨_, hcontext, h⟩ := of_bind_ok h
  obtain ⟨transports, htransports, h⟩ := of_bind_ok h
  obtain ⟨commands, hcommands, h⟩ := of_bind_ok h
  obtain ⟨configuration, -, h⟩ := of_bind_ok h
  split at h
  · cases h
  obtain ⟨runtime, hruntime, h⟩ := of_bind_ok h
  obtain ⟨location, hlocation, h⟩ := of_bind_ok h
  obtain ⟨heartbeatMs, -, hruntime⟩ := of_bind_ok hruntime
  obtain ⟨offlineMs, -, hruntime⟩ := of_bind_ok hruntime
  cases hruntime
  cases h
  exact {
    admitted := mapError_eq_ok.mp hcontext
    deviceId := rfl
    maxMessageBytes := rfl
    transports := ⟨_, forall₂_of_mapM_eq_ok (mapError_eq_ok.mp htransports), rfl⟩
    routes := rfl
    schemas := rfl
    streams := rfl
    commands := ⟨_, forall₂_of_mapM_eq_ok hcommands, rfl⟩
    location := hlocation }

theorem compiledFrom_of_compile {digest : CompiledContractDocument → Except ContractError String}
    {blueprint : ValidatedBlueprint p} {contract : CompiledContract}
    (h : compile p digest blueprint context = .ok contract) :
    CompiledFrom blueprint.blueprint context contract.document := by
  obtain ⟨document, hdocument, h⟩ := of_bind_ok h
  obtain ⟨hash, -, h⟩ := of_bind_ok h
  cases h
  exact compiledFrom_of_compileDocument hdocument

/-! Declarations and entries correspond. -/

section

variable {blueprint : DeviceBlueprint} {context : CompileContext}
  {document : CompiledContractDocument} {key : String}

theorem forall₂_map {T V : Type} (f : T → String × V) (items : List T) :
    List.Forall₂ (fun item entry => f item = entry) items (items.map f) :=
  forall₂_map_right_iff.mpr (forall₂_same.mpr fun _ _ => rfl)

theorem fst_of_compileTransport {transport : TransportDefinition} {entry : String × CompiledTransport}
    (h : compileTransport context transport = .ok entry) :
    entry.1 = transport.key ∧ entry.2.protocol = transport.protocol := by
  simp only [compileTransport, bind, Except.bind, throw, throwThe, MonadExceptOf.throw, pure,
    Except.pure] at h
  repeat' split at h
  · cases h
  · cases h
  · rename_i hprotocol _
    cases h
    exact ⟨rfl, not_not.mp hprotocol⟩
  · cases h

theorem fst_of_compileCommand {command : CommandDefinition} {entry : String × CompiledCommand}
    (h : compileCommand command = .ok entry) :
    entry.1 = command.key ∧ entry.2.requestRoute = command.requestRoute ∧
      entry.2.responseRoute = command.responseRoute := by
  obtain ⟨timeoutMs, -, h⟩ := of_bind_ok h
  cases h
  exact ⟨rfl, rfl, rfl⟩

namespace CompiledFrom

variable (hc : CompiledFrom blueprint context document) (hs : Blueprint.Sound blueprint)

include hc

theorem exists_route {route : CompiledRoute} (h : document.routes.get? key = some route) :
    ∃ declared ∈ blueprint.spec.routes, compileRoute context declared = (key, route) :=
  exists_item_of_get? (forall₂_map _ _) (hc.routes ▸ h)

theorem exists_schema {schema : CompiledSchema} (h : document.schemas.get? key = some schema) :
    ∃ declared ∈ blueprint.spec.schemas, compileSchema declared = (key, schema) :=
  exists_item_of_get? (forall₂_map _ _) (hc.schemas ▸ h)

theorem exists_stream {stream : CompiledStream} (h : document.streams.get? key = some stream) :
    ∃ declared ∈ blueprint.spec.streams, compileStream declared = (key, stream) :=
  exists_item_of_get? (forall₂_map _ _) (hc.streams ▸ h)

theorem exists_command {command : CompiledCommand} (h : document.commands.get? key = some command) :
    ∃ declared ∈ blueprint.spec.commands, compileCommand declared = .ok (key, command) := by
  obtain ⟨compiled, hcompiled, hcommands⟩ := hc.commands
  exact exists_item_of_get? hcompiled (hcommands ▸ h)

include hs

theorem get?_route {route : RouteDefinition} (h : route ∈ blueprint.spec.routes) :
    document.routes.get? route.key = some (compileRoute context route).2 := by
  rw [hc.routes]
  exact get?_ofList_map (fun _ => rfl) hs.routeKeys h

theorem get?_schema {schema : SchemaDefinition} (h : schema ∈ blueprint.spec.schemas) :
    document.schemas.get? schema.key = some (compileSchema schema).2 := by
  rw [hc.schemas]
  exact get?_ofList_map (fun _ => rfl) hs.schemaKeys h

theorem get?_stream {stream : StreamDefinition} (h : stream ∈ blueprint.spec.streams) :
    document.streams.get? stream.key = some (compileStream stream).2 := by
  rw [hc.streams]
  exact get?_ofList_map (fun _ => rfl) hs.streamKeys h

theorem get?_transport {transport : TransportDefinition} (h : transport ∈ blueprint.spec.transports) :
    ∃ compiled, compileTransport context transport = .ok (transport.key, compiled) ∧
      document.transports.get? transport.key = some compiled := by
  obtain ⟨compiled, hcompiled, htransports⟩ := hc.transports
  rw [htransports]
  exact exists_get?_of_item hcompiled (fun _ _ heq => (fst_of_compileTransport heq).1)
    hs.transportKeys h

theorem get?_command {command : CommandDefinition} (h : command ∈ blueprint.spec.commands) :
    ∃ compiled, compileCommand command = .ok (command.key, compiled) ∧
      document.commands.get? command.key = some compiled := by
  obtain ⟨compiled, hcompiled, hcommands⟩ := hc.commands
  rw [hcommands]
  exact exists_get?_of_item hcompiled (fun _ _ heq => (fst_of_compileCommand heq).1)
    hs.commandKeys h

end CompiledFrom

theorem get?_compileField {stream : StreamDefinition} (hpaths : (stream.fields.map (·.path)).Nodup)
    {field : FieldDefinition} (h : field ∈ stream.fields) :
    (compileStream stream).2.fields.get? field.path = some (compileField field).2 := by
  show (ofList (stream.fields.map compileField)).get? field.path = _
  exact get?_ofList_map (fun _ => rfl) hpaths h

end

/-- Every declaration of the blueprint is in the document, under its own key. -/
structure KeepsDeclarations (blueprint : DeviceBlueprint) (context : CompileContext)
    (document : CompiledContractDocument) : Prop where
  transports : ∀ transport ∈ blueprint.spec.transports, ∃ compiled,
    compileTransport context transport = .ok (transport.key, compiled) ∧
      document.transports.get? transport.key = some compiled
  routes : ∀ route ∈ blueprint.spec.routes,
    document.routes.get? route.key = some (compileRoute context route).2
  schemas : ∀ schema ∈ blueprint.spec.schemas,
    document.schemas.get? schema.key = some (compileSchema schema).2
  streams : ∀ stream ∈ blueprint.spec.streams,
    document.streams.get? stream.key = some (compileStream stream).2
  fields : ∀ stream ∈ blueprint.spec.streams, ∀ field ∈ stream.fields,
    (compileStream stream).2.fields.get? field.path = some (compileField field).2
  commands : ∀ command ∈ blueprint.spec.commands, ∃ compiled,
    compileCommand command = .ok (command.key, compiled) ∧
      document.commands.get? command.key = some compiled

/-- The document refers only to what it contains. -/
structure Closed (document : CompiledContractDocument) : Prop where
  routeTransport : ∀ key route, document.routes.get? key = some route →
    ∃ transport, document.transports.get? route.transport = some transport
  routeSchema : ∀ key route, document.routes.get? key = some route →
    Blueprint.builtinSchema route.messageSchema = true ∨
      ∃ schema, document.schemas.get? route.messageSchema = some schema
  streamRoute : ∀ key stream, document.streams.get? key = some stream →
    ∃ route, document.routes.get? stream.route = some route ∧ route.direction = .deviceToCloud
  commandRequest : ∀ key command, document.commands.get? key = some command →
    ∃ route, document.routes.get? command.requestRoute = some route ∧
      route.direction = .cloudToDevice
  commandResponse : ∀ key command, document.commands.get? key = some command →
    ∃ route, document.routes.get? command.responseRoute = some route ∧
      route.direction = .deviceToCloud
  location : ∀ location, document.location = some location →
    location.latitudePath ≠ location.longitudePath ∧
    ∃ stream, document.streams.get? location.stream = some stream ∧
      ∀ path ∈ [location.latitudePath, location.longitudePath],
        ∃ field, stream.fields.get? path = some field ∧ field.valueType.isNumeric = true

section

variable {blueprint : DeviceBlueprint} {context : CompileContext}
  {document : CompiledContractDocument}

theorem CompiledFrom.keepsDeclarations (hc : CompiledFrom blueprint context document)
    (hs : Blueprint.Sound blueprint) : KeepsDeclarations blueprint context document where
  transports _ h := hc.get?_transport hs h
  routes _ h := hc.get?_route hs h
  schemas _ h := hc.get?_schema hs h
  streams _ h := hc.get?_stream hs h
  fields stream h _ hfield := get?_compileField (hs.fieldPaths stream h) hfield
  commands _ h := hc.get?_command hs h

theorem exists_numericField (hs : Blueprint.Sound blueprint) {stream : StreamDefinition}
    (hstream : stream ∈ blueprint.spec.streams) {path : String}
    (h : Blueprint.hasNumericField stream path) :
    ∃ field, (compileStream stream).2.fields.get? path = some field ∧
      field.valueType.isNumeric := by
  rw [Blueprint.hasNumericField, any_eq_true] at h
  obtain ⟨field, hfield, hnumeric⟩ := h
  obtain ⟨hpath, hvalue⟩ := Bool.and_eq_true_iff.mp hnumeric
  obtain rfl : field.path = path := of_decide_eq_true hpath
  exact ⟨_, get?_compileField (hs.fieldPaths stream hstream) hfield, hvalue⟩

theorem CompiledFrom.location_closed (hc : CompiledFrom blueprint context document)
    (hs : Blueprint.Sound blueprint) {location : CompiledLocation}
    (h : document.location = some location) :
    location.latitudePath ≠ location.longitudePath ∧
    ∃ stream, document.streams.get? location.stream = some stream ∧
      ∀ path ∈ [location.latitudePath, location.longitudePath],
        ∃ field, stream.fields.get? path = some field ∧ field.valueType.isNumeric := by
  have hlocation := hc.location
  rw [h] at hlocation
  cases hdeclared : blueprint.spec.location with
  | none =>
    rw [hdeclared] at hlocation
    cases hlocation
  | some declared =>
    rw [hdeclared] at hlocation
    obtain ⟨compiled, hcompiled, heq⟩ := map_eq_ok_iff.mp hlocation
    cases heq
    obtain ⟨maxAgeMs, -, hcompiled⟩ := of_bind_ok hcompiled
    cases hcompiled
    obtain ⟨-, hdistinct, stream, hstream, hkey, hlatitude, hlongitude⟩ :=
      hs.location declared hdeclared
    refine ⟨hdistinct, (compileStream stream).2, ?_, ?_⟩
    · show document.streams.get? declared.stream = _
      rw [← hkey]
      exact hc.get?_stream hs hstream
    · intro path hpath
      rcases mem_pair.mp hpath with rfl | rfl
      · exact exists_numericField hs hstream hlatitude
      · exact exists_numericField hs hstream hlongitude

theorem CompiledFrom.closed (hc : CompiledFrom blueprint context document)
    (hs : Blueprint.Sound blueprint) : Closed document where
  routeTransport key route h := by
    obtain ⟨declared, hmem, heq⟩ := hc.exists_route h
    cases heq
    obtain ⟨transport, htransport, hkey, -⟩ := hs.routeTransport declared hmem
    obtain ⟨compiled, -, hget⟩ := hc.get?_transport hs htransport
    exact ⟨compiled, hkey ▸ hget⟩
  routeSchema key route h := by
    obtain ⟨declared, hmem, heq⟩ := hc.exists_route h
    cases heq
    rcases hs.routeSchema declared hmem with hbuiltin | ⟨schema, hschema, hkey⟩
    · exact .inl hbuiltin
    · exact .inr ⟨_, hkey ▸ hc.get?_schema hs hschema⟩
  streamRoute key stream h := by
    obtain ⟨declared, hmem, heq⟩ := hc.exists_stream h
    cases heq
    obtain ⟨route, hroute, hkey, hdirection⟩ := hs.streamRoute declared hmem
    exact ⟨_, hkey ▸ hc.get?_route hs hroute, hdirection⟩
  commandRequest key command h := by
    obtain ⟨declared, hmem, heq⟩ := hc.exists_command h
    obtain ⟨-, hrequest, -⟩ := fst_of_compileCommand heq
    obtain ⟨route, hroute, hkey, hdirection⟩ := hs.commandRequest declared hmem
    exact ⟨_, hrequest ▸ hkey ▸ hc.get?_route hs hroute, hdirection⟩
  commandResponse key command h := by
    obtain ⟨declared, hmem, heq⟩ := hc.exists_command h
    obtain ⟨-, -, hresponse⟩ := fst_of_compileCommand heq
    obtain ⟨route, hroute, hkey, hdirection⟩ := hs.commandResponse declared hmem
    exact ⟨_, hresponse ▸ hkey ▸ hc.get?_route hs hroute, hdirection⟩
  location _ h := hc.location_closed hs h

end

/-- Compiling a validated blueprint never fails an expectation. What it gives
keeps every declaration under its own key and refers only to what it contains. -/
theorem compile_closed (p : Platform)
    (digest : CompiledContractDocument → Except ContractError String)
    (blueprint : ValidatedBlueprint p) (context : CompileContext) :
    (∀ message, compile p digest blueprint context ≠ .error (.panicked message)) ∧
      ∀ contract, compile p digest blueprint context = .ok contract →
        KeepsDeclarations blueprint.blueprint context contract.document ∧
          Closed contract.document := by
  constructor
  · exact NoPanic.bind (noPanic_compileDocument blueprint.sound context) fun _ =>
      .bind (.refused _) fun _ => .ok _
  · intro contract h
    have hc := compiledFrom_of_compile h
    exact ⟨hc.keepsDeclarations blueprint.sound, hc.closed blueprint.sound⟩

def succeedsWith {ε α : Type} (test : α → Bool) : Except ε α → Bool
  | .ok a => test a
  | .error _ => false

theorem exists_of_succeedsWith {ε α : Type} {test : α → Bool} {x : Except ε α}
    (h : succeedsWith test x) : ∃ a, x = .ok a ∧ test a := by
  cases x with
  | error e => cases h
  | ok a => exact ⟨a, rfl, h⟩

/-! A tracker with one stream, one command and a location. -/

def trackerRoutes : List RouteDefinition :=
  [⟨"position", "main", .deviceToCloud, "extrittio/devices/\x7bdevice.id\x7d/events/position",
      "position@1", .json⟩,
   ⟨"ask", "main", .cloudToDevice, "extrittio/devices/\x7bdevice.id\x7d/commands", "position@1",
      .json⟩,
   ⟨"answer", "main", .deviceToCloud, "extrittio/devices/\x7bdevice.id\x7d/replies", "position@1",
      .json⟩]

def numberField (path label : String) : FieldDefinition :=
  ⟨path, .float64, label, none, none, false, [.avg], none⟩

def trackerStream : StreamDefinition :=
  ⟨"position", "position", "envelope.occurred_at",
    [numberField "/lat" "Latitude", numberField "/lon" "Longitude"], none⟩

def locateCommand : CommandDefinition :=
  ⟨"locate", "ask", "answer", "Locate", none, .normal, "5s", .bool true, .bool true, none,
    .idempotent⟩

def trackerSpec : BlueprintSpec where
  runtime := ⟨1, ⟨"30s", "2m"⟩, ⟨1024, 60, 16⟩⟩
  transports := [⟨"main", "primary", .zenoh, ⟨.atLeastOnce, .perDeviceStream⟩⟩]
  routes := trackerRoutes
  schemas := [⟨"position@1", .jsonSchema, .object [("type", .string "object")]⟩]
  streams := [trackerStream]
  location := some ⟨"position", "/lat", "/lon", .wgs84, .degrees, "30s"⟩
  commands := [locateCommand]
  configuration := none
  reportedState := none
  health := none
  firmware := none
  relationships := []
  presentation := none

def tracker : DeviceBlueprint :=
  ⟨"extrittio.io/v1alpha1", "DeviceBlueprint", ⟨"tracker", "Tracker", none, none, none, ∅⟩,
    trackerSpec⟩

def contextFor (device : String) : CompileContext :=
  ⟨"contract", "acme", device, "revision", 1,
    .ofList [("primary", ⟨.zenoh, "tcp/broker:7447", none, none⟩)], []⟩

def validTracker : ValidatedBlueprint default := ⟨tracker, by decide +kernel⟩

def compiledTracker (deviceId : String) : Except CompileFailure CompiledContract :=
  compile default (fun _ => .ok "hash") validTracker (contextFor deviceId)

theorem compile_closed_tracker :
    (∀ message, compiledTracker "t-1" ≠ .error (.panicked message)) ∧
    ∃ contract, compiledTracker "t-1" = .ok contract ∧
      KeepsDeclarations tracker (contextFor "t-1") contract.document ∧ Closed contract.document := by
  obtain ⟨hpanic, hclosed⟩ := compile_closed default (fun _ => .ok "hash") validTracker (contextFor "t-1")
  obtain ⟨contract, hcompile, -⟩ := exists_of_succeedsWith
    (by decide +kernel : succeedsWith (fun _ => true) (compiledTracker "t-1"))
  exact ⟨hpanic, contract, hcompile, hclosed contract hcompile⟩

end BlueprintCompiler

end Extrittio
