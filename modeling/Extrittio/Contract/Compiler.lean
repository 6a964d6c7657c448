import Extrittio.Contract.Validation

/-!
The compilation of a validated blueprint for one device: transports are resolved,
addresses expanded, durations parsed and the configuration layers merged. A
failed expectation of the source is a `panicked` outcome here.
-/
namespace Extrittio

structure ResolvedTransport where
  protocol : TransportProtocol
  endpoint : String
  serverCaPem : Option String
  credentialRef : Option String
  deriving DecidableEq

/-- Configuration layers go from the least to the most specific. -/
structure CompileContext where
  contractId : String
  tenantId : String
  deviceId : String
  blueprintRevisionId : String
  blueprintRevision : ℕ
  transportBindings : OrderedMap String ResolvedTransport
  configurationLayers : List Json
  deriving DecidableEq

structure CompiledContract where
  hash : String
  document : CompiledContractDocument
  deriving DecidableEq

inductive CompileFailure where
  | refused (error : ContractError)
  | panicked (message : String)
  deriving DecidableEq

namespace BlueprintCompiler

def expect {α : Type} (value : Option α) (message : String) : Except CompileFailure α :=
  match value with
  | some value => .ok value
  | none => .error (.panicked message)

def safeInRoute (c : Char) : Bool :=
  c.isAlphanum || c = '-' || c = '_' || c = '.' || c = ':'

def validateContext (context : CompileContext) : Except ContractError Unit := do
  [("contract_id", context.contractId), ("tenant_id", context.tenantId),
    ("device_id", context.deviceId),
    ("blueprint_revision_id", context.blueprintRevisionId)].forM fun entry =>
      if Blueprint.blank entry.2 || decide (128 < entry.2.utf8ByteSize) then
        throw (.invalidContext s!"{entry.1} must contain 1-128 bytes")
      else pure ()
  if context.blueprintRevision = 0 then
    throw (.invalidContext "blueprint_revision must be positive")
  if !context.deviceId.toList.all safeInRoute then
    throw (.invalidContext "device_id contains characters unsafe for route expansion")

def protocolName : TransportProtocol → String
  | .zenoh => "Zenoh"
  | .mqtt => "Mqtt"
  | .http => "Http"

def compileTransport (context : CompileContext) (transport : TransportDefinition) :
    Except ContractError (String × CompiledTransport) := do
  let some resolved := context.transportBindings.get? transport.binding
    | throw (.missingTransportBinding transport.binding)
  if resolved.protocol ≠ transport.protocol then
    throw (.invalidContext (s!"binding '{transport.binding}' uses " ++
      s!"{protocolName resolved.protocol}, expected {protocolName transport.protocol}"))
  if Blueprint.blank resolved.endpoint then
    throw (.invalidContext s!"binding '{transport.binding}' has an empty endpoint")
  return (transport.key, ⟨resolved.protocol, resolved.endpoint, transport.qos.delivery,
    transport.qos.ordering, resolved.serverCaPem, resolved.credentialRef⟩)

def compileRoute (context : CompileContext) (route : RouteDefinition) : String × CompiledRoute :=
  (route.key, ⟨route.transport, route.direction,
    Blueprint.expandAddress route.address context.deviceId, route.messageSchema, route.encoding⟩)

def compileSchema (schema : SchemaDefinition) : String × CompiledSchema :=
  (schema.key, ⟨schema.format, schema.schema⟩)

def compileField (field : FieldDefinition) : String × CompiledField :=
  (field.path, ⟨field.valueType, field.label, field.unit, field.semantic, field.index,
    field.aggregates, field.presentation⟩)

def compileStream (stream : StreamDefinition) : String × CompiledStream :=
  (stream.key, ⟨stream.route, stream.timestamp, .ofList (stream.fields.map compileField)⟩)

def compileCommand (command : CommandDefinition) :
    Except CompileFailure (String × CompiledCommand) := do
  let timeoutMs ← expect (Blueprint.parseDurationMs command.timeout) "validated command duration"
  return (command.key, ⟨command.requestRoute, command.responseRoute, command.label,
    command.description, command.danger, timeoutMs, command.inputSchema, command.resultSchema,
    command.availability, command.idempotency⟩)

mutual

/-- The `default` of a schema, or the object of its properties' defaults. -/
def defaultsFromSchema : Json → Option Json
  | .object fields =>
    match fields.lookup "default" with
    | some value => some value
    | none =>
      if (fields.lookup "type").bind Json.asStr = some "object" then
        some (.ofMap (propertyDefaults fields))
      else none
  | _ => none

/-- Those of the properties, which are under the first `properties` keyword. -/
def propertyDefaults : List (String × Json) → OrderedMap String Json
  | [] => ∅
  | (keyword, .object children) :: fields =>
    if keyword = "properties" then childDefaults ∅ children else propertyDefaults fields
  | (keyword, _) :: fields => if keyword = "properties" then ∅ else propertyDefaults fields

def childDefaults (defaults : OrderedMap String Json) :
    List (String × Json) → OrderedMap String Json
  | [] => defaults
  | (key, schema) :: children =>
    match defaultsFromSchema schema with
    | some child => childDefaults (defaults.insert key child) children
    | none => childDefaults defaults children

end

mutual

/-- An overlay replaces what it covers; objects are merged entry by entry. -/
def mergeValue (target : Json) : Json → Json
  | .object overlay =>
    match target with
    | .object fields => .ofMap (mergeEntries (.ofList fields) overlay)
    | _ => .object overlay
  | overlay => overlay

def mergeEntries (target : OrderedMap String Json) : List (String × Json) → OrderedMap String Json
  | [] => target
  | (key, value) :: overlay =>
    mergeEntries (target.insert key (mergeValue ((target.get? key).getD .null) value)) overlay

end

def compileConfiguration (p : Platform) (configuration : ConfigurationDefinition)
    (context : CompileContext) : Except CompileFailure CompiledConfiguration := do
  let schemaDefaults := (defaultsFromSchema configuration.schema).getD .null
  let defaults :=
    if configuration.defaults = .null then schemaDefaults
    else mergeValue schemaDefaults configuration.defaults
  let desired := context.configurationLayers.foldl mergeValue defaults
  (Schema.validateInstance p configuration.schema desired).mapError .refused
  let acknowledgementTimeoutMs ←
    expect (Blueprint.parseDurationMs configuration.apply.acknowledgementTimeout)
      "validated acknowledgement timeout"
  return ⟨configuration.schema, desired, configuration.apply.mode, acknowledgementTimeoutMs,
    configuration.apply.atomic⟩

def compileLocation (location : LocationDefinition) : Except CompileFailure CompiledLocation := do
  let maxAgeMs ← expect (Blueprint.parseDurationMs location.maxAge) "validated location freshness"
  return ⟨location.stream, location.latitudePath, location.longitudePath,
    location.coordinateSystem, location.unit, maxAgeMs⟩

def compileRuntime (runtime : RuntimeDefinition) : Except CompileFailure CompiledRuntime := do
  let heartbeatIntervalMs ← expect (Blueprint.parseDurationMs runtime.heartbeat.interval)
    "validated heartbeat interval"
  let offlineAfterMs ← expect (Blueprint.parseDurationMs runtime.heartbeat.offlineAfter)
    "validated offline timeout"
  return ⟨heartbeatIntervalMs, offlineAfterMs, runtime.limits.maxMessageBytes,
    runtime.limits.maxMessagesPerMinute, runtime.limits.maxMetricCardinality⟩

def traverse {ε α β : Type} (f : α → Except ε β) : Option α → Except ε (Option β)
  | none => .ok none
  | some value => (f value).map some

def compileDocument (p : Platform) (blueprint : DeviceBlueprint) (context : CompileContext) :
    Except CompileFailure CompiledContractDocument := do
  (validateContext context).mapError .refused
  let transports ←
    (blueprint.spec.transports.mapM (compileTransport context)).mapError .refused
  let commands ← blueprint.spec.commands.mapM compileCommand
  let configuration ←
    traverse (compileConfiguration p · context) blueprint.spec.configuration
  if configuration.isNone && !context.configurationLayers.isEmpty then
    throw (.refused (.invalidContext
      "configuration layers were provided for a blueprint without configuration"))
  let runtime ← compileRuntime blueprint.spec.runtime
  let location ← traverse compileLocation blueprint.spec.location
  return {
    contractApi := Blueprint.contractApiVersion
    contractId := context.contractId
    tenantId := context.tenantId
    deviceId := context.deviceId
    blueprintRevisionId := context.blueprintRevisionId
    blueprintRevision := context.blueprintRevision
    blueprintKey := blueprint.metadata.key
    blueprintName := blueprint.metadata.name
    runtime := runtime
    transports := .ofList transports
    routes := .ofList (blueprint.spec.routes.map (compileRoute context))
    schemas := .ofList (blueprint.spec.schemas.map compileSchema)
    streams := .ofList (blueprint.spec.streams.map compileStream)
    location := location
    commands := .ofList commands
    configuration := configuration
    reportedState := blueprint.spec.reportedState
    health := blueprint.spec.health
    firmware := blueprint.spec.firmware
    relationships := blueprint.spec.relationships
    presentation := blueprint.spec.presentation }

/-- Compiles a contract; `digest` is the hash of a document's canonical text. -/
def compile (p : Platform) (digest : CompiledContractDocument → Except ContractError String)
    (blueprint : ValidatedBlueprint p) (context : CompileContext) :
    Except CompileFailure CompiledContract := do
  let document ← compileDocument p blueprint.blueprint context
  let hash ← (digest document).mapError .refused
  return ⟨hash, document⟩

end BlueprintCompiler

end Extrittio
