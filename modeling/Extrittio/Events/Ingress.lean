import Extrittio.Contract.Blueprint
import Extrittio.Events.Record

/-!
The ingestion of a device's event: the envelope is checked against the contract
that is assigned to the device, its metrics are read out of the payload, and the
event is recorded.
-/
namespace Extrittio

namespace Json

/-- The index of an array that a pointer token names; no sign, no leading zero. -/
def parseIndex (token : List Char) : Option ℕ :=
  if token.isEmpty || !token.all Char.isDigit || (token.head? = some '0' && token.length ≠ 1) then
    none
  else
    let index := token.foldl (fun n c => 10 * n + (c.toNat - '0'.toNat)) 0
    if index < 18446744073709551616 then some index else none

/-- `replace` of a tilde and a digit by another character. -/
def replaceEscape (digit replacement : Char) : List Char → List Char
  | '~' :: c :: cs =>
    if c = digit then replacement :: replaceEscape digit replacement cs
    else '~' :: replaceEscape digit replacement (c :: cs)
  | c :: cs => c :: replaceEscape digit replacement cs
  | [] => []

def child (target : Json) (token : List Char) : Option Json :=
  match target with
  | .object fields => fields.lookup (String.ofList token)
  | .array items => (parseIndex token).bind (items[·]?)
  | _ => none

def pointer (path : String) (value : Json) : Option Json :=
  match path.toList with
  | [] => some value
  | '/' :: rest => 
    let tokens := (rest.splitOn '/').map fun token =>
      replaceEscape '0' '~' (replaceEscape '1' '/' token)
    tokens.foldlM child value
  | _ => none

end Json

/-- What ingestion takes from other crates. -/
structure ContractCodec where
  /-- `Uuid::parse_str(..).is_ok()`. -/
  isUuid : String → Bool
  /-- `serde_json::from_value` of a stored contract, or its error. -/
  fromValue : Json → Except String CompiledContractDocument
  /-- `validate_instance` of a schema and a payload, or its error. -/
  validateInstance : Json → Json → Except String Unit
  /-- `n as f64`. -/
  floatOfInt : ℤ → ℚ

structure EventInput where
  apiVersion : ℕ
  eventId : String
  contractHash : String
  occurredAt : ℤ
  payload : Json
  encodedSize : ℕ

namespace ContractCodec

variable (codec : ContractCodec)

def asF64 : Json → Option ℚ
  | .integer value => some (codec.floatOfInt value)
  | .float value => some value
  | _ => none

def metricValue (valueType : FieldValueType) (value : Json) : Option MetricValue :=
  match valueType with
  | .float64 => (codec.asF64 value).map .float64
  | .int64 => value.asI64.map .int64
  | .string => value.asStr.map .string
  | .boolean => value.asBool.map .boolean
  | .json => some (.json value)

/-- Both coordinates, from a fresh event on the route of the location stream. -/
def eventLocation (contract : CompiledContractDocument) (routeKey : String) (payload : Json)
    (ageMs : ℤ) : Option (F64 × F64) := do
  let binding ← contract.location
  if ageMs < 0 ∨ (binding.maxAgeMs : ℤ) < ageMs then none
  let stream ← contract.streams.get? binding.stream
  if stream.route ≠ routeKey then none
  let latitude ← (payload.pointer binding.latitudePath).bind codec.asF64
  let longitude ← (payload.pointer binding.longitudePath).bind codec.asF64
  if latitude < -90 ∨ 90 < latitude ∨ longitude < -180 ∨ 180 < longitude then none
  return (.finite latitude, .finite longitude)

def fieldSample (payload : Json) (streamKey fieldPath : String) (valueType : FieldValueType) :
    Except ApplicationError (Option DeviceMetricSample) :=
  match payload.pointer fieldPath with
  | none => .ok none
  | some value =>
    match codec.metricValue valueType value with
    | none => .error (.invalidInput s!"Metric '{fieldPath}' does not match its contract type")
    | some value => .ok (some ⟨streamKey, fieldPath, value⟩)

def streamMetrics (payload : Json) (streamKey : String) (fields : List (String × CompiledField)) :
    Except ApplicationError (List DeviceMetricSample) := do
  let samples ← fields.mapM fun field =>
    codec.fieldSample payload streamKey field.1 field.2.valueType
  return samples.filterMap id

/-- The samples of the streams on a route, in order. -/
def routeMetrics (contract : CompiledContractDocument) (routeKey : String) (payload : Json) :
    Except ApplicationError (List DeviceMetricSample) := do
  let streams := contract.streams.entries.filter fun stream => stream.2.route = routeKey
  let samples ← streams.mapM fun stream =>
    codec.streamMetrics payload stream.1 stream.2.fields.entries
  return samples.flatten

end ContractCodec

/-- The numbers among the samples, under `MetricSelector::field_key`. -/
def ruleMetrics (metrics : List DeviceMetricSample) : List (String × MetricNumber) :=
  metrics.foldl (fun numbers metric =>
    let key := s!"{metric.streamKey}.{metric.fieldPath}"
    match metric.value with
    | .float64 value => insertEntry key (.float (.finite value)) numbers
    | .int64 value => insertEntry key (.integer value) numbers
    | _ => numbers) []

def deviceIdentity (tenant device : String) : Except String Unit :=
  match tenantIdNew tenant with
  | .error e => .error s!"invalid tenant identity: {e}"
  | .ok _ =>
    if 1 ≤ device.utf8ByteSize ∧ device.utf8ByteSize ≤ 128 ∧
        device.toList.all (fun c => c.isAlphanum || c = '-' || c = '_' || c = '.' || c = ':') then
      .ok ()
    else .error "device id is invalid"

/-- The contract that the device should run. -/
def Store.assignedContract (s : Store) (tenant device : String) : Option ContractRow := do
  let assignment ← s.assignments.find? (tenant, device)
  (s.contracts.find? assignment.desiredContractId).filter fun r => r.tenantId = assignment.tenantId

namespace EventIngress

/-- Checks an envelope against the assigned contract and reads its event. -/
def prepare (codec : ContractCodec) (s : Store) (clock : ℤ) (tenant device routeKey : String)
    (envelope : EventInput) (snapshot : RuleCache) : Except ApplicationError RecordDeviceEvent := do
  if envelope.apiVersion ≠ 1 ∨ codec.isUuid envelope.eventId = false then
    throw (.invalidInput "Unsupported event envelope version or invalid event ID")
  let some assigned := s.assignedContract tenant device
    | throw (.notFound "Device has no assigned contract")
  if envelope.contractHash ≠ assigned.contractHash then
    throw (.invalidInput "Event was produced from an unassigned contract")
  let contract ← (codec.fromValue assigned.document).mapError fun e =>
    .internal s!"Stored device contract is invalid: {e}"
  if contract.deviceId ≠ device ∨ contract.runtime.maxMessageBytes < envelope.encodedSize then
    throw (.invalidInput "Event violates contract identity or size limit")
  let some route := (contract.routes.get? routeKey).filter fun route =>
      route.direction = .deviceToCloud && route.encoding = .json
    | throw (.invalidInput "Event route is not declared as device-to-cloud JSON")
  let some schema := (contract.schemas.get? route.messageSchema).filter fun schema =>
      schema.format = .jsonSchema
    | throw (.invalidInput "Event route does not reference a JSON Schema")
  (codec.validateInstance schema.schema envelope.payload).mapError fun e =>
    .invalidInput s!"Event payload failed contract validation: {e}"
  let metrics ← codec.routeMetrics contract routeKey envelope.payload
  let receivedAt := datetime (timestampMicros clock)
  let occurredAt := datetime (timestampMicros envelope.occurredAt)
  let location := codec.eventLocation contract routeKey envelope.payload
    ((receivedAt - occurredAt).tdiv 1000000)
  (deviceIdentity tenant device).mapError .invalidInput
  let some context := s.device? tenant device
    | throw (.notFound s!"Device '{device}' not found")
  return {
    eventId := envelope.eventId
    deviceId := device
    contractId := assigned.id
    routeKey := routeKey
    occurredAt := occurredAt
    receivedAt := receivedAt
    payload := envelope.payload
    metrics := metrics
    ruleEvaluation := {
      snapshot := snapshot
      tenant := tenant
      deviceId := device
      fleetId := context.fleetId
      blueprintId := s.desiredBlueprint tenant device
      blueprintRevisionId := some assigned.blueprintRevisionId
      input := .telemetry
        ⟨location.map Prod.fst, location.map Prod.snd, ruleMetrics metrics⟩ location.isSome
      observedAt := receivedAt } }

/-- Records the event of an envelope; a failure leaves the store as it was. -/
def record (p : Platform) (codec : ContractCodec) (uuid : ℕ → String) (now clock : ℤ)
    (tenant device routeKey : String) (envelope : EventInput) (snapshot : RuleCache) (s : Store) :
    Except ApplicationError (Store × RecordDeviceEventOutcome) := do
  let event ← prepare codec s clock tenant device routeKey envelope snapshot
  (s.record p uuid now tenant event).mapError fun
    | .historyExpired => .invalidOperation "Event occurred before retained metric history"
    | e => .persistence e

end EventIngress

/-- How a message of a device is decoded: that is the contract's choice. -/
inductive ContractIngressRoute where
  | commandResponse
  | jsonEvent (routeKey : String)
  | unsupported (routeKey : String)
  deriving DecidableEq

namespace ContractIngress

/-- An answer to a command goes first, even if its route is JSON. -/
def decoderOf (contract : CompiledContractDocument) (routeKey : String) (route : CompiledRoute) :
    ContractIngressRoute :=
  if contract.commands.entries.any fun command => command.2.responseRoute = routeKey then
    .commandResponse
  else if route.encoding = .json then .jsonEvent routeKey
  else .unsupported routeKey

/-- The first device-to-cloud route with the address decides. -/
def routeOf (contract : CompiledContractDocument) (address : String) :
    Option ContractIngressRoute :=
  (contract.routes.entries.find? fun entry =>
    entry.2.direction = .deviceToCloud && entry.2.address = address).map fun entry =>
      decoderOf contract entry.1 entry.2

/-- What the contract that is assigned to the device makes of an address. -/
def resolve (codec : ContractCodec) (s : Store) (tenant device address : String) :
    Except ApplicationError (Option ContractIngressRoute) := do
  let some assigned := s.assignedContract tenant device | return none
  let contract ← (codec.fromValue assigned.document).mapError fun e =>
    .internal s!"Stored device contract is invalid: {e}"
  return routeOf contract address

end ContractIngress

end Extrittio
