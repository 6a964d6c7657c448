import Extrittio.Contract.Compiler

/-!
The canonical form of a contract: its JSON value as serde builds it, the value with
the keys of every object in order, and the hash of the text of that value.
-/
namespace Extrittio

namespace Json

mutual

def sortValue : Json → Json
  | .array values => .array (sortItems values)
  | .object values => .ofMap (.ofList (sortFields values))
  | primitive => primitive

def sortItems : List Json → List Json
  | [] => []
  | value :: values => sortValue value :: sortItems values

def sortFields : List (String × Json) → List (String × Json)
  | [] => []
  | (key, value) :: values => (key, sortValue value) :: sortFields values

end

theorem sortItems_eq (values : List Json) : sortItems values = values.map sortValue := by
  induction values with
  | nil => rfl
  | cons value values ih => rw [sortItems, ih, List.map_cons]

theorem sortFields_eq (values : List (String × Json)) :
    sortFields values = values.map fun entry => (entry.1, sortValue entry.2) := by
  induction values with
  | nil => rfl
  | cons entry values ih => rw [sortFields, ih, List.map_cons]

/-! How serde writes records. -/

def member (name : String) (value : Json) : String × Option Json := (name, some value)

/-- A member with `skip_serializing_if = "Option::is_none"`. -/
def memberIfSome (name : String) (value : Option Json) : String × Option Json := (name, value)

/-- The object of a record's members, in a map. -/
def record (members : List (String × Option Json)) : Json :=
  .ofMap (.ofList (members.filterMap fun m => m.2.map fun value => (m.1, value)))

theorem get_record {members : List (String × Option Json)} (h : (members.map Prod.fst).Nodup)
    (name : String) : (record members).get name = (members.lookup name).join := by
  set written := members.filterMap fun m => m.2.map fun value => (m.1, value) with hwritten
  have hsublist : (written.map Prod.fst).Sublist (members.map Prod.fst) := by
    rw [hwritten]
    clear h hwritten written
    induction members with
    | nil => exact .slnil
    | cons m members ih =>
      obtain ⟨key, value⟩ := m
      cases value with
      | none => exact ih.cons key
      | some value => exact ih.cons_cons key
  refine Option.ext fun value => ?_
  rw [record, get_ofMap, OrderedMap.get?_eq_some_iff, OrderedMap.mem_ofList (h.sublist hsublist),
    Option.join_eq_some_iff, InOrder.lookup_eq_some_iff_of_nodup h, List.mem_filterMap]
  constructor
  · rintro ⟨⟨key, found⟩, hmem, heq⟩
    obtain ⟨_, rfl, heq⟩ := Option.map_eq_some_iff.mp heq
    cases heq
    exact hmem
  · intro hmem
    exact ⟨_, hmem, rfl⟩

def mapOf {V : Type} (toValue : V → Json) (map : OrderedMap String V) : Json :=
  .ofMap (.ofList (map.entries.map fun entry => (entry.1, toValue entry.2)))

def arrayOf {V : Type} (toValue : V → Json) (values : List V) : Json := .array (values.map toValue)

end Json

open Json

/-! The names of the variants, in snake case. -/

def TransportProtocol.text : TransportProtocol → String
  | .zenoh => "zenoh"
  | .mqtt => "mqtt"
  | .http => "http"

def DeliverySemantics.text : DeliverySemantics → String
  | .atMostOnce => "at_most_once"
  | .atLeastOnce => "at_least_once"

def OrderingSemantics.text : OrderingSemantics → String
  | .none => "none"
  | .perDeviceStream => "per_device_stream"

def RouteDirection.text : RouteDirection → String
  | .deviceToCloud => "device_to_cloud"
  | .cloudToDevice => "cloud_to_device"

def PayloadEncoding.text : PayloadEncoding → String
  | .json => "json"
  | .cbor => "cbor"
  | .protobuf => "protobuf"
  | .protobufDynamic => "protobuf_dynamic"
  | .raw => "raw"

def SchemaFormat.text : SchemaFormat → String
  | .jsonSchema => "json_schema"
  | .protobufDescriptor => "protobuf_descriptor"
  | .opaqueBytes => "opaque"

def FieldValueType.text : FieldValueType → String
  | .float64 => "float64"
  | .int64 => "int64"
  | .string => "string"
  | .boolean => "boolean"
  | .json => "json"

def AggregateKind.text : AggregateKind → String
  | .min => "min"
  | .max => "max"
  | .avg => "avg"
  | .sum => "sum"
  | .count => "count"
  | .last => "last"

def ChartKind.text : ChartKind → String
  | .line => "line"
  | .step => "step"
  | .bar => "bar"
  | .none => "none"

def CoordinateSystem.text : CoordinateSystem → String
  | .wgs84 => "wgs84"

def CoordinateUnit.text : CoordinateUnit → String
  | .degrees => "degrees"

def CommandDanger.text : CommandDanger → String
  | .normal => "normal"
  | .confirm => "confirm"
  | .critical => "critical"

def CommandIdempotency.text : CommandIdempotency → String
  | .nonIdempotent => "non_idempotent"
  | .idempotent => "idempotent"

def ConfigurationMode.text : ConfigurationMode → String
  | .desiredReported => "desired_reported"

def HealthSignalSource.text : HealthSignalSource → String
  | .metric => "metric"
  | .reportedState => "reported_state"

def ComparisonOperator.text : ComparisonOperator → String
  | .gt => "gt"
  | .gte => "gte"
  | .lt => "lt"
  | .lte => "lte"
  | .eq => "eq"
  | .neq => "neq"

def HealthSeverity.text : HealthSeverity → String
  | .info => "info"
  | .warning => "warning"
  | .critical => "critical"

def FirmwareStrategy.text : FirmwareStrategy → String
  | .binaryReplacement => "binary_replacement"
  | .partitionSwap => "partition_swap"
  | .package => "package"
  | .external => "external"

def PresentationTab.text : PresentationTab → String
  | .overview => "overview"
  | .telemetry => "telemetry"
  | .commands => "commands"
  | .configuration => "configuration"
  | .logs => "logs"
  | .firmware => "firmware"
  | .relationships => "relationships"

/-! The records of a contract. -/

def CompiledRuntime.toValue (runtime : CompiledRuntime) : Json :=
  record [member "heartbeatIntervalMs" (.integer runtime.heartbeatIntervalMs),
    member "offlineAfterMs" (.integer runtime.offlineAfterMs),
    member "maxMessageBytes" (.integer runtime.maxMessageBytes),
    member "maxMessagesPerMinute" (.integer runtime.maxMessagesPerMinute),
    member "maxMetricCardinality" (.integer runtime.maxMetricCardinality)]

def CompiledTransport.toValue (transport : CompiledTransport) : Json :=
  record [member "protocol" (.string transport.protocol.text),
    member "endpoint" (.string transport.endpoint),
    member "delivery" (.string transport.delivery.text),
    member "ordering" (.string transport.ordering.text),
    memberIfSome "serverCaPem" (transport.serverCaPem.map .string),
    memberIfSome "credentialRef" (transport.credentialRef.map .string)]

def CompiledRoute.toValue (route : CompiledRoute) : Json :=
  record [member "transport" (.string route.transport),
    member "direction" (.string route.direction.text),
    member "address" (.string route.address),
    member "messageSchema" (.string route.messageSchema),
    member "encoding" (.string route.encoding.text)]

def CompiledSchema.toValue (schema : CompiledSchema) : Json :=
  record [member "format" (.string schema.format.text), member "schema" schema.schema]

def FieldPresentation.toValue (presentation : FieldPresentation) : Json :=
  record [memberIfSome "color" (presentation.color.map .string),
    memberIfSome "chart" (presentation.chart.map fun chart => .string chart.text),
    memberIfSome "precision" (presentation.precision.map fun precision => .integer precision)]

def CompiledField.toValue (field : CompiledField) : Json :=
  record [member "valueType" (.string field.valueType.text),
    member "label" (.string field.label),
    memberIfSome "unit" (field.unit.map .string),
    memberIfSome "semantic" (field.semantic.map .string),
    member "index" (.bool field.index),
    member "aggregates" (arrayOf (fun kind => .string kind.text) field.aggregates),
    memberIfSome "presentation" (field.presentation.map FieldPresentation.toValue)]

def CompiledStream.toValue (stream : CompiledStream) : Json :=
  record [member "route" (.string stream.route), member "timestamp" (.string stream.timestamp),
    member "fields" (mapOf CompiledField.toValue stream.fields)]

def CompiledLocation.toValue (location : CompiledLocation) : Json :=
  record [member "stream" (.string location.stream),
    member "latitudePath" (.string location.latitudePath),
    member "longitudePath" (.string location.longitudePath),
    member "coordinateSystem" (.string location.coordinateSystem.text),
    member "unit" (.string location.unit.text),
    member "maxAgeMs" (.integer location.maxAgeMs)]

def CompiledCommand.toValue (command : CompiledCommand) : Json :=
  record [member "requestRoute" (.string command.requestRoute),
    member "responseRoute" (.string command.responseRoute),
    member "label" (.string command.label),
    memberIfSome "description" (command.description.map .string),
    member "danger" (.string command.danger.text),
    member "timeoutMs" (.integer command.timeoutMs),
    member "inputSchema" command.inputSchema,
    member "resultSchema" command.resultSchema,
    memberIfSome "availability" (command.availability.map .string),
    member "idempotency" (.string command.idempotency.text)]

def CompiledConfiguration.toValue (configuration : CompiledConfiguration) : Json :=
  record [member "schema" configuration.schema, member "desired" configuration.desired,
    member "mode" (.string configuration.mode.text),
    member "acknowledgementTimeoutMs" (.integer configuration.acknowledgementTimeoutMs),
    member "atomic" (.bool configuration.atomic)]

def ReportedStateDefinition.toValue (state : ReportedStateDefinition) : Json :=
  record [member "schema" state.schema]

def HealthSignalDefinition.toValue (signal : HealthSignalDefinition) : Json :=
  record [member "key" (.string signal.key), member "source" (.string signal.source.text),
    member "path" (.string signal.path), member "operator" (.string signal.operator.text),
    member "value" signal.value, member "severity" (.string signal.severity.text)]

def HealthDefinition.toValue (health : HealthDefinition) : Json :=
  record [member "signals" (arrayOf HealthSignalDefinition.toValue health.signals)]

def FirmwareDefinition.toValue (firmware : FirmwareDefinition) : Json :=
  record [member "strategy" (.string firmware.strategy.text),
    member "compatibility" (mapOf id firmware.compatibility)]

def RelationshipDefinition.toValue (relationship : RelationshipDefinition) : Json :=
  record [member "key" (.string relationship.key), member "stream" (.string relationship.stream),
    member "targetKeyPath" (.string relationship.targetKeyPath),
    member "targetKind" (.string relationship.targetKind)]

def PresentationDefinition.toValue (presentation : PresentationDefinition) : Json :=
  record [member "summary" (arrayOf (fun reference =>
      record [member "metric" (.string reference.metric)]) presentation.summary),
    member "tabs" (arrayOf (fun tab => .string tab.text) presentation.tabs)]

namespace CompiledContractDocument

variable (document : CompiledContractDocument)

def toValue : Json :=
  record [member "contractApi" (.integer document.contractApi),
    member "contractId" (.string document.contractId),
    member "tenantId" (.string document.tenantId),
    member "deviceId" (.string document.deviceId),
    member "blueprintRevisionId" (.string document.blueprintRevisionId),
    member "blueprintRevision" (.integer document.blueprintRevision),
    member "blueprintKey" (.string document.blueprintKey),
    member "blueprintName" (.string document.blueprintName),
    member "runtime" document.runtime.toValue,
    member "transports" (mapOf CompiledTransport.toValue document.transports),
    member "routes" (mapOf CompiledRoute.toValue document.routes),
    member "schemas" (mapOf CompiledSchema.toValue document.schemas),
    member "streams" (mapOf CompiledStream.toValue document.streams),
    memberIfSome "location" (document.location.map CompiledLocation.toValue),
    member "commands" (mapOf CompiledCommand.toValue document.commands),
    memberIfSome "configuration" (document.configuration.map CompiledConfiguration.toValue),
    memberIfSome "reportedState" (document.reportedState.map ReportedStateDefinition.toValue),
    memberIfSome "health" (document.health.map HealthDefinition.toValue),
    memberIfSome "firmware" (document.firmware.map FirmwareDefinition.toValue),
    -- `skip_serializing_if = "Vec::is_empty"`
    memberIfSome "relationships" (if document.relationships.isEmpty then none
      else some (arrayOf RelationshipDefinition.toValue document.relationships)),
    memberIfSome "presentation" (document.presentation.map PresentationDefinition.toValue)]

/-- `canonical_json` of the document; serialisation of these records does not fail. -/
def canonicalDocument (p : Platform) : String := p.jsonText document.toValue.sortValue

def contractHash (p : Platform) : Except ContractError String :=
  .ok (p.sha256Hex (document.canonicalDocument p))

end CompiledContractDocument

end Extrittio
