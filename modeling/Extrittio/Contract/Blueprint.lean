import Extrittio.Platform

/-!
The blueprint document: what a device family declares. Maps are in key order;
sizes and counters of the document are natural numbers.
-/
namespace Extrittio

inductive TransportProtocol where
  | zenoh
  | mqtt
  | http
  deriving DecidableEq

inductive DeliverySemantics where
  | atMostOnce
  | atLeastOnce
  deriving DecidableEq

inductive OrderingSemantics where
  | none
  | perDeviceStream
  deriving DecidableEq

inductive RouteDirection where
  | deviceToCloud
  | cloudToDevice
  deriving DecidableEq

inductive PayloadEncoding where
  | json
  | cbor
  | protobuf
  | protobufDynamic
  | raw
  deriving DecidableEq

inductive SchemaFormat where
  | jsonSchema
  | protobufDescriptor
  | opaqueBytes
  deriving DecidableEq

inductive FieldValueType where
  | float64
  | int64
  | string
  | boolean
  | json
  deriving DecidableEq

def FieldValueType.isNumeric : FieldValueType → Bool
  | .float64 | .int64 => true
  | _ => false

inductive AggregateKind where
  | min
  | max
  | avg
  | sum
  | count
  | last
  deriving DecidableEq

inductive ChartKind where
  | line
  | step
  | bar
  | none
  deriving DecidableEq

inductive CoordinateSystem where
  | wgs84
  deriving DecidableEq

inductive CoordinateUnit where
  | degrees
  deriving DecidableEq

inductive CommandDanger where
  | normal
  | confirm
  | critical
  deriving DecidableEq

inductive CommandIdempotency where
  | nonIdempotent
  | idempotent
  deriving DecidableEq

inductive ConfigurationMode where
  | desiredReported
  deriving DecidableEq

inductive HealthSignalSource where
  | metric
  | reportedState
  deriving DecidableEq

inductive ComparisonOperator where
  | gt
  | gte
  | lt
  | lte
  | eq
  | neq
  deriving DecidableEq

inductive HealthSeverity where
  | info
  | warning
  | critical
  deriving DecidableEq

inductive FirmwareStrategy where
  | binaryReplacement
  | partitionSwap
  | package
  | external
  deriving DecidableEq

inductive PresentationTab where
  | overview
  | telemetry
  | commands
  | configuration
  | logs
  | firmware
  | relationships
  deriving DecidableEq

structure BlueprintMetadata where
  key : String
  name : String
  description : Option String
  icon : Option String
  color : Option String
  labels : OrderedMap String String
  deriving DecidableEq

structure HeartbeatDefinition where
  interval : String
  offlineAfter : String
  deriving DecidableEq

structure RuntimeLimits where
  maxMessageBytes : ℕ
  maxMessagesPerMinute : ℕ
  maxMetricCardinality : ℕ
  deriving DecidableEq

structure RuntimeDefinition where
  minimumContractApi : ℕ
  heartbeat : HeartbeatDefinition
  limits : RuntimeLimits
  deriving DecidableEq

structure TransportQos where
  delivery : DeliverySemantics
  ordering : OrderingSemantics
  deriving DecidableEq

structure TransportDefinition where
  key : String
  binding : String
  protocol : TransportProtocol
  qos : TransportQos
  deriving DecidableEq

structure RouteDefinition where
  key : String
  transport : String
  direction : RouteDirection
  address : String
  messageSchema : String
  encoding : PayloadEncoding
  deriving DecidableEq

structure SchemaDefinition where
  key : String
  format : SchemaFormat
  schema : Json
  deriving DecidableEq

structure FieldPresentation where
  color : Option String
  chart : Option ChartKind
  precision : Option ℕ
  deriving DecidableEq

structure FieldDefinition where
  path : String
  valueType : FieldValueType
  label : String
  unit : Option String
  semantic : Option String
  index : Bool
  aggregates : List AggregateKind
  presentation : Option FieldPresentation
  deriving DecidableEq

structure RetentionDefinition where
  rawDays : Option ℕ
  pointsDays : Option ℕ
  rollupDays : Option ℕ
  deriving DecidableEq

structure StreamDefinition where
  key : String
  route : String
  timestamp : String
  fields : List FieldDefinition
  retention : Option RetentionDefinition
  deriving DecidableEq

structure LocationDefinition where
  stream : String
  latitudePath : String
  longitudePath : String
  coordinateSystem : CoordinateSystem
  unit : CoordinateUnit
  maxAge : String
  deriving DecidableEq

structure CommandDefinition where
  key : String
  requestRoute : String
  responseRoute : String
  label : String
  description : Option String
  danger : CommandDanger
  timeout : String
  inputSchema : Json
  resultSchema : Json
  availability : Option String
  idempotency : CommandIdempotency
  deriving DecidableEq

structure ConfigurationApply where
  mode : ConfigurationMode
  acknowledgementTimeout : String
  atomic : Bool
  deriving DecidableEq

structure ConfigurationDefinition where
  schema : Json
  defaults : Json
  apply : ConfigurationApply
  deriving DecidableEq

structure ReportedStateDefinition where
  schema : Json
  deriving DecidableEq

structure HealthSignalDefinition where
  key : String
  source : HealthSignalSource
  path : String
  operator : ComparisonOperator
  value : Json
  severity : HealthSeverity
  deriving DecidableEq

structure HealthDefinition where
  signals : List HealthSignalDefinition
  deriving DecidableEq

structure FirmwareDefinition where
  strategy : FirmwareStrategy
  compatibility : OrderedMap String Json
  deriving DecidableEq

structure RelationshipDefinition where
  key : String
  stream : String
  targetKeyPath : String
  targetKind : String
  deriving DecidableEq

structure MetricReference where
  metric : String
  deriving DecidableEq

structure PresentationDefinition where
  summary : List MetricReference
  tabs : List PresentationTab
  deriving DecidableEq

structure BlueprintSpec where
  runtime : RuntimeDefinition
  transports : List TransportDefinition
  routes : List RouteDefinition
  schemas : List SchemaDefinition
  streams : List StreamDefinition
  location : Option LocationDefinition
  commands : List CommandDefinition
  configuration : Option ConfigurationDefinition
  reportedState : Option ReportedStateDefinition
  health : Option HealthDefinition
  firmware : Option FirmwareDefinition
  relationships : List RelationshipDefinition
  presentation : Option PresentationDefinition
  deriving DecidableEq

structure DeviceBlueprint where
  apiVersion : String
  kind : String
  metadata : BlueprintMetadata
  spec : BlueprintSpec
  deriving DecidableEq

/-! The contract that a blueprint compiles to for one device. -/

structure CompiledRuntime where
  heartbeatIntervalMs : ℕ
  offlineAfterMs : ℕ
  maxMessageBytes : ℕ
  maxMessagesPerMinute : ℕ
  maxMetricCardinality : ℕ
  deriving DecidableEq

structure CompiledTransport where
  protocol : TransportProtocol
  endpoint : String
  delivery : DeliverySemantics
  ordering : OrderingSemantics
  serverCaPem : Option String
  credentialRef : Option String
  deriving DecidableEq

structure CompiledRoute where
  transport : String
  direction : RouteDirection
  address : String
  messageSchema : String
  encoding : PayloadEncoding
  deriving DecidableEq

structure CompiledSchema where
  format : SchemaFormat
  schema : Json
  deriving DecidableEq

structure CompiledField where
  valueType : FieldValueType
  label : String
  unit : Option String
  semantic : Option String
  index : Bool
  aggregates : List AggregateKind
  presentation : Option FieldPresentation
  deriving DecidableEq

structure CompiledStream where
  route : String
  timestamp : String
  fields : OrderedMap String CompiledField
  deriving DecidableEq

structure CompiledLocation where
  stream : String
  latitudePath : String
  longitudePath : String
  coordinateSystem : CoordinateSystem
  unit : CoordinateUnit
  maxAgeMs : ℕ
  deriving DecidableEq

structure CompiledCommand where
  requestRoute : String
  responseRoute : String
  label : String
  description : Option String
  danger : CommandDanger
  timeoutMs : ℕ
  inputSchema : Json
  resultSchema : Json
  availability : Option String
  idempotency : CommandIdempotency
  deriving DecidableEq

structure CompiledConfiguration where
  schema : Json
  desired : Json
  mode : ConfigurationMode
  acknowledgementTimeoutMs : ℕ
  atomic : Bool
  deriving DecidableEq

structure CompiledContractDocument where
  contractApi : ℕ
  contractId : String
  tenantId : String
  deviceId : String
  blueprintRevisionId : String
  blueprintRevision : ℕ
  blueprintKey : String
  blueprintName : String
  runtime : CompiledRuntime
  transports : OrderedMap String CompiledTransport
  routes : OrderedMap String CompiledRoute
  schemas : OrderedMap String CompiledSchema
  streams : OrderedMap String CompiledStream
  location : Option CompiledLocation
  commands : OrderedMap String CompiledCommand
  configuration : Option CompiledConfiguration
  reportedState : Option ReportedStateDefinition
  health : Option HealthDefinition
  firmware : Option FirmwareDefinition
  relationships : List RelationshipDefinition
  presentation : Option PresentationDefinition
  deriving DecidableEq

end Extrittio
