import Extrittio.Outbox.Repository

/-!
The tables that ingestion, rule evaluation and alert delivery share. Only the
columns that modelled statements read or write are kept; times are microseconds.
-/
namespace Extrittio

open Relational

structure DeviceRow where
  id : String
  tenantId : String
  name : String
  fleetId : Option ℤ
  deriving DecidableEq

/-- `device_blueprint_revisions`. -/
structure RevisionRow where
  id : String
  tenantId : String
  blueprintId : String
  deriving DecidableEq

/-- `device_contracts`. -/
structure ContractRow where
  id : String
  tenantId : String
  deviceId : String
  blueprintRevisionId : String
  document : Json
  contractHash : String
  deriving DecidableEq

inductive AssignmentStatus where
  | pending
  | converged
  | failed
  deriving DecidableEq

/-- `device_contract_assignments`. -/
structure AssignmentRow where
  tenantId : String
  deviceId : String
  desiredContractId : String
  activeContractId : Option String
  status : AssignmentStatus
  acknowledgedAt : Option ℤ
  error : Option String
  updatedAt : ℤ
  deriving DecidableEq

structure RuleRow where
  id : String
  tenantId : String
  enabled : Bool
  deriving DecidableEq

/-- `device_metric_retention_state`, a single row. -/
structure RetentionState where
  rawRetainedSince : ℤ
  rollupRetainedSince : ℤ
  deriving DecidableEq

/-- `device_event_receipts`. -/
structure ReceiptRow where
  id : String
  tenantId : String
  deviceId : String
  occurredAt : ℤ
  receivedAt : ℤ
  deriving DecidableEq

/-- `device_events`. -/
structure EventRow where
  id : String
  tenantId : String
  deviceId : String
  contractId : String
  routeKey : String
  occurredAt : ℤ
  receivedAt : ℤ
  payload : Json
  deriving DecidableEq

/-- A metric value; a double is the rational it denotes. -/
inductive MetricValue where
  | float64 (value : ℚ)
  | int64 (value : ℤ)
  | string (value : String)
  | boolean (value : Bool)
  | json (value : Json)
  deriving DecidableEq

/-- `value_double.or_else(|| value_int.map(|v| v as f64))`. -/
def MetricValue.number? : MetricValue → Option ℚ
  | .float64 value => some value
  | .int64 value => some value
  | _ => none

/-- `device_metric_samples`. -/
structure SampleRow where
  eventId : String
  tenantId : String
  deviceId : String
  streamKey : String
  fieldPath : String
  value : MetricValue
  occurredAt : ℤ
  deriving DecidableEq

/-- `device_metric_rollups_hourly`. -/
structure RollupRow where
  tenantId : String
  deviceId : String
  blueprintRevisionId : String
  streamKey : String
  fieldPath : String
  bucketStart : ℤ
  sampleCount : ℕ
  valueSum : ℚ
  valueMin : ℚ
  valueMax : ℚ
  latestValue : ℚ
  latestAt : ℤ
  latestEventId : String
  deriving DecidableEq

def RollupRow.key (r : RollupRow) : String × String × String × String × String × ℤ :=
  (r.tenantId, r.deviceId, r.blueprintRevisionId, r.streamKey, r.fieldPath, r.bucketStart)

inductive AlertStatus where
  | active
  | acknowledged
  | resolved
  deriving DecidableEq

def AlertStatus.text : AlertStatus → String
  | .active => "active"
  | .acknowledged => "acknowledged"
  | .resolved => "resolved"

structure AlertRow where
  id : String
  tenantId : String
  ruleId : Option String
  deviceId : String
  severity : String
  status : AlertStatus
  message : String
  triggeredValue : Option String
  resolvedAt : Option ℤ
  acknowledgedAt : Option ℤ
  createdAt : ℤ
  deriving DecidableEq

/-- `rule_alert_deliveries`. -/
structure DeliveryRow where
  deliveryId : String
  tenantId : String
  alertId : String
  deriving DecidableEq

/-- `rule_cooldowns`. -/
structure CooldownRow where
  tenantId : String
  ruleId : String
  deviceId : String
  lastFiredAt : ℤ
  deriving DecidableEq

def CooldownRow.key (r : CooldownRow) : RuleDeviceKey := (r.tenantId, r.ruleId, r.deviceId)

/-- `rule_zone_entries`. -/
structure ZoneEntryRow where
  tenantId : String
  ruleId : String
  deviceId : String
  enteredAt : ℤ
  deriving DecidableEq

def ZoneEntryRow.key (r : ZoneEntryRow) : RuleDeviceKey := (r.tenantId, r.ruleId, r.deviceId)

structure Store where
  devices : Table DeviceRow DeviceRow.id
  revisions : Table RevisionRow RevisionRow.id
  contracts : Table ContractRow ContractRow.id
  assignments : Table AssignmentRow fun r => (r.tenantId, r.deviceId)
  rules : Table RuleRow RuleRow.id
  retention : RetentionState
  receipts : Table ReceiptRow ReceiptRow.id
  events : Table EventRow EventRow.id
  samples : Table SampleRow fun r => (r.eventId, r.streamKey, r.fieldPath)
  rollups : Table RollupRow RollupRow.key
  alerts : Table AlertRow AlertRow.id
  deliveries : Table DeliveryRow DeliveryRow.deliveryId
  cooldowns : Table CooldownRow CooldownRow.key
  zoneEntries : Table ZoneEntryRow ZoneEntryRow.key
  outbox : Outbox

namespace Store

/-- `device_metric_retention_state` as the baseline migration inserts it. -/
def initialRetention : RetentionState := ⟨-62135596800000000, -62135596800000000⟩

def empty : Store where
  devices := Table.empty
  revisions := Table.empty
  contracts := Table.empty
  assignments := Table.empty
  rules := Table.empty
  retention := initialRetention
  receipts := Table.empty
  events := Table.empty
  samples := Table.empty
  rollups := Table.empty
  alerts := Table.empty
  deliveries := Table.empty
  cooldowns := Table.empty
  zoneEntries := Table.empty
  outbox := Outbox.empty

/-- One device, one enabled rule and one outbox row whose action awaits delivery. -/
def sample : Store where
  devices := ⟨[⟨"device", "tenant", "Device", none⟩], by decide⟩
  revisions := Table.empty
  contracts := Table.empty
  assignments := Table.empty
  rules := ⟨[⟨"rule", "tenant", true⟩], by decide⟩
  retention := initialRetention
  receipts := Table.empty
  events := Table.empty
  samples := Table.empty
  rollups := Table.empty
  alerts := Table.empty
  deliveries := Table.empty
  cooldowns := Table.empty
  zoneEntries := Table.empty
  outbox := (Outbox.empty.insertOrIgnore (OutboxRow.ofEvent 0 (eventForAction default "delivery"
    (.createAlert "tenant" "rule" "device" "warning" "hot" none)))).1

def sampleRevisions : Table RevisionRow RevisionRow.id :=
  ⟨[⟨"revision", "tenant", "blueprint"⟩], by decide⟩

def sampleContracts : Table ContractRow ContractRow.id :=
  ⟨[⟨"contract", "tenant", "device", "revision", .null, "hash"⟩], by decide⟩

def sampleAssignments : Table AssignmentRow fun r => (r.tenantId, r.deviceId) :=
  ⟨[⟨"tenant", "device", "contract", none, .pending, none, none, 0⟩], by decide⟩

def device? (s : Store) (tenant device : String) : Option DeviceRow :=
  (s.devices.find? device).filter fun r => r.tenantId = tenant

def rule? (s : Store) (tenant rule : String) : Option RuleRow :=
  (s.rules.find? rule).filter fun r => r.tenantId = tenant

end Store

end Extrittio
