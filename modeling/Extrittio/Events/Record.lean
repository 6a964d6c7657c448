import Extrittio.Runtime

/-!
Device events: recording with its receipt, samples, hourly rollups and rule
evaluation in one transaction, and the retention that prunes them.
-/
namespace Extrittio

open Relational

structure DeviceMetricSample where
  streamKey : String
  fieldPath : String
  value : MetricValue
  deriving DecidableEq

/-- A validated event; its instants are nanoseconds. -/
structure RecordDeviceEvent where
  eventId : String
  deviceId : String
  contractId : String
  routeKey : String
  occurredAt : ℤ
  receivedAt : ℤ
  payload : Json
  metrics : List DeviceMetricSample
  ruleEvaluation : DeviceRuleEvaluation

structure RecordDeviceEventOutcome where
  recorded : Bool
  metricsRecorded : ℕ
  actionsEnqueued : ℕ
  deriving DecidableEq

def hourStart (micros : ℤ) : ℤ := micros / 3600000000 * 3600000000

namespace RecordDeviceEvent

variable (tenant : String) (event : RecordDeviceEvent)

def receiptRow : ReceiptRow :=
  ⟨event.eventId, tenant, event.deviceId, timestampMicros event.occurredAt,
    timestampMicros event.receivedAt⟩

def eventRow : EventRow :=
  ⟨event.eventId, tenant, event.deviceId, event.contractId, event.routeKey,
    timestampMicros event.occurredAt, timestampMicros event.receivedAt, event.payload⟩

def sampleRow (metric : DeviceMetricSample) : SampleRow :=
  ⟨event.eventId, tenant, event.deviceId, metric.streamKey, metric.fieldPath, metric.value,
    timestampMicros event.occurredAt⟩

def rollupRow (revision : String) (metric : DeviceMetricSample) (value : ℚ) : RollupRow where
  tenantId := tenant
  deviceId := event.deviceId
  blueprintRevisionId := revision
  streamKey := metric.streamKey
  fieldPath := metric.fieldPath
  bucketStart := hourStart (timestampMicros event.occurredAt)
  sampleCount := 1
  valueSum := value
  valueMin := value
  valueMax := value
  latestValue := value
  latestAt := timestampMicros event.occurredAt
  latestEventId := event.eventId

end RecordDeviceEvent

/-- `excluded` is later: by time, and by event id at the same time. -/
def RollupRow.isLater (excluded r : RollupRow) : Bool :=
  excluded.latestAt > r.latestAt ||
    (excluded.latestAt = r.latestAt && excluded.latestEventId > r.latestEventId)

/-- `ON CONFLICT ... DO UPDATE SET` of the hourly rollups. -/
def RollupRow.absorb (excluded r : RollupRow) : RollupRow :=
  { r with
    sampleCount := r.sampleCount + 1
    valueSum := r.valueSum + excluded.valueSum
    valueMin := min r.valueMin excluded.valueMin
    valueMax := max r.valueMax excluded.valueMax
    latestValue := if excluded.isLater r then excluded.latestValue else r.latestValue
    latestAt := max r.latestAt excluded.latestAt
    latestEventId := if excluded.isLater r then excluded.latestEventId else r.latestEventId }

namespace Store

def contract? (s : Store) (tenant device contract : String) : Option ContractRow :=
  (s.contracts.find? contract).filter fun r => r.tenantId = tenant && r.deviceId = device

/-- Adds a number to its hourly rollup, under the revision of the contract. -/
def recordRollup (s : Store) (tenant : String) (event : RecordDeviceEvent)
    (metric : DeviceMetricSample) (value : ℚ) : Except PersistenceError Store :=
  match s.contract? tenant event.deviceId event.contractId with
  | none => .ok s
  | some contract =>
    let excluded := event.rollupRow tenant contract.blueprintRevisionId metric value
    if (s.device? tenant event.deviceId).isNone ||
        ((s.revisions.find? contract.blueprintRevisionId).filter
          fun r => r.tenantId = tenant).isNone then
      .error (.foreignKeyViolation "foreign_key")
    else
      let rollups := s.rollups.upsert excluded excluded.absorb fun _ => rfl
      .ok { s with rollups := rollups }

/-- Stores one sample; a number also enters its hourly rollup. -/
def recordMetric (tenant : String) (event : RecordDeviceEvent) (s : Store)
    (metric : DeviceMetricSample) : Except PersistenceError Store :=
  match s.samples.insert? (event.sampleRow tenant metric) with
  | none => .error (.uniqueViolation "unique")
  | some samples =>
    match metric.value.number? with
    | none => .ok { s with samples := samples }
    | some value => { s with samples := samples }.recordRollup tenant event metric value

/-- A contract that its device acknowledged by using it. -/
def acknowledge (s : Store) (tenant device contract : String) (receivedAt : ℤ) : Store :=
  { s with
    assignments := s.assignments.update
      (fun r => r.tenantId = tenant ∧ r.deviceId = device ∧ r.desiredContractId = contract)
      (fun r => { r with
        activeContractId := some r.desiredContractId
        status := .converged
        acknowledgedAt := some receivedAt
        error := none
        updatedAt := receivedAt })
      fun _ => rfl }

/-- `ON CONFLICT(id) DO NOTHING`: no receipts when the id has one already. -/
def insertReceipt (s : Store) (tenant : String) (event : RecordDeviceEvent) :
    Except PersistenceError (Option Store) :=
  match s.receipts.insert? (event.receiptRow tenant) with
  | none => .ok none
  | some receipts =>
    if (s.device? tenant event.deviceId).isNone then .error (.foreignKeyViolation "foreign_key")
    else .ok (some { s with receipts := receipts })

def insertEvent (s : Store) (tenant : String) (event : RecordDeviceEvent) :
    Except PersistenceError Store :=
  match s.events.insert? (event.eventRow tenant) with
  | none => .error (.uniqueViolation "unique")
  | some events =>
    if (s.device? tenant event.deviceId).isNone ||
        (s.contract? tenant event.deviceId event.contractId).isNone then
      .error (.foreignKeyViolation "foreign_key")
    else .ok { s with events := events }

/-- Records an event unless its history expired, its contract is not the desired
one or its id has a receipt; an error leaves the store as it was. -/
def record (p : Platform) (uuid : ℕ → String) (now : ℤ) (tenant : String)
    (event : RecordDeviceEvent) (s : Store) :
    Except PersistenceError (Store × RecordDeviceEventOutcome) :=
  if timestampMicros event.occurredAt < s.retention.rollupRetainedSince then .error .historyExpired
  else if (s.assignments.find? (tenant, event.deviceId)).map AssignmentRow.desiredContractId ≠
      some event.contractId then .error .notFound
  else do
    match ← s.insertReceipt tenant event with
    | none => return (s, ⟨false, 0, 0⟩)
    | some received =>
      let stored ← received.insertEvent tenant event
      let acknowledged := stored.acknowledge tenant event.deviceId event.contractId
        (timestampMicros event.receivedAt)
      let sampled ← event.metrics.foldlM (recordMetric tenant event) acknowledged
      let (evaluated, count) ← sampled.observe p uuid now tenant event.deviceId event.ruleEvaluation
      return (evaluated, ⟨true, event.metrics.length, count⟩)

end Store

structure MetricRetentionCutoffs where
  rawRetainedSince : ℤ
  rollupRetainedSince : ℤ
  deriving DecidableEq

structure MetricPruneOutcome where
  eventsDeleted : ℕ
  rollupsDeleted : ℕ
  receiptsDeleted : ℕ
  deriving DecidableEq

namespace Store

/-- Advances the watermarks and deletes what lies below them; a deleted event
takes its samples along. -/
def pruneMetrics (cutoffs : MetricRetentionCutoffs) (s : Store) : Store × MetricPruneOutcome :=
  let raw := max s.retention.rawRetainedSince (timestampMicros cutoffs.rawRetainedSince)
  let rollup := max s.retention.rollupRetainedSince (timestampMicros cutoffs.rollupRetainedSince)
  let expired (r : EventRow) : Bool := r.occurredAt < raw
  ({ s with
      retention := ⟨raw, rollup⟩
      events := s.events.filter fun r => !expired r
      samples := s.samples.filter fun r => !s.events.rows.any fun e =>
        expired e && e.id = r.eventId && e.tenantId = r.tenantId && e.deviceId = r.deviceId
      rollups := s.rollups.filter fun r => rollup ≤ r.bucketStart
      receipts := s.receipts.filter fun r => rollup ≤ r.occurredAt },
    ⟨s.events.rows.countP expired, s.rollups.rows.countP fun r => r.bucketStart < rollup,
      s.receipts.rows.countP fun r => r.occurredAt < rollup⟩)

end Store

namespace MetricMaintenance

def floor (now : ℤ) (days : ℕ) : Except ApplicationError ℤ :=
  match tryDays days with
  | none => .error (.invalidInput "Metric retention is too large")
  | some age =>
    match checkedSub now age with
    | none => .error (.invalidInput "Metric retention cutoff is out of range")
    | some cutoff =>
      let hour := cutoff / 1000000000 / 3600 * 3600 * 1000000000
      if inDateRange hour then .ok hour
      else .error (.invalidInput "Metric retention cutoff is out of range")

def retentionCutoffs (rawDays rollupDays : ℕ) (now : ℤ) :
    Except ApplicationError MetricRetentionCutoffs :=
  if rawDays = 0 ∨ rollupDays < rawDays then
    .error (.invalidInput
      "Metric rollup retention must be at least the positive raw retention period")
  else do
    let raw ← floor now rawDays
    let rollup ← floor now rollupDays
    return ⟨raw, rollup⟩

def prune (rawDays rollupDays : ℕ) (now : ℤ) (s : Store) :
    Store × Except ApplicationError MetricPruneOutcome :=
  match retentionCutoffs rawDays rollupDays now with
  | .error e => (s, .error e)
  | .ok cutoffs =>
    let (s, outcome) := s.pruneMetrics cutoffs
    (s, .ok outcome)

end MetricMaintenance

end Extrittio
