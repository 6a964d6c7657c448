import Extrittio.Events.Record
import Extrittio.Library.Summary

/-!
Metric queries. Partial hours are read from raw samples, full hours before the
current one from the hourly rollups; a range whose source was pruned is refused.
Instants are nanoseconds, the store keeps microseconds.
-/
namespace Extrittio

open Relational

def checkedI64 (value : ℤ) : Option ℤ :=
  if i64Min ≤ value ∧ value ≤ i64Max then some value else none

def fromTimestampMicros (micros : ℤ) : Option ℤ :=
  if inDateRange (datetime micros) then some (datetime micros) else none

def hourMicros : ℤ := 3600000000

/-- Full UTC hours entirely inside `[start, stop)` and before the current hour. -/
def fullHourRollupWindow (start stop now : ℤ) : Option (ℤ × ℤ) := do
  let startUs := timestampMicros start
  let stopUs := min (timestampMicros stop) (timestampMicros now)
  let hours ← checkedI64 (startUs / hourMicros + if startUs % hourMicros ≠ 0 then 1 else 0)
  let first ← checkedI64 (hours * hourMicros)
  let last ← checkedI64 (stopUs / hourMicros * hourMicros)
  if first ≥ last then none
  else return (← fromTimestampMicros first, ← fromTimestampMicros last)

/-- Refuses ranges whose required raw or hourly source has already been pruned. -/
def metricRangeRetained (start stop : ℤ) (rollupWindow : Option (ℤ × ℤ))
    (rawRetainedSince rollupRetainedSince : ℤ) : Bool :=
  match rollupWindow with
  | none => start ≥ rawRetainedSince
  | some (fullStart, fullEnd) =>
    start ≥ rollupRetainedSince && (start = fullStart || start ≥ rawRetainedSince) &&
      (fullEnd = stop || fullEnd ≥ rawRetainedSince)

/-- A bound of a request for a microsecond store: both ends are rounded up. -/
def storageBound (value : ℤ) : Except ApplicationError ℤ :=
  let remainder := value % 1000
  if remainder = 0 then .ok value
  else if inDateRange (value + (1000 - remainder)) then .ok (value + (1000 - remainder))
  else .error (.invalidInput "Analytics timestamp exceeds the supported range")

def allowedBucketSeconds : List ℤ := [60, 300, 900, 3600, 21600, 86400]

structure AnalyticsMetricSelector where
  streamKey : String
  fieldPath : String
  deriving DecidableEq

structure AnalyticsScope where
  fleetIds : List ℤ
  deviceIds : List String
  deriving DecidableEq

structure AnalyticsQuery where
  scope : AnalyticsScope
  metric : AnalyticsMetricSelector
  compatibleRevisionIds : List String
  start : ℤ
  stop : ℤ
  bucketSeconds : ℤ
  maxDevices : ℕ
  maxRows : ℕ
  deriving DecidableEq

inductive AnalyticsDataSource where
  | blueprintMetricSamples
  | blueprintMetricSamplesAndRollups
  deriving DecidableEq

structure AnalyticsDevice where
  id : String
  name : String
  deriving DecidableEq

structure AnalyticsBucket where
  deviceId : String
  deviceName : String
  bucketStart : ℤ
  sampleCount : ℕ
  average : ℚ
  minimum : ℚ
  maximum : ℚ
  latest : ℚ
  deriving DecidableEq

structure AnalyticsQueryData where
  source : AnalyticsDataSource
  selectedDevices : ℕ
  compatibleDevices : ℕ
  devices : List AnalyticsDevice
  buckets : List AnalyticsBucket
  deriving DecidableEq

/-- `x - CASE WHEN x % size < 0 THEN x % size + size ELSE x % size END`, where `%`
truncates. -/
def bucketFloor (size x : ℤ) : ℤ :=
  x - if x.tmod size < 0 then x.tmod size + size else x.tmod size

def limitAfter (max : ℕ) : ℕ := min (max + 1) i64Max.toNat

abbrev BucketKey : Type := ℤ ×ₗ String ×ₗ String

/-- Time and event id, by which the latest value is chosen. -/
abbrev Stamp : Type := ℤ ×ₗ String

/-- A row of the result, from the summary of its group. -/
def AnalyticsBucket.ofSummary (key : BucketKey) (summary : Summary Stamp ℚ) : AnalyticsBucket where
  deviceId := key.2.2
  deviceName := key.2.1
  bucketStart := datetime key.1
  sampleCount := summary.count
  average := summary.total / summary.count
  minimum := summary.least
  maximum := summary.greatest
  latest := summary.latest

/-- A numeric sample joined with its device, event and contract. -/
structure MetricReading where
  tenantId : String
  deviceId : String
  deviceName : String
  blueprintRevisionId : String
  streamKey : String
  fieldPath : String
  occurredAt : ℤ
  eventId : String
  value : ℚ
  deriving DecidableEq

namespace MetricReading

def stamp (r : MetricReading) : Stamp := toLex (r.occurredAt, r.eventId)

def stamped (r : MetricReading) : Stamp × ℚ := (r.stamp, r.value)

def bucketKey (size : ℤ) (r : MetricReading) : BucketKey :=
  toLex (bucketFloor size r.occurredAt, toLex (r.deviceName, r.deviceId))

end MetricReading

def RollupRow.summary (r : RollupRow) : Summary Stamp ℚ :=
  ⟨r.sampleCount, r.valueSum, r.valueMin, r.valueMax, toLex (r.latestAt, r.latestEventId),
    r.latestValue⟩

namespace AnalyticsScope

/-- `SCOPE_FILTER`. -/
def selects (scope : AnalyticsScope) (tenant : String) (d : DeviceRow) : Bool :=
  d.tenantId = tenant && (scope.fleetIds = [] || d.fleetId.any (· ∈ scope.fleetIds)) &&
    (scope.deviceIds = [] || d.id ∈ scope.deviceIds)

end AnalyticsScope

namespace AnalyticsQuery

variable (query : AnalyticsQuery)

/-- Buckets below an hour are read from raw samples only. -/
def rollupWindow (now : ℤ) : Option (ℤ × ℤ) :=
  if query.bucketSeconds ≥ 3600 then fullHourRollupWindow query.start query.stop now else none

def bucketMicros : ℤ := max i64Min (min i64Max (query.bucketSeconds * 1000000))

/-- The device, metric and revision conditions of both sources. -/
def selects (tenant : String) (deviceIds : List String)
    (tenantId deviceId blueprintRevisionId streamKey fieldPath : String) : Bool :=
  tenantId = tenant && deviceId ∈ deviceIds && streamKey = query.metric.streamKey &&
    fieldPath = query.metric.fieldPath && blueprintRevisionId ∈ query.compatibleRevisionIds

/-- `occurred_at >= ?3 AND occurred_at < ?4` and the conditions on the sample. -/
def selectsReading (tenant : String) (deviceIds : List String) (r : MetricReading) : Bool :=
  query.selects tenant deviceIds r.tenantId r.deviceId r.blueprintRevisionId r.streamKey
    r.fieldPath && timestampMicros query.start ≤ r.occurredAt &&
    r.occurredAt < timestampMicros query.stop

end AnalyticsQuery

namespace Store

variable (s : Store)

/-- A device whose desired contract, or any rollup, has a compatible revision. -/
def isCompatible (query : AnalyticsQuery) (d : DeviceRow) : Bool :=
  ((s.assignments.find? (d.tenantId, d.id)).bind fun a =>
      s.contract? a.tenantId a.deviceId a.desiredContractId).any
    (fun c => c.blueprintRevisionId ∈ query.compatibleRevisionIds) ||
  s.rollups.rows.any fun h => h.tenantId = d.tenantId && h.deviceId = d.id &&
    h.blueprintRevisionId ∈ query.compatibleRevisionIds && h.streamKey = query.metric.streamKey &&
    h.fieldPath = query.metric.fieldPath

/-- `device_metric_samples s JOIN devices d JOIN device_events e JOIN device_contracts c`,
for the numeric value types. -/
def joinSample (r : SampleRow) : Option MetricReading := do
  let d ← s.device? r.tenantId r.deviceId
  let e ← (s.events.find? r.eventId).filter fun e =>
    e.tenantId = r.tenantId && e.deviceId = r.deviceId
  let c ← s.contract? e.tenantId e.deviceId e.contractId
  let value ← r.value.number?
  return ⟨r.tenantId, d.id, d.name, c.blueprintRevisionId, r.streamKey, r.fieldPath, r.occurredAt,
    r.eventId, value⟩

/-- `JOIN device_blueprint_revisions r`, in the query over raw samples only. -/
def hasRevision (r : MetricReading) : Bool :=
  ((s.revisions.find? r.blueprintRevisionId).filter fun row => row.tenantId = r.tenantId).isSome

def metricSamplesQuery (tenant : String) (deviceIds : List String) (query : AnalyticsQuery) :
    List AnalyticsBucket :=
  let bucketed := (s.samples.rows.filterMap s.joinSample).filter fun r =>
    query.selectsReading tenant deviceIds r && s.hasRevision r
  let groups := groupBy (MetricReading.bucketKey query.bucketMicros) bucketed
  let rows := groups.map fun group =>
    (Summary.ofValues (group.2.map MetricReading.stamped)).map (AnalyticsBucket.ofSummary group.1)
  (rows.filterMap id).take (limitAfter query.maxRows)

def joinRollup (size : ℤ) (r : RollupRow) : Option (BucketKey × Summary Stamp ℚ) :=
  (s.device? r.tenantId r.deviceId).map fun d =>
    (toLex (bucketFloor size r.bucketStart, toLex (d.name, d.id)), r.summary)

/-- Raw samples outside the window and rollups inside it, as rows of one form. -/
def observations (tenant : String) (deviceIds : List String) (query : AnalyticsQuery)
    (rollupStart rollupEnd : ℤ) : List (BucketKey × Summary Stamp ℚ) :=
  let raw := (s.samples.rows.filterMap s.joinSample).filter fun r =>
    query.selectsReading tenant deviceIds r &&
      !(decide (rollupStart ≤ r.occurredAt) && decide (r.occurredAt < rollupEnd))
  let rollups := s.rollups.rows.filter fun r =>
    query.selects tenant deviceIds r.tenantId r.deviceId r.blueprintRevisionId r.streamKey
      r.fieldPath && rollupStart ≤ r.bucketStart && r.bucketStart < rollupEnd
  raw.map (fun r => (r.bucketKey query.bucketMicros, .single r.stamp r.value)) ++
    rollups.filterMap (s.joinRollup query.bucketMicros)

def metricRollupsQuery (tenant : String) (deviceIds : List String) (query : AnalyticsQuery)
    (rollupStart rollupEnd : ℤ) : List AnalyticsBucket :=
  let groups := groupBy Prod.fst (s.observations tenant deviceIds query rollupStart rollupEnd)
  let rows := groups.map fun group =>
    (Summary.ofRows (group.2.map Prod.snd)).map (AnalyticsBucket.ofSummary group.1)
  (rows.filterMap id).take (limitAfter query.maxRows)

def metricBuckets (tenant : String) (deviceIds : List String) (query : AnalyticsQuery)
    (window : Option (ℤ × ℤ)) : List AnalyticsBucket :=
  match window with
  | some (rollupStart, rollupEnd) =>
    s.metricRollupsQuery tenant deviceIds query (timestampMicros rollupStart)
      (timestampMicros rollupEnd)
  | none => s.metricSamplesQuery tenant deviceIds query

def analyticsQuery (now : ℤ) (tenant : String) (query : AnalyticsQuery) :
    Except PersistenceError AnalyticsQueryData :=
  let window := query.rollupWindow now
  if !metricRangeRetained query.start query.stop window (datetime s.retention.rawRetainedSince)
      (datetime s.retention.rollupRetainedSince) then .error .historyExpired
  else
    let selected := s.devices.rows.filter (query.scope.selects tenant)
    let compatible := selected.filter (s.isCompatible query)
    let ordered := orderBy (fun d : DeviceRow => (toLex (d.name, d.id) : String ×ₗ String)) compatible
    let devices := (ordered.take (limitAfter query.maxDevices)).map fun d =>
      (⟨d.id, d.name⟩ : AnalyticsDevice)
    if compatible.length > query.maxDevices || devices.isEmpty then
      .ok ⟨.blueprintMetricSamples, selected.length, compatible.length, devices, []⟩
    else
      let source := if window.isSome then .blueprintMetricSamplesAndRollups
        else .blueprintMetricSamples
      .ok ⟨source, selected.length, compatible.length, devices,
        s.metricBuckets tenant (devices.map AnalyticsDevice.id) query window⟩

end Store

end Extrittio
