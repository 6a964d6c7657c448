import Extrittio.Analytics.Query
import Extrittio.Contract.Blueprint

/-!
The analytics service: a request is checked against the catalogue and the budgets, the
store aggregates buckets, and series and statistics are built from the buckets. Values
are exact rationals.
-/
namespace Extrittio

open Relational

inductive AnalyticsSeriesMode where
  | perDevice
  | fleetMean
  | meanAndRange
  | latestRanking
  deriving DecidableEq

inductive AnalyticsWeighting where
  | equalDevice
  | sample
  deriving DecidableEq

inductive AnalyticsSeriesKind where
  | device
  | mean
  | minimum
  | maximum
  deriving DecidableEq

structure AnalyticsPoint where
  timestamp : ℤ
  value : ℚ
  deriving DecidableEq

structure AnalyticsStats where
  minimum : ℚ
  maximum : ℚ
  average : ℚ
  latest : ℚ
  sampleCount : ℕ
  deriving DecidableEq

structure AnalyticsSeries where
  id : String
  label : String
  kind : AnalyticsSeriesKind
  deviceId : Option String
  points : List AnalyticsPoint
  stats : AnalyticsStats
  deriving DecidableEq

structure AnalyticsDeviceStats where
  deviceId : String
  deviceName : String
  stats : Option AnalyticsStats
  coveragePercent : ℚ
  deriving DecidableEq

structure AnalyticsCoveragePoint where
  timestamp : ℤ
  reportingDevices : ℕ
  selectedDevices : ℕ
  deriving DecidableEq

/-- A numeric field of a blueprint's latest revision. -/
structure AnalyticsMetric where
  blueprintId : String
  selector : AnalyticsMetricSelector
  blueprintKey : String
  blueprintName : String
  label : String
  unit : Option String
  valueType : String
  aggregates : List String
  precision : Option ℕ
  deriving DecidableEq

/-- A published revision; its document as it was read, or why it was not. -/
structure AnalyticsBlueprintRevision where
  blueprintId : String
  blueprintKey : String
  blueprintName : String
  revisionId : String
  revision : ℤ
  document : Except String DeviceBlueprint

/-- A request selects a metric by its blueprint, stream and field. -/
structure AnalyticsRequest where
  scope : AnalyticsScope
  blueprintId : String
  metric : AnalyticsMetricSelector
  start : ℤ
  stop : ℤ
  bucketSeconds : Option ℤ
  mode : AnalyticsSeriesMode
  weighting : AnalyticsWeighting
  maxPointsPerSeries : Option ℕ
  deriving DecidableEq

structure AnalyticsResult where
  metric : AnalyticsMetric
  start : ℤ
  stop : ℤ
  bucketSeconds : ℤ
  source : AnalyticsDataSource
  weighting : AnalyticsWeighting
  selectedDevices : ℕ
  compatibleDevices : ℕ
  series : List AnalyticsSeries
  devices : List AnalyticsDeviceStats
  coverage : List AnalyticsCoveragePoint
  stats : Option AnalyticsStats
  deriving DecidableEq

namespace AnalyticsApplication

def maxDevices : ℕ := 50
def defaultMaxPointsPerSeries : ℕ := 1200
def maxPointsPerSeries : ℕ := 2000
def maxTotalPoints : ℕ := 100000
def maxScopeValues : ℕ := 100
def maxRangeSeconds : ℤ := 366 * 24 * 60 * 60

/-! The catalogue of metrics. -/

def metricValueType : FieldValueType → String
  | .float64 => "float64"
  | .int64 => "int64"
  | .string => "string"
  | .boolean => "boolean"
  | .json => "json"

def aggregateName : AggregateKind → String
  | .min => "minimum"
  | .max => "maximum"
  | .avg => "average"
  | .sum => "sum"
  | .count => "count"
  | .last => "latest"

def metricsFromRevision (revision : AnalyticsBlueprintRevision) :
    Except ApplicationError (List AnalyticsMetric) := do
  let blueprint ← revision.document.mapError fun error =>
    .internal s!"stored blueprint revision '{revision.revisionId}' is invalid: {error}"
  return blueprint.spec.streams.flatMap fun stream =>
    (stream.fields.filter fun field => field.valueType.isNumeric).map fun field =>
      { blueprintId := revision.blueprintId
        selector := ⟨stream.key, field.path⟩
        blueprintKey := revision.blueprintKey
        blueprintName := revision.blueprintName
        label := field.label
        unit := field.unit
        valueType := metricValueType field.valueType
        aggregates := field.aggregates.map aggregateName
        precision := field.presentation.bind (·.precision) }

def latestRevisions (revisions : List AnalyticsBlueprintRevision) :
    OrderedMap String AnalyticsBlueprintRevision :=
  revisions.foldl (fun latest revision =>
    if (latest.get? revision.blueprintId).all fun current => current.revision < revision.revision
    then latest.insert revision.blueprintId revision else latest) ∅

def metricOrder (metric : AnalyticsMetric) : String ×ₗ String ×ₗ String :=
  toLex (metric.blueprintName, toLex (metric.label,
    s!"{metric.selector.streamKey}.{metric.selector.fieldPath}"))

def metricsFromBlueprints (revisions : List AnalyticsBlueprintRevision) :
    Except ApplicationError (List AnalyticsMetric) := do
  let metrics ← ((latestRevisions revisions).entries.map Prod.snd).mapM metricsFromRevision
  return orderBy metricOrder metrics.flatten

/-- The declaration of a revision has the semantics of the metric. -/
def declares (metric candidate : AnalyticsMetric) : Bool :=
  candidate.blueprintId = metric.blueprintId && candidate.selector = metric.selector &&
    candidate.valueType = metric.valueType && candidate.unit = metric.unit &&
    orderBy id candidate.aggregates = orderBy id metric.aggregates

/-- The metric, and the revisions whose samples can be aggregated with it. -/
def resolveMetric (blueprintId : String) (selector : AnalyticsMetricSelector)
    (revisions : List AnalyticsBlueprintRevision) :
    Except ApplicationError (AnalyticsMetric × List String) := do
  let metrics ← metricsFromBlueprints revisions
  let some metric := metrics.find? fun metric =>
      metric.blueprintId = blueprintId && metric.selector = selector
    | throw (.invalidOperation
        "Analytics metric is not a numeric field in the selected published blueprint")
  let declared ← revisions.mapM fun revision => do
    let candidates ← metricsFromRevision revision
    return (revision.revisionId, candidates.any (declares metric))
  return (metric, orderBy id ((declared.filter Prod.snd).map Prod.fst))

/-! Budgets. -/

def saturateI64 (value : ℤ) : ℤ := max i64Min (min i64Max value)

def ceilDiv (value divisor : ℤ) : ℤ :=
  (saturateI64 (value + saturateI64 (divisor - 1))).tdiv divisor

def rangeSeconds (request : AnalyticsRequest) : ℤ := (request.stop - request.start).tdiv 1000000000

def maxPoints (request : AnalyticsRequest) : ℕ :=
  max 10 (min maxPointsPerSeries (request.maxPointsPerSeries.getD defaultMaxPointsPerSeries))

def automaticBucket (rangeSeconds : ℤ) (maxPoints : ℕ) : ℤ :=
  (allowedBucketSeconds.find? fun bucket => bucket ≥ ceilDiv rangeSeconds maxPoints).getD 86400

def validateExplicitBucket (bucketSeconds rangeSeconds : ℤ) (maxPoints : ℕ) :
    Except ApplicationError ℤ := do
  if bucketSeconds ∉ allowedBucketSeconds then
    throw (.invalidInput (s!"Unsupported analytics bucket {bucketSeconds}; " ++
      "use 60, 300, 900, 3600, 21600, or 86400 seconds"))
  if ceilDiv rangeSeconds bucketSeconds > maxPoints then
    throw (.invalidOperation ("Requested bucket exceeds the per-series point budget; " ++
      s!"use at least {automaticBucket rangeSeconds maxPoints} seconds"))
  return bucketSeconds

def effectiveBucket (request : AnalyticsRequest) : Except ApplicationError ℤ :=
  match request.bucketSeconds with
  | some bucket => validateExplicitBucket bucket (rangeSeconds request) (maxPoints request)
  | none => .ok (automaticBucket (rangeSeconds request) (maxPoints request))

def validateScope (request : AnalyticsRequest) : Except ApplicationError Unit :=
  if request.scope.fleetIds.length > maxScopeValues ∨
      request.scope.deviceIds.length > maxScopeValues then
    .error (.invalidInput s!"Each analytics scope filter supports at most {maxScopeValues} values")
  else .ok ()

/-! Statistics and series. -/

/-- The state of the loop over a device's buckets. -/
structure Tally where
  minimum : ℚ
  maximum : ℚ
  weightedSum : ℚ
  sampleCount : ℕ
  latestBucket : AnalyticsBucket

def Tally.add (tally : Tally) (bucket : AnalyticsBucket) : Tally where
  minimum := min tally.minimum bucket.minimum
  maximum := max tally.maximum bucket.maximum
  weightedSum := tally.weightedSum + bucket.average * bucket.sampleCount
  sampleCount := tally.sampleCount + bucket.sampleCount
  latestBucket :=
    if bucket.bucketStart > tally.latestBucket.bucketStart then bucket else tally.latestBucket

def statsForBuckets (buckets : List AnalyticsBucket) : Option AnalyticsStats :=
  buckets.head?.map fun first =>
    let tally := buckets.foldl Tally.add ⟨first.minimum, first.maximum, 0, 0, first⟩
    ⟨tally.minimum, tally.maximum, tally.weightedSum / (max tally.sampleCount 1 : ℕ),
      tally.latestBucket.latest, tally.sampleCount⟩

def buildDeviceStats (data : AnalyticsQueryData) (expectedBuckets : ℕ) : List AnalyticsDeviceStats :=
  data.devices.map fun device =>
    let buckets := data.buckets.filter fun bucket => bucket.deviceId = device.id
    ⟨device.id, device.name, statsForBuckets buckets,
      max 0 (min 100 ((buckets.length : ℚ) / expectedBuckets * 100))⟩

def fleetStats (devices : List AnalyticsDeviceStats) (weighting : AnalyticsWeighting) :
    Option AnalyticsStats :=
  let stats := devices.filterMap (·.stats)
  stats.head?.map fun first =>
    let sampleCount := (stats.map (·.sampleCount)).sum
    { minimum := (stats.map (·.minimum)).foldl min first.minimum
      maximum := (stats.map (·.maximum)).foldl max first.maximum
      average := match weighting with
        | .equalDevice => (stats.map (·.average)).sum / stats.length
        | .sample =>
          (stats.map fun stat => stat.average * (stat.sampleCount : ℚ)).sum /
            (max sampleCount 1 : ℕ)
      latest := (stats.map (·.latest)).sum / stats.length
      sampleCount := sampleCount }

def meanForBuckets (buckets : List AnalyticsBucket) : AnalyticsWeighting → ℚ
  | .equalDevice => (buckets.map (·.average)).sum / (max buckets.length 1 : ℕ)
  | .sample =>
    (buckets.map fun bucket => bucket.average * (bucket.sampleCount : ℚ)).sum /
      (max (buckets.map (·.sampleCount)).sum 1 : ℕ)

def devicePoints (latestOnly : Bool) (buckets : List AnalyticsBucket) : List AnalyticsPoint :=
  if latestOnly then (buckets.getLast?.map fun bucket => ⟨bucket.bucketStart, bucket.latest⟩).toList
  else buckets.map fun bucket => ⟨bucket.bucketStart, bucket.average⟩

def deviceSeries (latestOnly : Bool) (buckets : List AnalyticsBucket) : Option AnalyticsSeries := do
  let sorted := orderBy (·.bucketStart) buckets
  let stats ← statsForBuckets sorted
  let first ← sorted.head?
  return ⟨s!"device:{first.deviceId}", first.deviceName, .device, some first.deviceId,
    devicePoints latestOnly sorted, stats⟩

def perDeviceSeries (buckets : List AnalyticsBucket) (latestOnly : Bool) : List AnalyticsSeries :=
  let series := (groupBy (·.deviceId) buckets).filterMap fun group => deviceSeries latestOnly group.2
  orderBy (fun s : AnalyticsSeries => (toLex (s.label, s.id) : String ×ₗ String)) series

/-- The value of an instant. Groups are not empty, so that the infinities from which the
source takes minima and maxima are never values. -/
def aggregateValue (kind : AnalyticsSeriesKind) (weighting : AnalyticsWeighting)
    (buckets : List AnalyticsBucket) : ℚ :=
  match kind with
  | .mean => meanForBuckets buckets weighting
  | .minimum => (buckets.map (·.minimum)).min?.getD 0
  | .maximum => (buckets.map (·.maximum)).max?.getD 0
  | .device => 0

def aggregateSeries (id label : String) (kind : AnalyticsSeriesKind)
    (groups : List (ℤ × List AnalyticsBucket)) (weighting : AnalyticsWeighting) :
    Option AnalyticsSeries :=
  let points : List AnalyticsPoint :=
    groups.map fun group => ⟨group.1, aggregateValue kind weighting group.2⟩
  points.head?.map fun first =>
    let values := points.map (·.value)
    { id := id
      label := label
      kind := kind
      deviceId := none
      points := points
      stats :=
        { minimum := values.foldl min first.value
          maximum := values.foldl max first.value
          average := values.sum / points.length
          latest := (points.getLast?.map (·.value)).getD first.value
          sampleCount := groups.length } }

def groupByTime (buckets : List AnalyticsBucket) : List (ℤ × List AnalyticsBucket) :=
  groupBy (·.bucketStart) buckets

def buildSeries (mode : AnalyticsSeriesMode) (weighting : AnalyticsWeighting)
    (buckets : List AnalyticsBucket) : List AnalyticsSeries :=
  let groups := groupByTime buckets
  match mode with
  | .perDevice => perDeviceSeries buckets false
  | .latestRanking => perDeviceSeries buckets true
  | .fleetMean => (aggregateSeries "fleet-mean" "Fleet mean" .mean groups weighting).toList
  | .meanAndRange =>
    [aggregateSeries "fleet-minimum" "Fleet minimum" .minimum groups weighting,
      aggregateSeries "fleet-maximum" "Fleet maximum" .maximum groups weighting,
      aggregateSeries "fleet-mean" "Fleet mean" .mean groups weighting].filterMap id

def buildResult (request : AnalyticsRequest) (metric : AnalyticsMetric) (bucketSeconds : ℤ)
    (data : AnalyticsQueryData) : AnalyticsResult :=
  let expectedBuckets := max (ceilDiv (rangeSeconds request) bucketSeconds).toNat 1
  let devices := buildDeviceStats data expectedBuckets
  { metric := metric
    start := request.start
    stop := request.stop
    bucketSeconds := bucketSeconds
    source := data.source
    weighting := request.weighting
    selectedDevices := data.selectedDevices
    compatibleDevices := data.compatibleDevices
    series := buildSeries request.mode request.weighting data.buckets
    devices := devices
    coverage := (groupByTime data.buckets).map fun group =>
      ⟨group.1, group.2.length, data.compatibleDevices⟩
    stats := fleetStats devices request.weighting }

/-! The service. -/

def mapQueryError : PersistenceError → ApplicationError
  | .historyExpired => .invalidOperation ("Analytics range is outside retained metric history; " ++
      "use a newer range or coarser complete-hour buckets")
  | other => .persistence other

def plan (revisions : List AnalyticsBlueprintRevision) (request : AnalyticsRequest) :
    Except ApplicationError (AnalyticsMetric × AnalyticsQuery) := do
  validateScope request
  let (metric, compatibleRevisionIds) ← resolveMetric request.blueprintId request.metric revisions
  if rangeSeconds request ≤ 0 then
    throw (.invalidInput "Analytics time range must have an end after its start")
  if rangeSeconds request > maxRangeSeconds then
    throw (.invalidOperation "Analytics time range cannot exceed 366 days")
  let bucketSeconds ← effectiveBucket request
  let start ← storageBound request.start
  let stop ← storageBound request.stop
  return (metric, ⟨request.scope, metric.selector, compatibleRevisionIds, start, stop, bucketSeconds,
    maxDevices, maxTotalPoints⟩)

/-- The catalogue and the buckets are read one after the other. -/
def query (revisions : List AnalyticsBlueprintRevision) (s : Store) (now : ℤ) (tenant : String)
    (request : AnalyticsRequest) : Except ApplicationError AnalyticsResult := do
  let (metric, planned) ← plan revisions request
  let data ← (s.analyticsQuery now tenant planned).mapError mapQueryError
  if data.compatibleDevices > maxDevices then
    throw (.invalidOperation (s!"Analytics metric is compatible with {data.compatibleDevices} " ++
      s!"devices in this scope; narrow it to {maxDevices} or fewer"))
  if data.buckets.length > maxTotalPoints then
    throw (.invalidOperation
      "Analytics query exceeds the point budget; use a larger bucket or narrower scope")
  return buildResult request metric planned.bucketSeconds data

/-! What is accepted. -/

section

variable {revisions : List AnalyticsBlueprintRevision} {request : AnalyticsRequest}
  {metric : AnalyticsMetric} {planned : AnalyticsQuery}

/-- The query of an accepted request. -/
structure Planned (revisions : List AnalyticsBlueprintRevision) (request : AnalyticsRequest)
    (metric : AnalyticsMetric) (planned : AnalyticsQuery) : Prop where
  resolved : resolveMetric request.blueprintId request.metric revisions =
    .ok (metric, planned.compatibleRevisionIds)
  range : 0 < rangeSeconds request ∧ rangeSeconds request ≤ maxRangeSeconds
  bucket : planned.bucketSeconds ∈ allowedBucketSeconds
  start : storageBound request.start = .ok planned.start
  stop : storageBound request.stop = .ok planned.stop
  scope : planned.scope = request.scope
  metric : planned.metric = metric.selector
  maxDevices : planned.maxDevices = maxDevices
  maxRows : planned.maxRows = maxTotalPoints

theorem automaticBucket_mem (rangeSeconds : ℤ) (maxPoints : ℕ) :
    automaticBucket rangeSeconds maxPoints ∈ allowedBucketSeconds := by
  unfold automaticBucket
  cases hfind : allowedBucketSeconds.find? fun bucket =>
      bucket ≥ ceilDiv rangeSeconds maxPoints with
  | none => decide
  | some bucket => exact List.mem_of_find?_eq_some hfind

theorem mem_of_validateExplicitBucket {bucketSeconds rangeSeconds result : ℤ} {maxPoints : ℕ}
    (h : validateExplicitBucket bucketSeconds rangeSeconds maxPoints = .ok result) :
    result ∈ allowedBucketSeconds := by
  obtain ⟨hallowed, h⟩ := guard_eq_ok_iff.mp h
  obtain ⟨-, h⟩ := guard_eq_ok_iff.mp h
  exact Except.ok.inj h ▸ not_not.mp hallowed

theorem planned_of_plan (h : plan revisions request = .ok (metric, planned)) :
    Planned revisions request metric planned := by
  obtain ⟨-, -, h⟩ := of_bind_ok h
  obtain ⟨⟨resolved, revisionIds⟩, hresolved, h⟩ := of_bind_ok h
  obtain ⟨hpositive, h⟩ := guard_eq_ok_iff.mp h
  obtain ⟨hbounded, h⟩ := guard_eq_ok_iff.mp h
  obtain ⟨bucket, hbucket, h⟩ := of_bind_ok h
  obtain ⟨start, hstart, h⟩ := of_bind_ok h
  obtain ⟨stop, hstop, h⟩ := of_bind_ok h
  have hallowed : bucket ∈ allowedBucketSeconds := by
    unfold effectiveBucket at hbucket
    split at hbucket
    · exact mem_of_validateExplicitBucket hbucket
    · exact Except.ok.inj hbucket ▸ automaticBucket_mem _ _
  cases h
  exact ⟨hresolved, ⟨not_le.mp hpositive, not_lt.mp hbounded⟩, hallowed, hstart, hstop, rfl, rfl, rfl,
    rfl⟩

/-- An accepted request is answered from the buckets of its query. -/
theorem query_eq_ok_iff {s : Store} {now : ℤ} {tenant : String} {result : AnalyticsResult} :
    query revisions s now tenant request = .ok result ↔
      ∃ metric planned data, plan revisions request = .ok (metric, planned) ∧
        s.analyticsQuery now tenant planned = .ok data ∧ data.compatibleDevices ≤ maxDevices ∧
        data.buckets.length ≤ maxTotalPoints ∧
        buildResult request metric planned.bucketSeconds data = result := by
  constructor
  · intro h
    obtain ⟨⟨metric, planned⟩, hplan, h⟩ := of_bind_ok h
    obtain ⟨data, hdata, h⟩ := of_bind_ok h
    obtain ⟨hdevices, h⟩ := guard_eq_ok_iff.mp h
    obtain ⟨hrows, h⟩ := guard_eq_ok_iff.mp h
    exact ⟨metric, planned, data, hplan, mapError_eq_ok.mp hdata, not_lt.mp hdevices,
      not_lt.mp hrows, Except.ok.inj h⟩
  · rintro ⟨metric, planned, data, hplan, hdata, hdevices, hrows, rfl⟩
    refine bind_eq_ok_iff.mpr ⟨_, hplan, bind_eq_ok_iff.mpr ⟨data, mapError_eq_ok.mpr hdata, ?_⟩⟩
    exact guard_eq_ok_iff.mpr ⟨not_lt.mpr hdevices, guard_eq_ok_iff.mpr ⟨not_lt.mpr hrows, rfl⟩⟩

end

end AnalyticsApplication

end Extrittio
