import Extrittio.Events.Record

/-!
What recording an event and pruning metrics do to each table.
-/
namespace Extrittio

open Relational

def RecordDeviceEvent.rollupRows (tenant : String) (event : RecordDeviceEvent) (revision : String) :
    List RollupRow :=
  event.metrics.flatMap fun metric =>
    metric.value.number?.toList.map (event.rollupRow tenant revision metric)

def absorbAll (rollups : Table RollupRow RollupRow.key) (rows : List RollupRow) :
    Table RollupRow RollupRow.key :=
  rows.foldl (fun t r => t.upsert r r.absorb fun _ => rfl) rollups

theorem absorbAll_append (rollups : Table RollupRow RollupRow.key) (rows rows' : List RollupRow) :
    absorbAll rollups (rows ++ rows') = absorbAll (absorbAll rollups rows) rows' :=
  List.foldl_append

namespace Store

variable {p : Platform} {uuid : ℕ → String} {now : ℤ} {tenant : String} {event : RecordDeviceEvent}
  {s s' : Store}

theorem recordMetric_eq_ok {metric : DeviceMetricSample} {contract : ContractRow}
    (hcontract : s.contract? tenant event.deviceId event.contractId = some contract)
    (h : s.recordMetric tenant event metric = .ok s') :
    ∃ samples, s.samples.insert? (event.sampleRow tenant metric) = some samples ∧
      s' = { s with
        samples := samples
        rollups := absorbAll s.rollups (metric.value.number?.toList.map
          (event.rollupRow tenant contract.blueprintRevisionId metric)) } := by
  unfold recordMetric at h
  split at h
  · cases h
  next samples hsamples =>
    refine ⟨samples, hsamples, ?_⟩
    split at h
    next hnumber =>
      cases h
      simp [hnumber, absorbAll]
    next value hnumber =>
      have hcontract' : { s with samples := samples }.contract? tenant event.deviceId
          event.contractId = some contract := hcontract
      simp only [recordRollup, hcontract'] at h
      split at h
      · cases h
      · cases h
        simp [hnumber, absorbAll]

theorem foldlM_recordMetric_eq_ok {metrics : List DeviceMetricSample} {contract : ContractRow}
    (h : metrics.foldlM (recordMetric tenant event) s = .ok s')
    (hcontract : s.contract? tenant event.deviceId event.contractId = some contract) :
    ∃ samples : Table SampleRow fun r => (r.eventId, r.streamKey, r.fieldPath),
      samples.rows = s.samples.rows ++ metrics.map (event.sampleRow tenant) ∧
      s' = { s with
        samples := samples
        rollups := absorbAll s.rollups (metrics.flatMap fun metric =>
          metric.value.number?.toList.map
            (event.rollupRow tenant contract.blueprintRevisionId metric)) } := by
  induction metrics generalizing s with
  | nil =>
    cases h
    exact ⟨_, by simp, rfl⟩
  | cons metric metrics ih =>
    rw [List.foldlM_cons] at h
    obtain ⟨s₁, hmetric, hrest⟩ := of_bind_ok h
    obtain ⟨samples₁, hinsert, rfl⟩ := recordMetric_eq_ok hcontract hmetric
    obtain ⟨samples, hrows, rfl⟩ := ih hrest hcontract
    refine ⟨samples, ?_, ?_⟩
    · rw [hrows, (Table.insert?_eq_some.mp hinsert).2]
      simp
    · rw [List.flatMap_cons, absorbAll_append]

/-- What recording an event does, table by table. -/
structure Recorded (p : Platform) (uuid : ℕ → String) (now : ℤ) (tenant : String)
    (event : RecordDeviceEvent) (s s' : Store) : Prop where
  retained : s.retention.rollupRetainedSince ≤ timestampMicros event.occurredAt
  desired : (s.assignments.find? (tenant, event.deviceId)).map AssignmentRow.desiredContractId =
    some event.contractId
  receipts : s.receipts.insert? (event.receiptRow tenant) = some s'.receipts
  events : s.events.insert? (event.eventRow tenant) = some s'.events
  assignments : s'.assignments = (s.acknowledge tenant event.deviceId event.contractId
    (timestampMicros event.receivedAt)).assignments
  samples : s'.samples.rows = s.samples.rows ++ event.metrics.map (event.sampleRow tenant)
  rollups : ∃ contract, s.contract? tenant event.deviceId event.contractId = some contract ∧
    s'.rollups = absorbAll s.rollups (event.rollupRows tenant contract.blueprintRevisionId)
  outbox : ∃ prepared runtime, s'.outbox = s.outbox.enqueueRows
    ((DeviceRuleEvaluation.decide p prepared runtime).deliveries.zipIdx.map
      (OutboxRow.ofAction p uuid now))
  frame : s'.devices = s.devices ∧ s'.revisions = s.revisions ∧ s'.contracts = s.contracts ∧
    s'.rules = s.rules ∧ s'.retention = s.retention ∧ s'.alerts = s.alerts ∧
    s'.deliveries = s.deliveries

theorem insertReceipt_eq_ok {received : Option Store}
    (h : s.insertReceipt tenant event = .ok received) :
    (received = none ∧ ∃ r ∈ s.receipts, r.id = event.eventId) ∨
    ∃ receipts, s.receipts.insert? (event.receiptRow tenant) = some receipts ∧
      received = some { s with receipts := receipts } := by
  unfold insertReceipt at h
  split at h
  next hnone =>
    cases h
    exact .inl ⟨rfl, Table.insert?_eq_none.mp hnone⟩
  next receipts hinsert =>
    split at h
    · cases h
    · cases h
      exact .inr ⟨receipts, hinsert, rfl⟩

theorem insertEvent_eq_ok (h : s.insertEvent tenant event = .ok s') :
    ∃ events contract, s.events.insert? (event.eventRow tenant) = some events ∧
      s.contract? tenant event.deviceId event.contractId = some contract ∧
      s' = { s with events := events } := by
  unfold insertEvent at h
  split at h
  · cases h
  next events hinsert =>
    split at h
    · cases h
    next hkeys =>
      cases h
      simp only [Bool.or_eq_true, Option.isNone_iff_eq_none, not_or] at hkeys
      obtain ⟨contract, hcontract⟩ := Option.ne_none_iff_exists'.mp hkeys.2
      exact ⟨events, contract, hinsert, hcontract, rfl⟩

/-- A committed record found a receipt and did nothing, or recorded the event. -/
theorem record_eq_ok {outcome : RecordDeviceEventOutcome}
    (h : s.record p uuid now tenant event = .ok (s', outcome)) :
    (s' = s ∧ outcome = ⟨false, 0, 0⟩ ∧ ∃ r ∈ s.receipts, r.id = event.eventId) ∨
    outcome.recorded ∧ Recorded p uuid now tenant event s s' := by
  unfold record at h
  split at h
  · cases h
  next hretained =>
    split at h
    · cases h
    next hdesired =>
      push Not at hretained hdesired
      obtain ⟨received, hreceipt, hrest⟩ := of_bind_ok h
      rcases insertReceipt_eq_ok hreceipt with ⟨rfl, hexists⟩ | ⟨receipts, hinsert, rfl⟩
      · cases hrest
        exact .inl ⟨rfl, rfl, hexists⟩
      · right
        obtain ⟨stored, hstored, hrest⟩ := of_bind_ok hrest
        obtain ⟨events, contract, hevents, hcontract, rfl⟩ := insertEvent_eq_ok hstored
        obtain ⟨sampled, hsampled, hrest⟩ := of_bind_ok hrest
        obtain ⟨samples, hsamples, rfl⟩ := foldlM_recordMetric_eq_ok hsampled hcontract
        obtain ⟨⟨evaluated, count⟩, hobserve, hreturn⟩ := of_bind_ok hrest
        cases hreturn
        obtain ⟨prepared, runtime, zoneEntries, -, rfl⟩ := observe_eq_ok hobserve
        exact ⟨rfl, hretained, hdesired, hinsert, hevents, rfl, hsamples,
          ⟨contract, hcontract, rfl⟩, ⟨prepared, runtime, rfl⟩, rfl, rfl, rfl, rfl, rfl, rfl, rfl⟩

end Store

/-- The cutoffs of a prune: whole hours, and rollups are kept at least as long. -/
structure MetricRetentionCutoffs.Aligned (cutoffs : MetricRetentionCutoffs) : Prop where
  raw : 3600000000 ∣ timestampMicros cutoffs.rawRetainedSince
  rollup : 3600000000 ∣ timestampMicros cutoffs.rollupRetainedSince
  le : timestampMicros cutoffs.rollupRetainedSince ≤ timestampMicros cutoffs.rawRetainedSince

namespace MetricMaintenance

theorem floor_eq_ok {now hour : ℤ} {days : ℕ} (h : floor now days = .ok hour) :
    hour = (now - 86400000000000 * days) / 1000000000 / 3600 * 3600 * 1000000000 := by
  unfold floor tryDays at h
  split at h
  · cases h
  next age hage =>
    split at hage
    · cases hage
      split at h
      · cases h
      next cutoff hcutoff =>
        simp only at h
        split at h
        · cases h
          rw [checkedSub_eq_some hcutoff]
        · cases h
    · cases hage

theorem retentionCutoffs_aligned {rawDays rollupDays : ℕ} {now : ℤ} {cutoffs : MetricRetentionCutoffs}
    (h : retentionCutoffs rawDays rollupDays now = .ok cutoffs) : cutoffs.Aligned := by
  unfold retentionCutoffs at h
  split at h
  · cases h
  next hdays =>
    push Not at hdays
    obtain ⟨raw, hraw, hrest⟩ := of_bind_ok h
    obtain ⟨rollup, hrollup, hreturn⟩ := of_bind_ok hrest
    cases hreturn
    obtain rfl := floor_eq_ok hraw
    obtain rfl := floor_eq_ok hrollup
    have hcast : (rawDays : ℤ) ≤ rollupDays := by exact_mod_cast hdays.2
    constructor <;> simp only [timestampMicros] <;> omega

/-- A prune fails and leaves the store, or advances the watermarks. -/
theorem prune_cases (rawDays rollupDays : ℕ) (now : ℤ) (s : Store) :
    (prune rawDays rollupDays now s).1 = s ∨ ∃ cutoffs : MetricRetentionCutoffs, cutoffs.Aligned ∧
      (prune rawDays rollupDays now s).1 = (s.pruneMetrics cutoffs).1 := by
  unfold prune
  split
  · exact .inl rfl
  next cutoffs hcutoffs => exact .inr ⟨cutoffs, retentionCutoffs_aligned hcutoffs, rfl⟩

end MetricMaintenance

end Extrittio
