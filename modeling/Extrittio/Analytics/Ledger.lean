import Extrittio.Analytics.Query
import Extrittio.Events.Retention

/-!
What the metric tables say about the events ever recorded. Above the raw
watermark the samples are exactly the recorded ones; above the rollup watermark
each hourly rollup summarises the recorded numbers of its hour, late ones
included. Both hold after every run of records and prunes.
-/
namespace Extrittio

open Relational Transition List RollupRow MetricReading Table

/-- The numbers of a recorded event, read with the device and contract tables. -/
def Store.readingsOf (s : Store) (tenant : String) (event : RecordDeviceEvent) :
    List MetricReading :=
  match s.device? tenant event.deviceId, s.contract? tenant event.deviceId event.contractId with
  | some d, some c =>
    event.metrics.flatMap fun metric => metric.value.number?.toList.map fun value =>
      ⟨tenant, d.id, d.name, c.blueprintRevisionId, metric.streamKey, metric.fieldPath,
        timestampMicros event.occurredAt, event.eventId, value⟩
  | _, _ => []

/-- The numbers of all events ever recorded. -/
def EventSystem.readings (sys : EventSystem) : List MetricReading :=
  sys.recorded.flatMap fun x => sys.store.readingsOf x.1 x.2

namespace MetricReading

def rollupKey (r : MetricReading) : String × String × String × String × String × ℤ :=
  (r.tenantId, r.deviceId, r.blueprintRevisionId, r.streamKey, r.fieldPath, hourStart r.occurredAt)

def rollup (r : MetricReading) : RollupRow where
  tenantId := r.tenantId
  deviceId := r.deviceId
  blueprintRevisionId := r.blueprintRevisionId
  streamKey := r.streamKey
  fieldPath := r.fieldPath
  bucketStart := hourStart r.occurredAt
  sampleCount := 1
  valueSum := r.value
  valueMin := r.value
  valueMax := r.value
  latestValue := r.value
  latestAt := r.occurredAt
  latestEventId := r.eventId

def tallied (r : MetricReading) : (String × String × String × String × String × ℤ) × Stamp × ℚ :=
  (r.rollupKey, r.stamped)

end MetricReading

section

variable {r excluded : RollupRow}

theorem RollupRow.isLater_iff :
    excluded.isLater r ↔ r.summary.stamp < excluded.summary.stamp := by
  simp only [isLater, Bool.or_eq_true, Bool.and_eq_true, decide_eq_true_eq, summary,
    Prod.Lex.toLex_lt_toLex, gt_iff_lt]
  constructor
  · rintro (h | ⟨h, h'⟩)
    · exact .inl h
    · exact .inr ⟨h.symm, h'⟩
  · rintro (h | ⟨h, h'⟩)
    · exact .inl h
    · exact .inr ⟨h.symm, h'⟩

theorem RollupRow.summary_absorb (hcount : excluded.sampleCount = 1) :
    (excluded.absorb r).summary = r.summary.merge excluded.summary := by
  have hstamp : (toLex (max r.latestAt excluded.latestAt,
      if excluded.isLater r then excluded.latestEventId else r.latestEventId) : Stamp) =
      max r.summary.stamp excluded.summary.stamp := by
    by_cases hlater : excluded.isLater r
    · have hlt := isLater_iff.mp hlater
      have hle : r.latestAt ≤ excluded.latestAt := by
        rcases Prod.Lex.toLex_lt_toLex.mp hlt with h | h
        · exact h.le
        · exact h.1.le
      rw [max_eq_right hlt.le, max_eq_right hle, if_pos hlater]
      rfl
    · have hnot := mt isLater_iff.mpr hlater
      have hle : excluded.latestAt ≤ r.latestAt := by
        by_contra hlt
        exact hnot (Prod.Lex.toLex_lt_toLex.mpr (.inl (not_le.mp hlt)))
      rw [max_eq_left (not_lt.mp hnot), max_eq_left hle, if_neg hlater]
      rfl
  have hlatest : (if excluded.isLater r then excluded.latestValue else r.latestValue) =
      if r.summary.stamp < excluded.summary.stamp then excluded.latestValue else r.latestValue := by
    simp only [isLater_iff]
  simp only [summary, absorb, Summary.merge, hcount] at hstamp hlatest ⊢
  rw [hstamp, hlatest]

/-- Readings absorbed one after the other are tallied under their hours. -/
theorem tallies_absorbAll {rollups : Table RollupRow key} (readings : List MetricReading)
    {observed : List ((String × String × String × String × String × ℤ) × Stamp × ℚ)}
    (h : Tallies rollups summary observed) :
    Tallies (absorbAll rollups (readings.map rollup)) summary
      (readings.map tallied ++ observed) := by
  induction readings generalizing rollups observed with
  | nil => exact h
  | cons reading readings ih =>
    have hone : Tallies (rollups.upsert reading.rollup reading.rollup.absorb fun _ => rfl)
        summary (reading.tallied :: observed) :=
      h.upsert _ rfl fun r _ => summary_absorb rfl
    exact (ih hone).perm perm_middle

end

namespace Store

variable {p : Platform} {uuid : ℕ → String} {now : ℤ} {tenant : String} {event : RecordDeviceEvent}
  {s s' : Store}

variable {d : DeviceRow} {c contract : ContractRow}

theorem id_of_device? {device : String} (h : s.device? tenant device = some d) :
    d.id = device := by
  obtain ⟨hfind, -⟩ := Option.filter_eq_some_iff.mp h
  exact (find?_eq_some.mp hfind).2

theorem readingsOf_eq (hd : s.device? tenant event.deviceId = some d)
    (hc : s.contract? tenant event.deviceId event.contractId = some c) :
    s.readingsOf tenant event =
      event.metrics.flatMap fun metric => metric.value.number?.toList.map fun value =>
        ⟨tenant, d.id, d.name, c.blueprintRevisionId, metric.streamKey, metric.fieldPath,
          timestampMicros event.occurredAt, event.eventId, value⟩ := by
  simp only [readingsOf, hd, hc]

theorem rollupRows_eq (hd : s.device? tenant event.deviceId = some d)
    (hc : s.contract? tenant event.deviceId event.contractId = some c) :
    event.rollupRows tenant c.blueprintRevisionId =
      (s.readingsOf tenant event).map rollup := by
  have hid := id_of_device? hd
  rw [readingsOf_eq hd hc, map_flatMap, RecordDeviceEvent.rollupRows]
  congr 1
  funext metric
  rw [map_map, hid]
  rfl

theorem revision_of_recordMetric {metric : DeviceMetricSample}
    (hcontract : s.contract? tenant event.deviceId event.contractId = some contract)
    (h : s.recordMetric tenant event metric = .ok s') {value : ℚ}
    (hvalue : metric.value.number? = some value) :
    ((s.revisions.find? contract.blueprintRevisionId).filter
      fun r => r.tenantId = tenant).isSome := by
  unfold recordMetric at h
  split at h
  · cases h
  next samples _ =>
    have hcontract' : { s with samples := samples }.contract? tenant event.deviceId
        event.contractId = some contract := hcontract
    simp only [hvalue, recordRollup, hcontract'] at h
    split at h
    · cases h
    next hkeys =>
      simp only [Bool.or_eq_true, not_or, Option.isNone_iff_eq_none] at hkeys
      exact Option.isSome_iff_ne_none.mpr hkeys.2

theorem revision_of_foldlM_recordMetric {metrics : List DeviceMetricSample}
    (h : metrics.foldlM (recordMetric tenant event) s = .ok s')
    (hcontract : s.contract? tenant event.deviceId event.contractId = some contract) :
    ∀ metric ∈ metrics, ∀ value, metric.value.number? = some value →
      ((s.revisions.find? contract.blueprintRevisionId).filter
        fun r => r.tenantId = tenant).isSome := by
  induction metrics generalizing s with
  | nil => simp
  | cons first metrics ih =>
    rw [foldlM_cons] at h
    obtain ⟨s₁, hfirst, hrest⟩ := of_bind_ok h
    obtain ⟨samples, -, rfl⟩ := recordMetric_eq_ok hcontract hfirst
    intro metric hmem value hvalue
    rcases mem_cons.mp hmem with rfl | hmem
    · exact revision_of_recordMetric hcontract hfirst hvalue
    · have hrevision := ih hrest hcontract
      exact hrevision metric hmem value hvalue

/-- A recorded event has its device, its contract and, for a number, the revision
of the contract. -/
structure References (s : Store) (tenant : String) (event : RecordDeviceEvent) : Prop where
  device : ∃ d, s.device? tenant event.deviceId = some d
  contract : ∃ c, s.contract? tenant event.deviceId event.contractId = some c ∧
    ∀ metric ∈ event.metrics, ∀ value, metric.value.number? = some value →
      ((s.revisions.find? c.blueprintRevisionId).filter fun r => r.tenantId = tenant).isSome = true

theorem references_of_record {outcome : RecordDeviceEventOutcome}
    (h : s.record p uuid now tenant event = .ok (s', outcome)) (hrecorded : outcome.recorded) :
    s.References tenant event := by
  unfold record at h
  split at h
  · cases h
  · split at h
    · cases h
    · obtain ⟨received, hreceipt, hrest⟩ := of_bind_ok h
      rcases insertReceipt_eq_ok hreceipt with ⟨rfl, -⟩ | ⟨receipts, hinsert, rfl⟩
      · cases hrest
        cases hrecorded
      · obtain ⟨stored, hstored, hrest⟩ := of_bind_ok hrest
        obtain ⟨events, contract, -, hcontract, rfl⟩ := insertEvent_eq_ok hstored
        obtain ⟨sampled, hsampled, hrest⟩ := of_bind_ok hrest
        have hrevision := revision_of_foldlM_recordMetric hsampled hcontract
        refine ⟨?_, contract, hcontract, hrevision⟩
        unfold insertReceipt at hreceipt
        simp only [hinsert] at hreceipt
        split at hreceipt
        · cases hreceipt
        next hdevice =>
          exact Option.ne_none_iff_exists'.mp (by simpa using hdevice)

theorem readingsOf_congr (hdevices : s'.devices = s.devices) (hcontracts : s'.contracts = s.contracts)
    (tenant : String) (event : RecordDeviceEvent) :
    s'.readingsOf tenant event = s.readingsOf tenant event := by
  simp only [readingsOf, device?, contract?, hdevices, hcontracts]

theorem References.congr (h : s.References tenant event) (hdevices : s'.devices = s.devices)
    (hcontracts : s'.contracts = s.contracts) (hrevisions : s'.revisions = s.revisions) :
    s'.References tenant event := by
  obtain ⟨hdevice, c, hc, hrevision⟩ := h
  refine ⟨?_, c, ?_, ?_⟩
  · simpa only [device?, hdevices] using hdevice
  · simpa only [contract?, hcontracts] using hc
  · simpa only [hrevisions] using hrevision

theorem occurredAt_of_mem_readingsOf {r : MetricReading} (h : r ∈ s.readingsOf tenant event) :
    r.occurredAt = timestampMicros event.occurredAt := by
  unfold readingsOf at h
  split at h
  · obtain ⟨metric, -, hr⟩ := mem_flatMap.mp h
    obtain ⟨value, -, rfl⟩ := mem_map.mp hr
    rfl
  · cases h

end Store

theorem le_hourStart_iff {bound micros : ℤ} (h : 3600000000 ∣ bound) :
    bound ≤ hourStart micros ↔ bound ≤ micros := by
  obtain ⟨hours, rfl⟩ := h
  unfold hourStart
  omega

namespace EventSystem

variable {p : Platform} {sys : EventSystem}

def occurred (x : String × RecordDeviceEvent) : ℤ := timestampMicros x.2.occurredAt

/-- The metric tables account for everything recorded above their watermarks. -/
structure Ledger (sys : EventSystem) : Prop where
  aligned : 3600000000 ∣ sys.store.retention.rollupRetainedSince
  watermarks : sys.store.retention.rollupRetainedSince ≤ sys.store.retention.rawRetainedSince
  receipts : ∀ x ∈ sys.recorded, sys.store.retention.rollupRetainedSince ≤ occurred x →
    ∃ r ∈ sys.store.receipts, r.id = x.2.eventId ∧ r.occurredAt = occurred x
  once : ((sys.recorded.filter fun x =>
    sys.store.retention.rollupRetainedSince ≤ occurred x).map fun x => x.2.eventId).Nodup
  fields : ∀ x ∈ sys.recorded, (x.2.metrics.map fun m => (m.streamKey, m.fieldPath)).Nodup
  references : ∀ x ∈ sys.recorded, sys.store.References x.1 x.2
  sampled : ∀ r ∈ sys.store.samples, ∃ x ∈ sys.recorded, ∃ m ∈ x.2.metrics,
    r = x.2.sampleRow x.1 m ∧ x.2.eventRow x.1 ∈ sys.store.events
  kept : ∀ x ∈ sys.recorded, sys.store.retention.rawRetainedSince ≤ occurred x →
    x.2.eventRow x.1 ∈ sys.store.events ∧
      ∀ m ∈ x.2.metrics, x.2.sampleRow x.1 m ∈ sys.store.samples
  tallied : Tallies sys.store.rollups RollupRow.summary ((sys.readings.filter fun r =>
    sys.store.retention.rollupRetainedSince ≤ r.occurredAt).map MetricReading.tallied)

theorem record_references (p : Platform) (sys : EventSystem) (uuid : ℕ → String) (now : ℤ)
    (tenant : String) (event : RecordDeviceEvent) :
    sys.apply p (.record uuid now tenant event) = sys ∨
    ∃ store, sys.apply p (.record uuid now tenant event) = ⟨store, (tenant, event) :: sys.recorded⟩ ∧
      Store.Recorded p uuid now tenant event sys.store store ∧
      sys.store.References tenant event := by
  simp only [apply]
  split
  next store outcome hrecord =>
    rcases Store.record_eq_ok hrecord with ⟨rfl, rfl, -⟩ | ⟨hrecorded, heffect⟩
    · exact .inl rfl
    · exact .inr ⟨store, by simp [hrecorded], heffect,
        Store.references_of_record hrecord hrecorded⟩
  next => exact .inl rfl

section

variable {uuid : ℕ → String} {now : ℤ} {tenant : String} {event : RecordDeviceEvent} {store : Store}

/-- The samples of a recorded event have different fields: the table has one row
for each. -/
theorem fields_of_recorded (h : Store.Recorded p uuid now tenant event sys.store store) :
    (event.metrics.map fun m => (m.streamKey, m.fieldPath)).Nodup := by
  have hnodup := store.samples.nodup
  rw [h.samples, map_append, map_map] at hnodup
  have hnew := (nodup_append.mp hnodup).2.1
  exact List.Nodup.of_map (fun field : String × String => (event.eventId, field.1, field.2))
    (by rw [map_map]; exact hnew)

theorem Ledger.record (h : Ledger sys)
    (heffect : Store.Recorded p uuid now tenant event sys.store store)
    (hreferences : sys.store.References tenant event) :
    Ledger ⟨store, (tenant, event) :: sys.recorded⟩ := by
  obtain ⟨hdevices, hrevisions, hcontracts, -, hretention, -⟩ := heffect.frame
  have hoccurred : occurred (tenant, event) = timestampMicros event.occurredAt := rfl
  have hreceipts : ∀ r, r ∈ store.receipts ↔
      r ∈ sys.store.receipts ∨ r = event.receiptRow tenant :=
    fun _ => mem_of_insert? heffect.receipts
  have hevents : ∀ e, e ∈ store.events ↔ e ∈ sys.store.events ∨ e = event.eventRow tenant :=
    fun _ => mem_of_insert? heffect.events
  have hsamples : ∀ r, r ∈ store.samples ↔
      r ∈ sys.store.samples ∨ ∃ m ∈ event.metrics, event.sampleRow tenant m = r := by
    intro r
    rw [mem_iff, heffect.samples, mem_append, mem_map]
    rfl
  constructor
  · show 3600000000 ∣ store.retention.rollupRetainedSince
    rw [hretention]
    exact h.aligned
  · show store.retention.rollupRetainedSince ≤ store.retention.rawRetainedSince
    rw [hretention]
    exact h.watermarks
  · intro x hx hlive
    simp only [hretention] at hlive
    rcases mem_cons.mp hx with rfl | hx
    · exact ⟨_, (hreceipts _).mpr (.inr rfl), rfl, rfl⟩
    · obtain ⟨r, hr, hrow⟩ := h.receipts x hx hlive
      exact ⟨r, (hreceipts r).mpr (.inl hr), hrow⟩
  · simp only [hretention]
    rw [filter_cons_of_pos (by simpa [hoccurred] using heffect.retained), map_cons,
      nodup_cons]
    refine ⟨fun hmem => ?_, h.once⟩
    -- What is recorded above the watermark has its receipt, and the new event had none.
    obtain ⟨x, hx, hid⟩ := mem_map.mp hmem
    obtain ⟨hx, hlive⟩ := List.mem_filter.mp hx
    obtain ⟨r, hr, hrid, -⟩ := h.receipts x hx (by simpa using hlive)
    exact (insert?_eq_some.mp heffect.receipts).1 r hr (hrid.trans hid)
  · exact forall_mem_cons.mpr ⟨fields_of_recorded heffect, h.fields⟩
  · refine forall_mem_cons.mpr ⟨hreferences.congr hdevices hcontracts hrevisions, ?_⟩
    exact fun x hx => (h.references x hx).congr hdevices hcontracts hrevisions
  · intro r hr
    rcases (hsamples r).mp hr with hr | ⟨m, hm, rfl⟩
    · obtain ⟨x, hx, m, hm, hrow, hevent⟩ := h.sampled r hr
      exact ⟨x, mem_cons_of_mem _ hx, m, hm, hrow, (hevents _).mpr (.inl hevent)⟩
    · exact ⟨_, mem_cons_self, m, hm, rfl, (hevents _).mpr (.inr rfl)⟩
  · intro x hx hraw
    simp only [hretention] at hraw
    rcases mem_cons.mp hx with rfl | hx
    · exact ⟨(hevents _).mpr (.inr rfl), fun m hm => (hsamples _).mpr (.inr ⟨m, hm, rfl⟩)⟩
    · obtain ⟨hevent, hrows⟩ := h.kept x hx hraw
      exact ⟨(hevents _).mpr (.inl hevent), fun m hm => (hsamples _).mpr (.inl (hrows m hm))⟩
  · obtain ⟨d, hd⟩ := hreferences.device
    obtain ⟨c, hc, hrollups⟩ := heffect.rollups
    have hreadings : readings ⟨store, (tenant, event) :: sys.recorded⟩ =
        sys.store.readingsOf tenant event ++ sys.readings := by
      simp only [readings, flatMap_cons, Store.readingsOf_congr hdevices hcontracts]
    have hlive : (sys.store.readingsOf tenant event).filter (fun r =>
        sys.store.retention.rollupRetainedSince ≤ r.occurredAt) =
        sys.store.readingsOf tenant event := by
      refine filter_eq_self.mpr fun r hr => ?_
      rw [Store.occurredAt_of_mem_readingsOf hr]
      exact decide_eq_true heffect.retained
    rw [hreadings, filter_append, map_append]
    simp only [hretention]
    rw [hlive, hrollups, Store.rollupRows_eq hd hc]
    exact tallies_absorbAll _ h.tallied

end

section

/-- Rollups that a prune keeps tally the readings that stay above its watermark. -/
theorem tallies_prune {rollups : Table RollupRow key} {readings : List MetricReading}
    {before after : ℤ} (haligned : 3600000000 ∣ after) (hle : before ≤ after)
    (h : Tallies rollups summary
      ((readings.filter fun r => before ≤ r.occurredAt).map tallied)) :
    Tallies (rollups.filter fun r => after ≤ r.bucketStart) summary
      ((readings.filter fun r => after ≤ r.occurredAt).map tallied) := by
  have hfilter := h.filter fun k => decide (after ≤ k.2.2.2.2.2)
  rw [filter_map, filter_filter] at hfilter
  have hsame : (readings.filter fun r => (after ≤ r.tallied.1.2.2.2.2.2) && before ≤ r.occurredAt) =
      readings.filter fun r => after ≤ r.occurredAt := by
    refine filter_congr fun r _ => ?_
    have hhour : after ≤ r.tallied.1.2.2.2.2.2 ↔ after ≤ r.occurredAt := le_hourStart_iff haligned
    rw [Bool.eq_iff_iff, Bool.and_eq_true, decide_eq_true_eq, decide_eq_true_eq, decide_eq_true_eq,
      hhour]
    exact ⟨And.left, fun hr => ⟨hr, hle.trans hr⟩⟩
  simp only [Function.comp_def] at hfilter
  rw [hsame] at hfilter
  exact hfilter

theorem Ledger.prune (h : Ledger sys) {cutoffs : MetricRetentionCutoffs} (haligned : cutoffs.Aligned) :
    Ledger { sys with store := (sys.store.pruneMetrics cutoffs).1 } := by
  set raw := max sys.store.retention.rawRetainedSince (timestampMicros cutoffs.rawRetainedSince)
    with hraw
  set rollup := max sys.store.retention.rollupRetainedSince
    (timestampMicros cutoffs.rollupRetainedSince) with hrollup
  have hrollupLe : sys.store.retention.rollupRetainedSince ≤ rollup := le_max_left _ _
  have hrawLe : sys.store.retention.rawRetainedSince ≤ raw := le_max_left _ _
  have hdvd : 3600000000 ∣ rollup := by
    rcases max_choice sys.store.retention.rollupRetainedSince
      (timestampMicros cutoffs.rollupRetainedSince) with hmax | hmax
    · rw [hrollup, hmax]
      exact h.aligned
    · rw [hrollup, hmax]
      exact haligned.rollup
  have hevents : ∀ x, x.2.eventRow x.1 ∈ (sys.store.pruneMetrics cutoffs).1.events ↔
      x.2.eventRow x.1 ∈ sys.store.events ∧ raw ≤ occurred x := by
    intro x
    refine Table.mem_filter.trans (and_congr_right fun _ => ?_)
    simp only [Bool.not_eq_true', decide_eq_false_iff_not, not_lt]
    rfl
  -- A sample goes with its event: the event table has one row for its id.
  have hexpired : ∀ x m, x.2.eventRow x.1 ∈ sys.store.events →
      (sys.store.events.rows.any (fun e => decide (e.occurredAt < raw) &&
        decide (e.id = (x.2.sampleRow x.1 m).eventId) &&
        decide (e.tenantId = (x.2.sampleRow x.1 m).tenantId) &&
        decide (e.deviceId = (x.2.sampleRow x.1 m).deviceId)) ↔ occurred x < raw) := by
    intro x m hx
    rw [any_eq_true]
    constructor
    · rintro ⟨e, he, hcheck⟩
      simp only [Bool.and_eq_true, decide_eq_true_eq] at hcheck
      have heq : e = x.2.eventRow x.1 := sys.store.events.eq_of_key_eq he hx hcheck.1.1.2
      rw [heq] at hcheck
      exact hcheck.1.1.1
    · intro hlt
      refine ⟨_, hx, ?_⟩
      simp only [Bool.and_eq_true, decide_eq_true_eq]
      exact ⟨⟨⟨hlt, rfl⟩, rfl⟩, rfl⟩
  have hsamples : ∀ x m, x.2.eventRow x.1 ∈ sys.store.events →
      (x.2.sampleRow x.1 m ∈ (sys.store.pruneMetrics cutoffs).1.samples ↔
        x.2.sampleRow x.1 m ∈ sys.store.samples ∧ raw ≤ occurred x) := by
    intro x m hx
    refine Table.mem_filter.trans (and_congr_right fun _ => ?_)
    rw [Bool.not_eq_true', ← Bool.not_eq_true, hexpired x m hx, not_lt]
  constructor
  · exact hdvd
  · exact max_le_max h.watermarks haligned.le
  · intro x hx hlive
    obtain ⟨r, hr, hid, hoccurred⟩ := h.receipts x hx (hrollupLe.trans hlive)
    refine ⟨r, Table.mem_filter.mpr ⟨hr, ?_⟩, hid, hoccurred⟩
    rw [hoccurred]
    exact decide_eq_true hlive
  · refine h.once.sublist (List.Sublist.map _ ?_)
    refine monotone_filter_right _ fun x hx => ?_
    exact decide_eq_true (hrollupLe.trans (of_decide_eq_true hx))
  · exact h.fields
  · exact fun x hx => (h.references x hx).congr rfl rfl rfl
  · intro r hr
    obtain ⟨x, hx, m, hm, rfl, hevent⟩ := h.sampled r (Table.mem_filter.mp hr).1
    exact ⟨x, hx, m, hm, rfl, (hevents x).mpr ⟨hevent, ((hsamples x m hevent).mp hr).2⟩⟩
  · intro x hx hlive
    obtain ⟨hevent, hrows⟩ := h.kept x hx (hrawLe.trans hlive)
    exact ⟨(hevents x).mpr ⟨hevent, hlive⟩,
      fun m hm => (hsamples x m hevent).mpr ⟨hrows m hm, hlive⟩⟩
  · exact tallies_prune hdvd hrollupLe h.tallied

end

theorem Ledger.step (h : Ledger sys) (p : Platform) (step : EventStep) : Ledger (sys.apply p step) := by
  cases step with
  | record uuid now tenant event =>
    rcases sys.record_references p uuid now tenant event with
      heq | ⟨store, heq, heffect, hreferences⟩
    · rw [heq]
      exact h
    · rw [heq]
      exact h.record heffect hreferences
  | prune rawDays rollupDays now =>
    simp only [apply]
    rcases MetricMaintenance.prune_cases rawDays rollupDays now sys.store with
      heq | ⟨cutoffs, haligned, heq⟩
    · rw [heq]
      exact h
    · rw [heq]
      exact h.prune haligned

/-- A store before anything was recorded. -/
structure Unrecorded (s : Store) : Prop where
  events : s.events.rows = []
  samples : s.samples.rows = []
  rollups : s.rollups.rows = []
  aligned : 3600000000 ∣ s.retention.rollupRetainedSince
  watermarks : s.retention.rollupRetainedSince ≤ s.retention.rawRetainedSince

theorem Unrecorded.ledger {s : Store} (h : Unrecorded s) : Ledger (start s) where
  aligned := h.aligned
  watermarks := h.watermarks
  receipts := by simp [start]
  once := by simp [start]
  fields := by simp [start]
  references := by simp [start]
  sampled r hr := by simp [start, Table.mem_iff, h.samples] at hr
  kept := by simp [start]
  tallied := by
    constructor
    · intro r hr
      simp [start, Table.mem_iff, h.rollups] at hr
    · simp [start, readings]

/-- In every run of records and prunes the tables account for what was recorded. -/
theorem ledger_of_run {s : Store} (h : Unrecorded s) {steps : List EventStep} {t : EventSystem}
    (hrun : (machine p).Run (start s) steps t) : Ledger t :=
  hrun.invariant (fun _ step hledger _ => hledger.step p step) h.ledger

end EventSystem

end Extrittio
