import Extrittio.Analytics.Ledger

/-!
Queries are exact: what a range check accepts is answered as if every event ever
recorded were still there. Raw samples answer for the partial hours, rollups for
the full ones; the two never overlap and leave no gap.
-/
namespace Extrittio

open Relational Transition List AnalyticsQuery Store RollupRow RecordDeviceEvent MetricReading

section

theorem bucketFloor_eq {size : ℤ} (hsize : 0 < size) (x : ℤ) : bucketFloor size x = x / size * size := by
  have hnonneg := Int.emod_nonneg x hsize.ne'
  have hlt := Int.emod_lt_of_pos x hsize
  have hdecompose := Int.emod_add_mul_ediv x size
  have hfloor : x - x % size = x / size * size := by
    rw [mul_comm]
    omega
  rw [bucketFloor, Int.tmod_eq_emod]
  by_cases hx : 0 ≤ x ∨ size ∣ x
  · rw [if_pos hx, Nat.cast_zero, sub_zero, if_neg (not_lt.mpr hnonneg)]
    exact hfloor
  · rw [if_neg hx, Int.natAbs_of_nonneg hsize.le, if_pos (by omega), sub_add_cancel]
    exact hfloor

theorem bucketFloor_hourStart {size : ℤ} (hsize : 0 < size) (hhours : 3600000000 ∣ size) (x : ℤ) :
    bucketFloor size (hourStart x) = bucketFloor size x := by
  rw [bucketFloor_eq hsize, bucketFloor_eq hsize]
  obtain ⟨hours, rfl⟩ := hhours
  congr 1
  rw [hourStart, mul_comm (x / 3600000000), Int.mul_ediv_mul_of_pos _ _ (by norm_num),
    Int.ediv_ediv_of_nonneg (by norm_num)]

theorem hourStart_lt_iff {bound micros : ℤ} (h : 3600000000 ∣ bound) :
    hourStart micros < bound ↔ micros < bound := by
  rw [← not_le, ← not_le, le_hourStart_iff h]

theorem datetime_le_iff {micros instant : ℤ} :
    datetime micros ≤ instant ↔ micros ≤ timestampMicros instant := by
  unfold datetime timestampMicros
  omega

/-- The bounds of a request keep their members: what is stored lies between the
rounded bounds exactly if it lies between the requested ones. -/
theorem storageBound_le_iff {value bound micros : ℤ} (h : storageBound value = .ok bound) :
    timestampMicros bound ≤ micros ↔ value ≤ datetime micros := by
  unfold storageBound at h
  simp only at h
  unfold timestampMicros datetime
  split_ifs at h <;> cases h <;> omega

/-- A rollup window consists of full hours inside the range. -/
structure IsWindow (start stop first last : ℤ) : Prop where
  first_dvd : 3600000000 ∣ first
  last_dvd : 3600000000 ∣ last
  start_le : start ≤ first
  lt : first < last
  le_stop : last ≤ stop

theorem fullHourRollupWindow_eq_some {start stop now fullStart fullEnd : ℤ}
    (h : fullHourRollupWindow start stop now = some (fullStart, fullEnd)) :
    ∃ first last, fullStart = datetime first ∧ fullEnd = datetime last ∧
      IsWindow (timestampMicros start) (timestampMicros stop) first last ∧
      last ≤ timestampMicros now := by
  simp only [fullHourRollupWindow, Option.bind_eq_bind, Option.bind_eq_some_iff] at h
  obtain ⟨hours, hhours, first, hfirst, last, hlast, h⟩ := h
  have hchecked : ∀ {x y : ℤ}, checkedI64 x = some y → y = x := by
    intro x y hxy
    unfold checkedI64 at hxy
    split_ifs at hxy
    exact (Option.some.inj hxy).symm
  have hinstant : ∀ {x y : ℤ}, fromTimestampMicros x = some y → y = datetime x := by
    intro x y hxy
    unfold fromTimestampMicros at hxy
    split_ifs at hxy
    exact (Option.some.inj hxy).symm
  split_ifs at h with hempty
  simp only [Option.bind_eq_some_iff, Option.pure_def, Option.some.injEq, Prod.mk.injEq] at h
  obtain ⟨_, hstart, _, hend, rfl, rfl⟩ := h
  refine ⟨first, last, hinstant hstart, hinstant hend, ?_⟩
  obtain rfl := hchecked hlast
  obtain rfl := hchecked hfirst
  obtain rfl := hchecked hhours
  simp only [hourMicros] at hempty ⊢
  refine ⟨⟨dvd_mul_left _ _, dvd_mul_left _ _, ?_, not_le.mp hempty, ?_⟩, ?_⟩
  · split_ifs <;> omega
  · omega
  · omega

end

namespace MetricReading

def sampleKey (r : MetricReading) : String × String × String := (r.eventId, r.streamKey, r.fieldPath)

theorem nodup_stamps {readings : List MetricReading} (h : (readings.map sampleKey).Nodup)
    {stream field : String} (hmetric : ∀ r ∈ readings, r.streamKey = stream ∧ r.fieldPath = field) :
    ((readings.map stamped).map Prod.fst).Nodup := by
  rw [map_map]
  refine pairwise_map.mpr ((pairwise_map.mp h).imp_of_mem ?_)
  intro r r' hr hr' hne heq
  obtain ⟨hstream, hfield⟩ := hmetric r hr
  obtain ⟨hstream', hfield'⟩ := hmetric r' hr'
  have hid : r.eventId = r'.eventId := congrArg (fun stamp : Stamp => (ofLex stamp).2) heq
  exact hne (by rw [sampleKey, sampleKey, hid, hstream, hfield, hstream', hfield'])

end MetricReading

namespace EventSystem

variable {p : Platform} {sys : EventSystem} {r : MetricReading}

theorem mem_readings_iff : r ∈ sys.readings ↔
    ∃ x ∈ sys.recorded, ∃ d c, sys.store.device? x.1 x.2.deviceId = some d ∧
      sys.store.contract? x.1 x.2.deviceId x.2.contractId = some c ∧
      ∃ m ∈ x.2.metrics, ∃ value, m.value.number? = some value ∧
        r = ⟨x.1, d.id, d.name, c.blueprintRevisionId, m.streamKey, m.fieldPath, occurred x,
          x.2.eventId, value⟩ := by
  rw [readings, mem_flatMap]
  refine exists_congr fun x => and_congr_right fun _ => ?_
  constructor
  · intro hr
    unfold readingsOf at hr
    split at hr
    next d c hd hc =>
      obtain ⟨m, hm, hr⟩ := mem_flatMap.mp hr
      obtain ⟨value, hvalue, rfl⟩ := mem_map.mp hr
      exact ⟨d, c, hd, hc, m, hm, value, Option.mem_toList.mp hvalue, rfl⟩
    next => cases hr
  · rintro ⟨d, c, hd, hc, m, hm, value, hvalue, rfl⟩
    rw [readingsOf_eq hd hc]
    exact mem_flatMap.mpr ⟨m, hm, mem_map.mpr ⟨value, by simp [hvalue], rfl⟩⟩

theorem sampleKey_of_mem_readingsOf {s : Store} {x : String × RecordDeviceEvent}
    {k : String × String × String} (h : k ∈ (s.readingsOf x.1 x.2).map sampleKey) :
    k.1 = x.2.eventId := by
  obtain ⟨r, hr, rfl⟩ := mem_map.mp h
  unfold readingsOf at hr
  split at hr
  · obtain ⟨m, -, hr⟩ := mem_flatMap.mp hr
    obtain ⟨value, -, rfl⟩ := mem_map.mp hr
    rfl
  · cases hr

theorem nodup_readingsOf {s : Store} {x : String × RecordDeviceEvent}
    (h : (x.2.metrics.map fun m => (m.streamKey, m.fieldPath)).Nodup) :
    ((s.readingsOf x.1 x.2).map sampleKey).Nodup := by
  unfold readingsOf
  split
  next d c _ _ =>
    have hsub : ((x.2.metrics.flatMap fun m => m.value.number?.toList.map fun value =>
        (⟨x.1, d.id, d.name, c.blueprintRevisionId, m.streamKey, m.fieldPath,
          timestampMicros x.2.occurredAt, x.2.eventId, value⟩ : MetricReading)).map
          sampleKey).Sublist
        (x.2.metrics.map fun m => (x.2.eventId, m.streamKey, m.fieldPath)) := by
      induction x.2.metrics with
      | nil => exact List.Sublist.refl _
      | cons m metrics ih =>
        rw [flatMap_cons, map_append, map_cons]
        cases m.value.number? with
        | none => exact ih.trans (sublist_cons_self _ _)
        | some value => exact ih.cons_cons _
    refine List.Nodup.sublist hsub ?_
    have hmap := h.map (f := fun field : String × String => (x.2.eventId, field.1, field.2))
      (fun a b hab => by simpa [Prod.ext_iff] using hab)
    rwa [map_map] at hmap
  next => exact nodup_nil

/-- Above the rollup watermark no sample was recorded twice. -/
theorem Ledger.nodup_readings (h : Ledger sys) {q : MetricReading → Bool}
    (hq : ∀ r, q r → sys.store.retention.rollupRetainedSince ≤ r.occurredAt) :
    ((sys.readings.filter q).map sampleKey).Nodup := by
  have hlive : ((sys.readings.filter fun r =>
      sys.store.retention.rollupRetainedSince ≤ r.occurredAt).map sampleKey) =
      (sys.recorded.filter fun x => sys.store.retention.rollupRetainedSince ≤ occurred x).flatMap
        fun x => (sys.store.readingsOf x.1 x.2).map sampleKey := by
    rw [readings]
    induction sys.recorded with
    | nil => rfl
    | cons x recorded ih =>
      rw [flatMap_cons, filter_append, map_append, ih]
      by_cases hx : sys.store.retention.rollupRetainedSince ≤ occurred x
      · have hall : (sys.store.readingsOf x.1 x.2).filter (fun r =>
            sys.store.retention.rollupRetainedSince ≤ r.occurredAt) = sys.store.readingsOf x.1 x.2 := by
          refine filter_eq_self.mpr fun r hr => ?_
          rw [occurredAt_of_mem_readingsOf hr]
          exact decide_eq_true hx
        rw [hall, filter_cons_of_pos (by simpa using hx), flatMap_cons]
      · have hnone : (sys.store.readingsOf x.1 x.2).filter (fun r =>
            sys.store.retention.rollupRetainedSince ≤ r.occurredAt) = [] := by
          refine filter_eq_nil_iff.mpr fun r hr => ?_
          rw [occurredAt_of_mem_readingsOf hr, decide_eq_true_eq]
          exact hx
        rw [hnone, filter_cons_of_neg (by simpa using hx)]
        rfl
  have hnodup : ((sys.readings.filter fun r =>
      sys.store.retention.rollupRetainedSince ≤ r.occurredAt).map sampleKey).Nodup := by
    rw [hlive, nodup_flatMap]
    refine ⟨fun x hx => nodup_readingsOf (h.fields x (mem_of_mem_filter hx)), ?_⟩
    refine (pairwise_map.mp h.once).imp fun {x y} hne => ?_
    intro k hk hk'
    exact hne ((sampleKey_of_mem_readingsOf hk).symm.trans (sampleKey_of_mem_readingsOf hk'))
  refine hnodup.sublist (List.Sublist.map _ (monotone_filter_right _ fun r hr => ?_))
  exact decide_eq_true (hq r hr)

section

variable {x : String × RecordDeviceEvent} {m : DeviceMetricSample}

theorem joinSample_eq_some {s : Store} (hevent : x.2.eventRow x.1 ∈ s.events) :
    s.joinSample (x.2.sampleRow x.1 m) = some r ↔
      ∃ d c, s.device? x.1 x.2.deviceId = some d ∧
        s.contract? x.1 x.2.deviceId x.2.contractId = some c ∧
        ∃ value, m.value.number? = some value ∧
          r = ⟨x.1, d.id, d.name, c.blueprintRevisionId, m.streamKey, m.fieldPath, occurred x,
            x.2.eventId, value⟩ := by
  have hfind : s.events.find? x.2.eventId = some (x.2.eventRow x.1) :=
    Table.find?_eq_some.mpr ⟨hevent, rfl⟩
  have hjoin : (s.events.find? (x.2.sampleRow x.1 m).eventId).filter (fun e =>
      decide (e.tenantId = (x.2.sampleRow x.1 m).tenantId) &&
        decide (e.deviceId = (x.2.sampleRow x.1 m).deviceId)) = some (x.2.eventRow x.1) := by
    refine Option.filter_eq_some_iff.mpr ⟨hfind, ?_⟩
    simp [eventRow, sampleRow]
  simp only [joinSample, hjoin, Option.bind_eq_bind, Option.bind_eq_some_iff, Option.pure_def,
    Option.some.injEq, Option.bind_some]
  constructor
  · rintro ⟨d, hd, c, hc, value, hvalue, rfl⟩
    exact ⟨d, c, hd, hc, value, hvalue, rfl⟩
  · rintro ⟨d, c, hd, hc, value, hvalue, rfl⟩
    exact ⟨d, hd, c, hc, value, hvalue, rfl⟩

theorem Ledger.mem_readings (h : Ledger sys)
    (hr : r ∈ sys.store.samples.rows.filterMap sys.store.joinSample) : r ∈ sys.readings := by
  obtain ⟨row, hrow, hjoin⟩ := mem_filterMap.mp hr
  obtain ⟨x, hx, m, hm, rfl, hevent⟩ := h.sampled row hrow
  obtain ⟨d, c, hd, hc, value, hvalue, rfl⟩ := (joinSample_eq_some hevent).mp hjoin
  exact mem_readings_iff.mpr ⟨x, hx, d, c, hd, hc, m, hm, value, hvalue, rfl⟩

theorem Ledger.mem_joined (h : Ledger sys) (hr : r ∈ sys.readings)
    (hraw : sys.store.retention.rawRetainedSince ≤ r.occurredAt) :
    r ∈ sys.store.samples.rows.filterMap sys.store.joinSample := by
  obtain ⟨x, hx, d, c, hd, hc, m, hm, value, hvalue, rfl⟩ := mem_readings_iff.mp hr
  obtain ⟨hevent, hrows⟩ := h.kept x hx hraw
  exact mem_filterMap.mpr ⟨_, hrows m hm,
    (joinSample_eq_some hevent).mpr ⟨d, c, hd, hc, value, hvalue, rfl⟩⟩

theorem Ledger.nodup_joined (h : Ledger sys) :
    (sys.store.samples.rows.filterMap sys.store.joinSample).Nodup := by
  refine (Table.nodup_filterMap_iff _ _).mpr fun row hrow row' hrow' hsome heq => ?_
  obtain ⟨r, hr⟩ := Option.isSome_iff_exists.mp hsome
  obtain ⟨x, -, m, -, rfl, hevent⟩ := h.sampled row hrow
  obtain ⟨x', -, m', -, rfl, hevent'⟩ := h.sampled row' hrow'
  obtain ⟨d, c, -, -, value, -, rfl⟩ := (joinSample_eq_some hevent).mp hr
  obtain ⟨d', c', -, -, value', -, hreading⟩ := (joinSample_eq_some hevent').mp (heq.trans hr)
  simp only [MetricReading.mk.injEq] at hreading
  obtain ⟨-, -, -, -, hstream, hfield, -, hid, -⟩ := hreading
  refine sys.store.samples.eq_of_key_eq hrow' hrow ?_
  simp [sampleRow, hstream, hfield, hid]

/-- Above the raw watermark the joined samples are the recorded readings. -/
theorem Ledger.joined_perm (h : Ledger sys) {q : MetricReading → Bool}
    (hq : ∀ r, q r → sys.store.retention.rawRetainedSince ≤ r.occurredAt) :
    ((sys.store.samples.rows.filterMap sys.store.joinSample).filter q).Perm
      (sys.readings.filter q) := by
  have hnodup := h.nodup_readings fun r hr => h.watermarks.trans (hq r hr)
  rw [perm_ext_iff_of_nodup (h.nodup_joined.filter _) (List.Nodup.of_map _ hnodup)]
  intro r
  rw [mem_filter, mem_filter]
  constructor
  · rintro ⟨hr, hqr⟩
    exact ⟨h.mem_readings hr, hqr⟩
  · rintro ⟨hr, hqr⟩
    exact ⟨h.mem_joined hr (hq r hqr), hqr⟩

theorem Ledger.hasRevision (h : Ledger sys) (hr : r ∈ sys.readings) :
    sys.store.hasRevision r := by
  obtain ⟨x, hx, d, c, hd, hc, m, hm, value, hvalue, rfl⟩ := mem_readings_iff.mp hr
  obtain ⟨-, c', hc', hrevision⟩ := h.references x hx
  obtain rfl := Option.some.inj (hc.symm.trans hc')
  exact hrevision m hm value hvalue

end

def bucketOf (group : BucketKey × List MetricReading) : Option AnalyticsBucket :=
  (Summary.ofValues (group.2.map MetricReading.stamped)).map (AnalyticsBucket.ofSummary group.1)

theorem bucketOf_eq_none (k : BucketKey) (group : List MetricReading) :
    bucketOf (k, group) = none ↔ group = [] := by
  rw [bucketOf, Option.map_eq_none_iff, Summary.ofValues_eq_none, map_eq_nil_iff]

section

variable {tenant : String} {deviceIds : List String} {query : AnalyticsQuery}

theorem selectsReading_iff : query.selectsReading tenant deviceIds r ↔
    query.selects tenant deviceIds r.tenantId r.deviceId r.blueprintRevisionId r.streamKey
      r.fieldPath ∧ timestampMicros query.start ≤ r.occurredAt ∧
      r.occurredAt < timestampMicros query.stop := by
  simp only [AnalyticsQuery.selectsReading, Bool.and_eq_true, decide_eq_true_eq, and_assoc]

theorem metric_of_selects {tenantId deviceId blueprintRevisionId streamKey fieldPath : String}
    (h : query.selects tenant deviceIds tenantId deviceId blueprintRevisionId streamKey fieldPath =
      true) : streamKey = query.metric.streamKey ∧ fieldPath = query.metric.fieldPath := by
  simp only [selects, Bool.and_eq_true, decide_eq_true_eq] at h
  exact ⟨h.1.1.2, h.1.2⟩

theorem Ledger.nodup_stamps (h : Ledger sys)
    (hstart : sys.store.retention.rollupRetainedSince ≤ timestampMicros query.start)
    (q : MetricReading → Bool) :
    ((((sys.readings.filter (query.selectsReading tenant deviceIds)).filter q).map
      stamped).map Prod.fst).Nodup := by
  have hnodup := h.nodup_readings (q := query.selectsReading tenant deviceIds)
    fun r hr => hstart.trans (selectsReading_iff.mp hr).2.1
  have hmetric : ∀ r ∈ (sys.readings.filter (query.selectsReading tenant deviceIds)).filter q,
      r.streamKey = query.metric.streamKey ∧ r.fieldPath = query.metric.fieldPath := by
    intro r hr
    have hselects := (mem_filter.mp (mem_of_mem_filter hr)).2
    exact metric_of_selects (selectsReading_iff.mp hselects).1
  exact MetricReading.nodup_stamps (hnodup.sublist (filter_sublist.map _)) hmetric

theorem Ledger.metricSamplesQuery_eq (h : Ledger sys)
    (hstart : sys.store.retention.rawRetainedSince ≤ timestampMicros query.start) :
    sys.store.metricSamplesQuery tenant deviceIds query =
      (((groupBy (bucketKey query.bucketMicros)
        (sys.readings.filter (query.selectsReading tenant deviceIds))).map bucketOf).filterMap
          id).take (limitAfter query.maxRows) := by
  have hsame : (sys.store.samples.rows.filterMap sys.store.joinSample).filter (fun r =>
      query.selectsReading tenant deviceIds r && sys.store.hasRevision r) =
      (sys.store.samples.rows.filterMap sys.store.joinSample).filter
        (query.selectsReading tenant deviceIds) := by
    refine filter_congr fun r hr => ?_
    rw [h.hasRevision (h.mem_readings hr), Bool.and_true]
  have hperm := h.joined_perm (q := query.selectsReading tenant deviceIds)
    fun r hr => hstart.trans (selectsReading_iff.mp hr).2.1
  rw [metricSamplesQuery, hsame]
  refine congrArg (fun rows : List (Option AnalyticsBucket) =>
    (rows.filterMap id).take (limitAfter query.maxRows)) ?_
  refine groupBy_congr bucketOf_eq_none bucketOf_eq_none fun k => ?_
  refine congrArg (Option.map (AnalyticsBucket.ofSummary k)) ?_
  exact Summary.ofValues_perm ((hperm.filter _).map _) (h.nodup_stamps (h.watermarks.trans hstart) _)

end

section

variable {tenant : String} {deviceIds : List String} {query : AnalyticsQuery} {first last : ℤ}
  {k : BucketKey}

/-- What the range check grants a query with a window of full hours. -/
structure Covers (sys : EventSystem) (query : AnalyticsQuery) (first last : ℤ) : Prop extends
    IsWindow (timestampMicros query.start) (timestampMicros query.stop) first last where
  rollups : sys.store.retention.rollupRetainedSince ≤ timestampMicros query.start
  head : timestampMicros query.start = first ∨
    sys.store.retention.rawRetainedSince ≤ timestampMicros query.start
  tail : last = timestampMicros query.stop ∨ sys.store.retention.rawRetainedSince ≤ last

theorem Covers.raw_le (h : Covers sys query first last) {micros : ℤ}
    (hstart : timestampMicros query.start ≤ micros) (hstop : micros < timestampMicros query.stop)
    (houtside : ¬ (first ≤ micros ∧ micros < last)) :
    sys.store.retention.rawRetainedSince ≤ micros := by
  by_cases hfirst : first ≤ micros
  · have hlast : last ≤ micros := not_lt.mp fun hlt => houtside ⟨hfirst, hlt⟩
    rcases h.tail with htail | htail
    · exact absurd hstop (not_lt.mpr (htail ▸ hlast))
    · exact htail.trans hlast
  · rcases h.head with hhead | hhead
    · exact absurd (hhead ▸ hstart) hfirst
    · exact hhead.trans hstart

def within (first last : ℤ) (r : MetricReading) : Bool :=
  decide (first ≤ r.occurredAt) && decide (r.occurredAt < last)

theorem within_iff : within first last r ↔ first ≤ r.occurredAt ∧ r.occurredAt < last := by
  simp only [within, Bool.and_eq_true, decide_eq_true_eq]

def rollupsOf (sys : EventSystem) (tenant : String) (deviceIds : List String)
    (query : AnalyticsQuery) (first last : ℤ) (k : BucketKey) : List RollupRow :=
  (sys.store.rollups.rows.filter fun r =>
    query.selects tenant deviceIds r.tenantId r.deviceId r.blueprintRevisionId r.streamKey
      r.fieldPath && first ≤ r.bucketStart && r.bucketStart < last).filter fun r =>
        (sys.store.joinRollup query.bucketMicros r).any fun o => o.1 = k

theorem joinRollup_of_key {row : RollupRow} (hr : r ∈ sys.readings) (hkey : row.key = r.rollupKey)
    (hsize : 0 < query.bucketMicros) (hhours : 3600000000 ∣ query.bucketMicros) :
    sys.store.joinRollup query.bucketMicros row =
      some (r.bucketKey query.bucketMicros, row.summary) := by
  obtain ⟨x, hx, d, c, hd, hc, m, hm, value, hvalue, rfl⟩ := mem_readings_iff.mp hr
  simp only [key, rollupKey, Prod.mk.injEq] at hkey
  obtain ⟨htenant, hdevice, -, -, -, hstart⟩ := hkey
  have hrow : sys.store.device? row.tenantId row.deviceId = some d := by
    rw [htenant, hdevice, id_of_device? hd]
    exact hd
  simp only [joinRollup, hrow, Option.map_some, hstart, bucketKey,
    bucketFloor_hourStart hsize hhours]

/-- A live reading has its rollup in the bucket exactly if the query selects it,
inside the window, for this bucket. -/
theorem Ledger.rollupKey_mem (h : Ledger sys) (hcovers : Covers sys query first last)
    (hsize : 0 < query.bucketMicros) (hhours : 3600000000 ∣ query.bucketMicros)
    (hr : r ∈ sys.readings) :
    (r.rollupKey ∈ (rollupsOf sys tenant deviceIds query first last k).map key ∧
        sys.store.retention.rollupRetainedSince ≤ r.occurredAt) ↔
      query.selectsReading tenant deviceIds r ∧ within first last r ∧
        r.bucketKey query.bucketMicros = k := by
  have hbounds : first ≤ hourStart r.occurredAt ∧ hourStart r.occurredAt < last ↔
      first ≤ r.occurredAt ∧ r.occurredAt < last := by
    rw [le_hourStart_iff hcovers.first_dvd, hourStart_lt_iff hcovers.last_dvd]
  rw [selectsReading_iff, within_iff]
  constructor
  · rintro ⟨hmem, -⟩
    obtain ⟨row, hrow, hkey⟩ := mem_map.mp hmem
    obtain ⟨hrow, hbucket⟩ := mem_filter.mp hrow
    obtain ⟨-, hselects⟩ := mem_filter.mp hrow
    rw [joinRollup_of_key hr hkey hsize hhours] at hbucket
    simp only [key, rollupKey, Prod.mk.injEq] at hkey
    obtain ⟨htenant, hdevice, hrevision, hstream, hfield, hstart⟩ := hkey
    rw [htenant, hdevice, hrevision, hstream, hfield, hstart] at hselects
    simp only [Bool.and_eq_true, decide_eq_true_eq] at hselects
    have hwithin := hbounds.mp ⟨hselects.1.2, hselects.2⟩
    exact ⟨⟨hselects.1.1, hcovers.start_le.trans hwithin.1, hwithin.2.trans_le hcovers.le_stop⟩,
      hwithin, by simpa using hbucket⟩
  · rintro ⟨⟨hselects, hstart, -⟩, hwithin, hbucket⟩
    have hlive := hcovers.rollups.trans hstart
    obtain ⟨row, hrow, hkey⟩ := h.tallied.classes r.tallied
      (mem_map_of_mem (mem_filter.mpr ⟨hr, decide_eq_true hlive⟩))
    have hjoin := joinRollup_of_key hr hkey hsize hhours
    refine ⟨mem_map.mpr ⟨row, mem_filter.mpr ⟨mem_filter.mpr ⟨hrow, ?_⟩, ?_⟩, hkey⟩,
      hlive⟩
    · have hkey' : row.key = r.rollupKey := hkey
      simp only [key, rollupKey, Prod.mk.injEq] at hkey'
      obtain ⟨htenant, hdevice, hrevision, hstream, hfield, hstart⟩ := hkey'
      rw [htenant, hdevice, hrevision, hstream, hfield, hstart, hselects]
      simpa using hbounds.mpr hwithin
    · rw [hjoin]
      simpa using hbucket

def samplesOf (sys : EventSystem) (tenant : String) (deviceIds : List String)
    (query : AnalyticsQuery) (first last : ℤ) (k : BucketKey) : List MetricReading :=
  ((sys.store.samples.rows.filterMap sys.store.joinSample).filter fun r =>
    query.selectsReading tenant deviceIds r && !within first last r).filter fun r =>
      r.bucketKey query.bucketMicros = k

theorem map_filter_joinRollup (s : Store) (size : ℤ) (rows : List RollupRow) :
    ((rows.filterMap (s.joinRollup size)).filter fun o => o.1 = k).map Prod.snd =
      (rows.filter fun r => (s.joinRollup size r).any fun o => o.1 = k).map summary := by
  induction rows with
  | nil => rfl
  | cons row rows ih =>
    cases hdevice : s.device? row.tenantId row.deviceId with
    | none =>
      have hjoin : s.joinRollup size row = none := by rw [joinRollup, hdevice, Option.map_none]
      rw [filterMap_cons_none hjoin, filter_cons_of_neg (by simp [hjoin]), ih]
    | some d =>
      have hjoin : s.joinRollup size row =
          some (toLex (bucketFloor size row.bucketStart, toLex (d.name, d.id)), row.summary) := by
        rw [joinRollup, hdevice, Option.map_some]
      rw [filterMap_cons_some hjoin]
      by_cases hk : (toLex (bucketFloor size row.bucketStart, toLex (d.name, d.id)) : BucketKey) = k
      · rw [filter_cons_of_pos (by simpa using hk), filter_cons_of_pos (by simp [hjoin, hk]),
          map_cons, map_cons, ih]
      · rw [filter_cons_of_neg (by simpa using hk), filter_cons_of_neg (by simp [hjoin, hk]),
          ih]

def bucketRows (sys : EventSystem) (tenant : String) (deviceIds : List String)
    (query : AnalyticsQuery) (first last : ℤ) (k : BucketKey) : List (MetricReading ⊕ RollupRow) :=
  (samplesOf sys tenant deviceIds query first last k).map Sum.inl ++
    (rollupsOf sys tenant deviceIds query first last k).map Sum.inr

def rowSummary : MetricReading ⊕ RollupRow → Summary Stamp ℚ :=
  Sum.elim (fun r => .single r.stamp r.value) RollupRow.summary

theorem map_filter_observations :
    ((sys.store.observations tenant deviceIds query first last).filter fun o => o.1 = k).map Prod.snd =
      (bucketRows sys tenant deviceIds query first last k).map rowSummary := by
  rw [observations, filter_append, map_append, map_filter_joinRollup, bucketRows,
    map_append, map_map, map_map, filter_map, map_map]
  rfl

def rowValues (sys : EventSystem) : MetricReading ⊕ RollupRow → List (Stamp × ℚ) :=
  Sum.elim (fun r => [r.stamped]) fun row => valuesOf ((sys.readings.filter fun r =>
    sys.store.retention.rollupRetainedSince ≤ r.occurredAt).map MetricReading.tallied) row.key

theorem Ledger.rowSummary_of (h : Ledger sys) :
    ∀ i ∈ bucketRows sys tenant deviceIds query first last k,
      (rowSummary i).Of (rowValues sys i) := by
  intro i hi
  rcases mem_append.mp hi with hi | hi
  · obtain ⟨r, -, rfl⟩ := mem_map.mp hi
    exact Summary.of_single r.stamp r.value
  · obtain ⟨row, hrow, rfl⟩ := mem_map.mp hi
    exact h.tallied.rows row (mem_of_mem_filter (mem_of_mem_filter hrow))

/-- Samples outside the window and rollups inside it have every selected reading of
the bucket once. -/
theorem Ledger.rowValues_perm (h : Ledger sys) (hcovers : Covers sys query first last)
    (hsize : 0 < query.bucketMicros) (hhours : 3600000000 ∣ query.bucketMicros) :
    ((bucketRows sys tenant deviceIds query first last k).flatMap (rowValues sys)).Perm
      (((sys.readings.filter (query.selectsReading tenant deviceIds)).filter fun r =>
        r.bucketKey query.bucketMicros = k).map stamped) := by
  set bucket := (sys.readings.filter (query.selectsReading tenant deviceIds)).filter fun r =>
    r.bucketKey query.bucketMicros = k with hbucket
  have hraw : (samplesOf sys tenant deviceIds query first last k).Perm
      (bucket.filter fun r => !within first last r) := by
    have hperm := h.joined_perm (q := fun r =>
      query.selectsReading tenant deviceIds r && !within first last r) fun r hr => by
        rw [Bool.and_eq_true, Bool.not_eq_true', ← Bool.not_eq_true, within_iff,
          selectsReading_iff] at hr
        exact hcovers.raw_le hr.1.2.1 hr.1.2.2 hr.2
    refine (hperm.filter _).trans (List.Perm.of_eq ?_)
    rw [hbucket, filter_filter, filter_filter, filter_filter]
    refine filter_congr fun r _ => ?_
    cases query.selectsReading tenant deviceIds r <;> cases within first last r <;> simp
  have hkeys : ((rollupsOf sys tenant deviceIds query first last k).map key).Nodup :=
    sys.store.rollups.nodup.sublist ((filter_sublist.trans filter_sublist).map _)
  have hrollups : (((rollupsOf sys tenant deviceIds query first last k).map key).flatMap
      (valuesOf ((sys.readings.filter fun r =>
        sys.store.retention.rollupRetainedSince ≤ r.occurredAt).map MetricReading.tallied))).Perm
      ((bucket.filter (within first last)).map MetricReading.stamped) := by
    refine (flatMap_valuesOf_perm _ hkeys).trans (List.Perm.of_eq ?_)
    rw [hbucket, filter_map, map_map, filter_filter, filter_filter,
      filter_filter]
    refine congrArg (map stamped) (filter_congr fun r hr => ?_)
    have hiff : r.rollupKey ∈ (rollupsOf sys tenant deviceIds query first last k).map key ∧
        sys.store.retention.rollupRetainedSince ≤ r.occurredAt ↔ _ :=
      h.rollupKey_mem hcovers hsize hhours hr
    rw [Bool.eq_iff_iff]
    simp only [Function.comp_apply, Bool.and_eq_true, decide_eq_true_eq]
    refine hiff.trans ⟨?_, ?_⟩
    · rintro ⟨hselects, hwithin, hk⟩
      exact ⟨⟨hwithin, hk⟩, hselects⟩
    · rintro ⟨⟨hwithin, hk⟩, hselects⟩
      exact ⟨hselects, hwithin, hk⟩
  have hvalues : (bucketRows sys tenant deviceIds query first last k).flatMap (rowValues sys) =
      (samplesOf sys tenant deviceIds query first last k).map stamped ++
        ((rollupsOf sys tenant deviceIds query first last k).map key).flatMap
          (valuesOf ((sys.readings.filter fun r =>
            sys.store.retention.rollupRetainedSince ≤ r.occurredAt).map MetricReading.tallied)) := by
    rw [bucketRows, flatMap_append, flatMap_map, flatMap_map, flatMap_map,
      ← flatMap_pure_eq_map]
    rfl
  rw [hvalues]
  refine ((hraw.map _).append hrollups).trans ?_
  rw [← map_append]
  exact (perm_append_comm.trans (filter_append_perm (within first last) bucket)).map _

/-- A covered range is answered by rollups inside the window and samples outside. -/
theorem Ledger.metricRollupsQuery_eq (h : Ledger sys) (hcovers : Covers sys query first last)
    (hsize : 0 < query.bucketMicros) (hhours : 3600000000 ∣ query.bucketMicros) :
    sys.store.metricRollupsQuery tenant deviceIds query first last =
      (((groupBy (bucketKey query.bucketMicros)
        (sys.readings.filter (query.selectsReading tenant deviceIds))).map bucketOf).filterMap
          id).take (limitAfter query.maxRows) := by
  rw [metricRollupsQuery]
  refine congrArg (fun rows : List (Option AnalyticsBucket) =>
    (rows.filterMap id).take (limitAfter query.maxRows)) ?_
  refine groupBy_congr (fun k group => ?_) bucketOf_eq_none fun k => ?_
  · rw [Option.map_eq_none_iff, Summary.ofRows_eq_none, map_eq_nil_iff]
  · rw [map_filter_observations]
    refine congrArg (Option.map (AnalyticsBucket.ofSummary k)) ?_
    exact Summary.ofRows_eq_ofValues h.rowSummary_of (h.rowValues_perm hcovers hsize hhours)
      (h.nodup_stamps hcovers.rollups _)

end

section

variable {tenant : String} {deviceIds : List String} {query : AnalyticsQuery}

/-- The aggregates of `[start, stop)` over everything ever recorded, in buckets
counted from the epoch. -/
def directBuckets (sys : EventSystem) (tenant : String) (deviceIds : List String)
    (query : AnalyticsQuery) (start stop : ℤ) : List AnalyticsBucket :=
  let size := query.bucketSeconds * 1000000
  let selected := sys.readings.filter fun r =>
    query.selects tenant deviceIds r.tenantId r.deviceId r.blueprintRevisionId r.streamKey
      r.fieldPath && start ≤ datetime r.occurredAt && datetime r.occurredAt < stop
  let key (r : MetricReading) : BucketKey :=
    toLex (r.occurredAt / size * size, toLex (r.deviceName, r.deviceId))
  ((groupBy key selected).map bucketOf).filterMap id

theorem bucketMicros_of_allowed (h : query.bucketSeconds ∈ allowedBucketSeconds) :
    query.bucketMicros = query.bucketSeconds * 1000000 ∧ 0 < query.bucketSeconds ∧
      (3600 ≤ query.bucketSeconds → 3600 ∣ query.bucketSeconds) := by
  simp only [allowedBucketSeconds, mem_cons, not_mem_nil, or_false] at h
  rw [bucketMicros, i64Min, i64Max]
  omega

theorem directBuckets_eq (hbucket : query.bucketSeconds ∈ allowedBucketSeconds) {start stop : ℤ}
    (hstart : ∀ micros, timestampMicros query.start ≤ micros ↔ start ≤ datetime micros)
    (hstop : ∀ micros, timestampMicros query.stop ≤ micros ↔ stop ≤ datetime micros) :
    ((groupBy (bucketKey query.bucketMicros)
      (sys.readings.filter (query.selectsReading tenant deviceIds))).map bucketOf).filterMap id =
      sys.directBuckets tenant deviceIds query start stop := by
  obtain ⟨hmicros, hpos, -⟩ := bucketMicros_of_allowed hbucket
  have hkey : bucketKey query.bucketMicros = fun r : MetricReading =>
      (toLex (r.occurredAt / (query.bucketSeconds * 1000000) * (query.bucketSeconds * 1000000),
        toLex (r.deviceName, r.deviceId)) : BucketKey) := by
    funext r
    rw [bucketKey, hmicros, bucketFloor_eq (by omega)]
  have hselects : query.selectsReading tenant deviceIds = fun r : MetricReading =>
      query.selects tenant deviceIds r.tenantId r.deviceId r.blueprintRevisionId r.streamKey
        r.fieldPath && start ≤ datetime r.occurredAt && datetime r.occurredAt < stop := by
    funext r
    have hbefore : r.occurredAt < timestampMicros query.stop ↔ datetime r.occurredAt < stop := by
      rw [← not_le, hstop, not_le]
    simp only [selectsReading, hstart, hbefore]
  rw [directBuckets, hkey, hselects]

theorem covers_of_retained {first last : ℤ}
    (hwindow : IsWindow (timestampMicros query.start) (timestampMicros query.stop) first last)
    (h : metricRangeRetained query.start query.stop (some (datetime first, datetime last))
      (datetime sys.store.retention.rawRetainedSince)
      (datetime sys.store.retention.rollupRetainedSince)) : Covers sys query first last := by
  simp only [metricRangeRetained, Bool.and_eq_true, Bool.or_eq_true, decide_eq_true_eq, ge_iff_le,
    datetime_le_iff, timestampMicros_datetime] at h
  obtain ⟨⟨hrollups, hhead⟩, htail⟩ := h
  refine ⟨hwindow, hrollups, hhead.imp_left fun heq => ?_, htail.imp_left fun heq => ?_⟩
  · rw [heq, timestampMicros_datetime]
  · rw [← heq, timestampMicros_datetime]

/-- Accepted queries aggregate everything ever recorded. -/
theorem Ledger.metricBuckets_eq (h : Ledger sys) {now : ℤ}
    (hbucket : query.bucketSeconds ∈ allowedBucketSeconds)
    (hretained : metricRangeRetained query.start query.stop (query.rollupWindow now)
      (datetime sys.store.retention.rawRetainedSince)
      (datetime sys.store.retention.rollupRetainedSince)) {start stop : ℤ}
    (hstart : ∀ micros, timestampMicros query.start ≤ micros ↔ start ≤ datetime micros)
    (hstop : ∀ micros, timestampMicros query.stop ≤ micros ↔ stop ≤ datetime micros) :
    sys.store.metricBuckets tenant deviceIds query (query.rollupWindow now) =
      (sys.directBuckets tenant deviceIds query start stop).take (limitAfter query.maxRows) := by
  rw [← directBuckets_eq hbucket hstart hstop]
  cases hwindow : query.rollupWindow now with
  | none =>
    rw [hwindow, metricRangeRetained, decide_eq_true_eq, ge_iff_le, datetime_le_iff] at hretained
    exact h.metricSamplesQuery_eq hretained
  | some window =>
    obtain ⟨fullStart, fullEnd⟩ := window
    obtain ⟨hmicros, hpos, hhours⟩ := bucketMicros_of_allowed hbucket
    unfold rollupWindow at hwindow
    split_ifs at hwindow with hlong
    obtain ⟨first, last, rfl, rfl, hfull, -⟩ := fullHourRollupWindow_eq_some hwindow
    have hwindow' : query.rollupWindow now = some (datetime first, datetime last) := by
      rw [rollupWindow, if_pos hlong, hwindow]
    rw [hwindow'] at hretained
    have hdvd : 3600000000 ∣ query.bucketMicros := by
      have := hhours hlong
      omega
    simp only [metricBuckets, timestampMicros_datetime]
    exact h.metricRollupsQuery_eq (covers_of_retained hfull hretained) (by omega) hdvd

theorem metricBuckets_nil (s : Store) (window : Option (ℤ × ℤ)) :
    s.metricBuckets tenant [] query window = [] := by
  have hselects : ∀ r, query.selectsReading tenant [] r = false := by
    simp [selectsReading, selects]
  cases window with
  | none => simp [metricBuckets, metricSamplesQuery, hselects, groupBy, orderBy]
  | some window =>
    simp [metricBuckets, metricRollupsQuery, observations, hselects,
      selects, groupBy, orderBy]

theorem analyticsQuery_eq_ok {s : Store} {now : ℤ}
    (h : metricRangeRetained query.start query.stop (query.rollupWindow now)
      (datetime s.retention.rawRetainedSince) (datetime s.retention.rollupRetainedSince)) :
    ∃ data, s.analyticsQuery now tenant query = .ok data ∧
      (data.compatibleDevices ≤ query.maxDevices →
        data.buckets = s.metricBuckets tenant (data.devices.map AnalyticsDevice.id) query
          (query.rollupWindow now)) := by
  unfold analyticsQuery
  simp only [h, Bool.not_true, Bool.false_eq_true, if_false]
  split
  next hnone =>
    refine ⟨_, rfl, fun hdevices => ?_⟩
    simp only [Bool.or_eq_true, decide_eq_true_eq, not_lt.mpr hdevices, false_or,
      List.isEmpty_iff] at hnone
    rw [hnone, map_nil, metricBuckets_nil]
  next => exact ⟨_, rfl, fun _ => rfl⟩

/-- After any history of records and prunes, a query that the range check accepts
returns the aggregates over all events ever recorded in its range, as if nothing had
been pruned. With the bounds that the service derives from a request, the range is
the requested one. Selections of too many devices are answered without buckets. -/
theorem query_exact {store : Store} (hstore : Unrecorded store) {steps : List EventStep}
    {t : EventSystem} (hrun : (machine p).Run (start store) steps t) (now : ℤ)
    (hbucket : query.bucketSeconds ∈ allowedBucketSeconds)
    (hretained : metricRangeRetained query.start query.stop (query.rollupWindow now)
      (datetime t.store.retention.rawRetainedSince)
      (datetime t.store.retention.rollupRetainedSince) = true) :
    ∃ data, t.store.analyticsQuery now tenant query = .ok data ∧
      (data.compatibleDevices ≤ query.maxDevices →
        data.buckets = (t.directBuckets tenant (data.devices.map AnalyticsDevice.id) query
          (datetime (timestampMicros query.start)) (datetime (timestampMicros query.stop))).take
            (limitAfter query.maxRows) ∧
        ∀ start stop, storageBound start = .ok query.start → storageBound stop = .ok query.stop →
          data.buckets = (t.directBuckets tenant (data.devices.map AnalyticsDevice.id) query start
            stop).take (limitAfter query.maxRows)) := by
  have hledger := ledger_of_run hstore hrun
  obtain ⟨data, hdata, hbuckets⟩ :
      ∃ data, t.store.analyticsQuery now tenant query = .ok data ∧ _ :=
    analyticsQuery_eq_ok hretained
  refine ⟨data, hdata, fun hdevices => ⟨?_, fun start stop hstart hstop => ?_⟩⟩
  · have hbound : ∀ instant micros : ℤ, timestampMicros instant ≤ micros ↔
        datetime (timestampMicros instant) ≤ datetime micros := by
      intro instant micros
      rw [datetime_le_iff, timestampMicros_datetime]
    exact (hbuckets hdevices).trans
      (hledger.metricBuckets_eq hbucket hretained (hbound query.start) (hbound query.stop))
  · exact (hbuckets hdevices).trans (hledger.metricBuckets_eq hbucket hretained
      (fun _ => storageBound_le_iff hstart) (fun _ => storageBound_le_iff hstop))

/-- Two readings of an hour, and a prune of their samples ten days later. -/
def measured : List EventStep :=
  [.record (fun _ => "") 0 "tenant" (reading "first" 0 20),
    .record (fun _ => "") 0 "tenant" (reading "second" 1800000000000 30),
    .prune 1 30 864000000000000]

def daily : AnalyticsQuery where
  scope := ⟨[], []⟩
  metric := ⟨"stream", "/temperature"⟩
  compatibleRevisionIds := ["revision"]
  start := 0
  stop := 86400000000000
  bucketSeconds := 86400
  maxDevices := 10
  maxRows := 10

theorem unrecorded_metered : Unrecorded metered := ⟨rfl, rfl, rfl, by decide, le_rfl⟩

theorem query_exact_daily :
    let t := measured.foldl (apply default) (start metered)
    t.store.samples.rows = [] ∧
      ∃ data, t.store.analyticsQuery 864000000000000 "tenant" daily = .ok data ∧
        data.buckets = [⟨"device", "Device", 0, 2, 25, 20, 30, 30⟩] ∧
        data.buckets = (t.directBuckets "tenant" ["device"] daily 0 86400000000000).take 11 := by
  intro t
  have hrun : (machine default).Run (start metered) measured t :=
    .cons trivial (.cons trivial (.cons trivial (.nil _)))
  have hvalue : t.store.analyticsQuery 864000000000000 "tenant" daily =
      .ok ⟨.blueprintMetricSamplesAndRollups, 1, 1, [⟨"device", "Device"⟩],
        [⟨"device", "Device", 0, 2, 25, 20, 30, 30⟩]⟩ := by decide +kernel
  obtain ⟨data, hdata, hbuckets⟩ :
      ∃ data, t.store.analyticsQuery 864000000000000 "tenant" daily = .ok data ∧ _ :=
    query_exact unrecorded_metered hrun 864000000000000 (by decide) (by decide)
  obtain rfl := Except.ok.inj (hvalue.symm.trans hdata)
  exact ⟨rfl, _, hdata, rfl, (hbuckets (by decide)).2 0 86400000000000 rfl rfl⟩

end

end EventSystem

end Extrittio
