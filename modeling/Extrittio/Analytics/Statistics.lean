import Extrittio.Analytics.Application
import Extrittio.Analytics.Exact

/-!
Statistics do not depend on the size of the buckets that they are computed from: those
of a device are those of its samples, and the sample-weighted mean of the fleet is the
mean of all samples.
-/
namespace Extrittio

open Relational List MetricReading Summary

def AnalyticsStats.ofSummary (summary : Summary Stamp ℚ) : AnalyticsStats where
  minimum := summary.least
  maximum := summary.greatest
  average := summary.total / summary.count
  latest := summary.latest
  sampleCount := summary.count

/-- The statistics of samples, without buckets: the latest is the last by time and event. -/
def directStats (readings : List MetricReading) : Option AnalyticsStats :=
  (Summary.ofValues (readings.map MetricReading.stamped)).map .ofSummary

namespace AnalyticsApplication

/-! The loop over the buckets of a device. -/

abbrev Row : Type := BucketKey × Summary Stamp ℚ

def Row.bucket (row : Row) : AnalyticsBucket := .ofSummary row.1 row.2

section

variable {rows : List Row} {tally : Tally}

theorem foldl_add_range (rows : List Row) (tally : Tally) :
    ((rows.map Row.bucket).foldl Tally.add tally).minimum =
      (rows.map fun row => row.2.least).foldl min tally.minimum ∧
    ((rows.map Row.bucket).foldl Tally.add tally).maximum =
      (rows.map fun row => row.2.greatest).foldl max tally.maximum := by
  induction rows generalizing tally with
  | nil => exact ⟨rfl, rfl⟩
  | cons row rows ih => exact ih (tally.add row.bucket)

theorem foldl_add_totals (hcount : ∀ row ∈ rows, row.2.count ≠ 0) (tally : Tally) :
    ((rows.map Row.bucket).foldl Tally.add tally).sampleCount =
      tally.sampleCount + (rows.map fun row => row.2.count).sum ∧
    ((rows.map Row.bucket).foldl Tally.add tally).weightedSum =
      tally.weightedSum + (rows.map fun row => row.2.total).sum := by
  induction rows generalizing tally with
  | nil => exact ⟨(add_zero _).symm, (add_zero _).symm⟩
  | cons row rows ih =>
    obtain ⟨hrow, hrows⟩ := forall_mem_cons.mp hcount
    obtain ⟨hsamples, hsum⟩ := ih hrows (tally.add row.bucket)
    have hadd : (tally.add row.bucket).weightedSum = tally.weightedSum + row.2.total := by
      have htotal : row.bucket.average * row.bucket.sampleCount = row.2.total :=
        div_mul_cancel₀ _ (Nat.cast_ne_zero.mpr hrow)
      rw [← htotal]
      rfl
    rw [hadd, add_assoc] at hsum
    exact ⟨hsamples.trans (add_assoc _ _ _), hsum⟩

theorem foldl_add_latest (buckets : List AnalyticsBucket) (tally : Tally) :
    ((buckets.foldl Tally.add tally).latestBucket = tally.latestBucket ∨
      (buckets.foldl Tally.add tally).latestBucket ∈ buckets) ∧
    tally.latestBucket.bucketStart ≤ (buckets.foldl Tally.add tally).latestBucket.bucketStart ∧
    ∀ bucket ∈ buckets,
      bucket.bucketStart ≤ (buckets.foldl Tally.add tally).latestBucket.bucketStart := by
  induction buckets generalizing tally with
  | nil => exact ⟨.inl rfl, le_rfl, nofun⟩
  | cons bucket buckets ih =>
    obtain ⟨hmem, hle, hall⟩ := ih (tally.add bucket)
    have hstep : (tally.add bucket).latestBucket = tally.latestBucket ∨
        (tally.add bucket).latestBucket = bucket := by
      simp only [Tally.add]
      split_ifs
      · exact .inr rfl
      · exact .inl rfl
    have hbounds : tally.latestBucket.bucketStart ≤ (tally.add bucket).latestBucket.bucketStart ∧
        bucket.bucketStart ≤ (tally.add bucket).latestBucket.bucketStart := by
      simp only [Tally.add]
      split_ifs with hlater
      · exact ⟨hlater.le, le_rfl⟩
      · exact ⟨le_rfl, not_lt.mp hlater⟩
    rw [foldl_cons]
    refine ⟨?_, hbounds.1.trans hle, forall_mem_cons.mpr ⟨hbounds.2.trans hle, hall⟩⟩
    rcases hmem with hmem | hmem
    · rw [hmem]
      exact hstep.imp_right fun heq => by rw [heq]; exact mem_cons_self
    · exact .inr (mem_cons_of_mem _ hmem)

theorem exists_latest (first : Row) (rest : List Row)
    (hstarts : ((first :: rest).map fun row => row.1.1).Nodup)
    (hlater : ∀ row ∈ first :: rest, ∀ other ∈ first :: rest,
      other.2.stamp ≤ row.2.stamp → other.1.1 ≤ row.1.1) :
    ∃ row ∈ first :: rest, (orderBy Summary.stamp ((first :: rest).map Prod.snd)).getLast? = some row.2 ∧
      (((first :: rest).map Row.bucket).foldl Tally.add
        ⟨first.2.least, first.2.greatest, 0, 0, first.bucket⟩).latestBucket = row.bucket := by
  obtain ⟨hlatest, -, hmax⟩ := foldl_add_latest ((first :: rest).map Row.bucket)
    ⟨first.2.least, first.2.greatest, 0, 0, first.bucket⟩
  set latest := (((first :: rest).map Row.bucket).foldl Tally.add
    ⟨first.2.least, first.2.greatest, 0, 0, first.bucket⟩).latestBucket
  obtain ⟨row, hrow, hbucket⟩ : ∃ row ∈ first :: rest, row.bucket = latest := by
    rcases hlatest with hfirst | hmem
    · exact ⟨first, mem_cons_self, hfirst.symm⟩
    · exact mem_map.mp hmem
  obtain ⟨last, hlast⟩ := exists_getLast?_orderBy Summary.stamp
    (show (first :: rest).map Prod.snd ≠ [] from nofun)
  obtain ⟨hmem, hstamp⟩ := getLast?_orderBy hlast
  obtain ⟨other, hother, rfl⟩ := mem_map.mp hmem
  have hle : row.1.1 ≤ other.1.1 := hlater other hother row hrow (hstamp _ (mem_map_of_mem hrow))
  have hge : other.1.1 ≤ row.1.1 := by
    have hstart := hmax _ (mem_map_of_mem hother)
    rw [← hbucket] at hstart
    simp only [Row.bucket, AnalyticsBucket.ofSummary, datetime] at hstart
    omega
  obtain rfl : row = other := inj_on_of_nodup_map hstarts hrow hother (le_antisymm hle hge)
  exact ⟨row, hrow, hlast, hbucket.symm⟩

/-- From buckets in which later samples come later, the loop computes the summary of
all of them. -/
theorem statsForBuckets_rows (hcount : ∀ row ∈ rows, row.2.count ≠ 0)
    (hstarts : (rows.map fun row => row.1.1).Nodup)
    (hlater : ∀ row ∈ rows, ∀ other ∈ rows, other.2.stamp ≤ row.2.stamp → other.1.1 ≤ row.1.1) :
    statsForBuckets (rows.map Row.bucket) =
      (ofRows (rows.map Prod.snd)).map .ofSummary := by
  cases rows with
  | nil => rfl
  | cons first rest =>
    obtain ⟨row, -, hlast, hlatest⟩ := exists_latest first rest hstarts hlater
    have hrange := foldl_add_range (first :: rest)
      ⟨first.2.least, first.2.greatest, 0, 0, first.bucket⟩
    have htotals := foldl_add_totals hcount ⟨first.2.least, first.2.greatest, 0, 0, first.bucket⟩
    -- the loop starts from the first bucket and then meets it again
    simp only [map_cons, foldl_cons, min_self, max_self] at hrange
    simp only [map_cons, foldl_cons, sum_cons, zero_add] at htotals hlatest
    have hpositive : max (first.2.count + (rest.map fun row => row.2.count).sum) 1 =
        first.2.count + (rest.map fun row => row.2.count).sum := by
      have hfirst := hcount first mem_cons_self
      omega
    have hstats : statsForBuckets ((first :: rest).map Row.bucket) = some
        ⟨(rest.map fun row => row.2.least).foldl min first.2.least,
          (rest.map fun row => row.2.greatest).foldl max first.2.greatest,
          (first.2.total + (rest.map fun row => row.2.total).sum) /
            (first.2.count + (rest.map fun row => row.2.count).sum : ℕ),
          row.2.latest, first.2.count + (rest.map fun row => row.2.count).sum⟩ := by
      generalize hloop : (rest.map Row.bucket).foldl Tally.add (Tally.add
        ⟨first.2.least, first.2.greatest, 0, 0, first.bucket⟩ first.bucket) = loop
        at hrange htotals hlatest
      have hunfold : statsForBuckets ((first :: rest).map Row.bucket) = some
          ⟨loop.minimum, loop.maximum, loop.weightedSum / (max loop.sampleCount 1 : ℕ),
            loop.latestBucket.latest, loop.sampleCount⟩ := by
        rw [← hloop]
        rfl
      rw [hunfold, hrange.1, hrange.2, htotals.1, htotals.2, hlatest, hpositive]
      rfl
    rw [hstats, ofRows, hlast]
    simp only [Option.bind_eq_bind, Option.bind_some, map_cons, map_map, List.min?_cons',
      List.max?_cons', sum_cons]
    rfl

end

end AnalyticsApplication

/-- Samples of one metric: no two of them at the same time from the same event, and a
device has one name. -/
structure SampleSet where
  readings : List MetricReading
  stamps : ((readings.map MetricReading.stamped).map Prod.fst).Nodup
  names : ∀ r ∈ readings, ∀ r' ∈ readings, r.deviceId = r'.deviceId → r.deviceName = r'.deviceName

namespace SampleSet

open AnalyticsApplication

variable (samples : SampleSet) (size : ℤ)

def ofDevice (device : String) : List MetricReading :=
  samples.readings.filter fun r => r.deviceId = device

def ofBucket (k : BucketKey) : List MetricReading :=
  samples.readings.filter fun r => r.bucketKey size = k

def rows : List Row :=
  (groupBy (MetricReading.bucketKey size) samples.readings).filterMap fun group =>
    (Summary.ofValues (group.2.map MetricReading.stamped)).map (Prod.mk group.1)

def buckets : List AnalyticsBucket :=
  ((groupBy (MetricReading.bucketKey size) samples.readings).map EventSystem.bucketOf).filterMap id

theorem buckets_eq : samples.buckets size = (samples.rows size).map Row.bucket := by
  rw [buckets, rows, filterMap_map, map_filterMap]
  refine filterMap_congr fun group _ => ?_
  rw [Option.map_map]
  rfl

variable {samples size} {row : Row}

theorem of_mem_rows (h : row ∈ samples.rows size) :
    row.2.Of ((samples.ofBucket size row.1).map stamped) := by
  obtain ⟨group, hgroup, hrow⟩ := mem_filterMap.mp h
  obtain ⟨k, -, rfl⟩ := mem_map.mp hgroup
  obtain ⟨summary, hsummary, rfl⟩ := Option.map_eq_some_iff.mp hrow
  exact of_ofValues hsummary

theorem exists_reading (h : row ∈ samples.rows size) :
    ∃ r ∈ samples.readings, r.bucketKey size = row.1 ∧ r.stamp = row.2.stamp := by
  obtain ⟨r, hr, hstamped⟩ := mem_map.mp (of_mem_rows h).latest.1
  obtain ⟨hmem, hkey⟩ := List.mem_filter.mp hr
  exact ⟨r, hmem, of_decide_eq_true hkey, (Prod.mk.inj hstamped).1⟩

theorem nodup_rows : ((samples.rows size).map Prod.fst).Nodup :=
  nodup_filterMap_groupBy fun k row hrow => by
    obtain ⟨summary, -, rfl⟩ := Option.map_eq_some_iff.mp hrow
    rfl

theorem exists_row {r : MetricReading} (h : r ∈ samples.readings) :
    ∃ row ∈ samples.rows size, row.1 = r.bucketKey size := by
  have hgroup : (r.bucketKey size, samples.ofBucket size (r.bucketKey size)) ∈
      groupBy (bucketKey size) samples.readings := by
    refine mem_map.mpr ⟨r.bucketKey size, mem_orderBy.mpr (mem_dedup.mpr ?_), rfl⟩
    exact mem_map_of_mem h
  cases hsummary : ofValues
      ((samples.ofBucket size (r.bucketKey size)).map stamped) with
  | none =>
    have hnil := map_eq_nil_iff.mp (ofValues_eq_none.mp hsummary)
    have hmem : r ∈ samples.ofBucket size (r.bucketKey size) :=
      List.mem_filter.mpr ⟨h, decide_eq_true rfl⟩
    rw [hnil] at hmem
    cases hmem
  | some summary =>
    refine ⟨(r.bucketKey size, summary), mem_filterMap.mpr ⟨_, hgroup, ?_⟩, rfl⟩
    rw [hsummary]
    rfl

theorem keys_perm : ((samples.rows size).map Prod.fst).Perm
    (samples.readings.map (bucketKey size)).dedup := by
  refine (perm_ext_iff_of_nodup nodup_rows (nodup_dedup _)).mpr fun k => ?_
  rw [mem_dedup, mem_map, mem_map]
  constructor
  · rintro ⟨row, hrow, rfl⟩
    obtain ⟨r, hr, hkey, -⟩ := exists_reading hrow
    exact ⟨r, hr, hkey⟩
  · rintro ⟨r, hr, rfl⟩
    exact exists_row hr

def rowsOf (samples : SampleSet) (size : ℤ) (device : String) : List Row :=
  (samples.rows size).filter fun row => row.1.2.2 = device

variable {device : String}

theorem mem_rowsOf : row ∈ samples.rowsOf size device ↔
    row ∈ samples.rows size ∧ row.1.2.2 = device := by
  rw [rowsOf, List.mem_filter, decide_eq_true_eq]

theorem nodup_rowsOf : ((samples.rowsOf size device).map Prod.fst).Nodup :=
  nodup_rows.sublist (filter_sublist.map _)

theorem rowsOf_perm (device : String) :
    ((samples.rowsOf size device).flatMap fun row =>
      (samples.ofBucket size row.1).map stamped).Perm
        ((samples.ofDevice device).map stamped) := by
  have hnodup : ((samples.rowsOf size device).map Prod.fst).Nodup := nodup_rowsOf
  have hperm := (flatMap_filter_perm (bucketKey size) samples.readings hnodup).map
    stamped
  rw [map_flatMap, flatMap_map] at hperm
  refine hperm.trans (List.Perm.of_eq ?_)
  refine congrArg (List.map stamped) (filter_congr fun r hr => ?_)
  have hiff : r.bucketKey size ∈ (samples.rowsOf size device).map Prod.fst ↔ r.deviceId = device := by
    constructor
    · intro hkey
      obtain ⟨row, hrow, heq⟩ := mem_map.mp hkey
      rw [← (mem_rowsOf.mp hrow).2, heq]
      rfl
    · rintro rfl
      obtain ⟨row, hrow, heq⟩ : ∃ row ∈ samples.rows size, row.1 = r.bucketKey size := exists_row hr
      exact mem_map.mpr ⟨row, mem_rowsOf.mpr ⟨hrow, by rw [heq]; rfl⟩, heq⟩
  exact decide_eq_decide.mpr hiff

theorem count_ne_zero (h : row ∈ samples.rows size) : row.2.count ≠ 0 := by
  have hof := of_mem_rows h
  rw [hof.count]
  exact length_pos_of_mem hof.latest.1 |>.ne'

theorem nodup_starts : ((samples.rowsOf size device).map fun row => row.1.1).Nodup := by
  have hpairs : (samples.rowsOf size device).Pairwise fun row row' => row.1 ≠ row'.1 :=
    pairwise_map.mp nodup_rowsOf
  refine pairwise_map.mpr (hpairs.imp_of_mem fun {row row'} hrow hrow' hne hstart => hne ?_)
  obtain ⟨hmem, hdevice⟩ := mem_rowsOf.mp hrow
  obtain ⟨hmem', hdevice'⟩ := mem_rowsOf.mp hrow'
  obtain ⟨r, hr, hkey, -⟩ := exists_reading hmem
  obtain ⟨r', hr', hkey', -⟩ := exists_reading hmem'
  rw [← hkey, ← hkey'] at hstart ⊢
  rw [← hkey] at hdevice
  rw [← hkey'] at hdevice'
  have hid : r.deviceId = r'.deviceId := hdevice.trans hdevice'.symm
  have hname := samples.names r hr r' hr' hid
  have hfloor : bucketFloor size r.occurredAt = bucketFloor size r'.occurredAt := hstart
  rw [bucketKey, bucketKey, hfloor, hname, hid]

theorem start_le_of_stamp_le (hsize : 0 < size) {other : Row} (hrow : row ∈ samples.rows size)
    (hother : other ∈ samples.rows size) (h : other.2.stamp ≤ row.2.stamp) :
    other.1.1 ≤ row.1.1 := by
  obtain ⟨r, -, hkey, hstamp⟩ := exists_reading hrow
  obtain ⟨r', -, hkey', hstamp'⟩ := exists_reading hother
  rw [← hstamp, ← hstamp'] at h
  have htimes : r'.occurredAt ≤ r.occurredAt := by
    rcases Prod.Lex.le_iff.mp h with hlt | ⟨heq, -⟩
    · exact hlt.le
    · exact heq.le
  have hfloor : bucketFloor size r'.occurredAt ≤ bucketFloor size r.occurredAt := by
    rw [bucketFloor_eq hsize, bucketFloor_eq hsize]
    exact mul_le_mul_of_nonneg_right (Int.ediv_le_ediv hsize htimes) hsize.le
  rw [← hkey, ← hkey']
  exact hfloor

/-- The statistics of a device are those of its samples. -/
theorem statsForBuckets_eq (hsize : 0 < size) (device : String) :
    statsForBuckets ((samples.buckets size).filter fun bucket => bucket.deviceId = device) =
      directStats (samples.ofDevice device) := by
  have hrows : (samples.buckets size).filter (fun bucket => bucket.deviceId = device) =
      (samples.rowsOf size device).map Row.bucket := by
    rw [buckets_eq, filter_map]
    rfl
  rw [hrows, statsForBuckets_rows]
  · rw [directStats]
    congr 1
    refine ofRows_eq_ofValues (fun row hrow => of_mem_rows (mem_rowsOf.mp hrow).1)
      (rowsOf_perm device) ?_
    exact samples.stamps.sublist ((filter_sublist.map _).map _)
  · exact fun row hrow => count_ne_zero (mem_rowsOf.mp hrow).1
  · exact nodup_starts
  · intro row hrow other hother
    exact start_le_of_stamp_le hsize (mem_rowsOf.mp hrow).1 (mem_rowsOf.mp hother).1

/-! The fleet. -/

section

variable {readings : List MetricReading} {stat : AnalyticsStats}

theorem directStats_eq_none : directStats readings = none ↔ readings = [] := by
  rw [directStats, Option.map_eq_none_iff, ofValues_eq_none, map_eq_nil_iff]

def total (readings : List MetricReading) : ℚ := (readings.map MetricReading.value).sum

theorem of_directStats (h : directStats readings = some stat) :
    stat.sampleCount = readings.length ∧ stat.average = total readings / readings.length ∧
      readings ≠ [] := by
  have hne : readings ≠ [] := fun hnil => by
    rw [directStats_eq_none.mpr hnil] at h
    cases h
  obtain ⟨summary, hsummary, rfl⟩ := Option.map_eq_some_iff.mp h
  have hof := of_ofValues hsummary
  have hcount : summary.count = readings.length := by rw [hof.count, length_map]
  have htotal : summary.total = total readings := by
    rw [hof.total, map_map]
    rfl
  refine ⟨hcount, ?_, hne⟩
  show summary.total / summary.count = _
  rw [htotal, hcount]

theorem sums_directStats (groups : List (List MetricReading)) :
    ((groups.filterMap directStats).map (·.sampleCount)).sum = groups.flatten.length ∧
    ((groups.filterMap directStats).map fun stat => stat.average * (stat.sampleCount : ℚ)).sum =
      total groups.flatten := by
  induction groups with
  | nil => exact ⟨rfl, rfl⟩
  | cons group groups ih =>
    obtain ⟨hcounts, htotals⟩ := ih
    have hsplit : total (group :: groups).flatten = total group + total groups.flatten := by
      rw [total, flatten_cons, map_append, sum_append]
      rfl
    rw [hsplit, flatten_cons, length_append]
    cases hstats : directStats group with
    | none =>
      rw [filterMap_cons_none hstats, directStats_eq_none.mp hstats, hcounts, htotals]
      exact ⟨(Nat.zero_add _).symm, (zero_add _).symm⟩
    | some stat =>
      obtain ⟨hcount, haverage, hne⟩ := of_directStats hstats
      have hlength : (group.length : ℚ) ≠ 0 :=
        Nat.cast_ne_zero.mpr (length_pos_iff.mpr hne).ne'
      rw [filterMap_cons_some hstats, map_cons, map_cons, sum_cons, sum_cons,
        hcounts, htotals, haverage, hcount, div_mul_cancel₀ _ hlength]
      exact ⟨rfl, rfl⟩

/-- The sample-weighted average of a fleet is that of all samples of its devices. -/
theorem fleetStats_average {devices : List AnalyticsDeviceStats} {groups : List (List MetricReading)}
    (h : devices.map (·.stats) = groups.map directStats) (hperm : groups.flatten.Perm readings) :
    (fleetStats devices .sample).map (·.average) = (directStats readings).map (·.average) := by
  have hstats : devices.filterMap (·.stats) = groups.filterMap directStats := by
    have hmaps := congrArg (List.filterMap id) h
    rwa [filterMap_map, filterMap_map] at hmaps
  obtain ⟨hcounts, htotals⟩ := sums_directStats groups
  have htotal : total groups.flatten = total readings := (hperm.map _).sum_eq
  rw [hperm.length_eq] at hcounts
  rw [htotal] at htotals
  cases hfound : groups.filterMap directStats with
  | nil =>
    rw [hfound] at hcounts
    have hnil : readings = [] := length_eq_zero_iff.mp hcounts.symm
    rw [directStats_eq_none.mpr hnil, fleetStats, hstats, hfound]
    rfl
  | cons first rest =>
    have hne : readings ≠ [] := by
      have hmem : first ∈ groups.filterMap directStats := hfound ▸ mem_cons_self
      obtain ⟨group, hgroup, hfirst⟩ := mem_filterMap.mp hmem
      obtain ⟨r, hr⟩ := exists_mem_of_ne_nil _ (of_directStats hfirst).2.2
      exact ne_nil_of_mem (hperm.mem_iff.mp (mem_flatten.mpr ⟨group, hgroup, hr⟩))
    obtain ⟨stat, hdirect⟩ := Option.ne_none_iff_exists'.mp (mt directStats_eq_none.mp hne)
    obtain ⟨-, haverage, -⟩ := of_directStats hdirect
    have hpositive : max readings.length 1 = readings.length :=
      max_eq_left (length_pos_iff.mpr hne)
    rw [hdirect, fleetStats, hstats]
    simp only [hcounts, htotals, hpositive, Option.map_map, Option.map_some]
    rw [hfound]
    simp [haverage]

end

theorem buildDeviceStats_eq (hsize : 0 < size) {data : AnalyticsQueryData}
    (hbuckets : data.buckets = samples.buckets size) (expectedBuckets : ℕ) :
    (buildDeviceStats data expectedBuckets).map (fun d => (d.deviceId, d.stats)) =
      data.devices.map fun d => (d.id, directStats (samples.ofDevice d.id)) := by
  rw [buildDeviceStats, map_map, hbuckets]
  refine map_congr_left fun device _ => ?_
  exact congrArg (Prod.mk device.id) (statsForBuckets_eq hsize device.id)

theorem ofDevice_perm {ids : List String} (hids : ids.Nodup)
    (hall : ∀ r ∈ samples.readings, r.deviceId ∈ ids) :
    (ids.map samples.ofDevice).flatten.Perm samples.readings := by
  refine (flatMap_filter_perm deviceId samples.readings hids).trans ?_
  rw [filter_eq_self.mpr fun r hr => decide_eq_true (hall r hr)]

theorem fleetStats_eq {data : AnalyticsQueryData} (hsize : 0 < size)
    (hbuckets : data.buckets = samples.buckets size) (hids : (data.devices.map (·.id)).Nodup)
    (hall : ∀ r ∈ samples.readings, r.deviceId ∈ data.devices.map (·.id)) (expectedBuckets : ℕ) :
    (fleetStats (buildDeviceStats data expectedBuckets) .sample).map (·.average) =
      (directStats samples.readings).map (·.average) := by
  have hstats := congrArg (List.map Prod.snd) (buildDeviceStats_eq hsize hbuckets expectedBuckets)
  rw [map_map, map_map] at hstats
  refine fleetStats_average ?_ (ofDevice_perm hids hall)
  rw [map_map, map_map]
  exact hstats

end SampleSet

namespace Store

variable {s : Store} {row : SampleRow} {r : MetricReading}

theorem of_joinSample (h : s.joinSample row = some r) :
    r.sampleKey = (row.eventId, row.streamKey, row.fieldPath) ∧
      ∃ d ∈ s.devices, d.id = r.deviceId ∧ d.name = r.deviceName := by
  simp only [joinSample, Option.bind_eq_bind, Option.bind_eq_some_iff, Option.pure_def,
    Option.some.injEq] at h
  obtain ⟨d, hd, e, -, c, -, value, -, rfl⟩ := h
  obtain ⟨hfind, -⟩ := Option.filter_eq_some_iff.mp hd
  exact ⟨rfl, d, (Table.find?_eq_some.mp hfind).1, rfl, rfl⟩

theorem names_of_devices (s : Store) {readings : List MetricReading}
    (h : ∀ r ∈ readings, ∃ d ∈ s.devices, d.id = r.deviceId ∧ d.name = r.deviceName) :
    ∀ r ∈ readings, ∀ r' ∈ readings, r.deviceId = r'.deviceId → r.deviceName = r'.deviceName := by
  intro r hr r' hr' hid
  obtain ⟨d, hd, hdevice, hname⟩ := h r hr
  obtain ⟨d', hd', hdevice', hname'⟩ := h r' hr'
  obtain rfl : d = d' := s.devices.eq_of_key_eq hd hd' (hdevice.trans (hid.trans hdevice'.symm))
  exact hname.symm.trans hname'

def sampleSet (s : Store) (tenant : String) (deviceIds : List String) (query : AnalyticsQuery) :
    SampleSet where
  readings := (s.samples.rows.filterMap s.joinSample).filter fun r =>
    query.selectsReading tenant deviceIds r && s.hasRevision r
  stamps := by
    have hkeys : ((s.samples.rows.filterMap s.joinSample).map MetricReading.sampleKey).Nodup :=
      s.samples.nodup.sublist (map_filterMap_sublist fun _ _ _ hjoin => (of_joinSample hjoin).1)
    have hmetric (r : MetricReading) (hr : r ∈ (s.samples.rows.filterMap s.joinSample).filter
        fun r => query.selectsReading tenant deviceIds r && s.hasRevision r) :
        r.streamKey = query.metric.streamKey ∧ r.fieldPath = query.metric.fieldPath := by
      obtain ⟨hselects, -⟩ := Bool.and_eq_true_iff.mp (List.mem_filter.mp hr).2
      exact EventSystem.metric_of_selects (EventSystem.selectsReading_iff.mp hselects).1
    exact MetricReading.nodup_stamps (hkeys.sublist (filter_sublist.map _)) hmetric
  names := by
    refine names_of_devices s fun r hr => ?_
    obtain ⟨row, -, hjoin⟩ := mem_filterMap.mp (mem_of_mem_filter hr)
    exact (of_joinSample hjoin).2

end Store

namespace AnalyticsApplication

theorem device_of_selects {query : AnalyticsQuery} {tenant : String} {deviceIds : List String}
    {tenantId deviceId blueprintRevisionId streamKey fieldPath : String}
    (h : query.selects tenant deviceIds tenantId deviceId blueprintRevisionId streamKey fieldPath =
      true) : deviceId ∈ deviceIds := by
  simp only [AnalyticsQuery.selects, Bool.and_eq_true, decide_eq_true_eq] at h
  exact h.1.1.1.2

def sampledStats (s : Store) (tenant : String) (devices : List AnalyticsDevice)
    (query : AnalyticsQuery) (expectedBuckets : ℕ) : List AnalyticsDeviceStats :=
  buildDeviceStats ⟨.blueprintMetricSamples, devices.length, devices.length, devices,
    s.metricSamplesQuery tenant (devices.map (·.id)) query⟩ expectedBuckets

theorem metricSamplesQuery_eq_buckets {s : Store} {tenant : String} {deviceIds : List String}
    {query : AnalyticsQuery}
    (hrows : (s.metricSamplesQuery tenant deviceIds query).length < limitAfter query.maxRows) :
    s.metricSamplesQuery tenant deviceIds query =
      (s.sampleSet tenant deviceIds query).buckets query.bucketMicros := by
  rw [Store.metricSamplesQuery, length_take] at hrows
  exact take_of_length_le (le_of_lt (by omega))

theorem bucketMicros_pos {query : AnalyticsQuery} (h : query.bucketSeconds ∈ allowedBucketSeconds) :
    0 < query.bucketMicros := by
  obtain ⟨hmicros, hpos, -⟩ := EventSystem.bucketMicros_of_allowed h
  omega

theorem sampledStats_eq {s : Store} {tenant : String} {devices : List AnalyticsDevice}
    {query : AnalyticsQuery} (hsize : query.bucketSeconds ∈ allowedBucketSeconds)
    (hrows : (s.metricSamplesQuery tenant (devices.map (·.id)) query).length <
      limitAfter query.maxRows) (expectedBuckets : ℕ) :
    (sampledStats s tenant devices query expectedBuckets).map (fun d => (d.deviceId, d.stats)) =
      devices.map fun d => (d.id, directStats
        ((s.sampleSet tenant (devices.map (·.id)) query).ofDevice d.id)) :=
  SampleSet.buildDeviceStats_eq (bucketMicros_pos hsize) (metricSamplesQuery_eq_buckets hrows)
    expectedBuckets

/-- Whatever the size of the buckets, the statistics of a device are those of its
samples, and the sample-weighted average of the fleet is the mean of all samples. -/
theorem statistics_of_samples (s : Store) (tenant : String) {devices : List AnalyticsDevice}
    (hdevices : (devices.map (·.id)).Nodup) (query : AnalyticsQuery) {size size' : ℤ}
    (hsize : size ∈ allowedBucketSeconds) (hsize' : size' ∈ allowedBucketSeconds)
    (hrows : (s.metricSamplesQuery tenant (devices.map (·.id))
      { query with bucketSeconds := size }).length < limitAfter query.maxRows)
    (hrows' : (s.metricSamplesQuery tenant (devices.map (·.id))
      { query with bucketSeconds := size' }).length < limitAfter query.maxRows)
    (expected expected' : ℕ) :
    let samples := s.sampleSet tenant (devices.map (·.id)) query
    let stats := sampledStats s tenant devices { query with bucketSeconds := size } expected
    let stats' := sampledStats s tenant devices { query with bucketSeconds := size' } expected'
    stats.map (fun d => (d.deviceId, d.stats)) = stats'.map (fun d => (d.deviceId, d.stats)) ∧
    stats.map (fun d => (d.deviceId, d.stats)) =
      devices.map (fun d => (d.id, directStats (samples.ofDevice d.id))) ∧
    (fleetStats stats .sample).map (·.average) = (directStats samples.readings).map (·.average) := by
  intro samples stats stats'
  have hstats : stats.map (fun d => (d.deviceId, d.stats)) =
      devices.map fun d => (d.id, directStats (samples.ofDevice d.id)) :=
    sampledStats_eq hsize hrows expected
  have hstats' : stats'.map (fun d => (d.deviceId, d.stats)) =
      devices.map fun d => (d.id, directStats (samples.ofDevice d.id)) :=
    sampledStats_eq hsize' hrows' expected'
  refine ⟨hstats.trans hstats'.symm, hstats, ?_⟩
  refine SampleSet.fleetStats_eq (bucketMicros_pos hsize) (metricSamplesQuery_eq_buckets hrows)
    hdevices (fun r hr => ?_) expected
  obtain ⟨hselects, -⟩ := Bool.and_eq_true_iff.mp (List.mem_filter.mp hr).2
  exact device_of_selects (EventSystem.selectsReading_iff.mp hselects).1

open EventSystem in
theorem statistics_of_samples_daily :
    let s := ((measured.take 2).foldl (apply default) (start metered)).store
    sampledStats s "tenant" [⟨"device", "Device"⟩] { daily with bucketSeconds := 60 } 1440 =
      [⟨"device", "Device", some ⟨20, 30, 25, 30, 2⟩, 5 / 36⟩] ∧
    (sampledStats s "tenant" [⟨"device", "Device"⟩] { daily with bucketSeconds := 60 } 1440).map
      (fun d => (d.deviceId, d.stats)) =
    (sampledStats s "tenant" [⟨"device", "Device"⟩] { daily with bucketSeconds := 86400 } 1).map
      (fun d => (d.deviceId, d.stats)) := by
  intro s
  refine ⟨by decide +kernel, ?_⟩
  exact (statistics_of_samples s "tenant" (by decide) daily (by decide) (by decide)
    (by decide +kernel) (by decide +kernel) 1440 1).1

end AnalyticsApplication

namespace Store

theorem of_analyticsQuery {s : Store} {now : ℤ} {tenant : String} {query : AnalyticsQuery}
    {data : AnalyticsQueryData} (h : s.analyticsQuery now tenant query = .ok data) :
    metricRangeRetained query.start query.stop (query.rollupWindow now)
      (datetime s.retention.rawRetainedSince) (datetime s.retention.rollupRetainedSince) := by
  unfold analyticsQuery at h
  simp only [Bool.not_eq_true'] at h
  split at h
  · cases h
  next hretained => simpa using hretained

end Store

end Extrittio
