import Extrittio.Analytics.Statistics
import Extrittio.Contract.Closure

/-!
The point budget of a series. The budget is checked on the length of the range, while
points are buckets counted from the epoch, so a range that is not aligned meets one
bucket more; and the automatic bucket stops at a day.
-/
namespace Extrittio

open Relational List BlueprintCompiler MetricReading AnalyticsBucket

/-- The number of buckets, counted from the epoch, that meet `[start, stop)`. -/
def touchedBuckets (size start stop : ℤ) : ℕ := ((stop - 1) / size + 1 - start / size).toNat

/-- Different bucket starts in a range are no more than the buckets that meet it. -/
theorem length_le_touchedBuckets {size start stop : ℤ} (hsize : 0 < size) {starts : List ℤ}
    (hnodup : starts.Nodup) (h : ∀ x ∈ starts, ∃ micros, start ≤ micros ∧ micros < stop ∧
      x = bucketFloor size micros) : starts.length ≤ touchedBuckets size start stop := by
  have hindex (x : ℤ) (hx : x ∈ starts) :
      x / size * size = x ∧ x / size ∈ Finset.Icc (start / size) ((stop - 1) / size) := by
    obtain ⟨micros, hstart, hstop, rfl⟩ := h x hx
    rw [bucketFloor_eq hsize, Int.mul_ediv_cancel _ hsize.ne']
    refine ⟨rfl, Finset.mem_Icc.mpr ⟨Int.ediv_le_ediv hsize hstart, ?_⟩⟩
    exact Int.ediv_le_ediv hsize (by omega)
  have hinj : (starts.map (· / size)).Nodup := by
    refine List.Nodup.map_on (fun x hx y hy heq => ?_) hnodup
    rw [← (hindex x hx).1, ← (hindex y hy).1, heq]
  calc starts.length
    _ = (starts.map (· / size)).toFinset.card := by
      rw [toFinset_card_of_nodup hinj, length_map]
    _ ≤ (Finset.Icc (start / size) ((stop - 1) / size)).card := by
      refine Finset.card_le_card fun k hk => ?_
      obtain ⟨x, hx, rfl⟩ := mem_map.mp (mem_toFinset.mp hk)
      exact (hindex x hx).2
    _ = touchedBuckets size start stop := Int.card_Icc _ _

/-! The buckets of an answer, from any store. -/

def AnalyticsBucket.key (b : AnalyticsBucket) : BucketKey :=
  toLex (timestampMicros b.bucketStart, toLex (b.deviceName, b.deviceId))

theorem AnalyticsBucket.key_ofSummary (k : BucketKey) (summary : Summary Stamp ℚ) :
    (ofSummary k summary).key = k := by
  rw [key, ofSummary, timestampMicros_datetime]
  rfl

namespace Store

variable {s : Store} {tenant : String} {deviceIds : List String} {query : AnalyticsQuery}

/-- A group of the query: a bucket that meets its range, and a stored device. -/
def Answers (s : Store) (query : AnalyticsQuery) (k : BucketKey) : Prop :=
  (∃ micros, timestampMicros query.start ≤ micros ∧ micros < timestampMicros query.stop ∧
    k.1 = bucketFloor query.bucketMicros micros) ∧
  ∃ d ∈ s.devices, d.id = k.2.2 ∧ d.name = k.2.1

/-- The buckets of an answer: groups of its query, each labelled with its start. -/
def Answered (s : Store) (query : AnalyticsQuery) (buckets : List AnalyticsBucket) : Prop :=
  (buckets.map AnalyticsBucket.key).Nodup ∧
    ∀ b ∈ buckets, b.bucketStart = datetime b.key.1 ∧ s.Answers query b.key

theorem keys_of_groupBy {ι : Type} (key : ι → BucketKey) (l : List ι)
    (f : List ι → Option (Summary Stamp ℚ)) :
    ((((groupBy key l).map fun group => (f group.2).map (AnalyticsBucket.ofSummary group.1)).filterMap
      id).map AnalyticsBucket.key).Nodup ∧
    ∀ b ∈ ((groupBy key l).map fun group =>
      (f group.2).map (ofSummary group.1)).filterMap id,
        b.bucketStart = datetime b.key.1 ∧ b.key ∈ l.map key := by
  rw [filterMap_map]
  constructor
  · refine nodup_filterMap_groupBy fun k b hb => ?_
    obtain ⟨summary, -, rfl⟩ := Option.map_eq_some_iff.mp hb
    exact key_ofSummary k summary
  · intro b hb
    obtain ⟨group, hgroup, hb⟩ := mem_filterMap.mp hb
    obtain ⟨k, hk, rfl⟩ := mem_map.mp hgroup
    obtain ⟨summary, -, rfl⟩ := Option.map_eq_some_iff.mp hb
    rw [key_ofSummary]
    exact ⟨rfl, mem_dedup.mp (mem_orderBy.mp hk)⟩

theorem answers_of_reading {r : MetricReading} (hjoined : r ∈ s.samples.rows.filterMap s.joinSample)
    (hselects : query.selectsReading tenant deviceIds r) :
    s.Answers query (r.bucketKey query.bucketMicros) := by
  obtain ⟨row, -, hjoin⟩ := mem_filterMap.mp hjoined
  obtain ⟨-, hstart, hstop⟩ := EventSystem.selectsReading_iff.mp hselects
  exact ⟨⟨r.occurredAt, hstart, hstop, rfl⟩, (of_joinSample hjoin).2⟩

variable {first last : ℤ} {entry : BucketKey × Summary Stamp ℚ}

theorem answers_of_rollup {row : RollupRow}
    (hwindow : IsWindow (timestampMicros query.start) (timestampMicros query.stop) first last)
    (hfirst : first ≤ row.bucketStart) (hlast : row.bucketStart < last)
    (hjoin : s.joinRollup query.bucketMicros row = some entry) : s.Answers query entry.1 := by
  obtain ⟨d, hd, rfl⟩ := Option.map_eq_some_iff.mp hjoin
  obtain ⟨hfind, -⟩ := Option.filter_eq_some_iff.mp hd
  refine ⟨⟨row.bucketStart, hwindow.start_le.trans hfirst, hlast.trans_le hwindow.le_stop, rfl⟩, ?_⟩
  exact ⟨d, (Table.find?_eq_some.mp hfind).1, rfl, rfl⟩

theorem answers_of_observation
    (hwindow : IsWindow (timestampMicros query.start) (timestampMicros query.stop) first last)
    (h : entry ∈ s.observations tenant deviceIds query first last) : s.Answers query entry.1 := by
  rcases mem_append.mp h with hraw | hrollup
  · obtain ⟨r, hr, rfl⟩ := mem_map.mp hraw
    obtain ⟨hjoined, hselects⟩ := mem_filter.mp hr
    exact answers_of_reading hjoined (Bool.and_eq_true_iff.mp hselects).1
  · obtain ⟨row, hrow, hjoin⟩ := mem_filterMap.mp hrollup
    obtain ⟨-, hselects⟩ := mem_filter.mp hrow
    simp only [Bool.and_eq_true, decide_eq_true_eq] at hselects
    exact answers_of_rollup hwindow hselects.1.2 hselects.2 hjoin

/-- Buckets of samples and of rollups alike are different groups of the query. -/
theorem answered_metricBuckets (s : Store) (tenant : String) (deviceIds : List String)
    (query : AnalyticsQuery) (now : ℤ) :
    s.Answered query (s.metricBuckets tenant deviceIds query (query.rollupWindow now)) := by
  cases hwindow : query.rollupWindow now with
  | none =>
    obtain ⟨hnodup, hmem⟩ := keys_of_groupBy (bucketKey query.bucketMicros)
      ((s.samples.rows.filterMap s.joinSample).filter fun r =>
        query.selectsReading tenant deviceIds r && s.hasRevision r)
      fun group => Summary.ofValues (group.map stamped)
    refine ⟨hnodup.sublist ((take_sublist _ _).map _), fun b hb => ?_⟩
    obtain ⟨hstart, hkey⟩ := hmem b (mem_of_mem_take hb)
    obtain ⟨r, hr, hkey⟩ := mem_map.mp hkey
    obtain ⟨hjoined, hselects⟩ := mem_filter.mp hr
    exact ⟨hstart, hkey ▸ answers_of_reading hjoined (Bool.and_eq_true_iff.mp hselects).1⟩
  | some window =>
    obtain ⟨fullStart, fullEnd⟩ := window
    unfold AnalyticsQuery.rollupWindow at hwindow
    split_ifs at hwindow
    obtain ⟨first, last, rfl, rfl, hfull, -⟩ := fullHourRollupWindow_eq_some hwindow
    obtain ⟨hnodup, hmem⟩ := keys_of_groupBy Prod.fst
      (s.observations tenant deviceIds query first last) fun group =>
        Summary.ofRows (group.map Prod.snd)
    simp only [Answered, metricBuckets, timestampMicros_datetime]
    refine ⟨hnodup.sublist ((take_sublist _ _).map _), fun b hb => ?_⟩
    obtain ⟨hstart, hkey⟩ := hmem b (mem_of_mem_take hb)
    obtain ⟨entry, hentry, hkey⟩ := mem_map.mp hkey
    exact ⟨hstart, hkey ▸ answers_of_observation hfull hentry⟩

theorem answered_of_analyticsQuery {now : ℤ} {data : AnalyticsQueryData}
    (h : s.analyticsQuery now tenant query = .ok data)
    (hdevices : data.compatibleDevices ≤ query.maxDevices) : s.Answered query data.buckets := by
  obtain ⟨found, hfound, hbuckets⟩ :
      ∃ found, s.analyticsQuery now tenant query = .ok found ∧ _ :=
    EventSystem.analyticsQuery_eq_ok (of_analyticsQuery h)
  obtain rfl := Except.ok.inj (hfound.symm.trans h)
  rw [hbuckets hdevices]
  exact answered_metricBuckets s tenant _ query now

end Store

namespace AnalyticsApplication

/-! How many points the series have. -/

section

variable {buckets : List AnalyticsBucket} {series : AnalyticsSeries} {latestOnly : Bool}

theorem length_latestPoint (buckets : List AnalyticsBucket) :
    (devicePoints true buckets).length ≤ 1 := by
  rw [devicePoints, if_pos rfl]
  cases buckets.getLast? <;> simp

theorem points_deviceSeries (latestOnly : Bool) (buckets : List AnalyticsBucket) :
    (deviceSeries latestOnly buckets).map (·.points) =
      if buckets = [] then none
      else some (devicePoints latestOnly (orderBy (·.bucketStart) buckets)) := by
  have hperm := orderBy_perm (fun b : AnalyticsBucket => b.bucketStart) buckets
  cases hsorted : orderBy (fun b : AnalyticsBucket => b.bucketStart) buckets with
  | nil =>
    rw [hsorted] at hperm
    rw [if_pos hperm.symm.eq_nil, deviceSeries, hsorted]
    rfl
  | cons first rest =>
    have hne : buckets ≠ [] := by
      rintro rfl
      cases hsorted
    rw [if_neg hne, deviceSeries, hsorted]
    rfl

theorem of_deviceSeries (h : deviceSeries latestOnly buckets = some series) :
    buckets ≠ [] ∧ series.points = devicePoints latestOnly (orderBy (·.bucketStart) buckets) := by
  have hpoints := points_deviceSeries latestOnly buckets
  rw [h, Option.map_some] at hpoints
  split_ifs at hpoints with hnil
  exact ⟨hnil, Option.some.inj hpoints⟩

theorem mem_perDeviceSeries : series ∈ perDeviceSeries buckets latestOnly ↔
    ∃ device, deviceSeries latestOnly (buckets.filter fun b => b.deviceId = device) = some series := by
  simp only [perDeviceSeries, mem_orderBy, mem_filterMap, groupBy, mem_map,
    mem_dedup]
  constructor
  · rintro ⟨group, ⟨device, -, rfl⟩, hseries⟩
    exact ⟨device, hseries⟩
  · rintro ⟨device, hseries⟩
    refine ⟨_, ⟨device, ?_, rfl⟩, hseries⟩
    obtain ⟨b, hb⟩ := exists_mem_of_ne_nil _ (of_deviceSeries hseries).1
    obtain ⟨hmem, hdevice⟩ := List.mem_filter.mp hb
    exact ⟨b, hmem, of_decide_eq_true hdevice⟩

variable {groups : List (ℤ × List AnalyticsBucket)} {weighting : AnalyticsWeighting}
  {mode : AnalyticsSeriesMode}

theorem points_aggregateSeries {id label : String} {kind : AnalyticsSeriesKind}
    (h : aggregateSeries id label kind groups weighting = some series) :
    series.points.length = groups.length := by
  obtain ⟨first, -, rfl⟩ := Option.map_eq_some_iff.mp h
  exact length_map _

theorem exists_aggregateSeries (id label : String) (kind : AnalyticsSeriesKind)
    (weighting : AnalyticsWeighting) (h : groups ≠ []) :
    ∃ series, aggregateSeries id label kind groups weighting = some series := by
  cases groups with
  | nil => exact absurd rfl h
  | cons group groups => exact ⟨_, rfl⟩

theorem length_latestRanking
    (h : series ∈ buildSeries .latestRanking weighting buckets) : series.points.length ≤ 1 := by
  obtain ⟨device, hseries⟩ := mem_perDeviceSeries.mp h
  rw [(of_deviceSeries hseries).2]
  exact length_latestPoint _

/-- The number of points of a series: the buckets of a device, or all bucket starts. -/
theorem length_points (hmode : mode ≠ .latestRanking)
    (h : series ∈ buildSeries mode weighting buckets) :
    (∃ device, series.points.length = (buckets.filter fun b => b.deviceId = device).length) ∨
      series.points.length = (groupByTime buckets).length := by
  cases mode with
  | perDevice =>
    obtain ⟨device, hseries⟩ := mem_perDeviceSeries.mp h
    refine .inl ⟨device, ?_⟩
    rw [(of_deviceSeries hseries).2, devicePoints, if_neg Bool.false_ne_true, length_map,
      (orderBy_perm _ _).length_eq]
  | fleetMean => exact .inr (points_aggregateSeries (Option.mem_toList.mp h))
  | meanAndRange =>
    obtain ⟨aggregate, haggregate, hseries⟩ := mem_filterMap.mp h
    obtain rfl : aggregate = some series := hseries
    simp only [mem_cons, not_mem_nil, or_false] at haggregate
    rcases haggregate with heq | heq | heq <;> exact .inr (points_aggregateSeries heq.symm)
  | latestRanking => exact absurd rfl hmode

/-- The buckets of one device are the points of a series of every mode that shows all of
them. -/
theorem exists_series {device : String} (hdevice : ∀ b ∈ buckets, b.deviceId = device)
    (hstarts : (buckets.map (·.bucketStart)).Nodup) (hne : buckets ≠ [])
    (hmode : mode ≠ .latestRanking) (weighting : AnalyticsWeighting) :
    ∃ series ∈ buildSeries mode weighting buckets, series.points.length = buckets.length := by
  have hlength : (groupByTime buckets).length = buckets.length := by
    rw [groupByTime, groupBy, length_map, (orderBy_perm id _).length_eq, hstarts.dedup,
      length_map]
  have hgroups : groupByTime buckets ≠ [] := by
    rw [← length_pos_iff, hlength]
    exact length_pos_iff.mpr hne
  obtain ⟨mean, hmean⟩ := exists_aggregateSeries "fleet-mean" "Fleet mean" .mean weighting hgroups
  cases mode with
  | perDevice =>
    have hfilter : (buckets.filter fun b => b.deviceId = device) = buckets :=
      filter_eq_self.mpr fun b hb => decide_eq_true (hdevice b hb)
    have hpoints := points_deviceSeries false buckets
    rw [if_neg hne, Option.map_eq_some_iff] at hpoints
    obtain ⟨series, hseries, hpoints⟩ := hpoints
    refine ⟨series, mem_perDeviceSeries.mpr ⟨device, by rw [hfilter, hseries]⟩, ?_⟩
    rw [hpoints, devicePoints, if_neg Bool.false_ne_true, length_map,
      (orderBy_perm _ _).length_eq]
  | fleetMean =>
    refine ⟨mean, Option.mem_toList.mpr hmean, ?_⟩
    rw [points_aggregateSeries hmean, hlength]
  | meanAndRange =>
    refine ⟨mean, mem_filterMap.mpr ⟨some mean, ?_, rfl⟩, ?_⟩
    · rw [← hmean]
      exact .tail _ (.tail _ (.head _))
    · rw [points_aggregateSeries hmean, hlength]
  | latestRanking => exact absurd rfl hmode

end

section

variable {s : Store} {planned : AnalyticsQuery} {buckets : List AnalyticsBucket}

theorem length_device_le (hsize : 0 < planned.bucketMicros) (h : s.Answered planned buckets)
    (device : String) : (buckets.filter fun b => b.deviceId = device).length ≤
      touchedBuckets planned.bucketMicros (timestampMicros planned.start)
        (timestampMicros planned.stop) := by
  obtain ⟨hkeys, hanswers⟩ := h
  have hnodup : ((buckets.filter fun b => b.deviceId = device).map fun b => b.key.1).Nodup := by
    have hpairs : (buckets.filter fun b => b.deviceId = device).Pairwise fun b b' =>
        b.key ≠ b'.key := (pairwise_map.mp hkeys).sublist filter_sublist
    refine pairwise_map.mpr (hpairs.imp_of_mem fun {b b'} hb hb' hne hstart => hne ?_)
    obtain ⟨hmem, hdevice⟩ := mem_filter.mp hb
    obtain ⟨hmem', hdevice'⟩ := mem_filter.mp hb'
    obtain ⟨-, -, d, hd, hid, hname⟩ := hanswers b hmem
    obtain ⟨-, -, d', hd', hid', hname'⟩ := hanswers b' hmem'
    have hsame : b.deviceId = b'.deviceId :=
      (of_decide_eq_true hdevice).trans (of_decide_eq_true hdevice').symm
    obtain rfl : d = d' := s.devices.eq_of_key_eq hd hd' (hid.trans (hsame.trans hid'.symm))
    have hnames : b.deviceName = b'.deviceName := hname.symm.trans hname'
    have hstarts : timestampMicros b.bucketStart = timestampMicros b'.bucketStart := hstart
    rw [key, key, hstarts, hnames, hsame]
  rw [← length_map (fun b : AnalyticsBucket => b.key.1)]
  refine length_le_touchedBuckets hsize hnodup fun x hx => ?_
  obtain ⟨b, hb, rfl⟩ := mem_map.mp hx
  exact (hanswers b (mem_of_mem_filter hb)).2.1

theorem length_groups_le (hsize : 0 < planned.bucketMicros) (h : s.Answered planned buckets) :
    (groupByTime buckets).length ≤ touchedBuckets planned.bucketMicros
      (timestampMicros planned.start) (timestampMicros planned.stop) := by
  obtain ⟨-, hanswers⟩ := h
  set starts := (orderBy id (buckets.map (·.bucketStart)).dedup).map timestampMicros with hstarts
  have hbucket (x : ℤ) (hx : x ∈ orderBy id (buckets.map (·.bucketStart)).dedup) :
      ∃ b ∈ buckets, x = datetime b.key.1 := by
    obtain ⟨b, hb, rfl⟩ := mem_map.mp (mem_dedup.mp (mem_orderBy.mp hx))
    exact ⟨b, hb, (hanswers b hb).1⟩
  have hnodup : starts.Nodup := by
    refine List.Nodup.map_on (fun x hx y hy heq => ?_)
      ((orderBy_perm id _).nodup_iff.mpr (nodup_dedup _))
    obtain ⟨b, -, rfl⟩ := hbucket x hx
    obtain ⟨b', -, rfl⟩ := hbucket y hy
    rw [timestampMicros_datetime, timestampMicros_datetime] at heq
    rw [heq]
  have hlength : (groupByTime buckets).length = starts.length := by
    rw [groupByTime, groupBy, length_map, hstarts, length_map]
  rw [hlength]
  refine length_le_touchedBuckets hsize hnodup fun x hx => ?_
  obtain ⟨y, hy, rfl⟩ := mem_map.mp hx
  obtain ⟨b, hb, rfl⟩ := hbucket y hy
  rw [timestampMicros_datetime]
  exact (hanswers b hb).2.1

/-- No series has more points than buckets meet the range. -/
theorem length_points_le (hsize : 0 < planned.bucketMicros) (h : s.Answered planned buckets)
    {mode : AnalyticsSeriesMode} (hmode : mode ≠ .latestRanking) {weighting : AnalyticsWeighting}
    {series : AnalyticsSeries} (hseries : series ∈ buildSeries mode weighting buckets) :
    series.points.length ≤ touchedBuckets planned.bucketMicros (timestampMicros planned.start)
      (timestampMicros planned.stop) := by
  rcases length_points hmode hseries with ⟨device, heq⟩ | heq
  · exact heq.le.trans (length_device_le hsize h device)
  · exact heq.le.trans (length_groups_le hsize h)

end

/-! A store with a sample in each of the first buckets that meet a range. -/

section

def crowdedId (i : ℕ) : String := String.ofList (List.replicate i 'e')

theorem crowdedId_injective : Function.Injective crowdedId := by
  intro i j h
  have hlength := congrArg length (String.ofList_injective h)
  simpa using hlength

variable (planned : AnalyticsQuery) (revision : String) (n : ℕ)

def crowdedDevice : DeviceRow :=
  ⟨planned.scope.deviceIds.headD "device", "tenant", "Device", planned.scope.fleetIds.head?⟩

/-- The first instant of the range in its `i`-th bucket. -/
def crowdedTime (i : ℕ) : ℤ :=
  max (timestampMicros planned.start)
    ((timestampMicros planned.start / planned.bucketMicros + i) * planned.bucketMicros)

def crowdedKey (i : ℕ) : BucketKey :=
  toLex ((timestampMicros planned.start / planned.bucketMicros + i) * planned.bucketMicros,
    toLex ("Device", (crowdedDevice planned).id))

def crowdedContract : ContractRow :=
  ⟨"contract", "tenant", (crowdedDevice planned).id, revision, .null, "hash"⟩

def crowdedEvent (i : ℕ) : EventRow :=
  ⟨crowdedId i, "tenant", (crowdedDevice planned).id, "contract", "telemetry", crowdedTime planned i,
    crowdedTime planned i, .object []⟩

def crowdedSample (i : ℕ) : SampleRow :=
  ⟨crowdedId i, "tenant", (crowdedDevice planned).id, planned.metric.streamKey,
    planned.metric.fieldPath, .float64 0, crowdedTime planned i⟩

def crowdedReading (i : ℕ) : MetricReading :=
  ⟨"tenant", (crowdedDevice planned).id, "Device", revision, planned.metric.streamKey,
    planned.metric.fieldPath, crowdedTime planned i, crowdedId i, 0⟩

def crowded : Store :=
  { Store.empty with
    devices := ⟨[crowdedDevice planned], nodup_singleton _⟩
    revisions := ⟨[⟨revision, "tenant", "blueprint"⟩], nodup_singleton _⟩
    contracts := ⟨[crowdedContract planned revision], nodup_singleton _⟩
    assignments := ⟨[⟨"tenant", (crowdedDevice planned).id, "contract", none, .pending, none, none, 0⟩],
      nodup_singleton _⟩
    retention := ⟨timestampMicros planned.start, timestampMicros planned.start⟩
    events := ⟨(List.range n).map (crowdedEvent planned), by
      rw [map_map]
      exact nodup_range.map crowdedId_injective⟩
    samples := ⟨(List.range n).map (crowdedSample planned), by
      rw [map_map]
      exact nodup_range.map fun i j h => crowdedId_injective (Prod.mk.inj h).1⟩ }

variable {planned revision n}

theorem contract_crowded : (crowded planned revision n).contract? "tenant" (crowdedDevice planned).id
    "contract" = some (crowdedContract planned revision) := by
  refine Option.filter_eq_some_iff.mpr ⟨Table.find?_eq_some.mpr ⟨mem_singleton_self _, rfl⟩, ?_⟩
  simp [crowdedContract]

theorem joinSample_crowded {i : ℕ} (hi : i < n) :
    (crowded planned revision n).joinSample (crowdedSample planned i) =
      some (crowdedReading planned revision i) := by
  have hdevice : (crowded planned revision n).device? "tenant" (crowdedDevice planned).id =
      some (crowdedDevice planned) := by
    refine Option.filter_eq_some_iff.mpr ⟨Table.find?_eq_some.mpr ⟨?_, rfl⟩, rfl⟩
    exact mem_singleton_self _
  have hevent : (crowded planned revision n).events.find? (crowdedId i) =
      some (crowdedEvent planned i) := by
    refine Table.find?_eq_some.mpr ⟨?_, rfl⟩
    have hmem : crowdedEvent planned i ∈ (List.range n).map (crowdedEvent planned) :=
      mem_map_of_mem (mem_range.mpr hi)
    exact hmem
  simp only [Store.joinSample, Option.bind_eq_bind, Option.bind_eq_some_iff]
  refine ⟨_, hdevice, _, Option.filter_eq_some_iff.mpr ⟨hevent, ?_⟩, _, contract_crowded, 0, rfl, rfl⟩
  simp [crowdedEvent, crowdedSample]

theorem joined_crowded : (crowded planned revision n).samples.rows.filterMap
    (crowded planned revision n).joinSample = (range n).map (crowdedReading planned revision) := by
  have hrows : (crowded planned revision n).samples.rows =
      (range n).map (crowdedSample planned) := rfl
  rw [hrows, filterMap_map, ← filterMap_eq_map]
  refine filterMap_congr fun i hi => ?_
  exact joinSample_crowded (mem_range.mp hi)

theorem bucketFloor_crowdedTime (hsize : 0 < planned.bucketMicros) (i : ℕ) :
    bucketFloor planned.bucketMicros (crowdedTime planned i) =
      (timestampMicros planned.start / planned.bucketMicros + i) * planned.bucketMicros := by
  have hle := Int.ediv_mul_le (timestampMicros planned.start) hsize.ne'
  have hlt := Int.lt_ediv_add_one_mul_self (timestampMicros planned.start) hsize
  rw [bucketFloor_eq hsize, crowdedTime]
  congr 1
  cases i with
  | zero =>
    rw [Nat.cast_zero, add_zero, max_eq_left hle]
  | succ i =>
    have hlater : timestampMicros planned.start ≤
        (timestampMicros planned.start / planned.bucketMicros + (i + 1 : ℕ)) * planned.bucketMicros := by
      refine hlt.le.trans (mul_le_mul_of_nonneg_right ?_ hsize.le)
      push_cast
      omega
    rw [max_eq_right hlater, Int.mul_ediv_cancel _ hsize.ne']

theorem crowdedStart_injective (hsize : 0 < planned.bucketMicros) :
    Function.Injective fun i => (crowdedKey planned i).1 := by
  intro i j heq
  have hindex := Int.eq_of_mul_eq_mul_right hsize.ne' heq
  omega

theorem crowdedKey_injective (hsize : 0 < planned.bucketMicros) :
    Function.Injective (crowdedKey planned) := fun _ _ heq =>
  crowdedStart_injective hsize (congrArg (fun k : BucketKey => k.1) heq)

theorem crowdedTime_lt (hsize : 0 < planned.bucketMicros) (hn : n ≤ touchedBuckets
    planned.bucketMicros (timestampMicros planned.start) (timestampMicros planned.stop)) (htwo : 1 < n)
    {i : ℕ} (hi : i < n) : crowdedTime planned i < timestampMicros planned.stop := by
  have hlt := Int.lt_ediv_add_one_mul_self (timestampMicros planned.start) hsize
  have hle := Int.ediv_mul_le (timestampMicros planned.stop - 1) hsize.ne'
  rw [touchedBuckets] at hn
  have hbelow (k : ℤ) (hk : k ≤ (timestampMicros planned.stop - 1) / planned.bucketMicros) :
      k * planned.bucketMicros < timestampMicros planned.stop := by
    have hmul := mul_le_mul_of_nonneg_right hk hsize.le
    omega
  refine max_lt (hlt.trans (hbelow _ ?_)) (hbelow _ ?_)
  · omega
  · omega

section

variable (hsize : 0 < planned.bucketMicros) (hrevision : revision ∈ planned.compatibleRevisionIds)
  (hn : n ≤ touchedBuckets planned.bucketMicros (timestampMicros planned.start)
    (timestampMicros planned.stop)) (htwo : 1 < n)

include hsize hrevision hn htwo

theorem readings_crowded :
    ((crowded planned revision n).sampleSet "tenant" [(crowdedDevice planned).id] planned).readings =
      (range n).map (crowdedReading planned revision) := by
  show filter _ ((crowded planned revision n).samples.rows.filterMap _) = _
  rw [joined_crowded, filter_eq_self]
  intro r hr
  obtain ⟨i, hi, rfl⟩ := mem_map.mp hr
  refine Bool.and_eq_true_iff.mpr ⟨EventSystem.selectsReading_iff.mpr ⟨?_, le_max_left _ _, ?_⟩, ?_⟩
  · simp [AnalyticsQuery.selects, crowdedReading, hrevision]
  · exact crowdedTime_lt hsize hn htwo (mem_range.mp hi)
  · simp [Store.hasRevision, crowdedReading, crowded, Table.find?]

theorem keys_crowded :
    ((((crowded planned revision n).sampleSet "tenant" [(crowdedDevice planned).id] planned).rows
      planned.bucketMicros).map Prod.fst).Perm ((range n).map (crowdedKey planned)) := by
  have hkeys : (range n).map (bucketKey planned.bucketMicros ∘
      crowdedReading planned revision) = (range n).map (crowdedKey planned) := by
    refine map_congr_left fun i _ => ?_
    rw [Function.comp_apply, bucketKey, crowdedKey, ← bucketFloor_crowdedTime hsize]
    rfl
  refine SampleSet.keys_perm.trans (List.Perm.of_eq ?_)
  rw [readings_crowded hsize hrevision hn htwo, map_map, hkeys, dedup_eq_self]
  exact nodup_range.map (crowdedKey_injective hsize)

theorem buckets_crowded (hlimit : n < limitAfter planned.maxRows) :
    ∃ buckets, (crowded planned revision n).metricSamplesQuery "tenant" [(crowdedDevice planned).id]
        planned = buckets ∧ buckets.length = n ∧ (buckets.map (·.bucketStart)).Nodup ∧
      ∀ b ∈ buckets, b.deviceId = (crowdedDevice planned).id := by
  have hperm : (((crowded planned revision n).sampleSet "tenant" [(crowdedDevice planned).id]
      planned).rows planned.bucketMicros).map Prod.fst |>.Perm _ :=
    keys_crowded hsize hrevision hn htwo
  set rows := ((crowded planned revision n).sampleSet "tenant" [(crowdedDevice planned).id]
    planned).rows planned.bucketMicros with hrows
  have hlength : rows.length = n := by
    have heq := hperm.length_eq
    rwa [length_map, length_map, length_range] at heq
  refine ⟨rows.map Row.bucket, ?_, ?_, ?_, ?_⟩
  · rw [hrows, ← SampleSet.buckets_eq]
    refine take_of_length_le ?_
    have hbuckets : (((crowded planned revision n).sampleSet "tenant" [(crowdedDevice planned).id]
        planned).buckets planned.bucketMicros).length = n := by
      rw [SampleSet.buckets_eq, length_map, ← hrows, hlength]
    exact hbuckets.trans_le hlimit.le
  · rw [length_map, hlength]
  · have hstarts : (rows.map fun row => row.1.1).Perm
        ((range n).map fun i => (crowdedKey planned i).1) := by
      have hmap := hperm.map fun k : BucketKey => k.1
      rwa [map_map, map_map] at hmap
    have hnodup := hstarts.nodup_iff.mpr (nodup_range.map (crowdedStart_injective hsize))
    rw [map_map]
    refine pairwise_map.mpr ((pairwise_map.mp hnodup).imp fun hne heq => hne ?_)
    simpa [Row.bucket, ofSummary, datetime] using heq
  · intro b hb
    obtain ⟨row, hrow, rfl⟩ := mem_map.mp hb
    obtain ⟨i, -, hkey⟩ := mem_map.mp (hperm.mem_iff.mp (mem_map_of_mem hrow))
    rw [Row.bucket, ← hkey]
    rfl

end

theorem rollupWindow_start (planned : AnalyticsQuery) : planned.rollupWindow planned.start = none := by
  cases hwindow : planned.rollupWindow planned.start with
  | none => rfl
  | some window =>
    unfold AnalyticsQuery.rollupWindow at hwindow
    split_ifs at hwindow
    obtain ⟨first, last, -, -, hfull, hlast⟩ := fullHourRollupWindow_eq_some hwindow
    have hstart := hfull.start_le
    have hlt := hfull.lt
    omega

theorem selects_crowdedDevice (planned : AnalyticsQuery) :
    planned.scope.selects "tenant" (crowdedDevice planned) := by
  obtain ⟨⟨fleetIds, deviceIds⟩, metric, ids, start, stop, bucketSeconds, maxDevices, maxRows⟩ := planned
  cases fleetIds <;> cases deviceIds <;> simp [AnalyticsScope.selects, crowdedDevice]

theorem isCompatible_crowded (hrevision : revision ∈ planned.compatibleRevisionIds) :
    (crowded planned revision n).isCompatible planned (crowdedDevice planned) := by
  have hassigned : (crowded planned revision n).assignments.find? ("tenant", (crowdedDevice planned).id) =
      some ⟨"tenant", (crowdedDevice planned).id, "contract", none, .pending, none, none, 0⟩ :=
    Table.find?_eq_some.mpr ⟨mem_singleton_self _, rfl⟩
  refine Bool.or_eq_true_iff.mpr (.inl ?_)
  show (((crowded planned revision n).assignments.find? ("tenant", (crowdedDevice planned).id)).bind
    _).any _ = true
  rw [hassigned, Option.bind_some, contract_crowded]
  simpa [crowdedContract] using hrevision

theorem analyticsQuery_crowded (hrevision : revision ∈ planned.compatibleRevisionIds)
    (hdevices : 1 ≤ planned.maxDevices) :
    (crowded planned revision n).analyticsQuery planned.start "tenant" planned =
      .ok ⟨.blueprintMetricSamples, 1, 1, [⟨(crowdedDevice planned).id, "Device"⟩],
        (crowded planned revision n).metricSamplesQuery "tenant" [(crowdedDevice planned).id]
          planned⟩ := by
  have hretained : metricRangeRetained planned.start planned.stop none
      (datetime (timestampMicros planned.start)) (datetime (timestampMicros planned.start)) := by
    rw [metricRangeRetained, decide_eq_true_eq, ge_iff_le, datetime_le_iff]
  have hselected : ((crowded planned revision n).devices.rows.filter
      (planned.scope.selects "tenant")) = [crowdedDevice planned] :=
    filter_eq_self.mpr fun d hd => by
      rw [mem_singleton.mp hd]
      exact selects_crowdedDevice planned
  have hcompatible : [crowdedDevice planned].filter
      ((crowded planned revision n).isCompatible planned) = [crowdedDevice planned] := by
    rw [filter_singleton, isCompatible_crowded hrevision]
    rfl
  have hlimit : ∃ k, limitAfter planned.maxDevices = k + 1 := by
    refine Nat.exists_eq_succ_of_ne_zero ?_
    rw [limitAfter, i64Max]
    omega
  obtain ⟨k, hk⟩ := hlimit
  have hretention : (crowded planned revision n).retention =
      ⟨timestampMicros planned.start, timestampMicros planned.start⟩ := rfl
  unfold Store.analyticsQuery
  simp only [rollupWindow_start, hretention, hretained, hselected, hcompatible, hk]
  simp [orderBy, Store.metricBuckets, not_lt.mpr hdevices, crowdedDevice]

end

/-! The catalogue. -/

section

variable {revisions : List AnalyticsBlueprintRevision} {metric : AnalyticsMetric}

theorem mem_of_latestRevisions (revisions : List AnalyticsBlueprintRevision) :
    ∀ entry ∈ (latestRevisions revisions).entries, entry.2 ∈ revisions := by
  refine foldlRecOn
    (motive := fun latest : OrderedMap String AnalyticsBlueprintRevision =>
      ∀ entry ∈ latest.entries, entry.2 ∈ revisions) revisions _
    (fun _ hentry => absurd hentry not_mem_nil) ?_
  intro latest hlatest revision hrevision entry hentry
  split_ifs at hentry
  · rcases InOrder.of_mem_insertEntry hentry with rfl | hold
    · exact hrevision
    · exact hlatest entry hold
  · exact hlatest entry hentry

theorem declares_self (metric : AnalyticsMetric) : declares metric metric := by
  simp [declares]

theorem exists_revision {blueprintId : String} {selector : AnalyticsMetricSelector} {ids : List String}
    (h : resolveMetric blueprintId selector revisions = .ok (metric, ids)) :
    ∃ revision, revision ∈ ids := by
  obtain ⟨metrics, hmetrics, h⟩ := of_bind_ok h
  split at h
  next found hfound =>
    obtain ⟨declared, hdeclared, h⟩ := of_bind_ok h
    cases h
    obtain ⟨groups, hgroups, hmetrics⟩ := of_bind_ok hmetrics
    cases hmetrics
    obtain ⟨group, hgroup, hmem⟩ :=
      mem_flatten.mp (mem_orderBy.mp (mem_of_find?_eq_some hfound))
    obtain ⟨revision, hrevision, hfrom⟩ :=
      exists_left_of_forall₂ (forall₂_of_mapM_eq_ok hgroups) hgroup
    obtain ⟨entry, hentry, rfl⟩ := mem_map.mp hrevision
    obtain ⟨image, himage, hof⟩ := exists_right_of_forall₂ (forall₂_of_mapM_eq_ok hdeclared)
      (mem_of_latestRevisions revisions entry hentry)
    rw [hfrom] at hof
    cases hof
    refine ⟨entry.2.revisionId, mem_orderBy.mpr (mem_map.mpr ⟨_, mem_filter.mpr ⟨himage, ?_⟩,
      rfl⟩)⟩
    exact any_eq_true.mpr ⟨_, hmem, declares_self _⟩
  next => cases h

end

section

variable {revisions : List AnalyticsBlueprintRevision} {request : AnalyticsRequest}
  {metric : AnalyticsMetric} {planned : AnalyticsQuery}

/-- Any number of the buckets that meet the range can be the points of a series. -/
theorem exists_crowded (hplan : plan revisions request = .ok (metric, planned))
    (hmode : request.mode ≠ .latestRanking) {n : ℕ} (htwo : 1 < n) (hlimit : n ≤ maxTotalPoints)
    (hn : n ≤ touchedBuckets planned.bucketMicros (timestampMicros planned.start)
      (timestampMicros planned.stop)) :
    ∃ revision, ∃ result,
      query revisions (crowded planned revision n) planned.start "tenant" request = .ok result ∧
        ∃ series ∈ result.series, series.points.length = n := by
  have hplanned := planned_of_plan hplan
  obtain ⟨revision, hrevision⟩ := exists_revision hplanned.resolved
  have hbelow : n < limitAfter planned.maxRows := by
    rw [hplanned.maxRows]
    exact Nat.lt_of_le_of_lt hlimit (by decide)
  obtain ⟨buckets, hbuckets, hlength, hstarts, hdevice⟩ :=
    buckets_crowded (bucketMicros_pos hplanned.bucket) hrevision hn htwo hbelow
  have hdata := analyticsQuery_crowded (n := n) hrevision (hplanned.maxDevices ▸ by decide)
  have hne : buckets ≠ [] := length_pos_iff.mp (by omega)
  obtain ⟨series, hseries, hpoints⟩ := exists_series hdevice hstarts hne hmode request.weighting
  rw [hbuckets] at hdata
  refine ⟨revision, _, query_eq_ok_iff.mpr ⟨metric, planned, _, hplan, hdata, ?_, ?_, rfl⟩, series,
    hseries, hpoints.trans hlength⟩
  · exact Nat.le_of_ble_eq_true rfl
  · exact hlength.trans_le hlimit

/-- The points of every answer to a request are within its budget exactly if the buckets
that meet its range are, or only the latest point of a device is shown. -/
theorem points_within_budget_iff (hplan : plan revisions request = .ok (metric, planned)) :
    (∀ s now tenant result, query revisions s now tenant request = .ok result →
      ∀ series ∈ result.series, series.points.length ≤ maxPoints request) ↔
    request.mode = .latestRanking ∨
      touchedBuckets planned.bucketMicros (timestampMicros planned.start)
        (timestampMicros planned.stop) ≤ maxPoints request := by
  have hplanned := planned_of_plan hplan
  constructor
  · intro h
    by_contra hover
    obtain ⟨hmode, htouched⟩ := not_or.mp hover
    have hrange : 10 ≤ maxPoints request ∧ maxPoints request ≤ 2000 := by
      rw [maxPoints, maxPointsPerSeries]
      omega
    obtain ⟨revision, result, hquery, series, hseries, hpoints⟩ :=
      exists_crowded hplan hmode (n := maxPoints request + 1) (by omega)
        (by rw [maxTotalPoints]; omega) (by omega)
    have hle := h _ _ _ _ hquery series hseries
    omega
  · intro hwithin s now tenant result hquery series hseries
    obtain ⟨metric', planned', data, hplan', hdata, hdevices, -, rfl⟩ := query_eq_ok_iff.mp hquery
    obtain ⟨rfl, rfl⟩ := Prod.mk.inj (Except.ok.inj (hplan.symm.trans hplan'))
    have hanswered : s.Answered planned data.buckets :=
      Store.answered_of_analyticsQuery hdata (hplanned.maxDevices ▸ hdevices)
    rcases eq_or_ne request.mode .latestRanking with hmode | hmode
    · have hlatest : series ∈ buildSeries .latestRanking request.weighting data.buckets :=
        hmode ▸ hseries
      exact (length_latestRanking hlatest).trans (le_max_of_le_left (by decide))
    · exact (length_points_le (bucketMicros_pos hplanned.bucket) hanswered hmode hseries).trans
        (hwithin.resolve_left hmode)

def trackerCatalogue : List AnalyticsBlueprintRevision :=
  [⟨"blueprint", "tracker", "Tracker", "revision", 1, .ok tracker⟩]

def latitudesBetween (start stop : ℤ) (bucketSeconds : Option ℤ) (maxPointsPerSeries : ℕ) :
    AnalyticsRequest where
  scope := ⟨[], []⟩
  blueprintId := "blueprint"
  metric := ⟨"position", "/lat"⟩
  start := start * 1000000000
  stop := stop * 1000000000
  bucketSeconds := bucketSeconds
  mode := .perDevice
  weighting := .sample
  maxPointsPerSeries := some maxPointsPerSeries

def latitudesQuery (start stop bucketSeconds : ℤ) : AnalyticsQuery :=
  ⟨⟨[], []⟩, ⟨"position", "/lat"⟩, ["revision"], start * 1000000000, stop * 1000000000,
    bucketSeconds, maxDevices, maxTotalPoints⟩

theorem exists_latitudesQuery {start stop bucketSeconds : ℤ} {request : AnalyticsRequest}
    (h : succeedsWith (fun p => p.2 = latitudesQuery start stop bucketSeconds)
      (plan trackerCatalogue request)) :
    ∃ metric, plan trackerCatalogue request =
      .ok (metric, latitudesQuery start stop bucketSeconds) := by
  obtain ⟨⟨metric, planned⟩, hplan, hquery⟩ := exists_of_succeedsWith h
  obtain rfl := of_decide_eq_true hquery
  exact ⟨metric, hplan⟩

/-- Ten minutes from the full minute are ten buckets. -/
theorem points_within_budget_iff_aligned :
    maxPoints (latitudesBetween 60 660 (some 60) 10) = 10 ∧
    touchedBuckets 60000000 60000000 660000000 = 10 ∧
    ∃ metric, plan trackerCatalogue (latitudesBetween 60 660 (some 60) 10) =
      .ok (metric, latitudesQuery 60 660 60) ∧
    ∀ s now tenant result,
      query trackerCatalogue s now tenant (latitudesBetween 60 660 (some 60) 10) = .ok result →
        ∀ series ∈ result.series,
          series.points.length ≤ maxPoints (latitudesBetween 60 660 (some 60) 10) := by
  refine ⟨by decide, by decide, ?_⟩
  obtain ⟨metric, hplan⟩ := exists_latitudesQuery
    (by decide +kernel : succeedsWith (fun p => p.2 = latitudesQuery 60 660 60)
      (plan trackerCatalogue (latitudesBetween 60 660 (some 60) 10)))
  exact ⟨metric, hplan, (points_within_budget_iff hplan).mpr (.inr (by decide +kernel))⟩

/-- Ten minutes from the half minute meet eleven buckets of a minute, and a year has
more days than a budget of a hundred points. -/
theorem points_exceed_budget :
    (maxPoints (latitudesBetween 30 630 (some 60) 10) = 10 ∧
      ∃ result,
        query trackerCatalogue (crowded (latitudesQuery 30 630 60) "revision" 11) 700000000000 "tenant"
          (latitudesBetween 30 630 (some 60) 10) = .ok result ∧
          ∃ series ∈ result.series, series.points.length = 11) ∧
    (maxPoints (latitudesBetween 0 31622400 none 100) = 100 ∧
      ∃ s now tenant result,
        query trackerCatalogue s now tenant (latitudesBetween 0 31622400 none 100) = .ok result ∧
          ∃ series ∈ result.series, series.points.length = 366) := by
  constructor
  · refine ⟨by decide, ?_⟩
    obtain ⟨result, hquery, hseries⟩ := exists_of_succeedsWith
      (by decide +kernel : succeedsWith
        (fun result => result.series.any fun series => series.points.length = 11)
        (query trackerCatalogue (crowded (latitudesQuery 30 630 60) "revision" 11) 700000000000 "tenant"
          (latitudesBetween 30 630 (some 60) 10)))
    obtain ⟨series, hmem, hpoints⟩ := any_eq_true.mp hseries
    exact ⟨result, hquery, series, hmem, of_decide_eq_true hpoints⟩
  · refine ⟨by decide, ?_⟩
    obtain ⟨metric, hplan⟩ := exists_latitudesQuery
      (by decide +kernel : succeedsWith
        (fun p => p.2 = latitudesQuery 0 31622400 86400)
        (plan trackerCatalogue (latitudesBetween 0 31622400 none 100)))
    obtain ⟨revision, result, hquery⟩ := exists_crowded hplan nofun (n := 366) (by decide) (by decide)
      (by decide +kernel)
    exact ⟨_, _, _, result, hquery⟩

end

end AnalyticsApplication

end Extrittio
