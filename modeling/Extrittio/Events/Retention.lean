import Extrittio.Events.Laws
import Extrittio.Library.Run

/-!
Recording and pruning in any order. A receipt outlives its event, and the rollup
watermark refuses what has lost its receipt: no event id is recorded twice.
-/
namespace Extrittio

open Relational Transition Table

/-- The store with the events recorded so far, each with its tenant. -/
structure EventSystem where
  store : Store
  recorded : List (String × RecordDeviceEvent)

inductive EventStep where
  | record (uuid : ℕ → String) (now : ℤ) (tenant : String) (event : RecordDeviceEvent)
  | prune (rawDays rollupDays : ℕ) (now : ℤ)

/-- Every stored event has its receipt, and events expire before receipts. -/
structure Store.Receipted (s : Store) : Prop where
  receipt : ∀ e ∈ s.events, ∃ r ∈ s.receipts, r.id = e.id ∧ r.occurredAt = e.occurredAt
  watermarks : s.retention.rollupRetainedSince ≤ s.retention.rawRetainedSince

namespace EventSystem

variable {p : Platform} {sys : EventSystem}

def start (store : Store) : EventSystem := ⟨store, []⟩

/-- A record is logged when it commits as recorded. -/
def apply (p : Platform) (sys : EventSystem) : EventStep → EventSystem
  | .record uuid now tenant event =>
    match sys.store.record p uuid now tenant event with
    | .ok (store, outcome) =>
      ⟨store, if outcome.recorded then (tenant, event) :: sys.recorded else sys.recorded⟩
    | .error _ => sys
  | .prune rawDays rollupDays now =>
    { sys with store := (MetricMaintenance.prune rawDays rollupDays now sys.store).1 }

def machine (p : Platform) : Machine EventSystem EventStep := ⟨fun _ _ => True, apply p⟩

/-- An event that is delivered again comes with the occurrence time it had. -/
def sameOccurrence (sys : EventSystem) : EventStep → Prop
  | .record _ _ _ event => ∀ x ∈ sys.recorded, x.2.eventId = event.eventId →
      timestampMicros x.2.occurredAt = timestampMicros event.occurredAt
  | .prune .. => True

/-- A record changes nothing, or it is logged and does what recording does. -/
theorem record_cases (p : Platform) (sys : EventSystem) (uuid : ℕ → String) (now : ℤ)
    (tenant : String) (event : RecordDeviceEvent) :
    sys.apply p (.record uuid now tenant event) = sys ∨
    ∃ store, sys.apply p (.record uuid now tenant event) = ⟨store, (tenant, event) :: sys.recorded⟩ ∧
      Store.Recorded p uuid now tenant event sys.store store := by
  simp only [apply]
  split
  next store outcome hrecord =>
    rcases Store.record_eq_ok hrecord with ⟨rfl, rfl, -⟩ | ⟨hrecorded, heffect⟩
    · exact .inl rfl
    · exact .inr ⟨store, by simp [hrecorded], heffect⟩
  next => exact .inl rfl

/-- What was recorded keeps its receipt or has expired, under its contract. -/
structure Retained (sys : EventSystem) : Prop extends sys.store.Receipted where
  known : ∀ x ∈ sys.recorded,
    (∃ r ∈ sys.store.receipts, r.id = x.2.eventId ∧ r.occurredAt = timestampMicros x.2.occurredAt) ∨
      timestampMicros x.2.occurredAt < sys.store.retention.rollupRetainedSince
  desired : ∀ x ∈ sys.recorded,
    (sys.store.assignments.find? (x.1, x.2.deviceId)).map AssignmentRow.desiredContractId =
      some x.2.contractId
  once : (sys.recorded.map fun x => x.2.eventId).Nodup

theorem desired_acknowledge (s : Store) (tenant device contract : String) (receivedAt : ℤ)
    (key : String × String) :
    ((s.acknowledge tenant device contract receivedAt).assignments.find? key).map
      AssignmentRow.desiredContractId =
    (s.assignments.find? key).map AssignmentRow.desiredContractId := by
  simp only [Store.acknowledge, find?_update, Option.map_map]
  congr 1
  funext r
  simp only [Function.comp_apply]
  split <;> rfl

variable {x : String × RecordDeviceEvent} {event : RecordDeviceEvent} {uuid : ℕ → String}
  {tenant : String}

/-- What was recorded is not recorded again: it still has its receipt, or the
watermark refuses it. -/
theorem Retained.not_again (h : Retained sys) (hx : x ∈ sys.recorded)
    (hid : x.2.eventId = event.eventId)
    (hoccurred : timestampMicros x.2.occurredAt = timestampMicros event.occurredAt)
    {now : ℤ} {store : Store} :
    ¬Store.Recorded p uuid now tenant event sys.store store := by
  intro heffect
  rcases h.known x hx with ⟨r, hr, hrid, -⟩ | hexpired
  · exact (insert?_eq_some.mp heffect.receipts).1 r hr (hrid.trans hid)
  · rw [hoccurred] at hexpired
    exact absurd heffect.retained (not_le.mpr hexpired)

theorem Retained.record (h : Retained sys) {now : ℤ}
    (hguard : sameOccurrence sys (.record uuid now tenant event)) :
    Retained (sys.apply p (.record uuid now tenant event)) := by
  rcases sys.record_cases p uuid now tenant event with heq | ⟨store, heq, heffect⟩
  · rw [heq]
    exact h
  rw [heq]
  have hreceipts : ∀ r, r ∈ store.receipts ↔
      r ∈ sys.store.receipts ∨ r = event.receiptRow tenant :=
    fun _ => mem_of_insert? heffect.receipts
  have hretention : store.retention = sys.store.retention := heffect.frame.2.2.2.2.1
  have hdesired := fun key => desired_acknowledge sys.store tenant event.deviceId event.contractId
    (timestampMicros event.receivedAt) key
  constructor
  · constructor
    · intro e he
      rcases (mem_of_insert? heffect.events).mp he with he | rfl
      · obtain ⟨r, hr, hrow⟩ := h.receipt e he
        exact ⟨r, (hreceipts r).mpr (.inl hr), hrow⟩
      · exact ⟨_, (hreceipts _).mpr (.inr rfl), rfl, rfl⟩
    · rw [hretention]
      exact h.watermarks
  · intro x hx
    rw [hretention]
    rcases List.mem_cons.mp hx with rfl | hx
    · exact .inl ⟨_, (hreceipts _).mpr (.inr rfl), rfl, rfl⟩
    · rcases h.known x hx with ⟨r, hr, hrow⟩ | hexpired
      · exact .inl ⟨r, (hreceipts r).mpr (.inl hr), hrow⟩
      · exact .inr hexpired
  · intro x hx
    rw [heffect.assignments, hdesired]
    rcases List.mem_cons.mp hx with rfl | hx
    · exact heffect.desired
    · exact h.desired x hx
  · refine List.nodup_cons.mpr ⟨fun hmem => ?_, h.once⟩
    obtain ⟨x, hx, hid⟩ := List.mem_map.mp hmem
    exact h.not_again hx hid (hguard x hx hid) heffect

theorem Retained.prune (h : Retained sys) (rawDays rollupDays : ℕ) (now : ℤ) :
    Retained (sys.apply p (.prune rawDays rollupDays now)) := by
  simp only [apply]
  rcases MetricMaintenance.prune_cases rawDays rollupDays now sys.store with
    heq | ⟨cutoffs, haligned, heq⟩
  · rw [heq]
    exact h
  rw [heq]
  have hwatermarks := h.watermarks
  have hle := haligned.le
  constructor
  · constructor
    · intro e he
      obtain ⟨he, hkept⟩ := mem_filter.mp he
      obtain ⟨r, hr, hid, hoccurred⟩ := h.receipt e he
      refine ⟨r, mem_filter.mpr ⟨hr, ?_⟩, hid, hoccurred⟩
      simp only [Bool.not_eq_true', decide_eq_false_iff_not, not_lt, decide_eq_true_eq] at hkept ⊢
      omega
    · simp only [Store.pruneMetrics]
      omega
  · intro x hx
    rcases h.known x hx with ⟨r, hr, hid, hoccurred⟩ | hexpired
    · by_cases hkept : max sys.store.retention.rollupRetainedSince
          (timestampMicros cutoffs.rollupRetainedSince) ≤ r.occurredAt
      · exact .inl ⟨r, mem_filter.mpr ⟨hr, decide_eq_true hkept⟩, hid, hoccurred⟩
      · right
        simp only [Store.pruneMetrics]
        omega
    · right
      simp only [Store.pruneMetrics]
      omega
  · exact h.desired
  · exact h.once

theorem Retained.redelivered (h : Retained sys)
    (hx : x ∈ sys.recorded) (hid : x.2.eventId = event.eventId)
    (hoccurred : timestampMicros x.2.occurredAt = timestampMicros event.occurredAt)
    (hdevice : x.2.deviceId = event.deviceId) (hcontract : x.2.contractId = event.contractId)
    (uuid : ℕ → String) (now : ℤ) :
    sys.store.record p uuid now x.1 event =
      if timestampMicros event.occurredAt < sys.store.retention.rollupRetainedSince then
        .error .historyExpired
      else .ok (sys.store, ⟨false, 0, 0⟩) := by
  unfold Store.record
  split
  · rfl
  next hretained =>
    have hdesired := h.desired x hx
    rw [hdevice, hcontract] at hdesired
    rcases h.known x hx with ⟨r, hr, hrid, -⟩ | hexpired
    · have hnone : sys.store.receipts.insert? (event.receiptRow x.1) = none :=
        insert?_eq_none.mpr ⟨r, hr, hrid.trans hid⟩
      have hreceipt : sys.store.insertReceipt x.1 event = .ok none := by
        simp [Store.insertReceipt, hnone]
      rw [if_neg (not_not.mpr hdesired), hreceipt]
      rfl
    · rw [hoccurred] at hexpired
      exact absurd hexpired hretained

theorem Retained.step (h : Retained sys) {step : EventStep} (hguard : sameOccurrence sys step) :
    Retained (sys.apply p step) := by
  cases step with
  | record uuid now tenant event => exact h.record hguard
  | prune rawDays rollupDays now => exact h.prune rawDays rollupDays now

theorem watermarks_le (p : Platform) (sys : EventSystem) (step : EventStep) :
    sys.store.retention.rawRetainedSince ≤ (sys.apply p step).store.retention.rawRetainedSince ∧
      sys.store.retention.rollupRetainedSince ≤
        (sys.apply p step).store.retention.rollupRetainedSince := by
  cases step with
  | record uuid now tenant event =>
    rcases sys.record_cases p uuid now tenant event with heq | ⟨store, heq, heffect⟩
    · rw [heq]
      exact ⟨le_rfl, le_rfl⟩
    · rw [heq, heffect.frame.2.2.2.2.1]
      exact ⟨le_rfl, le_rfl⟩
  | prune rawDays rollupDays now =>
    simp only [apply]
    rcases MetricMaintenance.prune_cases rawDays rollupDays now sys.store with heq | ⟨cutoffs, -, heq⟩
    · rw [heq]
      exact ⟨le_rfl, le_rfl⟩
    · rw [heq]
      exact ⟨le_max_left _ _, le_max_left _ _⟩

/-- In every run of records and prunes from a store whose events have receipts,
where redeliveries keep their occurrence time: no event id is recorded twice, a
redelivery changes nothing and reports its receipt or its expired history, every
event has its receipt, and the watermarks keep their order and never move back. -/
theorem event_run_sound (p : Platform) {store : Store} (hstore : store.Receipted)
    {before after : List EventStep} {mid t : EventSystem}
    (hbefore : ((machine p).restrict sameOccurrence).Run (start store) before mid)
    (hafter : ((machine p).restrict sameOccurrence).Run mid after t) :
    (t.recorded.map fun x => x.2.eventId).Nodup ∧
    (∀ uuid now tenant event, t.apply p (.record uuid now tenant event) = t ∨
      (t.apply p (.record uuid now tenant event)).recorded = (tenant, event) :: t.recorded) ∧
    (∀ x ∈ t.recorded, ∀ uuid now tenant event, x.2.eventId = event.eventId →
      timestampMicros x.2.occurredAt = timestampMicros event.occurredAt →
      t.apply p (.record uuid now tenant event) = t ∧
      (x.1 = tenant → x.2.deviceId = event.deviceId → x.2.contractId = event.contractId →
        t.store.record p uuid now tenant event =
          if timestampMicros event.occurredAt < t.store.retention.rollupRetainedSince then
            .error .historyExpired
          else .ok (t.store, ⟨false, 0, 0⟩))) ∧
    t.store.Receipted ∧
    mid.store.retention.rawRetainedSince ≤ t.store.retention.rawRetainedSince ∧
    mid.store.retention.rollupRetainedSince ≤ t.store.retention.rollupRetainedSince := by
  have hstep : ∀ sys step, Retained sys → ((machine p).restrict sameOccurrence).enabled sys step →
      Retained (sys.apply p step) := fun sys step h hguard => h.step hguard.2
  have hretained : Retained t := (hbefore.append hafter).invariant hstep
    ⟨hstore, by simp [start], by simp [start], by simp [start]⟩
  have hwatermarks := hafter.relation (I := fun _ => True)
    (R := fun a b => a.store.retention.rawRetainedSince ≤ b.store.retention.rawRetainedSince ∧
      a.store.retention.rollupRetainedSince ≤ b.store.retention.rollupRetainedSince)
    (fun _ => ⟨le_rfl, le_rfl⟩) (fun _ _ _ hab hbc => ⟨hab.1.trans hbc.1, hab.2.trans hbc.2⟩)
    (fun sys step _ _ => ⟨trivial, watermarks_le p sys step⟩) trivial
  refine ⟨hretained.once, ?_, ?_, hretained.toReceipted, hwatermarks.1, hwatermarks.2⟩
  · intro uuid now tenant event
    rcases t.record_cases p uuid now tenant event with heq | ⟨_, heq, -⟩
    · exact .inl heq
    · exact .inr (by rw [heq])
  · intro x hx uuid now tenant event hid hoccurred
    constructor
    · rcases t.record_cases p uuid now tenant event with heq | ⟨_, -, heffect⟩
      · exact heq
      · exact (hretained.not_again hx hid hoccurred heffect).elim
    · rintro rfl hdevice hcontract
      exact hretained.redelivered hx hid hoccurred hdevice hcontract uuid now

def metered : Store :=
  { Store.sample with
    revisions := Store.sampleRevisions
    contracts := Store.sampleContracts
    assignments := Store.sampleAssignments
    outbox := Outbox.empty }

theorem receipted_metered : metered.Receipted := ⟨fun _ he => (nomatch he), le_rfl⟩

def reading (eventId : String) (occurredAt : ℤ) (value : ℚ) : RecordDeviceEvent where
  eventId := eventId
  deviceId := "device"
  contractId := "contract"
  routeKey := "telemetry"
  occurredAt := occurredAt
  receivedAt := occurredAt
  payload := .object []
  metrics := [⟨"stream", "/temperature", .float64 value⟩]
  ruleEvaluation :=
    { snapshot := RuleSnapshotRecords.compile ⟨[], fun _ => none⟩
      tenant := "tenant"
      deviceId := "device"
      fleetId := none
      blueprintId := none
      blueprintRevisionId := some "revision"
      input := .telemetry ⟨none, none, []⟩ false
      observedAt := occurredAt }

def redelivery : List EventStep :=
  [.record (fun _ => "") 0 "tenant" (reading "event" 0 20),
    .record (fun _ => "") 0 "tenant" (reading "event" 0 20), .prune 1 30 2678400000000000]

theorem event_run_sound_redelivery :
    let t := redelivery.foldl (apply default) (start metered)
    t.recorded.map (fun x => x.2.eventId) = ["event"] ∧ t.store.events.rows = [] ∧
      t.store.retention.rollupRetainedSince = 86400000000 ∧
      t.store.record default (fun _ => "") 0 "tenant" (reading "event" 0 20) =
        if timestampMicros 0 < t.store.retention.rollupRetainedSince then .error .historyExpired
        else .ok (t.store, ⟨false, 0, 0⟩) := by
  intro t
  have hrun : ((machine default).restrict sameOccurrence).Run (start metered) redelivery t := by
    refine .cons ⟨trivial, fun x hx => nomatch hx⟩ (.cons ⟨trivial, fun x hx _ => ?_⟩
      (.cons ⟨trivial, trivial⟩ (.nil _)))
    rw [List.mem_singleton.mp hx]
  refine ⟨rfl, rfl, rfl, ?_⟩
  exact ((event_run_sound default receipted_metered (.nil _) hrun).2.2.1
    ("tenant", reading "event" 0 20) (.head _) _ _ _ _ rfl rfl).2 rfl rfl rfl

end EventSystem

end Extrittio
