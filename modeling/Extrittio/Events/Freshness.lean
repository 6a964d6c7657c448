import Extrittio.Events.LocationQueries

/-!
Two ways to tell whether a position is fresh. Ingestion decides on the age in whole
milliseconds whether rules see the position of an event; the location queries compare
microseconds. Where the two differ.
-/
namespace Extrittio

open Store

def RecordDeviceEvent.usesPosition (event : RecordDeviceEvent) : Bool :=
  match event.ruleEvaluation.input with
  | .telemetry _ geofence => geofence
  | .status _ => false

/-- Fresh for the location queries: not dated after `now`, and the deadline is ahead. -/
def FreshAt (maxAgeMs : ℕ) (occurred now : ℤ) : Prop :=
  occurred ≤ now ∧ now < occurred + maxAgeMs * 1000

instance (maxAgeMs : ℕ) (occurred now : ℤ) : Decidable (FreshAt maxAgeMs occurred now) :=
  inferInstanceAs (Decidable (_ ∧ _))

/-- The ages in microseconds that ingestion misjudges: less than a millisecond in the
future, or over the limit by less than a millisecond. -/
def Misjudged (maxAgeMs : ℕ) (age : ℤ) : Prop :=
  (-1000 < age ∧ age < 0) ∨ ((maxAgeMs : ℤ) * 1000 ≤ age ∧ age < maxAgeMs * 1000 + 1000)

instance (maxAgeMs : ℕ) (age : ℤ) : Decidable (Misjudged maxAgeMs age) :=
  inferInstanceAs (Decidable (_ ∨ _))

theorem age_within_iff {maxAgeMs : ℕ} {occurred received : ℤ} :
    ¬((datetime received - datetime occurred).tdiv 1000000 < 0 ∨
        (maxAgeMs : ℤ) < (datetime received - datetime occurred).tdiv 1000000) ↔
      -1000 < received - occurred ∧ received - occurred < maxAgeMs * 1000 + 1000 := by
  unfold datetime
  rcases lt_or_ge received occurred with hlt | hle
  · have hneg : (received * 1000 - occurred * 1000).tdiv 1000000 =
        -((occurred * 1000 - received * 1000) / 1000000) := by
      rw [← Int.tdiv_eq_ediv_of_nonneg (by omega), ← Int.neg_tdiv, neg_sub]
    rw [hneg]
    omega
  · rw [Int.tdiv_eq_ediv_of_nonneg (by omega)]
    omega

namespace ContractCodec

variable {codec : ContractCodec} {contract : CompiledContractDocument} {binding : CompiledLocation}
  {routeKey : String} {payload : Json} {ageMs : ℤ}

theorem eventLocation_isSome_iff (hbinding : contract.location = some binding) :
    (codec.eventLocation contract routeKey payload ageMs).isSome ↔
      ¬(ageMs < 0 ∨ (binding.maxAgeMs : ℤ) < ageMs) ∧
        (codec.eventLocation contract routeKey payload 0).isSome := by
  have hnow : ¬((0 : ℤ) < 0 ∨ (binding.maxAgeMs : ℤ) < 0) := by omega
  have hage (age : ℤ) : codec.eventLocation contract routeKey payload age =
      if age < 0 ∨ (binding.maxAgeMs : ℤ) < age then none
      else codec.eventLocation contract routeKey payload 0 := by
    simp only [eventLocation, hbinding, Option.bind_eq_bind, Option.bind_some, Option.bind_none,
      if_neg hnow]
  rw [hage]
  split_ifs with h
  · exact iff_of_false Bool.false_ne_true fun hsome => hsome.1 h
  · exact ⟨fun hsome => ⟨h, hsome⟩, fun hsome => hsome.2⟩

end ContractCodec

namespace EventIngress

variable {codec : ContractCodec} {s : Store} {clock : ℤ} {tenant device routeKey : String}
  {envelope : EventInput} {snapshot : RuleCache} {event : RecordDeviceEvent}
  {row : ContractRow} {contract : CompiledContractDocument} {binding : CompiledLocation}

theorem usesPosition_of_prepare
    (h : prepare codec s clock tenant device routeKey envelope snapshot = .ok event)
    (hrow : s.assignedContract tenant device = some row)
    (hcontract : codec.fromValue row.document = .ok contract) :
    event.occurredAt = datetime (timestampMicros envelope.occurredAt) ∧
      event.receivedAt = datetime (timestampMicros clock) ∧
      event.usesPosition = (codec.eventLocation contract routeKey envelope.payload
        ((event.receivedAt - event.occurredAt).tdiv 1000000)).isSome := by
  unfold prepare at h
  simp only [hrow, hcontract, guard_eq_ok_iff] at h
  obtain ⟨-, -, h⟩ := h
  obtain ⟨_, hdecoded, h⟩ := of_bind_ok h
  cases hdecoded
  obtain ⟨-, h⟩ := guard_eq_ok_iff.mp h
  split at h
  next =>
    split at h
    next =>
      obtain ⟨_, -, h⟩ := of_bind_ok h
      obtain ⟨metrics, -, h⟩ := of_bind_ok h
      obtain ⟨_, -, h⟩ := of_bind_ok h
      split at h
      next =>
        cases h
        exact ⟨rfl, rfl, rfl⟩
      next => cases h
    next => cases h
  next => cases h

def Positioned (codec : ContractCodec) (contract : CompiledContractDocument) (routeKey : String)
    (payload : Json) : Prop :=
  (codec.eventLocation contract routeKey payload 0).isSome = true

/-- Rules see the position of an accepted event only while the location lookup would
still return it, unless the age of the position is misjudged. -/
theorem usesPosition_fresh_iff
    (h : prepare codec s clock tenant device routeKey envelope snapshot = .ok event)
    (hrow : s.assignedContract tenant device = some row)
    (hcontract : codec.fromValue row.document = .ok contract)
    (hbinding : contract.location = some binding) :
    (event.usesPosition = true →
      FreshAt binding.maxAgeMs (timestampMicros event.occurredAt)
        (timestampMicros event.receivedAt)) ↔
    ¬(Misjudged binding.maxAgeMs (timestampMicros clock - timestampMicros envelope.occurredAt) ∧
      Positioned codec contract routeKey envelope.payload) := by
  obtain ⟨hoccurred, hreceived, huses⟩ := usesPosition_of_prepare h hrow hcontract
  rw [huses, ContractCodec.eventLocation_isSome_iff hbinding, hoccurred, hreceived, age_within_iff,
    timestampMicros_datetime, timestampMicros_datetime, Positioned, FreshAt, Misjudged]
  generalize timestampMicros clock = received
  generalize timestampMicros envelope.occurredAt = occurred
  by_cases hposition : (codec.eventLocation contract routeKey envelope.payload 0).isSome
  · simp only [hposition, and_true]
    omega
  · exact iff_of_true (fun huses => absurd huses.2 hposition) fun hbad => hposition hbad.2

def positionEnvelope (occurredAt : ℤ) : EventInput :=
  ⟨1, "event", "hash", occurredAt, .object [("latitude", .float 48), ("longitude", .float 11)], 10⟩

def ruleless : RuleCache := RuleSnapshotRecords.compile ⟨[], fun _ => none⟩

theorem usesPosition_fresh_iff_in_time :
    ∃ event, prepare tracker tracked 999999000 "tenant" "device" "telemetry"
        (positionEnvelope 0) ruleless = .ok event ∧ event.usesPosition = true ∧
      FreshAt 1000 (timestampMicros event.occurredAt) (timestampMicros event.receivedAt) := by
  obtain ⟨event, hevent⟩ : ∃ event, prepare tracker tracked 999999000 "tenant" "device"
      "telemetry" (positionEnvelope 0) ruleless = .ok event := ⟨_, rfl⟩
  have huses : event.usesPosition := by
    cases hevent
    rfl
  exact ⟨event, hevent, huses, (usesPosition_fresh_iff hevent rfl rfl rfl).mpr (by
    rintro ⟨hmisjudged, -⟩
    exact absurd hmisjudged (by decide)) huses⟩

/-- Half a millisecond after its deadline a position still reaches the rules, and so does
one that is dated half a millisecond ahead; the lookup returns neither. -/
theorem expired_position_used :
    (∃ event, prepare tracker tracked 1000500000 "tenant" "device" "telemetry"
        (positionEnvelope 0) ruleless = .ok event ∧ event.usesPosition = true ∧
      ¬FreshAt 1000 (timestampMicros event.occurredAt) (timestampMicros event.receivedAt) ∧
      ∃ s outcome, record default tracker (fun _ => "") 1000500000 1000500000 "tenant" "device"
          "telemetry" (positionEnvelope 0) ruleless tracked = .ok (s, outcome) ∧
        EventApplication.latestLocation tracker s 1000500000 "tenant" "device" = .ok none) ∧
    ∃ event, prepare tracker tracked 0 "tenant" "device" "telemetry"
        (positionEnvelope 500000) ruleless = .ok event ∧ event.usesPosition = true ∧
      ¬FreshAt 1000 (timestampMicros event.occurredAt) (timestampMicros event.receivedAt) ∧
      ∃ s outcome, record default tracker (fun _ => "") 0 0 "tenant" "device" "telemetry"
          (positionEnvelope 500000) ruleless tracked = .ok (s, outcome) ∧
        EventApplication.latestLocation tracker s 0 "tenant" "device" = .ok none :=
  ⟨⟨_, rfl, rfl, by decide, _, _, rfl, by decide +kernel⟩,
    ⟨_, rfl, rfl, by decide, _, _, rfl, by decide +kernel⟩⟩

end EventIngress

end Extrittio
