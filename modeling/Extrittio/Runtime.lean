import Extrittio.Alerts.Laws
import Extrittio.Outbox.Laws

/-!
Rule evaluation inside an ingress transaction. Device events, heartbeats and
offline transitions all end in `observe`: read the runtime rows of the device,
decide, write the runtime state and enqueue the deliveries, or change nothing.
-/
namespace Extrittio

open Relational

namespace Store

def desiredBlueprint (s : Store) (tenant device : String) : Option String := do
  let assignment ← s.assignments.find? (tenant, device)
  let contract ← (s.contracts.find? assignment.desiredContractId).filter
    fun r => r.tenantId = assignment.tenantId
  let revision ← (s.revisions.find? contract.blueprintRevisionId).filter
    fun r => r.tenantId = contract.tenantId
  return revision.blueprintId

/-- The plan under the fleet and blueprint that the device has now. -/
def retarget (s : Store) (device : DeviceRow) (plan : DeviceRuleEvaluation) : DeviceRuleEvaluation :=
  { plan with
    fleetId := device.fleetId
    blueprintId := s.desiredBlueprint device.tenantId device.id }

/-- The runtime rows of a device. Of several open alerts of one rule the newest
is kept: later rows overwrite earlier ones. -/
def deviceRuleRuntime (s : Store) (tenant device : String) (candidates : List String) :
    DeviceRuleRuntime where
  liveRuleIds :=
    (s.rules.rows.filter fun r => r.tenantId = tenant && r.enabled && r.id ∈ candidates).map RuleRow.id
  activeAlerts key :=
    if key.1 = tenant ∧ key.2.2 = device then
      (s.newestAlert (AlertRow.occupies tenant key.2.1 device)).map AlertRow.id
    else none
  cooldowns key :=
    if key.1 = tenant ∧ key.2.2 = device then
      (s.cooldowns.find? key).map fun r => datetime r.lastFiredAt
    else none
  zoneEntries key :=
    if key.1 = tenant ∧ key.2.2 = device then
      (s.zoneEntries.find? key).map fun r => datetime r.enteredAt
    else none

def writeCooldown (s : Store) (c : CooldownRecord) : Store :=
  s.upsertCooldown c.tenantId c.ruleId c.deviceId (timestampMicros c.lastFiredAt)

/-- Stores or deletes a zone entry; the rule and the device must exist. -/
def writeZoneEntry (s : Store) (entry : ZoneEntryMutation) : Except PersistenceError Store :=
  let key := (entry.tenantId, entry.ruleId, entry.deviceId)
  match entry.enteredAt with
  | some time =>
    if (s.rule? entry.tenantId entry.ruleId).isNone ||
        (s.device? entry.tenantId entry.deviceId).isNone then
      .error (.foreignKeyViolation "foreign_key")
    else
      let enteredAt := timestampMicros time
      let zoneEntries := s.zoneEntries.upsert
        ⟨entry.tenantId, entry.ruleId, entry.deviceId, enteredAt⟩
        (fun r => { r with enteredAt := enteredAt }) (fun _ => rfl)
      .ok { s with zoneEntries := zoneEntries }
  | none => .ok { s with zoneEntries := s.zoneEntries.filter fun r => r.key ≠ key }

def writeDecision (s : Store) (decision : DeviceRuleDecision) : Except PersistenceError Store :=
  decision.zoneEntries.foldlM writeZoneEntry (decision.cooldowns.foldl writeCooldown s)

/-- The plan and the runtime rows that an evaluation decides on. -/
def prepareEvaluation (s : Store) (tenant device : String) (plan : DeviceRuleEvaluation) :
    Except PersistenceError (DeviceRuleEvaluation × DeviceRuleRuntime) :=
  if plan.tenant ≠ tenant ∨ plan.deviceId ≠ device then
    .error (.corruptData "rule evaluation scope does not match ingress")
  else
    match s.device? tenant device with
    | none => .error .notFound
    | some target =>
      let plan := s.retarget target plan
      .ok (plan, s.deviceRuleRuntime tenant device plan.candidateRuleIds)

def evaluateRulesInTransaction (p : Platform) (s : Store) (tenant device : String) :
    Option DeviceRuleEvaluation → Except PersistenceError (Store × List PendingAction)
  | none => .ok (s, [])
  | some plan => do
    let (plan, runtime) ← s.prepareEvaluation tenant device plan
    let decision := plan.decide p runtime
    let s ← s.writeDecision decision
    return (s, decision.deliveries)

/-- Evaluates the rules and enqueues what they deliver, in one transaction. -/
def observe (p : Platform) (uuid : ℕ → String) (now : ℤ) (tenant device : String)
    (plan : Option DeviceRuleEvaluation) (s : Store) : Except PersistenceError (Store × ℕ) := do
  let (s, actions) ← s.evaluateRulesInTransaction p tenant device plan
  let (outbox, count) ← s.outbox.enqueueActionsInTransaction p uuid now actions
  return ({ s with outbox := outbox }, count)

section

variable {p : Platform} {uuid : ℕ → String} {now : ℤ} {tenant device : String} {s s' : Store}

theorem writeZoneEntry_eq_ok {entry : ZoneEntryMutation} (h : s.writeZoneEntry entry = .ok s') :
    ∃ zoneEntries, s' = { s with zoneEntries := zoneEntries } := by
  unfold writeZoneEntry at h
  cases henteredAt : entry.enteredAt with
  | none =>
    rw [henteredAt] at h
    cases h
    exact ⟨_, rfl⟩
  | some time =>
    simp only [henteredAt] at h
    split at h
    · cases h
    · cases h
      exact ⟨_, rfl⟩

theorem foldlM_writeZoneEntry_eq_ok {entries : List ZoneEntryMutation}
    (h : entries.foldlM writeZoneEntry s = .ok s') :
    ∃ zoneEntries, s' = { s with zoneEntries := zoneEntries } := by
  induction entries generalizing s with
  | nil =>
    cases h
    exact ⟨_, rfl⟩
  | cons entry entries ih =>
    rw [List.foldlM_cons] at h
    obtain ⟨s₁, hentry, hrest⟩ := of_bind_ok h
    obtain ⟨_, rfl⟩ := writeZoneEntry_eq_ok hentry
    obtain ⟨zoneEntries, rfl⟩ := ih hrest
    exact ⟨zoneEntries, rfl⟩

theorem foldl_writeCooldown (cooldowns : List CooldownRecord) (s : Store) :
    cooldowns.foldl writeCooldown s =
      { s with cooldowns := (cooldowns.foldl writeCooldown s).cooldowns } := by
  induction cooldowns generalizing s with
  | nil => rfl
  | cons c cooldowns ih =>
    rw [List.foldl_cons, ih]
    rfl

theorem prepareEvaluation_eq_ok {plan : DeviceRuleEvaluation}
    {prepared : DeviceRuleEvaluation × DeviceRuleRuntime}
    (h : s.prepareEvaluation tenant device plan = .ok prepared) :
    plan.tenant = tenant ∧ plan.deviceId = device ∧ ∃ target, s.device? tenant device = some target ∧
      prepared = (s.retarget target plan,
        s.deviceRuleRuntime tenant device (s.retarget target plan).candidateRuleIds) := by
  unfold prepareEvaluation at h
  split at h
  next => cases h
  next hscope =>
    push Not at hscope
    split at h
    next => cases h
    next target htarget =>
      cases h
      exact ⟨hscope.1, hscope.2, target, htarget, rfl⟩

/-- A committed observation decided on what it read, wrote cooldowns and zone
entries, and offered its deliveries to the outbox; nothing else changed. -/
theorem observe_eq_ok {plan : DeviceRuleEvaluation} {count : ℕ}
    (h : s.observe p uuid now tenant device (some plan) = .ok (s', count)) :
    ∃ prepared runtime zoneEntries,
      s.prepareEvaluation tenant device plan = .ok (prepared, runtime) ∧
      s' = { s with
        cooldowns := ((prepared.decide p runtime).cooldowns.foldl writeCooldown s).cooldowns
        zoneEntries := zoneEntries
        outbox := s.outbox.enqueueRows
          ((prepared.decide p runtime).deliveries.zipIdx.map (OutboxRow.ofAction p uuid now)) } := by
  obtain ⟨⟨s₁, actions⟩, hevaluate, hrest⟩ := of_bind_ok h
  obtain ⟨⟨outbox, n⟩, henqueue, hreturn⟩ := of_bind_ok hrest
  cases hreturn
  obtain ⟨⟨prepared, runtime⟩, hprepare, hwrite⟩ := of_bind_ok hevaluate
  obtain ⟨s₂, hdecision, hreturn⟩ := of_bind_ok hwrite
  cases hreturn
  obtain ⟨zoneEntries, rfl⟩ := foldlM_writeZoneEntry_eq_ok hdecision
  rw [foldl_writeCooldown] at henqueue ⊢
  obtain rfl := Outbox.enqueueActionsInTransaction_eq_ok henqueue
  exact ⟨prepared, runtime, zoneEntries, hprepare, rfl⟩

end

end Store

end Extrittio
