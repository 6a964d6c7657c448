import Extrittio.Delivery.Unattended
import Extrittio.Library.Template

/-!
The triggered value of an open alert. Every observation that meets the rule's
conditions asks for an update of the value; an update is dropped if an
undelivered one has the same key, which is made of the alert and the hash of the
value. Deliveries run in the order of the claims.
-/
namespace Extrittio

open Relational Transition List Option DeviceRuleEvaluation

def geofenceMet (p : Platform) (cache : RuleCache) (rule : CachedRule) (deviceId : String) (now : ℤ)
    (latitude longitude : F64) : Bool :=
  match (rule.conditions.head?.bind (·.zoneId)).bind cache.definitions.zones with
  | none => false
  | some zone =>
    let inside := p.pointInZone latitude longitude zone.geometry
    let targetInside := (rule.conditions.find? fun c => c.field = "zone_state").any
      fun c => c.value = "inside"
    let dwellSeconds := ((rule.conditions.find? fun c => c.field = "dwell_seconds").bind
      fun c => parseI64 c.value).getD 0
    let key := (rule.tenantId, rule.id, deviceId)
    let wasInside := (cache.zoneEntryTimes key).isSome
    let insideLongEnough := dwellSeconds = 0 ||
      (cache.zoneEntryTimes key).any fun enteredAt => numSeconds (now - enteredAt) ≥ dwellSeconds
    inside == targetInside &&
      if targetInside then insideLongEnough else wasInside || (cache.activeAlerts key).isSome

section

variable {cache : RuleCache} {rule : CachedRule} {deviceId alertId : String} {now : ℤ}

variable {tenant id value : String}

theorem update_mem_respond_iff
    (h : cache.activeAlerts (rule.tenantId, rule.id, deviceId) = some alertId) (hne : alertId ≠ "")
    {met recovered : Bool} {current : String} {firing : Firing} :
    .updateAlertValue tenant id value ∈ respond cache rule deviceId now met recovered current firing ↔
      met ∧ tenant = rule.tenantId ∧ id = alertId ∧ value = current := by
  cases met <;> cases recovered <;> simp [respond, h, hne]

theorem update_mem_geofenceRuleActions_iff {p : Platform}
    (h : cache.activeAlerts (rule.tenantId, rule.id, deviceId) = some alertId) (hne : alertId ≠ "")
    {latitude longitude : F64} :
    .updateAlertValue tenant id value ∈
        geofenceRuleActions p cache rule deviceId now latitude longitude ↔
      geofenceMet p cache rule deviceId now latitude longitude ∧ tenant = rule.tenantId ∧
        id = alertId ∧ value = s!"{p.displayF64 latitude},{p.displayF64 longitude}" := by
  simp only [geofenceRuleActions, geofenceMet]
  cases (rule.conditions.head?.bind (·.zoneId)).bind cache.definitions.zones with
  | none => simp
  | some zone =>
    simp only [mem_append]
    rw [update_mem_respond_iff h hne, or_iff_right]
    intro hmutation
    split_ifs at hmutation <;> simp at hmutation

end

namespace DeviceRuleEvaluation

variable {p : Platform} {plan : DeviceRuleEvaluation} {cache : RuleCache} {rule : CachedRule}

/-- The value that an observation carries, if it meets the conditions of the rule. -/
def metValue (p : Platform) (plan : DeviceRuleEvaluation) (cache : RuleCache) (rule : CachedRule) :
    Option String :=
  match plan.input with
  | .status change =>
    if statusVerdict p change rule = some true then some change.newStatus else none
  | .telemetry data geofence =>
    if telemetryVerdict p plan.blueprintId plan.blueprintRevisionId data rule = some true then
      some ((triggeredValueFor p rule.conditions data).getD "")
    else if geofence ∧ compileTrigger rule.triggerType = some .geofence then
      (validLocation data).bind fun location =>
        if geofenceMet p cache rule plan.deviceId plan.observedAt location.1 location.2 then
          some s!"{p.displayF64 location.1},{p.displayF64 location.2}"
        else none
    else none

theorem update_mem_answer_iff {alertId : String}
    (h : cache.activeAlerts (rule.tenantId, rule.id, plan.deviceId) = some alertId)
    (hne : alertId ≠ "") {tenant id value : String} :
    .updateAlertValue tenant id value ∈ plan.answer p cache rule ↔
      tenant = rule.tenantId ∧ id = alertId ∧ plan.metValue p cache rule = some value := by
  by_cases htrigger : compileTrigger rule.triggerType = some .geofence
  · have hverdict : plan.verdict p rule = none := verdict_of_geofence htrigger
    rw [answer, hverdict, elim_none, nil_append, metValue]
    cases hinput : plan.input with
    | status change =>
      simp only [verdict, hinput] at hverdict
      simp [hverdict]
    | telemetry data geofence =>
      simp only [verdict, hinput] at hverdict
      cases geofence with
      | false => simp [hverdict]
      | true =>
        cases hlocation : validLocation data with
        | none => simp [geofenceAnswer, hlocation, hverdict]
        | some location =>
          obtain ⟨latitude, longitude⟩ := location
          simp only [geofenceAnswer, hlocation, hverdict, htrigger, not_true_eq_false, ne_eq,
            if_false, update_mem_geofenceRuleActions_iff h hne, reduceCtorEq, and_self, if_true,
            bind_some]
          split_ifs with hmet <;> simp [hmet, eq_comm]
  · rw [answer_of_not_geofence htrigger, metValue]
    cases hinput : plan.input with
    | status change =>
      have hverdict : plan.verdict p rule = statusVerdict p change rule := by simp [verdict, hinput]
      rw [hverdict]
      cases hmet : statusVerdict p change rule with
      | none => simp [hmet]
      | some met =>
        simp only [elim_some, verdictAnswer, hinput, update_mem_respond_iff h hne]
        cases met <;> simp [hmet, eq_comm]
    | telemetry data geofence =>
      have hverdict : plan.verdict p rule =
          telemetryVerdict p plan.blueprintId plan.blueprintRevisionId data rule := by
        simp [verdict, hinput]
      rw [hverdict]
      cases hmet : telemetryVerdict p plan.blueprintId plan.blueprintRevisionId data rule with
      | none => simp [hmet, htrigger]
      | some met =>
        simp only [elim_some, verdictAnswer, hinput, update_mem_respond_iff h hne]
        cases met <;> simp [hmet, htrigger, eq_comm]

end DeviceRuleEvaluation

/-- An alert, with the rule and device that it is open for. -/
structure AlertIdentity where
  tenant : String
  id : String
  rule : String
  device : String

namespace AlertIdentity

variable {a : AlertIdentity} {p : Platform} {s : Store} {plan : DeviceRuleEvaluation}

/-- The alert is open, and no other is for its rule and device. -/
structure OpenIn (a : AlertIdentity) (s : Store) : Prop where
  stored : ∃ x ∈ s.alerts, x.id = a.id ∧ x.occupies a.tenant a.rule a.device = true
  single : ∀ x ∈ s.alerts, x.occupies a.tenant a.rule a.device = true → x.id = a.id

/-- The value that an evaluation carries for the alert, if it met the conditions
of its rule. -/
def carried (a : AlertIdentity) (p : Platform) (plan : DeviceRuleEvaluation)
    (runtime : DeviceRuleRuntime) : Option String :=
  if plan.tenant = a.tenant ∧ plan.deviceId = a.device then
    ((plan.liveRules runtime).find? (·.id = a.rule)).bind
      (plan.metValue p (plan.runtimeCache runtime))
  else none

theorem OpenIn.activeAlerts (h : a.OpenIn s) (candidates : List String) :
    (s.deviceRuleRuntime a.tenant a.device candidates).activeAlerts (a.tenant, a.rule, a.device) =
      some a.id := by
  obtain ⟨x, hx, hid, hoccupies⟩ := h.stored
  simp only [Store.deviceRuleRuntime, and_self, if_true]
  cases hnewest : s.newestAlert (AlertRow.occupies a.tenant a.rule a.device) with
  | none => simp [Store.newestAlert_eq_none.mp hnewest x hx] at hoccupies
  | some y =>
    obtain ⟨hy, hoccupies'⟩ := Store.mem_of_newestAlert hnewest
    rw [map_some, h.single y hy hoccupies']

theorem OpenIn.of_activeAlerts (h : a.OpenIn s) {tenant device rule : String}
    (candidates : List String)
    (hactive : (s.deviceRuleRuntime tenant device candidates).activeAlerts (tenant, rule, device) =
      some a.id) : tenant = a.tenant ∧ rule = a.rule ∧ device = a.device := by
  obtain ⟨x, hx, hid, hoccupies⟩ := h.stored
  simp only [Store.deviceRuleRuntime, and_self, if_true] at hactive
  obtain ⟨y, hnewest, hid'⟩ := map_eq_some_iff.mp hactive
  obtain ⟨hy, hoccupies'⟩ := Store.mem_of_newestAlert hnewest
  obtain rfl := s.alerts.eq_of_key_eq hy hx (hid'.trans hid.symm)
  obtain ⟨htenant, hrule, hdevice, -⟩ := AlertRow.occupies_iff.mp hoccupies
  obtain ⟨htenant', hrule', hdevice', -⟩ := AlertRow.occupies_iff.mp hoccupies'
  exact ⟨htenant'.symm.trans htenant, Option.some.inj (hrule'.symm.trans hrule),
    hdevice'.symm.trans hdevice⟩

variable {candidates : List String} {value : String}

theorem OpenIn.of_update_mem_answer (h : a.OpenIn s) {rule : CachedRule}
    (hrule : rule ∈ plan.liveRules (s.deviceRuleRuntime plan.tenant plan.deviceId candidates))
    (hmem : .updateAlertValue a.tenant a.id value ∈ plan.answer p
      (plan.runtimeCache (s.deviceRuleRuntime plan.tenant plan.deviceId candidates)) rule) :
    plan.tenant = a.tenant ∧ rule.id = a.rule ∧ plan.deviceId = a.device := by
  obtain ⟨zone, body, heq, hzone, hbody⟩ := plan.answer_responds p _ rule
  rw [heq] at hmem
  rcases mem_append.mp hmem with hz | hb
  · obtain ⟨_, hentry⟩ := hzone _ hz
    cases hentry
  · cases hbody with
    | silent => cases hb
    | resolve => cases mem_singleton.mp hb
    | fire firing =>
      rcases mem_append.mp hb with hb | hb
      · obtain ⟨compiled, -, hfired⟩ := List.mem_map.mp hb
        unfold firedAction at hfired
        split at hfired <;> cases hfired
      · cases mem_singleton.mp hb
    | update alertId current hne hactive =>
      have heq := mem_singleton.mp hb
      simp only [PendingAction.updateAlertValue.injEq] at heq
      rw [tenantId_of_liveRules hrule, ← heq.2.1] at hactive
      exact h.of_activeAlerts candidates hactive

/-- An observation asks for an update of the open alert exactly if it meets the
conditions of its rule, and to the value it carries. -/
theorem OpenIn.update_mem_deliveries_iff (h : a.OpenIn s) (hne : a.id ≠ "")
    (hdistinct : plan.snapshot.Distinct) :
    let runtime := s.deviceRuleRuntime plan.tenant plan.deviceId candidates
    .updateAlertValue a.tenant a.id value ∈ (plan.decide p runtime).deliveries ↔
      a.carried p plan runtime = some value := by
  intro runtime
  have hactive : ∀ rule ∈ plan.liveRules runtime, plan.tenant = a.tenant → rule.id = a.rule →
      plan.deviceId = a.device →
      (plan.runtimeCache runtime).activeAlerts (rule.tenantId, rule.id, plan.deviceId) = some a.id := by
    intro rule hrule htenant hid hdevice
    rw [tenantId_of_liveRules hrule, hid, htenant, hdevice]
    show (s.deviceRuleRuntime plan.tenant plan.deviceId candidates).activeAlerts _ = _
    rw [htenant, hdevice]
    exact h.activeAlerts candidates
  rw [mem_deliveries]
  constructor
  · rintro ⟨-, rule, hrule, hmem⟩
    obtain ⟨htenant, hid, hdevice⟩ := h.of_update_mem_answer hrule hmem
    have hfind : (plan.liveRules runtime).find? (·.id = a.rule) = some rule := by
      cases hfound : (plan.liveRules runtime).find? (·.id = a.rule) with
      | none =>
        have hnone := List.find?_eq_none.mp hfound rule hrule
        simp [hid] at hnone
      | some found =>
        have hfoundId : found.id = a.rule := by simpa using find?_some hfound
        rw [inj_on_of_nodup_map (liveRules_nodup hdistinct)
          (mem_of_find?_eq_some hfound) hrule (hfoundId.trans hid.symm)]
    rw [carried, if_pos ⟨htenant, hdevice⟩, hfind, bind_some]
    exact ((update_mem_answer_iff (hactive rule hrule htenant hid hdevice)
      hne).mp hmem).2.2
  · intro hcarried
    simp only [carried] at hcarried
    split_ifs at hcarried with hscope
    obtain ⟨rule, hfind, hmet⟩ := bind_eq_some_iff.mp hcarried
    have hrule := mem_of_find?_eq_some hfind
    have hid : rule.id = a.rule := by simpa using find?_some hfind
    refine ⟨rfl, rule, hrule, ?_⟩
    exact (update_mem_answer_iff
      (hactive rule hrule hscope.1 hid hscope.2) hne).mpr
      ⟨hscope.1.symm.trans (tenantId_of_liveRules hrule).symm, rfl, hmet⟩

end AlertIdentity

end Extrittio
