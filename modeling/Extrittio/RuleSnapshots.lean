import Extrittio.RuleEngine.Evaluate

/-!
Prepared evaluations. Definitions and input are fixed before the ingress
transaction; `decide` adds the runtime rows read inside it and separates what
is delivered later from the runtime state that the transaction itself writes.
-/
namespace Extrittio

inductive RuleEvaluationInput where
  | status (change : StatusChange)
  | telemetry (data : TelemetryData) (geofence : Bool)

/-- Definitions and input of one observation of a device. -/
structure DeviceRuleEvaluation where
  snapshot : RuleCache
  tenant : String
  deviceId : String
  fleetId : Option ℤ
  blueprintId : Option String
  blueprintRevisionId : Option String
  input : RuleEvaluationInput
  observedAt : ℤ

/-- Device-scoped rows read while the write transaction is held. -/
structure DeviceRuleRuntime where
  liveRuleIds : List String
  activeAlerts : RuleDeviceKey → Option String
  cooldowns : RuleDeviceKey → Option ℤ
  zoneEntries : RuleDeviceKey → Option ℤ

structure CooldownRecord where
  tenantId : String
  ruleId : String
  deviceId : String
  lastFiredAt : ℤ
  deriving DecidableEq

structure ZoneEntryMutation where
  tenantId : String
  ruleId : String
  deviceId : String
  enteredAt : Option ℤ
  deriving DecidableEq

structure DeviceRuleDecision where
  deliveries : List PendingAction
  cooldowns : List CooldownRecord
  zoneEntries : List ZoneEntryMutation

namespace PendingAction

def isDelivery : PendingAction → Bool
  | .updateCooldown .. | .updateZoneEntry .. => false
  | _ => true

def cooldown? : PendingAction → Option CooldownRecord
  | .updateCooldown tenantId ruleId deviceId firedAt => some ⟨tenantId, ruleId, deviceId, firedAt⟩
  | _ => none

def zoneEntry? : PendingAction → Option ZoneEntryMutation
  | .updateZoneEntry tenantId ruleId deviceId enteredAt =>
    some ⟨tenantId, ruleId, deviceId, enteredAt⟩
  | _ => none

end PendingAction

namespace DeviceRuleEvaluation

def candidates (plan : DeviceRuleEvaluation) : List CachedRule :=
  plan.snapshot.rulesForTenantDevice plan.tenant plan.deviceId (plan.fleetId.map toString)
    plan.blueprintId

def candidateRuleIds (plan : DeviceRuleEvaluation) : List String := plan.candidates.map (·.id)

def runtimeCache (plan : DeviceRuleEvaluation) (runtime : DeviceRuleRuntime) : RuleCache :=
  { plan.snapshot.definitionsOnly.restrictToRuleIds runtime.liveRuleIds with
    activeAlerts := runtime.activeAlerts
    cooldowns := runtime.cooldowns
    zoneEntryTimes := runtime.zoneEntries }

def actions (p : Platform) (plan : DeviceRuleEvaluation) (cache : RuleCache) :
    List PendingAction :=
  match plan.input with
  | .status change =>
    evaluateStatusChangeForTenantAt p change plan.tenant plan.deviceId plan.fleetId
      plan.blueprintId cache plan.observedAt
  | .telemetry data geofence =>
    evaluateTelemetryForTenantRevisionAt p plan.blueprintId plan.blueprintRevisionId data
      plan.tenant plan.deviceId plan.fleetId cache plan.observedAt ++
    if geofence then
      evaluateGeofenceForTenantAt p plan.tenant plan.deviceId plan.fleetId plan.blueprintId data
        cache plan.observedAt
    else []

def decide (p : Platform) (plan : DeviceRuleEvaluation) (runtime : DeviceRuleRuntime) :
    DeviceRuleDecision :=
  let actions := plan.actions p (plan.runtimeCache runtime)
  { deliveries := actions.filter PendingAction.isDelivery
    cooldowns := actions.filterMap PendingAction.cooldown?
    zoneEntries := actions.filterMap PendingAction.zoneEntry? }

/-- The rules that a decision runs over: candidates whose identity is live. -/
def liveRules (plan : DeviceRuleEvaluation) (runtime : DeviceRuleRuntime) : List CachedRule :=
  (plan.runtimeCache runtime).rulesForTenantDevice plan.tenant plan.deviceId
    (plan.fleetId.map toString) plan.blueprintId

end DeviceRuleEvaluation

end Extrittio
