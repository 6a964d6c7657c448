import Extrittio.RuleEngine.Model

/-!
Rule evaluation. The telemetry, status and geofence evaluators select rules the
same way and answer a verdict the same way; they differ in how the verdict is
reached and in the texts of what they emit. `respond` and `fire` are that common
part, `telemetryVerdict` and `statusVerdict` the part of each trigger.
-/
namespace Extrittio

/-- Reads an observed metric. Missing fields never acquire a synthetic value. -/
def getFieldValue (field : String) (data : TelemetryData) : Option MetricNumber :=
  (data.metrics.lookup field).filter MetricNumber.isFinite

def evaluateCondition (p : Platform) (condition : CachedCondition) (data : TelemetryData) : Bool :=
  match getFieldValue condition.field data, compileOperator condition.operator,
      MetricNumber.parse p condition.value with
  | some value, some operator, some threshold =>
    match value.compare threshold with
    | some ordering =>
      match operator with
      | .gt => ordering.isGT
      | .gte => ordering.isGE
      | .lt => ordering.isLT
      | .lte => ordering.isLE
      | .eq => ordering.isEq
      | .neq => !ordering.isEq
    | none => false
  | _, _, _ => false

/-- Only `eq` and `neq` are meaningful for a status. -/
def evaluateStatusCondition (p : Platform) (condition : CachedCondition) (newStatus : String) :
    Bool :=
  match compileCondition p condition with
  | none => false
  | some compiled =>
    if compiled.field = .status then
      match compiled.operator with
      | .eq => compiled.value = newStatus
      | .neq => compiled.value ≠ newStatus
      | _ => false
    else false

/-- Whether a rule and device are within the rule's cooldown window. -/
def isInCooldownForTenantAt (cache : RuleCache) (tenantId ruleId deviceId : String)
    (cooldownSeconds now : ℤ) : Bool :=
  if cooldownSeconds ≤ 0 then false
  else match cache.cooldowns (tenantId, ruleId, deviceId) with
    | some lastFired => numSeconds (now - lastFired) < cooldownSeconds
    | none => false

def trimEndMatches (c : Char) (text : String) : String :=
  String.ofList (text.toList.reverse.dropWhile (· == c)).reverse

/-- A float without trailing zeros, at four decimals. -/
def formatValue (p : Platform) (val : F64) : String :=
  let whole := match val with
    | .finite q => decide (q.den = 1)
    | _ => false
  if whole then p.displayF64Fixed 0 val
  else trimEndMatches '.' (trimEndMatches '0' (p.displayF64Fixed 4 val))

def MetricNumber.display (p : Platform) : MetricNumber → String
  | .integer value => toString value
  | .float value => formatValue p value

def operatorPhrase (operator : String) : String :=
  match compileOperator operator with
  | some .gt | some .gte => "exceeded"
  | some .lt | some .lte => "dropped below"
  | some .eq => "equals"
  | some .neq => "is not"
  | none => "triggered"

def buildAlertMessage (p : Platform) (conditions : List CachedCondition) (data : TelemetryData) :
    String :=
  " AND ".intercalate (conditions.map fun c =>
    let phrase := operatorPhrase c.operator
    match getFieldValue c.field data with
    | some val => s!"{c.field} ({val.display p}) {phrase} {c.value}"
    | none => s!"{c.field} {phrase} {c.value}")

def buildStatusAlertMessage (newStatus : String) : String := s!"status changed to {newStatus}"

def triggeredValueFor (p : Platform) (conditions : List CachedCondition) (data : TelemetryData) :
    Option String :=
  (conditions.head?.bind fun c => getFieldValue c.field data).map fun value => value.display p

def configText (config : Json) (name fallback : String) : String :=
  ((config.get name).bind Json.asStr).getD fallback

/-- The texts by which the firings of the three triggers differ. -/
structure Firing where
  message : String
  triggeredValue : Option String
  /-- The `X-Extrittio-Event` header. -/
  event : String
  payload : Json

/-- One pending action per rule action that compiles. -/
def firedAction (rule : CachedRule) (deviceId : String) (firing : Firing)
    (action : CompiledAction) : PendingAction :=
  match action.kind with
  | .alert =>
    .createAlert rule.tenantId rule.id deviceId (configText action.config "severity" "warning")
      firing.message firing.triggeredValue
  | .webhook =>
    .sendWebhook rule.tenantId (configText action.config "url" "")
      [("X-Extrittio-Event", firing.event)] firing.payload
  | .command =>
    .sendCommand rule.tenantId deviceId (configText action.config "command" "")
      ((action.config.get "params").getD .null)

/-- What a firing rule emits: its actions in order, then its cooldown. -/
def fire (rule : CachedRule) (deviceId : String) (now : ℤ) (firing : Firing) :
    List PendingAction :=
  (rule.actions.filterMap compileAction).map (firedAction rule deviceId firing) ++
    [.updateCooldown rule.tenantId rule.id deviceId now]

/-- The answer to a verdict on a rule. An empty alert id stands for a creation
in flight: such a rule neither updates nor resolves. -/
def respond (cache : RuleCache) (rule : CachedRule) (deviceId : String) (now : ℤ)
    (conditionsMet recovered : Bool) (currentValue : String) (firing : Firing) :
    List PendingAction :=
  let existingAlertId := cache.activeAlerts (rule.tenantId, rule.id, deviceId)
  if conditionsMet then
    match existingAlertId with
    | some alertId =>
      if alertId = "" then [] else [.updateAlertValue rule.tenantId alertId currentValue]
    | none =>
      if isInCooldownForTenantAt cache rule.tenantId rule.id deviceId rule.cooldownSeconds now
      then [] else fire rule deviceId now firing
  else if recovered then
    match existingAlertId with
    | some alertId => if alertId = "" then [] else [.resolveAlert rule.tenantId alertId]
    | none => []
  else []

/-- `json!` of what every webhook carries, with the trigger's own fields. -/
def webhookPayload (p : Platform) (rule : CachedRule) (deviceId event : String) (now : ℤ)
    (location : List (String × Json)) (triggered : List (String × Json)) : Json :=
  .object ([("device", .object [("id", .string deviceId)]), ("event", .string event)] ++ location ++
    [("rule", .object [("id", .string rule.id), ("name", .string rule.name)]),
      ("timestamp", .string (p.toRfc3339 now))] ++ triggered)

section

variable (p : Platform) (blueprintId blueprintRevisionId : Option String) (data : TelemetryData)

/-- Whether the conditions hold, when the observation is evidence at all: the
rule is of this trigger, scoped to this contract, and every metric is present. -/
def telemetryVerdict (rule : CachedRule) : Option Bool :=
  if compileTrigger rule.triggerType ≠ some .telemetry then none
  else if rule.conditions.any fun condition =>
      condition.blueprintId.any (fun id => some id ≠ blueprintId) ||
        condition.blueprintRevisionId.any (fun id => some id ≠ blueprintRevisionId) then none
  else if rule.conditions.isEmpty ||
      rule.conditions.any fun condition => (getFieldValue condition.field data).isNone then none
  else some (rule.conditions.all fun c => evaluateCondition p c data)

def telemetryFiring (rule : CachedRule) (deviceId : String) (now : ℤ) : Firing where
  message := buildAlertMessage p rule.conditions data
  triggeredValue := triggeredValueFor p rule.conditions data
  event := "rule_triggered"
  payload := webhookPayload p rule deviceId "rule_triggered" now []
    [("trigger", .string "telemetry"),
      ("triggered_values", .object (data.metrics.map fun m => (m.1, m.2.toJson)))]

def evaluateTelemetryForTenantRevisionAt (tenantId deviceId : String) (fleetId : Option ℤ)
    (cache : RuleCache) (now : ℤ) : List PendingAction :=
  let rules := cache.rulesForTenantDevice tenantId deviceId (fleetId.map toString) blueprintId
  rules.flatMap fun rule =>
    match telemetryVerdict p blueprintId blueprintRevisionId data rule with
    | none => []
    | some conditionsMet =>
      respond cache rule deviceId now conditionsMet true
        ((triggeredValueFor p rule.conditions data).getD "") (telemetryFiring p data rule deviceId now)

end

section

variable (p : Platform) (change : StatusChange)

/-- Whether the conditions hold, for the rules a status change triggers. -/
def statusVerdict (rule : CachedRule) : Option Bool :=
  if compileTrigger rule.triggerType ≠ some .deviceStatus then none
  else some (rule.conditions.all fun c => evaluateStatusCondition p c change.newStatus)

def statusFiring (rule : CachedRule) (deviceId : String) (now : ℤ) : Firing where
  message := buildStatusAlertMessage change.newStatus
  triggeredValue := some change.newStatus
  event := "rule_triggered"
  payload := webhookPayload p rule deviceId "rule_triggered" now []
    [("trigger", .string "device_status"),
      ("triggered_values", .object [("status", .string change.newStatus)])]

def evaluateStatusChangeForTenantAt (tenantId deviceId : String) (fleetId : Option ℤ)
    (blueprintId : Option String) (cache : RuleCache) (now : ℤ) : List PendingAction :=
  let rules := cache.rulesForTenantDevice tenantId deviceId (fleetId.map toString) blueprintId
  rules.flatMap fun rule =>
    match statusVerdict p change rule with
    | none => []
    | some conditionsMet =>
      respond cache rule deviceId now conditionsMet true change.newStatus
        (statusFiring p change rule deviceId now)

end

section

variable (p : Platform)

def validLocation (data : TelemetryData) : Option (F64 × F64) := do
  let latitude ← data.latitude
  let longitude ← data.longitude
  if latitude.isFinite && longitude.isFinite && latitude.within (-90) 90 &&
      longitude.within (-180) 180 then
    some (latitude, longitude)
  else none

def geofenceFiring (rule : CachedRule) (zone : CachedZone) (targetInside : Bool) (deviceId : String)
    (now : ℤ) (latitude longitude : F64) : Firing :=
  let event := if targetInside then "geofence_entered" else "geofence_exited"
  let verb := if targetInside then "entered" else "exited"
  let lat := p.displayF64Fixed 6 latitude
  let lon := p.displayF64Fixed 6 longitude
  { message := s!"device {verb} zone '{zone.name}' at {lat},{lon}"
    triggeredValue := some s!"{p.displayF64 latitude},{p.displayF64 longitude}"
    event := event
    payload := webhookPayload p rule deviceId event now
      [("location", .object [("latitude", Json.ofF64 latitude),
        ("longitude", Json.ofF64 longitude)])] [] }

/-- The zone mutation and the answer of one geofence rule at a location. -/
def geofenceRuleActions (cache : RuleCache) (rule : CachedRule) (deviceId : String) (now : ℤ)
    (latitude longitude : F64) : List PendingAction :=
  match (rule.conditions.head?.bind (·.zoneId)).bind cache.definitions.zones with
  | none => []
  | some zone =>
    let inside := p.pointInZone latitude longitude zone.geometry
    let targetInside := (rule.conditions.find? fun c => c.field = "zone_state").any
      fun c => c.value = "inside"
    let dwellSeconds := ((rule.conditions.find? fun c => c.field = "dwell_seconds").bind
      fun c => parseI64 c.value).getD 0
    let key := (rule.tenantId, rule.id, deviceId)
    let wasInside := (cache.zoneEntryTimes key).isSome
    let insideLongEnough := dwellSeconds = 0 ||
      (cache.zoneEntryTimes key).any fun enteredAt => numSeconds (now - enteredAt) ≥ dwellSeconds
    let activeState := inside == targetInside
    let conditionsMet := activeState &&
      if targetInside then insideLongEnough else wasInside || (cache.activeAlerts key).isSome
    let mutation : List PendingAction :=
      if inside && !wasInside then
        [.updateZoneEntry rule.tenantId rule.id deviceId (some now)]
      else if !inside && wasInside then [.updateZoneEntry rule.tenantId rule.id deviceId none]
      else []
    mutation ++ respond cache rule deviceId now conditionsMet (!activeState)
      s!"{p.displayF64 latitude},{p.displayF64 longitude}"
      (geofenceFiring p rule zone targetInside deviceId now latitude longitude)

def evaluateGeofenceForTenantAt (tenantId deviceId : String) (fleetId : Option ℤ)
    (blueprintId : Option String) (data : TelemetryData) (cache : RuleCache) (now : ℤ) :
    List PendingAction :=
  match validLocation data with
  | none => []
  | some (latitude, longitude) =>
    let rules := cache.rulesForTenantDevice tenantId deviceId (fleetId.map toString) blueprintId
    rules.flatMap fun rule =>
      if compileTrigger rule.triggerType ≠ some .geofence then []
      else geofenceRuleActions p cache rule deviceId now latitude longitude

end

end Extrittio
