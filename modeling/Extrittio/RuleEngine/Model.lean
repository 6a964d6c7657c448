import Extrittio.Platform

/-!
Rule definitions, the compiler of their text fields, metric numbers and the
in-memory rule cache. Hash maps of the cache are functions into `Option`.
-/
namespace Extrittio

inductive RuleTrigger where
  | telemetry
  | deviceStatus
  | geofence
  deriving DecidableEq

inductive RuleTargetType where
  | global
  | blueprint
  | fleet
  | device
  deriving DecidableEq

inductive ConditionField where
  | metric
  | status
  | zone
  deriving DecidableEq

inductive ConditionOperator where
  | gt
  | gte
  | lt
  | lte
  | eq
  | neq
  deriving DecidableEq

inductive RuleActionKind where
  | alert
  | webhook
  | command
  deriving DecidableEq

structure CachedCondition where
  field : String
  blueprintId : Option String
  blueprintRevisionId : Option String
  operator : String
  value : String
  zoneId : Option String
  deriving DecidableEq

structure CachedAction where
  actionType : String
  config : Json
  deriving DecidableEq

structure CachedRule where
  tenantId : String
  id : String
  name : String
  triggerType : String
  targetType : String
  targetId : Option String
  cooldownSeconds : ℤ
  conditions : List CachedCondition
  actions : List CachedAction
  deriving DecidableEq

structure CachedZone where
  id : String
  name : String
  geometry : ZoneGeometry
  deriving DecidableEq

structure CompiledCondition where
  field : ConditionField
  operator : ConditionOperator
  value : String
  numericValue : Option F64
  zoneId : Option String

structure CompiledAction where
  kind : RuleActionKind
  config : Json
  deriving DecidableEq

def compileTrigger (value : String) : Option RuleTrigger :=
  match value with
  | "telemetry" => some .telemetry
  | "device_status" => some .deviceStatus
  | "geofence" => some .geofence
  | _ => none

def compileTargetType (value : String) : Option RuleTargetType :=
  match value with
  | "global" => some .global
  | "blueprint" => some .blueprint
  | "fleet" => some .fleet
  | "device" => some .device
  | _ => none

def compileOperator (value : String) : Option ConditionOperator :=
  match value with
  | "gt" => some .gt
  | "gte" => some .gte
  | "lt" => some .lt
  | "lte" => some .lte
  | "eq" => some .eq
  | "neq" => some .neq
  | _ => none

def compileActionKind (value : String) : Option RuleActionKind :=
  match value with
  | "alert" => some .alert
  | "webhook" => some .webhook
  | "command" => some .command
  | _ => none

def compileCondition (p : Platform) (condition : CachedCondition) : Option CompiledCondition := do
  let field ←
    if condition.field = "status" then some ConditionField.status
    else if condition.zoneId.isSome then some .zone
    else if condition.field ≠ "" then some .metric
    else none
  let operator ← compileOperator condition.operator
  return ⟨field, operator, condition.value, p.parseF64 condition.value, condition.zoneId⟩

def compileAction (action : CachedAction) : Option CompiledAction :=
  (compileActionKind action.actionType).map fun kind => ⟨kind, action.config⟩

/-- Numeric observations keep the type their blueprint declares. -/
inductive MetricNumber where
  | integer (value : ℤ)
  | float (value : F64)
  deriving DecidableEq

namespace MetricNumber

def isFinite : MetricNumber → Bool
  | .integer _ => true
  | .float value => value.isFinite

def parse (p : Platform) (value : String) : Option MetricNumber :=
  match parseI64 value with
  | some i => some (.integer i)
  | none => ((p.parseF64 value).filter F64.isFinite).map .float

def truncate (float : ℚ) : ℤ := float.num.tdiv float.den

/-- Compares without casting the integer to a float: adjacent counters above
`2 ^ 53` stay distinguishable. -/
def compareIntegerFloat (integer : ℤ) (float : ℚ) : Ordering :=
  if 9223372036854775808 ≤ float then .lt
  else if float < -9223372036854775808 then .gt
  else match compare integer (truncate float) with
    | .eq =>
      let fract := float - truncate float
      if 0 < fract then .lt else if fract < 0 then .gt else .eq
    | result => result

def compare : MetricNumber → MetricNumber → Option Ordering
  | .integer left, .integer right => some (Ord.compare left right)
  | .float (.finite left), .float (.finite right) => some (Ord.compare left right)
  | .integer left, .float (.finite right) => some (compareIntegerFloat left right)
  | .float (.finite left), .integer right => some (compareIntegerFloat right left).swap
  | _, _ => none

def toJson : MetricNumber → Json
  | .integer value => .integer value
  | .float value => Json.ofF64 value

end MetricNumber

structure TelemetryData where
  latitude : Option F64
  longitude : Option F64
  /-- Metrics by canonical stream field, in key order. -/
  metrics : List (String × MetricNumber)
  deriving DecidableEq

structure StatusChange where
  oldStatus : String
  newStatus : String
  deriving DecidableEq

/-- What evaluation asks the runtime to do. -/
inductive PendingAction where
  | createAlert (tenantId ruleId deviceId severity message : String)
      (triggeredValue : Option String)
  | updateAlertValue (tenantId alertId triggeredValue : String)
  | resolveAlert (tenantId alertId : String)
  | sendWebhook (tenantId url : String) (headers : List (String × String)) (payload : Json)
  | sendCommand (tenantId deviceId command : String) (params : Json)
  | updateCooldown (tenantId ruleId deviceId : String) (firedAt : ℤ)
  | updateZoneEntry (tenantId ruleId deviceId : String) (enteredAt : Option ℤ)
  deriving DecidableEq

abbrev RuleDeviceKey := String × String × String

structure RuleDefinitions where
  globalRules : List CachedRule
  byBlueprint : List CachedRule
  byFleet : List CachedRule
  byDevice : List CachedRule
  zones : String → Option CachedZone

/-- The rule cache: shared definitions and the runtime view of one evaluation. -/
structure RuleCache where
  definitions : RuleDefinitions
  ruleAllowlist : Option (List String)
  activeAlerts : RuleDeviceKey → Option String
  cooldowns : RuleDeviceKey → Option ℤ
  zoneEntryTimes : RuleDeviceKey → Option ℤ

def RuleDefinitions.default : RuleDefinitions := ⟨[], [], [], [], fun _ => none⟩

namespace RuleCache

/-- The same index with none of the runtime hints. -/
def definitionsOnly (cache : RuleCache) : RuleCache :=
  ⟨cache.definitions, none, fun _ => none, fun _ => none, fun _ => none⟩

def restrictToRuleIds (cache : RuleCache) (ids : List String) : RuleCache :=
  { cache with ruleAllowlist := some ids }

def rulesForTenantDevice (cache : RuleCache) (tenantId deviceId : String)
    (fleetId blueprintId : Option String) : List CachedRule :=
  let defs := cache.definitions
  let targeted (target : String) (rules : List CachedRule) :=
    rules.filter fun rule => rule.tenantId = tenantId ∧ rule.targetId = some target
  let applicable :=
    defs.globalRules.filter (fun rule => rule.tenantId = tenantId) ++
    (match blueprintId with
      | some id => targeted id defs.byBlueprint
      | none => []) ++
    (match fleetId with
      | some id => targeted id defs.byFleet
      | none => []) ++
    targeted deviceId defs.byDevice
  match cache.ruleAllowlist with
  | some ids => applicable.filter fun rule => rule.id ∈ ids
  | none => applicable

end RuleCache

/-- The rule replaces the one with its identity in a bucket, or is appended. -/
def insertInto (bucket : List CachedRule) (rule : CachedRule) : List CachedRule :=
  match bucket.findIdx? fun r => r.tenantId = rule.tenantId ∧ r.id = rule.id with
  | some i => bucket.set i rule
  | none => bucket ++ [rule]

def RuleDefinitions.insertRule (defs : RuleDefinitions) (rule : CachedRule) : RuleDefinitions :=
  match compileTargetType rule.targetType with
  | some .global => { defs with globalRules := insertInto defs.globalRules rule }
  | some .blueprint => { defs with byBlueprint := insertInto defs.byBlueprint rule }
  | some .fleet => { defs with byFleet := insertInto defs.byFleet rule }
  | some .device => { defs with byDevice := insertInto defs.byDevice rule }
  | none => defs

/-- Unindexed definitions loaded in one database snapshot. -/
structure RuleSnapshotRecords where
  rules : List CachedRule
  zones : String → Option CachedZone

def RuleSnapshotRecords.compile (records : RuleSnapshotRecords) : RuleCache :=
  let defs := records.rules.foldl RuleDefinitions.insertRule RuleDefinitions.default
  ⟨{ defs with zones := records.zones }, none, fun _ => none, fun _ => none, fun _ => none⟩

end Extrittio
