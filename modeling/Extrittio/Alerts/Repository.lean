import Extrittio.Store

/-!
The alert repository, its worker application and alert maintenance. Each
operation is one transaction: it returns the new store, or an error with the
store unchanged.
-/
namespace Extrittio

open Relational

namespace AlertRow

def isOpen (r : AlertRow) : Bool := r.status = .active || r.status = .acknowledged

def ageKey (r : AlertRow) : ℤ ×ₗ String := toLex (r.createdAt, r.id)

def occupies (tenant rule device : String) (r : AlertRow) : Bool :=
  r.tenantId = tenant && r.ruleId = some rule && r.deviceId = device && r.isOpen

def isNamed (tenant id : String) (r : AlertRow) : Bool := r.tenantId = tenant ∧ r.id = id

def setTriggeredValue (value : String) (r : AlertRow) : AlertRow :=
  { r with triggeredValue := some value }

end AlertRow

inductive AlertTransition where
  | acknowledge
  | resolve
  | reactivate
  deriving DecidableEq

namespace AlertTransition

def requiresActiveSlot : AlertTransition → Bool
  | .reactivate => true
  | _ => false

def accepts (tr : AlertTransition) (status : AlertStatus) : Bool :=
  match tr with
  | .acknowledge => status = .active
  | .resolve => status ≠ .resolved
  | .reactivate => status ≠ .active

def set (tr : AlertTransition) (now : ℤ) (r : AlertRow) : AlertRow :=
  match tr with
  | .acknowledge => { r with status := .acknowledged, acknowledgedAt := some now }
  | .resolve => { r with status := .resolved, resolvedAt := some now }
  | .reactivate => { r with status := .active, acknowledgedAt := none, resolvedAt := none }

@[simp] theorem set_id (tr : AlertTransition) (now : ℤ) (r : AlertRow) :
    (tr.set now r).id = r.id := by
  cases tr <;> rfl

@[simp] theorem set_tenantId (tr : AlertTransition) (now : ℤ) (r : AlertRow) :
    (tr.set now r).tenantId = r.tenantId := by
  cases tr <;> rfl

@[simp] theorem set_ruleId (tr : AlertTransition) (now : ℤ) (r : AlertRow) :
    (tr.set now r).ruleId = r.ruleId := by
  cases tr <;> rfl

@[simp] theorem set_deviceId (tr : AlertTransition) (now : ℤ) (r : AlertRow) :
    (tr.set now r).deviceId = r.deviceId := by
  cases tr <;> rfl

end AlertTransition

inductive AlertTransitionOutcome where
  | notFound
  | invalidStatus (status : AlertStatus)
  | activeConflict (existing : String)
  | updated (alert : AlertRow)

structure NewRuleAlertRecord where
  id : String
  ruleId : String
  deviceId : String
  severity : String
  message : String
  triggeredValue : Option String
  deriving DecidableEq

namespace Store

def getAlert (s : Store) (tenant id : String) : Option AlertRow :=
  (s.alerts.find? id).filter fun r => r.tenantId = tenant

/-- `ORDER BY created_at DESC, id DESC LIMIT 1` among the selected alerts. -/
def newestAlert (s : Store) (selected : AlertRow → Bool) : Option AlertRow :=
  (orderBy AlertRow.ageKey (s.alerts.rows.filter selected)).getLast?

/-- The alert of an applied delivery; inner `none` when it was deleted since. -/
def findDelivery (s : Store) (tenant delivery : String) : Option (Option AlertRow) :=
  ((s.deliveries.find? delivery).filter fun r => r.tenantId = tenant).map
    fun r => s.getAlert tenant r.alertId

/-- The receipt of a delivery; the outbox row owns its lifetime. -/
def recordDelivery (s : Store) (tenant delivery alert : String) : Except PersistenceError Store :=
  match s.deliveries.insert? ⟨delivery, tenant, alert⟩ with
  | none => .error (.uniqueViolation "unique")
  | some deliveries =>
    if (s.outbox.table.find? delivery).isNone then .error (.foreignKeyViolation "foreign_key")
    else .ok { s with deliveries := deliveries }

/-- `INSERT INTO alerts`, under the primary key and the rule and device references. -/
def insertAlert (s : Store) (r : AlertRow) : Except PersistenceError Store :=
  match s.alerts.insert? r with
  | none => .error (.uniqueViolation "unique")
  | some alerts =>
    if (s.device? r.tenantId r.deviceId).isNone ||
        r.ruleId.any fun rule => (s.rule? r.tenantId rule).isNone then
      .error (.foreignKeyViolation "foreign_key")
    else .ok { s with alerts := alerts }

def newAlert (tenant : String) (r : NewRuleAlertRecord) (now : ℤ) : AlertRow where
  id := r.id
  tenantId := tenant
  ruleId := some r.ruleId
  deviceId := r.deviceId
  severity := r.severity
  status := .active
  message := r.message
  triggeredValue := r.triggeredValue
  resolvedAt := none
  acknowledgedAt := none
  createdAt := now

/-- Applies a delivery once: reuses an open alert or inserts one, with a receipt.
The source looks the receipt up again under the write lock; within one
transaction both lookups read the same rows. -/
def createOrGetActive (s : Store) (tenant : String) (r : NewRuleAlertRecord) (now : ℤ) :
    Except PersistenceError (Store × Option AlertRow) :=
  match s.findDelivery tenant r.id with
  | some applied => .ok (s, applied)
  | none =>
    if (s.device? tenant r.deviceId).isNone then .error .notFound
    else
      match (s.getAlert tenant r.id).or (s.newestAlert (AlertRow.occupies tenant r.ruleId r.deviceId))
      with
      | some existing => do
        let s ← s.recordDelivery tenant r.id existing.id
        return (s, some existing)
      | none => do
        let s ← s.insertAlert (newAlert tenant r now)
        match s.getAlert tenant r.id with
        | none => .error .notFound
        | some alert =>
          let s ← s.recordDelivery tenant r.id alert.id
          return (s, some alert)

/-- Whether a row was updated. -/
def updateTriggeredValue (s : Store) (tenant id value : String) : Store × Bool :=
  let alerts := s.alerts.update (AlertRow.isNamed tenant id) (AlertRow.setTriggeredValue value)
    (fun _ => rfl)
  ({ s with alerts := alerts }, s.alerts.rows.countP (AlertRow.isNamed tenant id) == 1)

/-- Keeps the later of the stored and the new firing. -/
def upsertCooldown (s : Store) (tenant rule device : String) (firedAt : ℤ) : Store :=
  { s with
    cooldowns := s.cooldowns.upsert ⟨tenant, rule, device, firedAt⟩
      (fun r => { r with lastFiredAt := max r.lastFiredAt firedAt }) (fun _ => rfl) }

def deleteCooldown (s : Store) (tenant rule device : String) : Store :=
  { s with cooldowns := s.cooldowns.filter fun r => r.key ≠ (tenant, rule, device) }

/-- What a transition of a rule's alert does to the cooldown. -/
def transitionCooldown (s : Store) (tenant : String) (tr : AlertTransition) (alert : AlertRow)
    (now : ℤ) : Store :=
  match alert.ruleId, tr with
  | some rule, .resolve => s.upsertCooldown tenant rule alert.deviceId now
  | some rule, .reactivate => s.deleteCooldown tenant rule alert.deviceId
  | _, _ => s

def transitionFrom (s : Store) (tenant id : String) (tr : AlertTransition) (now : ℤ) :
    Except PersistenceError (Store × AlertTransitionOutcome) :=
  match s.getAlert tenant id with
  | none => .ok (s, .notFound)
  | some current =>
    if (s.device? tenant current.deviceId).isNone then .ok (s, .notFound)
    else if !tr.accepts current.status then .ok (s, .invalidStatus current.status)
    else
      let conflict := current.ruleId.bind fun rule =>
        if tr.requiresActiveSlot then
          s.newestAlert fun r => r.id ≠ id && r.occupies tenant rule current.deviceId
        else none
      match conflict with
      | some existing => .ok (s, .activeConflict existing.id)
      | none =>
        let alerts := s.alerts.update (AlertRow.isNamed tenant id) (tr.set now) (tr.set_id now)
        let s := { s with alerts := alerts }.transitionCooldown tenant tr current now
        match s.getAlert tenant id with
        | none => .error .notFound
        | some alert => .ok (s, .updated alert)

/-- One transition after another; alerts that do not take it are left out. -/
def transitionEach (tenant : String) (tr : AlertTransition) (now : ℕ → ℤ) :
    List (String × ℕ) → Store → Except PersistenceError (Store × List AlertRow)
  | [], s => .ok (s, [])
  | (id, i) :: ids, s => do
    let (s, outcome) ← s.transitionFrom tenant id tr (now i)
    let (s, rest) ← transitionEach tenant tr now ids s
    match outcome with
    | .updated alert => return (s, alert :: rest)
    | _ => return (s, rest)

/-- A bulk transition over the distinct ids in order; the `i`-th reads clock `now i`. -/
def transitionMany (s : Store) (tenant : String) (ids : List String) (tr : AlertTransition)
    (now : ℕ → ℤ) : Except PersistenceError (Store × List AlertRow) :=
  transitionEach tenant tr now (orderBy id ids.dedup).zipIdx s

def deleteAllResolvedBefore (s : Store) (cutoff : ℤ) : Store × ℕ :=
  let stale := fun r : AlertRow =>
    r.status = .resolved && r.resolvedAt.any (· < timestampMicros cutoff)
  ({ s with alerts := s.alerts.filter fun r => !stale r }, s.alerts.rows.countP stale)

def deleteStaleCooldowns (s : Store) (cutoff : ℤ) : Store × ℕ :=
  let stale := fun r : CooldownRow => decide (r.lastFiredAt < timestampMicros cutoff)
  ({ s with cooldowns := s.cooldowns.filter fun r => !stale r }, s.cooldowns.rows.countP stale)

end Store

namespace AlertMaintenance

/-- The cutoffs for alerts and cooldowns, or why there are none. -/
def pruneCutoffs (retentionDays : ℕ) (now : ℤ) : Except ApplicationError (ℤ × ℤ) :=
  match tryDays retentionDays with
  | none => .error (.invalidInput "alert retention period is out of range")
  | some age =>
    match checkedSub now age with
    | none => .error (.invalidInput "alert retention cutoff is out of range")
    | some cutoff =>
      match checkedSub now (24 * 3600000000000) with
      | none => .error (.invalidInput "cooldown retention cutoff is out of range")
      | some cooldownCutoff => .ok (cutoff, cooldownCutoff)

/-- Deletes old resolved alerts, then cooldowns that no rule can still be in. -/
def prune (retentionDays : ℕ) (now : ℤ) (s : Store) : Store × Except ApplicationError (ℕ × ℕ) :=
  match pruneCutoffs retentionDays now with
  | .error e => (s, .error e)
  | .ok (cutoff, cooldownCutoff) =>
    let (s, alerts) := s.deleteAllResolvedBefore cutoff
    let (s, cooldowns) := s.deleteStaleCooldowns cooldownCutoff
    (s, .ok (alerts, cooldowns))

theorem pruneCutoffs_eq_ok {retentionDays : ℕ} {now cutoff cooldownCutoff : ℤ}
    (h : pruneCutoffs retentionDays now = .ok (cutoff, cooldownCutoff)) :
    cooldownCutoff = now - 24 * 3600000000000 := by
  unfold pruneCutoffs at h
  split at h
  · cases h
  split at h
  · cases h
  split at h
  · cases h
  next cooldownCutoff' hcutoff =>
    cases h
    exact checkedSub_eq_some hcutoff

end AlertMaintenance

end Extrittio
