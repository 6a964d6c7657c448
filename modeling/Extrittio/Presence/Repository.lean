import Extrittio.RuleSystem
import Extrittio.Events.Ingress

/-!
The device ingress repository: what heartbeats and offline sweeps read of a
device, and the two transactions that write its status. Both are conditional on
the status that was read before; a status rule is evaluated in the transaction
that stores the new status.
-/
namespace Extrittio

open Relational

structure DeviceColumns where
  status : String
  firmware : String
  uptimeSeconds : ℤ
  lastSeen : Option ℤ
  updatedAt : ℤ
  deriving DecidableEq

/-- `device_logs`. -/
structure DeviceLogRow where
  tenantId : String
  deviceId : String
  level : String
  message : String
  createdAt : ℤ
  deriving DecidableEq

/-- The rule runtime with the columns of each device, by its id, and the logs. -/
structure PresenceStore where
  rules : RuleSystem
  columns : String → DeviceColumns
  logs : List DeviceLogRow

structure DeviceIngressContext where
  tenantId : String
  deviceId : String
  fleetId : Option ℤ
  blueprintId : Option String
  status : String
  deriving DecidableEq

structure HeartbeatWrite where
  expectedStatus : String
  status : String
  firmware : String
  uptimeSeconds : ℤ
  observedAt : ℤ
  ruleEvaluation : Option DeviceRuleEvaluation

structure OfflineTransition where
  context : DeviceIngressContext
  ruleEvaluation : Option DeviceRuleEvaluation

structure DeviceWriteOutcome where
  applied : Bool
  actionsEnqueued : ℕ
  deriving DecidableEq

structure OfflineWriteOutcome where
  devicesUpdated : ℕ
  actionsEnqueued : ℕ
  deriving DecidableEq

/-- `status <> 'offline' AND last_seen < cutoff`; a device never seen does not count. -/
def DeviceColumns.stale (cutoff : ℤ) (c : DeviceColumns) : Bool :=
  c.status ≠ "offline" && c.lastSeen.any (· < timestampMicros cutoff)

namespace PresenceStore

def status? (s : PresenceStore) (tenant device : String) : Option String :=
  (s.rules.store.device? tenant device).map fun _ => (s.columns device).status

def ingress (s : PresenceStore) (row : DeviceRow) : Except PersistenceError DeviceIngressContext := do
  (deviceIdentity row.tenantId row.id).mapError .corruptData
  return {
    tenantId := row.tenantId
    deviceId := row.id
    fleetId := row.fleetId
    blueprintId := s.rules.store.desiredBlueprint row.tenantId row.id
    status := (s.columns row.id).status }

def ingressContext (s : PresenceStore) (tenant device : String) :
    Except PersistenceError (Option DeviceIngressContext) :=
  match s.rules.store.device? tenant device with
  | none => .ok none
  | some row => (s.ingress row).map some

def setColumns (s : PresenceStore) (device : String) (f : DeviceColumns → DeviceColumns) :
    PresenceStore :=
  { s with columns := Function.update s.columns device (f (s.columns device)) }

def insertLog (s : PresenceStore) (row : DeviceLogRow) : PresenceStore :=
  { s with logs := s.logs ++ [row] }

/-- `evaluate_rules_in_transaction`, then `enqueue`. -/
def evaluate (p : Platform) (uuid : ℕ → String) (now : ℤ) (tenant device : String)
    (plan : Option DeviceRuleEvaluation) (s : PresenceStore) :
    Except PersistenceError (PresenceStore × ℕ) := do
  let (store, count) ← s.rules.store.observe p uuid now tenant device plan
  match plan with
  | none => return ({ s with rules := { s.rules with store := store } }, count)
  | some plan => return ({ s with rules := s.rules.observe p uuid now tenant device plan }, count)

/-- A heartbeat is written only over the status it was prepared against. -/
def applyHeartbeat (p : Platform) (uuid : ℕ → String) (now : ℤ) (tenant device : String)
    (write : HeartbeatWrite) (s : PresenceStore) :
    Except PersistenceError (PresenceStore × DeviceWriteOutcome) :=
  if s.status? tenant device = some write.expectedStatus then do
    let seen := timestampMicros write.observedAt
    let s := s.setColumns device fun _ =>
      ⟨write.status, write.firmware, write.uptimeSeconds, some seen, seen⟩
    let s := if write.expectedStatus ≠ write.status then
        s.insertLog ⟨tenant, device, "INFO",
          s!"Device status changed from {write.expectedStatus} to {write.status}", seen⟩
      else s
    let (s, count) ← s.evaluate p uuid now tenant device write.ruleEvaluation
    return (s, ⟨true, count⟩)
  else .ok (s, ⟨false, 0⟩)

def offlineCandidates (s : PresenceStore) (cutoff : ℤ) :
    Except PersistenceError (List DeviceIngressContext) :=
  (orderBy (fun r : DeviceRow => toLex (r.tenantId, r.id))
    (s.rules.store.devices.rows.filter fun r => (s.columns r.id).stale cutoff)).mapM s.ingress

/-- One turn of the loop over the transitions of a sweep. -/
def offlineTransition (p : Platform) (uuid : ℕ → ℕ → String) (now : ℕ → ℤ) (cutoff : ℤ)
    (acc : PresenceStore × OfflineWriteOutcome) (entry : OfflineTransition × ℕ) :
    Except PersistenceError (PresenceStore × OfflineWriteOutcome) :=
  let (s, outcome) := acc
  let (transition, index) := entry
  let tenant := transition.context.tenantId
  let device := transition.context.deviceId
  if s.status? tenant device = some transition.context.status ∧
      (s.columns device).stale cutoff = true then do
    let s := s.setColumns device fun c => { c with status := "offline" }
    let s := s.insertLog ⟨tenant, device, "WARN", "Device went offline (no heartbeat)",
      timestampMicros (now index)⟩
    let (s, count) ← s.evaluate p (uuid index) (now index) tenant device transition.ruleEvaluation
    return (s, ⟨outcome.devicesUpdated + 1, outcome.actionsEnqueued + count⟩)
  else .ok acc

/-- All transitions of a sweep in one transaction, or none of them. -/
def applyOfflineTransitions (p : Platform) (uuid : ℕ → ℕ → String) (now : ℕ → ℤ) (cutoff : ℤ)
    (transitions : List OfflineTransition) (s : PresenceStore) :
    Except PersistenceError (PresenceStore × OfflineWriteOutcome) :=
  (orderBy (fun t : OfflineTransition => toLex (t.context.tenantId, t.context.deviceId))
    transitions).zipIdx.foldlM (offlineTransition p uuid now cutoff) (s, ⟨0, 0⟩)

end PresenceStore

/-- The change that a status evaluation is about. -/
def RuleEvaluationInput.statusChange? : RuleEvaluationInput → Option StatusChange
  | .status change => some change
  | .telemetry .. => none

/-- The change of a device's status that a committed evaluation was about. -/
def Evaluation.statusChangeOf (tenant device : String) (e : Evaluation) : Option StatusChange :=
  if e.plan.tenant = tenant ∧ e.plan.deviceId = device then e.plan.input.statusChange? else none

/-- The status changes of a device that rules were evaluated on, newest first. -/
def RuleSystem.statusChanges (sys : RuleSystem) (tenant device : String) : List StatusChange :=
  sys.evaluations.filterMap (Evaluation.statusChangeOf tenant device)

/-- A plan evaluates the change from one status to another, if it is a change. -/
def PlannedFor (tenant device old new : String) (plan : Option DeviceRuleEvaluation) : Prop :=
  plan.map (fun plan => (plan.tenant, plan.deviceId, plan.input)) =
    if old = new then none else some (tenant, device, .status ⟨old, new⟩)

def changeBetween : Option String → Option String → List StatusChange
  | some old, some new => if old = new then [] else [⟨old, new⟩]
  | _, _ => []

@[simp] theorem changeBetween_self (status : Option String) : changeBetween status status = [] := by
  cases status <;> simp [changeBetween]

theorem reverse_changeBetween (old new : Option String) :
    (changeBetween old new).reverse = changeBetween old new := by
  unfold changeBetween
  split
  · split <;> rfl
  · rfl

theorem PlannedFor.changes {tenant device old new : String} {plan : Option DeviceRuleEvaluation}
    (h : PlannedFor tenant device old new plan) (tenant' device' : String) :
    (plan.toList.flatMap fun plan => if plan.tenant = tenant' ∧ plan.deviceId = device' then
      plan.input.statusChange?.toList else []) =
        if tenant = tenant' ∧ device = device' then changeBetween (some old) (some new) else [] := by
  unfold PlannedFor at h
  cases plan with
  | none =>
    split_ifs at h with heq
    · subst heq
      simp
    · cases h
  | some plan =>
    split_ifs at h with heq
    · cases h
    · obtain ⟨rfl, rfl, hinput⟩ : plan.tenant = tenant ∧ plan.deviceId = device ∧ _ := by
        simpa using h
      simp [hinput, RuleEvaluationInput.statusChange?, changeBetween, heq]

section

variable {p : Platform} {s s' : Store} {tenant device : String}

namespace Store

theorem transitionFrom_devices {id : String} {tr : AlertTransition} {now : ℤ}
    {outcome : AlertTransitionOutcome} (h : s.transitionFrom tenant id tr now = .ok (s', outcome)) :
    s'.devices = s.devices := by
  rcases transitionFrom_cases h with ⟨rfl, -⟩ | ⟨current, -, -, -, -, -, rfl⟩
  · rfl
  · unfold transitionCooldown
    split <;> rfl

theorem alertStep_devices (step : AlertStep) : (s.alertStep step).devices = s.devices := by
  cases step with
  | create tenant record now =>
    refine committed_induction (P := (·.devices = s.devices)) rfl fun s' result hok => ?_
    rcases createOrGetActive_cases hok with ⟨-, rfl⟩ | ⟨_, _, -, -, -, -, rfl⟩ |
      ⟨_, _, -, -, -, -, rfl⟩ <;> rfl
  | transition tenant id tr now =>
    exact committed_induction (P := (·.devices = s.devices)) rfl
      fun _ _ hok => transitionFrom_devices hok
  | transitionMany tenant ids tr now =>
    refine committed_induction (P := (·.devices = s.devices)) rfl fun _ _ hok => ?_
    exact transitionEach_induction (P := (·.devices = s.devices))
      (fun _ _ _ _ _ hs hok => (transitionFrom_devices hok).trans hs) hok rfl
  | deleteResolved cutoff => rfl

theorem observe_devices {uuid : ℕ → String} {now : ℤ} {plan : Option DeviceRuleEvaluation} {count : ℕ}
    (h : s.observe p uuid now tenant device plan = .ok (s', count)) : s'.devices = s.devices := by
  cases plan with
  | none =>
    obtain ⟨⟨s₁, actions⟩, hevaluate, hrest⟩ := of_bind_ok h
    cases hevaluate
    obtain ⟨⟨outbox, n⟩, -, hreturn⟩ := of_bind_ok hrest
    cases hreturn
    rfl
  | some plan =>
    obtain ⟨_, _, _, -, rfl⟩ := observe_eq_ok h
    rfl

end Store

theorem RuleDelivery.attempt_devices (external : PendingAction → Except String Unit) (now : ℤ)
    (event : OutboxEventRecord) : (attempt p external now event s).1.devices = s.devices := by
  have heffect := attempt_effect p external now event s
  generalize (attempt p external now event s).1 = s' at heffect
  generalize (attempt p external now event s).2.1 = result at heffect
  cases heffect with
  | refused | sent | known | reused | created | updated => rfl
  | resolved tenant id current =>
    unfold Store.transitionCooldown
    split <;> rfl

namespace RuleSystem

variable {sys : RuleSystem}

theorem observe_devices (uuid : ℕ → String) (now : ℤ) (plan : DeviceRuleEvaluation) :
    (sys.observe p uuid now tenant device plan).store.devices = sys.store.devices := by
  rcases sys.observe_effect p uuid now tenant device plan with h | ⟨_, _, _, _, -, -, -, h⟩ <;> rw [h]

theorem apply_devices (step : RuleStep) : (sys.apply p step).store.devices = sys.store.devices := by
  cases step with
  | observe uuid now tenant device plan => exact observe_devices uuid now plan
  | claim workerId uuid limit lease now =>
    simp only [apply, claim]
    split <;> rfl
  | attempt external now event => exact RuleDelivery.attempt_devices external now event
  | report event result now =>
    obtain ⟨result | _, _⟩ := result <;> rfl
  | transition tenant id tr now => exact Store.alertStep_devices _
  | transitionMany tenant ids tr now => exact Store.alertStep_devices _
  | prune retentionDays now =>
    simp only [apply, AlertMaintenance.prune]
    split <;> rfl

/-- A committed observation evaluates its plan, and is the only evaluation made. -/
theorem statusChanges_observe {uuid : ℕ → String} {now : ℤ} {plan : DeviceRuleEvaluation}
    {store : Store} {count : ℕ}
    (h : sys.store.observe p uuid now tenant device (some plan) = .ok (store, count))
    (tenant' device' : String) :
    (sys.observe p uuid now tenant device plan).statusChanges tenant' device' =
      (if plan.tenant = tenant' ∧ plan.deviceId = device' then plan.input.statusChange?.toList
        else []) ++ sys.statusChanges tenant' device' := by
  obtain ⟨prepared, runtime, _, hprepare, rfl⟩ := Store.observe_eq_ok h
  obtain ⟨-, -, target, -, hprepared⟩ := Store.prepareEvaluation_eq_ok hprepare
  cases hprepared
  simp only [observe, hprepare, h, statusChanges, List.filterMap_cons, Evaluation.statusChangeOf,
    Store.retarget]
  split
  next hnone =>
    split_ifs at hnone ⊢
    · rw [hnone]
      rfl
    · rfl
  next change hsome =>
    split_ifs at hsome ⊢
    rw [hsome]
    rfl

theorem statusChanges_apply {step : RuleStep}
    (h : ∀ uuid now tenant device plan, step = .observe uuid now tenant device plan →
      plan.input.statusChange? = none) (tenant device : String) :
    (sys.apply p step).statusChanges tenant device = sys.statusChanges tenant device := by
  cases step with
  | observe uuid now tenant' device' plan =>
    simp only [apply]
    cases hobserve : sys.store.observe p uuid now tenant' device' (some plan) with
    | error e =>
      unfold observe
      rw [hobserve]
      split
      next heq => cases heq
      next => rfl
    | ok result =>
      rw [statusChanges_observe hobserve, h _ _ _ _ _ rfl]
      split <;> rfl
  | claim workerId uuid limit lease now =>
    simp only [apply, claim]
    split <;> rfl
  | attempt | report | transition | transitionMany | prune => rfl

end RuleSystem

end

end Extrittio
