import Extrittio.Alerts.Laws
import Extrittio.Outbox.Worker

/-!
Delivery of claimed rule actions. Alert actions run against the store; webhooks
and commands leave the system, so their result is given to the delivery. An
event may be executed and its report lost: the outbox then delivers it again.
-/
namespace Extrittio

open Relational

namespace AlertWorker

def updateValueForAction (s : Store) (tenant id value : String) :
    Store × Except ApplicationError Unit :=
  let (s', updated) := s.updateTriggeredValue tenant id value
  if updated then (s', .ok ()) else (s', .error (.notFound ("Alert '" ++ id ++ "' not found")))

def resolveForAction (s : Store) (tenant id : String) (now : ℤ) :
    Store × Except ApplicationError Unit :=
  match s.transitionFrom tenant id .resolve now with
  | .error e => (s, .error (.persistence e))
  | .ok (s', .updated _) => (s', .ok ())
  | .ok (s', .notFound) => (s', .error (.notFound ("Alert '" ++ id ++ "' not found")))
  | .ok (s', .activeConflict existing) =>
    (s', .error (.conflict ("Active alert conflict: " ++ existing)))
  | .ok (s', .invalidStatus status) =>
    (s', .error (.invalidOperation
      ("Alert '" ++ id ++ "' cannot be resolved from status '" ++ status.text ++ "'")))

def createForAction (s : Store) (tenant deliveryId : String) (intent : NewRuleAlertRecord)
    (now : ℤ) : Store × Except ApplicationError (Option AlertRow) :=
  if deliveryId = "" then
    (s, .error (.invalidInput "alert creation requires a durable action ID"))
  else
    match s.createOrGetActive tenant { intent with id := deliveryId } now with
    | .error e => (s, .error (.persistence e))
    | .ok (s', alert) => (s', .ok alert)

end AlertWorker

namespace RuleDelivery

/-- Errors reach the outbox as text. -/
def asText {α : Type} : Store × Except ApplicationError α → Store × Except String Unit
  | (s, .ok _) => (s, .ok ())
  | (s, .error e) => (s, .error e.message)

/-- `TenantId::new(tenant_id)?` before an operation. -/
def withTenant (s : Store) (tenantId : String) (run : String → Store × Except String Unit) :
    Store × Except String Unit :=
  match tenantIdNew tenantId with
  | .error message => (s, .error message)
  | .ok tenant => run tenant

theorem asText_eq_ok {α : Type} {x : Store × Except ApplicationError α} {s : Store} :
    asText x = (s, .ok ()) ↔ ∃ value, x = (s, .ok value) := by
  obtain ⟨s', result⟩ := x
  cases result <;> simp [asText]

theorem withTenant_eq_ok {s s' : Store} {tenantId : String}
    {run : String → Store × Except String Unit} :
    withTenant s tenantId run = (s', .ok ()) ↔
      ∃ tenant, tenantIdNew tenantId = .ok tenant ∧ run tenant = (s', .ok ()) := by
  unfold withTenant
  cases tenantIdNew tenantId <;> simp

def execute (external : PendingAction → Except String Unit) (now : ℤ) (action : PendingAction)
    (deliveryId : String) (s : Store) : Store × Except String Unit :=
  match action with
  | .createAlert tenantId ruleId deviceId severity message triggeredValue =>
    withTenant s tenantId fun tenant => asText (AlertWorker.createForAction s tenant deliveryId
      ⟨deliveryId, ruleId, deviceId, severity, message, triggeredValue⟩ now)
  | .updateAlertValue tenantId alertId triggeredValue =>
    withTenant s tenantId fun tenant =>
      asText (AlertWorker.updateValueForAction s tenant alertId triggeredValue)
  | .resolveAlert tenantId alertId =>
    withTenant s tenantId fun tenant => asText (AlertWorker.resolveForAction s tenant alertId now)
  | .sendWebhook .. => (s, external action)
  | .sendCommand tenantId .. => withTenant s tenantId fun _ => (s, external action)
  | .updateCooldown .. | .updateZoneEntry .. =>
    (s, .error "runtime state must be committed during ingestion, not delivered")

/-- Decodes and executes a claimed event; what is reported, and as what failure. -/
def attempt (p : Platform) (external : PendingAction → Except String Unit) (now : ℤ)
    (event : OutboxEventRecord) (s : Store) : Store × Except String Unit × FailureClass :=
  match decodeEvent p event.tenantId event.eventType event.payload with
  | .ok action =>
    let (s', result) := execute external now action event.id s
    (s', result, .retryable)
  | .error e => (s, .error ("failed to deserialize pending action: " ++ e.message), .permanent)

def report (event : OutboxEventRecord) (now : ℤ) (s : Store) :
    Except String Unit × FailureClass → Store × Except ApplicationError Bool
  | (.ok _, _) =>
    let (outbox, result) := OutboxWorker.succeeded event now s.outbox
    ({ s with outbox := outbox }, result)
  | (.error message, failure) =>
    let (outbox, result) := OutboxWorker.failed event failure message now s.outbox
    ({ s with outbox := outbox }, result)

/-- One delivery: the attempt reads the clock at `now`, its report at `reported`. -/
def deliver (p : Platform) (external : PendingAction → Except String Unit) (now reported : ℤ)
    (event : OutboxEventRecord) (s : Store) : Store × Except ApplicationError Bool :=
  let (s', result) := attempt p external now event s
  report event reported s' result

end RuleDelivery

end Extrittio
