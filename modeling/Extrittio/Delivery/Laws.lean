import Extrittio.Delivery.Execute

/-!
What one delivery attempt does to the store, by the action it carries.
-/
namespace Extrittio

open Relational AlertWorker

/-- Creations, value updates and resolutions of alerts. -/
def PendingAction.isAlertAction : PendingAction → Bool
  | .createAlert .. | .updateAlertValue .. | .resolveAlert .. => true
  | _ => false

theorem tenantIdNew_eq_ok {value tenant : String} (h : tenantIdNew value = .ok tenant) :
    tenant = value := by
  unfold tenantIdNew at h
  split at h
  · cases h
  · cases h
    rfl

namespace RuleDelivery

/-- The outcomes of an attempt: the store it leaves and what it reports. -/
inductive AttemptEffect (p : Platform) (now : ℤ) (event : OutboxEventRecord) (s : Store) :
    Store → Except String Unit → Prop
  | refused (message : String) : AttemptEffect p now event s s (.error message)
  | sent (action : PendingAction)
      (hdecode : decodeEvent p event.tenantId event.eventType event.payload = .ok action)
      (h : action.isAlertAction = false) : AttemptEffect p now event s s (.ok ())
  | known (tenant rule device severity message : String) (value : Option String)
      (hdecode : decodeEvent p event.tenantId event.eventType event.payload =
        .ok (.createAlert tenant rule device severity message value))
      (h : ∃ d ∈ s.deliveries, d.deliveryId = event.id ∧ d.tenantId = tenant) :
      AttemptEffect p now event s s (.ok ())
  | reused (tenant rule device severity message : String) (value : Option String)
      (hdecode : decodeEvent p event.tenantId event.eventType event.payload =
        .ok (.createAlert tenant rule device severity message value))
      (existing : AlertRow) (hexisting : existing ∈ s.alerts)
      (hslot : existing.id = event.id ∨ existing.occupies tenant rule device = true)
      (deliveries : Table DeliveryRow DeliveryRow.deliveryId)
      (hinsert : s.deliveries.insert? ⟨event.id, tenant, existing.id⟩ = some deliveries) :
      AttemptEffect p now event s { s with deliveries := deliveries } (.ok ())
  | created (tenant rule device severity message : String) (value : Option String)
      (hdecode : decodeEvent p event.tenantId event.eventType event.payload =
        .ok (.createAlert tenant rule device severity message value)) (hid : event.id ≠ "")
      (hfree : ∀ a ∈ s.alerts, a.occupies tenant rule device = false)
      (alerts : Table AlertRow AlertRow.id)
      (halerts : s.alerts.insert? (Store.newAlert tenant
        ⟨event.id, rule, device, severity, message, value⟩ now) = some alerts)
      (deliveries : Table DeliveryRow DeliveryRow.deliveryId)
      (hinsert : s.deliveries.insert? ⟨event.id, tenant, event.id⟩ = some deliveries) :
      AttemptEffect p now event s { s with alerts := alerts, deliveries := deliveries } (.ok ())
  | updated (tenant id value : String) (result : Except String Unit)
      (hdecode : decodeEvent p event.tenantId event.eventType event.payload =
        .ok (.updateAlertValue tenant id value)) :
      AttemptEffect p now event s (s.updateTriggeredValue tenant id value).1 result
  | resolved (tenant id : String) (current : AlertRow)
      (hdecode : decodeEvent p event.tenantId event.eventType event.payload =
        .ok (.resolveAlert tenant id))
      (hcurrent : s.getAlert tenant id = some current) (hopen : current.status ≠ .resolved) :
      AttemptEffect p now event s
        ({ s with alerts := s.transitioned tenant id .resolve now }.transitionCooldown tenant
          .resolve current now) (.ok ())

variable {p : Platform} {external : PendingAction → Except String Unit} {now : ℤ} {s : Store}
  {event : OutboxEventRecord}

theorem attempt_eq {action : PendingAction}
    (h : decodeEvent p event.tenantId event.eventType event.payload = .ok action) :
    attempt p external now event s =
      ((execute external now action event.id s).1, (execute external now action event.id s).2,
        .retryable) := by
  simp [attempt, h]

theorem withTenant_cases (s : Store) (tenantId : String)
    (run : String → Store × Except String Unit) :
    (∃ message, withTenant s tenantId run = (s, .error message)) ∨
      withTenant s tenantId run = run tenantId := by
  unfold withTenant
  cases h : tenantIdNew tenantId with
  | error message => exact .inl ⟨message, rfl⟩
  | ok tenant => exact .inr (by rw [tenantIdNew_eq_ok h])

theorem create_effect {tenant rule device severity message : String} {value : Option String}
    (hdecode : decodeEvent p event.tenantId event.eventType event.payload =
      .ok (.createAlert tenant rule device severity message value)) :
    AttemptEffect p now event s
      (asText (createForAction s tenant event.id
        ⟨event.id, rule, device, severity, message, value⟩ now)).1
      (asText (createForAction s tenant event.id
        ⟨event.id, rule, device, severity, message, value⟩ now)).2 := by
  unfold createForAction
  split
  · exact .refused _
  next hid =>
    cases hc : s.createOrGetActive tenant ⟨event.id, rule, device, severity, message, value⟩ now with
    | error e => exact .refused _
    | ok result =>
      obtain ⟨s', alert⟩ := result
      simp only [asText]
      rcases Store.createOrGetActive_cases hc with ⟨hfound, rfl⟩ |
        ⟨existing, deliveries, hexisting, -, hslot, hinsert, rfl⟩ |
        ⟨alerts, deliveries, -, hfree, halerts, hinsert, rfl⟩
      · refine .known _ _ _ _ _ _ hdecode ?_
        obtain ⟨d, hd, -⟩ := Option.map_eq_some_iff.mp hfound
        obtain ⟨hfind, ht⟩ := Option.filter_eq_some_iff.mp hd
        obtain ⟨hmem, hkey⟩ := Table.find?_eq_some.mp hfind
        exact ⟨d, hmem, hkey, by simpa using ht⟩
      · exact .reused _ _ _ _ _ _ hdecode existing hexisting hslot deliveries hinsert
      · exact .created _ _ _ _ _ _ hdecode hid hfree alerts halerts deliveries hinsert

theorem resolve_effect {tenant id : String}
    (hdecode : decodeEvent p event.tenantId event.eventType event.payload =
      .ok (.resolveAlert tenant id)) :
    AttemptEffect p now event s (asText (resolveForAction s tenant id now)).1
      (asText (resolveForAction s tenant id now)).2 := by
  unfold resolveForAction
  cases ht : s.transitionFrom tenant id .resolve now with
  | error e => exact .refused _
  | ok result =>
    obtain ⟨s', outcome⟩ := result
    rcases Store.transitionFrom_cases ht with ⟨rfl, hne⟩ |
      ⟨current, hcurrent, -, haccepts, -, rfl, rfl⟩
    · cases outcome with
      | updated alert => exact absurd rfl (hne alert)
      | notFound | activeConflict | invalidStatus => exact .refused _
    · exact .resolved tenant id current hdecode hcurrent (by
        simpa [AlertTransition.accepts] using haccepts)

theorem attempt_effect (p : Platform) (external : PendingAction → Except String Unit) (now : ℤ)
    (event : OutboxEventRecord) (s : Store) :
    AttemptEffect p now event s (attempt p external now event s).1
      (attempt p external now event s).2.1 := by
  cases hdecode : decodeEvent p event.tenantId event.eventType event.payload with
  | error e =>
    simp only [attempt, hdecode]
    exact .refused _
  | ok action =>
    rw [attempt_eq hdecode]
    have hblank : ∀ {tenant : String} {run : String → Store × Except String Unit},
        AttemptEffect p now event s (run tenant).1 (run tenant).2 →
        AttemptEffect p now event s (withTenant s tenant run).1 (withTenant s tenant run).2 := by
      intro tenant run hrun
      rcases withTenant_cases s tenant run with ⟨message, h⟩ | h
      · rw [h]
        exact .refused message
      · rwa [h]
    have hexternal : action.isAlertAction = false →
        AttemptEffect p now event s s (external action) := by
      intro h
      cases external action with
      | error message => exact .refused message
      | ok value => exact .sent action hdecode h
    cases action with
    | createAlert => exact hblank (create_effect hdecode)
    | updateAlertValue tenant id value =>
      refine hblank ?_
      unfold updateValueForAction
      simp only
      split <;> exact .updated tenant id value _ hdecode
    | resolveAlert => exact hblank (resolve_effect hdecode)
    | sendWebhook => exact hexternal rfl
    | sendCommand => exact hblank (hexternal rfl)
    | updateCooldown | updateZoneEntry => exact .refused _

/-- The envelope of a stored event is of another version, or it has an action that is
runtime state or of another tenant or type than the event. -/
def Mismatched (p : Platform) (event : OutboxEventRecord) : Prop :=
  (event.payload.get "version").bind Json.asU64 ≠ some 1 ∨
  ∃ action, (event.payload.get "action").bind (actionFromValue p) = some action ∧
    (action.isDelivery = false ∨ tenantIdForAction action ≠ event.tenantId ∨
      eventTypeForAction action ≠ event.eventType)

end RuleDelivery

end Extrittio
