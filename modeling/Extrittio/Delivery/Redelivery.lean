import Extrittio.Delivery.Laws

/-!
Delivering an alert action twice. Creations find their receipt and updates write
the same value again; a resolution finds the alert resolved and refuses.
-/
namespace Extrittio

open Relational AlertWorker

namespace Store

variable {s s' : Store} {tenant : String}

theorem findDelivery_of_create {record : NewRuleAlertRecord} {now : ℤ} {result : Option AlertRow}
    (h : s.createOrGetActive tenant record now = .ok (s', result)) :
    ∃ applied, s'.findDelivery tenant record.id = some applied := by
  have hinserted : ∀ {r : DeliveryRow} {t : Store}, r ∈ t.deliveries → r.deliveryId = record.id →
      r.tenantId = tenant → ∃ applied, t.findDelivery tenant record.id = some applied := by
    intro r t hr hid ht
    have hfind : t.deliveries.find? record.id = some r := Table.find?_eq_some.mpr ⟨hr, hid⟩
    exact ⟨_, by simp [findDelivery, hfind, ht]; rfl⟩
  rcases createOrGetActive_cases h with ⟨hfound, rfl⟩ | ⟨_, _, -, -, -, hinsert, rfl⟩ |
    ⟨_, _, -, -, -, hinsert, rfl⟩
  · exact ⟨result, hfound⟩
  · exact hinserted ((Table.mem_of_insert? hinsert).mpr (.inr rfl)) rfl rfl
  · exact hinserted ((Table.mem_of_insert? hinsert).mpr (.inr rfl)) rfl rfl

theorem updateTriggeredValue_twice (s : Store) (tenant id value : String) :
    (s.updateTriggeredValue tenant id value).1.updateTriggeredValue tenant id value =
      s.updateTriggeredValue tenant id value := by
  have halerts := s.alerts.update_update (AlertRow.isNamed tenant id)
    (f := AlertRow.setTriggeredValue value) (fun _ => rfl) fun _ => rfl
  have hcount := s.alerts.countP_update (AlertRow.isNamed tenant id) (q := AlertRow.isNamed tenant id)
    (f := AlertRow.setTriggeredValue value) (fun _ => rfl) fun _ => rfl
  simp only [updateTriggeredValue, halerts, hcount]

theorem transitionFrom_of_not_accepts {id : String} {tr : AlertTransition} {now : ℤ} {r : AlertRow}
    (hget : s.getAlert tenant id = some r) (hdevice : (s.device? tenant r.deviceId).isSome)
    (haccepts : tr.accepts r.status = false) :
    s.transitionFrom tenant id tr now = .ok (s, .invalidStatus r.status) := by
  unfold transitionFrom
  rw [hget]
  simp only
  rw [if_neg (by simpa [Option.isSome_iff_ne_none] using hdevice), if_pos (by simp [haccepts])]

theorem resolved_of_transition {id : String} {now : ℤ} {alert : AlertRow}
    (h : s.transitionFrom tenant id .resolve now = .ok (s', .updated alert)) :
    ∃ r, s'.getAlert tenant id = some r ∧ r.status = .resolved ∧
      (s'.device? tenant r.deviceId).isSome := by
  rcases transitionFrom_cases h with ⟨-, hne⟩ | ⟨current, hcurrent, hdevice, -, -, -, rfl⟩
  · exact absurd rfl (hne alert)
  obtain ⟨-, hid, ht⟩ := getAlert_eq_some.mp hcurrent
  refine ⟨AlertTransition.resolve.set now current, ?_, rfl, ?_⟩
  · rw [getAlert_eq_some, transitionCooldown_alerts]
    exact ⟨mem_transitioned.mpr (.inr ⟨current, hcurrent, rfl⟩), hid, ht⟩
  · unfold transitionCooldown
    split <;> exact hdevice

end Store

/-- Two claims of one outbox event: only lease and attempt data differ. -/
def OutboxEventRecord.SameEvent (event event' : OutboxEventRecord) : Prop :=
  event'.id = event.id ∧ event'.tenantId = event.tenantId ∧ event'.eventType = event.eventType ∧
    event'.payload = event.payload

namespace RuleDelivery

variable {external external' : PendingAction → Except String Unit} {now now' : ℤ}
  {s s₁ : Store} {deliveryId : String}

/-- Alert creations do not read the outbox once their receipt is stored. -/
theorem execute_create_twice {tenantId ruleId deviceId severity message : String}
    {triggeredValue : Option String}
    (h : execute external now (.createAlert tenantId ruleId deviceId severity message
      triggeredValue) deliveryId s = (s₁, .ok ())) (outbox : Outbox) :
    execute external' now' (.createAlert tenantId ruleId deviceId severity message triggeredValue)
      deliveryId { s₁ with outbox := outbox } = ({ s₁ with outbox := outbox }, .ok ()) := by
  obtain ⟨tenant, htenant, hrun⟩ := withTenant_eq_ok.mp h
  obtain ⟨alert, hcreate⟩ := asText_eq_ok.mp hrun
  unfold createForAction at hcreate
  split at hcreate
  next => simp at hcreate
  next hid =>
    cases hc : s.createOrGetActive tenant
        ⟨deliveryId, ruleId, deviceId, severity, message, triggeredValue⟩ now with
    | error e => simp [hc] at hcreate
    | ok result =>
      obtain ⟨s', alert'⟩ := result
      simp only [hc, Prod.mk.injEq, Except.ok.injEq] at hcreate
      obtain ⟨rfl, rfl⟩ := hcreate
      obtain ⟨applied, happlied⟩ := Store.findDelivery_of_create hc
      have hfound : ({ s' with outbox := outbox } : Store).findDelivery tenant deliveryId =
          some applied := happlied
      refine withTenant_eq_ok.mpr ⟨tenant, htenant, asText_eq_ok.mpr ⟨applied, ?_⟩⟩
      simp [createForAction, hid, Store.createOrGetActive, hfound]

theorem execute_update_twice {tenantId alertId value : String}
    (h : execute external now (.updateAlertValue tenantId alertId value) deliveryId s =
      (s₁, .ok ())) (outbox : Outbox) :
    execute external' now' (.updateAlertValue tenantId alertId value) deliveryId
      { s₁ with outbox := outbox } = ({ s₁ with outbox := outbox }, .ok ()) := by
  obtain ⟨tenant, htenant, hrun⟩ := withTenant_eq_ok.mp h
  obtain ⟨_, hupdate⟩ := asText_eq_ok.mp hrun
  have htwice := s.updateTriggeredValue_twice tenant alertId value
  unfold updateValueForAction at hupdate
  cases hu : s.updateTriggeredValue tenant alertId value with
  | mk s' updated =>
    rw [hu] at hupdate htwice
    cases updated with
    | false => simp at hupdate
    | true =>
      simp only [if_true, Prod.mk.injEq] at hupdate
      obtain ⟨rfl, -⟩ := hupdate
      -- The update reads and writes the alerts only, so a changed outbox is carried along.
      have hcarried : ({ s' with outbox := outbox } : Store).updateTriggeredValue tenant alertId value =
          ({ s' with outbox := outbox }, true) := by
        have halerts := congrArg (fun x => (x.1.alerts, x.2)) htwice
        simp only [Store.updateTriggeredValue, Prod.mk.injEq] at halerts ⊢
        exact ⟨by rw [halerts.1], halerts.2⟩
      refine withTenant_eq_ok.mpr ⟨tenant, htenant, asText_eq_ok.mpr ⟨(), ?_⟩⟩
      simp [updateValueForAction, hcarried]

theorem execute_resolve_twice {tenantId alertId : String}
    (h : execute external now (.resolveAlert tenantId alertId) deliveryId s = (s₁, .ok ()))
    (outbox : Outbox) :
    execute external' now' (.resolveAlert tenantId alertId) deliveryId
      { s₁ with outbox := outbox } = ({ s₁ with outbox := outbox },
        .error ("Alert '" ++ alertId ++ "' cannot be resolved from status 'resolved'")) := by
  obtain ⟨tenant, htenant, hrun⟩ := withTenant_eq_ok.mp h
  obtain ⟨_, hresolve⟩ := asText_eq_ok.mp hrun
  unfold resolveForAction at hresolve
  split at hresolve <;> try simp at hresolve
  next s' alert htransition =>
    obtain rfl := hresolve
    obtain ⟨r, hget, hstatus, hdevice⟩ := Store.resolved_of_transition htransition
    have hrefused : ({ s' with outbox := outbox } : Store).transitionFrom tenant alertId .resolve now' =
        .ok ({ s' with outbox := outbox }, .invalidStatus r.status) :=
      Store.transitionFrom_of_not_accepts hget hdevice (by simp [AlertTransition.accepts, hstatus])
    simp [execute, withTenant, htenant, resolveForAction, hrefused, hstatus, asText,
      ApplicationError.message, AlertStatus.text, String.append_assoc]

/-- An alert action that was executed once succeeds again and changes nothing,
under a later claim of its event and whatever the outbox did in between, exactly
when it is not a resolution. -/
theorem redelivery_succeeds_iff (p : Platform) (external external' : PendingAction → Except String Unit)
    (now now' : ℤ) (s s₁ : Store) (event event' : OutboxEventRecord) (action : PendingAction)
    (hsame : event.SameEvent event')
    (hdecode : decodeEvent p event.tenantId event.eventType event.payload = .ok action)
    (halert : action.isAlertAction = true)
    (hfirst : (attempt p external now event s).1 = s₁ ∧
      (attempt p external now event s).2.1 = .ok ()) (outbox : Outbox) :
    ((attempt p external' now' event' { s₁ with outbox := outbox }).1 =
        { s₁ with outbox := outbox } ∧
      (attempt p external' now' event' { s₁ with outbox := outbox }).2.1 = .ok ()) ↔
      ∀ tenant alertId, action ≠ .resolveAlert tenant alertId := by
  obtain ⟨hid, htenant, htype, hpayload⟩ := hsame
  have hdecode' : decodeEvent p event'.tenantId event'.eventType event'.payload = .ok action := by
    rw [htenant, htype, hpayload, hdecode]
  rw [attempt_eq hdecode] at hfirst
  rw [attempt_eq hdecode', hid]
  have hexecuted : execute external now action event.id s = (s₁, .ok ()) :=
    Prod.ext hfirst.1 hfirst.2
  cases action with
  | createAlert =>
    rw [execute_create_twice hexecuted outbox]
    simp
  | updateAlertValue =>
    rw [execute_update_twice hexecuted outbox]
    simp
  | resolveAlert tenantId alertId =>
    rw [execute_resolve_twice hexecuted outbox]
    simp
  | sendWebhook | sendCommand | updateCooldown | updateZoneEntry =>
    simp [PendingAction.isAlertAction] at halert

def eventRecord (action : PendingAction) : OutboxEventRecord :=
  (OutboxRow.ofEvent 0 (eventForAction default "delivery" action)).toRecord

def hotAlert : PendingAction := .createAlert "tenant" "rule" "device" "warning" "hot" none

def alerted : Store := (attempt default (fun _ => .ok ()) 10 (eventRecord hotAlert) Store.sample).1

theorem redelivery_succeeds_hotAlert :
    (attempt default (fun _ => .ok ()) 20 { eventRecord hotAlert with attempts := 2 } alerted).1 =
        alerted ∧
      (attempt default (fun _ => .ok ()) 20 { eventRecord hotAlert with attempts := 2 }
        alerted).2.1 = .ok () :=
  (redelivery_succeeds_iff default (fun _ => .ok ()) (fun _ => .ok ()) 10 20 Store.sample alerted
    (eventRecord hotAlert) { eventRecord hotAlert with attempts := 2 } hotAlert
    ⟨rfl, rfl, rfl, rfl⟩ rfl rfl ⟨rfl, rfl⟩ alerted.outbox).mpr (by simp [hotAlert])

/-- A resolution whose report was lost fails when it is delivered again. -/
theorem redelivered_resolution_refused :
    let event := eventRecord (.resolveAlert "tenant" "delivery")
    let first := attempt default (fun _ => .ok ()) 20 event alerted
    first.2.1 = .ok () ∧
      (attempt default (fun _ => .ok ()) 30 event first.1).2.1 =
        .error "Alert 'delivery' cannot be resolved from status 'resolved'" :=
  ⟨rfl, rfl⟩

end RuleDelivery

end Extrittio
