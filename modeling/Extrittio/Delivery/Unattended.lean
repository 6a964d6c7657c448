import Extrittio.RuleSystem

/-!
Runs without operators and retention: observations and deliveries only. `Sound`
ties rows, claimed events, results, receipts and alerts together; it is what the
results on alerts and sends over such runs rest on.
-/
namespace Extrittio

open Relational Transition List AlertRow Outbox OutboxWorker Store OutboxRow

/-- The row holds an action, as producers write it. -/
structure OutboxRow.Carries (p : Platform) (r : OutboxRow) (action : PendingAction) : Prop where
  isDelivery : action.isDelivery = true
  tenantId : r.tenantId = tenantIdForAction action
  eventType : r.eventType = eventTypeForAction action
  key : r.idempotencyKey = some (idempotencyKeyForAction p action)
  payload : r.payload = (eventForAction p r.id action).payload

/-- What claims and reports can do to a row: its action stays, and a finished row
is left as it is. -/
structure OutboxRow.Progress (r r' : OutboxRow) : Prop where
  id : r'.id = r.id
  tenantId : r'.tenantId = r.tenantId
  eventType : r'.eventType = r.eventType
  key : r'.idempotencyKey = r.idempotencyKey
  payload : r'.payload = r.payload
  finished : r.isActive = false → r' = r

namespace OutboxRow

variable {p : Platform} {r r' : OutboxRow} {action : PendingAction}

theorem Carries.decode (h : r.Carries p action) :
    decodeEvent p r.tenantId r.eventType r.payload = .ok action := by
  rw [h.tenantId, h.eventType, h.payload]
  exact decodeEvent_eventForAction p r.id h.isDelivery

theorem carries_ofAction (uuid : ℕ → String) (now : ℤ) (i : ℕ) (h : action.isDelivery) :
    (ofAction p uuid now (action, i)).Carries p action :=
  ⟨h, rfl, rfl, rfl, rfl⟩

/-- Whether the row asks for an alert of a rule and device. -/
def creates (p : Platform) (tenant rule device : String) (r : OutboxRow) : Bool :=
  match decodeEvent p r.tenantId r.eventType r.payload with
  | .ok (.createAlert t ru d ..) => t = tenant && ru = rule && d = device
  | _ => false

theorem Carries.creates_iff (h : r.Carries p action) {tenant rule device : String} :
    r.creates p tenant rule device ↔
      ∃ severity message value, action = .createAlert tenant rule device severity message value := by
  rw [creates, h.decode]
  cases action with
  | createAlert t ru d severity message value =>
    simp only [Bool.and_eq_true, decide_eq_true_eq]
    constructor
    · rintro ⟨⟨rfl, rfl⟩, rfl⟩
      exact ⟨severity, message, value, rfl⟩
    · rintro ⟨_, _, _, heq⟩
      cases heq
      exact ⟨⟨rfl, rfl⟩, rfl⟩
  | updateAlertValue | resolveAlert | sendWebhook | sendCommand | updateCooldown
  | updateZoneEntry => simp

theorem Progress.creates (h : r.Progress r') (p : Platform) (tenant rule device : String) :
    r'.creates p tenant rule device = r.creates p tenant rule device := by
  rw [OutboxRow.creates, OutboxRow.creates, h.tenantId, h.eventType, h.payload]

theorem Carries.activeSlot (h : r.Carries p action) (hactive : r.isActive) :
    r.activeSlot = some (tenantIdForAction action, eventTypeForAction action,
      idempotencyKeyForAction p action) := by
  rw [OutboxRow.activeSlot, if_pos hactive, slot, h.tenantId, h.eventType, h.key]
  rfl

theorem Carries.resolveAlert_of_slot (h : r.Carries p action) {tenant id : String}
    (hslot : r.activeSlot = some (tenant, "rule.resolve_alert", "resolve-alert:" ++ id)) :
    action = .resolveAlert tenant id := by
  obtain ⟨-, ht, htype, hkey⟩ := activeSlot_eq_some hslot
  rw [h.tenantId] at ht
  rw [h.eventType] at htype
  rw [h.key] at hkey
  cases action with
  | resolveAlert t alertId =>
    have hid : "resolve-alert:" ++ alertId = "resolve-alert:" ++ id := Option.some.inj hkey
    rw [String.append_right_inj] at hid
    rw [← ht, hid]
    rfl
  | createAlert | updateAlertValue | sendWebhook | sendCommand | updateCooldown
  | updateZoneEntry => simp [eventTypeForAction] at htype

theorem Carries.progress (h : r.Carries p action) (hp : r.Progress r') : r'.Carries p action where
  isDelivery := h.isDelivery
  tenantId := hp.tenantId.trans h.tenantId
  eventType := hp.eventType.trans h.eventType
  key := hp.key.trans h.key
  payload := hp.payload.trans h.payload

theorem Progress.refl (r : OutboxRow) : r.Progress r := ⟨rfl, rfl, rfl, rfl, rfl, fun _ => rfl⟩

theorem Progress.active (h : r.Progress r') (hactive : r'.isActive) : r.isActive := by
  by_contra hr
  rw [h.finished (by simpa using hr)] at hactive
  exact hr hactive

theorem Progress.succeeded (h : r.Progress r') (hr : r.status = .succeeded) :
    r'.status = .succeeded := by
  rw [h.finished (by simp [isActive, hr]), hr]

theorem progress_exhaust (now : ℤ) (h : r.status = .processing) : r.Progress (r.exhaust now) :=
  ⟨rfl, rfl, rfl, rfl, rfl, by simp [isActive, h]⟩

theorem progress_claim (now : ℤ) (token : String) (h : r.isActive) :
    r.Progress (r.claim now token) :=
  ⟨rfl, rfl, rfl, rfl, rfl, by simp [h]⟩

theorem progress_succeed (now : ℤ) (h : r.status = .processing) : r.Progress (r.succeed now) :=
  ⟨rfl, rfl, rfl, rfl, rfl, by simp [isActive, h]⟩

theorem progress_fail (status : OutboxStatus) (availableAt : ℤ) (error : String) (now : ℤ)
    (h : r.status = .processing) : r.Progress (r.fail status availableAt error now) :=
  ⟨rfl, rfl, rfl, rfl, rfl, by simp [isActive, h]⟩

end OutboxRow

/-- A claimed event and the row it was read from. -/
def OutboxEventRecord.Of (e : OutboxEventRecord) (r : OutboxRow) : Prop :=
  e.id = r.id ∧ e.tenantId = r.tenantId ∧ e.eventType = r.eventType ∧ e.payload = r.payload

variable {e : OutboxEventRecord} {r : OutboxRow}

theorem OutboxEventRecord.Of.progress {r' : OutboxRow} (h : e.Of r)
    (hp : r.Progress r') : e.Of r' :=
  ⟨h.1.trans hp.id.symm, h.2.1.trans hp.tenantId.symm, h.2.2.1.trans hp.eventType.symm,
    h.2.2.2.trans hp.payload.symm⟩

theorem OutboxEventRecord.Of.decode {p : Platform}
    {action : PendingAction} (h : e.Of r) (hcarries : r.Carries p action) :
    decodeEvent p e.tenantId e.eventType e.payload = .ok action := by
  rw [h.2.1, h.2.2.1, h.2.2.2]
  exact hcarries.decode

namespace RuleDelivery

variable {p : Platform} {now : ℤ} {event : OutboxEventRecord} {s s' : Store}
  {result : Except String Unit}

theorem AttemptEffect.outbox (h : AttemptEffect p now event s s' result) : s'.outbox = s.outbox := by
  cases h with
  | refused | sent | known | reused | created | updated => rfl
  | resolved => simp

/-- An alert after an attempt was there before, or the attempt created it: then
its delivery had no receipt and its slot was free. -/
theorem AttemptEffect.alerts (h : AttemptEffect p now event s s' result) {a' : AlertRow}
    (ha' : a' ∈ s'.alerts) :
    (∃ a ∈ s.alerts, a.Follows a') ∨
    ∃ tenant rule device severity message value,
      decodeEvent p event.tenantId event.eventType event.payload =
        .ok (.createAlert tenant rule device severity message value) ∧
      a' = newAlert tenant ⟨event.id, rule, device, severity, message, value⟩ now ∧
      ∀ d ∈ s.deliveries, d.deliveryId ≠ event.id := by
  cases h with
  | refused | sent | known | reused => exact .inl ⟨a', ha', .refl a'⟩
  | created tenant rule device severity message value hdecode _ _ alerts halerts deliveries hinsert =>
    rcases (Table.mem_of_insert? halerts).mp ha' with ha | rfl
    · exact .inl ⟨a', ha, .refl a'⟩
    · exact .inr ⟨tenant, rule, device, severity, message, value, hdecode, rfl,
        (Table.insert?_eq_some.mp hinsert).1⟩
  | updated tenant id value =>
    exact .inl ((follows_update s.alerts _ (follows_setTriggeredValue value)).1 a' ha')
  | resolved tenant id =>
    rw [transitionCooldown_alerts] at ha'
    exact .inl ((follows_update s.alerts _ (follows_resolve now)).1 a' ha')

end RuleDelivery

/-- Rows change in place by progress; a row that newly succeeds was `reported`. -/
structure Outbox.Progress (o o' : Outbox) (reported : OutboxRow → Prop)
    (change : OutboxRow → OutboxRow) : Prop where
  rows : o'.table.rows = o.table.rows.map change
  progress : ∀ r ∈ o, r.Progress (change r)
  succeeded : ∀ r ∈ o, (change r).status = .succeeded → r.status = .succeeded ∨ reported r

theorem Outbox.progress_claimChange {o : Outbox} (hr : r ∈ o)
    (limit now leaseCutoff : ℤ) (token : String) :
    r.Progress (o.claimChange limit now leaseCutoff token r) := by
  unfold claimChange
  split
  next hx =>
    simp only [isExhausted, Bool.and_eq_true, decide_eq_true_eq] at hx
    exact progress_exhaust now hx.1.1
  next =>
    split
    next hid =>
      have hsel := mem_claimSelection_of_id hr hid
      exact progress_claim now _
        (isActive_of_isEligible (mem_claimSelection hsel).2)
    next => exact OutboxRow.Progress.refl r

namespace RuleSystem

variable {p : Platform} {sys : RuleSystem}

/-- A claim or a report: rows progress in place, what is issued was read from a row, and what
newly succeeds was executed. -/
inductive Advances (sys : RuleSystem) : RuleSystem → Prop
  | mk {outbox : Outbox} {change : OutboxRow → OutboxRow} (reported : OutboxRow → Prop)
      (progress : sys.store.outbox.Progress outbox reported change)
      (executed : ∀ r, reported r → ∃ x ∈ sys.results, x.1.id = r.id ∧ x.2.1 = .ok ())
      (events : List OutboxEventRecord) (read : ∀ e ∈ events, ∃ r ∈ sys.store.outbox, e.Of r)
      (tokens : List String) :
      Advances sys { sys with
        store := { sys.store with outbox := outbox }
        issued := events ++ sys.issued
        tokens := tokens }

theorem Advances.refl (sys : RuleSystem) : sys.Advances sys :=
  .mk (fun _ => False) ⟨by simp, fun r _ => .refl r, fun r _ h => .inl h⟩
    (fun _ hfalse => hfalse.elim) [] (by simp) sys.tokens

theorem advances_claim (sys : RuleSystem) (workerId uuid : String) (limit : ℤ) (lease : ℕ) (now : ℤ) :
    sys.Advances (sys.claim workerId uuid limit lease now) := by
  by_cases hvalid : OutboxWorker.ValidClaim workerId limit lease
  · obtain ⟨o', hclaim, hrows⟩ := sys.store.outbox.claimBatch_eq workerId uuid limit lease now
    simp only [claim, claimBatch_of_valid hvalid hclaim]
    refine .mk (fun _ => False) ⟨hrows, ?_, ?_⟩ (fun _ hfalse => hfalse.elim) _ ?_ _
    · exact fun r hr => progress_claimChange hr limit now _ _
    · intro r _ hstatus
      left
      unfold claimChange at hstatus
      split at hstatus
      · simp [exhaust] at hstatus
      · split at hstatus
        · simp [OutboxRow.claim] at hstatus
        · exact hstatus
    · intro e he
      obtain ⟨r, hsel, rfl⟩ := mem_map.mp he
      exact ⟨r, (mem_claimSelection hsel).1, rfl, rfl, rfl, rfl⟩
  · obtain ⟨e, hrefused⟩ := claimBatch_of_not_valid uuid now sys.store.outbox hvalid
    simp only [claim, hrefused]
    exact .refl sys

theorem advances_report {event : OutboxEventRecord} {result : Except String Unit × FailureClass}
    (h : (event, result) ∈ sys.results) (now : ℤ) :
    sys.Advances (sys.apply p (.report event result now)) := by
  obtain ⟨outcome, failure⟩ := result
  simp only [apply]
  cases outcome with
  | ok value =>
    simp only [RuleDelivery.report, succeeded]
    cases event.claimToken with
    | none => exact .refl sys
    | some token =>
      obtain ⟨o', hok, hrows⟩ := sys.store.outbox.markSucceeded_eq event.id token now
      simp only [hok]
      refine .mk (fun r => r.id = event.id) ⟨hrows, ?_, ?_⟩
        (fun r hr => ⟨_, h, hr.symm, rfl⟩) [] (by simp) sys.tokens
      · intro r _
        split
        next hheld => exact progress_succeed now (isHeldBy_iff.mp hheld).2.1
        next => exact .refl r
      · intro r _ hstatus
        split at hstatus
        next hheld => exact .inr (isHeldBy_iff.mp hheld).1
        next => exact .inl hstatus
  | error message =>
    simp only [RuleDelivery.report, failed]
    cases event.claimToken with
    | none => exact .refl sys
    | some token =>
      obtain ⟨o', hok, hrows⟩ := sys.store.outbox.markFailed_eq event.id token event.attempts
        event.maxAttempts failure message now
      simp only [hok]
      refine .mk (fun _ => False) ⟨hrows, ?_, ?_⟩ (fun _ hfalse => hfalse.elim) [] (by simp)
        sys.tokens
      · intro r _
        split
        next hheld =>
          exact progress_fail _ _ _ _
            (isHeldBy_iff.mp (Bool.and_eq_true_iff.mp hheld).1).2.1
        next => exact .refl r
      · intro r _ hstatus
        left
        split at hstatus
        next hheld =>
          rcases failureDisposition_status event.attempts event.maxAttempts failure with
            h | h <;> simp [fail, h] at hstatus
        next => exact hstatus

/-- Neither operators nor retention touch the alerts. -/
def unattended : RuleStep → Prop
  | .transition .. | .transitionMany .. | .prune .. => False
  | _ => True

/-- An unattended step observes, advances rows or executes what was issued. -/
theorem unattended_induction {P : RuleSystem → Prop} {step : RuleStep} (henabled : sys.enabled step)
    (hunattended : unattended step)
    (hobserve : ∀ uuid now tenant device plan, step = .observe uuid now tenant device plan →
      P (sys.observe p uuid now tenant device plan))
    (hadvance : ∀ sys', sys.Advances sys' → P sys')
    (hattempt : ∀ now, ∀ event ∈ sys.issued, ∀ s' result failure,
      RuleDelivery.AttemptEffect p now event sys.store s' result →
      P { sys with store := s', results := (event, result, failure) :: sys.results }) :
    P (sys.apply p step) := by
  cases step with
  | observe uuid now tenant device plan => exact hobserve uuid now tenant device plan rfl
  | claim workerId uuid limit lease now =>
    exact hadvance _ (sys.advances_claim workerId uuid limit lease now)
  | attempt external now event =>
    exact hattempt now event henabled _ _ _ (RuleDelivery.attempt_effect p external now event sys.store)
  | report event result now => exact hadvance _ (advances_report henabled now)
  | transition | transitionMany | prune => exact hunattended.elim

/-- How rows, claimed events, results, receipts and alerts hang together. -/
structure Sound (p : Platform) (sys : RuleSystem) : Prop where
  carries : ∀ r ∈ sys.store.outbox, ∃ action, r.Carries p action
  issued : ∀ e ∈ sys.issued, ∃ r ∈ sys.store.outbox, e.Of r
  results : ∀ x ∈ sys.results, x.1 ∈ sys.issued
  succeeded : ∀ r ∈ sys.store.outbox, r.status = .succeeded →
    ∃ x ∈ sys.results, x.1.id = r.id ∧ x.2.1 = .ok ()
  receipts : ∀ d ∈ sys.store.deliveries, ∃ r ∈ sys.store.outbox, r.id = d.deliveryId
  alerts : ∀ a ∈ sys.store.alerts,
    a.id ≠ "" ∧ ∃ d ∈ sys.store.deliveries, d.deliveryId = a.id ∧ d.tenantId = a.tenantId
  created : ∀ x ∈ sys.results, x.2.1 = .ok () →
    ∀ tenant rule device severity message value,
      decodeEvent p x.1.tenantId x.1.eventType x.1.payload =
        .ok (.createAlert tenant rule device severity message value) →
      ∃ d ∈ sys.store.deliveries, d.deliveryId = x.1.id ∧ d.tenantId = tenant
  resolved : ∀ x ∈ sys.results, x.2.1 = .ok () → ∀ tenant id,
    decodeEvent p x.1.tenantId x.1.eventType x.1.payload = .ok (.resolveAlert tenant id) →
    ∃ a ∈ sys.store.alerts, a.tenantId = tenant ∧ a.id = id ∧ a.isOpen = false
  singleOpen : sys.store.SingleOpen

/-- A store in which nothing was delivered yet. -/
structure Fresh (s : Store) : Prop where
  outbox : s.outbox.table.rows = []
  alerts : s.alerts.rows = []
  deliveries : s.deliveries.rows = []

theorem Fresh.sound {s : Store} (h : Fresh s) (p : Platform) : Sound p (start s) where
  carries r hr := by simp [start, mem_iff, h.outbox] at hr
  issued := by simp [start]
  results := by simp [start]
  succeeded r hr := by simp [start, mem_iff, h.outbox] at hr
  receipts d hd := by simp [start, Table.mem_iff, h.deliveries] at hd
  alerts a ha := by simp [start, Table.mem_iff, h.alerts] at ha
  created := by simp [start]
  resolved := by simp [start]
  singleOpen _ _ _ a ha := by simp [start, Table.mem_iff, h.alerts] at ha

theorem Sound.decode_of_id (h : Sound p sys) {e : OutboxEventRecord} (he : e ∈ sys.issued)
    {r : OutboxRow} (hr : r ∈ sys.store.outbox) (hid : e.id = r.id) {action : PendingAction}
    (hcarries : r.Carries p action) :
    decodeEvent p e.tenantId e.eventType e.payload = .ok action := by
  obtain ⟨r', hr', hof⟩ := h.issued e he
  obtain rfl := sys.store.outbox.eq_of_id_eq hr' hr (hof.1.symm.trans hid)
  exact hof.decode hcarries

section

variable {o o' : Outbox}

variable {rows : List OutboxRow} {r : OutboxRow} {uuid : ℕ → String} {event : OutboxEventRecord}
  {s' : Store} {result : Except String Unit}

theorem mem_of_append (h : o'.table.rows = o.table.rows ++ rows) : r ∈ o' ↔ r ∈ o ∨ r ∈ rows := by
  rw [mem_iff, h, mem_append]
  rfl

theorem mem_of_progress {reported : OutboxRow → Prop} {change : OutboxRow → OutboxRow}
    (h : o.Progress o' reported change) {r' : OutboxRow} : r' ∈ o' ↔ ∃ r ∈ o, change r = r' := by
  rw [mem_iff, h.rows, mem_map]
  rfl

theorem Sound.advances (h : Sound p sys) {sys' : RuleSystem} (hstep : sys.Advances sys') :
    Sound p sys' := by
  obtain ⟨reported, hprogress, hexecuted, events, hread, tokens⟩ := hstep
  exact {
    carries r' hr' := by
      obtain ⟨r, hr, rfl⟩ := (mem_of_progress hprogress).mp hr'
      obtain ⟨action, haction⟩ := h.carries r hr
      exact ⟨action, haction.progress (hprogress.progress r hr)⟩
    issued e he := by
      obtain ⟨r, hr, hof⟩ : ∃ r ∈ sys.store.outbox, e.Of r := by
        rcases mem_append.mp he with he | he
        · exact hread e he
        · exact h.issued e he
      exact ⟨_, (mem_of_progress hprogress).mpr ⟨r, hr, rfl⟩,
        hof.progress (hprogress.progress r hr)⟩
    results x hx := mem_append_right _ (h.results x hx)
    succeeded r' hr' hstatus := by
      obtain ⟨r, hr, rfl⟩ := (mem_of_progress hprogress).mp hr'
      rw [(hprogress.progress r hr).id]
      rcases hprogress.succeeded r hr hstatus with hold | hnew
      · exact h.succeeded r hr hold
      · exact hexecuted r hnew
    receipts d hd := by
      obtain ⟨r, hr, hid⟩ := h.receipts d hd
      exact ⟨_, (mem_of_progress hprogress).mpr ⟨r, hr, rfl⟩,
        (hprogress.progress r hr).id.trans hid⟩
    alerts := h.alerts
    created := h.created
    resolved := h.resolved
    singleOpen := h.singleOpen }

theorem carries_of_sublist {plan : DeviceRuleEvaluation} {runtime : DeviceRuleRuntime} {now : ℤ}
    (h : rows.Sublist ((plan.decide p runtime).deliveries.zipIdx.map (ofAction p uuid now)))
    (hr : r ∈ rows) :
    ∃ action ∈ (plan.decide p runtime).deliveries, r.Carries p action ∧ r.status = .pending ∧
      ∃ i, r.id = uuid i := by
  obtain ⟨⟨action, i⟩, hmem, rfl⟩ := mem_map.mp (h.subset hr)
  have haction := fst_mem_of_mem_zipIdx hmem
  have hdelivery := (DeviceRuleEvaluation.mem_deliveries.mp haction).1
  exact ⟨action, haction, carries_ofAction uuid now i hdelivery, rfl, i, rfl⟩

theorem exists_slot_of_delivery (huuid : Function.Injective uuid)
    (hfresh : ∀ i, ∀ r ∈ o, r.id ≠ uuid i) (now : ℤ) {actions : List PendingAction}
    {action : PendingAction} (haction : action ∈ actions) :
    ∃ r ∈ o.enqueueRows (actions.zipIdx.map (ofAction p uuid now)),
      r.activeSlot = some (tenantIdForAction action, eventTypeForAction action,
        idempotencyKeyForAction p action) := by
  obtain ⟨i, hi⟩ := mem_iff_getElem?.mp haction
  have hmem : ofAction p uuid now (action, i) ∈
      actions.zipIdx.map (ofAction p uuid now) :=
    mem_map_of_mem (mk_mem_zipIdx_iff_getElem?.mpr hi)
  refine enqueueRows_covers ?_ (nodup_ofAction p huuid now actions) hmem
  intro r hr r' hr'
  obtain ⟨entry, -, rfl⟩ := mem_map.mp hr
  exact hfresh entry.2 r' hr'

theorem Sound.observe (h : Sound p sys) (uuid : ℕ → String) (now : ℤ) (tenant device : String)
    (plan : DeviceRuleEvaluation) : Sound p (sys.observe p uuid now tenant device plan) := by
  rcases sys.observe_effect p uuid now tenant device plan with
    heq | ⟨prepared, runtime, zoneEntries, rows, -, hrows, hsub, heq⟩
  · rw [heq]
    exact h
  rw [heq]
  refine ⟨?_, ?_, h.results, ?_, ?_, h.alerts, h.created, h.resolved, h.singleOpen⟩
  · intro r hr
    rcases (mem_of_append hrows).mp hr with hr | hr
    · exact h.carries r hr
    · obtain ⟨action, -, hcarries, -⟩ := carries_of_sublist hsub hr
      exact ⟨action, hcarries⟩
  · intro e he
    obtain ⟨r, hr, hof⟩ := h.issued e he
    exact ⟨r, (mem_of_append hrows).mpr (.inl hr), hof⟩
  · intro r hr hstatus
    rcases (mem_of_append hrows).mp hr with hr | hr
    · exact h.succeeded r hr hstatus
    · obtain ⟨_, -, -, hpending, -⟩ := carries_of_sublist hsub hr
      simp [hpending] at hstatus
  · intro d hd
    obtain ⟨r, hr, hid⟩ := h.receipts d hd
    exact ⟨r, (mem_of_append hrows).mpr (.inl hr), hid⟩

theorem Sound.attempted (h : Sound p sys) (hevent : event ∈ sys.issued) (failure : FailureClass)
    (houtbox : s'.outbox = sys.store.outbox)
    (hkept : ∀ d ∈ sys.store.deliveries, d ∈ s'.deliveries)
    (hnew : ∀ d ∈ s'.deliveries, d ∈ sys.store.deliveries ∨ d.deliveryId = event.id)
    (hfrom : ∀ a' ∈ s'.alerts, (∃ a ∈ sys.store.alerts, a.Follows a') ∨
      a'.id ≠ "" ∧ ∃ d ∈ s'.deliveries, d.deliveryId = a'.id ∧ d.tenantId = a'.tenantId)
    (hstays : ∀ a ∈ sys.store.alerts, ∃ a' ∈ s'.alerts, a.Follows a')
    (hcreated : result = .ok () → ∀ tenant rule device severity message value,
      decodeEvent p event.tenantId event.eventType event.payload =
        .ok (.createAlert tenant rule device severity message value) →
      ∃ d ∈ s'.deliveries, d.deliveryId = event.id ∧ d.tenantId = tenant)
    (hresolved : result = .ok () → ∀ tenant id,
      decodeEvent p event.tenantId event.eventType event.payload = .ok (.resolveAlert tenant id) →
      ∃ a ∈ s'.alerts, a.tenantId = tenant ∧ a.id = id ∧ a.isOpen = false)
    (hsingle : s'.SingleOpen) :
    Sound p { sys with store := s', results := (event, result, failure) :: sys.results } where
  carries := by
    rw [houtbox]
    exact h.carries
  issued := by
    rw [houtbox]
    exact h.issued
  results := forall_mem_cons.mpr ⟨hevent, h.results⟩
  succeeded := by
    rw [houtbox]
    intro r hr hstatus
    obtain ⟨x, hx, hok⟩ := h.succeeded r hr hstatus
    exact ⟨x, mem_cons_of_mem _ hx, hok⟩
  receipts d hd := by
    rw [houtbox]
    rcases hnew d hd with hd | hid
    · exact h.receipts d hd
    · obtain ⟨r, hr, hof⟩ := h.issued event hevent
      exact ⟨r, hr, hof.1.symm.trans hid.symm⟩
  alerts a' ha' := by
    rcases hfrom a' ha' with ⟨a, ha, hfollows⟩ | hnew
    · obtain ⟨hne, d, hd, hid, ht⟩ := h.alerts a ha
      exact ⟨hfollows.id ▸ hne, d, hkept d hd, hid.trans hfollows.id.symm,
        ht.trans hfollows.tenantId.symm⟩
    · exact hnew
  created := by
    refine forall_mem_cons.mpr ⟨hcreated, ?_⟩
    intro x hx hok tenant rule device severity message value hdecode
    obtain ⟨d, hd, hids⟩ := h.created x hx hok tenant rule device severity message value hdecode
    exact ⟨d, hkept d hd, hids⟩
  resolved := by
    refine forall_mem_cons.mpr ⟨hresolved, ?_⟩
    intro x hx hok tenant id hdecode
    obtain ⟨a, ha, ht, hid, hclosed⟩ := h.resolved x hx hok tenant id hdecode
    obtain ⟨a', ha', hfollows⟩ := hstays a ha
    refine ⟨a', ha', hfollows.tenantId.trans ht, hfollows.id.trans hid, ?_⟩
    by_contra hopen
    simp [hfollows.isOpen (by simpa using hopen)] at hclosed
  singleOpen := hsingle

theorem Sound.attempt (h : Sound p sys) (hevent : event ∈ sys.issued)
    {now : ℤ} (failure : FailureClass)
    (heffect : RuleDelivery.AttemptEffect p now event sys.store s' result) :
    Sound p { sys with store := s', results := (event, result, failure) :: sys.results } := by
  -- Most attempts leave the alerts alone.
  have hsame : ∀ a ∈ sys.store.alerts, ∃ a' ∈ sys.store.alerts, a.Follows a' := fun a ha =>
    ⟨a, ha, .refl a⟩
  have hfrom : ∀ a' ∈ sys.store.alerts, (∃ a ∈ sys.store.alerts, a.Follows a') ∨
      a'.id ≠ "" ∧ ∃ d ∈ sys.store.deliveries, d.deliveryId = a'.id ∧ d.tenantId = a'.tenantId :=
    fun a ha => .inl ⟨a, ha, .refl a⟩
  cases heffect with
  | refused message =>
    exact h.attempted hevent failure rfl (fun _ hd => hd) (fun _ hd => .inl hd) hfrom hsame
      (by simp) (by simp) h.singleOpen
  | sent action hdecode hsend =>
    refine h.attempted hevent failure rfl (fun _ hd => hd) (fun _ hd => .inl hd) hfrom hsame
      ?_ ?_ h.singleOpen
    · rintro - tenant rule device severity message value hcreate
      cases hdecode.symm.trans hcreate
      simp [PendingAction.isAlertAction] at hsend
    · rintro - tenant id hresolve
      cases hdecode.symm.trans hresolve
      simp [PendingAction.isAlertAction] at hsend
  | known tenant rule device severity message value hdecode hreceipt =>
    refine h.attempted hevent failure rfl (fun _ hd => hd) (fun _ hd => .inl hd) hfrom hsame
      ?_ ?_ h.singleOpen
    · rintro - _ _ _ _ _ _ hcreate
      cases hdecode.symm.trans hcreate
      exact hreceipt
    · rintro - _ _ hresolve
      cases hdecode.symm.trans hresolve
  | reused tenant rule device severity message value hdecode existing _ _ deliveries hinsert =>
    have hmem : ∀ d, d ∈ deliveries ↔ _ := fun _ => Table.mem_of_insert? hinsert
    refine h.attempted hevent failure rfl (fun d hd => (hmem d).mpr (.inl hd)) ?_
      (fun a ha => .inl ⟨a, ha, .refl a⟩) hsame ?_ ?_ h.singleOpen
    · intro d hd
      rcases (hmem d).mp hd with hd | rfl
      · exact .inl hd
      · exact .inr rfl
    · rintro - _ _ _ _ _ _ hcreate
      cases hdecode.symm.trans hcreate
      exact ⟨_, (hmem _).mpr (.inr rfl), rfl, rfl⟩
    · rintro - _ _ hresolve
      cases hdecode.symm.trans hresolve
  | created tenant rule device severity message value hdecode hid hfree alerts halerts deliveries
      hinsert =>
    have hmem : ∀ d, d ∈ deliveries ↔ _ := fun _ => Table.mem_of_insert? hinsert
    have hnew : ∀ a, a ∈ alerts ↔ _ := fun _ => Table.mem_of_insert? halerts
    refine h.attempted hevent failure rfl (fun d hd => (hmem d).mpr (.inl hd)) ?_ ?_
      (fun a ha => ⟨a, (hnew a).mpr (.inl ha), .refl a⟩) ?_ ?_ (h.singleOpen.insert hfree halerts)
    · intro d hd
      rcases (hmem d).mp hd with hd | rfl
      · exact .inl hd
      · exact .inr rfl
    · intro a ha
      rcases (hnew a).mp ha with ha | rfl
      · exact .inl ⟨a, ha, .refl a⟩
      · exact .inr ⟨hid, _, (hmem _).mpr (.inr rfl), rfl, rfl⟩
    · rintro - _ _ _ _ _ _ hcreate
      cases hdecode.symm.trans hcreate
      exact ⟨_, (hmem _).mpr (.inr rfl), rfl, rfl⟩
    · rintro - _ _ hresolve
      cases hdecode.symm.trans hresolve
  | updated tenant id value _ hdecode =>
    obtain ⟨hback, hforth⟩ := follows_update sys.store.alerts
      (isNamed tenant id) (follows_setTriggeredValue value)
    refine h.attempted hevent failure rfl (fun _ hd => hd) (fun _ hd => .inl hd)
      (fun a ha => .inl (hback a ha)) hforth ?_ ?_ (h.singleOpen.of_follows hback)
    · rintro - _ _ _ _ _ _ hcreate
      cases hdecode.symm.trans hcreate
    · rintro - _ _ hresolve
      cases hdecode.symm.trans hresolve
  | resolved tenant id current hdecode hcurrent hopen =>
    obtain ⟨hback, hforth⟩ := follows_update sys.store.alerts
      (isNamed tenant id) (follows_resolve now)
    refine h.attempted hevent failure (by simp) (by simp) (fun d hd => .inl (by simpa using hd))
      ?_ ?_ ?_ ?_ ?_
    · rw [Store.transitionCooldown_alerts]
      exact fun a ha => .inl (hback a ha)
    · rw [Store.transitionCooldown_alerts]
      exact hforth
    · rintro - _ _ _ _ _ _ hcreate
      cases hdecode.symm.trans hcreate
    · rintro - _ _ hresolve
      cases hdecode.symm.trans hresolve
      obtain ⟨-, hid, ht⟩ := Store.getAlert_eq_some.mp hcurrent
      rw [Store.transitionCooldown_alerts]
      exact ⟨_, Store.mem_transitioned.mpr (.inr ⟨current, hcurrent, rfl⟩), ht, hid, rfl⟩
    · refine h.singleOpen.of_follows ?_
      rw [Store.transitionCooldown_alerts]
      exact hback

/-- The invariant of every run of observations and deliveries. -/
theorem Sound.step (h : Sound p sys) {step : RuleStep} (henabled : sys.enabled step)
    (hunattended : unattended step) : Sound p (sys.apply p step) :=
  unattended_induction henabled hunattended (fun uuid now tenant device plan _ =>
    h.observe uuid now tenant device plan) (fun _ => h.advances) fun _ _ hevent _ _ failure =>
    h.attempt hevent failure

end

def quiet : Store := { Store.sample with outbox := Outbox.empty }

theorem fresh_quiet : Fresh quiet := ⟨rfl, rfl, rfl⟩

def offlineEvent : OutboxEventRecord :=
  ((OutboxRow.ofAction default (labelled 'a') 0 (.createAlert "tenant" "rule" "device" "warning"
    "status changed to offline" (some "offline"), 0)).claim 0 "worker:token").toRecord

def deliverOffline : List RuleStep :=
  [.claim "worker" "token" 1 60 0, .attempt (fun _ => .ok ()) 0 offlineEvent,
    .report offlineEvent (.ok (), .retryable) 0]

end RuleSystem

end Extrittio
