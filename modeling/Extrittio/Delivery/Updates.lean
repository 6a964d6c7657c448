import Extrittio.Delivery.Values
import Extrittio.Outbox.ClaimOrder
import Extrittio.Outbox.Keys

/-!
The updates of an alert in the outbox: the value that a row or event sets, and what
their keys tell apart.
-/
namespace Extrittio

open Relational Transition Table AlertRow

namespace AlertIdentity

variable {a : AlertIdentity} {p : Platform}

def updateOf (a : AlertIdentity) : PendingAction → Option String
  | .updateAlertValue tenant id value => if tenant = a.tenant ∧ id = a.id then some value else none
  | _ => none

variable {action : PendingAction} {value : String} {r : OutboxRow} {e : OutboxEventRecord}

theorem updateOf_eq_some :
    a.updateOf action = some value ↔ action = .updateAlertValue a.tenant a.id value := by
  cases action with
  | updateAlertValue tenant id current =>
    simp only [updateOf, PendingAction.updateAlertValue.injEq]
    split_ifs with h
    · simp [h]
    · simp only [false_iff]
      rintro ⟨rfl, rfl, -⟩
      exact h ⟨rfl, rfl⟩
  | createAlert | resolveAlert | sendWebhook | sendCommand | updateCooldown | updateZoneEntry =>
    simp [updateOf]

def updateIn (a : AlertIdentity) (p : Platform) (tenantId eventType : String) (payload : Json) :
    Option String :=
  match decodeEvent p tenantId eventType payload with
  | .ok action => a.updateOf action
  | .error _ => none

def rowUpdate (a : AlertIdentity) (p : Platform) (r : OutboxRow) : Option String :=
  a.updateIn p r.tenantId r.eventType r.payload

def eventUpdate (a : AlertIdentity) (p : Platform) (e : OutboxEventRecord) : Option String :=
  a.updateIn p e.tenantId e.eventType e.payload

theorem updateIn_eq_some {tenantId eventType : String} {payload : Json} :
    a.updateIn p tenantId eventType payload = some value ↔
      decodeEvent p tenantId eventType payload = .ok (.updateAlertValue a.tenant a.id value) := by
  unfold updateIn
  cases decodeEvent p tenantId eventType payload with
  | error e => simp
  | ok action => simp [updateOf_eq_some]

theorem tenantId_of_rowUpdate (h : a.rowUpdate p r = some value) :
    r.tenantId = a.tenant :=
  (of_decodeEvent (updateIn_eq_some.mp h)).2.2.2.1.symm

theorem rowUpdate_of_carries (h : r.Carries p action) :
    a.rowUpdate p r = a.updateOf action := by
  rw [rowUpdate, updateIn, h.decode]

theorem rowUpdate_of_progress {r' : OutboxRow} (h : r.Progress r') :
    a.rowUpdate p r' = a.rowUpdate p r := by
  rw [rowUpdate, rowUpdate, h.tenantId, h.eventType, h.payload]

theorem eventUpdate_of_of (h : e.Of r) :
    a.eventUpdate p e = a.rowUpdate p r := by
  rw [rowUpdate, eventUpdate, h.2.1, h.2.2.1, h.2.2.2]

theorem eq_of_updateKey (hdigest : ∀ text, ':' ∉ (p.sha256Hex text).toList)
    {tenant tenant' id id' value' : String}
    (h : idempotencyKeyForAction p (.updateAlertValue tenant id value) =
      idempotencyKeyForAction p (.updateAlertValue tenant' id' value')) : id = id' :=
  updateAlertValue_key_inj (hdigest value) (hdigest value') h

/-- An update of the alert that no claim has taken. -/
def Waiting (a : AlertIdentity) (p : Platform) (r : OutboxRow) : Prop :=
  r.status = .pending ∧ (a.rowUpdate p r).isSome = true

def currentValue (a : AlertIdentity) (s : Store) : Option String :=
  (s.alerts.find? a.id).bind (·.triggeredValue)

theorem Waiting.tenantId (h : a.Waiting p r) : r.tenantId = a.tenant := by
  obtain ⟨_, hvalue⟩ := Option.isSome_iff_exists.mp h.2
  exact tenantId_of_rowUpdate hvalue

theorem eventUpdate_of_decode (h : decodeEvent p e.tenantId e.eventType e.payload = .ok action) :
    a.eventUpdate p e = a.updateOf action := by
  rw [eventUpdate, updateIn, h]

section

variable {s s' : Store}

variable {x : AlertRow} {q : AlertRow → Bool} {f : AlertRow → AlertRow}

theorem OpenIn.isNamed (h : a.OpenIn s) (hx : x ∈ s.alerts) (hid : x.id = a.id) :
    x.occupies a.tenant a.rule a.device ∧ x.tenantId = a.tenant := by
  obtain ⟨y, hy, hid', hoccupies⟩ := h.stored
  obtain rfl := s.alerts.eq_of_key_eq hy hx (hid'.trans hid.symm)
  exact ⟨hoccupies, (occupies_iff.mp hoccupies).1⟩

theorem OpenIn.update (h : a.OpenIn s) (hfollows : ∀ x : AlertRow, x.Follows (f x))
    (hkept : ∀ x, x.id = a.id → x.occupies a.tenant a.rule a.device → q x →
      (f x).occupies a.tenant a.rule a.device)
    (halerts : s'.alerts = s.alerts.update q f fun x => (hfollows x).id) : a.OpenIn s' := by
  constructor
  · obtain ⟨x, hx, hid, hoccupies⟩ := h.stored
    rw [halerts]
    refine ⟨_, mem_update.mpr ⟨x, hx, rfl⟩, ?_⟩
    split_ifs with hq
    · exact ⟨(hfollows x).id.trans hid, hkept x hid hoccupies hq⟩
    · exact ⟨hid, hoccupies⟩
  · intro x' hx' hoccupies
    rw [halerts] at hx'
    obtain ⟨x, hx, hfollows'⟩ := (follows_update s.alerts q hfollows).1 x' hx'
    rw [hfollows'.id]
    exact h.single x hx (hfollows'.occupies hoccupies)

theorem OpenIn.insert (h : a.OpenIn s) (hfree : ∀ y ∈ s.alerts, ∀ tenant rule device,
      x.occupies tenant rule device → y.occupies tenant rule device = false)
    (halerts : s.alerts.insert? x = some s'.alerts) :
    a.OpenIn s' ∧ a.currentValue s' = a.currentValue s := by
  obtain ⟨y, hy, hid, hoccupies⟩ := h.stored
  have hmem : ∀ z, z ∈ s'.alerts ↔ z ∈ s.alerts ∨ z = x := fun _ => mem_of_insert? halerts
  refine ⟨⟨⟨y, (hmem y).mpr (.inl hy), hid, hoccupies⟩, fun z hz hz' => ?_⟩, ?_⟩
  · rcases (hmem z).mp hz with hz | rfl
    · exact h.single z hz hz'
    · simp [hfree y hy _ _ _ hz'] at hoccupies
  · have hfind : s.alerts.find? a.id = some y := find?_eq_some.mpr ⟨hy, hid⟩
    have hfind' : s'.alerts.find? a.id = some y :=
      find?_eq_some.mpr ⟨(hmem y).mpr (.inl hy), hid⟩
    rw [currentValue, currentValue, hfind, hfind']

theorem OpenIn.currentValue_update (h : a.OpenIn s) (hfollows : ∀ x : AlertRow, x.Follows (f x))
    (hother : ∀ x, x.id = a.id → x.tenantId = a.tenant → q x = false)
    (halerts : s'.alerts = s.alerts.update q f fun x => (hfollows x).id) :
    a.currentValue s' = a.currentValue s := by
  obtain ⟨x, hx, hid, -⟩ := h.stored
  have hfind : s.alerts.find? a.id = some x := find?_eq_some.mpr ⟨hx, hid⟩
  have hq := hother x hid (h.isNamed hx hid).2
  rw [currentValue, currentValue, halerts, find?_update, hfind]
  simp [hq]

/-- An execution that succeeds and does not resolve the alert leaves it open; its
value changes exactly if the event updates it. -/
theorem OpenIn.attempt {now : ℤ} {event : OutboxEventRecord} {result : Except String Unit}
    (h : a.OpenIn s) (heffect : RuleDelivery.AttemptEffect p now event s s' result)
    (hok : result = .ok ())
    (hunresolved : decodeEvent p event.tenantId event.eventType event.payload ≠
      .ok (.resolveAlert a.tenant a.id)) :
    a.OpenIn s' ∧ a.currentValue s' = (a.eventUpdate p event).or (a.currentValue s) := by
  cases heffect with
  | refused message => cases hok
  | sent action hdecode hsend =>
    have hnone : a.updateOf action = none := by
      cases action <;> first | rfl | simp [PendingAction.isAlertAction] at hsend
    rw [eventUpdate_of_decode hdecode, hnone]
    exact ⟨h, rfl⟩
  | known tenant rule device severity message value hdecode =>
    rw [eventUpdate_of_decode hdecode]
    exact ⟨h, rfl⟩
  | reused tenant rule device severity message value hdecode =>
    rw [eventUpdate_of_decode hdecode]
    exact ⟨⟨h.stored, h.single⟩, rfl⟩
  | created tenant rule device severity message value hdecode _ hfree alerts halerts deliveries =>
    rw [eventUpdate_of_decode hdecode]
    refine h.insert ?_ halerts
    intro y hy t r d hoccupies
    obtain ⟨rfl, hrule, rfl, -⟩ := AlertRow.occupies_iff.mp hoccupies
    cases hrule
    exact hfree y hy
  | updated tenant id value _ hdecode =>
    rw [eventUpdate_of_decode hdecode]
    refine ⟨h.update (AlertRow.follows_setTriggeredValue value) (fun x _ hx _ => hx) rfl, ?_⟩
    by_cases hnamed : tenant = a.tenant ∧ id = a.id
    · obtain ⟨rfl, rfl⟩ := hnamed
      obtain ⟨x, hx, hid, -⟩ := h.stored
      have hfind : s.alerts.find? a.id = some x := Table.find?_eq_some.mpr ⟨hx, hid⟩
      have hx' : AlertRow.isNamed a.tenant a.id x := by
        simp [AlertRow.isNamed, hid, (h.isNamed hx hid).2]
      have hupdated : (s.updateTriggeredValue a.tenant a.id value).1.alerts.find? a.id =
          (s.alerts.find? a.id).map fun r =>
            if AlertRow.isNamed a.tenant a.id r then r.setTriggeredValue value else r :=
        Table.find?_update _ _ (fun x => (AlertRow.follows_setTriggeredValue value x).id) _
      rw [updateOf, if_pos ⟨rfl, rfl⟩, currentValue, hupdated, hfind]
      simp [hx', AlertRow.setTriggeredValue]
    · rw [updateOf, if_neg hnamed, Option.none_or]
      refine h.currentValue_update (AlertRow.follows_setTriggeredValue value) ?_ rfl
      intro x hid ht
      simp only [AlertRow.isNamed, decide_eq_false_iff_not]
      rintro ⟨rfl, rfl⟩
      exact hnamed ⟨ht, hid⟩
  | resolved tenant id current hdecode =>
    rw [eventUpdate_of_decode hdecode]
    have hother : ∀ x : AlertRow, x.id = a.id → x.tenantId = a.tenant →
        AlertRow.isNamed tenant id x = false := by
      intro x hid ht
      simp only [AlertRow.isNamed, decide_eq_false_iff_not]
      rintro ⟨rfl, rfl⟩
      exact hunresolved (by rw [hdecode, hid, ht])
    have halerts : (({ s with alerts := s.transitioned tenant id .resolve now } :
        Store).transitionCooldown tenant .resolve current now).alerts =
          s.transitioned tenant id .resolve now :=
      Store.transitionCooldown_alerts _ _ _
    refine ⟨h.update (AlertRow.follows_resolve now) ?_ halerts, ?_⟩
    · intro x hid hoccupies hq
      rw [hother x hid (AlertRow.occupies_iff.mp hoccupies).1] at hq
      cases hq
    · exact h.currentValue_update (AlertRow.follows_resolve now) hother halerts

end

def lastValue (a : AlertIdentity) (p : Platform) (sys : RuleSystem) : Option String :=
  sys.evaluations.findSome? fun e => a.carried p e.plan e.runtime

end AlertIdentity

end Extrittio
