import Extrittio.Alerts.Laws
import Extrittio.Library.Run

/-!
Open alerts over whole runs. No index enforces that a rule has one open alert
per device; it is carried by the check before an insert, the slot check of a
reactivation and the receipt that outlives its alert.
-/
namespace Extrittio

open Relational Transition Table AlertTransition

inductive AlertStep where
  | create (tenant : String) (record : NewRuleAlertRecord) (now : ℤ)
  | transition (tenant id : String) (tr : AlertTransition) (now : ℤ)
  | transitionMany (tenant : String) (ids : List String) (tr : AlertTransition) (now : ℕ → ℤ)
  | deleteResolved (cutoff : ℤ)

/-- The same alert later: it may have been closed, but not opened. -/
structure AlertRow.Follows (a a' : AlertRow) : Prop where
  id : a'.id = a.id
  tenantId : a'.tenantId = a.tenantId
  ruleId : a'.ruleId = a.ruleId
  deviceId : a'.deviceId = a.deviceId
  isOpen : a'.isOpen = true → a.isOpen = true

theorem AlertRow.Follows.refl (a : AlertRow) : a.Follows a := ⟨rfl, rfl, rfl, rfl, fun h => h⟩

theorem AlertRow.Follows.occupies {a a' : AlertRow} (h : a.Follows a') {tenant rule device : String}
    (hoccupies : a'.occupies tenant rule device) : a.occupies tenant rule device := by
  obtain ⟨ht, hr, hd, hopen⟩ := AlertRow.occupies_iff.mp hoccupies
  exact AlertRow.occupies_iff.mpr
    ⟨h.tenantId ▸ ht, h.ruleId ▸ hr, h.deviceId ▸ hd, h.isOpen hopen⟩

theorem AlertRow.follows_setTriggeredValue (value : String) (a : AlertRow) :
    a.Follows (a.setTriggeredValue value) :=
  ⟨rfl, rfl, rfl, rfl, fun h => h⟩

theorem AlertRow.follows_resolve (now : ℤ) (a : AlertRow) :
    a.Follows (resolve.set now a) :=
  ⟨rfl, rfl, rfl, rfl, by simp [AlertTransition.set, isOpen]⟩

theorem AlertRow.follows_update (alerts : Table AlertRow AlertRow.id) (q : AlertRow → Bool)
    {f : AlertRow → AlertRow} (hfollows : ∀ a : AlertRow, a.Follows (f a)) :
    (∀ a' ∈ alerts.update q f fun a => (hfollows a).id, ∃ a ∈ alerts, a.Follows a') ∧
      ∀ a ∈ alerts, ∃ a' ∈ alerts.update q f fun a => (hfollows a).id, a.Follows a' := by
  have hrow : ∀ a : AlertRow, a.Follows (if q a then f a else a) := by
    intro a
    split
    · exact hfollows a
    · exact .refl a
  constructor
  · intro a' ha'
    obtain ⟨a, ha, rfl⟩ := mem_update.mp ha'
    exact ⟨a, ha, hrow a⟩
  · intro a ha
    exact ⟨_, mem_update.mpr ⟨a, ha, rfl⟩, hrow a⟩

namespace Store

/-- A transaction that fails leaves the store as it was. -/
def committed {α : Type} (s : Store) : Except PersistenceError (Store × α) → Store
  | .ok (s', _) => s'
  | .error _ => s

def alertStep (s : Store) : AlertStep → Store
  | .create tenant record now => s.committed (s.createOrGetActive tenant record now)
  | .transition tenant id tr now => s.committed (s.transitionFrom tenant id tr now)
  | .transitionMany tenant ids tr now => s.committed (s.transitionMany tenant ids tr now)
  | .deleteResolved cutoff => (s.deleteAllResolvedBefore cutoff).1

def alertMachine : Machine Store AlertStep := ⟨fun _ _ => True, alertStep⟩

/-- At most one active or acknowledged alert per tenant, rule and device. -/
def SingleOpen (s : Store) : Prop :=
  ∀ tenant rule device, ∀ a ∈ s.alerts, ∀ b ∈ s.alerts,
    a.occupies tenant rule device = true → b.occupies tenant rule device = true → a = b

theorem SingleOpen.newestAlert_eq {s : Store} {tenant rule device : String} {a : AlertRow}
    (h : s.SingleOpen) (ha : a ∈ s.alerts) (hopen : a.occupies tenant rule device) :
    s.newestAlert (AlertRow.occupies tenant rule device) = some a := by
  cases hnewest : s.newestAlert (AlertRow.occupies tenant rule device) with
  | none => simp [newestAlert_eq_none.mp hnewest a ha] at hopen
  | some b =>
    obtain ⟨hb, hopen'⟩ := mem_of_newestAlert hnewest
    rw [h _ _ _ a ha b hb hopen hopen']

theorem committed_induction {α : Type} {P : Store → Prop} {s : Store}
    {result : Except PersistenceError (Store × α)} (hs : P s)
    (h : ∀ s' value, result = .ok (s', value) → P s') : P (s.committed result) := by
  cases result with
  | error e => exact hs
  | ok value => exact h value.1 value.2 rfl

section

variable {s s' : Store} {tenant id : String}

theorem SingleOpen.of_follows (h : s.SingleOpen)
    (hfrom : ∀ a' ∈ s'.alerts, ∃ a ∈ s.alerts, a.Follows a') : s'.SingleOpen := by
  intro t rule device a' ha' b' hb' hoa hob
  obtain ⟨a, ha, hfa⟩ := hfrom a' ha'
  obtain ⟨b, hb, hfb⟩ := hfrom b' hb'
  have hab := h t rule device a ha b hb (hfa.occupies hoa) (hfb.occupies hob)
  exact s'.alerts.eq_of_key_eq ha' hb' (by rw [hfa.id, hfb.id, hab])

variable {record : NewRuleAlertRecord} {now : ℤ} {tr : AlertTransition}

theorem SingleOpen.insert (h : s.SingleOpen)
    (hfree : ∀ a ∈ s.alerts, a.occupies tenant record.ruleId record.deviceId = false)
    (hinsert : s.alerts.insert? (newAlert tenant record now) = some s'.alerts) : s'.SingleOpen := by
  intro t rule device a ha b hb hoa hob
  -- The slot of the new alert was free, so it meets no other open alert.
  have hnew : ∀ x ∈ s.alerts, x.occupies t rule device →
      (newAlert tenant record now).occupies t rule device → False := by
    intro x hx hox hon
    obtain ⟨rfl, hrule, rfl, -⟩ := AlertRow.occupies_iff.mp hon
    obtain rfl : record.ruleId = rule := Option.some.inj hrule
    have hnot := hfree x hx
    change x.occupies tenant record.ruleId record.deviceId = true at hox
    rw [hnot] at hox
    cases hox
  rcases (mem_of_insert? hinsert).mp ha with ha | rfl <;>
    rcases (mem_of_insert? hinsert).mp hb with hb | rfl
  · exact h t rule device a ha b hb hoa hob
  · exact (hnew a ha hoa hob).elim
  · exact (hnew b hb hob hoa).elim
  · rfl

theorem SingleOpen.create {result : Option AlertRow}
    (h : s.SingleOpen) (hok : s.createOrGetActive tenant record now = .ok (s', result)) :
    s'.SingleOpen := by
  rcases createOrGetActive_cases hok with ⟨-, rfl⟩ | ⟨_, _, -, -, -, -, rfl⟩ |
    ⟨alerts, _, -, hfree, hinsert, -, rfl⟩
  · exact h
  · exact h
  · exact h.insert hfree hinsert

theorem isOpen_of_accepts {r : AlertRow}
    (haccepts : tr.accepts r.status) (hopen : (tr.set now r).isOpen)
    (htr : tr ≠ .reactivate) : r.isOpen := by
  cases tr with
  | acknowledge => simp_all [accepts, AlertRow.isOpen]
  | resolve => simp [AlertTransition.set, AlertRow.isOpen] at hopen
  | reactivate => exact absurd rfl htr

theorem SingleOpen.transition {outcome : AlertTransitionOutcome}
    (h : s.SingleOpen) (hok : s.transitionFrom tenant id tr now = .ok (s', outcome)) :
    s'.SingleOpen := by
  rcases transitionFrom_cases hok with ⟨rfl, -⟩ | ⟨current, hcurrent, -, haccepts, hslot, -, rfl⟩
  · exact h
  obtain ⟨hmem, hid, ht⟩ := getAlert_eq_some.mp hcurrent
  -- Another open alert of the moved alert's slot would have been there before.
  have hmoved : ∀ {t rule device : String}, ∀ x ∈ s.alerts, ¬(x.tenantId = tenant ∧ x.id = id) →
      x.occupies t rule device → (tr.set now current).occupies t rule device →
      False := by
    intro t rule device x hx hne hox hoc
    obtain ⟨htenant, hrule, hdevice, hopen⟩ := AlertRow.occupies_iff.mp hoc
    rw [set_tenantId, ht] at htenant
    rw [set_ruleId] at hrule
    rw [set_deviceId] at hdevice
    subst htenant hdevice
    have hxid : x.id ≠ id := fun hx' => hne ⟨(AlertRow.occupies_iff.mp hox).1, hx'⟩
    by_cases htr : tr = .reactivate
    · rw [hslot htr rule hrule x hx hxid] at hox
      cases hox
    · have hcur : current.occupies tenant rule current.deviceId :=
        AlertRow.occupies_iff.mpr ⟨ht, hrule, rfl, isOpen_of_accepts haccepts hopen htr⟩
      exact hxid ((h _ _ _ x hx current hmem hox hcur) ▸ hid)
  intro t rule device a ha b hb hoa hob
  rw [transitionCooldown_alerts] at ha hb
  rcases mem_transitioned.mp ha with ⟨ha, hane⟩ | ⟨a₀, ha₀, rfl⟩ <;>
    rcases mem_transitioned.mp hb with ⟨hb, hbne⟩ | ⟨b₀, hb₀, rfl⟩
  · exact h t rule device a ha b hb hoa hob
  · obtain rfl := Option.some.inj (hcurrent.symm.trans hb₀)
    exact (hmoved a ha hane hoa hob).elim
  · obtain rfl := Option.some.inj (hcurrent.symm.trans ha₀)
    exact (hmoved b hb hbne hob hoa).elim
  · rw [Option.some.inj (ha₀.symm.trans hb₀)]

theorem transitionEach_induction {P : Store → Prop} {now : ℕ → ℤ}
    {ids : List (String × ℕ)} {alerts : List AlertRow}
    (step : ∀ s s' id now outcome, P s → s.transitionFrom tenant id tr now = .ok (s', outcome) →
      P s') (h : transitionEach tenant tr now ids s = .ok (s', alerts)) (hs : P s) : P s' := by
  induction ids generalizing s alerts with
  | nil =>
    cases h
    exact hs
  | cons entry ids ih =>
    obtain ⟨⟨s₁, outcome⟩, hstep, hrest⟩ := of_bind_ok h
    obtain ⟨⟨s₂, rest⟩, hmany, hreturn⟩ := of_bind_ok hrest
    have hs₁ := step s s₁ entry.1 (now entry.2) outcome hs hstep
    cases outcome <;> cases hreturn <;> exact ih hmany hs₁

theorem SingleOpen.step (h : s.SingleOpen) (step : AlertStep) : (s.alertStep step).SingleOpen := by
  cases step with
  | create tenant record now => exact committed_induction h fun _ _ hok => h.create hok
  | transition tenant id tr now => exact committed_induction h fun _ _ hok => h.transition hok
  | transitionMany tenant ids tr now =>
    refine committed_induction h fun _ _ hok => ?_
    exact transitionEach_induction (fun _ _ _ _ _ hs hok => SingleOpen.transition hs hok) hok h
  | deleteResolved cutoff =>
    exact h.of_follows fun a ha => ⟨a, (mem_filter.mp ha).1, .refl a⟩

end

section

variable {s s' : Store} {tenant id delivery : String}

def Applied (s : Store) (delivery : String) : Prop := ∃ d ∈ s.deliveries, d.deliveryId = delivery

variable {result : Option AlertRow} {record : NewRuleAlertRecord}

theorem applied_of_findDelivery
    (h : s.findDelivery tenant delivery = some result) : s.Applied delivery := by
  simp only [findDelivery, Option.map_eq_some_iff, Option.filter_eq_some_iff,
    find?_eq_some] at h
  obtain ⟨d, ⟨⟨hd, hid⟩, -⟩, -⟩ := h
  exact ⟨d, hd, hid⟩

theorem applied_of_insert {r : DeliveryRow} {deliveries : Table DeliveryRow DeliveryRow.deliveryId}
    (h : s.deliveries.insert? r = some deliveries) :
    ({ s with deliveries := deliveries } : Store).Applied r.deliveryId :=
  ⟨r, (mem_of_insert? h).mpr (.inr rfl), rfl⟩

theorem applied_of_create {now : ℤ}
    (hok : s.createOrGetActive tenant record now = .ok (s', result)) : s'.Applied record.id := by
  rcases createOrGetActive_cases hok with ⟨hfound, rfl⟩ | ⟨_, _, -, -, -, hinsert, rfl⟩ |
    ⟨_, _, -, -, -, hinsert, rfl⟩
  · exact applied_of_findDelivery hfound
  · exact applied_of_insert hinsert
  · exact applied_of_insert hinsert

/-- A delivery that was applied changes nothing when it is delivered again. -/
theorem Applied.create_eq (h : s.Applied delivery)
    (hid : record.id = delivery) (tenant : String) (now : ℤ) :
    s.committed (s.createOrGetActive tenant record now) = s := by
  subst hid
  obtain ⟨d, hd, hid⟩ := h
  have hno : ∀ r, r.deliveryId = record.id → s.deliveries.insert? r = none := fun r hr =>
    insert?_eq_none.mpr ⟨d, hd, hid.trans hr.symm⟩
  refine committed_induction (P := fun s' => s' = s) rfl fun s' result hok => ?_
  rcases createOrGetActive_cases hok with ⟨-, rfl⟩ | ⟨_, _, -, -, -, hinsert, -⟩ |
    ⟨_, _, -, -, -, hinsert, -⟩
  · rfl
  · simp [hno] at hinsert
  · simp [hno] at hinsert

theorem Applied.of_deliveries_subset (h : s.Applied delivery)
    (hsub : ∀ d ∈ s.deliveries, d ∈ s'.deliveries) : s'.Applied delivery := by
  obtain ⟨d, hd, hid⟩ := h
  exact ⟨d, hsub d hd, hid⟩

theorem Applied.transition {tr : AlertTransition} {now : ℤ} {outcome : AlertTransitionOutcome}
    (h : s.Applied delivery) (hok : s.transitionFrom tenant id tr now = .ok (s', outcome)) :
    s'.Applied delivery := by
  rcases transitionFrom_cases hok with ⟨rfl, -⟩ | ⟨_, -, -, -, -, -, rfl⟩
  · exact h
  · exact h.of_deliveries_subset (by simp)

theorem Applied.step (h : s.Applied delivery) (step : AlertStep) :
    (s.alertStep step).Applied delivery := by
  cases step with
  | create tenant record now =>
    refine committed_induction (P := fun s' => s'.Applied delivery) h fun s' result hok => ?_
    rcases createOrGetActive_cases hok with ⟨-, rfl⟩ | ⟨_, _, -, -, -, hinsert, rfl⟩ |
      ⟨_, _, -, -, -, hinsert, rfl⟩
    · exact h
    · exact h.of_deliveries_subset fun d hd => (mem_of_insert? hinsert).mpr (.inl hd)
    · exact h.of_deliveries_subset fun d hd => (mem_of_insert? hinsert).mpr (.inl hd)
  | transition tenant id tr now =>
    exact committed_induction (P := fun s' => s'.Applied delivery) h fun _ _ hok => h.transition hok
  | transitionMany tenant ids tr now =>
    refine committed_induction (P := fun s' => s'.Applied delivery) h fun _ _ hok => ?_
    exact transitionEach_induction (fun _ _ _ _ _ hs hok => Applied.transition hs hok) hok h
  | deleteResolved cutoff => exact h

end

/-- In every run of creations by delivery, single and bulk transitions, retention
deletions and redeliveries there is at most one open alert per tenant, rule and
device; and once a delivery was applied, delivering it again, at any later point
and whatever happened to its alert, changes nothing. -/
theorem alert_run_sound {s t : Store} (hs : s.SingleOpen) (h : alertMachine.Reachable s t) :
    t.SingleOpen ∧
    ∀ tenant record now t₁ result, t.createOrGetActive tenant record now = .ok (t₁, result) →
      ∀ t₂, alertMachine.Reachable t₁ t₂ → ∀ tenant' record' now', record'.id = record.id →
        t₂.alertStep (.create tenant' record' now') = t₂ := by
  refine ⟨h.invariant (fun s step hs _ => hs.step step) hs, ?_⟩
  intro tenant record now t₁ result hok t₂ hreach tenant' record' now' hid
  have happlied : t₂.Applied record.id :=
    hreach.invariant (I := fun s => s.Applied record.id) (fun s step hs _ => hs.step step)
      (applied_of_create hok)
  exact happlied.create_eq hid tenant' now'

/-- A delivered alert that is resolved and then deleted by retention. -/
def resolvedAndDeleted : List AlertStep :=
  [.transition "tenant" "delivery" .resolve 20, .deleteResolved 1000000]

theorem alert_run_sound_sample :
    ∃ t, sample.createOrGetActive "tenant" ⟨"delivery", "rule", "device", "warning", "hot", none⟩ 10 =
        .ok (t, some (newAlert "tenant" ⟨"delivery", "rule", "device", "warning", "hot", none⟩ 10)) ∧
      (resolvedAndDeleted.foldl alertStep t).alerts.rows = [] ∧
      (resolvedAndDeleted.foldl alertStep t).alertStep
          (.create "tenant" ⟨"delivery", "rule", "device", "warning", "hot", none⟩ 30) =
        resolvedAndDeleted.foldl alertStep t := by
  have hs : sample.SingleOpen := by
    intro _ _ _ a ha
    cases ha
  have hrun : ∀ t, alertMachine.Reachable t (resolvedAndDeleted.foldl alertStep t) := fun t =>
    ⟨resolvedAndDeleted, .cons trivial (.cons trivial (.nil _))⟩
  refine ⟨_, rfl, rfl, ?_⟩
  exact (alert_run_sound hs (.refl _)).2 "tenant" _ 10 _ _ rfl _ (hrun _) "tenant" _ 30 rfl

end Store

end Extrittio
