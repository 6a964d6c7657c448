import Extrittio.Alerts.Repository

/-!
What each alert transaction can do to the store.
-/
namespace Extrittio

open Relational List Option

theorem AlertRow.occupies_iff {tenant rule device : String} {r : AlertRow} :
    r.occupies tenant rule device ↔
      r.tenantId = tenant ∧ r.ruleId = some rule ∧ r.deviceId = device ∧ r.isOpen := by
  simp [occupies, and_assoc]

namespace Store

variable {s s' : Store} {tenant id : String}

variable {r : AlertRow} {p : AlertRow → Bool} {now : ℤ} {tr : AlertTransition}

theorem getAlert_eq_some :
    s.getAlert tenant id = some r ↔ r ∈ s.alerts ∧ r.id = id ∧ r.tenantId = tenant := by
  simp [getAlert, filter_eq_some_iff, Table.find?_eq_some, and_assoc]

theorem newestAlert_eq_none :
    s.newestAlert p = none ↔ ∀ r ∈ s.alerts, p r = false := by
  have hnil : orderBy AlertRow.ageKey (s.alerts.rows.filter p) = [] ↔ s.alerts.rows.filter p = [] :=
    ⟨fun h => ((orderBy_perm _ _).symm.trans (.of_eq h)).eq_nil,
      fun h => ((orderBy_perm AlertRow.ageKey _).trans (.of_eq h)).eq_nil⟩
  simp [newestAlert, hnil, Table.mem_iff]

theorem mem_of_newestAlert (h : s.newestAlert p = some r) :
    r ∈ s.alerts ∧ p r := by
  have hmem := mem_of_getLast? h
  simpa [Table.mem_iff] using hmem

theorem recordDelivery_eq_ok {delivery alert : String}
    (h : s.recordDelivery tenant delivery alert = .ok s') :
    ∃ deliveries, s.deliveries.insert? ⟨delivery, tenant, alert⟩ = some deliveries ∧
      (s.outbox.table.find? delivery).isSome ∧
      s' = { s with deliveries := deliveries } := by
  unfold recordDelivery at h
  split at h
  next => cases h
  next deliveries hd =>
    split at h
    next => cases h
    next hfk =>
      cases h
      exact ⟨deliveries, hd, by simpa [isSome_iff_ne_none] using hfk, rfl⟩

theorem insertAlert_eq_ok (h : s.insertAlert r = .ok s') :
    ∃ alerts, s.alerts.insert? r = some alerts ∧ s' = { s with alerts := alerts } := by
  unfold insertAlert at h
  split at h
  next => cases h
  next alerts ha =>
    split at h
    next => cases h
    next =>
      cases h
      exact ⟨alerts, ha, rfl⟩

/-- A delivery that commits was applied before, reuses an alert, or creates the
one under its own id when no open alert of the rule and device exists. -/
theorem createOrGetActive_cases {r : NewRuleAlertRecord} {result : Option AlertRow}
    (h : s.createOrGetActive tenant r now = .ok (s', result)) :
    (s.findDelivery tenant r.id = some result ∧ s' = s) ∨
    (∃ existing deliveries, existing ∈ s.alerts ∧ result = some existing ∧
      (existing.id = r.id ∨ existing.occupies tenant r.ruleId r.deviceId) ∧
      s.deliveries.insert? ⟨r.id, tenant, existing.id⟩ = some deliveries ∧
      s' = { s with deliveries := deliveries }) ∨
    (∃ alerts deliveries, result = some (newAlert tenant r now) ∧
      (∀ a ∈ s.alerts, a.occupies tenant r.ruleId r.deviceId = false) ∧
      s.alerts.insert? (newAlert tenant r now) = some alerts ∧
      s.deliveries.insert? ⟨r.id, tenant, r.id⟩ = some deliveries ∧
      s' = { s with alerts := alerts, deliveries := deliveries }) := by
  unfold createOrGetActive at h
  split at h
  next applied hfound =>
    cases h
    exact .inl ⟨hfound, rfl⟩
  next =>
    split at h
    next => cases h
    next =>
      split at h
      next existing hexisting =>
        obtain ⟨s₁, hrecord, hreturn⟩ := of_bind_ok h
        cases hreturn
        obtain ⟨deliveries, hd, -, rfl⟩ := recordDelivery_eq_ok hrecord
        refine .inr (.inl ⟨existing, deliveries, ?_, rfl, ?_, hd, rfl⟩)
        · rcases or_eq_some_iff.mp hexisting with hget | ⟨-, hnewest⟩
          · exact (getAlert_eq_some.mp hget).1
          · exact (mem_of_newestAlert hnewest).1
        · rcases or_eq_some_iff.mp hexisting with hget | ⟨-, hnewest⟩
          · exact .inl (getAlert_eq_some.mp hget).2.1
          · exact .inr (mem_of_newestAlert hnewest).2
      next hnone =>
        obtain ⟨s₁, hinsert, hrest⟩ := of_bind_ok h
        obtain ⟨alerts, ha, rfl⟩ := insertAlert_eq_ok hinsert
        have hfree := newestAlert_eq_none.mp (or_eq_none_iff.mp hnone).2
        have hstored : ({ s with alerts := alerts } : Store).getAlert tenant r.id =
            some (newAlert tenant r now) :=
          getAlert_eq_some.mpr ⟨(Table.mem_of_insert? ha).mpr (.inr rfl), rfl, rfl⟩
        rw [hstored] at hrest
        obtain ⟨s₂, hrecord, hreturn⟩ := of_bind_ok hrest
        cases hreturn
        obtain ⟨deliveries, hd, -, rfl⟩ := recordDelivery_eq_ok hrecord
        exact .inr (.inr ⟨alerts, deliveries, rfl, hfree, ha, hd, rfl⟩)

@[simp] theorem transitionCooldown_alerts (tr : AlertTransition) (alert : AlertRow) (now : ℤ) :
    (s.transitionCooldown tenant tr alert now).alerts = s.alerts := by
  unfold transitionCooldown
  split <;> rfl

@[simp] theorem transitionCooldown_deliveries (tr : AlertTransition) (alert : AlertRow) (now : ℤ) :
    (s.transitionCooldown tenant tr alert now).deliveries = s.deliveries := by
  unfold transitionCooldown
  split <;> rfl

@[simp] theorem transitionCooldown_outbox (tr : AlertTransition) (alert : AlertRow) (now : ℤ) :
    (s.transitionCooldown tenant tr alert now).outbox = s.outbox := by
  unfold transitionCooldown
  split <;> rfl

def transitioned (s : Store) (tenant id : String) (tr : AlertTransition) (now : ℤ) :
    Table AlertRow AlertRow.id :=
  s.alerts.update (AlertRow.isNamed tenant id) (tr.set now) (tr.set_id now)

theorem mem_transitioned :
    r ∈ s.transitioned tenant id tr now ↔
      (r ∈ s.alerts ∧ ¬(r.tenantId = tenant ∧ r.id = id)) ∨
        ∃ r₀, s.getAlert tenant id = some r₀ ∧ r = tr.set now r₀ := by
  simp only [transitioned, Table.mem_update, AlertRow.isNamed, decide_eq_true_eq, getAlert_eq_some]
  constructor
  · rintro ⟨r₀, hr₀, rfl⟩
    split
    next hsel => exact .inr ⟨r₀, ⟨hr₀, hsel.2, hsel.1⟩, rfl⟩
    next hsel => exact .inl ⟨hr₀, hsel⟩
  · rintro (⟨hr, hsel⟩ | ⟨r₀, ⟨hr₀, hid, ht⟩, rfl⟩)
    · exact ⟨r, hr, if_neg hsel⟩
    · exact ⟨r₀, hr₀, if_pos ⟨ht, hid⟩⟩

/-- What a transition finds, before it writes anything. -/
def transitionOutcome (s : Store) (tenant id : String) (tr : AlertTransition) (now : ℤ) :
    AlertTransitionOutcome :=
  match s.getAlert tenant id with
  | none => .notFound
  | some current =>
    if (s.device? tenant current.deviceId).isNone then .notFound
    else if !tr.accepts current.status then .invalidStatus current.status
    else
      match current.ruleId.bind fun rule =>
        if tr.requiresActiveSlot then
          s.newestAlert fun r => r.id ≠ id && r.occupies tenant rule current.deviceId
        else none with
      | some existing => .activeConflict existing.id
      | none => .updated (tr.set now current)

/-- A transition writes only when the alert moves. -/
def applyOutcome (s : Store) (tenant id : String) (tr : AlertTransition) (now : ℤ) :
    AlertTransitionOutcome → Store
  | .updated alert =>
    { s with alerts := s.transitioned tenant id tr now }.transitionCooldown tenant tr alert now
  | _ => s

theorem transitionCooldown_set (tr : AlertTransition) (alert : AlertRow) (now now' : ℤ) :
    s.transitionCooldown tenant tr (tr.set now' alert) now =
      s.transitionCooldown tenant tr alert now := by
  simp [transitionCooldown]

/-- A transition always commits: the row that it reads back is the one it wrote. -/
theorem transitionFrom_eq (s : Store) (tenant id : String) (tr : AlertTransition) (now : ℤ) :
    s.transitionFrom tenant id tr now =
      .ok (s.applyOutcome tenant id tr now (s.transitionOutcome tenant id tr now),
        s.transitionOutcome tenant id tr now) := by
  unfold transitionFrom transitionOutcome
  cases hcurrent : s.getAlert tenant id with
  | none => rfl
  | some current =>
    simp only
    split
    · rfl
    · split
      · rfl
      · generalize (current.ruleId.bind fun rule =>
          if tr.requiresActiveSlot then
            s.newestAlert fun r => r.id ≠ id && r.occupies tenant rule current.deviceId
          else none) = conflict
        cases conflict with
        | some existing => rfl
        | none =>
          obtain ⟨-, hid, ht⟩ := getAlert_eq_some.mp hcurrent
          have hstored : ({ s with alerts := s.transitioned tenant id tr now }.transitionCooldown
              tenant tr current now).getAlert tenant id = some (tr.set now current) := by
            rw [getAlert_eq_some, transitionCooldown_alerts]
            exact ⟨mem_transitioned.mpr (.inr ⟨current, hcurrent, rfl⟩), by simpa using hid,
              by simpa using ht⟩
          change (match ({ s with alerts := s.transitioned tenant id tr now }.transitionCooldown
            tenant tr current now).getAlert tenant id with
            | none => _
            | some alert => _) = _
          rw [hstored]
          simp only [applyOutcome, transitionCooldown_set]
          rfl

theorem transitionOutcome_updated {alert : AlertRow}
    (h : s.transitionOutcome tenant id tr now = .updated alert) :
    ∃ current, s.getAlert tenant id = some current ∧
      (s.device? tenant current.deviceId).isSome ∧ tr.accepts current.status ∧
      (tr = .reactivate → ∀ rule ∈ current.ruleId, ∀ a ∈ s.alerts, a.id ≠ id →
        a.occupies tenant rule current.deviceId = false) ∧
      alert = tr.set now current := by
  unfold transitionOutcome at h
  split at h
  next => cases h
  next current hcurrent =>
    split at h
    next => cases h
    next hdevice =>
      split at h
      next => cases h
      next haccepts =>
        split at h
        next => cases h
        next hfree =>
          cases h
          refine ⟨current, hcurrent, by simpa [isSome_iff_ne_none] using hdevice,
            by simpa using haccepts, ?_, rfl⟩
          rintro rfl rule hrule a ha hne
          have hnone : s.newestAlert (fun r => r.id ≠ id && r.occupies tenant rule current.deviceId)
              = none := by
            rw [mem_def.mp hrule] at hfree
            simpa [AlertTransition.requiresActiveSlot] using hfree
          simpa [hne] using newestAlert_eq_none.mp hnone a ha

/-- A transition leaves the store as it is, or moves one alert that accepts it;
a reactivation finds the slot of its rule and device free. -/
theorem transitionFrom_cases {outcome : AlertTransitionOutcome}
    (h : s.transitionFrom tenant id tr now = .ok (s', outcome)) :
    (s' = s ∧ ∀ alert, outcome ≠ .updated alert) ∨
    ∃ current, s.getAlert tenant id = some current ∧
      (s.device? tenant current.deviceId).isSome ∧
      tr.accepts current.status ∧
      (tr = .reactivate → ∀ rule ∈ current.ruleId, ∀ a ∈ s.alerts, a.id ≠ id →
        a.occupies tenant rule current.deviceId = false) ∧
      outcome = .updated (tr.set now current) ∧
      s' = { s with alerts := s.transitioned tenant id tr now }.transitionCooldown tenant tr
        current now := by
  rw [transitionFrom_eq] at h
  cases houtcome : s.transitionOutcome tenant id tr now with
  | updated alert =>
    right
    rw [houtcome] at h
    cases h
    obtain ⟨current, hcurrent, hdevice, haccepts, hslot, rfl⟩ := transitionOutcome_updated houtcome
    exact ⟨current, hcurrent, hdevice, haccepts, hslot, rfl, transitionCooldown_set tr current now now⟩
  | notFound | invalidStatus | activeConflict =>
    left
    rw [houtcome] at h
    cases h
    exact ⟨rfl, by simp⟩

end Store

end Extrittio
