import Extrittio.RuleSystem

/-!
Cooldowns over whole runs. Retention deletes cooldown rows a day after they were
written. A run is compared with the one that keeps every row: the two decide the
same at every observation, and in the second one the stored row bounds every
earlier firing of its rule and device.
-/
namespace Extrittio

open Relational Transition List Option DeviceRuleEvaluation CooldownRow RuleDelivery Store AlertWorker AlertMaintenance

namespace Store

def lastFired (s : Store) (key : RuleDeviceKey) : Option ℤ :=
  (s.cooldowns.find? key).map lastFiredAt

theorem lastFired_upsertCooldown (s : Store) (tenant rule device : String) (firedAt : ℤ)
    (key : RuleDeviceKey) :
    (s.upsertCooldown tenant rule device firedAt).lastFired key =
      if key = (tenant, rule, device) then
        some ((s.lastFired key).elim firedAt fun last => max last firedAt)
      else s.lastFired key := by
  split
  next heq =>
    subst heq
    have hfind : (s.upsertCooldown tenant rule device firedAt).cooldowns.find?
        (key ⟨tenant, rule, device, firedAt⟩) = some _ := Table.find?_upsert_self
    change ((s.upsertCooldown tenant rule device firedAt).cooldowns.find?
      (key ⟨tenant, rule, device, firedAt⟩)).map _ = _
    rw [hfind]
    change _ = some (Option.elim ((s.cooldowns.find?
      (key ⟨tenant, rule, device, firedAt⟩)).map _) _ _)
    cases s.cooldowns.find? (key ⟨tenant, rule, device, firedAt⟩) <;> rfl
  next hne =>
    have hfind : (s.upsertCooldown tenant rule device firedAt).cooldowns.find? key =
        s.cooldowns.find? key := Table.find?_upsert_of_ne hne
    rw [lastFired, lastFired, hfind]

/-- Absent, or written a day before retention last ran. -/
def Expired (prunedAt : List ℤ) (fired : Option ℤ) : Prop :=
  ∀ micros ∈ fired, ∃ now ∈ prunedAt, datetime micros + 86400000000000 ≤ now

/-- The same store but for cooldown rows that no rule can still be in. -/
structure Agrees (prunedAt : List ℤ) (s kept : Store) : Prop where
  rest : kept = { s with cooldowns := kept.cooldowns }
  cooldowns : ∀ key, kept.lastFired key = s.lastFired key ∨
    Expired prunedAt (kept.lastFired key) ∧ Expired prunedAt (s.lastFired key)

section

variable (s : Store) (tenant : String) (cooldowns : Table CooldownRow key)

theorem recordDelivery_withCooldowns (delivery alert : String) :
    ({ s with cooldowns := cooldowns } : Store).recordDelivery tenant delivery alert =
      (s.recordDelivery tenant delivery alert).map fun s => { s with cooldowns := cooldowns } := by
  unfold recordDelivery
  cases s.deliveries.insert? ⟨delivery, tenant, alert⟩ with
  | none => rfl
  | some deliveries =>
    simp only
    split <;> rfl

theorem insertAlert_withCooldowns (r : AlertRow) :
    ({ s with cooldowns := cooldowns } : Store).insertAlert r =
      (s.insertAlert r).map fun s => { s with cooldowns := cooldowns } := by
  unfold insertAlert
  cases s.alerts.insert? r with
  | none => rfl
  | some alerts =>
    change (if (s.device? r.tenantId r.deviceId).isNone ||
      r.ruleId.any (fun rule => (s.rule? r.tenantId rule).isNone) then _ else _) = _
    simp only
    split <;> rfl

/-- Creating an alert neither reads nor writes cooldowns. -/
theorem createOrGetActive_withCooldowns (r : NewRuleAlertRecord) (now : ℤ) :
    ({ s with cooldowns := cooldowns } : Store).createOrGetActive tenant r now =
      (s.createOrGetActive tenant r now).map
        fun x => ({ x.1 with cooldowns := cooldowns }, x.2) := by
  have hget : ∀ (t : Store) (id : String),
      ({ t with cooldowns := cooldowns } : Store).getAlert tenant id = t.getAlert tenant id :=
    fun _ _ => rfl
  unfold createOrGetActive
  rw [show ({ s with cooldowns := cooldowns } : Store).findDelivery = s.findDelivery from rfl,
    show ({ s with cooldowns := cooldowns } : Store).device? = s.device? from rfl,
    show ({ s with cooldowns := cooldowns } : Store).newestAlert = s.newestAlert from rfl, hget]
  cases s.findDelivery tenant r.id with
  | some applied => rfl
  | none =>
    simp only
    split
    · rfl
    · cases (s.getAlert tenant r.id).or
          (s.newestAlert (AlertRow.occupies tenant r.ruleId r.deviceId)) with
      | some existing =>
        simp only [recordDelivery_withCooldowns]
        cases s.recordDelivery tenant r.id existing.id <;> rfl
      | none =>
        simp only [insertAlert_withCooldowns]
        cases s.insertAlert (newAlert tenant r now) with
        | error e => rfl
        | ok s₁ =>
          simp only [Except.map, bind, Except.bind, hget]
          cases s₁.getAlert tenant r.id with
          | none => rfl
          | some alert =>
            simp only [recordDelivery_withCooldowns]
            cases s₁.recordDelivery tenant r.id alert.id <;> rfl

end

section

variable {prunedAt : List ℤ} {s kept : Store} {tenant : String}

theorem Expired.max {v last : ℤ} (hv : Expired prunedAt (some v)) (hlast : Expired prunedAt (some last)) :
    Expired prunedAt (some (Max.max last v)) := by
  rintro micros hmicros
  rcases max_choice last v with heq | heq <;> rw [heq] at hmicros
  · exact hlast micros hmicros
  · exact hv micros hmicros

variable {fired : Option ℤ} {tr : AlertTransition} {prunedAt' : List ℤ}

theorem Expired.elim_eq {v : ℤ} (hfired : Expired prunedAt fired)
    (hv : ¬Expired prunedAt (some v)) : fired.elim v (fun last => Max.max last v) = v := by
  cases fired with
  | none => rfl
  | some last =>
    obtain ⟨now, hnow, hle⟩ := hfired last rfl
    have hlt : now < datetime v + 86400000000000 := by
      by_contra hge
      exact hv fun micros hmicros => ⟨now, hnow, by
        cases hmicros
        omega⟩
    simp only [elim_some, datetime] at hle hlt ⊢
    omega

theorem Agrees.upsertCooldown (h : Agrees prunedAt s kept) (rule device : String) (firedAt : ℤ) :
    Agrees prunedAt (s.upsertCooldown tenant rule device firedAt)
      (kept.upsertCooldown tenant rule device firedAt) where
  rest := by
    conv_lhs => rw [h.rest]
    rfl
  cooldowns key := by
    rw [lastFired_upsertCooldown, lastFired_upsertCooldown]
    split
    next =>
      rcases h.cooldowns key with heq | ⟨hkept, hs⟩
      · exact .inl (by rw [heq])
      · by_cases hfired : Expired prunedAt (some firedAt)
        · right
          have helim : ∀ {fired : Option ℤ}, Expired prunedAt fired →
              Expired prunedAt (some (fired.elim firedAt fun last => Max.max last firedAt)) := by
            intro fired hexpired
            cases fired with
            | none => exact hfired
            | some last => exact hfired.max hexpired
          exact ⟨helim hkept, helim hs⟩
        · exact .inl (by rw [hkept.elim_eq hfired, hs.elim_eq hfired])
    next => exact h.cooldowns key

theorem Agrees.of_eq {s' kept' : Store} (h : Agrees prunedAt s kept)
    (hs : s'.cooldowns = s.cooldowns) (hkept : kept'.cooldowns = kept.cooldowns)
    (hrest : kept' = { s' with cooldowns := kept'.cooldowns }) : Agrees prunedAt s' kept' where
  rest := hrest
  cooldowns key := by
    simp only [lastFired, hs, hkept]
    exact h.cooldowns key

theorem Agrees.writeCooldowns (h : Agrees prunedAt s kept) (cooldowns : List CooldownRecord) :
    Agrees prunedAt (cooldowns.foldl writeCooldown s) (cooldowns.foldl writeCooldown kept) := by
  induction cooldowns generalizing s kept with
  | nil => exact h
  | cons c cooldowns ih => exact ih (h.upsertCooldown c.ruleId c.deviceId _)

theorem Agrees.transitionOutcome (h : Agrees prunedAt s kept) (id : String) (tr : AlertTransition)
    (now : ℤ) : kept.transitionOutcome tenant id tr now = s.transitionOutcome tenant id tr now := by
  rw [h.rest]
  rfl

theorem Agrees.applyOutcome (h : Agrees prunedAt s kept)
    (htr : tr ≠ .reactivate) (id : String) (now : ℤ) (outcome : AlertTransitionOutcome) :
    Agrees prunedAt (s.applyOutcome tenant id tr now outcome)
      (kept.applyOutcome tenant id tr now outcome) := by
  cases outcome with
  | notFound | invalidStatus | activeConflict => exact h
  | updated alert =>
    have hmoved : Agrees prunedAt { s with alerts := s.transitioned tenant id tr now }
        { kept with alerts := kept.transitioned tenant id tr now } :=
      h.of_eq rfl rfl (by
        conv_lhs => rw [h.rest]
        rfl)
    simp only [Store.applyOutcome, transitionCooldown]
    split
    · exact hmoved.upsertCooldown _ _ _
    · exact absurd rfl htr
    · exact hmoved

theorem Agrees.transition (h : Agrees prunedAt s kept)
    (htr : tr ≠ .reactivate) (tenant id : String) (now : ℤ) :
    ∃ s' kept' outcome, s.transitionFrom tenant id tr now = .ok (s', outcome) ∧
      kept.transitionFrom tenant id tr now = .ok (kept', outcome) ∧ Agrees prunedAt s' kept' := by
  refine ⟨_, _, _, transitionFrom_eq _ _ _ _ _, ?_, h.applyOutcome htr id now _⟩
  rw [transitionFrom_eq, h.transitionOutcome]

theorem Agrees.transitionEach (htr : tr ≠ .reactivate) (tenant : String)
    (now : ℕ → ℤ) (ids : List (String × ℕ)) (h : Agrees prunedAt s kept) :
    ∃ s' kept' rows, transitionEach tenant tr now ids s = .ok (s', rows) ∧
      transitionEach tenant tr now ids kept = .ok (kept', rows) ∧ Agrees prunedAt s' kept' := by
  induction ids generalizing s kept with
  | nil => exact ⟨s, kept, [], rfl, rfl, h⟩
  | cons head ids ih =>
    obtain ⟨id, i⟩ := head
    obtain ⟨s₁, kept₁, outcome, hs₁, hkept₁, h₁⟩ := h.transition htr tenant id (now i)
    obtain ⟨s₂, kept₂, rows, hs₂, hkept₂, h₂⟩ := ih h₁
    have hstep : ∃ rows', transitionEach tenant tr now ((id, i) :: ids) s = .ok (s₂, rows') ∧
        transitionEach tenant tr now ((id, i) :: ids) kept = .ok (kept₂, rows') := by
      simp only [transitionEach, hs₁, hkept₁, hs₂, hkept₂, bind, Except.bind]
      cases outcome <;> exact ⟨_, rfl, rfl⟩
    obtain ⟨rows', hs', hkept'⟩ := hstep
    exact ⟨s₂, kept₂, rows', hs', hkept', h₂⟩

/-- Operations that answer alike on stores that agree. -/
def AgreeOn {α : Type} (prunedAt : List ℤ) (x kept : Store × α) : Prop :=
  kept.2 = x.2 ∧ Agrees prunedAt x.1 kept.1

theorem AgreeOn.asText {α : Type} {x y : Store × Except ApplicationError α}
    (h : AgreeOn prunedAt x y) : AgreeOn prunedAt (asText x) (asText y) := by
  obtain ⟨s, result⟩ := x
  obtain ⟨kept, result'⟩ := y
  obtain ⟨rfl, hagrees⟩ := h
  cases result' <;> exact ⟨rfl, hagrees⟩

theorem Agrees.createForAction (h : Agrees prunedAt s kept) (delivery : String)
    (r : NewRuleAlertRecord) (now : ℤ) :
    AgreeOn prunedAt (createForAction s tenant delivery r now)
      (createForAction kept tenant delivery r now) := by
  unfold AlertWorker.createForAction
  split
  · exact ⟨rfl, h⟩
  · have hframe := s.createOrGetActive_withCooldowns tenant kept.cooldowns { r with id := delivery } now
    rw [← h.rest] at hframe
    rw [hframe]
    cases hs : s.createOrGetActive tenant { r with id := delivery } now with
    | error e => exact ⟨rfl, h⟩
    | ok result =>
      obtain ⟨s', alert⟩ := result
      refine ⟨rfl, h.of_eq ?_ rfl rfl⟩
      rcases createOrGetActive_cases hs with ⟨-, rfl⟩ | ⟨_, _, -, -, -, -, rfl⟩ |
        ⟨_, _, -, -, -, -, rfl⟩ <;> rfl

theorem Agrees.updateValueForAction (h : Agrees prunedAt s kept) (id value : String) :
    AgreeOn prunedAt (updateValueForAction s tenant id value)
      (updateValueForAction kept tenant id value) := by
  have hupdated : (kept.updateTriggeredValue tenant id value).2 =
      (s.updateTriggeredValue tenant id value).2 := by
    rw [h.rest]
    rfl
  have hagrees : Agrees prunedAt (s.updateTriggeredValue tenant id value).1
      (kept.updateTriggeredValue tenant id value).1 :=
    h.of_eq rfl rfl (by
      conv_lhs => rw [h.rest]
      rfl)
  simp only [AlertWorker.updateValueForAction, hupdated]
  split <;> exact ⟨rfl, hagrees⟩

theorem Agrees.resolveForAction (h : Agrees prunedAt s kept) (id : String) (now : ℤ) :
    AgreeOn prunedAt (resolveForAction s tenant id now)
      (resolveForAction kept tenant id now) := by
  obtain ⟨s', kept', outcome, hs, hkept, hagrees⟩ :=
    h.transition (show AlertTransition.resolve ≠ .reactivate by simp) tenant id now
  simp only [AlertWorker.resolveForAction, hs, hkept]
  cases outcome <;> exact ⟨rfl, hagrees⟩

theorem Agrees.attempt (h : Agrees prunedAt s kept) (p : Platform)
    (external : PendingAction → Except String Unit) (now : ℤ) (event : OutboxEventRecord) :
    AgreeOn prunedAt (RuleDelivery.attempt p external now event s)
      (RuleDelivery.attempt p external now event kept) := by
  have hblank : ∀ {tenantId : String} {run run' : String → Store × Except String Unit},
      (∀ tenant, AgreeOn prunedAt (run tenant) (run' tenant)) →
      AgreeOn prunedAt (RuleDelivery.withTenant s tenantId run)
        (RuleDelivery.withTenant kept tenantId run') := by
    intro tenantId run run' hrun
    unfold RuleDelivery.withTenant
    cases tenantIdNew tenantId with
    | error message => exact ⟨rfl, h⟩
    | ok tenant => exact hrun tenant
  cases hdecode : decodeEvent p event.tenantId event.eventType event.payload with
  | error e =>
    simp only [RuleDelivery.attempt, hdecode]
    exact ⟨rfl, h⟩
  | ok action =>
    have hexecute : AgreeOn prunedAt (RuleDelivery.execute external now action event.id s)
        (RuleDelivery.execute external now action event.id kept) := by
      cases action with
      | createAlert => exact hblank fun tenant => (h.createForAction _ _ _).asText
      | updateAlertValue => exact hblank fun tenant => (h.updateValueForAction _ _).asText
      | resolveAlert => exact hblank fun tenant => (h.resolveForAction _ _).asText
      | sendCommand => exact hblank fun tenant => ⟨rfl, h⟩
      | sendWebhook | updateCooldown | updateZoneEntry => exact ⟨rfl, h⟩
    rw [RuleDelivery.attempt_eq hdecode, RuleDelivery.attempt_eq hdecode]
    exact ⟨by rw [hexecute.1], hexecute.2⟩

theorem isInCooldown_of_expired {cache : RuleCache} {ruleId deviceId : String}
    {cooldownSeconds now : ℤ} (hfired : Expired prunedAt fired)
    (hcache : ∀ time ∈ cache.cooldowns (tenant, ruleId, deviceId), time ∈ fired.map datetime)
    (hlimit : cooldownSeconds ≤ 86400) (hclock : ∀ n ∈ prunedAt, n ≤ now) :
    isInCooldownForTenantAt cache tenant ruleId deviceId cooldownSeconds now = false := by
  unfold isInCooldownForTenantAt
  split
  · rfl
  next hpos =>
    split
    next time htime =>
      obtain ⟨micros, hmicros, rfl⟩ := map_eq_some_iff.mp (hcache time htime)
      obtain ⟨n, hn, hle⟩ := hfired micros hmicros
      have hnow := hclock n hn
      rw [decide_eq_false_iff_not, numSeconds_lt_iff (by omega)]
      omega
    next => rfl

/-- Rows that retention may delete do not change what is decided afterwards. -/
theorem Agrees.decide (h : Agrees prunedAt s kept) (p : Platform) (plan : DeviceRuleEvaluation)
    (tenant device : String) (ids : List String)
    (hlimit : ∀ rule ∈ plan.snapshot.definitions.all, rule.cooldownSeconds ≤ 86400)
    (hclock : ∀ n ∈ prunedAt, n ≤ plan.observedAt) :
    plan.decide p (kept.deviceRuleRuntime tenant device ids) =
      plan.decide p (s.deviceRuleRuntime tenant device ids) := by
  have hruntime : kept.deviceRuleRuntime tenant device ids =
      { s.deviceRuleRuntime tenant device ids with
        cooldowns := (kept.deviceRuleRuntime tenant device ids).cooldowns } := by
    conv_lhs => rw [h.rest]
    rfl
  have hread : ∀ (t : Store) key, ∀ time ∈ (t.deviceRuleRuntime tenant device ids).cooldowns key,
      time ∈ (t.lastFired key).map datetime := by
    intro t key time htime
    simp only [deviceRuleRuntime] at htime
    split at htime
    · simpa [lastFired] using htime
    · cases htime
  rw [hruntime]
  refine decide_congr_cooldowns p fun rule hrule => ?_
  have hrulelimit := hlimit rule ((plan.liveRules_sublist _).subset hrule)
  rcases h.cooldowns (rule.tenantId, rule.id, plan.deviceId) with heq | ⟨hkept, hs⟩
  · have hcache : (kept.deviceRuleRuntime tenant device ids).cooldowns
        (rule.tenantId, rule.id, plan.deviceId) =
        (s.deviceRuleRuntime tenant device ids).cooldowns (rule.tenantId, rule.id, plan.deviceId) := by
      have hmap := congrArg (Option.map datetime) heq
      simp only [lastFired, Option.map_map] at hmap
      simp only [deviceRuleRuntime]
      split
      · exact hmap
      · rfl
    simp only [isInCooldownForTenantAt, runtimeCache, hcache]
  · rw [isInCooldown_of_expired hkept (hread kept _) hrulelimit hclock,
      isInCooldown_of_expired hs (hread s _) hrulelimit hclock]

theorem Agrees.writeZoneEntry (h : Agrees prunedAt s kept) (entry : ZoneEntryMutation) :
    (∃ e, s.writeZoneEntry entry = .error e ∧ kept.writeZoneEntry entry = .error e) ∨
    ∃ s' kept', s.writeZoneEntry entry = .ok s' ∧ kept.writeZoneEntry entry = .ok kept' ∧
      Agrees prunedAt s' kept' := by
  have hframe : kept.writeZoneEntry entry =
      (s.writeZoneEntry entry).map fun s => { s with cooldowns := kept.cooldowns } := by
    conv_lhs => rw [h.rest]
    unfold Store.writeZoneEntry
    cases entry.enteredAt with
    | none => rfl
    | some time =>
      change (if (s.rule? entry.tenantId entry.ruleId).isNone ||
        (s.device? entry.tenantId entry.deviceId).isNone then _ else _) = _
      simp only
      split <;> rfl
  rw [hframe]
  cases hs : s.writeZoneEntry entry with
  | error e => exact .inl ⟨e, rfl, rfl⟩
  | ok s' =>
    obtain ⟨zoneEntries, rfl⟩ := writeZoneEntry_eq_ok hs
    exact .inr ⟨_, _, rfl, rfl, h.of_eq rfl rfl rfl⟩

theorem Agrees.writeZoneEntries (entries : List ZoneEntryMutation) (h : Agrees prunedAt s kept) :
    (∃ e, entries.foldlM Store.writeZoneEntry s = .error e ∧
      entries.foldlM Store.writeZoneEntry kept = .error e) ∨
    ∃ s' kept', entries.foldlM Store.writeZoneEntry s = .ok s' ∧
      entries.foldlM Store.writeZoneEntry kept = .ok kept' ∧ Agrees prunedAt s' kept' := by
  induction entries generalizing s kept with
  | nil => exact .inr ⟨s, kept, rfl, rfl, h⟩
  | cons entry entries ih =>
    simp only [foldlM_cons]
    rcases h.writeZoneEntry entry with ⟨e, hs, hkept⟩ | ⟨s', kept', hs, hkept, h'⟩
    · rw [hs, hkept]
      exact .inl ⟨e, rfl, rfl⟩
    · rw [hs, hkept]
      exact ih h'

theorem Agrees.prepareEvaluation (h : Agrees prunedAt s kept) (tenant device : String)
    (plan : DeviceRuleEvaluation) :
    (∃ e, s.prepareEvaluation tenant device plan = .error e ∧
      kept.prepareEvaluation tenant device plan = .error e) ∨
    ∃ target, s.prepareEvaluation tenant device plan = .ok (s.retarget target plan,
        s.deviceRuleRuntime tenant device (s.retarget target plan).candidateRuleIds) ∧
      kept.prepareEvaluation tenant device plan = .ok (s.retarget target plan,
        kept.deviceRuleRuntime tenant device (s.retarget target plan).candidateRuleIds) := by
  have hretarget : ∀ target, kept.retarget target plan = s.retarget target plan := by
    intro target
    rw [h.rest]
    rfl
  have hdevice : kept.device? tenant device = s.device? tenant device := by
    rw [h.rest]
    rfl
  unfold Store.prepareEvaluation
  rw [hdevice]
  split
  · exact .inl ⟨_, rfl, rfl⟩
  · cases s.device? tenant device with
    | none => exact .inl ⟨_, rfl, rfl⟩
    | some target =>
      simp only [hretarget]
      exact .inr ⟨target, rfl, rfl⟩

theorem Agrees.observe (h : Agrees prunedAt s kept) (p : Platform) (uuid : ℕ → String) (now : ℤ)
    (tenant device : String) {plan : DeviceRuleEvaluation}
    (hlimit : ∀ rule ∈ plan.snapshot.definitions.all, rule.cooldownSeconds ≤ 86400)
    (hclock : ∀ n ∈ prunedAt, n ≤ plan.observedAt) :
    (∃ e, s.observe p uuid now tenant device (some plan) = .error e ∧
      kept.observe p uuid now tenant device (some plan) = .error e) ∨
    ∃ s' kept' count, s.observe p uuid now tenant device (some plan) = .ok (s', count) ∧
      kept.observe p uuid now tenant device (some plan) = .ok (kept', count) ∧
      Agrees prunedAt s' kept' := by
  have houtbox : ∀ {t k : Store}, Agrees prunedAt t k → k.outbox = t.outbox := by
    intro t k hagrees
    rw [hagrees.rest]
  simp only [Store.observe, evaluateRulesInTransaction]
  rcases h.prepareEvaluation tenant device plan with ⟨e, hs, hkept⟩ | ⟨target, hs, hkept⟩
  · rw [hs, hkept]
    exact .inl ⟨e, rfl, rfl⟩
  · have hdecide := h.decide p (s.retarget target plan) tenant device
      (s.retarget target plan).candidateRuleIds hlimit hclock
    rw [hs, hkept]
    simp only [bind, Except.bind, writeDecision, hdecide]
    rcases (h.writeCooldowns _).writeZoneEntries
        ((s.retarget target plan).decide p (s.deviceRuleRuntime tenant device
          (s.retarget target plan).candidateRuleIds)).zoneEntries with
      ⟨e, hs', hkept'⟩ | ⟨s', kept', hs', hkept', hagrees⟩
    · rw [hs', hkept']
      exact .inl ⟨e, rfl, rfl⟩
    · rw [hs', hkept']
      simp only [pure, Except.pure, houtbox hagrees]
      cases s'.outbox.enqueueActionsInTransaction p uuid now _ with
      | error e => exact .inl ⟨e, rfl, rfl⟩
      | ok result =>
        refine .inr ⟨_, _, _, rfl, rfl, hagrees.of_eq rfl rfl ?_⟩
        conv_lhs => rw [hagrees.rest]

theorem Expired.mono (h : Expired prunedAt fired)
    (hsub : prunedAt ⊆ prunedAt') : Expired prunedAt' fired := by
  intro micros hmicros
  obtain ⟨now, hnow, hle⟩ := h micros hmicros
  exact ⟨now, hsub hnow, hle⟩

theorem Agrees.mono (h : Agrees prunedAt s kept) (hsub : prunedAt ⊆ prunedAt') :
    Agrees prunedAt' s kept where
  rest := h.rest
  cooldowns key := (h.cooldowns key).imp_right fun hexpired =>
    ⟨hexpired.1.mono hsub, hexpired.2.mono hsub⟩

/-- Retention keeps a cooldown row or deletes one from before the cutoff. -/
theorem lastFired_deleteStaleCooldowns (s : Store) (cutoff : ℤ) (key : RuleDeviceKey) :
    (s.deleteStaleCooldowns cutoff).1.lastFired key = s.lastFired key ∨
    (s.deleteStaleCooldowns cutoff).1.lastFired key = none ∧
      ∀ micros ∈ s.lastFired key, micros < timestampMicros cutoff := by
  cases hfind : s.cooldowns.find? key with
  | none =>
    left
    have hnone : (s.deleteStaleCooldowns cutoff).1.cooldowns.find? key = none :=
      Table.find?_eq_none.mpr fun r hr => Table.find?_eq_none.mp hfind r (Table.mem_filter.mp hr).1
    simp [lastFired, hfind, hnone]
  | some r =>
    obtain ⟨hr, hkey⟩ := Table.find?_eq_some.mp hfind
    by_cases hstale : r.lastFiredAt < timestampMicros cutoff
    · right
      refine ⟨?_, by simpa [lastFired, hfind] using hstale⟩
      rw [lastFired, map_eq_none_iff, Table.find?_eq_none]
      intro r' hr' hkey'
      obtain ⟨hr', hkeep⟩ := Table.mem_filter.mp hr'
      obtain rfl := s.cooldowns.eq_of_key_eq hr' hr (hkey'.trans hkey.symm)
      simp [hstale] at hkeep
    · left
      have hkept : (s.deleteStaleCooldowns cutoff).1.cooldowns.find? key = some r :=
        Table.find?_eq_some.mpr ⟨Table.mem_filter.mpr ⟨hr, by simpa using hstale⟩, hkey⟩
      simp [lastFired, hfind, hkept]

theorem Agrees.prune (h : Agrees prunedAt s kept) (retentionDays : ℕ) (now : ℤ) :
    Agrees (now :: prunedAt) (prune retentionDays now s).1
      { (prune retentionDays now kept).1 with cooldowns := kept.cooldowns } := by
  have hrefused : Agrees (now :: prunedAt) s { kept with cooldowns := kept.cooldowns } :=
    h.mono (subset_cons_self _ _)
  unfold AlertMaintenance.prune
  cases hcutoffs : AlertMaintenance.pruneCutoffs retentionDays now with
  | error e => exact hrefused
  | ok cutoffs =>
    obtain ⟨cutoff, cooldownCutoff⟩ := cutoffs
    have hcutoff := pruneCutoffs_eq_ok hcutoffs
    have hdeleted : Agrees (now :: prunedAt) (s.deleteAllResolvedBefore cutoff).1
        (kept.deleteAllResolvedBefore cutoff).1 :=
      hrefused.of_eq rfl rfl (by
        conv_lhs => rw [h.rest]
        rfl)
    refine ⟨?_, fun key => ?_⟩
    · conv_lhs => rw [h.rest]
      rfl
    · change kept.lastFired key = _ ∨ Expired _ (kept.lastFired key) ∧ _
      rcases lastFired_deleteStaleCooldowns (s.deleteAllResolvedBefore cutoff).1 cooldownCutoff key
        with heq | ⟨hnone, hold⟩
      · rw [heq]
        exact hdeleted.cooldowns key
      · right
        refine ⟨?_, by rw [hnone]; simp [Expired]⟩
        rcases hdeleted.cooldowns key with heq | ⟨hkept, -⟩
        · intro micros hmicros
          have hlt := hold micros (heq ▸ hmicros)
          refine ⟨now, mem_cons_self, ?_⟩
          unfold timestampMicros at hlt
          unfold datetime
          omega
        · exact hkept

end

/-- Every stored firing is still stored, or a later one in its place. -/
def FiredLE (s s' : Store) : Prop :=
  ∀ key, ∀ last ∈ s.lastFired key, ∃ last' ∈ s'.lastFired key, last ≤ last'

section

variable {s s' : Store} {tenant : String}

theorem FiredLE.of_eq (h : s'.cooldowns = s.cooldowns) : FiredLE s s' := by
  intro key last hlast
  exact ⟨last, by simpa [lastFired, h] using hlast, le_rfl⟩

theorem FiredLE.trans {s'' : Store} (h : FiredLE s s') (h' : FiredLE s' s'') : FiredLE s s'' := by
  intro key last hlast
  obtain ⟨last', hlast', hle⟩ := h key last hlast
  obtain ⟨last'', hlast'', hle'⟩ := h' key last' hlast'
  exact ⟨last'', hlast'', hle.trans hle'⟩

theorem firedLE_upsertCooldown (s : Store) (tenant rule device : String) (firedAt : ℤ) :
    FiredLE s (s.upsertCooldown tenant rule device firedAt) := by
  intro key last hlast
  rw [lastFired_upsertCooldown, mem_def.mp hlast]
  split
  · exact ⟨_, rfl, le_max_left last firedAt⟩
  · exact ⟨last, rfl, le_rfl⟩

theorem firedLE_writeCooldowns (s : Store) (cooldowns : List CooldownRecord) :
    FiredLE s (cooldowns.foldl writeCooldown s) := by
  induction cooldowns generalizing s with
  | nil => exact .of_eq rfl
  | cons c cooldowns ih => exact (firedLE_upsertCooldown s _ _ _ _).trans (ih _)

theorem lastFired_writeCooldowns {cooldowns : List CooldownRecord} {c : CooldownRecord}
    (h : c ∈ cooldowns) (s : Store) :
    ∃ last ∈ (cooldowns.foldl writeCooldown s).lastFired c.key,
      timestampMicros c.lastFiredAt ≤ last := by
  induction cooldowns generalizing s with
  | nil => cases h
  | cons c' cooldowns ih =>
    rcases mem_cons.mp h with rfl | h
    · have hwritten : ∃ last ∈ (s.writeCooldown c).lastFired c.key,
          timestampMicros c.lastFiredAt ≤ last := by
        refine ⟨_, lastFired_upsertCooldown .. |>.trans (if_pos rfl), ?_⟩
        cases s.lastFired c.key with
        | none => exact le_rfl
        | some last => exact le_max_right _ _
      obtain ⟨last, hlast, hle⟩ := hwritten
      obtain ⟨last', hlast', hle'⟩ := firedLE_writeCooldowns (s.writeCooldown c) cooldowns _ _ hlast
      exact ⟨last', hlast', hle.trans hle'⟩
    · exact ih h _

variable {tr : AlertTransition}

theorem firedLE_applyOutcome (htr : tr ≠ .reactivate) (id : String) (now : ℤ)
    (outcome : AlertTransitionOutcome) : FiredLE s (s.applyOutcome tenant id tr now outcome) := by
  cases outcome with
  | notFound | invalidStatus | activeConflict => exact .of_eq rfl
  | updated alert =>
    simp only [applyOutcome, transitionCooldown]
    split
    · exact .trans (.of_eq rfl) (firedLE_upsertCooldown _ _ _ _ _)
    · exact absurd rfl htr
    · exact .of_eq rfl

theorem firedLE_transition (htr : tr ≠ .reactivate) {id : String} {now : ℤ}
    {outcome : AlertTransitionOutcome}
    (h : s.transitionFrom tenant id tr now = .ok (s', outcome)) : FiredLE s s' := by
  rw [transitionFrom_eq] at h
  cases h
  exact firedLE_applyOutcome htr id now _

theorem firedLE_attempt (p : Platform) (external : PendingAction → Except String Unit) (now : ℤ)
    (event : OutboxEventRecord) (s : Store) :
    FiredLE s (attempt p external now event s).1 := by
  have heffect := attempt_effect p external now event s
  generalize (attempt p external now event s).1 = s',
    (attempt p external now event s).2.1 = result at heffect ⊢
  cases heffect with
  | refused | sent | known | reused | created | updated => exact .of_eq rfl
  | resolved tenant id current =>
    exact firedLE_applyOutcome (by simp) id now (.updated current)

end

end Store

namespace RuleSystem

/-- The step of a system whose retention keeps cooldown rows. -/
def applyKeeping (p : Platform) (sys : RuleSystem) : RuleStep → RuleSystem
  | .prune retentionDays now =>
    let pruned := (AlertMaintenance.prune retentionDays now sys.store).1
    { sys with
      store := { pruned with cooldowns := sys.store.cooldowns }
      prunedAt := now :: sys.prunedAt }
  | step => sys.apply p step

/-- What the runs considered here do: retention never runs ahead of the times that
are evaluated later, nothing is reactivated, cooldowns last a day at most and
the rule keeps its own. -/
def cooldownGuard (rule : CachedRule) (sys : RuleSystem) : RuleStep → Prop
  | .observe _ _ _ _ plan =>
    (∀ now ∈ sys.prunedAt, now ≤ plan.observedAt) ∧
    (∀ r ∈ plan.snapshot.definitions.all, r.cooldownSeconds ≤ 86400) ∧
    ∀ r ∈ plan.snapshot.definitions.all, r.id = rule.id → r.cooldownSeconds = rule.cooldownSeconds
  | .transition _ _ tr _ | .transitionMany _ _ tr _ => tr ≠ .reactivate
  | _ => True

def firings (p : Platform) (sys : RuleSystem) (key : RuleDeviceKey) : List ℤ :=
  (sys.evaluations.map (Evaluation.decision p)).flatMap fun decision =>
    (decision.cooldowns.filter fun c => c.key = key).map CooldownRecord.lastFiredAt

/-- A system and its twin that keeps cooldown rows. -/
structure Keeps (p : Platform) (sys kept : RuleSystem) : Prop where
  store : Store.Agrees sys.prunedAt sys.store kept.store
  issued : kept.issued = sys.issued
  tokens : kept.tokens = sys.tokens
  results : kept.results = sys.results
  evaluations : kept.evaluations.map (Evaluation.decision p) =
    sys.evaluations.map (Evaluation.decision p)

variable {p : Platform} {rule : CachedRule} {sys kept : RuleSystem}

theorem Keeps.of_store (h : Keeps p sys kept) {s k : Store}
    (hagrees : Store.Agrees sys.prunedAt s k) :
    Keeps p { sys with store := s } { kept with store := k } :=
  ⟨hagrees, h.issued, h.tokens, h.results, h.evaluations⟩

variable {plan : DeviceRuleEvaluation} {device : String}

theorem Keeps.observe (h : Keeps p sys kept) (uuid : ℕ → String) (now : ℤ) (tenant device : String)
    (hguard : cooldownGuard rule sys (.observe uuid now tenant device plan)) :
    Keeps p (sys.observe p uuid now tenant device plan)
      (kept.observe p uuid now tenant device plan) := by
  obtain ⟨hclock, hlimit, -⟩ := hguard
  unfold RuleSystem.observe
  rcases h.store.prepareEvaluation tenant device plan with ⟨e, hs, hkept⟩ | ⟨target, hs, hkept⟩
  · rw [hs, hkept]
    exact h
  · rw [hs, hkept]
    rcases h.store.observe p uuid now tenant device hlimit hclock with
      ⟨e, hs', hkept'⟩ | ⟨s', kept', count, hs', hkept', hagrees⟩
    · rw [hs', hkept']
      exact h
    · rw [hs', hkept']
      have hdecide := h.store.decide p (sys.store.retarget target plan) tenant device
        (sys.store.retarget target plan).candidateRuleIds hlimit hclock
      refine ⟨hagrees, h.issued, h.tokens, h.results, ?_⟩
      simp only [map_cons, Evaluation.decision, hdecide]
      exact congrArg _ h.evaluations

theorem Keeps.step (h : Keeps p sys kept) {step : RuleStep} (hguard : cooldownGuard rule sys step) :
    Keeps p (sys.apply p step) (kept.applyKeeping p step) := by
  have houtbox : kept.store.outbox = sys.store.outbox := by rw [h.store.rest]
  have hrewrite : ∀ outbox, Store.Agrees sys.prunedAt { sys.store with outbox := outbox }
      { kept.store with outbox := outbox } := fun outbox =>
    h.store.of_eq rfl rfl (by
      conv_lhs => rw [h.store.rest])
  cases step with
  | observe uuid now tenant device plan => exact h.observe uuid now tenant device hguard
  | claim workerId uuid limit lease now =>
    simp only [apply, applyKeeping, claim, houtbox]
    cases (OutboxWorker.claimBatch workerId uuid limit lease now sys.store.outbox).2 with
    | error e => exact h.of_store (hrewrite _)
    | ok events =>
      refine ⟨hrewrite _, ?_, ?_, h.results, h.evaluations⟩
      · exact congrArg (events ++ ·) h.issued
      · exact congrArg ((workerId ++ ":" ++ uuid) :: ·) h.tokens
  | attempt external now event =>
    obtain ⟨hresult, hagrees⟩ := h.store.attempt p external now event
    refine ⟨hagrees, h.issued, h.tokens, ?_, h.evaluations⟩
    simp only [apply, applyKeeping, hresult, h.results]
  | report event result now =>
    obtain ⟨outcome, failure⟩ := result
    cases outcome <;>
      · simp only [apply, applyKeeping, report, houtbox]
        exact h.of_store (hrewrite _)
  | transition tenant id tr now =>
    obtain ⟨s', kept', outcome, hs, hkept, hagrees⟩ := h.store.transition hguard tenant id now
    simp only [apply, applyKeeping, alertStep, hs, hkept, committed]
    exact h.of_store hagrees
  | transitionMany tenant ids tr now =>
    obtain ⟨s', kept', rows, hs, hkept, hagrees⟩ :=
      h.store.transitionEach hguard tenant now (orderBy id ids.dedup).zipIdx
    simp only [apply, applyKeeping, alertStep, transitionMany, hs, hkept,
      committed]
    exact h.of_store hagrees
  | prune retentionDays now =>
    exact ⟨h.store.prune retentionDays now, h.issued, h.tokens, h.results, h.evaluations⟩

/-- In a system that keeps cooldown rows the stored row bounds every firing, and
each firing came a whole cooldown after the stored time of those before. -/
structure Spaced (p : Platform) (key : RuleDeviceKey) (seconds : ℤ) (sys : RuleSystem) : Prop where
  stored : ∀ fired ∈ sys.firings p key,
    ∃ last ∈ sys.store.lastFired key, timestampMicros fired ≤ last
  spaced : (sys.firings p key).Pairwise fun later earlier =>
    seconds * 1000000000 ≤ later - datetime (timestampMicros earlier)

theorem Spaced.of_firedLE {key : RuleDeviceKey} {seconds : ℤ} {sys' : RuleSystem}
    (h : Spaced p key seconds sys) (hevaluations : sys'.evaluations = sys.evaluations)
    (hstore : Store.FiredLE sys.store sys'.store) : Spaced p key seconds sys' where
  stored fired hfired := by
    simp only [firings, hevaluations] at hfired
    obtain ⟨last, hlast, hle⟩ := h.stored fired hfired
    obtain ⟨last', hlast', hle'⟩ := hstore key last hlast
    exact ⟨last', hlast', hle.trans hle'⟩
  spaced := by
    simp only [firings, hevaluations]
    exact h.spaced

theorem firing_after_cooldown {s : Store} {prepared : DeviceRuleEvaluation}
    {runtime : DeviceRuleRuntime} {tenant : String} {r : CachedRule} {last : ℤ}
    (hprepare : s.prepareEvaluation tenant device plan = .ok (prepared, runtime))
    (hrule : r ∈ prepared.liveRules runtime) (hpos : 0 < r.cooldownSeconds)
    (hcooldown : isInCooldownForTenantAt (prepared.runtimeCache runtime) r.tenantId r.id
      prepared.deviceId r.cooldownSeconds prepared.observedAt = false)
    (hlast : last ∈ s.lastFired (r.tenantId, r.id, prepared.deviceId)) :
    r.cooldownSeconds * 1000000000 ≤ prepared.observedAt - datetime last := by
  have htenant := tenantId_of_liveRules hrule
  obtain ⟨hscope, hdevice, target, -, hprepared⟩ := prepareEvaluation_eq_ok hprepare
  cases hprepared
  have hcache : ((s.retarget target plan).runtimeCache (s.deviceRuleRuntime tenant device
      (s.retarget target plan).candidateRuleIds)).cooldowns
      (r.tenantId, r.id, (s.retarget target plan).deviceId) = some (datetime last) := by
    have hkey : r.tenantId = tenant ∧ (s.retarget target plan).deviceId = device :=
      ⟨htenant.trans hscope, hdevice⟩
    obtain ⟨row, hrow, rfl⟩ := map_eq_some_iff.mp hlast
    change (if _ ∧ _ then Option.map _ (s.cooldowns.find? _) else none) = _
    rw [if_pos hkey, hrow]
    rfl
  simp only [isInCooldownForTenantAt, hcache, if_neg (not_le.mpr hpos),
    decide_eq_false_iff_not, numSeconds_lt_iff hpos] at hcooldown
  omega

theorem Spaced.observe (hpos : 0 < rule.cooldownSeconds)
    (h : Spaced p (rule.tenantId, rule.id, device) rule.cooldownSeconds kept) (uuid : ℕ → String)
    (now : ℤ) (tenant device' : String) (hdistinct : plan.snapshot.Distinct)
    (hrule : ∀ r ∈ plan.snapshot.definitions.all, r.id = rule.id →
      r.cooldownSeconds = rule.cooldownSeconds) :
    Spaced p (rule.tenantId, rule.id, device) rule.cooldownSeconds
      (kept.observe p uuid now tenant device' plan) := by
  rcases kept.observe_effect p uuid now tenant device' plan with
    heq | ⟨prepared, runtime, zoneEntries, rows, hprepare, -, -, heq⟩
  · rw [heq]
    exact h
  have hsnapshot : prepared.snapshot = plan.snapshot := by
    obtain ⟨-, -, target, -, hprepared⟩ := prepareEvaluation_eq_ok hprepare
    rw [(Prod.mk.inj hprepared).1]
    rfl
  have hfirings : (kept.observe p uuid now tenant device' plan).firings p
      (rule.tenantId, rule.id, device) =
      ((prepared.decide p runtime).cooldowns.filter fun c =>
        c.key = (rule.tenantId, rule.id, device)).map CooldownRecord.lastFiredAt ++
      kept.firings p (rule.tenantId, rule.id, device) := by
    rw [heq]
    rfl
  have hstore : Store.FiredLE kept.store (kept.observe p uuid now tenant device' plan).store := by
    rw [heq]
    exact (firedLE_writeCooldowns kept.store _).trans (.of_eq rfl)
  rcases cooldowns_of_key p (hsnapshot ▸ hdistinct)
      (rule.tenantId, rule.id, device) with hnone | ⟨r, hr, hkey, hfired, -, hcooldown⟩
  · rw [hnone, map_nil, nil_append] at hfirings
    refine ⟨?_, by rw [hfirings]; exact h.spaced⟩
    intro fired hmem
    rw [hfirings] at hmem
    obtain ⟨last, hlast, hle⟩ := h.stored fired hmem
    obtain ⟨last', hlast', hle'⟩ := hstore _ last hlast
    exact ⟨last', hlast', hle.trans hle'⟩
  · -- The rule fired: its new row bounds this firing, its old row the ones before.
    rw [hfired, map_singleton, singleton_append] at hfirings
    change _ = prepared.observedAt :: _ at hfirings
    have hseconds : r.cooldownSeconds = rule.cooldownSeconds :=
      hrule r (hsnapshot ▸ (prepared.liveRules_sublist runtime).subset hr)
        (congrArg (fun k => k.2.1) hkey)
    have hnew : ∃ last ∈ (kept.observe p uuid now tenant device' plan).store.lastFired
        (rule.tenantId, rule.id, device), timestampMicros prepared.observedAt ≤ last := by
      have hmem : (⟨r.tenantId, r.id, prepared.deviceId, prepared.observedAt⟩ : CooldownRecord) ∈
          (prepared.decide p runtime).cooldowns :=
        (List.mem_filter.mp (hfired ▸ mem_singleton_self _)).1
      rw [heq, ← hkey]
      exact lastFired_writeCooldowns hmem kept.store
    constructor
    · intro fired hmem
      rw [hfirings] at hmem
      rcases mem_cons.mp hmem with rfl | hmem
      · exact hnew
      · obtain ⟨last, hlast, hle⟩ := h.stored fired hmem
        obtain ⟨last', hlast', hle'⟩ := hstore _ last hlast
        exact ⟨last', hlast', hle.trans hle'⟩
    · rw [hfirings, pairwise_cons]
      refine ⟨?_, h.spaced⟩
      intro earlier hmem
      obtain ⟨last, hlast, hle⟩ := h.stored earlier hmem
      have hafter := firing_after_cooldown hprepare hr (by omega) hcooldown (hkey ▸ hlast)
      unfold datetime at hafter ⊢
      omega

theorem Spaced.step (hpos : 0 < rule.cooldownSeconds)
    (h : Spaced p (rule.tenantId, rule.id, device) rule.cooldownSeconds kept) {step : RuleStep}
    (henabled : sys.enabled step) (hguard : cooldownGuard rule sys step) :
    Spaced p (rule.tenantId, rule.id, device) rule.cooldownSeconds (kept.applyKeeping p step) := by
  cases step with
  | observe uuid now tenant device' plan =>
    exact h.observe hpos uuid now tenant device' henabled.1.distinct hguard.2.2
  | claim workerId uuid limit lease now =>
    simp only [applyKeeping, apply, claim]
    split <;> exact h.of_firedLE rfl (.of_eq rfl)
  | attempt external now event =>
    exact h.of_firedLE rfl (firedLE_attempt p external now event kept.store)
  | report event result now =>
    obtain ⟨outcome, failure⟩ := result
    cases outcome <;> exact h.of_firedLE rfl (.of_eq rfl)
  | transition tenant id tr now =>
    exact h.of_firedLE rfl (committed_induction (P := Store.FiredLE kept.store) (.of_eq rfl)
      fun _ _ hok => firedLE_transition hguard hok)
  | transitionMany tenant ids tr now =>
    refine h.of_firedLE rfl (committed_induction (P := Store.FiredLE kept.store) (.of_eq rfl)
      fun _ _ hok => ?_)
    exact transitionEach_induction (P := Store.FiredLE kept.store)
      (fun _ _ _ _ _ hs hok => hs.trans (firedLE_transition hguard hok)) hok (.of_eq rfl)
  | prune retentionDays now => exact h.of_firedLE rfl (.of_eq rfl)

/-- In every run in which retention does not run ahead of the times evaluated
later and nothing is reactivated, deleting cooldown rows changes no decision; and
if evaluation times are whole microseconds, as the store keeps them, any two
firings of a rule for a device are a cooldown apart. -/
theorem cooldown_run_sound (p : Platform) (rule : CachedRule) (device : String)
    (hpos : 0 < rule.cooldownSeconds) (store : Store) (steps : List RuleStep) (t : RuleSystem)
    (hrun : ((machine p).restrict (cooldownGuard rule)).Run (start store) steps t) :
    (steps.foldl (applyKeeping p) (start store)).evaluations.map (Evaluation.decision p) =
        t.evaluations.map (Evaluation.decision p) ∧
      ((∀ e ∈ t.evaluations, e.plan.observedAt % 1000 = 0) →
        (t.firings p (rule.tenantId, rule.id, device)).Pairwise fun later earlier =>
          rule.cooldownSeconds * 1000000000 ≤ |later - earlier|) := by
  have htwin : Keeps p t (steps.foldl (applyKeeping p) (start store)) ∧
      Spaced p (rule.tenantId, rule.id, device) rule.cooldownSeconds
        (steps.foldl (applyKeeping p) (start store)) := by
    refine hrun.simulates (R := fun sys kept => Keeps p sys kept ∧
      Spaced p (rule.tenantId, rule.id, device) rule.cooldownSeconds kept) ?_ ⟨?_, ?_⟩
    · rintro sys kept step ⟨hkeeps, hspaced⟩ ⟨henabled, hguard⟩
      exact ⟨hkeeps.step hguard, hspaced.step hpos henabled hguard⟩
    · exact ⟨⟨rfl, fun _ => .inl rfl⟩, rfl, rfl, rfl, rfl⟩
    · exact ⟨by simp [firings, start], by simp [firings, start]⟩
  obtain ⟨hkeeps, hspaced⟩ := htwin
  refine ⟨hkeeps.evaluations, fun hwhole => ?_⟩
  have hfirings : (steps.foldl (applyKeeping p) (start store)).firings p
      (rule.tenantId, rule.id, device) = t.firings p (rule.tenantId, rule.id, device) := by
    simp only [firings, hkeeps.evaluations]
  have hspaced := hspaced.spaced
  rw [hfirings] at hspaced
  refine hspaced.imp_of_mem ?_
  intro later earlier _ hearlier hle
  have hmicros : earlier % 1000 = 0 := by
    simp only [firings, mem_flatMap, List.mem_map, List.mem_filter] at hearlier
    obtain ⟨_, ⟨e, he, rfl⟩, c, ⟨hc, -⟩, rfl⟩ := hearlier
    rw [lastFiredAt_of_mem hc]
    exact hwhole e he
  have habs := le_abs_self (later - earlier)
  unfold datetime timestampMicros at hle
  omega

/-- Fires a webhook when a device is seen offline, at most once a minute. -/
def hookRule : CachedRule := offlineRule 60 [webhookAction]

def offlineAt (time : ℤ) : DeviceRuleEvaluation := statusAt hookRule "offline" time

theorem cooldownGuard_offlineAt {sys : RuleSystem} {time : ℤ}
    (h : sys.prunedAt.all (· ≤ time)) (uuid : ℕ → String) (now : ℤ) (tenant device : String) :
    cooldownGuard hookRule sys (.observe uuid now tenant device (offlineAt time)) := by
  refine ⟨by simpa [offlineAt, statusAt] using h, fun r hr => ?_, fun r hr _ => ?_⟩
  · rw [rules_statusAt hr]
    decide
  · rw [rules_statusAt hr, hookRule]

/-- A device is seen offline at two times, retention running in between. -/
def offlineTwice (first pruned second : ℤ) : List RuleStep :=
  [.observe (labelled 'a') 0 "tenant" "device" (offlineAt first), .prune 30 pruned,
    .observe (labelled 'b') 0 "tenant" "device" (offlineAt second)]

theorem cooldown_run_sound_offlineTwice :
    ((offlineTwice 0 90000000000000 90000000000000).foldl (apply default)
      (start Store.sample)).store.cooldowns.rows = [⟨"tenant", "rule", "device", 90000000000⟩] ∧
    (((offlineTwice 0 90000000000000 90000000000000).foldl (apply default)
      (start Store.sample)).firings default ("tenant", "rule", "device")).Pairwise
        fun later earlier => 60 * 1000000000 ≤ |later - earlier| := by
  have hrun : ((machine default).restrict (cooldownGuard hookRule)).Run (start Store.sample)
      (offlineTwice 0 90000000000000 90000000000000)
      ((offlineTwice 0 90000000000000 90000000000000).foldl (apply default) (start Store.sample)) :=
    .cons ⟨⟨statusAt_prepared _ _ _, labelled_injective _, fresh_labelled rfl⟩,
        cooldownGuard_offlineAt rfl _ _ _ _⟩
      (.cons ⟨trivial, trivial⟩
        (.cons ⟨⟨statusAt_prepared _ _ _, labelled_injective _, fresh_labelled rfl⟩,
          cooldownGuard_offlineAt rfl _ _ _ _⟩ (.nil _)))
  refine ⟨rfl, (cooldown_run_sound default hookRule "device" (by decide) Store.sample _ _
    hrun).2 ?_⟩
  have htimes : ((offlineTwice 0 90000000000000 90000000000000).foldl (apply default)
      (start Store.sample)).evaluations.all (fun e => e.plan.observedAt % 1000 = 0) := rfl
  simpa only [List.all_eq_true, decide_eq_true_eq] using htimes

/-- Firings 900 nanoseconds and one minute past the hour: the first is stored as
on the hour, so the second comes less than the cooldown of a minute after it. -/
theorem firings_closer_than_cooldown :
    ∃ steps t, ((machine default).restrict (cooldownGuard hookRule)).Run (start Store.sample)
        steps t ∧
      t.firings default ("tenant", "rule", "device") = [60000000000, 900] ∧
      |(60000000000 : ℤ) - 900| < 60 * 1000000000 := by
  refine ⟨offlineTwice 900 0 60000000000, _,
    .cons ⟨⟨statusAt_prepared _ _ _, labelled_injective _, fresh_labelled rfl⟩,
        cooldownGuard_offlineAt rfl _ _ _ _⟩
      (.cons ⟨trivial, trivial⟩
        (.cons ⟨⟨statusAt_prepared _ _ _, labelled_injective _, fresh_labelled rfl⟩,
          cooldownGuard_offlineAt rfl _ _ _ _⟩ (.nil _))),
    rfl, by decide⟩

end RuleSystem

end Extrittio
