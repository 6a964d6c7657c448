import Extrittio.Delivery.Unattended

/-!
Alerts and the conditions of their rule. A rule resolves an alert that is stored
when its conditions fail; an alert whose creation is still in the outbox is not
seen and stays. Where no observation fails a rule while a creation is
undelivered, an alert is open in the end only if the conditions were last met.
-/
namespace Extrittio

open Relational Transition List Option DeviceRuleEvaluation Evaluation

/-- Whether an evaluation met the conditions of a rule for a device; nothing if
the rule was not evaluated. -/
def Evaluation.verdict (p : Platform) (rule : CachedRule) (device : String) (e : Evaluation) :
    Option Bool :=
  if e.plan.deviceId = device ∧ rule ∈ e.plan.liveRules e.runtime then e.plan.verdict p rule
  else none

namespace RuleSystem

variable {p : Platform} {rule : CachedRule} {device : String} {sys : RuleSystem}

def lastVerdict (p : Platform) (rule : CachedRule) (device : String) (sys : RuleSystem) :
    Option Bool :=
  sys.evaluations.findSome? (Evaluation.verdict p rule device)

/-- Only observations and deliveries, under one definition of the rule; and no
observation fails the rule while a creation of its alert is undelivered. -/
def resolutionGuard (p : Platform) (rule : CachedRule) (device : String) (sys : RuleSystem) :
    RuleStep → Prop
  | .observe _ _ tenant device' plan =>
    (∀ r ∈ plan.snapshot.definitions.all, r.id = rule.id → r = rule) ∧
    ∀ prepared runtime, sys.store.prepareEvaluation tenant device' plan = .ok (prepared, runtime) →
      Evaluation.verdict p rule device ⟨prepared, runtime, []⟩ = some false →
      ∀ r ∈ sys.store.outbox, r.creates p rule.tenantId rule.id device = true →
        r.status = .succeeded
  | step => unattended step

/-- While the conditions are not known to be met, no creation is undelivered and
every open alert has an undelivered resolution. -/
structure Settling (p : Platform) (rule : CachedRule) (device : String) (sys : RuleSystem) :
    Prop where
  created : sys.lastVerdict p rule device ≠ some true → ∀ r ∈ sys.store.outbox,
    r.creates p rule.tenantId rule.id device = true → r.status = .succeeded
  resolving : sys.lastVerdict p rule device ≠ some true → ∀ a ∈ sys.store.alerts,
    a.occupies rule.tenantId rule.id device = true →
    ∃ r ∈ sys.store.outbox, r.Carries p (.resolveAlert rule.tenantId a.id) ∧ r.status ≠ .succeeded

theorem Fresh.settling {s : Store} (h : Fresh s) (p : Platform) (rule : CachedRule)
    (device : String) : Settling p rule device (start s) where
  created _ r hr := by simp [start, Outbox.mem_iff, h.outbox] at hr
  resolving _ a ha := by simp [start, Table.mem_iff, h.alerts] at ha

theorem Settling.advances (h : Settling p rule device sys) (hsound : Sound p sys)
    {sys' : RuleSystem} (hstep : sys.Advances sys') : Settling p rule device sys' := by
  obtain ⟨reported, hprogress, hexecuted, -, -, -⟩ := hstep
  exact {
    created hverdict r' hr' hcreates := by
      obtain ⟨r, hr, rfl⟩ := (mem_of_progress hprogress).mp hr'
      have hrow := hprogress.progress r hr
      rw [hrow.creates] at hcreates
      exact hrow.succeeded (h.created hverdict r hr hcreates)
    resolving hverdict a ha hopen := by
      obtain ⟨r, hr, hcarries, hstatus⟩ := h.resolving hverdict a ha hopen
      refine ⟨_, (mem_of_progress hprogress).mpr ⟨r, hr, rfl⟩,
        hcarries.progress (hprogress.progress r hr), ?_⟩
      intro hsucceeded
      rcases hprogress.succeeded r hr hsucceeded with hold | hnew
      · exact hstatus hold
      · -- A resolution is reported as a success only after it closed the alert.
        obtain ⟨x, hx, hid, hok⟩ := hexecuted r hnew
        have hdecode := hsound.decode_of_id (hsound.results x hx) hr hid hcarries
        obtain ⟨a', ha', -, hida, hclosed⟩ := hsound.resolved x hx hok _ _ hdecode
        obtain rfl := sys.store.alerts.eq_of_key_eq ha' ha hida
        simp [(AlertRow.occupies_iff.mp hopen).2.2.2] at hclosed }

theorem Settling.attempt (h : Settling p rule device sys) (hsound : Sound p sys)
    {event : OutboxEventRecord} (hevent : event ∈ sys.issued) {now : ℤ} {s' : Store}
    {result : Except String Unit} (failure : FailureClass)
    (heffect : RuleDelivery.AttemptEffect p now event sys.store s' result) :
    Settling p rule device
      { sys with store := s', results := (event, result, failure) :: sys.results } := by
  refine ⟨fun hverdict r hr => ?_, fun hverdict a' ha' hopen => ?_⟩
  · exact h.created hverdict r (heffect.outbox ▸ hr)
  · have hrow : ∃ r ∈ sys.store.outbox, r.Carries p (.resolveAlert rule.tenantId a'.id) ∧
        r.status ≠ .succeeded := by
      rcases heffect.alerts ha' with ⟨a, ha, hfollows⟩ |
        ⟨t, ru, d, severity, message, value, hdecode, rfl, hreceipt⟩
      · rw [hfollows.id]
        exact h.resolving hverdict a ha (hfollows.occupies hopen)
      · -- The creation had succeeded, so its receipt kept it from running again.
        exfalso
        obtain ⟨rfl, hrule, rfl, -⟩ := AlertRow.occupies_iff.mp hopen
        obtain rfl : ru = rule.id := Option.some.inj hrule
        obtain ⟨r, hr, hof⟩ := hsound.issued event hevent
        obtain ⟨action, hcarries⟩ := hsound.carries r hr
        cases (hof.decode hcarries).symm.trans hdecode
        have hsucceeded := h.created hverdict r hr (hcarries.creates_iff.mpr ⟨_, _, _, rfl⟩)
        obtain ⟨x, hx, hid, hok⟩ := hsound.succeeded r hr hsucceeded
        have hdecode' := hsound.decode_of_id (hsound.results x hx) hr hid hcarries
        obtain ⟨receipt, hmem, hkey, -⟩ := hsound.created x hx hok _ _ _ _ _ _ hdecode'
        exact hreceipt receipt hmem (hkey.trans (hid.trans hof.1.symm))
    obtain ⟨r, hr, hcarries, hstatus⟩ := hrow
    exact ⟨r, heffect.outbox.symm ▸ hr, hcarries, hstatus⟩

variable {prepared plan : DeviceRuleEvaluation} {runtime : DeviceRuleRuntime}
  {tenant device' : String}

/-- A creation for the rule and device is enqueued only by an evaluation that met
the conditions of the rule. -/
theorem verdict_of_creation (htrigger : compileTrigger rule.triggerType ≠ some .geofence)
    (hrule : ∀ r ∈ prepared.snapshot.definitions.all, r.id = rule.id → r = rule)
    {severity message : String} {value : Option String}
    (h : .createAlert rule.tenantId rule.id device severity message value ∈
      (prepared.decide p runtime).deliveries) (rows : List OutboxRow) :
    Evaluation.verdict p rule device ⟨prepared, runtime, rows⟩ = some true := by
  obtain ⟨-, r, hr, hanswer⟩ := mem_deliveries.mp h
  obtain ⟨-, hid, hdevice, -, hverdict⟩ := createAlert_mem_answer hanswer
  obtain rfl := hrule r ((prepared.liveRules_sublist runtime).subset hr) hid.symm
  rw [Evaluation.verdict, if_pos ⟨hdevice.symm, hr⟩]
  exact hverdict htrigger

/-- An evaluation that fails the rule enqueues the resolution of its open alert. -/
theorem resolution_of_verdict (htrigger : compileTrigger rule.triggerType ≠ some .geofence)
    (hsound : Sound p sys)
    (hprepare : sys.store.prepareEvaluation tenant device' plan = .ok (prepared, runtime))
    {rows : List OutboxRow}
    (hverdict : verdict p rule device ⟨prepared, runtime, rows⟩ = some false)
    {a : AlertRow} (ha : a ∈ sys.store.alerts)
    (hopen : a.occupies rule.tenantId rule.id device) :
    .resolveAlert rule.tenantId a.id ∈ (prepared.decide p runtime).deliveries := by
  unfold Evaluation.verdict at hverdict
  split at hverdict
  next hlive =>
    obtain ⟨rfl, hrule⟩ := hlive
    have htenant := tenantId_of_liveRules hrule
    obtain ⟨hscope, hdevice, target, -, hprepared⟩ := Store.prepareEvaluation_eq_ok hprepare
    have halert : runtime.activeAlerts (rule.tenantId, rule.id, prepared.deviceId) = some a.id := by
      cases hprepared
      have htenant' : rule.tenantId = tenant := htenant.trans hscope
      have hdevice' : (sys.store.retarget target plan).deviceId = device' := hdevice
      rw [htenant', hdevice'] at hopen
      simp [Store.deviceRuleRuntime, htenant', hdevice', hsound.singleOpen.newestAlert_eq ha hopen]
    refine mem_deliveries.mpr ⟨rfl, rule, hrule, ?_⟩
    rw [answer_of_not_geofence htrigger, hverdict, elim_some,
      verdictAnswer]
    have hne := (hsound.alerts a ha).1
    split <;>
      · rw [respond_not_met halert hne]
        exact mem_singleton_self _
  next => cases hverdict

theorem Settling.observe (h : Settling p rule device sys)
    (htrigger : compileTrigger rule.triggerType ≠ some .geofence) (hsound : Sound p sys)
    {uuid : ℕ → String} {now : ℤ}
    (henabled : sys.enabled (.observe uuid now tenant device' plan))
    (hguard : resolutionGuard p rule device sys (.observe uuid now tenant device' plan)) :
    Settling p rule device (sys.observe p uuid now tenant device' plan) := by
  obtain ⟨-, huuid, hfresh⟩ := henabled
  obtain ⟨hrule, hcreations⟩ := hguard
  have hsound' := hsound.observe uuid now tenant device' plan
  rcases sys.observe_effect p uuid now tenant device' plan with
    heq | ⟨prepared, runtime, zoneEntries, rows, hprepare, hrows, hsub, heq⟩
  · rw [heq]
    exact h
  rw [heq] at hsound' ⊢
  have hlast : lastVerdict p rule device { sys with
      evaluations := ⟨prepared, runtime, rows⟩ :: sys.evaluations } =
      (verdict p rule device ⟨prepared, runtime, rows⟩).or
        (sys.lastVerdict p rule device) := by
    simp only [lastVerdict, findSome?_cons]
    cases verdict p rule device ⟨prepared, runtime, rows⟩ <;> rfl
  have hsnapshot : ∀ r ∈ prepared.snapshot.definitions.all, r.id = rule.id → r = rule := by
    obtain ⟨-, -, target, -, hprepared⟩ := Store.prepareEvaluation_eq_ok hprepare
    cases hprepared
    exact hrule
  -- Unless the conditions were met, the observation enqueued no creation.
  have hadded : verdict p rule device ⟨prepared, runtime, rows⟩ ≠ some true →
      ∀ r ∈ rows, r.creates p rule.tenantId rule.id device = false := by
    intro hverdict r hr
    by_contra hcreates
    obtain ⟨action, haction, hcarries, -⟩ := carries_of_sublist hsub hr
    obtain ⟨severity, message, value, rfl⟩ :=
      hcarries.creates_iff.mp (Bool.eq_true_of_not_eq_false hcreates)
    exact hverdict (verdict_of_creation htrigger hsnapshot haction rows)
  cases hverdict : verdict p rule device ⟨prepared, runtime, rows⟩ with
  | none =>
    rw [hverdict, none_or] at hlast
    refine ⟨fun hmet r hr hcreates => ?_, fun hmet a ha hopen => ?_⟩
    · rcases (mem_of_append hrows).mp hr with hr | hr
      · exact h.created (hlast ▸ hmet) r hr hcreates
      · simp [hadded (by simp [hverdict]) r hr] at hcreates
    · obtain ⟨r, hr, hrow⟩ := h.resolving (hlast ▸ hmet) a ha hopen
      exact ⟨r, (mem_of_append hrows).mpr (.inl hr), hrow⟩
  | some met =>
    rw [hverdict, some_or] at hlast
    cases met with
    | true => exact ⟨fun hmet => (hmet hlast).elim, fun hmet => (hmet hlast).elim⟩
    | false =>
      refine ⟨fun _ r hr hcreates => ?_, fun _ a ha hopen => ?_⟩
      · rcases (mem_of_append hrows).mp hr with hr | hr
        · exact hcreations prepared runtime hprepare hverdict r hr hcreates
        · simp [hadded (by simp [hverdict]) r hr] at hcreates
      · -- The open alert is stored, so the failed conditions resolve it.
        have hdelivery := resolution_of_verdict htrigger hsound hprepare hverdict ha hopen
        obtain ⟨r, hr, hslot⟩ := exists_slot_of_delivery huuid hfresh now hdelivery
        obtain ⟨action, hcarries⟩ := hsound'.carries r hr
        obtain rfl := hcarries.resolveAlert_of_slot hslot
        refine ⟨r, hr, hcarries, fun hstatus => ?_⟩
        have hactive := (OutboxRow.activeSlot_eq_some hslot).1
        simp [OutboxRow.isActive, hstatus] at hactive

theorem unattended_of_resolutionGuard {step : RuleStep}
    (h : resolutionGuard p rule device sys step) : unattended step := by
  cases step with
  | observe => trivial
  | claim | attempt | report | transition | transitionMany | prune => exact h

theorem Settling.step (h : Settling p rule device sys)
    (htrigger : compileTrigger rule.triggerType ≠ some .geofence) (hsound : Sound p sys)
    {step : RuleStep} (henabled : sys.enabled step)
    (hguard : resolutionGuard p rule device sys step) :
    Settling p rule device (sys.apply p step) := by
  refine unattended_induction henabled (unattended_of_resolutionGuard hguard) ?_
    (fun _ => h.advances hsound) fun _ _ hevent _ _ failure => h.attempt hsound hevent failure
  rintro uuid now tenant device' plan rfl
  exact h.observe htrigger hsound henabled hguard

/-- Where no observation fails the rule while a creation of its alert is
undelivered, an alert that is open once everything is delivered belongs to
conditions that were met last. -/
theorem open_alert_run_sound (p : Platform) (rule : CachedRule) (device : String)
    (htrigger : compileTrigger rule.triggerType ≠ some .geofence) {store : Store}
    (hfresh : Fresh store) {steps : List RuleStep} {t : RuleSystem}
    (hrun : ((machine p).restrict (resolutionGuard p rule device)).Run (start store) steps t)
    (hempty : ∀ r ∈ t.store.outbox, r.status = .succeeded) {a : AlertRow}
    (ha : a ∈ t.store.alerts) (hopen : a.occupies rule.tenantId rule.id device = true) :
    t.lastVerdict p rule device = some true := by
  have hinv : Sound p t ∧ Settling p rule device t := by
    refine hrun.invariant (I := fun sys => Sound p sys ∧ Settling p rule device sys) ?_
      ⟨hfresh.sound p, hfresh.settling p rule device⟩
    intro sys step hinv hstep
    exact ⟨hinv.1.step hstep.1 (unattended_of_resolutionGuard hstep.2),
      hinv.2.step htrigger hinv.1 hstep.1 hstep.2⟩
  by_contra hverdict
  obtain ⟨r, hr, -, hstatus⟩ := hinv.2.resolving hverdict a ha hopen
  exact hstatus (hempty r hr)

def alertRule : CachedRule := offlineRule 0 [alertAction]

theorem open_alert_run_sound_offline :
    let steps := .observe (labelled 'a') 0 "tenant" "device" (statusAt alertRule "offline" 0) ::
      deliverOffline
    let t := steps.foldl (apply default) (start quiet)
    (∃ a ∈ t.store.alerts, a.occupies "tenant" "rule" "device") ∧
      t.lastVerdict default alertRule "device" = some true := by
  intro steps t
  have hguard : resolutionGuard default alertRule "device" (start quiet)
      (.observe (labelled 'a') 0 "tenant" "device" (statusAt alertRule "offline" 0)) :=
    ⟨fun r hr _ => rules_statusAt hr, fun _ _ _ _ r hr => nomatch hr⟩
  have hrun : ((machine default).restrict (resolutionGuard default alertRule "device")).Run
      (start quiet) steps t :=
    .cons ⟨⟨statusAt_prepared _ _ _, labelled_injective _, fresh_labelled rfl⟩, hguard⟩
      (.cons ⟨not_mem_nil, trivial⟩ (.cons ⟨.head _, trivial⟩ (.cons ⟨.head _, trivial⟩ (.nil _))))
  have hempty : t.store.outbox.table.rows.all (fun r => r.status = .succeeded) := rfl
  refine ⟨⟨_, .head _, rfl⟩, open_alert_run_sound default alertRule "device" (by decide) fresh_quiet
    hrun ?_ (.head _) rfl⟩
  intro r hr
  simpa using List.all_eq_true.mp hempty r hr

/-- The device is back online before the alert of its absence is stored. The
recovery sees no alert to resolve, and the alert created afterwards stays open. -/
theorem alert_open_after_recovery :
    let steps := .observe (labelled 'a') 0 "tenant" "device" (statusAt alertRule "offline" 0) ::
      .observe (labelled 'b') 1 "tenant" "device" (statusAt alertRule "online" 1000) ::
      deliverOffline
    let t := steps.foldl (apply default) (start quiet)
    ((machine default).restrict fun _ => unattended).Run (start quiet) steps t ∧
      (∀ r ∈ t.store.outbox, r.status = .succeeded) ∧
      (∃ a ∈ t.store.alerts, a.occupies "tenant" "rule" "device") ∧
      t.lastVerdict default alertRule "device" = some false := by
  intro steps t
  have hempty : t.store.outbox.table.rows.all (fun r => r.status = .succeeded) := rfl
  refine ⟨.cons ⟨⟨statusAt_prepared _ _ _, labelled_injective _, fresh_labelled rfl⟩, trivial⟩
      (.cons ⟨⟨statusAt_prepared _ _ _, labelled_injective _, fresh_labelled rfl⟩, trivial⟩
        (.cons ⟨not_mem_nil, trivial⟩ (.cons ⟨.head _, trivial⟩
          (.cons ⟨.head _, trivial⟩ (.nil _))))),
    fun r hr => ?_, ⟨_, .head _, rfl⟩, rfl⟩
  simpa using List.all_eq_true.mp hempty r hr

end RuleSystem

end Extrittio
