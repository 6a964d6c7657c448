import Extrittio.Delivery.Unattended

/-!
Webhooks and commands against alerts. A rule that fires sends and asks for an
alert; later firings are held back only by an alert that is stored. Where a rule
does not fire while a creation of its alert is undelivered, every firing that
sends is backed by an alert or by a creation that is still to be delivered.
-/
namespace Extrittio

open Relational Transition List OutboxRow AlertRow DeviceRuleEvaluation PendingAction

theorem countP_le_add {α : Type*} {p q r : α → Bool} {l : List α}
    (h : ∀ a ∈ l, p a → q a ∨ r a) : l.countP p ≤ l.countP q + l.countP r := by
  induction l with
  | nil => simp
  | cons a l ih =>
    have htail := ih fun b hb => h b (mem_cons_of_mem _ hb)
    have hhead := h a (mem_cons_self ..)
    simp only [countP_cons]
    split_ifs <;> simp_all <;> omega

/-- Whether the row sends a webhook or a command out of a rule's answer. -/
def OutboxRow.sendsOf (p : Platform) (answer : List PendingAction) (r : OutboxRow) : Bool :=
  match decodeEvent p r.tenantId r.eventType r.payload with
  | .ok action => action ∈ answer.filter PendingAction.isSend
  | .error _ => false

variable {p : Platform} {r : OutboxRow} {action : PendingAction} {tenant rule device : String}

theorem OutboxRow.Carries.sendsOf_iff (h : r.Carries p action) {answer : List PendingAction} :
    r.sendsOf p answer ↔ action ∈ answer.filter isSend := by
  rw [sendsOf, h.decode]
  exact decide_eq_true_iff

/-- The webhook and command rows that an evaluation enqueued for a rule and device. -/
def Evaluation.sends (p : Platform) (rule : CachedRule) (device : String) (e : Evaluation) : ℕ :=
  if e.plan.deviceId = device ∧ rule ∈ e.plan.liveRules e.runtime then
    e.rows.countP (sendsOf p (e.plan.answer p (e.plan.runtimeCache e.runtime) rule))
  else 0

def AlertRow.belongsTo (tenant rule device : String) (a : AlertRow) : Bool :=
  a.tenantId = tenant && a.ruleId = some rule && a.deviceId = device

theorem AlertRow.countP_belongsTo_update (alerts : Table AlertRow id) (q : AlertRow → Bool)
    {f : AlertRow → AlertRow} (hfollows : ∀ a : AlertRow, a.Follows (f a))
    (tenant rule device : String) :
    (alerts.update q f fun a => (hfollows a).id).rows.countP (belongsTo tenant rule device) =
      alerts.rows.countP (belongsTo tenant rule device) := by
  refine alerts.countP_update q _ fun a => ?_
  rw [belongsTo, (hfollows a).tenantId, (hfollows a).ruleId, (hfollows a).deviceId, belongsTo]

/-- The unique slot of the creations for a rule and device. -/
def creationSlot (tenant rule device : String) : String × String × String :=
  (tenant, "rule.create_alert", "create-alert:" ++ rule ++ ":" ++ device)

theorem OutboxRow.Carries.creates_of_slot (h : r.Carries p action)
    (hslot : r.activeSlot = some (creationSlot tenant rule device))
    (hdevice : ∀ t ru d severity message value,
      action = .createAlert t ru d severity message value → d = device) :
    r.creates p tenant rule device := by
  obtain ⟨-, ht, htype, hkey⟩ := activeSlot_eq_some hslot
  rw [h.tenantId] at ht
  rw [h.eventType] at htype
  rw [h.key] at hkey
  cases action with
  | createAlert t ru d severity message value =>
    obtain rfl := hdevice _ _ _ _ _ _ rfl
    have hid : "create-alert:" ++ ru ++ ":" ++ d = "create-alert:" ++ rule ++ ":" ++ d :=
      Option.some.inj hkey
    rw [String.append_left_inj, String.append_left_inj, String.append_right_inj] at hid
    exact h.creates_iff.mpr ⟨severity, message, value, by rw [← ht, hid]; rfl⟩
  | resolveAlert | updateAlertValue | sendWebhook | sendCommand | updateCooldown
  | updateZoneEntry => simp [eventTypeForAction] at htype

/-- A creation row that succeeded, or whose delivery can only find an alert. -/
def OutboxRow.covered (p : Platform) (tenant rule device : String) (s : Store) (r : OutboxRow) :
    Bool :=
  r.creates p tenant rule device &&
    (r.status = .succeeded || r.isActive &&
      (s.alerts.rows.any (occupies tenant rule device) ||
        s.deliveries.rows.any fun d => d.deliveryId = r.id))

theorem OutboxRow.covered_iff {s : Store} :
    r.covered p tenant rule device s ↔ r.creates p tenant rule device ∧
      (r.status = .succeeded ∨ r.isActive ∧
        ((∃ a ∈ s.alerts, a.occupies tenant rule device) ∨
          ∃ d ∈ s.deliveries, d.deliveryId = r.id)) := by
  simp [covered, any_eq_true, Table.mem_iff]

namespace RuleSystem

variable {p : Platform} {tenant rule device : String} {sys : RuleSystem}

section

/-- Creations that succeeded, or are bound to, are not more than the alerts. -/
def Backed (p : Platform) (tenant rule device : String) (sys : RuleSystem) : Prop :=
  sys.store.outbox.table.rows.countP (covered p tenant rule device sys.store) ≤
    sys.store.alerts.rows.countP (belongsTo tenant rule device)

theorem countP_active_creations_le (hsound : Sound p sys) (tenant rule device : String) :
    sys.store.outbox.table.rows.countP
      (fun r => r.creates p tenant rule device && r.isActive) ≤ 1 := by
  have hunique : (sys.store.outbox.table.rows.filterMap activeSlot).count
      (creationSlot tenant rule device) ≤ 1 :=
    nodup_iff_count_le_one.mp sys.store.outbox.activeUnique _
  rw [count_filterMap] at hunique
  refine le_trans (countP_mono_left ?_) hunique
  intro r hr hactive
  obtain ⟨hcreates, hactive⟩ := Bool.and_eq_true_iff.mp hactive
  obtain ⟨action, hcarries⟩ := hsound.carries r hr
  obtain ⟨severity, message, value, rfl⟩ := hcarries.creates_iff.mp hcreates
  rw [hcarries.activeSlot hactive]
  exact beq_self_eq_true (some (creationSlot tenant rule device))

variable {s' : Store} {event : OutboxEventRecord} {device' severity message observed : String}
  {value : Option String}

/-- Creations stay backed when no alert is opened and receipts are added only for
creations that found one. -/
theorem Backed.mono (h : Backed p tenant rule device sys)
    (hopen : ∀ a' ∈ s'.alerts, a'.occupies tenant rule device →
      ∃ a ∈ sys.store.alerts, a.occupies tenant rule device)
    (hreceipt : ∀ r ∈ sys.store.outbox, r.creates p tenant rule device →
      ∀ d' ∈ s'.deliveries, d'.deliveryId = r.id →
      (∃ d ∈ sys.store.deliveries, d.deliveryId = r.id) ∨
        ∃ a ∈ sys.store.alerts, a.occupies tenant rule device)
    (hcount : sys.store.alerts.rows.countP (belongsTo tenant rule device) ≤
      s'.alerts.rows.countP (belongsTo tenant rule device)) :
    sys.store.outbox.table.rows.countP (covered p tenant rule device s') ≤
      s'.alerts.rows.countP (belongsTo tenant rule device) := by
  refine (countP_mono_left fun r hr hcovered => ?_).trans (h.trans hcount)
  obtain ⟨hcreates, hstatus⟩ := covered_iff.mp hcovered
  refine covered_iff.mpr ⟨hcreates, ?_⟩
  rcases hstatus with hsucceeded | ⟨hactive, ⟨a', ha', hocc⟩ | ⟨d', hd', hid⟩⟩
  · exact .inl hsucceeded
  · exact .inr ⟨hactive, .inl (hopen a' ha' hocc)⟩
  · exact .inr ⟨hactive, (hreceipt r hr hcreates d' hd' hid).symm⟩

theorem Backed.advances (h : Backed p tenant rule device sys) (hsound : Sound p sys)
    {sys' : RuleSystem} (hstep : sys.Advances sys') : Backed p tenant rule device sys' := by
  obtain ⟨reported, hprogress, hexecuted, -, -, -⟩ := hstep
  refine le_trans ?_ h
  simp only [hprogress.rows, countP_map]
  refine countP_mono_left fun r hr hcovered => ?_
  have hrow := hprogress.progress r hr
  obtain ⟨hcreates, hstatus⟩ := covered_iff.mp hcovered
  rw [hrow.creates] at hcreates
  by_cases hactive : r.isActive
  · refine covered_iff.mpr ⟨hcreates, ?_⟩
    rcases hstatus with hsucceeded | ⟨-, hopen | ⟨d, hd, hid⟩⟩
    · rcases hprogress.succeeded r hr hsucceeded with hold | hnew
      · exact .inl hold
      · -- A creation is reported as a success only after it left its receipt.
        obtain ⟨x, hx, hid, hok⟩ := hexecuted r hnew
        obtain ⟨action, hcarries⟩ := hsound.carries r hr
        obtain ⟨_, _, _, rfl⟩ := hcarries.creates_iff.mp hcreates
        have hdecode := hsound.decode_of_id (hsound.results x hx) hr hid hcarries
        obtain ⟨d, hd, hkey, -⟩ := hsound.created x hx hok _ _ _ _ _ _ hdecode
        exact .inr ⟨hactive, .inr ⟨d, hd, hkey.trans hid⟩⟩
    · exact .inr ⟨hactive, .inl hopen⟩
    · exact .inr ⟨hactive, .inr ⟨d, hd, hid.trans hrow.id⟩⟩
  · rw [Function.comp_apply, hrow.finished (Bool.eq_false_iff.mpr hactive)] at hcovered
    exact hcovered

/-- An alert created for the slot pays for the creation that is active now. -/
theorem Backed.created (h : Backed p tenant rule device sys) (hsound : Sound p sys) (s : Store) :
    sys.store.outbox.table.rows.countP (covered p tenant rule device s) ≤
      sys.store.alerts.rows.countP (belongsTo tenant rule device) + 1 := by
  have hactive := countP_active_creations_le hsound tenant rule device
  have hsucceeded : sys.store.outbox.table.rows.countP
      (fun r => r.creates p tenant rule device && r.status = .succeeded) ≤
      sys.store.alerts.rows.countP (belongsTo tenant rule device) := by
    refine le_trans (countP_mono_left fun r _ hr => ?_) h
    obtain ⟨hcreates, hstatus⟩ := Bool.and_eq_true_iff.mp hr
    exact covered_iff.mpr ⟨hcreates, .inl (decide_eq_true_iff.mp hstatus)⟩
  refine (countP_le_add fun r _ hr => ?_).trans (Nat.add_le_add hsucceeded hactive)
  obtain ⟨hcreates, hstatus | ⟨hactive, -⟩⟩ := covered_iff.mp hr
  · exact .inl (by simp [hcreates, hstatus])
  · exact .inr (by simp [hcreates, hactive])

theorem creates_of_decode (hsound : Sound p sys)
    (hevent : event ∈ sys.issued) {r : OutboxRow} (hr : r ∈ sys.store.outbox) (hid : event.id = r.id)
    {tenant' rule' : String}
    (hdecode : decodeEvent p event.tenantId event.eventType event.payload =
      .ok (.createAlert tenant' rule' device' severity message value))
    (hcreates : r.creates p tenant rule device) :
    tenant' = tenant ∧ rule' = rule ∧ device' = device := by
  obtain ⟨action, hcarries⟩ := hsound.carries r hr
  obtain ⟨_, _, _, rfl⟩ := hcarries.creates_iff.mp hcreates
  cases (hsound.decode_of_id hevent hr hid hcarries).symm.trans hdecode
  exact ⟨rfl, rfl, rfl⟩

theorem Backed.attempt (h : Backed p tenant rule device sys) (hsound : Sound p sys)
    (hevent : event ∈ sys.issued) {now : ℤ}
    {result : Except String Unit} (failure : FailureClass)
    (heffect : RuleDelivery.AttemptEffect p now event sys.store s' result) :
    Backed p tenant rule device
      { sys with store := s', results := (event, result, failure) :: sys.results } := by
  have houtbox := heffect.outbox
  simp only [Backed, houtbox]
  cases heffect with
  | refused | sent | known => exact h
  | reused tenant' rule' device' severity message value hdecode existing hexisting hslot deliveries
      hinsert =>
    refine h.mono (fun a ha hopen => ⟨a, ha, hopen⟩) ?_ le_rfl
    intro r hr hcreates d hd hid
    rcases (Table.mem_of_insert? hinsert).mp hd with hd | rfl
    · exact .inl ⟨d, hd, hid⟩
    · -- The creation of this row found the alert that is there.
      obtain ⟨rfl, rfl, rfl⟩ := creates_of_decode hsound hevent hr hid hdecode hcreates
      rcases hslot with hown | hopen
      · obtain ⟨-, d', hd', hid', -⟩ := hsound.alerts existing hexisting
        exact ((Table.insert?_eq_some.mp hinsert).1 d' hd' (hid'.trans hown)).elim
      · exact .inr ⟨existing, hexisting, hopen⟩
  | created tenant' rule' device' severity message value hdecode hid hfree alerts halerts deliveries
      hinsert =>
    have hrows := (Table.insert?_eq_some.mp halerts).2
    by_cases hslot : tenant' = tenant ∧ rule' = rule ∧ device' = device
    · obtain ⟨rfl, rfl, rfl⟩ := hslot
      simpa [hrows, belongsTo, Store.newAlert] using h.created hsound _
    · refine h.mono ?_ ?_ (by simp [hrows])
      · intro a ha hopen
        rcases (Table.mem_of_insert? halerts).mp ha with ha | rfl
        · exact ⟨a, ha, hopen⟩
        · obtain ⟨ht, hrule, hd, -⟩ := occupies_iff.mp hopen
          exact (hslot ⟨ht, Option.some.inj hrule, hd⟩).elim
      · intro r hr hcreates d hd hid
        rcases (Table.mem_of_insert? hinsert).mp hd with hd | rfl
        · exact .inl ⟨d, hd, hid⟩
        · exact (hslot (creates_of_decode hsound hevent hr hid hdecode hcreates)).elim
  | updated tenant' id value _ hdecode =>
    have hback := (follows_update sys.store.alerts (isNamed tenant' id)
      (follows_setTriggeredValue value)).1
    refine h.mono ?_ (fun _ _ _ d hd hid => .inl ⟨d, hd, hid⟩) (countP_belongsTo_update
      sys.store.alerts _ (follows_setTriggeredValue value) tenant rule device).ge
    intro a' ha' hopen
    obtain ⟨a, ha, hfollows⟩ := hback a' ha'
    exact ⟨a, ha, hfollows.occupies hopen⟩
  | resolved tenant' id current hdecode hcurrent _ =>
    have hback := (follows_update sys.store.alerts (isNamed tenant' id)
      (follows_resolve now)).1
    refine h.mono ?_ ?_ ?_
    · rw [Store.transitionCooldown_alerts]
      intro a' ha' hopen
      obtain ⟨a, ha, hfollows⟩ := hback a' ha'
      exact ⟨a, ha, hfollows.occupies hopen⟩
    · rw [Store.transitionCooldown_deliveries]
      exact fun _ _ _ d hd hid => .inl ⟨d, hd, hid⟩
    · rw [Store.transitionCooldown_alerts]
      exact (countP_belongsTo_update sys.store.alerts _ (follows_resolve now)
        tenant rule device).ge

theorem free_of_creation {plan prepared : DeviceRuleEvaluation} {runtime : DeviceRuleRuntime}
    (hprepare : sys.store.prepareEvaluation observed device' plan = .ok (prepared, runtime))
    (h : .createAlert tenant rule device severity message value ∈
      (prepared.decide p runtime).deliveries) :
    ∀ a ∈ sys.store.alerts, a.occupies tenant rule device = false := by
  obtain ⟨-, r, hr, hanswer⟩ := mem_deliveries.mp h
  obtain ⟨rfl, rfl, rfl, hnone, -⟩ := createAlert_mem_answer hanswer
  have htenant := tenantId_of_liveRules hr
  obtain ⟨hscope, hdevice, target, -, hprepared⟩ := Store.prepareEvaluation_eq_ok hprepare
  cases hprepared
  have htenant' : r.tenantId = observed := htenant.trans hscope
  have hdevice' : (sys.store.retarget target plan).deviceId = device' := hdevice
  rw [htenant', hdevice'] at hnone ⊢
  simp only [runtimeCache, Store.deviceRuleRuntime, and_self, if_true,
    Option.map_eq_none_iff] at hnone
  exact Store.newestAlert_eq_none.mp hnone

theorem Backed.observe (h : Backed p tenant rule device sys) (hsound : Sound p sys)
    {uuid : ℕ → String} {now : ℤ} {plan : DeviceRuleEvaluation}
    (henabled : sys.enabled (.observe uuid now observed device' plan)) :
    Backed p tenant rule device (sys.observe p uuid now observed device' plan) := by
  rcases sys.observe_effect p uuid now observed device' plan with
    heq | ⟨prepared, runtime, zoneEntries, rows, hprepare, hrows, hsub, heq⟩
  · rw [heq]
    exact h
  rw [heq]
  simp only [Backed, hrows, countP_append]
  -- The slot is free and the new rows have no receipt yet.
  have hadded : rows.countP (covered p tenant rule device sys.store) = 0 := by
    refine countP_eq_zero.mpr fun r hr hcovered => ?_
    obtain ⟨action, haction, hcarries, hpending, i, hid⟩ := carries_of_sublist hsub hr
    obtain ⟨hcreates, hstatus⟩ := covered_iff.mp hcovered
    obtain ⟨_, _, _, rfl⟩ := hcarries.creates_iff.mp hcreates
    rcases hstatus with hsucceeded | ⟨-, ⟨a, ha, hopen⟩ | ⟨d, hd, hreceipt⟩⟩
    · simp [hpending] at hsucceeded
    · simp [free_of_creation hprepare haction a ha] at hopen
    · obtain ⟨r', hr', hid'⟩ := hsound.receipts d hd
      exact henabled.2.2 i r' hr' (hid'.trans (hreceipt.trans hid))
  exact (Nat.add_le_add h hadded.le).trans_eq (Nat.add_zero _)

theorem Backed.step (h : Backed p tenant rule device sys) (hsound : Sound p sys) {step : RuleStep}
    (henabled : sys.enabled step) (hunattended : unattended step) :
    Backed p tenant rule device (sys.apply p step) := by
  refine unattended_induction henabled hunattended ?_ (fun _ => h.advances hsound)
    fun _ _ hevent _ _ failure => h.attempt hsound hevent failure
  rintro uuid now observed device' plan rfl
  exact h.observe hsound henabled

end

section

variable {rule : CachedRule}

/-- The webhook and command rows enqueued for a rule and device so far. -/
def sends (p : Platform) (rule : CachedRule) (device : String) (sys : RuleSystem) : ℕ :=
  (sys.evaluations.map (Evaluation.sends p rule device)).sum

def creations (p : Platform) (rule : CachedRule) (device : String) (sys : RuleSystem) : ℕ :=
  sys.store.outbox.table.rows.countP (creates p rule.tenantId rule.id device)

def undelivered (p : Platform) (rule : CachedRule) (device : String) (sys : RuleSystem) : ℕ :=
  sys.store.outbox.table.rows.countP fun r =>
    r.creates p rule.tenantId rule.id device && r.status ≠ .succeeded

/-- Only observations and deliveries; and the rule does not fire while a creation
for its slot is undelivered. -/
def sendGuard (p : Platform) (rule : CachedRule) (device : String) (sys : RuleSystem) :
    RuleStep → Prop
  | .observe _ _ tenant device' plan =>
    ∀ prepared runtime severity message value,
      sys.store.prepareEvaluation tenant device' plan = .ok (prepared, runtime) →
      .createAlert rule.tenantId rule.id device severity message value ∈
        (prepared.decide p runtime).deliveries →
      ∀ r ∈ sys.store.outbox, r.activeSlot ≠ some (creationSlot rule.tenantId rule.id device)
  | step => unattended step

variable {rows : List OutboxRow} {prepared plan : DeviceRuleEvaluation}
  {runtime : DeviceRuleRuntime} {uuid : ℕ → String} {now : ℤ}

/-- Rows of one observation have slots of their own, so a rule sends at most
once per action. -/
theorem sends_le {o o' : Outbox} (hrows : o'.table.rows = o.table.rows ++ rows)
    (hsub : rows.Sublist ((prepared.decide p runtime).deliveries.zipIdx.map
      (ofAction p uuid now))) :
    Evaluation.sends p rule device ⟨prepared, runtime, rows⟩ ≤ rule.sendActions := by
  unfold Evaluation.sends
  split
  next =>
    set answer := prepared.answer p (prepared.runtimeCache runtime) rule
    set sent := rows.filter (sendsOf p answer)
    have hslots : ∀ r ∈ sent, ∃ action ∈ answer.filter isSend,
        r.activeSlot = some (tenantIdForAction action, eventTypeForAction action,
          idempotencyKeyForAction p action) := by
      intro r hr
      obtain ⟨hr, hsends⟩ := List.mem_filter.mp hr
      obtain ⟨action, -, hcarries, hpending, -⟩ := carries_of_sublist hsub hr
      exact ⟨action, hcarries.sendsOf_iff.mp hsends,
        hcarries.activeSlot (by simp [isActive, hpending])⟩
    have hlength : (sent.filterMap activeSlot).length = sent.length := by
      rw [length_filterMap_eq_countP, countP_eq_length]
      intro r hr
      obtain ⟨action, -, hslot⟩ := hslots r hr
      simp [hslot]
    have hnodup : (sent.filterMap activeSlot).Nodup := by
      have hunique := o'.activeUnique
      rw [hrows, filterMap_append] at hunique
      exact hunique.of_append_right.sublist (filter_sublist.filterMap _)
    have hsubset : sent.filterMap activeSlot ⊆ (answer.filter isSend).map
        fun action => (tenantIdForAction action, eventTypeForAction action,
          idempotencyKeyForAction p action) := by
      intro slot hslot
      obtain ⟨r, hr, heq⟩ := mem_filterMap.mp hslot
      obtain ⟨action, haction, hactive⟩ := hslots r hr
      exact mem_map.mpr ⟨action, haction, Option.some.inj (hactive.symm.trans heq)⟩
    calc rows.countP (sendsOf p answer) = sent.length := countP_eq_length_filter
      _ = (sent.filterMap activeSlot).length := hlength.symm
      _ ≤ (answer.filter isSend).length :=
        (subperm_of_subset hnodup hsubset).length_le.trans_eq (length_map _)
      _ ≤ rule.sendActions := prepared.answer_sends p _ rule
  next => exact Nat.zero_le _

/-- A rule that sends asks for its alert; if no such creation was active, the
observation appends one. -/
theorem creation_of_send {tenant device' : String}
    (henabled : sys.enabled (.observe uuid now tenant device' plan))
    (hguard : sendGuard p rule device sys (.observe uuid now tenant device' plan))
    (halert : ∃ a ∈ rule.actions.filterMap compileAction, a.kind = .alert)
    (hprepare : sys.store.prepareEvaluation tenant device' plan = .ok (prepared, runtime))
    (hrows : (sys.store.outbox.enqueueRows ((prepared.decide p runtime).deliveries.zipIdx.map
      (ofAction p uuid now))).table.rows = sys.store.outbox.table.rows ++ rows)
    (hsub : rows.Sublist ((prepared.decide p runtime).deliveries.zipIdx.map
      (ofAction p uuid now)))
    (hsends : Evaluation.sends p rule device ⟨prepared, runtime, rows⟩ ≠ 0) :
    0 < rows.countP (creates p rule.tenantId rule.id device) := by
  unfold Evaluation.sends at hsends
  split at hsends
  next hlive =>
    obtain ⟨rfl, hrule⟩ := hlive
    -- Some row of the rule's answer is a send, so the answer has the creation too.
    obtain ⟨r, hr, hsend⟩ := countP_pos_iff.mp (Nat.pos_of_ne_zero hsends)
    obtain ⟨action, -, hcarries, -⟩ := carries_of_sublist hsub hr
    obtain ⟨hanswer, hissend⟩ := List.mem_filter.mp (hcarries.sendsOf_iff.mp hsend)
    obtain ⟨severity, message, value, hcreate⟩ :=
      createAlert_of_send hanswer hissend halert
    have hdelivery := mem_deliveries.mpr ⟨rfl, rule, hrule, hcreate⟩
    obtain ⟨x, hx, hslot⟩ := exists_slot_of_delivery henabled.2.1 henabled.2.2 now hdelivery
    rcases (mem_of_append hrows).mp hx with hold | hnew
    · exact (hguard prepared runtime _ _ _ hprepare hdelivery x hold hslot).elim
    · refine countP_pos_iff.mpr ⟨x, hnew, ?_⟩
      obtain ⟨action', haction', hcarries', -⟩ := carries_of_sublist hsub hnew
      refine hcarries'.creates_of_slot hslot ?_
      rintro t ru d severity' message' value' rfl
      obtain ⟨-, r', -, hanswer'⟩ := mem_deliveries.mp haction'
      exact (createAlert_mem_answer hanswer').2.2.1
  next => exact (hsends rfl).elim

/-- Every firing that sends leaves a creation row behind. -/
def Accounted (p : Platform) (rule : CachedRule) (device : String) (sys : RuleSystem) : Prop :=
  sys.sends p rule device ≤ rule.sendActions * sys.creations p rule device

theorem Accounted.advances (h : Accounted p rule device sys) {sys' : RuleSystem}
    (hstep : sys.Advances sys') : Accounted p rule device sys' := by
  obtain @⟨outbox, _, _, hprogress, -, -, -, -⟩ := hstep
  have hcount : outbox.table.rows.countP (creates p rule.tenantId rule.id device) =
      sys.creations p rule device := by
    rw [hprogress.rows, countP_map]
    exact countP_congr fun r hr => by simp [(hprogress.progress r hr).creates]
  unfold Accounted creations
  rw [hcount]
  exact h

theorem Accounted.observe (h : Accounted p rule device sys)
    (halert : ∃ a ∈ rule.actions.filterMap compileAction, a.kind = .alert)
    {tenant device' : String}
    (henabled : sys.enabled (.observe uuid now tenant device' plan))
    (hguard : sendGuard p rule device sys (.observe uuid now tenant device' plan)) :
    Accounted p rule device (sys.observe p uuid now tenant device' plan) := by
  rcases sys.observe_effect p uuid now tenant device' plan with
    heq | ⟨prepared, runtime, zoneEntries, rows, hprepare, hrows, hsub, heq⟩
  · rw [heq]
    exact h
  rw [heq]
  simp only [Accounted, sends, creations, hrows, countP_append, map_cons, sum_cons]
  have hnew : Evaluation.sends p rule device ⟨prepared, runtime, rows⟩ ≤
      rule.sendActions * rows.countP (creates p rule.tenantId rule.id device) := by
    by_cases hzero : Evaluation.sends p rule device ⟨prepared, runtime, rows⟩ = 0
    · rw [hzero]
      exact Nat.zero_le _
    · have hcreation := creation_of_send henabled hguard halert hprepare hrows hsub hzero
      exact (sends_le hrows hsub).trans (Nat.le_mul_of_pos_right _ hcreation)
  calc Evaluation.sends p rule device ⟨prepared, runtime, rows⟩ + sys.sends p rule device
      ≤ rule.sendActions * rows.countP (creates p rule.tenantId rule.id device) +
          rule.sendActions * sys.creations p rule device := Nat.add_le_add hnew h
    _ = _ := by rw [← Nat.mul_add, Nat.add_comm, creations]

theorem unattended_of_sendGuard {step : RuleStep} (h : sendGuard p rule device sys step) :
    unattended step := by
  cases step with
  | observe => trivial
  | claim | attempt | report | transition | transitionMany | prune => exact h

theorem Accounted.step (h : Accounted p rule device sys)
    (halert : ∃ a ∈ rule.actions.filterMap compileAction, a.kind = .alert) {step : RuleStep}
    (henabled : sys.enabled step) (hguard : sendGuard p rule device sys step) :
    Accounted p rule device (sys.apply p step) := by
  refine unattended_induction henabled (unattended_of_sendGuard hguard) ?_ (fun _ => h.advances) ?_
  · rintro uuid now tenant device' plan rfl
    exact h.observe halert henabled hguard
  · intro now event _ s' result failure heffect
    unfold Accounted creations
    rw [heffect.outbox]
    exact h

theorem Backed.creations_le (h : Backed p rule.tenantId rule.id device sys) :
    sys.creations p rule device ≤
      sys.store.alerts.rows.countP (belongsTo rule.tenantId rule.id device) +
        sys.undelivered p rule device := by
  refine (countP_le_add fun r _ hcreates => ?_).trans (Nat.add_le_add_right h _)
  by_cases hstatus : r.status = .succeeded
  · exact .inl (covered_iff.mpr ⟨hcreates, .inl hstatus⟩)
  · exact .inr (by simp [hcreates, hstatus])

/-- For a rule with an alert action that does not fire while a creation of its
alert is undelivered: what it sent is at most its number of webhook and command
actions for each alert created and each creation still undelivered. -/
theorem sends_run_bounded (p : Platform) (rule : CachedRule) (device : String)
    (halert : ∃ a ∈ rule.actions.filterMap compileAction, a.kind = .alert) {store : Store}
    (hfresh : Fresh store) {steps : List RuleStep} {t : RuleSystem}
    (hrun : ((machine p).restrict (sendGuard p rule device)).Run (start store) steps t) :
    t.sends p rule device ≤ rule.sendActions *
      (t.store.alerts.rows.countP (belongsTo rule.tenantId rule.id device) +
        t.undelivered p rule device) := by
  have hstart : Backed p rule.tenantId rule.id device (start store) := by
    simp [Backed, start, hfresh.outbox]
  have hinv : Sound p t ∧ Backed p rule.tenantId rule.id device t ∧ Accounted p rule device t := by
    refine hrun.invariant (I := fun sys => Sound p sys ∧ Backed p rule.tenantId rule.id device sys ∧
      Accounted p rule device sys) ?_ ⟨hfresh.sound p, hstart, Nat.zero_le _⟩
    rintro sys step ⟨hsound, hbacked, haccounted⟩ ⟨henabled, hguard⟩
    have hunattended := unattended_of_sendGuard hguard
    exact ⟨hsound.step henabled hunattended, hbacked.step hsound henabled hunattended,
      haccounted.step halert henabled hguard⟩
  obtain ⟨-, hbacked, haccounted⟩ := hinv
  exact haccounted.trans (Nat.mul_le_mul_left _ hbacked.creations_le)

def loudRule : CachedRule := offlineRule 0 [alertAction, webhookAction]

theorem sends_run_bounded_offline :
    let steps := .observe (labelled 'a') 0 "tenant" "device" (statusAt loudRule "offline" 0) ::
      deliverOffline ++
      [.observe (labelled 'b') 0 "tenant" "device" (statusAt loudRule "offline" 1000)]
    let t := steps.foldl (apply default) (start quiet)
    t.sends default loudRule "device" = 1 ∧
      t.sends default loudRule "device" ≤
        1 * (t.store.alerts.rows.countP (belongsTo "tenant" "rule" "device") +
          t.undelivered default loudRule "device") := by
  intro steps t
  have hdelivered : ∀ o : Outbox, o.table.rows.all
      (fun r => r.activeSlot ≠ some (creationSlot "tenant" "rule" "device")) →
      ∀ r ∈ o, r.activeSlot ≠ some (creationSlot "tenant" "rule" "device") := by
    intro o h r hr
    simpa using all_eq_true.mp h r hr
  have hrun : ((machine default).restrict (sendGuard default loudRule "device")).Run
      (start quiet) steps t :=
    .cons ⟨⟨statusAt_prepared _ _ _, labelled_injective _, fresh_labelled rfl⟩,
        fun _ _ _ _ _ _ _ => hdelivered _ rfl⟩
      (.cons ⟨not_mem_nil, trivial⟩ (.cons ⟨.head _, trivial⟩ (.cons ⟨.head _, trivial⟩
        (.cons ⟨⟨statusAt_prepared _ _ _, labelled_injective _, fresh_labelled rfl⟩,
          fun _ _ _ _ _ _ _ => hdelivered _ rfl⟩ (.nil _)))))
  exact ⟨rfl, sends_run_bounded default loudRule "device" ⟨⟨.alert, .object []⟩, .head _, rfl⟩
    fresh_quiet hrun⟩

def hookEvent : OutboxEventRecord :=
  let firing := statusFiring default ⟨"unknown", "offline"⟩ loudRule "device" 0
  let action := firedAction loudRule "device" firing ⟨.webhook, webhookAction.config⟩
  ((ofAction default (labelled 'a') 0 (action, 1)).claim 0 "worker:token").toRecord

def louderRule : CachedRule :=
  offlineRule 0 [alertAction, webhookAction, ⟨"command", .object [("command", .string "reboot")]⟩]

/-- Two ways to send more often than alerts are created. A rule with two sends
has both enqueued for one alert. And while the creation of the alert waits, a
rule with one send fires again: its second webhook is enqueued, its second
creation is merged with the first. -/
theorem sends_exceed_alerts :
    (let steps := [.observe (labelled 'a') 0 "tenant" "device" (statusAt louderRule "offline" 0)]
      let t := steps.foldl (apply default) (start quiet)
      ((machine default).restrict fun _ => unattended).Run (start quiet) steps t ∧
        t.sends default louderRule "device" = 2 ∧
        t.store.alerts.rows.countP (belongsTo "tenant" "rule" "device") +
          t.undelivered default louderRule "device" = 1) ∧
    (let steps := [.observe (labelled 'a') 0 "tenant" "device" (statusAt loudRule "offline" 0),
        .claim "worker" "token" 2 60 0, .attempt (fun _ => .ok ()) 0 hookEvent,
        .report hookEvent (.ok (), .retryable) 0,
        .observe (labelled 'b') 1 "tenant" "device" (statusAt loudRule "offline" 1000)]
      let t := steps.foldl (apply default) (start quiet)
      ((machine default).restrict fun _ => unattended).Run (start quiet) steps t ∧
        t.sends default loudRule "device" = 2 ∧
        t.store.alerts.rows.countP (belongsTo "tenant" "rule" "device") +
          t.undelivered default loudRule "device" = 1) := by
  constructor
  · intro steps t
    exact ⟨.cons ⟨⟨statusAt_prepared _ _ _, labelled_injective _, fresh_labelled rfl⟩, trivial⟩
      (.nil _), rfl, rfl⟩
  · intro steps t
    exact ⟨.cons ⟨⟨statusAt_prepared _ _ _, labelled_injective _, fresh_labelled rfl⟩, trivial⟩
      (.cons ⟨not_mem_nil, trivial⟩ (.cons ⟨.tail _ (.head _), trivial⟩
        (.cons ⟨.head _, trivial⟩
          (.cons ⟨⟨statusAt_prepared _ _ _, labelled_injective _, fresh_labelled rfl⟩, trivial⟩
            (.nil _))))), rfl, rfl⟩

end

end RuleSystem

end Extrittio
