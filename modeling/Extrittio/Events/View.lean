import Extrittio.Events.Ingress
import Extrittio.Library.Selection
import Extrittio.RuleEngine.Laws

/-!
The part of the store that belongs to one tenant. What ingestion reads for a
tenant it reads out of this part, and what it writes for the tenant commutes
with taking it.
-/
namespace Extrittio

open Relational List Option DeviceRuleEvaluation Table

namespace Outbox

def filter (o : Outbox) (q : OutboxRow → Bool) : Outbox :=
  ⟨o.table.filter q, o.activeUnique.sublist (filter_sublist.filterMap _)⟩

variable {o : Outbox} {q : OutboxRow → Bool} {r : OutboxRow}

@[simp] theorem mem_filter :
    r ∈ o.filter q ↔ r ∈ o ∧ q r := Table.mem_filter

theorem insertOrIgnore_filter (hr : q r) (hid : ∀ r' ∈ o, r'.id = r.id → q r')
    (hslot : ∀ r' ∈ o, r.activeSlot.isSome → r'.activeSlot = r.activeSlot → q r') :
    (o.filter q).insertOrIgnore r = ((o.insertOrIgnore r).1.filter q, (o.insertOrIgnore r).2) := by
  by_cases hc : o.Conflicts r
  · have hc' : (o.filter q).Conflicts r := by
      obtain ⟨r', hr', hsame⟩ := hc
      refine ⟨r', mem_filter.mpr ⟨hr', ?_⟩, hsame⟩
      rcases hsame with hkey | ⟨hsome, heq⟩
      · exact hid r' hr' hkey
      · exact hslot r' hr' hsome heq
    rw [insertOrIgnore_of_conflicts hc, insertOrIgnore_of_conflicts hc']
  · have hc' : ¬(o.filter q).Conflicts r := by
      rintro ⟨r', hr', hsame⟩
      exact hc ⟨r', (mem_filter.mp hr').1, hsame⟩
    obtain ⟨hrows, hcount⟩ := insertOrIgnore_of_not_conflicts hc
    obtain ⟨hrows', hcount'⟩ := insertOrIgnore_of_not_conflicts hc'
    refine Prod.ext (Outbox.ext ?_) (hcount'.trans hcount.symm)
    rw [hrows']
    simp [filter, hrows, hr]

theorem mem_of_insertOrIgnore {r' : OutboxRow} (h : r' ∈ (o.insertOrIgnore r).1) :
    r' ∈ o ∨ r' = r := by
  by_cases hc : o.Conflicts r
  · rw [insertOrIgnore_of_conflicts hc] at h
    exact .inl h
  · rw [mem_iff, (insertOrIgnore_of_not_conflicts hc).1] at h
    simpa [mem_iff] using h

theorem filter_insertOrIgnore_of_not
    (hr : q r = false) : (o.insertOrIgnore r).1.filter q = o.filter q := by
  by_cases hc : o.Conflicts r
  · rw [insertOrIgnore_of_conflicts hc]
  · apply Outbox.ext
    simp [filter, (insertOrIgnore_of_not_conflicts hc).1, hr]

end Outbox

namespace DeviceRuleEvaluation

variable {p : Platform} {plan : DeviceRuleEvaluation} {runtime : DeviceRuleRuntime}

variable {action : PendingAction}

theorem tenantIdForAction_of_answer {cache : RuleCache} {rule : CachedRule}
    (h : action ∈ plan.answer p cache rule) : tenantIdForAction action = rule.tenantId := by
  obtain ⟨zone, body, heq, hzone, hbody⟩ := plan.answer_responds p cache rule
  rw [heq] at h
  rcases mem_append.mp h with hz | hb
  · obtain ⟨_, rfl⟩ := hzone action hz
    rfl
  · cases hbody with
    | silent => cases hb
    | update | resolve =>
      rw [mem_singleton.mp hb]
      rfl
    | fire firing _ _ =>
      rcases mem_append.mp hb with hfired | hcooldown
      · obtain ⟨compiled, -, rfl⟩ := List.mem_map.mp hfired
        unfold firedAction
        split <;> rfl
      · rw [mem_singleton.mp hcooldown]
        rfl

theorem tenantIdForAction_of_actions (h : action ∈ plan.actions p (plan.runtimeCache runtime)) :
    tenantIdForAction action = plan.tenant := by
  rw [(plan.actions_perm p _).mem_iff, mem_flatMap] at h
  obtain ⟨rule, hrule, hanswer⟩ := h
  rw [tenantIdForAction_of_answer hanswer]
  exact tenantId_of_liveRules hrule

theorem tenantId_of_cooldowns {c : CooldownRecord} (h : c ∈ (plan.decide p runtime).cooldowns) :
    c.tenantId = plan.tenant := by
  obtain ⟨action, haction, hc⟩ := mem_filterMap.mp h
  have htenant := tenantIdForAction_of_actions haction
  cases action with
  | updateCooldown =>
    cases hc
    exact htenant
  | createAlert | updateAlertValue | resolveAlert | sendWebhook | sendCommand | updateZoneEntry =>
    cases hc

theorem tenantId_of_zoneEntries {entry : ZoneEntryMutation}
    (h : entry ∈ (plan.decide p runtime).zoneEntries) : entry.tenantId = plan.tenant := by
  obtain ⟨action, haction, hentry⟩ := mem_filterMap.mp h
  have htenant := tenantIdForAction_of_actions haction
  cases action with
  | updateZoneEntry =>
    cases hentry
    exact htenant
  | createAlert | updateAlertValue | resolveAlert | sendWebhook | sendCommand | updateCooldown =>
    cases hentry

theorem tenantId_of_deliveries
    (h : action ∈ (plan.decide p runtime).deliveries) : tenantIdForAction action = plan.tenant :=
  tenantIdForAction_of_actions (List.mem_filter.mp h).1

end DeviceRuleEvaluation

namespace Outbox

variable {p : Platform} {uuid : ℕ → String} {now : ℤ} {tenant : String} {o o' : Outbox}

/-- Enqueueing a tenant's actions commutes with taking the tenant's rows, when no
other tenant's row has one of the drawn ids. -/
theorem enqueueActionsInTransaction_filter {actions : List PendingAction}
    (hactions : ∀ action ∈ actions, tenantIdForAction action = tenant)
    (hids : ∀ r ∈ o, ∀ i, r.id = uuid i → r.tenantId = tenant) :
    (o.filter fun r => r.tenantId = tenant).enqueueActionsInTransaction p uuid now actions =
      (o.enqueueActionsInTransaction p uuid now actions).map
        fun x => (x.1.filter fun r => r.tenantId = tenant, x.2) := by
  have hstep : ∀ state : Outbox × ℕ, ∀ action ∈ actions.zipIdx,
      (∀ r ∈ state.1, ∀ i, r.id = uuid i → r.tenantId = tenant) →
      enqueueAction p uuid now (state.1.filter fun r => r.tenantId = tenant, state.2) action =
        (enqueueAction p uuid now state action).map
          fun x => (x.1.filter fun r => r.tenantId = tenant, x.2) := by
    intro state action haction hids
    have htenant := hactions action.1 (fst_mem_of_mem_zipIdx haction)
    cases hdelivery : action.1.isDelivery with
    | false => simp [enqueueAction, outboxEventForAction, hdelivery, Except.map]
    | true =>
      rw [enqueueAction_of_isDelivery hdelivery, enqueueAction_of_isDelivery hdelivery]
      have hrow : (OutboxRow.ofAction p uuid now action).tenantId = tenant := htenant
      rw [insertOrIgnore_filter (by simpa using hrow)]
      · rfl
      · intro r hr hid
        simpa using hids r hr action.2 hid
      · intro r hr hsome hslot
        obtain ⟨⟨t, type, key⟩, heq⟩ := isSome_iff_exists.mp hsome
        have hsame := (OutboxRow.activeSlot_eq_some (hslot.trans heq)).2.1
        have hown := (OutboxRow.activeSlot_eq_some heq).2.1
        simpa [hsame, ← hown] using hrow
  have hkept : ∀ state : Outbox × ℕ, ∀ action ∈ actions.zipIdx, ∀ state',
      (∀ r ∈ state.1, ∀ i, r.id = uuid i → r.tenantId = tenant) →
      enqueueAction p uuid now state action = .ok state' →
      ∀ r ∈ state'.1, ∀ i, r.id = uuid i → r.tenantId = tenant := by
    intro state action haction state' hids hok r hr i hid
    have htenant := hactions action.1 (fst_mem_of_mem_zipIdx haction)
    cases hdelivery : action.1.isDelivery with
    | false => simp [enqueueAction, outboxEventForAction, hdelivery] at hok
    | true =>
      rw [enqueueAction_of_isDelivery hdelivery] at hok
      cases hok
      rcases mem_of_insertOrIgnore hr with hr | rfl
      · exact hids r hr i hid
      · exact htenant
  exact foldlM_map hstep hkept (b := (o, 0)) hids

theorem filter_enqueueRows_of_ne {rows : List OutboxRow} (h : ∀ r ∈ rows, r.tenantId ≠ tenant)
    (o : Outbox) : (o.enqueueRows rows).filter (fun r => r.tenantId = tenant) =
      o.filter fun r => r.tenantId = tenant := by
  induction rows generalizing o with
  | nil => rfl
  | cons r rows ih =>
    have hr : decide (r.tenantId = tenant) = false := decide_eq_false (h r mem_cons_self)
    exact (ih (fun r hr => h r (mem_cons_of_mem _ hr)) _).trans (filter_insertOrIgnore_of_not hr)

end Outbox

namespace Store

def view (tenant : String) (s : Store) : Store where
  devices := s.devices.filter fun r => r.tenantId = tenant
  revisions := s.revisions.filter fun r => r.tenantId = tenant
  contracts := s.contracts.filter fun r => r.tenantId = tenant
  assignments := s.assignments.filter fun r => r.tenantId = tenant
  rules := s.rules.filter fun r => r.tenantId = tenant
  retention := s.retention
  receipts := s.receipts.filter fun r => r.tenantId = tenant
  events := s.events.filter fun r => r.tenantId = tenant
  samples := s.samples.filter fun r => r.tenantId = tenant
  rollups := s.rollups.filter fun r => r.tenantId = tenant
  alerts := s.alerts.filter fun r => r.tenantId = tenant
  deliveries := s.deliveries.filter fun r => r.tenantId = tenant
  cooldowns := s.cooldowns.filter fun r => r.tenantId = tenant
  zoneEntries := s.zoneEntries.filter fun r => r.tenantId = tenant
  outbox := s.outbox.filter fun r => r.tenantId = tenant

section

variable {tenant : String} {s : Store}

theorem device?_view (device : String) : (s.view tenant).device? tenant device = s.device? tenant device := by
  simp only [device?, view, Table.find?_filter, Option.filter_filter, Bool.and_self]

theorem rule?_view (rule : String) : (s.view tenant).rule? tenant rule = s.rule? tenant rule := by
  simp only [rule?, view, Table.find?_filter, Option.filter_filter, Bool.and_self]

theorem contract?_view (device contract : String) :
    (s.view tenant).contract? tenant device contract = s.contract? tenant device contract := by
  simp only [contract?, view, Table.find?_filter, Option.filter_filter]
  congr 1
  funext r
  cases decide (r.tenantId = tenant) <;> simp

theorem assignment_view (device : String) :
    (s.view tenant).assignments.find? (tenant, device) = s.assignments.find? (tenant, device) := by
  refine find?_filter_of_forall fun r _ hkey => ?_
  simp [(Prod.mk.inj hkey).1]

theorem assignedContract_view (device : String) :
    (s.view tenant).assignedContract tenant device = s.assignedContract tenant device := by
  simp only [assignedContract, assignment_view]
  cases hfind : s.assignments.find? (tenant, device) with
  | none => rfl
  | some assignment =>
    have htenant : assignment.tenantId = tenant := (Prod.mk.inj (Table.find?_eq_some.mp hfind).2).1
    simp only [bind_eq_bind, bind_some, htenant, view, Table.find?_filter,
      Option.filter_filter, Bool.and_self]

theorem desiredBlueprint_view (device : String) :
    (s.view tenant).desiredBlueprint tenant device = s.desiredBlueprint tenant device := by
  simp only [desiredBlueprint, assignment_view]
  cases hfind : s.assignments.find? (tenant, device) with
  | none => rfl
  | some assignment =>
    have htenant : assignment.tenantId = tenant := (Prod.mk.inj (Table.find?_eq_some.mp hfind).2).1
    simp only [bind_eq_bind, bind_some, htenant, view, Table.find?_filter,
      Option.filter_filter, Bool.and_self]
    cases hcontract : (s.contracts.find? assignment.desiredContractId).filter
        fun r => r.tenantId = tenant with
    | none => rfl
    | some contract =>
      have howner : contract.tenantId = tenant := by
        simpa using (filter_eq_some_iff.mp hcontract).2
      simp only [bind_some, howner, Bool.and_self]

theorem retarget_view {target : DeviceRow} (htarget : target.tenantId = tenant)
    (plan : DeviceRuleEvaluation) : (s.view tenant).retarget target plan = s.retarget target plan := by
  simp only [retarget, htarget, desiredBlueprint_view]

theorem newestAlert_view (rule device : String) :
    (s.view tenant).newestAlert (AlertRow.occupies tenant rule device) =
      s.newestAlert (AlertRow.occupies tenant rule device) := by
  simp only [newestAlert, view, rows_filter, List.filter_filter]
  congr 2
  refine filter_congr fun r _ => ?_
  cases h : r.occupies tenant rule device with
  | false => rfl
  | true => simp [(AlertRow.occupies_iff.mp h).1]

theorem deviceRuleRuntime_view (device : String) (candidates : List String) :
    (s.view tenant).deviceRuleRuntime tenant device candidates =
      s.deviceRuleRuntime tenant device candidates := by
  unfold deviceRuleRuntime
  congr 1
  · simp only [view, rows_filter, List.filter_filter]
    congr 2
    funext r
    cases decide (r.tenantId = tenant) <;> simp
  · funext key
    simp only [newestAlert_view]
  · funext key
    split
    next hkey =>
      rw [view, find?_filter_of_forall]
      intro r _ hr
      rw [← hr] at hkey
      simp [← hkey.1, CooldownRow.key]
    next => rfl
  · funext key
    split
    next hkey =>
      rw [view, find?_filter_of_forall]
      intro r _ hr
      rw [← hr] at hkey
      simp [← hkey.1, ZoneEntryRow.key]
    next => rfl

theorem prepareEvaluation_view (device : String) (plan : DeviceRuleEvaluation) :
    (s.view tenant).prepareEvaluation tenant device plan =
      s.prepareEvaluation tenant device plan := by
  unfold prepareEvaluation
  split
  · rfl
  · rw [device?_view]
    cases hdevice : s.device? tenant device with
    | none => rfl
    | some target =>
      have htenant : target.tenantId = tenant := by
        simpa using (filter_eq_some_iff.mp hdevice).2
      simp only [retarget_view htenant, deviceRuleRuntime_view]

end

section

variable {p : Platform} {uuid : ℕ → String} {now : ℤ} {tenant : String} {s s' : Store}

variable {c : CooldownRecord} {cooldowns : List CooldownRecord} {entry : ZoneEntryMutation}
  {decision : DeviceRuleDecision}

theorem writeCooldown_view (h : c.tenantId = tenant) :
    (s.view tenant).writeCooldown c = (s.writeCooldown c).view tenant := by
  unfold writeCooldown upsertCooldown view
  congr 1
  symm
  refine filter_upsert ?_ (fun _ => rfl) fun r _ hkey => ?_
  · simp [h]
  · simp [(Prod.mk.inj hkey).1, h]

theorem view_writeCooldown_of_ne (h : c.tenantId ≠ tenant) :
    (s.writeCooldown c).view tenant = s.view tenant := by
  unfold writeCooldown upsertCooldown view
  congr 1
  refine filter_upsert_of_not (by simp [h]) (fun _ => rfl) fun r _ hkey => ?_
  simp [(Prod.mk.inj hkey).1, h]

theorem foldl_writeCooldown_view (h : ∀ c ∈ cooldowns, c.tenantId = tenant) (s : Store) :
    cooldowns.foldl writeCooldown (s.view tenant) =
      (cooldowns.foldl writeCooldown s).view tenant := by
  induction cooldowns generalizing s with
  | nil => rfl
  | cons c cooldowns ih =>
    rw [foldl_cons, writeCooldown_view (h c mem_cons_self), foldl_cons]
    exact ih (fun c hc => h c (mem_cons_of_mem _ hc)) _

theorem view_foldl_writeCooldown_of_ne (h : ∀ c ∈ cooldowns, c.tenantId ≠ tenant) (s : Store) :
    (cooldowns.foldl writeCooldown s).view tenant = s.view tenant := by
  induction cooldowns generalizing s with
  | nil => rfl
  | cons c cooldowns ih =>
    rw [foldl_cons, ih fun c hc => h c (mem_cons_of_mem _ hc)]
    exact view_writeCooldown_of_ne (h c mem_cons_self)

theorem writeZoneEntry_view (h : entry.tenantId = tenant) :
    (s.view tenant).writeZoneEntry entry = (s.writeZoneEntry entry).map (view tenant) := by
  unfold writeZoneEntry
  cases entry.enteredAt with
  | none =>
    simp only [Except.map, view]
    congr 2
    exact filter_filter_comm _ _ _
  | some time =>
    simp only [h, rule?_view, device?_view]
    split
    · rfl
    · simp only [Except.map, view]
      congr 2
      symm
      refine filter_upsert ?_ (fun _ => rfl) fun r _ hkey => ?_
      · simp
      · simp [(Prod.mk.inj hkey).1]

theorem view_writeZoneEntry_of_ne (h : entry.tenantId ≠ tenant)
    (hok : s.writeZoneEntry entry = .ok s') : s'.view tenant = s.view tenant := by
  unfold writeZoneEntry at hok
  cases hentered : entry.enteredAt with
  | none =>
    simp only [hentered] at hok
    cases hok
    unfold view
    congr 1
    refine filter_filter_of_imp fun r _ hr => ?_
    simp only [decide_eq_true_eq] at hr ⊢
    intro hkey
    exact h ((Prod.mk.inj hkey).1.symm.trans hr)
  | some time =>
    simp only [hentered] at hok
    split at hok
    · cases hok
    · cases hok
      unfold view
      congr 1
      refine filter_upsert_of_not (by simp [h]) (fun _ => rfl) fun r _ hkey => ?_
      simp [(Prod.mk.inj hkey).1, h]

theorem writeDecision_view (hcooldowns : ∀ c ∈ decision.cooldowns, c.tenantId = tenant)
    (hentries : ∀ entry ∈ decision.zoneEntries, entry.tenantId = tenant) :
    (s.view tenant).writeDecision decision = (s.writeDecision decision).map (view tenant) := by
  unfold writeDecision
  rw [foldl_writeCooldown_view hcooldowns]
  exact foldlM_map (I := fun _ => True)
    (fun _ entry hentry _ => writeZoneEntry_view (hentries entry hentry))
    (fun _ _ _ _ _ _ => trivial) trivial

theorem view_foldlM_writeZoneEntry_of_ne {entries : List ZoneEntryMutation}
    (hentries : ∀ entry ∈ entries, entry.tenantId ≠ tenant)
    (h : entries.foldlM writeZoneEntry s = .ok s') : s'.view tenant = s.view tenant := by
  induction entries generalizing s with
  | nil =>
    cases h
    rfl
  | cons entry entries ih =>
    rw [foldlM_cons] at h
    obtain ⟨s₁, hentry, hrest⟩ := of_bind_ok h
    rw [ih (fun entry hmem => hentries entry (mem_cons_of_mem _ hmem)) hrest]
    exact view_writeZoneEntry_of_ne (hentries entry mem_cons_self) hentry

theorem view_writeDecision_of_ne (hcooldowns : ∀ c ∈ decision.cooldowns, c.tenantId ≠ tenant)
    (hentries : ∀ entry ∈ decision.zoneEntries, entry.tenantId ≠ tenant)
    (h : s.writeDecision decision = .ok s') : s'.view tenant = s.view tenant :=
  (view_foldlM_writeZoneEntry_of_ne hentries h).trans (view_foldl_writeCooldown_of_ne hcooldowns s)

end

section

variable {p : Platform} {uuid : ℕ → String} {now : ℤ} {tenant device : String} {s s' : Store}
  {plan : DeviceRuleEvaluation}

theorem evaluateRulesInTransaction_view :
    (s.view tenant).evaluateRulesInTransaction p tenant device (some plan) =
      (s.evaluateRulesInTransaction p tenant device (some plan)).map
        fun x => (x.1.view tenant, x.2) := by
  refine bind_map (f := id) ?_ ?_
  · rw [prepareEvaluation_view]
    cases s.prepareEvaluation tenant device plan <;> rfl
  · rintro ⟨prepared, runtime⟩ hprepare
    have htenant : prepared.tenant = tenant := by
      obtain ⟨hscope, -, target, -, hprepared⟩ := prepareEvaluation_eq_ok hprepare
      rw [(Prod.mk.inj hprepared).1]
      exact hscope
    refine bind_map (writeDecision_view ?_ ?_) fun _ _ => rfl
    · exact fun c hc => (tenantId_of_cooldowns hc).trans htenant
    · exact fun entry hentry => (tenantId_of_zoneEntries hentry).trans htenant

theorem evaluateRulesInTransaction_eq_ok {actions : List PendingAction}
    (h : s.evaluateRulesInTransaction p tenant device (some plan) = .ok (s', actions)) :
    s'.outbox = s.outbox ∧ ∀ action ∈ actions, tenantIdForAction action = tenant := by
  obtain ⟨⟨prepared, runtime⟩, hprepare, hwrite⟩ := of_bind_ok h
  obtain ⟨s₁, hdecision, hreturn⟩ := of_bind_ok hwrite
  cases hreturn
  obtain ⟨hscope, -, target, -, hprepared⟩ := prepareEvaluation_eq_ok hprepare
  have htenant : prepared.tenant = tenant := by
    rw [(Prod.mk.inj hprepared).1]
    exact hscope
  obtain ⟨zoneEntries, rfl⟩ := foldlM_writeZoneEntry_eq_ok hdecision
  rw [foldl_writeCooldown]
  exact ⟨rfl, fun action haction =>
    (tenantId_of_deliveries haction).trans htenant⟩

theorem observe_view (hids : ∀ r ∈ s.outbox, ∀ i, r.id = uuid i → r.tenantId = tenant) :
    (s.view tenant).observe p uuid now tenant device (some plan) =
      (s.observe p uuid now tenant device (some plan)).map fun x => (x.1.view tenant, x.2) := by
  refine bind_map evaluateRulesInTransaction_view ?_
  rintro ⟨s₁, actions⟩ hevaluate
  obtain ⟨houtbox, hactions⟩ := evaluateRulesInTransaction_eq_ok hevaluate
  refine bind_map (Outbox.enqueueActionsInTransaction_filter hactions ?_) fun _ _ => rfl
  rw [houtbox]
  exact hids

theorem view_observe_of_ne {other : String} (hother : other ≠ tenant) {count : ℕ}
    (h : s.observe p uuid now other device (some plan) = .ok (s', count)) :
    s'.view tenant = s.view tenant := by
  obtain ⟨⟨s₁, actions⟩, hevaluate, hrest⟩ := of_bind_ok h
  obtain ⟨⟨outbox, n⟩, henqueue, hreturn⟩ := of_bind_ok hrest
  cases hreturn
  have hactions := (evaluateRulesInTransaction_eq_ok hevaluate).2
  obtain rfl := Outbox.enqueueActionsInTransaction_eq_ok henqueue
  have hrows : ∀ r ∈ actions.zipIdx.map (OutboxRow.ofAction p uuid now), r.tenantId ≠ tenant := by
    intro r hr
    obtain ⟨action, haction, rfl⟩ := List.mem_map.mp hr
    exact fun heq => hother ((hactions _ (fst_mem_of_mem_zipIdx haction)).symm.trans heq)
  have hevaluated : s₁.view tenant = s.view tenant := by
    obtain ⟨⟨prepared, runtime⟩, hprepare, hwrite⟩ := of_bind_ok hevaluate
    obtain ⟨s₂, hdecision, hreturn⟩ := of_bind_ok hwrite
    cases hreturn
    obtain ⟨hscope, -, target, -, hprepared⟩ := prepareEvaluation_eq_ok hprepare
    have htenant : prepared.tenant = other := by
      rw [(Prod.mk.inj hprepared).1]
      exact hscope
    refine view_writeDecision_of_ne ?_ ?_ hdecision
    · intro c hc
      rw [tenantId_of_cooldowns hc, htenant]
      exact hother
    · intro entry hentry
      rw [tenantId_of_zoneEntries hentry, htenant]
      exact hother
  rw [← hevaluated]
  simp only [view, Outbox.filter_enqueueRows_of_ne hrows]

end

end Store

end Extrittio
