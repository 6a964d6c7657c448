import Extrittio.RuleEngine.Laws

/-!
Decisions and other tenants. What a decision contains stems from live rules of
its own tenant that target its device, and nothing that other tenants or other
devices have in the snapshot or in the runtime rows enters it.
-/
namespace Extrittio

open List Option RuleCache

/-- The parts of an action that name whom it acts for. An action on an alert
names the open alert of the rule and device. -/
def PendingAction.Names (runtime : DeviceRuleRuntime) (rule : CachedRule) (device : String) :
    PendingAction → Prop
  | .createAlert tenantId ruleId deviceId _ _ _ =>
    tenantId = rule.tenantId ∧ ruleId = rule.id ∧ deviceId = device
  | .updateAlertValue tenantId alertId _ | .resolveAlert tenantId alertId =>
    tenantId = rule.tenantId ∧
      runtime.activeAlerts (rule.tenantId, rule.id, device) = some alertId
  | .sendWebhook tenantId _ _ payload =>
    tenantId = rule.tenantId ∧ payload.get "device" = some (.object [("id", .string device)])
  | .sendCommand tenantId deviceId _ _ => tenantId = rule.tenantId ∧ deviceId = device
  | .updateCooldown tenantId ruleId deviceId _ | .updateZoneEntry tenantId ruleId deviceId _ =>
    tenantId = rule.tenantId ∧ ruleId = rule.id ∧ deviceId = device

/-- Two indexes with the same rules of a tenant and the same zones behind them. -/
structure RuleDefinitions.AgreeFor (tenant : String) (defs defs' : RuleDefinitions) : Prop where
  globalRules : defs.globalRules.filter (fun rule => rule.tenantId = tenant) =
    defs'.globalRules.filter fun rule => rule.tenantId = tenant
  byBlueprint : defs.byBlueprint.filter (fun rule => rule.tenantId = tenant) =
    defs'.byBlueprint.filter fun rule => rule.tenantId = tenant
  byFleet : defs.byFleet.filter (fun rule => rule.tenantId = tenant) =
    defs'.byFleet.filter fun rule => rule.tenantId = tenant
  byDevice : defs.byDevice.filter (fun rule => rule.tenantId = tenant) =
    defs'.byDevice.filter fun rule => rule.tenantId = tenant
  zones : ∀ rule ∈ defs.all, rule.tenantId = tenant → ∀ condition ∈ rule.conditions,
    ∀ zone, condition.zoneId = some zone → defs.zones zone = defs'.zones zone

/-- Two runtime views with the same rows of a device, and in which the same rules
of its tenant are live. -/
structure DeviceRuleRuntime.AgreeFor (tenant device : String) (defs : RuleDefinitions)
    (runtime runtime' : DeviceRuleRuntime) : Prop where
  liveRuleIds : ∀ rule ∈ defs.all, rule.tenantId = tenant →
    (rule.id ∈ runtime.liveRuleIds ↔ rule.id ∈ runtime'.liveRuleIds)
  activeAlerts : ∀ rule,
    runtime.activeAlerts (tenant, rule, device) = runtime'.activeAlerts (tenant, rule, device)
  cooldowns : ∀ rule,
    runtime.cooldowns (tenant, rule, device) = runtime'.cooldowns (tenant, rule, device)
  zoneEntries : ∀ rule,
    runtime.zoneEntries (tenant, rule, device) = runtime'.zoneEntries (tenant, rule, device)

variable {cache cache' : RuleCache} {rule : CachedRule} {deviceId : String}

theorem respond_congr (halerts : cache.activeAlerts (rule.tenantId, rule.id, deviceId) =
      cache'.activeAlerts (rule.tenantId, rule.id, deviceId))
    (hcooldowns : cache.cooldowns (rule.tenantId, rule.id, deviceId) =
      cache'.cooldowns (rule.tenantId, rule.id, deviceId))
    (now : ℤ) (conditionsMet recovered : Bool) (currentValue : String) (firing : Firing) :
    respond cache rule deviceId now conditionsMet recovered currentValue firing =
      respond cache' rule deviceId now conditionsMet recovered currentValue firing := by
  have hcooldown : isInCooldownForTenantAt cache rule.tenantId rule.id deviceId
      rule.cooldownSeconds now = isInCooldownForTenantAt cache' rule.tenantId rule.id deviceId
      rule.cooldownSeconds now := by
    simp only [isInCooldownForTenantAt, hcooldowns]
  simp only [respond, halerts, hcooldown]

theorem geofenceRuleActions_congr (p : Platform)
    (hzone : (rule.conditions.head?.bind (·.zoneId)).bind cache.definitions.zones =
      (rule.conditions.head?.bind (·.zoneId)).bind cache'.definitions.zones)
    (halerts : cache.activeAlerts (rule.tenantId, rule.id, deviceId) =
      cache'.activeAlerts (rule.tenantId, rule.id, deviceId))
    (hcooldowns : cache.cooldowns (rule.tenantId, rule.id, deviceId) =
      cache'.cooldowns (rule.tenantId, rule.id, deviceId))
    (hentries : cache.zoneEntryTimes (rule.tenantId, rule.id, deviceId) =
      cache'.zoneEntryTimes (rule.tenantId, rule.id, deviceId))
    (now : ℤ) (latitude longitude : F64) :
    geofenceRuleActions p cache rule deviceId now latitude longitude =
      geofenceRuleActions p cache' rule deviceId now latitude longitude := by
  unfold geofenceRuleActions
  rw [hzone]
  simp only [halerts, hentries, respond_congr halerts hcooldowns]

theorem RuleCache.rulesForTenantDevice_congr
    {tenantId : String} (h : cache.definitions.AgreeFor tenantId cache'.definitions)
    (hallowlist : cache.ruleAllowlist = cache'.ruleAllowlist) (deviceId : String)
    (fleetId blueprintId : Option String) :
    cache.rulesForTenantDevice tenantId deviceId fleetId blueprintId =
      cache'.rulesForTenantDevice tenantId deviceId fleetId blueprintId := by
  have htargeted : ∀ (rules : List CachedRule) (target : String),
      rules.filter (fun rule => rule.tenantId = tenantId ∧ rule.targetId = some target) =
        (rules.filter fun rule => rule.tenantId = tenantId).filter
          fun rule => rule.targetId = some target := by
    intro rules target
    rw [List.filter_filter]
    refine filter_congr fun rule _ => ?_
    rw [Bool.decide_and, Bool.and_comm]
  unfold rulesForTenantDevice
  simp only [htargeted, h.globalRules, h.byBlueprint, h.byFleet, h.byDevice, hallowlist]

namespace DeviceRuleEvaluation

variable {p : Platform} {plan : DeviceRuleEvaluation} {runtime runtime' : DeviceRuleRuntime}
  {rule : CachedRule} {action : PendingAction}

/-- A rule of the snapshot targets the device: all devices, or its blueprint, its
fleet or its id. -/
def Targets (plan : DeviceRuleEvaluation) (rule : CachedRule) : Prop :=
  rule ∈ plan.snapshot.definitions.globalRules ∨
  (rule ∈ plan.snapshot.definitions.byBlueprint ∧
    ∃ id, plan.blueprintId = some id ∧ rule.targetId = some id) ∨
  (rule ∈ plan.snapshot.definitions.byFleet ∧
    ∃ id, plan.fleetId.map toString = some id ∧ rule.targetId = some id) ∨
  (rule ∈ plan.snapshot.definitions.byDevice ∧ rule.targetId = some plan.deviceId)

/-- An action comes from a live rule of the tenant that targets the device, and
names the rule's tenant and the device. -/
def Stems (p : Platform) (plan : DeviceRuleEvaluation) (runtime : DeviceRuleRuntime)
    (action : PendingAction) : Prop :=
  ∃ rule, rule.tenantId = plan.tenant ∧ rule.id ∈ runtime.liveRuleIds ∧ plan.Targets rule ∧
    action ∈ plan.answer p (plan.runtimeCache runtime) rule ∧
    action.Names runtime rule plan.deviceId

theorem mem_liveRules : rule ∈ plan.liveRules runtime ↔
    rule.tenantId = plan.tenant ∧ rule.id ∈ runtime.liveRuleIds ∧ plan.Targets rule := by
  unfold liveRules rulesForTenantDevice Targets
  simp only [runtimeCache, restrictToRuleIds, definitionsOnly]
  cases plan.blueprintId <;> cases plan.fleetId <;>
    · simp only [mem_append, List.mem_filter, append_nil, decide_eq_true_eq,
        map_some, map_none, Option.some.injEq, reduceCtorEq, false_and, and_false,
        exists_false, exists_eq_left', false_or]
      tauto

theorem names_of_respond {now : ℤ} {conditionsMet recovered : Bool} {currentValue : String}
    {firing : Firing} {deviceId : String}
    (hpayload : firing.payload.get "device" = some (.object [("id", .string deviceId)]))
    (h : action ∈ respond (plan.runtimeCache runtime) rule deviceId now conditionsMet recovered
      currentValue firing) : action.Names runtime rule deviceId := by
  unfold respond at h
  simp only at h
  split at h
  · split at h
    next alertId halert =>
      split at h
      · cases h
      · rw [mem_singleton.mp h]
        exact ⟨rfl, halert⟩
    next =>
      split at h
      · cases h
      · rcases mem_append.mp h with hfired | hcooldown
        · obtain ⟨compiled, -, rfl⟩ := List.mem_map.mp hfired
          unfold firedAction
          split
          · exact ⟨rfl, rfl, rfl⟩
          · exact ⟨rfl, hpayload⟩
          · exact ⟨rfl, rfl⟩
        · rw [mem_singleton.mp hcooldown]
          exact ⟨rfl, rfl, rfl⟩
  · split at h
    · split at h
      next alertId halert =>
        split at h
        · cases h
        · rw [mem_singleton.mp h]
          exact ⟨rfl, halert⟩
      next => cases h
    · cases h

theorem names_of_answer (h : action ∈ plan.answer p (plan.runtimeCache runtime) rule) :
    action.Names runtime rule plan.deviceId := by
  rcases mem_append.mp h with hverdict | hgeofence
  · cases hv : plan.verdict p rule with
    | none => simp [hv] at hverdict
    | some met =>
      simp only [hv, elim_some, verdictAnswer] at hverdict
      split at hverdict <;> exact names_of_respond rfl hverdict
  · split at hgeofence
    next data _ =>
      unfold geofenceAnswer at hgeofence
      split at hgeofence
      · cases hgeofence
      · split at hgeofence
        · cases hgeofence
        · unfold geofenceRuleActions at hgeofence
          split at hgeofence
          · cases hgeofence
          · rcases mem_append.mp hgeofence with hmutation | hrespond
            · split at hmutation
              · rw [mem_singleton.mp hmutation]
                exact ⟨rfl, rfl, rfl⟩
              · split at hmutation
                · rw [mem_singleton.mp hmutation]
                  exact ⟨rfl, rfl, rfl⟩
                · cases hmutation
            · exact names_of_respond rfl hrespond
    next => cases hgeofence

theorem stems_of_actions (h : action ∈ plan.actions p (plan.runtimeCache runtime)) :
    plan.Stems p runtime action := by
  rw [(plan.actions_perm p _).mem_iff, mem_flatMap] at h
  obtain ⟨rule, hrule, hanswer⟩ := h
  obtain ⟨htenant, hlive, htargets⟩ := mem_liveRules.mp hrule
  exact ⟨rule, htenant, hlive, htargets, hanswer, names_of_answer hanswer⟩

variable {snapshot' : RuleCache}

theorem liveRules_congr
    (hdefs : plan.snapshot.definitions.AgreeFor plan.tenant snapshot'.definitions)
    (hruntime : runtime.AgreeFor plan.tenant plan.deviceId plan.snapshot.definitions runtime') :
    ({ plan with snapshot := snapshot' } : DeviceRuleEvaluation).liveRules runtime' =
      plan.liveRules runtime := by
  have hrules : plan.snapshot.definitionsOnly.rulesForTenantDevice plan.tenant plan.deviceId
      (plan.fleetId.map toString) plan.blueprintId =
        snapshot'.definitionsOnly.rulesForTenantDevice plan.tenant plan.deviceId
          (plan.fleetId.map toString) plan.blueprintId := by
    apply rulesForTenantDevice_congr
    · exact hdefs
    · rfl
  have hlive : ∀ rule ∈ plan.snapshot.definitionsOnly.rulesForTenantDevice plan.tenant
      plan.deviceId (plan.fleetId.map toString) plan.blueprintId,
      Decidable.decide (rule.id ∈ runtime'.liveRuleIds) =
        Decidable.decide (rule.id ∈ runtime.liveRuleIds) := by
    intro rule hrule
    have hmem := (rulesForTenantDevice_sublist _ _ _ _ _).mem hrule
    exact decide_eq_decide.mpr
      (hruntime.liveRuleIds rule hmem (tenantId_of_mem hrule)).symm
  calc ({ plan with snapshot := snapshot' } : DeviceRuleEvaluation).liveRules runtime'
      = (snapshot'.definitionsOnly.rulesForTenantDevice plan.tenant plan.deviceId
          (plan.fleetId.map toString) plan.blueprintId).filter
            fun rule => rule.id ∈ runtime'.liveRuleIds := rfl
    _ = (plan.snapshot.definitionsOnly.rulesForTenantDevice plan.tenant plan.deviceId
          (plan.fleetId.map toString) plan.blueprintId).filter
            fun rule => rule.id ∈ runtime.liveRuleIds := by
      rw [← hrules]
      exact filter_congr hlive
    _ = plan.liveRules runtime := rfl

theorem actions_congr (hdefs : plan.snapshot.definitions.AgreeFor plan.tenant snapshot'.definitions)
    (hruntime : runtime.AgreeFor plan.tenant plan.deviceId plan.snapshot.definitions runtime') :
    ({ plan with snapshot := snapshot' } : DeviceRuleEvaluation).actions p
        (({ plan with snapshot := snapshot' } : DeviceRuleEvaluation).runtimeCache runtime') =
      plan.actions p (plan.runtimeCache runtime) := by
  have hrules := liveRules_congr hdefs hruntime
  have halerts : ∀ rule ∈ plan.liveRules runtime,
      runtime'.activeAlerts (rule.tenantId, rule.id, plan.deviceId) =
        runtime.activeAlerts (rule.tenantId, rule.id, plan.deviceId) := by
    intro rule hrule
    rw [tenantId_of_liveRules hrule, hruntime.activeAlerts]
  have hcooldowns : ∀ rule ∈ plan.liveRules runtime,
      runtime'.cooldowns (rule.tenantId, rule.id, plan.deviceId) =
        runtime.cooldowns (rule.tenantId, rule.id, plan.deviceId) := by
    intro rule hrule
    rw [tenantId_of_liveRules hrule, hruntime.cooldowns]
  have hentries : ∀ rule ∈ plan.liveRules runtime,
      runtime'.zoneEntries (rule.tenantId, rule.id, plan.deviceId) =
        runtime.zoneEntries (rule.tenantId, rule.id, plan.deviceId) := by
    intro rule hrule
    rw [tenantId_of_liveRules hrule, hruntime.zoneEntries]
  have hzones : ∀ rule ∈ plan.liveRules runtime,
      (rule.conditions.head?.bind (·.zoneId)).bind snapshot'.definitions.zones =
        (rule.conditions.head?.bind (·.zoneId)).bind plan.snapshot.definitions.zones := by
    intro rule hrule
    have hmem := (plan.liveRules_sublist runtime).mem hrule
    cases hhead : rule.conditions.head? with
    | none => rfl
    | some condition =>
      cases hid : condition.zoneId with
      | none => simp [hid]
      | some zone =>
        have hzone := hdefs.zones rule hmem (tenantId_of_liveRules hrule) condition
          (mem_of_head? hhead) zone hid
        simpa [hid] using hzone.symm
  unfold actions
  simp only
  split
  next change _ =>
    simp only [evaluateStatusChangeForTenantAt]
    change List.flatMap _ (liveRules _ _) = List.flatMap _ (liveRules _ _)
    rw [hrules]
    refine flatMap_congr fun rule hrule => ?_
    split
    · rfl
    · exact respond_congr (halerts rule hrule) (hcooldowns rule hrule) _ _ _ _ _
  next data geofence _ =>
    congr 1
    · simp only [evaluateTelemetryForTenantRevisionAt]
      change List.flatMap _ (liveRules _ _) = List.flatMap _ (liveRules _ _)
      rw [hrules]
      refine flatMap_congr fun rule hrule => ?_
      split
      · rfl
      · exact respond_congr (halerts rule hrule) (hcooldowns rule hrule) _ _ _ _ _
    · congr 1
      unfold evaluateGeofenceForTenantAt
      split
      · rfl
      next latitude longitude _ =>
        change List.flatMap _ (liveRules _ _) = List.flatMap _ (liveRules _ _)
        rw [hrules]
        refine flatMap_congr fun rule hrule => ?_
        split
        · rfl
        · apply geofenceRuleActions_congr
          · exact hzones rule hrule
          · exact halerts rule hrule
          · exact hcooldowns rule hrule
          · exact hentries rule hrule

/-- A decision contains only what live rules of its tenant that target its device
ask for, and other tenants' rules and other devices' rows do not enter it. -/
theorem decide_confined (p : Platform) (plan : DeviceRuleEvaluation) (runtime : DeviceRuleRuntime) :
    (∀ action ∈ (plan.decide p runtime).deliveries, plan.Stems p runtime action) ∧
    (∀ c ∈ (plan.decide p runtime).cooldowns, c.tenantId = plan.tenant ∧
      c.deviceId = plan.deviceId ∧
      plan.Stems p runtime (.updateCooldown c.tenantId c.ruleId c.deviceId c.lastFiredAt)) ∧
    (∀ entry ∈ (plan.decide p runtime).zoneEntries, entry.tenantId = plan.tenant ∧
      entry.deviceId = plan.deviceId ∧
      plan.Stems p runtime
        (.updateZoneEntry entry.tenantId entry.ruleId entry.deviceId entry.enteredAt)) ∧
    ∀ snapshot' runtime', plan.snapshot.definitions.AgreeFor plan.tenant snapshot'.definitions →
      runtime.AgreeFor plan.tenant plan.deviceId plan.snapshot.definitions runtime' →
      ({ plan with snapshot := snapshot' } : DeviceRuleEvaluation).decide p runtime' =
        plan.decide p runtime := by
  refine ⟨?_, ?_, ?_, ?_⟩
  · intro action haction
    exact stems_of_actions (List.mem_filter.mp haction).1
  · intro c hc
    obtain ⟨action, haction, heq⟩ := mem_filterMap.mp hc
    cases action with
    | updateCooldown =>
      cases heq
      obtain ⟨rule, htenant, hlive, htargets, hanswer, hnames⟩ := stems_of_actions haction
      exact ⟨hnames.1.trans htenant, hnames.2.2,
        rule, htenant, hlive, htargets, hanswer, hnames⟩
    | _ => cases heq
  · intro entry hentry
    obtain ⟨action, haction, heq⟩ := mem_filterMap.mp hentry
    cases action with
    | updateZoneEntry =>
      cases heq
      obtain ⟨rule, htenant, hlive, htargets, hanswer, hnames⟩ := stems_of_actions haction
      exact ⟨hnames.1.trans htenant, hnames.2.2,
        rule, htenant, hlive, htargets, hanswer, hnames⟩
    | _ => cases heq
  · intro snapshot' runtime' hdefs hruntime
    simp only [DeviceRuleEvaluation.decide, actions_congr hdefs hruntime]

def silenceRule (tenant : String) : CachedRule :=
  ⟨tenant, "silence", "Silence", "device_status", "global", none, 0,
    [⟨"status", none, none, "eq", "offline", none⟩], [⟨"alert", .object []⟩]⟩

def silence (rules : List CachedRule) : DeviceRuleEvaluation where
  snapshot := RuleSnapshotRecords.compile ⟨rules, fun _ => none⟩
  tenant := "tenant"
  deviceId := "device"
  fleetId := none
  blueprintId := none
  blueprintRevisionId := none
  input := .status ⟨"online", "offline"⟩
  observedAt := 0

/-- Another tenant's rule under the same id, and an open alert of another device. -/
theorem decide_confined_silence :
    let runtime : DeviceRuleRuntime := ⟨["silence"], fun _ => none, fun _ => none, fun _ => none⟩
    let runtime' : DeviceRuleRuntime := { runtime with
      activeAlerts := fun key => if key.2.2 = "gadget" then some "alert" else none }
    ((silence [silenceRule "tenant"]).decide default runtime).deliveries.length = 1 ∧
      (silence [silenceRule "other", silenceRule "tenant"]).decide default runtime' =
        (silence [silenceRule "tenant"]).decide default runtime := by
  intro runtime runtime'
  have hdefs : (silence [silenceRule "tenant"]).snapshot.definitions.AgreeFor "tenant"
      (silence [silenceRule "other", silenceRule "tenant"]).snapshot.definitions :=
    ⟨rfl, rfl, rfl, rfl, fun _ _ _ _ _ _ _ => rfl⟩
  have hruntime : runtime.AgreeFor "tenant" "device"
      (silence [silenceRule "tenant"]).snapshot.definitions runtime' :=
    ⟨fun _ _ _ => Iff.rfl, fun _ => rfl, fun _ => rfl, fun _ => rfl⟩
  exact ⟨rfl, (decide_confined default (silence [silenceRule "tenant"]) runtime).2.2.2 _ _ hdefs
    hruntime⟩

end DeviceRuleEvaluation

end Extrittio
