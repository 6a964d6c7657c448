import Extrittio.RuleSnapshots

/-!
What a decision is made of, rule by rule. A rule answers an observation with
zone mutations and then in one of four ways: not at all, by updating or
resolving its open alert, or by firing.
-/
namespace Extrittio

open List PendingAction RuleDefinitions

theorem flatMap_eq_of_nodup {α β γ : Type*} {key : α → β} {f : α → List γ} {k : β} {l : List α}
    (hnodup : (l.map key).Nodup) (hf : ∀ a ∈ l, key a ≠ k → f a = []) :
    l.flatMap f = [] ∨ ∃ a ∈ l, key a = k ∧ l.flatMap f = f a := by
  induction l with
  | nil => exact .inl rfl
  | cons a l ih =>
    obtain ⟨hfresh, hrest⟩ := nodup_cons.mp hnodup
    have hl : ∀ b ∈ l, key b ≠ k → f b = [] := fun b hb => hf b (mem_cons_of_mem a hb)
    rw [flatMap_cons]
    by_cases hk : key a = k
    · have hnil : l.flatMap f = [] := flatMap_eq_nil_iff.mpr fun b hb =>
        hl b hb fun h => hfresh (mem_map.mpr ⟨b, hb, h.trans hk.symm⟩)
      exact .inr ⟨a, mem_cons_self, hk, by rw [hnil, append_nil]⟩
    · rw [hf a mem_cons_self hk, nil_append]
      rcases ih hrest hl with hnil | ⟨b, hb, hkb, heq⟩
      · exact .inl hnil
      · exact .inr ⟨b, mem_cons_of_mem a hb, hkb, heq⟩

section

def RuleDefinitions.all (defs : RuleDefinitions) : List CachedRule :=
  defs.globalRules ++ defs.byBlueprint ++ defs.byFleet ++ defs.byDevice

variable {rule : CachedRule}

theorem count_insertInto_of_fresh {bucket : List CachedRule}
    (h : ∀ r ∈ bucket, r.id ≠ rule.id) (r : CachedRule) :
    (insertInto bucket rule).count r = bucket.count r + [rule].count r := by
  unfold insertInto
  rw [findIdx?_eq_none_iff.mpr, count_append]
  intro r hr
  simp [h r hr]

theorem RuleDefinitions.all_insertRule {defs : RuleDefinitions}
    (h : ∀ r ∈ defs.all, r.id ≠ rule.id) :
    (defs.insertRule rule).all.Perm (defs.all ++ [rule]) ∨ (defs.insertRule rule).all = defs.all := by
  simp only [all, mem_append] at h
  have hglobal := count_insertInto_of_fresh fun r hr => h r (.inl (.inl (.inl hr)))
  have hblueprint := count_insertInto_of_fresh fun r hr => h r (.inl (.inl (.inr hr)))
  have hfleet := count_insertInto_of_fresh fun r hr => h r (.inl (.inr hr))
  have hdevice := count_insertInto_of_fresh fun r hr => h r (.inr hr)
  unfold insertRule
  cases compileTargetType rule.targetType with
  | none => exact .inr rfl
  | some target =>
    left
    rw [perm_iff_count]
    intro r
    cases target <;>
      · simp only [all, count_append, hglobal, hblueprint, hfleet, hdevice]
        omega

/-- No two rules of an index share an id. -/
def RuleCache.Distinct (cache : RuleCache) : Prop := (cache.definitions.all.map CachedRule.id).Nodup

theorem RuleDefinitions.all_foldl_insertRule {rules : List CachedRule} (defs : RuleDefinitions)
    (h : ((defs.all ++ rules).map CachedRule.id).Nodup) :
    ((rules.foldl insertRule defs).all.map CachedRule.id).Nodup := by
  induction rules generalizing defs with
  | nil => simpa using h
  | cons rule rules ih =>
    have hfresh : ∀ r ∈ defs.all, r.id ≠ rule.id := by
      intro r hr hid
      rw [map_append, nodup_append] at h
      exact h.2.2 r.id (mem_map_of_mem hr) r.id (by simp [hid]) rfl
    refine ih (defs.insertRule rule) ?_
    rcases all_insertRule hfresh with hperm | heq
    · refine (((hperm.append_right rules).map CachedRule.id).nodup_iff).mpr ?_
      rwa [append_assoc]
    · rw [heq]
      exact h.sublist (((sublist_cons_self rule rules).append_left _).map _)

theorem RuleSnapshotRecords.compile_distinct {records : RuleSnapshotRecords}
    (h : (records.rules.map CachedRule.id).Nodup) : records.compile.Distinct :=
  all_foldl_insertRule default h

theorem RuleCache.rulesForTenantDevice_sublist (cache : RuleCache) (tenantId deviceId : String)
    (fleetId blueprintId : Option String) :
    (cache.rulesForTenantDevice tenantId deviceId fleetId blueprintId).Sublist
      cache.definitions.all := by
  have happlicable : (cache.definitions.globalRules.filter (fun rule => rule.tenantId = tenantId) ++
      (blueprintId.elim [] fun id => cache.definitions.byBlueprint.filter fun rule =>
        rule.tenantId = tenantId ∧ rule.targetId = some id) ++
      (fleetId.elim [] fun id => cache.definitions.byFleet.filter fun rule =>
        rule.tenantId = tenantId ∧ rule.targetId = some id) ++
      cache.definitions.byDevice.filter fun rule =>
        rule.tenantId = tenantId ∧ rule.targetId = some deviceId).Sublist
        cache.definitions.all := by
    refine (((List.Sublist.append ?_ ?_).append ?_).append ?_)
    · exact filter_sublist
    · cases blueprintId
      · exact nil_sublist _
      · exact filter_sublist
    · cases fleetId
      · exact nil_sublist _
      · exact filter_sublist
    · exact filter_sublist
  unfold rulesForTenantDevice
  cases cache.ruleAllowlist with
  | none => cases blueprintId <;> cases fleetId <;> exact happlicable
  | some ids =>
    cases blueprintId <;> cases fleetId <;> exact filter_sublist.trans happlicable

theorem RuleCache.tenantId_of_mem {cache : RuleCache} {tenantId deviceId : String}
    {fleetId blueprintId : Option String}
    (h : rule ∈ cache.rulesForTenantDevice tenantId deviceId fleetId blueprintId) :
    rule.tenantId = tenantId := by
  have happlicable : ∀ ids, rule ∈ ({ cache with ruleAllowlist := ids } : RuleCache).rulesForTenantDevice
      tenantId deviceId fleetId blueprintId → rule.tenantId = tenantId := by
    intro ids
    unfold rulesForTenantDevice
    cases ids <;> cases blueprintId <;> cases fleetId <;>
      · simp only [mem_append, List.mem_filter, append_nil, decide_eq_true_eq]
        tauto
  exact happlicable cache.ruleAllowlist h

end

/-- The ways a rule answers a verdict: what it emits, and what it read to do so. -/
inductive Responds (cache : RuleCache) (rule : CachedRule) (deviceId : String) (now : ℤ) :
    List PendingAction → Prop
  | silent : Responds cache rule deviceId now []
  | update (alertId value : String) (hne : alertId ≠ "")
      (h : cache.activeAlerts (rule.tenantId, rule.id, deviceId) = some alertId) :
      Responds cache rule deviceId now [.updateAlertValue rule.tenantId alertId value]
  | resolve (alertId : String) (hne : alertId ≠ "")
      (h : cache.activeAlerts (rule.tenantId, rule.id, deviceId) = some alertId) :
      Responds cache rule deviceId now [.resolveAlert rule.tenantId alertId]
  | fire (firing : Firing) (h : cache.activeAlerts (rule.tenantId, rule.id, deviceId) = none)
      (hcooldown : isInCooldownForTenantAt cache rule.tenantId rule.id deviceId
        rule.cooldownSeconds now = false) :
      Responds cache rule deviceId now (fire rule deviceId now firing)

theorem respond_responds (cache : RuleCache) (rule : CachedRule) (deviceId : String) (now : ℤ)
    (conditionsMet recovered : Bool) (currentValue : String) (firing : Firing) :
    Responds cache rule deviceId now
      (respond cache rule deviceId now conditionsMet recovered currentValue firing) := by
  unfold respond
  cases conditionsMet with
  | true =>
    simp only [if_true]
    split
    next alertId halert =>
      split
      · exact .silent
      next hne => exact .update alertId currentValue hne halert
    next hnone =>
      split
      · exact .silent
      next hcooldown => exact .fire firing hnone (by simpa using hcooldown)
  | false =>
    simp only [Bool.false_eq_true, if_false]
    split
    · split
      next alertId halert =>
        split
        · exact .silent
        next hne => exact .resolve alertId hne halert
      next => exact .silent
    · exact .silent

variable {cache : RuleCache} {rule : CachedRule} {deviceId : String} {firing : Firing}

theorem respond_not_met {alertId : String}
    (h : cache.activeAlerts (rule.tenantId, rule.id, deviceId) = some alertId) (hne : alertId ≠ "")
    (now : ℤ) (currentValue : String) (firing : Firing) :
    respond cache rule deviceId now false true currentValue firing =
      [.resolveAlert rule.tenantId alertId] := by
  simp [respond, h, hne]

theorem respond_false {now : ℤ} {recovered : Bool} {currentValue : String} {action : PendingAction}
    (h : action ∈ respond cache rule deviceId now false recovered currentValue firing) :
    ∃ alertId, action = .resolveAlert rule.tenantId alertId := by
  simp only [respond, Bool.false_eq_true, if_false] at h
  split at h
  · split at h
    next alertId _ =>
      split at h
      · cases h
      · exact ⟨alertId, mem_singleton.mp h⟩
    next => cases h
  · cases h

theorem createAlert_mem_fire {now : ℤ}
    {tenantId ruleId device severity message : String} {value : Option String}
    (h : .createAlert tenantId ruleId device severity message value ∈ fire rule deviceId now firing) :
    tenantId = rule.tenantId ∧ ruleId = rule.id ∧ device = deviceId := by
  rcases mem_append.mp h with h | h
  · obtain ⟨compiled, -, heq⟩ := mem_map.mp h
    unfold firedAction at heq
    split at heq <;> cases heq
    exact ⟨rfl, rfl, rfl⟩
  · cases mem_singleton.mp h

def CooldownRecord.key (c : CooldownRecord) : RuleDeviceKey := (c.tenantId, c.ruleId, c.deviceId)

/-- Webhooks and commands, which leave the platform. -/
def PendingAction.isSend : PendingAction → Bool
  | .sendWebhook .. | .sendCommand .. => true
  | _ => false

def CachedRule.sendActions (rule : CachedRule) : ℕ :=
  (rule.actions.filterMap compileAction).countP fun action => action.kind ≠ .alert

namespace DeviceRuleEvaluation

variable {p : Platform} {plan : DeviceRuleEvaluation} {cache : RuleCache} {rule : CachedRule}

def geofenceAnswer (p : Platform) (plan : DeviceRuleEvaluation) (data : TelemetryData)
    (cache : RuleCache) (rule : CachedRule) : List PendingAction :=
  match validLocation data with
  | none => []
  | some (latitude, longitude) =>
    if compileTrigger rule.triggerType ≠ some .geofence then []
    else geofenceRuleActions p cache rule plan.deviceId plan.observedAt latitude longitude

def verdictAnswer (p : Platform) (plan : DeviceRuleEvaluation) (cache : RuleCache)
    (rule : CachedRule) (conditionsMet : Bool) : List PendingAction :=
  match plan.input with
  | .status change =>
    respond cache rule plan.deviceId plan.observedAt conditionsMet true change.newStatus
      (statusFiring p change rule plan.deviceId plan.observedAt)
  | .telemetry data _ =>
    respond cache rule plan.deviceId plan.observedAt conditionsMet true
      ((triggeredValueFor p rule.conditions data).getD "")
      (telemetryFiring p data rule plan.deviceId plan.observedAt)

/-- Whether the observation met the conditions of a telemetry or status rule;
nothing when the rule was not evaluated. -/
def verdict (p : Platform) (plan : DeviceRuleEvaluation) (rule : CachedRule) : Option Bool :=
  match plan.input with
  | .status change => statusVerdict p change rule
  | .telemetry data _ => telemetryVerdict p plan.blueprintId plan.blueprintRevisionId data rule

def answer (p : Platform) (plan : DeviceRuleEvaluation) (cache : RuleCache) (rule : CachedRule) :
    List PendingAction :=
  (plan.verdict p rule).elim [] (plan.verdictAnswer p cache rule) ++
    match plan.input with
    | .telemetry data true => plan.geofenceAnswer p data cache rule
    | _ => []

/-- An observation emits the answers of the rules that apply to the device. -/
theorem actions_perm (p : Platform) (plan : DeviceRuleEvaluation) (cache : RuleCache) :
    (plan.actions p cache).Perm
      ((cache.rulesForTenantDevice plan.tenant plan.deviceId (plan.fleetId.map toString)
        plan.blueprintId).flatMap (plan.answer p cache)) := by
  cases hinput : plan.input with
  | status change =>
    apply List.Perm.of_eq
    simp only [actions, hinput, evaluateStatusChangeForTenantAt]
    congr 1
    funext rule
    simp only [answer, verdict, hinput, append_nil]
    cases statusVerdict p change rule <;> simp [verdictAnswer, hinput]
  | telemetry data geofence =>
    have htelemetry : evaluateTelemetryForTenantRevisionAt p plan.blueprintId
        plan.blueprintRevisionId data plan.tenant plan.deviceId plan.fleetId cache plan.observedAt =
        (cache.rulesForTenantDevice plan.tenant plan.deviceId (plan.fleetId.map toString)
          plan.blueprintId).flatMap fun rule =>
            (plan.verdict p rule).elim [] (plan.verdictAnswer p cache rule) := by
      simp only [evaluateTelemetryForTenantRevisionAt]
      congr 1
      funext rule
      simp only [verdict, hinput]
      cases telemetryVerdict p plan.blueprintId plan.blueprintRevisionId data rule <;>
        simp [verdictAnswer, hinput]
    cases geofence with
    | false =>
      have hanswer : plan.answer p cache = fun rule =>
          (plan.verdict p rule).elim [] (plan.verdictAnswer p cache rule) := by
        funext rule
        simp [answer, hinput]
      apply List.Perm.of_eq
      simp [actions, hinput, htelemetry, hanswer]
    | true =>
      have hgeofence : evaluateGeofenceForTenantAt p plan.tenant plan.deviceId plan.fleetId
          plan.blueprintId data cache plan.observedAt =
          (cache.rulesForTenantDevice plan.tenant plan.deviceId (plan.fleetId.map toString)
            plan.blueprintId).flatMap (plan.geofenceAnswer p data cache) := by
        unfold evaluateGeofenceForTenantAt geofenceAnswer
        cases validLocation data <;> simp
      have hanswer : plan.answer p cache = fun rule =>
          (plan.verdict p rule).elim [] (plan.verdictAnswer p cache rule) ++
            plan.geofenceAnswer p data cache rule := by
        funext rule
        simp [answer, hinput]
      simp only [actions, hinput, htelemetry, hgeofence, hanswer, if_true]
      exact flatMap_append_perm _ _ _

theorem verdict_of_geofence (h : compileTrigger rule.triggerType = some .geofence) :
    plan.verdict p rule = none := by
  unfold verdict
  split <;> simp [statusVerdict, telemetryVerdict, h]

theorem answer_of_not_geofence (h : compileTrigger rule.triggerType ≠ some .geofence) :
    plan.answer p cache rule =
      (plan.verdict p rule).elim [] (plan.verdictAnswer p cache rule) := by
  unfold answer
  split
  next data _ =>
    unfold geofenceAnswer
    split <;> simp [h]
  next => exact append_nil _

theorem geofenceRuleActions_responds (p : Platform) (cache : RuleCache) (rule : CachedRule)
    (deviceId : String) (now : ℤ) (latitude longitude : F64) :
    ∃ zone body, geofenceRuleActions p cache rule deviceId now latitude longitude = zone ++ body ∧
      (∀ action ∈ zone, ∃ time, action = .updateZoneEntry rule.tenantId rule.id deviceId time) ∧
      Responds cache rule deviceId now body := by
  unfold geofenceRuleActions
  split
  · exact ⟨[], [], rfl, by simp, .silent⟩
  · refine ⟨_, _, rfl, ?_, respond_responds _ _ _ _ _ _ _ _⟩
    intro action haction
    split at haction
    · exact ⟨_, mem_singleton.mp haction⟩
    · split at haction
      · exact ⟨_, mem_singleton.mp haction⟩
      · cases haction

/-- A rule answers with zone mutations, then in one of the four ways. -/
theorem answer_responds (p : Platform) (plan : DeviceRuleEvaluation) (cache : RuleCache)
    (rule : CachedRule) :
    ∃ zone body, plan.answer p cache rule = zone ++ body ∧
      (∀ action ∈ zone, ∃ time, action = .updateZoneEntry rule.tenantId rule.id plan.deviceId time) ∧
      Responds cache rule plan.deviceId plan.observedAt body := by
  have hverdict : ∀ met, Responds cache rule plan.deviceId plan.observedAt
      (plan.verdictAnswer p cache rule met) := by
    intro met
    unfold verdictAnswer
    split <;> exact respond_responds _ _ _ _ _ _ _ _
  by_cases htrigger : compileTrigger rule.triggerType = some .geofence
  · rw [answer, verdict_of_geofence htrigger, Option.elim_none, nil_append]
    split
    next data _ =>
      unfold geofenceAnswer
      split
      · exact ⟨[], [], rfl, by simp, .silent⟩
      · rw [if_neg (not_not.mpr htrigger)]
        exact geofenceRuleActions_responds _ _ _ _ _ _ _
    next => exact ⟨[], [], rfl, by simp, .silent⟩
  · rw [answer_of_not_geofence htrigger]
    refine ⟨[], _, (nil_append _).symm, by simp, ?_⟩
    cases plan.verdict p rule with
    | none => exact .silent
    | some met => exact hverdict met

theorem cooldowns_fire (rule : CachedRule) (deviceId : String) (now : ℤ) (firing : Firing) :
    (fire rule deviceId now firing).filterMap cooldown? =
      [⟨rule.tenantId, rule.id, deviceId, now⟩] := by
  have hactions : ((rule.actions.filterMap compileAction).map
      (firedAction rule deviceId firing)).filterMap cooldown? = [] := by
    rw [filterMap_eq_nil_iff]
    intro action haction
    obtain ⟨compiled, -, rfl⟩ := mem_map.mp haction
    unfold firedAction
    split <;> rfl
  rw [fire, filterMap_append, hactions]
  rfl

theorem createAlert_mem_answer {tenantId ruleId device severity message : String}
    {value : Option String}
    (h : .createAlert tenantId ruleId device severity message value ∈ plan.answer p cache rule) :
    tenantId = rule.tenantId ∧ ruleId = rule.id ∧ device = plan.deviceId ∧
      cache.activeAlerts (rule.tenantId, rule.id, plan.deviceId) = none ∧
      (compileTrigger rule.triggerType ≠ some .geofence → plan.verdict p rule = some true) := by
  obtain ⟨zone, body, heq, hzone, hbody⟩ := plan.answer_responds p cache rule
  have hmem := h
  rw [heq] at hmem
  rcases mem_append.mp hmem with hz | hb
  · obtain ⟨_, hentry⟩ := hzone _ hz
    cases hentry
  · cases hbody with
    | silent => cases hb
    | update | resolve => cases mem_singleton.mp hb
    | fire firing hnone _ =>
      obtain ⟨ht, hr, hd⟩ := createAlert_mem_fire hb
      refine ⟨ht, hr, hd, hnone, fun htrigger => ?_⟩
      rw [answer_of_not_geofence htrigger] at h
      cases hverdict : plan.verdict p rule with
      | none => simp [hverdict] at h
      | some met =>
        cases met with
        | true => rfl
        | false =>
          simp only [hverdict, Option.elim_some, verdictAnswer] at h
          split at h <;>
            · obtain ⟨_, hresolve⟩ := respond_false h
              cases hresolve

theorem answer_sends (p : Platform) (plan : DeviceRuleEvaluation) (cache : RuleCache)
    (rule : CachedRule) :
    ((plan.answer p cache rule).filter isSend).length ≤ rule.sendActions := by
  obtain ⟨zone, body, heq, hzone, hbody⟩ := plan.answer_responds p cache rule
  have hmutations : zone.filter isSend = [] := by
    rw [filter_eq_nil_iff]
    intro action haction
    obtain ⟨_, rfl⟩ := hzone action haction
    simp [isSend]
  rw [heq, filter_append, hmutations, nil_append]
  cases hbody with
  | silent | update | resolve => exact Nat.zero_le _
  | fire firing _ _ =>
    rw [fire, filter_append, filter_map, length_append, length_map,
      ← countP_eq_length_filter]
    refine (Nat.add_zero _).trans_le (countP_mono_left fun action _ hsend => ?_)
    simp only [Function.comp_apply, firedAction] at hsend
    split at hsend <;> simp_all [isSend]

variable {action : PendingAction}

/-- A rule with an alert action asks for the alert whenever it sends. -/
theorem createAlert_of_send (h : action ∈ plan.answer p cache rule) (hsend : action.isSend)
    (halert : ∃ a ∈ rule.actions.filterMap compileAction, a.kind = .alert) :
    ∃ severity message value, .createAlert rule.tenantId rule.id plan.deviceId severity message
      value ∈ plan.answer p cache rule := by
  obtain ⟨zone, body, heq, hzone, hbody⟩ := plan.answer_responds p cache rule
  rw [heq] at h ⊢
  rcases mem_append.mp h with hz | hb
  · obtain ⟨_, rfl⟩ := hzone action hz
    cases hsend
  · cases hbody with
    | silent => cases hb
    | update | resolve =>
      rw [mem_singleton.mp hb] at hsend
      cases hsend
    | fire firing _ _ =>
      obtain ⟨a, ha, hkind⟩ := halert
      have hfired : firedAction rule plan.deviceId firing a ∈
          fire rule plan.deviceId plan.observedAt firing :=
        mem_append_left _ (mem_map_of_mem ha)
      simp only [firedAction, hkind] at hfired
      exact ⟨_, _, _, mem_append_right _ hfired⟩

theorem answer_cooldowns (p : Platform) (plan : DeviceRuleEvaluation) (cache : RuleCache)
    (rule : CachedRule) :
    (plan.answer p cache rule).filterMap cooldown? = [] ∨
    ((plan.answer p cache rule).filterMap cooldown? =
        [⟨rule.tenantId, rule.id, plan.deviceId, plan.observedAt⟩] ∧
      cache.activeAlerts (rule.tenantId, rule.id, plan.deviceId) = none ∧
      isInCooldownForTenantAt cache rule.tenantId rule.id plan.deviceId rule.cooldownSeconds
        plan.observedAt = false) := by
  obtain ⟨zone, body, heq, hzone, hbody⟩ := plan.answer_responds p cache rule
  have hmutations : zone.filterMap cooldown? = [] := by
    refine filterMap_eq_nil_iff.mpr fun action haction => ?_
    obtain ⟨_, rfl⟩ := hzone action haction
    rfl
  rw [heq, filterMap_append, hmutations, nil_append]
  cases hbody with
  | silent | update | resolve => exact .inl rfl
  | fire firing hnone hcooldown => exact .inr ⟨cooldowns_fire _ _ _ _, hnone, hcooldown⟩

variable {runtime : DeviceRuleRuntime}

theorem liveRules_sublist (plan : DeviceRuleEvaluation) (runtime : DeviceRuleRuntime) :
    (plan.liveRules runtime).Sublist plan.snapshot.definitions.all :=
  RuleCache.rulesForTenantDevice_sublist _ _ _ _ _

theorem liveRules_nodup (h : plan.snapshot.Distinct) :
    ((plan.liveRules runtime).map CachedRule.id).Nodup :=
  List.Nodup.sublist ((plan.liveRules_sublist runtime).map _) h

theorem tenantId_of_liveRules (h : rule ∈ plan.liveRules runtime) : rule.tenantId = plan.tenant :=
  RuleCache.tenantId_of_mem h

theorem mem_deliveries :
    action ∈ (plan.decide p runtime).deliveries ↔ action.isDelivery ∧
      ∃ rule ∈ plan.liveRules runtime, action ∈ plan.answer p (plan.runtimeCache runtime) rule := by
  rw [decide, List.mem_filter, (plan.actions_perm p _).mem_iff, mem_flatMap]
  exact and_comm

theorem lastFiredAt_of_mem {c : CooldownRecord} (h : c ∈ (plan.decide p runtime).cooldowns) :
    c.lastFiredAt = plan.observedAt := by
  rw [decide, ((plan.actions_perm p _).filterMap _).mem_iff, filterMap_flatMap,
    mem_flatMap] at h
  obtain ⟨rule, -, hc⟩ := h
  rcases plan.answer_cooldowns p (plan.runtimeCache runtime) rule with hnil | ⟨hone, -, -⟩
  · rw [hnil] at hc
    cases hc
  · rw [hone] at hc
    rw [mem_singleton.mp hc]

/-- Cooldowns enter a decision only through the rules they hold back. -/
theorem decide_congr_cooldowns (p : Platform) {cooldowns : RuleDeviceKey → Option ℤ}
    (h : ∀ rule ∈ plan.liveRules runtime,
      isInCooldownForTenantAt (plan.runtimeCache { runtime with cooldowns := cooldowns })
        rule.tenantId rule.id plan.deviceId rule.cooldownSeconds plan.observedAt =
      isInCooldownForTenantAt (plan.runtimeCache runtime) rule.tenantId rule.id plan.deviceId
        rule.cooldownSeconds plan.observedAt) :
    plan.decide p { runtime with cooldowns := cooldowns } = plan.decide p runtime := by
  have hrespond : ∀ rule ∈ plan.liveRules runtime, ∀ met recovered value firing,
      respond (plan.runtimeCache { runtime with cooldowns := cooldowns }) rule plan.deviceId
        plan.observedAt met recovered value firing =
      respond (plan.runtimeCache runtime) rule plan.deviceId plan.observedAt met recovered value
        firing := by
    intro rule hrule met recovered value firing
    simp only [respond, h rule hrule]
    rfl
  have hactions : plan.actions p (plan.runtimeCache { runtime with cooldowns := cooldowns }) =
      plan.actions p (plan.runtimeCache runtime) := by
    unfold actions
    split
    next change _ =>
      refine flatMap_congr fun rule hrule => ?_
      simp only [hrespond rule hrule]
    next data geofence _ =>
      congr 1
      · refine flatMap_congr fun rule hrule => ?_
        simp only [hrespond rule hrule]
      · congr 1
        unfold evaluateGeofenceForTenantAt
        split
        · rfl
        · refine flatMap_congr fun rule hrule => ?_
          simp only [geofenceRuleActions, hrespond rule hrule]
          rfl
  simp only [decide, hactions]

/-- A decision fires a rule at most once, and only outside its cooldown and
while it has no open alert. -/
theorem cooldowns_of_key (p : Platform) (hdistinct : plan.snapshot.Distinct) (key : RuleDeviceKey) :
    (plan.decide p runtime).cooldowns.filter (fun c => c.key = key) = [] ∨
    ∃ rule ∈ plan.liveRules runtime, (rule.tenantId, rule.id, plan.deviceId) = key ∧
      (plan.decide p runtime).cooldowns.filter (fun c => c.key = key) =
        [⟨rule.tenantId, rule.id, plan.deviceId, plan.observedAt⟩] ∧
      runtime.activeAlerts key = none ∧
      isInCooldownForTenantAt (plan.runtimeCache runtime) rule.tenantId rule.id plan.deviceId
        rule.cooldownSeconds plan.observedAt = false := by
  let fired := fun rule => ((plan.answer p (plan.runtimeCache runtime) rule).filterMap
    PendingAction.cooldown?).filter fun c => c.key = key
  have hperm : ((plan.decide p runtime).cooldowns.filter fun c => c.key = key).Perm
      ((plan.liveRules runtime).flatMap fired) := by
    have h := ((plan.actions_perm p (plan.runtimeCache runtime)).filterMap
      PendingAction.cooldown?).filter fun c => c.key = key
    rwa [filterMap_flatMap, filter_flatMap] at h
  have hother : ∀ rule ∈ plan.liveRules runtime, rule.id ≠ key.2.1 → fired rule = [] := by
    intro rule _ hne
    rcases plan.answer_cooldowns p (plan.runtimeCache runtime) rule with hnil | ⟨hone, -, -⟩
    · simp [fired, hnil]
    · simp only [fired, hone, filter_eq_nil_iff, mem_singleton]
      rintro _ rfl
      simpa [CooldownRecord.key, Prod.ext_iff] using fun _ h => absurd h hne
  rcases flatMap_eq_of_nodup (liveRules_nodup hdistinct) hother with hnil | ⟨rule, hrule, hid, heq⟩
  · rw [hnil] at hperm
    exact .inl hperm.eq_nil
  · rw [heq] at hperm
    rcases plan.answer_cooldowns p (plan.runtimeCache runtime) rule with
      hnil | ⟨hone, hnone, hcooldown⟩
    · exact .inl (by simpa [fired, hnil] using hperm)
    · by_cases hkey : (rule.tenantId, rule.id, plan.deviceId) = key
      · refine .inr ⟨rule, hrule, hkey, ?_, hkey ▸ hnone, hcooldown⟩
        have hsingle : fired rule = [⟨rule.tenantId, rule.id, plan.deviceId, plan.observedAt⟩] := by
          simp [fired, hone, CooldownRecord.key, hkey]
        rw [hsingle] at hperm
        exact perm_singleton.mp hperm
      · left
        have hnil : fired rule = [] := by simp [fired, hone, CooldownRecord.key, hkey]
        rw [hnil] at hperm
        exact hperm.eq_nil

end DeviceRuleEvaluation

end Extrittio
