import Extrittio.Library.Selection
import Extrittio.RuleEngine.Confinement
import Extrittio.RuleSystem

/-!
Zone entries of geofence rules. An entry is written when a device is first seen
inside the zone of a rule and deleted when it is seen outside, so it dates the
current run of inside locations; dwell and exit rules fire by it.
-/
namespace Extrittio

open Relational Transition List Option DeviceRuleEvaluation Evaluation Store

namespace CachedRule

/-- A geofence rule for devices inside its zone; otherwise for devices that left it. -/
def targetInside (rule : CachedRule) : Bool :=
  (rule.conditions.find? fun c => c.field = "zone_state").any fun c => c.value = "inside"

def dwellSeconds (rule : CachedRule) : ℤ :=
  ((rule.conditions.find? fun c => c.field = "dwell_seconds").bind
    fun c => parseI64 c.value).getD 0

end CachedRule

namespace DeviceRuleEvaluation

variable {p : Platform} {plan : DeviceRuleEvaluation} {runtime : DeviceRuleRuntime}
  {rule : CachedRule}

/-- Whether an observation saw the device inside the zone of a geofence rule;
nothing when it does not locate the device against the rule. -/
def inside (p : Platform) (plan : DeviceRuleEvaluation) (rule : CachedRule) : Option Bool :=
  match plan.input with
  | .telemetry data true => do
    let (latitude, longitude) ← validLocation data
    if compileTrigger rule.triggerType ≠ some .geofence then none
    let zone ← (rule.conditions.head?.bind (·.zoneId)).bind plan.snapshot.definitions.zones
    return p.pointInZone latitude longitude zone.geometry
  | _ => none

theorem input_of_inside {isInside : Bool} (h : plan.inside p rule = some isInside) :
    ∃ data, plan.input = .telemetry data true := by
  unfold inside at h
  split at h
  next data hinput => exact ⟨data, hinput⟩
  next => cases h

/-- What a geofence rule does at a location: the mutation of its zone entry, and
the answer to its verdict. -/
theorem answer_of_geofence (htrigger : compileTrigger rule.triggerType = some .geofence) :
    (plan.inside p rule = none ∧ plan.answer p (plan.runtimeCache runtime) rule = []) ∨
    ∃ isInside value firing, plan.inside p rule = some isInside ∧
      plan.answer p (plan.runtimeCache runtime) rule =
        (if isInside && !(runtime.zoneEntries (rule.tenantId, rule.id, plan.deviceId)).isSome then
          [.updateZoneEntry rule.tenantId rule.id plan.deviceId (some plan.observedAt)]
        else if !isInside && (runtime.zoneEntries (rule.tenantId, rule.id, plan.deviceId)).isSome
        then [.updateZoneEntry rule.tenantId rule.id plan.deviceId none]
        else []) ++
        respond (plan.runtimeCache runtime) rule plan.deviceId plan.observedAt
          ((isInside == rule.targetInside) &&
            if rule.targetInside then rule.dwellSeconds = 0 ||
              (runtime.zoneEntries (rule.tenantId, rule.id, plan.deviceId)).any fun enteredAt =>
                numSeconds (plan.observedAt - enteredAt) ≥ rule.dwellSeconds
            else (runtime.zoneEntries (rule.tenantId, rule.id, plan.deviceId)).isSome ||
              (runtime.activeAlerts (rule.tenantId, rule.id, plan.deviceId)).isSome)
          (!(isInside == rule.targetInside)) value firing := by
  unfold answer inside
  rw [verdict_of_geofence htrigger, elim_none, nil_append]
  cases plan.input with
  | status change => exact .inl ⟨rfl, rfl⟩
  | telemetry data geofence =>
    cases geofence with
    | false => exact .inl ⟨rfl, rfl⟩
    | true =>
      simp only [geofenceAnswer]
      cases hlocation : validLocation data with
      | none => exact .inl ⟨rfl, rfl⟩
      | some location =>
        obtain ⟨latitude, longitude⟩ := location
        simp only [htrigger, ne_eq, not_true_eq_false, if_false]
        cases hzone : (rule.conditions.head?.bind (·.zoneId)).bind
            plan.snapshot.definitions.zones with
        | none =>
          have hcache : (rule.conditions.head?.bind (·.zoneId)).bind
              (plan.runtimeCache runtime).definitions.zones = none := hzone
          exact .inl ⟨rfl, by rw [geofenceRuleActions, hcache]⟩
        | some zone =>
          have hcache : (rule.conditions.head?.bind (·.zoneId)).bind
              (plan.runtimeCache runtime).definitions.zones = some zone := hzone
          refine .inr ⟨p.pointInZone latitude longitude zone.geometry,
            s!"{p.displayF64 latitude},{p.displayF64 longitude}",
            geofenceFiring p rule zone rule.targetInside plan.deviceId plan.observedAt latitude
              longitude, rfl, ?_⟩
          rw [geofenceRuleActions, hcache]
          rfl

theorem respond_zoneEntries (cache : RuleCache) (rule : CachedRule) (deviceId : String) (now : ℤ)
    (conditionsMet recovered : Bool) (currentValue : String) (firing : Firing) :
    (respond cache rule deviceId now conditionsMet recovered currentValue firing).filterMap
      PendingAction.zoneEntry? = [] := by
  have hbody := respond_responds cache rule deviceId now conditionsMet recovered currentValue firing
  generalize respond cache rule deviceId now conditionsMet recovered currentValue firing = body
    at hbody ⊢
  cases hbody with
  | silent | update | resolve => rfl
  | fire firing =>
    rw [filterMap_eq_nil_iff]
    intro action haction
    rcases mem_append.mp haction with hfired | hcooldown
    · obtain ⟨compiled, -, rfl⟩ := List.mem_map.mp hfired
      unfold firedAction
      split <;> rfl
    · rw [mem_singleton.mp hcooldown]
      rfl

theorem answer_zoneEntries (htrigger : compileTrigger rule.triggerType = some .geofence) :
    (plan.answer p (plan.runtimeCache runtime) rule).filterMap PendingAction.zoneEntry? =
      match plan.inside p rule,
        (runtime.zoneEntries (rule.tenantId, rule.id, plan.deviceId)).isSome with
      | some true, false => [⟨rule.tenantId, rule.id, plan.deviceId, some plan.observedAt⟩]
      | some false, true => [⟨rule.tenantId, rule.id, plan.deviceId, none⟩]
      | _, _ => [] := by
  rcases answer_of_geofence htrigger with ⟨hinside, hanswer⟩ | ⟨isInside, _, _, hinside, hanswer⟩
  · rw [hinside, hanswer]
    rfl
  · rw [hinside, hanswer, filterMap_append, respond_zoneEntries, append_nil]
    cases isInside <;>
      cases (runtime.zoneEntries (rule.tenantId, rule.id, plan.deviceId)).isSome <;> rfl

/-- A geofence rule fires where its zone state is met: inside for long enough, or
outside after an entry or under an open alert. -/
theorem inside_of_firing (htrigger : compileTrigger rule.triggerType = some .geofence)
    {tenantId ruleId deviceId : String} {firedAt : ℤ}
    (h : .updateCooldown tenantId ruleId deviceId firedAt ∈
      plan.answer p (plan.runtimeCache runtime) rule) :
    plan.inside p rule = some rule.targetInside ∧
      (rule.targetInside → rule.dwellSeconds = 0 ∨
        ∃ enteredAt, runtime.zoneEntries (rule.tenantId, rule.id, plan.deviceId) = some enteredAt ∧
          rule.dwellSeconds ≤ numSeconds (plan.observedAt - enteredAt)) ∧
      (rule.targetInside = false →
        (runtime.zoneEntries (rule.tenantId, rule.id, plan.deviceId)).isSome ∨
          (runtime.activeAlerts (rule.tenantId, rule.id, plan.deviceId)).isSome) := by
  rcases answer_of_geofence htrigger with ⟨-, hanswer⟩ | ⟨isInside, _, _, hinside, hanswer⟩
  · rw [hanswer] at h
    cases h
  rw [hanswer] at h
  rcases mem_append.mp h with hmutation | hrespond
  · split at hmutation
    · cases mem_singleton.mp hmutation
    · split at hmutation
      · cases mem_singleton.mp hmutation
      · cases hmutation
  · generalize hmet : ((isInside == rule.targetInside) && _) = met at hrespond
    cases met with
    | false =>
      obtain ⟨_, hresolve⟩ := respond_false hrespond
      cases hresolve
    | true =>
      simp only [Bool.and_eq_true, beq_iff_eq] at hmet
      obtain ⟨rfl, hmet⟩ := hmet
      refine ⟨hinside, fun htarget => ?_, fun htarget => ?_⟩
      · rw [htarget, if_pos rfl] at hmet
        simpa [Option.any_eq_true] using hmet
      · rw [htarget, if_neg Bool.false_ne_true] at hmet
        simpa using hmet

theorem filterMap_actions_of_mem {β : Type} {f : PendingAction → Option β} {key : β → RuleDeviceKey}
    (hkey : ∀ action rule, action.Names runtime rule plan.deviceId → ∀ b ∈ f action,
      key b = (rule.tenantId, rule.id, plan.deviceId))
    (hdistinct : plan.snapshot.Distinct) (hrule : rule ∈ plan.liveRules runtime) :
    (((plan.actions p (plan.runtimeCache runtime)).filterMap f).filter
      fun b => key b = (rule.tenantId, rule.id, plan.deviceId)).Perm
        ((plan.answer p (plan.runtimeCache runtime) rule).filterMap f) := by
  let fired := fun r => ((plan.answer p (plan.runtimeCache runtime) r).filterMap f).filter
    fun b => key b = (rule.tenantId, rule.id, plan.deviceId)
  have hperm : (((plan.actions p (plan.runtimeCache runtime)).filterMap f).filter
      fun b => key b = (rule.tenantId, rule.id, plan.deviceId)).Perm
        ((plan.liveRules runtime).flatMap fired) := by
    have h := ((plan.actions_perm p (plan.runtimeCache runtime)).filterMap f).filter
      fun b => key b = (rule.tenantId, rule.id, plan.deviceId)
    rwa [filterMap_flatMap, filter_flatMap] at h
  have hnames : ∀ r, ∀ b ∈ (plan.answer p (plan.runtimeCache runtime) r).filterMap f,
      key b = (r.tenantId, r.id, plan.deviceId) := by
    intro r b hb
    obtain ⟨action, haction, hf⟩ := mem_filterMap.mp hb
    exact hkey action r (names_of_answer haction) b hf
  have hself : fired rule = (plan.answer p (plan.runtimeCache runtime) rule).filterMap f :=
    filter_eq_self.mpr fun b hb => decide_eq_true (hnames rule b hb)
  have hother : ∀ r ∈ plan.liveRules runtime, r.id ≠ rule.id → fired r = [] := by
    intro r _ hne
    rw [filter_eq_nil_iff]
    intro b hb heq
    rw [decide_eq_true_eq, hnames r b hb] at heq
    exact hne (Prod.mk.inj (Prod.mk.inj heq).2).1
  rw [← hself]
  refine hperm.trans (List.Perm.of_eq ?_)
  rcases flatMap_eq_of_nodup (liveRules_nodup hdistinct) hother with hnil | ⟨r, hr, hid, heq⟩
  · rw [hnil, flatMap_eq_nil_iff.mp hnil rule hrule]
  · rw [heq, inj_on_of_nodup_map (liveRules_nodup hdistinct) hr hrule hid]

theorem filterMap_actions_of_not_mem {β : Type} {f : PendingAction → Option β}
    {key : β → RuleDeviceKey} {k : RuleDeviceKey}
    (hkey : ∀ action rule, action.Names runtime rule plan.deviceId → ∀ b ∈ f action,
      key b = (rule.tenantId, rule.id, plan.deviceId))
    (h : ∀ rule ∈ plan.liveRules runtime, (rule.tenantId, rule.id, plan.deviceId) ≠ k) :
    ((plan.actions p (plan.runtimeCache runtime)).filterMap f).filter (fun b => key b = k) = [] := by
  rw [filter_eq_nil_iff]
  intro b hb heq
  obtain ⟨action, haction, hf⟩ := mem_filterMap.mp hb
  obtain ⟨rule, htenant, hlive, htargets, -, hnames⟩ := stems_of_actions haction
  exact h rule (mem_liveRules.mpr ⟨htenant, hlive, htargets⟩)
    ((hkey action rule hnames b hf).symm.trans (of_decide_eq_true heq))

end DeviceRuleEvaluation

def ZoneEntryMutation.key (m : ZoneEntryMutation) : RuleDeviceKey :=
  (m.tenantId, m.ruleId, m.deviceId)

namespace Store

variable {p : Platform} {uuid : ℕ → String} {now : ℤ} {tenant device : String} {s s' : Store}

def entered (s : Store) (key : RuleDeviceKey) : Option ℤ :=
  (s.zoneEntries.find? key).map ZoneEntryRow.enteredAt

theorem entered_writeZoneEntry {entry : ZoneEntryMutation} (h : s.writeZoneEntry entry = .ok s')
    (key : RuleDeviceKey) :
    s'.entered key =
      if entry.key = key then entry.enteredAt.map timestampMicros else s.entered key := by
  unfold writeZoneEntry at h
  cases henteredAt : entry.enteredAt with
  | none =>
    simp only [henteredAt] at h
    cases h
    unfold entered
    split
    next hkey =>
      rw [Table.find?_eq_none.mpr]
      · rfl
      · intro r hr heq
        have hne := of_decide_eq_true (Table.mem_filter.mp hr).2
        exact hne (heq.trans hkey.symm)
    next hkey =>
      rw [Table.find?_filter_of_forall]
      intro r _ heq
      refine decide_eq_true fun hr => hkey ?_
      exact hr.symm.trans heq
  | some time =>
    simp only [henteredAt] at h
    split at h
    · cases h
    · cases h
      unfold entered
      split
      next hkey =>
        subst hkey
        refine (congrArg (Option.map ZoneEntryRow.enteredAt) Table.find?_upsert_self).trans ?_
        generalize s.zoneEntries.find? _ = stored
        cases stored <;> rfl
      next hkey =>
        refine congrArg (Option.map ZoneEntryRow.enteredAt) (Table.find?_upsert_of_ne ?_)
        exact fun heq => hkey heq.symm

/-- Of several mutations under one key the last one stays. -/
theorem entered_foldlM_writeZoneEntry {entries : List ZoneEntryMutation}
    (h : entries.foldlM writeZoneEntry s = .ok s') (key : RuleDeviceKey) :
    s'.entered key = (entries.filter fun m => m.key = key).foldl
      (fun _ m => m.enteredAt.map timestampMicros) (s.entered key) := by
  induction entries generalizing s with
  | nil =>
    cases h
    rfl
  | cons entry entries ih =>
    rw [foldlM_cons] at h
    obtain ⟨s₁, hentry, hrest⟩ := of_bind_ok h
    rw [ih hrest, entered_writeZoneEntry hentry key, filter_cons]
    by_cases hkey : entry.key = key <;> simp [hkey]

theorem observe_entered {plan : DeviceRuleEvaluation} {count : ℕ}
    (h : s.observe p uuid now tenant device (some plan) = .ok (s', count)) :
    ∃ prepared runtime, s.prepareEvaluation tenant device plan = .ok (prepared, runtime) ∧
      ∀ key, s'.entered key = ((prepared.decide p runtime).zoneEntries.filter
        fun m => m.key = key).foldl (fun _ m => m.enteredAt.map timestampMicros) (s.entered key) := by
  obtain ⟨⟨s₁, actions⟩, hevaluate, hrest⟩ := of_bind_ok h
  obtain ⟨⟨outbox, n⟩, -, hreturn⟩ := of_bind_ok hrest
  cases hreturn
  obtain ⟨⟨prepared, runtime⟩, hprepare, hwrite⟩ := of_bind_ok hevaluate
  obtain ⟨s₂, hdecision, hreturn⟩ := of_bind_ok hwrite
  cases hreturn
  refine ⟨prepared, runtime, hprepare, fun key => ?_⟩
  have hentered := entered_foldlM_writeZoneEntry hdecision key
  rw [foldl_writeCooldown] at hentered
  exact hentered

theorem zoneEntries_transitionCooldown (s : Store) (tenant : String) (tr : AlertTransition)
    (alert : AlertRow) (now : ℤ) :
    (s.transitionCooldown tenant tr alert now).zoneEntries = s.zoneEntries := by
  unfold transitionCooldown
  split <;> rfl

theorem zoneEntries_transitionFrom {id : String} {tr : AlertTransition} {now : ℤ}
    {outcome : AlertTransitionOutcome}
    (h : s.transitionFrom tenant id tr now = .ok (s', outcome)) :
    s'.zoneEntries = s.zoneEntries := by
  rcases transitionFrom_cases h with ⟨rfl, -⟩ | ⟨current, -, -, -, -, -, rfl⟩
  · rfl
  · exact zoneEntries_transitionCooldown _ _ _ _ _

end Store

theorem RuleDelivery.zoneEntries_attempt (p : Platform)
    (external : PendingAction → Except String Unit) (now : ℤ) (event : OutboxEventRecord)
    (s : Store) : (attempt p external now event s).1.zoneEntries = s.zoneEntries := by
  have heffect := attempt_effect p external now event s
  generalize (attempt p external now event s).1 = s' at heffect ⊢
  generalize (attempt p external now event s).2.1 = result at heffect
  cases heffect with
  | refused | sent | known | reused | created | updated => rfl
  | resolved => exact zoneEntries_transitionCooldown _ _ _ _ _

/-- When the current run of inside locations began; locations are newest first. -/
def insideSince (locations : List (Bool × ℤ)) : Option ℤ :=
  (locations.takeWhile (·.1)).getLast?.map (·.2)

@[simp] theorem insideSince_nil : insideSince [] = none := rfl

@[simp] theorem insideSince_cons_false (time : ℤ) (locations : List (Bool × ℤ)) :
    insideSince ((false, time) :: locations) = none := rfl

@[simp] theorem insideSince_cons_true (time : ℤ) (locations : List (Bool × ℤ)) :
    insideSince ((true, time) :: locations) = some ((insideSince locations).getD time) := by
  unfold insideSince
  rw [takeWhile_cons_of_pos rfl, getLast?_cons]
  cases (locations.takeWhile (·.1)).getLast? <;> rfl

theorem mem_of_insideSince {locations : List (Bool × ℤ)} {time : ℤ}
    (h : insideSince locations = some time) : (true, time) ∈ locations := by
  induction locations generalizing time with
  | nil => cases h
  | cons location locations ih =>
    obtain ⟨isInside, t⟩ := location
    cases isInside with
    | false => cases h
    | true =>
      rw [insideSince_cons_true, Option.some.injEq] at h
      cases hrest : insideSince locations with
      | none =>
        rw [hrest] at h
        cases h
        exact mem_cons_self
      | some since =>
        rw [hrest] at h
        cases h
        exact mem_cons_of_mem _ (ih hrest)

theorem insideSince_isSome (locations : List (Bool × ℤ)) :
    (insideSince locations).isSome ↔ locations.head?.map (·.1) = some true := by
  cases locations with
  | nil => simp
  | cons location locations =>
    obtain ⟨isInside, time⟩ := location
    cases isInside <;> simp

/-- Whether an evaluation saw the device inside the zone of the rule; nothing
if it did not locate the device against the rule. -/
def Evaluation.inside (p : Platform) (rule : CachedRule) (device : String) (e : Evaluation) :
    Option Bool :=
  if e.plan.deviceId = device ∧ rule ∈ e.plan.liveRules e.runtime then e.plan.inside p rule
  else none

theorem Evaluation.inside_eq_some {p : Platform} {rule : CachedRule} {device : String}
    {e : Evaluation} {isInside : Bool} :
    e.inside p rule device = some isInside ↔
      (e.plan.deviceId = device ∧ rule ∈ e.plan.liveRules e.runtime) ∧
        e.plan.inside p rule = some isInside := by
  unfold inside
  split <;> simp_all

/-- An evaluation fires a rule for a device. -/
def Evaluation.Fires (p : Platform) (rule : CachedRule) (device : String) (e : Evaluation) : Prop :=
  ∃ c ∈ (e.decision p).cooldowns, c.key = (rule.tenantId, rule.id, device)

/-- The evaluated locations of a device under a rule, with their times. -/
def locationsOf (p : Platform) (rule : CachedRule) (device : String)
    (evaluations : List Evaluation) : List (Bool × ℤ) :=
  evaluations.filterMap fun e =>
    (e.inside p rule device).map fun isInside => (isInside, e.plan.observedAt)

theorem locationsOf_cons (p : Platform) (rule : CachedRule) (device : String) (e : Evaluation)
    (evaluations : List Evaluation) :
    locationsOf p rule device (e :: evaluations) =
      ((e.inside p rule device).map fun isInside => (isInside, e.plan.observedAt)).toList ++
        locationsOf p rule device evaluations := by
  unfold locationsOf
  cases hinside : e.inside p rule device with
  | none => simp [hinside]
  | some isInside => simp [hinside]

namespace RuleSystem

variable {p : Platform} {rule : CachedRule} {device : String} {sys : RuleSystem}

/-- The rule keeps its definition, and telemetry is evaluated at a whole
microsecond, as ingestion normalises it. -/
def zoneGuard (rule : CachedRule) (_ : RuleSystem) : RuleStep → Prop
  | .observe _ _ _ _ plan =>
    (∀ r ∈ plan.snapshot.definitions.all, r.id = rule.id → r = rule) ∧
    match plan.input with
    | .telemetry .. => datetime (timestampMicros plan.observedAt) = plan.observedAt
    | .status _ => True
  | _ => True

/-- Zone entries date the current inside run, and every evaluation read them so. -/
structure Tracked (p : Platform) (rule : CachedRule) (device : String) (sys : RuleSystem) :
    Prop where
  whole : ∀ e ∈ sys.evaluations, (e.inside p rule device).isSome = true →
    datetime (timestampMicros e.plan.observedAt) = e.plan.observedAt
  unique : ∀ e ∈ sys.evaluations, ∀ r ∈ e.plan.snapshot.definitions.all, r.id = rule.id → r = rule
  entered : sys.store.entered (rule.tenantId, rule.id, device) =
    (insideSince (locationsOf p rule device sys.evaluations)).map timestampMicros
  read : ∀ later e earlier, sys.evaluations = later ++ e :: earlier → e.plan.deviceId = device →
    rule ∈ e.plan.liveRules e.runtime →
    e.runtime.zoneEntries (rule.tenantId, rule.id, device) =
      insideSince (locationsOf p rule device earlier)

theorem Tracked.of_eq {sys' : RuleSystem} (h : Tracked p rule device sys)
    (hstore : sys'.store.zoneEntries = sys.store.zoneEntries)
    (hevaluations : sys'.evaluations = sys.evaluations) : Tracked p rule device sys' := by
  obtain ⟨hwhole, hunique, hentered, hread⟩ := h
  constructor
  · rwa [hevaluations]
  · rwa [hevaluations]
  · rw [hevaluations, ← hentered]
    simp only [Store.entered, hstore]
  · rwa [hevaluations]

theorem Tracked.datetime_insideSince (h : Tracked p rule device sys) :
    (insideSince (locationsOf p rule device sys.evaluations)).map
      (fun time => datetime (timestampMicros time)) =
        insideSince (locationsOf p rule device sys.evaluations) := by
  cases hsince : insideSince (locationsOf p rule device sys.evaluations) with
  | none => rfl
  | some time =>
    obtain ⟨e, he, hlocation⟩ := mem_filterMap.mp (mem_of_insideSince hsince)
    obtain ⟨isInside, hinside, heq⟩ := map_eq_some_iff.mp hlocation
    obtain ⟨-, rfl⟩ := Prod.mk.inj heq
    rw [map_some, h.whole e he (by simp [hinside])]

theorem zoneEntries_of_rule (p : Platform) (device : String) (plan : DeviceRuleEvaluation)
    (runtime : DeviceRuleRuntime) (htrigger : compileTrigger rule.triggerType = some .geofence)
    (hdistinct : plan.snapshot.Distinct)
    (hunique : ∀ r ∈ plan.snapshot.definitions.all, r.id = rule.id → r = rule) :
    (plan.decide p runtime).zoneEntries.filter
        (fun m => m.key = (rule.tenantId, rule.id, device)) =
      match inside p rule device ⟨plan, runtime, []⟩,
        (runtime.zoneEntries (rule.tenantId, rule.id, device)).isSome with
      | some true, false => [⟨rule.tenantId, rule.id, device, some plan.observedAt⟩]
      | some false, true => [⟨rule.tenantId, rule.id, device, none⟩]
      | _, _ => [] := by
  have hkey : ∀ (action : PendingAction) (r : CachedRule), action.Names runtime r plan.deviceId →
      ∀ m ∈ action.zoneEntry?, m.key = (r.tenantId, r.id, plan.deviceId) := by
    intro action r hnames m hm
    cases action with
    | updateZoneEntry =>
      cases hm
      obtain ⟨ht, hr, hd⟩ := hnames
      rw [ZoneEntryMutation.key, ht, hr, hd]
    | _ => cases hm
  by_cases hlive : plan.deviceId = device ∧ rule ∈ plan.liveRules runtime
  · obtain ⟨rfl, hrule⟩ := hlive
    have hperm := filterMap_actions_of_mem (p := p) hkey hdistinct hrule
    rw [answer_zoneEntries htrigger] at hperm
    have hinside : inside p rule plan.deviceId ⟨plan, runtime, []⟩ =
        plan.inside p rule := if_pos ⟨rfl, hrule⟩
    rw [hinside]
    split at hperm
    · exact perm_singleton.mp hperm
    · exact perm_singleton.mp hperm
    · exact hperm.eq_nil
  · have hinside : inside p rule device ⟨plan, runtime, []⟩ = none := if_neg hlive
    rw [hinside]
    refine filterMap_actions_of_not_mem hkey fun r hr heq => hlive ?_
    obtain ⟨-, hid, hdevice⟩ : r.tenantId = rule.tenantId ∧ r.id = rule.id ∧
        plan.deviceId = device := by
      simpa using heq
    have hr' := hunique r ((plan.liveRules_sublist runtime).mem hr) hid
    exact ⟨hdevice, hr' ▸ hr⟩

theorem Tracked.observe (h : Tracked p rule device sys)
    (htrigger : compileTrigger rule.triggerType = some .geofence) (uuid : ℕ → String) (now : ℤ)
    (tenant device' : String) {plan : DeviceRuleEvaluation} (hprepared : plan.Prepared)
    (hguard : zoneGuard rule sys (.observe uuid now tenant device' plan)) :
    Tracked p rule device (sys.observe p uuid now tenant device' plan) := by
  unfold RuleSystem.observe
  split
  next prepared runtime store count hprepare hobserve =>
    obtain ⟨prepared', runtime', hprepare', hentered⟩ := observe_entered hobserve
    cases hprepare.symm.trans hprepare'
    obtain ⟨htenant, hdevice, target, -, heq⟩ := prepareEvaluation_eq_ok hprepare
    obtain ⟨rfl, hruntime⟩ := Prod.mk.inj heq
    have hread : plan.deviceId = device →
        rule ∈ (sys.store.retarget target plan).liveRules runtime →
        runtime.zoneEntries (rule.tenantId, rule.id, device) =
          insideSince (locationsOf p rule device sys.evaluations) := by
      rintro rfl hrule
      have hrt : rule.tenantId = tenant :=
        (tenantId_of_liveRules hrule).trans htenant
      rw [← h.datetime_insideSince, hruntime]
      have hstored := congrArg (Option.map datetime) h.entered
      rw [Option.map_map] at hstored
      refine Eq.trans ?_ hstored
      simp only [Store.deviceRuleRuntime, hrt, hdevice, and_self, if_true, Store.entered,
        Option.map_map]
      rfl
    have hmutations := zoneEntries_of_rule p device (sys.store.retarget target plan) runtime
      htrigger hprepared.distinct hguard.1
    constructor
    · intro e he hinside
      rcases mem_cons.mp he with rfl | he
      · obtain ⟨isInside, hinside⟩ := isSome_iff_exists.mp hinside
        obtain ⟨data, hinput⟩ :=
          input_of_inside (inside_eq_some.mp hinside).2
        have htime := hguard.2
        change plan.input = .telemetry data true at hinput
        rw [hinput] at htime
        exact htime
      · exact h.whole e he hinside
    · intro e he
      rcases mem_cons.mp he with rfl | he
      · exact hguard.1
      · exact h.unique e he
    · rw [hentered, hmutations, locationsOf_cons]
      change _ = (insideSince ((Option.map _ (inside p rule device
        ⟨sys.store.retarget target plan, runtime, []⟩)).toList ++ _)).map timestampMicros
      cases hinside : inside p rule device
          ⟨sys.store.retarget target plan, runtime, []⟩ with
      | none => exact h.entered
      | some isInside =>
        obtain ⟨⟨hdevice', hrule⟩, -⟩ := inside_eq_some.mp hinside
        rw [hread hdevice' hrule, h.entered]
        cases hsince : insideSince (locationsOf p rule device sys.evaluations) <;>
          cases isInside <;> simp [hsince]
    · intro later e earlier heq hdevice' hrule
      cases later with
      | nil =>
        obtain ⟨rfl, rfl⟩ := List.cons.inj heq
        exact hread hdevice' hrule
      | cons first later => exact h.read later e earlier (List.cons.inj heq).2 hdevice' hrule
  next => exact h

theorem zoneEntries_step (p : Platform) (sys : RuleSystem) {step : RuleStep}
    (hstep : ∀ uuid now tenant device plan, step ≠ .observe uuid now tenant device plan) :
    (sys.apply p step).store.zoneEntries = sys.store.zoneEntries ∧
      (sys.apply p step).evaluations = sys.evaluations := by
  cases step with
  | observe uuid now tenant device plan => exact absurd rfl (hstep uuid now tenant device plan)
  | claim workerId uuid limit lease now =>
    simp only [apply, claim]
    split <;> exact ⟨rfl, rfl⟩
  | attempt external now event => exact ⟨RuleDelivery.zoneEntries_attempt p external now event _, rfl⟩
  | report event result now =>
    obtain ⟨outcome, failure⟩ := result
    cases outcome <;> exact ⟨rfl, rfl⟩
  | transition tenant id tr now =>
    refine ⟨?_, rfl⟩
    change (sys.store.committed _).zoneEntries = _
    exact committed_induction (P := fun s => s.zoneEntries = sys.store.zoneEntries) rfl
      fun _ _ hok => zoneEntries_transitionFrom hok
  | transitionMany tenant ids tr now =>
    refine ⟨?_, rfl⟩
    change (sys.store.committed _).zoneEntries = _
    refine committed_induction (P := fun s => s.zoneEntries = sys.store.zoneEntries) rfl
      fun _ _ hok => ?_
    exact transitionEach_induction (P := fun s => s.zoneEntries = sys.store.zoneEntries)
      (fun _ _ _ _ _ hs hok => (zoneEntries_transitionFrom hok).trans hs) hok rfl
  | prune retentionDays now =>
    refine ⟨?_, rfl⟩
    simp only [apply, AlertMaintenance.prune]
    split <;> rfl

theorem Tracked.step (h : Tracked p rule device sys)
    (htrigger : compileTrigger rule.triggerType = some .geofence) {step : RuleStep}
    (henabled : enabled sys step) (hguard : zoneGuard rule sys step) :
    Tracked p rule device (sys.apply p step) := by
  by_cases hstep : ∃ uuid now tenant device plan, step = .observe uuid now tenant device plan
  · obtain ⟨uuid, now, tenant, device', plan, rfl⟩ := hstep
    exact h.observe htrigger uuid now tenant device' henabled.1 hguard
  · push Not at hstep
    obtain ⟨hstore, hevaluations⟩ := zoneEntries_step p sys hstep
    exact h.of_eq hstore hevaluations

theorem Tracked.answer_of_fires (h : Tracked p rule device sys) {e : Evaluation}
    (he : e ∈ sys.evaluations) (hfires : e.Fires p rule device) :
    e.plan.deviceId = device ∧ rule ∈ e.plan.liveRules e.runtime ∧
      ∃ firedAt, .updateCooldown rule.tenantId rule.id device firedAt ∈
        e.plan.answer p (e.plan.runtimeCache e.runtime) rule := by
  obtain ⟨c, hc, hkey⟩ := hfires
  obtain ⟨action, haction, heq⟩ := mem_filterMap.mp hc
  obtain ⟨r, htenant, hlive, htargets, hanswer, hnames⟩ :=
    stems_of_actions haction
  have hrule := mem_liveRules.mpr ⟨htenant, hlive, htargets⟩
  cases action with
  | updateCooldown tenantId ruleId deviceId firedAt =>
    cases heq
    obtain ⟨ht, hid, hd⟩ := hnames
    obtain ⟨rfl, rfl, rfl⟩ : tenantId = rule.tenantId ∧ ruleId = rule.id ∧ deviceId = device := by
      simpa [CooldownRecord.key] using hkey
    obtain rfl := h.unique e he r ((e.plan.liveRules_sublist e.runtime).mem hrule) hid.symm
    exact ⟨hd.symm, hrule, firedAt, hanswer⟩
  | _ => cases heq

/-- In every run in which a geofence rule keeps its definition, from a store with
no zone entry: the entry exists exactly while the device was last seen inside and
dates the first location of that inside run, a dwell rule fires only after that
long inside, and an exit rule only right after an inside location or under an
open alert. -/
theorem zone_run_sound (p : Platform) (rule : CachedRule) (device : String)
    (htrigger : compileTrigger rule.triggerType = some .geofence) {store : Store}
    (hempty : store.zoneEntries.find? (rule.tenantId, rule.id, device) = none)
    {steps : List RuleStep} {t : RuleSystem}
    (hrun : ((machine p).restrict (zoneGuard rule)).Run (start store) steps t) :
    ((t.store.zoneEntries.find? (rule.tenantId, rule.id, device)).isSome = true ↔
      (locationsOf p rule device t.evaluations).head?.map (·.1) = some true) ∧
    (t.store.zoneEntries.find? (rule.tenantId, rule.id, device)).map
      (fun r => datetime r.enteredAt) = insideSince (locationsOf p rule device t.evaluations) ∧
    ∀ later e earlier, t.evaluations = later ++ e :: earlier → e.Fires p rule device →
      (rule.targetInside = true → 0 < rule.dwellSeconds →
        ∃ since, insideSince (locationsOf p rule device (e :: earlier)) = some since ∧
          since + rule.dwellSeconds * 1000000000 ≤ e.plan.observedAt) ∧
      (rule.targetInside = false →
        (locationsOf p rule device earlier).head?.map (·.1) = some true ∨
          (e.runtime.activeAlerts (rule.tenantId, rule.id, device)).isSome = true) := by
  have htracked : Tracked p rule device t := by
    refine hrun.invariant (fun sys step h henabled => ?_) ?_
    · exact h.step htrigger henabled.1 henabled.2
    · refine ⟨fun e he => (nomatch he), fun e he => (nomatch he), ?_, fun later e earlier heq => ?_⟩
      · simp [start, Store.entered, hempty, locationsOf]
      · simp [start] at heq
  have hentered := htracked.entered
  have hdates : (t.store.zoneEntries.find? (rule.tenantId, rule.id, device)).map
      (fun r => datetime r.enteredAt) = insideSince (locationsOf p rule device t.evaluations) := by
    rw [← htracked.datetime_insideSince]
    have hstored := congrArg (Option.map datetime) hentered
    rw [Store.entered, Option.map_map, Option.map_map] at hstored
    exact hstored
  refine ⟨?_, hdates, ?_⟩
  · rw [← insideSince_isSome, ← hdates, isSome_map]
  · intro later e earlier heq hfires
    have he : e ∈ t.evaluations := by simp [heq]
    obtain ⟨hdevice, hrule, firedAt, hanswer⟩ := htracked.answer_of_fires he hfires
    have hread := htracked.read later e earlier heq hdevice hrule
    obtain ⟨hinside, hdwell, hexit⟩ := inside_of_firing htrigger hanswer
    rw [hdevice, hread] at hdwell hexit
    constructor
    · intro htarget hpos
      rcases hdwell htarget with hzero | ⟨since, hsince, hlong⟩
      · omega
      · have hlocated : e.inside p rule device = some true :=
          inside_eq_some.mpr ⟨⟨hdevice, hrule⟩, htarget ▸ hinside⟩
        refine ⟨since, ?_, ?_⟩
        · rw [locationsOf_cons, hlocated]
          simp [hsince]
        · have hnot := (numSeconds_lt_iff hpos).not.mp (not_lt.mpr hlong)
          omega
    · intro htarget
      rw [← insideSince_isSome]
      exact hexit htarget

def northern : Platform :=
  { (default : Platform) with
    pointInZone := fun latitude _ _ => latitude.within 0 90 }

def dwellRule : CachedRule where
  tenantId := "tenant"
  id := "rule"
  name := "dwell"
  triggerType := "geofence"
  targetType := "global"
  targetId := none
  cooldownSeconds := 0
  conditions := [⟨"zone_state", none, none, "eq", "inside", some "zone"⟩,
    ⟨"dwell_seconds", none, none, "gte", "60", none⟩]
  actions := [alertAction]

/-- The sample device is located at a latitude, under the dwell rule. -/
def locatedAt (latitude : ℚ) (time : ℤ) : DeviceRuleEvaluation where
  snapshot := RuleSnapshotRecords.compile
    ⟨[dwellRule], fun _ => some ⟨"zone", "Zone", .polygon []⟩⟩
  tenant := "tenant"
  deviceId := "device"
  fleetId := none
  blueprintId := none
  blueprintRevisionId := none
  input := .telemetry ⟨some (.finite latitude), some (.finite 0), []⟩ true
  observedAt := time

def stay : List RuleStep :=
  [.observe (labelled 'a') 0 "tenant" "device" (locatedAt 10 0),
    .observe (labelled 'b') 0 "tenant" "device" (locatedAt 20 60000000000)]

theorem zone_run_sound_stay :
    let t := stay.foldl (apply northern) (start Store.sample)
    t.store.zoneEntries.rows = [⟨"tenant", "rule", "device", 0⟩] ∧
      (locationsOf northern dwellRule "device" t.evaluations).head?.map (·.1) = some true ∧
      ∃ since, insideSince (locationsOf northern dwellRule "device" t.evaluations) = some since ∧
        since + dwellRule.dwellSeconds * 1000000000 ≤ 60000000000 := by
  intro t
  have hguard : ∀ sys letter latitude time, datetime (timestampMicros time) = time →
      zoneGuard dwellRule sys (.observe (labelled letter) 0 "tenant" "device"
        (locatedAt latitude time)) :=
    fun _ _ _ _ htime => ⟨fun r hr _ => mem_singleton.mp hr, htime⟩
  have hprepared : ∀ latitude time, (locatedAt latitude time).Prepared :=
    fun _ _ => ⟨_, by simp, rfl⟩
  have hrun : ((machine northern).restrict (zoneGuard dwellRule)).Run (start Store.sample) stay t :=
    .cons ⟨⟨hprepared _ _, labelled_injective _, fresh_labelled rfl⟩, hguard _ _ _ _ rfl⟩
      (.cons ⟨⟨hprepared _ _, labelled_injective _, fresh_labelled rfl⟩, hguard _ _ _ _ rfl⟩ (.nil _))
  obtain ⟨hentry, -, hfires⟩ := zone_run_sound northern dwellRule "device" rfl rfl hrun
  exact ⟨rfl, hentry.mp rfl, (hfires [] _ _ rfl ⟨_, .head _, rfl⟩).1 rfl (by decide)⟩

end RuleSystem

end Extrittio
