import Extrittio.Library.Keyed
import Extrittio.RuleEngine.Laws

/-!
The index of rules by target. It has one bucket for each kind of target and replaces a
rule only inside the bucket of the new one, so it is a plain list of rules as long as no
identity comes back under another kind of target.
-/
namespace Extrittio

open List Option CachedRule RuleDefinitions

def CachedRule.key (rule : CachedRule) : String × String := (rule.tenantId, rule.id)

theorem insertInto_eq_put (bucket : List CachedRule) (rule : CachedRule) :
    insertInto bucket rule = Keyed.put key bucket rule := by
  induction bucket with
  | nil => rfl
  | cons first bucket ih =>
    by_cases hfirst : first.key = rule.key
    · have hsame : first.tenantId = rule.tenantId ∧ first.id = rule.id := by
        simpa [key] using hfirst
      unfold insertInto
      rw [Keyed.put, if_pos hfirst, findIdx?_cons, decide_eq_true hsame]
      rfl
    · have hother : ¬(first.tenantId = rule.tenantId ∧ first.id = rule.id) := by
        simpa [key] using hfirst
      rw [Keyed.put, if_neg hfirst, ← ih]
      unfold insertInto
      rw [findIdx?_cons, decide_eq_false hother]
      cases bucket.findIdx? fun r => r.tenantId = rule.tenantId ∧ r.id = rule.id <;> rfl

namespace RuleDefinitions

def bucket (defs : RuleDefinitions) : RuleTargetType → List CachedRule
  | .global => defs.globalRules
  | .blueprint => defs.byBlueprint
  | .fleet => defs.byFleet
  | .device => defs.byDevice

def held (defs : RuleDefinitions) (tenant id : String) : List CachedRule :=
  defs.all.filter fun rule => rule.key = (tenant, id)

theorem bucket_insertRule (defs : RuleDefinitions) (rule : CachedRule) (target : RuleTargetType) :
    (defs.insertRule rule).bucket target =
      if compileTargetType rule.targetType = some target then
        Keyed.put key (defs.bucket target) rule
      else defs.bucket target := by
  unfold insertRule
  cases hcompile : compileTargetType rule.targetType with
  | none => simp
  | some own => cases own <;> cases target <;> simp [bucket, insertInto_eq_put]

theorem bucket_foldl_insertRule (rules : List CachedRule) (defs : RuleDefinitions)
    (target : RuleTargetType) :
    (rules.foldl insertRule defs).bucket target =
      (rules.filter fun rule => compileTargetType rule.targetType = some target).foldl
        (Keyed.put key) (defs.bucket target) := by
  induction rules generalizing defs with
  | nil => rfl
  | cons rule rules ih =>
    rw [foldl_cons, ih, bucket_insertRule]
    by_cases htarget : compileTargetType rule.targetType = some target
    · rw [if_pos htarget, filter_cons_of_pos (by simpa using htarget), foldl_cons]
    · rw [if_neg htarget, filter_cons_of_neg (by simpa using htarget)]

theorem bucket_default (target : RuleTargetType) : default.bucket target = [] := by
  cases target <;> rfl

/-- The last rule of an identity for one kind of target. -/
def lastFor (rules : List CachedRule) (tenant id : String) (target : RuleTargetType) :
    Option CachedRule :=
  ((rules.filter fun rule => rule.key = (tenant, id)).filter fun rule =>
    compileTargetType rule.targetType = some target).getLast?

section

variable {rules : List CachedRule} {tenant id : String} {last rule : CachedRule}

theorem filter_bucket_foldl (target : RuleTargetType) :
    ((rules.foldl insertRule .default).bucket target).filter (fun rule => rule.key = (tenant, id)) =
      (lastFor rules tenant id target).toList := by
  rw [bucket_foldl_insertRule, bucket_default, Keyed.filter_foldl_put, lastFor, List.filter_filter,
    List.filter_filter]
  congr 2
  exact filter_congr fun rule _ => Bool.and_comm _ _

/-- An identity is held once for each kind of target that it has been inserted under. -/
theorem held_foldl : (rules.foldl insertRule .default).held tenant id =
    (lastFor rules tenant id .global).toList ++ (lastFor rules tenant id .blueprint).toList ++
      (lastFor rules tenant id .fleet).toList ++ (lastFor rules tenant id .device).toList := by
  simp only [← filter_bucket_foldl, ← filter_append]
  rfl

theorem mem_held_foldl : rule ∈ (rules.foldl insertRule .default).held tenant id ↔
    ∃ target, lastFor rules tenant id target = some rule := by
  rw [held_foldl]
  simp only [mem_append, mem_toList]
  constructor
  · rintro (((h | h) | h) | h)
    · exact ⟨_, h⟩
    · exact ⟨_, h⟩
    · exact ⟨_, h⟩
    · exact ⟨_, h⟩
  · rintro ⟨target, h⟩
    cases target <;> simp [h]

theorem target_of_lastFor {target : RuleTargetType} (h : lastFor rules tenant id target = some rule) :
    compileTargetType rule.targetType = some target := by
  have hmem := mem_of_getLast? h
  simpa using (List.mem_filter.mp hmem).2

theorem lastFor_isSome {target : RuleTargetType} (hrule : rule ∈ rules)
    (hkey : rule.key = (tenant, id)) (htarget : compileTargetType rule.targetType = some target) :
    ∃ other, lastFor rules tenant id target = some other := by
  refine ne_none_iff_exists'.mp fun hnone => ?_
  rw [lastFor, getLast?_eq_none_iff] at hnone
  have hmem : rule ∈ (rules.filter fun rule => rule.key = (tenant, id)).filter fun rule =>
      compileTargetType rule.targetType = some target := by
    simp [hrule, hkey, htarget]
  rw [hnone] at hmem
  cases hmem

theorem lastFor_of_last {target : RuleTargetType}
    (hlast : (rules.filter fun rule => rule.key = (tenant, id)).getLast? = some last)
    (htarget : compileTargetType last.targetType = some target) :
    lastFor rules tenant id target = some last := by
  obtain ⟨earlier, heq⟩ := getLast?_eq_some_iff.mp hlast
  rw [lastFor, heq, filter_append]
  simp [htarget]

/-- An identity is held as its last rule and nothing else exactly when all its rules that
were indexed are indexed where the last one is. -/
theorem held_eq_last_iff
    (hlast : (rules.filter fun rule => rule.key = (tenant, id)).getLast? = some last) :
    (rules.foldl insertRule .default).held tenant id = [last] ↔
      ∃ target, compileTargetType last.targetType = some target ∧
        ∀ rule ∈ rules, rule.key = (tenant, id) →
          compileTargetType rule.targetType = none ∨
            compileTargetType rule.targetType = some target := by
  constructor
  · intro hheld
    have hmem : last ∈ (rules.foldl insertRule .default).held tenant id := by simp [hheld]
    obtain ⟨target, hfor⟩ := mem_held_foldl.mp hmem
    have htarget := target_of_lastFor hfor
    refine ⟨target, htarget, fun rule hrule hkey => ?_⟩
    cases hother : compileTargetType rule.targetType with
    | none => exact .inl rfl
    | some other =>
      obtain ⟨stale, hstale⟩ := lastFor_isSome hrule hkey hother
      have hsame : stale = last := by
        have hmem := mem_held_foldl.mpr ⟨other, hstale⟩
        rw [hheld] at hmem
        exact mem_singleton.mp hmem
      rw [← target_of_lastFor hstale, hsame, htarget]
      exact .inr rfl
  · rintro ⟨target, htarget, hall⟩
    have hnone : ∀ other, other ≠ target → lastFor rules tenant id other = none := by
      intro other hother
      refine eq_none_iff_forall_ne_some.mpr fun stale hstale => ?_
      obtain ⟨hmem, hkey⟩ := List.mem_filter.mp (List.mem_filter.mp (mem_of_getLast? hstale)).1
      rcases hall stale hmem (by simpa using hkey) with h | h
      · cases h.symm.trans (target_of_lastFor hstale)
      · exact hother (Option.some.inj ((target_of_lastFor hstale).symm.trans h))
    have hown := lastFor_of_last hlast htarget
    rw [held_foldl]
    cases target <;> simp [hown, hnone]

end

end RuleDefinitions

namespace RuleCache

def empty : RuleCache := ⟨.default, none, fun _ => none, fun _ => none, fun _ => none⟩

def insertRule (cache : RuleCache) (rule : CachedRule) : RuleCache :=
  { cache with definitions := cache.definitions.insertRule rule }

theorem definitions_foldl_insertRule (rules : List CachedRule) (cache : RuleCache) :
    (rules.foldl insertRule cache).definitions =
      rules.foldl RuleDefinitions.insertRule cache.definitions := by
  induction rules generalizing cache with
  | nil => rfl
  | cons rule rules ih => rw [foldl_cons, ih, foldl_cons, insertRule]

theorem mem_held_of_selected {cache : RuleCache} {tenant device : String}
    {fleet blueprint : Option String} {rule : CachedRule}
    (h : rule ∈ cache.rulesForTenantDevice tenant device fleet blueprint) :
    rule ∈ cache.definitions.held tenant rule.id := by
  have hall := (cache.rulesForTenantDevice_sublist tenant device fleet blueprint).subset h
  have htenant : rule.tenantId = tenant := tenantId_of_mem h
  exact List.mem_filter.mpr ⟨hall, by simp [key, htenant]⟩

/-- After any insertions an identity is held as the rule inserted last, and that is the
only version a device can be given, exactly when none of its rules was indexed under
another kind of target. -/
theorem insertions_hold_last_iff {rules : List CachedRule} {tenant id : String} {last : CachedRule}
    (hlast : (rules.filter fun rule => rule.key = (tenant, id)).getLast? = some last) :
    ((rules.foldl insertRule empty).definitions.held tenant id = [last] ∧
      ∀ device fleet blueprint, ∀ rule ∈ (rules.foldl insertRule empty).rulesForTenantDevice tenant
        device fleet blueprint, rule.id = id → rule = last) ↔
      ∃ target, compileTargetType last.targetType = some target ∧
        ∀ rule ∈ rules, rule.key = (tenant, id) →
          compileTargetType rule.targetType = none ∨
            compileTargetType rule.targetType = some target := by
  rw [← RuleDefinitions.held_eq_last_iff hlast, definitions_foldl_insertRule]
  refine ⟨fun h => h.1, fun h => ⟨h, fun device fleet blueprint rule hrule hid => ?_⟩⟩
  have hheld := mem_held_of_selected hrule
  rw [definitions_foldl_insertRule, hid] at hheld
  change rule ∈ (rules.foldl RuleDefinitions.insertRule .default).held tenant id at hheld
  rw [h] at hheld
  exact mem_singleton.mp hheld

def movedRule (targetType : String) (targetId : Option String) (cooldownSeconds : ℤ) : CachedRule :=
  ⟨"tenant", "rule", "Moved", "telemetry", targetType, targetId, cooldownSeconds, [], []⟩

theorem insertions_hold_last_iff_kept :
    ([movedRule "global" none 0, movedRule "global" none 60].foldl insertRule
      empty).definitions.held "tenant" "rule" = [movedRule "global" none 60] :=
  have hlast : ([movedRule "global" none 0, movedRule "global" none 60].filter fun rule =>
      rule.key = ("tenant", "rule")).getLast? = some (movedRule "global" none 60) := by decide
  ((insertions_hold_last_iff hlast).mpr ⟨.global, rfl, by decide⟩).1

/-- The rule moves from all devices to one of them: the old version stays, and the device
is given both. -/
theorem moved_rule_selected_twice :
    ([movedRule "global" none 0, movedRule "device" (some "device") 60].foldl insertRule
      empty).rulesForTenantDevice "tenant" "device" none none =
      [movedRule "global" none 0, movedRule "device" (some "device") 60] := by
  decide

end RuleCache

def CachedRule.matchesDevice (rule : CachedRule) (device : String)
    (fleet blueprint : Option String) : Bool :=
  match compileTargetType rule.targetType with
  | some .global => true
  | some .blueprint => blueprint.isSome && rule.targetId = blueprint
  | some .fleet => fleet.isSome && rule.targetId = fleet
  | some .device => rule.targetId = some device
  | none => false

/-- The plain filter that the index stands for. -/
def CachedRule.selectedFor (tenant device : String) (fleet blueprint : Option String)
    (live : List String) (rule : CachedRule) : Bool :=
  rule.tenantId = tenant && rule.matchesDevice device fleet blueprint && rule.id ∈ live

theorem count_filter_eq {α : Type*} [DecidableEq α] (l : List α) (p : α → Bool) (a : α) :
    (l.filter p).count a = if p a then l.count a else 0 := by
  split_ifs with hp
  · exact count_filter hp
  · refine count_eq_zero_of_not_mem fun hmem => hp ?_
    exact (List.mem_filter.mp hmem).2

namespace RuleSnapshotRecords

variable {records : RuleSnapshotRecords}

theorem bucket_compile (h : (records.rules.map key).Nodup) (target : RuleTargetType) :
    records.compile.definitions.bucket target =
      records.rules.filter fun rule => compileTargetType rule.targetType = some target := by
  have hbucket : records.compile.definitions.bucket target =
      (records.rules.foldl insertRule .default).bucket target := by
    cases target <;> rfl
  have hnodup : (([] ++ records.rules.filter fun rule : CachedRule =>
      compileTargetType rule.targetType = some target).map key).Nodup :=
    h.sublist (filter_sublist.map key)
  rw [hbucket, bucket_foldl_insertRule, bucket_default,
    Keyed.foldl_put_of_nodup hnodup, nil_append]

theorem selection_perm (h : (records.rules.map key).Nodup) (tenant device : String)
    (fleet blueprint : Option String) (live : List String) :
    ((records.compile.definitionsOnly.restrictToRuleIds live).rulesForTenantDevice tenant device
      fleet blueprint).Perm
      (records.rules.filter (selectedFor tenant device fleet blueprint live)) := by
  have hglobal : records.compile.definitions.globalRules = _ := bucket_compile h .global
  have hblueprint : records.compile.definitions.byBlueprint = _ := bucket_compile h .blueprint
  have hfleet : records.compile.definitions.byFleet = _ := bucket_compile h .fleet
  have hdevice : records.compile.definitions.byDevice = _ := bucket_compile h .device
  rw [perm_iff_count]
  intro rule
  simp only [RuleCache.rulesForTenantDevice, RuleCache.restrictToRuleIds, RuleCache.definitionsOnly,
    hglobal, hblueprint, hfleet, hdevice, count_filter_eq, count_append]
  simp only [selectedFor, matchesDevice]
  rcases eq_none_or_eq_some (compileTargetType rule.targetType) with
    htarget | ⟨target, htarget⟩
  · cases blueprint <;> cases fleet <;> simp [count_filter_eq, htarget]
  · -- a rule can be in the bucket of its own target only
    cases target <;> cases blueprint <;> cases fleet <;>
      by_cases htenant : rule.tenantId = tenant <;> by_cases hlive : rule.id ∈ live <;>
        simp [count_filter_eq, htarget, htenant, hlive]

def sampleRecords : RuleSnapshotRecords :=
  ⟨[RuleCache.movedRule "device" (some "device") 0], fun _ => none⟩

end RuleSnapshotRecords

end Extrittio
