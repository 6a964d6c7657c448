import Extrittio.Presence.Repository

/-!
Heartbeats, offline sweeps and rule deliveries as one system. A heartbeat and a
sweep each read first and write in a later transaction, so that anything may
commit in between; a heartbeat that finds another status than it read is retried.
-/
namespace Extrittio

open Relational Transition List Option RuleSystem PresenceStore

/-- A call of `apply_heartbeat`: the status it will store, the attempts it has left
and, once it has read the device, the write it prepared. -/
structure HeartbeatCall where
  tenantId : String
  deviceId : String
  status : String
  firmware : String
  uptimeSeconds : ℤ
  retries : ℕ
  write : Option HeartbeatWrite

/-- A sweep that has read its candidates. -/
structure OfflineSweep where
  cutoff : ℤ
  transitions : List OfflineTransition

/-- The write of the call, if it has one, evaluates the change it makes. -/
def HeartbeatCall.Planned (call : HeartbeatCall) : Prop :=
  ∀ write, call.write = some write →
    PlannedFor call.tenantId call.deviceId write.expectedStatus write.status write.ruleEvaluation

theorem HeartbeatCall.planned_of_unread {call : HeartbeatCall} (h : call.write = none) :
    call.Planned := by
  intro write hwrite
  rw [h] at hwrite
  cases hwrite

def OfflineTransition.Planned (t : OfflineTransition) : Prop :=
  PlannedFor t.context.tenantId t.context.deviceId t.context.status "offline" t.ruleEvaluation

structure Beat where
  deviceId : String
  observedAt : ℤ
  deriving DecidableEq

namespace DeviceIngressApplication

def maxOptimisticRetries : ℕ := 3

/-- A known status is stored as it was spelled; any other counts as online. -/
def storedStatus (reported : String) : String :=
  if ["online", "offline", "warning"].any (eqIgnoreAsciiCase · reported) then reported else "online"

def asI32 (value : ℤ) : ℤ := value.bmod 4294967296

def trySeconds (seconds : ℕ) : Option ℤ :=
  if seconds ≤ 9223372036854775 then some (1000000000 * seconds) else none

/-- No evaluation is planned where the status stays as it is. -/
def prepareEvaluation (context : DeviceIngressContext) (newStatus : String)
    (snapshot : Except String RuleCache) (observedAt : ℤ) :
    Except ApplicationError (Option DeviceRuleEvaluation) :=
  if context.status = newStatus then .ok none
  else match snapshot with
    | .error e => .error (.internal s!"failed to obtain rule snapshot: {e}")
    | .ok snapshot => .ok (some {
        snapshot
        tenant := context.tenantId
        deviceId := context.deviceId
        fleetId := context.fleetId
        blueprintId := context.blueprintId
        blueprintRevisionId := none
        input := .status ⟨context.status, newStatus⟩
        observedAt })

/-- The first half of an attempt of `apply_heartbeat`: nothing for an unknown device. -/
def prepareWrite (s : PresenceStore) (call : HeartbeatCall) (snapshot : Except String RuleCache)
    (observedAt : ℤ) : Except ApplicationError (Option HeartbeatWrite) := do
  match ← liftPersistence (s.ingressContext call.tenantId call.deviceId) with
  | none => return none
  | some context =>
    let ruleEvaluation ← prepareEvaluation context call.status snapshot observedAt
    return some {
      expectedStatus := context.status
      status := call.status
      firmware := call.firmware
      uptimeSeconds := asI32 call.uptimeSeconds
      observedAt
      ruleEvaluation }

/-- The first half of `mark_offline_devices`. -/
def prepareSweep (s : PresenceStore) (timeoutSecs : ℕ) (snapshot : Except String RuleCache)
    (now observedAt : ℤ) : Except ApplicationError OfflineSweep :=
  match (trySeconds timeoutSecs).bind (checkedSub now) with
  | none => .error (.invalidInput "Offline timeout is outside the supported range")
  | some cutoff => do
    let candidates ← liftPersistence (s.offlineCandidates cutoff)
    let transitions ← candidates.mapM fun context => do
      let ruleEvaluation ← prepareEvaluation context "offline" snapshot observedAt
      return ⟨context, ruleEvaluation⟩
    return ⟨cutoff, transitions⟩

end DeviceIngressApplication

/-- The store, the calls in flight, and the committed heartbeats, newest first. -/
structure PresenceSystem where
  store : PresenceStore
  heartbeats : List HeartbeatCall
  sweeps : List OfflineSweep
  beats : List Beat

inductive PresenceStep where
  | heartbeat (tenant device reportedStatus firmware : String) (uptimeSeconds : ℤ)
  | readContext (index : ℕ) (snapshot : Except String RuleCache) (now : ℤ)
  | applyHeartbeat (index : ℕ) (uuid : ℕ → String) (now : ℤ)
  | readCandidates (timeoutSecs : ℕ) (snapshot : Except String RuleCache) (now observedAt : ℤ)
  | applyOfflineTransitions (index : ℕ) (uuid : ℕ → ℕ → String) (now : ℕ → ℤ)
  | rules (step : RuleStep)

namespace PresenceSystem

open DeviceIngressApplication

/-- Devices with the columns they have before their first heartbeat. -/
def start (store : Store) (columns : String → DeviceColumns) : PresenceSystem where
  store := ⟨RuleSystem.start store, fun device => { columns device with lastSeen := none }, []⟩
  heartbeats := []
  sweeps := []
  beats := []

/-- Observations of the rule runtime are about events: the status of a device is
observed by heartbeats and sweeps alone. -/
def enabled (_ : PresenceSystem) : PresenceStep → Prop
  | .rules (.observe _ _ _ _ plan) => plan.input.statusChange? = none
  | _ => True

/-- The calls after the one at `index` was refused: it reads again, or gives up
with a busy error. -/
def retry (sys : PresenceSystem) (index : ℕ) (call : HeartbeatCall) : List HeartbeatCall :=
  if call.retries ≤ 1 then sys.heartbeats.eraseIdx index
  else sys.heartbeats.set index { call with retries := call.retries - 1, write := none }

/-- A read or a transaction that fails ends its call and changes nothing. -/
def apply (p : Platform) (sys : PresenceSystem) : PresenceStep → PresenceSystem
  | .heartbeat tenant device reported firmware uptimeSeconds =>
    { sys with heartbeats := sys.heartbeats ++
        [⟨tenant, device, storedStatus reported, firmware, uptimeSeconds, maxOptimisticRetries, none⟩] }
  | .readContext index snapshot now =>
    match sys.heartbeats[index]? with
    | some call =>
      match call.write, prepareWrite sys.store call snapshot now with
      | none, .ok (some write) =>
        { sys with heartbeats := sys.heartbeats.set index { call with write := some write } }
      | none, _ => { sys with heartbeats := sys.heartbeats.eraseIdx index }
      | some _, _ => sys
    | none => sys
  | .applyHeartbeat index uuid now =>
    match sys.heartbeats[index]? with
    | some call =>
      match call.write with
      | some write =>
        match sys.store.applyHeartbeat p uuid now call.tenantId call.deviceId write with
        | .ok (store, ⟨true, _⟩) =>
          { sys with
            store := store
            heartbeats := sys.heartbeats.eraseIdx index
            beats := ⟨call.deviceId, write.observedAt⟩ :: sys.beats }
        | .ok (_, ⟨false, _⟩) => { sys with heartbeats := sys.retry index call }
        | .error _ => { sys with heartbeats := sys.heartbeats.eraseIdx index }
      | none => sys
    | none => sys
  | .readCandidates timeoutSecs snapshot now observedAt =>
    match prepareSweep sys.store timeoutSecs snapshot now observedAt with
    | .ok sweep => { sys with sweeps := sys.sweeps ++ [sweep] }
    | .error _ => sys
  | .applyOfflineTransitions index uuid now =>
    match sys.sweeps[index]? with
    | some sweep =>
      match sys.store.applyOfflineTransitions p uuid now sweep.cutoff sweep.transitions with
      | .ok (store, _) => { sys with store := store, sweeps := sys.sweeps.eraseIdx index }
      | .error _ => { sys with sweeps := sys.sweeps.eraseIdx index }
    | none => sys
  | .rules step => { sys with store := { sys.store with rules := sys.store.rules.apply p step } }

def machine (p : Platform) : Machine PresenceSystem PresenceStep := ⟨enabled, apply p⟩

def lastHeartbeat (sys : PresenceSystem) (device : String) : Option ℤ :=
  (sys.beats.find? (·.deviceId = device)).map (·.observedAt)

end PresenceSystem

namespace PresenceStore

section

variable {p : Platform} {s s' s₁ : PresenceStore} {tenant device : String}

theorem ingressContext_eq_ok {context : DeviceIngressContext}
    (h : liftPersistence (s.ingressContext tenant device) = .ok (some context)) :
    context.tenantId = tenant ∧ context.deviceId = device := by
  unfold ingressContext at h
  cases hrow : s.rules.store.device? tenant device with
  | none =>
    rw [hrow] at h
    cases h
  | some row =>
    obtain ⟨hfind, howner⟩ := filter_eq_some_iff.mp hrow
    rw [hrow] at h
    simp only [ingress] at h
    cases hidentity : deviceIdentity row.tenantId row.id with
    | error e =>
      rw [hidentity] at h
      cases h
    | ok _ =>
      rw [hidentity] at h
      cases h
      exact ⟨of_decide_eq_true howner, (Table.find?_eq_some.mp hfind).2⟩

theorem status?_congr (hdevices : s'.rules.store.devices = s.rules.store.devices)
    (hcolumns : s'.columns device = s.columns device) :
    s'.status? tenant device = s.status? tenant device := by
  simp only [status?, Store.device?, hdevices, hcolumns]

/-- The transaction evaluated the change of every device's status, if it changed. -/
structure Evaluated (s s' : PresenceStore) : Prop where
  devices : s'.rules.store.devices = s.rules.store.devices
  changes : ∀ tenant device, s'.rules.statusChanges tenant device =
    changeBetween (s.status? tenant device) (s'.status? tenant device) ++
      s.rules.statusChanges tenant device

variable {plan : Option DeviceRuleEvaluation} {count : ℕ}

theorem evaluate_eq_ok {uuid : ℕ → String} {now : ℤ}
    (h : s.evaluate p uuid now tenant device plan = .ok (s', count)) :
    s'.columns = s.columns ∧ s'.rules.store.devices = s.rules.store.devices ∧
    ∀ tenant' device', s'.rules.statusChanges tenant' device' =
      (plan.toList.flatMap fun plan => if plan.tenant = tenant' ∧ plan.deviceId = device' then
        plan.input.statusChange?.toList else []) ++ s.rules.statusChanges tenant' device' := by
  obtain ⟨⟨store, n⟩, hobserve, hreturn⟩ := of_bind_ok h
  cases plan with
  | none =>
    cases hreturn
    exact ⟨rfl, Store.observe_devices hobserve, fun _ _ => rfl⟩
  | some plan =>
    cases hreturn
    refine ⟨rfl, observe_devices _ _ _, fun tenant' device' => ?_⟩
    rw [statusChanges_observe hobserve]
    simp

theorem status?_eq_none_of_ne {status tenant' : String} (h : s.status? tenant device = some status)
    (hne : tenant ≠ tenant') : s.status? tenant' device = none := by
  obtain ⟨row, hrow, -⟩ := map_eq_some_iff.mp h
  obtain ⟨hfind, howner⟩ := filter_eq_some_iff.mp hrow
  obtain rfl := of_decide_eq_true howner
  simp [status?, Store.device?, hfind, filter_some_neg, hne]

theorem status?_setColumns (f : DeviceColumns → DeviceColumns) (tenant' device' : String) :
    (s.setColumns device f).status? tenant' device' =
      if device = device' then
        (s.status? tenant' device').map fun _ => (f (s.columns device)).status
      else s.status? tenant' device' := by
  split_ifs with h
  · subst h
    simp [status?, setColumns, Function.comp_def]
  · exact status?_congr rfl (Function.update_of_ne (Ne.symm h) _ _)

theorem evaluated_of_write {f : DeviceColumns → DeviceColumns} {old : String} {uuid : ℕ → String}
    {now : ℤ}
    (hold : s.status? tenant device = some old)
    (hplan : PlannedFor tenant device old (f (s.columns device)).status plan)
    (hrules : s₁.rules = s.rules) (hcolumns : s₁.columns = (s.setColumns device f).columns)
    (h : s₁.evaluate p uuid now tenant device plan = .ok (s', count)) :
    Evaluated s s' ∧ s'.columns = (s.setColumns device f).columns := by
  obtain ⟨hcolumns', hdevices, hchanges⟩ := evaluate_eq_ok h
  rw [hcolumns] at hcolumns'
  rw [hrules] at hdevices hchanges
  refine ⟨⟨hdevices, fun tenant' device' => ?_⟩, hcolumns'⟩
  have hnew : s'.status? tenant' device' = (s.setColumns device f).status? tenant' device' :=
    status?_congr hdevices (congrFun hcolumns' device')
  rw [hchanges, hplan.changes, hnew, status?_setColumns]
  congr 1
  by_cases hdevice : device = device'
  · subst hdevice
    by_cases htenant : tenant = tenant'
    · subst htenant
      simp [hold]
    · simp [status?_eq_none_of_ne hold htenant, htenant, changeBetween]
  · simp [hdevice]

theorem applyHeartbeat_eq_ok {uuid : ℕ → String} {now : ℤ} {write : HeartbeatWrite}
    (hplan : PlannedFor tenant device write.expectedStatus write.status write.ruleEvaluation)
    (h : s.applyHeartbeat p uuid now tenant device write = .ok (s', ⟨true, count⟩)) :
    Evaluated s s' ∧ ∀ device', (s'.columns device').lastSeen =
      if device = device' then some (timestampMicros write.observedAt)
      else (s.columns device').lastSeen := by
  unfold applyHeartbeat at h
  split at h
  next hexpected =>
    obtain ⟨⟨s₂, n⟩, hevaluate, hreturn⟩ := of_bind_ok h
    cases hreturn
    obtain ⟨hevaluated, hcolumns⟩ := evaluated_of_write
      (f := fun _ => ⟨write.status, write.firmware, write.uptimeSeconds,
        some (timestampMicros write.observedAt), timestampMicros write.observedAt⟩)
      hexpected hplan (by split <;> rfl) (by split <;> rfl) hevaluate
    refine ⟨hevaluated, fun device' => ?_⟩
    rw [hcolumns]
    split_ifs with hdevice
    · subst hdevice
      simp [setColumns]
    · simp [setColumns, Function.update_of_ne (Ne.symm hdevice)]
  next => cases h

/-- What the loop of a sweep has done to the store so far. -/
structure Swept (cutoff : ℤ) (s s' : PresenceStore) : Prop extends Evaluated s s' where
  columns : ∀ device, s'.columns device = s.columns device ∨
    (s.columns device).stale cutoff = true ∧
      s'.columns device = { s.columns device with status := "offline" }

theorem Swept.refl (cutoff : ℤ) (s : PresenceStore) : Swept cutoff s s where
  devices := rfl
  changes _ _ := by rw [changeBetween_self, nil_append]
  columns _ := .inl rfl

variable {uuid : ℕ → ℕ → String} {now : ℕ → ℤ} {cutoff : ℤ}

theorem Swept.offlineTransition {outcome outcome' : OfflineWriteOutcome}
    {entry : OfflineTransition × ℕ} (hswept : Swept cutoff s s₁)
    (hplan : entry.1.Planned)
    (h : offlineTransition p uuid now cutoff (s₁, outcome) entry =
      .ok (s', outcome')) : Swept cutoff s s' := by
  unfold PresenceStore.offlineTransition at h
  obtain ⟨transition, index⟩ := entry
  dsimp only at h hplan
  split_ifs at h with hguard
  · obtain ⟨⟨s₂, n⟩, hevaluate, hreturn⟩ := of_bind_ok h
    cases hreturn
    obtain ⟨hexpected, hstale⟩ := hguard
    obtain ⟨hevaluated, hcolumns⟩ := evaluated_of_write
      (f := fun c => { c with status := "offline" }) hexpected hplan (by rfl) (by rfl) hevaluate
    have huntouched : s₁.columns transition.context.deviceId =
        s.columns transition.context.deviceId := by
      rcases hswept.columns transition.context.deviceId with hsame | ⟨-, hoffline⟩
      · exact hsame
      · rw [hoffline] at hstale
        simp [DeviceColumns.stale] at hstale
    have hother : ∀ device', transition.context.deviceId ≠ device' →
        s₂.columns device' = s₁.columns device' := by
      intro device' hne
      rw [hcolumns]
      exact Function.update_of_ne (Ne.symm hne) _ _
    refine ⟨⟨hevaluated.devices.trans hswept.devices, fun tenant' device' => ?_⟩, fun device' => ?_⟩
    · rw [hevaluated.changes, hswept.changes]
      by_cases hdevice : transition.context.deviceId = device'
      · subst hdevice
        rw [status?_congr hswept.devices huntouched, changeBetween_self, nil_append]
      · rw [status?_congr hevaluated.devices (hother device' hdevice), changeBetween_self,
          nil_append]
    · by_cases hdevice : transition.context.deviceId = device'
      · subst hdevice
        rw [huntouched] at hstale
        right
        refine ⟨hstale, ?_⟩
        rw [hcolumns, ← huntouched]
        exact Function.update_self _ _ _
      · rw [hother device' hdevice]
        exact hswept.columns device'
  · cases h
    exact hswept

/-- A sweep that commits touched only stale devices, each of them once. -/
theorem applyOfflineTransitions_eq_ok {transitions : List OfflineTransition}
    {outcome : OfflineWriteOutcome}
    (hplan : ∀ t ∈ transitions, t.Planned)
    (h : s.applyOfflineTransitions p uuid now cutoff transitions = .ok (s', outcome)) :
    Swept cutoff s s' := by
  have hplan' : ∀ entry ∈ (orderBy (fun t : OfflineTransition =>
      toLex (t.context.tenantId, t.context.deviceId)) transitions).zipIdx, entry.1.Planned :=
    fun entry hentry => hplan _ (mem_orderBy.mp (fst_mem_of_mem_zipIdx hentry))
  unfold applyOfflineTransitions at h
  -- The loop keeps `Swept` between the store at its start and the one it has reached.
  suffices hloop : ∀ entries : List (OfflineTransition × ℕ), 
      (∀ entry ∈ entries, entry.1.Planned) → ∀ acc, Swept cutoff s acc.1 →
      entries.foldlM (offlineTransition p uuid now cutoff) acc = .ok (s', outcome) →
      Swept cutoff s s' from hloop _ hplan' _ (.refl cutoff s) h
  intro entries
  induction entries with
  | nil =>
    intro _ acc hacc hfold
    cases hfold
    exact hacc
  | cons entry entries ih =>
    intro hentries acc hacc hfold
    rw [foldlM_cons] at hfold
    obtain ⟨acc', hentry, hrest⟩ := of_bind_ok hfold
    exact ih (fun e he => hentries e (mem_cons_of_mem _ he)) acc'
      (hacc.offlineTransition (hentries entry mem_cons_self) hentry) hrest

end

end PresenceStore

namespace DeviceIngressApplication

variable {s : PresenceStore} {snapshot : Except String RuleCache} {now observedAt : ℤ}

theorem plannedFor_of_prepareEvaluation {context : DeviceIngressContext} {newStatus : String}
    {plan : Option DeviceRuleEvaluation}
    (h : prepareEvaluation context newStatus snapshot observedAt = .ok plan) :
    PlannedFor context.tenantId context.deviceId context.status newStatus plan := by
  unfold prepareEvaluation at h
  unfold PlannedFor
  split_ifs at h ⊢ with heq
  · cases h
    rfl
  · cases snapshot with
    | error e => cases h
    | ok cache =>
      cases h
      rfl

theorem planned_of_prepareWrite {call : HeartbeatCall} {write : HeartbeatWrite}
    (h : prepareWrite s call snapshot observedAt = .ok (some write)) :
    ({ call with write := some write } : HeartbeatCall).Planned := by
  intro write' hwrite'
  obtain rfl := Option.some.inj hwrite'
  obtain ⟨context?, hcontext, hrest⟩ := of_bind_ok h
  cases context? with
  | none => cases hrest
  | some context =>
    obtain ⟨plan, hplan, hreturn⟩ := of_bind_ok hrest
    cases hreturn
    obtain ⟨htenant, hdevice⟩ := ingressContext_eq_ok hcontext
    rw [← htenant, ← hdevice]
    exact plannedFor_of_prepareEvaluation hplan

theorem planned_of_prepareSweep {timeoutSecs : ℕ} {sweep : OfflineSweep}
    (h : prepareSweep s timeoutSecs snapshot now observedAt = .ok sweep) :
    ∀ t ∈ sweep.transitions, t.Planned := by
  unfold prepareSweep at h
  split at h
  next => cases h
  next cutoff hcutoff =>
    obtain ⟨candidates, -, hrest⟩ := of_bind_ok h
    obtain ⟨transitions, htransitions, hreturn⟩ := of_bind_ok hrest
    cases hreturn
    intro t ht
    obtain ⟨context, -, hprepared⟩ :=
      exists_left_of_forall₂ (forall₂_of_mapM_eq_ok htransitions) ht
    obtain ⟨plan, hplan, hreturn⟩ := of_bind_ok hprepared
    cases hreturn
    exact plannedFor_of_prepareEvaluation hplan

end DeviceIngressApplication

namespace PresenceSystem

open DeviceIngressApplication PresenceStore

variable {p : Platform} {sys : PresenceSystem} {tenant device : String}

/-- Every write in flight evaluates the change it makes, and `last_seen` is the time
of the last heartbeat that was committed. -/
structure Invariant (sys : PresenceSystem) : Prop where
  writes : ∀ call ∈ sys.heartbeats, call.Planned
  transitions : ∀ sweep ∈ sys.sweeps, ∀ t ∈ sweep.transitions, t.Planned
  lastSeen : ∀ device,
    (sys.store.columns device).lastSeen = (sys.lastHeartbeat device).map timestampMicros

theorem invariant_start (store : Store) (columns : String → DeviceColumns) :
    (start store columns).Invariant where
  writes _ h := absurd h not_mem_nil
  transitions _ h := absurd h not_mem_nil
  lastSeen _ := rfl

/-- What a step does to the store: nothing, a heartbeat, a sweep, or a step of the
rule runtime. -/
inductive StoreEffect (p : Platform) (sys : PresenceSystem) : PresenceSystem → Prop
  | kept {sys' : PresenceSystem} (store : sys'.store = sys.store) (beats : sys'.beats = sys.beats) :
      StoreEffect p sys sys'
  | beat {sys' : PresenceSystem} (call : HeartbeatCall) (hcall : call ∈ sys.heartbeats)
      (write : HeartbeatWrite) (hwrite : call.write = some write) (uuid : ℕ → String) (now : ℤ)
      (count : ℕ) (commit : sys.store.applyHeartbeat p uuid now call.tenantId call.deviceId write =
        .ok (sys'.store, ⟨true, count⟩))
      (beats : sys'.beats = ⟨call.deviceId, write.observedAt⟩ :: sys.beats) : StoreEffect p sys sys'
  | swept {sys' : PresenceSystem} (sweep : OfflineSweep) (hsweep : sweep ∈ sys.sweeps)
      (uuid : ℕ → ℕ → String) (now : ℕ → ℤ) (outcome : OfflineWriteOutcome)
      (commit : sys.store.applyOfflineTransitions p uuid now sweep.cutoff sweep.transitions =
        .ok (sys'.store, outcome)) (beats : sys'.beats = sys.beats) : StoreEffect p sys sys'
  | ruled {sys' : PresenceSystem} (step : RuleStep) (henabled : sys.enabled (.rules step))
      (store : sys'.store = { sys.store with rules := sys.store.rules.apply p step })
      (beats : sys'.beats = sys.beats) : StoreEffect p sys sys'

theorem apply_effect (p : Platform) {step : PresenceStep} (henabled : sys.enabled step) :
    StoreEffect p sys (sys.apply p step) := by
  cases step with
  | heartbeat => exact .kept rfl rfl
  | readContext index snapshot now =>
    simp only [apply]
    split
    next => split <;> exact .kept rfl rfl
    next => exact .kept rfl rfl
  | applyHeartbeat index uuid now =>
    simp only [apply]
    split
    next call hcall =>
      split
      next write hwrite =>
        split
        next store count hcommit =>
          exact .beat call (mem_of_getElem? hcall) write hwrite uuid now count hcommit rfl
        next => exact .kept rfl rfl
        next => exact .kept rfl rfl
      next => exact .kept rfl rfl
    next => exact .kept rfl rfl
  | readCandidates timeoutSecs snapshot now observedAt =>
    simp only [apply]
    split <;> exact .kept rfl rfl
  | applyOfflineTransitions index uuid now =>
    simp only [apply]
    split
    next sweep hsweep =>
      split
      next store outcome hcommit =>
        exact .swept sweep (mem_of_getElem? hsweep) uuid now outcome hcommit rfl
      next => exact .kept rfl rfl
    next => exact .kept rfl rfl
  | rules step => exact .ruled step henabled rfl rfl

/-- A step evaluates exactly the changes it makes to the stored statuses. -/
theorem Invariant.evaluated (h : sys.Invariant) {step : PresenceStep} (henabled : sys.enabled step) :
    Evaluated sys.store (sys.apply p step).store := by
  cases apply_effect p henabled with
  | kept store _ =>
    rw [store]
    exact (Swept.refl 0 _).toEvaluated
  | beat call hcall write hwrite uuid now count commit _ =>
    exact (applyHeartbeat_eq_ok (h.writes call hcall write hwrite) commit).1
  | swept sweep hsweep uuid now outcome commit _ =>
    exact (applyOfflineTransitions_eq_ok (h.transitions sweep hsweep) commit).toEvaluated
  | ruled step henabled store _ =>
    rw [store]
    refine ⟨apply_devices step, fun tenant device => ?_⟩
    have hstatus : ({ sys.store with rules := sys.store.rules.apply p step } :
        PresenceStore).status? tenant device = sys.store.status? tenant device :=
      status?_congr (apply_devices step) rfl
    rw [hstatus, changeBetween_self, nil_append]
    refine statusChanges_apply ?_ tenant device
    rintro uuid now tenant device plan rfl
    exact henabled

theorem Invariant.writes_apply (h : sys.Invariant) (step : PresenceStep) :
    ∀ call ∈ (sys.apply p step).heartbeats, call.Planned := by
  have herase : ∀ index, ∀ call ∈ sys.heartbeats.eraseIdx index, call.Planned :=
    fun index call hcall => h.writes call (mem_of_mem_eraseIdx hcall)
  have hset : ∀ index, ∀ new : HeartbeatCall, new.Planned →
      ∀ call ∈ sys.heartbeats.set index new, call.Planned := by
    intro index new hnew call hcall
    rcases mem_or_eq_of_mem_set hcall with hcall | rfl
    · exact h.writes call hcall
    · exact hnew
  cases step with
  | heartbeat tenant device reported firmware uptimeSeconds =>
    intro call hcall
    rcases mem_append.mp hcall with hcall | hcall
    · exact h.writes call hcall
    · obtain rfl := mem_singleton.mp hcall
      exact HeartbeatCall.planned_of_unread rfl
  | readContext index snapshot now =>
    simp only [apply]
    split
    next call hcall =>
      split
      next write _ hprepared => exact hset index _ (planned_of_prepareWrite hprepared)
      next => exact herase index
      next => exact h.writes
    next => exact h.writes
  | applyHeartbeat index uuid now =>
    simp only [apply]
    split
    next call hcall =>
      split
      next write hwrite =>
        split
        next => exact herase index
        next =>
          simp only [retry]
          split
          · exact herase index
          · exact hset index _ (HeartbeatCall.planned_of_unread rfl)
        next => exact herase index
      next => exact h.writes
    next => exact h.writes
  | readCandidates timeoutSecs snapshot now observedAt =>
    simp only [apply]
    split <;> exact h.writes
  | applyOfflineTransitions index uuid now =>
    simp only [apply]
    split
    next => split <;> exact h.writes
    next => exact h.writes
  | rules step => exact h.writes

theorem Invariant.transitions_apply (h : sys.Invariant) (step : PresenceStep) :
    ∀ sweep ∈ (sys.apply p step).sweeps, ∀ t ∈ sweep.transitions, t.Planned := by
  cases step with
  | heartbeat tenant device reported firmware uptimeSeconds => exact h.transitions
  | readContext index snapshot now =>
    simp only [apply]
    split
    next => split <;> exact h.transitions
    next => exact h.transitions
  | applyHeartbeat index uuid now =>
    simp only [apply]
    split
    next =>
      split
      next => split <;> exact h.transitions
      next => exact h.transitions
    next => exact h.transitions
  | readCandidates timeoutSecs snapshot now observedAt =>
    simp only [apply]
    split
    next sweep hprepared =>
      intro sweep' hsweep'
      rcases mem_append.mp hsweep' with hsweep' | hsweep'
      · exact h.transitions sweep' hsweep'
      · obtain rfl := mem_singleton.mp hsweep'
        exact planned_of_prepareSweep hprepared
    next => exact h.transitions
  | applyOfflineTransitions index uuid now =>
    have herase : ∀ sweep ∈ sys.sweeps.eraseIdx index, ∀ t ∈ sweep.transitions, t.Planned :=
      fun sweep hsweep => h.transitions sweep (mem_of_mem_eraseIdx hsweep)
    simp only [apply]
    split
    next => split <;> exact herase
    next => exact h.transitions
  | rules step => exact h.transitions

theorem Invariant.lastSeen_apply (h : sys.Invariant) {step : PresenceStep}
    (henabled : sys.enabled step) (device : String) :
    ((sys.apply p step).store.columns device).lastSeen =
      ((sys.apply p step).lastHeartbeat device).map timestampMicros := by
  unfold lastHeartbeat
  cases apply_effect p henabled with
  | kept store beats =>
    rw [store, beats]
    exact h.lastSeen device
  | beat call hcall write hwrite uuid now count commit beats =>
    rw [(applyHeartbeat_eq_ok (h.writes call hcall write hwrite) commit).2 device, beats,
      find?_cons]
    split_ifs with hdevice
    · simp [hdevice]
    · simp [hdevice, h.lastSeen device, lastHeartbeat]
  | swept sweep hsweep uuid now outcome commit beats =>
    have hswept := applyOfflineTransitions_eq_ok (h.transitions sweep hsweep) commit
    rw [beats]
    rcases hswept.columns device with hcolumns | ⟨-, hcolumns⟩ <;> rw [hcolumns]
    · exact h.lastSeen device
    · exact h.lastSeen device
  | ruled step henabled store beats =>
    rw [store, beats]
    exact h.lastSeen device

theorem Invariant.step (h : sys.Invariant) {step : PresenceStep} (henabled : sys.enabled step) :
    (sys.apply p step).Invariant where
  writes := h.writes_apply step
  transitions := h.transitions_apply step
  lastSeen := h.lastSeen_apply henabled

def changesAlong : List (Option String) → List StatusChange
  | old :: new :: rest => changeBetween old new ++ changesAlong (new :: rest)
  | _ => []

def statuses (p : Platform) (tenant device : String) :
    PresenceSystem → List PresenceStep → List (Option String)
  | sys, [] => [sys.store.status? tenant device]
  | sys, step :: steps =>
    sys.store.status? tenant device :: statuses p tenant device (sys.apply p step) steps

theorem changesAlong_statuses_cons (sys : PresenceSystem) (step : PresenceStep)
    (steps : List PresenceStep) :
    changesAlong (statuses p tenant device sys (step :: steps)) =
      changeBetween (sys.store.status? tenant device)
        ((sys.apply p step).store.status? tenant device) ++
        changesAlong (statuses p tenant device (sys.apply p step) steps) := by
  cases steps <;> rfl

theorem statusChanges_run {steps : List PresenceStep} {last : PresenceSystem}
    (h : (machine p).Run sys steps last) (hinv : sys.Invariant) (tenant device : String) :
    last.store.rules.statusChanges tenant device =
      (changesAlong (statuses p tenant device sys steps)).reverse ++
        sys.store.rules.statusChanges tenant device := by
  induction h with
  | nil sys => rfl
  | @cons sys last step steps henabled hrest ih =>
    have hstep := (hinv.evaluated (p := p) henabled).changes tenant device
    rw [ih (hinv.step henabled), changesAlong_statuses_cons, reverse_append, append_assoc]
    congr 1
    rw [reverse_changeBetween]
    exact hstep

/-- A device that the last committed heartbeat shows alive is not touched by a sweep. -/
theorem Invariant.sweep_kept (h : sys.Invariant) {index : ℕ} {sweep : OfflineSweep}
    (hsweep : sys.sweeps[index]? = some sweep) (uuid : ℕ → ℕ → String) (now : ℕ → ℤ) {seen : ℤ}
    (hseen : sys.lastHeartbeat device = some seen) (hcutoff : sweep.cutoff ≤ seen) :
    (sys.apply p (.applyOfflineTransitions index uuid now)).store.columns device =
      sys.store.columns device := by
  simp only [apply, hsweep]
  split
  next store outcome hcommit =>
    have hswept := applyOfflineTransitions_eq_ok
      (h.transitions sweep (mem_of_getElem? hsweep)) hcommit
    rcases hswept.columns device with hcolumns | ⟨hstale, -⟩
    · exact hcolumns
    · have hlate := timestampMicros_mono hcutoff
      simp only [DeviceColumns.stale, h.lastSeen, hseen, map_some, any_some,
        Bool.and_eq_true, decide_eq_true_eq] at hstale
      omega
  next => rfl

theorem le_lastHeartbeat (h : (sys.beats.filter (·.deviceId = device)).Pairwise
      fun later earlier => earlier.observedAt ≤ later.observedAt)
    {beat : Beat} (hbeat : beat ∈ sys.beats) (hdevice : beat.deviceId = device) :
    ∃ seen, sys.lastHeartbeat device = some seen ∧ beat.observedAt ≤ seen := by
  have hmem : beat ∈ sys.beats.filter (·.deviceId = device) :=
    List.mem_filter.mpr ⟨hbeat, decide_eq_true hdevice⟩
  unfold lastHeartbeat
  rw [← head?_filter]
  cases hfilter : sys.beats.filter (·.deviceId = device) with
  | nil =>
    rw [hfilter] at hmem
    cases hmem
  | cons last rest =>
    rw [hfilter] at h hmem
    refine ⟨last.observedAt, rfl, ?_⟩
    rcases mem_cons.mp hmem with rfl | hrest
    · exact le_rfl
    · exact (pairwise_cons.mp h).1 beat hrest

/-- In every interleaving of heartbeats, sweeps and deliveries, status rules are
evaluated on the changes of the stored status, in their order and on nothing else;
and a sweep leaves a device as it is when its last committed heartbeat, or any of its
heartbeats if they were committed in the order they were observed, is not before the
cutoff. -/
theorem status_evaluated_once {store : Store} {columns : String → DeviceColumns}
    {steps : List PresenceStep} (h : (machine p).Run (start store columns) steps sys) :
    (∀ tenant device, (sys.store.rules.statusChanges tenant device).reverse =
      changesAlong (statuses p tenant device (start store columns) steps)) ∧
    ∀ index sweep, sys.sweeps[index]? = some sweep → ∀ uuid now device,
      ((∃ seen, sys.lastHeartbeat device = some seen ∧ sweep.cutoff ≤ seen) ∨
        ((sys.beats.filter (·.deviceId = device)).Pairwise
            fun later earlier => earlier.observedAt ≤ later.observedAt) ∧
          ∃ beat ∈ sys.beats, beat.deviceId = device ∧ sweep.cutoff ≤ beat.observedAt) →
      (sys.apply p (.applyOfflineTransitions index uuid now)).store.columns device =
        sys.store.columns device := by
  have hstart := invariant_start store columns
  have hinv : sys.Invariant := h.invariant (fun _ _ hi ha => hi.step ha) hstart
  refine ⟨fun tenant device => ?_, fun index sweep hsweep uuid now device halive => ?_⟩
  · rw [statusChanges_run h hstart tenant device, reverse_append, reverse_reverse]
    rfl
  · obtain ⟨seen, hseen, hcutoff⟩ : ∃ seen, sys.lastHeartbeat device = some seen ∧
        sweep.cutoff ≤ seen := by
      rcases halive with hseen | ⟨hordered, beat, hbeat, hdevice, hcutoff⟩
      · exact hseen
      · obtain ⟨seen, hseen, hle⟩ := le_lastHeartbeat hordered hbeat hdevice
        exact ⟨seen, hseen, hcutoff.trans hle⟩
    exact hinv.sweep_kept hsweep uuid now hseen hcutoff

/-- The sample device comes online, a sweep reads it as stale, and a heartbeat
commits before the sweep writes. -/
def overtakenSweep : List PresenceStep :=
  [.heartbeat "tenant" "device" "online" "1.0" 5,
    .readContext 0 (.ok (RuleSnapshotRecords.compile ⟨[], fun _ => none⟩)) 1000000000,
    .applyHeartbeat 0 (RuleSystem.labelled 'a') 1000000000,
    .readCandidates 60 (.ok (RuleSnapshotRecords.compile ⟨[], fun _ => none⟩)) 100000000000
      100000000000,
    .heartbeat "tenant" "device" "online" "1.0" 104,
    .readContext 0 (.ok (RuleSnapshotRecords.compile ⟨[], fun _ => none⟩)) 101000000000,
    .applyHeartbeat 0 (RuleSystem.labelled 'b') 101000000000]

theorem overtakenSweep_run : ∃ sys, (machine default).Run
    (start Store.sample fun _ => ⟨"offline", "1.0", 0, none, 0⟩) overtakenSweep sys ∧
      (sys.sweeps[0]?).map (·.cutoff) = some 40000000000 ∧ sys.lastHeartbeat "device" = some 101000000000 := by
  refine ⟨_, .cons trivial (.cons trivial (.cons trivial (.cons trivial (.cons trivial
    (.cons trivial (.cons trivial (.nil _))))))), ?_, ?_⟩
  · decide +kernel
  · decide +kernel

theorem status_evaluated_once_overtaken : ∃ sys, (machine default).Run
    (start Store.sample fun _ => ⟨"offline", "1.0", 0, none, 0⟩) overtakenSweep sys ∧
      (sys.store.rules.statusChanges "tenant" "device").reverse = [⟨"offline", "online"⟩] ∧
      (sys.apply default (.applyOfflineTransitions 0 (fun _ => RuleSystem.labelled 'c')
        fun _ => 102000000000)).store.columns "device" = sys.store.columns "device" := by
  obtain ⟨sys, hrun, hread, hseen⟩ := overtakenSweep_run
  obtain ⟨honce, hkept⟩ := status_evaluated_once hrun
  refine ⟨sys, hrun, (honce "tenant" "device").trans (by decide +kernel), ?_⟩
  obtain ⟨sweep, hsweep, hcutoff⟩ := map_eq_some_iff.mp hread
  exact hkept 0 sweep hsweep _ _ "device" (.inl ⟨_, hseen, by omega⟩)

end PresenceSystem

end Extrittio
