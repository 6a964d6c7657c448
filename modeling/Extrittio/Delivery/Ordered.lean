import Extrittio.Delivery.Updates

/-!
Ordered delivery: what was claimed first is executed first, and executed with
success. Under it the last update that is delivered decides the value of an
alert; whether that is the last observed value depends on which updates the
outbox drops.
-/
namespace Extrittio

open Relational Transition List Outbox RuleSystem
open OutboxRow hiding id

def RuleSystem.taken (sys : RuleSystem) (workerId uuid : String) (limit : ℤ) (lease : ℕ) (now : ℤ) :
    List OutboxEventRecord :=
  match (OutboxWorker.claimBatch workerId uuid limit lease now sys.store.outbox).2 with
  | .ok events => events
  | .error _ => []

/-- The rule system, with what was claimed and is not yet executed in claim order. -/
structure OrderedSystem where
  sys : RuleSystem
  queue : List OutboxEventRecord

namespace OrderedSystem

open AlertIdentity

def start (store : Store) : OrderedSystem := ⟨RuleSystem.start store, []⟩

def apply (p : Platform) (line : OrderedSystem) (step : RuleStep) : OrderedSystem where
  sys := line.sys.apply p step
  queue :=
    match step with
    | .claim workerId uuid limit lease now =>
      line.queue ++ line.sys.taken workerId uuid limit lease now
    | .attempt .. => line.queue.tail
    | _ => line.queue

/-- Observations that do not show the alert's rule recovered, claims, and
executions that succeed, in the order of the claims. -/
def enabled (p : Platform) (a : AlertIdentity) (line : OrderedSystem) : RuleStep → Prop
  | .observe uuid now tenant device plan =>
    line.sys.enabled (.observe uuid now tenant device plan) ∧
    ∀ prepared runtime,
      line.sys.store.prepareEvaluation tenant device plan = .ok (prepared, runtime) →
        .resolveAlert a.tenant a.id ∉ (prepared.decide p runtime).deliveries
  | .attempt external now event =>
    line.queue.head? = some event ∧
      (RuleDelivery.attempt p external now event line.sys.store).2.1 = .ok ()
  | .transition .. | .transitionMany .. | .prune .. => False
  | step => line.sys.enabled step

def machine (p : Platform) (a : AlertIdentity) : Machine OrderedSystem RuleStep :=
  ⟨enabled p a, apply p⟩

/-- Values do not return while they are undelivered: an observation whose update
has the key of an undelivered one repeats the value before it. Clocks run, and no
claimed update outlives its lease. -/
def valueGuard (p : Platform) (a : AlertIdentity) (line : OrderedSystem) : RuleStep → Prop
  | .observe _ now tenant device plan =>
    ∀ prepared runtime,
      line.sys.store.prepareEvaluation tenant device plan = .ok (prepared, runtime) →
      ∀ value, a.carried p prepared runtime = some value →
        ((∃ r ∈ line.sys.store.outbox, r.activeSlot = some (a.tenant, "rule.update_alert_value",
            idempotencyKeyForAction p (.updateAlertValue a.tenant a.id value))) →
          a.lastValue p line.sys = some value) ∧
        ∀ r ∈ line.sys.store.outbox, a.Waiting p r → r.availableAt < now
  | .claim _ _ _ lease now =>
    ∀ r ∈ line.sys.store.outbox, (a.rowUpdate p r).isSome = true → r.status = .processing →
      ∀ lockedAt ∈ r.lockedAt, saturatingSub now (leaseMicros lease) < lockedAt
  | _ => True

/-- The value that the alert has once everything claimed is delivered. -/
def claimedValue (p : Platform) (a : AlertIdentity) (line : OrderedSystem) : Option String :=
  (line.queue.filterMap (a.eventUpdate p)).getLast?.or (a.currentValue line.sys.store)

/-- The alert ends with the value: the latest update that waits has it, or none
waits and the last claimed one has it. -/
structure EndsWith (p : Platform) (a : AlertIdentity) (line : OrderedSystem) (value : String) :
    Prop where
  waiting : ∀ r ∈ line.sys.store.outbox, a.Waiting p r →
    (∀ r' ∈ line.sys.store.outbox, a.Waiting p r' → r'.dueKey ≤ r.dueKey) →
    a.rowUpdate p r = some value
  claimed : (∀ r ∈ line.sys.store.outbox, ¬a.Waiting p r) → line.claimedValue p a = some value

/-- The updates of the alert through their stages, and the value they lead to. -/
structure Tracks (p : Platform) (a : AlertIdentity) (line : OrderedSystem) : Prop where
  opened : a.OpenIn line.sys.store
  issued : ∀ e ∈ line.sys.issued, ∃ r ∈ line.sys.store.outbox, e.Of r
  queued : ∀ e ∈ line.queue, e ∈ line.sys.issued
  results : ∀ x ∈ line.sys.results, x.1 ∈ line.sys.issued ∧ x.2.1 = .ok ()
  unresolved : ∀ r ∈ line.sys.store.outbox, r.isActive = true →
    decodeEvent p r.tenantId r.eventType r.payload ≠ .ok (.resolveAlert a.tenant a.id)
  unresolvedQueue : ∀ e ∈ line.queue,
    decodeEvent p e.tenantId e.eventType e.payload ≠ .ok (.resolveAlert a.tenant a.id)
  statuses : ∀ r ∈ line.sys.store.outbox, (a.rowUpdate p r).isSome = true → r.isActive = true →
    r.status = .pending ∨ r.status = .processing
  waiting : ∀ r ∈ line.sys.store.outbox, a.Waiting p r →
    r.attempts < r.maxAttempts ∧ ∀ e ∈ line.sys.issued, e.id ≠ r.id
  held : ∀ e ∈ line.queue, (a.eventUpdate p e).isSome = true →
    (∃ r ∈ line.sys.store.outbox, r.id = e.id ∧ r.status = .processing) ∧
      ∀ x ∈ line.sys.results, x.1.id ≠ e.id
  distinct : ((line.queue.filter fun e => (a.eventUpdate p e).isSome).map
    OutboxEventRecord.id).Nodup
  value : ∀ value, a.lastValue p line.sys = some value → EndsWith p a line value

/-- The alert is open, and nothing undelivered would change it. -/
structure Quiet (p : Platform) (a : AlertIdentity) (s : Store) : Prop where
  opened : a.OpenIn s
  outbox : ∀ r ∈ s.outbox, r.isActive = true → a.rowUpdate p r = none ∧
    decodeEvent p r.tenantId r.eventType r.payload ≠ .ok (.resolveAlert a.tenant a.id)

variable {p : Platform} {a : AlertIdentity}

theorem Quiet.tracks {s : Store} (h : Quiet p a s) :
    Tracks p a (start s) where
  opened := h.opened
  issued := by simp [start, RuleSystem.start]
  queued := by simp [start]
  results := by simp [start, RuleSystem.start]
  unresolved r hr hactive := (h.outbox r hr hactive).2
  unresolvedQueue := by simp [start]
  statuses r hr hupdate hactive := by simp [(h.outbox r hr hactive).1] at hupdate
  waiting r hr hwaiting := by
    have hactive : r.isActive := by simp [isActive, hwaiting.1]
    have hupdate := hwaiting.2
    simp [(h.outbox r hr hactive).1] at hupdate
  held := by simp [start]
  distinct := by simp [start]
  value value hvalue := by simp [lastValue, start, RuleSystem.start] at hvalue

/-- Once nothing is undelivered, the alert has the value of the last observation. -/
theorem Tracks.currentValue_eq {line : OrderedSystem}
    (h : Tracks p a line) (hquiet : ∀ r ∈ line.sys.store.outbox, r.isActive = false) {value : String}
    (hvalue : a.lastValue p line.sys = some value) : a.currentValue line.sys.store = some value := by
  have hwaiting : ∀ r ∈ line.sys.store.outbox, ¬a.Waiting p r := by
    intro r hr hwaiting
    have hactive := hquiet r hr
    simp [isActive, hwaiting.1] at hactive
  have hqueue : line.queue.filterMap (a.eventUpdate p) = [] := by
    rw [filterMap_eq_nil_iff]
    intro e he
    by_contra hsome
    obtain ⟨⟨r, hr, -, hstatus⟩, -⟩ := h.held e he (Option.isSome_iff_ne_none.mpr hsome)
    have hactive := hquiet r hr
    simp [isActive, hstatus] at hactive
  have hclaimed := (h.value value hvalue).claimed hwaiting
  rwa [claimedValue, hqueue, getLast?_nil, Option.none_or] at hclaimed

section

variable {p : Platform} {a : AlertIdentity} {line line' : OrderedSystem} {value : String}

theorem EndsWith.of_same (h : EndsWith p a line value)
    (hwaiting : ∀ r, r ∈ line'.sys.store.outbox ∧ a.Waiting p r ↔
      r ∈ line.sys.store.outbox ∧ a.Waiting p r)
    (hclaimed : line'.claimedValue p a = line.claimedValue p a) : EndsWith p a line' value where
  waiting r hr hw hmax := by
    obtain ⟨hr', hw'⟩ := (hwaiting r).mp ⟨hr, hw⟩
    refine h.waiting r hr' hw' fun x hx hxw => ?_
    obtain ⟨hx', hxw'⟩ := (hwaiting x).mpr ⟨hx, hxw⟩
    exact hmax x hx' hxw'
  claimed hnone := by
    rw [hclaimed]
    refine h.claimed fun x hx hxw => ?_
    obtain ⟨hx', hxw'⟩ := (hwaiting x).mpr ⟨hx, hxw⟩
    exact hnone x hx' hxw'

section

variable {uuid : ℕ → String} {now : ℤ} {tenant device : String}
  {plan prepared : DeviceRuleEvaluation} {runtime : DeviceRuleRuntime} {rows : List OutboxRow}

theorem update_mem_prepared_iff {s : Store} (h : a.OpenIn s) (hne : a.id ≠ "")
    (hplan : plan.Prepared)
    (hprepare : s.prepareEvaluation tenant device plan = .ok (prepared, runtime)) :
    .updateAlertValue a.tenant a.id value ∈ (prepared.decide p runtime).deliveries ↔
      a.carried p prepared runtime = some value := by
  obtain ⟨rfl, rfl, target, -, heq⟩ := Store.prepareEvaluation_eq_ok hprepare
  cases heq
  have hdistinct : (s.retarget target plan).snapshot.Distinct := hplan.distinct
  exact h.update_mem_deliveries_iff hne hdistinct

variable {r : OutboxRow}

theorem carried_of_rowUpdate {s : Store} (h : a.OpenIn s) (hne : a.id ≠ "") (hplan : plan.Prepared)
    (hprepare : s.prepareEvaluation tenant device plan = .ok (prepared, runtime))
    (hsub : rows.Sublist ((prepared.decide p runtime).deliveries.zipIdx.map
      (ofAction p uuid now))) (hr : r ∈ rows)
    (hupdate : a.rowUpdate p r = some value) : a.carried p prepared runtime = some value := by
  obtain ⟨action, haction, hcarries, -⟩ := carries_of_sublist hsub hr
  rw [rowUpdate_of_carries hcarries, updateOf_eq_some] at hupdate
  rw [hupdate] at haction
  exact (update_mem_prepared_iff h hne hplan hprepare).mp haction

theorem isSome_rowUpdate_of_slot (hdigest : ∀ text, ':' ∉ (p.sha256Hex text).toList)
    {action : PendingAction} (hcarries : r.Carries p action)
    (hslot : r.activeSlot = some (a.tenant, "rule.update_alert_value",
      idempotencyKeyForAction p (.updateAlertValue a.tenant a.id value))) :
    (a.rowUpdate p r).isSome := by
  obtain ⟨-, htenant, htype, hkey⟩ := activeSlot_eq_some hslot
  rw [hcarries.tenantId] at htenant
  rw [hcarries.eventType] at htype
  rw [hcarries.key] at hkey
  rw [rowUpdate_of_carries hcarries]
  cases action with
  | updateAlertValue t id current =>
    have hid : id = a.id := eq_of_updateKey hdigest (Option.some.inj hkey)
    have ht : t = a.tenant := htenant
    simp [updateOf, hid, ht]
  | createAlert | resolveAlert | sendWebhook | sendCommand | updateCooldown | updateZoneEntry =>
    simp [eventTypeForAction] at htype

theorem availableAt_of_sublist (hsub : rows.Sublist ((prepared.decide p runtime).deliveries.zipIdx.map
    (ofAction p uuid now))) (hr : r ∈ rows) : r.availableAt = now := by
  obtain ⟨entry, -, rfl⟩ := mem_map.mp (hsub.subset hr)
  rfl

/-- An observation that carries a value makes it the one that the alert ends with. -/
theorem EndsWith.of_carried (h : Tracks p a line) (hne : a.id ≠ "")
    (hdigest : ∀ text, ':' ∉ (p.sha256Hex text).toList) (hplan : plan.Prepared)
    (huuid : Function.Injective uuid) (hfresh : ∀ i, ∀ r ∈ line.sys.store.outbox, r.id ≠ uuid i)
    (hprepare : line.sys.store.prepareEvaluation tenant device plan = .ok (prepared, runtime))
    (hrows : line'.sys.store.outbox = line.sys.store.outbox.enqueueRows
      ((prepared.decide p runtime).deliveries.zipIdx.map (ofAction p uuid now)))
    (happended : line'.sys.store.outbox.table.rows = line.sys.store.outbox.table.rows ++ rows)
    (hsub : rows.Sublist ((prepared.decide p runtime).deliveries.zipIdx.map
      (ofAction p uuid now)))
    (hclaimed : line'.claimedValue p a = line.claimedValue p a)
    (hguard : valueGuard p a line (.observe uuid now tenant device plan))
    (hcarried : a.carried p prepared runtime = some value) : EndsWith p a line' value := by
  obtain ⟨hrepeats, hclock⟩ := hguard prepared runtime hprepare value hcarried
  have hmem : ∀ {r}, r ∈ line'.sys.store.outbox ↔ r ∈ line.sys.store.outbox ∨ r ∈ rows :=
    mem_of_append happended
  have hdelivery := (update_mem_prepared_iff h.opened hne hplan hprepare).mpr hcarried
  by_cases hnew : ∃ r ∈ rows, a.Waiting p r
  · obtain ⟨r, hr, hw⟩ := hnew
    refine ⟨fun x hx hxw hmax => ?_, fun hnone => absurd hw (hnone r (hmem.mpr (.inr hr)))⟩
    rcases hmem.mp hx with hold | hnew
    · -- What was waiting before is due before what is appended now.
      have hlt : x.dueKey < r.dueKey := by
        apply dueKey_lt_of_availableAt_lt
        rw [availableAt_of_sublist hsub hr]
        exact hclock x hold hxw
      exact absurd (hmax r (hmem.mpr (.inr hr)) hw) (not_le.mpr hlt)
    · obtain ⟨current, hcurrent⟩ := Option.isSome_iff_exists.mp hxw.2
      rw [hcurrent, ← carried_of_rowUpdate h.opened hne hplan hprepare hsub hnew hcurrent, hcarried]
  · -- The update was dropped: its slot was taken before, so the value is repeated.
    obtain ⟨r, hr, hslot⟩ := exists_slot_of_delivery (p := p) huuid hfresh now hdelivery
    rw [← hrows] at hr
    have hlast : a.lastValue p line.sys = some value := by
      rcases hmem.mp hr with hold | hadded
      · exact hrepeats ⟨r, hold, hslot⟩
      · obtain ⟨action, -, hcarries, hstatus, -⟩ := carries_of_sublist hsub hadded
        exact absurd ⟨r, hadded, hstatus, isSome_rowUpdate_of_slot hdigest hcarries hslot⟩ hnew
    refine (h.value value hlast).of_same (fun x => ⟨?_, ?_⟩) hclaimed
    · rintro ⟨hx, hxw⟩
      rcases hmem.mp hx with hold | hadded
      · exact ⟨hold, hxw⟩
      · exact absurd ⟨x, hadded, hxw⟩ hnew
    · exact fun ⟨hx, hxw⟩ => ⟨hmem.mpr (.inl hx), hxw⟩

theorem Tracks.observe (h : Tracks p a line) (hne : a.id ≠ "")
    (hdigest : ∀ text, ':' ∉ (p.sha256Hex text).toList)
    (henabled : enabled p a line (.observe uuid now tenant device plan))
    (hguard : valueGuard p a line (.observe uuid now tenant device plan)) :
    Tracks p a (line.apply p (.observe uuid now tenant device plan)) := by
  obtain ⟨⟨hplan, huuid, hfresh⟩, hunresolved⟩ := henabled
  show Tracks p a ⟨line.sys.observe p uuid now tenant device plan, line.queue⟩
  rcases line.sys.observe_effect p uuid now tenant device plan with
    heq | ⟨prepared, runtime, zoneEntries, rows, hprepare, hrows, hsub, heq⟩
  · rw [heq]
    exact h
  rw [heq]
  have hmem : ∀ {r}, r ∈ line.sys.store.outbox.enqueueRows _ ↔ r ∈ line.sys.store.outbox ∨ r ∈ rows :=
    mem_of_append hrows
  have hadded : ∀ r ∈ rows, r.attempts < r.maxAttempts ∧ ∀ e ∈ line.sys.issued, e.id ≠ r.id := by
    intro r hr
    obtain ⟨entry, -, rfl⟩ := mem_map.mp (hsub.subset hr)
    refine ⟨by show (0 : ℤ) < 10; decide, fun e he hid => ?_⟩
    obtain ⟨r', hr', hof⟩ := h.issued e he
    exact hfresh entry.2 r' hr' (hof.1.symm.trans hid)
  refine ⟨⟨h.opened.stored, h.opened.single⟩, ?_, h.queued, h.results, ?_, h.unresolvedQueue, ?_, ?_, ?_,
    h.distinct, ?_⟩
  · intro e he
    obtain ⟨r, hr, hof⟩ := h.issued e he
    exact ⟨r, hmem.mpr (.inl hr), hof⟩
  · intro r hr hactive
    rcases hmem.mp hr with hr | hr
    · exact h.unresolved r hr hactive
    · obtain ⟨action, haction, hcarries, -⟩ := carries_of_sublist hsub hr
      rw [hcarries.decode]
      rintro hresolve
      cases hresolve
      exact hunresolved prepared runtime hprepare haction
  · intro r hr hupdate hactive
    rcases hmem.mp hr with hr | hr
    · exact h.statuses r hr hupdate hactive
    · obtain ⟨_, -, -, hstatus, -⟩ := carries_of_sublist hsub hr
      exact .inl hstatus
  · intro r hr hwaiting
    rcases hmem.mp hr with hr | hr
    · exact h.waiting r hr hwaiting
    · exact hadded r hr
  · intro e he hupdate
    obtain ⟨⟨r, hr, hheld⟩, hresults⟩ := h.held e he hupdate
    exact ⟨⟨r, hmem.mpr (.inl hr), hheld⟩, hresults⟩
  · intro current hcurrent
    cases hcarried : a.carried p prepared runtime with
    | some carried =>
      have hlast : carried = current := by
        simpa [lastValue, findSome?_cons, hcarried] using hcurrent
      rw [← hlast]
      exact EndsWith.of_carried h hne hdigest hplan huuid hfresh hprepare rfl hrows hsub rfl hguard
        hcarried
    | none =>
      have hlast : a.lastValue p line.sys = some current := by
        simpa [lastValue, findSome?_cons, hcarried] using hcurrent
      refine (h.value current hlast).of_same (fun x => ⟨?_, ?_⟩) rfl
      · rintro ⟨hx, hxw⟩
        rcases hmem.mp hx with hold | hnew
        · exact ⟨hold, hxw⟩
        · obtain ⟨v, hv⟩ := Option.isSome_iff_exists.mp hxw.2
          simp [carried_of_rowUpdate h.opened hne hplan hprepare hsub hnew hv] at hcarried
      · exact fun ⟨hx, hxw⟩ => ⟨hmem.mpr (.inl hx), hxw⟩

end

section

variable {workerId uuid : String} {limit : ℤ} {lease : ℕ} {now : ℤ}

theorem claim_cases (sys : RuleSystem) (workerId uuid : String) (limit : ℤ) (lease : ℕ) (now : ℤ) :
    let cutoff := saturatingSub now (leaseMicros lease)
    let token := workerId ++ ":" ++ uuid
    (sys.claim workerId uuid limit lease now = sys ∧ sys.taken workerId uuid limit lease now = []) ∨
    ∃ outbox : Outbox,
      outbox.table.rows =
        sys.store.outbox.table.rows.map (sys.store.outbox.claimChange limit now cutoff token) ∧
      sys.taken workerId uuid limit lease now =
        (sys.store.outbox.claimSelection limit now cutoff).map (fun r => (r.claim now token).toRecord) ∧
      sys.claim workerId uuid limit lease now =
        { sys with
          store := { sys.store with outbox := outbox }
          issued := sys.taken workerId uuid limit lease now ++ sys.issued
          tokens := token :: sys.tokens } := by
  intro cutoff token
  by_cases hvalid : OutboxWorker.ValidClaim workerId limit lease
  · obtain ⟨outbox, hclaim, hrows⟩ := sys.store.outbox.claimBatch_eq workerId uuid limit lease now
    have htaken : sys.taken workerId uuid limit lease now =
        (sys.store.outbox.claimSelection limit now cutoff).map
          (fun r => (r.claim now token).toRecord) := by
      simp only [taken, OutboxWorker.claimBatch_of_valid hvalid hclaim]
      rfl
    refine .inr ⟨outbox, hrows, htaken, ?_⟩
    rw [htaken]
    simp only [RuleSystem.claim, OutboxWorker.claimBatch_of_valid hvalid hclaim]
    rfl
  · obtain ⟨e, hrefused⟩ := OutboxWorker.claimBatch_of_not_valid uuid now sys.store.outbox hvalid
    exact .inl ⟨by simp [RuleSystem.claim, hrefused], by simp [RuleSystem.taken, hrefused]⟩

variable {r : OutboxRow} {token : String}

theorem claimChange_of_update (h : Tracks p a line)
    (hguard : valueGuard p a line (.claim workerId uuid limit lease now))
    (hr : r ∈ line.sys.store.outbox) (hupdate : (a.rowUpdate p r).isSome) (token : String) :
    let cutoff := saturatingSub now (leaseMicros lease)
    let o := line.sys.store.outbox
    (r ∈ o.claimSelection limit now cutoff ∧ a.Waiting p r ∧
      o.claimChange limit now cutoff token r = r.claim now token) ∨
    (r ∉ o.claimSelection limit now cutoff ∧ o.claimChange limit now cutoff token r = r) := by
  intro cutoff o
  have hlocked : r.status = .processing → r.lockedAt.any (· ≤ cutoff) = false := by
    intro hstatus
    cases hlock : r.lockedAt with
    | none => rfl
    | some time =>
      have hlt : cutoff < time := hguard r hr hupdate hstatus time (by simp [hlock])
      simpa using hlt
  have hexhausted : r.isExhausted cutoff = false := by
    by_contra hx
    simp only [isExhausted, Bool.not_eq_false, Bool.and_eq_true, decide_eq_true_eq] at hx
    rw [hlocked hx.1.1] at hx
    simp at hx
  have hchange : o.claimChange limit now cutoff token r =
      if r.id ∈ (o.claimSelection limit now cutoff).map OutboxRow.id then r.claim now token else r := by
    simp [claimChange, hexhausted]
  rw [hchange]
  split_ifs with hid
  · have hsel := mem_claimSelection_of_id hr hid
    have helig := (mem_claimSelection hsel).2
    refine .inl ⟨hsel, ⟨?_, hupdate⟩, rfl⟩
    rcases h.statuses r hr hupdate (isActive_of_isEligible helig) with hp | hp
    · exact hp
    · simp [isEligible, hp, hlocked hp] at helig
  · exact .inr ⟨fun hsel => hid (mem_map_of_mem hsel), rfl⟩

theorem waiting_iff_of_claim (h : Tracks p a line)
    (hguard : valueGuard p a line (.claim workerId uuid limit lease now)) {outbox : Outbox}
    (hrows : outbox.table.rows = line.sys.store.outbox.table.rows.map
      (line.sys.store.outbox.claimChange limit now (saturatingSub now (leaseMicros lease)) token))
    (r : OutboxRow) :
    r ∈ outbox ∧ a.Waiting p r ↔ (r ∈ line.sys.store.outbox ∧ a.Waiting p r) ∧
      r ∉ line.sys.store.outbox.claimSelection limit now (saturatingSub now (leaseMicros lease)) := by
  rw [mem_iff, hrows, mem_map]
  constructor
  · rintro ⟨⟨x, hx, rfl⟩, hw⟩
    have hupdate := hw.2
    rw [rowUpdate_of_progress (progress_claimChange hx limit now _ _)] at hupdate
    rcases claimChange_of_update h hguard hx hupdate token with ⟨-, -, heq⟩ | ⟨hnot, heq⟩
    · rw [heq] at hw
      cases hw.1
    · rw [heq] at hw ⊢
      exact ⟨⟨hx, hw⟩, hnot⟩
  · rintro ⟨⟨hr, hw⟩, hnot⟩
    refine ⟨⟨r, hr, ?_⟩, hw⟩
    rcases claimChange_of_update h hguard hr hw.2 token with ⟨hsel, -⟩ | ⟨-, heq⟩
    · exact absurd hsel hnot
    · exact heq

theorem waiting_of_mem_claimSelection (h : Tracks p a line)
    (hguard : valueGuard p a line (.claim workerId uuid limit lease now))
    (hsel : r ∈ line.sys.store.outbox.claimSelection limit now
      (saturatingSub now (leaseMicros lease))) (hupdate : (a.rowUpdate p r).isSome) :
    a.Waiting p r := by
  rcases claimChange_of_update h hguard (mem_claimSelection hsel).1 hupdate "" with
    ⟨-, hw, -⟩ | ⟨hnot, -⟩
  · exact hw
  · exact absurd hsel hnot

theorem mem_claimSelection_of_waiting (h : Tracks p a line) {x : OutboxRow}
    (hr : r ∈ line.sys.store.outbox) (hw : a.Waiting p r) (hxw : a.Waiting p x)
    (hlt : r.dueKey < x.dueKey) {leaseCutoff : ℤ}
    (hx : x ∈ line.sys.store.outbox.claimSelection limit now leaseCutoff) :
    r ∈ line.sys.store.outbox.claimSelection limit now leaseCutoff := by
  have hdue := ((isEligible_of_pending hxw.1).mp (mem_claimSelection hx).2).2
  have helig : r.isEligible now leaseCutoff :=
    (isEligible_of_pending hw.1).mpr
      ⟨(h.waiting r hr hw).1, (availableAt_le_of_dueKey_lt hlt).trans hdue⟩
  exact mem_claimSelection_of_dueKey_lt hx hr helig (hw.tenantId.trans hxw.tenantId.symm) hlt

/-- If a claim takes the last update that waits, its value is the last it hands out. -/
theorem getLast?_claimSelection (h : Tracks p a line)
    (hguard : valueGuard p a line (.claim workerId uuid limit lease now)) {m : OutboxRow}
    (hsel : m ∈ line.sys.store.outbox.claimSelection limit now
      (saturatingSub now (leaseMicros lease))) (hvalue : a.rowUpdate p m = some value)
    (hmax : ∀ r ∈ line.sys.store.outbox, a.Waiting p r → r.dueKey ≤ m.dueKey) :
    ((line.sys.store.outbox.claimSelection limit now (saturatingSub now (leaseMicros lease))).filterMap
      (a.rowUpdate p)).getLast? = some value := by
  have hm := waiting_of_mem_claimSelection h hguard hsel (by simp [hvalue])
  refine getLast?_filterMap_of_sorted (claimSelection_sorted _ _ _ _) hsel hvalue ?_
  intro r hr hupdate
  have hw := waiting_of_mem_claimSelection h hguard hr hupdate
  exact claimKey_le (hw.tenantId.trans hm.tenantId.symm)
    (hmax r (mem_claimSelection hr).1 hw)

/-- Claims take the updates in the order in which they were asked for. -/
theorem EndsWith.claim (h : Tracks p a line)
    (hguard : valueGuard p a line (.claim workerId uuid limit lease now))
    (hlast : a.lastValue p line.sys = some value)
    (hrows : line'.sys.store.outbox.table.rows = line.sys.store.outbox.table.rows.map
      (line.sys.store.outbox.claimChange limit now (saturatingSub now (leaseMicros lease)) token))
    (halerts : line'.sys.store.alerts = line.sys.store.alerts)
    (hqueue : line'.queue = line.queue ++ (line.sys.store.outbox.claimSelection limit now
      (saturatingSub now (leaseMicros lease))).map fun r => (r.claim now token).toRecord) :
    EndsWith p a line' value := by
  have hends := h.value value hlast
  have hwaiting := waiting_iff_of_claim h hguard hrows
  constructor
  · intro r hr hw hmax
    obtain ⟨⟨hr', -⟩, hnot⟩ := (hwaiting r).mp ⟨hr, hw⟩
    refine hends.waiting r hr' hw fun x hx hxw => ?_
    by_contra hlt
    rw [not_le] at hlt
    have hx' : x ∈ line'.sys.store.outbox :=
      ((hwaiting x).mpr ⟨⟨hx, hxw⟩, fun hsel =>
        hnot (mem_claimSelection_of_waiting h hr' hw hxw hlt hsel)⟩).1
    exact absurd (hmax x hx' hxw) (not_le.mpr hlt)
  · intro hnone
    have hcurrent : a.currentValue line'.sys.store = a.currentValue line.sys.store := by
      rw [currentValue, currentValue, halerts]
    have hupdates : (line'.queue.filterMap (a.eventUpdate p)).getLast? =
        (((line.sys.store.outbox.claimSelection limit now
          (saturatingSub now (leaseMicros lease))).filterMap (a.rowUpdate p)).getLast?).or
          (line.queue.filterMap (a.eventUpdate p)).getLast? := by
      rw [hqueue, filterMap_append, filterMap_map, getLast?_append]
      rfl
    rw [claimedValue, hupdates, hcurrent]
    by_cases hsome : ∃ r ∈ line.sys.store.outbox, a.Waiting p r
    · have hfinite : {r | r ∈ line.sys.store.outbox ∧ a.Waiting p r}.Finite :=
        (finite_toSet line.sys.store.outbox.table.rows).subset fun r hr => hr.1
      obtain ⟨m, ⟨hm, hmw⟩, hmax⟩ := Set.exists_max_image _ dueKey hfinite hsome
      have hmax' : ∀ r ∈ line.sys.store.outbox, a.Waiting p r → r.dueKey ≤ m.dueKey :=
        fun r hr hw => hmax r ⟨hr, hw⟩
      have hsel : m ∈ line.sys.store.outbox.claimSelection limit now
          (saturatingSub now (leaseMicros lease)) := by
        by_contra hnot
        exact hnone m ((hwaiting m).mpr ⟨⟨hm, hmw⟩, hnot⟩).1 hmw
      rw [getLast?_claimSelection h hguard hsel (hends.waiting m hm hmw hmax') hmax']
      rfl
    · have hempty : (line.sys.store.outbox.claimSelection limit now
          (saturatingSub now (leaseMicros lease))).filterMap (a.rowUpdate p) = [] := by
        rw [filterMap_eq_nil_iff]
        intro r hsel
        by_contra hupdate
        exact hsome ⟨r, (mem_claimSelection hsel).1,
          waiting_of_mem_claimSelection h hguard hsel (Option.isSome_iff_ne_none.mpr hupdate)⟩
      rw [hempty, getLast?_nil, Option.none_or]
      exact hends.claimed fun r hr hw => hsome ⟨r, hr, hw⟩

theorem Tracks.rowUpdate_of_queue (h : Tracks p a line) {e : OutboxEventRecord} (he : e ∈ line.queue)
    (hr : r ∈ line.sys.store.outbox) (hid : r.id = e.id) :
    a.rowUpdate p r = a.eventUpdate p e := by
  obtain ⟨r', hr', hof⟩ := h.issued e (h.queued e he)
  obtain rfl := line.sys.store.outbox.eq_of_id_eq hr' hr (hof.1.symm.trans hid.symm)
  exact (eventUpdate_of_of hof).symm

theorem Tracks.claim (h : Tracks p a line)
    (hguard : valueGuard p a line (.claim workerId uuid limit lease now)) :
    Tracks p a (line.apply p (.claim workerId uuid limit lease now)) := by
  show Tracks p a ⟨line.sys.claim workerId uuid limit lease now,
    line.queue ++ line.sys.taken workerId uuid limit lease now⟩
  rcases claim_cases line.sys workerId uuid limit lease now with
    ⟨heq, htaken⟩ | ⟨outbox, hrows, htaken, heq⟩
  · rw [heq, htaken, append_nil]
    exact h
  rw [heq, htaken]
  set cutoff := saturatingSub now (leaseMicros lease) with hcutoff
  set token := workerId ++ ":" ++ uuid
  set o := line.sys.store.outbox with ho
  have hmem : ∀ r', r' ∈ outbox ↔ ∃ r ∈ o, o.claimChange limit now cutoff token r = r' := by
    intro r'
    rw [mem_iff, hrows, mem_map]
    rfl
  have hprogress : ∀ r ∈ o, r.Progress (o.claimChange limit now cutoff token r) :=
    fun r hr => progress_claimChange hr limit now cutoff token
  have hwaiting := waiting_iff_of_claim h hguard hrows
  have hselected : ∀ r ∈ o.claimSelection limit now cutoff, (a.rowUpdate p r).isSome →
      a.Waiting p r := fun r => waiting_of_mem_claimSelection h hguard
  refine ⟨⟨h.opened.stored, h.opened.single⟩, ?_, ?_, ?_, ?_, ?_, ?_, ?_, ?_, ?_, ?_⟩
  · intro e he
    obtain ⟨r, hr, hof⟩ : ∃ r ∈ o, e.Of r := by
      rcases mem_append.mp he with he | he
      · obtain ⟨r, hsel, rfl⟩ := mem_map.mp he
        exact ⟨r, (mem_claimSelection hsel).1, rfl, rfl, rfl, rfl⟩
      · exact h.issued e he
    exact ⟨_, (hmem _).mpr ⟨r, hr, rfl⟩, hof.progress (hprogress r hr)⟩
  · intro e he
    rcases mem_append.mp he with he | he
    · exact mem_append_right _ (h.queued e he)
    · exact mem_append_left _ he
  · intro x hx
    obtain ⟨hissued, hok⟩ := h.results x hx
    exact ⟨mem_append_right _ hissued, hok⟩
  · intro r' hr' hactive
    obtain ⟨r, hr, rfl⟩ := (hmem r').mp hr'
    rw [(hprogress r hr).tenantId, (hprogress r hr).eventType, (hprogress r hr).payload]
    exact h.unresolved r hr ((hprogress r hr).active hactive)
  · intro e he
    rcases mem_append.mp he with he | he
    · exact h.unresolvedQueue e he
    · obtain ⟨r, hsel, rfl⟩ := mem_map.mp he
      obtain ⟨hr, helig⟩ := mem_claimSelection hsel
      exact h.unresolved r hr (isActive_of_isEligible helig)
  · intro r' hr' hupdate hactive
    obtain ⟨r, hr, rfl⟩ := (hmem r').mp hr'
    rw [rowUpdate_of_progress (hprogress r hr)] at hupdate
    rcases claimChange_of_update h hguard hr hupdate token with ⟨-, -, heq⟩ | ⟨-, heq⟩
    · rw [heq]
      exact .inr rfl
    · rw [heq] at hactive ⊢
      exact h.statuses r hr hupdate hactive
  · intro r hr hw
    obtain ⟨⟨hr', -⟩, hnot⟩ := (hwaiting r).mp ⟨hr, hw⟩
    obtain ⟨hattempts, hissued⟩ := h.waiting r hr' hw
    refine ⟨hattempts, fun e he hid => ?_⟩
    rcases mem_append.mp he with he | he
    · obtain ⟨x, hsel, rfl⟩ := mem_map.mp he
      obtain rfl := o.eq_of_id_eq (mem_claimSelection hsel).1 hr' hid
      exact hnot hsel
    · exact hissued e he hid
  · intro e he hupdate
    rcases mem_append.mp he with he | he
    · obtain ⟨⟨r, hr, hid, hstatus⟩, hresults⟩ := h.held e he hupdate
      rw [← h.rowUpdate_of_queue he hr hid] at hupdate
      rcases claimChange_of_update h hguard hr hupdate token with ⟨-, hw, -⟩ | ⟨-, heq⟩
      · rw [hw.1] at hstatus
        cases hstatus
      · exact ⟨⟨r, (hmem r).mpr ⟨r, hr, heq⟩, hid, hstatus⟩, hresults⟩
    · obtain ⟨r, hsel, rfl⟩ := mem_map.mp he
      have hr := (mem_claimSelection hsel).1
      rcases claimChange_of_update h hguard hr hupdate token with ⟨-, hw, heq⟩ | ⟨hnot, -⟩
      · refine ⟨⟨_, (hmem _).mpr ⟨r, hr, heq⟩, rfl, rfl⟩, fun x hx => ?_⟩
        exact (h.waiting r hr hw).2 x.1 (h.results x hx).1
      · exact absurd hsel hnot
  · rw [filter_append, map_append, nodup_append]
    refine ⟨h.distinct, ?_, ?_⟩
    · have hnodup := claimSelection_nodup (o := o) limit now cutoff
      refine List.Nodup.sublist (filter_sublist.map _) ?_
      rw [map_map]
      exact hnodup
    · -- What waits was never handed out, so it is not among the queued updates.
      rintro id hqueued id' htaken rfl
      obtain ⟨e, he, rfl⟩ := mem_map.mp hqueued
      obtain ⟨e', he', hid⟩ := mem_map.mp htaken
      obtain ⟨hmem', hupdate⟩ := List.mem_filter.mp he'
      obtain ⟨r, hsel, rfl⟩ := mem_map.mp hmem'
      have hw := hselected r hsel hupdate
      have hissued := h.queued e (mem_of_mem_filter he)
      exact (h.waiting r (mem_claimSelection hsel).1 hw).2 e hissued hid.symm
  · intro value hvalue
    exact EndsWith.claim h hguard hvalue hrows rfl rfl

end

end

end OrderedSystem

end Extrittio
