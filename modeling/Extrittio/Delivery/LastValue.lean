import Extrittio.Delivery.Ordered

/-!
The value that an alert ends with. Executions and reports keep the updates of an
alert in their stages, so once nothing is undelivered the alert has the value
observed last, unless a returning value was dropped on its way.
-/
namespace Extrittio

open Relational Transition List RuleDelivery

namespace OrderedSystem

open AlertIdentity

section

variable {p : Platform} {a : AlertIdentity} {line : OrderedSystem} {value : String}

section

variable {event : OutboxEventRecord} {now : ℤ}

theorem Tracks.eventUpdate_of_id (h : Tracks p a line) {e e' : OutboxEventRecord}
    (he : e ∈ line.sys.issued) (he' : e' ∈ line.sys.issued) (hid : e.id = e'.id) :
    a.eventUpdate p e = a.eventUpdate p e' := by
  obtain ⟨r, hr, hof⟩ := h.issued e he
  obtain ⟨r', hr', hof'⟩ := h.issued e' he'
  obtain rfl := line.sys.store.outbox.eq_of_id_eq hr hr' (hof.1.symm.trans (hid.trans hof'.1))
  rw [eventUpdate_of_of hof, eventUpdate_of_of hof']

theorem getLast?_cons_or {x : String} {l : List String} {y : Option String} :
    (x :: l).getLast?.or y = l.getLast?.or (some x) := by
  rw [getLast?_cons]
  cases l.getLast? <;> rfl

theorem Tracks.attempt (h : Tracks p a line) {external : PendingAction → Except String Unit}
    (henabled : enabled p a line (.attempt external now event)) :
    Tracks p a (line.apply p (.attempt external now event)) := by
  obtain ⟨hhead, hok⟩ := henabled
  have heffect := RuleDelivery.attempt_effect p external now event line.sys.store
  simp only [OrderedSystem.apply, RuleSystem.apply]
  generalize RuleDelivery.attempt p external now event line.sys.store = outcome at heffect hok ⊢
  obtain ⟨s', result, failure⟩ := outcome
  simp only at heffect hok ⊢
  obtain ⟨rest, hqueue⟩ : ∃ rest, line.queue = event :: rest := head?_eq_some_iff.mp hhead
  have hmem : event ∈ line.queue := by simp [hqueue]
  have hrest : ∀ e ∈ rest, e ∈ line.queue := fun e he => by simp [hqueue, he]
  obtain ⟨hopen, hvalue⟩ := h.opened.attempt heffect hok (h.unresolvedQueue event hmem)
  have hdistinct := h.distinct
  rw [hqueue] at hdistinct ⊢
  rw [tail_cons]
  refine ⟨hopen, ?_, fun e he => h.queued e (hrest e he), ?_, ?_,
    fun e he => h.unresolvedQueue e (hrest e he), ?_, ?_, ?_, ?_, ?_⟩
  · simpa only [heffect.outbox] using h.issued
  · exact forall_mem_cons.mpr ⟨⟨h.queued event hmem, hok⟩, h.results⟩
  · simpa only [heffect.outbox] using h.unresolved
  · simpa only [heffect.outbox] using h.statuses
  · simpa only [heffect.outbox] using h.waiting
  · intro e he hupdate
    obtain ⟨hheld, hresults⟩ := h.held e (hrest e he) hupdate
    refine ⟨by simpa only [heffect.outbox] using hheld, forall_mem_cons.mpr ⟨?_, hresults⟩⟩
    intro hid
    -- The executed event would be a second update of the same row.
    have hsame := h.eventUpdate_of_id (h.queued event hmem) (h.queued e (hrest e he)) hid
    rw [filter_cons_of_pos (by simpa [hsame] using hupdate), map_cons,
      nodup_cons] at hdistinct
    refine hdistinct.1 ?_
    rw [show event.id = e.id from hid]
    exact mem_map_of_mem (List.mem_filter.mpr ⟨he, hupdate⟩)
  · exact hdistinct.sublist (((sublist_cons_self event rest).filter _).map _)
  · intro value hlast
    refine (h.value value hlast).of_same (by simp only [heffect.outbox, implies_true]) ?_
    rw [claimedValue, claimedValue, hqueue, filterMap_cons, hvalue]
    cases hupdate : a.eventUpdate p event with
    | none => rfl
    | some updated => exact getLast?_cons_or.symm

theorem report_ok (event : OutboxEventRecord) (failure : FailureClass) (now : ℤ) (s : Store) :
    ∃ outbox change, (report event now s (.ok (), failure)).1 =
        { s with outbox := outbox } ∧ outbox.table.rows = s.outbox.table.rows.map change ∧
      ∀ r, change r = r ∨ r.id = event.id ∧ r.status = .processing ∧ change r = r.succeed now := by
  cases htoken : event.claimToken with
  | none =>
    refine ⟨s.outbox, id, ?_, by simp, fun r => .inl rfl⟩
    simp [report, OutboxWorker.succeeded, htoken]
  | some token =>
    obtain ⟨o', hok, hrows⟩ := s.outbox.markSucceeded_eq event.id token now
    refine ⟨o', _, by simp [report, OutboxWorker.succeeded, htoken, hok], hrows, ?_⟩
    intro r
    split_ifs with hheld
    · obtain ⟨hid, hstatus, -⟩ := OutboxRow.isHeldBy_iff.mp hheld
      exact .inr ⟨hid, hstatus, rfl⟩
    · exact .inl rfl

theorem Tracks.report (h : Tracks p a line) {result : Except String Unit × FailureClass}
    (hresult : (event, result) ∈ line.sys.results) :
    Tracks p a (line.apply p (.report event result now)) := by
  obtain ⟨outcome, failure⟩ := result
  obtain rfl : outcome = .ok () := (h.results _ hresult).2
  obtain ⟨outbox, change, heq, hrows, hchange⟩ := report_ok event failure now line.sys.store
  simp only [OrderedSystem.apply, RuleSystem.apply, heq]
  have hmem : ∀ r', r' ∈ outbox ↔ ∃ r ∈ line.sys.store.outbox, change r = r' := by
    intro r'
    rw [Outbox.mem_iff, hrows, mem_map]
    rfl
  have hsame : ∀ r, r.status ≠ .processing ∨ r.id ≠ event.id → change r = r := by
    intro r hr
    rcases hchange r with heq | ⟨hid, hstatus, -⟩
    · exact heq
    · exact (hr.elim (absurd hstatus) (absurd hid))
  -- A row that is still active was not touched.
  have hactive : ∀ r' ∈ outbox, r'.isActive → r' ∈ line.sys.store.outbox := by
    intro r' hr' hactive
    obtain ⟨r, hr, rfl⟩ := (hmem r').mp hr'
    rcases hchange r with heq | ⟨-, -, heq⟩
    · rwa [heq]
    · simp [heq, OutboxRow.isActive, OutboxRow.succeed] at hactive
  have hwaiting : ∀ r, r ∈ outbox ∧ a.Waiting p r ↔ r ∈ line.sys.store.outbox ∧ a.Waiting p r := by
    intro r
    constructor
    · rintro ⟨hr, hw⟩
      exact ⟨hactive r hr (by simp [OutboxRow.isActive, hw.1]), hw⟩
    · rintro ⟨hr, hw⟩
      exact ⟨(hmem r).mpr ⟨r, hr, hsame r (.inl (by simp [hw.1]))⟩, hw⟩
  refine ⟨⟨h.opened.stored, h.opened.single⟩, ?_, h.queued, h.results, ?_, h.unresolvedQueue, ?_, ?_,
    ?_, h.distinct, ?_⟩
  · intro e he
    obtain ⟨r, hr, hof⟩ := h.issued e he
    refine ⟨change r, (hmem _).mpr ⟨r, hr, rfl⟩, ?_⟩
    rcases hchange r with heq | ⟨-, -, heq⟩
    · rwa [heq]
    · rw [heq]
      exact hof
  · exact fun r hr hr' => h.unresolved r (hactive r hr hr') hr'
  · exact fun r hr hupdate hr' => h.statuses r (hactive r hr hr') hupdate hr'
  · intro r hr hw
    exact h.waiting r ((hwaiting r).mp ⟨hr, hw⟩).1 hw
  · intro e he hupdate
    obtain ⟨⟨r, hr, hid, hstatus⟩, hresults⟩ := h.held e he hupdate
    have hother : r.id ≠ event.id := fun heq => hresults _ hresult (heq.symm.trans hid)
    exact ⟨⟨r, (hmem r).mpr ⟨r, hr, hsame r (.inr hother)⟩, hid, hstatus⟩, hresults⟩
  · exact fun value hlast => (h.value value hlast).of_same hwaiting rfl

end

theorem Tracks.step (h : Tracks p a line) (hne : a.id ≠ "")
    (hdigest : ∀ text, ':' ∉ (p.sha256Hex text).toList) {step : RuleStep}
    (henabled : enabled p a line step) (hguard : valueGuard p a line step) :
    Tracks p a (line.apply p step) := by
  cases step with
  | observe uuid now tenant device plan => exact h.observe hne hdigest henabled hguard
  | claim workerId uuid limit lease now => exact h.claim hguard
  | attempt external now event => exact h.attempt henabled
  | report event result now => exact h.report henabled
  | transition | transitionMany | prune => exact henabled.elim

/-- While values do not return undelivered, an alert ends with the value that was
observed last: whatever is observed, claimed and delivered in the order of the
claims, once the outbox has nothing undelivered. -/
theorem triggeredValue_eq_lastValue (hdigest : ∀ text, ':' ∉ (p.sha256Hex text).toList) {s : Store}
    (hquiet : Quiet p a s) (hne : a.id ≠ "") {steps : List RuleStep}
    (hrun : ((machine p a).restrict (valueGuard p a)).Run (start s) steps line)
    (hdelivered : ∀ r ∈ line.sys.store.outbox, r.isActive = false)
    (hobserved : a.lastValue p line.sys = some value) :
    a.currentValue line.sys.store = some value := by
  have htracks : Tracks p a line := by
    refine hrun.invariant ?_ hquiet.tracks
    rintro line step h ⟨henabled, hguard⟩
    exact h.step hne hdigest henabled hguard
  exact htracks.currentValue_eq hdelivered hobserved

end

def hotRule : CachedRule where
  tenantId := "tenant"
  id := "rule"
  name := "hot"
  triggerType := "telemetry"
  targetType := "global"
  targetId := none
  cooldownSeconds := 0
  conditions := [⟨"temperature", none, none, "gt", "10", none⟩]
  actions := [RuleSystem.alertAction]

def readingAt (temperature time : ℤ) : DeviceRuleEvaluation :=
  { RuleSystem.statusAt hotRule "" time with
    input := .telemetry ⟨none, none, [("temperature", .integer temperature)]⟩ false }

theorem readingAt_prepared (temperature time : ℤ) : (readingAt temperature time).Prepared :=
  ⟨_, by simp, rfl⟩

def hotAlert : AlertIdentity := ⟨"tenant", "alert", "rule", "device"⟩

def hotStore : Store :=
  { RuleSystem.quiet with
    alerts := ⟨[⟨"alert", "tenant", some "rule", "device", "warning", .active, "hot", some "15", none,
      none, 0⟩], by decide⟩ }

theorem quiet_hotStore : Quiet digesting hotAlert hotStore where
  opened := ⟨⟨_, .head _, rfl, rfl⟩, fun x hx _ => by rw [mem_singleton.mp hx]; rfl⟩
  outbox := fun r hr => nomatch hr

def observeReading (letter : Char) (temperature now : ℤ) : RuleStep :=
  .observe (RuleSystem.labelled letter) now "tenant" "device" (readingAt temperature (now * 1000))

def hotEvent (letter : Char) (value : String) (now claimed : ℤ) (token : String) :
    OutboxEventRecord :=
  ((OutboxRow.ofAction digesting (RuleSystem.labelled letter) now
    (.updateAlertValue "tenant" "alert" value, 0)).claim claimed token).toRecord

def deliverHot (first second : OutboxEventRecord) : List RuleStep :=
  [.claim "worker" "token" 10 60 4, .attempt (fun _ => .ok ()) 4 first,
    .attempt (fun _ => .ok ()) 4 second, .report first (.ok (), .retryable) 5,
    .report second (.ok (), .retryable) 5]

theorem of_prepareEvaluation {s : Store} {tenant device : String} {plan : DeviceRuleEvaluation}
    (check : DeviceRuleEvaluation → DeviceRuleRuntime → Bool)
    (h : (match s.prepareEvaluation tenant device plan with
      | .ok (prepared, runtime) => check prepared runtime
      | .error _ => true) = true) {prepared : DeviceRuleEvaluation} {runtime : DeviceRuleRuntime}
    (hprepare : s.prepareEvaluation tenant device plan = .ok (prepared, runtime)) :
    check prepared runtime := by
  rwa [hprepare] at h

variable {line : OrderedSystem} {letter : Char} {temperature now : ℤ}

theorem enabled_observeReading (hfresh : line.sys.store.outbox.table.rows.all
      (fun r => r.id.toList.head? ≠ some letter))
    (hunresolved : (match line.sys.store.prepareEvaluation "tenant" "device"
        (readingAt temperature (now * 1000)) with
      | .ok (prepared, runtime) => decide (.resolveAlert hotAlert.tenant hotAlert.id ∉
          (prepared.decide digesting runtime).deliveries)
      | .error _ => true) = true) :
    enabled digesting hotAlert line (observeReading letter temperature now) := by
  refine ⟨⟨readingAt_prepared _ _, RuleSystem.labelled_injective _,
    RuleSystem.fresh_labelled hfresh⟩, fun prepared runtime hprepare => ?_⟩
  have hcheck := of_prepareEvaluation (fun prepared runtime => decide (.resolveAlert hotAlert.tenant
    hotAlert.id ∉ (prepared.decide digesting runtime).deliveries)) hunresolved hprepare
  simpa using hcheck

theorem valueGuard_observeReading (value : String)
    (hcarried : (match line.sys.store.prepareEvaluation "tenant" "device"
        (readingAt temperature (now * 1000)) with
      | .ok (prepared, runtime) => hotAlert.carried digesting prepared runtime = some value
      | .error _ => true) = true)
    (hfree : line.sys.store.outbox.table.rows.all (fun r => r.activeSlot ≠ some (hotAlert.tenant,
      "rule.update_alert_value", idempotencyKeyForAction digesting
        (.updateAlertValue hotAlert.tenant hotAlert.id value))))
    (hclock : line.sys.store.outbox.table.rows.all (fun r => r.availableAt < now)) :
    valueGuard digesting hotAlert line (observeReading letter temperature now) := by
  intro prepared runtime hprepare value' hvalue'
  have hcheck := of_prepareEvaluation (fun prepared runtime =>
    hotAlert.carried digesting prepared runtime = some value) hcarried hprepare
  have hvalue : some value' = some value := hvalue'.symm.trans (by simpa using hcheck)
  cases hvalue
  constructor
  · rintro ⟨r, hr, hslot⟩
    have hne := all_eq_true.mp hfree r hr
    simp [hslot] at hne
  · intro r hr _
    simpa using all_eq_true.mp hclock r hr

theorem delivered_of_all {o : Outbox} (h : o.table.rows.all (fun r => !r.isActive)) :
    ∀ r ∈ o, r.isActive = false := by
  intro r hr
  simpa using all_eq_true.mp h r hr

theorem triggeredValue_eq_lastValue_hot :
    let steps := [observeReading 'a' 20 1, observeReading 'b' 30 2] ++
      deliverHot (hotEvent 'a' "20" 1 4 "worker:token") (hotEvent 'b' "30" 2 4 "worker:token")
    let line := steps.foldl (apply digesting) (start hotStore)
    hotAlert.lastValue digesting line.sys = some "30" ∧
      hotAlert.currentValue line.sys.store = some "30" := by
  intro steps line
  have hrun : ((machine digesting hotAlert).restrict (valueGuard digesting hotAlert)).Run
      (start hotStore) steps line := by
    refine .cons ⟨enabled_observeReading rfl rfl, ?_⟩ (.cons ⟨enabled_observeReading rfl rfl, ?_⟩
      (.cons ⟨not_mem_nil, ?_⟩ (.cons ⟨⟨rfl, rfl⟩, trivial⟩ (.cons ⟨⟨rfl, rfl⟩, trivial⟩
        (.cons ⟨.tail _ (.head _), trivial⟩ (.cons ⟨.head _, trivial⟩ (.nil _)))))))
    · exact valueGuard_observeReading "20" rfl rfl rfl
    · exact valueGuard_observeReading "30" rfl rfl rfl
    · intro r hr _ hstatus
      have hpending : (List.foldl (apply digesting) (start hotStore) [observeReading 'a' 20 1,
        observeReading 'b' 30 2]).sys.store.outbox.table.rows.all (fun r => r.status = .pending) := rfl
      have hr' := all_eq_true.mp hpending r hr
      simp [hstatus] at hr'
  exact ⟨rfl, triggeredValue_eq_lastValue digesting_colon quiet_hotStore (by decide) hrun
    (delivered_of_all rfl) rfl⟩


/-- The steps are a run of ordered deliveries that leaves nothing undelivered and
the alert at another value than was observed last. -/
def EndsApart (steps : List RuleStep) (observed current : String) : Prop :=
  let line := steps.foldl (apply digesting) (start hotStore)
  (machine digesting hotAlert).Run (start hotStore) steps line ∧
    (∀ r ∈ line.sys.store.outbox, r.isActive = false) ∧
    hotAlert.lastValue digesting line.sys = some observed ∧
    hotAlert.currentValue line.sys.store = some current

/-- The readings are 20, 30 and 20 again, and then everything is delivered. The
third update has the key of the first, which is not delivered yet, and is
dropped: the alert keeps 30. Without clocks that advance and leases that hold the
order of the claims is not that of the readings either: of two updates of one
instant the later can be claimed first, and an update whose lease ran out is
executed after a later one. -/
theorem triggeredValue_ne_lastValue :
    EndsApart ([observeReading 'a' 20 1, observeReading 'b' 30 2, observeReading 'c' 20 3] ++
      deliverHot (hotEvent 'a' "20" 1 4 "worker:token") (hotEvent 'b' "30" 2 4 "worker:token"))
      "20" "30" ∧
    EndsApart ([observeReading 'b' 20 1, observeReading 'a' 30 1] ++
      deliverHot (hotEvent 'a' "30" 1 4 "worker:token") (hotEvent 'b' "20" 1 4 "worker:token"))
      "30" "20" ∧
    let first := hotEvent 'a' "20" 1 4 "worker:first"
    let second := hotEvent 'b' "30" 2 5 "worker:second"
    let again : OutboxEventRecord := { hotEvent 'a' "20" 1 20 "worker:third" with attempts := 2 }
    EndsApart [observeReading 'a' 20 1, observeReading 'b' 30 2,
      .claim "worker" "first" 1 10000 4, .claim "worker" "second" 1 10000 5,
      .claim "worker" "third" 1 10000 20, .attempt (fun _ => .ok ()) 20 first,
      .attempt (fun _ => .ok ()) 20 second, .attempt (fun _ => .ok ()) 20 again,
      .report second (.ok (), .retryable) 20, .report again (.ok (), .retryable) 20] "30" "20" := by
  refine ⟨⟨?_, delivered_of_all rfl, rfl, rfl⟩, ⟨?_, delivered_of_all rfl, rfl, rfl⟩,
    ⟨?_, delivered_of_all rfl, rfl, rfl⟩⟩
  · exact .cons (enabled_observeReading rfl rfl) (.cons (enabled_observeReading rfl rfl)
      (.cons (enabled_observeReading rfl rfl) (.cons not_mem_nil (.cons ⟨rfl, rfl⟩
        (.cons ⟨rfl, rfl⟩ (.cons (.tail _ (.head _)) (.cons (.head _) (.nil _))))))))
  · exact .cons (enabled_observeReading rfl rfl) (.cons (enabled_observeReading rfl rfl)
      (.cons not_mem_nil (.cons ⟨rfl, rfl⟩ (.cons ⟨rfl, rfl⟩
        (.cons (.tail _ (.head _)) (.cons (.head _) (.nil _)))))))
  · exact .cons (enabled_observeReading rfl rfl) (.cons (enabled_observeReading rfl rfl)
      (.cons not_mem_nil (.cons (by show _ ∉ _; decide) (.cons (by show _ ∉ _; decide)
        (.cons ⟨rfl, rfl⟩ (.cons ⟨rfl, rfl⟩ (.cons ⟨rfl, rfl⟩ (.cons (.tail _ (.head _))
          (.cons (.head _) (.nil _))))))))))

end OrderedSystem

end Extrittio
