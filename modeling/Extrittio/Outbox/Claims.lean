import Extrittio.Outbox.Worker

/-!
Claims over whole runs of the outbox. `StepEffect` says once what a step can do
to rows, issued records and tokens; the invariants of a run follow from it.
-/
namespace Extrittio

open Relational Transition List OutboxWorker Outbox OutboxRow

/-- What one step can do to a stored row, given the records issued before the
step and the records it issues itself. -/
inductive OutboxRow.Change (issued events : List OutboxEventRecord) (r : OutboxRow) :
    OutboxRow → Prop
  | same (h : ∀ e ∈ events, e.id ≠ r.id) : Change issued events r r
  | exhaust (now : ℤ) (h : r.status = .processing) : Change issued events r (r.exhaust now)
  | claim (now : ℤ) (token : String) (hlt : r.attempts < r.maxAttempts)
      (hactive : r.isActive = true) (he : (r.claim now token).toRecord ∈ events) :
      Change issued events r (r.claim now token)
  | succeed (now : ℤ) (h : r.status = .processing) : Change issued events r (r.succeed now)
  | fail (event : OutboxEventRecord) (failure : FailureClass) (availableAt : ℤ) (error : String)
      (now : ℤ) (he : event ∈ issued) (h : r.status = .processing)
      (hattempts : r.attempts = event.attempts) :
      Change issued events r (r.fail (failureDisposition event.attempts event.maxAttempts failure).1
        availableAt error now)
  | replay (now : ℤ) (h : r.status = .deadLetter) : Change issued events r (r.replay now)

/-- A row as producers enqueue it. -/
structure OutboxRow.IsNew (r : OutboxRow) : Prop where
  status : r.status = .pending
  attempts : r.attempts = 0
  maxAttempts : r.maxAttempts = 10
  lockedAt : r.lockedAt = none
  lockedBy : r.lockedBy = none

theorem OutboxRow.isNew_ofAction (p : Platform) (uuid : ℕ → String) (now : ℤ)
    (action : PendingAction × ℕ) : (ofAction p uuid now action).IsNew :=
  ⟨rfl, rfl, rfl, rfl, rfl⟩

namespace OutboxSystem

/-- Everything a step does: rows change in place, new rows follow, and the
records it issues carry a token that was never drawn before. -/
structure StepEffect (sys sys' : OutboxSystem) (events : List OutboxEventRecord)
    (change : OutboxRow → OutboxRow) (added : List OutboxRow) : Prop where
  rows : sys'.outbox.table.rows = sys.outbox.table.rows.map change ++ added
  issued : sys'.issued = events ++ sys.issued
  changed : ∀ r ∈ sys.outbox, r.Change sys.issued events (change r)
  isNew : ∀ r ∈ added, r.IsNew
  claimed : ∀ e ∈ events, ∃ r ∈ sys.outbox, ∃ now token, change r = r.claim now token ∧
    e = (r.claim now token).toRecord
  distinct : (events.map OutboxEventRecord.id).Nodup
  kept : ∀ token ∈ sys.tokens, token ∈ sys'.tokens
  fresh : ∀ e ∈ events, ∃ token ∈ sys'.tokens, token ∉ sys.tokens ∧ e.claimToken = some token

variable {sys sys' : OutboxSystem}

variable {change : OutboxRow → OutboxRow} {outbox o : Outbox} {limit now leaseCutoff : ℤ}
  {token : String} {r : OutboxRow}

theorem StepEffect.of_rewrite {added : List OutboxRow}
    (rows : outbox.table.rows = sys.outbox.table.rows.map change ++ added)
    (changed : ∀ r ∈ sys.outbox, r.Change sys.issued [] (change r))
    (isNew : ∀ r ∈ added, r.IsNew) : StepEffect sys { sys with outbox := outbox } [] change added where
  rows := rows
  issued := rfl
  changed := changed
  isNew := isNew
  claimed := by simp
  distinct := by simp
  kept := fun _ h => h
  fresh := by simp

theorem StepEffect.of_update (rows : outbox.table.rows = sys.outbox.table.rows.map change)
    (changed : ∀ r ∈ sys.outbox, r.Change sys.issued [] (change r)) :
    StepEffect sys { sys with outbox := outbox } [] change [] :=
  .of_rewrite (by rw [rows, append_nil]) changed (by simp)

theorem StepEffect.refl (sys : OutboxSystem) : StepEffect sys sys [] id [] :=
  .of_update (by simp) fun r _ => .same (by simp)

theorem enqueue_effect (p : Platform) (sys : OutboxSystem) (uuid : ℕ → String) (now : ℤ)
    (actions : List PendingAction) :
    ∃ added, StepEffect sys (sys.apply p (.enqueue uuid now actions)) [] id added := by
  simp only [apply]
  cases h : sys.outbox.enqueueActionsInTransaction p uuid now actions with
  | error e => exact ⟨[], .refl sys⟩
  | ok result =>
    obtain ⟨o', count⟩ := result
    obtain rfl := enqueueActionsInTransaction_eq_ok h
    obtain ⟨added, hrows, hsub⟩ := sys.outbox.enqueueRows_rows
      (actions.zipIdx.map (ofAction p uuid now))
    refine ⟨added, .of_rewrite (by simpa using hrows) (fun r _ => .same (by simp)) ?_⟩
    intro r hr
    obtain ⟨action, -, rfl⟩ := mem_map.mp (hsub.subset hr)
    exact isNew_ofAction p uuid now action

theorem succeeded_effect (p : Platform) (sys : OutboxSystem) (event : OutboxEventRecord) (now : ℤ) :
    ∃ change, StepEffect sys (sys.apply p (.succeeded event now)) [] change [] := by
  simp only [apply, succeeded]
  cases event.claimToken with
  | none => exact ⟨id, .refl sys⟩
  | some token =>
    obtain ⟨o', hok, hrows⟩ := sys.outbox.markSucceeded_eq event.id token now
    simp only [hok, commit_ok]
    refine ⟨_, .of_update hrows ?_⟩
    intro r _
    split
    next hheld => exact .succeed now (isHeldBy_iff.mp hheld).2.1
    next => exact .same (by simp)

theorem failed_effect (p : Platform) {sys : OutboxSystem} {event : OutboxEventRecord}
    (failure : FailureClass) (error : String) (now : ℤ) (h : event ∈ sys.issued) :
    ∃ change, StepEffect sys (sys.apply p (.failed event failure error now)) [] change [] := by
  simp only [apply, failed]
  cases event.claimToken with
  | none => exact ⟨id, .refl sys⟩
  | some token =>
    obtain ⟨o', hok, hrows⟩ := sys.outbox.markFailed_eq event.id token event.attempts
      event.maxAttempts failure error now
    simp only [hok, commit_ok]
    refine ⟨_, .of_update hrows ?_⟩
    intro r _
    split
    next hheld =>
      obtain ⟨hrow, hattempts⟩ := Bool.and_eq_true_iff.mp hheld
      exact .fail event failure _ _ now h (isHeldBy_iff.mp hrow).2.1
        (by simpa using hattempts)
    next => exact .same (by simp)

theorem replay_effect (p : Platform) (sys : OutboxSystem) (tenant : String)
    (eventIds : Option (List String)) (now : ℤ) :
    ∃ change, StepEffect sys (sys.apply p (.replay tenant eventIds now)) [] change [] := by
  simp only [apply]
  cases h : sys.outbox.replayDeadLetters tenant eventIds now with
  | error e => exact ⟨id, .refl sys⟩
  | ok result =>
    obtain ⟨o', count⟩ := result
    refine ⟨_, .of_update (replayDeadLetters_eq_ok h) ?_⟩
    intro r _
    split
    next hsel =>
      simp only [isDeadLetterOf, Bool.and_eq_true, decide_eq_true_eq] at hsel
      exact .replay now hsel.1.2
    next => exact .same (by simp)

theorem claimChange_of_selected (h : r ∈ o.claimSelection limit now leaseCutoff) :
    o.claimChange limit now leaseCutoff token r = r.claim now token := by
  have hx : r.isExhausted leaseCutoff = false := by
    by_contra hx
    have helig := (mem_claimSelection h).2
    rw [not_isEligible_of_isExhausted (by simpa using hx)] at helig
    cases helig
  rw [claimChange, hx, if_neg (by simp), if_pos (mem_map_of_mem h)]

theorem claimChange_change {issued : List OutboxEventRecord} (hr : r ∈ o) :
    r.Change issued ((o.claimSelection limit now leaseCutoff).map
        fun r => (r.claim now token).toRecord) (o.claimChange limit now leaseCutoff token r) := by
  by_cases hid : r.id ∈ (o.claimSelection limit now leaseCutoff).map OutboxRow.id
  · have hsel := mem_claimSelection_of_id hr hid
    have helig := (mem_claimSelection hsel).2
    rw [claimChange_of_selected hsel]
    exact .claim now token (attempts_lt_of_isEligible helig)
      (isActive_of_isEligible helig) (mem_map_of_mem hsel)
  · unfold claimChange
    split
    next hx =>
      simp only [isExhausted, Bool.and_eq_true, decide_eq_true_eq] at hx
      exact .exhaust now hx.1.1
    next =>
      refine .same fun e he hide => hid ?_
      obtain ⟨r', hr', rfl⟩ := mem_map.mp he
      exact mem_map.mpr ⟨r', hr', hide⟩

theorem claim_effect (p : Platform) {sys : OutboxSystem} {workerId uuid : String} (limit : ℤ)
    (lease : ℕ) (now : ℤ) (h : workerId ++ ":" ++ uuid ∉ sys.tokens) :
    ∃ events change,
      StepEffect sys (sys.apply p (.claimBatch workerId uuid limit lease now)) events change [] := by
  by_cases hvalid : OutboxWorker.ValidClaim workerId limit lease
  · obtain ⟨o', hclaim, hrows⟩ := sys.outbox.claimBatch_eq workerId uuid limit lease now
    refine ⟨(sys.outbox.claimSelection limit now (saturatingSub now (leaseMicros lease))).map
        fun r => (r.claim now (workerId ++ ":" ++ uuid)).toRecord,
      sys.outbox.claimChange limit now (saturatingSub now (leaseMicros lease))
        (workerId ++ ":" ++ uuid), ?_⟩
    simp only [apply, claimBatch_of_valid hvalid hclaim]
    constructor
    · rw [hrows, append_nil]
    · rfl
    · exact fun r hr => claimChange_change hr
    · simp
    · intro e he
      obtain ⟨r, hsel, rfl⟩ := mem_map.mp he
      exact ⟨r, (mem_claimSelection hsel).1, now, workerId ++ ":" ++ uuid,
        claimChange_of_selected hsel, rfl⟩
    · rw [map_map]
      exact claimSelection_nodup limit now _
    · exact fun _ => mem_cons_of_mem _
    · intro e he
      obtain ⟨r, -, rfl⟩ := mem_map.mp he
      exact ⟨_, mem_cons_self, h, rfl⟩
  · obtain ⟨e, hrefused⟩ := claimBatch_of_not_valid uuid now sys.outbox hvalid
    refine ⟨[], id, ?_⟩
    simp only [apply, hrefused]
    exact .refl sys

/-- Every enabled step has an effect of the shape `StepEffect`. -/
theorem step_effect (p : Platform) {sys : OutboxSystem} {step : OutboxStep} (h : sys.enabled step) :
    ∃ events change added, StepEffect sys (sys.apply p step) events change added := by
  cases step with
  | enqueue uuid now actions =>
    obtain ⟨added, heffect⟩ := enqueue_effect p sys uuid now actions
    exact ⟨_, _, _, heffect⟩
  | claimBatch workerId uuid limit lease now =>
    obtain ⟨events, change, heffect⟩ := claim_effect p limit lease now h
    exact ⟨_, _, _, heffect⟩
  | succeeded event now =>
    obtain ⟨change, heffect⟩ := succeeded_effect p sys event now
    exact ⟨_, _, _, heffect⟩
  | failed event failure error now =>
    obtain ⟨change, heffect⟩ := failed_effect p failure error now h
    exact ⟨_, _, _, heffect⟩
  | replay tenant eventIds now =>
    obtain ⟨change, heffect⟩ := replay_effect p sys tenant eventIds now
    exact ⟨_, _, _, heffect⟩

end OutboxSystem

/-- What holds of every stored row. -/
structure OutboxRow.Ok (r : OutboxRow) : Prop where
  max : r.maxAttempts = 10
  attempts : r.attempts ≤ r.maxAttempts
  token : r.lockedBy.isSome = true ↔ r.status = .processing
  lease : r.lockedAt.isSome = true ↔ r.status = .processing
  retry : r.status = .pending ∨ r.status = .failed → r.attempts < r.maxAttempts

namespace OutboxRow

variable {issued events : List OutboxEventRecord} {r r' : OutboxRow}

theorem IsNew.ok (h : r.IsNew) : r.Ok where
  max := h.maxAttempts
  attempts := by simp [h.attempts, h.maxAttempts]
  token := by simp [h.lockedBy, h.status]
  lease := by simp [h.lockedAt, h.status]
  retry := by simp [h.attempts, h.maxAttempts]

/-- One step keeps every row well formed: a claim spends an attempt that was
left, and a report that leaves a row retryable knows that attempts are left. -/
theorem Change.ok (h : r.Change issued events r') (hok : r.Ok)
    (hmax : ∀ e ∈ issued, e.maxAttempts = 10) : r'.Ok := by
  cases h with
  | same _ => exact hok
  | exhaust now _ =>
    refine ⟨hok.max, hok.attempts, ?_, ?_, ?_⟩ <;> simp [OutboxRow.exhaust]
  | claim now token hlt _ _ =>
    refine ⟨hok.max, hlt, ?_, ?_, ?_⟩ <;> simp [OutboxRow.claim]
  | succeed now _ =>
    refine ⟨hok.max, hok.attempts, ?_, ?_, ?_⟩ <;> simp [OutboxRow.succeed]
  | fail event failure availableAt error now he _ hattempts =>
    have hne : (failureDisposition event.attempts event.maxAttempts failure).1 ≠ .processing := by
      rcases failureDisposition_status event.attempts event.maxAttempts failure with h | h <;>
        simp [h]
    refine ⟨hok.max, hok.attempts, by simpa [OutboxRow.fail] using hne, by simpa [OutboxRow.fail] using hne, ?_⟩
    intro hstatus
    change r.attempts < r.maxAttempts
    rw [hattempts, hok.max, ← hmax event he]
    by_contra hge
    simp [OutboxRow.fail, failureDisposition, not_lt.mp hge] at hstatus
  | replay now _ =>
    refine ⟨hok.max, ?_, ?_, ?_, ?_⟩ <;> simp [OutboxRow.replay, hok.max]

theorem Change.processing (h : r.Change issued events r') (hs : r'.status = .processing) :
    (r' = r ∧ ∀ e ∈ events, e.id ≠ r.id) ∨
      ∃ now token, r' = r.claim now token ∧ r'.toRecord ∈ events := by
  cases h with
  | same h => exact .inl ⟨rfl, h⟩
  | claim now token _ _ he => exact .inr ⟨now, token, rfl, he⟩
  | fail event failure _ _ _ _ _ _ =>
    rcases failureDisposition_status event.attempts event.maxAttempts failure with h | h <;>
      simp [OutboxRow.fail, h] at hs
  | exhaust | succeed | replay => simp [OutboxRow.exhaust, OutboxRow.succeed, OutboxRow.replay] at hs

theorem Change.succeeded (h : r.Change issued events r') (hs : r.status = .succeeded) : r' = r := by
  cases h with
  | same _ => rfl
  | claim _ _ _ hactive _ => simp [isActive, hs] at hactive
  | exhaust _ h | succeed _ h | fail _ _ _ _ _ _ h _ | replay _ h => simp [hs] at h

end OutboxRow

namespace OutboxSystem

/-- The invariant of every run: rows are well formed, tokens tell the claims of
one row apart, and a processing row is held under its newest claim. -/
structure Inv (sys : OutboxSystem) : Prop where
  rows : ∀ r ∈ sys.outbox, r.Ok
  issuedMax : ∀ e ∈ sys.issued, e.maxAttempts = 10
  drawn : ∀ e ∈ sys.issued, ∃ token ∈ sys.tokens, e.claimToken = some token
  distinct : sys.issued.Pairwise fun e e' => e.id = e'.id → e.claimToken ≠ e'.claimToken
  newest : ∀ r ∈ sys.outbox, r.status = .processing →
    ∃ e, sys.issued.find? (fun e => e.id = r.id) = some e ∧ e.claimToken = r.lockedBy

theorem init_inv : Inv init := by
  constructor <;> simp [init, mem_iff]

variable {sys sys' : OutboxSystem} {events newer older : List OutboxEventRecord}
  {change : OutboxRow → OutboxRow} {added : List OutboxRow} {p : Platform}
  {event : OutboxEventRecord}

theorem StepEffect.mem_cases
    (h : StepEffect sys sys' events change added) {r : OutboxRow} (hr : r ∈ sys'.outbox) :
    (∃ r₀ ∈ sys.outbox, r₀.Change sys.issued events r) ∨ r.IsNew := by
  rw [mem_iff, h.rows, mem_append] at hr
  rcases hr with hr | hr
  · obtain ⟨r₀, hr₀, rfl⟩ := mem_map.mp hr
    exact .inl ⟨r₀, hr₀, h.changed r₀ hr₀⟩
  · exact .inr (h.isNew r hr)

theorem Inv.step (hinv : Inv sys) (h : StepEffect sys sys' events change added) : Inv sys' where
  rows := by
    intro r hr
    rcases h.mem_cases hr with ⟨r₀, hr₀, hchange⟩ | hnew
    · exact hchange.ok (hinv.rows r₀ hr₀) hinv.issuedMax
    · exact hnew.ok
  issuedMax := by
    rw [h.issued]
    intro e he
    rcases mem_append.mp he with he | he
    · obtain ⟨r, hr, now, token, -, rfl⟩ := h.claimed e he
      exact (hinv.rows r hr).max
    · exact hinv.issuedMax e he
  drawn := by
    rw [h.issued]
    intro e he
    rcases mem_append.mp he with he | he
    · obtain ⟨token, hmem, -, htoken⟩ := h.fresh e he
      exact ⟨token, hmem, htoken⟩
    · obtain ⟨token, hmem, htoken⟩ := hinv.drawn e he
      exact ⟨token, h.kept token hmem, htoken⟩
  distinct := by
    rw [h.issued, pairwise_append]
    refine ⟨?_, hinv.distinct, ?_⟩
    · exact (pairwise_map.mp h.distinct).imp fun hne heq => absurd heq hne
    · intro e he e' he' _ htoken
      obtain ⟨token, -, hfresh, hnew⟩ := h.fresh e he
      obtain ⟨token', hmem, hold⟩ := hinv.drawn e' he'
      rw [hnew, hold] at htoken
      exact hfresh (Option.some.inj htoken ▸ hmem)
  newest := by
    intro r hr hs
    rw [h.issued]
    rcases h.mem_cases hr with ⟨r₀, hr₀, hchange⟩ | hnew
    · rcases hchange.processing hs with ⟨rfl, hnone⟩ | ⟨now, token, rfl, he⟩
      · obtain ⟨e, hfind, htoken⟩ := hinv.newest r hr₀ hs
        refine ⟨e, ?_, htoken⟩
        rw [find?_append, List.find?_eq_none.mpr (by simpa using hnone), Option.none_or, hfind]
      · -- The record of this claim is the only one of the batch for the row.
        obtain ⟨e', hfind⟩ : ∃ e', events.find? (fun e => e.id = r₀.id) = some e' := by
          rw [← Option.isSome_iff_exists]
          exact find?_isSome.mpr ⟨_, he, by simp [toRecord, claim]⟩
        have hid : e'.id = r₀.id := by simpa using find?_some hfind
        have heq : e' = (r₀.claim now token).toRecord :=
          inj_on_of_nodup_map h.distinct (mem_of_find?_eq_some hfind) he hid
        refine ⟨e', ?_, by rw [heq]; rfl⟩
        rw [find?_append]
        change (events.find? (fun e => e.id = r₀.id)).or _ = _
        rw [hfind, Option.some_or]
    · rw [hnew.status] at hs
      cases hs

theorem reachable_inv (h : (machine p).Reachable init sys) :
    Inv sys := by
  refine h.invariant ?_ init_inv
  intro s step hinv henabled
  obtain ⟨_, _, _, heffect⟩ := step_effect p henabled
  exact hinv.step heffect

theorem Inv.not_held (hinv : Inv sys)
    {token : String} (hissued : sys.issued = newer ++ event :: older)
    (hnewer : ∃ e ∈ newer, e.id = event.id) (htoken : event.claimToken = some token) :
    ∀ r ∈ sys.outbox, r.isHeldBy event.id token = false := by
  intro r hr
  by_contra hheld
  obtain ⟨hid, hs, hlocked⟩ := isHeldBy_iff.mp (by simpa using hheld)
  obtain ⟨e, hfind, he⟩ := hinv.newest r hr hs
  obtain ⟨e', he', hid'⟩ := hnewer
  -- The newest claim of the row is among the newer ones, and its token is another.
  have hsome : (newer.find? fun e => e.id = r.id).isSome := by
    rw [find?_isSome]
    exact ⟨e', he', by simp [hid', hid]⟩
  obtain ⟨e₀, hfind₀⟩ := Option.isSome_iff_exists.mp hsome
  rw [hissued, find?_append, hfind₀, Option.some_or, Option.some.injEq] at hfind
  subst hfind
  have hdistinct := hinv.distinct
  rw [hissued, pairwise_append] at hdistinct
  have hne := hdistinct.2.2 e₀ (mem_of_find?_eq_some hfind₀) event mem_cons_self
  have hid₀ : e₀.id = r.id := by simpa using find?_some hfind₀
  exact hne (hid₀.trans hid) (by rw [he, hlocked, htoken])

theorem outbox_eq_of_rows {o o' : Outbox} {p : OutboxRow → Bool} {f : OutboxRow → OutboxRow}
    (h : o'.table.rows = o.table.rows.map fun r => if p r then f r else r)
    (hp : ∀ r ∈ o, p r = false) : o' = o := by
  apply ext
  rw [h]
  conv_rhs => rw [← map_id o.table.rows]
  exact map_congr_left fun r hr => by simp [hp r hr]

/-- A report with a superseded claim changes nothing. -/
theorem Inv.stale_report (hinv : Inv sys) (p : Platform)
    (hissued : sys.issued = newer ++ event :: older) (hnewer : ∃ e ∈ newer, e.id = event.id)
    (failure : FailureClass) (error : String) (now : ℤ) :
    sys.apply p (.succeeded event now) = sys ∧
      sys.apply p (.failed event failure error now) = sys := by
  obtain ⟨token, -, htoken⟩ := hinv.drawn event (by simp [hissued])
  have hnot := hinv.not_held hissued hnewer htoken
  obtain ⟨o₁, hok₁, hrows₁⟩ := sys.outbox.markSucceeded_eq event.id token now
  obtain ⟨o₂, hok₂, hrows₂⟩ := sys.outbox.markFailed_eq event.id token event.attempts
    event.maxAttempts failure error now
  constructor
  · simp only [apply, succeeded, htoken, hok₁, commit_ok,
      outbox_eq_of_rows hrows₁ hnot]
  · have hnot₂ : ∀ r ∈ sys.outbox,
        (r.isHeldBy event.id token && r.attempts = event.attempts) = false := by
      intro r hr
      rw [hnot r hr, Bool.false_and]
    simp only [apply, failed, htoken, hok₂, commit_ok,
      outbox_eq_of_rows hrows₂ hnot₂]

theorem succeeded_stable (h : (machine p).Reachable sys sys') :
    ∀ r ∈ sys.outbox, r.status = .succeeded → r ∈ sys'.outbox := by
  obtain ⟨_, hrun⟩ := h
  refine hrun.relation (I := fun _ => True)
    (R := fun s t : OutboxSystem => ∀ r ∈ s.outbox, r.status = .succeeded → r ∈ t.outbox)
    (fun _ _ hr _ => hr) (fun _ _ _ h₁ h₂ r hr hs => h₂ r (h₁ r hr hs) hs) ?_ trivial
  intro s step _ henabled
  refine ⟨trivial, fun r hr hs => ?_⟩
  obtain ⟨_, change, _, heffect⟩ := step_effect p henabled
  rw [mem_iff]
  change r ∈ (s.apply p step).outbox.table.rows
  rw [heffect.rows, mem_append]
  exact .inl (mem_map.mpr ⟨r, hr, (heffect.changed r hr).succeeded hs⟩)

end OutboxSystem

/-- The clock has passed the row's availability, or the end of its lease. -/
def OutboxRow.IsDue (now : ℤ) (lease : ℕ) (r : OutboxRow) : Prop :=
  (r.status = .processing → ∀ lockedAt ∈ r.lockedAt, lockedAt + leaseMicros lease ≤ now) ∧
    (r.status ≠ .processing → r.availableAt ≤ now)

/-- Fewer eligible rows than the batch limit stand before the row in claim order. -/
def Outbox.Covers (o : Outbox) (limit : ℤ) (lease : ℕ) (now : ℤ) (r : OutboxRow) : Prop :=
  let eligible := o.table.rows.filter
    (OutboxRow.isEligible now (saturatingSub now (leaseMicros lease)))
  (eligible.countP fun r' => r'.claimKey eligible < r.claimKey eligible : ℤ) < limit

namespace Outbox

variable {o : Outbox} {r : OutboxRow} {limit now : ℤ} {lease : ℕ}

theorem claimKey_nodup (rows : List OutboxRow) (h : (rows.map OutboxRow.id).Nodup) :
    (rows.map (OutboxRow.claimKey rows)).Nodup := by
  refine (nodup_map_iff_inj_on (List.Nodup.of_map _ h)).mpr ?_
  intro r hr r' hr' hkey
  simp only [claimKey, dueKey, EmbeddingLike.apply_eq_iff_eq,
    Prod.mk.injEq] at hkey
  exact inj_on_of_nodup_map h hr hr' hkey.2.2.2

theorem mem_claimSelection_of_covers (hlimit : 0 < limit) (hr : r ∈ o)
    (helig : r.isEligible now (saturatingSub now (leaseMicros lease)))
    (hcovers : o.Covers limit lease now r) :
    r ∈ o.claimSelection limit now (saturatingSub now (leaseMicros lease)) := by
  have hnodup := o.table.nodup.sublist ((filter_sublist
    (p := OutboxRow.isEligible now (saturatingSub now (leaseMicros lease)))).map OutboxRow.id)
  rw [claimSelection, limitTo, if_neg (by omega), claimOrder]
  refine (mem_take_orderBy (claimKey_nodup _ hnodup) (List.mem_filter.mpr ⟨hr, helig⟩)).mpr ?_
  unfold Covers at hcovers
  simp only at hcovers
  omega

end Outbox

namespace OutboxRow

variable {r : OutboxRow} {now : ℤ} {lease : ℕ}

theorem le_saturatingSub {a b : ℤ} (h : a + leaseMicros lease ≤ b) (hb : b ≤ i64Max) :
    a ≤ saturatingSub b (leaseMicros lease) := by
  have hlease : 0 ≤ leaseMicros lease := by
    unfold leaseMicros i64Max
    omega
  unfold saturatingSub
  omega

theorem Ok.eligible_or_exhausted (hok : r.Ok) (hs : r.isActive) (hnow : now ≤ i64Max)
    (hdue : r.IsDue now lease) :
    r.isEligible now (saturatingSub now (leaseMicros lease)) ∨
      r.isExhausted (saturatingSub now (leaseMicros lease)) := by
  by_cases hp : r.status = .processing
  · obtain ⟨lockedAt, hlocked⟩ := Option.isSome_iff_exists.mp (hok.lease.mpr hp)
    have hexpired : r.lockedAt.any (· ≤ saturatingSub now (leaseMicros lease)) := by
      simpa [hlocked] using le_saturatingSub (hdue.1 hp lockedAt hlocked) hnow
    rcases lt_or_ge r.attempts r.maxAttempts with hlt | hge
    · left
      simp [isEligible, hlt, hp, hexpired]
    · right
      simp [isExhausted, hp, hexpired, hge]
  · left
    have hwaiting : r.status = .pending ∨ r.status = .failed := by
      simp only [isActive, Bool.or_eq_true, decide_eq_true_eq] at hs
      tauto
    have hlt := hok.retry hwaiting
    have havailable := hdue.2 hp
    simp only [isEligible, Bool.and_eq_true, Bool.or_eq_true, decide_eq_true_eq]
    exact ⟨hlt, .inl ⟨hwaiting, havailable⟩⟩

end OutboxRow

namespace OutboxSystem

/-- A claim at a time when the row is due claims it or moves it to the dead letters. -/
theorem Inv.claimed_or_buried {sys : OutboxSystem} (hinv : Inv sys) (p : Platform) {r : OutboxRow}
    (hr : r ∈ sys.outbox) (hs : r.isActive) {workerId uuid : String} {limit : ℤ}
    {lease : ℕ} {now : ℤ} (hvalid : OutboxWorker.ValidClaim workerId limit lease)
    (hnow : now ≤ i64Max) (hdue : r.IsDue now lease)
    (hcovers : sys.outbox.Covers limit lease now r) :
    ∃ r' ∈ (sys.apply p (.claimBatch workerId uuid limit lease now)).outbox, r'.id = r.id ∧
      (r'.status = .processing ∧ r'.lockedBy = some (workerId ++ ":" ++ uuid) ∨
        r'.status = .deadLetter) := by
  obtain ⟨o', hclaim, hrows⟩ := sys.outbox.claimBatch_eq workerId uuid limit lease now
  simp only [apply, claimBatch_of_valid hvalid hclaim]
  refine ⟨_, by rw [mem_iff, hrows]; exact mem_map_of_mem hr, ?_⟩
  rcases (hinv.rows r hr).eligible_or_exhausted hs hnow hdue with helig | hx
  · rw [claimChange_of_selected
      (mem_claimSelection_of_covers hvalid.2.1 hr helig hcovers)]
    exact ⟨rfl, .inl ⟨rfl, rfl⟩⟩
  · rw [claimChange, if_pos hx]
    exact ⟨rfl, .inr rfl⟩

/-- Over every run of enqueues, claims under fresh tokens, reports with claimed
records and replays: attempts stay within their maximum; a row carries a token
exactly while it is processing; a report with a superseded claim changes
nothing; a succeeded row never changes again; and a waiting row is claimed or
dead-lettered by any claim that is made when it is due and whose limit covers it. -/
theorem outbox_run_sound (p : Platform) {sys : OutboxSystem} (h : (machine p).Reachable init sys) :
    (∀ r ∈ sys.outbox, r.attempts ≤ r.maxAttempts) ∧
    (∀ r ∈ sys.outbox, r.lockedBy.isSome = true ↔ r.status = .processing) ∧
    (∀ newer event older, sys.issued = newer ++ event :: older →
      (∃ e ∈ newer, e.id = event.id) → ∀ failure error now,
        sys.apply p (.succeeded event now) = sys ∧
          sys.apply p (.failed event failure error now) = sys) ∧
    (∀ sys', (machine p).Reachable sys sys' →
      ∀ r ∈ sys.outbox, r.status = .succeeded → r ∈ sys'.outbox) ∧
    (∀ r ∈ sys.outbox, r.status ≠ .succeeded → r.status ≠ .deadLetter →
      ∀ workerId uuid limit lease now, OutboxWorker.ValidClaim workerId limit lease →
        now ≤ i64Max → r.IsDue now lease → sys.outbox.Covers limit lease now r →
        ∃ r' ∈ (sys.apply p (.claimBatch workerId uuid limit lease now)).outbox, r'.id = r.id ∧
          (r'.status = .processing ∧ r'.lockedBy = some (workerId ++ ":" ++ uuid) ∨
            r'.status = .deadLetter)) := by
  have hinv := reachable_inv h
  refine ⟨fun r hr => (hinv.rows r hr).attempts, fun r hr => (hinv.rows r hr).token, ?_, ?_, ?_⟩
  · intro newer event older hissued hnewer failure error now
    exact hinv.stale_report p hissued hnewer failure error now
  · intro sys' hreach
    exact succeeded_stable hreach
  · intro r hr hsucceeded hdead workerId uuid limit lease now hvalid hnow hdue hcovers
    have hactive : r.isActive := by
      simp only [OutboxRow.isActive, Bool.or_eq_true, decide_eq_true_eq]
      cases hstatus : r.status <;> simp_all
    exact hinv.claimed_or_buried p hr hactive hvalid hnow hdue hcovers

/-- One row claimed by two workers in turn, the second after the first lease ended. -/
def twiceClaimed : List OutboxStep :=
  [.enqueue (fun _ => "row") 0 [.createAlert "tenant" "rule" "device" "warning" "hot" none],
    .claimBatch "worker" "1" 10 1000 5, .claimBatch "worker" "2" 10 1000 8]

theorem twiceClaimed_run :
    (machine default).Run init twiceClaimed (twiceClaimed.foldl (apply default) init) := by
  refine .cons trivial (.cons ?_ (.cons ?_ (.nil _)))
  · change "worker" ++ ":" ++ "1" ∉ ([] : List String)
    decide
  · change "worker" ++ ":" ++ "2" ∉ ["worker" ++ ":" ++ "1"]
    decide

theorem outbox_run_sound_twiceClaimed :
    ∃ newer event, (twiceClaimed.foldl (apply default) init).issued = [newer, event] ∧
      newer.id = event.id ∧ ∀ now,
        (twiceClaimed.foldl (apply default) init).apply default (.succeeded event now) =
          twiceClaimed.foldl (apply default) init := by
  refine ⟨_, _, rfl, rfl, fun now => ?_⟩
  have hsound := outbox_run_sound default ⟨_, twiceClaimed_run⟩
  exact (hsound.2.2.1 [_] _ [] rfl ⟨_, mem_cons_self, rfl⟩ .permanent "" now).1

end OutboxSystem

end Extrittio
