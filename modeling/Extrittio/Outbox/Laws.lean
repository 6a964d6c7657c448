import Extrittio.Outbox.Repository

/-!
What each outbox statement does to the table, row by row. Every statement but an
insert rewrites rows in place, so its effect is a map over the rows; the lemmas
here give that map and say when the unique index can refuse it.
-/
namespace Extrittio

open Relational List
open OutboxRow hiding id

namespace OutboxRow

variable {r : OutboxRow} {now : ℤ} {token : String}

theorem activeSlot_of_not_active (h : r.isActive = false) : r.activeSlot = none := by
  simp [activeSlot, h]

theorem activeSlot_eq_some {tenant type key : String} (h : r.activeSlot = some (tenant, type, key)) :
    r.isActive ∧ r.tenantId = tenant ∧ r.eventType = type ∧ r.idempotencyKey = some key := by
  unfold activeSlot at h
  split at h
  next hactive =>
    obtain ⟨k, hk, heq⟩ := Option.map_eq_some_iff.mp h
    cases heq
    exact ⟨hactive, rfl, rfl, hk⟩
  next => cases h

theorem activeSlot_claim (h : r.isActive) : (r.claim now token).activeSlot = r.activeSlot := by
  have hclaim : (r.claim now token).isActive := by simp [isActive, claim]
  rw [activeSlot, activeSlot, if_pos h, if_pos hclaim]
  rfl

theorem activeSlot_exhaust : (r.exhaust now).activeSlot = none :=
  activeSlot_of_not_active (by simp [exhaust, isActive])

theorem activeSlot_succeed : (r.succeed now).activeSlot = none :=
  activeSlot_of_not_active (by simp [succeed, isActive])

theorem activeSlot_fail {status : OutboxStatus} {availableAt : ℤ} {error : String}
    (h : r.status = .processing) (hs : status = .failed ∨ status = .deadLetter) :
    (r.fail status availableAt error now).activeSlot = r.activeSlot ∨
      (r.fail status availableAt error now).activeSlot = none := by
  rcases hs with rfl | rfl
  · left
    simp [activeSlot, isActive, fail, slot, h]
  · right
    exact activeSlot_of_not_active (by simp [fail, isActive])

variable {leaseCutoff : ℤ}

theorem isActive_of_isEligible (h : r.isEligible now leaseCutoff) :
    r.isActive := by
  simp only [isEligible, isActive, Bool.and_eq_true, Bool.or_eq_true, decide_eq_true_eq] at h ⊢
  tauto

theorem attempts_lt_of_isEligible (h : r.isEligible now leaseCutoff) :
    r.attempts < r.maxAttempts := by
  simp only [isEligible, Bool.and_eq_true, decide_eq_true_eq] at h
  exact h.1

theorem isEligible_exhaust : (r.exhaust now).isEligible now leaseCutoff = false := by
  simp [isEligible, exhaust]

theorem not_isEligible_of_isExhausted {cutoff : ℤ}
    (h : r.isExhausted leaseCutoff) : r.isEligible now cutoff = false := by
  simp only [isExhausted, Bool.and_eq_true, decide_eq_true_eq] at h
  have hnot : ¬r.attempts < r.maxAttempts := not_lt.mpr h.2
  simp [isEligible, hnot]

theorem isHeldBy_iff {eventId claimToken : String} :
    r.isHeldBy eventId claimToken ↔
      r.id = eventId ∧ r.status = .processing ∧ r.lockedBy = some claimToken := by
  simp [isHeldBy, and_assoc]

theorem failureDisposition_status (attempts maxAttempts : ℤ) (failure : FailureClass) :
    (failureDisposition attempts maxAttempts failure).1 = .failed ∨
      (failureDisposition attempts maxAttempts failure).1 = .deadLetter := by
  unfold failureDisposition
  split
  · exact .inr rfl
  · exact .inl rfl

end OutboxRow

namespace Outbox

variable {o o' : Outbox} {p : OutboxRow → Bool} {f : OutboxRow → OutboxRow}
  {hf : ∀ r, (f r).id = r.id}

theorem update_eq_ok :
    o.update p f hf = .ok o' ↔
      o'.table.rows = o.table.rows.map fun r => if p r then f r else r := by
  unfold update
  constructor
  · intro h
    simp only at h
    split at h
    · cases h
      rfl
    · cases h
  · intro h
    have ht : o.table.update p f hf = o'.table := Table.ext h.symm
    have hu : ((o.table.update p f hf).rows.filterMap activeSlot).Nodup := by
      rw [ht]
      exact o'.activeUnique
    rw [dif_pos hu]
    congr

theorem filterMap_map_sublist (rows : List OutboxRow) (g : OutboxRow → OutboxRow)
    (h : ∀ r ∈ rows, (g r).activeSlot = r.activeSlot ∨ (g r).activeSlot = none) :
    ((rows.map g).filterMap activeSlot).Sublist (rows.filterMap activeSlot) := by
  induction rows with
  | nil => exact List.Sublist.refl _
  | cons r rows ih =>
    have ih' := ih fun r' hr' => h r' (mem_cons_of_mem r hr')
    rw [map_cons]
    rcases h r mem_cons_self with heq | hnone
    · cases hr : r.activeSlot with
      | none => simpa [heq, hr] using ih'
      | some k => simpa [heq, hr] using ih'
    · rw [filterMap_cons_none hnone]
      exact ih'.trans ((sublist_cons_self r rows).filterMap _)

theorem update_ok (o : Outbox) (p : OutboxRow → Bool) (f : OutboxRow → OutboxRow)
    (hf : ∀ r, (f r).id = r.id)
    (h : ∀ r ∈ o, p r → (f r).activeSlot = r.activeSlot ∨ (f r).activeSlot = none) :
    ∃ o', o.update p f hf = .ok o' ∧
      o'.table.rows = o.table.rows.map fun r => if p r then f r else r := by
  have hsub := filterMap_map_sublist o.table.rows (fun r => if p r then f r else r) (by
    intro r hr
    cases hp : p r with
    | true => simpa [hp] using h r hr hp
    | false => exact .inl (by simp))
  refine ⟨⟨o.table.update p f hf, o.activeUnique.sublist hsub⟩, ?_, rfl⟩
  exact update_eq_ok.mpr rfl

variable {r : OutboxRow} {limit now leaseCutoff : ℤ} {tenant : String}

theorem byId_of_mem (hr : r ∈ o) : o.byId r.id = .ok r.toRecord := by
  have hfind : o.table.find? r.id = some r := Table.find?_eq_some.mpr ⟨hr, rfl⟩
  simp [byId, hfind]

/-- Claiming distinct active rows one by one claims exactly those rows. -/
theorem claimEach_eq (now : ℤ) (token : String) (selected : List OutboxRow)
    (hsub : ∀ r ∈ selected, r ∈ o) (hnodup : (selected.map OutboxRow.id).Nodup)
    (hactive : ∀ r ∈ selected, r.isActive) :
    ∃ o', o.claimEach now token (selected.map OutboxRow.id) =
        .ok (o', selected.map fun r => (r.claim now token).toRecord) ∧
      o'.table.rows = o.table.rows.map fun r =>
        if r.id ∈ selected.map OutboxRow.id then r.claim now token else r := by
  induction selected generalizing o with
  | nil => exact ⟨o, rfl, by simp⟩
  | cons r rest ih =>
    obtain ⟨hfresh, hrest⟩ := nodup_cons.mp hnodup
    have hr : r ∈ o := hsub r mem_cons_self
    obtain ⟨o₁, hok, hrows⟩ := o.update_ok (fun r' => r'.id = r.id)
      (claim now token) (fun _ => rfl) (by
        intro r' hr' hid
        obtain rfl := o.eq_of_id_eq hr' hr (by simpa using hid)
        exact .inl (activeSlot_claim (hactive r' mem_cons_self)))
    have hclaimed : r.claim now token ∈ o₁ := by
      rw [mem_iff, hrows]
      exact mem_map.mpr ⟨r, hr, by simp⟩
    have hkept : ∀ r' ∈ rest, r' ∈ o₁ := by
      intro r' hr'
      have hne : r'.id ≠ r.id := fun h => hfresh (h ▸ mem_map_of_mem hr')
      rw [mem_iff, hrows]
      exact mem_map.mpr ⟨r', hsub r' (mem_cons_of_mem r hr'), by simp [hne]⟩
    obtain ⟨o₂, hok₂, hrows₂⟩ := ih hkept hrest fun r' hr' => hactive r' (mem_cons_of_mem r hr')
    refine ⟨o₂, ?_, ?_⟩
    · have hbyId : o₁.byId r.id = .ok (r.claim now token).toRecord := byId_of_mem hclaimed
      simp only [map_cons, claimEach, hok, hbyId, hok₂, bind, Except.bind, pure, Except.pure]
    · rw [hrows₂, hrows, map_map]
      apply map_congr_left
      intro r' _
      simp only [Function.comp_apply, map_cons, mem_cons, decide_eq_true_eq]
      by_cases hid : r'.id = r.id
      · have hnot : (r'.claim now token).id ∉ rest.map OutboxRow.id := by
          change r'.id ∉ _
          rwa [hid]
        rw [if_pos hid, if_neg hnot, if_pos (.inl hid)]
      · rw [if_neg hid]
        simp only [hid, false_or]

theorem limitTo_sublist {α : Type*} (limit : ℤ) (rows : List α) :
    (limitTo limit rows).Sublist rows := by
  unfold limitTo
  split
  · exact List.Sublist.refl rows
  · exact take_sublist _ rows

def claimSelection (o : Outbox) (limit now leaseCutoff : ℤ) : List OutboxRow :=
  limitTo limit (o.claimOrder now leaseCutoff)

theorem mem_claimSelection (h : r ∈ o.claimSelection limit now leaseCutoff) :
    r ∈ o ∧ r.isEligible now leaseCutoff := by
  have hr := (limitTo_sublist limit _).subset h
  simpa [claimOrder, mem_iff] using hr

theorem claimSelection_nodup (limit now leaseCutoff : ℤ) :
    ((o.claimSelection limit now leaseCutoff).map OutboxRow.id).Nodup := by
  have hfilter : ((o.table.rows.filter (isEligible now leaseCutoff)).map
      OutboxRow.id).Nodup :=
    o.table.nodup.sublist (filter_sublist.map _)
  have horder : ((o.claimOrder now leaseCutoff).map OutboxRow.id).Nodup :=
    (((orderBy_perm _ _).map OutboxRow.id).nodup_iff).mpr hfilter
  exact horder.sublist ((limitTo_sublist limit _).map _)

theorem mem_claimSelection_of_id (hr : r ∈ o)
    (h : r.id ∈ (o.claimSelection limit now leaseCutoff).map OutboxRow.id) :
    r ∈ o.claimSelection limit now leaseCutoff := by
  obtain ⟨r', hr', heq⟩ := mem_map.mp h
  obtain rfl := o.eq_of_id_eq (mem_claimSelection hr').1 hr heq
  exact hr'

theorem claimOrder_sweep {swept : Outbox} (h : swept.table.rows = o.table.rows.map fun r =>
      if r.isExhausted leaseCutoff then r.exhaust now else r) :
    swept.claimOrder now leaseCutoff = o.claimOrder now leaseCutoff := by
  have heligible : swept.table.rows.filter (isEligible now leaseCutoff) =
      o.table.rows.filter (isEligible now leaseCutoff) := by
    rw [h]
    induction o.table.rows with
    | nil => rfl
    | cons r rows ih =>
      rw [map_cons, filter_cons, filter_cons, ih]
      cases hx : r.isExhausted leaseCutoff with
      | false => simp
      | true =>
        simp [isEligible_exhaust, not_isEligible_of_isExhausted hx]
  simp only [claimOrder, heligible]

/-- The effect of a claim on one row: exhausted rows are buried, selected ones claimed. -/
def claimChange (o : Outbox) (limit now leaseCutoff : ℤ) (token : String) (r : OutboxRow) :
    OutboxRow :=
  if r.isExhausted leaseCutoff then r.exhaust now
  else if r.id ∈ (o.claimSelection limit now leaseCutoff).map OutboxRow.id then r.claim now token
  else r

/-- The rewrite of selected rows after the sweep, as one rewrite of the table. -/
theorem claimChange_eq {token : String} (hr : r ∈ o) :
    (let r' := if r.isExhausted leaseCutoff then r.exhaust now else r
      if r'.id ∈ (o.claimSelection limit now leaseCutoff).map OutboxRow.id then r'.claim now token
      else r') = o.claimChange limit now leaseCutoff token r := by
  unfold claimChange
  cases hx : r.isExhausted leaseCutoff with
  | false => rfl
  | true =>
    have hnot : r.id ∉ (o.claimSelection limit now leaseCutoff).map OutboxRow.id := by
      intro hid
      have helig := (mem_claimSelection (mem_claimSelection_of_id hr hid)).2
      rw [not_isEligible_of_isExhausted hx] at helig
      cases helig
    exact if_neg hnot

theorem claimBatch_eq (workerId uuid : String) (limit : ℤ) (lease : ℕ) (now : ℤ) (o : Outbox) :
    ∃ o', let leaseCutoff := saturatingSub now (leaseMicros lease)
      let token := workerId ++ ":" ++ uuid
      o.claimBatch workerId uuid limit lease now = .ok (o',
        (o.claimSelection limit now leaseCutoff).map fun r => (r.claim now token).toRecord) ∧
      o'.table.rows = o.table.rows.map (o.claimChange limit now leaseCutoff token) := by
  obtain ⟨swept, hsweep, hswept⟩ := o.update_ok
    (isExhausted (saturatingSub now (leaseMicros lease)))
    (exhaust now) (fun _ => rfl)
    fun r _ _ => .inr activeSlot_exhaust
  have hselection : swept.claimSelection limit now (saturatingSub now (leaseMicros lease)) =
      o.claimSelection limit now (saturatingSub now (leaseMicros lease)) := by
    rw [claimSelection, claimOrder_sweep hswept]
    rfl
  obtain ⟨o', hclaim, hrows⟩ := claimEach_eq (o := swept) now (workerId ++ ":" ++ uuid)
    (swept.claimSelection limit now (saturatingSub now (leaseMicros lease)))
    (fun r hr => (mem_claimSelection hr).1) (claimSelection_nodup _ _ _)
    (fun r hr => isActive_of_isEligible (mem_claimSelection hr).2)
  rw [hselection] at hrows
  refine ⟨o', ?_, ?_⟩
  · rw [← hselection]
    simp only [claimBatch, hsweep, bind, Except.bind]
    exact hclaim
  · rw [hrows, hswept, map_map]
    exact map_congr_left fun r hr => claimChange_eq hr

theorem markSucceeded_eq (eventId claimToken : String) (now : ℤ) (o : Outbox) :
    ∃ o', o.markSucceeded eventId claimToken now =
        .ok (o', o.updatesOne (isHeldBy eventId claimToken)) ∧
      o'.table.rows = o.table.rows.map fun r =>
        if r.isHeldBy eventId claimToken then r.succeed now else r := by
  obtain ⟨o', hok, hrows⟩ := o.update_ok (isHeldBy eventId claimToken)
    (succeed now) (fun _ => rfl)
    fun r _ _ => .inr activeSlot_succeed
  refine ⟨o', ?_, hrows⟩
  simp only [markSucceeded, hok, bind, Except.bind, pure, Except.pure]

theorem markFailed_eq (eventId claimToken : String) (attempts maxAttempts : ℤ)
    (failure : FailureClass) (error : String) (now : ℤ) (o : Outbox) :
    ∃ o', let held := fun r : OutboxRow => r.isHeldBy eventId claimToken && r.attempts = attempts
      let disposition := failureDisposition attempts maxAttempts failure
      o.markFailed eventId claimToken attempts maxAttempts failure error now =
        .ok (o', o.updatesOne held) ∧
      o'.table.rows = o.table.rows.map fun r =>
        if held r then
          r.fail disposition.1 (saturatingAdd now (disposition.2 * 1000000))
            (String.ofList (error.toList.take 2000)) now
        else r := by
  obtain ⟨o', hok, hrows⟩ := o.update_ok
    (fun r => r.isHeldBy eventId claimToken && r.attempts = attempts)
    (fail (failureDisposition attempts maxAttempts failure).1
      (saturatingAdd now ((failureDisposition attempts maxAttempts failure).2 * 1000000))
      (String.ofList (error.toList.take 2000)) now) (fun _ => rfl) (by
        intro r _ hp
        have hheld := isHeldBy_iff.mp (Bool.and_eq_true_iff.mp hp).1
        exact activeSlot_fail hheld.2.1 (failureDisposition_status _ _ _))
  refine ⟨o', ?_, hrows⟩
  simp only [markFailed, hok, bind, Except.bind, pure, Except.pure]

theorem replayEach_eq_ok {ids : List String} {count n : ℕ}
    (h : o.replayEach tenant now ids count = .ok (o', n)) :
    o'.table.rows = o.table.rows.map fun r =>
      if r.isDeadLetterOf tenant && r.id ∈ ids then r.replay now else r := by
  induction ids generalizing o count with
  | nil =>
    cases h
    simp
  | cons id ids ih =>
    obtain ⟨o₁, hu, hrest⟩ := of_bind_ok h
    rw [ih hrest, update_eq_ok.mp hu, map_map]
    apply map_congr_left
    intro r _
    -- A revived row is pending, so a repeated id finds nothing more to do.
    have hrevived : (r.replay now).isDeadLetterOf tenant = false := by
      simp [isDeadLetterOf, replay]
    cases hd : r.isDeadLetterOf tenant with
    | false => simp [hd]
    | true =>
      by_cases hid : r.id = id
      · simp [hd, hid, hrevived]
      · simp [hd, hid]

theorem replayDeadLetters_eq_ok {eventIds : Option (List String)} {n : ℕ}
    (h : o.replayDeadLetters tenant eventIds now = .ok (o', n)) :
    o'.table.rows = o.table.rows.map fun r =>
      if r.isDeadLetterOf tenant && eventIds.all (r.id ∈ ·) then r.replay now else r := by
  cases eventIds with
  | some ids => exact replayEach_eq_ok h
  | none =>
    obtain ⟨o₁, hu, hok⟩ := of_bind_ok h
    cases hok
    simpa using update_eq_ok.mp hu

section

variable {r : OutboxRow}

/-- Whether the primary key or the unique index stands in the way of a row. -/
def Conflicts (o : Outbox) (r : OutboxRow) : Prop :=
  ∃ r' ∈ o, r'.id = r.id ∨ (r.activeSlot.isSome = true ∧ r'.activeSlot = r.activeSlot)

theorem insertOrIgnore_of_conflicts (h : o.Conflicts r) : o.insertOrIgnore r = (o, 0) := by
  obtain ⟨r', hr', hkey | ⟨hsome, hslot⟩⟩ := h
  · have hnone : o.table.insert? r = none := Table.insert?_eq_none.mpr ⟨r', hr', hkey⟩
    simp [insertOrIgnore, hnone]
  · unfold insertOrIgnore
    split
    · rfl
    next table htable =>
      have hrows := (Table.insert?_eq_some.mp htable).2
      obtain ⟨k, hk⟩ := Option.isSome_iff_exists.mp hsome
      have hmem : k ∈ o.table.rows.filterMap activeSlot :=
        mem_filterMap.mpr ⟨r', hr', hslot.trans hk⟩
      rw [dif_neg]
      rw [hrows, filterMap_append, nodup_append]
      rintro ⟨-, -, hdisj⟩
      exact hdisj k hmem k (by simp [hk]) rfl

theorem insertOrIgnore_of_not_conflicts (h : ¬o.Conflicts r) :
    (o.insertOrIgnore r).1.table.rows = o.table.rows ++ [r] ∧ (o.insertOrIgnore r).2 = 1 := by
  have hid : ∀ r' ∈ o.table, r'.id ≠ r.id := fun r' hr' hk => h ⟨r', hr', .inl hk⟩
  unfold insertOrIgnore
  split
  next hnone =>
    obtain ⟨r', hr', hk⟩ := Table.insert?_eq_none.mp hnone
    exact absurd hk (hid r' hr')
  next table htable =>
    have hrows := (Table.insert?_eq_some.mp htable).2
    have hnodup : (table.rows.filterMap activeSlot).Nodup := by
      rw [hrows, filterMap_append, nodup_append]
      refine ⟨o.activeUnique, ?_, ?_⟩
      · cases hr : r.activeSlot <;> simp [hr]
      · rintro k hk k' hk' rfl
        obtain ⟨r', hr', hslot⟩ := mem_filterMap.mp hk
        have hnew : r.activeSlot = some k := by simpa using hk'
        exact h ⟨r', hr', .inr ⟨by simp [hnew], hslot.trans hnew.symm⟩⟩
    rw [dif_pos hnodup]
    exact ⟨hrows, rfl⟩

def enqueueRows (o : Outbox) (rows : List OutboxRow) : Outbox :=
  rows.foldl (fun o r => (o.insertOrIgnore r).1) o

/-- The table only grows at its end, by some of the offered rows. -/
theorem enqueueRows_rows (o : Outbox) (rows : List OutboxRow) :
    ∃ added, (o.enqueueRows rows).table.rows = o.table.rows ++ added ∧ added.Sublist rows := by
  induction rows generalizing o with
  | nil => exact ⟨[], by simp [enqueueRows], List.Sublist.refl _⟩
  | cons r rows ih =>
    obtain ⟨added, hadded, hsub⟩ := ih (o.insertOrIgnore r).1
    by_cases hc : o.Conflicts r
    · rw [insertOrIgnore_of_conflicts hc] at hadded
      refine ⟨added, ?_, hsub.cons r⟩
      simpa [enqueueRows, insertOrIgnore_of_conflicts hc] using hadded
    · rw [(insertOrIgnore_of_not_conflicts hc).1, append_assoc] at hadded
      exact ⟨r :: added, hadded, hsub.cons_cons r⟩

/-- Rows under new ids are all taken in, unless their slot is held already. -/
theorem enqueueRows_covers {rows : List OutboxRow} (hfresh : ∀ r ∈ rows, ∀ r' ∈ o, r'.id ≠ r.id)
    (hnodup : (rows.map OutboxRow.id).Nodup) (hr : r ∈ rows) :
    ∃ r' ∈ o.enqueueRows rows, r'.activeSlot = r.activeSlot := by
  induction rows generalizing o with
  | nil => cases hr
  | cons x rows ih =>
    obtain ⟨hx, hrest⟩ := nodup_cons.mp hnodup
    have hkept : ∀ (o₁ : Outbox), ∀ r' ∈ o₁, r' ∈ o₁.enqueueRows rows := by
      intro o₁ r' hr'
      obtain ⟨added, hadded, -⟩ := o₁.enqueueRows_rows rows
      rw [mem_iff, hadded]
      exact mem_append_left _ hr'
    change ∃ r' ∈ (o.insertOrIgnore x).1.enqueueRows rows, _
    by_cases hc : o.Conflicts x
    · rw [insertOrIgnore_of_conflicts hc]
      rcases mem_cons.mp hr with rfl | hr
      · obtain ⟨r', hr', hid | ⟨-, heq⟩⟩ := hc
        · exact absurd hid (hfresh r mem_cons_self r' hr')
        · exact ⟨r', hkept o r' hr', heq⟩
      · exact ih (fun y hy => hfresh y (mem_cons_of_mem x hy)) hrest hr
    · have hinserted := (insertOrIgnore_of_not_conflicts hc).1
      rcases mem_cons.mp hr with rfl | hr
      · refine ⟨r, hkept _ r ?_, rfl⟩
        rw [mem_iff, hinserted]
        exact mem_append_right _ (mem_singleton_self r)
      · refine ih ?_ hrest hr
        intro y hy r' hr'
        rw [mem_iff, hinserted, mem_append, mem_singleton] at hr'
        rcases hr' with hr' | rfl
        · exact hfresh y (mem_cons_of_mem x hy) r' hr'
        · exact fun hid => hx (hid ▸ mem_map_of_mem hy)

end

end Outbox

/-- The row that a deliverable action is offered as. -/
def OutboxRow.ofAction (p : Platform) (uuid : ℕ → String) (now : ℤ) (action : PendingAction × ℕ) :
    OutboxRow :=
  OutboxRow.ofEvent now (eventForAction p (uuid action.2) action.1)

namespace Outbox

section

variable {p : Platform} {uuid : ℕ → String} {now : ℤ}

theorem enqueueAction_of_isDelivery {state : Outbox × ℕ} {action : PendingAction × ℕ}
    (h : action.1.isDelivery) :
    enqueueAction p uuid now state action =
      .ok ((state.1.insertOrIgnore (ofAction p uuid now action)).1,
        state.2 + (state.1.insertOrIgnore (ofAction p uuid now action)).2) := by
  simp [enqueueAction, outboxEventForAction, h, ofAction]

variable {actions : List (PendingAction × ℕ)}

theorem foldlM_enqueueAction (p : Platform) (uuid : ℕ → String) (now : ℤ)
    (h : ∀ action ∈ actions, action.1.isDelivery) (state : Outbox × ℕ) :
    ∃ count, actions.foldlM (enqueueAction p uuid now) state =
      .ok (state.1.enqueueRows (actions.map (ofAction p uuid now)), count) := by
  induction actions generalizing state with
  | nil => exact ⟨state.2, rfl⟩
  | cons action actions ih =>
    rw [foldlM_cons, enqueueAction_of_isDelivery (h action mem_cons_self)]
    exact ih (fun a ha => h a (mem_cons_of_mem action ha)) _

theorem nodup_ofAction (p : Platform) {uuid : ℕ → String} (huuid : Function.Injective uuid) (now : ℤ)
    (actions : List PendingAction) :
    ((actions.zipIdx.map (ofAction p uuid now)).map OutboxRow.id).Nodup := by
  have hids : (actions.zipIdx.map (ofAction p uuid now)).map OutboxRow.id =
      (actions.zipIdx.map Prod.snd).map uuid := by
    rw [map_map, map_map]
    rfl
  rw [hids, zipIdx_map_snd]
  exact List.Nodup.map huuid nodup_range'

theorem isDelivery_of_foldlM_ok {state state' : Outbox × ℕ}
    (h : actions.foldlM (enqueueAction p uuid now) state = .ok state') :
    ∀ action ∈ actions, action.1.isDelivery := by
  induction actions generalizing state with
  | nil => simp
  | cons action actions ih =>
    rw [foldlM_cons] at h
    cases hd : action.1.isDelivery with
    | true =>
      rw [enqueueAction_of_isDelivery hd] at h
      exact forall_mem_cons.mpr ⟨hd, ih h⟩
    | false =>
      -- The first runtime action rolls the whole batch back.
      simp [enqueueAction, outboxEventForAction, hd, bind, Except.bind] at h

theorem enqueueActionsInTransaction_eq_ok {actions : List PendingAction} {o o' : Outbox} {count : ℕ}
    (h : o.enqueueActionsInTransaction p uuid now actions = .ok (o', count)) :
    o' = o.enqueueRows (actions.zipIdx.map (ofAction p uuid now)) := by
  obtain ⟨_, hok⟩ := foldlM_enqueueAction p uuid now
    (isDelivery_of_foldlM_ok h) (o, 0)
  have heq := hok.symm.trans h
  simp only [Except.ok.injEq, Prod.mk.injEq] at heq
  exact heq.1.symm

end

end Outbox

end Extrittio
