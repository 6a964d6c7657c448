import Extrittio.Outbox.Worker

/-!
Replaying all dead letters of a tenant. The bulk update brings every dead letter
back under the partial unique index, so it commits exactly when no slot is
wanted twice; a conflict rolls the whole replay back.
-/
namespace Extrittio

open Relational Transition OutboxRow

namespace OutboxRow

/-- The index entry a row has after its tenant's dead letters are replayed. -/
def replayedSlot (tenant : String) (r : OutboxRow) : Option (String × String × String) :=
  if r.isActive || r.isDeadLetterOf tenant then r.slot else none

theorem activeSlot_replay (tenant : String) (now : ℤ) (r : OutboxRow) :
    (if r.isDeadLetterOf tenant then r.replay now else r).activeSlot = r.replayedSlot tenant := by
  cases hd : r.isDeadLetterOf tenant with
  | true =>
    have hactive : (r.replay now).isActive := by simp [isActive, replay]
    simp only [if_true, activeSlot, hactive, replayedSlot, hd, Bool.or_true]
    rfl
  | false => simp [activeSlot, replayedSlot, hd]

theorem not_isDeadLetterOf_replay (tenant : String) (now : ℤ) (r : OutboxRow) :
    (if r.isDeadLetterOf tenant then r.replay now else r).isDeadLetterOf tenant = false := by
  cases hd : r.isDeadLetterOf tenant with
  | true => simp [isDeadLetterOf, replay]
  | false => simpa using hd

end OutboxRow

namespace Outbox

variable {o : Outbox} {tenant : String} {now : ℤ}

/-- No other row that is active or a dead letter of the tenant has the tenant,
event type and idempotency key of one of the tenant's dead letters. -/
def ReplayClear (o : Outbox) (tenant : String) : Prop :=
  ∀ r ∈ o, r.isDeadLetterOf tenant = true → r.slot.isSome = true →
    ∀ r' ∈ o, (r'.isActive = true ∨ r'.isDeadLetterOf tenant = true) → r'.slot = r.slot → r' = r

theorem nodup_replayedSlot_iff :
    (o.table.rows.filterMap (replayedSlot tenant)).Nodup ↔ o.ReplayClear tenant := by
  rw [o.table.nodup_filterMap_iff]
  have hactive := (o.table.nodup_filterMap_iff activeSlot).mp o.activeUnique
  constructor
  · intro h r hr hdead hsome r' hr' hwake hslot
    have hr₁ : r.replayedSlot tenant = r.slot := by simp [replayedSlot, hdead]
    have hr₂ : r'.replayedSlot tenant = r'.slot := by
      simp only [replayedSlot, Bool.or_eq_true, hwake, if_true]
    exact h r hr r' hr' (by rwa [hr₁]) (by rw [hr₁, hr₂, hslot])
  · intro h r hr r' hr' hsome heq
    have hwake : ∀ {a : OutboxRow}, (a.replayedSlot tenant).isSome →
        a.replayedSlot tenant = a.slot ∧ (a.isActive ∨ a.isDeadLetterOf tenant) := by
      intro a ha
      unfold replayedSlot at ha ⊢
      split at ha
      next hcond => exact ⟨if_pos hcond, by simpa using hcond⟩
      next => simp at ha
    obtain ⟨hs, hw⟩ := hwake hsome
    obtain ⟨hs', hw'⟩ := hwake (heq ▸ hsome)
    rw [hs, hs'] at heq
    rw [hs] at hsome
    -- Two active rows are told apart by the index itself.
    rcases hw with hw | hw
    · rcases hw' with hw' | hw'
      · have hra : r.activeSlot = r.slot := if_pos hw
        have hra' : r'.activeSlot = r'.slot := if_pos hw'
        exact hactive r hr r' hr' (by rwa [hra]) (by rw [hra, hra', heq])
      · exact (h r' hr' hw' (heq ▸ hsome) r hr (.inl hw) heq.symm).symm
    · exact h r hr hw hsome r' hr' hw' heq

/-- Replaying all dead letters of a tenant commits and leaves none exactly when
the tenant's dead letters want distinct free slots. -/
theorem replay_all_succeeds_iff (o : Outbox) (tenant : String) (now : ℤ) :
    (∃ o' count, o.replayDeadLetters tenant none now = .ok (o', count) ∧
      ∀ r ∈ o', r.isDeadLetterOf tenant = false) ↔ o.ReplayClear tenant := by
  have hslots : ((o.table.rows.map fun r => if r.isDeadLetterOf tenant then r.replay now else r)
      |>.filterMap activeSlot) =
      o.table.rows.filterMap (replayedSlot tenant) := by
    rw [List.filterMap_map]
    exact List.filterMap_congr fun r _ => activeSlot_replay tenant now r
  rw [← nodup_replayedSlot_iff, ← hslots]
  constructor
  · rintro ⟨o', count, hok, -⟩
    obtain ⟨o₁, hu, -⟩ := of_bind_ok hok
    rw [← update_eq_ok.mp hu]
    exact o₁.activeUnique
  · intro hnodup
    have hu : o.update (isDeadLetterOf tenant) (replay now) (fun _ => rfl) =
        .ok ⟨o.table.update (isDeadLetterOf tenant) (replay now) (fun _ => rfl),
          hnodup⟩ := update_eq_ok.mpr rfl
    refine ⟨_, _, bind_eq_ok_iff.mpr ⟨_, hu, rfl⟩, ?_⟩
    intro r hr
    obtain ⟨r₀, -, rfl⟩ := List.mem_map.mp hr
    exact not_isDeadLetterOf_replay tenant now r₀

end Outbox

namespace OutboxSystem

/-- The same alert creation is enqueued, fails for good, and is enqueued again. -/
def requeuedAlert : List OutboxStep :=
  let action := PendingAction.createAlert "tenant" "rule" "device" "warning" "hot" none
  let row := ofAction default (fun _ => "first") 0 (action, 0)
  [.enqueue (fun _ => "first") 0 [action], .claimBatch "worker" "1" 10 1000 5,
    .failed (row.claim 5 "worker:1").toRecord .permanent "invalid persisted rule action" 6,
    .enqueue (fun _ => "second") 7 [action]]

/-- A reachable outbox whose dead letters cannot be replayed: the new row took
the slot of the dead one, and the bulk update is refused as a whole. -/
theorem requeuedAlert_replay_refused :
    (machine default).Run init requeuedAlert (requeuedAlert.foldl (apply default) init) ∧
      (∀ step ∈ requeuedAlert, ∀ tenant ids now, step ≠ .replay tenant ids now) ∧
      (requeuedAlert.foldl (apply default) init).outbox.replayDeadLetters "tenant" none 8 =
        .error (.uniqueViolation "unique") := by
  refine ⟨.cons trivial (.cons ?_ (.cons ?_ (.cons trivial (.nil _)))), ?_, rfl⟩
  · change "worker" ++ ":" ++ "1" ∉ ([] : List String)
    decide
  · exact List.mem_cons_self
  · simp [requeuedAlert]

end OutboxSystem

end Extrittio
