import Extrittio.Outbox.Laws
import Extrittio.Library.Run

/-!
The worker side of the outbox and the system it forms with the table: producers
enqueue, workers claim and report with the records they were handed, operators
replay dead letters. Reports may be delayed or repeated without bound.
-/
namespace Extrittio

open Relational Transition

namespace OutboxWorker

/-- A persistence result as an application sees it; a failure rolls back. -/
def commit {α : Type*} (o : Outbox) : Except PersistenceError (Outbox × α) →
    Outbox × Except ApplicationError α
  | .ok (o', value) => (o', .ok value)
  | .error e => (o, .error (.persistence e))

@[simp] theorem commit_ok {α : Type*} (o o' : Outbox) (value : α) :
    commit o (.ok (o', value)) = (o', .ok value) := rfl

def claimBatch (workerId uuid : String) (limit : ℤ) (lease : ℕ) (now : ℤ) (o : Outbox) :
    Outbox × Except ApplicationError (List OutboxEventRecord) :=
  if workerId = "" ∨ limit ≤ 0 ∨ lease = 0 ∨ ((lease / 1000 : ℕ) : ℤ) > i64Max then
    (o, .error (.invalidInput "outbox claims require a worker label, positive batch size, and representable positive lease"))
  else
    match commit o (o.claimBatch workerId uuid limit lease now) with
    | (o', .ok events) =>
      if events.any fun event => event.claimToken.all (· = "") then
        (o', .error (.internal "claimed outbox event has no lease token"))
      else (o', .ok events)
    | refused => refused

/-- The claims that the application lets through. -/
def ValidClaim (workerId : String) (limit : ℤ) (lease : ℕ) : Prop :=
  workerId ≠ "" ∧ 0 < limit ∧ lease ≠ 0 ∧ ((lease / 1000 : ℕ) : ℤ) ≤ i64Max

theorem claimBatch_of_not_valid {workerId : String} {limit : ℤ} {lease : ℕ} (uuid : String)
    (now : ℤ) (o : Outbox) (h : ¬ValidClaim workerId limit lease) :
    ∃ e, claimBatch workerId uuid limit lease now o = (o, .error e) := by
  refine ⟨_, if_pos ?_⟩
  unfold ValidClaim at h
  by_contra hc
  push Not at hc
  exact h hc

theorem claimBatch_of_valid {workerId uuid : String} {limit : ℤ} {lease : ℕ} {now : ℤ}
    {o o' : Outbox} {selected : List OutboxRow} (h : ValidClaim workerId limit lease)
    (hclaim : o.claimBatch workerId uuid limit lease now =
      .ok (o', selected.map fun r => (r.claim now (workerId ++ ":" ++ uuid)).toRecord)) :
    claimBatch workerId uuid limit lease now o =
      (o', .ok (selected.map fun r => (r.claim now (workerId ++ ":" ++ uuid)).toRecord)) := by
  obtain ⟨hworker, hlimit, hlease, hmicros⟩ := h
  have hguard : ¬(workerId = "" ∨ limit ≤ 0 ∨ lease = 0 ∨ ((lease / 1000 : ℕ) : ℤ) > i64Max) := by
    simp only [not_or, not_le, not_lt]
    exact ⟨hworker, hlimit, hlease, hmicros⟩
  have htokens : ¬(selected.map fun r => (r.claim now (workerId ++ ":" ++ uuid)).toRecord).any
      (fun event => event.claimToken.all (· = "")) := by
    simp [OutboxRow.claim, OutboxRow.toRecord]
  rw [claimBatch, if_neg hguard, hclaim]
  simp only [commit_ok]
  rw [if_neg htokens]

def succeeded (event : OutboxEventRecord) (now : ℤ) (o : Outbox) :
    Outbox × Except ApplicationError Bool :=
  match event.claimToken with
  | none => (o, .error (.internal "event is not claimed"))
  | some token => commit o (o.markSucceeded event.id token now)

def failed (event : OutboxEventRecord) (failure : FailureClass) (error : String) (now : ℤ)
    (o : Outbox) : Outbox × Except ApplicationError Bool :=
  match event.claimToken with
  | none => (o, .error (.internal "event is not claimed"))
  | some token =>
    commit o (o.markFailed event.id token event.attempts event.maxAttempts failure error now)

end OutboxWorker

inductive OutboxStep where
  | enqueue (uuid : ℕ → String) (now : ℤ) (actions : List PendingAction)
  | claimBatch (workerId uuid : String) (limit : ℤ) (lease : ℕ) (now : ℤ)
  | succeeded (event : OutboxEventRecord) (now : ℤ)
  | failed (event : OutboxEventRecord) (failure : FailureClass) (error : String) (now : ℤ)
  | replay (tenant : String) (eventIds : Option (List String)) (now : ℤ)

/-- The table, the records handed to workers (newest first) and the tokens drawn. -/
structure OutboxSystem where
  outbox : Outbox
  issued : List OutboxEventRecord
  tokens : List String

namespace OutboxSystem

def init : OutboxSystem := ⟨Outbox.empty, [], []⟩

/-- Claims draw fresh tokens; workers report with records they were handed. -/
def enabled (sys : OutboxSystem) : OutboxStep → Prop
  | .claimBatch workerId uuid .. => workerId ++ ":" ++ uuid ∉ sys.tokens
  | .succeeded event _ | .failed event .. => event ∈ sys.issued
  | .enqueue .. | .replay .. => True

def apply (p : Platform) (sys : OutboxSystem) : OutboxStep → OutboxSystem
  | .enqueue uuid now actions =>
    { sys with outbox :=
        (OutboxWorker.commit sys.outbox
          (sys.outbox.enqueueActionsInTransaction p uuid now actions)).1 }
  | .claimBatch workerId uuid limit lease now =>
    let (outbox, result) := OutboxWorker.claimBatch workerId uuid limit lease now sys.outbox
    match result with
    | .ok events => ⟨outbox, events ++ sys.issued, (workerId ++ ":" ++ uuid) :: sys.tokens⟩
    | .error _ => { sys with outbox := outbox }
  | .succeeded event now =>
    { sys with outbox := (OutboxWorker.succeeded event now sys.outbox).1 }
  | .failed event failure error now =>
    { sys with outbox := (OutboxWorker.failed event failure error now sys.outbox).1 }
  | .replay tenant eventIds now =>
    { sys with outbox :=
        (OutboxWorker.commit sys.outbox (sys.outbox.replayDeadLetters tenant eventIds now)).1 }

def machine (p : Platform) : Machine OutboxSystem OutboxStep := ⟨enabled, apply p⟩

end OutboxSystem

end Extrittio
