import Extrittio.RuleActions
import Extrittio.Library.Table
import Extrittio.Library.OrderBy

/-!
The rule-action outbox and its repository. An `Outbox` carries the partial
unique index as a field: one pending, processing or failed row per tenant, event
type and idempotency key. Clock readings and fresh identifiers are arguments.
-/
namespace Extrittio

open Relational

inductive OutboxStatus where
  | pending
  | processing
  | failed
  | succeeded
  | deadLetter
  deriving DecidableEq

/-- A row of `rule_action_outbox`; times are microseconds. -/
structure OutboxRow where
  id : String
  tenantId : String
  eventType : String
  aggregateType : String
  aggregateId : String
  idempotencyKey : Option String
  payload : Json
  status : OutboxStatus
  attempts : ℤ
  maxAttempts : ℤ
  availableAt : ℤ
  lockedAt : Option ℤ
  lockedBy : Option String
  lastError : Option String
  createdAt : ℤ
  updatedAt : ℤ
  deriving DecidableEq

namespace OutboxRow

def isActive (r : OutboxRow) : Bool :=
  r.status = .pending || r.status = .processing || r.status = .failed

/-- The columns of the unique index; a null key is never a conflict. -/
def slot (r : OutboxRow) : Option (String × String × String) :=
  r.idempotencyKey.map fun key => (r.tenantId, r.eventType, key)

/-- The entry of a row in the partial unique index. -/
def activeSlot (r : OutboxRow) : Option (String × String × String) :=
  if r.isActive then r.slot else none

end OutboxRow

structure Outbox where
  table : Table OutboxRow OutboxRow.id
  activeUnique : (table.rows.filterMap OutboxRow.activeSlot).Nodup

namespace Outbox

instance : Membership OutboxRow Outbox := ⟨fun o r => r ∈ o.table⟩

theorem mem_iff {o : Outbox} {r : OutboxRow} : r ∈ o ↔ r ∈ o.table.rows := Iff.rfl

@[ext] theorem ext {o o' : Outbox} (h : o.table.rows = o'.table.rows) : o = o' := by
  obtain ⟨t, _⟩ := o
  obtain ⟨t', _⟩ := o'
  obtain rfl : t = t' := Table.ext h
  rfl

def empty : Outbox := ⟨Table.empty, by simp⟩

@[simp] theorem rows_empty : empty.table.rows = [] := rfl

theorem eq_of_id_eq (o : Outbox) {r r' : OutboxRow} (hr : r ∈ o) (hr' : r' ∈ o) (h : r.id = r'.id) :
    r = r' :=
  o.table.eq_of_key_eq hr hr' h

/-- `UPDATE ... WHERE p`, checked against the unique index. -/
def update (o : Outbox) (p : OutboxRow → Bool) (f : OutboxRow → OutboxRow)
    (hf : ∀ r, (f r).id = r.id) : Except PersistenceError Outbox :=
  let table := o.table.update p f hf
  if h : (table.rows.filterMap OutboxRow.activeSlot).Nodup then .ok ⟨table, h⟩
  else .error (.uniqueViolation "unique")

end Outbox

structure OutboxEventRecord where
  claimToken : Option String
  id : String
  tenantId : String
  eventType : String
  aggregateType : String
  aggregateId : String
  payload : Json
  attempts : ℤ
  maxAttempts : ℤ
  lastError : Option String
  createdAt : ℤ
  updatedAt : ℤ
  deriving DecidableEq

def OutboxRow.toRecord (r : OutboxRow) : OutboxEventRecord where
  claimToken := r.lockedBy
  id := r.id
  tenantId := r.tenantId
  eventType := r.eventType
  aggregateType := r.aggregateType
  aggregateId := r.aggregateId
  payload := r.payload
  attempts := r.attempts
  maxAttempts := r.maxAttempts
  lastError := r.lastError
  createdAt := datetime r.createdAt
  updatedAt := datetime r.updatedAt

inductive FailureClass where
  | retryable
  | permanent
  deriving DecidableEq

/-- The exponential schedule: 2 through 256 seconds. -/
def failureDisposition (attempts maxAttempts : ℤ) (failure : FailureClass) : OutboxStatus × ℤ :=
  (if failure = .permanent ∨ attempts ≥ maxAttempts then .deadLetter else .failed,
    min (2 ^ (min (max attempts 1) 8).toNat) 300)

def i64Max : ℤ := 9223372036854775807

def i64Min : ℤ := -9223372036854775808

def saturatingSub (a b : ℤ) : ℤ := max i64Min (min i64Max (a - b))

def saturatingAdd (a b : ℤ) : ℤ := max i64Min (min i64Max (a + b))

/-- `i64::try_from(lease.as_micros()).unwrap_or(i64::MAX)`, the lease in nanoseconds. -/
def leaseMicros (lease : ℕ) : ℤ := min ((lease / 1000 : ℕ) : ℤ) i64Max

namespace OutboxRow

/-- A processing row whose lease ended on its final attempt. -/
def isExhausted (leaseCutoff : ℤ) (r : OutboxRow) : Bool :=
  r.status = .processing && r.lockedAt.any (· ≤ leaseCutoff) && r.attempts ≥ r.maxAttempts

def exhaust (now : ℤ) (r : OutboxRow) : OutboxRow :=
  { r with
    status := .deadLetter
    lockedAt := none
    lockedBy := none
    lastError := some "delivery lease expired after final attempt"
    updatedAt := now }

/-- Rows that a claim may take: due, or held under an expired lease. -/
def isEligible (now leaseCutoff : ℤ) (r : OutboxRow) : Bool :=
  r.attempts < r.maxAttempts &&
    (((r.status = .pending || r.status = .failed) && r.availableAt ≤ now) ||
      (r.status = .processing && r.lockedAt.any (· ≤ leaseCutoff)))

def dueKey (r : OutboxRow) : ℤ ×ₗ ℤ ×ₗ String := toLex (r.availableAt, toLex (r.createdAt, r.id))

/-- `row_number() OVER (PARTITION BY tenant_id ORDER BY available_at, created_at, id)`. -/
def tenantRank (eligible : List OutboxRow) (r : OutboxRow) : ℕ :=
  eligible.countP (fun r' => r'.tenantId = r.tenantId ∧ r'.dueKey < r.dueKey) + 1

def claimKey (eligible : List OutboxRow) (r : OutboxRow) : ℕ ×ₗ ℤ ×ₗ ℤ ×ₗ String :=
  toLex (tenantRank eligible r, r.dueKey)

def claim (now : ℤ) (token : String) (r : OutboxRow) : OutboxRow :=
  { r with
    status := .processing
    attempts := r.attempts + 1
    lockedAt := some now
    lockedBy := some token
    updatedAt := now }

def isHeldBy (eventId claimToken : String) (r : OutboxRow) : Bool :=
  r.id = eventId && r.status = .processing && r.lockedBy = some claimToken

def succeed (now : ℤ) (r : OutboxRow) : OutboxRow :=
  { r with
    status := .succeeded
    lockedAt := none
    lockedBy := none
    lastError := none
    updatedAt := now }

def fail (status : OutboxStatus) (availableAt : ℤ) (error : String) (now : ℤ) (r : OutboxRow) :
    OutboxRow :=
  { r with
    status := status
    availableAt := availableAt
    lockedAt := none
    lockedBy := none
    lastError := some error
    updatedAt := now }

def isDeadLetterOf (tenant : String) (r : OutboxRow) : Bool :=
  r.tenantId = tenant && r.status = .deadLetter

def replay (now : ℤ) (r : OutboxRow) : OutboxRow :=
  { r with
    status := .pending
    attempts := 0
    availableAt := now
    lockedAt := none
    lockedBy := none
    lastError := none
    updatedAt := now }

def ofEvent (now : ℤ) (event : NewOutboxEventRecord) : OutboxRow where
  id := event.id
  tenantId := event.tenantId
  eventType := event.eventType
  aggregateType := event.aggregateType
  aggregateId := event.aggregateId
  idempotencyKey := event.idempotencyKey
  payload := event.payload
  status := .pending
  attempts := 0
  maxAttempts := 10
  availableAt := now
  lockedAt := none
  lockedBy := none
  lastError := none
  createdAt := now
  updatedAt := now

end OutboxRow

namespace Outbox

/-- The rows eligible at a claim, in the order the claim takes them. -/
def claimOrder (o : Outbox) (now leaseCutoff : ℤ) : List OutboxRow :=
  let eligible := o.table.rows.filter (OutboxRow.isEligible now leaseCutoff)
  orderBy (OutboxRow.claimKey eligible) eligible

def limitTo {α : Type*} (limit : ℤ) (rows : List α) : List α :=
  if limit < 0 then rows else rows.take limit.toNat

def byId (o : Outbox) (id : String) : Except PersistenceError OutboxEventRecord :=
  match o.table.find? id with
  | some r => .ok r.toRecord
  | none => .error .notFound

/-- The claim of one row after another, each read back after its update. -/
def claimEach (now : ℤ) (token : String) :
    List String → Outbox → Except PersistenceError (Outbox × List OutboxEventRecord)
  | [], o => .ok (o, [])
  | id :: ids, o => do
    let o ← o.update (fun r => r.id = id) (OutboxRow.claim now token) (fun _ => rfl)
    let event ← o.byId id
    let (o, events) ← claimEach now token ids o
    return (o, event :: events)

def claimBatch (workerId uuid : String) (limit : ℤ) (lease : ℕ) (now : ℤ) (o : Outbox) :
    Except PersistenceError (Outbox × List OutboxEventRecord) := do
  let token := workerId ++ ":" ++ uuid
  let leaseCutoff := saturatingSub now (leaseMicros lease)
  let o ← o.update (OutboxRow.isExhausted leaseCutoff) (OutboxRow.exhaust now) (fun _ => rfl)
  let ids := (limitTo limit (o.claimOrder now leaseCutoff)).map OutboxRow.id
  o.claimEach now token ids

/-- Whether a statement selects exactly one row. -/
def updatesOne (o : Outbox) (p : OutboxRow → Bool) : Bool := o.table.rows.countP p == 1

def markSucceeded (eventId claimToken : String) (now : ℤ) (o : Outbox) :
    Except PersistenceError (Outbox × Bool) := do
  let held := OutboxRow.isHeldBy eventId claimToken
  let o' ← o.update held (OutboxRow.succeed now) (fun _ => rfl)
  return (o', o.updatesOne held)

def markFailed (eventId claimToken : String) (attempts maxAttempts : ℤ) (failure : FailureClass)
    (error : String) (now : ℤ) (o : Outbox) : Except PersistenceError (Outbox × Bool) := do
  let (status, delaySeconds) := failureDisposition attempts maxAttempts failure
  let held := fun r => OutboxRow.isHeldBy eventId claimToken r && r.attempts = attempts
  let error := String.ofList (error.toList.take 2000)
  let o' ← o.update held
    (OutboxRow.fail status (saturatingAdd now (delaySeconds * 1000000)) error now) (fun _ => rfl)
  return (o', o.updatesOne held)

def replayEach (tenant : String) (now : ℤ) :
    List String → Outbox → ℕ → Except PersistenceError (Outbox × ℕ)
  | [], o, count => .ok (o, count)
  | id :: ids, o, count => do
    let selected := fun r => OutboxRow.isDeadLetterOf tenant r && r.id = id
    let o' ← o.update selected (OutboxRow.replay now) (fun _ => rfl)
    replayEach tenant now ids o' (count + o.table.rows.countP selected)

def replayDeadLetters (tenant : String) (eventIds : Option (List String)) (now : ℤ) (o : Outbox) :
    Except PersistenceError (Outbox × ℕ) :=
  match eventIds with
  | some ids => o.replayEach tenant now ids 0
  | none => do
    let o' ← o.update (OutboxRow.isDeadLetterOf tenant) (OutboxRow.replay now) (fun _ => rfl)
    return (o', o.table.rows.countP (OutboxRow.isDeadLetterOf tenant))

/-- `INSERT ... ON CONFLICT DO NOTHING`: skipped when the id or the slot is taken. -/
def insertOrIgnore (o : Outbox) (r : OutboxRow) : Outbox × ℕ :=
  match o.table.insert? r with
  | none => (o, 0)
  | some table =>
    if h : (table.rows.filterMap OutboxRow.activeSlot).Nodup then (⟨table, h⟩, 1) else (o, 0)

/-- One action under its index; the `i`-th of a batch draws `uuid i`. -/
def enqueueAction (p : Platform) (uuid : ℕ → String) (now : ℤ) (state : Outbox × ℕ)
    (action : PendingAction × ℕ) : Except PersistenceError (Outbox × ℕ) :=
  match outboxEventForAction p (uuid action.2) action.1 with
  | .error message => .error (.internal message)
  | .ok event =>
    let (o, count) := state.1.insertOrIgnore (OutboxRow.ofEvent now event)
    .ok (o, state.2 + count)

/-- Enqueues actions inside the caller's transaction. -/
def enqueueActionsInTransaction (p : Platform) (uuid : ℕ → String) (now : ℤ)
    (actions : List PendingAction) (o : Outbox) : Except PersistenceError (Outbox × ℕ) :=
  actions.zipIdx.foldlM (enqueueAction p uuid now) (o, 0)

end Outbox

end Extrittio
