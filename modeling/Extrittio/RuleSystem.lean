import Extrittio.Runtime
import Extrittio.RuleEngine.Laws
import Extrittio.Delivery.Laws
import Extrittio.Outbox.Claims
import Extrittio.Alerts.Slots

/-!
The rule runtime as one system: observations decide and enqueue, workers claim,
execute and report, operators move alerts, retention prunes. A worker may die
between any two of its steps and a report may come late or twice. What was
evaluated, what was executed and when retention ran is logged.
-/
namespace Extrittio

open Relational Transition

/-- A committed evaluation: the plan and rows it decided on, and what it enqueued. -/
structure Evaluation where
  plan : DeviceRuleEvaluation
  runtime : DeviceRuleRuntime
  rows : List OutboxRow

def Evaluation.decision (p : Platform) (e : Evaluation) : DeviceRuleDecision :=
  e.plan.decide p e.runtime

/-- The logs are newest first. -/
structure RuleSystem where
  store : Store
  issued : List OutboxEventRecord
  tokens : List String
  results : List (OutboxEventRecord × Except String Unit × FailureClass)
  evaluations : List Evaluation
  prunedAt : List ℤ

inductive RuleStep where
  | observe (uuid : ℕ → String) (now : ℤ) (tenant device : String) (plan : DeviceRuleEvaluation)
  | claim (workerId uuid : String) (limit : ℤ) (lease : ℕ) (now : ℤ)
  | attempt (external : PendingAction → Except String Unit) (now : ℤ) (event : OutboxEventRecord)
  | report (event : OutboxEventRecord) (result : Except String Unit × FailureClass) (now : ℤ)
  | transition (tenant id : String) (tr : AlertTransition) (now : ℤ)
  | transitionMany (tenant : String) (ids : List String) (tr : AlertTransition) (now : ℕ → ℤ)
  | prune (retentionDays : ℕ) (now : ℤ)

/-- A plan whose definitions were loaded under the primary key of the rules. -/
def DeviceRuleEvaluation.Prepared (plan : DeviceRuleEvaluation) : Prop :=
  ∃ records : RuleSnapshotRecords, (records.rules.map CachedRule.id).Nodup ∧
    plan.snapshot = records.compile

theorem DeviceRuleEvaluation.Prepared.distinct {plan : DeviceRuleEvaluation} (h : plan.Prepared) :
    plan.snapshot.Distinct := by
  obtain ⟨records, hnodup, heq⟩ := h
  rw [heq]
  exact RuleSnapshotRecords.compile_distinct hnodup

namespace RuleSystem

def start (store : Store) : RuleSystem := ⟨store, [], [], [], [], []⟩

/-- Identifiers and tokens are drawn fresh; workers execute what they claimed and
report what they executed. -/
def enabled (sys : RuleSystem) : RuleStep → Prop
  | .observe uuid _ _ _ plan =>
    plan.Prepared ∧ Function.Injective uuid ∧ ∀ i, ∀ r ∈ sys.store.outbox, r.id ≠ uuid i
  | .claim workerId uuid .. => workerId ++ ":" ++ uuid ∉ sys.tokens
  | .attempt _ _ event => event ∈ sys.issued
  | .report event result _ => (event, result) ∈ sys.results
  | .transition .. | .transitionMany .. | .prune .. => True

/-- An observation that commits is logged with the rows it appended. -/
def observe (p : Platform) (sys : RuleSystem) (uuid : ℕ → String) (now : ℤ)
    (tenant device : String) (plan : DeviceRuleEvaluation) : RuleSystem :=
  match sys.store.prepareEvaluation tenant device plan,
      sys.store.observe p uuid now tenant device (some plan) with
  | .ok (prepared, runtime), .ok (store, _) =>
    let rows := store.outbox.table.rows.drop sys.store.outbox.table.rows.length
    { sys with store := store, evaluations := ⟨prepared, runtime, rows⟩ :: sys.evaluations }
  | _, _ => sys

def claim (sys : RuleSystem) (workerId uuid : String) (limit : ℤ) (lease : ℕ) (now : ℤ) :
    RuleSystem :=
  let (outbox, result) := OutboxWorker.claimBatch workerId uuid limit lease now sys.store.outbox
  let store := { sys.store with outbox := outbox }
  match result with
  | .ok events =>
    { sys with
      store := store
      issued := events ++ sys.issued
      tokens := (workerId ++ ":" ++ uuid) :: sys.tokens }
  | .error _ => { sys with store := store }

def apply (p : Platform) (sys : RuleSystem) : RuleStep → RuleSystem
  | .observe uuid now tenant device plan => sys.observe p uuid now tenant device plan
  | .claim workerId uuid limit lease now => sys.claim workerId uuid limit lease now
  | .attempt external now event =>
    let (store, result) := RuleDelivery.attempt p external now event sys.store
    { sys with store := store, results := (event, result) :: sys.results }
  | .report event result now =>
    { sys with store := (RuleDelivery.report event now sys.store result).1 }
  | .transition tenant id tr now =>
    { sys with store := sys.store.alertStep (.transition tenant id tr now) }
  | .transitionMany tenant ids tr now =>
    { sys with store := sys.store.alertStep (.transitionMany tenant ids tr now) }
  | .prune retentionDays now =>
    { sys with
      store := (AlertMaintenance.prune retentionDays now sys.store).1
      prunedAt := now :: sys.prunedAt }

def machine (p : Platform) : Machine RuleSystem RuleStep := ⟨enabled, apply p⟩

section

variable {p : Platform} {sys : RuleSystem}

/-- What an observation does: nothing, or exactly what its decision says. -/
theorem observe_effect (p : Platform) (sys : RuleSystem) (uuid : ℕ → String) (now : ℤ)
    (tenant device : String) (plan : DeviceRuleEvaluation) :
    sys.observe p uuid now tenant device plan = sys ∨
    ∃ prepared runtime zoneEntries rows,
      sys.store.prepareEvaluation tenant device plan = .ok (prepared, runtime) ∧
      (sys.store.outbox.enqueueRows ((prepared.decide p runtime).deliveries.zipIdx.map
        (OutboxRow.ofAction p uuid now))).table.rows = sys.store.outbox.table.rows ++ rows ∧
      rows.Sublist ((prepared.decide p runtime).deliveries.zipIdx.map
        (OutboxRow.ofAction p uuid now)) ∧
      sys.observe p uuid now tenant device plan =
        { sys with
          store := { sys.store with
            cooldowns :=
              ((prepared.decide p runtime).cooldowns.foldl Store.writeCooldown sys.store).cooldowns
            zoneEntries := zoneEntries
            outbox := sys.store.outbox.enqueueRows ((prepared.decide p runtime).deliveries.zipIdx.map
              (OutboxRow.ofAction p uuid now)) }
          evaluations := ⟨prepared, runtime, rows⟩ :: sys.evaluations } := by
  unfold observe
  split
  next prepared runtime store count hprepare hobserve =>
    right
    obtain ⟨prepared', runtime', zoneEntries, hprepare', rfl⟩ := Store.observe_eq_ok hobserve
    cases hprepare.symm.trans hprepare'
    obtain ⟨rows, hrows, hsub⟩ := sys.store.outbox.enqueueRows_rows
      ((prepared.decide p runtime).deliveries.zipIdx.map (OutboxRow.ofAction p uuid now))
    refine ⟨prepared, runtime, zoneEntries, rows, hprepare, hrows, hsub, ?_⟩
    simp only [hrows, List.drop_left]
  next => exact .inl rfl

end

/-- A supply of identifiers: a letter and a tail as long as the index. -/
def labelled (letter : Char) (i : ℕ) : String := String.ofList (letter :: List.replicate i '-')

theorem labelled_injective (letter : Char) : Function.Injective (labelled letter) := by
  intro i j h
  have hlength := congrArg (fun s => s.toList.length) h
  simpa [labelled] using hlength

theorem fresh_labelled {o : Outbox} {letter : Char}
    (h : o.table.rows.all (fun r => r.id.toList.head? ≠ some letter)) :
    ∀ i, ∀ r ∈ o, r.id ≠ labelled letter i := by
  intro i r hr heq
  have hhead := List.all_eq_true.mp h r hr
  simp [heq, labelled] at hhead

def offlineRule (cooldownSeconds : ℤ) (actions : List CachedAction) : CachedRule where
  tenantId := "tenant"
  id := "rule"
  name := "offline"
  triggerType := "device_status"
  targetType := "global"
  targetId := none
  cooldownSeconds := cooldownSeconds
  conditions := [⟨"status", none, none, "eq", "offline", none⟩]
  actions := actions

def alertAction : CachedAction := ⟨"alert", .object []⟩

def webhookAction : CachedAction := ⟨"webhook", .object [("url", .string "https://hook")]⟩

def statusAt (rule : CachedRule) (status : String) (time : ℤ) : DeviceRuleEvaluation where
  snapshot := RuleSnapshotRecords.compile ⟨[rule], fun _ => none⟩
  tenant := "tenant"
  deviceId := "device"
  fleetId := none
  blueprintId := none
  blueprintRevisionId := none
  input := .status ⟨"unknown", status⟩
  observedAt := time

theorem statusAt_prepared (rule : CachedRule) (status : String) (time : ℤ) :
    (statusAt rule status time).Prepared := ⟨_, by simp, rfl⟩

theorem rules_statusAt {cooldownSeconds : ℤ} {actions : List CachedAction} {status : String}
    {time : ℤ} {r : CachedRule}
    (h : r ∈ (statusAt (offlineRule cooldownSeconds actions) status time).snapshot.definitions.all) :
    r = offlineRule cooldownSeconds actions := List.mem_singleton.mp h

end RuleSystem

end Extrittio
