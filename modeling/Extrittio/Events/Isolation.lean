import Extrittio.Events.Laws
import Extrittio.Events.View
import Extrittio.Library.Run

/-!
Ingestion for several tenants. Event ids are keys of the whole store; where no
other tenant uses the ids of a tenant's events, what the tenant ends up with is
determined by its own rows and its own incoming events.
-/
namespace Extrittio

open Relational Transition List RecordDeviceEvent EventIngress Table

/-- Rows stored under some event ids belong to a tenant. -/
structure Store.Owns (tenant : String) (ids : String → Prop) (s : Store) : Prop where
  receipts : ∀ r ∈ s.receipts, ids r.id → r.tenantId = tenant
  events : ∀ r ∈ s.events, ids r.id → r.tenantId = tenant
  samples : ∀ r ∈ s.samples, ids r.eventId → r.tenantId = tenant

namespace Store

variable {p : Platform} {uuid : ℕ → String} {now : ℤ} {tenant other : String}
  {event : RecordDeviceEvent} {s s' : Store} {ids : String → Prop}

theorem insertReceipt_view (h : ∀ r ∈ s.receipts, r.id = event.eventId → r.tenantId = tenant) :
    (s.view tenant).insertReceipt tenant event =
      (s.insertReceipt tenant event).map (Option.map (view tenant)) := by
  have hinsert : (s.view tenant).receipts.insert? (event.receiptRow tenant) =
      (s.receipts.insert? (event.receiptRow tenant)).map (·.filter fun r => r.tenantId = tenant) := by
    refine insert?_filter (by simp [receiptRow]) fun r hr hkey => ?_
    exact decide_eq_true (h r hr hkey)
  unfold insertReceipt
  rw [hinsert, device?_view]
  cases s.receipts.insert? (event.receiptRow tenant) with
  | none => rfl
  | some receipts =>
    simp only [Option.map_some]
    split <;> rfl

theorem insertEvent_view (h : ∀ r ∈ s.events, r.id = event.eventId → r.tenantId = tenant) :
    (s.view tenant).insertEvent tenant event = (s.insertEvent tenant event).map (view tenant) := by
  have hinsert : (s.view tenant).events.insert? (event.eventRow tenant) =
      (s.events.insert? (event.eventRow tenant)).map (·.filter fun r => r.tenantId = tenant) := by
    refine insert?_filter (by simp [eventRow]) fun r hr hkey => ?_
    exact decide_eq_true (h r hr hkey)
  unfold insertEvent
  rw [hinsert, device?_view, contract?_view]
  cases s.events.insert? (event.eventRow tenant) with
  | none => rfl
  | some events =>
    simp only [Option.map_some]
    split <;> rfl

theorem acknowledge_view (device contract : String) (receivedAt : ℤ) :
    (s.view tenant).acknowledge tenant device contract receivedAt =
      (s.acknowledge tenant device contract receivedAt).view tenant := by
  unfold acknowledge view
  congr 1
  symm
  refine filter_update _ _ _ ?_
  exact fun _ => rfl

theorem view_acknowledge_of_ne (hother : other ≠ tenant) (device contract : String)
    (receivedAt : ℤ) :
    (s.acknowledge other device contract receivedAt).view tenant = s.view tenant := by
  unfold acknowledge view
  congr 1
  refine filter_update_of_not ?_ ?_ ?_
  · exact fun _ => rfl
  · exact fun _ => rfl
  · intro r _ hr
    simp only [decide_eq_true_eq] at hr
    simp [hr.1, hother]

theorem recordRollup_view (metric : DeviceMetricSample) (value : ℚ) :
    (s.view tenant).recordRollup tenant event metric value =
      (s.recordRollup tenant event metric value).map (view tenant) := by
  unfold recordRollup
  rw [contract?_view]
  cases s.contract? tenant event.deviceId event.contractId with
  | none => rfl
  | some contract =>
    have hrevision : ((s.view tenant).revisions.find? contract.blueprintRevisionId).filter
        (fun r => r.tenantId = tenant) =
        (s.revisions.find? contract.blueprintRevisionId).filter fun r => r.tenantId = tenant := by
      simp only [view, Table.find?_filter, Option.filter_filter, Bool.and_self]
    simp only [device?_view, hrevision]
    split
    · rfl
    · simp only [Except.map, view]
      congr 2
      symm
      refine filter_upsert ?_ (fun _ => rfl) fun r _ hkey => ?_
      · simp [rollupRow]
      · simp [(Prod.mk.inj hkey).1, rollupRow]

variable {metric : DeviceMetricSample} {metrics : List DeviceMetricSample}

theorem view_recordRollup_of_ne (hother : other ≠ tenant) {value : ℚ}
    (h : s.recordRollup other event metric value = .ok s') : s'.view tenant = s.view tenant := by
  unfold recordRollup at h
  split at h
  · cases h
    rfl
  next contract _ =>
    simp only at h
    split at h
    · cases h
    · cases h
      unfold view
      congr 1
      refine filter_upsert_of_not ?_ (fun _ => rfl) fun r _ hkey => ?_
      · simp [rollupRow, hother]
      · simp [(Prod.mk.inj hkey).1, rollupRow, hother]

theorem recordMetric_view (h : ∀ r ∈ s.samples, r.eventId = event.eventId → r.tenantId = tenant)
    (metric : DeviceMetricSample) :
    (s.view tenant).recordMetric tenant event metric =
      (s.recordMetric tenant event metric).map (view tenant) := by
  have hinsert : (s.view tenant).samples.insert? (event.sampleRow tenant metric) =
      (s.samples.insert? (event.sampleRow tenant metric)).map
        (·.filter fun r => r.tenantId = tenant) := by
    refine insert?_filter (by simp [sampleRow]) fun r hr hkey => ?_
    exact decide_eq_true (h r hr (Prod.mk.inj hkey).1)
  unfold recordMetric
  rw [hinsert]
  cases s.samples.insert? (event.sampleRow tenant metric) with
  | none => rfl
  | some samples =>
    simp only [Option.map_some]
    cases metric.value.number? with
    | none => rfl
    | some value => exact recordRollup_view (s := { s with samples := samples }) metric value

theorem view_recordMetric_of_ne (hother : other ≠ tenant)
    (h : s.recordMetric other event metric = .ok s') : s'.view tenant = s.view tenant := by
  unfold recordMetric at h
  split at h
  · cases h
  next samples hinsert =>
    have hview : { s with samples := samples }.view tenant = s.view tenant := by
      unfold view
      congr 1
      exact filter_insert?_of_not hinsert (by simp [sampleRow, hother])
    split at h
    · cases h
      exact hview
    · exact (view_recordRollup_of_ne hother h).trans hview

theorem samples_of_recordMetric (h : s.recordMetric tenant event metric = .ok s') :
    s.samples.insert? (event.sampleRow tenant metric) = some s'.samples ∧ s'.outbox = s.outbox := by
  unfold recordMetric at h
  split at h
  · cases h
  next samples hinsert =>
    split at h
    · cases h
      exact ⟨hinsert, rfl⟩
    · unfold recordRollup at h
      split at h
      · cases h
        exact ⟨hinsert, rfl⟩
      · simp only at h
        split at h
        · cases h
        · cases h
          exact ⟨hinsert, rfl⟩

theorem foldlM_recordMetric_view
    (h : ∀ r ∈ s.samples, r.eventId = event.eventId → r.tenantId = tenant) :
    event.metrics.foldlM (recordMetric tenant event) (s.view tenant) =
      (event.metrics.foldlM (recordMetric tenant event) s).map (view tenant) := by
  refine foldlM_map (I := fun s => ∀ r ∈ s.samples, r.eventId = event.eventId → r.tenantId = tenant)
    (fun s metric _ hs => recordMetric_view hs metric) ?_ h
  intro s metric _ s' hs hok r hr hid
  rcases (mem_of_insert? (samples_of_recordMetric hok).1).mp hr with hr | rfl
  · exact hs r hr hid
  · rfl

theorem outbox_of_foldlM_recordMetric
    (h : metrics.foldlM (recordMetric tenant event) s = .ok s') : s'.outbox = s.outbox := by
  induction metrics generalizing s with
  | nil =>
    cases h
    rfl
  | cons metric metrics ih =>
    rw [foldlM_cons] at h
    obtain ⟨s₁, hmetric, hrest⟩ := of_bind_ok h
    exact (ih hrest).trans (samples_of_recordMetric hmetric).2

theorem view_foldlM_recordMetric_of_ne (hother : other ≠ tenant)
    (h : metrics.foldlM (recordMetric other event) s = .ok s') : s'.view tenant = s.view tenant := by
  induction metrics generalizing s with
  | nil =>
    cases h
    rfl
  | cons metric metrics ih =>
    rw [foldlM_cons] at h
    obtain ⟨s₁, hmetric, hrest⟩ := of_bind_ok h
    exact (ih hrest).trans (view_recordMetric_of_ne hother hmetric)

/-- Recording a tenant's event commutes with taking the tenant's rows. -/
theorem record_view (h : s.Owns tenant ids) (hid : ids event.eventId)
    (hfresh : ∀ r ∈ s.outbox, ∀ i, r.id ≠ uuid i) :
    (s.view tenant).record p uuid now tenant event =
      (s.record p uuid now tenant event).map fun x => (x.1.view tenant, x.2) := by
  unfold record
  rw [assignment_view]
  change (if timestampMicros event.occurredAt < s.retention.rollupRetainedSince then _ else _) = _
  split
  · rfl
  · split
    · rfl
    · refine bind_map (insertReceipt_view fun r hr heq => h.receipts r hr (by rwa [heq])) ?_
      intro received hreceipt
      rcases insertReceipt_eq_ok hreceipt with ⟨rfl, -⟩ | ⟨receipts, -, rfl⟩
      · rfl
      · refine bind_map (insertEvent_view fun r hr heq => h.events r hr (by rwa [heq])) ?_
        intro stored hstored
        obtain ⟨events, contract, -, -, rfl⟩ := insertEvent_eq_ok hstored
        simp only [acknowledge_view]
        refine bind_map (foldlM_recordMetric_view fun r hr heq => h.samples r hr (by rwa [heq])) ?_
        intro sampled hsampled
        refine bind_map (observe_view fun r hr i heq => ?_) fun _ _ => rfl
        rw [outbox_of_foldlM_recordMetric hsampled] at hr
        exact absurd heq (hfresh r hr i)

/-- Another tenant's event does not show among the tenant's rows. -/
theorem view_record_of_ne (hother : other ≠ tenant) {outcome : RecordDeviceEventOutcome}
    (h : s.record p uuid now other event = .ok (s', outcome)) : s'.view tenant = s.view tenant := by
  unfold record at h
  split at h
  · cases h
  · split at h
    · cases h
    · obtain ⟨received, hreceipt, hrest⟩ := of_bind_ok h
      rcases insertReceipt_eq_ok hreceipt with ⟨rfl, -⟩ | ⟨receipts, hreceipts, rfl⟩
      · cases hrest
        rfl
      · obtain ⟨stored, hstored, hrest⟩ := of_bind_ok hrest
        obtain ⟨events, contract, hevents, -, rfl⟩ := insertEvent_eq_ok hstored
        obtain ⟨sampled, hsampled, hrest⟩ := of_bind_ok hrest
        obtain ⟨⟨evaluated, count⟩, hobserve, hreturn⟩ := of_bind_ok hrest
        cases hreturn
        rw [view_observe_of_ne hother hobserve, view_foldlM_recordMetric_of_ne hother hsampled,
          view_acknowledge_of_ne hother]
        unfold view
        congr 1
        · refine filter_insert?_of_not hreceipts ?_
          simp [receiptRow, hother]
        · refine filter_insert?_of_not hevents ?_
          simp [eventRow, hother]

theorem Owns.recorded (h : s.Owns tenant ids) {owner : String}
    (hid : ids event.eventId → owner = tenant) (heffect : Recorded p uuid now owner event s s') :
    s'.Owns tenant ids := by
  constructor
  · intro r hr hr'
    rcases (mem_of_insert? heffect.receipts).mp hr with hr | rfl
    · exact h.receipts r hr hr'
    · exact hid hr'
  · intro r hr hr'
    rcases (mem_of_insert? heffect.events).mp hr with hr | rfl
    · exact h.events r hr hr'
    · exact hid hr'
  · intro r hr hr'
    rw [mem_iff, heffect.samples] at hr
    rcases mem_append.mp hr with hr | hr
    · exact h.samples r hr hr'
    · obtain ⟨metric, -, rfl⟩ := mem_map.mp hr
      exact hid hr'

theorem pruneMetrics_view (cutoffs : MetricRetentionCutoffs) (s : Store) (tenant : String) :
    ((s.view tenant).pruneMetrics cutoffs).1 = (s.pruneMetrics cutoffs).1.view tenant := by
  unfold pruneMetrics view
  simp only
  congr 1
  · exact filter_filter_comm _ _ _
  · exact filter_filter_comm _ _ _
  · rw [filter_filter_comm]
    apply ext
    simp only [rows_filter, filter_filter]
    refine filter_congr fun r _ => ?_
    cases hr : decide (r.tenantId = tenant) with
    | false => simp
    | true =>
      simp only [Bool.true_and, any_filter]
      congr 3
      funext e
      cases he : decide (e.tenantId = tenant) with
      | true => simp
      | false =>
        have hne : e.tenantId ≠ r.tenantId := by
          rw [of_decide_eq_true hr]
          exact of_decide_eq_false he
        simp [hne]
  · exact filter_filter_comm _ _ _

theorem Owns.pruneMetrics (h : s.Owns tenant ids) (cutoffs : MetricRetentionCutoffs) :
    (s.pruneMetrics cutoffs).1.Owns tenant ids :=
  ⟨fun r hr => h.receipts r (Table.mem_filter.mp hr).1,
    fun r hr => h.events r (Table.mem_filter.mp hr).1,
    fun r hr => h.samples r (Table.mem_filter.mp hr).1⟩

end Store

namespace MetricMaintenance

theorem prune_view (rawDays rollupDays : ℕ) (now : ℤ) (s : Store) (tenant : String) :
    (prune rawDays rollupDays now (s.view tenant)).1 = (prune rawDays rollupDays now s).1.view tenant := by
  unfold prune
  split
  · rfl
  · exact Store.pruneMetrics_view _ s tenant

end MetricMaintenance

namespace EventIngress

variable {p : Platform} {codec : ContractCodec} {uuid : ℕ → String} {now clock : ℤ}
  {tenant device routeKey : String} {envelope : EventInput} {snapshot : RuleCache} {s s' : Store}
  {outcome : RecordDeviceEventOutcome}

theorem prepare_view : prepare codec (s.view tenant) clock tenant device routeKey envelope snapshot =
    prepare codec s clock tenant device routeKey envelope snapshot := by
  unfold prepare
  simp only [Store.assignedContract_view, Store.device?_view, Store.desiredBlueprint_view]

theorem eventId_of_prepare {event : RecordDeviceEvent}
    (h : prepare codec s clock tenant device routeKey envelope snapshot = .ok event) :
    event.eventId = envelope.eventId := by
  unfold prepare at h
  simp only [bind, Except.bind, throw, throwThe, MonadExceptOf.throw, pure, Except.pure] at h
  repeat' split at h
  all_goals
    cases h
    try rfl

theorem record_eq_ok (h : record p codec uuid now clock tenant device routeKey envelope snapshot s =
      .ok (s', outcome)) :
    ∃ event, event.eventId = envelope.eventId ∧
      s.record p uuid now tenant event = .ok (s', outcome) := by
  obtain ⟨event, hprepare, hrecord⟩ := of_bind_ok h
  refine ⟨event, eventId_of_prepare hprepare, ?_⟩
  cases hstore : s.record p uuid now tenant event with
  | error e => simp [hstore, Except.mapError] at hrecord
  | ok x =>
    rw [hstore] at hrecord
    cases hrecord
    rfl

theorem record_view {ids : String → Prop} (h : s.Owns tenant ids) (hid : ids envelope.eventId)
    (hfresh : ∀ r ∈ s.outbox, ∀ i, r.id ≠ uuid i) :
    record p codec uuid now clock tenant device routeKey envelope snapshot (s.view tenant) =
      (record p codec uuid now clock tenant device routeKey envelope snapshot s).map
        fun x => (x.1.view tenant, x.2) := by
  refine bind_map (f := id) ?_ fun event hprepare => ?_
  · rw [prepare_view]
    cases prepare codec s clock tenant device routeKey envelope snapshot <;> rfl
  · have hevent : ids event.eventId := by rwa [eventId_of_prepare hprepare]
    simp only [id_eq, Store.record_view h hevent hfresh]
    cases s.record p uuid now tenant event <;> rfl

end EventIngress

/-- A step of ingestion: an envelope a device sends, or a prune. -/
inductive IngestStep where
  | ingest (uuid : ℕ → String) (now clock : ℤ) (tenant device routeKey : String)
      (envelope : EventInput) (snapshot : RuleCache)
  | prune (rawDays rollupDays : ℕ) (now : ℤ)

namespace IngestStep

/-- Prunes, and what devices of the tenant send. -/
def concerns (tenant : String) : IngestStep → Bool
  | .ingest _ _ _ owner _ _ _ _ => owner = tenant
  | .prune .. => true

/-- An envelope carries one of some ids exactly when a device of the tenant sent it. -/
def keyed (tenant : String) (ids : String → Prop) (_ : Store) : IngestStep → Prop
  | .ingest _ _ _ owner _ _ envelope _ => ids envelope.eventId ↔ owner = tenant
  | .prune .. => True

end IngestStep

namespace Ingestion

/-- A refused envelope and a failed prune leave the store. -/
def apply (p : Platform) (codec : ContractCodec) (s : Store) : IngestStep → Store
  | .ingest uuid now clock tenant device routeKey envelope snapshot =>
    match EventIngress.record p codec uuid now clock tenant device routeKey envelope snapshot s with
    | .ok (s', _) => s'
    | .error _ => s
  | .prune rawDays rollupDays now => (MetricMaintenance.prune rawDays rollupDays now s).1

/-- Ids drawn for outbox rows are fresh. -/
def enabled (s : Store) : IngestStep → Prop
  | .ingest uuid _ _ _ _ _ _ _ => ∀ r ∈ s.outbox, ∀ i, r.id ≠ uuid i
  | .prune .. => True

def machine (p : Platform) (codec : ContractCodec) : Machine Store IngestStep :=
  ⟨enabled, apply p codec⟩

variable {p : Platform} {codec : ContractCodec} {tenant : String} {ids : String → Prop} {s : Store}
  {step : IngestStep}

theorem owns_step (h : s.Owns tenant ids) (hkeyed : step.keyed tenant ids s) :
    (apply p codec s step).Owns tenant ids := by
  cases step with
  | ingest uuid now clock owner device routeKey envelope snapshot =>
    simp only [apply]
    split
    next s' outcome hrecord =>
      obtain ⟨event, hid, hstore⟩ := record_eq_ok hrecord
      rcases Store.record_eq_ok hstore with ⟨rfl, -⟩ | ⟨-, heffect⟩
      · exact h
      · refine h.recorded (fun hevent => ?_) heffect
        exact hkeyed.mp (by rwa [← hid])
    next => exact h
  | prune rawDays rollupDays now =>
    simp only [apply]
    rcases MetricMaintenance.prune_cases rawDays rollupDays now s with heq | ⟨cutoffs, -, heq⟩
    · rwa [heq]
    · rw [heq]
      exact h.pruneMetrics cutoffs

/-- A step that concerns the tenant acts on the tenant's rows. -/
theorem view_step (h : s.Owns tenant ids) (henabled : enabled s step)
    (hkeyed : step.keyed tenant ids s) (hstep : step.concerns tenant) :
    (apply p codec s step).view tenant = apply p codec (s.view tenant) step := by
  cases step with
  | ingest uuid now clock owner device routeKey envelope snapshot =>
    obtain rfl : owner = tenant := of_decide_eq_true hstep
    simp only [apply, record_view h (hkeyed.mpr rfl) henabled]
    cases record p codec uuid now clock owner device routeKey envelope snapshot s <;> rfl
  | prune rawDays rollupDays now =>
    exact (MetricMaintenance.prune_view rawDays rollupDays now s tenant).symm

theorem view_step_of_not (hstep : step.concerns tenant = false) :
    (apply p codec s step).view tenant = s.view tenant := by
  cases step with
  | ingest uuid now clock owner device routeKey envelope snapshot =>
    have hother : owner ≠ tenant := of_decide_eq_false hstep
    simp only [apply]
    split
    next s' outcome hrecord =>
      obtain ⟨event, -, hstore⟩ := record_eq_ok hrecord
      exact Store.view_record_of_ne hother hstore
    next => rfl
  | prune => cases hstep

/-- Two histories from stores with the same rows of a tenant, with the same prunes
and the same envelopes from its devices, in which no other tenant's envelope
carries the id of one of these: the tenant ends up with the same rows. -/
theorem tenant_run_isolated (p : Platform) (codec : ContractCodec) (tenant : String)
    (ids : String → Prop) {s₁ s₂ t₁ t₂ : Store} {steps₁ steps₂ : List IngestStep}
    (hview : s₁.view tenant = s₂.view tenant) (howns₁ : s₁.Owns tenant ids)
    (howns₂ : s₂.Owns tenant ids)
    (hrun₁ : ((machine p codec).restrict (IngestStep.keyed tenant ids)).Run s₁ steps₁ t₁)
    (hrun₂ : ((machine p codec).restrict (IngestStep.keyed tenant ids)).Run s₂ steps₂ t₂)
    (hsteps : steps₁.filter (·.concerns tenant) = steps₂.filter (·.concerns tenant)) :
    t₁.view tenant = t₂.view tenant := by
  have hproject : ∀ {s t : Store} {steps : List IngestStep}, s.Owns tenant ids →
      ((machine p codec).restrict (IngestStep.keyed tenant ids)).Run s steps t →
      t.view tenant = (steps.filter (·.concerns tenant)).foldl (apply p codec) (s.view tenant) := by
    intro s t steps howns hrun
    refine hrun.project (I := Store.Owns tenant ids) ?_ ?_ ?_ howns
    · exact fun s step h henabled => owns_step h henabled.2
    · exact fun s step h henabled => view_step h henabled.1 henabled.2
    · exact fun s step _ _ => view_step_of_not
  rw [hproject howns₁ hrun₁, hproject howns₂ hrun₂, hview, hsteps]

def thermometerContract (device : String) : CompiledContractDocument where
  contractApi := 1
  contractId := "contract"
  tenantId := "tenant"
  deviceId := device
  blueprintRevisionId := "revision"
  blueprintRevision := 1
  blueprintKey := "thermometer"
  blueprintName := "Thermometer"
  runtime := ⟨30000, 120000, 1024, 60, 16⟩
  transports := .ofList [("main", ⟨.zenoh, "tcp", .atLeastOnce, .none, none, none⟩)]
  routes := .ofList [("telemetry", ⟨"main", .deviceToCloud, "telemetry", "reading", .json⟩)]
  schemas := .ofList [("reading", ⟨.jsonSchema, .null⟩)]
  streams := .ofList [("stream", ⟨"telemetry", "envelope.occurred_at",
    .ofList [("/temperature", ⟨.float64, "Temperature", none, none, false, [], none⟩)]⟩)]
  location := none
  commands := ∅
  configuration := none
  reportedState := none
  health := none
  firmware := none
  relationships := []
  presentation := none

/-- A stored document is the id of its device. -/
def thermometer : ContractCodec where
  isUuid := fun _ => true
  fromValue := fun
    | .string device => .ok (thermometerContract device)
    | _ => .error "invalid"
  validateInstance := fun _ _ => .ok ()
  floatOfInt := fun n => n

def shared : Store :=
  { Store.empty with
    devices := ⟨[⟨"device", "tenant", "Device", none⟩, ⟨"gadget", "other", "Gadget", none⟩],
      by decide⟩
    revisions := ⟨[⟨"revision", "tenant", "blueprint"⟩, ⟨"version", "other", "design"⟩], by decide⟩
    contracts := ⟨[⟨"contract", "tenant", "device", "revision", .string "device", "hash"⟩,
      ⟨"terms", "other", "gadget", "version", .string "gadget", "hash"⟩], by decide⟩
    assignments := ⟨[⟨"tenant", "device", "contract", none, .pending, none, none, 0⟩,
      ⟨"other", "gadget", "terms", none, .pending, none, none, 0⟩], by decide⟩ }

/-- A device of a tenant sends a temperature under an event id. -/
def send (tenant device eventId : String) : IngestStep :=
  .ingest (fun _ => "") 0 0 tenant device "telemetry"
    ⟨1, eventId, "hash", 0, .object [("temperature", .integer 20)], 10⟩
    (RuleSnapshotRecords.compile ⟨[], fun _ => none⟩)

theorem tenant_run_isolated_shared :
    let t₁ := [send "tenant" "device" "event"].foldl (apply default thermometer) shared
    let t₂ := [send "other" "gadget" "foreign", send "tenant" "device" "event"].foldl
      (apply default thermometer) shared
    t₁.events.rows.length = 1 ∧ t₂.events.rows.length = 2 ∧ t₁.view "tenant" = t₂.view "tenant" := by
  intro t₁ t₂
  have howns : shared.Owns "tenant" (· = "event") :=
    ⟨fun _ hr => (nomatch hr), fun _ hr => (nomatch hr), fun _ hr => (nomatch hr)⟩
  have hown : ((machine default thermometer).restrict
      (IngestStep.keyed "tenant" (· = "event"))).Run shared [send "tenant" "device" "event"] t₁ :=
    .cons ⟨fun _ hr => (nomatch hr), by simp [send, IngestStep.keyed]⟩ (.nil _)
  have hboth : ((machine default thermometer).restrict
      (IngestStep.keyed "tenant" (· = "event"))).Run shared
        [send "other" "gadget" "foreign", send "tenant" "device" "event"] t₂ :=
    .cons ⟨fun _ hr => (nomatch hr), by simp [send, IngestStep.keyed]⟩
      (.cons ⟨fun _ hr => (nomatch hr), by simp [send, IngestStep.keyed]⟩ (.nil _))
  exact ⟨rfl, rfl, tenant_run_isolated default thermometer "tenant" (· = "event") rfl howns howns
    hown hboth rfl⟩

/-- Another tenant's event that came first under the same id takes it: the
tenant's event is stored in one history and not in the other. -/
theorem event_id_taken_by_other_tenant :
    let own := [send "tenant" "device" "event"]
    let both := [send "other" "gadget" "event", send "tenant" "device" "event"]
    let t₁ := own.foldl (apply default thermometer) shared
    let t₂ := both.foldl (apply default thermometer) shared
    (machine default thermometer).Run shared own t₁ ∧
      (machine default thermometer).Run shared both t₂ ∧
      own.filter (·.concerns "tenant") = both.filter (·.concerns "tenant") ∧
      (t₁.view "tenant").events.rows.length = 1 ∧ (t₁.view "tenant").samples.rows.length = 1 ∧
      (t₂.view "tenant").events.rows = [] ∧ (t₂.view "tenant").samples.rows = [] := by
  intro own both t₁ t₂
  refine ⟨?_, ?_, rfl, rfl, rfl, rfl, rfl⟩
  · exact .cons (fun _ hr => (nomatch hr)) (.nil _)
  · exact .cons (fun _ hr => (nomatch hr)) (.cons (fun _ hr => (nomatch hr)) (.nil _))

end Ingestion

end Extrittio
