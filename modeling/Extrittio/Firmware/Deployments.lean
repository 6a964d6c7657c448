import Extrittio.Firmware.Repository

/-!
Deployments and shadows under any sequence of triggers, device reports, patches
through the shadow application, resets and deletions of firmware. The rows of
`ota_deployments` and the command inside the shadow's JSON are written by
different transactions; what they keep in step.
-/
namespace Extrittio

open Relational Transition List Option Shadows OtaDeploymentRow Table
open ShadowOperation hiding run triggerOta

inductive FirmwareStep where
  | triggerOta (tenant device : String) (firmwareId : ℤ) (publicUrl : String)
      (deploymentId now patchedAt : ℤ)
  | applyOtaStatus (tenant device : String) (update : OtaStatusUpdate) (now : ℤ)
  | updateDesired (tenant device : String) (patch : OrderedMap String Json) (now : ℤ)
  | updateReported (tenant device : String) (patch : OrderedMap String Json) (now : ℤ)
  | reset (tenant device : String) (now : ℤ)
  | delete (tenant : String) (firmwareId : ℤ)

namespace Shadows

def otaCommand (shadows : Shadows) (tenant device : String) : Option Json :=
  (shadows.getFrom tenant device).bind fun record => record.desired.get "ota"

def AllConsistent (shadows : Shadows) : Prop :=
  ∀ tenant device record, shadows.getFrom tenant device = some record → record.Consistent

end Shadows

namespace ShadowOperation

def otaAfter : ShadowOperation → Option Json → Option Json
  | .updateDesired patch _, command =>
    match patch.get? "ota" with
    | none => command
    | some value => if value = .null then none else some value
  | .updateReported .., command => command
  | .reset _, _ => none
  | .triggerOta artifact firmwareId deploymentId _, _ =>
    (artifact.desiredPatch firmwareId deploymentId).get? "ota"
  | .finishOta deploymentId _, command =>
    if (command.bind (Json.get "deployment_id")).bind Json.asI64 = some deploymentId then none
    else command

variable {operation : ShadowOperation} {shadows shadows' : Shadows} {tenant device : String}
  {current : ShadowRecord} {result : Option ShadowRecord}

theorem command_of_applyDesiredPatch {updated : ShadowRecord} {patch : OrderedMap String Json}
    {now : ℤ} (hconsistent : current.Consistent)
    (h : applyDesiredPatch current patch now = .ok updated) :
    updated.desired.get "ota" =
      match patch.get? "ota" with
      | none => current.desired.get "ota"
      | some value => if value = .null then none else some value := by
  obtain ⟨desired, reported, hcurrent⟩ := hconsistent
  rw [hcurrent, ShadowRecord.applyDesiredPatch_ofSettings] at h
  obtain ⟨version, -, rfl⟩ := map_eq_ok_iff.mp h
  rw [hcurrent]
  exact Settings.get?_merged desired.fields

theorem command_of_change (hconsistent : current.Consistent)
    (h : operation.change current = .ok result) :
    (result.getD current).desired.get "ota" = operation.otaAfter (current.desired.get "ota") := by
  cases operation with
  | updateDesired patch updatedAt =>
    obtain ⟨updated, hupdated, rfl⟩ := map_eq_ok_iff.mp h
    exact command_of_applyDesiredPatch hconsistent hupdated
  | updateReported patch updatedAt =>
    obtain ⟨updated, hupdated, rfl⟩ := map_eq_ok_iff.mp h
    obtain ⟨desired, reported, hcurrent⟩ := hconsistent
    rw [hcurrent, ShadowRecord.applyReportedPatch_ofSettings] at hupdated
    obtain ⟨version, -, rfl⟩ := map_eq_ok_iff.mp hupdated
    rw [hcurrent]
    rfl
  | reset updatedAt =>
    obtain ⟨updated, hupdated, rfl⟩ := map_eq_ok_iff.mp h
    rw [ShadowRecord.resetShadow_eq] at hupdated
    obtain ⟨version, -, rfl⟩ := map_eq_ok_iff.mp hupdated
    rfl
  | triggerOta artifact firmwareId deploymentId now =>
    obtain ⟨updated, hupdated, rfl⟩ := map_eq_ok_iff.mp h
    exact command_of_applyDesiredPatch hconsistent hupdated
  | finishOta deploymentId now =>
    simp only [change, clearOtaForDeployment] at h
    simp only [otaAfter]
    split at h
    next hother =>
      cases h
      exact (if_neg hother).symm
    next hnamed =>
      rw [not_not] at hnamed
      obtain ⟨updated, hupdated, rfl⟩ := map_eq_ok_iff.mp h
      rw [if_pos hnamed]
      exact command_of_applyDesiredPatch hconsistent hupdated

/-- A committed operation on a shadow keeps records consistent and touches one command. -/
theorem otaCommand_of_run_some (hconsistent : shadows.AllConsistent)
    (hread : shadows.getFrom tenant device = some current)
    (h : operation.run shadows tenant device = .ok (shadows', result)) :
    shadows'.AllConsistent ∧ ∀ tenant' device', shadows'.otaCommand tenant' device' =
      if tenant = tenant' ∧ device = device' then
        operation.otaAfter (shadows.otaCommand tenant' device')
      else shadows.otaCommand tenant' device' := by
  have hcurrent := hconsistent tenant device current hread
  have hold : shadows.otaCommand tenant device = current.desired.get "ota" := by
    rw [otaCommand, hread]
    rfl
  rw [operation.run_eq hread] at h
  rcases operation.change_cases hcurrent with ⟨updated, hchange, hnext⟩ | hchange | ⟨hchange, -⟩
  · rw [hchange] at h
    cases h
    have hcommand := command_of_change hcurrent hchange
    have hid := hnext.deviceId.trans (deviceId_of_getFrom hread)
    have hself := getFrom_store hread hid
    have hother : ∀ tenant' device', ¬(tenant = tenant' ∧ device = device') →
        (shadows.store tenant updated).getFrom tenant' device' = shadows.getFrom tenant' device' := by
      intro tenant' device' hne
      refine getFrom_store_of_ne fun heq => hne ?_
      rw [hid] at heq
      exact Prod.mk.inj heq
    refine ⟨fun tenant' device' record hrecord => ?_, fun tenant' device' => ?_⟩
    · by_cases hkey : tenant = tenant' ∧ device = device'
      · obtain ⟨rfl, rfl⟩ := hkey
        obtain rfl := Option.some.inj (hself.symm.trans hrecord)
        obtain ⟨desired, reported, hupdated⟩ := hnext.consistent
        refine ⟨desired, reported, ?_⟩
        rw [hupdated]
        rfl
      · exact hconsistent tenant' device' record ((hother tenant' device' hkey).symm.trans hrecord)
    · split_ifs with hkey
      · obtain ⟨rfl, rfl⟩ := hkey
        rw [hold, ← hcommand, otaCommand, hself]
        rfl
      · rw [otaCommand, hother tenant' device' hkey, otaCommand]
  · rw [hchange] at h
    cases h
    have hcommand := command_of_change hcurrent hchange
    refine ⟨hconsistent, fun tenant' device' => ?_⟩
    split_ifs with hkey
    · obtain ⟨rfl, rfl⟩ := hkey
      rw [hold]
      exact hcommand
    · rfl
  · rw [hchange] at h
    cases h

theorem otaCommand_of_run (hconsistent : shadows.AllConsistent)
    (hmissing : shadows.getFrom tenant device = none → operation.otaAfter none = none)
    (h : operation.run shadows tenant device = .ok (shadows', result)) :
    shadows'.AllConsistent ∧ ∀ tenant' device', shadows'.otaCommand tenant' device' =
      if tenant = tenant' ∧ device = device' then
        operation.otaAfter (shadows.otaCommand tenant' device')
      else shadows.otaCommand tenant' device' := by
  cases hread : shadows.getFrom tenant device with
  | some current => exact otaCommand_of_run_some hconsistent hread h
  | none =>
    have hruns : operation.run shadows tenant device = .ok (shadows, none) ∨
        operation.run shadows tenant device = .error .notFound := run_of_getFrom_none hread
    rcases hruns with hrun | hrun
    · cases hrun.symm.trans h
      refine ⟨hconsistent, fun tenant' device' => ?_⟩
      split_ifs with hkey
      · obtain ⟨rfl, rfl⟩ := hkey
        rw [otaCommand, hread]
        exact (hmissing hread).symm
      · rfl
    · cases hrun.symm.trans h

end ShadowOperation

namespace FirmwareStore

/-- A failed transaction changes nothing. -/
def committed {ε α : Type} (s : FirmwareStore) : Except ε (FirmwareStore × α) → FirmwareStore
  | .ok (s', _) => s'
  | .error _ => s

def withShadows {ε α : Type} (s : FirmwareStore) : Except ε (Shadows × α) → FirmwareStore
  | .ok (shadows, _) => { s with shadows := shadows }
  | .error _ => s

def apply (adapter : FirmwareAdapter) (s : FirmwareStore) : FirmwareStep → FirmwareStore
  | .triggerOta tenant device firmwareId publicUrl deploymentId now patchedAt =>
    s.committed (s.triggerOta tenant device firmwareId publicUrl deploymentId now patchedAt)
  | .applyOtaStatus tenant device update now =>
    s.committed (s.applyOtaStatus adapter tenant device update now)
  | .updateDesired tenant device patch now =>
    s.withShadows (ShadowApplication.updateDesired s.shadows tenant device patch now)
  | .updateReported tenant device patch now =>
    s.withShadows (s.shadows.updateReported tenant device patch now)
  | .reset tenant device now => s.withShadows (s.shadows.reset tenant device now)
  | .delete tenant firmwareId => s.committed (s.delete adapter tenant firmwareId)

/-- The ids that the database gives out: row ids, or a sequence of integers. -/
def enabled (adapter : FirmwareAdapter) (_ : FirmwareStore) : FirmwareStep → Prop
  | .triggerOta _ _ _ _ deploymentId _ _ =>
    match adapter with
    | .turso => -9223372036854775808 ≤ deploymentId ∧ deploymentId ≤ 9223372036854775807
    | .postgres => 1 ≤ deploymentId ∧ deploymentId ≤ 2147483647
  | _ => True

def machine (adapter : FirmwareAdapter) : Machine FirmwareStore FirmwareStep :=
  ⟨enabled adapter, apply adapter⟩

/-- What a step does to the deployments and the shadows. -/
inductive Effect (adapter : FirmwareAdapter) (s : FirmwareStore) (step : FirmwareStep) :
    FirmwareStore → Prop
  | kept {s' : FirmwareStore} (deployments : s'.deployments = s.deployments)
      (shadows : s'.shadows = s.shadows) : Effect adapter s step s'
  | triggered {s' : FirmwareStore} (tenant device : String) (firmwareId deploymentId now : ℤ)
      (range : -9223372036854775808 ≤ deploymentId ∧ deploymentId ≤ 9223372036854775807)
      (insert : (s.superseded tenant device now).insert?
        ⟨deploymentId, tenant, device, firmwareId, "pending", none, timestampMicros now, none⟩ =
          some s'.deployments)
      (artifact : PreparedOtaArtifact) (patchedAt : ℤ) (current : ShadowRecord)
      (read : s.shadows.getFrom tenant device = some current) (result : Option ShadowRecord)
      (run : (ShadowOperation.triggerOta artifact firmwareId deploymentId patchedAt).run s.shadows
        tenant device = .ok (s'.shadows, result)) : Effect adapter s step s'
  | reported {s' : FirmwareStore} (tenant device : String) (update : OtaStatusUpdate)
      (row : OtaDeploymentRow) (now : ℤ)
      (find : s.deployment? tenant device update.deploymentId = some row)
      (allowed : otaTransitionAllowed row.status update.status = true)
      (deployments : s'.deployments = s.deployments.update
        (fun r => r.tenantId = tenant && r.id = row.id) (FirmwareStore.reported update) fun _ => rfl)
      (clear : if otaStatusIsTerminal update.status = true then
          ∃ result, (ShadowOperation.finishOta row.id now).run s.shadows tenant device =
            .ok (s'.shadows, result)
        else s'.shadows = s.shadows) : Effect adapter s step s'
  | patched {s' : FirmwareStore} (tenant device : String) (operation : ShadowOperation)
      (keeps : ∀ command, operation.otaAfter command = command ∨ operation.otaAfter command = none)
      (deployments : s'.deployments = s.deployments) (result : Option ShadowRecord)
      (run : operation.run s.shadows tenant device = .ok (s'.shadows, result)) :
      Effect adapter s step s'
  | cascaded {s' : FirmwareStore} (tenant : String) (firmwareId : ℤ) (postgres : adapter = .postgres)
      (hstep : step = .delete tenant firmwareId)
      (found : (s.firmware? tenant firmwareId).isSome = true)
      (deployments : s'.deployments = s.deployments.filter fun r => r.firmwareUpdateId ≠ firmwareId)
      (shadows : s'.shadows = s.shadows) : Effect adapter s step s'

variable {adapter : FirmwareAdapter} {s : FirmwareStore} {step : FirmwareStep}
  {tenant device : String}

variable {artifact : PreparedOtaArtifact} {firmwareId deploymentId id now : ℤ}
  {row : OtaDeploymentRow} {command : Json}

theorem run_triggerOta {patchedAt : ℤ}
    {current updated : ShadowRecord} (hread : s.shadows.getFrom tenant device = some current)
    (hpatch : applyDesiredPatch current (artifact.desiredPatch firmwareId deploymentId) patchedAt =
      .ok updated) :
    (ShadowOperation.triggerOta artifact firmwareId deploymentId patchedAt).run s.shadows tenant
      device = .ok (s.shadows.store tenant updated, some updated) := by
  rw [run_eq _ hread, change, hpatch]
  rfl

/-- A trigger changes nothing, or is ready: it supersedes what still runs and puts the command
of its firmware into the shadow. -/
theorem triggerOta_cases (s : FirmwareStore) (tenant device : String) (firmwareId : ℤ)
    (publicUrl : String) (deploymentId now patchedAt : ℤ) :
    (s.committed (s.triggerOta tenant device firmwareId publicUrl deploymentId now patchedAt) = s ∧
      ∀ s' delta version, s.triggerOta tenant device firmwareId publicUrl deploymentId now patchedAt ≠
        .ok (s', .ready delta version)) ∨
    ∃ firmware artifact current updated deployments, s.firmware? tenant firmwareId = some firmware ∧
      PreparedOtaArtifact.prepare firmware.version firmware.sha256 firmware.url publicUrl =
        some artifact ∧
      s.shadows.getFrom tenant device = some current ∧
      (s.superseded tenant device now).insert?
        ⟨deploymentId, tenant, device, firmwareId, "pending", none, timestampMicros now, none⟩ =
          some deployments ∧
      applyDesiredPatch current (artifact.desiredPatch firmwareId deploymentId) patchedAt =
        .ok updated ∧
      s.triggerOta tenant device firmwareId publicUrl deploymentId now patchedAt =
        .ok ({ s with deployments := deployments, shadows := s.shadows.store tenant updated },
          .ready updated.delta updated.version) := by
  unfold triggerOta
  split
  next => exact .inl ⟨rfl, nofun⟩
  next => exact .inl ⟨rfl, nofun⟩
  next firmware _ hfirmware =>
    split_ifs
    · exact .inl ⟨rfl, nofun⟩
    · split
      next => exact .inl ⟨rfl, nofun⟩
      next => exact .inl ⟨rfl, nofun⟩
      next artifact shadow hprepare hread =>
        split
        next => exact .inl ⟨rfl, nofun⟩
        next deployments hinsert =>
          dsimp only
          cases hpatch : applyDesiredPatch shadow
              (artifact.desiredPatch firmwareId deploymentId) patchedAt with
          | error e => exact .inl ⟨rfl, nofun⟩
          | ok updated => exact .inr ⟨firmware, artifact, shadow, updated, deployments, hfirmware,
              hprepare, hread, hinsert, hpatch, rfl⟩

/-- A report changes nothing, or moves the deployment it names and clears its command. -/
theorem writeOtaStatus_cases (s : FirmwareStore) (tenant device : String) (update : OtaStatusUpdate)
    (now : ℤ) :
    s.committed (s.writeOtaStatus tenant device update now) = s ∨
    ∃ row shadows, s.deployment? tenant device update.deploymentId = some row ∧
      otaTransitionAllowed row.status update.status ∧
      (if otaStatusIsTerminal update.status = true then
          ∃ result, (finishOta row.id now).run s.shadows tenant device =
            .ok (shadows, result)
        else shadows = s.shadows) ∧
      s.committed (s.writeOtaStatus tenant device update now) =
        { s with
          deployments := s.deployments.update (fun r => r.tenantId = tenant && r.id = row.id)
            (FirmwareStore.reported update) fun _ => rfl
          shadows := shadows } := by
  unfold writeOtaStatus
  split
  next => exact .inl rfl
  next row hfind =>
    split
    next => exact .inl rfl
    next hguard =>
      push Not at hguard
      have hallowed : otaTransitionAllowed row.status update.status := by
        simpa using hguard.2
      by_cases hterminal : otaStatusIsTerminal update.status
      · simp only [if_pos hterminal]
        cases hfinish : s.shadows.finishOta tenant device row.id now with
        | error e => exact .inl rfl
        | ok finished => exact .inr ⟨row, finished.1, hfind, hallowed, ⟨finished.2, hfinish⟩, rfl⟩
      · simp only [if_neg hterminal]
        exact .inr ⟨row, s.shadows, hfind, hallowed, rfl, rfl⟩

theorem writeOtaStatus_effect (s : FirmwareStore) (tenant device : String) (update : OtaStatusUpdate)
    (now : ℤ) :
    Effect adapter s step (s.committed (s.writeOtaStatus tenant device update now)) := by
  rcases s.writeOtaStatus_cases tenant device update now with
    heq | ⟨row, shadows, hfind, hallowed, hclear, heq⟩
  · rw [heq]
    exact .kept rfl rfl
  · rw [heq]
    exact .reported tenant device update row now hfind hallowed rfl hclear

/-- A patch through the application changes nothing, or is a patch without a command. -/
theorem updateDesired_cases (s : FirmwareStore) (tenant device : String)
    (patch : OrderedMap String Json) (now : ℤ) :
    s.withShadows (ShadowApplication.updateDesired s.shadows tenant device patch now) = s ∨
    (∀ command, (updateDesired patch now).otaAfter command = command) ∧
      s.withShadows (ShadowApplication.updateDesired s.shadows tenant device patch now) =
        s.withShadows ((updateDesired patch now).run s.shadows tenant device) := by
  unfold ShadowApplication.updateDesired
  cases hota : patch.get? "ota" with
  | some value => exact .inl rfl
  | none =>
    rw [ShadowOperation.run]
    cases s.shadows.updateDesired tenant device patch now with
    | error e => exact .inl rfl
    | ok result =>
      obtain ⟨shadows, _ | shadow⟩ := result
      · exact .inl rfl
      · refine .inr ⟨fun command => ?_, rfl⟩
        rw [otaAfter, hota]

theorem withShadows_effect (operation : ShadowOperation)
    (keeps : ∀ command, operation.otaAfter command = command ∨ operation.otaAfter command = none) :
    Effect adapter s step (s.withShadows (operation.run s.shadows tenant device)) := by
  cases hrun : operation.run s.shadows tenant device with
  | error e => exact .kept rfl rfl
  | ok result => exact .patched tenant device operation keeps rfl result.2 hrun

theorem apply_effect (henabled : s.enabled adapter step) : Effect adapter s step (s.apply adapter step) := by
  cases step with
  | triggerOta tenant device firmwareId publicUrl deploymentId now patchedAt =>
    have hrange : -9223372036854775808 ≤ deploymentId ∧ deploymentId ≤ 9223372036854775807 := by
      cases adapter with
      | turso => exact henabled
      | postgres =>
        obtain ⟨hlow, hhigh⟩ := henabled
        omega
    rw [apply]
    rcases s.triggerOta_cases tenant device firmwareId publicUrl deploymentId now patchedAt with
      ⟨heq, -⟩ | ⟨-, artifact, current, updated, deployments, -, -, hread, hinsert, hpatch, heq⟩
    · rw [heq]
      exact .kept rfl rfl
    · rw [heq]
      exact .triggered tenant device firmwareId deploymentId now hrange hinsert artifact patchedAt
        current hread _ (run_triggerOta hread hpatch)
  | applyOtaStatus tenant device update now =>
    cases adapter with
    | turso => exact s.writeOtaStatus_effect tenant device update now
    | postgres =>
      simp only [apply, applyOtaStatus]
      split
      next => exact .kept rfl rfl
      next => exact s.writeOtaStatus_effect tenant device update now
  | updateDesired tenant device patch now =>
    rw [apply]
    rcases s.updateDesired_cases tenant device patch now with heq | ⟨hota, heq⟩
    · rw [heq]
      exact .kept rfl rfl
    · rw [heq]
      exact withShadows_effect _ fun command => .inl (hota command)
  | updateReported tenant device patch now =>
    exact withShadows_effect (.updateReported patch now) fun _ => .inl rfl
  | reset tenant device now =>
    exact withShadows_effect (.reset now) fun _ => .inr rfl
  | delete tenant firmwareId =>
    simp only [apply, delete]
    split
    next => exact .kept rfl rfl
    next firmware hfirmware =>
      cases adapter with
      | turso =>
        dsimp only
        split_ifs <;> exact .kept rfl rfl
      | postgres =>
        exact .cascaded tenant firmwareId rfl rfl (isSome_iff_exists.mpr ⟨_, hfirmware⟩) rfl rfl

section

variable {deployments deployments' : Table OtaDeploymentRow OtaDeploymentRow.id}

theorem isOf_iff {row : OtaDeploymentRow} {tenant device : String} :
    row.isOf tenant device ↔ row.tenantId = tenant ∧ row.deviceId = device := by
  simp [isOf]

/-- Only the newest deployment of a device may still run. -/
def Latest (deployments : Table OtaDeploymentRow OtaDeploymentRow.id) : Prop :=
  ∀ row ∈ deployments, row.isTerminal = false →
    (deployments.rows.filter (OtaDeploymentRow.isOf row.tenantId row.deviceId)).getLast? = some row

theorem Latest.update {p : OtaDeploymentRow → Bool} {f : OtaDeploymentRow → OtaDeploymentRow}
    {hf : ∀ row, (f row).id = row.id} (h : Latest deployments)
    (howner : ∀ row, (f row).tenantId = row.tenantId ∧ (f row).deviceId = row.deviceId)
    (hclosed : ∀ row ∈ deployments, p row → (f row).isTerminal = false →
      row.isTerminal = false) : Latest (deployments.update p f hf) := by
  intro row' hrow' hopen
  obtain ⟨row, hrow, rfl⟩ := mem_update.mp hrow'
  have hsame : ∀ row, (if p row then f row else row).tenantId = row.tenantId ∧
      (if p row then f row else row).deviceId = row.deviceId := by
    intro row
    split
    · exact howner row
    · exact ⟨rfl, rfl⟩
  have hlast : (deployments.rows.filter
      (isOf row.tenantId row.deviceId)).getLast? = some row := by
    refine h row hrow ?_
    split at hopen
    next hp => exact hclosed row hrow hp hopen
    next => exact hopen
  rw [(hsame row).1, (hsame row).2, rows_update, List.filter_map, getLast?_map]
  have hfilter : (isOf row.tenantId row.deviceId ∘
      fun row => if p row then f row else row) =
        isOf row.tenantId row.deviceId := by
    funext other
    simp only [Function.comp_apply, isOf, hsame other]
  rw [hfilter, hlast]
  rfl

theorem Latest.insert {new : OtaDeploymentRow} (h : Latest deployments)
    (hclosed : ∀ row ∈ deployments, row.isOf new.tenantId new.deviceId →
      row.isTerminal) (hinsert : deployments.insert? new = some deployments') :
    Latest deployments' := by
  have hrows := (insert?_eq_some.mp hinsert).2
  intro row hrow hopen
  rw [hrows, filter_append]
  rcases (mem_of_insert? hinsert).mp hrow with hold | rfl
  · have hother : new.isOf row.tenantId row.deviceId = false := by
      rw [← Bool.not_eq_true, isOf_iff]
      rintro ⟨htenant, hdevice⟩
      have hended := hclosed row hold (isOf_iff.mpr ⟨htenant.symm, hdevice.symm⟩)
      rw [hopen] at hended
      cases hended
    rw [filter_cons_of_neg (by simp [hother]), filter_nil, append_nil]
    exact h row hold hopen
  · rw [filter_cons_of_pos (isOf_iff.mpr ⟨rfl, rfl⟩), filter_nil,
      getLast?_append]
    rfl

theorem Latest.filter (p : OtaDeploymentRow → Bool) (h : Latest deployments) :
    Latest (deployments.filter p) := by
  intro row hrow hopen
  obtain ⟨hold, hp⟩ := Table.mem_filter.mp hrow
  obtain ⟨before, heq⟩ := getLast?_eq_some_iff.mp (h row hold hopen)
  rw [rows_filter, filter_comm, heq, filter_append,
    filter_cons_of_pos hp, filter_nil, getLast?_append]
  rfl

theorem Latest.unique (h : Latest deployments) {a b : OtaDeploymentRow} (ha : a ∈ deployments)
    (hb : b ∈ deployments) (htenant : a.tenantId = b.tenantId) (hdevice : a.deviceId = b.deviceId)
    (haopen : a.isTerminal = false) (hbopen : b.isTerminal = false) : a = b := by
  have hlast := h a ha haopen
  rw [htenant, hdevice, h b hb hbopen] at hlast
  exact (Option.some.inj hlast).symm

end

theorem deployment?_eq_some :
    s.deployment? tenant device id = some row ↔
      row ∈ s.deployments ∧ row.id = id ∧ row.isOf tenant device := by
  simp only [deployment?, filter_eq_some_iff, Table.find?_eq_some, and_assoc]

/-- What every step keeps. -/
structure Ordered (s : FirmwareStore) : Prop where
  known : ∀ row ∈ s.deployments, ∃ rank, otaRank row.status = some rank
  range : ∀ row ∈ s.deployments, -9223372036854775808 ≤ row.id ∧ row.id ≤ 9223372036854775807
  latest : Latest s.deployments
  consistent : s.shadows.AllConsistent

/-- A command in the desired state names a deployment of the device that still runs. -/
def Commanded (s : FirmwareStore) : Prop :=
  ∀ tenant device command, s.shadows.otaCommand tenant device = some command →
    ∃ row ∈ s.deployments, row.isOf tenant device = true ∧ row.isTerminal = false ∧
      command.get "deployment_id" = some (.integer row.id)

section

variable {now : ℤ} {row : OtaDeploymentRow}

theorem terminal_of_superseded (h : s.Ordered) (hrow : row ∈ s.superseded tenant device now)
    (hof : row.isOf tenant device) : row.isTerminal := by
  obtain ⟨old, hold, rfl⟩ := mem_update.mp hrow
  split
  next => exact otaStatusIsTerminal_failed
  next hkept =>
    rw [if_neg hkept] at hof
    obtain ⟨rank, hrank⟩ := h.known old hold
    refine (otaRank_facts hrank).2.mpr ?_
    by_contra hne
    rw [not_or] at hne
    simp [hof, hne] at hkept

theorem Latest.superseded (h : Latest s.deployments) : Latest (s.superseded tenant device now) :=
  h.update (fun _ => ⟨rfl, rfl⟩) fun _ _ _ hopen =>
    absurd (hopen.symm.trans otaStatusIsTerminal_failed) Bool.false_ne_true

theorem mem_superseded_of_not (hrow : row ∈ s.deployments) (hof : row.isOf tenant device = false) :
    row ∈ s.superseded tenant device now :=
  mem_update.mpr ⟨row, hrow, by simp [hof]⟩

end

variable {s' : FirmwareStore}

theorem Ordered.preserved (h : s.Ordered) (heffect : Effect adapter s step s') : s'.Ordered := by
  cases heffect with
  | kept deployments shadows =>
    obtain ⟨known, range, latest, consistent⟩ := h
    refine ⟨?_, ?_, ?_, ?_⟩
    · rwa [deployments]
    · rwa [deployments]
    · rwa [deployments]
    · rwa [shadows]
  | triggered tenant device firmwareId deploymentId now range insert artifact patchedAt current read
      result run =>
    refine ⟨fun row hrow => ?_, fun row hrow => ?_, ?_, ?_⟩
    · rcases (mem_of_insert? insert).mp hrow with hrow | rfl
      · obtain ⟨old, hold, rfl⟩ := mem_update.mp hrow
        split
        · exact ⟨5, rfl⟩
        · exact h.known old hold
      · exact ⟨0, rfl⟩
    · rcases (mem_of_insert? insert).mp hrow with hrow | rfl
      · obtain ⟨old, hold, rfl⟩ := mem_update.mp hrow
        split <;> exact h.range old hold
      · exact range
    · exact h.latest.superseded.insert (fun row hrow hof => terminal_of_superseded h hrow hof) insert
    · exact (otaCommand_of_run_some h.consistent read run).1
  | reported tenant device update row now find allowed deployments clear =>
    obtain ⟨hrow, -, -⟩ := deployment?_eq_some.mp find
    obtain ⟨hopen, a, b, -, hnext, -⟩ := otaTransitionAllowed_iff.mp allowed
    refine ⟨fun row' hrow' => ?_, fun row' hrow' => ?_, ?_, ?_⟩
    · rw [deployments] at hrow'
      obtain ⟨old, hold, rfl⟩ := mem_update.mp hrow'
      split
      · exact ⟨b, hnext⟩
      · exact h.known old hold
    · rw [deployments] at hrow'
      obtain ⟨old, hold, rfl⟩ := mem_update.mp hrow'
      split <;> exact h.range old hold
    · rw [deployments]
      refine h.latest.update (fun _ => ⟨rfl, rfl⟩) fun old hold hp _ => ?_
      simp only [Bool.and_eq_true, decide_eq_true_eq] at hp
      obtain rfl := s.deployments.eq_of_key_eq hold hrow hp.2
      exact hopen
    · split_ifs at clear
      · obtain ⟨result, hrun⟩ := clear
        exact (otaCommand_of_run h.consistent (fun _ => rfl) hrun).1
      · rw [clear]
        exact h.consistent
  | patched tenant device operation keeps deployments result run =>
    obtain ⟨known, range, latest, consistent⟩ := h
    refine ⟨?_, ?_, ?_, ?_⟩
    · rwa [deployments]
    · rwa [deployments]
    · rwa [deployments]
    · refine (otaCommand_of_run consistent (fun _ => ?_) run).1
      rcases keeps none with hnone | hnone <;> exact hnone
  | cascaded tenant firmwareId postgres hstep found deployments shadows =>
    obtain ⟨known, range, latest, consistent⟩ := h
    refine ⟨fun row hrow => ?_, fun row hrow => ?_, ?_, ?_⟩
    · rw [deployments] at hrow
      exact known row (Table.mem_filter.mp hrow).1
    · rw [deployments] at hrow
      exact range row (Table.mem_filter.mp hrow).1
    · rw [deployments]
      exact latest.filter _
    · rwa [shadows]

theorem deploymentId_of_desiredPatch
    (h : (artifact.desiredPatch firmwareId deploymentId).get? "ota" = some command) :
    command.get "deployment_id" = some (.integer deploymentId) := by
  rw [PreparedOtaArtifact.desiredPatch, OrderedMap.get?_ofList] at h
  cases h
  rw [Json.get_ofMap, OrderedMap.get?_ofList]
  rfl

theorem asI64_of_range (h : -9223372036854775808 ≤ id ∧ id ≤ 9223372036854775807) :
    Json.asI64 (.integer id) = some id := if_pos h

theorem otaAfter_finishOta_eq_some {before : Option Json} :
    (finishOta id now).otaAfter before = some command ↔
      before = some command ∧ (command.get "deployment_id").bind Json.asI64 ≠ some id := by
  cases before with
  | none => simp [otaAfter]
  | some old =>
    simp only [otaAfter, bind_some]
    split_ifs with h
    · simp only [Option.some.injEq, false_iff, not_and, not_not]
      rintro rfl
      exact h
    · simp only [Option.some.injEq, iff_self_and]
      rintro rfl
      exact h

/-- The commands after a report were there before, and if it ended a deployment they
name others. -/
theorem command_of_reported {update : OtaStatusUpdate}
    {shadows : Shadows} {tenant' device' : String} (h : s.Ordered)
    (clear : if otaStatusIsTerminal update.status = true then
        ∃ result, (finishOta row.id now).run s.shadows tenant device =
          .ok (shadows, result)
      else shadows = s.shadows) :
    shadows.otaCommand tenant' device' = some command ↔
      s.shadows.otaCommand tenant' device' = some command ∧
      (otaStatusIsTerminal update.status → tenant = tenant' → device = device' →
        (command.get "deployment_id").bind Json.asI64 ≠ some row.id) := by
  split_ifs at clear with hterminal
  · obtain ⟨result, hrun⟩ := clear
    rw [(otaCommand_of_run h.consistent (fun _ => rfl) hrun).2]
    split_ifs with hkey
    · rw [otaAfter_finishOta_eq_some]
      simp [hterminal, hkey]
    · simp only [iff_self_and]
      exact fun _ _ htenant hdevice => absurd ⟨htenant, hdevice⟩ hkey
  · rw [clear]
    simp [hterminal]

def Unnamed (s : FirmwareStore) (firmwareId : ℤ) : Prop :=
  ∀ row ∈ s.deployments, row.firmwareUpdateId = firmwareId →
    ∀ command, s.shadows.otaCommand row.tenantId row.deviceId = some command →
      command.get "deployment_id" ≠ some (.integer row.id)

theorem Commanded.preserved (hcommanded : s.Commanded) (h : s.Ordered)
    (heffect : Effect adapter s step s')
    (hdelete : ∀ tenant firmwareId, adapter = .postgres → step = .delete tenant firmwareId →
      (s.firmware? tenant firmwareId).isSome → s.Unnamed firmwareId) : s'.Commanded := by
  intro tenant' device' command hcommand
  cases heffect with
  | kept deployments shadows =>
    rw [deployments]
    exact hcommanded tenant' device' command (shadows ▸ hcommand)
  | triggered tenant device firmwareId deploymentId now range insert artifact patchedAt current read
      result run =>
    rw [(otaCommand_of_run_some h.consistent read run).2] at hcommand
    split_ifs at hcommand with hkey
    · obtain ⟨rfl, rfl⟩ := hkey
      refine ⟨_, (mem_of_insert? insert).mpr (.inr rfl), ?_, ?_, ?_⟩
      · exact isOf_iff.mpr ⟨rfl, rfl⟩
      · exact otaStatusIsTerminal_pending
      · exact deploymentId_of_desiredPatch hcommand
    · obtain ⟨row, hrow, hof, hopen, hnamed⟩ := hcommanded tenant' device' command hcommand
      obtain ⟨htenant, hdevice⟩ := isOf_iff.mp hof
      have hother : row.isOf tenant device = false := by
        rw [← Bool.not_eq_true, isOf_iff, htenant, hdevice]
        exact fun hsame => hkey ⟨hsame.1.symm, hsame.2.symm⟩
      exact ⟨row, (mem_of_insert? insert).mpr (.inl (mem_superseded_of_not hrow hother)), hof,
        hopen, hnamed⟩
  | reported tenant device update row now find allowed deployments clear =>
    obtain ⟨hrow, -, hrowof⟩ := deployment?_eq_some.mp find
    obtain ⟨hold, hstays⟩ := (command_of_reported h clear).mp hcommand
    obtain ⟨named, hmem, hof, hopen, hnamed⟩ := hcommanded tenant' device' command hold
    rw [isOf_iff] at hof hrowof
    by_cases hid : named.id = row.id
    · obtain rfl := s.deployments.eq_of_key_eq hmem hrow hid
      refine ⟨FirmwareStore.reported update named, ?_, ?_, ?_, hnamed⟩
      · rw [deployments]
        exact mem_update.mpr ⟨named, hmem, by simp [hrowof]⟩
      · exact isOf_iff.mpr hof
      · cases hterminal : otaStatusIsTerminal update.status with
        | false => exact hterminal
        | true =>
          refine absurd ?_ (hstays hterminal (hrowof.1.symm.trans hof.1) (hrowof.2.symm.trans hof.2))
          rw [hnamed]
          exact asI64_of_range (h.range named hmem)
    · refine ⟨named, ?_, isOf_iff.mpr hof, hopen, hnamed⟩
      rw [deployments]
      exact mem_update.mpr ⟨named, hmem, by simp [hid]⟩
  | patched tenant device operation keeps deployments result run =>
    have hrun := otaCommand_of_run h.consistent (fun _ => by
      rcases keeps none with hnone | hnone <;> exact hnone) run
    rw [hrun.2] at hcommand
    rw [deployments]
    refine hcommanded tenant' device' command ?_
    split_ifs at hcommand with hkey
    · rcases keeps (s.shadows.otaCommand tenant' device') with hsame | hnone
      · exact hsame ▸ hcommand
      · exact absurd (hnone.symm.trans hcommand) (by simp)
    · exact hcommand
  | cascaded tenant firmwareId postgres hstep found deployments shadows =>
    rw [shadows] at hcommand
    obtain ⟨row, hrow, hof, hopen, hnamed⟩ := hcommanded tenant' device' command hcommand
    refine ⟨row, ?_, hof, hopen, hnamed⟩
    rw [deployments, Table.mem_filter]
    refine ⟨hrow, decide_eq_true fun hfirmware => ?_⟩
    obtain ⟨rfl, rfl⟩ := isOf_iff.mp hof
    exact hdelete tenant firmwareId postgres hstep found row hrow hfirmware command hcommand hnamed

/-- A deployment later on: the same if it had ended, otherwise no stage behind. -/
structure OnwardTo (row row' : OtaDeploymentRow) : Prop where
  id : row'.id = row.id
  stage : ∃ a b, otaRank row.status = some a ∧ otaRank row'.status = some b ∧ a ≤ b
  ended : row.isTerminal = true → row' = row

def Onward (s s' : FirmwareStore) : Prop :=
  ∀ row ∈ s.deployments, ∃ row' ∈ s'.deployments, OnwardTo row row'

theorem Ordered.onwardTo_self (h : s.Ordered) (hrow : row ∈ s.deployments) :
    OnwardTo row row := by
  obtain ⟨rank, hrank⟩ := h.known row hrow
  exact ⟨rfl, ⟨rank, rank, hrank, hrank, le_rfl⟩, fun _ => rfl⟩

theorem OnwardTo.trans {a b c : OtaDeploymentRow} (hab : OnwardTo a b) (hbc : OnwardTo b c) :
    OnwardTo a c := by
  obtain ⟨ra, rb, hra, hrb, hle⟩ := hab.stage
  obtain ⟨rb', rc, hrb', hrc, hle'⟩ := hbc.stage
  obtain rfl := Option.some.inj (hrb.symm.trans hrb')
  refine ⟨hbc.id.trans hab.id, ⟨ra, rc, hra, hrc, hle.trans hle'⟩, fun hended => ?_⟩
  have hb := hab.ended hended
  rw [hbc.ended (hb ▸ hended), hb]

theorem Ordered.onward (h : s.Ordered) (heffect : Effect .turso s step s') : Onward s s' := by
  intro row hrow
  have hself := h.onwardTo_self hrow
  cases heffect with
  | kept deployments shadows => exact ⟨row, deployments ▸ hrow, hself⟩
  | triggered tenant device firmwareId deploymentId now range insert artifact patchedAt current read
      result run =>
    have hmem : _ ∈ s.superseded tenant device now := mem_update.mpr ⟨row, hrow, rfl⟩
    refine ⟨_, (mem_of_insert? insert).mpr (.inl hmem), ?_⟩
    split
    next hruns =>
      obtain ⟨rank, hrank⟩ := h.known row hrow
      obtain ⟨hle, hterminal⟩ := otaRank_facts hrank
      refine ⟨rfl, ⟨rank, 5, hrank, rfl, hle⟩, fun hended => ?_⟩
      simp only [Bool.and_eq_true, decide_eq_true_eq] at hruns
      exact absurd (hterminal.mp hended) (not_or.mpr hruns.2)
    next => exact hself
  | reported tenant device update moved now find allowed deployments clear =>
    obtain ⟨hmoved, -, hmovedof⟩ := deployment?_eq_some.mp find
    obtain ⟨hopen, a, b, hprevious, hnext, hle⟩ := otaTransitionAllowed_iff.mp allowed
    rw [deployments]
    refine ⟨_, mem_update.mpr ⟨row, hrow, rfl⟩, ?_⟩
    split
    next hp =>
      simp only [Bool.and_eq_true, decide_eq_true_eq] at hp
      obtain rfl := s.deployments.eq_of_key_eq hrow hmoved hp.2
      exact ⟨rfl, ⟨a, b, hprevious, hnext, hle⟩, fun hended => absurd (hopen.symm.trans hended) (by simp)⟩
    next => exact hself
  | patched tenant device operation keeps deployments result run =>
    exact ⟨row, deployments ▸ hrow, hself⟩
  | cascaded tenant firmwareId postgres => cases postgres

theorem onward_run {steps : List FirmwareStep} (h : (machine .turso).Run s steps s')
    (hordered : s.Ordered) : Onward s s' := by
  induction h with
  | nil s => exact fun row hrow => ⟨row, hrow, hordered.onwardTo_self hrow⟩
  | @cons s last step steps henabled hrest ih =>
    have heffect : Effect .turso s step (s.apply .turso step) := apply_effect henabled
    intro row hrow
    obtain ⟨next, hnext, honward⟩ := hordered.onward heffect row hrow
    obtain ⟨final, hfinal, honward'⟩ := ih (hordered.preserved heffect) next hnext
    exact ⟨final, hfinal, honward.trans honward'⟩

/-- Devices as they are created, before any deployment. -/
def start (store : Store) (firmware : Table FirmwareRow FirmwareRow.id) (shadows : Shadows) :
    FirmwareStore :=
  ⟨store, firmware, .empty, shadows⟩

section

variable {store : Store} {firmware : Table FirmwareRow FirmwareRow.id} {shadows : Shadows}

theorem ordered_start
    (hcreated : ∀ row ∈ shadows, ∃ now, row = created row.tenantId row.deviceId now) :
    (start store firmware shadows).Ordered where
  known _ h := absurd h (not_mem_empty _)
  range _ h := absurd h (not_mem_empty _)
  latest _ h := absurd h (not_mem_empty _)
  consistent tenant device record hrecord := by
    obtain ⟨row, hrow, rfl⟩ := map_eq_some_iff.mp hrecord
    obtain ⟨now, hnow⟩ := hcreated row (find?_eq_some.mp hrow).1
    rw [hnow]
    exact ⟨.empty, .empty, rfl⟩

theorem commanded_start
    (hcreated : ∀ row ∈ shadows, ∃ now, row = created row.tenantId row.deviceId now) :
    (start store firmware shadows).Commanded := by
  intro tenant device command hcommand
  obtain ⟨record, hrecord, hota⟩ := bind_eq_some_iff.mp hcommand
  obtain ⟨row, hrow, rfl⟩ := map_eq_some_iff.mp hrecord
  obtain ⟨now, hnow⟩ := hcreated row (find?_eq_some.mp hrow).1
  rw [hnow] at hota
  cases hota

end

theorem Ordered.otaCommand_of_other (h : s.Ordered)
    (hrange : -9223372036854775808 ≤ id ∧ id ≤ 9223372036854775807)
    (hcommand : s.shadows.otaCommand tenant device = some command)
    (hnamed : command.get "deployment_id" = some (.integer id)) {update : OtaStatusUpdate}
    (hother : update.deploymentId ≠ id) (now : ℤ) :
    (s.apply .turso (.applyOtaStatus tenant device update now)).shadows.otaCommand tenant device =
      some command := by
  simp only [apply, applyOtaStatus]
  rcases s.writeOtaStatus_cases tenant device update now with
    heq | ⟨row, shadows, hfind, -, hclear, heq⟩
  · rw [heq]
    exact hcommand
  · rw [heq]
    obtain ⟨-, hid, -⟩ := deployment?_eq_some.mp hfind
    refine (command_of_reported h hclear).mpr
      ⟨hcommand, fun _ _ _ hsame => ?_⟩
    rw [hnamed] at hsame
    have : id = row.id := Option.some.inj ((asI64_of_range hrange).symm.trans hsame)
    exact hother (hid.symm.trans this.symm)

/-- In every interleaving over the Turso adapter, at most one deployment of a device
still runs, one that has ended never changes and none goes back a stage; a command in
the desired state names the newest deployment, which still runs, and no report about
another deployment removes it. -/
theorem ota_run_sound {store : Store} {firmware : Table FirmwareRow FirmwareRow.id}
    {shadows : Shadows} {steps : List FirmwareStep}
    (hcreated : ∀ row ∈ shadows, ∃ now, row = Shadows.created row.tenantId row.deviceId now)
    (h : (machine .turso).Run (start store firmware shadows) steps s) (tenant device : String) :
    (∀ a ∈ s.deployments, ∀ b ∈ s.deployments, a.isOf tenant device = true →
      b.isOf tenant device = true → a.isTerminal = false → b.isTerminal = false → a = b) ∧
    (∀ later s', (machine .turso).Run s later s' →
      ∀ row ∈ s.deployments, ∃ row' ∈ s'.deployments, row'.id = row.id ∧
        (row.isTerminal = true → row' = row) ∧
        ∃ a b, otaRank row.status = some a ∧ otaRank row'.status = some b ∧ a ≤ b) ∧
    ∀ command, s.shadows.otaCommand tenant device = some command →
      ∃ row, (s.deploymentsOf tenant device).getLast? = some row ∧ row.isTerminal = false ∧
        command.get "deployment_id" = some (.integer row.id) ∧
        ∀ update now, update.deploymentId ≠ row.id →
          (s.apply .turso (.applyOtaStatus tenant device update now)).shadows.otaCommand tenant
            device = some command := by
  obtain ⟨hordered, hcommanded⟩ : s.Ordered ∧ s.Commanded := by
    refine h.invariant (I := fun s => s.Ordered ∧ s.Commanded) (fun s step hi henabled => ?_)
      ⟨ordered_start hcreated, commanded_start hcreated⟩
    have heffect : Effect .turso s step (s.apply .turso step) := apply_effect henabled
    exact ⟨hi.1.preserved heffect, hi.2.preserved hi.1 heffect fun _ _ hpostgres => by cases hpostgres⟩
  refine ⟨fun a ha b hb haof hbof haopen hbopen => ?_, fun later s' hlater row hrow => ?_,
    fun command hcommand => ?_⟩
  · rw [isOf_iff] at haof hbof
    exact hordered.latest.unique ha hb (haof.1.trans hbof.1.symm) (haof.2.trans hbof.2.symm) haopen
      hbopen
  · obtain ⟨row', hrow', honward⟩ := onward_run hlater hordered row hrow
    exact ⟨row', hrow', honward.id, honward.ended, honward.stage⟩
  · obtain ⟨row, hrow, hof, hopen, hnamed⟩ := hcommanded tenant device command hcommand
    refine ⟨row, ?_, hopen, hnamed, fun update now hother =>
      hordered.otaCommand_of_other (hordered.range row hrow) hcommand hnamed hother now⟩
    obtain ⟨htenant, hdevice⟩ := isOf_iff.mp hof
    have hlast := hordered.latest row hrow hopen
    rw [htenant, hdevice] at hlast
    exact hlast

/-- One device whose contract is of the revision that one firmware is for. -/
def sampleStart : FirmwareStore :=
  start
    { Store.sample with
      contracts := Store.sampleContracts
      assignments := Store.sampleAssignments }
    ⟨[⟨1, "tenant", "1.1", "https://firmware/1",
      some "0000000000000000000000000000000000000000000000000000000000000000", "revision"⟩],
      by decide⟩
    ⟨[Shadows.created "tenant" "device" 0], by decide⟩

theorem sampleStart_created : ∀ row ∈ sampleStart.shadows,
    ∃ now, row = created row.tenantId row.deviceId now := by
  intro row hrow
  obtain rfl := mem_singleton.mp hrow
  exact ⟨0, rfl⟩

/-- A deployment is superseded while the device downloads it, and the device still
reports its success. -/
def lateReport : List FirmwareStep :=
  [.triggerOta "tenant" "device" 1 "" 1 1000 1000,
    .applyOtaStatus "tenant" "device" ⟨1, some 1, "downloading", none, none⟩ 2000,
    .triggerOta "tenant" "device" 1 "" 2 3000 3000,
    .applyOtaStatus "tenant" "device" ⟨1, some 1, "success", none, some 4000⟩ 4000]

theorem lateReport_run : ∃ s, (machine .turso).Run sampleStart lateReport s ∧
    (s.shadows.otaCommand "tenant" "device").bind (Json.get "deployment_id") =
      some (.integer 2) := by
  refine ⟨_, .cons ⟨by decide, by decide⟩ (.cons trivial (.cons ⟨by decide, by decide⟩
    (.cons trivial (.nil _)))), ?_⟩
  decide +kernel

theorem ota_run_sound_late : ∃ s, (machine .turso).Run sampleStart lateReport s ∧
    ∃ row, (s.deploymentsOf "tenant" "device").getLast? = some row ∧ row.isTerminal = false ∧
      row.id = 2 := by
  obtain ⟨s, hrun, hid⟩ := lateReport_run
  obtain ⟨command, hcommand, hnamed⟩ := bind_eq_some_iff.mp hid
  obtain ⟨row, hlast, hopen, hrow, -⟩ :=
    (ota_run_sound sampleStart_created hrun "tenant" "device").2.2 command hcommand
  refine ⟨s, hrun, row, hlast, hopen, ?_⟩
  have hsame := hrow.symm.trans hnamed
  simpa using hsame

end FirmwareStore

end Extrittio
