import Extrittio.Firmware.Deployments

/-!
Deletion of firmware over the Postgres adapter. The deployments of a deleted
firmware go with it, but the shadow names its deployment only inside JSON, which
no foreign key reaches.
-/
namespace Extrittio

open Relational Transition ShadowOperation

namespace FirmwareStore

variable {s : FirmwareStore} {step : FirmwareStep} {tenant device : String}

/-- A firmware is deleted only when no command names one of its deployments. -/
def DeletesUnnamed (s : FirmwareStore) : FirmwareStep → Prop
  | .delete tenant firmwareId => (s.firmware? tenant firmwareId).isSome = true → s.Unnamed firmwareId
  | _ => True

theorem not_commanded_of_delete {firmwareId : ℤ}
    (hfirmware : (s.firmware? tenant firmwareId).isSome) (hnamed : ¬s.Unnamed firmwareId) :
    ¬(s.apply .postgres (.delete tenant firmwareId)).Commanded := by
  simp only [Unnamed, not_forall, not_not] at hnamed
  obtain ⟨row, hrow, hrowfirmware, command, hcommand, hnamed⟩ := hnamed
  obtain ⟨firmware, hfirmware⟩ := Option.isSome_iff_exists.mp hfirmware
  simp only [apply, delete, hfirmware, committed]
  intro hcommanded
  obtain ⟨other, hother, -, -, hothernamed⟩ := hcommanded _ _ command hcommand
  obtain ⟨hmem, hkept⟩ := Table.mem_filter.mp hother
  have hid : other.id = row.id := by
    simpa using hothernamed.symm.trans hnamed
  obtain rfl := s.deployments.eq_of_key_eq hmem hrow hid
  simp [hrowfirmware] at hkept

theorem commanded_apply_iff (hordered : s.Ordered) (hcommanded : s.Commanded)
    (henabled : s.enabled .postgres step) :
    (s.apply .postgres step).Commanded ↔ s.DeletesUnnamed step := by
  have heffect : Effect .postgres s step (s.apply .postgres step) := apply_effect henabled
  constructor
  · intro hafter
    cases step with
    | delete tenant firmwareId =>
      intro hfirmware
      by_contra hnamed
      exact not_commanded_of_delete hfirmware hnamed hafter
    | triggerOta | applyOtaStatus | updateDesired | updateReported | reset => exact trivial
  · intro hguard
    refine hcommanded.preserved hordered heffect ?_
    rintro tenant firmwareId - rfl hfirmware
    exact hguard hfirmware

/-- A terminal report of the deployment that a command names removes the command,
while there is a version left. -/
theorem Ordered.otaCommand_of_finished (h : s.Ordered) {record : ShadowRecord} {command : Json}
    {row : OtaDeploymentRow} {update : OtaStatusUpdate}
    (hread : s.shadows.getFrom tenant device = some record)
    (hcommand : record.desired.get "ota" = some command) (hrow : row ∈ s.deployments)
    (hof : row.isOf tenant device) (hopen : row.isTerminal = false)
    (hnamed : command.get "deployment_id" = some (.integer row.id))
    (hroom : record.version < 2147483647) (hid : update.deploymentId = row.id)
    (hfirmware : update.firmwareUpdateId = some row.firmwareUpdateId)
    (hstatus : update.status = "success" ∨ update.status = "failed") (now : ℤ) :
    (s.apply .postgres (.applyOtaStatus tenant device update now)).shadows.otaCommand tenant device =
      none := by
  obtain ⟨rank, hrank⟩ := h.known row hrow
  have hlast : otaRank update.status = some 5 ∧ otaStatusIsTerminal update.status := by
    rcases hstatus with hsuccess | hfailed
    · rw [hsuccess]
      decide
    · rw [hfailed]
      decide
  have hallowed : otaTransitionAllowed row.status update.status :=
    otaTransitionAllowed_iff.mpr ⟨hopen, rank, 5, hrank, hlast.1, (otaRank_facts hrank).1⟩
  have hfind : s.deployment? tenant device update.deploymentId = some row :=
    deployment?_eq_some.mpr ⟨hrow, hid.symm, hof⟩
  -- The clearing of the shadow commits, because there is a version left.
  obtain ⟨shadows, result, hrun⟩ : ∃ shadows result,
      (finishOta row.id now).run s.shadows tenant device = .ok (shadows, result) := by
    rcases Shadows.apply_cases hread (h.consistent _ _ _ hread) (.finishOta row.id now) with
      ⟨updated, -, hrun⟩ | hrun | ⟨-, hfull⟩
    · exact ⟨_, _, hrun⟩
    · exact ⟨_, _, hrun⟩
    · omega
  have hfinish : s.shadows.finishOta tenant device row.id now = .ok (shadows, result) := hrun
  have hold : s.shadows.otaCommand tenant device = some command := by
    rw [Shadows.otaCommand, hread]
    exact hcommand
  have hcleared := (otaCommand_of_run_some h.consistent hread hrun).2 tenant device
  rw [if_pos ⟨rfl, rfl⟩, hold] at hcleared
  have hnone : (finishOta row.id now).otaAfter (some command) = none := by
    simp only [otaAfter, Option.bind_some, hnamed,
      asI64_of_range (h.range row hrow), if_true]
  simp only [apply, applyOtaStatus, hread, writeOtaStatus, hfind, hfirmware, hallowed, hlast.2,
    hfinish, ne_eq, not_true_eq_false, Bool.true_eq_false, or_self, if_false, if_true]
  exact hcleared.trans hnone

/-- In every run over the Postgres adapter in which a firmware is deleted only when no
command names one of its deployments, a command names a deployment of the device that
still runs, and a terminal report of that deployment removes it; a step keeps that up
exactly if it is such a step. -/
theorem deletion_run_commanded {store : Store} {firmware : Table FirmwareRow FirmwareRow.id}
    {shadows : Shadows} {steps : List FirmwareStep}
    (hcreated : ∀ row ∈ shadows, ∃ now, row = Shadows.created row.tenantId row.deviceId now)
    (h : ((machine .postgres).restrict DeletesUnnamed).Run (start store firmware shadows) steps s) :
    (∀ tenant device record command, s.shadows.getFrom tenant device = some record →
      record.desired.get "ota" = some command →
      ∃ row ∈ s.deployments, row.isOf tenant device = true ∧ row.isTerminal = false ∧
        command.get "deployment_id" = some (.integer row.id) ∧
        (record.version < 2147483647 → ∀ update now, update.deploymentId = row.id →
          update.firmwareUpdateId = some row.firmwareUpdateId →
          update.status = "success" ∨ update.status = "failed" →
          (s.apply .postgres (.applyOtaStatus tenant device update now)).shadows.otaCommand tenant
            device = none)) ∧
    ∀ step, s.enabled .postgres step →
      ((s.apply .postgres step).Commanded ↔ s.DeletesUnnamed step) := by
  obtain ⟨hordered, hcommanded⟩ : s.Ordered ∧ s.Commanded := by
    refine h.invariant (I := fun s => s.Ordered ∧ s.Commanded) (fun s step hi henabled => ?_)
      ⟨ordered_start hcreated, commanded_start hcreated⟩
    obtain ⟨henabled, hguard⟩ := henabled
    have heffect : Effect .postgres s step (s.apply .postgres step) := apply_effect henabled
    exact ⟨hi.1.preserved heffect, (commanded_apply_iff hi.1 hi.2 henabled).mpr hguard⟩
  refine ⟨fun tenant device record command hread hcommand => ?_,
    fun step => commanded_apply_iff hordered hcommanded⟩
  have hold : s.shadows.otaCommand tenant device = some command := by
    rw [Shadows.otaCommand, hread]
    exact hcommand
  obtain ⟨row, hrow, hof, hopen, hnamed⟩ := hcommanded tenant device command hold
  refine ⟨row, hrow, hof, hopen, hnamed, fun hroom update now hid hfirmware hstatus => ?_⟩
  exact hordered.otaCommand_of_finished hread hcommand hrow hof hopen hnamed hroom hid hfirmware
    hstatus now

def deploySample : FirmwareStep := .triggerOta "tenant" "device" 1 "" 1 1000 1000

theorem deploySample_run : ∃ s,
    ((machine .postgres).restrict DeletesUnnamed).Run sampleStart [deploySample] s ∧
      (s.shadows.getFrom "tenant" "device").map (fun record =>
        (record.version, (record.desired.get "ota").bind (Json.get "deployment_id"))) =
          some (2, some (.integer 1)) ∧
      s.deployments.rows.map (·.firmwareUpdateId) = [1] ∧
      (s.firmware? "tenant" 1).isSome := by
  refine ⟨_, .cons ⟨⟨by decide, by decide⟩, trivial⟩ (.nil _), ?_, ?_, ?_⟩
  · decide +kernel
  · decide +kernel
  · decide +kernel

theorem deletion_run_commanded_sample : ∃ s,
    ((machine .postgres).restrict DeletesUnnamed).Run sampleStart [deploySample] s ∧
      (s.apply .postgres (.applyOtaStatus "tenant" "device" ⟨1, some 1, "success", none, none⟩
        2000)).shadows.otaCommand "tenant" "device" = none ∧
      ¬(s.apply .postgres (.delete "tenant" 1)).Commanded := by
  obtain ⟨s, hrun, hread, hfirmware, hfound⟩ := deploySample_run
  obtain ⟨hcommanded, hiff⟩ := deletion_run_commanded sampleStart_created hrun
  obtain ⟨record, hrecord, heq⟩ := Option.map_eq_some_iff.mp hread
  obtain ⟨hversion, hbind⟩ := Prod.mk.inj heq
  obtain ⟨command, hcommand, hid⟩ := Option.bind_eq_some_iff.mp hbind
  obtain ⟨row, hrow, hof, -, hnamed, hremoved⟩ :=
    hcommanded "tenant" "device" record command hrecord hcommand
  have hrowid : row.id = 1 := by
    simpa using hnamed.symm.trans hid
  have hrowfirmware : row.firmwareUpdateId = 1 := by
    have hmem : row.firmwareUpdateId ∈ s.deployments.rows.map (·.firmwareUpdateId) :=
      List.mem_map_of_mem hrow
    rw [hfirmware] at hmem
    exact List.mem_singleton.mp hmem
  refine ⟨s, hrun, ?_, fun hafter => ?_⟩
  · exact hremoved (by omega) _ _ hrowid.symm (congrArg some hrowfirmware.symm) (.inl rfl)
  · have hunnamed := (hiff (.delete "tenant" 1) trivial).mp hafter hfound
    obtain ⟨htenant, hdevice⟩ := isOf_iff.mp hof
    refine hunnamed row hrow hrowfirmware command ?_ hnamed
    rw [htenant, hdevice, Shadows.otaCommand, hrecord]
    exact hcommand

/-- A firmware is deleted while its deployment runs: the command stays, the deployment
it names is gone, and no report of the device changes the shadow any more. -/
theorem command_outlives_firmware : ∃ s,
    (machine .postgres).Run sampleStart [deploySample, .delete "tenant" 1] s ∧
      (s.shadows.otaCommand "tenant" "device").bind (Json.get "deployment_id") =
        some (.integer 1) ∧
      s.deployments.rows = [] ∧
      ∀ update now, (s.apply .postgres (.applyOtaStatus "tenant" "device" update now)).shadows =
        s.shadows := by
  obtain ⟨s, hrun, hcommand, hempty⟩ : ∃ s,
      (machine .postgres).Run sampleStart [deploySample, .delete "tenant" 1] s ∧
      (s.shadows.otaCommand "tenant" "device").bind (Json.get "deployment_id") =
        some (.integer 1) ∧ s.deployments.rows = [] := by
    refine ⟨_, .cons ⟨by decide, by decide⟩ (.cons trivial (.nil _)), ?_, ?_⟩
    · decide +kernel
    · decide +kernel
  refine ⟨s, hrun, hcommand, hempty, fun update now => ?_⟩
  have hnone : s.deployment? "tenant" "device" update.deploymentId = none := by
    simp [deployment?, Table.find?, hempty]
  simp only [apply, applyOtaStatus, writeOtaStatus, hnone]
  split <;> rfl

end FirmwareStore

end Extrittio
