import Extrittio.Firmware.Deployments

/-!
Deployments that no command names. A patch must leave the reserved `ota` key alone, but a
reset empties the whole desired state, the command of a running deployment with it.
-/
namespace Extrittio

open Relational Transition ShadowOperation

namespace FirmwareStore

variable {s : FirmwareStore} {step : FirmwareStep} {tenant device : String}

/-- A deployment that still runs is the one that the command of its device names. -/
def Named (s : FirmwareStore) : Prop :=
  ∀ row ∈ s.deployments, row.isTerminal = false →
    ∃ command, s.shadows.otaCommand row.tenantId row.deviceId = some command ∧
      command.get "deployment_id" = some (.integer row.id)

def Running (s : FirmwareStore) (tenant device : String) : Prop :=
  ∃ row ∈ s.deployments, row.isOf tenant device = true ∧ row.isTerminal = false

/-- A reset of a device with a running deployment does not commit. -/
def SparesRunning (s : FirmwareStore) : FirmwareStep → Prop
  | .reset tenant device now => s.Running tenant device → ∃ e, s.shadows.reset tenant device now = .error e
  | _ => True

theorem Named.triggerOta (hnamed : s.Named) (hordered : s.Ordered)
    {firmwareId deploymentId now patchedAt : ℤ} {publicUrl : String} :
    (s.committed (s.triggerOta tenant device firmwareId publicUrl deploymentId now patchedAt)).Named := by
  rcases s.triggerOta_cases tenant device firmwareId publicUrl deploymentId now patchedAt with
    ⟨heq, -⟩ | ⟨-, artifact, current, updated, deployments, -, -, hread, hinsert, hpatch, heq⟩
  · rwa [heq]
  rw [heq, committed]
  obtain ⟨-, hcommands⟩ := otaCommand_of_run_some hordered.consistent hread
    (run_triggerOta hread hpatch)
  intro row hrow hopen
  simp only [hcommands]
  rcases (Table.mem_of_insert? hinsert).mp hrow with hrow | rfl
  · -- the deployments that still run are of other devices
    have hother : ¬(tenant = row.tenantId ∧ device = row.deviceId) := by
      rintro ⟨rfl, rfl⟩
      have hended := terminal_of_superseded hordered hrow (isOf_iff.mpr ⟨rfl, rfl⟩)
      exact absurd (hopen.symm.trans hended) Bool.false_ne_true
    rw [if_neg hother]
    obtain ⟨old, hold, rfl⟩ := Table.mem_update.mp hrow
    split at hopen
    next => exact absurd (hopen.symm.trans otaStatusIsTerminal_failed) Bool.false_ne_true
    next hkept =>
      simp only [if_neg hkept]
      exact hnamed old hold hopen
  · rw [if_pos ⟨rfl, rfl⟩]
    exact ⟨_, rfl, deploymentId_of_desiredPatch rfl⟩

theorem Named.writeOtaStatus (hnamed : s.Named) (hordered : s.Ordered) {update : OtaStatusUpdate}
    {now : ℤ} : (s.committed (s.writeOtaStatus tenant device update now)).Named := by
  rcases s.writeOtaStatus_cases tenant device update now with
    heq | ⟨reported, shadows, hfind, hallowed, hclear, heq⟩
  · rwa [heq]
  rw [heq]
  obtain ⟨hreported, -, hof⟩ := deployment?_eq_some.mp hfind
  obtain ⟨hwasopen, -⟩ := otaTransitionAllowed_iff.mp hallowed
  intro row hrow hopen
  dsimp only at hrow
  obtain ⟨old, hold, rfl⟩ := Table.mem_update.mp hrow
  by_cases hid : old.id = reported.id
  · obtain rfl := s.deployments.eq_of_key_eq hold hreported hid
    obtain ⟨command, hcommand, hname⟩ := hnamed old hold hwasopen
    rw [if_pos (by simp [(isOf_iff.mp hof).1])] at hopen ⊢
    refine ⟨command, (command_of_reported hordered hclear).mpr ⟨hcommand, fun hended => ?_⟩, hname⟩
    exact absurd (hopen.symm.trans hended) Bool.false_ne_true
  · rw [if_neg (by simp [hid])] at hopen ⊢
    obtain ⟨command, hcommand, hname⟩ := hnamed old hold hopen
    refine ⟨command, (command_of_reported hordered hclear).mpr ⟨hcommand, fun _ _ _ hsame => ?_⟩, hname⟩
    rw [hname] at hsame
    exact hid (Option.some.inj ((asI64_of_range (hordered.range old hold)).symm.trans hsame))

theorem Named.withShadows (hnamed : s.Named) (hordered : s.Ordered) (operation : ShadowOperation)
    (hkeeps : ∀ command, operation.otaAfter command = command) :
    (s.withShadows (operation.run s.shadows tenant device)).Named := by
  cases hrun : operation.run s.shadows tenant device with
  | error e => exact hnamed
  | ok result =>
    intro row hrow hopen
    obtain ⟨command, hcommand, hname⟩ := hnamed row hrow hopen
    refine ⟨command, ?_, hname⟩
    have hcommands :=
      (otaCommand_of_run hordered.consistent (fun _ => hkeeps none) hrun).2
    rw [FirmwareStore.withShadows, hcommands, hkeeps, ite_self]
    exact hcommand

theorem named_reset_iff (hnamed : s.Named) (hordered : s.Ordered) {now : ℤ} :
    (s.withShadows (s.shadows.reset tenant device now)).Named ↔
      s.SparesRunning (.reset tenant device now) := by
  cases hrun : s.shadows.reset tenant device now with
  | error e => exact ⟨fun _ _ => ⟨e, hrun⟩, fun _ => hnamed⟩
  | ok result =>
    have hreset : run (.reset now) s.shadows tenant device = .ok result := hrun
    have hcommands := (otaCommand_of_run hordered.consistent (fun _ => rfl) hreset).2
    constructor
    · rintro hafter ⟨row, hrow, hof, hopen⟩
      obtain ⟨rfl, rfl⟩ := isOf_iff.mp hof
      obtain ⟨command, hcommand, -⟩ := hafter row hrow hopen
      rw [FirmwareStore.withShadows, hcommands, if_pos ⟨rfl, rfl⟩] at hcommand
      cases hcommand
    · intro hspares row hrow hopen
      have hother : ¬(tenant = row.tenantId ∧ device = row.deviceId) := by
        rintro ⟨rfl, rfl⟩
        obtain ⟨e, herror⟩ := hspares ⟨row, hrow, isOf_iff.mpr ⟨rfl, rfl⟩, hopen⟩
        cases hrun.symm.trans herror
      rw [FirmwareStore.withShadows, hcommands, if_neg hother]
      exact hnamed row hrow hopen

theorem named_apply_iff (hnamed : s.Named) (hordered : s.Ordered) :
    (s.apply .turso step).Named ↔ s.SparesRunning step := by
  cases step with
  | triggerOta => exact iff_of_true (hnamed.triggerOta hordered) trivial
  | applyOtaStatus => exact iff_of_true (hnamed.writeOtaStatus hordered) trivial
  | updateDesired tenant device patch now =>
    refine iff_of_true ?_ trivial
    rw [apply]
    rcases s.updateDesired_cases tenant device patch now with heq | ⟨hkeeps, heq⟩
    · rwa [heq]
    · rw [heq]
      exact hnamed.withShadows hordered _ hkeeps
  | updateReported tenant device patch now =>
    exact iff_of_true
      (hnamed.withShadows hordered (.updateReported patch now) fun _ => rfl) trivial
  | reset => exact named_reset_iff hnamed hordered
  | delete tenant firmwareId =>
    refine iff_of_true ?_ trivial
    simp only [apply, delete]
    split
    next => exact hnamed
    next =>
      split_ifs <;> exact hnamed

/-- Over the Turso adapter every deployment that still runs is named by the command of its
device, as long as no reset of a device with a running deployment commits; such a reset, and
no other step, ends it. -/
theorem running_named_iff {store : Store} {firmware : Table FirmwareRow FirmwareRow.id}
    {shadows : Shadows} {steps : List FirmwareStep}
    (hcreated : ∀ row ∈ shadows, ∃ now, row = Shadows.created row.tenantId row.deviceId now)
    (h : ((machine .turso).restrict SparesRunning).Run (start store firmware shadows) steps s) :
    s.Named ∧ ∀ step, s.enabled .turso step → ((s.apply .turso step).Named ↔ s.SparesRunning step) := by
  obtain ⟨hordered, hnamed⟩ : s.Ordered ∧ s.Named := by
    refine h.invariant (I := fun s => s.Ordered ∧ s.Named) (fun s step hi henabled => ?_)
      ⟨ordered_start hcreated, fun _ hrow => absurd hrow (Table.not_mem_empty _)⟩
    exact ⟨hi.1.preserved (apply_effect henabled.1), (named_apply_iff hi.2 hi.1).mpr henabled.2⟩
  exact ⟨hnamed, fun step _ => named_apply_iff hnamed hordered⟩

/-- A deployment is pending, and after a reset no command is left to name it. -/
theorem reset_unnames : ∃ s row, (machine .turso).Run sampleStart
    [.triggerOta "tenant" "device" 1 "" 1 1000 1000, .reset "tenant" "device" 2000] s ∧
    row ∈ s.deployments ∧ row.status = "pending" ∧ row.isTerminal = false ∧
    s.shadows.otaCommand row.tenantId row.deviceId = none := by
  refine ⟨_, ⟨1, "tenant", "device", 1, "pending", none, 1, none⟩,
    .cons ⟨by decide, by decide⟩ (.cons trivial (.nil _)), ?_, rfl, ?_, ?_⟩
  all_goals decide +kernel

/-- The pending deployment is named before the reset, which is what the guard refuses. -/
theorem running_named_iff_pending : ∃ s, (machine .turso).Run sampleStart
    [.triggerOta "tenant" "device" 1 "" 1 1000 1000] s ∧ s.Named ∧
    ((s.apply .turso (.reset "tenant" "device" 2000)).Named ↔
      s.SparesRunning (.reset "tenant" "device" 2000)) := by
  have hrun : ((machine .turso).restrict SparesRunning).Run sampleStart
      [.triggerOta "tenant" "device" 1 "" 1 1000 1000] _ :=
    .cons ⟨⟨by decide, by decide⟩, trivial⟩ (.nil _)
  obtain ⟨hnamed, hstep⟩ := running_named_iff sampleStart_created hrun
  exact ⟨_, hrun.of_restrict, hnamed, hstep _ trivial⟩

end FirmwareStore

end Extrittio
