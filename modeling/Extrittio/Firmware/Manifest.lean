import Extrittio.Firmware.Deployments
import Extrittio.NativeOta.Calls

/-!
The manifest of a deployment on its way: the server puts it into the desired state, the device
parses it and builds its status objects from what it parsed, and the server reads these back.
-/
namespace Extrittio

open PreparedOtaArtifact

def tryI32 (id : ℤ) : Option ℤ := if -2147483648 ≤ id ∧ id ≤ 2147483647 then some id else none

namespace FirmwareReportApplication

variable (toLowercase : String → String)

def statusUpdate (reported : Json) (now : ℤ) : Option OtaStatusUpdate := do
  let ota ← (← reported.get "ota").asObject
  let status := toLowercase (← (ota.get? "status").bind Json.asStr)
  let deploymentId ← (((ota.get? "deployment_id").bind Json.asI64).bind tryI32).filter fun id => 0 < id
  return {
    deploymentId
    firmwareUpdateId := ((ota.get? "firmware_update_id").bind Json.asI64).bind tryI32
    status
    errorMessage := (ota.get? "error").bind Json.asStr
    completedAt := if otaStatusIsTerminal status then some now else none }

/-- The clock is read here and again when the update is written. -/
def processReport (adapter : FirmwareAdapter) (s : FirmwareStore) (tenant device : String)
    (reported : Json) (now writtenAt : ℤ) : Except PersistenceError FirmwareStore :=
  match statusUpdate toLowercase reported now with
  | none => .ok s
  | some update => (s.applyOtaStatus adapter tenant device update writtenAt).map Prod.fst

end FirmwareReportApplication

def IsRowId (id : ℤ) : Prop := 0 < id ∧ id ≤ 2147483647

theorem IsRowId.asI64 {id : ℤ} (h : IsRowId id) : Json.asI64 (.integer id) = some id :=
  if_pos ⟨by have := h.1; omega, by have := h.2; omega⟩

theorem IsRowId.tryI32 {id : ℤ} (h : IsRowId id) : tryI32 id = some id :=
  if_pos ⟨by have := h.1; omega, h.2⟩

def OtaPayload.statusJson (payload : OtaPayload) (status : String) (error : Option String) : Json :=
  buildStatusJson status payload.firmwareVersion payload.firmwareUpdateId payload.deploymentId error

section

variable {artifact : PreparedOtaArtifact} {version url : String} {hash : Option String}
  {firmwareId deploymentId now : ℤ} {storedUrl grantUrl : String} {command reported : Json}

theorem of_prepare
    (h : prepare version hash storedUrl grantUrl = some artifact) :
    artifact.version = version ∧ hash = some artifact.sha256 ∧
      artifact.url = (if "https://".toList.isPrefixOf storedUrl.toList then storedUrl else grantUrl) ∧
      validOtaArtifact artifact.version (some artifact.sha256) artifact.url := by
  unfold prepare at h
  dsimp only at h
  generalize (if "https://".toList.isPrefixOf storedUrl.toList then storedUrl else grantUrl) = url at h ⊢
  split_ifs at h with hvalid
  obtain ⟨text, rfl, rfl⟩ := Option.map_eq_some_iff.mp h
  exact ⟨rfl, rfl, rfl, hvalid⟩

/-- The device accepts what the server writes for a valid artifact. -/
theorem fromJson_desiredPatch (hfirmware : IsRowId firmwareId) (hdeployment : IsRowId deploymentId)
    (hvalid : validOtaArtifact artifact.version (some artifact.sha256) artifact.url)
    (h : (artifact.desiredPatch firmwareId deploymentId).get? "ota" = some command) :
    OtaPayload.fromJson command =
      some ⟨deploymentId, artifact.version, artifact.url, some firmwareId, some artifact.sha256⟩ := by
  rw [desiredPatch, OrderedMap.get?_ofList] at h
  cases h
  simp [OtaPayload.fromJson, OrderedMap.get?_ofList, List.lookup, Json.asStr, hfirmware.asI64,
    hdeployment.asI64, hvalid, hfirmware.1, hdeployment.1]

/-- The server reads a status object as the deployment and firmware it was built for. -/
theorem statusUpdate_of_statusJson {payload : OtaPayload} (hdeployment : IsRowId payload.deploymentId)
    (hfirmware : IsRowId firmwareId) (hid : payload.firmwareUpdateId = some firmwareId)
    (toLowercase : String → String) {status : String} {error : Option String}
    (h : reported.get "ota" = some (payload.statusJson status error)) :
    FirmwareReportApplication.statusUpdate toLowercase reported now =
      some ⟨payload.deploymentId, some firmwareId, toLowercase status, error,
        if otaStatusIsTerminal (toLowercase status) then some now else none⟩ := by
  simp only [FirmwareReportApplication.statusUpdate, h, OtaPayload.statusJson, buildStatusJson, hid]
  cases error <;>
    simp [OrderedMap.get?_insert, OrderedMap.get?_ofList, List.lookup, Json.asStr, hfirmware.asI64,
      hdeployment.asI64, hfirmware.tryI32, hdeployment.tryI32,
      Option.filter_some, hdeployment.1]

end

namespace FirmwareStore

variable {s s' : FirmwareStore} {tenant device publicUrl : String}
  {firmwareId deploymentId now patchedAt version : ℤ} {delta : Json}

/-- The command in the desired state after a trigger is the one it wrote. -/
theorem otaCommand_of_applyDesiredPatch {shadows : Shadows} {artifact : PreparedOtaArtifact}
    {current updated : ShadowRecord} (hread : shadows.getFrom tenant device = some current)
    (h : applyDesiredPatch current (artifact.desiredPatch firmwareId deploymentId) patchedAt =
      .ok updated) :
    (shadows.store tenant updated).otaCommand tenant device =
      (artifact.desiredPatch firmwareId deploymentId).get? "ota" := by
  have hid : updated.deviceId = current.deviceId ∧ updated.desired =
      mergeJson (objectOrEmpty current.desired) (artifact.desiredPatch firmwareId deploymentId) := by
    obtain ⟨version, -, hpatched⟩ := of_bind_ok h
    cases hpatched
    exact ⟨rfl, rfl⟩
  rw [Shadows.otaCommand,
    Shadows.getFrom_store hread (hid.1.trans (Shadows.deviceId_of_getFrom hread)), Option.bind_some]
  show updated.desired.get "ota" = _
  rw [hid.2]
  exact Settings.get?_merged _

/-- A deployment that is ready has a command that the device parses into the firmware's version,
address and checksum under its two ids; and whatever the device reports of it is taken as a report
on this deployment of this firmware. -/
theorem manifest_round_trip (toLowercase : String → String) (hfirmware : IsRowId firmwareId)
    (hdeployment : IsRowId deploymentId)
    (h : s.triggerOta tenant device firmwareId publicUrl deploymentId now patchedAt =
      .ok (s', .ready delta version)) :
    ∃ firmware command payload, s.firmware? tenant firmwareId = some firmware ∧
      s'.shadows.otaCommand tenant device = some command ∧
      OtaPayload.fromJson command = some payload ∧
      payload = ⟨deploymentId, firmware.version,
        if "https://".toList.isPrefixOf firmware.url.toList then firmware.url else publicUrl,
        some firmwareId, firmware.sha256⟩ ∧
      ∀ status error reported, reported.get "ota" = some (payload.statusJson status error) →
        ∀ adapter t owner reporter readAt writtenAt,
          FirmwareReportApplication.processReport toLowercase adapter t owner reporter reported readAt
              writtenAt =
            (t.applyOtaStatus adapter owner reporter ⟨deploymentId, some firmwareId,
              toLowercase status, error, if otaStatusIsTerminal (toLowercase status) then some readAt
                else none⟩ writtenAt).map Prod.fst := by
  rcases s.triggerOta_cases tenant device firmwareId publicUrl deploymentId now patchedAt with
    ⟨-, hnot⟩ | ⟨firmware, artifact, current, updated, deployments, hfound, hprepare, hread, -,
      hpatch, hready⟩
  · exact absurd h (hnot s' delta version)
  cases hready.symm.trans h
  have hcommand := otaCommand_of_applyDesiredPatch hread hpatch
  obtain ⟨hversion, hhash, hurl, hvalid⟩ := of_prepare hprepare
  have hparsed := fromJson_desiredPatch hfirmware hdeployment hvalid rfl
  refine ⟨firmware, _, _, hfound, hcommand, hparsed, by rw [hversion, hhash, hurl], ?_⟩
  intro status error reported hreported adapter t owner reporter readAt writtenAt
  rw [FirmwareReportApplication.processReport,
    statusUpdate_of_statusJson hdeployment hfirmware rfl toLowercase hreported]

/-- The sample device is sent a firmware, and its report of a failed download is read. -/
theorem manifest_round_trip_sample : ∃ s' delta version command payload,
    sampleStart.triggerOta "tenant" "device" 1 "" 1 1000 1000 = .ok (s', .ready delta version) ∧
      s'.shadows.otaCommand "tenant" "device" = some command ∧
      OtaPayload.fromJson command = some payload ∧ payload.firmwareUrl = "https://firmware/1" ∧
      ∀ adapter t, FirmwareReportApplication.processReport id adapter t "tenant" "device"
          (.object [("ota", payload.statusJson "failed" (some "timeout"))]) 2000 2000 =
        (t.applyOtaStatus adapter "tenant" "device" ⟨1, some 1, "failed", some "timeout", some 2000⟩
          2000).map Prod.fst := by
  have hready : ∃ s' delta version,
      sampleStart.triggerOta "tenant" "device" 1 "" 1 1000 1000 = .ok (s', .ready delta version) :=
    ⟨_, _, _, rfl⟩
  obtain ⟨s', delta, version, hready⟩ := hready
  obtain ⟨firmware, command, payload, hfound, hcommand, hparsed, hpayload, hreports⟩ :=
    manifest_round_trip id ⟨by decide, by decide⟩ ⟨by decide, by decide⟩ hready
  cases hfound
  exact ⟨s', delta, version, command, payload, hready, hcommand, hparsed, by rw [hpayload]; rfl,
    fun adapter t => hreports "failed" (some "timeout") (.object [("ota", _)]) rfl adapter t _ _ _ _⟩

end FirmwareStore

end Extrittio
