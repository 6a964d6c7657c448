import Extrittio.Contract.Validation
import Extrittio.Events.Ingress
import Extrittio.Shadows

/-!
Firmware deployments. A deployment is a row that a device moves forward by its
reports, and a command in the desired state of the device's shadow that stays
there while the deployment runs. Both adapters run the same statements; they
differ in how a report without a shadow and the deletion of a firmware end.
-/
namespace Extrittio

open Relational

structure OtaStatusUpdate where
  deploymentId : ℤ
  firmwareUpdateId : Option ℤ
  status : String
  errorMessage : Option String
  completedAt : Option ℤ
  deriving DecidableEq

def otaStatusIsTerminal (status : String) : Bool :=
  eqIgnoreAsciiCase status "success" || eqIgnoreAsciiCase status "failed"

/-- The stages of a deployment; both ends are the last stage. -/
def otaRank (status : String) : Option ℕ :=
  [("pending", 0), ("downloading", 1), ("verifying", 2), ("installing", 3), ("rebooting", 4),
    ("success", 5), ("failed", 5)].lookup status

/-- Only forward transitions are accepted; terminal deployments are immutable. -/
def otaTransitionAllowed (previous next : String) : Bool :=
  !otaStatusIsTerminal previous &&
    match otaRank previous, otaRank next with
    | some a, some b => a ≤ b
    | _, _ => false

/-- OTA requires an assignment matching the artifact's immutable revision. -/
def otaRevisionMatches (assigned : Option String) (artifact : String) : Bool :=
  assigned.any fun assigned => assigned ≠ "" && assigned = artifact

def validOtaArtifact (version : String) (hash : Option String) (url : String) : Bool :=
  version ≠ "" && version.utf8ByteSize ≤ 63 && url.utf8ByteSize ≤ 1023 &&
    ("https://".toList.isPrefixOf url.toList || "http://".toList.isPrefixOf url.toList) &&
    hash.any fun hash => hash.utf8ByteSize = 64 && hash.toList.all Blueprint.isHexDigit

def PreparedOtaArtifact.prepare (version : String) (hash : Option String)
    (storedUrl grantUrl : String) : Option PreparedOtaArtifact :=
  let url := if "https://".toList.isPrefixOf storedUrl.toList then storedUrl else grantUrl
  if validOtaArtifact version hash url then hash.map fun hash => ⟨version, url, hash⟩ else none

inductive TriggerOtaOutcome where
  | deviceNotFound
  | firmwareNotFound
  | incompatible
  | invalidArtifact
  | ready (delta : Json) (version : ℤ)
  deriving DecidableEq

/-- `firmware_updates`. -/
structure FirmwareRow where
  id : ℤ
  tenantId : String
  version : String
  url : String
  sha256 : Option String
  blueprintRevisionId : String
  deriving DecidableEq

/-- `ota_deployments`. -/
structure OtaDeploymentRow where
  id : ℤ
  tenantId : String
  deviceId : String
  firmwareUpdateId : ℤ
  status : String
  errorMessage : Option String
  initiatedAt : ℤ
  completedAt : Option ℤ
  deriving DecidableEq

def OtaDeploymentRow.isOf (tenant device : String) (row : OtaDeploymentRow) : Bool :=
  row.tenantId = tenant && row.deviceId = device

def OtaDeploymentRow.isTerminal (row : OtaDeploymentRow) : Bool := otaStatusIsTerminal row.status

structure FirmwareStore where
  store : Store
  firmware : Table FirmwareRow FirmwareRow.id
  deployments : Table OtaDeploymentRow OtaDeploymentRow.id
  shadows : Shadows

inductive FirmwareAdapter where
  | turso
  | postgres
  deriving DecidableEq

namespace FirmwareStore

def firmware? (s : FirmwareStore) (tenant : String) (id : ℤ) : Option FirmwareRow :=
  (s.firmware.find? id).filter fun r => r.tenantId = tenant

def deployment? (s : FirmwareStore) (tenant device : String) (id : ℤ) : Option OtaDeploymentRow :=
  (s.deployments.find? id).filter (OtaDeploymentRow.isOf tenant device)

def deploymentsOf (s : FirmwareStore) (tenant device : String) : List OtaDeploymentRow :=
  s.deployments.rows.filter (OtaDeploymentRow.isOf tenant device)

/-- `status='failed'` on the deployments of the device that still run. -/
def superseded (s : FirmwareStore) (tenant device : String) (now : ℤ) :
    Table OtaDeploymentRow OtaDeploymentRow.id :=
  s.deployments.update
    (fun r => r.isOf tenant device && (r.status ≠ "success" && r.status ≠ "failed"))
    (fun r => { r with
      status := "failed"
      errorMessage := some "Superseded by a new deployment"
      completedAt := some (timestampMicros now) })
    fun _ => rfl

/-- Starts a deployment under an id that the database chose, and puts its command
into the desired state. -/
def triggerOta (s : FirmwareStore) (tenant device : String) (firmwareId : ℤ) (publicUrl : String)
    (deploymentId now patchedAt : ℤ) : Except PersistenceError (FirmwareStore × TriggerOtaOutcome) :=
  match s.store.device? tenant device, s.firmware? tenant firmwareId with
  | none, _ => .ok (s, .deviceNotFound)
  | some _, none => .ok (s, .firmwareNotFound)
  | some _, some firmware =>
    if otaRevisionMatches ((s.store.assignedContract tenant device).map (·.blueprintRevisionId))
        firmware.blueprintRevisionId = false then
      .ok (s, .incompatible)
    else
      match PreparedOtaArtifact.prepare firmware.version firmware.sha256 firmware.url publicUrl,
          s.shadows.getFrom tenant device with
      | none, _ => .ok (s, .invalidArtifact)
      | some _, none => .error .notFound
      | some artifact, some shadow =>
        match (s.superseded tenant device now).insert?
            ⟨deploymentId, tenant, device, firmwareId, "pending", none, timestampMicros now, none⟩ with
        | none => .error (.uniqueViolation "ota_deployments")
        | some deployments => do
          let patch := artifact.desiredPatch firmwareId deploymentId
          let updated ← Shadows.corrupt (applyDesiredPatch shadow patch patchedAt)
          return ({ s with deployments, shadows := s.shadows.store tenant updated },
            .ready updated.delta updated.version)

def reported (update : OtaStatusUpdate) (row : OtaDeploymentRow) : OtaDeploymentRow :=
  { row with
    status := update.status
    errorMessage := update.errorMessage
    completedAt := update.completedAt.map timestampMicros }

/-- Writes an accepted report; a terminal one also clears the deployment's command. -/
def writeOtaStatus (s : FirmwareStore) (tenant device : String) (update : OtaStatusUpdate) (now : ℤ) :
    Except PersistenceError (FirmwareStore × Bool) :=
  match s.deployment? tenant device update.deploymentId with
  | none => .ok (s, false)
  | some row =>
    if update.firmwareUpdateId ≠ some row.firmwareUpdateId ∨
        otaTransitionAllowed row.status update.status = false then
      .ok (s, false)
    else do
      let deployments := s.deployments.update (fun r => r.tenantId = tenant && r.id = row.id)
        (reported update) fun _ => rfl
      let shadows ← if otaStatusIsTerminal update.status then
          (s.shadows.finishOta tenant device row.id now).map Prod.fst
        else .ok s.shadows
      return ({ s with deployments, shadows }, true)

/-- The Postgres adapter locks the shadow before it reads the deployment. -/
def applyOtaStatus (adapter : FirmwareAdapter) (s : FirmwareStore) (tenant device : String)
    (update : OtaStatusUpdate) (now : ℤ) : Except PersistenceError (FirmwareStore × Bool) :=
  match adapter with
  | .turso => s.writeOtaStatus tenant device update now
  | .postgres =>
    match s.shadows.getFrom tenant device with
    | none => .error .notFound
    | some _ => s.writeOtaStatus tenant device update now

/-- Deletes a firmware. Its deployments refer to it: the Turso schema refuses, the
Postgres schema cascades. -/
def delete (adapter : FirmwareAdapter) (s : FirmwareStore) (tenant : String) (firmwareId : ℤ) :
    Except PersistenceError (FirmwareStore × Bool) :=
  match s.firmware? tenant firmwareId with
  | none => .ok (s, false)
  | some _ =>
    let firmware := s.firmware.filter fun r => r.id ≠ firmwareId
    match adapter with
    | .turso =>
      if s.deployments.rows.any fun r => r.tenantId = tenant && r.firmwareUpdateId = firmwareId then
        .error (.foreignKeyViolation "foreign_key")
      else .ok ({ s with firmware }, true)
    | .postgres =>
      .ok ({ s with
        firmware
        deployments := s.deployments.filter fun r => r.firmwareUpdateId ≠ firmwareId }, true)

end FirmwareStore

/-- The user-facing shadow operations, after the permission check. -/
def ShadowApplication.updateDesired (shadows : Shadows) (tenant device : String)
    (patch : OrderedMap String Json) (now : ℤ) : Except ApplicationError (Shadows × ShadowRecord) := do
  if (patch.get? "ota").isSome then
    throw (.invalidInput "The ota shadow key is reserved; use the firmware deployment endpoint")
  match ← liftPersistence (shadows.updateDesired tenant device patch now) with
  | (shadows, some shadow) => return (shadows, shadow)
  | (_, none) => throw (.notFound s!"Shadow for device '{device}' not found")

/-! Statuses. -/

theorem otaStatusIsTerminal_failed : otaStatusIsTerminal "failed" := by decide

theorem otaStatusIsTerminal_pending : otaStatusIsTerminal "pending" = false := by decide

theorem mem_of_otaRank {status : String} {rank : ℕ} (h : otaRank status = some rank) :
    (status, rank) ∈ [("pending", 0), ("downloading", 1), ("verifying", 2), ("installing", 3),
      ("rebooting", 4), ("success", 5), ("failed", 5)] := by
  obtain ⟨_, _, heq, -⟩ := List.lookup_eq_some_iff.mp h
  rw [heq]
  simp

theorem otaRank_facts {status : String} {rank : ℕ} (h : otaRank status = some rank) :
    rank ≤ 5 ∧ (otaStatusIsTerminal status ↔ status = "success" ∨ status = "failed") := by
  have hall : ∀ entry ∈ [("pending", 0), ("downloading", 1), ("verifying", 2), ("installing", 3),
      ("rebooting", 4), ("success", 5), ("failed", 5)], entry.2 ≤ 5 ∧
      (otaStatusIsTerminal entry.1 ↔ entry.1 = "success" ∨ entry.1 = "failed") := by
    decide
  exact hall _ (mem_of_otaRank h)

theorem otaTransitionAllowed_iff {previous next : String} :
    otaTransitionAllowed previous next ↔ otaStatusIsTerminal previous = false ∧
      ∃ a b, otaRank previous = some a ∧ otaRank next = some b ∧ a ≤ b := by
  unfold otaTransitionAllowed
  cases otaRank previous <;> cases otaRank next <;> simp

end Extrittio
