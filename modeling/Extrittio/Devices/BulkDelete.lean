import Extrittio.Library.OrderBy
import Extrittio.Library.Referential
import Extrittio.Platform

/-!
Deleting devices in both adapters. The tables are those that carry the id of a device, with the
columns that their foreign keys read; the rest of a row is one column of content. Fleets, rules,
firmware and blueprint revisions are parents only, and nothing here deletes them.
-/
namespace Extrittio

open Referential Relational

inductive DeviceTable where
  | devices
  | deviceCertificates
  | deviceConfigs
  | deviceShadows
  | deviceLogs
  | commandHistory
  | otaDeployments
  | ruleCooldowns
  | alerts
  | deviceContracts
  | deviceContractAssignments
  | deviceEvents
  | deviceEventReceipts
  | deviceMetricSamples
  | deviceMetricRollupsHourly
  | ruleZoneEntries
  deriving DecidableEq

inductive DeviceColumn where
  | tenantId
  | id
  | deviceId
  | contractId
  | desiredContractId
  | activeContractId
  | eventId
  | content
  deriving DecidableEq

abbrev DeviceTableRow := Row DeviceColumn String

abbrev DeviceForeignKey := ForeignKey DeviceTable DeviceColumn

def DeviceTable.deviceColumn : DeviceTable → DeviceColumn
  | .devices => .id
  | _ => .deviceId

def DeviceTable.owner (t : DeviceTable) (r : DeviceTableRow) : Option String × Option String :=
  (r.get .tenantId, r.get t.deviceColumn)

/-- `NOT NULL`, of the columns that foreign keys read. -/
def DeviceTable.required : DeviceTable → List DeviceColumn
  | .devices => [.tenantId, .id]
  | .deviceContracts => [.tenantId, .deviceId, .id]
  | .deviceContractAssignments => [.tenantId, .deviceId, .desiredContractId]
  | .deviceEvents => [.tenantId, .deviceId, .id, .contractId]
  | .deviceMetricSamples => [.tenantId, .deviceId, .eventId]
  | _ => [.tenantId, .deviceId]

/-- `FOREIGN KEY (tenant_id, device_id) REFERENCES devices(tenant_id, id)`. -/
def tenantDeviceKey (onDelete : OnDelete) (t : DeviceTable) : DeviceForeignKey :=
  ⟨t, [.tenantId, .deviceId], .devices, [.tenantId, .id], onDelete⟩

/-- `FOREIGN KEY (device_id) REFERENCES devices(id) ON DELETE CASCADE`. -/
def deviceIdKey (t : DeviceTable) : DeviceForeignKey := ⟨t, [.deviceId], .devices, [.id], .cascade⟩

/-- `FOREIGN KEY (tenant_id, device_id, ...) REFERENCES device_contracts(tenant_id, device_id, id)`. -/
def contractKey (t : DeviceTable) (column : DeviceColumn) : DeviceForeignKey :=
  ⟨t, [.tenantId, .deviceId, column], .deviceContracts, [.tenantId, .deviceId, .id], .noAction⟩

/-- `FOREIGN KEY (tenant_id, device_id, event_id) REFERENCES device_events ON DELETE CASCADE`. -/
def sampleEventKey : DeviceForeignKey :=
  ⟨.deviceMetricSamples, [.tenantId, .deviceId, .eventId], .deviceEvents, [.tenantId, .deviceId, .id],
    .cascade⟩

def contractKeys : List DeviceForeignKey :=
  [contractKey .deviceContractAssignments .desiredContractId,
    contractKey .deviceContractAssignments .activeContractId,
    contractKey .deviceEvents .contractId, sampleEventKey]

/-- The embedded schema: alerts and deployments hold their device, cooldowns have no key. -/
def tursoSchema : Schema DeviceTable DeviceColumn where
  required := DeviceTable.required
  uniqueKeys := [(.devices, [.id])]
  foreignKeys :=
    [DeviceTable.deviceCertificates, .deviceConfigs, .deviceShadows, .deviceLogs, .commandHistory,
      .deviceContracts, .deviceContractAssignments, .deviceEvents, .deviceEventReceipts,
      .deviceMetricSamples, .deviceMetricRollupsHourly, .ruleZoneEntries].map
        (tenantDeviceKey .cascade) ++
      [DeviceTable.otaDeployments, .alerts].map (tenantDeviceKey .noAction) ++ contractKeys

/-- The server schema: every key to a device cascades. -/
def postgresSchema : Schema DeviceTable DeviceColumn where
  required := DeviceTable.required
  uniqueKeys := [(.devices, [.id])]
  foreignKeys :=
    [DeviceTable.alerts, .commandHistory, .deviceCertificates, .deviceConfigs,
      .deviceContractAssignments, .deviceContracts, .deviceEvents, .deviceLogs, .deviceMetricSamples,
      .deviceMetricRollupsHourly, .deviceEventReceipts, .deviceShadows, .otaDeployments, .ruleCooldowns,
      .ruleZoneEntries].map (tenantDeviceKey .cascade) ++
      [DeviceTable.alerts, .commandHistory, .deviceCertificates, .deviceConfigs, .deviceLogs,
        .deviceShadows, .otaDeployments, .ruleCooldowns].map deviceIdKey ++ contractKeys

abbrev TursoDevices := Database String tursoSchema

abbrev PostgresDevices := Database String postgresSchema

namespace TursoDevices

/-- A rejected statement rolls the transaction back. -/
def execute (db : TursoDevices) (t : DeviceTable) (tenant id : String) :
    Except PersistenceError (TursoDevices × ℕ) :=
  (db.delete t fun r => t.owner r = (some tenant, some id)).mapError
    fun _ => .foreignKeyViolation "foreign_key"

def deleteDevice (db : TursoDevices) (tenant id : String) :
    Except PersistenceError (TursoDevices × ℕ) := do
  let (db, _) ← db.execute .deviceContractAssignments tenant id
  let (db, _) ← db.execute .deviceEvents tenant id
  db.execute .devices tenant id

def deleteNext (tenant : String) (acc : TursoDevices × ℕ) (id : String) :
    Except PersistenceError (TursoDevices × ℕ) := do
  let (db, deleted) ← deleteDevice acc.1 tenant id
  return (db, acc.2 + deleted)

/-- The ids are collected into an ordered set. -/
def bulkDelete (db : TursoDevices) (tenant : String) (deviceIds : List String) :
    Except PersistenceError (TursoDevices × ℕ) :=
  (orderBy id deviceIds).dedup.foldlM (deleteNext tenant) (db, 0)

end TursoDevices

namespace PostgresDevices

def bulkDelete (db : PostgresDevices) (tenant : String) (deviceIds : List String) :
    Except PersistenceError (PostgresDevices × ℕ) :=
  if deviceIds.isEmpty then .ok (db, 0)
  else (db.delete .devices fun r =>
      r.get .tenantId = some tenant && deviceIds.any fun id => r.get .id = some id).mapError
    fun _ => .foreignKeyViolation "database.constraint"

end PostgresDevices

end Extrittio
