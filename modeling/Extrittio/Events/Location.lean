import Extrittio.Contract.Canonical
import Extrittio.Events.Ingress

/-!
The latest location of a device, and of many devices at once. One device's query
takes the binding from the contract that the application decoded; the batch query
reads the bindings out of the stored documents.
-/
namespace Extrittio

open Relational

def rowDatetime (micros : ℤ) : Except PersistenceError ℤ :=
  if inDateRange (datetime micros) then .ok (datetime micros)
  else .error (.corruptData s!"invalid UTC timestamp in database: {micros}")

structure DeviceLocationQuery where
  contractId : String
  streamKey : String
  latitudePath : String
  longitudePath : String
  since : ℤ
  now : ℤ
  deriving DecidableEq

structure DeviceLocationRecord where
  contractId : String
  eventId : String
  occurredAt : ℤ
  expiresAt : ℤ
  latitude : ℚ
  longitude : ℚ
  deriving DecidableEq

structure LocatedDeviceRecord where
  deviceId : String
  location : DeviceLocationRecord
  deriving DecidableEq

structure PositionRow where
  deviceId : String
  contractId : String
  eventId : String
  occurredAt : ℤ
  expiresAt : ℤ
  latitude : ℚ
  longitude : ℚ
  deriving DecidableEq

namespace PositionRow

def stamp (row : PositionRow) : ℤ ×ₗ String := toLex (row.occurredAt, row.eventId)

def record (row : PositionRow) : Except PersistenceError DeviceLocationRecord := do
  let occurredAt ← rowDatetime row.occurredAt
  let expiresAt ← rowDatetime row.expiresAt
  return ⟨row.contractId, row.eventId, occurredAt, expiresAt, row.latitude, row.longitude⟩

end PositionRow

/-- `CASE value_type WHEN 'float64' THEN .. WHEN 'int64' THEN CAST(.. AS REAL) END`. -/
def ContractCodec.coordinate (codec : ContractCodec) : MetricValue → Option ℚ
  | .float64 value => some value
  | .int64 value => some (codec.floatOfInt value)
  | _ => none

/-- `json_extract` with a path of member names; a null is NULL. -/
def jsonExtract (document : Json) (path : List String) : Option Json :=
  (path.foldlM (fun (value : Json) name => value.get name) document).filter (· ≠ .null)

namespace Store

variable (s : Store) (codec : ContractCodec)

/-- A coordinate of an event. The join is on the sample's primary key, which the
conditions on stream and field complete. -/
def coordinateOf (e : EventRow) (streamKey fieldPath : String) : Option ℚ :=
  ((s.samples.find? (e.id, streamKey, fieldPath)).filter fun r =>
    r.tenantId = e.tenantId && r.deviceId = e.deviceId && r.occurredAt = e.occurredAt).bind
      fun r => codec.coordinate r.value

/-- What both queries select of an event: the assignment is to its contract, both
coordinates are numbers and within bounds. -/
def positionOf (e : EventRow) (streamKey latitudePath longitudePath : String) (expiresAt : ℤ) :
    Option PositionRow := do
  let assignment ← s.assignments.find? (e.tenantId, e.deviceId)
  if assignment.desiredContractId ≠ e.contractId then none
  let latitude ← s.coordinateOf codec e streamKey latitudePath
  let longitude ← s.coordinateOf codec e streamKey longitudePath
  if latitude < -90 ∨ 90 < latitude ∨ longitude < -180 ∨ 180 < longitude then none
  return ⟨e.deviceId, e.contractId, e.id, e.occurredAt, expiresAt, latitude, longitude⟩

def locationRow (tenant device : String) (query : DeviceLocationQuery) (e : EventRow) :
    Option PositionRow :=
  let since := timestampMicros query.since
  let now := timestampMicros query.now
  if e.tenantId = tenant ∧ e.deviceId = device ∧ e.contractId = query.contractId ∧
      since < e.occurredAt ∧ e.occurredAt ≤ now then
    s.positionOf codec e query.streamKey query.latitudePath query.longitudePath
      (e.occurredAt + (now - since))
  else none

/-- `DeviceEventRepository::latest_location`: the row that is last by time and event id. -/
def latestLocation (tenant device : String) (query : DeviceLocationQuery) :
    Except PersistenceError (Option DeviceLocationRecord) :=
  let positions := s.events.rows.filterMap (s.locationRow codec tenant device query)
  match (orderBy PositionRow.stamp positions).getLast? with
  | none => .ok none
  | some row => row.record.map some

/-- The rows of `positions` in the batch query. The freshness limit is an integer in
every contract. -/
def locationsRow (tenant : String) (deviceIds : List String) (now : ℤ) (e : EventRow) :
    Option PositionRow := do
  if ¬(e.tenantId = tenant ∧ e.deviceId ∈ deviceIds ∧ e.occurredAt ≤ now) then none
  let c ← s.contract? e.tenantId e.deviceId e.contractId
  let maxAgeMs ← (jsonExtract c.document ["location", "maxAgeMs"]).bind Json.asI64
  if ¬now - maxAgeMs * 1000 < e.occurredAt then none
  if jsonExtract c.document ["deviceId"] ≠ some (.string e.deviceId) ∨
      jsonExtract c.document ["location", "coordinateSystem"] ≠ some (.string "wgs84") ∨
      jsonExtract c.document ["location", "unit"] ≠ some (.string "degrees") then none
  let streamKey ← (jsonExtract c.document ["location", "stream"]).bind Json.asStr
  let latitudePath ← (jsonExtract c.document ["location", "latitudePath"]).bind Json.asStr
  let longitudePath ← (jsonExtract c.document ["location", "longitudePath"]).bind Json.asStr
  s.positionOf codec e streamKey latitudePath longitudePath (e.occurredAt + maxAgeMs * 1000)

/-- `DeviceEventRepository::latest_locations`: per device the row of rank one, by device. -/
def latestLocations (tenant : String) (deviceIds : List String) (now : ℤ) :
    Except PersistenceError (List LocatedDeviceRecord) :=
  if deviceIds.isEmpty then .ok []
  else
    let positions := s.events.rows.filterMap
      (s.locationsRow codec tenant deviceIds (timestampMicros now))
    let ranked := (groupBy PositionRow.deviceId positions).filterMap fun group =>
      (orderBy PositionRow.stamp group.2).getLast?
    ranked.mapM fun row => do
      let location ← row.record
      return ⟨row.deviceId, location⟩

end Store

namespace EventApplication

/-- The start of the freshness window, if it is in the calendar. -/
def freshSince (now : ℤ) (maxAgeMs : ℕ) : Option ℤ :=
  if (maxAgeMs : ℤ) ≤ i64Max then checkedSub now (maxAgeMs * 1000000) else none

def latestLocation (codec : ContractCodec) (s : Store) (clock : ℤ) (tenant device : String) :
    Except ApplicationError (Option DeviceLocationRecord) := do
  let some assigned := s.assignedContract tenant device
    | throw (.notFound s!"Device '{device}' has no assigned contract")
  let contract ← (codec.fromValue assigned.document).mapError fun e =>
    .internal s!"Stored device contract is invalid: {e}"
  if contract.deviceId ≠ device then throw (.internal "Stored contract identity mismatch")
  let some binding := contract.location | return none
  let some since := freshSince clock binding.maxAgeMs
    | throw (.internal "Location freshness is outside the supported range")
  (s.latestLocation codec tenant device ⟨assigned.id, binding.stream, binding.latitudePath,
    binding.longitudePath, since, clock⟩).mapError .persistence

end EventApplication

end Extrittio
