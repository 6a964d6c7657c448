import Extrittio.Events.Location

/-!
The two location queries agree: the batch query finds for every device what the
device's own query finds. What separates them, the binding that is read out of the
stored document, is the same on every document that a contract was written to.
-/
namespace Extrittio

open Relational Json List Option Relational.Table EventApplication

def bindingMembers : List String :=
  ["maxAgeMs", "coordinateSystem", "unit", "stream", "latitudePath", "longitudePath"]

/-- What the batch query extracts of a document are the members of the contract that the
application decodes it to. -/
structure Reads (document : Json) (contract : CompiledContractDocument) : Prop where
  deviceId : jsonExtract document ["deviceId"] = some (.string contract.deviceId)
  location : ∀ name ∈ bindingMembers, jsonExtract document ["location", name] =
    contract.location.bind fun binding => binding.toValue.get name

/-- The freshness limit reaches from an instant in both directions within the calendar. -/
def RepresentableAge (now : ℤ) (maxAgeMs : ℕ) : Prop :=
  inDateRange (now - maxAgeMs * 1000000) = true ∧ inDateRange (now + maxAgeMs * 1000000) = true

/-- The contract that is assigned to a device, as the application stores it: it belongs
to the device, names it, and has a freshness limit that is representable now. -/
structure Locatable (codec : ContractCodec) (s : Store) (now : ℤ) (tenant device : String)
    (row : ContractRow) (contract : CompiledContractDocument) : Prop where
  assigned : s.assignedContract tenant device = some row
  owner : row.deviceId = device
  decodes : codec.fromValue row.document = .ok contract
  reads : Reads row.document contract
  names : contract.deviceId = device
  age : ∀ binding, contract.location = some binding → RepresentableAge now binding.maxAgeMs

namespace CompiledLocation

variable (binding : CompiledLocation)

theorem get_toValue (name : String) : binding.toValue.get name =
    ([member "stream" (.string binding.stream),
      member "latitudePath" (.string binding.latitudePath),
      member "longitudePath" (.string binding.longitudePath),
      member "coordinateSystem" (.string binding.coordinateSystem.text),
      member "unit" (.string binding.unit.text),
      member "maxAgeMs" (.integer binding.maxAgeMs)].lookup name).join :=
  get_record (by simp [member]) name

theorem get_toValue_ne_null (name : String) : binding.toValue.get name ≠ some .null := by
  rw [get_toValue]
  intro hnull
  have hmem := (InOrder.lookup_eq_some_iff_of_nodup (by simp [member])).mp
    (join_eq_some_iff.mp hnull)
  simp [member] at hmem

end CompiledLocation

theorem reads_toValue (contract : CompiledContractDocument) : Reads contract.toValue contract := by
  have hget (name : String) : contract.toValue.get name = _ :=
    get_record (by simp [member, memberIfSome]) name
  constructor
  · simp [jsonExtract, hget, member, List.lookup]
  · intro name _
    have hlocation :
        contract.toValue.get "location" = contract.location.map CompiledLocation.toValue := by
      rw [hget]
      rfl
    have hextract : jsonExtract contract.toValue ["location", name] =
        ((contract.toValue.get "location").bind (get name)).filter (· ≠ .null) := by
      simp [jsonExtract]
    rw [hextract, hlocation]
    cases contract.location with
    | none => rfl
    | some binding =>
      show (binding.toValue.get name).filter _ = binding.toValue.get name
      cases hvalue : binding.toValue.get name with
      | none => rfl
      | some value =>
        have hne : value ≠ .null := fun h => binding.get_toValue_ne_null name (h ▸ hvalue)
        rw [filter_some, if_pos (decide_eq_true hne)]

theorem RepresentableAge.asI64_eq {now : ℤ} {maxAgeMs : ℕ} (h : RepresentableAge now maxAgeMs) :
    asI64 (.integer maxAgeMs) = some (maxAgeMs : ℤ) := by
  obtain ⟨hback, hahead⟩ := h
  unfold inDateRange at hback hahead
  rw [decide_eq_true_iff] at hback hahead
  exact if_pos (by omega)

theorem Reads.binding {document : Json} {contract : CompiledContractDocument}
    {binding : CompiledLocation} {now : ℤ} (h : Reads document contract)
    (hbinding : contract.location = some binding) (hage : RepresentableAge now binding.maxAgeMs) :
    (jsonExtract document ["location", "maxAgeMs"]).bind asI64 = some (binding.maxAgeMs : ℤ) ∧
    jsonExtract document ["location", "coordinateSystem"] = some (.string "wgs84") ∧
    jsonExtract document ["location", "unit"] = some (.string "degrees") ∧
    (jsonExtract document ["location", "stream"]).bind asStr = some binding.stream ∧
    (jsonExtract document ["location", "latitudePath"]).bind asStr = some binding.latitudePath ∧
    (jsonExtract document ["location", "longitudePath"]).bind asStr =
      some binding.longitudePath := by
  have hmember (name : String) (hname : name ∈ bindingMembers) :
      jsonExtract document ["location", name] = binding.toValue.get name := by
    rw [h.location name hname, hbinding, bind_some]
  rw [hmember "maxAgeMs" (by decide), hmember "coordinateSystem" (by decide),
    hmember "unit" (by decide), hmember "stream" (by decide), hmember "latitudePath" (by decide),
    hmember "longitudePath" (by decide)]
  simp only [binding.get_toValue]
  exact ⟨hage.asI64_eq, rfl, rfl, rfl, rfl, rfl⟩

namespace Store

variable {codec : ContractCodec} {s : Store} {now : ℤ} {tenant device : String} {e : EventRow}
  {row : PositionRow}

section

variable {streamKey latitudePath longitudePath : String} {expiresAt : ℤ}

theorem positionOf_eq_some_iff :
    s.positionOf codec e streamKey latitudePath longitudePath expiresAt = some row ↔
      (s.assignments.find? (e.tenantId, e.deviceId)).any (·.desiredContractId = e.contractId) ∧
      ∃ latitude longitude, s.coordinateOf codec e streamKey latitudePath = some latitude ∧
        s.coordinateOf codec e streamKey longitudePath = some longitude ∧
        ¬(latitude < -90 ∨ 90 < latitude ∨ longitude < -180 ∨ 180 < longitude) ∧
        row = ⟨e.deviceId, e.contractId, e.id, e.occurredAt, expiresAt, latitude, longitude⟩ := by
  simp only [positionOf, bind_eq_bind, bind_none, bind_eq_some_iff,
    ite_none_left_eq_some, Option.pure_def, Option.some.injEq, ne_eq, not_not,
    Option.any_eq_true, decide_eq_true_eq]
  constructor
  · rintro ⟨assignment, hassignment, hcontract, latitude, hlatitude, longitude, hlongitude, hbounds,
      heq⟩
    exact ⟨⟨assignment, hassignment, hcontract⟩, latitude, longitude, hlatitude, hlongitude, hbounds,
      heq.symm⟩
  · rintro ⟨⟨assignment, hassignment, hcontract⟩, latitude, longitude, hlatitude, hlongitude, hbounds,
      heq⟩
    exact ⟨assignment, hassignment, hcontract, latitude, hlatitude, longitude, hlongitude, hbounds,
      heq.symm⟩

theorem of_positionOf
    (h : s.positionOf codec e streamKey latitudePath longitudePath expiresAt = some row) :
    (s.assignments.find? (e.tenantId, e.deviceId)).any (·.desiredContractId = e.contractId) ∧
      row.deviceId = e.deviceId ∧ row.occurredAt = e.occurredAt ∧ row.expiresAt = expiresAt := by
  obtain ⟨hassigned, latitude, longitude, -, -, -, rfl⟩ := positionOf_eq_some_iff.mp h
  exact ⟨hassigned, rfl, rfl, rfl⟩

theorem locationRow_eq_some_iff {query : DeviceLocationQuery} :
    s.locationRow codec tenant device query e = some row ↔
      (e.tenantId = tenant ∧ e.deviceId = device ∧ e.contractId = query.contractId ∧
        timestampMicros query.since < e.occurredAt ∧ e.occurredAt ≤ timestampMicros query.now) ∧
      s.positionOf codec e query.streamKey query.latitudePath query.longitudePath
        (e.occurredAt + (timestampMicros query.now - timestampMicros query.since)) = some row := by
  simp only [locationRow, ite_none_right_eq_some]

theorem locationsRow_eq_some_iff {deviceIds : List String} :
    s.locationsRow codec tenant deviceIds now e = some row ↔
      (e.tenantId = tenant ∧ e.deviceId ∈ deviceIds ∧ e.occurredAt ≤ now) ∧
      ∃ c, s.contract? e.tenantId e.deviceId e.contractId = some c ∧
      ∃ maxAgeMs, (jsonExtract c.document ["location", "maxAgeMs"]).bind asI64 = some maxAgeMs ∧
        now - maxAgeMs * 1000 < e.occurredAt ∧
      ¬(jsonExtract c.document ["deviceId"] ≠ some (.string e.deviceId) ∨
        jsonExtract c.document ["location", "coordinateSystem"] ≠ some (.string "wgs84") ∨
        jsonExtract c.document ["location", "unit"] ≠ some (.string "degrees")) ∧
      ∃ streamKey, (jsonExtract c.document ["location", "stream"]).bind asStr = some streamKey ∧
      ∃ latitudePath,
        (jsonExtract c.document ["location", "latitudePath"]).bind asStr = some latitudePath ∧
      ∃ longitudePath,
        (jsonExtract c.document ["location", "longitudePath"]).bind asStr = some longitudePath ∧
      s.positionOf codec e streamKey latitudePath longitudePath
        (e.occurredAt + maxAgeMs * 1000) = some row := by
  simp only [locationsRow, bind_eq_bind, bind_none,
    bind_eq_some_iff (f := fun _ => _), ite_none_left_eq_some, not_not]

end

end Store

/-- The record of a row whose instants are in the calendar. -/
def PositionRow.located (row : PositionRow) : LocatedDeviceRecord :=
  ⟨row.deviceId, ⟨row.contractId, row.eventId, datetime row.occurredAt, datetime row.expiresAt,
    row.latitude, row.longitude⟩⟩

namespace Locatable

open Store

variable {codec : ContractCodec} {s : Store} {now : ℤ} {tenant device : String} {row : ContractRow}
  {contract : CompiledContractDocument} {binding : CompiledLocation} {e : EventRow}
  {position : PositionRow} {deviceIds : List String}

theorem desired_iff (h : Locatable codec s now tenant device row contract) {id : String} :
    (s.assignments.find? (tenant, device)).any (·.desiredContractId = id) ↔ id = row.id := by
  obtain ⟨assignment, hassignment, hrow⟩ := bind_eq_some_iff.mp h.assigned
  obtain ⟨hfind, -⟩ := filter_eq_some_iff.mp hrow
  have hid : row.id = assignment.desiredContractId := (find?_eq_some.mp hfind).2
  rw [hassignment, any_some, decide_eq_true_iff, hid, eq_comm]

theorem contract?_eq (h : Locatable codec s now tenant device row contract) :
    s.contract? tenant device row.id = some row := by
  obtain ⟨assignment, hassignment, hrow⟩ := bind_eq_some_iff.mp h.assigned
  obtain ⟨hfind, htenant⟩ := filter_eq_some_iff.mp hrow
  have hid : row.id = assignment.desiredContractId := (find?_eq_some.mp hfind).2
  have hassigned : (assignment.tenantId, assignment.deviceId) = (tenant, device) :=
    (find?_eq_some.mp hassignment).2
  rw [contract?, hid, hfind, filter_some, if_pos]
  rw [of_decide_eq_true htenant, (Prod.mk.inj hassigned).1, h.owner]
  simp

/-- An event of the device is in the batch exactly if the device's own query has it. -/
theorem locationsRow_eq (h : Locatable codec s now tenant device row contract)
    (hbinding : contract.location = some binding) (hdevice : device ∈ deviceIds)
    (he : e.deviceId = device) :
    s.locationsRow codec tenant deviceIds (timestampMicros now) e =
      s.locationRow codec tenant device ⟨row.id, binding.stream, binding.latitudePath,
        binding.longitudePath, now - binding.maxAgeMs * 1000000, now⟩ e := by
  have hsince : timestampMicros (now - binding.maxAgeMs * 1000000) =
      timestampMicros now - binding.maxAgeMs * 1000 := by
    unfold timestampMicros
    omega
  obtain ⟨hmaxAge, hsystem, hunit, hstream, hlatitude, hlongitude⟩ :=
    h.reads.binding hbinding (h.age binding hbinding)
  refine ext fun position => ?_
  rw [locationsRow_eq_some_iff, locationRow_eq_some_iff, hsince, sub_sub_cancel]
  constructor
  · rintro ⟨⟨htenant, -, hle⟩, c, hc, maxAgeMs, hmaxAge', hlt, -, streamKey, hstream', latitudePath,
      hlatitude', longitudePath, hlongitude', hposition⟩
    obtain ⟨hassigned, -⟩ := of_positionOf hposition
    rw [htenant, he, h.desired_iff] at hassigned
    rw [htenant, he, hassigned, h.contract?_eq] at hc
    cases hc
    obtain rfl := some.inj (hmaxAge.symm.trans hmaxAge')
    obtain rfl := some.inj (hstream.symm.trans hstream')
    obtain rfl := some.inj (hlatitude.symm.trans hlatitude')
    obtain rfl := some.inj (hlongitude.symm.trans hlongitude')
    exact ⟨⟨htenant, he, hassigned, hlt, hle⟩, hposition⟩
  · rintro ⟨⟨htenant, -, hcontract, hlt, hle⟩, hposition⟩
    refine ⟨⟨htenant, he ▸ hdevice, hle⟩, row, ?_, _, hmaxAge, hlt, ?_, _, hstream, _, hlatitude, _,
      hlongitude, hposition⟩
    · rw [htenant, he, hcontract]
      exact h.contract?_eq
    · rw [h.reads.deviceId, h.names, hsystem, hunit, he]
      simp

theorem locationsRow_eq_none (h : Locatable codec s now tenant device row contract)
    (hbinding : contract.location = none) (he : e.deviceId = device) {micros : ℤ} :
    s.locationsRow codec tenant deviceIds micros e = none := by
  refine eq_none_iff_forall_ne_some.mpr fun position hposition => ?_
  obtain ⟨⟨htenant, -, -⟩, c, hc, maxAgeMs, hmaxAge, -, -, _, -, _, -, _, -, hrow⟩ :=
    locationsRow_eq_some_iff.mp hposition
  obtain ⟨hassigned, -⟩ := of_positionOf hrow
  rw [htenant, he, h.desired_iff] at hassigned
  rw [htenant, he, hassigned, h.contract?_eq] at hc
  cases hc
  rw [h.reads.location "maxAgeMs" (by decide), hbinding] at hmaxAge
  cases hmaxAge

def ownRows (codec : ContractCodec) (s : Store) (now : ℤ) (tenant device : String)
    (row : ContractRow) (contract : CompiledContractDocument) : List PositionRow :=
  match contract.location with
  | none => []
  | some binding => s.events.rows.filterMap (s.locationRow codec tenant device
      ⟨row.id, binding.stream, binding.latitudePath, binding.longitudePath,
        now - binding.maxAgeMs * 1000000, now⟩)

/-- The batch has as the device's rows those of its own query. -/
theorem filter_positions (h : Locatable codec s now tenant device row contract)
    (hdevice : device ∈ deviceIds) :
    ((s.events.rows.filterMap (s.locationsRow codec tenant deviceIds (timestampMicros now))).filter
      fun position => position.deviceId = device) = ownRows codec s now tenant device row contract := by
  have hother (e : EventRow) (he : e.deviceId ≠ device) :
      (s.locationsRow codec tenant deviceIds (timestampMicros now) e).filter
        (fun position => position.deviceId = device) = none := by
    rw [filter_eq_none_iff]
    intro position hposition
    obtain ⟨-, c, -, _, -, -, -, _, -, _, -, _, -, hrow⟩ := locationsRow_eq_some_iff.mp hposition
    obtain ⟨-, hid, -⟩ := of_positionOf hrow
    simpa [hid] using he
  rw [filter_filterMap, ownRows]
  cases hbinding : contract.location with
  | none =>
    refine filterMap_eq_nil_iff.mpr fun e _ => ?_
    by_cases he : e.deviceId = device
    · rw [h.locationsRow_eq_none hbinding he]
      rfl
    · exact hother e he
  | some binding =>
    refine filterMap_congr fun e _ => ?_
    by_cases he : e.deviceId = device
    · rw [h.locationsRow_eq hbinding hdevice he]
      cases hrow : s.locationRow codec tenant device _ e with
      | none => rfl
      | some position =>
        obtain ⟨-, hid, -⟩ := of_positionOf (locationRow_eq_some_iff.mp hrow).2
        rw [filter_some, if_pos (decide_eq_true (hid.trans he))]
    · rw [hother e he]
      exact (if_neg fun hrow => he hrow.2.1).symm

theorem record_eq (h : Locatable codec s now tenant device row contract)
    (hmem : position ∈ ownRows codec s now tenant device row contract) :
    position.record = .ok position.located.location := by
  unfold ownRows at hmem
  cases hbinding : contract.location with
  | none => simp [hbinding] at hmem
  | some binding =>
    rw [hbinding] at hmem
    obtain ⟨e, -, hrow⟩ := mem_filterMap.mp hmem
    obtain ⟨⟨-, -, -, hlt, hle⟩, hposition⟩ := locationRow_eq_some_iff.mp hrow
    obtain ⟨-, -, hoccurred, hexpires⟩ := of_positionOf hposition
    obtain ⟨hback, hahead⟩ := h.age binding hbinding
    unfold inDateRange at hback hahead
    rw [decide_eq_true_iff] at hback hahead
    simp only [timestampMicros] at hlt hle hexpires
    have hrange : inDateRange (datetime position.occurredAt) ∧
        inDateRange (datetime position.expiresAt) := by
      unfold inDateRange datetime
      rw [decide_eq_true_iff, decide_eq_true_iff]
      omega
    rw [PositionRow.record, rowDatetime, if_pos hrange.1, rowDatetime, if_pos hrange.2]
    rfl

theorem latestLocation_eq (h : Locatable codec s now tenant device row contract) :
    latestLocation codec s now tenant device =
      .ok ((orderBy PositionRow.stamp (ownRows codec s now tenant device row contract)).getLast?.map
        fun position => position.located.location) := by
  simp only [EventApplication.latestLocation, h.assigned, h.decodes]
  change (if contract.deviceId ≠ device then _ else _) = _
  rw [if_neg (not_not.mpr h.names)]
  cases hbinding : contract.location with
  | none =>
    simp only [ownRows, hbinding]
    rfl
  | some binding =>
    obtain ⟨hback, hahead⟩ := h.age binding hbinding
    have hsince : freshSince now binding.maxAgeMs =
        some (now - binding.maxAgeMs * 1000000) := by
      rw [freshSince, if_pos, checkedSub, if_pos hback]
      unfold inDateRange at hback hahead
      rw [decide_eq_true_iff] at hback hahead
      unfold i64Max
      omega
    have hrows : ownRows codec s now tenant device row contract = s.events.rows.filterMap
        (s.locationRow codec tenant device ⟨row.id, binding.stream, binding.latitudePath,
          binding.longitudePath, now - binding.maxAgeMs * 1000000, now⟩) := by
      rw [ownRows, hbinding]
    simp only [hsince, Store.latestLocation, ← hrows]
    cases hlast : (orderBy PositionRow.stamp (ownRows codec s now tenant device row contract)).getLast?
      with
    | none => rfl
    | some position =>
      show (position.record.map some).mapError ApplicationError.persistence = _
      rw [h.record_eq (getLast?_orderBy hlast).1]
      rfl

end Locatable

namespace Store

variable {codec : ContractCodec} {s : Store} {now : ℤ} {tenant : String} {deviceIds : List String}

/-- For every device of the list the batch query returns what the device's own query
returns, and nothing else. -/
theorem latestLocations_agree
    (h : ∀ device ∈ deviceIds, ∃ row contract, Locatable codec s now tenant device row contract) :
    ∃ located, s.latestLocations codec tenant deviceIds now = .ok located ∧
      (located.map LocatedDeviceRecord.deviceId).Nodup ∧
      (∀ record ∈ located, record.deviceId ∈ deviceIds) ∧
      ∀ device ∈ deviceIds, EventApplication.latestLocation codec s now tenant device =
        .ok ((located.find? fun record => record.deviceId = device).map
          LocatedDeviceRecord.location) := by
  set positions := s.events.rows.filterMap
    (s.locationsRow codec tenant deviceIds (timestampMicros now)) with hpositions
  set ranked := (groupBy PositionRow.deviceId positions).filterMap fun group =>
    (orderBy PositionRow.stamp group.2).getLast? with hranked
  have hkey (device : String) (position : PositionRow)
      (hlast : (orderBy PositionRow.stamp (positions.filter fun position =>
        position.deviceId = device)).getLast? = some position) : position.deviceId = device := by
    simpa using (List.mem_filter.mp (getLast?_orderBy hlast).1).2
  have hlisted (position : PositionRow) (hmem : position ∈ positions) :
      position.deviceId ∈ deviceIds := by
    obtain ⟨e, -, hrow⟩ := mem_filterMap.mp hmem
    obtain ⟨⟨-, hid, -⟩, _, -, _, -, -, -, _, -, _, -, _, -, hposition⟩ :=
      locationsRow_eq_some_iff.mp hrow
    rwa [(of_positionOf hposition).2.1]
  have hmem (position : PositionRow) (hmem : position ∈ ranked) : position ∈ positions := by
    obtain ⟨⟨device, group⟩, hgroup, hlast⟩ := mem_filterMap.mp hmem
    obtain ⟨_, -, heq⟩ := List.mem_map.mp hgroup
    cases heq
    exact mem_of_mem_filter (getLast?_orderBy hlast).1
  have hresult : s.latestLocations codec tenant deviceIds now =
      .ok (ranked.map PositionRow.located) := by
    have hrecords : ranked.mapM (fun position => do
        let location ← position.record
        return (⟨position.deviceId, location⟩ : LocatedDeviceRecord)) =
          .ok (ranked.map PositionRow.located) := by
      refine mapM_eq_ok fun position hposition => ?_
      have hmember := hmem position hposition
      obtain ⟨row, contract, hlocatable⟩ := h position.deviceId (hlisted position hmember)
      have hown : position ∈ Locatable.ownRows codec s now tenant position.deviceId row contract := by
        rw [← hlocatable.filter_positions (hlisted position hmember)]
        exact List.mem_filter.mpr ⟨hmember, decide_eq_true rfl⟩
      rw [hlocatable.record_eq hown]
      rfl
    rw [latestLocations]
    split_ifs with hempty
    · obtain rfl : deviceIds = [] := List.isEmpty_iff.mp hempty
      have hnil : ranked = [] := eq_nil_iff_forall_not_mem.mpr fun position hposition =>
        not_mem_nil (hlisted position (hmem position hposition))
      rw [hnil, map_nil]
    · exact hrecords
  refine ⟨_, hresult, ?_, ?_, ?_⟩
  · have hnodup : (ranked.map PositionRow.deviceId).Nodup := nodup_filterMap_groupBy hkey
    rwa [List.map_map]
  · intro record hrecord
    obtain ⟨position, hposition, rfl⟩ := List.mem_map.mp hrecord
    exact hlisted position (hmem position hposition)
  · intro device hdevice
    obtain ⟨row, contract, hlocatable⟩ := h device hdevice
    have hfind : ranked.find? (fun position => position.deviceId = device) =
        (orderBy PositionRow.stamp (positions.filter fun position =>
          position.deviceId = device)).getLast? :=
      find?_filterMap_groupBy hkey rfl
    rw [hlocatable.latestLocation_eq, find?_map, Option.map_map,
      ← hlocatable.filter_positions hdevice, ← hpositions, ← hfind]
    rfl

def trackerContract (device : String) : CompiledContractDocument where
  contractApi := 1
  contractId := "contract"
  tenantId := "tenant"
  deviceId := device
  blueprintRevisionId := "revision"
  blueprintRevision := 1
  blueprintKey := "tracker"
  blueprintName := "Tracker"
  runtime := ⟨30000, 120000, 1024, 60, 16⟩
  transports := .ofList [("main", ⟨.zenoh, "tcp", .atLeastOnce, .none, none, none⟩)]
  routes := .ofList [("telemetry", ⟨"main", .deviceToCloud, "telemetry", "reading", .json⟩)]
  schemas := .ofList [("reading", ⟨.jsonSchema, .null⟩)]
  streams := .ofList [("position", ⟨"telemetry", "envelope.occurred_at",
    .ofList [("/latitude", ⟨.float64, "Latitude", none, none, false, [], none⟩),
      ("/longitude", ⟨.float64, "Longitude", none, none, false, [], none⟩)]⟩)]
  location := some ⟨"position", "/latitude", "/longitude", .wgs84, .degrees, 1000⟩
  commands := ∅
  configuration := none
  reportedState := none
  health := none
  firmware := none
  relationships := []
  presentation := none

def tracker : ContractCodec where
  isUuid := fun _ => true
  fromValue := fun document =>
    match (document.get "deviceId").bind Json.asStr with
    | some device => .ok (trackerContract device)
    | none => .error "invalid"
  validateInstance := fun _ _ => .ok ()
  floatOfInt := fun n => n

def tracked : Store :=
  { Store.empty with
    devices := Store.sample.devices
    revisions := sampleRevisions
    contracts := ⟨[⟨"contract", "tenant", "device", "revision",
      (trackerContract "device").toValue, "hash"⟩], by decide⟩
    assignments := sampleAssignments }

def positioned : Store :=
  { tracked with
    events := ⟨[⟨"event", "tenant", "device", "contract", "telemetry", 0, 0, .null⟩], by decide⟩
    samples := ⟨[⟨"event", "tenant", "device", "position", "/latitude", .float64 48, 0⟩,
      ⟨"event", "tenant", "device", "position", "/longitude", .int64 11, 0⟩], by decide⟩ }

theorem latestLocations_agree_positioned :
    ∃ located, positioned.latestLocations tracker "tenant" ["device"] 999999999 = .ok located ∧
      located.length = 1 ∧ EventApplication.latestLocation tracker positioned 999999999 "tenant"
        "device" = .ok (some ⟨"contract", "event", 0, 1000000000, 48, 11⟩) := by
  have hlocatable : Locatable tracker positioned 999999999 "tenant" "device"
      ⟨"contract", "tenant", "device", "revision", (trackerContract "device").toValue, "hash"⟩
      (trackerContract "device") := by
    refine ⟨rfl, rfl, rfl, reads_toValue _, rfl, fun binding hbinding => ?_⟩
    cases hbinding
    exact ⟨by decide, by decide⟩
  have hdevices : ∀ device ∈ ["device"], ∃ row contract,
      Locatable tracker positioned 999999999 "tenant" device row contract := by
    intro device hdevice
    obtain rfl := mem_singleton.mp hdevice
    exact ⟨_, _, hlocatable⟩
  obtain ⟨located, hlocated, -, -, hagree⟩ := latestLocations_agree hdevices
  have hvalue : positioned.latestLocations tracker "tenant" ["device"] 999999999 =
      .ok [⟨"device", ⟨"contract", "event", 0, 1000000000, 48, 11⟩⟩] := by decide +kernel
  obtain rfl := Except.ok.inj (hvalue.symm.trans hlocated)
  exact ⟨_, hlocated, rfl, hagree "device" (mem_singleton.mpr rfl)⟩

end Store

end Extrittio
