import Extrittio.Contract.Acceptance
import Extrittio.Zenoh.DeviceTopics

/-!
The client's side of a contract. A device checks and encodes an event with the
contract that it was provisioned with, and the backend checks it again on its
own: which encoded events arrive.
-/
namespace Extrittio

open BlueprintCompiler List Option ContractIngress

structure DeviceEventEnvelope where
  apiVersion : ℕ
  eventId : String
  contractHash : String
  occurredAt : ℤ
  payload : Json
  deriving DecidableEq

/-- `serde_json` of envelopes: what is written is read back. -/
structure EnvelopeCodec where
  toVec : DeviceEventEnvelope → Except String (List UInt8)
  fromSlice : List UInt8 → Except String DeviceEventEnvelope
  fromSlice_toVec : ∀ envelope bytes, toVec envelope = .ok bytes → fromSlice bytes = .ok envelope

inductive ProvisionedContractError where
  | unsupportedApi (api : ℕ)
  | hashMismatch
  | unknownStream (key : String)
  | unknownRoute (key : String)
  | canonicalization (error : ContractError)
  | unsupportedEventStream (key : String)
  | invalidPayload (message : String)
  | eventSerialization (message : String)
  | eventTooLarge (actual maximum : ℕ)
  deriving DecidableEq

structure ContractEvent where
  streamKey : String
  payload : Json

structure EncodedContractEvent where
  address : String
  payload : List UInt8

structure ProvisionedContract where
  document : CompiledContractDocument
  hash : String

namespace ProvisionedContract

def verify (digest : CompiledContractDocument → Except ContractError String)
    (document : CompiledContractDocument) (expectedHash : String) :
    Except ProvisionedContractError ProvisionedContract := do
  if document.contractApi = 0 ∨ Blueprint.contractApiVersion < document.contractApi then
    throw (.unsupportedApi document.contractApi)
  let hash ← (digest document).mapError .canonicalization
  if hash ≠ expectedHash then
    throw .hashMismatch
  return ⟨document, hash⟩

variable (contract : ProvisionedContract)

def route (routeKey : String) : Except ProvisionedContractError CompiledRoute :=
  match contract.document.routes.get? routeKey with
  | some route => .ok route
  | none => .error (.unknownRoute routeKey)

def routeForStream (streamKey : String) : Except ProvisionedContractError CompiledRoute :=
  match contract.document.streams.get? streamKey with
  | some stream => contract.route stream.route
  | none => .error (.unknownStream streamKey)

/-- The bytes of an event under a fresh id, if the contract allows it. -/
def encodeEvent (codec : ContractCodec) (wire : EnvelopeCodec) (event : ContractEvent)
    (eventId : String) (occurredAt : ℤ) :
    Except ProvisionedContractError EncodedContractEvent := do
  let route ← contract.routeForStream event.streamKey
  if route.direction ≠ .deviceToCloud ∨ route.encoding ≠ .json then
    throw (.unsupportedEventStream event.streamKey)
  let some schema := (contract.document.schemas.get? route.messageSchema).filter fun schema =>
      schema.format = .jsonSchema
    | throw (.unsupportedEventStream event.streamKey)
  (codec.validateInstance schema.schema event.payload).mapError .invalidPayload
  let payload ← (wire.toVec ⟨Blueprint.contractApiVersion, eventId, contract.hash, occurredAt,
    event.payload⟩).mapError .eventSerialization
  if contract.document.runtime.maxMessageBytes < payload.length then
    throw (.eventTooLarge payload.length contract.document.runtime.maxMessageBytes)
  return ⟨route.address, payload⟩

end ProvisionedContract

/-- `strip_prefix` and `split_once` at a slash: the segment after the space. -/
def Topics.segmentAfter (space topic : List Char) : Option (List Char) :=
  if space.isPrefixOf topic then
    let rest := topic.drop space.length
    if '/' ∈ rest then some (rest.takeWhile (· ≠ '/')) else none
  else none

/-- The device whose namespace a topic is in. -/
def Topics.contractDeviceId (topic : String) : Option String :=
  ((segmentAfter "extrittio/devices/".toList topic.toList).map String.ofList).filter isValidDeviceId

/-- The subscriber's check of a sample: the device, the topic and the bytes to go on with. -/
def Zenoh.acceptContractSample (topic : String) (payload : List UInt8) (maxPayloadSizeBytes : ℕ) :
    Option (String × String × List UInt8) := do
  let deviceId ← Topics.contractDeviceId topic
  if maxPayloadSizeBytes < payload.length then none
  return (deviceId, topic, payload)

namespace EventIngress

/-- The envelope that the handler reads from the bytes of an event. -/
def readEnvelope (wire : EnvelopeCodec) (bytes : List UInt8) : Except String EventInput := do
  let envelope ← wire.fromSlice bytes
  return ⟨envelope.apiVersion, envelope.eventId, envelope.contractHash, envelope.occurredAt,
    envelope.payload, bytes.length⟩

/-- The bytes that arrive on an address are taken as an event of the route. -/
def TakenOn (codec : ContractCodec) (wire : EnvelopeCodec) (s : Store) (clock : ℤ)
    (tenant device : String) (encoded : EncodedContractEvent) (snapshot : RuleCache)
    (routeKey : String) : Prop :=
  ∃ envelope, readEnvelope wire encoded.payload = .ok envelope ∧
    AcceptedOn codec s clock tenant device encoded.address envelope snapshot routeKey

instance (codec : ContractCodec) (wire : EnvelopeCodec) (s : Store) (clock : ℤ)
    (tenant device : String) (encoded : EncodedContractEvent) (snapshot : RuleCache)
    (routeKey : String) :
    Decidable (TakenOn codec wire s clock tenant device encoded snapshot routeKey) :=
  match h : readEnvelope wire encoded.payload with
  | .ok envelope => decidable_of_iff
      (AcceptedOn codec s clock tenant device encoded.address envelope snapshot routeKey)
      ⟨fun haccepted => ⟨envelope, h, haccepted⟩, fun ⟨_, hother, haccepted⟩ =>
        Except.ok.inj (h.symm.trans hother) ▸ haccepted⟩
  | .error _ => .isFalse fun ⟨_, hother, _⟩ => nomatch h.symm.trans hother

end EventIngress

namespace ProvisionedContract

variable {digest : CompiledContractDocument → Except ContractError String}
  {codec : ContractCodec} {wire : EnvelopeCodec} {event : ContractEvent} {eventId : String}
  {occurredAt : ℤ} {encoded : EncodedContractEvent}

variable {document : CompiledContractDocument} {p : Platform} {context : CompileContext}

theorem of_verify {expectedHash : String} {provisioned : ProvisionedContract}
    (h : verify digest document expectedHash = .ok provisioned) :
    provisioned = ⟨document, expectedHash⟩ := by
  obtain ⟨-, h⟩ := guard_eq_ok_iff.mp h
  obtain ⟨hash, -, h⟩ := of_bind_ok h
  obtain ⟨hequal, hprovisioned⟩ := guard_eq_ok_iff.mp h
  rw [← not_not.mp hequal]
  exact (Except.ok.inj hprovisioned).symm

theorem contractApi_of_compileDocument {blueprint : DeviceBlueprint}
    (h : compileDocument p blueprint context = .ok document) :
    document.contractApi = Blueprint.contractApiVersion := by
  obtain ⟨_, -, h⟩ := of_bind_ok h
  obtain ⟨transports, -, h⟩ := of_bind_ok h
  obtain ⟨commands, -, h⟩ := of_bind_ok h
  obtain ⟨configuration, -, h⟩ := of_bind_ok h
  split at h
  · cases h
  obtain ⟨runtime, -, h⟩ := of_bind_ok h
  obtain ⟨location, -, h⟩ := of_bind_ok h
  cases h
  rfl

theorem verify_of_compile {blueprint : ValidatedBlueprint p} {contract : CompiledContract}
    (h : compile p digest blueprint context = .ok contract) :
    verify digest contract.document contract.hash = .ok ⟨contract.document, contract.hash⟩ := by
  obtain ⟨document, hdocument, h⟩ := of_bind_ok h
  obtain ⟨hash, hhash, h⟩ := of_bind_ok h
  cases h
  have hapi := contractApi_of_compileDocument hdocument
  have hdigest : digest document = .ok hash := mapError_eq_ok.mp hhash
  refine guard_eq_ok_iff.mpr ⟨?_, bind_eq_ok_iff.mpr ⟨hash, mapError_eq_ok.mpr hdigest, ?_⟩⟩
  · rw [hapi]
    decide
  · exact guard_eq_ok_iff.mpr ⟨not_not.mpr rfl, rfl⟩

/-- What the client has checked of an event that it encoded. -/
theorem of_encodeEvent {contract : ProvisionedContract}
    (h : contract.encodeEvent codec wire event eventId occurredAt = .ok encoded) :
    ∃ stream route schema, contract.document.streams.get? event.streamKey = some stream ∧
      contract.document.routes.get? stream.route = some route ∧
      route.direction = .deviceToCloud ∧ route.encoding = .json ∧
      contract.document.schemas.get? route.messageSchema = some schema ∧
      schema.format = .jsonSchema ∧ codec.validateInstance schema.schema event.payload = .ok () ∧
      wire.toVec ⟨Blueprint.contractApiVersion, eventId, contract.hash, occurredAt, event.payload⟩ =
        .ok encoded.payload ∧
      encoded.payload.length ≤ contract.document.runtime.maxMessageBytes ∧
      encoded.address = route.address := by
  obtain ⟨route, hroute, h⟩ := of_bind_ok h
  obtain ⟨stream, hstream, hget⟩ : ∃ stream, contract.document.streams.get? event.streamKey =
      some stream ∧ contract.document.routes.get? stream.route = some route := by
    rw [routeForStream] at hroute
    split at hroute
    · rename_i stream hstream
      rw [ProvisionedContract.route] at hroute
      split at hroute
      · rename_i found hfound
        cases hroute
        exact ⟨stream, hstream, hfound⟩
      · cases hroute
    · cases hroute
  obtain ⟨hkind, h⟩ := guard_eq_ok_iff.mp h
  obtain ⟨hdirection, hjson⟩ := not_or.mp hkind
  split at h
  · rename_i schema hschema
    obtain ⟨hschema, hformat⟩ := filter_eq_some_iff.mp hschema
    obtain ⟨_, hvalid, h⟩ := of_bind_ok h
    obtain ⟨bytes, hbytes, h⟩ := of_bind_ok h
    obtain ⟨hsize, h⟩ := guard_eq_ok_iff.mp h
    cases h
    exact ⟨stream, route, schema, hstream, hget, not_not.mp hdirection, not_not.mp hjson, hschema,
      of_decide_eq_true hformat, mapError_eq_ok.mp hvalid, mapError_eq_ok.mp hbytes,
      not_lt.mp hsize, rfl⟩
  · cases h

end ProvisionedContract

namespace Topics

theorem segmentAfter_append {space segment tail : List Char} (h : '/' ∉ segment) :
    segmentAfter space (space ++ segment ++ ['/'] ++ tail) = some segment := by
  have hhead : (segment ++ '/' :: tail).takeWhile (· ≠ '/') = segment := by
    rw [takeWhile_append_of_pos]
    · simp
    · intro c hc
      exact decide_eq_true fun heq => h (heq ▸ hc)
  rw [append_assoc, append_assoc, singleton_append, segmentAfter, drop_left,
    if_pos (by simp), if_pos (by simp), hhead]

theorem contractDeviceId_of_deviceSpace {deviceId topic : String}
    (hvalid : isValidDeviceId deviceId) (h : deviceSpace deviceId <+: topic.toList) :
    contractDeviceId topic = some deviceId := by
  obtain ⟨tail, htail⟩ := h
  have hslash : '/' ∉ deviceId.toList := by
    intro hmem
    have hsafe := Zenoh.safe_of_isValidDeviceId hvalid _ hmem
    revert hsafe
    decide
  have hsegment : segmentAfter "extrittio/devices/".toList topic.toList = some deviceId.toList :=
    (congrArg (segmentAfter _) htail.symm).trans (segmentAfter_append hslash)
  rw [contractDeviceId, hsegment, map_some, String.ofList_toList, filter_some,
    if_pos hvalid]

end Topics

namespace EventIngress

/-- No command is answered on the route, and every declared field that the payload has
is of its type. -/
structure PlainEvent (codec : ContractCodec) (blueprint : DeviceBlueprint) (routeKey : String)
    (payload : Json) : Prop where
  commands : ∀ command ∈ blueprint.spec.commands, command.responseRoute ≠ routeKey
  fields : ∀ stream ∈ blueprint.spec.streams, stream.route = routeKey →
    ∀ field ∈ stream.fields, ∀ value, payload.pointer field.path = some value →
      (codec.metricValue field.valueType value).isSome = true

section

def knowing (known : DeviceEventEnvelope) : EnvelopeCodec where
  toVec envelope := if envelope = known then .ok [123, 125] else .error "unknown envelope"
  fromSlice bytes := if bytes = [123, 125] then .ok known else .error "unknown bytes"
  fromSlice_toVec := by
    intro envelope bytes h
    split_ifs at h with hknown
    rw [← Except.ok.inj h, hknown, if_pos rfl]

def positionEvent : ContractEvent := ⟨trackerStream.key, position.payload⟩

def encodedPosition (contract : CompiledContract) :
    Except ProvisionedContractError EncodedContractEvent :=
  ProvisionedContract.encodeEvent ⟨contract.document, contract.hash⟩ (exchanging contract contract)
    (knowing ⟨1, "event", "hash", 0, position.payload⟩) positionEvent "event" 0

def positionTaken (contract : CompiledContract) (encoded : EncodedContractEvent) : Prop :=
  TakenOn (exchanging contract contract) (knowing ⟨1, "event", "hash", 0, position.payload⟩)
    Ingestion.shared 0 "tenant" "device" encoded (RuleSnapshotRecords.compile ⟨[], fun _ => none⟩)
    "position"

instance (contract : CompiledContract) (encoded : EncodedContractEvent) :
    Decidable (positionTaken contract encoded) := by
  unfold positionTaken
  infer_instance

theorem plainEvent_position (codec : ContractCodec) :
    PlainEvent codec tracker "position" position.payload := by
  have hnumber : ∀ field ∈ trackerStream.fields, field.valueType = .float64 ∧
      (position.payload.pointer field.path = some (.integer 1) ∨
        position.payload.pointer field.path = some (.integer 2)) := by
    decide +kernel
  constructor
  · decide +kernel
  · intro stream hstream _ field hfield value hvalue
    obtain rfl := mem_singleton.mp hstream
    obtain ⟨htype, hpointer⟩ := hnumber field hfield
    rw [htype]
    rcases hpointer with hpointer | hpointer <;>
      obtain rfl := Option.some.inj (hpointer.symm.trans hvalue) <;> rfl

end

end EventIngress

end Extrittio
