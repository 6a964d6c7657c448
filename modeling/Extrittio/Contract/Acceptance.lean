import Extrittio.Contract.Compatibility
import Extrittio.Contract.Routing

/-!
Which events a contract accepts, and what becomes of an accepted event when the
device gets the contract of a compatible blueprint.
-/
namespace Extrittio

open List Option ContractIngress

/-! Success of a computation, statement by statement. -/

section

variable {ε ε' α β : Type}

theorem isOk_iff {x : Except ε α} : x.isOk ↔ ∃ a, x = .ok a := by
  cases x <;> simp [Except.isOk, Except.toBool]

theorem isOk_bind {x : Except ε α} {f : α → Except ε β} :
    (x >>= f).isOk ↔ ∃ a, x = .ok a ∧ (f a).isOk := by
  cases x with
  | error e => simp [bind, Except.bind, Except.isOk, Except.toBool]
  | ok a => simp [bind, Except.bind]

theorem isOk_ok_bind {a : α} {f : α → Except ε β} :
    ((Except.ok a : Except ε α) >>= f).isOk ↔ (f a).isOk := Iff.rfl

theorem isOk_bind_pure {x : Except ε α} {f : α → β} :
    (x >>= fun a => pure (f a)).isOk ↔ x.isOk := by
  rw [isOk_bind, isOk_iff]
  exact exists_congr fun a => and_iff_left rfl

theorem isOk_throw {e : ε} : (throw e : Except ε α).isOk ↔ False := by
  simp [throw, throwThe, MonadExceptOf.throw, Except.isOk, Except.toBool]

theorem isOk_guard {c : Prop} [Decidable c] {e : ε} {f : PUnit → Except ε α} {x : Except ε α} :
    (if c then (throw e : Except ε PUnit) >>= f else x).isOk ↔ ¬c ∧ x.isOk := by
  split_ifs with h
  · simp [h, throw, throwThe, MonadExceptOf.throw, bind, Except.bind, Except.isOk, Except.toBool]
  · simp [h]

theorem mapError_ok {a : α} {f : ε → ε'} : (Except.ok a : Except ε α).mapError f = .ok a := rfl

theorem isOk_mapM {f : α → Except ε β} {l : List α} :
    (l.mapM f).isOk ↔ ∀ a ∈ l, (f a).isOk := by
  induction l with
  | nil => simp [mapM_nil, pure, Except.pure, Except.isOk, Except.toBool]
  | cons a l ih =>
    rw [mapM_cons, isOk_bind, forall_mem_cons, ← ih]
    simp only [isOk_bind_pure]
    rw [isOk_iff (x := f a), exists_and_right]

end

namespace EventIngress

variable {codec : ContractCodec} {s : Store} {clock : ℤ} {tenant device routeKey : String}
  {envelope : EventInput} {snapshot : RuleCache} {contract : CompiledContract}

/-- Every declared field that the payload of a route has is of its type. -/
def FieldsConform (codec : ContractCodec) (document : CompiledContractDocument) (routeKey : String)
    (payload : Json) : Prop :=
  ∀ key stream, document.streams.get? key = some stream → stream.route = routeKey →
    ∀ path field, stream.fields.get? path = some field →
      ∀ value, payload.pointer path = some value →
        (codec.metricValue field.valueType value).isSome = true

theorem fieldSample_isOk_iff {payload : Json} {streamKey path : String} {valueType : FieldValueType} :
    (codec.fieldSample payload streamKey path valueType).isOk ↔
      ∀ value, payload.pointer path = some value →
        (codec.metricValue valueType value).isSome := by
  rw [ContractCodec.fieldSample]
  cases payload.pointer path with
  | none => simp [Except.isOk, Except.toBool]
  | some value =>
    cases hvalue : codec.metricValue valueType value with
    | none => simp [hvalue, Except.isOk, Except.toBool]
    | some metric => simp [hvalue, Except.isOk, Except.toBool]

theorem routeMetrics_isOk_iff {document : CompiledContractDocument} {payload : Json} :
    (codec.routeMetrics document routeKey payload).isOk ↔
      FieldsConform codec document routeKey payload := by
  simp only [ContractCodec.routeMetrics, ContractCodec.streamMetrics, isOk_bind_pure, isOk_mapM,
    fieldSample_isOk_iff, List.mem_filter, decide_eq_true_eq, FieldsConform, Prod.forall, and_imp,
    OrderedMap.get?_eq_some_iff]

/-- The checks that the contract makes of an event. -/
structure Admits (codec : ContractCodec) (document : CompiledContractDocument)
    (device routeKey : String) (payload : Json) (encodedSize : ℕ) : Prop where
  identity : document.deviceId = device
  size : encodedSize ≤ document.runtime.maxMessageBytes
  route : ∃ route, document.routes.get? routeKey = some route ∧
    route.direction = .deviceToCloud ∧ route.encoding = .json ∧
    ∃ schema, document.schemas.get? route.messageSchema = some schema ∧
      schema.format = .jsonSchema ∧ codec.validateInstance schema.schema payload = .ok ()
  fields : FieldsConform codec document routeKey payload

/-- The checks of an event that do not depend on the contract. -/
structure Attributable (codec : ContractCodec) (s : Store) (tenant device : String)
    (envelope : EventInput) : Prop where
  version : envelope.apiVersion = 1
  eventId : codec.isUuid envelope.eventId = true
  identity : deviceIdentity tenant device = .ok ()
  device : (s.device? tenant device).isSome = true

theorem prepare_isOk_iff (h : Assigned codec s tenant device contract) :
    (prepare codec s clock tenant device routeKey envelope snapshot).isOk ↔
      Attributable codec s tenant device envelope ∧ envelope.contractHash = contract.hash ∧
        Admits codec contract.document device routeKey envelope.payload envelope.encodedSize := by
  obtain ⟨row, hrow, hhash, hdocument⟩ := h
  unfold prepare
  simp only [hrow, hhash, hdocument, mapError_ok, isOk_guard, isOk_ok_bind, not_or, not_not,
    Bool.not_eq_false, not_lt]
  constructor
  · rintro ⟨⟨hversion, huuid⟩, hhash, ⟨hidentity, hsize⟩, hok⟩
    split at hok
    · rename_i route hroute
      split at hok
      · rename_i schema hschema
        simp only [isOk_bind, mapError_eq_ok] at hok
        obtain ⟨_, hvalid, metrics, hmetrics, _, hdeviceIdentity, hok⟩ := hok
        split at hok
        · rename_i found hdevice
          obtain ⟨hroute, hkind⟩ := filter_eq_some_iff.mp hroute
          obtain ⟨hdirection, hjson⟩ := Bool.and_eq_true_iff.mp hkind
          obtain ⟨hschema, hformat⟩ := filter_eq_some_iff.mp hschema
          exact ⟨⟨hversion, huuid, hdeviceIdentity, isSome_iff_exists.mpr ⟨found, hdevice⟩⟩,
            hhash, hidentity, hsize,
            ⟨route, hroute, of_decide_eq_true hdirection, of_decide_eq_true hjson, schema, hschema,
              of_decide_eq_true hformat, hvalid⟩,
            routeMetrics_isOk_iff.mp (isOk_iff.mpr ⟨metrics, hmetrics⟩)⟩
        · exact (isOk_throw.mp hok).elim
      · exact (isOk_throw.mp hok).elim
    · exact (isOk_throw.mp hok).elim
  · rintro ⟨⟨hversion, huuid, hdeviceIdentity, hdevice⟩, hhash, hidentity, hsize,
      ⟨route, hroute, hdirection, hjson, schema, hschema, hformat, hvalid⟩, hfields⟩
    obtain ⟨metrics, hmetrics⟩ := isOk_iff.mp (routeMetrics_isOk_iff.mpr hfields)
    obtain ⟨found, hfound⟩ := isSome_iff_exists.mp hdevice
    refine ⟨⟨hversion, huuid⟩, hhash, ⟨hidentity, hsize⟩, ?_⟩
    simp only [hroute, hschema, filter_some, hdirection, hjson, hformat, decide_true,
      Bool.and_self, if_true, hvalid, hmetrics, hdeviceIdentity, hfound, mapError_ok, isOk_ok_bind]
    rfl

/-- Ingress takes a message on the address as an event of the route. -/
def AcceptedOn (codec : ContractCodec) (s : Store) (clock : ℤ) (tenant device address : String)
    (envelope : EventInput) (snapshot : RuleCache) (routeKey : String) : Prop :=
  ContractIngress.resolve codec s tenant device address = .ok (some (.jsonEvent routeKey)) ∧
    (prepare codec s clock tenant device routeKey envelope snapshot).isOk = true

instance (codec : ContractCodec) (s : Store) (clock : ℤ) (tenant device address : String)
    (envelope : EventInput) (snapshot : RuleCache) (routeKey : String) :
    Decidable (AcceptedOn codec s clock tenant device address envelope snapshot routeKey) := by
  unfold AcceptedOn
  infer_instance

end EventIngress

namespace Blueprint

/-- What the blueprint asks of an event that is taken on a route. -/
structure Accepts (codec : ContractCodec) (blueprint : DeviceBlueprint)
    (deviceId address routeKey : String) (payload : Json) (encodedSize : ℕ) : Prop where
  size : encodedSize ≤ blueprint.spec.runtime.limits.maxMessageBytes
  route : ∃ route ∈ blueprint.spec.routes, route.key = routeKey ∧
    route.direction = .deviceToCloud ∧ expandAddress route.address deviceId = address ∧
    route.encoding = .json ∧ ∃ schema ∈ blueprint.spec.schemas,
      schema.key = route.messageSchema ∧ schema.format = .jsonSchema ∧
        codec.validateInstance schema.schema payload = .ok ()
  commands : ∀ command ∈ blueprint.spec.commands, command.responseRoute ≠ routeKey
  first : ∀ other ∈ blueprint.spec.routes, other.direction = .deviceToCloud →
    expandAddress other.address deviceId = address → routeKey ≤ other.key
  fields : ∀ stream ∈ blueprint.spec.streams, stream.route = routeKey →
    ∀ field ∈ stream.fields, ∀ value, payload.pointer field.path = some value →
      (codec.metricValue field.valueType value).isSome = true

end Blueprint

namespace BlueprintCompiler

open EventIngress

section

variable {codec : ContractCodec} {blueprint : DeviceBlueprint} {context : CompileContext}
  {document : CompiledContractDocument} {key : String} {payload : Json}

namespace CompiledFrom

variable (hc : CompiledFrom blueprint context document) (hs : Blueprint.Sound blueprint)

include hc hs

theorem routeOf_eq_jsonEvent_iff {address : String} :
    ContractIngress.routeOf document address = some (.jsonEvent key) ↔
      ∃ route ∈ blueprint.spec.routes, route.key = key ∧ route.direction = .deviceToCloud ∧
        Blueprint.expandAddress route.address context.deviceId = address ∧ route.encoding = .json ∧
        (∀ command ∈ blueprint.spec.commands, command.responseRoute ≠ key) ∧
        ∀ other ∈ blueprint.spec.routes, other.direction = .deviceToCloud →
          Blueprint.expandAddress other.address context.deviceId = address → key ≤ other.key := by
  rw [ContractIngress.routeOf_eq_jsonEvent_iff]
  constructor
  · rintro ⟨route, hroute, hdirection, haddress, hjson, hfree, hfirst⟩
    obtain ⟨declared, hmem, heq⟩ := hc.exists_route hroute
    cases heq
    refine ⟨declared, hmem, rfl, hdirection, haddress, hjson, fun command hcommand => ?_,
      fun other hother => hfirst other.key _ (hc.get?_route hs hother)⟩
    obtain ⟨compiled, hcompiled, hget⟩ := hc.get?_command hs hcommand
    rw [← (fst_of_compileCommand hcompiled).2.2]
    exact hfree command.key compiled hget
  · rintro ⟨route, hmem, rfl, hdirection, haddress, hjson, hfree, hfirst⟩
    refine ⟨_, hc.get?_route hs hmem, hdirection, haddress, hjson, fun name command hget => ?_,
      fun name other hother hotherDirection hotherAddress => ?_⟩
    · obtain ⟨declared, hdeclared, hcompiled⟩ := hc.exists_command hget
      rw [(fst_of_compileCommand hcompiled).2.2]
      exact hfree declared hdeclared
    · obtain ⟨declared, hdeclared, heq⟩ := hc.exists_route hother
      cases heq
      exact hfirst declared hdeclared hotherDirection hotherAddress

theorem fieldsConform_iff : FieldsConform codec document key payload ↔
    ∀ stream ∈ blueprint.spec.streams, stream.route = key →
      ∀ field ∈ stream.fields, ∀ value, payload.pointer field.path = some value →
        (codec.metricValue field.valueType value).isSome := by
  constructor
  · intro h stream hstream hroute field hfield
    exact h stream.key _ (hc.get?_stream hs hstream) hroute field.path _
      (get?_compileField (hs.fieldPaths stream hstream) hfield)
  · intro h name stream hstream hroute path field hfield
    obtain ⟨declared, hdeclared, heq⟩ := hc.exists_stream hstream
    cases heq
    obtain ⟨declaredField, hdeclaredField, heq⟩ :=
      OrderedMap.exists_item_of_get? (forall₂_map compileField declared.fields) hfield
    cases heq
    exact h declared hdeclared hroute declaredField hdeclaredField

theorem schema_iff {name : String} {P : CompiledSchema → Prop} :
    (∃ schema, document.schemas.get? name = some schema ∧ P schema) ↔
      ∃ schema ∈ blueprint.spec.schemas, schema.key = name ∧ P (compileSchema schema).2 := by
  constructor
  · rintro ⟨schema, hget, hP⟩
    obtain ⟨declared, hdeclared, heq⟩ := hc.exists_schema hget
    cases heq
    exact ⟨declared, hdeclared, rfl, hP⟩
  · rintro ⟨declared, hdeclared, rfl, hP⟩
    exact ⟨_, hc.get?_schema hs hdeclared, hP⟩

/-- The contract takes an event on a route exactly if the blueprint does. -/
theorem accepts_iff {device address : String} {encodedSize : ℕ} :
    (routeOf document address = some (.jsonEvent key) ∧
      Admits codec document device key payload encodedSize) ↔
    context.deviceId = device ∧
      Blueprint.Accepts codec blueprint context.deviceId address key payload encodedSize := by
  rw [hc.routeOf_eq_jsonEvent_iff hs]
  constructor
  · rintro ⟨⟨route, hmem, rfl, hdirection, haddress, hjson, hfree, hfirst⟩,
      hidentity, hsize, ⟨compiled, hget, -, -, hschema⟩, hfields⟩
    obtain rfl : (compileRoute context route).2 = compiled :=
      Option.some.inj ((hc.get?_route hs hmem).symm.trans hget)
    exact ⟨hc.deviceId ▸ hidentity, hc.maxMessageBytes ▸ hsize,
      ⟨route, hmem, rfl, hdirection, haddress, hjson, (hc.schema_iff hs).mp hschema⟩, hfree, hfirst,
      (hc.fieldsConform_iff hs).mp hfields⟩
  · rintro ⟨hidentity, hsize, ⟨route, hmem, rfl, hdirection, haddress, hjson, hschema⟩, hfree, hfirst,
      hfields⟩
    exact ⟨⟨route, hmem, rfl, hdirection, haddress, hjson, hfree, hfirst⟩,
      hc.deviceId.trans hidentity, hc.maxMessageBytes ▸ hsize,
      ⟨_, hc.get?_route hs hmem, hdirection, hjson, (hc.schema_iff hs).mpr hschema⟩,
      (hc.fieldsConform_iff hs).mpr hfields⟩

end CompiledFrom

end

section

variable {p : Platform} {digest : CompiledContractDocument → Except ContractError String}
  {blueprint : ValidatedBlueprint p} {context : CompileContext} {contract : CompiledContract}
  {codec : ContractCodec} {s : Store} {clock : ℤ} {tenant device address routeKey : String}
  {envelope : EventInput} {snapshot : RuleCache}

theorem acceptedOn_iff (hcompile : compile p digest blueprint context = .ok contract)
    (hassigned : Assigned codec s tenant device contract) :
    AcceptedOn codec s clock tenant device address envelope snapshot routeKey ↔
      Attributable codec s tenant device envelope ∧ envelope.contractHash = contract.hash ∧
      context.deviceId = device ∧ Blueprint.Accepts codec blueprint.blueprint context.deviceId
        address routeKey envelope.payload envelope.encodedSize := by
  rw [← (compiledFrom_of_compile hcompile).accepts_iff blueprint.sound, AcceptedOn,
    resolve_of_assigned hassigned, prepare_isOk_iff hassigned, Except.ok.injEq]
  tauto

end

end BlueprintCompiler

namespace Blueprint

def Declares (blueprint : DeviceBlueprint) (streamKey path : String) : Prop :=
  ∃ stream ∈ blueprint.spec.streams, stream.key = streamKey ∧
    ∃ field ∈ stream.fields, field.path = path

/-- What the next blueprint adds leaves the event alone: no added route takes its
address, no command is answered on its route, and no added field disagrees with
its payload. -/
structure Undisturbed (codec : ContractCodec) (previous next : DeviceBlueprint)
    (deviceId address routeKey : String) (payload : Json) : Prop where
  routes : ∀ route ∈ next.spec.routes, route ∉ previous.spec.routes →
    route.direction = .deviceToCloud → expandAddress route.address deviceId = address →
      routeKey ≤ route.key
  commands : ∀ command ∈ next.spec.commands, command.responseRoute ≠ routeKey
  fields : ∀ stream ∈ next.spec.streams, stream.route = routeKey →
    ∀ field ∈ stream.fields, ¬Declares previous stream.key field.path →
      ∀ value, payload.pointer field.path = some value →
        (codec.metricValue field.valueType value).isSome = true

theorem eq_of_key {T : Type} {items : List T} {key : T → String} (h : (items.map key).Nodup)
    {a b : T} (ha : a ∈ items) (hb : b ∈ items) (hkey : key a = key b) : a = b :=
  inj_on_of_nodup_map h ha hb hkey

section

variable {codec : ContractCodec} {previous next : DeviceBlueprint}
  {deviceId address routeKey : String} {payload : Json} {encodedSize : ℕ}

theorem Retains.of_declares (h : Retains previous next) (hs : Sound next)
    {stream : StreamDefinition} (hstream : stream ∈ next.spec.streams) {field : FieldDefinition}
    (hfield : field ∈ stream.fields) (hdeclares : Declares previous stream.key field.path) :
    ∃ previousStream ∈ previous.spec.streams, previousStream.route = stream.route ∧
      ∃ previousField ∈ previousStream.fields, previousField.path = field.path ∧
        previousField.valueType = field.valueType := by
  obtain ⟨previousStream, hprevious, hkey, previousField, hpreviousField, hpath⟩ := hdeclares
  obtain ⟨nextStream, hnext, hnextKey, hroute, hfields⟩ := h.streams previousStream hprevious
  obtain rfl : nextStream = stream := eq_of_key hs.streamKeys hnext hstream (hnextKey.trans hkey)
  obtain ⟨nextField, hnextField, hnextPath, hvalueType⟩ := hfields previousField hpreviousField
  obtain rfl : nextField = field :=
    eq_of_key (hs.fieldPaths nextStream hstream) hnextField hfield (hnextPath.trans hpath)
  exact ⟨previousStream, hprevious, hroute.symm, previousField, hpreviousField, hpath,
    hvalueType.symm⟩

/-- Without a breaking change, an accepted event is accepted by the next blueprint
exactly if the additions leave it alone. -/
theorem accepts_next_iff (h : Retains previous next) (hs : Sound next)
    (haccepts : Accepts codec previous deviceId address routeKey payload encodedSize) :
    Accepts codec next deviceId address routeKey payload encodedSize ↔
      Undisturbed codec previous next deviceId address routeKey payload := by
  constructor
  · intro hnext
    exact ⟨fun route hroute _ => hnext.first route hroute, hnext.commands,
      fun stream hstream hroute field hfield _ => hnext.fields stream hstream hroute field hfield⟩
  · intro hundisturbed
    obtain ⟨route, hroute, hkey, hdirection, haddress, hjson, schema, hschema, hrest⟩ :=
      haccepts.route
    constructor
    · exact haccepts.size.trans h.maxMessageBytes
    · exact ⟨route, h.routes route hroute, hkey, hdirection, haddress, hjson, schema,
        h.schemas schema hschema, hrest⟩
    · exact hundisturbed.commands
    · intro other hother hotherDirection hotherAddress
      by_cases hold : other ∈ previous.spec.routes
      · exact haccepts.first other hold hotherDirection hotherAddress
      · exact hundisturbed.routes other hother hold hotherDirection hotherAddress
    · intro stream hstream hstreamRoute field hfield value hvalue
      by_cases hold : Declares previous stream.key field.path
      · obtain ⟨previousStream, hprevious, hroute, previousField, hpreviousField, hpath, htype⟩ :=
          h.of_declares hs hstream hfield hold
        rw [← htype]
        exact haccepts.fields previousStream hprevious (hroute.trans hstreamRoute) previousField
          hpreviousField value (hpath ▸ hvalue)
      · exact hundisturbed.fields stream hstream hstreamRoute field hfield hold value hvalue

end

end Blueprint

namespace EventIngress

open BlueprintCompiler

/-- An event that is accepted on a route stays accepted on it under the contract of
a compatible blueprint exactly if the additions leave it alone. -/
theorem compatible_event_accepted_iff (p : Platform)
    (digest : CompiledContractDocument → Except ContractError String)
    (previous next : ValidatedBlueprint p) (context nextContext : CompileContext)
    (contract nextContract : CompiledContract) (hdevice : nextContext.deviceId = context.deviceId)
    (hcompile : compile p digest previous context = .ok contract)
    (hnextCompile : compile p digest next nextContext = .ok nextContract)
    (hcompatible : (Blueprint.compareBlueprints previous next).breaking = false)
    (codec : ContractCodec) (s t : Store) (tenant device : String) (hdevices : t.devices = s.devices)
    (hassigned : Assigned codec s tenant device contract)
    (hnextAssigned : Assigned codec t tenant device nextContract) (clock : ℤ)
    (address routeKey : String) (envelope : EventInput) (snapshot : RuleCache)
    (haccepted : AcceptedOn codec s clock tenant device address envelope snapshot routeKey) :
    AcceptedOn codec t clock tenant device address
      { envelope with contractHash := nextContract.hash } snapshot routeKey ↔
    Blueprint.Undisturbed codec previous.blueprint next.blueprint context.deviceId address routeKey
      envelope.payload := by
  obtain ⟨hattributable, -, hidentity, haccepts⟩ := (acceptedOn_iff hcompile hassigned).mp haccepted
  have hnext : Attributable codec t tenant device
      { envelope with contractHash := nextContract.hash } := by
    obtain ⟨hversion, hid, hvalid, hexists⟩ := hattributable
    refine ⟨hversion, hid, hvalid, ?_⟩
    rwa [Store.device?, hdevices]
  rw [acceptedOn_iff hnextCompile hnextAssigned, hdevice,
    Blueprint.accepts_next_iff (Blueprint.retains_of_compareBlueprints hcompatible) next.sound haccepts]
  constructor
  · rintro ⟨-, -, -, hundisturbed⟩
    exact hundisturbed
  · intro hundisturbed
    exact ⟨hnext, rfl, hidentity, hundisturbed⟩

/-! The tracker and blueprints that add to it. -/

section

/-- Stored documents are those of two contracts. -/
def exchanging (contract next : CompiledContract) : ContractCodec :=
  { Ingestion.thermometer with
    fromValue := fun value =>
      if value = .string "device" then .ok contract.document else .ok next.document
    validateInstance := fun schema payload =>
      (Schema.validateInstance default schema payload).mapError fun _ => "invalid" }

def renewed : Store :=
  { Ingestion.shared with
    contracts := ⟨[⟨"contract", "tenant", "device", "revision", .string "renewed", "hash"⟩],
      by decide⟩ }

theorem assigned_exchanging {contract next : CompiledContract} (h : contract.hash = "hash") :
    Assigned (exchanging contract next) Ingestion.shared "tenant" "device" contract :=
  ⟨_, rfl, h.symm, rfl⟩

theorem assigned_renewed {contract next : CompiledContract} (h : next.hash = "hash") :
    Assigned (exchanging contract next) renewed "tenant" "device" next :=
  ⟨_, rfl, h.symm, rfl⟩

def position : EventInput :=
  ⟨1, "event", "hash", 0, .object [("fix", .string "3d"), ("lat", .integer 1), ("lon", .integer 2)], 10⟩

/-- The position is accepted on its route when the device has the contract of the store. -/
def positionAccepted (s : Store) (contract next : CompiledContract) : Prop :=
  AcceptedOn (exchanging contract next) s 0 "tenant" "device"
    "extrittio/devices/device/events/position" position
    (RuleSnapshotRecords.compile ⟨[], fun _ => none⟩) "position"

instance (s : Store) (contract next : CompiledContract) :
    Decidable (positionAccepted s contract next) := by
  unfold positionAccepted
  infer_instance

/-- Compiling the tracker and another blueprint for the device gives contracts that pass a test. -/
def bothCompile (next : ValidatedBlueprint default)
    (test : CompiledContract → CompiledContract → Bool) : Bool :=
  succeedsWith (fun contract => succeedsWith (test contract)
    (compile default (fun _ => .ok "hash") next (contextFor "device"))) (compiledTracker "device")

theorem exists_of_bothCompile {next : ValidatedBlueprint default}
    {test : CompiledContract → CompiledContract → Bool} (h : bothCompile next test) :
    ∃ contract nextContract, compiledTracker "device" = .ok contract ∧
      compile default (fun _ => .ok "hash") next (contextFor "device") = .ok nextContract ∧
      test contract nextContract := by
  obtain ⟨contract, hcontract, h⟩ := exists_of_succeedsWith h
  obtain ⟨nextContract, hnextContract, h⟩ := exists_of_succeedsWith h
  exact ⟨contract, nextContract, hcontract, hnextContract, h⟩

def withBattery : DeviceBlueprint :=
  { tracker with
    spec := { trackerSpec with
      routes := trackerRoutes ++ [⟨"battery", "main", .deviceToCloud,
        "extrittio/devices/\x7bdevice.id\x7d/events/battery", "position@1", .json⟩]
      streams := [trackerStream, ⟨"battery", "battery", "envelope.occurred_at",
        [numberField "/level" "Level"], none⟩] } }

def validBattery : ValidatedBlueprint default := ⟨withBattery, by decide +kernel⟩

def withAnswer : DeviceBlueprint :=
  { tracker with
    spec := { trackerSpec with
      commands := [locateCommand, { locateCommand with key := "ping", responseRoute := "position" }] } }

def validAnswer : ValidatedBlueprint default := ⟨withAnswer, by decide +kernel⟩

def withFix : DeviceBlueprint :=
  { tracker with
    spec := { trackerSpec with
      streams := [{ trackerStream with fields := trackerStream.fields ++ [numberField "/fix" "Fix"] }] } }

def validFix : ValidatedBlueprint default := ⟨withFix, by decide +kernel⟩

theorem undisturbed_battery (codec : ContractCodec) : Blueprint.Undisturbed codec tracker withBattery
    "device" "extrittio/devices/device/events/position" "position" position.payload := by
  constructor
  · decide +kernel
  · decide +kernel
  · intro stream hstream hroute field hfield hadded
    exfalso
    rcases mem_cons.mp hstream with rfl | hstream
    · exact hadded ⟨trackerStream, mem_cons_self, rfl, field, hfield, rfl⟩
    · obtain rfl := mem_singleton.mp hstream
      exact absurd hroute (by decide)

theorem compatible_event_accepted_iff_battery :
    (Blueprint.compareBlueprints validTracker validBattery).breaking = false ∧
    ∃ contract nextContract, compiledTracker "device" = .ok contract ∧
      compile default (fun _ => .ok "hash") validBattery (contextFor "device") = .ok nextContract ∧
      positionAccepted Ingestion.shared contract nextContract ∧
      AcceptedOn (exchanging contract nextContract) renewed 0 "tenant" "device"
        "extrittio/devices/device/events/position"
        { position with contractHash := nextContract.hash }
        (RuleSnapshotRecords.compile ⟨[], fun _ => none⟩) "position" := by
  have hcompatible : (Blueprint.compareBlueprints validTracker validBattery).breaking = false := by
    decide +kernel
  obtain ⟨contract, nextContract, hcontract, hnextContract, htest⟩ := exists_of_bothCompile
    (by decide +kernel : bothCompile validBattery (fun contract nextContract =>
      contract.hash = "hash" && nextContract.hash = "hash" &&
        positionAccepted Ingestion.shared contract nextContract))
  simp only [Bool.and_eq_true, decide_eq_true_eq] at htest
  obtain ⟨⟨hhash, hnextHash⟩, haccepted⟩ := htest
  refine ⟨hcompatible, contract, nextContract, hcontract, hnextContract, haccepted, ?_⟩
  exact (compatible_event_accepted_iff default (fun _ => .ok "hash") validTracker validBattery
    (contextFor "device") (contextFor "device") contract nextContract rfl hcontract hnextContract
    hcompatible (exchanging contract nextContract) Ingestion.shared renewed "tenant" "device" rfl
    (assigned_exchanging hhash) (assigned_renewed hnextHash) 0
    "extrittio/devices/device/events/position" "position" position
    (RuleSnapshotRecords.compile ⟨[], fun _ => none⟩) haccepted).mpr
    (undisturbed_battery (exchanging contract nextContract))

/-- Each of the three additions is classified as compatible, and each takes the
position away from its route. -/
theorem compatible_additions_reject :
    [ContractIngress.validBeacon, validAnswer, validFix].Forall fun next =>
      (Blueprint.compareBlueprints validTracker next).breaking = false ∧
      ∃ contract nextContract, compiledTracker "device" = .ok contract ∧
        compile default (fun _ => .ok "hash") next (contextFor "device") = .ok nextContract ∧
        positionAccepted Ingestion.shared contract nextContract ∧
        ¬positionAccepted renewed contract nextContract := by
  have hall : ([ContractIngress.validBeacon, validAnswer, validFix].all fun next =>
      !(Blueprint.compareBlueprints validTracker next).breaking &&
        bothCompile next fun contract nextContract =>
          positionAccepted Ingestion.shared contract nextContract &&
            !decide (positionAccepted renewed contract nextContract)) := by
    decide +kernel
  refine forall_iff_forall_mem.mpr fun next hnext => ?_
  obtain ⟨hbreaking, hcompile⟩ := Bool.and_eq_true_iff.mp (List.all_eq_true.mp hall next hnext)
  obtain ⟨contract, nextContract, hcontract, hnextContract, h⟩ := exists_of_bothCompile hcompile
  simp only [Bool.and_eq_true, Bool.not_eq_true', decide_eq_true_eq, decide_eq_false_iff_not] at h
  exact ⟨by simpa using hbreaking, contract, nextContract, hcontract, hnextContract, h⟩

end

end EventIngress

end Extrittio
