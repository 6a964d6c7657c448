import Extrittio.Contract.Closure
import Extrittio.Events.Isolation

/-!
How the address of an incoming message finds its route. The lookup takes the
first match in key order, and validation does not keep two device-to-cloud
routes from having one address.
-/
namespace Extrittio

/-- The contract is assigned to the device: what is stored for it decodes to the contract. -/
def Assigned (codec : ContractCodec) (s : Store) (tenant device : String)
    (contract : CompiledContract) : Prop :=
  ∃ row, s.assignedContract tenant device = some row ∧ row.contractHash = contract.hash ∧
    codec.fromValue row.document = .ok contract.document

namespace ContractIngress

variable {codec : ContractCodec} {s : Store} {tenant device address : String}
  {document : CompiledContractDocument} {key : String}

theorem resolve_of_assigned {contract : CompiledContract}
    (h : Assigned codec s tenant device contract) :
    resolve codec s tenant device address = .ok (routeOf contract.document address) := by
  obtain ⟨row, hrow, -, hdocument⟩ := h
  simp [resolve, hrow, hdocument, Except.mapError, bind, Except.bind, pure, Except.pure]

theorem decoderOf_eq_jsonEvent_iff {routeKey : String} {route : CompiledRoute} :
    decoderOf document routeKey route = .jsonEvent key ↔ routeKey = key ∧ route.encoding = .json ∧
      ∀ name command, document.commands.get? name = some command →
        command.responseRoute ≠ routeKey := by
  have hany : (document.commands.entries.any fun command => command.2.responseRoute = routeKey) =
      true ↔ ∃ name command, document.commands.get? name = some command ∧
        command.responseRoute = routeKey := by
    simp only [List.any_eq_true, Prod.exists, decide_eq_true_eq, OrderedMap.get?_eq_some_iff]
  rw [decoderOf]
  split_ifs with hresponse hjson
  · obtain ⟨name, command, hget, hroute⟩ := hany.mp hresponse
    constructor
    · intro h
      cases h
    · rintro ⟨-, -, hfree⟩
      exact absurd hroute (hfree name command hget)
  · rw [ContractIngressRoute.jsonEvent.injEq]
    constructor
    · intro h
      exact ⟨h, hjson, fun name command hget hroute => hresponse (hany.mpr ⟨name, command, hget, hroute⟩)⟩
    · intro h
      exact h.1
  · constructor
    · intro h
      cases h
    · rintro ⟨-, h, -⟩
      exact absurd h hjson

/-- An address is a JSON event of the route that comes first among those with it. -/
theorem routeOf_eq_jsonEvent_iff : routeOf document address = some (.jsonEvent key) ↔
    ∃ route, document.routes.get? key = some route ∧ route.direction = .deviceToCloud ∧
      route.address = address ∧ route.encoding = .json ∧
      (∀ name command, document.commands.get? name = some command →
        command.responseRoute ≠ key) ∧
      ∀ other otherRoute, document.routes.get? other = some otherRoute →
        otherRoute.direction = .deviceToCloud → otherRoute.address = address → key ≤ other := by
  have hfind (routeKey : String) (route : CompiledRoute) := OrderedMap.find?_entries_eq_some_iff
    (m := document.routes) (k := routeKey) (v := route)
    (p := fun entry => entry.2.direction = .deviceToCloud && entry.2.address = address)
  simp only [Bool.and_eq_true, decide_eq_true_eq, and_imp] at hfind
  rw [routeOf, Option.map_eq_some_iff]
  constructor
  · rintro ⟨⟨routeKey, route⟩, hroute, hdecoder⟩
    obtain ⟨hget, ⟨hdirection, haddress⟩, hleast⟩ := (hfind routeKey route).mp hroute
    obtain ⟨rfl, hjson, hfree⟩ := decoderOf_eq_jsonEvent_iff.mp hdecoder
    exact ⟨route, hget, hdirection, haddress, hjson, hfree, hleast⟩
  · rintro ⟨route, hget, hdirection, haddress, hjson, hfree, hleast⟩
    exact ⟨(key, route), (hfind key route).mpr ⟨hget, ⟨hdirection, haddress⟩, hleast⟩,
      decoderOf_eq_jsonEvent_iff.mpr ⟨rfl, hjson, hfree⟩⟩

open BlueprintCompiler in
/-- A device-to-cloud JSON route that answers no command is found under its own
address exactly if no device-to-cloud route with a smaller key has that address. -/
theorem resolve_own_route_iff (p : Platform)
    (digest : CompiledContractDocument → Except ContractError String)
    (blueprint : ValidatedBlueprint p) (context : CompileContext) (contract : CompiledContract)
    (hcompile : compile p digest blueprint context = .ok contract) (codec : ContractCodec)
    (s : Store) (tenant device : String) (hassigned : Assigned codec s tenant device contract)
    (key : String) (route : CompiledRoute) (hroute : contract.document.routes.get? key = some route)
    (hdirection : route.direction = .deviceToCloud) (hencoding : route.encoding = .json)
    (hfree : ∀ name command, contract.document.commands.get? name = some command →
      command.responseRoute ≠ key) :
    resolve codec s tenant device route.address = .ok (some (.jsonEvent key)) ↔
      ∀ other ∈ blueprint.blueprint.spec.routes, other.direction = .deviceToCloud →
        Blueprint.expandAddress other.address context.deviceId = route.address →
        key ≤ other.key := by
  have hc := compiledFrom_of_compile hcompile
  rw [resolve_of_assigned hassigned, Except.ok.injEq, routeOf_eq_jsonEvent_iff]
  constructor
  · rintro ⟨_, -, -, -, -, -, hleast⟩ other hother hotherDirection haddress
    exact hleast other.key _ (hc.get?_route blueprint.sound hother) hotherDirection haddress
  · intro hleast
    refine ⟨route, hroute, hdirection, rfl, hencoding, hfree, ?_⟩
    intro other otherRoute hother hotherDirection haddress
    obtain ⟨declared, hmem, heq⟩ := hc.exists_route hother
    cases heq
    exact hleast declared hmem hotherDirection haddress

/-- Every stored document is that of the contract, and payloads are not inspected. -/
def storing (contract : CompiledContract) : ContractCodec :=
  { Ingestion.thermometer with fromValue := fun _ => .ok contract.document }

theorem assigned_storing {contract : CompiledContract} (h : contract.hash = "hash") :
    Assigned (storing contract) Ingestion.shared "tenant" "device" contract := by
  exact ⟨_, rfl, h.symm, rfl⟩

section

open BlueprintCompiler

def positionRoute : CompiledRoute :=
  ⟨"main", .deviceToCloud, "extrittio/devices/device/events/position", "position@1", .json⟩

/-- The contract has the position route and no command is answered on it. -/
def servesPosition (contract : CompiledContract) : Bool :=
  contract.hash = "hash" && contract.document.routes.get? "position" = some positionRoute &&
    contract.document.commands.entries.all fun command => command.2.responseRoute ≠ "position"

theorem of_servesPosition {contract : CompiledContract} (h : servesPosition contract) :
    contract.hash = "hash" ∧ contract.document.routes.get? "position" = some positionRoute ∧
      ∀ name command, contract.document.commands.get? name = some command →
        command.responseRoute ≠ "position" := by
  simp only [servesPosition, Bool.and_eq_true, decide_eq_true_eq, List.all_eq_true] at h
  exact ⟨h.1.1, h.1.2,
    fun name command hget => h.2 (name, command) (OrderedMap.get?_eq_some_iff.mp hget)⟩

theorem resolve_own_route_iff_tracker :
    ∃ contract, compiledTracker "device" = .ok contract ∧
      contract.document.routes.get? "position" = some positionRoute ∧
      resolve (storing contract) Ingestion.shared "tenant" "device" positionRoute.address =
        .ok (some (.jsonEvent "position")) := by
  obtain ⟨contract, hcontract, hserves⟩ := exists_of_succeedsWith
    (by decide +kernel : succeedsWith servesPosition (compiledTracker "device"))
  obtain ⟨hhash, hroute, hfree⟩ := of_servesPosition hserves
  refine ⟨contract, hcontract, hroute, ?_⟩
  exact (resolve_own_route_iff default (fun _ => .ok "hash") validTracker (contextFor "device") contract
    hcontract (storing contract) Ingestion.shared "tenant" "device"
    (assigned_storing hhash) "position" positionRoute hroute rfl rfl hfree).mpr
    (by decide +kernel)

/-- A tracker with a second route on the address of its positions. -/
def beacon : DeviceBlueprint :=
  { tracker with
    spec := { trackerSpec with
      routes := ⟨"beacon", "main", .deviceToCloud,
        "extrittio/devices/\x7bdevice.id\x7d/events/position", "position@1", .json⟩ ::
          trackerRoutes } }

def validBeacon : ValidatedBlueprint default := ⟨beacon, by decide +kernel⟩

def compiledBeacon : Except CompileFailure CompiledContract :=
  compile default (fun _ => .ok "hash") validBeacon (contextFor "device")

/-- What the device sends on its position route arrives on the other one. -/
theorem position_taken_by_beacon :
    ∃ contract, compiledBeacon = .ok contract ∧
      contract.document.routes.get? "position" = some positionRoute ∧
      (∀ name command, contract.document.commands.get? name = some command →
        command.responseRoute ≠ "position") ∧
      resolve (storing contract) Ingestion.shared "tenant" "device" positionRoute.address =
        .ok (some (.jsonEvent "beacon")) := by
  obtain ⟨contract, hcontract, htest⟩ := exists_of_succeedsWith
    (by decide +kernel : succeedsWith (fun contract => servesPosition contract &&
      routeOf contract.document positionRoute.address = some (.jsonEvent "beacon"))
        compiledBeacon)
  obtain ⟨hserves, hbeacon⟩ := Bool.and_eq_true_iff.mp htest
  obtain ⟨hhash, hroute, hfree⟩ := of_servesPosition hserves
  refine ⟨contract, hcontract, hroute, hfree, ?_⟩
  rw [resolve_of_assigned (assigned_storing hhash), of_decide_eq_true hbeacon]

end

end ContractIngress

end Extrittio
