import Extrittio.Zenoh.AccessControl

/-!
What the generated access control means for devices. No device reaches the topics
of another. Of the routes in its own contract a device reaches only those whose
addresses are built-in topics.
-/
namespace Extrittio

open List

namespace Zenoh

open BlueprintCompiler

/-! Topics of other devices. -/

theorem deviceSpace_of_granted {deviceId key : String} {flow : Flow} {message : MessageKind}
    (h : key ∈ grantedKeys deviceId flow message) : deviceSpace deviceId <+: key.toList := by
  have hput : ∀ key ∈ deviceIngressPutKeyexprs deviceId, deviceSpace deviceId <+: key.toList := by
    intro key hkey
    simp only [deviceIngressPutKeyexprs, mem_cons, not_mem_nil, or_false] at hkey
    rcases hkey with rfl | rfl | rfl | rfl | rfl | rfl <;> exact ⟨_, (toList_ofDevice _ _).symm⟩
  have hdownstream : ∀ key ∈ deviceDownstreamKeyexprs deviceId,
      deviceSpace deviceId <+: key.toList := by
    intro key hkey
    simp only [deviceDownstreamKeyexprs, mem_cons, not_mem_nil, or_false] at hkey
    rcases hkey with rfl | rfl <;> exact ⟨_, (toList_ofDevice _ _).symm⟩
  unfold grantedKeys at h
  split at h
  · exact hput key h
  · exact hdownstream key h
  · exact hdownstream key h
  · cases h

/-- The holder of a certificate may not put, subscribe to or receive anything on the
topics of another device. -/
theorem acl_isolated (certificateIds : List String) (a b : String) (hne : a ≠ b)
    (hslash : '/' ∉ b.toList) (key : String) (hkey : deviceSpace b <+: key.toList) (flow : Flow)
    (message : MessageKind) (hflow : (flow, message) ≠ (.egress, .declareSubscriber)) :
    (deviceAcl certificateIds).permits a flow message key = false := by
  rw [← Bool.not_eq_true, permits_deviceAcl_iff hflow]
  rintro ⟨⟨-, hvalid⟩, hgranted⟩
  have hown : '/' ∉ a.toList := by
    intro hmem
    have hsafe := safe_of_isValidDeviceId hvalid _ hmem
    revert hsafe
    decide
  exact hne (deviceSpace_disjoint hown hslash (deviceSpace_of_granted hgranted) hkey)

theorem acl_isolated_pair :
    (deviceAcl ["dev.1", "dev:2", "*"]).permits "dev.1" .ingress .put
        "extrittio/devices/dev.1/telemetry" = true ∧
      (deviceAcl ["dev.1", "dev:2", "*"]).permits "dev.1" .ingress .put
        "extrittio/devices/dev:2/telemetry" = false :=
  ⟨by decide, acl_isolated _ "dev.1" "dev:2" (by decide) (by decide) _ (by decide) .ingress .put
    (by decide)⟩

/-- An identifier with a slash names topics of another device. -/
theorem nested_topic_permitted :
    "x" ≠ "x/commands" ∧
      deviceSpace "x/commands" <+: "extrittio/devices/x/commands/response".toList ∧
      (deviceAcl ["x", "x/commands"]).permits "x" .ingress .put
        "extrittio/devices/x/commands/response" = true := by
  decide

/-! Routes of a device's own contract. -/

theorem isValidDeviceId_of_validateContext {context : CompileContext}
    (h : validateContext context = .ok ()) : Topics.isValidDeviceId context.deviceId := by
  have hsafe := safe_of_validateContext h
  simp only [validateContext] at h
  obtain ⟨_, hfields, -⟩ := of_bind_ok h
  obtain ⟨_, -, hfields⟩ := of_bind_ok hfields
  obtain ⟨_, -, hfields⟩ := of_bind_ok hfields
  obtain ⟨_, hdevice, -⟩ := of_bind_ok hfields
  simp only at hdevice
  split_ifs at hdevice with hbad
  simp only [Bool.or_eq_true, decide_eq_true_eq, not_or, not_lt] at hbad
  have hpos : context.deviceId.utf8ByteSize ≠ 0 := by
    intro hzero
    rw [String.utf8ByteSize_eq_zero_iff.mp hzero] at hbad
    exact hbad.1 rfl
  rw [Topics.isValidDeviceId, Bool.and_eq_true, decide_eq_true_eq, all_eq_true]
  exact ⟨⟨Nat.one_le_iff_ne_zero.mpr hpos, hbad.2⟩, hsafe⟩

/-- The device may use the route: put on it, or subscribe to it and receive on it. -/
def RoutePermitted (control : AccessControl) (deviceId : String) (route : CompiledRoute) : Prop :=
  match route.direction with
  | .deviceToCloud => control.permits deviceId .ingress .put route.address = true
  | .cloudToDevice => control.permits deviceId .ingress .declareSubscriber route.address = true ∧
      control.permits deviceId .egress .put route.address = true

/-- The address is one of the built-in topics of the device, in the route's direction. -/
def BuiltIn (deviceId : String) (route : CompiledRoute) : Prop :=
  match route.direction with
  | .deviceToCloud => route.address ∈ deviceIngressPutKeyexprs deviceId
  | .cloudToDevice => route.address ∈ deviceDownstreamKeyexprs deviceId

instance (deviceId : String) (route : CompiledRoute) : Decidable (BuiltIn deviceId route) := by
  unfold BuiltIn
  split <;> infer_instance

theorem routePermitted_iff {certificateIds : List String} {deviceId : String}
    (hmem : deviceId ∈ certificateIds) (hvalid : Topics.isValidDeviceId deviceId)
    (route : CompiledRoute) :
    RoutePermitted (deviceAcl certificateIds) deviceId route ↔ BuiltIn deviceId route := by
  have hlisted : deviceId ∈ certificateIds ∧ Topics.isValidDeviceId deviceId := ⟨hmem, hvalid⟩
  unfold RoutePermitted BuiltIn
  cases route.direction with
  | deviceToCloud =>
    rw [permits_deviceAcl_iff (by decide), and_iff_right hlisted]
    exact Iff.rfl
  | cloudToDevice =>
    show _ ∧ _ ↔ _
    rw [permits_deviceAcl_iff (by decide), permits_deviceAcl_iff (by decide),
      and_iff_right hlisted, and_iff_right hlisted]
    exact and_self_iff

/-- A listed device may use all Zenoh routes of its contract exactly if their
addresses are built-in topics in the right direction. -/
theorem contract_routes_permitted_iff (p : Platform)
    (digest : CompiledContractDocument → Except ContractError String)
    (blueprint : ValidatedBlueprint p) (context : CompileContext) (contract : CompiledContract)
    (hcompile : compile p digest blueprint context = .ok contract) (certificateIds : List String)
    (hmem : context.deviceId ∈ certificateIds) :
    (∀ route, ZenohRoute contract.document route →
      RoutePermitted (deviceAcl certificateIds) context.deviceId route) ↔
    ∀ route, ZenohRoute contract.document route → BuiltIn context.deviceId route := by
  have hvalid := isValidDeviceId_of_validateContext (compiledFrom_of_compile hcompile).admitted
  exact forall_congr' fun route => imp_congr_right fun _ => routePermitted_iff hmem hvalid route

/-- A tracker whose routes are the built-in topics. -/
def plainRoutes : List RouteDefinition :=
  [⟨"position", "main", .deviceToCloud, "extrittio/devices/\x7bdevice.id\x7d/telemetry",
      "position@1", .json⟩,
   ⟨"ask", "main", .cloudToDevice, "extrittio/devices/\x7bdevice.id\x7d/commands", "position@1",
      .json⟩,
   ⟨"answer", "main", .deviceToCloud, "extrittio/devices/\x7bdevice.id\x7d/commands/response",
      "position@1", .json⟩]

def validPlain : ValidatedBlueprint default :=
  ⟨{ tracker with spec := { trackerSpec with routes := plainRoutes } }, by decide +kernel⟩

def compiledPlain : Except CompileFailure CompiledContract :=
  compile default (fun _ => .ok "hash") validPlain (contextFor "t-1")

theorem contract_routes_permitted_iff_plain :
    ∃ contract, compiledPlain = .ok contract ∧
      contract.document.routes.entries.length = 3 ∧
      ∀ route, ZenohRoute contract.document route → RoutePermitted (deviceAcl ["t-1"]) "t-1" route := by
  obtain ⟨contract, hcontract, htest⟩ := exists_of_succeedsWith
    (by decide +kernel : succeedsWith (fun contract =>
      decide (contract.document.routes.entries.length = 3) &&
        contract.document.routes.entries.all fun entry => BuiltIn "t-1" entry.2) compiledPlain)
  obtain ⟨hlength, hall⟩ := Bool.and_eq_true_iff.mp htest
  refine ⟨contract, hcontract, of_decide_eq_true hlength, ?_⟩
  refine (contract_routes_permitted_iff default (fun _ => .ok "hash") validPlain (contextFor "t-1")
    contract hcontract ["t-1"] mem_cons_self).mpr fun route hroute => ?_
  obtain ⟨key, _, hget, -⟩ := hroute
  exact of_decide_eq_true (all_eq_true.mp hall (key, route) (OrderedMap.get?_eq_some_iff.mp hget))

/-- The tracker's positions have a topic of their own, which its certificate may not
use. -/
theorem position_route_denied :
    ∃ contract route, compiledTracker "t-1" = .ok contract ∧ ZenohRoute contract.document route ∧
      ¬RoutePermitted (deviceAcl ["t-1"]) "t-1" route := by
  let position : CompiledRoute :=
    ⟨"main", .deviceToCloud, "extrittio/devices/t-1/events/position", "position@1", .json⟩
  obtain ⟨contract, hcontract, htest⟩ := exists_of_succeedsWith
    (by decide +kernel : succeedsWith (fun contract =>
      decide (contract.document.routes.get? "position" = some position) &&
        (contract.document.transports.get? "main").any (·.protocol = .zenoh))
        (compiledTracker "t-1"))
  obtain ⟨hroute, htransport⟩ := Bool.and_eq_true_iff.mp htest
  obtain ⟨transport, hget, hprotocol⟩ := (Option.any_eq_true ..).mp htransport
  refine ⟨contract, position, hcontract, ⟨"position", transport, of_decide_eq_true hroute, hget,
    of_decide_eq_true hprotocol⟩, ?_⟩
  rw [routePermitted_iff mem_cons_self (by decide)]
  decide

end Zenoh

end Extrittio
