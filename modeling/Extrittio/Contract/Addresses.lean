import Extrittio.Contract.Closure

/-!
The addresses of compiled routes. The device variable is replaced textually; what
keeps devices apart is that a Zenoh address begins with the device's own id
between slashes, and that an id has no slash.
-/
namespace Extrittio

open Blueprint Template

namespace BlueprintCompiler

def ZenohRoute (document : CompiledContractDocument) (route : CompiledRoute) : Prop :=
  ∃ key transport, document.routes.get? key = some route ∧
    document.transports.get? route.transport = some transport ∧ transport.protocol = .zenoh

/-- Characters that an address must not have: template braces and wildcards. -/
def reservedCharacters : List Char := ['{', '}', '*', '#']

def deviceSpace (deviceId : String) : List Char :=
  "extrittio/devices/".toList ++ deviceId.toList ++ ['/']

section

variable {context : CompileContext}

theorem safe_of_validateContext (h : validateContext context = .ok ()) :
    ∀ c ∈ context.deviceId.toList, safeInRoute c := by
  simp only [validateContext] at h
  obtain ⟨_, -, h⟩ := of_bind_ok h
  split at h
  · cases h
  · split at h
    · cases h
    · rename_i hall
      simpa using hall

theorem not_mem_of_safe (h : validateContext context = .ok ()) {c : Char}
    (hc : safeInRoute c = false) : c ∉ context.deviceId.toList := by
  intro hmem
  rw [safe_of_validateContext h c hmem] at hc
  cases hc

end

theorem deviceSpace_prefix_expand {address deviceId : String}
    (h : zenohPrefix <+: address.toList) :
    deviceSpace deviceId <+: (expandAddress address deviceId).toList := by
  obtain ⟨rest, hrest⟩ := h
  have hhead : deviceVariable.head? = some '{' := rfl
  have hne : deviceVariable ≠ [] := by
    intro hnil
    rw [hnil] at hhead
    cases hhead
  have hliteral : ∀ c ∈ "extrittio/devices/".toList, deviceVariable.head? ≠ some c := by
    rw [hhead]
    simp
  have htail : ∀ c ∈ ['/'], deviceVariable.head? ≠ some c := by
    rw [hhead]
    simp
  rw [expandAddress, String.toList_ofList, ← hrest]
  exact ⟨_, (replaceAll_between hne hliteral htail).symm⟩

theorem not_safe_of_reserved {c : Char} (h : c ∈ reservedCharacters) : safeInRoute c = false := by
  have hall : reservedCharacters.all (fun c => !safeInRoute c) := by decide
  simpa using List.all_eq_true.mp hall c h

section

variable {blueprint : DeviceBlueprint} {context : CompileContext}
  {document : CompiledContractDocument} {route : CompiledRoute}

theorem CompiledFrom.inDeviceSpace (hc : CompiledFrom blueprint context document)
    (hs : Blueprint.Sound blueprint) (h : ZenohRoute document route) :
    deviceSpace context.deviceId <+: route.address.toList := by
  obtain ⟨key, transport, hroute, htransport, hprotocol⟩ := h
  obtain ⟨declared, hmem, heq⟩ := hc.exists_route hroute
  cases heq
  obtain ⟨declaredTransport, hdeclared, hkey, hspace⟩ := hs.routeTransport declared hmem
  obtain ⟨compiled, hcompiled, hget⟩ := hc.get?_transport hs hdeclared
  have hsame : compiled = transport := by
    rw [hkey] at hget
    exact Option.some.inj (hget.symm.trans htransport)
  have hzenoh : declaredTransport.protocol = .zenoh := by
    rw [← (fst_of_compileTransport hcompiled).2, hsame]
    exact hprotocol
  exact deviceSpace_prefix_expand (hspace hzenoh)

theorem CompiledFrom.not_reserved (hc : CompiledFrom blueprint context document)
    (hs : Blueprint.Sound blueprint) {key : String}
    (h : document.routes.get? key = some route) {c : Char} (hreserved : c ∈ reservedCharacters) :
    c ∉ route.address.toList := by
  obtain ⟨declared, hmem, heq⟩ := hc.exists_route h
  cases heq
  obtain ⟨⟨hopen, hclose⟩, hstar, hhash⟩ := hs.routeAddress declared hmem
  have hid : c ∉ context.deviceId.toList :=
    not_mem_of_safe hc.admitted (not_safe_of_reserved hreserved)
  intro hin
  have hin : c ∈ replaceAll deviceVariable context.deviceId.toList
      declared.address.toList := by
    rwa [expandAddress, String.toList_ofList] at hin
  rcases mem_replaceAll hin with hrest | hmem
  · simp only [reservedCharacters, List.mem_cons, List.not_mem_nil, or_false] at hreserved
    rcases hreserved with rfl | rfl | rfl | rfl
    · exact hopen hrest
    · exact hclose hrest
    · exact hstar (of_mem_replaceAll_nil hrest)
    · exact hhash (of_mem_replaceAll_nil hrest)
  · exact hid hmem

end

/-- Topic spaces of different devices have no address in common. -/
theorem deviceSpace_disjoint {a b : String} {address : List Char} (ha : '/' ∉ a.toList)
    (hb : '/' ∉ b.toList) (hpa : deviceSpace a <+: address) (hpb : deviceSpace b <+: address) :
    a = b :=
  String.toList_inj.mp (segment_unique ha hb hpa hpb)

/-- Contracts of one blueprint for different devices share no Zenoh address: each
address is in its own device's topic space, and none has a brace or a wildcard. -/
theorem compile_isolated (p : Platform)
    (digest : CompiledContractDocument → Except ContractError String)
    (blueprint : ValidatedBlueprint p) (context other : CompileContext)
    (contract otherContract : CompiledContract) (hne : context.deviceId ≠ other.deviceId)
    (h : compile p digest blueprint context = .ok contract)
    (hother : compile p digest blueprint other = .ok otherContract) :
    (∀ route otherRoute, ZenohRoute contract.document route →
      ZenohRoute otherContract.document otherRoute → route.address ≠ otherRoute.address) ∧
    (∀ route, ZenohRoute contract.document route →
      deviceSpace context.deviceId <+: route.address.toList) ∧
    (∀ route, ZenohRoute otherContract.document route →
      deviceSpace other.deviceId <+: route.address.toList) ∧
    (∀ key route, contract.document.routes.get? key = some route →
      ∀ c ∈ reservedCharacters, c ∉ route.address.toList) ∧
    (∀ key route, otherContract.document.routes.get? key = some route →
      ∀ c ∈ reservedCharacters, c ∉ route.address.toList) := by
  have hs := blueprint.sound
  have hc := compiledFrom_of_compile h
  have ho := compiledFrom_of_compile hother
  have hslash : safeInRoute '/' = false := by decide
  refine ⟨fun route otherRoute hroute hotherRoute hequal => ?_,
    fun route hroute => hc.inDeviceSpace hs hroute,
    fun route hroute => ho.inDeviceSpace hs hroute,
    fun key route hroute c hreserved => hc.not_reserved hs hroute hreserved,
    fun key route hroute c hreserved => ho.not_reserved hs hroute hreserved⟩
  have hspace := hc.inDeviceSpace hs hroute
  rw [hequal] at hspace
  exact hne (deviceSpace_disjoint (not_mem_of_safe hc.admitted hslash)
    (not_mem_of_safe ho.admitted hslash) hspace (ho.inDeviceSpace hs hotherRoute))

theorem compile_isolated_trackers :
    ∃ contract other, compiledTracker "t-1" = .ok contract ∧ compiledTracker "t-2" = .ok other ∧
      ∀ route otherRoute, ZenohRoute contract.document route →
        ZenohRoute other.document otherRoute → route.address ≠ otherRoute.address := by
  obtain ⟨contract, hcontract, -⟩ := exists_of_succeedsWith
    (by decide +kernel : succeedsWith (fun _ => true) (compiledTracker "t-1"))
  obtain ⟨other, hother, -⟩ := exists_of_succeedsWith
    (by decide +kernel : succeedsWith (fun _ => true) (compiledTracker "t-2"))
  exact ⟨contract, other, hcontract, hother, (compile_isolated default (fun _ => .ok "hash") validTracker
    (contextFor "t-1") (contextFor "t-2") contract other (by decide) hcontract hother).1⟩

end BlueprintCompiler

end Extrittio
