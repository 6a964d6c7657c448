import Extrittio.Contract.Compatibility
import Extrittio.Contract.Routing

/-!
Commands under the contracts of two blueprints. A comparison without a breaking
change keeps every command and its schemas, but a command may be moved to other
routes; it is kept at its addresses exactly if it is not.
-/
namespace Extrittio

open List Blueprint

namespace CommandApplication

/-- The checks before a command is published, and the address to publish it on.
Without an assigned contract the address is left to the bus. -/
def validate (codec : ContractCodec) (supports : TransportProtocol → Bool) (s : Store)
    (tenant device command : String) (params : Json) : Except ApplicationError (Option String) := do
  if params.asObject.isNone then
    throw (.invalidInput "Command params must be a JSON object")
  let some assigned := s.assignedContract tenant device | return none
  let contract ← (codec.fromValue assigned.document).mapError fun e =>
    .internal s!"stored device contract is invalid: {e}"
  let some definition := contract.commands.get? command
    | throw (.invalidOperation s!"Command '{command}' is not declared by the device contract")
  (codec.validateInstance definition.inputSchema params).mapError fun e =>
    .invalidOperation s!"Command '{command}' input failed contract validation: {e}"
  let some route := contract.routes.get? definition.requestRoute
    | throw (.internal "command request route is missing")
  let some transport := contract.transports.get? route.transport
    | throw (.internal "command transport is missing")
  if !supports transport.protocol then
    throw (.invalidOperation (s!"Command '{command}' requires an unavailable " ++
      s!"{BlueprintCompiler.protocolName transport.protocol} transport adapter"))
  return some route.address

theorem address_of_validate {codec : ContractCodec} {supports : TransportProtocol → Bool} {s : Store}
    {tenant device name address : String} {params : Json} {contract : CompiledContract}
    {command : CompiledCommand} (hassigned : Assigned codec s tenant device contract)
    (hcommand : contract.document.commands.get? name = some command)
    (h : validate codec supports s tenant device name params = .ok (some address)) :
    ∃ route, contract.document.routes.get? command.requestRoute = some route ∧
      route.address = address := by
  obtain ⟨row, hrow, -, hdocument⟩ := hassigned
  have hdecoded {f : String → ApplicationError} :
      (codec.fromValue row.document).mapError f = .ok contract.document := by
    rw [hdocument]
    rfl
  simp only [validate, hrow] at h
  split at h
  · cases h
  obtain ⟨_, hfound, h⟩ := of_bind_ok h
  obtain rfl := Except.ok.inj (hdecoded.symm.trans hfound)
  simp only [hcommand] at h
  obtain ⟨_, -, h⟩ := of_bind_ok h
  cases hroute : contract.document.routes.get? command.requestRoute with
  | none =>
    simp only [hroute] at h
    cases h
  | some route =>
    simp only [hroute] at h
    split at h
    · split at h
      · cases h
      · cases h
        exact ⟨route, rfl, rfl⟩
    · cases h

end CommandApplication

namespace Blueprint

def addressOf (blueprint : DeviceBlueprint) (route : String) : Option String :=
  ((routes blueprint).1.get? route).map (·.address)

/-- The next blueprint has the command at the same addresses and with the same schemas. -/
structure KeepsCommand (previous next : DeviceBlueprint) (command nextCommand : CommandDefinition) :
    Prop where
  key : nextCommand.key = command.key
  request : addressOf next nextCommand.requestRoute = addressOf previous command.requestRoute
  response : addressOf next nextCommand.responseRoute = addressOf previous command.responseRoute
  inputSchema : nextCommand.inputSchema = command.inputSchema
  resultSchema : nextCommand.resultSchema = command.resultSchema

def KeepsCommands (previous next : DeviceBlueprint) : Prop :=
  ∀ command ∈ previous.spec.commands, ∃ nextCommand ∈ next.spec.commands,
    KeepsCommand previous next command nextCommand

/-- No command is moved to a route with another address than its old route has. -/
def CommandsStay (previous next : DeviceBlueprint) : Prop :=
  ∀ command ∈ previous.spec.commands, ∀ nextCommand ∈ next.spec.commands,
    nextCommand.key = command.key →
      addressOf next nextCommand.requestRoute = addressOf next command.requestRoute ∧
      addressOf next nextCommand.responseRoute = addressOf next command.responseRoute

section

variable {p : Platform} {previous next : ValidatedBlueprint p}

variable {route : RouteDefinition} {command : CommandDefinition}

theorem addressOf_eq {blueprint : DeviceBlueprint} (hs : Sound blueprint)
    (h : route ∈ blueprint.spec.routes) : addressOf blueprint route.key = some route.address := by
  rw [addressOf, routes, get?_keyed hs.routeKeys h]
  rfl

theorem Retains.addressOf_eq (h : Retains previous.blueprint next.blueprint)
    (hroute : route ∈ previous.blueprint.spec.routes) :
    addressOf next.blueprint route.key = addressOf previous.blueprint route.key := by
  rw [Blueprint.addressOf_eq previous.sound hroute,
    Blueprint.addressOf_eq next.sound (h.routes route hroute)]

/-- Without a breaking change every command is kept with its schemas. -/
theorem command_of_compareBlueprints (h : (compareBlueprints previous next).breaking = false)
    (hcommand : command ∈ previous.blueprint.spec.commands) :
    ∃ nextCommand ∈ next.blueprint.spec.commands, nextCommand.key = command.key ∧
      nextCommand.inputSchema = command.inputSchema ∧
      nextCommand.resultSchema = command.resultSchema := by
  have hchanges : Compatible (compareChanges previous.blueprint next.blueprint) := by
    intro change hchange
    simpa using any_eq_false.mp h change hchange
  simp only [compareChanges, compatible_append, and_assoc] at hchanges
  obtain ⟨-, -, -, -, -, hcommands, -⟩ := hchanges
  obtain ⟨nextCommand, hmem, hkey, _, hcompare⟩ :=
    of_compareKeyed previous.sound.commandKeys hcommands hcommand
  have hsame := not_of_compatible hcompare
  push Not at hsame
  exact ⟨nextCommand, hmem, hkey, hsame.1.symm, hsame.2.symm⟩

theorem addresses_of_command (h : Retains previous.blueprint next.blueprint)
    (hcommand : command ∈ previous.blueprint.spec.commands) :
    addressOf next.blueprint command.requestRoute =
        addressOf previous.blueprint command.requestRoute ∧
      addressOf next.blueprint command.responseRoute =
        addressOf previous.blueprint command.responseRoute := by
  obtain ⟨request, hrequest, hrequestKey, -⟩ := previous.sound.commandRequest command hcommand
  obtain ⟨response, hresponse, hresponseKey, -⟩ := previous.sound.commandResponse command hcommand
  rw [← hrequestKey, ← hresponseKey]
  exact ⟨h.addressOf_eq hrequest, h.addressOf_eq hresponse⟩

theorem keepsCommands_iff (h : (compareBlueprints previous next).breaking = false) :
    KeepsCommands previous.blueprint next.blueprint ↔
      CommandsStay previous.blueprint next.blueprint := by
  have hretains := retains_of_compareBlueprints h
  constructor
  · intro hkeeps command hcommand nextCommand hnext hkey
    obtain ⟨kept, hkept, hkeepsCommand⟩ := hkeeps command hcommand
    obtain rfl : kept = nextCommand := inj_on_of_nodup_map next.sound.commandKeys hkept hnext
      (hkeepsCommand.key.trans hkey.symm)
    obtain ⟨hrequest, hresponse⟩ := addresses_of_command hretains hcommand
    exact ⟨hkeepsCommand.request.trans hrequest.symm, hkeepsCommand.response.trans hresponse.symm⟩
  · intro hstay command hcommand
    obtain ⟨nextCommand, hnext, hkey, hinput, hresult⟩ := command_of_compareBlueprints h hcommand
    obtain ⟨hrequest, hresponse⟩ := addresses_of_command hretains hcommand
    obtain ⟨hnextRequest, hnextResponse⟩ := hstay command hcommand nextCommand hnext hkey
    exact ⟨nextCommand, hnext, hkey, hnextRequest.trans hrequest, hnextResponse.trans hresponse,
      hinput, hresult⟩

end

end Blueprint

namespace ContractIngress

/-- A reply is recognised on the address of its route, if no other route takes it. -/
theorem routeOf_eq_commandResponse {document : CompiledContractDocument} {name : String}
    {command : CompiledCommand} {route : CompiledRoute}
    (hcommand : document.commands.get? name = some command)
    (hroute : document.routes.get? command.responseRoute = some route)
    (hdirection : route.direction = .deviceToCloud)
    (hfirst : ∀ other otherRoute, document.routes.get? other = some otherRoute →
      otherRoute.direction = .deviceToCloud → otherRoute.address = route.address →
        command.responseRoute ≤ other) :
    routeOf document route.address = some .commandResponse := by
  have hfind := OrderedMap.find?_entries_eq_some_iff (m := document.routes)
    (k := command.responseRoute) (v := route)
    (p := fun entry => entry.2.direction = .deviceToCloud && entry.2.address = route.address)
  simp only [Bool.and_eq_true, decide_eq_true_eq, and_imp] at hfind
  have hanswered : (document.commands.entries.any fun entry =>
      entry.2.responseRoute = command.responseRoute) :=
    any_eq_true.mpr
      ⟨(name, command), OrderedMap.get?_eq_some_iff.mp hcommand, decide_eq_true rfl⟩
  rw [routeOf, hfind.mpr ⟨hroute, ⟨hdirection, trivial⟩, hfirst⟩, Option.map_some, decoderOf,
    if_pos hanswered]

end ContractIngress

namespace BlueprintCompiler

/-- The next contract has the command with the same schemas, at the same addresses. -/
def ServesCommand (document nextDocument : CompiledContractDocument) (name : String)
    (command nextCommand : CompiledCommand) : Prop :=
  nextDocument.commands.get? name = some nextCommand ∧
  nextCommand.inputSchema = command.inputSchema ∧ nextCommand.resultSchema = command.resultSchema ∧
  (∃ request nextRequest, document.routes.get? command.requestRoute = some request ∧
    nextDocument.routes.get? nextCommand.requestRoute = some nextRequest ∧
    nextRequest.direction = .cloudToDevice ∧ nextRequest.address = request.address) ∧
  ∃ response nextResponse, document.routes.get? command.responseRoute = some response ∧
    nextDocument.routes.get? nextCommand.responseRoute = some nextResponse ∧
    nextResponse.direction = .deviceToCloud ∧ nextResponse.address = response.address

section

variable {previous next : DeviceBlueprint} {context nextContext : CompileContext}
  {document nextDocument : CompiledContractDocument}

theorem schemas_of_compileCommand {command : CommandDefinition} {entry : String × CompiledCommand}
    (h : compileCommand command = .ok entry) :
    entry.2.inputSchema = command.inputSchema ∧ entry.2.resultSchema = command.resultSchema := by
  obtain ⟨timeoutMs, -, h⟩ := of_bind_ok h
  cases h
  exact ⟨rfl, rfl⟩

theorem address_of_addressOf (hs : Blueprint.Sound previous) (hsNext : Blueprint.Sound next)
    (hc : CompiledFrom previous context document) (hcNext : CompiledFrom next nextContext nextDocument)
    (hdevice : nextContext.deviceId = context.deviceId) {route nextRoute : RouteDefinition}
    (hroute : route ∈ previous.spec.routes) (hnextRoute : nextRoute ∈ next.spec.routes)
    (h : addressOf next nextRoute.key = addressOf previous route.key) :
    ∃ compiled nextCompiled, document.routes.get? route.key = some compiled ∧
      nextDocument.routes.get? nextRoute.key = some nextCompiled ∧
      nextCompiled.direction = nextRoute.direction ∧ nextCompiled.address = compiled.address := by
  rw [addressOf_eq hs hroute, addressOf_eq hsNext hnextRoute,
    Option.some.injEq] at h
  refine ⟨_, _, hc.get?_route hs hroute, hcNext.get?_route hsNext hnextRoute, rfl, ?_⟩
  simp only [compileRoute, h, hdevice]

theorem servesCommand_of_keeps (hs : Blueprint.Sound previous) (hsNext : Blueprint.Sound next)
    (hc : CompiledFrom previous context document) (hcNext : CompiledFrom next nextContext nextDocument)
    (hdevice : nextContext.deviceId = context.deviceId) (hkeeps : Blueprint.KeepsCommands previous next)
    {name : String} {command : CompiledCommand} (hcommand : document.commands.get? name = some command) :
    ∃ nextCommand, ServesCommand document nextDocument name command nextCommand := by
  obtain ⟨declared, hdeclared, hcompiled⟩ := hc.exists_command hcommand
  obtain ⟨rfl, hrequest, hresponse⟩ := fst_of_compileCommand hcompiled
  obtain ⟨hinput, hresult⟩ := schemas_of_compileCommand hcompiled
  obtain ⟨kept, hkept, hkeep⟩ := hkeeps declared hdeclared
  obtain ⟨nextCommand, hnextCompiled, hnextCommand⟩ := hcNext.get?_command hsNext hkept
  obtain ⟨-, hnextRequest, hnextResponse⟩ := fst_of_compileCommand hnextCompiled
  obtain ⟨hnextInput, hnextResult⟩ := schemas_of_compileCommand hnextCompiled
  refine ⟨nextCommand, hkeep.key ▸ hnextCommand, ?_, ?_, ?_, ?_⟩
  · exact hnextInput.trans (hkeep.inputSchema.trans hinput.symm)
  · exact hnextResult.trans (hkeep.resultSchema.trans hresult.symm)
  · obtain ⟨route, hroute, hkey, -⟩ := hs.commandRequest declared hdeclared
    obtain ⟨nextRoute, hnextRoute, hnextKey, hdirection⟩ := hsNext.commandRequest kept hkept
    rw [hrequest, hnextRequest, ← hkey, ← hnextKey, ← hdirection]
    exact address_of_addressOf hs hsNext hc hcNext hdevice hroute hnextRoute
      (by rw [hkey, hnextKey, hkeep.request])
  · obtain ⟨route, hroute, hkey, -⟩ := hs.commandResponse declared hdeclared
    obtain ⟨nextRoute, hnextRoute, hnextKey, hdirection⟩ := hsNext.commandResponse kept hkept
    rw [hresponse, hnextResponse, ← hkey, ← hnextKey, ← hdirection]
    exact address_of_addressOf hs hsNext hc hcNext hdevice hroute hnextRoute
      (by rw [hkey, hnextKey, hkeep.response])

end

section

def extended : DeviceBlueprint :=
  { tracker with
    spec := { trackerSpec with
      routes := trackerRoutes ++
        [⟨"order", "main", .cloudToDevice, "extrittio/devices/\x7bdevice.id\x7d/orders",
            "position@1", .json⟩,
         ⟨"report", "main", .deviceToCloud, "extrittio/devices/\x7bdevice.id\x7d/reports",
            "position@1", .json⟩] } }

def validExtended : ValidatedBlueprint default := ⟨extended, by decide +kernel⟩

theorem commandsStay_extended : Blueprint.CommandsStay tracker extended := by
  intro command hcommand nextCommand hnextCommand _
  obtain rfl := mem_singleton.mp hcommand
  obtain rfl := mem_singleton.mp hnextCommand
  exact ⟨rfl, rfl⟩

def moved : DeviceBlueprint :=
  { extended with
    spec := { extended.spec with
      commands := [{ locateCommand with requestRoute := "order", responseRoute := "report" }] } }

def validMoved : ValidatedBlueprint default := ⟨moved, by decide +kernel⟩

end

end BlueprintCompiler

end Extrittio
