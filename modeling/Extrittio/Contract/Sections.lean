import Extrittio.Contract.Closure
import Extrittio.Contract.Canonical

/-!
The sections of a blueprint in a compiled document. Keyed sections become maps, so the
order of their items is lost; a document is what the comparison of two revisions looks
at and what it leaves out.
-/
namespace Extrittio

open Option OrderedMap

namespace BlueprintCompiler

section

variable {ε T V : Type} {f : T → Except ε (String × V)} {items items' : List T} {key : T → String}

def compileSection (f : T → Except ε (String × V)) (items : List T) :
    Option (OrderedMap String V) :=
  (items.mapM f).toOption.map .ofList

theorem toOption_eq_some {α : Type} {x : Except ε α} {value : α} :
    x.toOption = some value ↔ x = .ok value := by
  cases x with
  | error e => exact ⟨nofun, nofun⟩
  | ok a => simp [Except.toOption]

theorem exists_compileSection_iff : (∃ compiled, compileSection f items = some compiled) ↔
    ∀ item ∈ items, ∃ entry, f item = .ok entry := by
  constructor
  · rintro ⟨compiled, h⟩ item hitem
    obtain ⟨entries, hentries, -⟩ := map_eq_some_iff.mp h
    obtain ⟨entry, -, hentry⟩ :=
      exists_right_of_forall₂ (forall₂_of_mapM_eq_ok (toOption_eq_some.mp hentries)) hitem
    exact ⟨entry, hentry⟩
  · intro h
    obtain ⟨entries, hentries⟩ := exists_mapM_eq_ok h
    exact ⟨.ofList entries, by rw [compileSection, hentries]; rfl⟩

theorem get?_of_compileSection (hkey : ∀ item entry, f item = .ok entry → entry.1 = key item)
    (hnodup : (items.map key).Nodup) {m : OrderedMap String V}
    (h : compileSection f items = some m) {name : String} {value : V} :
    m.get? name = some value ↔ ∃ item ∈ items, f item = .ok (name, value) := by
  obtain ⟨entries, hentries, rfl⟩ := map_eq_some_iff.mp h
  have hforall := forall₂_of_mapM_eq_ok (toOption_eq_some.mp hentries)
  constructor
  · exact exists_item_of_get? hforall
  · rintro ⟨item, hitem, heq⟩
    obtain ⟨found, hfound, hget⟩ := exists_get?_of_item hforall hkey hnodup hitem
    rw [heq] at hfound
    cases hfound
    exact hget

theorem compileSection_of_mem (hkey : ∀ item entry, f item = .ok entry → entry.1 = key item)
    (hnodup : (items.map key).Nodup) (hnodup' : (items'.map key).Nodup)
    (hmem : ∀ entry, (∃ item ∈ items, f item = entry) ↔ ∃ item ∈ items', f item = entry)
    {m : OrderedMap String V} (h : compileSection f items = some m) :
    compileSection f items' = some m := by
  have hcompiles := exists_compileSection_iff.mp ⟨m, h⟩
  obtain ⟨m', h'⟩ : ∃ m', compileSection f items' = some m' := by
    refine exists_compileSection_iff.mpr fun item' hitem' => ?_
    obtain ⟨item, hitem, heq⟩ := (hmem (f item')).mpr ⟨item', hitem', rfl⟩
    exact heq ▸ hcompiles item hitem
  have hsame : m' = m := by
    refine ext_get? fun name => Option.ext fun value => ?_
    rw [get?_of_compileSection hkey hnodup' h', get?_of_compileSection hkey hnodup h, hmem]
  rw [h', hsame]

theorem compileSection_congr (hkey : ∀ item entry, f item = .ok entry → entry.1 = key item)
    (hnodup : (items.map key).Nodup) (hnodup' : (items'.map key).Nodup)
    (hmem : ∀ entry, (∃ item ∈ items, f item = entry) ↔ ∃ item ∈ items', f item = entry) :
    compileSection f items = compileSection f items' := by
  refine Option.ext fun m => ⟨compileSection_of_mem hkey hnodup hnodup' hmem, ?_⟩
  exact compileSection_of_mem hkey hnodup' hnodup fun entry => (hmem entry).symm

end

/-! The two halves of a document. -/

/-- What the comparison of two revisions looks at. -/
structure ComparedParts where
  blueprintKey : String
  blueprintName : String
  transports : OrderedMap String CompiledTransport
  routes : OrderedMap String CompiledRoute
  schemas : OrderedMap String CompiledSchema
  streams : OrderedMap String CompiledStream
  commands : OrderedMap String CompiledCommand
  location : Option CompiledLocation
  reportedState : Option ReportedStateDefinition
  presentation : Option PresentationDefinition

/-- What it leaves out, and what it lets grow. -/
structure UncomparedParts where
  runtime : CompiledRuntime
  configuration : Option CompiledConfiguration
  health : Option HealthDefinition
  firmware : Option FirmwareDefinition
  relationships : List RelationshipDefinition
  deriving DecidableEq

section

variable (p : Platform) (blueprint : DeviceBlueprint) (context : CompileContext)

def comparedParts : Option ComparedParts := do
  (validateContext context).toOption
  let transports ← compileSection (compileTransport context) blueprint.spec.transports
  let commands ← compileSection compileCommand blueprint.spec.commands
  let location ← (traverse compileLocation blueprint.spec.location).toOption
  return {
    blueprintKey := blueprint.metadata.key
    blueprintName := blueprint.metadata.name
    transports := transports
    routes := .ofList (blueprint.spec.routes.map (compileRoute context))
    schemas := .ofList (blueprint.spec.schemas.map compileSchema)
    streams := .ofList (blueprint.spec.streams.map compileStream)
    commands := commands
    location := location
    reportedState := blueprint.spec.reportedState
    presentation := blueprint.spec.presentation }

def uncomparedParts : Option UncomparedParts := do
  let configuration ←
    (traverse (compileConfiguration p · context) blueprint.spec.configuration).toOption
  if configuration.isNone && !context.configurationLayers.isEmpty then none
  let runtime ← (compileRuntime blueprint.spec.runtime).toOption
  return ⟨runtime, configuration, blueprint.spec.health, blueprint.spec.firmware,
    blueprint.spec.relationships⟩

def assemble (compared : ComparedParts) (uncompared : UncomparedParts) :
    CompiledContractDocument where
  contractApi := Blueprint.contractApiVersion
  contractId := context.contractId
  tenantId := context.tenantId
  deviceId := context.deviceId
  blueprintRevisionId := context.blueprintRevisionId
  blueprintRevision := context.blueprintRevision
  blueprintKey := compared.blueprintKey
  blueprintName := compared.blueprintName
  runtime := uncompared.runtime
  transports := compared.transports
  routes := compared.routes
  schemas := compared.schemas
  streams := compared.streams
  location := compared.location
  commands := compared.commands
  configuration := uncompared.configuration
  reportedState := compared.reportedState
  health := uncompared.health
  firmware := uncompared.firmware
  relationships := uncompared.relationships
  presentation := compared.presentation

theorem assemble_injective (compared : ComparedParts) :
    Function.Injective (assemble context compared) := by
  intro parts parts' h
  cases parts
  cases parts'
  cases h
  rfl

/-- A document is compiled half by half. -/
theorem toOption_compileDocument : (compileDocument p blueprint context).toOption =
    (comparedParts blueprint context).bind fun compared =>
      (uncomparedParts p blueprint context).map (assemble context compared) := by
  unfold compileDocument comparedParts uncomparedParts compileSection
  cases validateContext context with
  | error e => rfl
  | ok _ =>
    cases blueprint.spec.transports.mapM (compileTransport context) with
    | error e => rfl
    | ok transports =>
      cases blueprint.spec.commands.mapM compileCommand with
      | error e => rfl
      | ok commands =>
        -- the location is compiled last, after what is not compared
        cases traverse (compileConfiguration p · context) blueprint.spec.configuration with
        | error e => cases traverse compileLocation blueprint.spec.location <;> rfl
        | ok configuration =>
          cases hlayers : configuration.isNone && !context.configurationLayers.isEmpty with
          | true =>
            cases traverse compileLocation blueprint.spec.location with
            | error e =>
              simp only [Except.mapError, bind, Except.bind, hlayers, if_true]
              rfl
            | ok location =>
              simp only [Except.mapError, Except.toOption, bind, Except.bind, map_some,
                bind_some, hlayers, if_true]
              rfl
          | false =>
            cases traverse compileLocation blueprint.spec.location <;>
              cases compileRuntime blueprint.spec.runtime <;>
              simp only [Except.mapError, Except.toOption, bind, Except.bind, map_some,
                bind_some, bind_none, hlayers, Bool.false_eq_true, if_false] <;>
              rfl

end

/-- Blueprints that declare the same in whatever order, as far as they are compared. -/
structure SameDeclarations (blueprint other : DeviceBlueprint) : Prop where
  metadata : blueprint.metadata = other.metadata
  transports : ∀ transport, transport ∈ blueprint.spec.transports ↔ transport ∈ other.spec.transports
  routes : ∀ route, route ∈ blueprint.spec.routes ↔ route ∈ other.spec.routes
  schemas : ∀ schema, schema ∈ blueprint.spec.schemas ↔ schema ∈ other.spec.schemas
  streams : ∀ entry, (∃ stream ∈ blueprint.spec.streams, compileStream stream = entry) ↔
    ∃ stream ∈ other.spec.streams, compileStream stream = entry
  commands : ∀ command, command ∈ blueprint.spec.commands ↔ command ∈ other.spec.commands
  location : blueprint.spec.location = other.spec.location
  reportedState : blueprint.spec.reportedState = other.spec.reportedState
  presentation : blueprint.spec.presentation = other.spec.presentation

/-- They compile to the same maps, as validation made the keys distinct. -/
theorem comparedParts_congr {blueprint other : DeviceBlueprint} (hs : Blueprint.Sound blueprint)
    (hs' : Blueprint.Sound other) (h : SameDeclarations blueprint other) (context : CompileContext) :
    comparedParts blueprint context = comparedParts other context := by
  have htransports : compileSection (compileTransport context) blueprint.spec.transports =
      compileSection (compileTransport context) other.spec.transports := by
    refine compileSection_congr (fun _ _ heq => (fst_of_compileTransport heq).1) hs.transportKeys
      hs'.transportKeys fun entry => ?_
    simp only [h.transports]
  have hcommands : compileSection compileCommand blueprint.spec.commands =
      compileSection compileCommand other.spec.commands := by
    refine compileSection_congr (fun _ _ heq => (fst_of_compileCommand heq).1) hs.commandKeys
      hs'.commandKeys fun entry => ?_
    simp only [h.commands]
  have hroutes : ofList (blueprint.spec.routes.map (compileRoute context)) =
      .ofList (other.spec.routes.map (compileRoute context)) := by
    refine ofList_map_congr (fun _ => rfl) hs.routeKeys hs'.routeKeys fun entry => ?_
    simp only [h.routes]
  have hschemas : ofList (blueprint.spec.schemas.map compileSchema) =
      .ofList (other.spec.schemas.map compileSchema) := by
    refine ofList_map_congr (fun _ => rfl) hs.schemaKeys hs'.schemaKeys fun entry => ?_
    simp only [h.schemas]
  have hstreams : ofList (blueprint.spec.streams.map compileStream) =
      .ofList (other.spec.streams.map compileStream) :=
    ofList_map_congr (fun _ => rfl) hs.streamKeys hs'.streamKeys h.streams
  rw [comparedParts, comparedParts, htransports, hcommands, hroutes, hschemas, hstreams, h.metadata,
    h.location, h.reportedState, h.presentation]

end BlueprintCompiler

end Extrittio
