import Extrittio.Contract.KeyOrder
import Extrittio.Contract.Reordering
import Extrittio.Contract.Text

/-!
The hash of a contract. The order in which a document lists declarations and the keys of
objects does not reach it, and the bytes that are hashed determine the contract's value
up to the order of keys.
-/
namespace Extrittio

open List Option Blueprint DeviceBlueprint OrderedMap

/-! Embedded values are read as `Value`s, whose objects are maps. -/

/-- What is read from a written value: each object is collected into a map. -/
def Json.deserialized (written : Json) : Json := written.sortValue

def SchemaDefinition.deserialized (schema : SchemaDefinition) : SchemaDefinition :=
  { schema with schema := schema.schema.deserialized }

def CommandDefinition.deserialized (command : CommandDefinition) : CommandDefinition :=
  { command with
    inputSchema := command.inputSchema.deserialized
    resultSchema := command.resultSchema.deserialized }

def ConfigurationDefinition.deserialized (configuration : ConfigurationDefinition) :
    ConfigurationDefinition :=
  { configuration with
    schema := configuration.schema.deserialized
    defaults := configuration.defaults.deserialized }

def ReportedStateDefinition.deserialized (state : ReportedStateDefinition) : ReportedStateDefinition :=
  ⟨state.schema.deserialized⟩

def HealthSignalDefinition.deserialized (signal : HealthSignalDefinition) : HealthSignalDefinition :=
  { signal with value := signal.value.deserialized }

def HealthDefinition.deserialized (health : HealthDefinition) : HealthDefinition :=
  ⟨health.signals.map HealthSignalDefinition.deserialized⟩

def FirmwareDefinition.deserialized (firmware : FirmwareDefinition) : FirmwareDefinition :=
  { firmware with
    compatibility := .ofList (firmware.compatibility.entries.map fun entry =>
      (entry.1, entry.2.deserialized)) }

def DeviceBlueprint.deserialized (written : DeviceBlueprint) : DeviceBlueprint :=
  { written with
    spec := { written.spec with
      schemas := written.spec.schemas.map SchemaDefinition.deserialized
      commands := written.spec.commands.map CommandDefinition.deserialized
      configuration := written.spec.configuration.map ConfigurationDefinition.deserialized
      reportedState := written.spec.reportedState.map ReportedStateDefinition.deserialized
      health := written.spec.health.map HealthDefinition.deserialized
      firmware := written.spec.firmware.map FirmwareDefinition.deserialized } }

def CompileContext.deserialized (context : CompileContext) : CompileContext :=
  { context with configurationLayers := context.configurationLayers.map Json.deserialized }

/-! Documents that differ in order only. -/

section

open Json (KeyOrder)

structure SameSchema (schema other : SchemaDefinition) : Prop where
  rest : other = { schema with schema := other.schema }
  schema : KeyOrder schema.schema other.schema

structure SameCommand (command other : CommandDefinition) : Prop where
  rest : other = { command with inputSchema := other.inputSchema, resultSchema := other.resultSchema }
  inputSchema : KeyOrder command.inputSchema other.inputSchema
  resultSchema : KeyOrder command.resultSchema other.resultSchema

structure SameConfiguration (configuration other : ConfigurationDefinition) : Prop where
  rest : other = { configuration with schema := other.schema, defaults := other.defaults }
  schema : KeyOrder configuration.schema other.schema
  defaults : KeyOrder configuration.defaults other.defaults

structure SameReportedState (state other : ReportedStateDefinition) : Prop where
  schema : KeyOrder state.schema other.schema

structure SameSignal (signal other : HealthSignalDefinition) : Prop where
  rest : other = { signal with value := other.value }
  value : KeyOrder signal.value other.value

structure SameHealth (health other : HealthDefinition) : Prop where
  signals : List.Forall₂ SameSignal health.signals other.signals

structure SameFirmware (firmware other : FirmwareDefinition) : Prop where
  strategy : other.strategy = firmware.strategy
  compatibility : List.Forall₂ (fun entry entry' => entry.1 = entry'.1 ∧ KeyOrder entry.2 entry'.2)
    firmware.compatibility.entries other.compatibility.entries

/-- The documents of two blueprints that list transports, routes, schemas, streams, the
fields of streams, commands and the keys of embedded objects in different orders. -/
structure Reordered (written other : DeviceBlueprint) : Prop where
  apiVersion : other.apiVersion = written.apiVersion
  kind : other.kind = written.kind
  metadata : other.metadata = written.metadata
  runtime : other.spec.runtime = written.spec.runtime
  transports : written.spec.transports.Perm other.spec.transports
  routes : written.spec.routes.Perm other.spec.routes
  schemas : Rearranged SameSchema written.spec.schemas other.spec.schemas
  streams : Rearranged Blueprint.SameStream written.spec.streams other.spec.streams
  location : other.spec.location = written.spec.location
  commands : Rearranged SameCommand written.spec.commands other.spec.commands
  configuration : Option.Rel SameConfiguration written.spec.configuration other.spec.configuration
  reportedState : Option.Rel SameReportedState written.spec.reportedState other.spec.reportedState
  health : Option.Rel SameHealth written.spec.health other.spec.health
  firmware : Option.Rel SameFirmware written.spec.firmware other.spec.firmware
  relationships : other.spec.relationships = written.spec.relationships
  presentation : other.spec.presentation = written.spec.presentation

structure ReorderedContext (context other : CompileContext) : Prop where
  rest : other = { context with configurationLayers := other.configurationLayers }
  layers : List.Forall₂ KeyOrder context.configurationLayers other.configurationLayers

theorem deserialized_eq_of_keyOrder {value other : Json} (h : KeyOrder value other) :
    value.deserialized = other.deserialized := h.sortValue_eq

theorem SameSchema.deserialized_eq {schema other : SchemaDefinition} (h : SameSchema schema other) :
    schema.deserialized = other.deserialized := by
  obtain ⟨hrest, hschema⟩ := h
  rw [hrest]
  simp only [SchemaDefinition.deserialized, deserialized_eq_of_keyOrder hschema]

theorem SameCommand.deserialized_eq {command other : CommandDefinition} (h : SameCommand command other) :
    command.deserialized = other.deserialized := by
  obtain ⟨hrest, hinput, hresult⟩ := h
  rw [hrest]
  simp only [CommandDefinition.deserialized, deserialized_eq_of_keyOrder hinput,
    deserialized_eq_of_keyOrder hresult]

theorem SameConfiguration.deserialized_eq {configuration other : ConfigurationDefinition}
    (h : SameConfiguration configuration other) : configuration.deserialized = other.deserialized := by
  obtain ⟨hrest, hschema, hdefaults⟩ := h
  rw [hrest]
  simp only [ConfigurationDefinition.deserialized, deserialized_eq_of_keyOrder hschema,
    deserialized_eq_of_keyOrder hdefaults]

theorem SameReportedState.deserialized_eq {state other : ReportedStateDefinition}
    (h : SameReportedState state other) : state.deserialized = other.deserialized := by
  rw [ReportedStateDefinition.deserialized, deserialized_eq_of_keyOrder h.schema]
  rfl

theorem SameSignal.deserialized_eq {signal other : HealthSignalDefinition} (h : SameSignal signal other) :
    signal.deserialized = other.deserialized := by
  obtain ⟨hrest, hvalue⟩ := h
  rw [hrest]
  simp only [HealthSignalDefinition.deserialized, deserialized_eq_of_keyOrder hvalue]

theorem SameHealth.deserialized_eq {health other : HealthDefinition} (h : SameHealth health other) :
    health.deserialized = other.deserialized := by
  rw [HealthDefinition.deserialized, HealthDefinition.deserialized,
    map_eq_of_forall₂ h.signals fun _ _ => SameSignal.deserialized_eq]

theorem SameFirmware.deserialized_eq {firmware other : FirmwareDefinition} (h : SameFirmware firmware other) :
    firmware.deserialized = other.deserialized := by
  have hentries : (firmware.compatibility.entries.map fun entry => (entry.1, entry.2.deserialized)) =
      other.compatibility.entries.map fun entry => (entry.1, entry.2.deserialized) :=
    map_eq_of_forall₂ h.compatibility fun entry entry' hentry => by
      rw [hentry.1, deserialized_eq_of_keyOrder hentry.2]
  rw [FirmwareDefinition.deserialized, FirmwareDefinition.deserialized, h.strategy, hentries]

theorem map_eq_of_rel {T U : Type} {R : T → T → Prop} {item other : Option T}
    (h : Option.Rel R item other) {f : T → U} (hf : ∀ a b, R a b → f a = f b) :
    item.map f = other.map f := by
  cases h with
  | none => rfl
  | some hR => exact congrArg some (hf _ _ hR)

theorem ReorderedContext.deserialized_eq {context other : CompileContext}
    (h : ReorderedContext context other) : other.deserialized = context.deserialized := by
  obtain ⟨hrest, hlayers⟩ := h
  rw [hrest]
  simp only [CompileContext.deserialized, map_eq_of_forall₂ hlayers fun _ _ => deserialized_eq_of_keyOrder]

def DeviceBlueprint.lists (blueprint : DeviceBlueprint) : BlueprintLists :=
  ⟨blueprint.spec.transports, blueprint.spec.routes, blueprint.spec.schemas, blueprint.spec.streams,
    blueprint.spec.commands⟩

variable {written other : DeviceBlueprint}

/-- What is read from them differs in the order of the lists only. -/
theorem Reordered.permuted (h : Reordered written other) :
    Blueprint.Permuted written.deserialized other.deserialized.lists where
  transports := h.transports
  routes := h.routes
  schemas := h.schemas.map_perm fun _ _ => SameSchema.deserialized_eq
  streams := h.streams
  commands := h.commands.map_perm fun _ _ => SameCommand.deserialized_eq

theorem Reordered.deserialized_eq (h : Reordered written other) :
    other.deserialized = written.deserialized.withLists other.deserialized.lists := by
  simp only [deserialized, withLists, lists, h.apiVersion,
    h.kind, h.metadata, h.runtime, h.location, h.relationships, h.presentation,
    map_eq_of_rel h.configuration fun _ _ => SameConfiguration.deserialized_eq,
    map_eq_of_rel h.reportedState fun _ _ => SameReportedState.deserialized_eq,
    map_eq_of_rel h.health fun _ _ => SameHealth.deserialized_eq,
    map_eq_of_rel h.firmware fun _ _ => SameFirmware.deserialized_eq]

end

/-! The value of a contract is sorted. -/

namespace Json

@[simp] theorem canonical_string (value : String) : (Json.string value).Canonical := .string value

@[simp] theorem canonical_integer (value : ℤ) : (Json.integer value).Canonical := .integer value

@[simp] theorem canonical_bool (value : Bool) : (Json.bool value).Canonical := ⟨nofun, nofun, nofun⟩

/-- A member whose value, if it is written, is canonical. -/
def CanonicalMember (m : String × Option Json) : Prop := ∀ value ∈ m.2, value.Canonical

variable {name : String} {V : Type}

@[simp] theorem canonicalMember_member {value : Json} :
    CanonicalMember (member name value) ↔ value.Canonical := by
  simp [CanonicalMember, member]

@[simp] theorem canonicalMember_memberIfSome {value : Option V} {f : V → Json} :
    CanonicalMember (memberIfSome name (value.map f)) ↔ ∀ v ∈ value, (f v).Canonical := by
  simp [CanonicalMember, memberIfSome]

theorem canonical_record {members : List (String × Option Json)}
    (h : ∀ m ∈ members, CanonicalMember m) : (record members).Canonical := by
  refine .ofMap fun entry hentry => ?_
  obtain ⟨m, hm, hwritten⟩ := mem_filterMap.mp (of_mem_ofList hentry)
  obtain ⟨value, hvalue, rfl⟩ := map_eq_some_iff.mp hwritten
  exact h m hm value hvalue

theorem canonical_mapOf {toValue : V → Json} {map : OrderedMap String V}
    (h : ∀ entry ∈ map.entries, (toValue entry.2).Canonical) : (mapOf toValue map).Canonical := by
  refine .ofMap fun written hwritten => ?_
  obtain ⟨entry, hentry, rfl⟩ := List.mem_map.mp (of_mem_ofList hwritten)
  exact h entry hentry

theorem canonical_arrayOf {toValue : V → Json} {values : List V}
    (h : ∀ value ∈ values, (toValue value).Canonical) : (arrayOf toValue values).Canonical := by
  refine Canonical.array_iff.mpr fun item hitem => ?_
  obtain ⟨value, hvalue, rfl⟩ := List.mem_map.mp hitem
  exact h value hvalue

end Json

/-- The values that a contract embeds are canonical. -/
structure CompiledContractDocument.CanonicalValues (document : CompiledContractDocument) : Prop where
  schemas : ∀ entry ∈ document.schemas.entries, entry.2.schema.Canonical
  commands : ∀ entry ∈ document.commands.entries,
    entry.2.inputSchema.Canonical ∧ entry.2.resultSchema.Canonical
  configuration : ∀ configuration ∈ document.configuration,
    configuration.schema.Canonical ∧ configuration.desired.Canonical
  reportedState : ∀ state ∈ document.reportedState, state.schema.Canonical
  health : ∀ health ∈ document.health, ∀ signal ∈ health.signals, signal.value.Canonical
  firmware : ∀ firmware ∈ document.firmware, ∀ entry ∈ firmware.compatibility.entries,
    entry.2.Canonical

section

open Json

theorem canonical_presentation (presentation : FieldPresentation) :
    presentation.toValue.Canonical := by
  obtain ⟨color, chart, precision⟩ := presentation
  refine canonical_record ?_
  cases precision <;> simp [CanonicalMember, memberIfSome]

theorem canonical_field (field : CompiledField) : field.toValue.Canonical := by
  have haggregates : (arrayOf (fun kind => Json.string kind.text) field.aggregates).Canonical :=
    canonical_arrayOf fun _ _ => .string _
  refine canonical_record ?_
  simp [haggregates, canonical_presentation]

theorem canonical_stream (stream : CompiledStream) : stream.toValue.Canonical := by
  have hfields : (mapOf CompiledField.toValue stream.fields).Canonical :=
    canonical_mapOf fun entry _ => canonical_field entry.2
  refine canonical_record ?_
  simp [hfields]

theorem canonical_toPresentation (presentation : PresentationDefinition) :
    presentation.toValue.Canonical := by
  refine canonical_record ?_
  simp only [forall_mem_cons, canonicalMember_member]
  refine ⟨canonical_arrayOf fun reference _ => canonical_record ?_,
    canonical_arrayOf fun _ _ => .string _, nofun⟩
  simp

theorem CompiledContractDocument.CanonicalValues.canonical_toValue
    {document : CompiledContractDocument} (h : document.CanonicalValues) :
    document.toValue.Canonical := by
  have htransports : (mapOf CompiledTransport.toValue document.transports).Canonical :=
    canonical_mapOf fun entry _ => canonical_record (by simp)
  have hroutes : (mapOf CompiledRoute.toValue document.routes).Canonical :=
    canonical_mapOf fun entry _ => canonical_record (by simp)
  have hschemas : (mapOf CompiledSchema.toValue document.schemas).Canonical :=
    canonical_mapOf fun entry hentry => canonical_record (by simp [h.schemas entry hentry])
  have hstreams : (mapOf CompiledStream.toValue document.streams).Canonical :=
    canonical_mapOf fun entry _ => canonical_stream entry.2
  have hcommands : (mapOf CompiledCommand.toValue document.commands).Canonical :=
    canonical_mapOf fun entry hentry => canonical_record (by simp [h.commands entry hentry])
  have hruntime : document.runtime.toValue.Canonical := canonical_record (by simp)
  have hlocation (location : CompiledLocation) : location.toValue.Canonical :=
    canonical_record (by simp)
  have hrelationship (relationship : RelationshipDefinition) : relationship.toValue.Canonical :=
    canonical_record (by simp)
  have hconfiguration : ∀ configuration ∈ document.configuration,
      configuration.toValue.Canonical := fun configuration hmem =>
    canonical_record (by simp [h.configuration configuration hmem])
  have hreported : ∀ state ∈ document.reportedState, state.toValue.Canonical := fun state hmem =>
    canonical_record (by simp [h.reportedState state hmem])
  have hsignal (signal : HealthSignalDefinition) (hvalue : signal.value.Canonical) :
      signal.toValue.Canonical := canonical_record (by simp [hvalue])
  have hhealth : ∀ health ∈ document.health, health.toValue.Canonical := fun health hmem => by
    refine canonical_record ?_
    simp only [forall_mem_cons, canonicalMember_member]
    exact ⟨canonical_arrayOf fun signal hmem' => hsignal signal (h.health health hmem signal hmem'),
      nofun⟩
  have hfirmware : ∀ firmware ∈ document.firmware, firmware.toValue.Canonical :=
    fun firmware hmem => by
      refine canonical_record ?_
      simp only [forall_mem_cons, canonicalMember_member]
      exact ⟨.string _, canonical_mapOf fun entry hentry => h.firmware firmware hmem entry hentry, nofun⟩
  have hrelationships : CanonicalMember (memberIfSome "relationships"
      (if document.relationships.isEmpty then none
        else some (arrayOf RelationshipDefinition.toValue document.relationships))) := by
    intro value hvalue
    simp only [memberIfSome, mem_def] at hvalue
    split_ifs at hvalue
    cases hvalue
    exact canonical_arrayOf fun relationship _ => hrelationship relationship
  refine canonical_record ?_
  simp only [forall_mem_cons, canonicalMember_member, canonicalMember_memberIfSome,
    canonical_string, canonical_integer, htransports, hroutes, hschemas, hstreams, hcommands,
    hruntime, hrelationships, true_and]
  exact ⟨fun location _ => hlocation location, hconfiguration, hreported, hhealth, hfirmware,
    fun presentation _ => canonical_toPresentation presentation, nofun⟩

end

namespace BlueprintCompiler

variable {p : Platform} {written other : DeviceBlueprint} {context otherContext : CompileContext}

theorem inputs_of_compileCommand {command : CommandDefinition} {entry : String × CompiledCommand}
    (h : compileCommand command = .ok entry) :
    entry.2.inputSchema = command.inputSchema ∧ entry.2.resultSchema = command.resultSchema := by
  obtain ⟨timeout, -, h⟩ := of_bind_ok h
  cases h
  exact ⟨rfl, rfl⟩

variable {document : CompiledContractDocument}

theorem sections_of_compileDocument {blueprint : DeviceBlueprint}
    (h : compileDocument p blueprint context = .ok document) :
    traverse (compileConfiguration p · context) blueprint.spec.configuration =
      .ok document.configuration ∧
    document.reportedState = blueprint.spec.reportedState ∧ document.health = blueprint.spec.health ∧
    document.firmware = blueprint.spec.firmware := by
  obtain ⟨_, -, h⟩ := of_bind_ok h
  obtain ⟨transports, -, h⟩ := of_bind_ok h
  obtain ⟨commands, -, h⟩ := of_bind_ok h
  obtain ⟨configuration, hconfiguration, h⟩ := of_bind_ok h
  split at h
  · cases h
  obtain ⟨runtime, -, h⟩ := of_bind_ok h
  obtain ⟨location, -, h⟩ := of_bind_ok h
  cases h
  exact ⟨hconfiguration, rfl, rfl, rfl⟩

theorem canonicalValues_of_compileDocument
    (h : compileDocument p written.deserialized context.deserialized = .ok document) :
    document.CanonicalValues := by
  have hcanonical (value : Json) : value.deserialized.Canonical := value.canonical_sortValue
  have hfrom := compiledFrom_of_compileDocument h
  obtain ⟨hconfiguration, hreported, hhealth, hfirmware⟩ := sections_of_compileDocument h
  constructor
  · intro entry hentry
    rw [hfrom.schemas] at hentry
    obtain ⟨schema, hschema, rfl⟩ := List.mem_map.mp (of_mem_ofList hentry)
    obtain ⟨schema, -, rfl⟩ := List.mem_map.mp hschema
    exact hcanonical schema.schema
  · intro entry hentry
    obtain ⟨compiled, hcompiled, hcommands⟩ := hfrom.commands
    rw [hcommands] at hentry
    obtain ⟨command, hcommand, hentry⟩ :=
      exists_left_of_forall₂ hcompiled (of_mem_ofList hentry)
    obtain ⟨command, -, rfl⟩ := List.mem_map.mp hcommand
    obtain ⟨hinput, hresult⟩ := inputs_of_compileCommand hentry
    rw [hinput, hresult]
    exact ⟨hcanonical command.inputSchema, hcanonical command.resultSchema⟩
  · intro compiled hcompiled
    cases hwritten : written.spec.configuration with
    | none =>
      simp only [deserialized, hwritten, map_none, traverse] at hconfiguration
      rw [← Except.ok.inj hconfiguration] at hcompiled
      cases hcompiled
    | some configuration =>
      simp only [deserialized, hwritten, map_some, traverse] at hconfiguration
      obtain ⟨found, hfound, hsome⟩ := map_eq_ok_iff.mp hconfiguration
      rw [← hsome] at hcompiled
      cases hcompiled
      refine canonical_compileConfiguration (hcanonical configuration.schema)
        (hcanonical configuration.defaults) (fun layer hlayer => ?_) hfound
      obtain ⟨layer, -, rfl⟩ := List.mem_map.mp hlayer
      exact hcanonical layer
  · intro state hstate
    rw [hreported] at hstate
    obtain ⟨state, -, rfl⟩ := map_eq_some_iff.mp hstate
    exact hcanonical state.schema
  · intro health hmem signal hsignal
    rw [hhealth] at hmem
    obtain ⟨health, -, rfl⟩ := map_eq_some_iff.mp hmem
    obtain ⟨signal, -, rfl⟩ := List.mem_map.mp hsignal
    exact hcanonical signal.value
  · intro firmware hmem entry hentry
    rw [hfirmware] at hmem
    obtain ⟨firmware, -, rfl⟩ := map_eq_some_iff.mp hmem
    obtain ⟨entry, -, rfl⟩ := List.mem_map.mp (of_mem_ofList hentry)
    exact hcanonical entry.2

def compileContract (p : Platform) (blueprint : ValidatedBlueprint p) (context : CompileContext) :
    Option CompiledContract :=
  (compile p (CompiledContractDocument.contractHash · p) blueprint context).toOption

theorem compileContract_eq (blueprint : ValidatedBlueprint p) (context : CompileContext) :
    compileContract p blueprint context =
      (compileDocument p blueprint.blueprint context).toOption.map fun document =>
        ⟨p.sha256Hex (document.canonicalDocument p), document⟩ := by
  simp only [compileContract, compile]
  cases compileDocument p blueprint.blueprint context <;> rfl

/-- A blueprint and a context that are written in another order are as valid, and their
contract has the same hash. Contracts with the same canonical text are the same JSON
value up to the order of keys. -/
theorem contract_hash_canonical (p : Platform) :
    (∀ (written other : DeviceBlueprint) (context otherContext : CompileContext),
      Reordered written other → ReorderedContext context otherContext →
      ∀ hvalid : issues written.deserialized p = [],
      ∃ hvalid' : issues other.deserialized p = [],
        (compileContract p ⟨other.deserialized, hvalid'⟩ otherContext.deserialized).map (·.hash) =
          (compileContract p ⟨written.deserialized, hvalid⟩ context.deserialized).map (·.hash)) ∧
    (∀ floats : Json.FloatText, p.jsonText = Json.text floats →
      ∀ (written other : DeviceBlueprint) (context otherContext : CompileContext)
        (contract otherContract : CompiledContract),
      ∀ hvalid : issues written.deserialized p = [],
      ∀ hvalid' : issues other.deserialized p = [],
        compileContract p ⟨written.deserialized, hvalid⟩ context.deserialized = some contract →
        compileContract p ⟨other.deserialized, hvalid'⟩ otherContext.deserialized =
          some otherContract →
        contract.document.canonicalDocument p = otherContract.document.canonicalDocument p →
          Json.KeyOrder contract.document.toValue otherContract.document.toValue) := by
  constructor
  · intro written other context otherContext h hcontext hvalid
    have hvalid' : issues other.deserialized p = [] := by
      rw [h.deserialized_eq]
      exact issues_withLists h.permuted hvalid
    refine ⟨hvalid', ?_⟩
    have hsame := compileDocument_withLists h.permuted hvalid context.deserialized
    rw [← h.deserialized_eq] at hsame
    rw [compileContract_eq, compileContract_eq, hcontext.deserialized_eq, hsame]
  · intro floats htext written other context otherContext contract otherContract hvalid hvalid'
      hcontract hother hcanonical
    rw [compileContract_eq] at hcontract hother
    obtain ⟨document, hdocument, rfl⟩ := map_eq_some_iff.mp hcontract
    obtain ⟨otherDocument, hotherDocument, rfl⟩ := map_eq_some_iff.mp hother
    have hvalue := (canonicalValues_of_compileDocument
      (toOption_eq_some.mp hdocument)).canonical_toValue
    have hotherValue := (canonicalValues_of_compileDocument
      (toOption_eq_some.mp hotherDocument)).canonical_toValue
    have hsorted : document.toValue.sortValue = otherDocument.toValue.sortValue := by
      refine Json.text_injective floats ?_
      rw [← htext]
      exact hcanonical
    rw [hvalue.sortValue_eq, hotherValue.sortValue_eq] at hsorted
    rw [hsorted]
    exact .refl _

def listing (routes : List RouteDefinition) (fields : List FieldDefinition)
    (schema : List (String × Json)) : DeviceBlueprint :=
  { tracker with
    spec := { trackerSpec with
      routes := routes
      schemas := [⟨"position@1", .jsonSchema, .object schema⟩]
      streams := [{ trackerStream with fields := fields }] } }

def listed : DeviceBlueprint :=
  listing trackerRoutes trackerStream.fields
    [("type", .string "object"), ("title", .string "Position")]

def relisted : DeviceBlueprint :=
  listing trackerRoutes.reverse trackerStream.fields.reverse
    [("title", .string "Position"), ("type", .string "object")]

theorem listed_reordered : Reordered listed relisted where
  apiVersion := rfl
  kind := rfl
  metadata := rfl
  runtime := rfl
  transports := .refl _
  routes := (reverse_perm _).symm
  schemas := ⟨_, .refl _, .cons ⟨rfl, .object (by decide) (.swap _ _ _)⟩ .nil⟩
  streams := ⟨_, .refl _, .cons ⟨rfl, rfl, rfl, rfl, (reverse_perm _).symm⟩ .nil⟩
  location := rfl
  commands := ⟨_, .refl _, .cons ⟨rfl, .refl _, .refl _⟩ .nil⟩
  configuration := .none
  reportedState := .none
  health := .none
  firmware := .none
  relationships := rfl
  presentation := rfl

/-- Floats as their numerator and denominator around a point. -/
def fractionText : Json.FloatText where
  text q := q.num.repr.toList ++ '.' :: Nat.toDigits 10 q.den
  injective := by
    intro q r h
    have hpoint (s : List Char) : NotAhead (fun c => c = '-' ∨ c.isDigit) ('.' :: s) :=
      notAhead_cons.mpr (by decide)
    obtain ⟨hnum, hden⟩ := append_inj_of_class (fun c => Json.of_mem_repr) (fun c => Json.of_mem_repr)
      (hpoint _) (hpoint _) h
    have hdens : q.den.repr = r.den.repr := by
      rw [Nat.repr_eq_ofList_toDigits, Nat.repr_eq_ofList_toDigits, (List.cons.inj hden).2]
    exact Rat.ext (Int.repr_injective (String.toList_injective hnum)) (Nat.repr_injective hdens)
  numeral := by
    intro q c hc
    rcases mem_append.mp hc with hnum | hden
    · rcases Json.of_mem_repr hnum with rfl | hdigit
      · rfl
      · simp [Json.isNumberChar, hdigit]
    · rcases mem_cons.mp hden with rfl | hden
      · rfl
      · simp [Json.isNumberChar, Nat.isDigit_of_mem_toDigits (by decide) (by decide) hden]
  fraction q := ⟨'.', mem_append_right _ mem_cons_self, .inl rfl⟩

/-- Texts are written out and are their own hash. -/
def rendering : Platform := { (default : Platform) with jsonText := Json.text fractionText }

theorem valid_listed : issues listed.deserialized rendering = [] := by decide +kernel

theorem contract_hash_canonical_relisted : listed ≠ relisted ∧
    ∃ (hvalid : issues listed.deserialized rendering = [])
      (hvalid' : issues relisted.deserialized rendering = [])
      (contract otherContract : CompiledContract),
      compileContract rendering ⟨listed.deserialized, hvalid⟩ (contextFor "t-1").deserialized =
        some contract ∧
      compileContract rendering ⟨relisted.deserialized, hvalid'⟩ (contextFor "t-1").deserialized =
        some otherContract ∧
      otherContract.hash = contract.hash ∧
      Json.KeyOrder contract.document.toValue otherContract.document.toValue := by
  obtain ⟨hhash, hvalue⟩ := contract_hash_canonical rendering
  obtain ⟨hvalid', hsame⟩ := hhash listed relisted (contextFor "t-1") (contextFor "t-1")
    listed_reordered ⟨rfl, .nil⟩ valid_listed
  obtain ⟨contract, hcontract⟩ := isSome_iff_exists.mp (by decide +kernel :
    (compileContract rendering ⟨listed.deserialized, valid_listed⟩
      (contextFor "t-1").deserialized).isSome)
  rw [hcontract] at hsame
  obtain ⟨otherContract, hother, hhashes⟩ := map_eq_some_iff.mp hsame
  refine ⟨by decide +kernel, valid_listed, hvalid', contract, otherContract, hcontract, hother, hhashes,
    hvalue fractionText rfl _ _ _ _ _ _ valid_listed hvalid' hcontract hother ?_⟩
  rw [compileContract_eq] at hcontract hother
  obtain ⟨document, -, rfl⟩ := map_eq_some_iff.mp hcontract
  obtain ⟨otherDocument, -, rfl⟩ := map_eq_some_iff.mp hother
  exact hhashes.symm

end BlueprintCompiler

end Extrittio
