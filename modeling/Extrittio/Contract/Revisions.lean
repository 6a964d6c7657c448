import Extrittio.Contract.Compatibility
import Extrittio.Contract.Sections

/-!
Revisions between which the comparison finds no change. The comparison leaves parts of a
contract out, so their documents need not be the same.
-/
namespace Extrittio

open List Option

namespace Blueprint

variable {path : String} {breaking : Bool}

theorem ite_changed_eq_nil {condition : Prop} [Decidable condition] {message : String}
    {otherwise : List CompatibilityChange} :
    (if condition then changed path breaking message else otherwise) = [] ↔
      ¬condition ∧ otherwise = [] := by
  by_cases h : condition <;> simp [h, changed]

theorem eq_of_compareTransport {previous next : TransportDefinition}
    (h : compareTransport previous next path = []) : previous = next := by
  rw [compareTransport, ite_changed_eq_nil, ite_changed_eq_nil] at h
  exact not_not.mp h.2.1

theorem eq_of_compareSchema {previous next : SchemaDefinition}
    (h : compareSchema previous next path = []) : previous = next := by
  rw [compareSchema, ite_changed_eq_nil] at h
  exact not_not.mp h.1

theorem eq_of_compareRoute {previous next : RouteDefinition}
    (h : compareRoute previous next path = []) : previous = next := by
  rw [compareRoute, ite_changed_eq_nil] at h
  exact not_not.mp h.1

theorem eq_of_compareField {previous next : FieldDefinition}
    (h : compareField previous next path = []) : previous = next := by
  rw [compareField, ite_changed_eq_nil, ite_changed_eq_nil] at h
  exact not_not.mp h.2.1

theorem eq_of_compareCommand {previous next : CommandDefinition}
    (h : compareCommand previous next path = []) : previous = next := by
  rw [compareCommand, ite_changed_eq_nil, ite_changed_eq_nil] at h
  exact not_not.mp h.2.1

theorem eq_of_compareSerialized {T : Type} [DecidableEq T] {previous next : T}
    (h : compareSerialized previous next path breaking = []) : previous = next := by
  rw [compareSerialized, ite_changed_eq_nil] at h
  exact not_not.mp h.1

section

variable {T : Type} {previous next : List T} {key : T → String} {path : String}
  {removalBreaking : Bool} {compare : T → T → String → List CompatibilityChange}

theorem results_of_compareKeyed_eq_nil {β : Type} {f : T → β} (hkeys : (previous.map key).Nodup)
    (hnext : (next.map key).Nodup)
    (h : compareKeyed previous next key path removalBreaking compare = [])
    (hsame : ∀ item ∈ previous, ∀ nextItem ∈ next, ∀ itemPath, key nextItem = key item →
      compare item nextItem itemPath = [] → f item = f nextItem) (result : β) :
    (∃ item ∈ previous, f item = result) ↔ ∃ nextItem ∈ next, f nextItem = result := by
  obtain ⟨hforth, hback⟩ := of_compareKeyed_eq_nil hkeys hnext h
  constructor
  · rintro ⟨item, hitem, rfl⟩
    obtain ⟨nextItem, hmem, hkey, itemPath, hcompare⟩ := hforth item hitem
    exact ⟨nextItem, hmem, (hsame item hitem nextItem hmem itemPath hkey hcompare).symm⟩
  · rintro ⟨nextItem, hmem, rfl⟩
    obtain ⟨item, hitem, hkey⟩ := hback nextItem hmem
    obtain ⟨found, hfound, hfoundKey, itemPath, hcompare⟩ := hforth item hitem
    obtain rfl : found = nextItem :=
      inj_on_of_nodup_map hnext hfound hmem (hfoundKey.trans hkey)
    exact ⟨item, hitem, hsame item hitem found hmem itemPath hfoundKey hcompare⟩

theorem mem_iff_of_compareKeyed_eq_nil (hkeys : (previous.map key).Nodup)
    (hnext : (next.map key).Nodup)
    (h : compareKeyed previous next key path removalBreaking compare = [])
    (hsame : ∀ item nextItem itemPath, compare item nextItem itemPath = [] → item = nextItem)
    (item : T) : item ∈ previous ↔ item ∈ next := by
  have hresults := results_of_compareKeyed_eq_nil (f := id) hkeys hnext h
    (fun item _ nextItem _ itemPath _ => hsame item nextItem itemPath) item
  simpa using hresults

end

end Blueprint

namespace BlueprintCompiler

open Blueprint

theorem compileStream_eq_of_compareStream {previous next : StreamDefinition} {path : String}
    (hkey : next.key = previous.key) (hpaths : (previous.fields.map (·.path)).Nodup)
    (hnext : (next.fields.map (·.path)).Nodup) (h : compareStream previous next path = []) :
    compileStream previous = compileStream next := by
  obtain ⟨hroute, hfields⟩ := append_eq_nil_iff.mp h
  rw [ite_changed_eq_nil] at hroute
  push Not at hroute
  have hmaps : OrderedMap.ofList (previous.fields.map compileField) =
      .ofList (next.fields.map compileField) := by
    refine OrderedMap.ofList_map_congr (fun _ => rfl) hpaths hnext
      (results_of_compareKeyed_eq_nil hpaths hnext hfields ?_)
    intro field _ nextField _ fieldPath _ hcompare
    rw [eq_of_compareField hcompare]
  rw [compileStream, compileStream, hkey, hroute.1.1, hroute.1.2, hmaps]

variable {p : Platform} {previous next : ValidatedBlueprint p}

/-- Revisions without a change declare the same, as far as they are compared. -/
theorem sameDeclarations_of_unchanged (h : (compareBlueprints previous next).changes = []) :
    SameDeclarations previous.blueprint next.blueprint := by
  have hs := previous.sound
  have hs' := next.sound
  simp only [compareBlueprints, compareChanges, append_eq_nil_iff, and_assoc] at h
  obtain ⟨-, htransports, hschemas, hroutes, hstreams, hcommands, hmetadata, -, hreported,
    hlocation, hpresentation⟩ := h
  exact {
    metadata := eq_of_compareSerialized hmetadata
    transports := mem_iff_of_compareKeyed_eq_nil hs.transportKeys hs'.transportKeys htransports
      fun _ _ _ => eq_of_compareTransport
    routes := mem_iff_of_compareKeyed_eq_nil hs.routeKeys hs'.routeKeys hroutes
      fun _ _ _ => eq_of_compareRoute
    schemas := mem_iff_of_compareKeyed_eq_nil hs.schemaKeys hs'.schemaKeys hschemas
      fun _ _ _ => eq_of_compareSchema
    streams := results_of_compareKeyed_eq_nil hs.streamKeys hs'.streamKeys hstreams
      fun stream hstream nextStream hnextStream _ hkey => compileStream_eq_of_compareStream hkey
        (hs.fieldPaths stream hstream) (hs'.fieldPaths nextStream hnextStream)
    commands := mem_iff_of_compareKeyed_eq_nil hs.commandKeys hs'.commandKeys hcommands
      fun _ _ _ => eq_of_compareCommand
    location := eq_of_compareSerialized hlocation
    reportedState := eq_of_compareSerialized hreported
    presentation := eq_of_compareSerialized hpresentation }

def compiledDocument (p : Platform) (blueprint : ValidatedBlueprint p) (context : CompileContext) :
    Option CompiledContractDocument :=
  (compile p (CompiledContractDocument.contractHash · p) blueprint context).toOption.map (·.document)

theorem compiledDocument_eq (blueprint : ValidatedBlueprint p) (context : CompileContext) :
    compiledDocument p blueprint context =
      (compileDocument p blueprint.blueprint context).toOption := by
  simp only [compiledDocument, compile]
  cases compileDocument p blueprint.blueprint context <;> rfl

def revised (spec : BlueprintSpec) : DeviceBlueprint := { tracker with spec := spec }

def reordered : ValidatedBlueprint default :=
  ⟨revised { trackerSpec with
    streams := [{ trackerStream with fields := trackerStream.fields.reverse }] }, by decide +kernel⟩

def quickened : ValidatedBlueprint default :=
  ⟨revised { trackerSpec with
    runtime := { trackerSpec.runtime with heartbeat := ⟨"10s", "30s"⟩ } }, by decide +kernel⟩

def raised : ValidatedBlueprint default :=
  ⟨revised { trackerSpec with
    runtime := { trackerSpec.runtime with limits := ⟨2048, 60, 16⟩ } }, by decide +kernel⟩

/-- They take firmware for one board only. -/
def updatable : ValidatedBlueprint default :=
  ⟨revised { trackerSpec with
    firmware := some ⟨.partitionSwap, .ofList [("board", .string "rev-b")]⟩ }, by decide +kernel⟩

end BlueprintCompiler

end Extrittio
