import Extrittio.Contract.Closure
import Extrittio.Library.Table

/-!
Metric keys and the selectors of rules. A field of a blueprint is named by its stream
and its path; a rule names it by the text of both. The two grammars are written apart:
which declared fields a rule can name.
-/
namespace Extrittio

open List Option Blueprint BlueprintCompiler Bool Relational.Table

structure MetricSelector where
  streamKey : String
  fieldPath : String
  deriving DecidableEq

def splitOnce (separator : List Char) : List Char → Option (List Char × List Char)
  | [] => if separator.isEmpty then some ([], []) else none
  | c :: cs =>
    if separator.isPrefixOf (c :: cs) then some ([], (c :: cs).drop separator.length)
    else (splitOnce separator cs).map fun parts => (c :: parts.1, parts.2)

namespace MetricSelector

/-- A tilde takes the next character with it, which is a zero or a one. -/
def escapesAccepted : List Char → Bool
  | [] => true
  | '~' :: c :: cs => (c = '0' || c = '1') && escapesAccepted cs
  | ['~'] => false
  | _ :: cs => escapesAccepted cs

def parse (field : String) : Option MetricSelector := do
  let (stream, path) ← splitOnce ['.', '/'] field.toList
  if !decide (1 ≤ (String.ofList stream).utf8ByteSize ∧ (String.ofList stream).utf8ByteSize ≤ 64) ||
      !stream.head?.any Char.isLower ||
      !stream.all fun c => c.isLower || c.isDigit || c = '-' || c = '_' || c = '.' then none
  if !escapesAccepted path then none
  return ⟨String.ofList stream, String.ofList ('/' :: path)⟩

def fieldKey (selector : MetricSelector) : String := s!"{selector.streamKey}.{selector.fieldPath}"

end MetricSelector

/-- Every tilde of a text stands before a zero or a one, as JSON pointers escape. -/
def EscapesValid (text : List Char) : Prop :=
  ∀ before after, text = before ++ '~' :: after →
    after.head? = some '0' ∨ after.head? = some '1'

namespace RuleApplication

/-- The field that a telemetry condition selects, in the revision that it names. The
route is that of the conditions before it, and becomes that of this one. -/
def validateMetricField (blueprint : DeviceBlueprint) (selector : MetricSelector)
    (threshold : String) (sharedRoute : Option String) : Except ApplicationError String := do
  let some stream := blueprint.spec.streams.find? fun stream => stream.key = selector.streamKey
    | throw (.invalidInput "telemetry selector is not a declared numeric field")
  if sharedRoute.any (· ≠ stream.route) then
    throw (.invalidInput "telemetry conditions must use streams on one event route")
  let some field := (stream.fields.find? fun field => field.path = selector.fieldPath).filter
      fun field => field.valueType.isNumeric
    | throw (.invalidInput "telemetry selector is not a declared numeric field")
  if field.valueType = .int64 && (parseI64 threshold).isNone then
    throw (.invalidInput "int64 telemetry conditions require an exact integer threshold")
  return stream.route

/-- The selector of a condition and the field it names. -/
def validateSelector (blueprint : DeviceBlueprint) (field threshold : String)
    (sharedRoute : Option String) : Except ApplicationError String := do
  let some selector := MetricSelector.parse field
    | throw (.invalidInput "invalid telemetry selector path")
  validateMetricField blueprint selector threshold sharedRoute

end RuleApplication

/-! Keys are taken apart where they were put together. -/

section

theorem splitOnce_key {stream path : List Char} (h : '/' ∉ stream) :
    splitOnce ['.', '/'] (stream ++ '.' :: '/' :: path) = some (stream, path) := by
  induction stream with
  | nil => rfl
  | cons c stream ih =>
    have hrest : '/' ∉ stream := fun hmem => h (mem_cons_of_mem c hmem)
    have hno : ['.', '/'].isPrefixOf (c :: (stream ++ '.' :: '/' :: path)) = false := by
      cases stream with
      | nil => simp [List.isPrefixOf]
      | cons d stream =>
        have hd : '/' ≠ d := fun heq => hrest (heq ▸ mem_cons_self)
        simp [List.isPrefixOf, hd]
    rw [cons_append, splitOnce, if_neg (by simp [hno]), ih hrest]
    rfl

theorem escapesValid_cons {c : Char} {text : List Char} : EscapesValid (c :: text) ↔
    (c = '~' → text.head? = some '0' ∨ text.head? = some '1') ∧ EscapesValid text := by
  constructor
  · intro h
    refine ⟨fun hc => h [] text (by rw [hc, nil_append]), fun before after heq => ?_⟩
    exact h (c :: before) after (by rw [heq, cons_append])
  · rintro ⟨hhead, hrest⟩ before after heq
    cases before with
    | nil =>
      obtain ⟨hc, rfl⟩ := List.cons.inj heq
      exact hhead hc
    | cons d before => exact hrest before after (List.cons.inj heq).2

theorem escapesAccepted_iff {path : List Char} :
    MetricSelector.escapesAccepted path ↔ EscapesValid path := by
  fun_induction MetricSelector.escapesAccepted path with
  | case1 => exact iff_of_true rfl fun before after heq => by simp at heq
  | case2 c cs ih =>
    rw [escapesValid_cons, escapesValid_cons, and_eq_true_iff, ih]
    simp only [head?_cons, Option.some.injEq, or_eq_true, decide_eq_true_eq, forall_const]
    refine and_congr_right fun hc => (and_iff_right fun htilde => ?_).symm
    rcases hc with rfl | rfl <;> cases htilde
  | case3 =>
    refine iff_of_false false_ne_true fun h => ?_
    rcases h [] [] rfl with hnil | hnil <;> cases hnil
  | case4 c cs hpair hsingle ih =>
    have hc : c ≠ '~' := by
      rintro rfl
      cases cs with
      | nil => exact hsingle rfl rfl
      | cons d cs => exact hpair d cs rfl rfl
    rw [escapesValid_cons, ih]
    exact (and_iff_right fun h => absurd h hc).symm

instance (text : List Char) : Decidable (EscapesValid text) :=
  decidable_of_iff _ escapesAccepted_iff

end

namespace Blueprint

theorem slash_notMem_of_validKey {value : String} (h : validKey value) :
    '/' ∉ value.toList := by
  intro hmem
  have hall := List.all_eq_true.mp (and_eq_true_iff.mp h).2 '/' hmem
  cases hall

theorem exists_of_isJsonPointer {path : String} (h : isJsonPointer path) :
    ∃ rest, path.toList = '/' :: rest := by
  obtain ⟨rest, hrest⟩ := isPrefixOf_iff_prefix.mp (and_eq_true_iff.mp h).1
  exact ⟨rest, hrest.symm⟩

theorem isJsonPointer_of_validateFields {streamIndex index : ℕ} {seen : List String}
    {fields : List FieldDefinition} (h : validateFields streamIndex index seen fields = [])
    {field : FieldDefinition} (hfield : field ∈ fields) : isJsonPointer field.path := by
  induction fields generalizing index seen with
  | nil => cases hfield
  | cons first fields ih =>
    simp only [validateFields, append_eq_nil_iff, require_eq_nil] at h
    obtain ⟨⟨⟨⟨hpointer, -⟩, -⟩, -⟩, hrest⟩ := h
    rcases mem_cons.mp hfield with rfl | hmem
    · exact hpointer
    · exact ih hrest hmem

theorem declared_of_validated {p : Platform} (blueprint : ValidatedBlueprint p)
    {stream : StreamDefinition} (hstream : stream ∈ blueprint.blueprint.spec.streams) :
    validKey stream.key ∧ ∀ field ∈ stream.fields, isJsonPointer field.path := by
  have hissues := blueprint.valid
  simp only [issues, append_eq_nil_iff] at hissues
  obtain ⟨⟨⟨⟨⟨⟨⟨⟨⟨-, hstreams⟩, -⟩, -⟩, -⟩, -⟩, -⟩, -⟩, -⟩, -⟩ := hissues
  obtain ⟨-, heach⟩ := append_eq_nil_iff.mp hstreams
  obtain ⟨index, hvalid⟩ := of_each_eq_nil heach hstream
  simp only [validateStream, append_eq_nil_iff] at hvalid
  obtain ⟨⟨hkey, -⟩, hfields⟩ := hvalid
  exact ⟨require_eq_nil.mp hkey, fun field => isJsonPointer_of_validateFields hfields⟩

end Blueprint

theorem toList_key (stream path : String) :
    (s!"{stream}.{path}").toList = stream.toList ++ '.' :: path.toList := by
  simp [toString]

theorem key_injective {stream other path otherPath : String}
    (hstream : validKey stream) (hother : validKey other) (hpath : isJsonPointer path)
    (hotherPath : isJsonPointer otherPath)
    (h : s!"{stream}.{path}" = s!"{other}.{otherPath}") : stream = other ∧ path = otherPath := by
  obtain ⟨rest, hrest⟩ := exists_of_isJsonPointer hpath
  obtain ⟨otherRest, hotherRest⟩ := exists_of_isJsonPointer hotherPath
  have hsplit := congrArg (fun key => splitOnce ['.', '/'] key.toList) h
  simp only [toList_key, hrest, hotherRest,
    splitOnce_key (slash_notMem_of_validKey hstream),
    splitOnce_key (slash_notMem_of_validKey hother), Option.some.injEq,
    Prod.mk.injEq] at hsplit
  refine ⟨String.toList_inj.mp hsplit.1, String.toList_inj.mp ?_⟩
  rw [hrest, hotherRest, hsplit.2]

/-- The key of a declared field is read back, unless an escape of its path is refused. -/
theorem parse_key {stream path : String} (hstream : validKey stream)
    (hpath : isJsonPointer path) :
    MetricSelector.parse s!"{stream}.{path}" =
      if EscapesValid path.toList then some ⟨stream, path⟩ else none := by
  obtain ⟨rest, hrest⟩ := exists_of_isJsonPointer hpath
  have hkey : (s!"{stream}.{path}").toList = stream.toList ++ '.' :: '/' :: rest := by
    rw [toList_key, hrest]
  have hescapes : EscapesValid path.toList ↔ MetricSelector.escapesAccepted rest := by
    rw [escapesAccepted_iff, hrest, escapesValid_cons]
    exact and_iff_right nofun
  have hchecks := hstream
  simp only [validKey, and_eq_true] at hchecks
  obtain ⟨⟨hsize, hhead⟩, hall⟩ := hchecks
  have hpathText : String.ofList ('/' :: rest) = path := by rw [← hrest, String.ofList_toList]
  simp only [MetricSelector.parse, hkey, splitOnce_key (slash_notMem_of_validKey hstream),
    String.ofList_toList, hsize, hhead, hall, hpathText, hescapes, bind_eq_bind,
    bind_some, Bool.not_true, Bool.or_self, Bool.false_eq_true, if_false, Bool.not_eq_true']
  cases MetricSelector.escapesAccepted rest <;> rfl

namespace Blueprint

variable {p : Platform} (blueprint : ValidatedBlueprint p)

theorem nodup_metricPaths : (metricPaths blueprint.blueprint).Nodup := by
  have hsound := blueprint.sound
  refine nodup_flatMap.mpr ⟨fun stream hstream => ?_, ?_⟩
  · obtain ⟨hkey, hpaths⟩ := declared_of_validated blueprint hstream
    have hnodup := hsound.fieldPaths stream hstream
    refine List.Nodup.map_on (fun field hfield other hother heq => ?_) hnodup.of_map
    have hsame := (key_injective hkey hkey (hpaths field hfield) (hpaths other hother) heq).2
    exact inj_on_of_nodup_map hnodup hfield hother hsame
  · refine (pairwise_map.mp hsound.streamKeys).imp_of_mem fun hstream hother hne key hin hin' => ?_
    obtain ⟨field, hfield, rfl⟩ := List.mem_map.mp hin
    obtain ⟨otherField, hotherField, heq⟩ := List.mem_map.mp hin'
    obtain ⟨hkey, hpaths⟩ := declared_of_validated blueprint hstream
    obtain ⟨hotherKey, hotherPaths⟩ := declared_of_validated blueprint hother
    exact hne (key_injective hkey hotherKey (hpaths field hfield)
      (hotherPaths otherField hotherField) heq.symm).1

variable {blueprint} {stream : StreamDefinition} {field : FieldDefinition}

/-- The lists of a validated blueprint are tables, and a selector finds what it names. -/
theorem validateMetricField_declared (hstream : stream ∈ blueprint.blueprint.spec.streams)
    (hfield : field ∈ stream.fields) (hnumeric : field.valueType.isNumeric) :
    RuleApplication.validateMetricField blueprint.blueprint ⟨stream.key, field.path⟩ "0" none =
      .ok stream.route := by
  have hsound := blueprint.sound
  have hfindStream := (find?_eq_some
    (t := ⟨blueprint.blueprint.spec.streams, hsound.streamKeys⟩)).mpr ⟨hstream, rfl⟩
  have hfindField := (find?_eq_some
    (t := ⟨stream.fields, hsound.fieldPaths stream hstream⟩)).mpr ⟨hfield, rfl⟩
  have hzero : (parseI64 "0").isNone = false := by decide
  simp only [Relational.Table.find?] at hfindStream hfindField
  simp only [RuleApplication.validateMetricField, hfindStream, hfindField, filter_some,
    hnumeric, if_true, any_none, hzero, Bool.and_false, Bool.false_eq_true, if_false]
  rfl

end Blueprint

theorem escapesValid_of_parse {text : String} {selector : MetricSelector}
    (h : MetricSelector.parse text = some selector) : EscapesValid selector.fieldPath.toList := by
  simp only [MetricSelector.parse, bind_eq_bind, bind_eq_some_iff] at h
  obtain ⟨⟨stream, path⟩, -, h⟩ := h
  have hescapes : MetricSelector.escapesAccepted path ∧
      selector.fieldPath.toList = '/' :: path := by
    split at h
    · cases h
    · split at h
      · cases h
      · cases h
        exact ⟨by simp_all, String.toList_ofList⟩
  rw [hescapes.2, escapesValid_cons]
  exact ⟨nofun, escapesAccepted_iff.mp hescapes.1⟩

/-- A rule can name a field: a condition on it is accepted in some text, with some threshold. -/
def Addressable (blueprint : DeviceBlueprint) (stream : StreamDefinition)
    (field : FieldDefinition) : Prop :=
  ∃ text threshold, MetricSelector.parse text = some ⟨stream.key, field.path⟩ ∧
    RuleApplication.validateSelector blueprint text threshold none = .ok stream.route

namespace Blueprint

/-- Keys tell the declared fields apart. The selector of a field is its stream and path
exactly when the escapes of the path are those of JSON pointers, which the validation of
blueprints leaves unchecked; no other field can be named by a rule. -/
theorem selectors_name_fields {p : Platform} (blueprint : ValidatedBlueprint p) :
    (metricPaths blueprint.blueprint).Nodup ∧
    ∀ stream ∈ blueprint.blueprint.spec.streams, ∀ field ∈ stream.fields,
      (MetricSelector.parse s!"{stream.key}.{field.path}" = some ⟨stream.key, field.path⟩ ↔
        EscapesValid field.path.toList) ∧
      (field.valueType.isNumeric = true →
        (Addressable blueprint.blueprint stream field ↔ EscapesValid field.path.toList)) := by
  refine ⟨nodup_metricPaths blueprint, fun stream hstream field hfield => ?_⟩
  obtain ⟨hkey, hpaths⟩ := declared_of_validated blueprint hstream
  have hparse := parse_key hkey (hpaths field hfield)
  refine ⟨⟨escapesValid_of_parse, fun hvalid => ?_⟩, fun hnumeric => ⟨?_, fun hvalid => ?_⟩⟩
  · rw [hparse, if_pos hvalid]
  · rintro ⟨text, threshold, hselector, -⟩
    exact escapesValid_of_parse hselector
  · rw [if_pos hvalid] at hparse
    refine ⟨_, "0", hparse, ?_⟩
    simp only [RuleApplication.validateSelector, hparse]
    exact validateMetricField_declared hstream hfield hnumeric

open BlueprintCompiler in
theorem selectors_name_fields_tracker :
    MetricSelector.parse "position./lat" = some ⟨"position", "/lat"⟩ ∧
    Addressable tracker trackerStream (numberField "/lat" "Latitude") := by
  obtain ⟨-, hfields⟩ := selectors_name_fields validTracker
  obtain ⟨hparse, haddress⟩ := hfields trackerStream (mem_singleton.mpr rfl)
    (numberField "/lat" "Latitude") mem_cons_self
  have hvalid : EscapesValid "/lat".toList := by decide
  exact ⟨hparse.mpr hvalid, (haddress rfl).mpr hvalid⟩

/-- A stream with a field whose path escapes what has no escape. -/
def escapedStream : StreamDefinition :=
  { trackerStream with
    fields := trackerStream.fields ++
      [numberField "/a~2" "Escaped"] }

def escaped : DeviceBlueprint :=
  { tracker with
    spec := { trackerSpec with streams := [escapedStream] } }

theorem escaped_field_unnamed : issues escaped default = [] ∧
    escaped.spec.streams = [escapedStream] ∧
    (∃ field ∈ escapedStream.fields, field.valueType.isNumeric = true ∧ field.path = "/a~2") ∧
    MetricSelector.parse "position./a~2" = none := by
  refine ⟨by decide +kernel, rfl, ?_, by decide⟩
  exact ⟨numberField "/a~2" "Escaped", mem_append_right _
    (mem_singleton.mpr rfl), rfl, rfl⟩

end Blueprint

end Extrittio
