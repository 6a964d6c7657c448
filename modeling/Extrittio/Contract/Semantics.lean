import Extrittio.Contract.Schema

/-!
What the keywords of the schema profile declare, and the proof that validation
decides it. Numeric bounds compare the readings of both numbers as doubles.
-/
namespace Extrittio

open List Option Json

namespace Schema

/-! The profile. -/

/-- The keywords of one schema object, apart from the schemas nested in it. -/
structure Keywords (fields : List (String × Json)) : Prop where
  supported : ∀ field ∈ fields, field.1 ∈ supportedKeywords
  type : ∀ value, fields.lookup "type" = some value → ∃ name ∈ typeNames, value = .string name
  properties : ∀ value, fields.lookup "properties" = some value →
    ∃ children, value = .object children ∧ children.length ≤ 256
  required : ∀ value, fields.lookup "required" = some value →
    ∃ names : List String, value = .array (names.map .string) ∧ names.Nodup
  numeric : ∀ keyword ∈ numericKeywords, ∀ value, fields.lookup keyword = some value →
    ∃ bound, value.asF64 = some bound
  lengths : ∀ keyword ∈ lengthKeywords, ∀ value, fields.lookup keyword = some value →
    ∃ bound, value.asU64 = some bound
  enum : ∀ value, fields.lookup "enum" = some value → ∃ values, value = .array values ∧ values ≠ []

/-- A schema of the profile with at most so many levels of nested schemas. A
boolean under `additionalProperties` does not count as a level. -/
inductive WellFormed : ℕ → Json → Prop
  | bool (levels : ℕ) (accept : Bool) : WellFormed (levels + 1) (.bool accept)
  | object {levels : ℕ} {fields : List (String × Json)} (keywords : Keywords fields)
      (properties : ∀ children, fields.lookup "properties" = some (.object children) →
        ∀ child ∈ children, WellFormed levels child.2)
      (additional : ∀ schema, fields.lookup "additionalProperties" = some schema →
        (∀ accept, schema ≠ .bool accept) → WellFormed levels schema)
      (items : ∀ schema, fields.lookup "items" = some schema → WellFormed levels schema) :
      WellFormed (levels + 1) (.object fields)

/-! What a schema asks of an instance. -/

/-- The types; an integer is one that JSON numbers can hold exactly. -/
inductive HasType : String → Json → Prop
  | object (fields : List (String × Json)) : HasType "object" (.object fields)
  | array (items : List Json) : HasType "array" (.array items)
  | string (value : String) : HasType "string" (.string value)
  | whole (n : ℤ) : HasType "number" (.integer n)
  | fraction (value : ℚ) : HasType "number" (.float value)
  | integer {n : ℤ} (low : -9223372036854775808 ≤ n) (high : n ≤ 18446744073709551615) :
      HasType "integer" (.integer n)
  | boolean (value : Bool) : HasType "boolean" (.bool value)
  | null : HasType "null" .null

/-- The double that a keyword's number reads as. -/
def numberUnder (fields : List (String × Json)) (keyword : String) : Option ℚ :=
  (fields.lookup keyword).bind Json.asF64

def countUnder (fields : List (String × Json)) (keyword : String) : Option ℕ :=
  (fields.lookup keyword).bind Json.asU64

/-- What one schema object asks of an instance, apart from the parts of the instance. -/
structure Meets (fields : List (String × Json)) (inst : Json) : Prop where
  type : ∀ name, fields.lookup "type" = some (.string name) → HasType name inst
  const : ∀ value, fields.lookup "const" = some value → inst = value
  enum : ∀ values, fields.lookup "enum" = some (.array values) → inst ∈ values
  minimum : ∀ bound ∈ numberUnder fields "minimum", ∀ number ∈ inst.asF64, bound ≤ number
  maximum : ∀ bound ∈ numberUnder fields "maximum", ∀ number ∈ inst.asF64, number ≤ bound
  exclusiveMinimum :
    ∀ bound ∈ numberUnder fields "exclusiveMinimum", ∀ number ∈ inst.asF64, bound < number
  exclusiveMaximum :
    ∀ bound ∈ numberUnder fields "exclusiveMaximum", ∀ number ∈ inst.asF64, number < bound
  minLength : ∀ bound ∈ countUnder fields "minLength", ∀ string ∈ inst.asStr, bound ≤ string.length
  maxLength : ∀ bound ∈ countUnder fields "maxLength", ∀ string ∈ inst.asStr, string.length ≤ bound
  minItems : ∀ bound ∈ countUnder fields "minItems", ∀ items, inst = .array items →
    bound ≤ items.length
  maxItems : ∀ bound ∈ countUnder fields "maxItems", ∀ items, inst = .array items →
    items.length ≤ bound
  required : ∀ entries, inst = .object entries →
    ∀ names, fields.lookup "required" = some (.array names) →
      ∀ name, .string name ∈ names → ∃ value, (name, value) ∈ entries

/-- An instance satisfies a schema: it meets the keywords, its items satisfy
`items`, and each of its entries satisfies the schema declared for its name or,
where there is none, `additionalProperties`. -/
inductive Satisfies : Json → Json → Prop
  | accept (inst : Json) : Satisfies (.bool true) inst
  | object {fields : List (String × Json)} {inst : Json} (meets : Meets fields inst)
      (items : ∀ values, inst = .array values → ∀ schema, fields.lookup "items" = some schema →
        ∀ value ∈ values, Satisfies schema value)
      (properties : ∀ entries, inst = .object entries → ∀ entry ∈ entries, ∀ schema,
        propertySchema fields entry.1 = some schema → Satisfies schema entry.2)
      (additional : ∀ entries, inst = .object entries → ∀ entry ∈ entries,
        propertySchema fields entry.1 = none →
        ∀ schema, fields.lookup "additionalProperties" = some schema → Satisfies schema entry.2) :
      Satisfies (.object fields) inst

/-! The inspection of a schema. -/

section

variable {fields : List (String × Json)} {path : String}

theorem inspectKeywords_eq_nil :
    inspectKeywords fields path = [] ↔ ∀ field ∈ fields, field.1 ∈ supportedKeywords := by
  simp [inspectKeywords, filter_eq_nil_iff]

theorem inspectType_eq_nil :
    inspectType fields path = [] ↔
      ∀ value, fields.lookup "type" = some value → ∃ name ∈ typeNames, value = .string name := by
  unfold inspectType
  cases fields.lookup "type" with
  | none => simp
  | some value => cases value <;> simp [asStr]

theorem inspectRequired_eq_nil {index : ℕ} {seen : List String} {names : List Json} :
    inspectRequired path index seen names = [] ↔
      ∃ strings : List String, names = strings.map .string ∧ strings.Nodup ∧
        ∀ name ∈ strings, name ∉ seen := by
  induction names generalizing index seen with
  | nil => simp [inspectRequired]
  | cons name names ih =>
    unfold inspectRequired
    cases name with
    | string name =>
      simp only [asStr]
      split_ifs with hseen
      · simp only [false_iff, not_exists]
        rintro (_ | ⟨s, strings⟩) ⟨heq, -, hnot⟩
        · simp at heq
        · simp only [map_cons, List.cons.injEq, string.injEq] at heq
          exact hnot s mem_cons_self (heq.1 ▸ hseen)
      · rw [ih]
        constructor
        · rintro ⟨strings, rfl, hnodup, hnot⟩
          refine ⟨name :: strings, rfl, nodup_cons.mpr ⟨fun hmem => ?_, hnodup⟩, ?_⟩
          · exact hnot name hmem mem_cons_self
          · intro s hs
            rcases mem_cons.mp hs with rfl | hs
            · exact hseen
            · exact fun h => hnot s hs (mem_cons_of_mem _ h)
        · rintro ⟨_ | ⟨s, strings⟩, heq, hnodup, hnot⟩
          · simp at heq
          · simp only [map_cons, List.cons.injEq, string.injEq] at heq
            obtain ⟨rfl, rfl⟩ := heq
            obtain ⟨hfresh, hnodup⟩ := nodup_cons.mp hnodup
            refine ⟨strings, rfl, hnodup, fun t ht hmem => ?_⟩
            rcases mem_cons.mp hmem with rfl | hmem
            · exact hfresh ht
            · exact hnot t (mem_cons_of_mem _ ht) hmem
    | _ =>
      simp only [asStr, reduceCtorEq, false_iff, not_exists]
      rintro (_ | ⟨s, strings⟩) ⟨heq, -⟩ <;> simp at heq

theorem inspectNumeric_eq_nil :
    inspectNumeric fields path = [] ↔
      ∀ keyword ∈ numericKeywords, ∀ value, fields.lookup keyword = some value →
        ∃ bound, value.asF64 = some bound := by
  simp only [inspectNumeric, map_eq_nil_iff, filter_eq_nil_iff, Option.any_eq_true,
    decide_eq_true_eq, not_exists, not_and, ← ne_none_iff_exists']

theorem inspectLengths_eq_nil :
    inspectLengths fields path = [] ↔
      ∀ keyword ∈ lengthKeywords, ∀ value, fields.lookup keyword = some value →
        ∃ bound, value.asU64 = some bound := by
  simp only [inspectLengths, map_eq_nil_iff, filter_eq_nil_iff, Option.any_eq_true,
    decide_eq_true_eq, not_exists, not_and, ← ne_none_iff_exists']

theorem inspectEnum_eq_nil :
    inspectEnum fields path = [] ↔
      ∀ value, fields.lookup "enum" = some value → ∃ values, value = .array values ∧ values ≠ [] := by
  unfold inspectEnum
  cases fields.lookup "enum" with
  | none => simp
  | some value =>
    cases value with
    | array values => cases values <;> simp
    | _ => simp

variable {inspect : Json → String → List ValidationIssue} {Nested : Json → Prop}

theorem inspectProperties_eq_nil (h : ∀ schema path, inspect schema path = [] ↔ Nested schema) :
    inspectProperties inspect fields path = [] ↔
      (∀ value, fields.lookup "properties" = some value →
        ∃ children, value = .object children ∧ children.length ≤ 256) ∧
      ∀ children, fields.lookup "properties" = some (.object children) →
        ∀ child ∈ children, Nested child.2 := by
  unfold inspectProperties
  cases fields.lookup "properties" with
  | none => simp
  | some value =>
    cases value with
    | object children =>
      rw [append_eq_nil_iff, flatMap_eq_nil_iff]
      simp [h]
    | _ => simp

theorem inspectAdditional_eq_nil (h : ∀ schema path, inspect schema path = [] ↔ Nested schema) :
    inspectAdditional inspect fields path = [] ↔
      ∀ schema, fields.lookup "additionalProperties" = some schema →
        (∀ accept, schema ≠ .bool accept) → Nested schema := by
  unfold inspectAdditional
  cases fields.lookup "additionalProperties" with
  | none => simp
  | some value =>
    cases value with
    | bool accept =>
      refine iff_of_true rfl fun schema hschema hnot => ?_
      exact absurd (Option.some.inj hschema).symm (hnot accept)
    | _ => simp [h]

theorem inspectItems_eq_nil (h : ∀ schema path, inspect schema path = [] ↔ Nested schema) :
    inspectItems inspect fields path = [] ↔
      ∀ schema, fields.lookup "items" = some schema → Nested schema := by
  unfold inspectItems
  cases fields.lookup "items" with
  | none => simp
  | some value => simp [h]

theorem inspectRequiredThen_eq_nil {rest : List ValidationIssue} :
    inspectRequiredThen fields path rest = [] ↔
      (∀ value, fields.lookup "required" = some value →
        ∃ names : List String, value = .array (names.map .string) ∧ names.Nodup) ∧ rest = [] := by
  unfold inspectRequiredThen
  cases fields.lookup "required" with
  | none => simp
  | some value =>
    cases value with
    | array names =>
      rw [append_eq_nil_iff, inspectRequired_eq_nil]
      simp
    | _ => simp

end

variable {schema inst : Json} {path name : String} {p : Platform}

/-- A document has no issues exactly when it is a schema of the profile. -/
theorem inspectSchema_eq_nil {levels : ℕ} :
    inspectSchema levels schema path = [] ↔ WellFormed levels schema := by
  induction levels generalizing schema path with
  | zero =>
    simp only [inspectSchema, reduceCtorEq, false_iff]
    intro h
    cases h
  | succ levels ih =>
    cases schema with
    | bool accept => exact iff_of_true rfl (.bool levels accept)
    | object fields =>
      have hnested (schema : Json) (path : String) : _ := @ih schema path
      simp only [inspectSchema, append_eq_nil_iff, inspectRequiredThen_eq_nil,
        inspectKeywords_eq_nil, inspectType_eq_nil, inspectProperties_eq_nil hnested,
        inspectAdditional_eq_nil hnested, inspectItems_eq_nil hnested, inspectNumeric_eq_nil,
        inspectLengths_eq_nil, inspectEnum_eq_nil]
      constructor
      · rintro ⟨⟨⟨hsupported, htype⟩, hproperties, hchildren⟩, hrequired,
          ⟨⟨⟨hadditional, hitems⟩, hnumeric⟩, hlengths⟩, henum⟩
        exact .object ⟨hsupported, htype, hproperties, hrequired, hnumeric, hlengths, henum⟩
          hchildren hadditional hitems
      · intro h
        obtain _ | ⟨hk, hchildren, hadditional, hitems⟩ := h
        exact ⟨⟨⟨hk.supported, hk.type⟩, hk.properties, hchildren⟩, hk.required,
          ⟨⟨⟨hadditional, hitems⟩, hk.numeric⟩, hk.lengths⟩, hk.enum⟩
    | _ =>
      simp only [inspectSchema, reduceCtorEq, false_iff]
      intro h
      cases h

/-! The validation of an instance. -/

theorem matchesType_iff :
    matchesType name inst ↔ HasType name inst := by
  constructor
  · intro h
    unfold matchesType at h
    split at h
    · cases inst <;> first | exact .object _ | simp at h
    · cases inst <;> first | exact .array _ | simp at h
    · cases inst <;> first | exact .string _ | simp at h
    · cases inst <;> first | exact .whole _ | exact .fraction _ | simp [asF64] at h
    · cases inst with
      | integer n =>
        simp only [asI64, asU64, Bool.or_eq_true, isSome_ite] at h
        exact .integer (by omega) (by omega)
      | _ => simp [asI64, asU64] at h
    · cases inst <;> first | exact .boolean _ | simp at h
    · obtain rfl : inst = .null := by simpa using h
      exact .null
    · cases h
  · intro h
    cases h with
    | integer low high =>
      simp only [matchesType, asI64, asU64, Bool.or_eq_true, isSome_ite]
      omega
    | _ => rfl

section

variable {p : Platform} {fields : List (String × Json)} {inst : Json} {path keyword : String}
  {length : ℕ} {number : ℚ}

theorem typeMismatch_eq_none :
    typeMismatch fields inst = none ↔
      ∀ name, fields.lookup "type" = some (.string name) → HasType name inst := by
  unfold typeMismatch
  cases fields.lookup "type" with
  | none => simp
  | some value =>
    cases value with
    | string name => simp [asStr, filter_eq_none_iff, matchesType_iff]
    | _ => simp [asStr]

theorem checkConst_eq_nil :
    checkConst fields inst path = [] ↔
      ∀ value, fields.lookup "const" = some value → inst = value := by
  unfold checkConst
  cases fields.lookup "const" with
  | none => simp
  | some value => simp [eq_comm]

theorem checkEnum_eq_nil :
    checkEnum fields inst path = [] ↔
      ∀ values, fields.lookup "enum" = some (.array values) → inst ∈ values := by
  unfold checkEnum
  cases fields.lookup "enum" with
  | none => simp
  | some value => cases value <;> simp

theorem checkLength_min_eq_nil :
    checkLength fields keyword length true path = [] ↔
      ∀ bound ∈ countUnder fields keyword, bound ≤ length := by
  unfold checkLength countUnder
  cases (fields.lookup keyword).bind asU64 <;> simp

theorem checkLength_max_eq_nil :
    checkLength fields keyword length false path = [] ↔
      ∀ bound ∈ countUnder fields keyword, length ≤ bound := by
  unfold checkLength countUnder
  cases (fields.lookup keyword).bind asU64 <;> simp

theorem checkNumericBound_eq_nil {exclusive : Bool} :
    checkNumericBound p fields keyword number exclusive path = [] ↔
      ∀ bound ∈ numberUnder fields keyword,
        if keyword = "minimum" ∨ keyword = "exclusiveMinimum" then
          if exclusive then bound < number else bound ≤ number
        else if exclusive then number < bound else number ≤ bound := by
  unfold checkNumericBound numberUnder
  cases (fields.lookup keyword).bind asF64 with
  | none => simp
  | some bound =>
    by_cases hk : keyword = "minimum" ∨ keyword = "exclusiveMinimum" <;>
      cases exclusive <;> simp [hk]

theorem checkNumber_eq_nil :
    checkNumber p fields inst path = [] ↔
      (∀ bound ∈ numberUnder fields "minimum", ∀ number ∈ inst.asF64, bound ≤ number) ∧
      (∀ bound ∈ numberUnder fields "maximum", ∀ number ∈ inst.asF64, number ≤ bound) ∧
      (∀ bound ∈ numberUnder fields "exclusiveMinimum", ∀ number ∈ inst.asF64, bound < number) ∧
      (∀ bound ∈ numberUnder fields "exclusiveMaximum", ∀ number ∈ inst.asF64, number < bound) := by
  unfold checkNumber
  cases inst.asF64 with
  | none => simp
  | some number =>
    simp only [append_eq_nil_iff, checkNumericBound_eq_nil, and_assoc]
    simp

theorem checkString_eq_nil :
    checkString fields inst path = [] ↔
      (∀ bound ∈ countUnder fields "minLength", ∀ string ∈ inst.asStr, bound ≤ string.length) ∧
      (∀ bound ∈ countUnder fields "maxLength", ∀ string ∈ inst.asStr, string.length ≤ bound) := by
  unfold checkString
  cases inst with
  | string string =>
    rw [append_eq_nil_iff, checkLength_min_eq_nil, checkLength_max_eq_nil]
    simp [asStr]
  | _ => simp [asStr]

theorem checkRequired_eq_nil {entries : List (String × Json)} :
    checkRequired fields entries path = [] ↔
      ∀ names, fields.lookup "required" = some (.array names) →
        ∀ name, .string name ∈ names → ∃ value, (name, value) ∈ entries := by
  have hlookup (name : String) : entries.lookup name = none ↔ ∀ value, (name, value) ∉ entries := by
    simp only [lookup_eq_none_iff, bne_iff_ne, ne_eq, Prod.forall]
    exact ⟨fun h value hmem => h name value hmem rfl, fun h k v hmem hk => h v (hk ▸ hmem)⟩
  have hstring (names : List Json) (name : String) :
      name ∈ names.filterMap asStr ↔ .string name ∈ names := by
    simp only [mem_filterMap]
    constructor
    · rintro ⟨value, hmem, hvalue⟩
      cases value <;> simp [asStr] at hvalue
      exact hvalue ▸ hmem
    · exact fun hmem => ⟨_, hmem, rfl⟩
  unfold checkRequired
  cases fields.lookup "required" with
  | none => simp
  | some value =>
    cases value with
    | array names =>
      simp only [map_eq_nil_iff, filter_eq_nil_iff, hstring, isNone_iff_eq_none,
        hlookup, not_forall, not_not, Option.some.injEq, array.injEq, forall_eq']
    | _ => simp

variable {validate : Json → Json → String → List ValidationIssue}

theorem checkEachItem_eq_nil {items : List Json}
    (h : ∀ schema, fields.lookup "items" = some schema →
      ∀ value path, validate schema value path = [] ↔ Satisfies schema value) :
    checkEachItem validate fields items path = [] ↔
      ∀ schema, fields.lookup "items" = some schema → ∀ value ∈ items, Satisfies schema value := by
  unfold checkEachItem
  cases hschema : fields.lookup "items" with
  | none => simp
  | some schema =>
    simp only [flatMap_eq_nil_iff, h schema hschema, Option.some.injEq, forall_eq']
    rw [← List.forall_mem_map (f := Prod.fst) (P := Satisfies schema), zipIdx_map_fst]

theorem checkItems_eq_nil (h : ∀ schema, fields.lookup "items" = some schema →
      ∀ value path, validate schema value path = [] ↔ Satisfies schema value) :
    checkItems validate fields inst path = [] ↔
      (∀ bound ∈ countUnder fields "minItems", ∀ items, inst = .array items →
        bound ≤ items.length) ∧
      (∀ bound ∈ countUnder fields "maxItems", ∀ items, inst = .array items →
        items.length ≤ bound) ∧
      ∀ values, inst = .array values → ∀ schema, fields.lookup "items" = some schema →
        ∀ value ∈ values, Satisfies schema value := by
  unfold checkItems
  cases inst with
  | array items =>
    rw [append_eq_nil_iff, append_eq_nil_iff, checkLength_min_eq_nil,
      checkLength_max_eq_nil, checkEachItem_eq_nil h]
    simp [and_assoc]
  | _ => simp

theorem checkEntry_eq_nil {name : String} {value : Json}
    (hproperty : ∀ schema, propertySchema fields name = some schema →
      ∀ value path, validate schema value path = [] ↔ Satisfies schema value)
    (hadditional : ∀ schema, fields.lookup "additionalProperties" = some schema →
      (∃ accept, schema = .bool accept) ∨
        (∃ object, schema = .object object) ∧
          ∀ value path, validate schema value path = [] ↔ Satisfies schema value) :
    checkEntry validate fields name value path = [] ↔
      (∀ schema, propertySchema fields name = some schema → Satisfies schema value) ∧
      (propertySchema fields name = none →
        ∀ schema, fields.lookup "additionalProperties" = some schema → Satisfies schema value) := by
  unfold checkEntry
  cases hschema : propertySchema fields name with
  | some schema => simp [hproperty schema hschema]
  | none =>
    cases hextra : fields.lookup "additionalProperties" with
    | none => simp
    | some schema =>
      rcases hadditional schema hextra with ⟨accept, rfl⟩ | ⟨⟨object, rfl⟩, hvalid⟩
      · cases accept with
        | false =>
          simp only [reduceCtorEq, false_iff]
          intro h
          nomatch h.2 trivial _ rfl
        | true => simpa using Satisfies.accept value
      · simpa using hvalid value path

theorem checkEntries_eq_nil (hproperty : ∀ name schema, propertySchema fields name = some schema →
      ∀ value path, validate schema value path = [] ↔ Satisfies schema value)
    (hadditional : ∀ schema, fields.lookup "additionalProperties" = some schema →
      (∃ accept, schema = .bool accept) ∨
        (∃ object, schema = .object object) ∧
          ∀ value path, validate schema value path = [] ↔ Satisfies schema value) :
    checkEntries validate fields inst path = [] ↔
      (∀ entries, inst = .object entries → ∀ names,
        fields.lookup "required" = some (.array names) →
          ∀ name, .string name ∈ names → ∃ value, (name, value) ∈ entries) ∧
      (∀ entries, inst = .object entries → ∀ entry ∈ entries, ∀ schema,
        propertySchema fields entry.1 = some schema → Satisfies schema entry.2) ∧
      ∀ entries, inst = .object entries → ∀ entry ∈ entries,
        propertySchema fields entry.1 = none →
        ∀ schema, fields.lookup "additionalProperties" = some schema →
          Satisfies schema entry.2 := by
  unfold checkEntries
  cases inst with
  | object entries =>
    rw [append_eq_nil_iff, checkRequired_eq_nil, flatMap_eq_nil_iff]
    simp only [checkEntry_eq_nil (hproperty _) hadditional, object.injEq, forall_eq',
      forall_and]
  | _ => simp

variable {validate' : Json → Json → String → List ValidationIssue}

theorem checkItems_congr (h : ∀ schema, fields.lookup "items" = some schema →
      ∀ value path, validate schema value path = validate' schema value path) :
    checkItems validate fields inst path = checkItems validate' fields inst path := by
  unfold checkItems checkEachItem
  cases inst with
  | array items =>
    cases hs : fields.lookup "items" with
    | none => rfl
    | some schema => simp only [h schema hs]
  | _ => rfl

theorem checkEntries_congr (hproperty : ∀ name schema, propertySchema fields name = some schema →
      ∀ value path, validate schema value path = validate' schema value path)
    (hadditional : ∀ object, fields.lookup "additionalProperties" = some (.object object) →
      ∀ value path, validate (.object object) value path = validate' (.object object) value path) :
    checkEntries validate fields inst path = checkEntries validate' fields inst path := by
  have hentry (name : String) (value : Json) (path : String) :
      checkEntry validate fields name value path = checkEntry validate' fields name value path := by
    unfold checkEntry
    cases hs : propertySchema fields name with
    | some schema => exact hproperty name schema hs value path
    | none =>
      cases hs : fields.lookup "additionalProperties" with
      | none => rfl
      | some schema =>
        cases schema with
        | object object => exact hadditional object hs value path
        | bool accept => cases accept <;> rfl
        | _ => rfl
  unfold checkEntries
  cases inst with
  | object entries => simp only [hentry]
  | _ => rfl

end

theorem mem_of_propertySchema {fields : List (String × Json)} (keywords : Keywords fields)
    (h : propertySchema fields name = some schema) :
    ∃ children, fields.lookup "properties" = some (.object children) ∧
      (name, schema) ∈ children := by
  obtain ⟨value, hvalue, hget⟩ := bind_eq_some_iff.mp h
  obtain ⟨children, rfl, -⟩ := keywords.properties value hvalue
  obtain ⟨before, after, hchildren, -⟩ := List.lookup_eq_some_iff.mp hget
  exact ⟨children, hvalue, by simp [hchildren]⟩

/-- On a schema of the profile, with enough levels, validation decides satisfaction. -/
theorem validateNode_eq_nil {levels levels' : ℕ}
    (h : WellFormed levels schema) (hle : levels ≤ levels') :
    validateNode p levels' schema inst path = [] ↔ Satisfies schema inst := by
  induction h generalizing levels' inst path with
  | bool levels accept =>
    obtain ⟨n, rfl⟩ : ∃ n, levels' = n + 1 := ⟨levels' - 1, by omega⟩
    cases accept with
    | true => exact iff_of_true rfl (.accept inst)
    | false =>
      simp only [validateNode, Bool.false_eq_true, if_false, reduceCtorEq, false_iff]
      intro hs
      cases hs
  | @object levels fields keywords hproperties hadditional hitems ihp iha ihi =>
    obtain ⟨n, rfl⟩ : ∃ n, levels' = n + 1 := ⟨levels' - 1, by omega⟩
    have hle : levels ≤ n := Nat.le_of_succ_le_succ hle
    have hproperty (name : String) (schema : Json) (hs : propertySchema fields name = some schema)
        (value : Json) (path : String) :
        validateNode p n schema value path = [] ↔ Satisfies schema value := by
      obtain ⟨children, hchildren, hmem⟩ := mem_of_propertySchema keywords hs
      exact ihp children hchildren (name, schema) hmem hle
    have hextra (schema : Json) (hs : fields.lookup "additionalProperties" = some schema) :
        (∃ accept, schema = .bool accept) ∨ (∃ object, schema = .object object) ∧
          ∀ value path, validateNode p n schema value path = [] ↔ Satisfies schema value := by
      by_cases hbool : ∃ accept, schema = .bool accept
      · exact .inl hbool
      · have hnot : ∀ accept, schema ≠ .bool accept := not_exists.mp hbool
        refine .inr ⟨?_, fun value path => iha schema hs hnot hle⟩
        cases hadditional schema hs hnot with
        | bool levels accept => exact absurd rfl (hnot accept)
        | object => exact ⟨_, rfl⟩
    have hitem (schema : Json) (hs : fields.lookup "items" = some schema) (value : Json)
        (path : String) : validateNode p n schema value path = [] ↔ Satisfies schema value :=
      ihi schema hs hle
    have htype := @typeMismatch_eq_none fields inst
    rw [validateNode]
    cases hmismatch : typeMismatch fields inst with
    | some expected =>
      simp only [reduceCtorEq, false_iff]
      rintro (_ | ⟨hmeets, -⟩)
      rw [htype.mpr hmeets.type] at hmismatch
      cases hmismatch
    | none =>
      simp only [append_eq_nil_iff, checkConst_eq_nil, checkEnum_eq_nil, checkNumber_eq_nil,
        checkString_eq_nil, checkItems_eq_nil hitem, checkEntries_eq_nil hproperty hextra]
      constructor
      · rintro ⟨⟨⟨⟨⟨hconst, henum⟩, hmin, hmax, hxmin, hxmax⟩, hminl, hmaxl⟩, hmini, hmaxi, hitems⟩,
          hrequired, hproperties, hadditional⟩
        exact .object ⟨htype.mp hmismatch, hconst, henum, hmin, hmax, hxmin, hxmax, hminl, hmaxl,
          hmini, hmaxi, hrequired⟩ hitems hproperties hadditional
      · rintro (_ | ⟨hm, hitems, hproperties, hadditional⟩)
        exact ⟨⟨⟨⟨⟨hm.const, hm.enum⟩, hm.minimum, hm.maximum, hm.exclusiveMinimum,
          hm.exclusiveMaximum⟩, hm.minLength, hm.maxLength⟩, hm.minItems, hm.maxItems, hitems⟩,
          hm.required, hproperties, hadditional⟩

/-- The walk over an instance goes no deeper than the schema: past the levels of
the schema, the limit makes no difference. -/
theorem validateNode_levels {levels m n : ℕ}
    (h : WellFormed levels schema) (hm : levels ≤ m) (hn : levels ≤ n) :
    validateNode p m schema inst path = validateNode p n schema inst path := by
  induction h generalizing m n inst path with
  | bool levels accept =>
    obtain ⟨m, rfl⟩ : ∃ k, m = k + 1 := ⟨m - 1, by omega⟩
    obtain ⟨n, rfl⟩ : ∃ k, n = k + 1 := ⟨n - 1, by omega⟩
    rfl
  | @object levels fields keywords hproperties hadditional hitems ihp iha ihi =>
    obtain ⟨m, rfl⟩ : ∃ k, m = k + 1 := ⟨m - 1, by omega⟩
    obtain ⟨n, rfl⟩ : ∃ k, n = k + 1 := ⟨n - 1, by omega⟩
    have hm : levels ≤ m := Nat.le_of_succ_le_succ hm
    have hn : levels ≤ n := Nat.le_of_succ_le_succ hn
    have hi := @checkItems_congr fields inst path (validateNode p m) (validateNode p n)
      fun schema hs value path => ihi schema hs hm hn
    have he := @checkEntries_congr fields inst path (validateNode p m) (validateNode p n)
      (fun name schema hs value path => by
        obtain ⟨children, hchildren, hmem⟩ := mem_of_propertySchema keywords hs
        exact ihp children hchildren (name, schema) hmem hm hn)
      fun object hs value path => iha (.object object) hs (fun accept => by simp) hm hn
    rw [validateNode, validateNode, hi, he]

theorem validateInstance_eq_ok :
    validateInstance p schema inst = .ok () ↔ WellFormed 33 schema ∧ Satisfies schema inst := by
  have hschema : validateSchemaDocument schema "$schema" = [] ↔ WellFormed 33 schema :=
    inspectSchema_eq_nil
  unfold validateInstance
  simp only [ne_eq, ite_not]
  split_ifs with hs hi
  · have hwf := hschema.mp hs
    exact iff_of_true rfl ⟨hwf, (validateNode_eq_nil hwf (by omega)).mp hi⟩
  · simp only [false_iff]
    rintro ⟨hwf, hsat⟩
    exact hi ((validateNode_eq_nil hwf (by omega)).mpr hsat)
  · simp only [false_iff]
    rintro ⟨hwf, -⟩
    exact hs (hschema.mpr hwf)

/-- An instance is accepted exactly when the schema is of the profile, with at
most 32 levels below its root, and the instance satisfies it. The depth limit on
instances never decides: any limit from the schema's own on gives the same issues. -/
theorem validateInstance_accepts_iff (p : Platform) (schema inst : Json) :
    (validateInstance p schema inst = .ok () ↔ WellFormed 33 schema ∧ Satisfies schema inst) ∧
      (WellFormed 33 schema → ∀ levels, 33 ≤ levels →
        validateNode p levels schema inst "$" = validateNode p 65 schema inst "$") := by
  constructor
  · exact validateInstance_eq_ok
  · intro hwf levels hle
    exact validateNode_levels hwf hle (by omega)

def intervalSchema : Json :=
  .object [("additionalProperties", .bool false),
    ("properties", .object [("interval", .object
      [("maximum", .integer 60), ("minimum", .integer 5), ("type", .string "integer")])]),
    ("required", .array [.string "interval"]), ("type", .string "object")]

theorem validateInstance_accepts_iff_interval :
    Satisfies intervalSchema (.object [("interval", .integer 30)]) ∧
      ¬Satisfies intervalSchema (.object [("interval", .integer 2)]) ∧
      validateNode default 100 intervalSchema (.object [("interval", .integer 2)]) "$" =
        validateNode default 65 intervalSchema (.object [("interval", .integer 2)]) "$" := by
  have haccepted := validateInstance_accepts_iff default intervalSchema
    (.object [("interval", .integer 30)])
  have hrefused := validateInstance_accepts_iff default intervalSchema
    (.object [("interval", .integer 2)])
  have hwf := (haccepted.1.mp (by decide +kernel)).1
  refine ⟨(haccepted.1.mp (by decide +kernel)).2, fun hsat => ?_, hrefused.2 hwf 100 (by decide)⟩
  exact absurd (hrefused.1.mpr ⟨hwf, hsat⟩) (by decide +kernel)

end Schema

end Extrittio
