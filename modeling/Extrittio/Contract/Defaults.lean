import Extrittio.Contract.Closure
import Extrittio.Contract.Semantics

/-!
The configuration that a blueprint gives to its devices. Validation checks the
declared defaults alone; compilation completes them with the defaults that it
finds in the schema, and validates the result. What it may add, and when a
validated blueprint still compiles.
-/
namespace Extrittio

open List Option OrderedMap Blueprint

/-- A document as it is read: the entries of every object are those of a map. -/
inductive Json.Canonical : Json → Prop
  | intro {value : Json}
      (inOrder : ∀ fields, value = .object fields → InOrder fields)
      (items : ∀ values, value = .array values → ∀ item ∈ values, Canonical item)
      (entries : ∀ fields, value = .object fields → ∀ entry ∈ fields, Canonical entry.2) :
      Canonical value

namespace Json.Canonical

variable {fields : List (String × Json)}

theorem object_iff : Canonical (.object fields) ↔
    InOrder fields ∧ ∀ entry ∈ fields, Canonical entry.2 := by
  constructor
  · rintro ⟨hinOrder, -, hentries⟩
    exact ⟨hinOrder fields rfl, hentries fields rfl⟩
  · rintro ⟨hinOrder, hentries⟩
    refine ⟨fun others hothers => ?_, nofun, fun others hothers => ?_⟩
    · cases hothers
      exact hinOrder
    · cases hothers
      exact hentries

theorem fields_inOrder (h : Canonical (.object fields)) : InOrder fields := (object_iff.mp h).1

theorem of_lookup (h : Canonical (.object fields)) {key : String} {value : Json}
    (hvalue : fields.lookup key = some value) : Canonical value :=
  (object_iff.mp h).2 (key, value) (h.fields_inOrder.lookup_eq_some_iff.mp hvalue)

theorem array_iff {values : List Json} :
    Canonical (.array values) ↔ ∀ item ∈ values, Canonical item := by
  constructor
  · rintro ⟨-, hitems, -⟩
    exact hitems values rfl
  · intro hitems
    refine ⟨nofun, fun others hothers => ?_, nofun⟩
    cases hothers
    exact hitems

theorem string (value : String) : Canonical (.string value) := ⟨nofun, nofun, nofun⟩

theorem integer (value : ℤ) : Canonical (.integer value) := ⟨nofun, nofun, nofun⟩

end Json.Canonical

namespace BlueprintCompiler

open Schema

/-! The entries of a completed object. -/

section

variable {fields given : List (String × Json)} {key : String} {value : Json}

theorem mergeValue_null : mergeValue .null value = value := by
  cases value <;> rfl

theorem mergeValue_of_not_objects {target : Json}
    (h : ∀ fields given, target = .object fields → value ≠ .object given) :
    mergeValue target value = value := by
  cases value with
  | object given =>
    cases target with
    | object fields => exact absurd rfl (h fields given rfl)
    | _ => rfl
  | _ => rfl

theorem lookup_eq_none_of_cons {entry : String × Json} (h : InOrder (entry :: fields)) :
    fields.lookup entry.1 = none := by
  rw [lookup_eq_none_iff]
  intro other hother
  exact bne_iff_ne.mpr ((pairwise_cons.mp h).1 other hother).ne

theorem get?_mergeEntries {target : OrderedMap String Json} (h : InOrder given) :
    (mergeEntries target given).get? key =
      match given.lookup key with
      | some value => some (mergeValue ((target.get? key).getD .null) value)
      | none => target.get? key := by
  induction given generalizing target with
  | nil => rfl
  | cons entry given ih =>
    rw [mergeEntries, ih (pairwise_cons.mp h).2]
    by_cases hkey : key = entry.1
    · subst hkey
      rw [lookup_eq_none_of_cons h, lookup_cons_self, get?_insert, if_pos rfl]
    · rw [InOrder.lookup_cons_of_ne hkey, get?_insert, if_neg hkey]

theorem get?_childDefaults {defaults : OrderedMap String Json} {children : List (String × Json)}
    (h : InOrder children) :
    (childDefaults defaults children).get? key =
      ((children.lookup key).bind defaultsFromSchema).or (defaults.get? key) := by
  induction children generalizing defaults with
  | nil => rfl
  | cons child children ih =>
    have htail := (pairwise_cons.mp h).2
    by_cases hkey : key = child.1
    · subst hkey
      rw [childDefaults, lookup_cons_self, bind_some]
      cases hchild : defaultsFromSchema child.2 with
      | none => simp only [ih htail, lookup_eq_none_of_cons h, bind_none, none_or]
      | some value =>
        simp only [ih htail, lookup_eq_none_of_cons h, bind_none, none_or,
          get?_insert, if_true, some_or]
    · rw [childDefaults, InOrder.lookup_cons_of_ne hkey]
      cases defaultsFromSchema child.2 with
      | none => exact ih htail
      | some value => simp only [ih htail, get?_insert, hkey, if_false]

theorem propertyDefaults_eq :
    propertyDefaults fields =
      match fields.lookup "properties" with
      | some (.object children) => childDefaults ∅ children
      | _ => ∅ := by
  induction fields with
  | nil => rfl
  | cons field fields ih =>
    obtain ⟨keyword, value⟩ := field
    by_cases hkeyword : keyword = "properties"
    · subst hkeyword
      rw [lookup_cons_self]
      cases value <;> simp [propertyDefaults]
    · rw [InOrder.lookup_cons_of_ne (Ne.symm hkeyword), ← ih]
      cases value <;> simp [propertyDefaults, hkeyword]

theorem get?_propertyDefaults (h : Json.Canonical (.object fields)) :
    (propertyDefaults fields).get? key = (propertySchema fields key).bind defaultsFromSchema := by
  rw [propertyDefaults_eq, propertySchema]
  cases hproperties : fields.lookup "properties" with
  | none => rfl
  | some value =>
    cases value with
    | object children =>
      show (childDefaults ∅ children).get? key = (children.lookup key).bind defaultsFromSchema
      rw [get?_childDefaults (h.of_lookup hproperties).fields_inOrder, get?_empty,
        or_none]
    | _ => rfl

end

/-! What a schema asks of a completed object. -/

section

variable {fields given : List (String × Json)}

variable {entries : List (String × Json)} {schema : Json} {key : String}

theorem meets_object_iff :
    Meets fields (.object entries) ↔
      (∀ name, fields.lookup "type" = some (.string name) → name = "object") ∧
      (∀ value, fields.lookup "const" = some value → .object entries = value) ∧
      (∀ values, fields.lookup "enum" = some (.array values) → .object entries ∈ values) ∧
      ∀ names, fields.lookup "required" = some (.array names) →
        ∀ name, .string name ∈ names → ∃ value, (name, value) ∈ entries := by
  constructor
  · intro h
    refine ⟨fun name hname => ?_, h.const, h.enum, fun names => h.required entries rfl names⟩
    have htype := h.type name hname
    cases htype
    rfl
  · rintro ⟨htype, hconst, henum, hrequired⟩
    refine ⟨fun name hname => ?_, hconst, henum, nofun, nofun, nofun, nofun, nofun, nofun, nofun, nofun,
      fun fields hfields => ?_⟩
    · rw [htype name hname]
      exact .object entries
    · cases hfields
      exact hrequired

theorem satisfies_object_iff :
    Satisfies (.object fields) (.object entries) ↔ Meets fields (.object entries) ∧
      (∀ entry ∈ entries, ∀ schema, propertySchema fields entry.1 = some schema →
        Satisfies schema entry.2) ∧
      ∀ entry ∈ entries, propertySchema fields entry.1 = none →
        ∀ schema, fields.lookup "additionalProperties" = some schema → Satisfies schema entry.2 := by
  constructor
  · intro h
    obtain _ | ⟨hmeets, -, hproperties, hadditional⟩ := h
    exact ⟨hmeets, hproperties entries rfl, hadditional entries rfl⟩
  · rintro ⟨hmeets, hproperties, hadditional⟩
    refine .object hmeets nofun (fun fields hfields => ?_) (fun fields hfields => ?_)
    · cases hfields
      exact hproperties
    · cases hfields
      exact hadditional

/-- One level of completion: the keywords on the object as a whole, the defaults of
the absent properties, and the completion of those that are given. -/
theorem satisfies_filled_iff (hschema : Json.Canonical (.object fields))
    (hgiven : InOrder given) (h : Satisfies (.object fields) (.object given)) :
    Satisfies (.object fields) (mergeValue (.ofMap (propertyDefaults fields)) (.object given)) ↔
      (∀ value, fields.lookup "const" = some value →
        mergeValue (.ofMap (propertyDefaults fields)) (.object given) = value) ∧
      (∀ values, fields.lookup "enum" = some (.array values) →
        mergeValue (.ofMap (propertyDefaults fields)) (.object given) ∈ values) ∧
      (∀ key schema value, propertySchema fields key = some schema →
        defaultsFromSchema schema = some value → given.lookup key = none →
        Satisfies schema value) ∧
      ∀ key schema value, propertySchema fields key = some schema →
        given.lookup key = some value →
        Satisfies schema (mergeValue ((defaultsFromSchema schema).getD .null) value) := by
  obtain ⟨hmeets, hproperties, hadditional⟩ := satisfies_object_iff.mp h
  obtain ⟨htype, -, -, hrequired⟩ := meets_object_iff.mp hmeets
  have hmerged : mergeValue (.ofMap (propertyDefaults fields)) (.object given) =
      .object (mergeEntries (propertyDefaults fields) given).entries := by
    rw [Json.ofMap, mergeValue, ofList_entries, Json.ofMap]
  have hentry (key : String) (value : Json) :
      (key, value) ∈ (mergeEntries (propertyDefaults fields) given).entries ↔
        match given.lookup key with
        | some own => mergeValue (((propertySchema fields key).bind defaultsFromSchema).getD .null)
            own = value
        | none => (propertySchema fields key).bind defaultsFromSchema = some value := by
    rw [← get?_eq_some_iff, get?_mergeEntries hgiven, get?_propertyDefaults hschema]
    cases given.lookup key <;> simp
  rw [hmerged, satisfies_object_iff, meets_object_iff]
  constructor
  · rintro ⟨⟨-, hconst, henum, -⟩, hproperties, -⟩
    refine ⟨hconst, henum, fun key schema value hkey hdefault hnone => ?_,
      fun key schema value hkey hvalue => ?_⟩
    · refine hproperties (key, value) ((hentry key value).mpr ?_) schema hkey
      simp [hnone, hkey, hdefault]
    · refine hproperties (key, _) ((hentry key _).mpr ?_) schema hkey
      simp [hvalue, hkey]
  · rintro ⟨hconst, henum, habsent, hpresent⟩
    refine ⟨⟨htype, hconst, henum, fun names hnames name hname => ?_⟩, fun entry hmem schema hkey => ?_,
      fun entry hmem hkey schema hschema => ?_⟩
    · obtain ⟨value, hvalue⟩ := hrequired names hnames name hname
      refine ⟨mergeValue (((propertySchema fields name).bind defaultsFromSchema).getD .null) value,
        (hentry name _).mpr ?_⟩
      rw [hgiven.lookup_eq_some_iff.mpr hvalue]
    · have hmem := (hentry entry.1 entry.2).mp hmem
      cases hown : given.lookup entry.1 with
      | none =>
        rw [hown, hkey] at hmem
        exact habsent entry.1 schema entry.2 hkey hmem hown
      | some own =>
        rw [hown, hkey] at hmem
        exact hmem ▸ hpresent entry.1 schema own hkey hown
    · -- a name without a schema has no default: its value is the given one
      have hmem := (hentry entry.1 entry.2).mp hmem
      cases hown : given.lookup entry.1 with
      | none =>
        rw [hown, hkey] at hmem
        cases hmem
      | some own =>
        rw [hown, hkey] at hmem
        have hown : (entry.1, own) ∈ given := hgiven.lookup_eq_some_iff.mp hown
        have hsame : own = entry.2 := mergeValue_null.symm.trans hmem
        exact hsame ▸ hadditional (entry.1, own) hown hkey schema hschema

/-- What compilation adds to a value from the defaults of its schema fits the schema. -/
inductive Completes : Json → Json → Prop
  /-- Nothing is added: the value takes the place of the schema's default. -/
  | replaced {schema value : Json}
      (h : ∀ defaults given, defaultsFromSchema schema = some (.object defaults) →
        value ≠ .object given) : Completes schema value
  /-- The object is laid over the schema's own default. -/
  | overlaid {fields given defaults : List (String × Json)}
      (hdefault : fields.lookup "default" = some (.object defaults))
      (h : Satisfies (.object fields) (mergeValue (.object defaults) (.object given))) :
      Completes (.object fields) (.object given)
  /-- The absent properties are filled in, the others are completed. -/
  | filled {fields given : List (String × Json)} (hdefault : fields.lookup "default" = none)
      (const : ∀ value, fields.lookup "const" = some value →
        mergeValue (.ofMap (propertyDefaults fields)) (.object given) = value)
      (enum : ∀ values, fields.lookup "enum" = some (.array values) →
        mergeValue (.ofMap (propertyDefaults fields)) (.object given) ∈ values)
      (absent : ∀ key schema value, propertySchema fields key = some schema →
        defaultsFromSchema schema = some value → given.lookup key = none →
        Satisfies schema value)
      (present : ∀ key schema value, propertySchema fields key = some schema →
        given.lookup key = some value → Completes schema value) :
      Completes (.object fields) (.object given)

theorem wellFormed_of_propertySchema {levels : ℕ}
    (h : WellFormed (levels + 1) (.object fields)) (hkey : propertySchema fields key = some schema) :
    WellFormed levels schema := by
  obtain _ | ⟨hkeywords, hproperties, -, -⟩ := h
  obtain ⟨children, hchildren, hmem⟩ := mem_of_propertySchema hkeywords hkey
  exact hproperties children hchildren (key, schema) hmem

theorem canonical_of_propertySchema
    (h : Json.Canonical (.object fields)) (hkey : propertySchema fields key = some schema) :
    schema.Canonical := by
  obtain ⟨properties, hproperties, hget⟩ := bind_eq_some_iff.mp hkey
  have hcanonical := h.of_lookup hproperties
  cases properties with
  | object children => exact hcanonical.of_lookup hget
  | _ => cases hget

/-- A value that satisfies its schema does so after completion exactly if what is added
fits. -/
theorem satisfies_completed_iff {levels : ℕ} {value : Json}
    (hprofile : WellFormed levels schema) (hschema : schema.Canonical)
    (hcanonical : value.Canonical) (h : Satisfies schema value) :
    Satisfies schema (mergeValue ((defaultsFromSchema schema).getD .null) value) ↔
      Completes schema value := by
  induction levels generalizing schema value with
  | zero => cases hprofile
  | succ levels ih =>
    by_cases hobjects : ∀ defaults given, defaultsFromSchema schema = some (.object defaults) →
        value ≠ .object given
    · have hsame : mergeValue ((defaultsFromSchema schema).getD .null) value = value := by
        refine mergeValue_of_not_objects fun defaults given hdefaults => hobjects defaults given ?_
        cases hsome : defaultsFromSchema schema with
        | none => rw [hsome] at hdefaults; cases hdefaults
        | some found => rw [hsome] at hdefaults; exact congrArg some hdefaults
      rw [hsame]
      exact iff_of_true h (.replaced hobjects)
    · push Not at hobjects
      obtain ⟨defaults, given, hdefaults, rfl⟩ := hobjects
      cases schema with
      | object fields =>
        rw [hdefaults, getD_some]
        cases hdefault : fields.lookup "default" with
        | some found =>
          have hfound : found = .object defaults := by
            rw [defaultsFromSchema, hdefault] at hdefaults
            exact Option.some.inj hdefaults
          subst hfound
          constructor
          · exact .overlaid hdefault
          · intro hcompletes
            cases hcompletes with
            | replaced hnot => exact absurd rfl (hnot defaults given hdefaults)
            | overlaid hother hsatisfies =>
              rw [hdefault] at hother
              cases hother
              exact hsatisfies
            | filled hnone => rw [hdefault] at hnone; cases hnone
        | none =>
          have hfilled : Json.object defaults = .ofMap (propertyDefaults fields) := by
            rw [defaultsFromSchema, hdefault] at hdefaults
            simp only at hdefaults
            split_ifs at hdefaults
            exact (Option.some.inj hdefaults).symm
          have hpresent (key : String) (schema value : Json)
              (hkey : propertySchema fields key = some schema)
              (hvalue : given.lookup key = some value) :
              Satisfies schema (mergeValue ((defaultsFromSchema schema).getD .null) value) ↔
                Completes schema value := by
            refine ih (wellFormed_of_propertySchema hprofile hkey)
              (canonical_of_propertySchema hschema hkey) (hcanonical.of_lookup hvalue) ?_
            exact (satisfies_object_iff.mp h).2.1 (key, value)
              (hcanonical.fields_inOrder.lookup_eq_some_iff.mp hvalue) schema hkey
          rw [hfilled, satisfies_filled_iff hschema hcanonical.fields_inOrder h]
          constructor
          · rintro ⟨hconst, henum, habsent, hcompleted⟩
            exact .filled hdefault hconst henum habsent fun key schema value hkey hvalue =>
              (hpresent key schema value hkey hvalue).mp (hcompleted key schema value hkey hvalue)
          · intro hcompletes
            cases hcompletes with
            | replaced hnot => exact absurd rfl (hnot defaults given hdefaults)
            | overlaid hother => rw [hdefault] at hother; cases hother
            | filled _ hconst henum habsent hcompletes =>
              exact ⟨hconst, henum, habsent, fun key schema value hkey hvalue =>
                (hpresent key schema value hkey hvalue).mpr (hcompletes key schema value hkey hvalue)⟩
      | _ => cases hdefaults

end

section

variable {p : Platform} {configuration : ConfigurationDefinition}

theorem validationIssues_of_validateInstance {schema inst : Json} {error : ContractError}
    (h : validateInstance p schema inst = .error error) :
    ∃ issue issues, validationIssues error = some (issue :: issues) := by
  simp only [validateInstance] at h
  split_ifs at h with hschema hissues
  · cases h
    obtain ⟨issue, issues, heq⟩ := exists_cons_of_ne_nil hschema
    exact ⟨issue, issues, congrArg some heq⟩
  · cases h
    obtain ⟨issue, issues, heq⟩ := exists_cons_of_ne_nil hissues
    exact ⟨issue, issues, congrArg some heq⟩

theorem satisfies_of_validated (blueprint : ValidatedBlueprint p)
    (hconfiguration : blueprint.blueprint.spec.configuration = some configuration)
    (hdefaults : configuration.defaults ≠ .null) :
    WellFormed 33 configuration.schema ∧
      Satisfies configuration.schema configuration.defaults := by
  have hissues : Blueprint.validateConfiguration blueprint.blueprint p = [] := by
    have hvalid := blueprint.valid
    simp only [Blueprint.issues, append_eq_nil_iff] at hvalid
    tauto
  simp only [Blueprint.validateConfiguration, hconfiguration, append_eq_nil_iff] at hissues
  obtain ⟨⟨hdefaultIssues, hschema⟩, -⟩ := hissues
  rw [if_pos ⟨hschema, hdefaults⟩, Blueprint.defaultIssues] at hdefaultIssues
  refine (validateInstance_eq_ok (p := p)).mp ?_
  cases hvalid : validateInstance p configuration.schema configuration.defaults with
  | ok _ => rfl
  | error error =>
    obtain ⟨issue, issues, heq⟩ := validationIssues_of_validateInstance hvalid
    simp [hvalid, heq] at hdefaultIssues

theorem compileConfiguration_eq_ok_iff {context : CompileContext}
    (htimeout : (parseDurationMs configuration.apply.acknowledgementTimeout).isSome)
    (hdefaults : configuration.defaults ≠ .null) (hlayers : context.configurationLayers = []) :
    (∃ compiled, compileConfiguration p configuration context = .ok compiled) ↔
      validateInstance p configuration.schema
        (mergeValue ((defaultsFromSchema configuration.schema).getD .null) configuration.defaults) =
          .ok () := by
  obtain ⟨timeout, htimeout⟩ := isSome_iff_exists.mp htimeout
  simp only [compileConfiguration, hlayers, foldl_nil, if_neg hdefaults, htimeout, expect]
  constructor
  · rintro ⟨compiled, h⟩
    obtain ⟨_, hvalid, -⟩ := of_bind_ok h
    exact mapError_eq_ok.mp hvalid
  · intro hvalid
    exact ⟨_, bind_eq_ok_iff.mpr ⟨(), mapError_eq_ok.mpr hvalid, rfl⟩⟩

end

/-- The network is optional, and the port of its host has a default. -/
def networkSchema : Json :=
  .object [("properties", .object [("network", .object
    [("properties", .object [("host", .object [("type", .string "string")]),
      ("port", .object [("default", .integer 443), ("type", .string "integer")])]),
     ("required", .array [.string "host"]), ("type", .string "object")])]),
    ("type", .string "object")]

def trackerWith (defaults : Json) : DeviceBlueprint :=
  { tracker with
    spec := { trackerSpec with
      configuration := some ⟨networkSchema, defaults, ⟨.desiredReported, "30s", true⟩⟩ } }

def hostDefaults : Json := .object [("network", .object [("host", .string "hub")])]

def validHost : ValidatedBlueprint default := ⟨trackerWith hostDefaults, by decide +kernel⟩

def validNoNetwork : ValidatedBlueprint default := ⟨trackerWith (.object []), by decide +kernel⟩

theorem canonical_networkSchema : networkSchema.Canonical := by
  simp +decide [networkSchema, Json.Canonical.object_iff, Json.Canonical.array_iff, InOrder,
    Json.Canonical.string, Json.Canonical.integer]

theorem canonical_hostDefaults : hostDefaults.Canonical := by
  simp [hostDefaults, Json.Canonical.object_iff, InOrder, Json.Canonical.string]

end BlueprintCompiler

end Extrittio
