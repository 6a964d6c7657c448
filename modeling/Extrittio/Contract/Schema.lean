import Extrittio.Library.Rounding
import Extrittio.Platform

/-!
The bounded JSON Schema profile of device contracts: which documents are schemas
of the profile, and the validation of an instance against one. Validation walks
the schema and the instance together and collects issues; it is compared with
what the keywords declare.
-/
namespace Extrittio

structure ValidationIssue where
  path : String
  message : String
  deriving DecidableEq

inductive ContractError where
  | invalidBlueprint (count : ℕ) (issues : List ValidationIssue)
  | invalidInstance (count : ℕ) (issues : List ValidationIssue)
  | serialization (message : String)
  | missingTransportBinding (binding : String)
  | invalidContext (message : String)
  deriving DecidableEq

/-- `n as f64`: the value of the nearest double. -/
def doubleOfInt (n : ℤ) : ℚ := Rounding.roundInt 53 n

def Json.asF64 : Json → Option ℚ
  | .integer n => some (doubleOfInt n)
  | .float value => some value
  | _ => none

namespace Schema

def supportedKeywords : List String :=
  ["$id", "$schema", "additionalProperties", "const", "default", "description", "enum",
   "examples", "exclusiveMaximum", "exclusiveMinimum", "items", "maximum", "maxItems",
   "maxLength", "minimum", "minItems", "minLength", "properties", "required", "title", "type"]

def typeNames : List String :=
  ["object", "array", "string", "number", "integer", "boolean", "null"]

def numericKeywords : List String := ["minimum", "maximum", "exclusiveMinimum", "exclusiveMaximum"]

def lengthKeywords : List String := ["minLength", "maxLength", "minItems", "maxItems"]

def replaceChar (target : Char) (replacement value : String) : String :=
  String.ofList (value.toList.flatMap fun c => if c = target then replacement.toList else [c])

def escapePointer (value : String) : String :=
  replaceChar '/' "~1" (replaceChar '~' "~0" value)

def inspectKeywords (fields : List (String × Json)) (path : String) : List ValidationIssue :=
  (fields.filter fun field => field.1 ∉ supportedKeywords).map fun field =>
    ⟨s!"{path}/{field.1}", "keyword is not supported by the extrittio-v1 schema profile"⟩

def inspectType (fields : List (String × Json)) (path : String) : List ValidationIssue :=
  match fields.lookup "type" with
  | none => []
  | some valueType =>
    if valueType.asStr.any (· ∈ typeNames) then []
    else [⟨s!"{path}/type", "type must be one supported scalar type name"⟩]

/-- The entries of `required`: strings, none of them seen before. -/
def inspectRequired (path : String) : ℕ → List String → List Json → List ValidationIssue
  | _, _, [] => []
  | index, seen, name :: names =>
    match name.asStr with
    | none =>
      ⟨s!"{path}/required/{index}", "required entry must be a string"⟩ ::
        inspectRequired path (index + 1) seen names
    | some name =>
      if name ∈ seen then
        ⟨s!"{path}/required/{index}", "required entries must be unique"⟩ ::
          inspectRequired path (index + 1) seen names
      else inspectRequired path (index + 1) (name :: seen) names

/-- `required`, then the issues of what follows. One that is no array ends the
inspection there. -/
def inspectRequiredThen (fields : List (String × Json)) (path : String)
    (rest : List ValidationIssue) : List ValidationIssue :=
  match fields.lookup "required" with
  | none => rest
  | some (.array names) => inspectRequired path 0 [] names ++ rest
  | some _ => [⟨s!"{path}/required", "required must be an array of unique strings"⟩]

def inspectNumeric (fields : List (String × Json)) (path : String) : List ValidationIssue :=
  (numericKeywords.filter fun keyword =>
    (fields.lookup keyword).any fun bound => bound.asF64 = none).map fun keyword =>
      ⟨s!"{path}/{keyword}", s!"{keyword} must be numeric"⟩

def inspectLengths (fields : List (String × Json)) (path : String) : List ValidationIssue :=
  (lengthKeywords.filter fun keyword =>
    (fields.lookup keyword).any fun bound => bound.asU64 = none).map fun keyword =>
      ⟨s!"{path}/{keyword}", s!"{keyword} must be a non-negative integer"⟩

def inspectEnum (fields : List (String × Json)) (path : String) : List ValidationIssue :=
  match fields.lookup "enum" with
  | none => []
  | some (.array (_ :: _)) => []
  | some _ => [⟨s!"{path}/enum", "enum must be a non-empty array"⟩]

/-- The properties; `inspect` is the inspection one level down. -/
def inspectProperties (inspect : Json → String → List ValidationIssue)
    (fields : List (String × Json)) (path : String) : List ValidationIssue :=
  match fields.lookup "properties" with
  | none => []
  | some (.object children) =>
    (if 256 < children.length then
      [⟨s!"{path}/properties", "schema object exceeds 256 properties"⟩] else []) ++
    children.flatMap fun child => inspect child.2 s!"{path}/properties/{escapePointer child.1}"
  | some _ => [⟨s!"{path}/properties", "properties must be an object"⟩]

def inspectAdditional (inspect : Json → String → List ValidationIssue)
    (fields : List (String × Json)) (path : String) : List ValidationIssue :=
  match fields.lookup "additionalProperties" with
  | none | some (.bool _) => []
  | some additional => inspect additional s!"{path}/additionalProperties"

def inspectItems (inspect : Json → String → List ValidationIssue)
    (fields : List (String × Json)) (path : String) : List ValidationIssue :=
  match fields.lookup "items" with
  | none => []
  | some items => inspect items s!"{path}/items"

/-- Collects what is wrong with a schema; `levels` are left to the depth limit. -/
def inspectSchema : ℕ → Json → String → List ValidationIssue
  | 0, _, path => [⟨path, "schema nesting exceeds 32 levels"⟩]
  | _ + 1, .bool _, _ => []
  | levels + 1, .object fields, path =>
    inspectKeywords fields path ++ inspectType fields path ++
      inspectProperties (inspectSchema levels) fields path ++
      inspectRequiredThen fields path
        (inspectAdditional (inspectSchema levels) fields path ++
          inspectItems (inspectSchema levels) fields path ++ inspectNumeric fields path ++
          inspectLengths fields path ++ inspectEnum fields path)
  | _ + 1, _, path => [⟨path, "schema must be an object or boolean"⟩]

/-- Depth 0 to 32. -/
def validateSchemaDocument (schema : Json) (path : String) : List ValidationIssue :=
  inspectSchema 33 schema path

def matchesType (expected : String) (value : Json) : Bool :=
  match expected with
  | "object" => (value matches .object _)
  | "array" => (value matches .array _)
  | "string" => (value matches .string _)
  | "number" => value.asF64.isSome
  | "integer" => value.asI64.isSome || value.asU64.isSome
  | "boolean" => (value matches .bool _)
  | "null" => value = .null
  | _ => false

def instanceKind : Json → String
  | .null => "null"
  | .bool _ => "boolean"
  | .integer _ => "integer"
  | .float _ => "number"
  | .string _ => "string"
  | .array _ => "array"
  | .object _ => "object"

def checkNumericBound (p : Platform) (schema : List (String × Json)) (keyword : String) (number : ℚ)
    (exclusive : Bool) (path : String) : List ValidationIssue :=
  match (schema.lookup keyword).bind Json.asF64 with
  | none => []
  | some bound =>
    let violates : Bool :=
      if keyword = "minimum" ∨ keyword = "exclusiveMinimum" then
        if exclusive then number ≤ bound else number < bound
      else
        if exclusive then number ≥ bound else number > bound
    if violates then
      [⟨path, s!"numeric value violates {keyword} {p.displayF64 (.finite bound)}"⟩]
    else []

def checkLength (schema : List (String × Json)) (keyword : String) (length : ℕ) (minimum : Bool)
    (path : String) : List ValidationIssue :=
  match (schema.lookup keyword).bind Json.asU64 with
  | none => []
  | some bound =>
    if (minimum ∧ length < bound) ∨ (¬minimum ∧ length > bound) then
      [⟨path, s!"length {length} violates {keyword} {bound}"⟩]
    else []

def typeMismatch (schema : List (String × Json)) (inst : Json) : Option String :=
  ((schema.lookup "type").bind Json.asStr).filter fun expected => !matchesType expected inst

def checkConst (schema : List (String × Json)) (inst : Json) (path : String) :
    List ValidationIssue :=
  match schema.lookup "const" with
  | some expected => if expected ≠ inst then [⟨path, "value does not equal const"⟩] else []
  | none => []

def checkEnum (schema : List (String × Json)) (inst : Json) (path : String) :
    List ValidationIssue :=
  match schema.lookup "enum" with
  | some (.array allowed) => if inst ∉ allowed then [⟨path, "value is not in enum"⟩] else []
  | _ => []

def checkNumber (p : Platform) (schema : List (String × Json)) (inst : Json) (path : String) :
    List ValidationIssue :=
  match inst.asF64 with
  | none => []
  | some number =>
    checkNumericBound p schema "minimum" number false path ++
    checkNumericBound p schema "maximum" number false path ++
    checkNumericBound p schema "exclusiveMinimum" number true path ++
    checkNumericBound p schema "exclusiveMaximum" number true path

def checkString (schema : List (String × Json)) (inst : Json) (path : String) :
    List ValidationIssue :=
  match inst with
  | .string string =>
    checkLength schema "minLength" string.length true path ++
    checkLength schema "maxLength" string.length false path
  | _ => []

def checkRequired (schema object : List (String × Json)) (path : String) : List ValidationIssue :=
  match schema.lookup "required" with
  | some (.array required) =>
    ((required.filterMap Json.asStr).filter fun name => (object.lookup name).isNone).map fun name =>
      ⟨s!"{path}/{escapePointer name}", "required property is missing"⟩
  | _ => []

def propertySchema (schema : List (String × Json)) (name : String) : Option Json :=
  (schema.lookup "properties").bind (Json.get name)

/-- Each item under the `items` schema; `validate` is the validation one level down. -/
def checkEachItem (validate : Json → Json → String → List ValidationIssue)
    (schema : List (String × Json)) (items : List Json) (path : String) : List ValidationIssue :=
  match schema.lookup "items" with
  | some itemSchema =>
    items.zipIdx.flatMap fun item => validate itemSchema item.1 s!"{path}/{item.2}"
  | none => []

def checkItems (validate : Json → Json → String → List ValidationIssue)
    (schema : List (String × Json)) (inst : Json) (path : String) : List ValidationIssue :=
  match inst with
  | .array items =>
    checkLength schema "minItems" items.length true path ++
    checkLength schema "maxItems" items.length false path ++
    checkEachItem validate schema items path
  | _ => []

/-- An entry of an object: its own schema applies, else `additionalProperties`. -/
def checkEntry (validate : Json → Json → String → List ValidationIssue)
    (schema : List (String × Json)) (name : String) (value : Json) (path : String) :
    List ValidationIssue :=
  match propertySchema schema name with
  | some property => validate property value path
  | none =>
    match schema.lookup "additionalProperties" with
    | some (.bool false) => [⟨path, "additional property is not allowed"⟩]
    | some (.object additional) => validate (.object additional) value path
    | _ => []

def checkEntries (validate : Json → Json → String → List ValidationIssue)
    (schema : List (String × Json)) (inst : Json) (path : String) : List ValidationIssue :=
  match inst with
  | .object object =>
    checkRequired schema object path ++ object.flatMap fun entry =>
      checkEntry validate schema entry.1 entry.2 s!"{path}/{escapePointer entry.1}"
  | _ => []

/-- Collects the issues of an instance; `levels` are left to the depth limit. -/
def validateNode (p : Platform) : ℕ → Json → Json → String → List ValidationIssue
  | 0, _, _, path => [⟨path, "instance nesting exceeds 64 levels"⟩]
  | _ + 1, .bool accept, _, path =>
    if accept then [] else [⟨path, "value is rejected by schema"⟩]
  | levels + 1, .object schema, inst, path =>
    match typeMismatch schema inst with
    | some expected => [⟨path, s!"expected {expected}, found {instanceKind inst}"⟩]
    | none =>
      checkConst schema inst path ++ checkEnum schema inst path ++ checkNumber p schema inst path ++
        checkString schema inst path ++ checkItems (validateNode p levels) schema inst path ++
        checkEntries (validateNode p levels) schema inst path
  | _ + 1, _, _, _ => []

/-- Validates an instance at depth 0 to 64. -/
def validateInstance (p : Platform) (schema inst : Json) : Except ContractError Unit :=
  let schemaIssues := validateSchemaDocument schema "$schema"
  if schemaIssues ≠ [] then .error (.invalidBlueprint schemaIssues.length schemaIssues)
  else
    let issues := validateNode p 65 schema inst "$"
    if issues = [] then .ok () else .error (.invalidInstance issues.length issues)

end Schema

end Extrittio
