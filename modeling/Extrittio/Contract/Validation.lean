import Extrittio.Contract.Blueprint
import Extrittio.Contract.Schema
import Extrittio.Library.Template

/-!
Validation of a blueprint document: every check of every section is made, and the
issues are collected in the order of the source. A document without issues is a
`ValidatedBlueprint`; there is no other way to get one.
-/
namespace Extrittio

namespace Blueprint

def blueprintApiVersion : String := "extrittio.io/v1alpha1"

def blueprintKind : String := "DeviceBlueprint"

def contractApiVersion : ℕ := 1

/-- An issue, unless the check passes. -/
def require (check : Bool) (path message : String) : List ValidationIssue :=
  if check then [] else [⟨path, message⟩]

/-- The issues of each item of a list, under its index. -/
def each {T : Type} (items : List T) (issues : ℕ → T → List ValidationIssue) :
    List ValidationIssue :=
  items.zipIdx.flatMap fun entry => issues entry.2 entry.1

def blank (value : String) : Bool := value.toList.all isWhitespace

def validKey (value : String) : Bool :=
  decide (1 ≤ value.utf8ByteSize ∧ value.utf8ByteSize ≤ 64) &&
    value.toList.head?.any Char.isLower &&
    value.toList.all fun c => c.isLower || c.isDigit || c = '-' || c = '_' || c = '.'

def validateKey (value path : String) : List ValidationIssue :=
  require (validKey value) path
    "key must start with a lowercase letter and contain 1-64 lowercase letters, digits, '-', '_', or '.'"

def rsplitOnce (separator : Char) (value : String) : Option (String × String) :=
  match value.toList.reverse.span (· ≠ separator) with
  | (after, _ :: before) => some (String.ofList before.reverse, String.ofList after.reverse)
  | (_, []) => none

/-- `str::parse` of an unsigned integer: an optional plus sign, then digits. -/
def parseUnsigned (limit : ℕ) (value : List Char) : Option ℕ :=
  let digits := match value with
    | '+' :: rest => rest
    | rest => rest
  if digits.isEmpty || !digits.all Char.isDigit then none
  else
    let n := digits.foldl (fun n c => 10 * n + (c.toNat - '0'.toNat)) 0
    if n ≤ limit then some n else none

def validateSchemaKey (value path : String) : List ValidationIssue :=
  match rsplitOnce '@' value with
  | none => [⟨path, "schema key must end in '@<version>'"⟩]
  | some (name, version) =>
    validateKey name path ++
    require ((parseUnsigned 4294967295 version.toList).any (· ≠ 0)) path
      "schema version must be a positive integer"

def stripSuffix (suffix value : List Char) : Option (List Char) :=
  if suffix.isSuffixOf value then some (value.take (value.length - suffix.length)) else none

/-- The number before a unit of time, and the unit in milliseconds. -/
def splitDuration (value : String) : Option (List Char × ℕ) :=
  let text := value.toList
  ((stripSuffix ['m', 's'] text).map (·, 1)).or <|
  ((stripSuffix ['s'] text).map (·, 1000)).or <|
  ((stripSuffix ['m'] text).map (·, 60000)).or <|
  (stripSuffix ['h'] text).map (·, 3600000)

def parseDurationMs (value : String) : Option ℕ := do
  let (number, multiplier) ← splitDuration value
  let n ← parseUnsigned 18446744073709551615 number
  if n * multiplier ≤ 18446744073709551615 then some (n * multiplier) else none

def validateDuration (value path : String) : List ValidationIssue :=
  require ((parseDurationMs value).any (· ≠ 0)) path
    "duration must be a positive integer followed by ms, s, m, or h"

def isHexDigit (c : Char) : Bool :=
  c.isDigit || ('a' ≤ c && c ≤ 'f') || ('A' ≤ c && c ≤ 'F')

def isColor (value : String) : Bool :=
  value.utf8ByteSize = 7 &&
    match value.toList with
    | '#' :: rest => rest.all isHexDigit
    | _ => false

/-- A pointer that starts with a slash and has no empty step between slashes. -/
def isJsonPointer (value : String) : Bool :=
  ['/'].isPrefixOf value.toList && !decide (['/', '/'] <:+: value.toList)

def deviceVariable : List Char := "\x7bdevice.id\x7d".toList

def zenohPrefix : List Char := "extrittio/devices/".toList ++ deviceVariable ++ ['/']

def expandAddress (address deviceId : String) : String :=
  String.ofList (Template.replaceAll deviceVariable deviceId.toList address.toList)

def validateAddress (value : String) (index : ℕ) : List ValidationIssue :=
  let path := s!"/spec/routes/{index}/address"
  let withoutDevice := Template.replaceAll deviceVariable [] value.toList
  require (decide (1 ≤ value.utf8ByteSize ∧ value.utf8ByteSize ≤ 512)) path
    "address must contain 1-512 bytes" ++
  require (!(withoutDevice.contains '{') && !(withoutDevice.contains '}')) path
    "only the \x7bdevice.id\x7d template variable is allowed" ++
  require (!(value.toList.contains '*') && !(value.toList.contains '#')) path
    "wildcards are not allowed in device route addresses"

def encodingCompatible : PayloadEncoding → SchemaFormat → Bool
  | .json, .jsonSchema | .cbor, .jsonSchema => true
  | .protobufDynamic, .protobufDescriptor => true
  | .raw, .opaqueBytes => true
  | _, _ => false

def validateEncodingSchema (encoding : PayloadEncoding) (format : SchemaFormat) (routeIndex : ℕ) :
    List ValidationIssue :=
  require (encodingCompatible encoding format) s!"/spec/routes/{routeIndex}/encoding"
    "encoding is incompatible with the referenced schema format"

/-- The items by key, the last of each key, and an issue for each repeated key. -/
def keyedFrom {T : Type} (key : T → String) (path : String) :
    ℕ → OrderedMap String T → List T → OrderedMap String T × List ValidationIssue
  | _, values, [] => (values, [])
  | index, values, item :: items =>
    let rest := keyedFrom key path (index + 1) (values.insert (key item) item) items
    (rest.1, require (values.get? (key item)).isNone s!"{path}/{index}/key"
      s!"duplicate key '{key item}'" ++ rest.2)

def keyed {T : Type} (items : List T) (key : T → String) (path : String) :
    OrderedMap String T × List ValidationIssue :=
  keyedFrom key path 0 ∅ items

section

variable (blueprint : DeviceBlueprint)

def validateMetadata : List ValidationIssue :=
  require (blueprint.apiVersion = blueprintApiVersion) "/apiVersion"
    s!"must equal '{blueprintApiVersion}'" ++
  require (blueprint.kind = blueprintKind) "/kind" s!"must equal '{blueprintKind}'" ++
  validateKey blueprint.metadata.key "/metadata/key" ++
  require (!blank blueprint.metadata.name && blueprint.metadata.name.utf8ByteSize ≤ 128)
    "/metadata/name" "name must contain 1-128 bytes" ++
  require (blueprint.metadata.color.all isColor) "/metadata/color" "color must be a #RRGGBB value"

def validateRuntime : List ValidationIssue :=
  let runtime := blueprint.spec.runtime
  require (decide (1 ≤ runtime.minimumContractApi ∧ runtime.minimumContractApi ≤ contractApiVersion))
    "/spec/runtime/minimumContractApi" s!"must be between 1 and {contractApiVersion}" ++
  validateDuration runtime.heartbeat.interval "/spec/runtime/heartbeat/interval" ++
  validateDuration runtime.heartbeat.offlineAfter "/spec/runtime/heartbeat/offlineAfter" ++
  -- both are compared only when both parse, even as zero
  (match parseDurationMs runtime.heartbeat.interval,
      parseDurationMs runtime.heartbeat.offlineAfter with
    | some heartbeatMs, some offlineMs =>
      require (heartbeatMs < offlineMs) "/spec/runtime/heartbeat/offlineAfter"
        "must be greater than the heartbeat interval"
    | _, _ => []) ++
  require (runtime.limits.maxMessageBytes ≠ 0) "/spec/runtime/limits/maxMessageBytes"
    "must be greater than zero" ++
  require (runtime.limits.maxMessagesPerMinute ≠ 0) "/spec/runtime/limits/maxMessagesPerMinute"
    "must be greater than zero" ++
  require (runtime.limits.maxMetricCardinality ≠ 0) "/spec/runtime/limits/maxMetricCardinality"
    "must be greater than zero"

def transports : OrderedMap String TransportDefinition × List ValidationIssue :=
  keyed blueprint.spec.transports (·.key) "/spec/transports"

def schemas : OrderedMap String SchemaDefinition × List ValidationIssue :=
  keyed blueprint.spec.schemas (·.key) "/spec/schemas"

def routes : OrderedMap String RouteDefinition × List ValidationIssue :=
  keyed blueprint.spec.routes (·.key) "/spec/routes"

def streams : OrderedMap String StreamDefinition × List ValidationIssue :=
  keyed blueprint.spec.streams (·.key) "/spec/streams"

def validateTransports : List ValidationIssue :=
  (transports blueprint).2 ++ each blueprint.spec.transports fun index transport =>
    validateKey transport.key s!"/spec/transports/{index}/key" ++
    validateKey transport.binding s!"/spec/transports/{index}/binding"

def validateSchemas : List ValidationIssue :=
  (schemas blueprint).2 ++ each blueprint.spec.schemas fun index schema =>
    validateSchemaKey schema.key s!"/spec/schemas/{index}/key" ++
    if schema.format = .jsonSchema then
      Schema.validateSchemaDocument schema.schema s!"/spec/schemas/{index}/schema"
    else []

def builtinSchema (key : String) : Bool := "extrittio.".toList.isPrefixOf key.toList

def validateRoute (index : ℕ) (route : RouteDefinition) : List ValidationIssue :=
  validateKey route.key s!"/spec/routes/{index}/key" ++
  require ((transports blueprint).1.get? route.transport).isSome
    s!"/spec/routes/{index}/transport" s!"unknown transport '{route.transport}'" ++
  require (builtinSchema route.messageSchema ||
      ((schemas blueprint).1.get? route.messageSchema).isSome)
    s!"/spec/routes/{index}/messageSchema" s!"unknown schema '{route.messageSchema}'" ++
  validateAddress route.address index ++
  require (!((transports blueprint).1.get? route.transport).any (·.protocol = .zenoh) ||
      zenohPrefix.isPrefixOf route.address.toList)
    s!"/spec/routes/{index}/address"
    "Zenoh route addresses must start with 'extrittio/devices/\x7bdevice.id\x7d/'" ++
  match (schemas blueprint).1.get? route.messageSchema with
  | some schema => validateEncodingSchema route.encoding schema.format index
  | none => []

def validateRoutes : List ValidationIssue :=
  (routes blueprint).2 ++ each blueprint.spec.routes (validateRoute blueprint)

/-- The fields of a stream; `seen` are the paths of those before. -/
def validateFields (streamIndex : ℕ) :
    ℕ → List String → List FieldDefinition → List ValidationIssue
  | _, _, [] => []
  | index, seen, field :: fields =>
    let path := s!"/spec/streams/{streamIndex}/fields/{index}"
    require (isJsonPointer field.path) s!"{path}/path"
      "field path must be an absolute JSON pointer" ++
    require (field.path ∉ seen) s!"{path}/path" "field path must be unique within its stream" ++
    require (!blank field.label) s!"{path}/label" "label must not be empty" ++
    require (field.valueType.isNumeric ||
        field.aggregates.all fun aggregate => aggregate = .count || aggregate = .last)
      s!"{path}/aggregates" "non-numeric fields support only count and last aggregates" ++
    validateFields streamIndex (index + 1) (field.path :: seen) fields

def validateStream (index : ℕ) (stream : StreamDefinition) : List ValidationIssue :=
  validateKey stream.key s!"/spec/streams/{index}/key" ++
  (match (routes blueprint).1.get? stream.route with
    | none => [⟨s!"/spec/streams/{index}/route", s!"unknown route '{stream.route}'"⟩]
    | some route =>
      require (route.direction = .deviceToCloud) s!"/spec/streams/{index}/route"
        "stream route must have device_to_cloud direction") ++
  validateFields index 0 [] stream.fields

def validateStreams : List ValidationIssue :=
  (streams blueprint).2 ++ each blueprint.spec.streams (validateStream blueprint)

def metricPaths : List String :=
  blueprint.spec.streams.flatMap fun stream =>
    stream.fields.map fun field => s!"{stream.key}.{field.path}"

def hasNumericField (stream : StreamDefinition) (pointer : String) : Bool :=
  stream.fields.any fun field => field.path = pointer && field.valueType.isNumeric

def validateLocation : List ValidationIssue :=
  match blueprint.spec.location with
  | none => []
  | some location =>
    validateDuration location.maxAge "/spec/location/maxAge" ++
    require (location.latitudePath ≠ location.longitudePath) "/spec/location/longitudePath"
      "coordinates must reference distinct fields" ++
    match (streams blueprint).1.get? location.stream with
    | none => [⟨"/spec/location/stream", "unknown location stream"⟩]
    | some stream =>
      require (hasNumericField stream location.latitudePath) "/spec/location/latitudePath"
        "must reference a declared numeric field in the location stream" ++
      require (hasNumericField stream location.longitudePath) "/spec/location/longitudePath"
        "must reference a declared numeric field in the location stream"

/-- A route that a command uses: it exists and has the direction. -/
def validateCommandRoute (route : String) (direction : RouteDirection) (path message : String) :
    List ValidationIssue :=
  match (routes blueprint).1.get? route with
  | some found => require (found.direction = direction) path message
  | none => [⟨path, s!"unknown route '{route}'"⟩]

def validateCommand (index : ℕ) (command : CommandDefinition) : List ValidationIssue :=
  validateKey command.key s!"/spec/commands/{index}/key" ++
  validateDuration command.timeout s!"/spec/commands/{index}/timeout" ++
  validateCommandRoute blueprint command.requestRoute .cloudToDevice
    s!"/spec/commands/{index}/requestRoute" "command request route must be cloud_to_device" ++
  validateCommandRoute blueprint command.responseRoute .deviceToCloud
    s!"/spec/commands/{index}/responseRoute" "command response route must be device_to_cloud" ++
  Schema.validateSchemaDocument command.inputSchema s!"/spec/commands/{index}/inputSchema" ++
  Schema.validateSchemaDocument command.resultSchema s!"/spec/commands/{index}/resultSchema"

def validateCommands : List ValidationIssue :=
  (keyed blueprint.spec.commands (·.key) "/spec/commands").2 ++
    each blueprint.spec.commands (validateCommand blueprint)

def validationIssues : ContractError → Option (List ValidationIssue)
  | .invalidBlueprint _ issues | .invalidInstance _ issues => some issues
  | .serialization _ | .missingTransportBinding _ | .invalidContext _ => none

def defaultIssues (p : Platform) (configuration : ConfigurationDefinition) :
    List ValidationIssue :=
  match Schema.validateInstance p configuration.schema configuration.defaults with
  | .ok () => []
  | .error error =>
    ((validationIssues error).getD []).map fun issue =>
      ⟨"/spec/configuration/defaults" ++
        String.ofList (issue.path.toList.dropWhile (· = '$')), issue.message⟩

def validateConfiguration (p : Platform) : List ValidationIssue :=
  match blueprint.spec.configuration with
  | none => []
  | some configuration =>
    let schemaIssues :=
      Schema.validateSchemaDocument configuration.schema "/spec/configuration/schema"
    (if schemaIssues = [] ∧ configuration.defaults ≠ .null then defaultIssues p configuration
      else []) ++
    schemaIssues ++
    validateDuration configuration.apply.acknowledgementTimeout
      "/spec/configuration/apply/acknowledgementTimeout"

def validateReportedState : List ValidationIssue :=
  match blueprint.spec.reportedState with
  | none => []
  | some reportedState =>
    Schema.validateSchemaDocument reportedState.schema "/spec/reportedState/schema"

def validateHealth : List ValidationIssue :=
  match blueprint.spec.health with
  | none => []
  | some health =>
    (keyed health.signals (·.key) "/spec/health/signals").2 ++
    each health.signals fun index signal =>
      validateKey signal.key s!"/spec/health/signals/{index}/key" ++
      require (signal.source ≠ .metric || signal.path ∈ metricPaths blueprint)
        s!"/spec/health/signals/{index}/path" s!"unknown metric '{signal.path}'"

def validateRelationships : List ValidationIssue :=
  each blueprint.spec.relationships fun index relationship =>
    validateKey relationship.key s!"/spec/relationships/{index}/key" ++
    require ((streams blueprint).1.get? relationship.stream).isSome
      s!"/spec/relationships/{index}/stream" s!"unknown stream '{relationship.stream}'" ++
    require (isJsonPointer relationship.targetKeyPath) s!"/spec/relationships/{index}/targetKeyPath"
      "target key path must be an absolute JSON pointer"

def validatePresentation : List ValidationIssue :=
  match blueprint.spec.presentation with
  | none => []
  | some presentation =>
    each presentation.summary fun index reference =>
      require (reference.metric ∈ metricPaths blueprint)
        s!"/spec/presentation/summary/{index}/metric" s!"unknown metric '{reference.metric}'"

def validateCardinality : List ValidationIssue :=
  require ((blueprint.spec.streams.map fun stream => stream.fields.length).sum ≤
      blueprint.spec.runtime.limits.maxMetricCardinality)
    "/spec/streams" "declared field count exceeds runtime maxMetricCardinality"

def issues (p : Platform) : List ValidationIssue :=
  validateMetadata blueprint ++ validateRuntime blueprint ++ validateTransports blueprint ++
  validateSchemas blueprint ++ validateRoutes blueprint ++ validateStreams blueprint ++
  validateLocation blueprint ++ validateCommands blueprint ++ validateConfiguration blueprint p ++
  validateReportedState blueprint ++ validateHealth blueprint ++ validateRelationships blueprint ++
  validatePresentation blueprint ++ validateCardinality blueprint

end

end Blueprint

structure ValidatedBlueprint (p : Platform) where
  blueprint : DeviceBlueprint
  valid : Blueprint.issues blueprint p = []

def validateBlueprint (p : Platform) (blueprint : DeviceBlueprint) :
    Except ContractError (ValidatedBlueprint p) :=
  if h : Blueprint.issues blueprint p = [] then .ok ⟨blueprint, h⟩
  else
    .error (.invalidBlueprint (Blueprint.issues blueprint p).length (Blueprint.issues blueprint p))

end Extrittio
