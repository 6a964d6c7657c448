import Extrittio.Accounts.Repository

/-!
The application layer over users and roles: who may call an operation, what it accepts, and
how a session is opened and resolved. Password hashing is outside; its result comes in.
-/
namespace Extrittio

open Relational

inductive Permission where
  | deployFirmware
  | manageAlerts
  | manageApiKeys
  | manageDeviceBlueprints
  | manageDevices
  | manageFirmware
  | manageFleets
  | manageRoles
  | manageRules
  | manageShadows
  | manageUsers
  | manageZones
  | readAlerts
  | readCommands
  | readDeviceBlueprints
  | readDevices
  | readFirmware
  | readFleets
  | readLogs
  | readRoles
  | readRules
  | readServerMetrics
  | readShadows
  | readTelemetry
  | readUsers
  | readZones
  | sendCommands
  deriving DecidableEq

namespace Permission

/-- In the order of the permission catalogue. -/
def all : List Permission :=
  [.deployFirmware, .manageAlerts, .manageDeviceBlueprints, .manageDevices, .manageApiKeys,
    .manageFirmware, .manageFleets, .manageRules, .manageRoles, .manageShadows, .manageUsers,
    .manageZones, .readCommands, .readAlerts, .readDeviceBlueprints, .readDevices, .readFleets,
    .readFirmware, .readLogs, .readRules, .readRoles, .readServerMetrics, .readShadows,
    .readTelemetry, .readUsers, .readZones, .sendCommands]

def key : Permission → String
  | .deployFirmware => "firmware.deploy"
  | .manageAlerts => "alerts.manage"
  | .manageApiKeys => "api_keys.manage"
  | .manageDeviceBlueprints => "device_blueprints.manage"
  | .manageDevices => "devices.manage"
  | .manageFirmware => "firmware.manage"
  | .manageFleets => "fleets.manage"
  | .manageRoles => "roles.manage"
  | .manageRules => "rules.manage"
  | .manageShadows => "shadows.manage"
  | .manageUsers => "users.manage"
  | .manageZones => "zones.manage"
  | .readAlerts => "alerts.read"
  | .readCommands => "commands.read"
  | .readDeviceBlueprints => "device_blueprints.read"
  | .readDevices => "devices.read"
  | .readFirmware => "firmware.read"
  | .readFleets => "fleets.read"
  | .readLogs => "logs.read"
  | .readRoles => "roles.read"
  | .readRules => "rules.read"
  | .readServerMetrics => "server_metrics.read"
  | .readShadows => "shadows.read"
  | .readTelemetry => "telemetry.read"
  | .readUsers => "users.read"
  | .readZones => "zones.read"
  | .sendCommands => "commands.send"

def fromKey (key : String) : Option Permission := all.find? fun p => p.key = key

def impliedPermissions : Permission → List Permission
  | .readAlerts => [.manageAlerts]
  | .readCommands => [.sendCommands]
  | .readDeviceBlueprints => [.manageDeviceBlueprints]
  | .readDevices => [.manageDevices]
  | .readFirmware => [.manageFirmware, .deployFirmware]
  | .readFleets => [.manageFleets]
  | .readRoles => [.manageRoles]
  | .readRules => [.manageRules]
  | .readShadows => [.manageShadows]
  | .readUsers => [.manageUsers]
  | .readZones => [.manageZones]
  | _ => []

def satisfies (permission required : Permission) : Bool :=
  permission = required || permission ∈ impliedPermissions required

end Permission

/-- The tenant and the permissions of who calls. -/
structure TenantContext where
  tenantId : String
  permissions : List Permission
  deriving DecidableEq

def requirePermission (context : TenantContext) (permission : Permission) :
    Except ApplicationError Unit :=
  if context.permissions.any fun p => p.satisfies permission then .ok ()
  else .error (.forbidden ("Missing permission '" ++ permission.key ++ "'"))

def strTrim (text : String) : String :=
  String.ofList ((text.toList.dropWhile isWhitespace).reverse.dropWhile isWhitespace).reverse

def validateUsernameCharacters (username : String) : Except ApplicationError Unit :=
  if '\x00' ∈ username.toList then
    .error (.invalidInput "Username must not contain NUL characters")
  else .ok ()

def minPasswordLen : ℕ := 12

def validatePassword (password : String) : Except ApplicationError Unit :=
  if password.utf8ByteSize < minPasswordLen then
    .error (.invalidInput s!"Password must be at least {minPasswordLen} characters")
  else if password.toList.any Char.isLower && password.toList.any Char.isUpper &&
      password.toList.any Char.isDigit && password.toList.any fun c => !c.isAlphanum then .ok ()
  else .error (.invalidInput
    "Password must include lowercase, uppercase, number, and symbol characters")

def normalizeRoleIds (roleIds : List ℤ) : List ℤ := (orderBy id roleIds).dedup

def mapUserWriteError (username : String) : PersistenceError → ApplicationError
  | .uniqueViolation _ => .conflict ("Username '" ++ username ++ "' already exists")
  | other => .persistence other

def mapRoleWriteError : PersistenceError → ApplicationError
  | .uniqueViolation _ => .conflict "Role name already exists"
  | other => .persistence other

def normalizeRoleName (name : String) : Except ApplicationError String :=
  let name := String.ofList ((strTrim name).toList.map Char.toLower)
  if name = "" then .error (.invalidInput "Role name must not be empty")
  else if 64 < name.utf8ByteSize then
    .error (.invalidInput "Role name must be 64 characters or fewer")
  else if name.toList.all fun c => c.isLower || c.isDigit || c = '_' || c = '-' then .ok name
  else .error (.invalidInput
    "Role name may only contain lowercase letters, numbers, hyphens, and underscores")

def validatePermissionKeys (keys : List String) : Except ApplicationError (List String) := do
  let permissions ← ((keys.map strTrim).filter (· ≠ "")).mapM fun key =>
    match Permission.fromKey key with
    | some permission => .ok permission.key
    | none => .error (ApplicationError.invalidInput ("Unknown permission '" ++ key ++ "'"))
  return (orderBy id permissions).dedup

def isBuiltinRoleName (name : String) : Bool :=
  name = ownerRole || name = adminRole || name = operatorRole || name = viewerRole

structure CreateUser where
  username : String
  password : String
  roleIds : Option (List ℤ)
  deriving DecidableEq

structure CreateRole where
  name : String
  description : Option String
  permissions : List String
  deriving DecidableEq

structure RoleUpdate where
  name : Option String
  description : Option (Option String)
  permissions : Option (List String)
  deriving DecidableEq

structure AuthenticatedUser where
  id : ℤ
  tenantId : String
  username : String
  role : String
  roles : List Role
  permissions : List String
  permissionVersion : ℤ
  authEpoch : String
  deriving DecidableEq

def primaryRoleName (roles : List Role) : Option String :=
  match roles.find? (fun r => r.name = ownerRole) with
  | some r => some r.name
  | none =>
    match roles.find? (fun r => r.name = adminRole) with
    | some r => some r.name
    | none => roles.head?.map Role.name

def authenticatedUserFromDetails (details : UserDetails) : AuthenticatedUser where
  id := details.user.id
  tenantId := details.user.tenantId
  username := details.user.username
  role := (primaryRoleName details.roles).getD details.user.role
  roles := details.roles
  permissions := details.permissions
  permissionVersion := details.user.permissionVersion
  authEpoch := details.user.authEpoch

namespace UserApplication

variable (s : Accounts) (context : TenantContext)

/-- `hashed` is what the password hasher answers. -/
def create (input : CreateUser) (hashed : Except String String) (rowid : ℤ) (epoch : String)
    (now : ℤ) : Except ApplicationError (Accounts × UserDetails) := do
  requirePermission context .manageUsers
  let username := strTrim input.username
  if username = "" then throw (.invalidInput "Username must not be empty")
  validateUsernameCharacters username
  validatePassword input.password
  if input.roleIds = some [] then throw (.invalidInput "At least one role is required")
  let passwordHash ← hashed.mapError .authentication
  let (s', outcome) ← (s.createUser context.tenantId
    ⟨username, passwordHash, input.roleIds.map normalizeRoleIds⟩ rowid epoch now).mapError
      (mapUserWriteError username)
  match outcome with
  | .created user => return (s', user)
  | .rolesNotFound => throw (.notFound "One or more roles were not found")

def changePassword (userId : ℤ) (newPassword : String) (hashed : Except String String) :
    Except ApplicationError Accounts := do
  requirePermission context .manageUsers
  validatePassword newPassword
  let passwordHash ← hashed.mapError .authentication
  match s.changePassword context.tenantId userId passwordHash with
  | (s', .passwordChanged) => return s'
  | (_, .notFound) => throw (.notFound s!"User {userId} not found")

def delete (userId : ℤ) : Except ApplicationError Accounts := do
  requirePermission context .manageUsers
  let (s', outcome) ← liftPersistence (s.deleteUser context.tenantId userId)
  match outcome with
  | .deleted => return s'
  | .notFound => throw (.notFound s!"User {userId} not found")
  | .wouldDeleteLastOwner => throw (.conflict "Cannot delete the last owner from the tenant")

def setRoles (userId : ℤ) (roleIds : List ℤ) (now : ℤ) :
    Except ApplicationError (Accounts × UserDetails) := do
  requirePermission context .manageUsers
  if roleIds = [] then throw (.invalidInput "At least one role is required")
  let (s', outcome) ←
    liftPersistence (s.setRoles context.tenantId userId (normalizeRoleIds roleIds) now)
  match outcome with
  | .updated user => return (s', user)
  | .userNotFound => throw (.notFound s!"User {userId} not found")
  | .rolesNotFound => throw (.notFound "One or more roles were not found")
  | .wouldRemoveLastOwner => throw (.conflict "Cannot remove the last owner from the tenant")

/-- `verified` is what the password verifier answers for the stored hash. -/
def authenticate (tenant username : String) (verified : Except String Bool) (now : ℤ) :
    Except ApplicationError (Accounts × AuthenticatedUser) := do
  (validateUsernameCharacters username).mapError fun _ => .unauthorized
  let some row := s.users.rows.find? fun r => r.tenantId = tenant && r.username = username
    | throw .unauthorized
  let some details ← liftPersistence (s.hydrate tenant row.id)
    | throw .unauthorized
  if details.user.isActive = false then throw .unauthorized
  let valid ← verified.mapError fun error => .internal ("password verification failed: " ++ error)
  if valid = false then throw .unauthorized
  return (s.recordSuccessfulLogin tenant details.user.id now, authenticatedUserFromDetails details)

/-- Resolve the current authorization of a credential that the host has validated. -/
def resolveSession (tenant : String) (userId permissionVersion : ℤ) (authEpoch : String) :
    Except ApplicationError AuthenticatedUser := do
  let some details ← liftPersistence (s.hydrate tenant userId)
    | throw .unauthorized
  if ¬(details.user.id = userId ∧ details.user.tenantId = tenant) ∨ details.user.isActive = false ∨
      details.user.permissionVersion ≠ permissionVersion ∨ details.user.authEpoch ≠ authEpoch then
    throw .unauthorized
  return authenticatedUserFromDetails details

end UserApplication

namespace RoleApplication

variable (s : Accounts) (context : TenantContext)

def create (input : CreateRole) (rowid now : ℤ) : Except ApplicationError (Accounts × RoleDetails) := do
  requirePermission context .manageRoles
  let name ← normalizeRoleName input.name
  if isBuiltinRoleName name then
    throw (.invalidInput ("'" ++ name ++ "' is reserved for a built-in role"))
  let permissions ← validatePermissionKeys input.permissions
  (s.createRole context.tenantId ⟨name, input.description, permissions⟩ rowid now).mapError
    mapRoleWriteError

def update (roleId : ℤ) (update : RoleUpdate) (now : ℤ) :
    Except ApplicationError (Accounts × RoleDetails) := do
  requirePermission context .manageRoles
  let name ← update.name.mapM normalizeRoleName
  if name.any isBuiltinRoleName then
    throw (.invalidInput ("'" ++ name.getD "" ++ "' is reserved for a built-in role"))
  let permissions ← update.permissions.mapM validatePermissionKeys
  let (s', outcome) ← (s.updateRole context.tenantId roleId
    ⟨name, update.description, permissions⟩ now).mapError mapRoleWriteError
  match outcome with
  | .updated role => return (s', role)
  | .notFound => throw (.notFound s!"Role {roleId} not found")
  | .systemRole => throw (.invalidInput "Built-in roles cannot be modified")

def delete (roleId : ℤ) : Except ApplicationError Accounts := do
  requirePermission context .manageRoles
  let (s', outcome) ← liftPersistence (s.deleteRole context.tenantId roleId)
  match outcome with
  | .deleted => return s'
  | .notFound => throw (.notFound s!"Role {roleId} not found")
  | .systemRole => throw (.invalidInput "Built-in roles cannot be deleted")
  | .inUse name userCount =>
    throw (.conflict ("Role '" ++ name ++ s!"' is assigned to {userCount} user(s)"))

end RoleApplication

end Extrittio
