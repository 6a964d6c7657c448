import Extrittio.Library.OrderBy
import Extrittio.Library.Table
import Extrittio.Platform

/-!
Users, roles and what ties them together, as the embedded adapter stores them. An operation
is one transaction: it returns the tables it leaves behind, or an error after which the
tables are as before. Row ids are chosen by the engine, which may choose the id of a
deleted row again; they come in from outside, as do the clock and fresh epochs.
-/
namespace Extrittio

open Relational

def ownerRole : String := "owner"

def adminRole : String := "admin"

def operatorRole : String := "operator"

def viewerRole : String := "viewer"

structure User where
  id : ℤ
  tenantId : String
  username : String
  role : String
  createdAt : ℤ
  isActive : Bool
  permissionVersion : ℤ
  authEpoch : String
  lastLoginAt : Option ℤ
  deriving DecidableEq

/-- `users`. -/
structure UserRow extends User where
  passwordHash : String
  deriving DecidableEq

/-- `roles`. -/
structure Role where
  id : ℤ
  tenantId : String
  name : String
  description : Option String
  isSystem : Bool
  createdAt : ℤ
  updatedAt : ℤ
  deriving DecidableEq

/-- `role_permissions`. -/
structure RolePermissionRow where
  roleId : ℤ
  permission : String
  deriving DecidableEq

/-- `user_roles`. -/
structure UserRoleRow where
  userId : ℤ
  roleId : ℤ
  tenantId : String
  createdAt : ℤ
  deriving DecidableEq

structure UserDetails where
  user : User
  roles : List Role
  permissions : List String
  deriving DecidableEq

structure RoleDetails where
  role : Role
  permissions : List String
  userCount : ℕ
  deriving DecidableEq

structure NewUser where
  username : String
  passwordHash : String
  /-- `none` selects the tenant's viewer role. -/
  roleIds : Option (List ℤ)
  deriving DecidableEq

structure NewRole where
  name : String
  description : Option String
  permissions : List String
  deriving DecidableEq

structure RolePatch where
  name : Option String
  description : Option (Option String)
  /-- `some` replaces every permission. -/
  permissions : Option (List String)
  deriving DecidableEq

inductive CreateUserOutcome where
  | created (details : UserDetails)
  | rolesNotFound
  deriving DecidableEq

inductive ChangePasswordOutcome where
  | passwordChanged
  | notFound
  deriving DecidableEq

inductive DeleteUserOutcome where
  | deleted
  | notFound
  | wouldDeleteLastOwner
  deriving DecidableEq

inductive SetUserRolesOutcome where
  | updated (details : UserDetails)
  | userNotFound
  | rolesNotFound
  | wouldRemoveLastOwner
  deriving DecidableEq

inductive UpdateRoleOutcome where
  | updated (details : RoleDetails)
  | notFound
  | systemRole
  deriving DecidableEq

inductive DeleteRoleOutcome where
  | deleted
  | notFound
  | systemRole
  | inUse (name : String) (userCount : ℕ)
  deriving DecidableEq

def rowI32 (value : ℤ) (column : String) : Except PersistenceError ℤ :=
  if -2147483648 ≤ value ∧ value ≤ 2147483647 then .ok value
  else .error (.corruptData (column ++ " is outside the supported i32 range"))

def decodeUser (row : UserRow) : Except PersistenceError User := do
  let id ← rowI32 row.id "users.id"
  let permissionVersion ← rowI32 row.permissionVersion "users.permission_version"
  return { row.toUser with id := id, permissionVersion := permissionVersion }

def decodeRole (row : Role) : Except PersistenceError Role := do
  let id ← rowI32 row.id "roles.id"
  return { row with id := id }

/-- `ORDER BY name, id`. -/
def Role.nameKey (r : Role) : String ×ₗ ℤ := toLex (r.name, r.id)

def primaryRole (roles : List Role) : String :=
  match roles.find? (fun r => r.name = ownerRole) with
  | some r => r.name
  | none =>
    match roles.find? (fun r => r.name = adminRole) with
    | some r => r.name
    | none => (roles.head?.map Role.name).getD viewerRole

structure Accounts where
  users : Table UserRow fun r => r.id
  roles : Table Role Role.id
  rolePermissions : Table RolePermissionRow fun r => (r.roleId, r.permission)
  userRoles : Table UserRoleRow fun r => (r.userId, r.roleId)

namespace Accounts

variable (s : Accounts) (tenant : String)

def user? (userId : ℤ) : Option UserRow := (s.users.find? userId).filter fun r => r.tenantId = tenant

def role? (roleId : ℤ) : Option Role := (s.roles.find? roleId).filter fun r => r.tenantId = tenant

def assignments (userId : ℤ) : List UserRoleRow :=
  s.userRoles.rows.filter fun a => a.tenantId = tenant && a.userId = userId

def holders (roleId : ℤ) : List UserRoleRow :=
  s.userRoles.rows.filter fun a => a.tenantId = tenant && a.roleId = roleId

def grants (roleId : ℤ) : List String :=
  (s.rolePermissions.rows.filter fun g => g.roleId = roleId).map (·.permission)

/-- `SELECT DISTINCT rp.permission ... ORDER BY rp.permission`. -/
def permissionsOf (userId : ℤ) : List String :=
  orderBy id ((s.assignments tenant userId).flatMap fun a => s.grants a.roleId).dedup

def hydrate (userId : ℤ) : Except PersistenceError (Option UserDetails) := do
  match s.user? tenant userId with
  | none => return none
  | some row =>
    let user ← decodeUser row
    let roles ← (orderBy Role.nameKey ((s.assignments tenant userId).filterMap fun a =>
      s.role? a.tenantId a.roleId)).mapM decodeRole
    return some { user := user, roles := roles, permissions := s.permissionsOf tenant userId }

def selectedRoles (requested : Option (List ℤ)) : Except PersistenceError (Option (List Role)) := do
  let available ← (orderBy Role.nameKey (s.roles.rows.filter fun r => r.tenantId = tenant)).mapM
    decodeRole
  match requested with
  | some ids =>
    let selected := available.filter fun r => r.id ∈ ids
    return if selected.length = ids.dedup.length then some selected else none
  | none => return (available.find? fun r => r.name = viewerRole).map fun r => [r]

/-- `INSERT INTO user_roles`, with both foreign keys. -/
def insertUserRole (s : Accounts) (row : UserRoleRow) : Except PersistenceError Accounts :=
  if s.user? row.tenantId row.userId = none ∨ s.role? row.tenantId row.roleId = none then
    .error (.foreignKeyViolation "foreign_key")
  else match s.userRoles.insert? row with
    | none => .error (.uniqueViolation "unique")
    | some userRoles => .ok { s with userRoles := userRoles }

def updateUsers (selected : ℤ → Bool) (f : UserRow → UserRow) (hf : ∀ r, (f r).id = r.id) :
    Accounts :=
  { s with users := s.users.update (fun r => r.tenantId = tenant && selected r.id) f hf }

def replaceRoles (userId : ℤ) (roles : List Role) (now : ℤ) : Except PersistenceError Accounts := do
  let cleared := { s with
    userRoles := s.userRoles.filter fun a => !(a.tenantId = tenant && a.userId = userId) }
  let assigned ← roles.foldlM (fun s r => insertUserRole s ⟨userId, r.id, tenant, now⟩) cleared
  return assigned.updateUsers tenant (· = userId)
    (fun r => { r with role := primaryRole roles, permissionVersion := r.permissionVersion + 1 })
    fun _ => rfl

/-- The owner role, whether the user holds it and how many users do. -/
def ownerState (userId : ℤ) : Except PersistenceError (Option ℤ × Bool × ℕ) :=
  match s.roles.rows.find? fun r => r.tenantId = tenant && r.name = ownerRole with
  | none => .ok (none, false, 0)
  | some r => do
    let id ← rowI32 r.id "roles.id"
    return (some id, (s.holders tenant r.id).any fun a => a.userId = userId,
      ((s.holders tenant r.id).map (·.userId)).dedup.length)

/-- `INSERT INTO users`, with its unique and check constraints. -/
def insertUser (row : UserRow) : Except PersistenceError Accounts :=
  if row.authEpoch = "" then .error (.checkViolation "check")
  else if s.users.rows.any fun r => r.tenantId = row.tenantId && r.username = row.username then
    .error (.uniqueViolation "users.tenant_username")
  else if s.users.rows.any fun r => r.authEpoch = row.authEpoch then
    .error (.uniqueViolation "unique")
  else match s.users.insert? row with
    | none => .error (.uniqueViolation "users.id")
    | some users => .ok { s with users := users }

def createUser (user : NewUser) (rowid : ℤ) (epoch : String) (now : ℤ) :
    Except PersistenceError (Accounts × CreateUserOutcome) := do
  match ← s.selectedRoles tenant user.roleIds with
  | none => return (s, .rolesNotFound)
  | some roles =>
    let inserted ← s.insertUser {
      id := rowid
      tenantId := tenant
      username := user.username
      role := primaryRole roles
      createdAt := now
      isActive := true
      permissionVersion := 1
      authEpoch := epoch
      lastLoginAt := none
      passwordHash := user.passwordHash }
    let userId ← rowI32 rowid "users.id"
    let assigned ← inserted.replaceRoles tenant userId roles now
    match ← assigned.hydrate tenant userId with
    | none => throw .notFound
    | some details => return (assigned, .created details)

def changePassword (userId : ℤ) (passwordHash : String) : Accounts × ChangePasswordOutcome :=
  (s.updateUsers tenant (· = userId)
    (fun r => { r with
      passwordHash := passwordHash
      permissionVersion := r.permissionVersion + 1 })
    fun _ => rfl,
   if s.user? tenant userId = none then .notFound else .passwordChanged)

def deleteUser (userId : ℤ) : Except PersistenceError (Accounts × DeleteUserOutcome) := do
  match ← s.hydrate tenant userId with
  | none => return (s, .notFound)
  | some _ =>
    let (_, isOwner, ownerCount) ← s.ownerState tenant userId
    if isOwner ∧ ownerCount ≤ 1 then return (s, .wouldDeleteLastOwner)
    return ({ s with
      users := s.users.filter fun r => !(r.tenantId = tenant && r.id = userId)
      userRoles := s.userRoles.filter fun a => !(a.tenantId = tenant && a.userId = userId) }, .deleted)

def setRoles (userId : ℤ) (roleIds : List ℤ) (now : ℤ) :
    Except PersistenceError (Accounts × SetUserRolesOutcome) := do
  match ← s.hydrate tenant userId with
  | none => return (s, .userNotFound)
  | some _ =>
    match ← s.selectedRoles tenant (some roleIds) with
    | none => return (s, .rolesNotFound)
    | some roles =>
      let (ownerId, isOwner, ownerCount) ← s.ownerState tenant userId
      if isOwner ∧ ownerCount ≤ 1 ∧ !(ownerId.any fun id => roles.any fun r => r.id = id) then
        return (s, .wouldRemoveLastOwner)
      let replaced ← s.replaceRoles tenant userId roles now
      match ← replaced.hydrate tenant userId with
      | none => throw .notFound
      | some details => return (replaced, .updated details)

def recordSuccessfulLogin (userId loggedInAt : ℤ) : Accounts :=
  s.updateUsers tenant (· = userId) (fun r => { r with lastLoginAt := some loggedInAt }) fun _ => rfl

def roleDetails (roleId : ℤ) : Except PersistenceError (Option RoleDetails) := do
  match s.role? tenant roleId with
  | none => return none
  | some row =>
    let role ← decodeRole row
    return some ⟨role, orderBy id (s.grants roleId), (s.holders tenant roleId).length⟩

/-- `INSERT INTO role_permissions`, with its foreign key. -/
def insertRolePermission (s : Accounts) (row : RolePermissionRow) : Except PersistenceError Accounts :=
  if s.roles.find? row.roleId = none then .error (.foreignKeyViolation "foreign_key")
  else match s.rolePermissions.insert? row with
    | none => .error (.uniqueViolation "unique")
    | some rolePermissions => .ok { s with rolePermissions := rolePermissions }

def insertRolePermissions (roleId : ℤ) (permissions : List String) : Except PersistenceError Accounts :=
  permissions.foldlM (fun s permission => insertRolePermission s ⟨roleId, permission⟩) s

def nameTaken (name : String) : Bool := s.roles.rows.any fun r => r.tenantId = tenant && r.name = name

/-- `INSERT INTO roles`; every unique violation is reported as one of the name. -/
def insertRole (row : Role) : Except PersistenceError Accounts :=
  if s.nameTaken row.tenantId row.name then .error (.uniqueViolation "roles.tenant_name")
  else match s.roles.insert? row with
    | none => .error (.uniqueViolation "roles.tenant_name")
    | some roles => .ok { s with roles := roles }

def createRole (role : NewRole) (rowid now : ℤ) : Except PersistenceError (Accounts × RoleDetails) := do
  let inserted ← s.insertRole {
    id := rowid
    tenantId := tenant
    name := role.name
    description := role.description
    isSystem := false
    createdAt := now
    updatedAt := now }
  let roleId ← rowI32 rowid "roles.id"
  let granted ← inserted.insertRolePermissions roleId role.permissions
  match ← granted.roleDetails tenant roleId with
  | none => throw .notFound
  | some details => return (granted, details)

def updateRoleRow (roleId : ℤ) (f : Role → Role) (hf : ∀ r, (f r).id = r.id) : Accounts :=
  { s with roles := s.roles.update (fun r => r.tenantId = tenant && r.id = roleId) f hf }

/-- `UPDATE roles SET name`, refused when another role of the tenant has the name. -/
def renameRole (roleId : ℤ) (name : String) : Except PersistenceError Accounts :=
  if s.roles.rows.any fun r => r.tenantId = tenant && r.name = name && r.id ≠ roleId then
    .error (.uniqueViolation "roles.tenant_name")
  else .ok (s.updateRoleRow tenant roleId (fun r => { r with name := name }) fun _ => rfl)

/-- The replacement of a role's permissions ends the sessions of those who hold it. -/
def replacePermissions (roleId : ℤ) (permissions : List String) : Except PersistenceError Accounts := do
  let cleared := { s with rolePermissions := s.rolePermissions.filter fun g => g.roleId ≠ roleId }
  let granted ← cleared.insertRolePermissions roleId permissions
  return granted.updateUsers tenant
    (fun userId => (granted.holders tenant roleId).any fun a => a.userId = userId)
    (fun r => { r with permissionVersion := r.permissionVersion + 1 }) fun _ => rfl

def patchName (roleId : ℤ) : Option String → Except PersistenceError Accounts
  | none => .ok s
  | some name => s.renameRole tenant roleId name

def patchDescription (roleId : ℤ) : Option (Option String) → Accounts
  | none => s
  | some description =>
    s.updateRoleRow tenant roleId (fun r => { r with description := description }) fun _ => rfl

def patchPermissions (roleId : ℤ) : Option (List String) → Except PersistenceError Accounts
  | none => .ok s
  | some permissions => s.replacePermissions tenant roleId permissions

def updateRole (roleId : ℤ) (patch : RolePatch) (now : ℤ) :
    Except PersistenceError (Accounts × UpdateRoleOutcome) := do
  match ← s.roleDetails tenant roleId with
  | none => return (s, .notFound)
  | some current =>
    if current.role.isSystem then return (s, .systemRole)
    if 9223372036854775807 < current.role.updatedAt + 1 then
      throw (.corruptData "roles.updated_at cannot advance beyond i64 microseconds")
    let touched := s.updateRoleRow tenant roleId
      (fun r => { r with updatedAt := max now (current.role.updatedAt + 1) }) fun _ => rfl
    let named ← touched.patchName tenant roleId patch.name
    let described := named.patchDescription tenant roleId patch.description
    let granted ← described.patchPermissions tenant roleId patch.permissions
    match ← granted.roleDetails tenant roleId with
    | none => throw .notFound
    | some details => return (granted, .updated details)

def deleteRole (roleId : ℤ) : Except PersistenceError (Accounts × DeleteRoleOutcome) := do
  match ← s.roleDetails tenant roleId with
  | none => return (s, .notFound)
  | some current =>
    if current.role.isSystem then return (s, .systemRole)
    if 0 < current.userCount then return (s, .inUse current.role.name current.userCount)
    return ({ s with
      roles := s.roles.filter fun r => !(r.tenantId = tenant && r.id = roleId)
      rolePermissions := s.rolePermissions.filter fun g => g.roleId ≠ roleId
      userRoles := s.userRoles.filter fun a => !(a.tenantId = tenant && a.roleId = roleId) }, .deleted)

end Accounts

end Extrittio
