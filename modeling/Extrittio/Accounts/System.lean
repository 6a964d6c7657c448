import Extrittio.Accounts.Application
import Extrittio.Accounts.Laws
import Extrittio.Library.Run

/-!
Runs of the operations on users and roles, of any tenants, from the tables that the
migration leaves. Each step is reduced to what it does to the tables; everything that
is proved of runs is proved of these changes.
-/
namespace Extrittio

open Relational Transition Option

inductive SeedOwnerOutcome where
  | created
  | skippedUsersExist
  deriving DecidableEq

structure BootstrapOwner where
  username : String
  passwordHash : String
  deriving DecidableEq

namespace Accounts

section

variable (s : Accounts) (tenant : String)

/-- `INSERT INTO roles ... ON CONFLICT (tenant_id, name) DO NOTHING`. -/
def seedRole (rowid now : ℤ) : Except PersistenceError Accounts :=
  if s.nameTaken tenant ownerRole then .ok s
  else s.insertRole {
    id := rowid
    tenantId := tenant
    name := ownerRole
    description := some "Full tenant owner with all permissions and lockout protection."
    isSystem := true
    createdAt := now
    updatedAt := now }

/-- Grants that are not there yet. -/
def seedGrants (rows : List RolePermissionRow) : Accounts :=
  { s with rolePermissions := rows.foldl (fun t row => (t.insert? row).getD t) s.rolePermissions }

def seedOwnerIfEmpty (owner : BootstrapOwner) (roleRowid userRowid : ℤ) (epoch : String) (now : ℤ) :
    Except PersistenceError (Accounts × SeedOwnerOutcome) := do
  if s.users.rows ≠ [] then return (s, .skippedUsersExist)
  let named ← (s.seedRole tenant roleRowid now).mapError fun e => .internal e.message
  match named.roles.rows.find? fun r => r.tenantId = tenant && r.name = ownerRole with
  | none => throw .notFound
  | some role =>
    let granted := named.seedGrants (Permission.all.map fun p => ⟨role.id, p.key⟩)
    let inserted ← (granted.insertUser {
      id := userRowid
      tenantId := tenant
      username := owner.username
      role := ownerRole
      createdAt := now
      isActive := true
      permissionVersion := 2
      authEpoch := epoch
      lastLoginAt := none
      passwordHash := owner.passwordHash }).mapError fun e => .internal e.message
    let assigned ← (inserted.insertUserRole ⟨userRowid, role.id, tenant, now⟩).mapError
      fun e => .internal e.message
    return (assigned, .created)

end

def builtinOwner (now : ℤ) : Role :=
  ⟨1, "default", ownerRole, some "Full tenant owner with all permissions and lockout protection.",
    true, now, now⟩

/-- The built-in roles of the default tenant, in the order of the migration. -/
def builtinRoles (now : ℤ) : List Role :=
  [builtinOwner now,
    ⟨2, "default", adminRole, some "Administrative access to tenant resources and security settings.",
      true, now, now⟩,
    ⟨3, "default", operatorRole, some "Operational access without security administration.",
      true, now, now⟩,
    ⟨4, "default", viewerRole, some "Read-only operational visibility.", true, now, now⟩]

def builtinGrants : List RolePermissionRow :=
  let everything := ["api_keys.manage", "alerts.manage", "alerts.read", "commands.read",
    "commands.send", "device_blueprints.manage", "device_blueprints.read", "devices.manage",
    "devices.read", "firmware.deploy", "firmware.manage", "firmware.read", "fleets.manage",
    "fleets.read", "logs.read", "roles.manage", "roles.read", "rules.manage", "rules.read",
    "server_metrics.read", "shadows.manage", "shadows.read", "telemetry.read", "users.manage",
    "users.read", "zones.manage", "zones.read"]
  let operator := ["alerts.manage", "alerts.read", "commands.read", "commands.send",
    "device_blueprints.read", "devices.read", "firmware.read", "fleets.read", "logs.read",
    "rules.read", "shadows.manage", "shadows.read", "telemetry.read", "zones.read"]
  let viewer := ["alerts.read", "commands.read", "device_blueprints.read", "devices.read",
    "firmware.read", "fleets.read", "logs.read", "rules.read", "shadows.read", "telemetry.read",
    "zones.read"]
  (everything.map (⟨1, ·⟩)) ++ (everything.map (⟨2, ·⟩)) ++ (operator.map (⟨3, ·⟩)) ++
    viewer.map (⟨4, ·⟩)

def migrated (now : ℤ) : Accounts :=
  seedGrants ⟨.empty, ⟨builtinRoles now, by simp [builtinRoles, builtinOwner]⟩, .empty, .empty⟩ builtinGrants

end Accounts

structure AccountSystem where
  accounts : Accounts
  /-- Every authentication epoch that a user was ever given. -/
  epochs : List String

inductive AccountStep where
  | createUser (context : TenantContext) (input : CreateUser) (hashed : Except String String)
      (rowid : ℤ) (epoch : String) (now : ℤ)
  | changePassword (context : TenantContext) (userId : ℤ) (newPassword : String)
      (hashed : Except String String)
  | deleteUser (context : TenantContext) (userId : ℤ)
  | setRoles (context : TenantContext) (userId : ℤ) (roleIds : List ℤ) (now : ℤ)
  | authenticate (tenant username : String) (verified : Except String Bool) (now : ℤ)
  | createRole (context : TenantContext) (input : CreateRole) (rowid now : ℤ)
  | updateRole (context : TenantContext) (roleId : ℤ) (update : RoleUpdate) (now : ℤ)
  | deleteRole (context : TenantContext) (roleId : ℤ)
  | seedOwner (tenant : String) (owner : BootstrapOwner) (roleRowid userRowid : ℤ) (epoch : String)
      (now : ℤ)

namespace AccountStep

def drawn : AccountStep → Option String
  | .createUser _ _ _ _ epoch _ | .seedOwner _ _ _ _ epoch _ => some epoch
  | _ => none

def run (s : Accounts) : AccountStep → Option Accounts
  | .createUser context input hashed rowid epoch now =>
    (UserApplication.create s context input hashed rowid epoch now).toOption.map Prod.fst
  | .changePassword context userId newPassword hashed =>
    (UserApplication.changePassword s context userId newPassword hashed).toOption
  | .deleteUser context userId => (UserApplication.delete s context userId).toOption
  | .setRoles context userId roleIds now =>
    (UserApplication.setRoles s context userId roleIds now).toOption.map Prod.fst
  | .authenticate tenant username verified now =>
    (UserApplication.authenticate s tenant username verified now).toOption.map Prod.fst
  | .createRole context input rowid now =>
    (RoleApplication.create s context input rowid now).toOption.map Prod.fst
  | .updateRole context roleId update now =>
    (RoleApplication.update s context roleId update now).toOption.map Prod.fst
  | .deleteRole context roleId => (RoleApplication.delete s context roleId).toOption
  | .seedOwner tenant owner roleRowid userRowid epoch now =>
    (s.seedOwnerIfEmpty tenant owner roleRowid userRowid epoch now).toOption.map Prod.fst

end AccountStep

namespace AccountSystem

def start (now : ℤ) : AccountSystem := ⟨.migrated now, []⟩

/-- A failed operation changes nothing. -/
def apply (m : AccountSystem) (step : AccountStep) : AccountSystem :=
  match step.run m.accounts with
  | none => m
  | some s' => ⟨s', step.drawn.toList ++ m.epochs⟩

/-- Every created user draws a fresh epoch. -/
def enabled (m : AccountSystem) (step : AccountStep) : Prop :=
  step.run m.accounts ≠ none → ∀ epoch, step.drawn = some epoch → epoch ∉ m.epochs

def machine : Machine AccountSystem AccountStep := ⟨enabled, apply⟩

end AccountSystem

namespace Accounts

/-- What a committed step does to the tables, with the epoch it draws. -/
inductive Change (s : Accounts) : Option String → Accounts → Prop
  | unchanged {drawn : Option String} : Change s drawn s
  | userCreated {row : UserRow} {inserted s' : Accounts} {roles : List Role} {now : ℤ}
      (hroles : ∀ r ∈ roles, r ∈ s.roles ∧ r.tenantId = row.tenantId)
      (hinsert : s.insertUser row = .ok inserted)
      (hreplaced : RolesReplaced inserted s' row.tenantId row.id roles now) :
      Change s (some row.authEpoch) s'
  | userTouched {tenant : String} {userId : ℤ} {f : UserRow → UserRow} {hf : ∀ r, (f r).id = r.id}
      (hkept : ∀ r, (f r).tenantId = r.tenantId ∧ (f r).authEpoch = r.authEpoch ∧
        r.permissionVersion ≤ (f r).permissionVersion) :
      Change s none (s.updateUsers tenant (· = userId) f hf)
  | userDeleted {tenant : String} {userId : ℤ} (hspared : OwnerSpared s tenant userId fun _ => False) :
      Change s none { s with
        users := s.users.filter fun r => !(r.tenantId = tenant && r.id = userId)
        userRoles := s.userRoles.filter fun a => !(a.tenantId = tenant && a.userId = userId) }
  | rolesReplaced {tenant : String} {userId : ℤ} {roles : List Role} {now : ℤ} {s' : Accounts}
      (hroles : ∀ r ∈ roles, r ∈ s.roles ∧ r.tenantId = tenant)
      (hspared : OwnerSpared s tenant userId fun id => ∃ r ∈ roles, r.id = id)
      (hreplaced : RolesReplaced s s' tenant userId roles now) : Change s none s'
  | roleCreated {row : Role} {inserted s' : Accounts} {permissions : List String}
      (hname : row.name ≠ ownerRole) (hinsert : s.insertRole row = .ok inserted)
      (hgranted : Granted inserted s' row.id permissions) : Change s none s'
  | roleRewritten {tenant : String} {roleId updatedAt : ℤ} {patch : RolePatch} {row : Role}
      (hrow : s.role? tenant roleId = some row) (hsystem : row.isSystem = false)
      (hname : patch.name ≠ some ownerRole)
      (hfree : ∀ name, patch.name = some name →
        ∀ r ∈ s.roles, r.tenantId = tenant → r.name = name → r.id = roleId) :
      Change s none (s.updateRoleRow tenant roleId (rewriteRole patch updatedAt) fun _ => rfl)
  | permissionsReplaced {tenant : String} {roleId : ℤ} {row : Role} {s' : Accounts}
      (hrow : s.role? tenant roleId = some row) (hsystem : row.isSystem = false)
      (hreplaced : PermissionsReplaced s s' tenant roleId) : Change s none s'
  | roleDeleted {tenant : String} {roleId : ℤ} {row : Role}
      (hrow : s.role? tenant roleId = some row) (hsystem : row.isSystem = false)
      (hunused : s.holders tenant roleId = []) :
      Change s none { s with
        roles := s.roles.filter fun r => !(r.tenantId = tenant && r.id = roleId)
        rolePermissions := s.rolePermissions.filter fun g => g.roleId ≠ roleId
        userRoles := s.userRoles.filter fun a => !(a.tenantId = tenant && a.roleId = roleId) }
  | roleSeeded {tenant : String} {rowid now : ℤ} {s' : Accounts} (hempty : s.users.rows = [])
      (h : s.seedRole tenant rowid now = .ok s') : Change s none s'
  | grantsSeeded {rows : List RolePermissionRow} (hempty : s.users.rows = []) :
      Change s none (s.seedGrants rows)
  | ownerSeeded {row : UserRow} {inserted s' : Accounts} {roleId now : ℤ}
      (hempty : s.users.rows = []) (hinsert : s.insertUser row = .ok inserted)
      (h : inserted.insertUserRole ⟨row.id, roleId, row.tenantId, now⟩ = .ok s') :
      Change s (some row.authEpoch) s'

/-- The changes of one step, of which only the last draws an epoch or assigns roles. -/
inductive Changes : Accounts → Option String → Accounts → Prop
  | last {s s' : Accounts} {drawn : Option String} (h : Change s drawn s') : Changes s drawn s'
  | cons {s t s' : Accounts} {drawn : Option String} (h : Change s none t)
      (hassigned : t.userRoles = s.userRoles) (rest : Changes t drawn s') : Changes s drawn s'

theorem Changes.preserves {s s' : Accounts} {drawn : Option String} {I : Accounts → Prop}
    (step : ∀ {s s' : Accounts} {drawn : Option String}, I s → Change s drawn s' → I s')
    (h : Changes s drawn s') (hs : I s) : I s' := by
  induction h with
  | last h => exact step hs h
  | cons h _ _ ih => exact ih (step hs h)

end Accounts

section

open Accounts

variable {s s' : Accounts}

theorem toOption_eq_some {ε α : Type} {x : Except ε α} {a : α} : x.toOption = some a ↔ x = .ok a := by
  cases x <;> simp [Except.toOption]

theorem liftPersistence_eq_ok {α : Type} {x : Except PersistenceError α} {a : α} :
    liftPersistence x = .ok a ↔ x = .ok a := by
  cases x <;> simp [liftPersistence]

variable {context : TenantContext} {hashed : Except String String} {rowid now userId roleId : ℤ}
  {epoch tenant username : String} {verified : Except String Bool}

theorem run_createUser {input : CreateUser}
    (h : (AccountStep.createUser context input hashed rowid epoch now).run s = some s') :
    ∃ user outcome, s.createUser context.tenantId user rowid epoch now = .ok (s', outcome) := by
  obtain ⟨⟨_, details⟩, hcreate, rfl⟩ := map_eq_some_iff.mp h
  rw [toOption_eq_some] at hcreate
  obtain ⟨_, -, hcreate⟩ := of_bind_ok hcreate
  dsimp only at hcreate
  split at hcreate
  · cases hcreate
  obtain ⟨_, -, hcreate⟩ := of_bind_ok hcreate
  obtain ⟨_, -, hcreate⟩ := of_bind_ok hcreate
  split at hcreate
  · cases hcreate
  obtain ⟨passwordHash, -, hcreate⟩ := of_bind_ok hcreate
  obtain ⟨⟨_, outcome⟩, hstored, hcreate⟩ := of_bind_ok hcreate
  cases outcome with
  | rolesNotFound => cases hcreate
  | created user =>
    cases hcreate
    exact ⟨_, _, mapError_eq_ok.mp hstored⟩

theorem run_changePassword {newPassword : String}
    (h : (AccountStep.changePassword context userId newPassword hashed).run s = some s') :
    ∃ passwordHash, s.changePassword context.tenantId userId passwordHash = (s', .passwordChanged) := by
  have hchange := toOption_eq_some.mp h
  obtain ⟨_, -, hchange⟩ := of_bind_ok hchange
  obtain ⟨_, -, hchange⟩ := of_bind_ok hchange
  obtain ⟨passwordHash, -, hchange⟩ := of_bind_ok hchange
  split at hchange
  · next _ hstored =>
    cases hchange
    exact ⟨passwordHash, hstored⟩
  · cases hchange

theorem run_deleteUser (h : (AccountStep.deleteUser context userId).run s = some s') :
    s.deleteUser context.tenantId userId = .ok (s', .deleted) := by
  have hdelete := toOption_eq_some.mp h
  obtain ⟨_, -, hdelete⟩ := of_bind_ok hdelete
  obtain ⟨⟨_, outcome⟩, hstored, hdelete⟩ := of_bind_ok hdelete
  cases outcome with
  | notFound | wouldDeleteLastOwner => cases hdelete
  | deleted =>
    cases hdelete
    exact liftPersistence_eq_ok.mp hstored

theorem run_setRoles {roleIds : List ℤ}
    (h : (AccountStep.setRoles context userId roleIds now).run s = some s') :
    ∃ ids details, s.setRoles context.tenantId userId ids now = .ok (s', .updated details) := by
  obtain ⟨⟨_, details⟩, hset, rfl⟩ := map_eq_some_iff.mp h
  rw [toOption_eq_some] at hset
  obtain ⟨_, -, hset⟩ := of_bind_ok hset
  split at hset
  · cases hset
  obtain ⟨⟨_, outcome⟩, hstored, hset⟩ := of_bind_ok hset
  cases outcome with
  | userNotFound | rolesNotFound | wouldRemoveLastOwner => cases hset
  | updated user =>
    cases hset
    exact ⟨_, _, liftPersistence_eq_ok.mp hstored⟩

theorem authenticate_eq_ok {user : AuthenticatedUser}
    (h : UserApplication.authenticate s tenant username verified now = .ok (s', user)) :
    ∃ userId details, s.hydrate tenant userId = .ok (some details) ∧
      s' = s.recordSuccessfulLogin tenant details.user.id now ∧
      user = authenticatedUserFromDetails details := by
  obtain ⟨_, -, h⟩ := of_bind_ok h
  split at h
  · obtain ⟨found, hdetails, h⟩ := of_bind_ok h
    split at h
    · split at h
      · cases h
      obtain ⟨valid, -, h⟩ := of_bind_ok h
      split at h
      · cases h
      · cases h
        exact ⟨_, _, liftPersistence_eq_ok.mp hdetails, rfl, rfl⟩
    · cases h
  · cases h

theorem run_authenticate
    (h : (AccountStep.authenticate tenant username verified now).run s = some s') :
    ∃ userId, s' = s.recordSuccessfulLogin tenant userId now := by
  obtain ⟨⟨_, user⟩, hlogin, rfl⟩ := map_eq_some_iff.mp h
  obtain ⟨_, details, -, hstored, -⟩ := authenticate_eq_ok (toOption_eq_some.mp hlogin)
  exact ⟨_, hstored⟩

theorem run_createRole {input : CreateRole}
    (h : (AccountStep.createRole context input rowid now).run s = some s') :
    ∃ role details, isBuiltinRoleName role.name = false ∧
      s.createRole context.tenantId role rowid now = .ok (s', details) := by
  obtain ⟨⟨_, details⟩, hcreate, rfl⟩ := map_eq_some_iff.mp h
  rw [toOption_eq_some] at hcreate
  obtain ⟨_, -, hcreate⟩ := of_bind_ok hcreate
  obtain ⟨name, -, hcreate⟩ := of_bind_ok hcreate
  split at hcreate
  · cases hcreate
  · next hbuiltin =>
    obtain ⟨permissions, -, hcreate⟩ := of_bind_ok hcreate
    exact ⟨_, details, by simpa using hbuiltin, mapError_eq_ok.mp hcreate⟩

theorem run_updateRole {update : RoleUpdate}
    (h : (AccountStep.updateRole context roleId update now).run s = some s') :
    ∃ patch details, patch.name.any isBuiltinRoleName = false ∧
      (patch.permissions = none ↔ update.permissions = none) ∧
      s.updateRole context.tenantId roleId patch now = .ok (s', .updated details) := by
  obtain ⟨⟨_, details⟩, hupdate, rfl⟩ := map_eq_some_iff.mp h
  rw [toOption_eq_some] at hupdate
  obtain ⟨_, -, hupdate⟩ := of_bind_ok hupdate
  obtain ⟨name, -, hupdate⟩ := of_bind_ok hupdate
  split at hupdate
  · cases hupdate
  · next hbuiltin =>
    obtain ⟨permissions, hpermissions, hupdate⟩ := of_bind_ok hupdate
    obtain ⟨⟨_, outcome⟩, hstored, hupdate⟩ := of_bind_ok hupdate
    have hsame : permissions = none ↔ update.permissions = none := by
      cases hgiven : update.permissions with
      | none =>
        rw [hgiven] at hpermissions
        simp [← Except.ok.inj hpermissions]
      | some keys =>
        rw [hgiven] at hpermissions
        obtain ⟨_, -, hkeys⟩ := of_bind_ok hpermissions
        simp [← Except.ok.inj hkeys]
    cases outcome with
    | notFound | systemRole => cases hupdate
    | updated role =>
      cases hupdate
      exact ⟨_, _, by simpa using hbuiltin, hsame, mapError_eq_ok.mp hstored⟩

theorem run_deleteRole (h : (AccountStep.deleteRole context roleId).run s = some s') :
    s.deleteRole context.tenantId roleId = .ok (s', .deleted) := by
  have hdelete := toOption_eq_some.mp h
  obtain ⟨_, -, hdelete⟩ := of_bind_ok hdelete
  obtain ⟨⟨_, outcome⟩, hstored, hdelete⟩ := of_bind_ok hdelete
  cases outcome with
  | notFound | systemRole | inUse => cases hdelete
  | deleted =>
    cases hdelete
    exact liftPersistence_eq_ok.mp hstored

theorem ne_ownerRole_of_not_builtin {name : String} (h : isBuiltinRoleName name = false) :
    name ≠ ownerRole := by
  rintro rfl
  simp [isBuiltinRoleName] at h

theorem changes_of_updateRole {patch : RolePatch}
    {outcome : UpdateRoleOutcome} (hname : patch.name ≠ some ownerRole)
    (h : s.updateRole tenant roleId patch now = .ok (s', outcome)) : Changes s none s' := by
  obtain ⟨rfl, -⟩ | ⟨⟨row, hrow, hsystem⟩, hfree, updatedAt, _, rfl, hrest⟩ := updateRole_eq_ok h
  · exact .last .unchanged
  have hfirst : Change s none
      (s.updateRoleRow tenant roleId (rewriteRole patch updatedAt) fun _ => rfl) :=
    .roleRewritten hrow hsystem hname hfree
  obtain ⟨-, rfl⟩ | ⟨-, hreplaced⟩ := hrest
  · exact .last hfirst
  · obtain ⟨hmem, hid, htenant⟩ := role?_eq_some.mp hrow
    have hafter : (s.updateRoleRow tenant roleId (rewriteRole patch updatedAt) fun _ => rfl).role?
        tenant roleId = some (rewriteRole patch updatedAt row) :=
      role?_eq_some.mpr ⟨mem_updateRoleRow.mpr ⟨row, hmem, by simp [hid, htenant]⟩, hid, htenant⟩
    exact .cons hfirst rfl (.last (.permissionsReplaced hafter hsystem hreplaced))

theorem seedRole_eq_ok (h : s.seedRole tenant rowid now = .ok s') :
    s'.users = s.users ∧ s'.userRoles = s.userRoles := by
  unfold seedRole at h
  split at h
  · rw [← Except.ok.inj h]
    exact ⟨rfl, rfl⟩
  · obtain ⟨-, _, -, rfl⟩ := insertRole_eq_ok h
    exact ⟨rfl, rfl⟩

theorem changes_of_seedOwner {owner : BootstrapOwner} {roleRowid userRowid : ℤ}
    {outcome : SeedOwnerOutcome}
    (h : s.seedOwnerIfEmpty tenant owner roleRowid userRowid epoch now = .ok (s', outcome)) :
    Changes s (some epoch) s' := by
  unfold seedOwnerIfEmpty at h
  split at h
  · cases h
    exact .last .unchanged
  · next hempty =>
    rw [not_not] at hempty
    obtain ⟨named, hnamed, h⟩ := of_bind_ok h
    have hnamed := mapError_eq_ok.mp hnamed
    obtain ⟨husers, hassignments⟩ := seedRole_eq_ok hnamed
    split at h
    · cases h
    · next role _ =>
      obtain ⟨inserted, hinserted, h⟩ := of_bind_ok h
      obtain ⟨assigned, hassigned, h⟩ := of_bind_ok h
      cases h
      have hnone : named.users.rows = [] := by rw [husers, hempty]
      generalize hgrants : Permission.all.map (fun p => (⟨role.id, p.key⟩ : RolePermissionRow)) = grants
        at hinserted
      have hinserted := mapError_eq_ok.mp hinserted
      have hassigned := mapError_eq_ok.mp hassigned
      have hstill : (named.seedGrants grants).users.rows = [] := hnone
      have hlast := Change.ownerSeeded hstill hinserted hassigned
      exact .cons (.roleSeeded hempty hnamed) hassignments
        (.cons (.grantsSeeded hnone) rfl (.last hlast))

/-- Every step comes down to changes of the tables. -/
theorem changes_of_run {step : AccountStep} (h : step.run s = some s') :
    Changes s step.drawn s' := by
  cases step with
  | createUser context input hashed rowid epoch now =>
    obtain ⟨user, outcome, hstored⟩ := run_createUser h
    obtain rfl | ⟨roles, row, inserted, rfl, htenant, rfl, hroles, hinsert, hreplaced⟩ :=
      createUser_eq_ok hstored
    · exact .last .unchanged
    · rw [← htenant] at hroles hreplaced
      exact .last (.userCreated hroles hinsert hreplaced)
  | changePassword context userId newPassword hashed =>
    obtain ⟨passwordHash, hstored⟩ := run_changePassword h
    obtain ⟨rfl, -⟩ := Prod.mk.inj hstored
    exact .last (.userTouched fun r => ⟨rfl, rfl, Int.le_add_one le_rfl⟩)
  | deleteUser context userId =>
    obtain ⟨-, hne⟩ | ⟨hspared, rfl⟩ := deleteUser_eq_ok (run_deleteUser h)
    · exact absurd rfl hne
    · exact .last (.userDeleted hspared)
  | setRoles context userId roleIds now =>
    obtain ⟨ids, details, hstored⟩ := run_setRoles h
    obtain ⟨-, hne⟩ | ⟨roles, hroles, hspared, hreplaced⟩ := setRoles_eq_ok hstored
    · exact absurd rfl (hne details)
    · exact .last (.rolesReplaced hroles hspared hreplaced)
  | authenticate tenant username verified now =>
    obtain ⟨userId, rfl⟩ := run_authenticate h
    exact .last (.userTouched fun r => ⟨rfl, rfl, le_rfl⟩)
  | createRole context input rowid now =>
    obtain ⟨role, details, hbuiltin, hstored⟩ := run_createRole h
    obtain ⟨row, inserted, rfl, -, hname, hinsert, hgranted⟩ := createRole_eq_ok hstored
    exact .last (.roleCreated (hname ▸ ne_ownerRole_of_not_builtin hbuiltin) hinsert hgranted)
  | updateRole context roleId update now =>
    obtain ⟨patch, details, hbuiltin, -, hstored⟩ := run_updateRole h
    refine changes_of_updateRole (fun hname => ?_) hstored
    rw [hname, any_some] at hbuiltin
    exact ne_ownerRole_of_not_builtin hbuiltin rfl
  | deleteRole context roleId =>
    obtain rfl | ⟨⟨row, hrow, hsystem⟩, hunused, rfl⟩ := deleteRole_eq_ok (run_deleteRole h)
    · exact .last .unchanged
    · exact .last (.roleDeleted hrow hsystem hunused)
  | seedOwner tenant owner roleRowid userRowid epoch now =>
    obtain ⟨⟨_, outcome⟩, hseed, rfl⟩ := map_eq_some_iff.mp h
    exact changes_of_seedOwner (toOption_eq_some.mp hseed)

end

end Extrittio
