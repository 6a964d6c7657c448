import Extrittio.Accounts.Repository

/-!
What a committed operation on users and roles has done to the tables.
-/
namespace Extrittio

open Relational List Table Except

theorem rowI32_eq_ok {value v : ℤ} {column : String} (h : rowI32 value column = .ok v) : v = value := by
  unfold rowI32 at h
  split at h
  · exact (ok.inj h).symm
  · cases h

theorem decodeUser_eq_ok {row : UserRow} {user : User} (h : decodeUser row = .ok user) :
    user = row.toUser := by
  obtain ⟨id, hid, h⟩ := of_bind_ok h
  obtain ⟨version, hversion, h⟩ := of_bind_ok h
  rw [← ok.inj h, rowI32_eq_ok hid, rowI32_eq_ok hversion]

theorem decodeRole_eq_ok {row role : Role} (h : decodeRole row = .ok role) : role = row := by
  obtain ⟨id, hid, h⟩ := of_bind_ok h
  rw [← ok.inj h, rowI32_eq_ok hid]

theorem mapM_decodeRole_eq_ok {rows roles : List Role} (h : rows.mapM decodeRole = .ok roles) :
    roles = rows := by
  have hall := (forall₂_of_mapM_eq_ok h).imp fun _ _ hdecode => (decodeRole_eq_ok hdecode).symm
  exact (forall₂_eq_eq_eq ▸ hall : rows = roles).symm

namespace Accounts

variable {s s' : Accounts} {tenant : String} {userId roleId now : ℤ}

variable {row : UserRow} {a : UserRoleRow} {details : RoleDetails} {roles : List Role}
  {rowid other : ℤ} {permissions : List String}

theorem user?_eq_some :
    s.user? tenant userId = some row ↔ row ∈ s.users ∧ row.id = userId ∧ row.tenantId = tenant := by
  rw [user?, Option.filter_eq_some_iff, find?_eq_some, decide_eq_true_iff, and_assoc]

theorem role?_eq_some {row : Role} :
    s.role? tenant roleId = some row ↔ row ∈ s.roles ∧ row.id = roleId ∧ row.tenantId = tenant := by
  rw [role?, Option.filter_eq_some_iff, find?_eq_some, decide_eq_true_iff, and_assoc]

theorem mem_assignments :
    a ∈ s.assignments tenant userId ↔ a ∈ s.userRoles ∧ a.tenantId = tenant ∧ a.userId = userId := by
  simp [assignments, mem_iff]

theorem mem_holders :
    a ∈ s.holders tenant roleId ↔ a ∈ s.userRoles ∧ a.tenantId = tenant ∧ a.roleId = roleId := by
  simp [holders, mem_iff]

theorem mem_permissionsOf {permission : String} :
    permission ∈ s.permissionsOf tenant userId ↔
      ∃ a ∈ s.assignments tenant userId, permission ∈ s.grants a.roleId := by
  simp [permissionsOf]

theorem permissionsOf_congr (hassignments : s'.assignments tenant userId = s.assignments tenant userId)
    (hgrants : ∀ a ∈ s.assignments tenant userId, s'.grants a.roleId = s.grants a.roleId) :
    s'.permissionsOf tenant userId = s.permissionsOf tenant userId := by
  rw [permissionsOf, permissionsOf, hassignments, flatMap_congr hgrants]

theorem hydrate_eq_some {details : UserDetails} (h : s.hydrate tenant userId = .ok (some details)) :
    ∃ row, s.user? tenant userId = some row ∧ details.user = row.toUser ∧
      details.permissions = s.permissionsOf tenant userId := by
  unfold hydrate at h
  cases hrow : s.user? tenant userId with
  | none => simp [hrow, pure, Except.pure] at h
  | some row =>
    simp only [hrow] at h
    obtain ⟨user, huser, h⟩ := of_bind_ok h
    obtain ⟨roles, -, h⟩ := of_bind_ok h
    obtain rfl := Option.some.inj (ok.inj h)
    exact ⟨row, rfl, decodeUser_eq_ok huser, rfl⟩

theorem selectedRoles_eq_some {requested : Option (List ℤ)}
    (h : s.selectedRoles tenant requested = .ok (some roles)) :
    ∀ r ∈ roles, r ∈ s.roles ∧ r.tenantId = tenant := by
  obtain ⟨available, havailable, h⟩ := of_bind_ok h
  have hstored : ∀ r ∈ available, r ∈ s.roles ∧ r.tenantId = tenant := by
    rw [mapM_decodeRole_eq_ok havailable]
    intro r hr
    have hmem := mem_orderBy.mp hr
    rw [List.mem_filter, decide_eq_true_iff] at hmem
    exact hmem
  intro r hr
  cases requested with
  | some ids =>
    have h := ok.inj h
    split at h
    · cases h
      exact hstored r (mem_of_mem_filter hr)
    · cases h
  | none =>
    obtain ⟨viewer, hviewer, rfl⟩ := Option.map_eq_some_iff.mp (ok.inj h)
    obtain rfl := mem_singleton.mp hr
    exact hstored r (mem_of_find?_eq_some hviewer)

theorem insertUserRole_eq_ok {row : UserRoleRow} (h : s.insertUserRole row = .ok s') :
    s.user? row.tenantId row.userId ≠ none ∧ s.role? row.tenantId row.roleId ≠ none ∧
      ∃ userRoles, s.userRoles.insert? row = some userRoles ∧ s' = { s with userRoles := userRoles } := by
  unfold insertUserRole at h
  split at h
  · cases h
  · next hkeys =>
    push Not at hkeys
    split at h
    · cases h
    · next userRoles hinsert => exact ⟨hkeys.1, hkeys.2, userRoles, hinsert, (ok.inj h).symm⟩

/-- Roles assigned to a user, one statement for each. -/
structure Assigned (s s' : Accounts) (tenant : String) (userId : ℤ) (assigned : List Role)
    (now : ℤ) : Prop where
  users : s'.users = s.users
  roles : s'.roles = s.roles
  rolePermissions : s'.rolePermissions = s.rolePermissions
  userRoles : s'.userRoles.rows =
    s.userRoles.rows ++ assigned.map fun r => ⟨userId, r.id, tenant, now⟩
  keys : ∀ r ∈ assigned, s.user? tenant userId ≠ none ∧ s.role? tenant r.id ≠ none

theorem assigned_of_foldlM
    (h : roles.foldlM (fun s r => insertUserRole s ⟨userId, r.id, tenant, now⟩) s = .ok s') :
    Assigned s s' tenant userId roles now := by
  induction roles generalizing s with
  | nil =>
    cases h
    exact ⟨rfl, rfl, rfl, by simp, by simp⟩
  | cons r roles ih =>
    rw [foldlM_cons] at h
    obtain ⟨t, hinsert, h⟩ := of_bind_ok h
    obtain ⟨huser, hrole, userRoles, htable, rfl⟩ := insertUserRole_eq_ok hinsert
    have hrest := ih h
    refine ⟨hrest.users, hrest.roles, hrest.rolePermissions, ?_, ?_⟩
    · rw [hrest.userRoles, (insert?_eq_some.mp htable).2]
      simp
    · intro r' hr'
      rcases mem_cons.mp hr' with rfl | hr'
      · exact ⟨huser, hrole⟩
      · exact hrest.keys r' hr'

/-- The roles of a user are replaced and the user's version moves on. -/
structure RolesReplaced (s s' : Accounts) (tenant : String) (userId : ℤ) (assigned : List Role)
    (now : ℤ) : Prop where
  users : s'.users = s.users.update (fun r => r.tenantId = tenant && r.id = userId)
    (fun r => { r with role := primaryRole assigned, permissionVersion := r.permissionVersion + 1 })
    fun _ => rfl
  roles : s'.roles = s.roles
  rolePermissions : s'.rolePermissions = s.rolePermissions
  userRoles : s'.userRoles.rows =
    s.userRoles.rows.filter (fun a => !(a.tenantId = tenant && a.userId = userId)) ++
      assigned.map fun r => ⟨userId, r.id, tenant, now⟩
  keys : ∀ r ∈ assigned, s.user? tenant userId ≠ none ∧ s.role? tenant r.id ≠ none

theorem rolesReplaced_of_replaceRoles (h : s.replaceRoles tenant userId roles now = .ok s') :
    RolesReplaced s s' tenant userId roles now := by
  obtain ⟨assigned, hassigned, h⟩ := of_bind_ok h
  cases h
  have hspec := assigned_of_foldlM hassigned
  refine ⟨?_, hspec.roles, hspec.rolePermissions, hspec.userRoles, hspec.keys⟩
  simp only [updateUsers, hspec.users]

theorem RolesReplaced.mem_userRoles (h : RolesReplaced s s' tenant userId roles now) :
    a ∈ s'.userRoles ↔ (a ∈ s.userRoles ∧ ¬(a.tenantId = tenant ∧ a.userId = userId)) ∨
      ∃ r ∈ roles, a = ⟨userId, r.id, tenant, now⟩ := by
  rw [mem_iff, h.userRoles, mem_append, List.mem_filter, mem_map]
  refine or_congr (and_congr_right fun _ => by simp [imp_iff_not_or]) ?_
  exact ⟨fun ⟨r, hr, heq⟩ => ⟨r, hr, heq.symm⟩, fun ⟨r, hr, heq⟩ => ⟨r, hr, heq.symm⟩⟩

theorem mem_updateUsers {selected : ℤ → Bool} {f : UserRow → UserRow} {hf : ∀ r, (f r).id = r.id}
    {u' : UserRow} :
    u' ∈ (s.updateUsers tenant selected f hf).users ↔ ∃ u ∈ s.users,
      (if (decide (u.tenantId = tenant) && selected u.id) = true then f u else u) = u' := by
  rw [updateUsers, mem_update]

theorem insertUser_eq_ok (h : s.insertUser row = .ok s') :
    (∀ r ∈ s.users, r.id ≠ row.id) ∧
      ∃ users, users.rows = s.users.rows ++ [row] ∧ s' = { s with users := users } := by
  unfold insertUser at h
  split at h
  · cases h
  split at h
  · cases h
  split at h
  · cases h
  split at h
  · cases h
  · next users hinsert =>
    obtain ⟨hfree, hrows⟩ := insert?_eq_some.mp hinsert
    exact ⟨hfree, users, hrows, (ok.inj h).symm⟩

theorem createUser_eq_ok {user : NewUser} {epoch : String} {outcome : CreateUserOutcome}
    (h : s.createUser tenant user rowid epoch now = .ok (s', outcome)) :
    s' = s ∨ ∃ (roles : List Role) (row : UserRow) (inserted : Accounts),
      row.id = rowid ∧ row.tenantId = tenant ∧ row.authEpoch = epoch ∧
      (∀ r ∈ roles, r ∈ s.roles ∧ r.tenantId = tenant) ∧ s.insertUser row = .ok inserted ∧
      RolesReplaced inserted s' tenant rowid roles now := by
  obtain ⟨selected, hselected, h⟩ := of_bind_ok h
  cases selected with
  | none => exact .inl (Prod.mk.inj (ok.inj h)).1.symm
  | some roles =>
    obtain ⟨inserted, hinserted, h⟩ := of_bind_ok h
    obtain ⟨id, hid, h⟩ := of_bind_ok h
    obtain ⟨assigned, hassigned, h⟩ := of_bind_ok h
    obtain ⟨details, -, h⟩ := of_bind_ok h
    cases details with
    | none => cases h
    | some details =>
      cases h
      obtain rfl := rowI32_eq_ok hid
      exact .inr ⟨roles, _, inserted, rfl, rfl, rfl, selectedRoles_eq_some hselected, hinserted,
        rolesReplaced_of_replaceRoles hassigned⟩

/-- The check that protects the last owner, where it let an operation through. -/
def OwnerSpared (s : Accounts) (tenant : String) (userId : ℤ) (kept : ℤ → Prop) : Prop :=
  ∀ r, s.roles.rows.find? (fun r => r.tenantId = tenant && r.name = ownerRole) = some r →
    (s.holders tenant r.id).any (fun a => a.userId = userId) = true →
    ((s.holders tenant r.id).map (·.userId)).dedup.length ≤ 1 → kept r.id

theorem ownerState_eq_ok {ownerId : Option ℤ} {isOwner : Bool} {ownerCount : ℕ}
    (h : s.ownerState tenant userId = .ok (ownerId, isOwner, ownerCount)) {r : Role}
    (hr : s.roles.rows.find? (fun r => r.tenantId = tenant && r.name = ownerRole) = some r) :
    ownerId = some r.id ∧ isOwner = ((s.holders tenant r.id).any fun a => a.userId = userId) ∧
      ownerCount = ((s.holders tenant r.id).map (·.userId)).dedup.length := by
  simp only [ownerState, hr] at h
  obtain ⟨id, hid, h⟩ := of_bind_ok h
  obtain ⟨rfl, hrest⟩ := Prod.mk.inj (ok.inj h)
  cases hrest
  exact ⟨by rw [rowI32_eq_ok hid], rfl, rfl⟩

theorem deleteUser_eq_ok {outcome : DeleteUserOutcome}
    (h : s.deleteUser tenant userId = .ok (s', outcome)) :
    (s' = s ∧ outcome ≠ .deleted) ∨
      (OwnerSpared s tenant userId fun _ => False) ∧
      s' = { s with
        users := s.users.filter fun r => !(r.tenantId = tenant && r.id = userId)
        userRoles := s.userRoles.filter fun a => !(a.tenantId = tenant && a.userId = userId) } := by
  obtain ⟨details, -, h⟩ := of_bind_ok h
  cases details with
  | none =>
    cases h
    exact .inl ⟨rfl, nofun⟩
  | some details =>
    obtain ⟨⟨ownerId, isOwner, ownerCount⟩, howner, h⟩ := of_bind_ok h
    dsimp only at h
    split at h
    · cases h
      exact .inl ⟨rfl, nofun⟩
    · next hguard =>
      cases h
      refine .inr ⟨fun r hr hholds hfew => hguard ?_, rfl⟩
      obtain ⟨-, rfl, rfl⟩ := ownerState_eq_ok howner hr
      exact ⟨hholds, hfew⟩

theorem setRoles_eq_ok {roleIds : List ℤ} {outcome : SetUserRolesOutcome}
    (h : s.setRoles tenant userId roleIds now = .ok (s', outcome)) :
    (s' = s ∧ ∀ details, outcome ≠ .updated details) ∨ ∃ roles : List Role,
      (∀ r ∈ roles, r ∈ s.roles ∧ r.tenantId = tenant) ∧
      (OwnerSpared s tenant userId fun id => ∃ r ∈ roles, r.id = id) ∧
      RolesReplaced s s' tenant userId roles now := by
  obtain ⟨details, -, h⟩ := of_bind_ok h
  cases details with
  | none =>
    cases h
    exact .inl ⟨rfl, nofun⟩
  | some details =>
    obtain ⟨selected, hselected, h⟩ := of_bind_ok h
    cases selected with
    | none =>
      cases h
      exact .inl ⟨rfl, nofun⟩
    | some roles =>
      obtain ⟨⟨ownerId, isOwner, ownerCount⟩, howner, h⟩ := of_bind_ok h
      dsimp only at h
      split at h
      · cases h
        exact .inl ⟨rfl, nofun⟩
      · next hguard =>
        obtain ⟨replaced, hreplaced, h⟩ := of_bind_ok h
        obtain ⟨after, -, h⟩ := of_bind_ok h
        cases after with
        | none => cases h
        | some after =>
          cases h
          refine .inr ⟨roles, selectedRoles_eq_some hselected, fun r hr hholds hfew => ?_,
            rolesReplaced_of_replaceRoles hreplaced⟩
          obtain ⟨rfl, rfl, rfl⟩ := ownerState_eq_ok howner hr
          by_contra hlost
          refine hguard ⟨hholds, hfew, ?_⟩
          push Not at hlost
          simpa using hlost

theorem roleDetails_eq_some (h : s.roleDetails tenant roleId = .ok (some details)) :
    s.role? tenant roleId = some details.role ∧
      details.userCount = (s.holders tenant roleId).length := by
  unfold roleDetails at h
  cases hrow : s.role? tenant roleId with
  | none => simp [hrow, pure, Except.pure] at h
  | some row =>
    simp only [hrow] at h
    obtain ⟨role, hrole, h⟩ := of_bind_ok h
    obtain rfl := Option.some.inj (ok.inj h)
    exact ⟨by rw [decodeRole_eq_ok hrole], rfl⟩

theorem insertRolePermission_eq_ok {row : RolePermissionRow}
    (h : s.insertRolePermission row = .ok s') :
    ∃ rolePermissions, s.rolePermissions.insert? row = some rolePermissions ∧
      s' = { s with rolePermissions := rolePermissions } := by
  unfold insertRolePermission at h
  split at h
  · cases h
  · split at h
    · cases h
    · next rolePermissions hinsert => exact ⟨rolePermissions, hinsert, (ok.inj h).symm⟩

/-- Permissions granted to a role, one statement for each. -/
structure Granted (s s' : Accounts) (roleId : ℤ) (permissions : List String) : Prop where
  users : s'.users = s.users
  roles : s'.roles = s.roles
  userRoles : s'.userRoles = s.userRoles
  rolePermissions : s'.rolePermissions.rows =
    s.rolePermissions.rows ++ permissions.map fun permission => ⟨roleId, permission⟩

theorem granted_of_insertRolePermissions
    (h : s.insertRolePermissions roleId permissions = .ok s') : Granted s s' roleId permissions := by
  unfold insertRolePermissions at h
  induction permissions generalizing s with
  | nil =>
    cases h
    exact ⟨rfl, rfl, rfl, by simp⟩
  | cons permission permissions ih =>
    rw [foldlM_cons] at h
    obtain ⟨t, hinsert, h⟩ := of_bind_ok h
    obtain ⟨rolePermissions, htable, rfl⟩ := insertRolePermission_eq_ok hinsert
    have hrest := ih h
    refine ⟨hrest.users, hrest.roles, hrest.userRoles, ?_⟩
    rw [hrest.rolePermissions, (insert?_eq_some.mp htable).2]
    simp

theorem grants_of_filter
    (h : s'.rolePermissions = s.rolePermissions.filter fun g => g.roleId ≠ roleId)
    (hne : other ≠ roleId) : s'.grants other = s.grants other := by
  simp only [grants, h, rows_filter, filter_filter]
  congr 2
  funext g
  by_cases hother : g.roleId = other
  · simp [hother, hne]
  · simp [hother]

theorem Granted.grants_of_ne
    (h : Granted s s' roleId permissions) (hne : other ≠ roleId) : s'.grants other = s.grants other := by
  unfold grants
  rw [h.rolePermissions, filter_append, map_append]
  have hnone : (permissions.map fun permission => (⟨roleId, permission⟩ : RolePermissionRow)).filter
      (fun g => g.roleId = other) = [] := by
    simp [Ne.symm hne]
  rw [hnone, map_nil, append_nil]

theorem insertRole_eq_ok {row : Role} (h : s.insertRole row = .ok s') :
    (∀ r ∈ s.roles, r.id ≠ row.id ∧ ¬(r.tenantId = row.tenantId ∧ r.name = row.name)) ∧
      ∃ roles, roles.rows = s.roles.rows ++ [row] ∧ s' = { s with roles := roles } := by
  unfold insertRole at h
  split at h
  · cases h
  · next hname =>
    split at h
    · cases h
    · next roles hinsert =>
      obtain ⟨hfree, hrows⟩ := insert?_eq_some.mp hinsert
      refine ⟨fun r hr => ⟨hfree r hr, fun hsame => hname ?_⟩, roles, hrows, (ok.inj h).symm⟩
      exact any_eq_true.mpr ⟨r, hr, by simp [hsame]⟩

theorem createRole_eq_ok {role : NewRole}
    (h : s.createRole tenant role rowid now = .ok (s', details)) :
    ∃ (row : Role) (inserted : Accounts), row.id = rowid ∧ row.tenantId = tenant ∧
      row.name = role.name ∧ s.insertRole row = .ok inserted ∧
      Granted inserted s' rowid role.permissions := by
  obtain ⟨inserted, hinserted, h⟩ := of_bind_ok h
  obtain ⟨id, hid, h⟩ := of_bind_ok h
  obtain ⟨granted, hgranted, h⟩ := of_bind_ok h
  obtain ⟨after, -, h⟩ := of_bind_ok h
  cases after with
  | none => cases h
  | some after =>
    cases h
    obtain rfl := rowI32_eq_ok hid
    exact ⟨_, inserted, rfl, rfl, rfl, hinserted, granted_of_insertRolePermissions hgranted⟩

/-- The permissions of a role are replaced, and the versions of those who hold it move on. -/
structure PermissionsReplaced (s s' : Accounts) (tenant : String) (roleId : ℤ) : Prop where
  users : s'.users = s.users.update
    (fun r => r.tenantId = tenant && (s.holders tenant roleId).any fun a => a.userId = r.id)
    (fun r => { r with permissionVersion := r.permissionVersion + 1 }) fun _ => rfl
  roles : s'.roles = s.roles
  userRoles : s'.userRoles = s.userRoles
  grants : ∀ other, other ≠ roleId → s'.grants other = s.grants other

theorem permissionsReplaced_of_replacePermissions
    (h : s.replacePermissions tenant roleId permissions = .ok s') :
    PermissionsReplaced s s' tenant roleId := by
  obtain ⟨granted, hgranted, h⟩ := of_bind_ok h
  have hspec := granted_of_insertRolePermissions hgranted
  cases h
  refine ⟨?_, hspec.roles, hspec.userRoles, fun other hne => ?_⟩
  · simp only [updateUsers, holders, hspec.users, hspec.userRoles]
  · exact (hspec.grants_of_ne hne).trans (grants_of_filter rfl hne)

def rewriteRole (patch : RolePatch) (updatedAt : ℤ) (r : Role) : Role :=
  { r with
    name := patch.name.getD r.name
    description := patch.description.getD r.description
    updatedAt := updatedAt }

theorem mem_updateRoleRow {f : Role → Role} {hf : ∀ r, (f r).id = r.id} {r' : Role} :
    r' ∈ (s.updateRoleRow tenant roleId f hf).roles ↔ ∃ r ∈ s.roles,
      (if (decide (r.tenantId = tenant) && decide (r.id = roleId)) = true then f r else r) = r' := by
  rw [updateRoleRow, mem_update]

theorem updateRoleRow_comp {f g : Role → Role} {hf : ∀ r, (f r).id = r.id} {hg : ∀ r, (g r).id = r.id}
    (htenant : ∀ r, (f r).tenantId = r.tenantId) :
    (s.updateRoleRow tenant roleId f hf).updateRoleRow tenant roleId g hg =
      s.updateRoleRow tenant roleId (fun r => g (f r)) fun r => (hg (f r)).trans (hf r) := by
  unfold updateRoleRow
  rw [update_comp]
  intro r
  rw [hf, htenant]

theorem patchName_eq_ok {name : Option String} (h : s.patchName tenant roleId name = .ok s') :
    (∀ text, name = some text → ∀ r ∈ s.roles, r.tenantId = tenant → r.name = text → r.id = roleId) ∧
      s' = s.updateRoleRow tenant roleId (fun r => { r with name := name.getD r.name }) fun _ => rfl := by
  cases name with
  | none =>
    cases h
    refine ⟨nofun, ?_⟩
    simp [updateRoleRow, update]
  | some name =>
    have h : s.renameRole tenant roleId name = .ok s' := h
    unfold renameRole at h
    split at h
    · cases h
    · next hfree =>
      refine ⟨?_, (ok.inj h).symm⟩
      rintro _ ⟨⟩ r hr htenant hname
      by_contra hother
      exact hfree (any_eq_true.mpr ⟨r, hr, by simp [htenant, hname, hother]⟩)

theorem patchDescription_eq (description : Option (Option String)) :
    s.patchDescription tenant roleId description = s.updateRoleRow tenant roleId
      (fun r => { r with description := description.getD r.description }) fun _ => rfl := by
  cases description with
  | none => simp [patchDescription, updateRoleRow, update]
  | some description => rfl

theorem updateRole_eq_ok {patch : RolePatch} {outcome : UpdateRoleOutcome}
    (h : s.updateRole tenant roleId patch now = .ok (s', outcome)) :
    (s' = s ∧ ∀ details, outcome ≠ .updated details) ∨
      (∃ row, s.role? tenant roleId = some row ∧ row.isSystem = false) ∧
      (∀ name, patch.name = some name →
        ∀ r ∈ s.roles, r.tenantId = tenant → r.name = name → r.id = roleId) ∧
      ∃ (updatedAt : ℤ) (rewritten : Accounts),
        rewritten = s.updateRoleRow tenant roleId (rewriteRole patch updatedAt) (fun _ => rfl) ∧
        (patch.permissions = none ∧ s' = rewritten ∨
          patch.permissions ≠ none ∧ PermissionsReplaced rewritten s' tenant roleId) := by
  obtain ⟨details, hdetails, h⟩ := of_bind_ok h
  cases details with
  | none =>
    cases h
    exact .inl ⟨rfl, nofun⟩
  | some current =>
    have hrow := (roleDetails_eq_some hdetails).1
    dsimp only at h
    split at h
    · cases h
      exact .inl ⟨rfl, nofun⟩
    · next hsystem =>
      split at h
      · cases h
      · obtain ⟨named, hnamed, h⟩ := of_bind_ok h
        obtain ⟨granted, hgranted, h⟩ := of_bind_ok h
        obtain ⟨after, -, h⟩ := of_bind_ok h
        cases after with
        | none => cases h
        | some after =>
          cases h
          obtain ⟨hfree, rfl⟩ := patchName_eq_ok hnamed
          rw [patchDescription_eq, updateRoleRow_comp (by intro r; rfl),
            updateRoleRow_comp (by intro r; rfl)] at hgranted
          refine .inr ⟨⟨_, hrow, by simpa using hsystem⟩, ?_, max now (current.role.updatedAt + 1), _,
            rfl, ?_⟩
          · intro name hname r hr htenant hsame
            by_contra hother
            -- a row of another role is the same after the first statement
            refine hother (hfree name hname r ?_ htenant hsame)
            exact mem_updateRoleRow.mpr ⟨r, hr, by simp [hother]⟩
          · cases hpermissions : patch.permissions with
            | none =>
              rw [hpermissions] at hgranted
              exact .inl ⟨rfl, (ok.inj hgranted).symm⟩
            | some permissions =>
              rw [hpermissions] at hgranted
              exact .inr ⟨nofun, permissionsReplaced_of_replacePermissions hgranted⟩

theorem deleteRole_eq_ok {outcome : DeleteRoleOutcome}
    (h : s.deleteRole tenant roleId = .ok (s', outcome)) :
    s' = s ∨ (∃ row, s.role? tenant roleId = some row ∧ row.isSystem = false) ∧
      s.holders tenant roleId = [] ∧
      s' = { s with
        roles := s.roles.filter fun r => !(r.tenantId = tenant && r.id = roleId)
        rolePermissions := s.rolePermissions.filter fun g => g.roleId ≠ roleId
        userRoles := s.userRoles.filter fun a => !(a.tenantId = tenant && a.roleId = roleId) } := by
  obtain ⟨details, hdetails, h⟩ := of_bind_ok h
  cases details with
  | none => exact .inl (Prod.mk.inj (ok.inj h)).1.symm
  | some current =>
    obtain ⟨hrow, hcount⟩ := roleDetails_eq_some hdetails
    dsimp only at h
    split at h
    · exact .inl (Prod.mk.inj (ok.inj h)).1.symm
    · next hsystem =>
      split at h
      · exact .inl (Prod.mk.inj (ok.inj h)).1.symm
      · next hused =>
        rw [hcount, not_lt, Nat.le_zero, length_eq_zero_iff] at hused
        exact .inr ⟨⟨_, hrow, by simpa using hsystem⟩, hused, (Prod.mk.inj (ok.inj h)).1.symm⟩

end Accounts

end Extrittio
