import Extrittio.Accounts.Owners

/-!
Sessions. A session carries the permission version and the epoch of its user; what would change
the permissions of the user moves the version on, and an epoch is never drawn twice. So a session
that still resolves has the permissions it was issued with.
-/
namespace Extrittio

open Relational Transition List Table

/-- What the host puts into the token of a user who has logged in. -/
structure Session where
  tenantId : String
  userId : ℤ
  permissionVersion : ℤ
  authEpoch : String
  deriving DecidableEq

namespace Session

def of (user : AuthenticatedUser) : Session :=
  ⟨user.tenantId, user.id, user.permissionVersion, user.authEpoch⟩

def resolve (session : Session) (s : Accounts) : Except ApplicationError AuthenticatedUser :=
  UserApplication.resolveSession s session.tenantId session.userId session.permissionVersion
    session.authEpoch

/-- The row is that of the user the session was issued to. -/
structure Names (session : Session) (row : UserRow) : Prop where
  id : row.id = session.userId
  tenant : row.tenantId = session.tenantId
  epoch : row.authEpoch = session.authEpoch

def Issued (session : Session) (s : Accounts) : Prop :=
  ∃ row ∈ s.users, session.Names row ∧ session.permissionVersion = row.permissionVersion

/-- The committed steps that end a session: a new password or new roles for its user, new
permissions for one of the user's roles, and the deletion of the user. -/
def Revokes (session : Session) (s : Accounts) (step : AccountStep) : Prop :=
  step.run s ≠ none ∧
    match step with
    | .changePassword context userId _ _ | .setRoles context userId _ _ | .deleteUser context userId =>
      context.tenantId = session.tenantId ∧ userId = session.userId
    | .updateRole _ roleId update _ =>
      update.permissions ≠ none ∧ ∃ a ∈ s.assignments session.tenantId session.userId, a.roleId = roleId
    | _ => False

end Session

namespace Accounts

variable {s s' : Accounts} {tenant : String} {userId roleId now : ℤ} {u u' : UserRow}

theorem assignments_of_filter {p : UserRoleRow → Bool}
    (h : s'.userRoles.rows = s.userRoles.rows.filter p)
    (hkept : ∀ a ∈ s.assignments tenant userId, p a) :
    s'.assignments tenant userId = s.assignments tenant userId := by
  unfold assignments
  rw [h, filter_filter]
  refine filter_congr fun a ha => ?_
  by_cases hown : a.tenantId = tenant ∧ a.userId = userId
  · simp [hown, hkept a (mem_assignments.mpr ⟨ha, hown⟩)]
  · rw [not_and_or] at hown
    rcases hown with hother | hother <;> simp [hother]

theorem assignments_congr (h : s'.userRoles = s.userRoles) (tenant : String) (userId : ℤ) :
    s'.assignments tenant userId = s.assignments tenant userId := by
  rw [assignments, assignments, h]

variable {roles : List Role} {row : Role} {drawn : Option String}

theorem RolesReplaced.assignments {other : String} {otherId : ℤ}
    (h : RolesReplaced s s' tenant userId roles now) (hother : ¬(other = tenant ∧ otherId = userId)) :
    s'.assignments other otherId = s.assignments other otherId := by
  have hold : s'.assignments other otherId =
      Accounts.assignments { s with
        userRoles := s.userRoles.filter fun a => !(a.tenantId = tenant && a.userId = userId) }
        other otherId := by
    have hnone : (roles.map fun r => (⟨userId, r.id, tenant, now⟩ : UserRoleRow)).filter
        (fun a => a.tenantId = other && a.userId = otherId) = [] := by
      rw [filter_eq_nil_iff]
      intro a ha
      obtain ⟨r, -, rfl⟩ := mem_map.mp ha
      simpa using fun htenant hid => hother ⟨htenant.symm, hid.symm⟩
    simp only [Accounts.assignments, h.userRoles, filter_append, hnone, append_nil,
      Table.rows_filter]
  rw [hold]
  refine assignments_of_filter rfl fun a ha => ?_
  obtain ⟨-, rfl, rfl⟩ := mem_assignments.mp ha
  simpa [imp_iff_not_or, not_and_or] using hother

theorem Sound.assigned_tenant (h : Sound s) {a : UserRoleRow} (ha : a ∈ s.userRoles)
    (hrow : s.role? tenant a.roleId = some row) : a.tenantId = tenant := by
  obtain ⟨r, hr, hid, htenant⟩ := h.roles a ha
  obtain ⟨hmem, hrowId, hrowTenant⟩ := role?_eq_some.mp hrow
  rw [← htenant, s.roles.eq_of_key_eq hr hmem (hid.trans hrowId.symm), hrowTenant]

/-- A row of the later tables comes from a row of the earlier ones: the same user under the same
epoch, whose permissions are as before unless the version moved on. -/
structure Descends (s : Accounts) (u : UserRow) (s' : Accounts) (u' : UserRow) : Prop where
  id : u'.id = u.id
  tenant : u'.tenantId = u.tenantId
  epoch : u'.authEpoch = u.authEpoch
  version : u.permissionVersion ≤ u'.permissionVersion
  permissions : u'.permissionVersion = u.permissionVersion →
    s'.permissionsOf u.tenantId u.id = s.permissionsOf u.tenantId u.id

theorem Descends.refl (s : Accounts) (u : UserRow) : Descends s u s u :=
  ⟨rfl, rfl, rfl, le_rfl, fun _ => rfl⟩

theorem Descends.trans {s'' : Accounts} {u'' : UserRow} (h : Descends s u s' u')
    (h' : Descends s' u' s'' u'') : Descends s u s'' u'' where
  id := h'.id.trans h.id
  tenant := h'.tenant.trans h.tenant
  epoch := h'.epoch.trans h.epoch
  version := h.version.trans h'.version
  permissions := by
    intro hsame
    have hfirst := h.version
    have hsecond := h'.version
    have hlater := h'.permissions (by omega)
    rw [h.tenant, h.id] at hlater
    exact hlater.trans (h.permissions (by omega))

theorem Descends.same (hassignments : s'.assignments u.tenantId u.id = s.assignments u.tenantId u.id)
    (hgrants : ∀ a ∈ s.assignments u.tenantId u.id, s'.grants a.roleId = s.grants a.roleId) :
    Descends s u s' u :=
  ⟨rfl, rfl, rfl, le_rfl, fun _ => permissionsOf_congr hassignments hgrants⟩

/-- Every later row comes from an earlier one or has the epoch that was drawn. -/
def Evolves (s : Accounts) (drawn : Option String) (s' : Accounts) : Prop :=
  ∀ u' ∈ s'.users, drawn = some u'.authEpoch ∨ ∃ u ∈ s.users, Descends s u s' u'

theorem Evolves.trans {t : Accounts} (h : Evolves s none t)
    (h' : Evolves t drawn s') : Evolves s drawn s' := by
  intro u'' hu''
  obtain hdrawn | ⟨u', hu', hlater⟩ := h' u'' hu''
  · exact .inl hdrawn
  · obtain hdrawn | ⟨u, hu, hearlier⟩ := h u' hu'
    · cases hdrawn
    · exact .inr ⟨u, hu, hearlier.trans hlater⟩

theorem evolves_of_rolesReplaced
    (h : RolesReplaced s s' tenant userId roles now) : Evolves s none s' := by
  intro u' hu'
  rw [h.users, mem_update] at hu'
  obtain ⟨u, hu, rfl⟩ := hu'
  refine .inr ⟨u, hu, ?_⟩
  split
  · exact ⟨rfl, rfl, rfl, Int.le_add_one le_rfl, fun hsame => absurd hsame (by simp)⟩
  · next hother =>
    exact .same (h.assignments (by simpa using hother)) fun a _ => grants_congr h.rolePermissions _

theorem evolves_of_permissionsReplaced (hsound : Sound s)
    (hrow : s.role? tenant roleId = some row) (h : PermissionsReplaced s s' tenant roleId) :
    Evolves s none s' := by
  intro u' hu'
  rw [h.users, mem_update] at hu'
  obtain ⟨u, hu, rfl⟩ := hu'
  refine .inr ⟨u, hu, ?_⟩
  split
  · exact ⟨rfl, rfl, rfl, Int.le_add_one le_rfl, fun hsame => absurd hsame (by simp)⟩
  · next hother =>
    refine .same (assignments_congr h.userRoles _ _) fun a ha => h.grants _ ?_
    -- a user who holds the role is one of those whose version moves on
    rintro rfl
    obtain ⟨hmem, htenant, huser⟩ := mem_assignments.mp ha
    have hrole := hsound.assigned_tenant hmem hrow
    refine hother ?_
    rw [Bool.and_eq_true, decide_eq_true_iff, any_eq_true]
    exact ⟨htenant.symm.trans hrole, a, mem_holders.mpr ⟨hmem, hrole, rfl⟩, by simp [huser]⟩

theorem Change.evolves (hchange : Change s drawn s') (hsound : Sound s) :
    Evolves s drawn s' := by
  intro u' hu'
  cases hchange with
  | unchanged => exact .inr ⟨u', hu', .refl s u'⟩
  | @userCreated row inserted _ roles now hroles hinsert hreplaced =>
    obtain hnone | ⟨v, hv, hlater⟩ := evolves_of_rolesReplaced hreplaced u' hu'
    · cases hnone
    obtain hold | rfl := (mem_users_of_insertUser hinsert).mp hv
    · obtain ⟨-, users, -, rfl⟩ := insertUser_eq_ok hinsert
      have hearlier : Descends s v { s with users := users } v := .same rfl fun _ _ => rfl
      exact .inr ⟨v, hold, hearlier.trans hlater⟩
    · exact .inl (by rw [hlater.epoch])
  | @userTouched tenant userId f hf hkept =>
    obtain ⟨u, hu, rfl⟩ := mem_updateUsers.mp hu'
    refine .inr ⟨u, hu, ?_⟩
    split
    · obtain ⟨htenant, hepoch, hversion⟩ := hkept u
      exact ⟨hf u, htenant, hepoch, hversion, fun _ => rfl⟩
    · exact .same rfl fun _ _ => rfl
  | userDeleted =>
    obtain ⟨hu, hother⟩ := Table.mem_filter.mp hu'
    refine .inr ⟨u', hu, .same (assignments_of_filter rfl fun a ha => ?_) fun _ _ => rfl⟩
    obtain ⟨-, htenant, hid⟩ := mem_assignments.mp ha
    rw [htenant, hid]
    exact hother
  | rolesReplaced _ _ hreplaced => exact evolves_of_rolesReplaced hreplaced u' hu'
  | roleCreated _ hinsert hgranted =>
    obtain ⟨hfree, roles, -, rfl⟩ := insertRole_eq_ok hinsert
    rw [hgranted.users] at hu'
    refine .inr ⟨u', hu', .same (assignments_congr hgranted.userRoles _ _) fun a ha => ?_⟩
    obtain ⟨r, hr, hid, -⟩ := hsound.roles a (mem_assignments.mp ha).1
    exact hgranted.grants_of_ne (hid ▸ (hfree r hr).1)
  | roleRewritten => exact .inr ⟨u', hu', .same rfl fun _ _ => rfl⟩
  | permissionsReplaced hrow _ hreplaced =>
    exact evolves_of_permissionsReplaced hsound hrow hreplaced u' hu'
  | @roleDeleted tenant roleId _ hrow _ hunused =>
    -- nobody holds the role
    have hne : ∀ a ∈ s.userRoles, a.roleId ≠ roleId := by
      rintro a ha rfl
      have hheld := mem_holders.mpr ⟨ha, hsound.assigned_tenant ha hrow, rfl⟩
      rw [hunused] at hheld
      cases hheld
    refine .inr ⟨u', hu', .same (assignments_of_filter rfl fun a ha => ?_) fun a ha => ?_⟩
    · simp [hne a (mem_assignments.mp ha).1]
    · exact grants_of_filter rfl (hne a (mem_assignments.mp ha).1)
  | roleSeeded hempty hseed =>
    rw [(seedRole_eq_ok hseed).1, mem_iff, hempty] at hu'
    cases hu'
  | grantsSeeded hempty =>
    have hu' : u' ∈ s.users := hu'
    rw [mem_iff, hempty] at hu'
    cases hu'
  | ownerSeeded hempty hinsert hassign =>
    obtain ⟨-, -, userRoles, -, rfl⟩ := insertUserRole_eq_ok hassign
    obtain hold | rfl := (mem_users_of_insertUser hinsert).mp hu'
    · rw [mem_iff, hempty] at hold
      cases hold
    · exact .inl rfl

theorem Changes.evolves (h : Changes s drawn s') (hsound : Sound s) :
    Evolves s drawn s' := by
  induction h with
  | last h => exact h.evolves hsound
  | cons h _ _ ih => exact (h.evolves hsound).trans (ih (hsound.change h))

theorem eq_of_selected {p : UserRow → Bool} {f : UserRow → UserRow}
    (hu' : ∃ v ∈ s.users, (if p v = true then f v else v) = u') (hf : ∀ r, (f r).id = r.id)
    (hu : u ∈ s.users) (hid : u'.id = u.id) (hselected : p u) : u' = f u := by
  obtain ⟨v, hv, rfl⟩ := hu'
  have hkey : v.id = u.id := by
    split at hid
    · exact (hf v).symm.trans hid
    · exact hid
  obtain rfl := s.users.eq_of_key_eq hv hu hkey
  rw [if_pos hselected]

/-- A step that revokes a session moves the version of the session's user on, if it does not
delete the user. -/
theorem version_lt_of_revokes {session : Session} {step : AccountStep} (hsound : Sound s)
    (hrevokes : session.Revokes s step) (hrun : step.run s = some s') (hu : u ∈ s.users)
    (hnames : session.Names u) (hu' : u' ∈ s'.users) (hid : u'.id = u.id)
    (htenant : u'.tenantId = u.tenantId) : u.permissionVersion < u'.permissionVersion := by
  obtain ⟨-, hstep⟩ := hrevokes
  cases step with
  | changePassword context userId newPassword hashed =>
    obtain ⟨hcontext, rfl⟩ := hstep
    obtain ⟨passwordHash, hstored⟩ := run_changePassword hrun
    obtain ⟨rfl, -⟩ := Prod.mk.inj hstored
    rw [eq_of_selected (mem_updateUsers.mp hu') (fun _ => rfl) hu hid
      (by simp [hnames.id, hnames.tenant, hcontext])]
    exact Int.lt_succ _
  | setRoles context userId roleIds now =>
    obtain ⟨hcontext, rfl⟩ := hstep
    obtain ⟨ids, details, hstored⟩ := run_setRoles hrun
    obtain ⟨-, hne⟩ | ⟨roles, -, -, hreplaced⟩ := setRoles_eq_ok hstored
    · exact absurd rfl (hne details)
    · rw [hreplaced.users, mem_update] at hu'
      rw [eq_of_selected hu' (fun _ => rfl) hu hid (by simp [hnames.id, hnames.tenant, hcontext])]
      exact Int.lt_succ _
  | deleteUser context userId =>
    obtain ⟨hcontext, rfl⟩ := hstep
    obtain ⟨-, hne⟩ | ⟨-, rfl⟩ := deleteUser_eq_ok (run_deleteUser hrun)
    · exact absurd rfl hne
    · have hother := (Table.mem_filter.mp hu').2
      simp [hid, htenant, hnames.id, hnames.tenant, hcontext] at hother
  | updateRole context roleId update now =>
    obtain ⟨hgiven, a, ha, rfl⟩ := hstep
    obtain ⟨hmem, haTenant, haUser⟩ := mem_assignments.mp ha
    obtain ⟨patch, details, -, hsame, hstored⟩ := run_updateRole hrun
    obtain ⟨-, hne⟩ | ⟨⟨row, hrow, -⟩, -, updatedAt, _, rfl, hrest⟩ := updateRole_eq_ok hstored
    · exact absurd rfl (hne details)
    obtain ⟨hnone, -⟩ | ⟨-, hreplaced⟩ := hrest
    · exact absurd (hsame.mp hnone) hgiven
    · have hrole := hsound.assigned_tenant hmem hrow
      have hholder := mem_holders.mpr ⟨hmem, hrole, rfl⟩
      rw [hreplaced.users, mem_update] at hu'
      rw [eq_of_selected hu' (fun _ => rfl) hu hid ?_]
      · exact Int.lt_succ _
      · rw [Bool.and_eq_true, decide_eq_true_iff, any_eq_true]
        exact ⟨by rw [hnames.tenant, ← haTenant, hrole], a, hholder, by simp [hnames.id, haUser]⟩
  | createUser | authenticate | createRole | deleteRole | seedOwner => exact hstep.elim

end Accounts

namespace AccountSystem

open Accounts

variable {m m' : AccountSystem} {session : Session} {step : AccountStep} {permissions : List String}
  {now : ℤ}

variable {s' s : Accounts} {u' : UserRow} {steps : List AccountStep} {user : AuthenticatedUser}

theorem apply_eq_of_run (h : step.run m.accounts = some s') :
    m.apply step = ⟨s', step.drawn.toList ++ m.epochs⟩ := by
  rw [apply, h]

theorem epochs_apply {epoch : String} (h : epoch ∈ m.epochs) (step : AccountStep) :
    epoch ∈ (m.apply step).epochs := by
  unfold apply
  split
  · exact h
  · exact mem_append_right _ h

/-- Every row after a step comes from a row before it, or has an epoch that no user had. -/
theorem evolves_apply (hsound : Sound m.accounts) (henabled : m.enabled step)
    (hu' : u' ∈ (m.apply step).accounts.users) :
    u'.authEpoch ∉ m.epochs ∧ u'.authEpoch ∈ (m.apply step).epochs ∨
      ∃ u ∈ m.accounts.users, Descends m.accounts u (m.apply step).accounts u' := by
  cases hrun : step.run m.accounts with
  | none =>
    have hsame : m.apply step = m := by rw [apply, hrun]
    rw [hsame] at hu' ⊢
    exact .inr ⟨u', hu', .refl m.accounts u'⟩
  | some s' =>
    rw [apply_eq_of_run hrun] at hu' ⊢
    obtain hdrawn | hdescends := (changes_of_run hrun).evolves hsound u' hu'
    · exact .inl ⟨henabled (by simp [hrun]) _ hdrawn, mem_append.mpr (.inl (by simp [hdrawn]))⟩
    · exact .inr hdescends

def Recorded (m : AccountSystem) : Prop := ∀ u ∈ m.accounts.users, u.authEpoch ∈ m.epochs

theorem Recorded.apply (h : Recorded m) (hsound : Sound m.accounts) (henabled : m.enabled step) :
    Recorded (m.apply step) := by
  intro u' hu'
  obtain ⟨-, hdrawn⟩ | ⟨u, hu, hdescends⟩ := evolves_apply hsound henabled hu'
  · exact hdrawn
  · exact epochs_apply (hdescends.epoch ▸ h u hu) step

theorem recorded_run (h : machine.Run (start now) steps m) :
    Sound m.accounts ∧ Recorded m := by
  refine h.invariant (I := fun m => Sound m.accounts ∧ Recorded m) ?_
    ⟨sound_migrated, fun u hu => absurd hu (not_mem_empty u)⟩
  intro m step hm henabled
  exact ⟨sound_apply hm.1 step, hm.2.apply hm.1 henabled⟩

/-- What is known of a session once it is issued: the user it was issued to has the permissions
of that moment, unless the version moved on. -/
structure Tracked (session : Session) (permissions : List String) (m : AccountSystem) : Prop where
  recorded : session.authEpoch ∈ m.epochs
  users : ∀ u ∈ m.accounts.users, session.Names u → session.permissionVersion ≤ u.permissionVersion ∧
    (u.permissionVersion = session.permissionVersion →
      m.accounts.permissionsOf session.tenantId session.userId = permissions)

/-- The session's user is gone or has moved on to a later version. -/
structure Revoked (session : Session) (m : AccountSystem) : Prop where
  recorded : session.authEpoch ∈ m.epochs
  users : ∀ u ∈ m.accounts.users, session.Names u → session.permissionVersion < u.permissionVersion

/-- The user of a session is the same before and after a step: a user who is created has another
epoch, even under the same id. -/
theorem exists_descends (hsound : Sound m.accounts) (henabled : m.enabled step)
    (hrecorded : session.authEpoch ∈ m.epochs) (hu' : u' ∈ (m.apply step).accounts.users)
    (hnames : session.Names u') :
    ∃ u ∈ m.accounts.users, session.Names u ∧ Descends m.accounts u (m.apply step).accounts u' := by
  obtain ⟨hfresh, -⟩ | ⟨u, hu, hdescends⟩ := evolves_apply hsound henabled hu'
  · exact absurd (hnames.epoch ▸ hrecorded) hfresh
  · refine ⟨u, hu, ⟨?_, ?_, ?_⟩, hdescends⟩
    · exact hdescends.id.symm.trans hnames.id
    · exact hdescends.tenant.symm.trans hnames.tenant
    · exact hdescends.epoch.symm.trans hnames.epoch

theorem Tracked.apply (h : Tracked session permissions m) (hsound : Sound m.accounts)
    (henabled : m.enabled step) : Tracked session permissions (m.apply step) where
  recorded := epochs_apply h.recorded step
  users := by
    intro u' hu' hnames
    obtain ⟨u, hu, hnames, hdescends⟩ := exists_descends hsound henabled h.recorded hu' hnames
    obtain ⟨hversion, hpermissions⟩ := h.users u hu hnames
    have hlater := hdescends.version
    refine ⟨hversion.trans hlater, fun hsame => ?_⟩
    rw [← hpermissions (by omega), ← hnames.tenant, ← hnames.id]
    exact hdescends.permissions (by omega)

theorem Revoked.apply (h : Revoked session m) (hsound : Sound m.accounts)
    (henabled : m.enabled step) : Revoked session (m.apply step) where
  recorded := epochs_apply h.recorded step
  users := by
    intro u' hu' hnames
    obtain ⟨u, hu, hnames, hdescends⟩ := exists_descends hsound henabled h.recorded hu' hnames
    exact (h.users u hu hnames).trans_le hdescends.version

theorem Tracked.revoke (h : Tracked session permissions m) (hsound : Sound m.accounts)
    (henabled : m.enabled step) (hrevokes : session.Revokes m.accounts step) :
    Revoked session (m.apply step) where
  recorded := epochs_apply h.recorded step
  users := by
    intro u' hu' hnames
    obtain ⟨u, hu, hnames, hdescends⟩ := exists_descends hsound henabled h.recorded hu' hnames
    obtain ⟨s', hrun⟩ := Option.ne_none_iff_exists'.mp hrevokes.1
    rw [apply_eq_of_run hrun] at hu'
    exact (h.users u hu hnames).1.trans_lt
      (version_lt_of_revokes hsound hrevokes hrun hu hnames hu' hdescends.id hdescends.tenant)

theorem tracked_run (hrun : machine.Run m steps m')
    (h : Sound m.accounts ∧ Tracked session permissions m) :
    Sound m'.accounts ∧ Tracked session permissions m' := by
  refine hrun.invariant (I := fun m => Sound m.accounts ∧ Tracked session permissions m) ?_ h
  intro m step hm henabled
  exact ⟨sound_apply hm.1 step, hm.2.apply hm.1 henabled⟩

theorem revoked_run (hrun : machine.Run m steps m')
    (h : Sound m.accounts ∧ Revoked session m) : Sound m'.accounts ∧ Revoked session m' := by
  refine hrun.invariant (I := fun m => Sound m.accounts ∧ Revoked session m) ?_ h
  intro m step hm henabled
  exact ⟨sound_apply hm.1 step, hm.2.apply hm.1 henabled⟩

theorem tracked_of_issued (hrecorded : Recorded m) (h : session.Issued m.accounts) :
    Tracked session (m.accounts.permissionsOf session.tenantId session.userId) m := by
  obtain ⟨row, hrow, hnames, hversion⟩ := h
  refine ⟨hnames.epoch ▸ hrecorded row hrow, fun u hu hu' => ⟨?_, fun _ => rfl⟩⟩
  rw [m.accounts.users.eq_of_key_eq hu hrow (hu'.id.trans hnames.id.symm), hversion]

theorem resolve_eq_ok (h : session.resolve s = .ok user) :
    session.Issued s ∧ user.permissions = s.permissionsOf session.tenantId session.userId := by
  obtain ⟨details, hdetails, h⟩ := of_bind_ok h
  cases details with
  | none => cases h
  | some details =>
    dsimp only at h
    split at h
    · cases h
    · next hcurrent =>
      obtain ⟨row, hrow, huser, hpermissions⟩ := hydrate_eq_some (liftPersistence_eq_ok.mp hdetails)
      obtain ⟨hmem, hid, htenant⟩ := user?_eq_some.mp hrow
      rw [huser] at hcurrent
      push Not at hcurrent
      obtain ⟨-, -, hversion, hepoch⟩ := hcurrent
      cases h
      exact ⟨⟨row, hmem, ⟨hid, htenant, hepoch⟩, hversion.symm⟩, hpermissions⟩

theorem issued_of_authenticate {tenant username : String} {verified : Except String Bool}
    (h : UserApplication.authenticate s tenant username verified now = .ok (s', user)) :
    (Session.of user).Issued s' := by
  obtain ⟨userId, details, hdetails, rfl, rfl⟩ := authenticate_eq_ok h
  obtain ⟨row, hrow, huser, -⟩ := hydrate_eq_some hdetails
  obtain ⟨hmem, rfl, rfl⟩ := user?_eq_some.mp hrow
  refine ⟨{ row with lastLoginAt := some now }, ?_, ⟨?_, ?_, ?_⟩, ?_⟩
  · exact mem_updateUsers.mpr ⟨row, hmem, by simp [huser]⟩
  all_goals simp [Session.of, authenticatedUserFromDetails, huser]

/-- A session resolves only as long as nothing was done to its user that revokes it, and then to
the permissions that the user had when it was issued. -/
theorem session_revoked {before steps : List AccountStep} {user : AuthenticatedUser}
    (hreach : machine.Run (start now) before m) (hissued : session.Issued m.accounts)
    (hrun : machine.Run m steps m') (hresolve : session.resolve m'.accounts = .ok user) :
    (∀ pre step post, steps = pre ++ step :: post →
      ¬session.Revokes (pre.foldl apply m).accounts step) ∧
    user.permissions = m.accounts.permissionsOf session.tenantId session.userId := by
  obtain ⟨hsound, hrecorded⟩ := recorded_run hreach
  have htracked := tracked_of_issued hrecorded hissued
  obtain ⟨⟨row, hrow, hnames, hversion⟩, hpermissions⟩ := resolve_eq_ok hresolve
  constructor
  · rintro pre step post rfl hrevokes
    obtain ⟨hpre, hrest⟩ := hrun.of_append
    obtain ⟨hsound', htracked'⟩ := tracked_run hpre ⟨hsound, htracked⟩
    cases hrest with
    | cons henabled hpost =>
      have hrevoked := htracked'.revoke hsound' henabled hrevokes
      obtain ⟨-, hend⟩ := revoked_run hpost ⟨sound_apply hsound' step, hrevoked⟩
      exact absurd (hend.users row hrow hnames) (by omega)
  · obtain ⟨-, hend⟩ := tracked_run hrun ⟨hsound, htracked⟩
    rw [hpermissions]
    exact (hend.users row hrow hnames).2 hversion.symm

def loggedIn : AccountSystem := seeded.apply (.authenticate "default" "root" (.ok true) 1)

theorem loggedIn_run : machine.Run (start 0)
    ([.seedOwner "default" ⟨"root", "hash"⟩ 5 1 "first" 0] ++
      [.authenticate "default" "root" (.ok true) 1]) loggedIn :=
  seeded_run.append (.cons (fun _ => nofun) (.nil _))

def rootSession : Session := ⟨"default", 1, 2, "first"⟩

theorem rootSession_issued : rootSession.Issued loggedIn.accounts := by
  have hlogin : (UserApplication.authenticate seeded.accounts "default" "root" (.ok true) 1).toOption.map
      (fun result => Session.of result.2) = some rootSession := by
    decide +kernel
  obtain ⟨⟨s', user⟩, hresult, hsession⟩ := Option.map_eq_some_iff.mp hlogin
  have hstored : loggedIn.accounts = s' := by simp [loggedIn, apply, AccountStep.run, hresult]
  rw [hstored, ← hsession]
  exact issued_of_authenticate (toOption_eq_some.mp hresult)

/-- Another user is created, whose password is then changed. -/
def others : List AccountStep :=
  [.createUser rootContext ⟨"deputy", "Correct-horse-9", some [1]⟩ (.ok "hash") 2 "second" 1,
    .changePassword rootContext 2 "Correct-horse-10" (.ok "other")]

theorem session_revoked_others : ∃ user,
    rootSession.resolve (others.foldl apply loggedIn).accounts = .ok user ∧
      user.permissions = loggedIn.accounts.permissionsOf "default" 1 := by
  have hrun : machine.Run loggedIn others (others.foldl apply loggedIn) := by
    refine .cons (fun _ epoch h => ?_) (.cons (fun _ => nofun) (.nil _))
    cases h
    decide +kernel
  have hresolves : (rootSession.resolve (others.foldl apply loggedIn).accounts).toOption.isSome := by
    decide +kernel
  obtain ⟨user, hresolve⟩ := Option.isSome_iff_exists.mp hresolves
  have hresolve := toOption_eq_some.mp hresolve
  exact ⟨user, hresolve, (session_revoked loggedIn_run rootSession_issued hrun hresolve).2⟩

end AccountSystem

end Extrittio
