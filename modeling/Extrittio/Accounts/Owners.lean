import Extrittio.Accounts.Integrity

/-!
Lockout protection: a tenant that has an owner keeps one, whatever is done to its users and
roles, and the owner role keeps what is granted to it.
-/
namespace Extrittio

open Relational Transition List

namespace Accounts

def HoldsRole (s : Accounts) (userId : ℤ) (role : Role) : Prop :=
  ∃ a ∈ s.userRoles, a.userId = userId ∧ a.tenantId = role.tenantId ∧ a.roleId = role.id

/-- The role is there with these grants, and somebody holds it. -/
structure OwnerHeld (owner : Role) (granted : List String) (s : Accounts) : Prop where
  stored : owner ∈ s.roles
  grants : s.grants owner.id = granted
  held : ∃ userId, s.HoldsRole userId owner

variable {s s' : Accounts} {tenant : String} {userId roleId : ℤ} {owner : Role} {granted : List String}

theorem grants_congr (h : s'.rolePermissions = s.rolePermissions) (roleId : ℤ) :
    s'.grants roleId = s.grants roleId := by
  rw [grants, grants, h]

theorem find?_owner (hsound : Sound s) (hstored : owner ∈ s.roles) (hname : owner.name = ownerRole) :
    s.roles.rows.find? (fun r => r.tenantId = owner.tenantId && r.name = ownerRole) = some owner := by
  obtain ⟨r, hr⟩ : ∃ r, s.roles.rows.find?
      (fun r => r.tenantId = owner.tenantId && r.name = ownerRole) = some r := by
    rw [← Option.isSome_iff_exists, find?_isSome]
    exact ⟨owner, hstored, by simp [hname]⟩
  have hfound := find?_some hr
  simp only [Bool.and_eq_true, decide_eq_true_eq] at hfound
  rw [hr, hsound.names r (mem_of_find?_eq_some hr) owner hstored hfound.1
    (hfound.2.trans hname.symm)]

theorem exists_ne_of_dedup_length {α : Type} [DecidableEq α] {l : List α} (x : α)
    (h : ¬l.dedup.length ≤ 1) : ∃ y ∈ l, y ≠ x := by
  by_contra hall
  push Not at hall
  have hsub : l.dedup ⊆ [x] := fun y hy => mem_singleton.mpr (hall y (mem_dedup.mp hy))
  exact h (((nodup_dedup l).subperm hsub).length_le)

/-- An operation on a user that the check lets through leaves a holder other than that user,
or keeps the role with the user. -/
theorem OwnerHeld.spared {kept : ℤ → Prop} (h : OwnerHeld owner granted s) (hsound : Sound s)
    (hname : owner.name = ownerRole) (hspared : OwnerSpared s tenant userId kept) :
    (∃ a ∈ s.userRoles, a.tenantId = owner.tenantId ∧ a.roleId = owner.id ∧
        ¬(a.tenantId = tenant ∧ a.userId = userId)) ∨
      owner.tenantId = tenant ∧ kept owner.id := by
  obtain ⟨holder, a, ha, rfl, htenant, hrole⟩ := h.held
  by_cases hsame : a.tenantId = tenant ∧ a.userId = userId
  · obtain ⟨rfl, rfl⟩ := hsame
    have hfind := htenant ▸ find?_owner hsound h.stored hname
    have hholds : (s.holders a.tenantId owner.id).any (fun b => b.userId = a.userId) :=
      any_eq_true.mpr ⟨a, mem_holders.mpr ⟨ha, rfl, hrole⟩, by simp⟩
    by_cases hfew : ((s.holders a.tenantId owner.id).map (·.userId)).dedup.length ≤ 1
    · exact .inr ⟨htenant.symm, hspared owner hfind hholds hfew⟩
    · obtain ⟨other, hother, hne⟩ := exists_ne_of_dedup_length a.userId hfew
      obtain ⟨b, hb, rfl⟩ := mem_map.mp hother
      obtain ⟨hb, hbt, hbr⟩ := mem_holders.mp hb
      exact .inl ⟨b, hb, hbt.trans htenant, hbr, fun hsame => hne hsame.2⟩
  · exact .inl ⟨a, ha, htenant, hrole, hsame⟩

theorem OwnerHeld.ne_of_not_system {row : Role} (h : OwnerHeld owner granted s) (hsound : Sound s)
    (hname : owner.name = ownerRole) (hrow : s.role? tenant roleId = some row)
    (hsystem : row.isSystem = false) : owner.id ≠ roleId := by
  rintro rfl
  obtain ⟨hmem, hid, -⟩ := role?_eq_some.mp hrow
  obtain rfl := s.roles.eq_of_key_eq hmem h.stored hid
  rw [hsound.owners _ hmem hname] at hsystem
  cases hsystem

theorem OwnerHeld.users_ne_nil (h : OwnerHeld owner granted s) (hsound : Sound s) :
    s.users.rows ≠ [] := by
  obtain ⟨_, a, ha, -⟩ := h.held
  obtain ⟨u, hu, -⟩ := hsound.users a ha
  exact ne_nil_of_mem hu

theorem OwnerHeld.rolesReplaced {roles : List Role} {now : ℤ} (h : OwnerHeld owner granted s)
    (hreplaced : RolesReplaced s s' tenant userId roles now)
    (hholder : (∃ a ∈ s.userRoles, a.tenantId = owner.tenantId ∧ a.roleId = owner.id ∧
        ¬(a.tenantId = tenant ∧ a.userId = userId)) ∨
      owner.tenantId = tenant ∧ ∃ r ∈ roles, r.id = owner.id) :
    OwnerHeld owner granted s' where
  stored := hreplaced.roles ▸ h.stored
  grants := (grants_congr hreplaced.rolePermissions _).trans h.grants
  held := by
    obtain ⟨a, ha, htenant, hrole, hother⟩ | ⟨htenant, r, hr, hid⟩ := hholder
    · exact ⟨a.userId, a, hreplaced.mem_userRoles.mpr (.inl ⟨ha, hother⟩), rfl, htenant, hrole⟩
    · exact ⟨userId, _, hreplaced.mem_userRoles.mpr (.inr ⟨r, hr, rfl⟩), rfl, htenant.symm, hid⟩

variable {drawn : Option String} {a : UserRoleRow}

theorem OwnerHeld.change (h : OwnerHeld owner granted s) (hsound : Sound s)
    (hname : owner.name = ownerRole) (hchange : Change s drawn s') : OwnerHeld owner granted s' := by
  cases hchange with
  | unchanged => exact h
  | @userCreated row inserted _ roles now hroles hinsert hreplaced =>
    obtain ⟨hfree, users, -, rfl⟩ := insertUser_eq_ok hinsert
    have hinserted : OwnerHeld owner granted { s with users := users } := ⟨h.stored, h.grants, h.held⟩
    -- the new user has an id that no holder has
    obtain ⟨holder, a, ha, rfl, htenant, hrole⟩ := h.held
    obtain ⟨u, hu, hid, -⟩ := hsound.users a ha
    refine hinserted.rolesReplaced hreplaced (.inl ⟨a, ha, htenant, hrole, fun hsame => ?_⟩)
    exact hfree u hu (hid.trans hsame.2)
  | userTouched => exact ⟨h.stored, h.grants, h.held⟩
  | userDeleted hspared =>
    obtain ⟨a, ha, htenant, hrole, hother⟩ | ⟨-, hnever⟩ := h.spared hsound hname hspared
    · refine ⟨h.stored, h.grants, a.userId, a, Table.mem_filter.mpr ⟨ha, ?_⟩, rfl, htenant, hrole⟩
      simpa [imp_iff_not_or] using hother
    · exact hnever.elim
  | rolesReplaced hroles hspared hreplaced =>
    exact h.rolesReplaced hreplaced (h.spared hsound hname hspared)
  | roleCreated _ hinsert hgranted =>
    have hstored := (mem_roles_of_insertRole hinsert).mpr (.inl h.stored)
    obtain ⟨hfree, roles, -, rfl⟩ := insertRole_eq_ok hinsert
    refine ⟨hgranted.roles ▸ hstored, ?_, ?_⟩
    · exact (hgranted.grants_of_ne (hfree owner h.stored).1).trans h.grants
    · unfold HoldsRole
      rw [hgranted.userRoles]
      exact h.held
  | roleRewritten hrow hsystem =>
    have hne := h.ne_of_not_system hsound hname hrow hsystem
    exact ⟨mem_updateRoleRow.mpr ⟨owner, h.stored, by simp [hne]⟩, h.grants, h.held⟩
  | permissionsReplaced hrow hsystem hreplaced =>
    have hne := h.ne_of_not_system hsound hname hrow hsystem
    refine ⟨hreplaced.roles ▸ h.stored, (hreplaced.grants owner.id hne).trans h.grants, ?_⟩
    unfold HoldsRole
    rw [hreplaced.userRoles]
    exact h.held
  | roleDeleted hrow hsystem =>
    have hne := h.ne_of_not_system hsound hname hrow hsystem
    obtain ⟨holder, a, ha, huser, htenant, hrole⟩ := h.held
    exact ⟨Table.mem_filter.mpr ⟨h.stored, by simp [hne]⟩, (grants_of_filter rfl hne).trans h.grants,
      holder, a, Table.mem_filter.mpr ⟨ha, by simp [hrole, hne]⟩, huser, htenant, hrole⟩
  | roleSeeded hempty | grantsSeeded hempty | ownerSeeded hempty =>
    exact absurd hempty (h.users_ne_nil hsound)

theorem Change.keeps_assigned (hchange : Change s drawn s') (hsound : Sound s)
    (ha : a ∈ s.userRoles) :
    ∃ r ∈ s'.roles, r.id = a.roleId ∧ r.tenantId = a.tenantId := by
  obtain ⟨r, hr, hid, htenant⟩ := hsound.roles a ha
  cases hchange with
  | unchanged | userTouched | userDeleted | grantsSeeded => exact ⟨r, hr, hid, htenant⟩
  | userCreated _ hinsert hreplaced =>
    obtain ⟨-, users, -, rfl⟩ := insertUser_eq_ok hinsert
    exact ⟨r, hreplaced.roles ▸ hr, hid, htenant⟩
  | rolesReplaced _ _ hreplaced => exact ⟨r, hreplaced.roles ▸ hr, hid, htenant⟩
  | roleCreated _ hinsert hgranted =>
    exact ⟨r, hgranted.roles ▸ (mem_roles_of_insertRole hinsert).mpr (.inl hr), hid, htenant⟩
  | roleRewritten =>
    refine ⟨_, mem_updateRoleRow.mpr ⟨r, hr, rfl⟩, ?_⟩
    split <;> exact ⟨hid, htenant⟩
  | permissionsReplaced _ _ hreplaced => exact ⟨r, hreplaced.roles ▸ hr, hid, htenant⟩
  | @roleDeleted tenant roleId _ _ _ hunused =>
    refine ⟨r, Table.mem_filter.mpr ⟨hr, ?_⟩, hid, htenant⟩
    by_contra hdeleted
    have hused : a ∈ s.holders tenant roleId := by
      rw [mem_holders, ← htenant, ← hid]
      simpa using And.intro ha hdeleted
    rw [hunused] at hused
    cases hused
  | roleSeeded _ hseed =>
    unfold seedRole at hseed
    split at hseed
    · exact ⟨r, Except.ok.inj hseed ▸ hr, hid, htenant⟩
    · exact ⟨r, (mem_roles_of_insertRole hseed).mpr (.inl hr), hid, htenant⟩
  | ownerSeeded _ hinsert hassign =>
    obtain ⟨-, users, -, rfl⟩ := insertUser_eq_ok hinsert
    obtain ⟨-, -, userRoles, -, rfl⟩ := insertUserRole_eq_ok hassign
    exact ⟨r, hr, hid, htenant⟩

theorem Changes.keeps_assigned (h : Changes s drawn s') (hsound : Sound s) (ha : a ∈ s.userRoles) :
    ∃ r ∈ s'.roles, r.id = a.roleId ∧ r.tenantId = a.tenantId := by
  induction h with
  | last h => exact h.keeps_assigned hsound ha
  | cons h hassigned _ ih => exact ih (hsound.change h) (hassigned ▸ ha)

end Accounts

namespace AccountSystem

open Accounts

variable {m m' : AccountSystem} {now : ℤ} {owner : Role} {userId : ℤ}

theorem ownerHeld_run {steps : List AccountStep} {granted : List String} (hsound : Sound m.accounts)
    (hname : owner.name = ownerRole) (h : OwnerHeld owner granted m.accounts)
    (hrun : machine.Run m steps m') : Sound m'.accounts ∧ OwnerHeld owner granted m'.accounts := by
  refine hrun.invariant (I := fun m => Sound m.accounts ∧ OwnerHeld owner granted m.accounts) ?_
    ⟨hsound, h⟩
  intro m step hheld _
  refine (changes_apply m step).preserves (I := fun s => Sound s ∧ OwnerHeld owner granted s) ?_ hheld
  intro s s' drawn hs hchange
  exact ⟨hs.1.change hchange, hs.2.change hs.1 hname hchange⟩

/-- In a tenant where somebody holds the owner role somebody always does, with everything that
was granted to the role; and no step deletes a role that is assigned. -/
theorem owner_retained {before steps : List AccountStep}
    (hreach : machine.Run (start now) before m) (hstored : owner ∈ m.accounts.roles)
    (hname : owner.name = ownerRole) (hholds : m.accounts.HoldsRole userId owner)
    (hrun : machine.Run m steps m') :
    (∃ user ∈ m'.accounts.users, user.tenantId = owner.tenantId ∧ owner ∈ m'.accounts.roles ∧
      m'.accounts.HoldsRole user.id owner ∧
      m.accounts.grants owner.id ⊆ m'.accounts.permissionsOf owner.tenantId user.id) ∧
    ∀ step, m'.enabled step → ∀ a ∈ m'.accounts.userRoles,
      ∃ role ∈ (m'.apply step).accounts.roles, role.id = a.roleId ∧ role.tenantId = a.tenantId := by
  obtain ⟨hsound, hheld⟩ :=
    ownerHeld_run (sound_run hreach) hname ⟨hstored, rfl, userId, hholds⟩ hrun
  constructor
  · obtain ⟨holder, a, ha, rfl, htenant, hrole⟩ := hheld.held
    obtain ⟨user, huser, hid, huserTenant⟩ := hsound.users a ha
    refine ⟨user, huser, huserTenant.trans htenant, hheld.stored, ⟨a, ha, hid.symm, htenant, hrole⟩, ?_⟩
    intro permission hpermission
    rw [mem_permissionsOf]
    refine ⟨a, mem_assignments.mpr ⟨ha, htenant, hid.symm⟩, ?_⟩
    rw [hrole, hheld.grants]
    exact hpermission
  · intro step _ a ha
    exact (changes_apply m' step).keeps_assigned hsound ha

def seeded : AccountSystem :=
  (start 0).apply (.seedOwner "default" ⟨"root", "hash"⟩ 5 1 "first" 0)

theorem seeded_run :
    machine.Run (start 0) [.seedOwner "default" ⟨"root", "hash"⟩ 5 1 "first" 0] seeded :=
  .cons (fun _ _ _ => not_mem_nil) (.nil _)

def rootContext : TenantContext := ⟨"default", Permission.all⟩

/-- A second owner is made, who deletes the first one and then asks to be deleted too. -/
def succession : List AccountStep :=
  [.createUser rootContext ⟨"deputy", "Correct-horse-9", some [1]⟩ (.ok "hash") 2 "second" 1,
    .deleteUser rootContext 1, .deleteUser rootContext 2]

theorem succession_run : machine.Run seeded succession (succession.foldl apply seeded) := by
  refine .cons (fun _ epoch h => ?_) (.cons (fun _ => nofun) (.cons (fun _ => nofun) (.nil _)))
  cases h
  decide +kernel

theorem owner_retained_succession :
    (succession.foldl apply seeded).accounts.users.rows.map (·.id) = [2] ∧
    ∃ user ∈ (succession.foldl apply seeded).accounts.users,
      (succession.foldl apply seeded).accounts.HoldsRole user.id (builtinOwner 0) ∧
      seeded.accounts.grants 1 ⊆
        (succession.foldl apply seeded).accounts.permissionsOf "default" user.id := by
  have hstored : builtinOwner 0 ∈ seeded.accounts.roles := by
    rw [Table.mem_iff]
    decide +kernel
  have hholds : seeded.accounts.HoldsRole 1 (builtinOwner 0) := by
    refine ⟨⟨1, 1, "default", 0⟩, ?_, rfl, rfl, rfl⟩
    rw [Table.mem_iff]
    decide +kernel
  obtain ⟨⟨user, huser, -, -, hrole, hpermissions⟩, -⟩ :=
    owner_retained seeded_run hstored rfl hholds succession_run
  exact ⟨by decide +kernel, user, huser, hrole, hpermissions⟩

end AccountSystem

end Extrittio
