import Extrittio.Accounts.System

/-!
What holds of the tables in every run: role names are unique in their tenant, the owner role
is built in, and assignments refer to users and roles of their tenant. From these it follows
which rows a change can reach.
-/
namespace Extrittio

open Relational Transition List Option Table

namespace Accounts

structure Sound (s : Accounts) : Prop where
  names : ∀ r ∈ s.roles, ∀ r' ∈ s.roles, r.tenantId = r'.tenantId → r.name = r'.name → r = r'
  owners : ∀ r ∈ s.roles, r.name = ownerRole → r.isSystem = true
  users : ∀ a ∈ s.userRoles, ∃ u ∈ s.users, u.id = a.userId ∧ u.tenantId = a.tenantId
  roles : ∀ a ∈ s.userRoles, ∃ r ∈ s.roles, r.id = a.roleId ∧ r.tenantId = a.tenantId

variable {s s' : Accounts} {tenant : String} {userId roleId now : ℤ}

/-- Every user of the first tables is still there, under the same id and tenant. -/
def KeepsUsers (s s' : Accounts) : Prop :=
  ∀ u ∈ s.users, ∃ u' ∈ s'.users, u'.id = u.id ∧ u'.tenantId = u.tenantId

theorem keepsUsers_of_update {p : UserRow → Bool} {f : UserRow → UserRow} (hf : ∀ r, (f r).id = r.id)
    (h : s'.users = s.users.update p f hf) (htenant : ∀ r, (f r).tenantId = r.tenantId) :
    KeepsUsers s s' := by
  intro u hu
  refine ⟨if p u then f u else u, h ▸ mem_update.mpr ⟨u, hu, rfl⟩, ?_⟩
  split
  · exact ⟨hf u, htenant u⟩
  · exact ⟨rfl, rfl⟩

theorem mem_users_of_insertUser {row u : UserRow} (h : s.insertUser row = .ok s') :
    u ∈ s'.users ↔ u ∈ s.users ∨ u = row := by
  obtain ⟨-, users, hrows, rfl⟩ := insertUser_eq_ok h
  rw [mem_iff, hrows, mem_append, mem_singleton]
  rfl

theorem mem_roles_of_insertRole {row r : Role} (h : s.insertRole row = .ok s') :
    r ∈ s'.roles ↔ r ∈ s.roles ∨ r = row := by
  obtain ⟨-, roles, hrows, rfl⟩ := insertRole_eq_ok h
  rw [mem_iff, hrows, mem_append, mem_singleton]
  rfl

theorem rewritten_cases {patch : RolePatch} {updatedAt : ℤ} {r' : Role}
    (h : r' ∈ (s.updateRoleRow tenant roleId (rewriteRole patch updatedAt) fun _ => rfl).roles) :
    ∃ r ∈ s.roles, r.tenantId = tenant ∧ r.id = roleId ∧ r' = rewriteRole patch updatedAt r ∨
      ¬(r.tenantId = tenant ∧ r.id = roleId) ∧ r' = r := by
  obtain ⟨r, hr, rfl⟩ := mem_updateRoleRow.mp h
  refine ⟨r, hr, ?_⟩
  by_cases hselected : r.tenantId = tenant ∧ r.id = roleId
  · exact .inl ⟨hselected.1, hselected.2, by simp [hselected]⟩
  · refine .inr ⟨hselected, ?_⟩
    rw [if_neg]
    simpa using hselected

namespace Sound

theorem of_users (h : Sound s) (hroles : s'.roles = s.roles) (huserRoles : s'.userRoles = s.userRoles)
    (hkeeps : KeepsUsers s s') : Sound s' where
  names := hroles ▸ h.names
  owners := hroles ▸ h.owners
  users := by
    intro a ha
    obtain ⟨u, hu, hid, htenant⟩ := h.users a (huserRoles ▸ ha)
    obtain ⟨u', hu', hid', htenant'⟩ := hkeeps u hu
    exact ⟨u', hu', hid'.trans hid, htenant'.trans htenant⟩
  roles := by
    rw [hroles, huserRoles]
    exact h.roles

theorem insertUser (h : Sound s) {row : UserRow} (hinsert : s.insertUser row = .ok s') : Sound s' := by
  have hkeeps : KeepsUsers s s' := fun u hu =>
    ⟨u, (mem_users_of_insertUser hinsert).mpr (.inl hu), rfl, rfl⟩
  obtain ⟨-, users, -, rfl⟩ := insertUser_eq_ok hinsert
  exact h.of_users rfl rfl hkeeps

theorem rolesReplaced (h : Sound s) {roles : List Role}
    (hroles : ∀ r ∈ roles, r ∈ s.roles ∧ r.tenantId = tenant)
    (hreplaced : RolesReplaced s s' tenant userId roles now) : Sound s' := by
  have hkeeps : KeepsUsers s s' := keepsUsers_of_update _ hreplaced.users fun _ => rfl
  refine ⟨hreplaced.roles ▸ h.names, hreplaced.roles ▸ h.owners, fun a ha => ?_, fun a ha => ?_⟩
  · obtain ⟨hold, -⟩ | ⟨r, hr, rfl⟩ := hreplaced.mem_userRoles.mp ha
    · obtain ⟨u, hu, hid, htenant⟩ := h.users a hold
      obtain ⟨u', hu', hid', htenant'⟩ := hkeeps u hu
      exact ⟨u', hu', hid'.trans hid, htenant'.trans htenant⟩
    · obtain ⟨u, hsome⟩ := ne_none_iff_exists'.mp (hreplaced.keys r hr).1
      obtain ⟨hu, hid, htenant⟩ := user?_eq_some.mp hsome
      obtain ⟨u', hu', hid', htenant'⟩ := hkeeps u hu
      exact ⟨u', hu', hid'.trans hid, htenant'.trans htenant⟩
  · rw [hreplaced.roles]
    obtain ⟨hold, -⟩ | ⟨r, hr, rfl⟩ := hreplaced.mem_userRoles.mp ha
    · exact h.roles a hold
    · exact ⟨r, (hroles r hr).1, rfl, (hroles r hr).2⟩

theorem userDeleted (h : Sound s) :
    Sound { s with
      users := s.users.filter fun r => !(r.tenantId = tenant && r.id = userId)
      userRoles := s.userRoles.filter fun a => !(a.tenantId = tenant && a.userId = userId) } where
  names := h.names
  owners := h.owners
  users := by
    intro a ha
    obtain ⟨hold, hother⟩ := Table.mem_filter.mp ha
    obtain ⟨u, hu, hid, htenant⟩ := h.users a hold
    exact ⟨u, Table.mem_filter.mpr ⟨hu, by rw [hid, htenant]; exact hother⟩, hid, htenant⟩
  roles := fun a ha => h.roles a (Table.mem_filter.mp ha).1

theorem insertRole (h : Sound s) {row : Role} (howner : row.name = ownerRole → row.isSystem)
    (hinsert : s.insertRole row = .ok s') : Sound s' := by
  have hmem : ∀ {r : Role}, r ∈ s'.roles ↔ r ∈ s.roles ∨ r = row := mem_roles_of_insertRole hinsert
  obtain ⟨hfree, roles, -, rfl⟩ := insertRole_eq_ok hinsert
  refine ⟨fun r hr r' hr' htenant hname => ?_, fun r hr hname => ?_, h.users, fun a ha => ?_⟩
  · obtain hold | rfl := hmem.mp hr
    · obtain hold' | rfl := hmem.mp hr'
      · exact h.names r hold r' hold' htenant hname
      · exact absurd ⟨htenant, hname⟩ (hfree r hold).2
    · obtain hold' | rfl := hmem.mp hr'
      · exact absurd ⟨htenant.symm, hname.symm⟩ (hfree r' hold').2
      · rfl
  · obtain hold | rfl := hmem.mp hr
    · exact h.owners r hold hname
    · exact howner hname
  · obtain ⟨r, hr, hid, htenant⟩ := h.roles a ha
    exact ⟨r, hmem.mpr (.inl hr), hid, htenant⟩

theorem roleRewritten (h : Sound s) {patch : RolePatch} {updatedAt : ℤ}
    (hname : patch.name ≠ some ownerRole)
    (hfree : ∀ name, patch.name = some name →
      ∀ r ∈ s.roles, r.tenantId = tenant → r.name = name → r.id = roleId) :
    Sound (s.updateRoleRow tenant roleId (rewriteRole patch updatedAt) fun _ => rfl) := by
  -- a name given to the role is not the name of a row that the update leaves alone
  have hclash : ∀ r ∈ s.roles, ∀ other ∈ s.roles, r.tenantId = tenant → r.id = roleId →
      ¬(other.tenantId = tenant ∧ other.id = roleId) → other.tenantId = tenant →
      patch.name.getD r.name ≠ other.name := by
    intro r hr other hother htenant hid hkept htenant' hname
    cases hpatch : patch.name with
    | none =>
      rw [hpatch] at hname
      obtain rfl := h.names r hr other hother (htenant.trans htenant'.symm) hname
      exact hkept ⟨htenant, hid⟩
    | some name =>
      rw [hpatch] at hname
      exact hkept ⟨htenant', hfree name hpatch other hother htenant' hname.symm⟩
  refine ⟨fun r₁ hr₁ r₂ hr₂ htenant hsame => ?_, fun r' hr' howner => ?_, h.users, fun a ha => ?_⟩
  · obtain ⟨a, ha, ⟨hta, hida, rfl⟩ | ⟨hkept, rfl⟩⟩ := rewritten_cases hr₁
    · obtain ⟨b, hb, ⟨htb, hidb, rfl⟩ | ⟨hkept', rfl⟩⟩ := rewritten_cases hr₂
      · rw [s.roles.eq_of_key_eq ha hb (hida.trans hidb.symm)]
      · exact absurd hsame (hclash a ha r₂ hb hta hida hkept' (htenant.symm.trans hta))
    · obtain ⟨b, hb, ⟨htb, hidb, rfl⟩ | ⟨-, rfl⟩⟩ := rewritten_cases hr₂
      · exact absurd hsame.symm (hclash b hb r₁ ha htb hidb hkept (htenant.trans htb))
      · exact h.names r₁ ha r₂ hb htenant hsame
  · obtain ⟨r, hr, ⟨-, -, rfl⟩ | ⟨-, rfl⟩⟩ := rewritten_cases hr'
    · cases hpatch : patch.name with
      | none =>
        rw [rewriteRole, hpatch] at howner
        exact h.owners r hr howner
      | some name =>
        rw [rewriteRole, hpatch] at howner
        exact absurd (howner ▸ hpatch) hname
    · exact h.owners r' hr howner
  · obtain ⟨r, hr, hid, htenant⟩ := h.roles a ha
    refine ⟨_, mem_updateRoleRow.mpr ⟨r, hr, rfl⟩, ?_⟩
    split <;> exact ⟨hid, htenant⟩

theorem roleDeleted (h : Sound s) :
    Sound { s with
      roles := s.roles.filter fun r => !(r.tenantId = tenant && r.id = roleId)
      rolePermissions := s.rolePermissions.filter fun g => g.roleId ≠ roleId
      userRoles := s.userRoles.filter fun a => !(a.tenantId = tenant && a.roleId = roleId) } where
  names := fun r hr r' hr' => h.names r (Table.mem_filter.mp hr).1 r' (Table.mem_filter.mp hr').1
  owners := fun r hr => h.owners r (Table.mem_filter.mp hr).1
  users := fun a ha => h.users a (Table.mem_filter.mp ha).1
  roles := by
    intro a ha
    obtain ⟨hold, hother⟩ := Table.mem_filter.mp ha
    obtain ⟨r, hr, hid, htenant⟩ := h.roles a hold
    exact ⟨r, Table.mem_filter.mpr ⟨hr, by rw [hid, htenant]; exact hother⟩, hid, htenant⟩

theorem ownerSeeded (h : Sound s) {row : UserRoleRow} (hinsert : s.insertUserRole row = .ok s') :
    Sound s' := by
  obtain ⟨huser, hrole, userRoles, htable, rfl⟩ := insertUserRole_eq_ok hinsert
  refine ⟨h.names, h.owners, fun a ha => ?_, fun a ha => ?_⟩
  · obtain hold | rfl := (mem_of_insert? htable).mp ha
    · exact h.users a hold
    · obtain ⟨u, hsome⟩ := ne_none_iff_exists'.mp huser
      exact ⟨u, user?_eq_some.mp hsome⟩
  · obtain hold | rfl := (mem_of_insert? htable).mp ha
    · exact h.roles a hold
    · obtain ⟨r, hsome⟩ := ne_none_iff_exists'.mp hrole
      exact ⟨r, role?_eq_some.mp hsome⟩

theorem change (h : Sound s) {drawn : Option String} (hchange : Change s drawn s') : Sound s' := by
  cases hchange with
  | unchanged => exact h
  | userCreated hroles hinsert hreplaced =>
    obtain ⟨-, _, -, rfl⟩ := insertUser_eq_ok hinsert
    exact (h.insertUser hinsert).rolesReplaced hroles hreplaced
  | @userTouched tenant userId f hf hkept =>
    exact h.of_users rfl rfl (keepsUsers_of_update hf rfl fun r => (hkept r).1)
  | userDeleted => exact h.userDeleted
  | rolesReplaced hroles _ hreplaced => exact h.rolesReplaced hroles hreplaced
  | roleCreated hname hinsert hgranted =>
    have hinserted := h.insertRole (fun howner => absurd howner hname) hinsert
    refine hinserted.of_users hgranted.roles hgranted.userRoles fun u hu => ⟨u, ?_, rfl, rfl⟩
    rw [hgranted.users]
    exact hu
  | roleRewritten _ _ hname hfree => exact h.roleRewritten hname hfree
  | permissionsReplaced _ _ hreplaced =>
    exact h.of_users hreplaced.roles hreplaced.userRoles
      (keepsUsers_of_update _ hreplaced.users fun _ => rfl)
  | roleDeleted => exact h.roleDeleted
  | roleSeeded _ hseed =>
    unfold seedRole at hseed
    split at hseed
    · rw [← Except.ok.inj hseed]
      exact h
    · exact h.insertRole (fun _ => rfl) hseed
  | grantsSeeded => exact ⟨h.names, h.owners, h.users, h.roles⟩
  | ownerSeeded _ hinsert hassign => exact (h.insertUser hinsert).ownerSeeded hassign

end Sound

theorem sound_migrated : Sound (migrated now) where
  names := by
    simp [migrated, seedGrants, builtinRoles, builtinOwner, mem_iff, ownerRole, adminRole, operatorRole,
      viewerRole]
  owners := by simp [migrated, seedGrants, builtinRoles, builtinOwner, mem_iff]
  users := fun a ha => absurd ha (not_mem_empty a)
  roles := fun a ha => absurd ha (not_mem_empty a)

end Accounts

namespace AccountSystem

open Accounts

variable {m m' : AccountSystem} {step : AccountStep} {now : ℤ}

theorem changes_apply (m : AccountSystem) (step : AccountStep) :
    Changes m.accounts step.drawn (m.apply step).accounts := by
  unfold apply
  cases h : step.run m.accounts with
  | none => exact .last .unchanged
  | some s' => exact changes_of_run h

theorem sound_apply (h : Sound m.accounts) (step : AccountStep) : Sound (m.apply step).accounts :=
  (changes_apply m step).preserves (fun hs hchange => hs.change hchange) h

theorem sound_run {steps : List AccountStep} (h : machine.Run (start now) steps m) :
    Sound m.accounts := by
  refine h.invariant (I := fun m => Sound m.accounts) ?_ sound_migrated
  intro m step hsound _
  exact sound_apply hsound step

end AccountSystem

end Extrittio
