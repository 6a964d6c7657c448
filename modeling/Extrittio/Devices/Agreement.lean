import Extrittio.Devices.BulkDelete

/-!
What a bulk deletion is for, and how far each adapter does it. A row belongs to the device that
its tenant and device columns name. The server adapter always removes the listed devices with all
rows that belong to them; the embedded one does so exactly if no listed device has an alert, a
deployment or a cooldown.
-/
namespace Extrittio

open Referential Relational List DeviceTable

section

variable (rows : Rows DeviceTable DeviceColumn String) (tenant : String) (ids : List String)

def deviceExists (id : String) : Bool :=
  (rows .devices).any fun d => devices.owner d = (some tenant, some id)

def existing : List String := ids.filter (deviceExists rows tenant)

def listed (owner : Option String × Option String) : Bool :=
  ids.any fun id => owner = (some tenant, some id)

/-- The listed devices go with every row that belongs to them; all other rows stay. -/
def withoutDevices : Rows DeviceTable DeviceColumn String := fun t =>
  (rows t).filter fun r => !listed tenant (existing rows tenant ids) (t.owner r)

/-- Each device counts once. -/
def deletedCount : ℕ := (existing rows tenant ids).dedup.length

def Spared : Prop :=
  ∀ t ∈ [alerts, .otaDeployments, .ruleCooldowns], ∀ r ∈ rows t,
    listed tenant (existing rows tenant ids) (t.owner r) = false

end

section

variable {rows : Rows DeviceTable DeviceColumn String} {tenant id : String} {ids : List String}
  {o : Option String × Option String}

theorem listed_eq_true : listed tenant ids o ↔ ∃ id ∈ ids, o = (some tenant, some id) := by
  simp [listed]

theorem listed_singleton : listed tenant [id] o = decide (o = (some tenant, some id)) := by
  simp [listed]

theorem listed_cons (id : String) (ids : List String) :
    listed tenant (id :: ids) o = (listed tenant [id] o || listed tenant ids o) := by
  simp [listed]

theorem mem_existing : id ∈ existing rows tenant ids ↔ id ∈ ids ∧ deviceExists rows tenant id = true :=
  mem_filter

theorem deviceExists_eq_true : deviceExists rows tenant id ↔
    ∃ d ∈ rows .devices, devices.owner d = (some tenant, some id) := by
  simp [deviceExists]

theorem listed_existing (hdevice : ∀ id, o = (some tenant, some id) → deviceExists rows tenant id) :
    listed tenant (existing rows tenant ids) o = listed tenant ids o := by
  rw [Bool.eq_iff_iff, listed_eq_true, listed_eq_true]
  constructor
  · rintro ⟨id, hid, howner⟩
    exact ⟨id, (mem_existing.mp hid).1, howner⟩
  · rintro ⟨id, hid, howner⟩
    exact ⟨id, mem_existing.mpr ⟨hid, hdevice id howner⟩, howner⟩

theorem deletedCount_congr {rows' : Rows DeviceTable DeviceColumn String}
    (h : ∀ id ∈ ids, deviceExists rows tenant id = deviceExists rows' tenant id) :
    deletedCount rows tenant ids = deletedCount rows' tenant ids := by
  rw [deletedCount, deletedCount, existing, existing, filter_congr h]

theorem deletedCount_cons (h : id ∉ ids) : deletedCount rows tenant (id :: ids) =
    deletedCount rows tenant [id] + deletedCount rows tenant ids := by
  have hnew : id ∉ existing rows tenant ids := fun hmem => h (mem_existing.mp hmem).1
  by_cases hexists : deviceExists rows tenant id
  · have hcons : existing rows tenant (id :: ids) = id :: existing rows tenant ids :=
      filter_cons_of_pos hexists
    have hone : existing rows tenant [id] = [id] := filter_cons_of_pos hexists
    rw [deletedCount, hcons, dedup_cons_of_notMem hnew, deletedCount, hone, deletedCount]
    simp [Nat.add_comm]
  · have hcons : existing rows tenant (id :: ids) = existing rows tenant ids :=
      filter_cons_of_neg hexists
    have hnone : existing rows tenant [id] = [] := filter_cons_of_neg hexists
    rw [deletedCount, hcons, deletedCount, hnone, deletedCount]
    simp

end

section

variable {schema : Schema DeviceTable DeviceColumn} {rows : Rows DeviceTable DeviceColumn String}
  {t : DeviceTable} {tenant id : String} {r d : DeviceTableRow}

theorem owner_eq_of_refers {fk : DeviceForeignKey}
    (hcolumns : fk.columns.take 2 = [.tenantId, fk.child.deviceColumn])
    (hkey : fk.key.take 2 = [.tenantId, fk.parent.deviceColumn]) (h : fk.refers r d) :
    fk.child.owner r = fk.parent.owner d := by
  simp only [ForeignKey.refers, Bool.and_eq_true, decide_eq_true_eq] at h
  have hvalues := congrArg (take 2) h.2
  rw [Row.values, Row.values, ← map_take, ← map_take, hcolumns, hkey] at hvalues
  simp only [map_cons, map_nil, cons.injEq, and_true] at hvalues
  rw [owner, owner, hvalues.1, hvalues.2]

theorem owner_eq_of_tenantDeviceKey {onDelete : OnDelete} (hne : t ≠ .devices)
    (h : (tenantDeviceKey onDelete t).refers r d) :
    t.owner r = devices.owner d := by
  refine owner_eq_of_refers ?_ rfl h
  cases t <;> first | rfl | exact absurd rfl hne

theorem required_device (hne : t ≠ .devices) : [.tenantId, .deviceId] ⊆ t.required := by
  cases t <;> first | decide | exact absurd rfl hne

theorem deviceExists_of_owner (hrows : Integral schema rows)
    (hrequired : schema.required = required)
    (hkey : t ≠ .devices → ∃ onDelete, tenantDeviceKey onDelete t ∈ schema.foreignKeys)
    (hr : r ∈ rows t) (howner : t.owner r = (some tenant, some id)) :
    deviceExists rows tenant id := by
  rw [deviceExists_eq_true]
  by_cases hne : t = .devices
  · subst hne
    exact ⟨r, hr, howner⟩
  · obtain ⟨onDelete, hkey⟩ := hkey hne
    obtain ⟨d, hd, hrefers⟩ := hrows.references _ hkey r hr fun c hc =>
      hrows.required t r hr c (hrequired ▸ required_device hne hc)
    exact ⟨d, hd, owner_eq_of_tenantDeviceKey hne hrefers ▸ howner⟩

theorem device_ids_nodup (hrows : Integral schema rows) (hunique : (.devices, [.id]) ∈ schema.uniqueKeys) :
    ((rows .devices).map fun d => d.get .id).Nodup := by
  refine pairwise_map.mpr ((hrows.unique _ hunique).imp fun hne heq => hne ?_)
  simp only [Row.values, map_cons, map_nil, heq]

theorem length_listed_devices (hrows : Integral schema rows)
    (hunique : (.devices, [.id]) ∈ schema.uniqueKeys) (ids : List String) :
    ((rows .devices).filter fun d => listed tenant ids (devices.owner d)).length =
      deletedCount rows tenant ids := by
  have hids := device_ids_nodup hrows hunique
  have hperm : (((rows .devices).filter fun d => listed tenant ids (devices.owner d)).map
      fun d => d.get .id).Perm ((existing rows tenant ids).dedup.map some) := by
    refine (perm_ext_iff_of_nodup (hids.sublist (filter_sublist.map _))
      ((nodup_dedup _).map (Option.some_injective _))).mpr fun o => ?_
    simp only [mem_map, mem_filter, mem_dedup, mem_existing, listed_eq_true,
      deviceExists_eq_true]
    constructor
    · rintro ⟨d, ⟨hd, id, hid, howner⟩, rfl⟩
      exact ⟨id, ⟨hid, d, hd, howner⟩, (congrArg Prod.snd howner).symm⟩
    · rintro ⟨id, ⟨hid, d, hd, howner⟩, rfl⟩
      exact ⟨d, ⟨hd, id, hid, howner⟩, congrArg Prod.snd howner⟩
  simpa [deletedCount] using hperm.length_eq

end

section

variable {rows : Rows DeviceTable DeviceColumn String} {t : DeviceTable} {tenant id : String}
  {r d : DeviceTableRow}

theorem tenantDeviceKey_mem_postgres (hne : t ≠ .devices) :
    tenantDeviceKey .cascade t ∈ postgresSchema.foreignKeys := by
  cases t <;> first | decide | exact absurd rfl hne

theorem postgres_deviceExists (hrows : Integral postgresSchema rows) (hr : r ∈ rows t)
    (howner : t.owner r = (some tenant, some id)) : deviceExists rows tenant id = true :=
  deviceExists_of_owner hrows rfl (fun hne => ⟨.cascade, tenantDeviceKey_mem_postgres hne⟩) hr howner

/-- Ids are unique over all tenants, so a key over the id alone finds the same device as the key
over tenant and id. -/
theorem owner_eq_of_deviceIdKey (hrows : Integral postgresSchema rows) (hne : t ≠ .devices)
    (hr : r ∈ rows t) (hd : d ∈ rows .devices) (h : (deviceIdKey t).refers r d) :
    t.owner r = devices.owner d := by
  obtain ⟨d', hd', hrefers⟩ := hrows.references _ (tenantDeviceKey_mem_postgres hne) r hr fun c hc =>
    hrows.required t r hr c (required_device hne hc)
  have howner := owner_eq_of_tenantDeviceKey hne hrefers
  have hsame : d'.get .id = d.get .id := by
    simp only [ForeignKey.refers, deviceIdKey, tenantDeviceKey, Row.values, Bool.and_eq_true,
      decide_eq_true_eq, map_cons, map_nil, cons.injEq, and_true] at h hrefers
    rw [← hrefers.2.2, h.2]
  rw [howner, inj_on_of_nodup_map (device_ids_nodup hrows (by decide)) hd' hd hsame]

theorem postgres_staysOwned (hrows : Integral postgresSchema rows) :
    StaysOwned postgresSchema rows owner := by
  have hshape : ∀ fk ∈ postgresSchema.foreignKeys,
      (fk.columns.take 2 = [.tenantId, fk.child.deviceColumn] ∧
        fk.key.take 2 = [.tenantId, fk.parent.deviceColumn]) ∨
      (fk = deviceIdKey fk.child ∧ fk.child ≠ .devices) := by
    decide
  intro fk hfk r hr d hd hrefers
  rcases hshape fk hfk with ⟨hcolumns, hkey⟩ | ⟨hid, hne⟩
  · exact owner_eq_of_refers hcolumns hkey hrefers
  · rw [hid] at hd hrefers ⊢
    exact owner_eq_of_deviceIdKey hrows hne hr hd hrefers

theorem postgres_reaches : Reaches postgresSchema .devices fun _ => true where
  start := rfl
  closed := fun _ _ _ _ => rfl
  direct := fun t _ hne => ⟨tenantDeviceKey .cascade t, tenantDeviceKey_mem_postgres hne, rfl, rfl, rfl,
    fun _ hc => required_device hne hc⟩

/-- The server adapter deletes the listed devices with all their rows. -/
theorem PostgresDevices.bulkDelete_eq (db : PostgresDevices) (tenant : String) (ids : List String) :
    ∃ db', db.bulkDelete tenant ids = .ok (db', deletedCount db.rows tenant ids) ∧
      db'.rows = withoutDevices db.rows tenant ids := by
  rw [bulkDelete]
  split_ifs with hempty
  · obtain rfl := isEmpty_iff.mp hempty
    refine ⟨db, rfl, funext fun t => ?_⟩
    simp [withoutDevices, existing, listed]
  · have hselect : ∀ d : DeviceTableRow, (decide (d.get .tenantId = some tenant) &&
        ids.any fun id => decide (d.get .id = some id)) = listed tenant ids (devices.owner d) := by
      intro d
      rw [Bool.eq_iff_iff, listed_eq_true]
      simp only [Bool.and_eq_true, decide_eq_true_eq, any_eq_true, owner,
        deviceColumn, Prod.mk.injEq]
      exact ⟨fun ⟨htenant, id, hid, h⟩ => ⟨id, hid, htenant, h⟩,
        fun ⟨id, hid, htenant, h⟩ => ⟨htenant, id, hid, h⟩⟩
    obtain ⟨db', hdelete, hrows⟩ := db.delete_owned postgres_reaches (postgres_staysOwned db.integral)
      (fun d _ => hselect d) fun _ _ _ hunreached => absurd hunreached (by simp)
    refine ⟨db', ?_, funext fun t => ?_⟩
    · rw [hdelete]
      simp only [hselect, length_listed_devices db.integral (by decide)]
      rfl
    · rw [hrows, withoutDevices]
      refine filter_congr fun r hr => ?_
      rw [Bool.true_and, listed_existing fun id howner => postgres_deviceExists db.integral hr howner]

end

/-!
The embedded adapter deletes one device after the other. Each round clears all tables of one
device, or is refused.
-/
section

variable {rows : Rows DeviceTable DeviceColumn String} {t : DeviceTable} {tenant id : String}
  {ids : List String} {r : DeviceTableRow}

theorem turso_staysOwned (rows : Rows DeviceTable DeviceColumn String) :
    StaysOwned tursoSchema rows owner := by
  have hshape : ∀ fk ∈ tursoSchema.foreignKeys,
      fk.columns.take 2 = [.tenantId, fk.child.deviceColumn] ∧
        fk.key.take 2 = [.tenantId, fk.parent.deviceColumn] := by
    decide
  intro fk hfk r _ d _ hrefers
  exact owner_eq_of_refers (hshape fk hfk).1 (hshape fk hfk).2 hrefers

/-- The tables with a cascading key to their device, and the devices. -/
def DeviceTable.cascades : DeviceTable → Bool
  | .otaDeployments | .alerts | .ruleCooldowns => false
  | _ => true

theorem tenantDeviceKey_mem_turso (hne : t ≠ .devices) (hcooldowns : t ≠ .ruleCooldowns) :
    ∃ onDelete, tenantDeviceKey onDelete t ∈ tursoSchema.foreignKeys ∧
      (onDelete = .cascade ↔ t.cascades) := by
  cases t <;> first
    | exact absurd rfl hne
    | exact absurd rfl hcooldowns
    | exact ⟨.cascade, by decide⟩
    | exact ⟨.noAction, by decide⟩

theorem turso_deviceExists (hrows : Integral tursoSchema rows) (hcooldowns : t ≠ .ruleCooldowns)
    (hr : r ∈ rows t) (howner : t.owner r = (some tenant, some id)) :
    deviceExists rows tenant id := by
  refine deviceExists_of_owner hrows rfl (fun hne => ?_) hr howner
  obtain ⟨onDelete, hkey, -⟩ := tenantDeviceKey_mem_turso hne hcooldowns
  exact ⟨onDelete, hkey⟩

theorem turso_reaches_assignments : Reaches tursoSchema .deviceContractAssignments
    fun t => t = .deviceContractAssignments where
  start := by decide
  closed := by decide
  direct := fun _ hreached hne => absurd (of_decide_eq_true hreached) hne

theorem turso_reaches_events : Reaches tursoSchema .deviceEvents
    fun t => t = .deviceEvents || t = .deviceMetricSamples where
  start := by decide
  closed := by decide
  direct := by
    intro t hreached hne
    obtain rfl : t = .deviceMetricSamples := by simpa [hne] using hreached
    exact ⟨sampleEventKey, by decide⟩

theorem turso_reaches_devices : Reaches tursoSchema .devices cascades where
  start := rfl
  closed := by decide
  direct := by
    intro t hreached hne
    have hcooldowns : t ≠ .ruleCooldowns := by
      rintro rfl
      cases hreached
    obtain ⟨onDelete, hkey, hcascade⟩ := tenantDeviceKey_mem_turso hne hcooldowns
    exact ⟨_, hkey, hcascade.mpr hreached, rfl, rfl, fun _ hc => required_device hne hc⟩

/-- The rows that the first two statements of a round delete. -/
def DeviceTable.dependsOnContract (t : DeviceTable) : Bool :=
  t = .deviceEvents || t = .deviceMetricSamples || t = .deviceContractAssignments

/-- An alert or a deployment holds the device. -/
def Held (rows : Rows DeviceTable DeviceColumn String) (tenant id : String) : Prop :=
  ∃ t ∈ [alerts, .otaDeployments], ∃ r ∈ rows t, t.owner r = (some tenant, some id)

namespace TursoDevices

variable {db : TursoDevices} {reached : DeviceTable → Bool}

theorem execute_ok (db : TursoDevices) (tenant id : String) (hreach : Reaches tursoSchema t reached)
    (hfree : ∀ fk ∈ tursoSchema.foreignKeys, reached fk.parent → reached fk.child = false →
      ∀ r ∈ db.rows fk.child, listed tenant [id] (fk.child.owner r) = false) :
    ∃ db', db.execute t tenant id =
        .ok (db', ((db.rows t).filter fun r => listed tenant [id] (t.owner r)).length) ∧
      ∀ t', db'.rows t' = (db.rows t').filter fun r => !(reached t' && listed tenant [id] (t'.owner r)) := by
  obtain ⟨db', hdelete, hrows⟩ := db.delete_owned hreach (turso_staysOwned db.rows)
    (fun _ _ => listed_singleton.symm) hfree
  refine ⟨db', ?_, hrows⟩
  rw [execute, hdelete]
  simp only [listed_singleton]
  rfl

theorem execute_held (hheld : Held db.rows tenant id) :
    ∃ e, db.execute .devices tenant id = .error e := by
  obtain ⟨t, ht, r, hr, howner⟩ := hheld
  have hkey : tenantDeviceKey .noAction t ∈ tursoSchema.foreignKeys ∧ t.cascades = false ∧
      ∀ c ∈ [.tenantId, .deviceId], c ∈ t.required := by
    simp only [mem_cons, not_mem_nil, or_false] at ht
    rcases ht with rfl | rfl <;> decide
  obtain ⟨fk, hdelete⟩ := db.delete_held turso_reaches_devices (turso_staysOwned db.rows)
    (fun _ _ => listed_singleton.symm) hkey.1 rfl hkey.2.1 hkey.2.2 hr
    (listed_singleton.trans (decide_eq_true howner))
  exact ⟨.foreignKeyViolation "foreign_key", by rw [execute, hdelete]; rfl⟩

/-- The first two statements clear the tables whose rows depend on a contract. -/
theorem deleteDevice_eq (db : TursoDevices) (tenant id : String) :
    ∃ db' : TursoDevices, db.deleteDevice tenant id = db'.execute .devices tenant id ∧
      ∀ t, db'.rows t =
        (db.rows t).filter fun r => !(t.dependsOnContract && listed tenant [id] (t.owner r)) := by
  have hassignments : ∀ fk ∈ tursoSchema.foreignKeys,
      decide (fk.parent = .deviceContractAssignments) →
        decide (fk.child = .deviceContractAssignments) ≠ false := by
    decide
  have hevents : ∀ fk ∈ tursoSchema.foreignKeys,
      (decide (fk.parent = .deviceEvents) || decide (fk.parent = .deviceMetricSamples)) →
        (decide (fk.child = .deviceEvents) || decide (fk.child = .deviceMetricSamples)) ≠ false := by
    decide
  obtain ⟨db₁, hfirst, hrows₁⟩ := execute_ok db tenant id turso_reaches_assignments
    fun fk hfk hparent hchild => absurd hchild (hassignments fk hfk hparent)
  obtain ⟨db₂, hsecond, hrows₂⟩ := execute_ok db₁ tenant id turso_reaches_events
    fun fk hfk hparent hchild => absurd hchild (hevents fk hfk hparent)
  refine ⟨db₂, ?_, fun t => ?_⟩
  · rw [deleteDevice, hfirst]
    simp only [bind, Except.bind, hsecond]
  · rw [hrows₂, hrows₁, filter_filter]
    refine filter_congr fun r _ => ?_
    simp only [dependsOnContract, Bool.and_or_distrib_right, Bool.not_or]

/-- A device that nothing holds is cleared out of all tables but the cooldowns. -/
theorem deleteDevice_ok (hfree : ¬Held db.rows tenant id) :
    ∃ db', db.deleteDevice tenant id = .ok (db', deletedCount db.rows tenant [id]) ∧
      ∀ t, db'.rows t =
        (db.rows t).filter fun r => !(decide (t ≠ .ruleCooldowns) && listed tenant [id] (t.owner r)) := by
  obtain ⟨db₁, hdelete, hrows₁⟩ := deleteDevice_eq db tenant id
  have hholding : ∀ fk ∈ tursoSchema.foreignKeys, fk.parent.cascades → fk.child.cascades = false →
      fk.child ∈ [alerts, .otaDeployments] := by
    decide
  have hunheld : ∀ t ∈ [alerts, .otaDeployments], ∀ r ∈ db.rows t,
      listed tenant [id] (t.owner r) = false := by
    intro t ht r hr
    rw [listed_singleton, decide_eq_false_iff_not]
    exact fun howner => hfree ⟨t, ht, r, hr, howner⟩
  obtain ⟨db₂, hexecute, hrows₂⟩ := execute_ok db₁ tenant id turso_reaches_devices
    fun fk hfk hparent hchild r hr => by
      rw [hrows₁] at hr
      exact hunheld _ (hholding fk hfk hparent hchild) r (mem_of_mem_filter hr)
  refine ⟨db₂, ?_, fun t => ?_⟩
  · rw [hdelete, hexecute, hrows₁ .devices]
    have hkept : (db.rows .devices).filter (fun d => !(devices.dependsOnContract &&
        listed tenant [id] (devices.owner d))) = db.rows .devices :=
      filter_eq_self.mpr fun _ _ => rfl
    rw [hkept, length_listed_devices db.integral (by decide)]
  · rw [hrows₂, hrows₁, filter_filter]
    refine filter_congr fun r hr => ?_
    have hcleared : t ∈ [alerts, .otaDeployments] ∨
        t.cascades = decide (t ≠ .ruleCooldowns) ∧ (t.dependsOnContract → t.cascades) := by
      cases t <;> decide
    rcases hcleared with ht | ⟨hcascades, hdepends⟩
    · rw [hunheld t ht r hr, Bool.and_false, Bool.and_false, Bool.and_false, Bool.not_false, Bool.and_true]
    · rw [← hcascades]
      cases hdependent : t.dependsOnContract with
      | false => rw [Bool.false_and, Bool.not_false, Bool.and_true]
      | true => rw [hdepends hdependent, Bool.and_self]

theorem deleteDevice_held (hheld : Held db.rows tenant id) :
    ∃ e, db.deleteDevice tenant id = .error e := by
  obtain ⟨db₁, hdelete, hrows⟩ := deleteDevice_eq db tenant id
  rw [hdelete]
  refine execute_held ?_
  obtain ⟨t, ht, r, hr, howner⟩ := hheld
  have hdepends : ∀ t ∈ [alerts, .otaDeployments], t.dependsOnContract = false := by
    decide
  refine ⟨t, ht, r, ?_, howner⟩
  rw [hrows]
  exact mem_filter.mpr ⟨hr, by rw [hdepends t ht]; rfl⟩

theorem mem_cleared {id' : String} (hne : id' ≠ id) (howner : t.owner r = (some tenant, some id')) :
    r ∈ (rows t).filter (fun r => !(decide (t ≠ .ruleCooldowns) && listed tenant [id] (t.owner r))) ↔
      r ∈ rows t := by
  rw [mem_filter, listed_singleton, howner]
  simp [hne]

theorem bulk_ok (db : TursoDevices) (count : ℕ) (hids : ids.Nodup) (hfree : ∀ id ∈ ids, ¬Held db.rows tenant id) :
    ∃ db', ids.foldlM (deleteNext tenant) (db, count) =
        .ok (db', count + deletedCount db.rows tenant ids) ∧
      ∀ t, db'.rows t =
        (db.rows t).filter fun r => !(decide (t ≠ .ruleCooldowns) && listed tenant ids (t.owner r)) := by
  induction ids generalizing db count with
  | nil => exact ⟨db, rfl, fun t => by simp [listed]⟩
  | cons id ids ih =>
    obtain ⟨hid, hids⟩ := nodup_cons.mp hids
    obtain ⟨db₁, hdelete, hrows₁⟩ := deleteDevice_ok (hfree id mem_cons_self)
    have hmem : ∀ {t r id'}, id' ∈ ids → t.owner r = (some tenant, some id') →
        (r ∈ db₁.rows t ↔ r ∈ db.rows t) := by
      intro t r id' hid' howner
      rw [hrows₁]
      exact mem_cleared (ne_of_mem_of_not_mem hid' hid) howner
    have hfree₁ : ∀ id' ∈ ids, ¬Held db₁.rows tenant id' := by
      rintro id' hid' ⟨t, ht, r, hr, howner⟩
      exact hfree id' (mem_cons_of_mem _ hid') ⟨t, ht, r, (hmem hid' howner).mp hr, howner⟩
    have hcount : deletedCount db₁.rows tenant ids = deletedCount db.rows tenant ids := by
      refine deletedCount_congr fun id' hid' => ?_
      rw [Bool.eq_iff_iff, deviceExists_eq_true, deviceExists_eq_true]
      exact exists_congr fun d => and_congr_left fun howner => hmem hid' howner
    obtain ⟨db₂, hrest, hrows₂⟩ := ih db₁ (count + deletedCount db.rows tenant [id]) hids hfree₁
    refine ⟨db₂, ?_, fun t => ?_⟩
    · rw [foldlM_cons, deleteNext, hdelete]
      change ids.foldlM (deleteNext tenant) (db₁, count + deletedCount db.rows tenant [id]) = _
      rw [hrest, hcount, deletedCount_cons hid, Nat.add_assoc]
    · rw [hrows₂, hrows₁, filter_filter]
      refine filter_congr fun r _ => ?_
      rw [listed_cons id ids, Bool.and_or_distrib_left, Bool.not_or, Bool.and_comm]

theorem bulk_held (count : ℕ) (hids : ids.Nodup) (hid : id ∈ ids) (hheld : Held db.rows tenant id) :
    ∃ e, ids.foldlM (deleteNext tenant) (db, count) = .error e := by
  induction ids generalizing db count with
  | nil => cases hid
  | cons first ids ih =>
    obtain ⟨hfirst, hids⟩ := nodup_cons.mp hids
    by_cases hnow : Held db.rows tenant first
    · obtain ⟨e, hdelete⟩ := deleteDevice_held hnow
      exact ⟨e, by rw [foldlM_cons, deleteNext, hdelete]; rfl⟩
    · have hne : id ≠ first := fun heq => hnow (heq ▸ hheld)
      obtain ⟨db₁, hdelete, hrows⟩ := deleteDevice_ok hnow
      obtain ⟨t, ht, r, hr, howner⟩ := hheld
      have hr₁ : r ∈ db₁.rows t := by
        rw [hrows]
        exact (mem_cleared hne howner).mpr hr
      rw [foldlM_cons, deleteNext, hdelete]
      exact ih _ hids ((mem_cons.mp hid).resolve_left hne) ⟨t, ht, r, hr₁, howner⟩

theorem bulkDelete_ok (hfree : ∀ id ∈ ids, ¬Held db.rows tenant id) :
    ∃ db', db.bulkDelete tenant ids = .ok (db', deletedCount db.rows tenant ids) ∧
      ∀ t, db'.rows t =
        (db.rows t).filter fun r => !(decide (t ≠ .ruleCooldowns) && listed tenant ids (t.owner r)) := by
  have hmem : ∀ id', id' ∈ (orderBy id ids).dedup ↔ id' ∈ ids := fun id' => by simp
  have hlisted : ∀ o, listed tenant (orderBy id ids).dedup o = listed tenant ids o := by
    intro o
    rw [Bool.eq_iff_iff, listed_eq_true, listed_eq_true]
    simp only [hmem]
  obtain ⟨db', hdelete, hrows⟩ := bulk_ok db 0 (nodup_dedup _) fun id' hid' =>
    hfree id' ((hmem id').mp hid')
  refine ⟨db', ?_, fun t => ?_⟩
  · rw [bulkDelete, hdelete, Nat.zero_add, ← length_listed_devices db.integral (by decide),
      ← length_listed_devices db.integral (by decide)]
    simp only [hlisted]
  · simp only [hrows, hlisted]

theorem bulkDelete_held (hid : id ∈ ids) (hheld : Held db.rows tenant id) :
    ∃ e, db.bulkDelete tenant ids = .error e :=
  bulk_held 0 (nodup_dedup _) (by simpa using hid) hheld

end TursoDevices

end

/-- The devices and all their rows are gone, the rest is as it was, and the count is right. -/
def Deletes {schema : Schema DeviceTable DeviceColumn} (rows : Rows DeviceTable DeviceColumn String)
    (tenant : String) (ids : List String)
    (outcome : Except PersistenceError (Database String schema × ℕ)) : Prop :=
  ∃ db', outcome = .ok (db', deletedCount rows tenant ids) ∧ db'.rows = withoutDevices rows tenant ids

variable {db : TursoDevices} {tenant : String} {ids : List String}

theorem TursoDevices.deletes_of_spared
    (h : Spared db.rows tenant ids) : Deletes db.rows tenant ids (db.bulkDelete tenant ids) := by
  have hfree : ∀ id ∈ ids, ¬Held db.rows tenant id := by
    rintro id hid ⟨t, ht, r, hr, howner⟩
    have hexists : id ∈ existing db.rows tenant ids :=
      mem_existing.mpr ⟨hid, turso_deviceExists db.integral (by rintro rfl; simp at ht) hr howner⟩
    have hspared := h t (mem_append_left [ruleCooldowns] ht) r hr
    rw [listed_eq_true.mpr ⟨id, hexists, howner⟩] at hspared
    cases hspared
  obtain ⟨db', hdelete, hrows⟩ := bulkDelete_ok hfree
  refine ⟨db', hdelete, funext fun t => ?_⟩
  rw [hrows, withoutDevices]
  refine filter_congr fun r hr => ?_
  by_cases hcooldowns : t = .ruleCooldowns
  · rw [h t (by simp [hcooldowns]) r hr]
    simp [hcooldowns]
  · rw [listed_existing fun id howner => turso_deviceExists db.integral hcooldowns hr howner]
    simp [hcooldowns]

theorem TursoDevices.spared_of_deletes
    (h : Deletes db.rows tenant ids (db.bulkDelete tenant ids)) : Spared db.rows tenant ids := by
  obtain ⟨db', hdelete, hrows⟩ := h
  have hfree : ∀ id ∈ ids, ¬Held db.rows tenant id := by
    intro id hid hheld
    obtain ⟨e, herror⟩ := bulkDelete_held hid hheld
    rw [hdelete] at herror
    cases herror
  intro t ht r hr
  by_contra hlisted
  rw [Bool.not_eq_false] at hlisted
  obtain ⟨id, hid, howner⟩ := listed_eq_true.mp hlisted
  simp only [mem_cons, not_mem_nil, or_false] at ht
  rcases ht with rfl | rfl | rfl
  · exact hfree id (mem_existing.mp hid).1 ⟨_, by decide, r, hr, howner⟩
  · exact hfree id (mem_existing.mp hid).1 ⟨_, by decide, r, hr, howner⟩
  · -- the cooldown is still there, though its device is gone
    obtain ⟨db'', hdelete', hrows'⟩ := bulkDelete_ok hfree
    obtain rfl : db' = db'' := by
      rw [hdelete] at hdelete'
      injection hdelete' with hpair
      exact congrArg Prod.fst hpair
    have hkept : r ∈ db'.rows .ruleCooldowns := by
      rw [hrows']
      exact mem_filter.mpr ⟨hr, rfl⟩
    rw [hrows, withoutDevices] at hkept
    have hgone := (mem_filter.mp hkept).2
    rw [hlisted] at hgone
    cases hgone

/-- The server adapter deletes from every database and for every list of ids. The embedded adapter
does so exactly where no listed device has an alert, a deployment or a cooldown. -/
theorem bulkDelete_deletes_iff_spared (tenant : String) (ids : List String) :
    (∀ db : PostgresDevices, Deletes db.rows tenant ids (db.bulkDelete tenant ids)) ∧
      ∀ db : TursoDevices,
        Deletes db.rows tenant ids (db.bulkDelete tenant ids) ↔ Spared db.rows tenant ids :=
  ⟨fun db => db.bulkDelete_eq tenant ids,
    fun _ => ⟨TursoDevices.spared_of_deletes, TursoDevices.deletes_of_spared⟩⟩

/-- A device as registration leaves it, with an alert that a rule has raised for it. -/
def alertedRows : Rows DeviceTable DeviceColumn String
  | .devices => [[(.tenantId, "acme"), (.id, "pump-1"), (.content, "Pump")]]
  | .deviceCertificates => [[(.tenantId, "acme"), (.deviceId, "pump-1"), (.content, "PEM")]]
  | .deviceConfigs => [[(.tenantId, "acme"), (.deviceId, "pump-1"), (.content, "config")]]
  | .deviceShadows => [[(.tenantId, "acme"), (.deviceId, "pump-1"), (.content, "shadow")]]
  | .deviceContracts => [[(.tenantId, "acme"), (.deviceId, "pump-1"), (.id, "contract-1")]]
  | .deviceContractAssignments =>
    [[(.tenantId, "acme"), (.deviceId, "pump-1"), (.desiredContractId, "contract-1")]]
  | .alerts => [[(.tenantId, "acme"), (.deviceId, "pump-1"), (.id, "alert-1"), (.content, "overheated")]]
  | _ => []

def alertedTurso : TursoDevices where
  rows := alertedRows
  integral := ⟨fun t => by cases t <;> decide, by decide, by decide⟩

def alertedPostgres : PostgresDevices where
  rows := alertedRows
  integral := ⟨fun t => by cases t <;> decide, by decide, by decide⟩

/-- The same rows: the embedded adapter refuses what the server adapter does. -/
theorem alerted_device_divides_adapters :
    (alertedTurso.bulkDelete "acme" ["pump-1"]).map Prod.snd = .error (.foreignKeyViolation "foreign_key") ∧
      (alertedPostgres.bulkDelete "acme" ["pump-1"]).map Prod.snd = .ok 1 := by
  constructor <;> rfl

end Extrittio
