import Extrittio.Library.Run
import Extrittio.Library.Table
import Extrittio.Platform

/-!
The shadow of a device: what it should be set to, what it last reported, and the
difference. Patches replace or remove top-level entries. An OTA deployment is a
desired entry under `ota` that only its own completion removes.
-/
namespace Extrittio

open Relational Transition List Option OrderedMap

structure ShadowRecord where
  deviceId : String
  desired : Json
  reported : Json
  delta : Json
  version : ℤ
  updatedAt : ℤ
  deriving DecidableEq

inductive ShadowMutationError where
  | versionOverflow
  deriving DecidableEq

def ShadowMutationError.message : ShadowMutationError → String
  | .versionOverflow => "shadow version overflow"

def objectOrEmpty (value : Json) : Json :=
  match value with
  | .object fields => .object fields
  | _ => .ofMap ∅

def nextVersion (version : ℤ) : Except ShadowMutationError ℤ :=
  if version + 1 ≤ 2147483647 then .ok (version + 1) else .error .versionOverflow

/-- Removes an entry whose patch is null and puts any other. -/
def mergeEntry (obj : OrderedMap String Json) (entry : String × Json) : OrderedMap String Json :=
  if entry.2 = .null then obj.remove entry.1 else obj.insert entry.1 entry.2

def mergeJson (existing : Json) (patch : OrderedMap String Json) : Json :=
  .ofMap (patch.entries.foldl mergeEntry (existing.asObject.getD ∅))

/-- The desired entries that the reported state does not have. -/
def computeDelta (desired reported : Json) : Json :=
  match desired.asObject, reported.asObject with
  | some d, some r =>
    .ofMap (d.entries.foldl (fun delta entry =>
      if r.get? entry.1 = some entry.2 then delta else delta.insert entry.1 entry.2) ∅)
  | some _, none => desired
  | none, _ => .ofMap ∅

def applyDesiredPatch (shadow : ShadowRecord) (patch : OrderedMap String Json) (updatedAt : ℤ) :
    Except ShadowMutationError ShadowRecord := do
  let desired := mergeJson (objectOrEmpty shadow.desired) patch
  let reported := objectOrEmpty shadow.reported
  let version ← nextVersion shadow.version
  return { shadow with desired, reported, delta := computeDelta desired reported, version, updatedAt }

def applyReportedPatch (shadow : ShadowRecord) (patch : OrderedMap String Json) (updatedAt : ℤ) :
    Except ShadowMutationError ShadowRecord := do
  let desired := objectOrEmpty shadow.desired
  let reported := mergeJson (objectOrEmpty shadow.reported) patch
  let version ← nextVersion shadow.version
  return { shadow with desired, reported, delta := computeDelta desired reported, version, updatedAt }

def resetShadow (shadow : ShadowRecord) (updatedAt : ℤ) :
    Except ShadowMutationError ShadowRecord := do
  let version ← nextVersion shadow.version
  return { shadow with
    desired := .ofMap ∅, reported := .ofMap ∅, delta := .ofMap ∅, version, updatedAt }

structure PreparedOtaArtifact where
  version : String
  url : String
  sha256 : String
  deriving DecidableEq

/-- The desired entry of a deployment. -/
def PreparedOtaArtifact.desiredPatch (artifact : PreparedOtaArtifact)
    (firmwareId deploymentId : ℤ) : OrderedMap String Json :=
  .ofList [("ota", .ofMap (.ofList
    [("firmware_version", .string artifact.version), ("firmware_url", .string artifact.url),
     ("firmware_update_id", .integer firmwareId), ("deployment_id", .integer deploymentId),
     ("sha256", .string artifact.sha256)]))]

/-- A deployment that ended clears its own command and no newer one. -/
def clearOtaForDeployment (shadow : ShadowRecord) (deploymentId updatedAt : ℤ) :
    Except ShadowMutationError (Option ShadowRecord) :=
  if ((shadow.desired.get "ota").bind (Json.get "deployment_id")).bind Json.asI64 ≠
      some deploymentId then
    .ok none
  else
    (applyDesiredPatch shadow (.ofList [("ota", .null)]) updatedAt).map some

structure ShadowRow where
  tenantId : String
  deviceId : String
  desired : Json
  reported : Json
  delta : Json
  version : ℤ
  updatedAt : ℤ
  deriving DecidableEq

abbrev Shadows := Table ShadowRow fun r => (r.tenantId, r.deviceId)

def ShadowRow.decode (row : ShadowRow) : ShadowRecord :=
  ⟨row.deviceId, row.desired, row.reported, row.delta, row.version, datetime row.updatedAt⟩

namespace Shadows

def created (tenant device : String) (now : ℤ) : ShadowRow :=
  ⟨tenant, device, .ofMap ∅, .ofMap ∅, .ofMap ∅, 1, timestampMicros now⟩

def getFrom (shadows : Shadows) (tenant device : String) : Option ShadowRecord :=
  (shadows.find? (tenant, device)).map ShadowRow.decode

def store (shadows : Shadows) (tenant : String) (shadow : ShadowRecord) : Shadows :=
  shadows.update (fun row => row.tenantId = tenant ∧ row.deviceId = shadow.deviceId)
    (fun row => { row with
      desired := shadow.desired, reported := shadow.reported, delta := shadow.delta,
      version := shadow.version, updatedAt := timestampMicros shadow.updatedAt })
    fun _ => rfl

/-- A refused mutation ends the transaction without a write. -/
def corrupt {α : Type} (result : Except ShadowMutationError α) : Except PersistenceError α :=
  result.mapError fun e => .corruptData e.message

/-- Reads, mutates and writes a shadow in one transaction. -/
def mutate (shadows : Shadows) (tenant device : String)
    (mutation : ShadowRecord → Except ShadowMutationError ShadowRecord) :
    Except PersistenceError (Shadows × Option ShadowRecord) := do
  let some current := shadows.getFrom tenant device | return (shadows, none)
  let updated ← corrupt (mutation current)
  return (shadows.store tenant updated, some updated)

def updateDesired (shadows : Shadows) (tenant device : String) (patch : OrderedMap String Json)
    (updatedAt : ℤ) : Except PersistenceError (Shadows × Option ShadowRecord) :=
  shadows.mutate tenant device fun shadow => applyDesiredPatch shadow patch updatedAt

def updateReported (shadows : Shadows) (tenant device : String) (patch : OrderedMap String Json)
    (updatedAt : ℤ) : Except PersistenceError (Shadows × Option ShadowRecord) :=
  shadows.mutate tenant device fun shadow => applyReportedPatch shadow patch updatedAt

def reset (shadows : Shadows) (tenant device : String) (updatedAt : ℤ) :
    Except PersistenceError (Shadows × Option ShadowRecord) :=
  shadows.mutate tenant device fun shadow => resetShadow shadow updatedAt

/-- The shadow's part in `trigger_ota`, under the id of the deployment it inserted. -/
def triggerOta (shadows : Shadows) (tenant device : String) (artifact : PreparedOtaArtifact)
    (firmwareId deploymentId now : ℤ) :
    Except PersistenceError (Shadows × Option ShadowRecord) := do
  let some shadow := shadows.getFrom tenant device | throw .notFound
  let patch := artifact.desiredPatch firmwareId deploymentId
  let updated ← corrupt (applyDesiredPatch shadow patch now)
  return (shadows.store tenant updated, some updated)

/-- The shadow's part in `apply_ota_status` when a deployment reaches a terminal status. -/
def finishOta (shadows : Shadows) (tenant device : String) (deploymentId now : ℤ) :
    Except PersistenceError (Shadows × Option ShadowRecord) := do
  let some shadow := shadows.getFrom tenant device | return (shadows, none)
  let some updated ← corrupt (clearOtaForDeployment shadow deploymentId now)
    | return (shadows, none)
  return (shadows.store tenant updated, some updated)

end Shadows

/-! What a shadow is for, apart from how it is stored: two sets of settings
without null entries, and what is still to be applied. -/

/-- Settings as merges leave them. -/
structure Settings where
  fields : OrderedMap String Json
  noNull : ∀ key, fields.get? key ≠ some .null

namespace Settings

variable {settings desired reported : Settings} {patch : OrderedMap String Json} {key : String}
  {value : Json}

def empty : Settings := ⟨∅, fun _ => by simp⟩

theorem get?_foldl_mergeEntry (entries : List (String × Json)) (obj : OrderedMap String Json) :
    (entries.foldl mergeEntry obj).get? key =
      match entries.reverse.lookup key with
      | none => obj.get? key
      | some value => if value = .null then none else some value := by
  induction entries generalizing obj with
  | nil => rfl
  | cons entry entries ih =>
    obtain ⟨k, v⟩ := entry
    rw [foldl_cons, ih, reverse_cons, lookup_append]
    cases entries.reverse.lookup key with
    | some value => rfl
    | none =>
      simp only [none_or, mergeEntry]
      by_cases hk : key = k
      · subst hk
        by_cases hv : v = .null
        · simp [hv, get?_remove]
        · simp [hv, get?_insert]
      · rw [InOrder.lookup_cons_of_ne hk, lookup_nil]
        by_cases hv : v = .null
        · simp [hv, hk, get?_remove]
        · simp [hv, hk, get?_insert]

theorem get?_merged (obj : OrderedMap String Json) :
    (patch.entries.foldl mergeEntry obj).get? key =
      match patch.get? key with
      | none => obj.get? key
      | some value => if value = .null then none else some value := by
  rw [get?_foldl_mergeEntry, lookup_reverse_entries]

/-- Merging a patch cannot bring a null in, whatever the patch holds. -/
def merge (settings : Settings) (patch : OrderedMap String Json) : Settings where
  fields := patch.entries.foldl mergeEntry settings.fields
  noNull key := by
    rw [get?_merged]
    cases patch.get? key with
    | none => exact settings.noNull key
    | some value =>
      by_cases hv : value = .null <;> simp [hv]

/-- The desired entries that are absent from the reported ones or differ there. -/
def pending (desired reported : Settings) : OrderedMap String Json :=
  desired.fields.filter fun entry => reported.fields.get? entry.1 ≠ some entry.2

theorem get?_pending : (desired.pending reported).get? key = some value ↔
    desired.fields.get? key = some value ∧ reported.fields.get? key ≠ some value := by
  simp [pending, get?_filter, filter_eq_some_iff]

theorem pending_merge_pending :
    desired.pending (reported.merge (desired.pending reported)) = ∅ := by
  refine ext_get? fun key => ?_
  rw [get?_empty, eq_none_iff_forall_ne_some]
  intro value hvalue
  obtain ⟨hdesired, hreported⟩ := get?_pending.mp hvalue
  have hmerged : (reported.merge (desired.pending reported)).fields.get? key =
      match (desired.pending reported).get? key with
      | none => reported.fields.get? key
      | some value => if value = .null then none else some value := get?_merged reported.fields
  rw [hmerged] at hreported
  by_cases hsame : reported.fields.get? key = some value
  · have hnot : (desired.pending reported).get? key = none := by
      rw [eq_none_iff_forall_ne_some]
      intro other hother
      obtain ⟨hd, hr⟩ := get?_pending.mp hother
      rw [Option.some.inj (hdesired.symm.trans hd)] at hsame
      exact hr hsame
    rw [hnot] at hreported
    exact hreported hsame
  · rw [get?_pending.mpr ⟨hdesired, hsame⟩] at hreported
    have hnull : value ≠ .null := fun h => desired.noNull key (h ▸ hdesired)
    simp [hnull] at hreported

end Settings

theorem computeDelta_ofMap (desired reported : Settings) :
    computeDelta (.ofMap desired.fields) (.ofMap reported.fields) =
      .ofMap (desired.pending reported) := by
  rw [computeDelta, Json.asObject_ofMap, Json.asObject_ofMap]
  show Json.ofMap _ = Json.ofMap _
  rw [Settings.pending, ← ofList_filter, ofList, foldl_filter]
  congr 2
  funext delta entry
  by_cases h : reported.fields.get? entry.1 = some entry.2 <;> simp [h]

@[simp] theorem objectOrEmpty_ofMap (map : OrderedMap String Json) :
    objectOrEmpty (.ofMap map) = .ofMap map := rfl

@[simp] theorem mergeJson_ofMap (settings : Settings) (patch : OrderedMap String Json) :
    mergeJson (.ofMap settings.fields) patch = .ofMap (settings.merge patch).fields := by
  rw [mergeJson, Json.asObject_ofMap]
  rfl

theorem nextVersion_eq_ok {version next : ℤ} :
    nextVersion version = .ok next ↔ version < 2147483647 ∧ next = version + 1 := by
  unfold nextVersion
  split_ifs with h
  · simp only [Except.ok.injEq]
    omega
  · simp only [false_iff]
    omega

namespace ShadowRecord

def ofSettings (deviceId : String) (desired reported : Settings) (version updatedAt : ℤ) :
    ShadowRecord :=
  ⟨deviceId, .ofMap desired.fields, .ofMap reported.fields, .ofMap (desired.pending reported),
    version, updatedAt⟩

def Consistent (record : ShadowRecord) : Prop :=
  ∃ desired reported,
    record = ofSettings record.deviceId desired reported record.version record.updatedAt

/-- What every applied change does to a record, besides its settings. -/
structure Succeeds (old new : ShadowRecord) : Prop where
  deviceId : new.deviceId = old.deviceId
  version : new.version = old.version + 1
  room : old.version < 2147483647
  consistent : new.Consistent

variable {old new : ShadowRecord} {patch : OrderedMap String Json} {deviceId : String}
  {version updatedAt : ℤ} {desired reported : Settings}

theorem applyDesiredPatch_ofSettings (now : ℤ) :
    applyDesiredPatch (ofSettings deviceId desired reported version updatedAt) patch now =
      (nextVersion version).map fun next =>
        ofSettings deviceId (desired.merge patch) reported next now := by
  simp only [applyDesiredPatch, ofSettings, objectOrEmpty_ofMap, mergeJson_ofMap,
    computeDelta_ofMap]
  cases nextVersion version <;> rfl

theorem applyReportedPatch_ofSettings (now : ℤ) :
    applyReportedPatch (ofSettings deviceId desired reported version updatedAt) patch now =
      (nextVersion version).map fun next =>
        ofSettings deviceId desired (reported.merge patch) next now := by
  simp only [applyReportedPatch, ofSettings, objectOrEmpty_ofMap, mergeJson_ofMap,
    computeDelta_ofMap]
  cases nextVersion version <;> rfl

theorem resetShadow_eq (now : ℤ) :
    resetShadow old now =
      (nextVersion old.version).map fun next => ofSettings old.deviceId .empty .empty next now := by
  unfold resetShadow
  cases nextVersion old.version <;> rfl

theorem succeeds_or_overflow {result : Except ShadowMutationError ShadowRecord}
    (h : result = (nextVersion old.version).map fun next =>
      ofSettings old.deviceId desired reported next updatedAt) :
    (∃ new, result = .ok new ∧ old.Succeeds new) ∨
      (result = .error .versionOverflow ∧ 2147483647 ≤ old.version) := by
  subst h
  by_cases hroom : old.version < 2147483647
  · rw [nextVersion_eq_ok.mpr ⟨hroom, rfl⟩]
    exact .inl ⟨_, rfl, rfl, rfl, hroom, desired, reported, rfl⟩
  · right
    rw [nextVersion, if_neg (by omega)]
    exact ⟨rfl, by omega⟩

theorem Consistent.desiredPatch (h : old.Consistent) (patch : OrderedMap String Json) (now : ℤ) :
    (∃ new, applyDesiredPatch old patch now = .ok new ∧ old.Succeeds new) ∨
      (applyDesiredPatch old patch now = .error .versionOverflow ∧ 2147483647 ≤ old.version) := by
  obtain ⟨desired, reported, hold⟩ := h
  apply succeeds_or_overflow
  conv_lhs => rw [hold]
  exact applyDesiredPatch_ofSettings now

theorem Consistent.reportedPatch (h : old.Consistent) (patch : OrderedMap String Json) (now : ℤ) :
    (∃ new, applyReportedPatch old patch now = .ok new ∧ old.Succeeds new) ∨
      (applyReportedPatch old patch now = .error .versionOverflow ∧
        2147483647 ≤ old.version) := by
  obtain ⟨desired, reported, hold⟩ := h
  apply succeeds_or_overflow
  conv_lhs => rw [hold]
  exact applyReportedPatch_ofSettings now

end ShadowRecord

namespace Shadows

variable {shadows : Shadows} {tenant device : String} {current updated : ShadowRecord}

theorem deviceId_of_getFrom (h : shadows.getFrom tenant device = some current) :
    current.deviceId = device := by
  obtain ⟨row, hrow, rfl⟩ := map_eq_some_iff.mp h
  exact congrArg Prod.snd (Table.find?_eq_some.mp hrow).2

theorem getFrom_store (h : shadows.getFrom tenant device = some current) {updated : ShadowRecord}
    (hid : updated.deviceId = device) :
    (shadows.store tenant updated).getFrom tenant device =
      some { updated with updatedAt := datetime (timestampMicros updated.updatedAt) } := by
  subst hid
  obtain ⟨row, hrow, rfl⟩ := map_eq_some_iff.mp h
  have hkey := (Table.find?_eq_some.mp hrow).2
  simp only [Prod.mk.injEq] at hkey
  rw [getFrom, store, Table.find?_update, hrow]
  simp [hkey, ShadowRow.decode]

theorem getFrom_store_of_ne {tenant' : String}
    (h : (tenant', updated.deviceId) ≠ (tenant, device)) :
    (shadows.store tenant' updated).getFrom tenant device = shadows.getFrom tenant device := by
  rw [getFrom, store, Table.find?_update]
  cases hrow : shadows.find? (tenant, device) with
  | none => simp [getFrom, hrow]
  | some row =>
    have hkey := (Table.find?_eq_some.mp hrow).2
    simp only [Prod.mk.injEq] at hkey
    have hne : ¬(row.tenantId = tenant' ∧ row.deviceId = updated.deviceId) := by
      rintro ⟨rfl, hd⟩
      exact h (Prod.ext hkey.1 (hd.symm.trans hkey.2))
    simp [getFrom, hrow, hne]

end Shadows

inductive ShadowOperation where
  | updateDesired (patch : OrderedMap String Json) (updatedAt : ℤ)
  | updateReported (patch : OrderedMap String Json) (updatedAt : ℤ)
  | reset (updatedAt : ℤ)
  | triggerOta (artifact : PreparedOtaArtifact) (firmwareId deploymentId now : ℤ)
  | finishOta (deploymentId now : ℤ)

namespace ShadowOperation

def run (operation : ShadowOperation) (shadows : Shadows) (tenant device : String) :
    Except PersistenceError (Shadows × Option ShadowRecord) :=
  match operation with
  | .updateDesired patch updatedAt => shadows.updateDesired tenant device patch updatedAt
  | .updateReported patch updatedAt => shadows.updateReported tenant device patch updatedAt
  | .reset updatedAt => shadows.reset tenant device updatedAt
  | .triggerOta artifact firmwareId deploymentId now =>
    shadows.triggerOta tenant device artifact firmwareId deploymentId now
  | .finishOta deploymentId now => shadows.finishOta tenant device deploymentId now

/-- The change an operation makes to the record it reads, if any. -/
def change (operation : ShadowOperation) (shadow : ShadowRecord) :
    Except ShadowMutationError (Option ShadowRecord) :=
  match operation with
  | .updateDesired patch updatedAt => (applyDesiredPatch shadow patch updatedAt).map some
  | .updateReported patch updatedAt => (applyReportedPatch shadow patch updatedAt).map some
  | .reset updatedAt => (resetShadow shadow updatedAt).map some
  | .triggerOta artifact firmwareId deploymentId now =>
    (applyDesiredPatch shadow (artifact.desiredPatch firmwareId deploymentId) now).map some
  | .finishOta deploymentId now => clearOtaForDeployment shadow deploymentId now

variable {operation : ShadowOperation} {shadows : Shadows} {tenant device : String}
  {current updated : ShadowRecord}

theorem run_eq (operation : ShadowOperation) (h : shadows.getFrom tenant device = some current) :
    operation.run shadows tenant device =
      (Shadows.corrupt (operation.change current)).map fun
        | some updated => (shadows.store tenant updated, some updated)
        | none => (shadows, none) := by
  cases operation with
  | updateDesired patch updatedAt =>
    simp only [run, Shadows.updateDesired, Shadows.mutate, h, change]
    cases applyDesiredPatch current patch updatedAt <;> rfl
  | updateReported patch updatedAt =>
    simp only [run, Shadows.updateReported, Shadows.mutate, h, change]
    cases applyReportedPatch current patch updatedAt <;> rfl
  | reset updatedAt =>
    simp only [run, Shadows.reset, Shadows.mutate, h, change]
    cases resetShadow current updatedAt <;> rfl
  | triggerOta artifact firmwareId deploymentId now =>
    simp only [run, Shadows.triggerOta, h, change]
    cases applyDesiredPatch current (artifact.desiredPatch firmwareId deploymentId) now <;> rfl
  | finishOta deploymentId now =>
    simp only [run, Shadows.finishOta, h, change]
    rcases clearOtaForDeployment current deploymentId now with e | ⟨_ | updated⟩ <;> rfl

theorem run_of_getFrom_none (h : shadows.getFrom tenant device = none) :
    operation.run shadows tenant device = .ok (shadows, none) ∨
      operation.run shadows tenant device = .error .notFound := by
  cases operation with
  | updateDesired => exact .inl (by simp only [run, Shadows.updateDesired, Shadows.mutate, h]; rfl)
  | updateReported =>
    exact .inl (by simp only [run, Shadows.updateReported, Shadows.mutate, h]; rfl)
  | reset => exact .inl (by simp only [run, Shadows.reset, Shadows.mutate, h]; rfl)
  | triggerOta => exact .inr (by simp only [run, Shadows.triggerOta, h]; rfl)
  | finishOta => exact .inl (by simp only [run, Shadows.finishOta, h]; rfl)

theorem deviceId_of_applyDesiredPatch {patch : OrderedMap String Json} {now : ℤ}
    (h : applyDesiredPatch current patch now = .ok updated) :
    updated.deviceId = current.deviceId := by
  obtain ⟨version, -, h⟩ := of_bind_ok h
  cases h
  rfl

theorem deviceId_of_change (h : operation.change current = .ok (some updated)) :
    updated.deviceId = current.deviceId := by
  have hmap {result : Except ShadowMutationError ShadowRecord}
      (h : result.map some = .ok (some updated)) : result = .ok updated := by
    cases result with
    | error => cases h
    | ok => cases h; rfl
  cases operation with
  | updateDesired => exact deviceId_of_applyDesiredPatch (hmap h)
  | updateReported =>
    obtain ⟨version, -, h⟩ := of_bind_ok (hmap h)
    cases h
    rfl
  | reset =>
    obtain ⟨version, -, h⟩ := of_bind_ok (hmap h)
    cases h
    rfl
  | triggerOta => exact deviceId_of_applyDesiredPatch (hmap h)
  | finishOta =>
    simp only [change, clearOtaForDeployment] at h
    split at h
    · cases h
    · exact deviceId_of_applyDesiredPatch (hmap h)

theorem change_cases (operation : ShadowOperation) (h : current.Consistent) :
    (∃ updated, operation.change current = .ok (some updated) ∧ current.Succeeds updated) ∨
      operation.change current = .ok none ∨
      (operation.change current = .error .versionOverflow ∧ 2147483647 ≤ current.version) := by
  have hmap {result : Except ShadowMutationError ShadowRecord}
      (h : (∃ new, result = .ok new ∧ current.Succeeds new) ∨
        (result = .error .versionOverflow ∧ 2147483647 ≤ current.version)) :
      (∃ updated, result.map some = .ok (some updated) ∧ current.Succeeds updated) ∨
        result.map some = .ok none ∨
        (result.map some = .error .versionOverflow ∧ 2147483647 ≤ current.version) := by
    rcases h with ⟨new, rfl, hnew⟩ | ⟨rfl, hversion⟩
    · exact .inl ⟨new, rfl, hnew⟩
    · exact .inr (.inr ⟨rfl, hversion⟩)
  cases operation with
  | updateDesired => exact hmap (h.desiredPatch _ _)
  | updateReported => exact hmap (h.reportedPatch _ _)
  | reset => exact hmap (ShadowRecord.succeeds_or_overflow (ShadowRecord.resetShadow_eq _))
  | triggerOta => exact hmap (h.desiredPatch _ _)
  | finishOta =>
    simp only [change, clearOtaForDeployment]
    split
    · exact .inr (.inl rfl)
    · exact hmap (h.desiredPatch _ _)

end ShadowOperation

structure ShadowStep where
  tenant : String
  device : String
  operation : ShadowOperation

namespace Shadows

variable {shadows : Shadows} {tenant device : String} {step : ShadowStep}

/-- A failed operation leaves the table as it was. -/
def apply (shadows : Shadows) (step : ShadowStep) : Shadows :=
  match step.operation.run shadows step.tenant step.device with
  | .ok (shadows', _) => shadows'
  | .error _ => shadows

/-- The step is an applied change to the shadow of the device. -/
def changes (shadows : Shadows) (tenant device : String) (step : ShadowStep) : Bool :=
  step.tenant = tenant && step.device = device &&
    match step.operation.run shadows tenant device with
    | .ok (_, some _) => true
    | _ => false

/-- The number of changes applied to the shadow of the device in the course of the steps. -/
def appliedChanges (tenant device : String) : Shadows → List ShadowStep → ℕ
  | _, [] => 0
  | shadows, step :: steps =>
    (if shadows.changes tenant device step then 1 else 0) +
      appliedChanges tenant device (shadows.apply step) steps

/-- The device has a consistent shadow of the given version. -/
def Tracks (tenant device : String) (shadows : Shadows) (version : ℤ) : Prop :=
  ∃ current, shadows.getFrom tenant device = some current ∧ current.Consistent ∧
    current.version = version ∧ version ≤ 2147483647

theorem getFrom_apply_of_ne (h : (step.tenant, step.device) ≠ (tenant, device)) :
    (shadows.apply step).getFrom tenant device = shadows.getFrom tenant device := by
  unfold apply
  cases hread : shadows.getFrom step.tenant step.device with
  | none =>
    rcases ShadowOperation.run_of_getFrom_none hread with hrun | hrun <;> rw [hrun]
  | some current =>
    rw [ShadowOperation.run_eq _ hread]
    rcases hchange : step.operation.change current with e | ⟨_ | updated⟩
    · rfl
    · rfl
    · have hid : updated.deviceId = step.device :=
        (ShadowOperation.deviceId_of_change hchange).trans (deviceId_of_getFrom hread)
      exact getFrom_store_of_ne (hid ▸ h)

variable {current : ShadowRecord} {version : ℤ}

/-- An operation on a consistent shadow is an applied change that stores the next
version, or it leaves the table as it was; a refusal is a lack of versions. -/
theorem apply_cases (hread : shadows.getFrom tenant device = some current)
    (hconsistent : current.Consistent) (operation : ShadowOperation) :
    (∃ updated, current.Succeeds updated ∧
      operation.run shadows tenant device = .ok (shadows.store tenant updated, some updated)) ∨
    operation.run shadows tenant device = .ok (shadows, none) ∨
    (operation.run shadows tenant device = .error (.corruptData "shadow version overflow") ∧
      2147483647 ≤ current.version) := by
  rw [operation.run_eq hread]
  rcases operation.change_cases hconsistent with
    ⟨updated, hchange, hnext⟩ | hchange | ⟨hchange, hversion⟩
  · rw [hchange]
    exact .inl ⟨updated, hnext, rfl⟩
  · rw [hchange]
    exact .inr (.inl rfl)
  · rw [hchange]
    exact .inr (.inr ⟨rfl, hversion⟩)

theorem Tracks.of_getFrom
    (hread : shadows.getFrom tenant device = some current) (hconsistent : current.Consistent)
    (hversion : current.version = version) (hbound : version ≤ 2147483647) {n : ℤ} (hn : n = 0) :
    Tracks tenant device shadows (version + n) := by
  subst hn
  exact ⟨current, hread, hconsistent, by omega, by omega⟩

theorem tracks_store {updated : ShadowRecord}
    (hread : shadows.getFrom tenant device = some current) (hnext : current.Succeeds updated) :
    Tracks tenant device (shadows.store tenant updated) (current.version + 1) := by
  have hid := hnext.deviceId.trans (deviceId_of_getFrom hread)
  have hroom := hnext.room
  obtain ⟨desired, reported, hupdated⟩ := hnext.consistent
  refine ⟨_, getFrom_store hread hid, ⟨desired, reported, ?_⟩, hnext.version, by omega⟩
  rw [hupdated]
  rfl

theorem Tracks.apply (h : Tracks tenant device shadows version) (step : ShadowStep) :
    Tracks tenant device (shadows.apply step)
      (version + if shadows.changes tenant device step then 1 else 0) := by
  obtain ⟨current, hread, hconsistent, rfl, hbound⟩ := h
  by_cases hkey : (step.tenant, step.device) = (tenant, device)
  · cases hkey
    rcases apply_cases hread hconsistent step.operation with
      ⟨updated, hnext, hrun⟩ | hrun | ⟨hrun, -⟩
    · have happly : shadows.apply step = shadows.store step.tenant updated := by
        rw [Shadows.apply, hrun]
      rw [happly, changes, hrun]
      simpa using tracks_store hread hnext
    · have happly : shadows.apply step = shadows := by
        rw [Shadows.apply, hrun]
      rw [happly]
      exact .of_getFrom hread hconsistent rfl hbound (by simp [changes, hrun])
    · have happly : shadows.apply step = shadows := by
        rw [Shadows.apply, hrun]
      rw [happly]
      exact .of_getFrom hread hconsistent rfl hbound (by simp [changes, hrun])
  · have hother : ¬(step.tenant = tenant ∧ step.device = device) :=
      fun h => hkey (Prod.ext h.1 h.2)
    refine .of_getFrom ((getFrom_apply_of_ne hkey).trans hread) hconsistent rfl hbound ?_
    simp only [changes, Bool.and_eq_true, decide_eq_true_eq]
    simp [hother]

theorem Tracks.run (h : Tracks tenant device shadows version) (steps : List ShadowStep) :
    Tracks tenant device (steps.foldl Shadows.apply shadows)
      (version + appliedChanges tenant device shadows steps) := by
  induction steps generalizing shadows version with
  | nil => simpa [appliedChanges] using h
  | cons step steps ih =>
    have hrest := ih (h.apply step)
    rw [foldl_cons, appliedChanges]
    convert hrest using 1
    push_cast
    split_ifs <;> omega

theorem tracks_created {now : ℤ} (h : shadows.find? (tenant, device) = some (created tenant device now)) :
    Tracks tenant device shadows 1 := by
  refine ⟨_, congrArg (Option.map ShadowRow.decode) h, ⟨.empty, .empty, rfl⟩, rfl, by omega⟩

theorem apply_updateReported_pending {deviceId : String} {desired reported : Settings}
    {updatedAt : ℤ}
    (hread : shadows.getFrom tenant device =
      some (.ofSettings deviceId desired reported version updatedAt))
    (hroom : version < 2147483647) (now : ℤ) :
    ∃ row, (shadows.apply
        ⟨tenant, device, .updateReported (desired.pending reported) now⟩).find? (tenant, device) =
      some row ∧ row.delta = .ofMap ∅ := by
  have hrun := ShadowOperation.run_eq (.updateReported (desired.pending reported) now) hread
  simp only [ShadowOperation.change, ShadowRecord.applyReportedPatch_ofSettings,
    nextVersion_eq_ok.mpr ⟨hroom, rfl⟩] at hrun
  rw [Shadows.apply, hrun]
  have hid : deviceId = device := deviceId_of_getFrom hread
  have hstored : (shadows.store tenant (.ofSettings deviceId desired
      (reported.merge (desired.pending reported)) (version + 1) now)).getFrom tenant device = _ :=
    getFrom_store hread hid
  obtain ⟨row, hrow, hdecode⟩ := map_eq_some_iff.mp hstored
  refine ⟨row, hrow, ?_⟩
  calc row.delta = .ofMap (desired.pending (reported.merge (desired.pending reported))) :=
        congrArg ShadowRecord.delta hdecode
    _ = .ofMap ∅ := by rw [Settings.pending_merge_pending]

def heater : Shadows := ⟨[created "acme" "heater" 0], by simp⟩

/-- A setting is asked for and reported, a deployment starts and ends, another
tenant's device is reset. -/
def heaterDay : List ShadowStep :=
  [⟨"acme", "heater", .updateDesired (.ofList [("target", .integer 21), ("mode", .null)]) 1000⟩,
   ⟨"acme", "heater", .triggerOta ⟨"1.1", "https://fw", "00"⟩ 4 9 2000⟩,
   ⟨"acme", "heater", .updateReported (.ofList [("target", .integer 21)]) 3000⟩,
   ⟨"other", "heater", .reset 4000⟩,
   ⟨"acme", "heater", .finishOta 8 5000⟩,
   ⟨"acme", "heater", .finishOta 9 6000⟩]

end Shadows

end Extrittio
