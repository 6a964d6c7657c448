import Extrittio.Firmware.Repository

/-!
Installation of a native image: the executable, a copy of the image it replaced and a
journal of the attempt, each a file that is only ever replaced as a whole. A call takes
the lock of the device, reads what it needs and then replaces its files one after
another, so that it is given here by the replacements it is about to make and by what
it returns after them. Reading and locking that fail end a call before its first write.
-/
namespace Extrittio

abbrev Image := List UInt8

/-- `digest`, of which only that it tells images apart is used. -/
structure ImageDigest where
  hex : Image → String
  injective : Function.Injective hex

structure OtaPayload where
  deploymentId : ℤ
  firmwareVersion : String
  firmwareUrl : String
  firmwareUpdateId : Option ℤ
  sha256 : Option String
  deriving DecidableEq

/-- The limits are those the server puts on an artifact. -/
def OtaPayload.fromJson (value : Json) : Option OtaPayload := do
  let hash ← (← value.get "sha256").asStr
  let version ← (← value.get "firmware_version").asStr
  let url ← (← value.get "firmware_url").asStr
  let deploymentId ← (← value.get "deployment_id").asI64
  let firmwareUpdateId ← (← value.get "firmware_update_id").asI64
  if validOtaArtifact version (some hash) url = false ∨ deploymentId ≤ 0 ∨ firmwareUpdateId ≤ 0 then
    none
  else
    some ⟨deploymentId, version, url, some firmwareUpdateId, some hash⟩

/-- Report of an attempt in the shadow of the device. -/
def buildStatusJson (status fwVersion : String) (fwUpdateId : Option ℤ) (deploymentId : ℤ)
    (error : Option String) : Json :=
  let obj : OrderedMap String Json :=
    .ofList [("status", .string status), ("firmware_version", .string fwVersion),
      ("deployment_id", .integer deploymentId)]
  let obj := match fwUpdateId with
    | some id => obj.insert "firmware_update_id" (.integer id)
    | none => obj
  let obj := match error with
    | some err => obj.insert "error" (.string err)
    | none => obj
  .ofMap obj

inductive InstallationPhase where
  | pending
  | booting
  | confirmed
  | rolledBack
  deriving DecidableEq

/-- `.ota-state`: the attempt that the device is about to try, tries or has tried last. -/
structure InstallationJournal where
  phase : InstallationPhase
  payload : Json
  digest : String
  previousDigest : String
  previousVersion : String
  version : String
  deriving DecidableEq

def InstallationJournal.deploymentId (state : InstallationJournal) : Option ℤ :=
  (state.payload.get "deployment_id").bind Json.asI64

/-- `pending` or `booting`: the attempt has not ended. -/
def InstallationJournal.isOpen (state : InstallationJournal) : Bool :=
  state.phase = .pending || state.phase = .booting

structure DeviceFiles where
  executable : Image
  previous : Option Image
  state : Option InstallationJournal
  deriving DecidableEq

/-- `atomic_write`: one of the files is replaced. -/
inductive FileWrite where
  | executable (bytes : Image)
  | previous (bytes : Image)
  | state (journal : InstallationJournal)
  deriving DecidableEq

def DeviceFiles.perform (files : DeviceFiles) : FileWrite → DeviceFiles
  | .executable bytes => { files with executable := bytes }
  | .previous bytes => { files with previous := some bytes }
  | .state journal => { files with state := some journal }

inductive CallResult where
  | done
  | version (version : Option String)
  | report (report : Option Json)
  | error (message : String)
  deriving DecidableEq

structure NativeCall where
  writes : List FileWrite
  result : CallResult
  deriving DecidableEq

/-- What `confirm` returns for the phase the journal is in by then. -/
def InstallationJournal.terminalReport (state : InstallationJournal) : CallResult :=
  let report (status : String) (error : Option String) : CallResult :=
    match OtaPayload.fromJson state.payload with
    | none => .error "Invalid installation journal"
    | some payload =>
      .report (some (buildStatusJson status payload.firmwareVersion payload.firmwareUpdateId
        payload.deploymentId error))
  match state.phase with
  | .confirmed => report "success" none
  | .rolledBack => report "failed" (some "Startup health check failed; previous image restored")
  | .pending | .booting => .report none

namespace ImageDigest

variable (digest : ImageDigest) (files : DeviceFiles)

/-- Preserve the running image before replacing it. The watchdog is started between the
last two writes. -/
def install (bytes : Image) (payload : Json) (previousVersion : String) : NativeCall :=
  match OtaPayload.fromJson payload with
  | none => ⟨[], .error "Invalid OTA manifest"⟩
  | some parsed =>
    let state : InstallationJournal :=
      { phase := .pending
        payload := payload
        digest := digest.hex bytes
        previousDigest := digest.hex files.executable
        previousVersion := previousVersion
        version := "v" ++ String.ofList (parsed.firmwareVersion.toList.dropWhile (· = 'v')) }
    ⟨[.previous files.executable, .state state, .executable bytes], .done⟩

def rollback (attempt : Option ℤ) : NativeCall :=
  match files.state with
  | none => ⟨[], .done⟩
  | some state =>
    if attempt = none ∨ state.deploymentId ≠ attempt ∨ state.isOpen = false then ⟨[], .done⟩
    else match files.previous with
      | none => ⟨[], .error "No such file or directory"⟩
      | some previous =>
        if state.previousDigest ≠ digest.hex previous then
          ⟨[], .error "Rollback image integrity failure"⟩
        else
          ⟨[.executable previous, .state { state with phase := .rolledBack }], .done⟩

/-- Called by an image that starts; what it returns is the version that runs. -/
def boot : NativeCall :=
  match files.state with
  | none => ⟨[], .version none⟩
  | some state =>
    let hash := digest.hex files.executable
    if state.phase = .rolledBack ∧ state.previousDigest = hash then
      ⟨[], .version (some state.previousVersion)⟩
    else if state.digest ≠ hash then ⟨[], .version none⟩
    else if state.isOpen then
      ⟨[.state { state with phase := .booting }], .version (some state.version)⟩
    else ⟨[], .version (some state.version)⟩

/-- Called once the image has held its session. The report may be sent again. -/
def confirm : NativeCall :=
  match files.state with
  | none => ⟨[], .report none⟩
  | some state =>
    let hash := digest.hex files.executable
    if state.phase = .confirmed ∧ state.digest ≠ hash then ⟨[], .report none⟩
    else if state.phase = .booting then
      if state.digest ≠ hash then ⟨[], .error "Installed image changed"⟩
      else
        let state := { state with phase := .confirmed }
        ⟨[.state state], state.terminalReport⟩
    else ⟨[], state.terminalReport⟩

end ImageDigest

section

variable {value : Json} {parsed : OtaPayload}

theorem OtaPayload.deploymentId_of_fromJson (h : OtaPayload.fromJson value = some parsed) :
    (value.get "deployment_id").bind Json.asI64 = some parsed.deploymentId := by
  simp only [OtaPayload.fromJson, Option.bind_eq_bind, Option.bind_eq_some_iff] at h
  obtain ⟨_, -, hash, -, _, -, version, -, _, -, url, -, field, hfield, id, hid, _, -, updateId, -,
    hrest⟩ := h
  split at hrest
  · cases hrest
  · cases hrest
    exact Option.bind_eq_some_iff.mpr ⟨field, hfield, hid⟩

end

section

variable {status version : String} {updateId : Option ℤ} {id : ℤ} {error : Option String}

@[simp] theorem get_status_buildStatusJson :
    (buildStatusJson status version updateId id error).get "status" = some (.string status) := by
  cases updateId <;> cases error <;> simp [buildStatusJson, OrderedMap.get?_insert,
    OrderedMap.get?_ofList, List.lookup]

@[simp] theorem get_deploymentId_buildStatusJson :
    (buildStatusJson status version updateId id error).get "deployment_id" =
      some (.integer id) := by
  cases updateId <;> cases error <;> simp [buildStatusJson, OrderedMap.get?_insert,
    OrderedMap.get?_ofList]

end

section

variable {digest : ImageDigest} {files : DeviceFiles}

namespace InstallationJournal

variable {state : InstallationJournal} {report : Json}

theorem isOpen_iff : state.isOpen ↔ state.phase = .pending ∨ state.phase = .booting := by
  simp [isOpen]

theorem terminalReport_eq_report (h : state.terminalReport = .report (some report)) :
    ∃ parsed, OtaPayload.fromJson state.payload = some parsed ∧
      report.get "deployment_id" = some (.integer parsed.deploymentId) ∧
      (state.phase = .confirmed ∧ report.get "status" = some (.string "success") ∨
        state.phase = .rolledBack ∧ report.get "status" = some (.string "failed")) := by
  unfold terminalReport at h
  cases hpayload : OtaPayload.fromJson state.payload with
  | none => cases hphase : state.phase <;> simp [hphase, hpayload] at h
  | some parsed =>
    cases hphase : state.phase with
    | pending | booting => simp [hphase] at h
    | confirmed | rolledBack =>
      simp only [hphase, hpayload, CallResult.report.injEq, Option.some.injEq] at h
      subst h
      exact ⟨parsed, rfl, by simp, by simp⟩

end InstallationJournal

namespace ImageDigest

variable {attempt : Option ℤ}

variable (digest files attempt) in
/-- A watchdog acts only for the attempt in the journal, while that is open and the
copy is the image the journal says was replaced. -/
theorem rollback_writes : (digest.rollback files attempt).writes = [] ∨
    ∃ state previous, files.state = some state ∧ files.previous = some previous ∧
      state.isOpen ∧ attempt ≠ none ∧ state.deploymentId = attempt ∧
      state.previousDigest = digest.hex previous ∧ (digest.rollback files attempt).writes =
        [.executable previous, .state { state with phase := .rolledBack }] := by
  unfold rollback
  cases hstate : files.state with
  | none => exact .inl rfl
  | some state =>
    by_cases hguard : attempt = none ∨ state.deploymentId ≠ attempt ∨ state.isOpen = false
    · simp [hguard]
    · push Not at hguard
      obtain ⟨hsome, hid, hopen⟩ := hguard
      cases hprevious : files.previous with
      | none => simp [hsome, hid, hopen]
      | some previous =>
        by_cases hdigest : state.previousDigest = digest.hex previous
        · exact .inr ⟨state, previous, rfl, rfl, by simpa using hopen, hsome, hid, hdigest,
            by simp [hsome, hid, hopen, hdigest]⟩
        · simp [hsome, hid, hopen, hdigest]

theorem rollback_result (report : Option Json) :
    (digest.rollback files attempt).result ≠ .report report := by
  unfold rollback
  repeat' split
  all_goals nofun

variable (digest files) in
theorem boot_writes : (digest.boot files).writes = [] ∨
    ∃ state, files.state = some state ∧ state.isOpen ∧
      (digest.boot files).writes = [.state { state with phase := .booting }] := by
  unfold boot
  cases hstate : files.state with
  | none => exact .inl rfl
  | some state =>
    dsimp only
    split
    · exact .inl rfl
    · split
      · exact .inl rfl
      · split
        · next hopen => exact .inr ⟨state, rfl, hopen, rfl⟩
        · exact .inl rfl

theorem boot_result (report : Option Json) : (digest.boot files).result ≠ .report report := by
  unfold boot
  dsimp only
  repeat' split
  all_goals nofun

variable (digest files) in
theorem confirm_writes : (digest.confirm files).writes = [] ∨
    ∃ state, files.state = some state ∧ state.phase = .booting ∧
      (digest.confirm files).writes = [.state { state with phase := .confirmed }] := by
  unfold confirm
  cases hstate : files.state with
  | none => exact .inl rfl
  | some state =>
    dsimp only
    split
    · exact .inl rfl
    · split
      · next hbooting =>
        split
        · exact .inl rfl
        · exact .inr ⟨state, rfl, hbooting, rfl⟩
      · exact .inl rfl

/-- What `confirm` reports is read off a journal that it leaves behind, and an attempt is
confirmed only for the image that the executable is. -/
theorem confirm_report {report : Json} (h : (digest.confirm files).result = .report (some report)) :
    ∃ state, state.terminalReport = .report (some report) ∧
      (state.phase = .confirmed → state.digest = digest.hex files.executable) ∧
      ((digest.confirm files).writes = [] ∧ files.state = some state ∨
        (digest.confirm files).writes = [.state state]) := by
  unfold confirm at h ⊢
  cases hstate : files.state with
  | none => simp [hstate] at h
  | some state =>
    simp only [hstate] at h ⊢
    by_cases hchanged : state.phase = .confirmed ∧ state.digest ≠ digest.hex files.executable
    · rw [if_pos hchanged] at h
      cases h
    simp only [if_neg hchanged] at h ⊢
    by_cases hbooting : state.phase = .booting
    · simp only [if_pos hbooting] at h ⊢
      split at h
      · cases h
      · next hsame =>
        push Not at hsame
        exact ⟨{ state with phase := .confirmed }, h, fun _ => hsame, .inr (by simp [hsame])⟩
    · simp only [if_neg hbooting] at h ⊢
      refine ⟨state, h, fun hconfirmed => ?_, by simp⟩
      by_contra hne
      exact hchanged ⟨hconfirmed, hne⟩

end ImageDigest

end

end Extrittio
