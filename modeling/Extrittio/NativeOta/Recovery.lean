import Extrittio.NativeOta.Calls

/-!
Runs of a device over its three files. The lock lets one call at a time through, and a
call may be cut off before any of its writes, by a crash or by a write that fails; `boot`
and `confirm` do not even take the lock when there is no journal, and then do nothing.
Beside the files a run keeps what its statements speak of: every attempt with the image
it was given and the image it found, and every image that a watchdog put back.
-/
namespace Extrittio

open Relational Transition List Option InstallationJournal
open ImageDigest hiding install rollback boot confirm

structure InstallAttempt where
  deploymentId : ℤ
  image : Image
  before : Image
  deriving DecidableEq

inductive NativeCaller where
  | install
  | rollback (attempt : Option ℤ)
  | boot
  | confirm
  deriving DecidableEq

structure NativeDevice where
  files : DeviceFiles
  /-- The call that holds the lock, with the writes it has still to make. -/
  running : Option (NativeCaller × NativeCall)
  attempts : Table InstallAttempt InstallAttempt.deploymentId
  restored : List (ℤ × Image)

inductive NativeStep where
  | install (bytes : Image) (payload : Json) (previousVersion : String)
  | rollback (attempt : Option ℤ)
  | boot
  | confirm
  /-- The next write of the running call. -/
  | write
  /-- The running call returns. -/
  | finish
  | crash
  deriving DecidableEq

namespace NativeDevice

def start (original : Image) : NativeDevice := ⟨⟨original, none, none⟩, none, .empty, []⟩

def restoredBy (restored : List (ℤ × Image)) : NativeCaller → FileWrite → List (ℤ × Image)
  | .rollback (some id), .executable bytes => (id, bytes) :: restored
  | _, _ => restored

/-- The call makes one write and has the others left. -/
def advance (d : NativeDevice) (caller : NativeCaller) (write : FileWrite)
    (rest : NativeCall) : NativeDevice :=
  { d with
    files := d.files.perform write
    running := some (caller, rest)
    restored := restoredBy d.restored caller write }

def apply (digest : ImageDigest) (d : NativeDevice) : NativeStep → NativeDevice
  | .install bytes payload previousVersion =>
    let attempts := match OtaPayload.fromJson payload with
      | none => d.attempts
      | some parsed =>
        (d.attempts.insert? ⟨parsed.deploymentId, bytes, d.files.executable⟩).getD d.attempts
    { d with
      running := some (.install, digest.install d.files bytes payload previousVersion)
      attempts := attempts }
  | .rollback attempt =>
    { d with running := some (.rollback attempt, digest.rollback d.files attempt) }
  | .boot => { d with running := some (.boot, digest.boot d.files) }
  | .confirm => { d with running := some (.confirm, digest.confirm d.files) }
  | .write =>
    match d.running with
    | some (caller, ⟨write :: writes, result⟩) => d.advance caller write ⟨writes, result⟩
    | _ => d
  | .finish | .crash => { d with running := none }

/-- Calls wait for the lock, and each attempt comes with a deployment id of its own. -/
def enabled (d : NativeDevice) : NativeStep → Prop
  | .install _ payload _ =>
    d.running = none ∧ ∀ parsed, OtaPayload.fromJson payload = some parsed →
      d.attempts.find? parsed.deploymentId = none
  | .rollback _ | .boot | .confirm => d.running = none
  | .write => ∃ caller write writes result, d.running = some (caller, ⟨write :: writes, result⟩)
  | .finish => ∃ caller result, d.running = some (caller, ⟨[], result⟩)
  | .crash => True

def machine (digest : ImageDigest) : Machine NativeDevice NativeStep := ⟨enabled, apply digest⟩

/-- The original image or one that an attempt was given. -/
def Known (original : Image) (d : NativeDevice) (bytes : Image) : Prop :=
  bytes = original ∨ ∃ attempt ∈ d.attempts, bytes = attempt.image

end NativeDevice

/-- The journal is that of an attempt. -/
structure InstallationJournal.Describes (digest : ImageDigest) (state : InstallationJournal)
    (attempt : InstallAttempt) : Prop where
  payload : ∃ parsed, OtaPayload.fromJson state.payload = some parsed ∧
    parsed.deploymentId = attempt.deploymentId
  image : state.digest = digest.hex attempt.image
  before : state.previousDigest = digest.hex attempt.before

theorem InstallationJournal.Describes.deploymentId {digest : ImageDigest}
    {state : InstallationJournal} {attempt : InstallAttempt} (h : state.Describes digest attempt) :
    state.deploymentId = some attempt.deploymentId := by
  obtain ⟨parsed, hparsed, hid⟩ := h.payload
  rw [← hid]
  exact OtaPayload.deploymentId_of_fromJson hparsed

namespace NativeDevice

section

variable (digest : ImageDigest) (original : Image) (d : NativeDevice)

/-- An attempt that the journal calls rolled back has had its old image put back. -/
def Tracked (state : InstallationJournal) : Prop :=
  ∃ attempt ∈ d.attempts, state.Describes digest attempt ∧
    (state.phase = .rolledBack → (attempt.deploymentId, attempt.before) ∈ d.restored)

/-- Writes that leave the files sound wherever the call is cut off. -/
def Allowed : FileWrite → Prop
  | .executable bytes => Known original d bytes
  | .previous _ => True
  | .state state => Tracked digest d state

/-- Only a watchdog's journal entry has to wait for the write before it. -/
def Underway (caller : NativeCaller) (writes : List FileWrite) : Prop :=
  (∀ write ∈ writes, Allowed digest original d write) ∨
    ∃ attempt ∈ d.attempts, ∃ state : InstallationJournal, state.Describes digest attempt ∧
      caller = .rollback (some attempt.deploymentId) ∧
      writes = [.executable attempt.before, .state { state with phase := .rolledBack }]

/-- A report is that of the journal as the call leaves it. -/
def Reporting (call : NativeCall) : Prop :=
  ∀ report, call.result = .report (some report) →
    ∃ state : InstallationJournal, state.terminalReport = .report (some report) ∧
      (state.phase = .confirmed → state.digest = digest.hex d.files.executable) ∧
      (call.writes = [] ∧ d.files.state = some state ∨ call.writes = [.state state])

/-- What holds of the three files before and after every single write. -/
structure Recoverable : Prop where
  executable : Known original d d.files.executable
  before : ∀ attempt ∈ d.attempts, Known original d attempt.before
  journal : ∀ state, d.files.state = some state → Tracked digest d state
  underway : ∀ caller call, d.running = some (caller, call) →
    Underway digest original d caller call.writes
  reporting : ∀ caller call, d.running = some (caller, call) → Reporting digest d call

end

variable {digest : ImageDigest} {original : Image} {d d' : NativeDevice}

section

variable (hattempts : ∀ attempt ∈ d.attempts, attempt ∈ d'.attempts)
include hattempts

theorem Known.mono {bytes : Image} (h : Known original d bytes) : Known original d' bytes := by
  obtain rfl | ⟨attempt, hmem, heq⟩ := h
  · exact .inl rfl
  · exact .inr ⟨attempt, hattempts attempt hmem, heq⟩

theorem Tracked.mono {state : InstallationJournal} (hrestored : d.restored ⊆ d'.restored)
    (h : Tracked digest d state) : Tracked digest d' state := by
  obtain ⟨attempt, hmem, hdescribes, hback⟩ := h
  exact ⟨attempt, hattempts attempt hmem, hdescribes, fun hphase => hrestored (hback hphase)⟩

theorem Allowed.mono {write : FileWrite} (hrestored : d.restored ⊆ d'.restored)
    (h : Allowed digest original d write) : Allowed digest original d' write := by
  cases write with
  | executable bytes => exact Known.mono hattempts h
  | previous bytes => trivial
  | state state => exact Tracked.mono hattempts hrestored h

end

theorem recoverable_start : Recoverable digest original (start original) where
  executable := .inl rfl
  before := nofun
  journal := nofun
  underway := nofun
  reporting := nofun

namespace Recoverable

theorem begin {caller : NativeCaller} {call : NativeCall} (h : Recoverable digest original d)
    (hunderway : Underway digest original d caller call.writes)
    (hreporting : Reporting digest d call) :
    Recoverable digest original { d with running := some (caller, call) } where
  executable := h.executable
  before := h.before
  journal := h.journal
  underway := by
    rintro _ _ ⟨⟩
    exact hunderway
  reporting := by
    rintro _ _ ⟨⟩
    exact hreporting

theorem release (h : Recoverable digest original d) :
    Recoverable digest original { d with running := none } where
  executable := h.executable
  before := h.before
  journal := h.journal
  underway := nofun
  reporting := nofun

theorem tracked_phase (h : Recoverable digest original d) {state : InstallationJournal}
    (hstate : d.files.state = some state) {phase : InstallationPhase} (hphase : phase ≠ .rolledBack) :
    Tracked digest d { state with phase := phase } := by
  obtain ⟨attempt, hmem, hdescribes, -⟩ := h.journal state hstate
  exact ⟨attempt, hmem, ⟨hdescribes.payload, hdescribes.image, hdescribes.before⟩,
    fun hback => absurd hback hphase⟩

theorem installed (h : Recoverable digest original d) (hfree : d.running = none)
    {attempt : InstallAttempt} {attempts : Table InstallAttempt InstallAttempt.deploymentId}
    (hinsert : d.attempts.insert? attempt = some attempts)
    (hbefore : attempt.before = d.files.executable) :
    Recoverable digest original { d with attempts := attempts } := by
  have hmem {other : InstallAttempt} : other ∈ attempts ↔ other ∈ d.attempts ∨ other = attempt :=
    Table.mem_of_insert? hinsert
  have hgrow : ∀ other ∈ d.attempts, other ∈ attempts := fun other hother => hmem.mpr (.inl hother)
  refine ⟨Known.mono hgrow h.executable, fun other hother => ?_, fun state hstate => ?_, ?_, ?_⟩
  · obtain hold | rfl := hmem.mp hother
    · exact Known.mono hgrow (h.before other hold)
    · rw [hbefore]
      exact Known.mono hgrow h.executable
  · exact Tracked.mono (d := d) hgrow (List.Subset.refl _) (h.journal state hstate)
  · simp [hfree]
  · simp [hfree]

theorem install (h : Recoverable digest original d) {bytes : Image} {payload : Json}
    {previousVersion : String} (henabled : d.enabled (.install bytes payload previousVersion)) :
    Recoverable digest original (d.apply digest (.install bytes payload previousVersion)) := by
  obtain ⟨hfree, hfresh⟩ := henabled
  cases hparsed : OtaPayload.fromJson payload with
  | none =>
    simp only [apply, hparsed, ImageDigest.install]
    exact h.begin (.inl nofun) nofun
  | some parsed =>
    have hnew := Table.find?_eq_none.mp (hfresh parsed hparsed)
    obtain ⟨attempts, hinsert⟩ : ∃ attempts, d.attempts.insert?
        ⟨parsed.deploymentId, bytes, d.files.executable⟩ = some attempts :=
      ne_none_iff_exists'.mp fun hnone => by
        obtain ⟨other, hother, hsame⟩ := Table.insert?_eq_none.mp hnone
        exact hnew other hother hsame
    have hmem := (Table.mem_of_insert? hinsert).mpr (.inr rfl)
    simp only [apply, hparsed, hinsert, getD_some, ImageDigest.install]
    refine (h.installed hfree hinsert rfl).begin (.inl ?_) nofun
    -- the copy may be anything; the journal and the image are those of the attempt
    intro write hwrite
    simp only [mem_cons, not_mem_nil, or_false] at hwrite
    obtain rfl | rfl | rfl := hwrite
    · trivial
    · exact ⟨_, hmem, ⟨⟨parsed, hparsed, rfl⟩, rfl, rfl⟩, nofun⟩
    · exact .inr ⟨_, hmem, rfl⟩

theorem rollback (h : Recoverable digest original d) (attempt : Option ℤ) :
    Recoverable digest original (d.apply digest (.rollback attempt)) := by
  refine h.begin ?_ fun report hreport => absurd hreport (rollback_result _)
  obtain hnone | ⟨state, previous, hstate, -, -, -, hid, hdigest, hwrites⟩ :=
    rollback_writes digest d.files attempt
  · rw [hnone]
    exact .inl nofun
  · obtain ⟨begun, hmem, hdescribes, -⟩ := h.journal state hstate
    have hprevious : begun.before = previous := digest.injective (hdescribes.before.symm.trans hdigest)
    refine .inr ⟨begun, hmem, state, hdescribes, ?_, ?_⟩
    · rw [← hid, hdescribes.deploymentId]
    · rw [hwrites, hprevious]

theorem boot (h : Recoverable digest original d) :
    Recoverable digest original (d.apply digest .boot) := by
  refine h.begin (.inl ?_) fun report hreport => absurd hreport (boot_result _)
  obtain hnone | ⟨state, hstate, -, hwrites⟩ :=
    boot_writes digest d.files
  · rw [hnone]
    nofun
  · rw [hwrites]
    intro write hwrite
    obtain rfl := mem_singleton.mp hwrite
    exact h.tracked_phase hstate nofun

theorem confirm (h : Recoverable digest original d) :
    Recoverable digest original (d.apply digest .confirm) := by
  refine h.begin (.inl ?_) fun report hreport => confirm_report hreport
  obtain hnone | ⟨state, hstate, -, hwrites⟩ :=
    confirm_writes digest d.files
  · rw [hnone]
    nofun
  · rw [hwrites]
    intro write hwrite
    obtain rfl := mem_singleton.mp hwrite
    exact h.tracked_phase hstate nofun

end Recoverable

theorem restored_subset (restored : List (ℤ × Image)) (caller : NativeCaller) (write : FileWrite) :
    restored ⊆ restoredBy restored caller write := by
  unfold restoredBy
  split
  · exact subset_cons_self _ _
  · exact List.Subset.refl _

section

variable {caller : NativeCaller} {write : FileWrite} {writes : List FileWrite} {result : CallResult}

/-- The next write of a call is allowed, and once it is made so is what follows. -/
theorem Underway.next (h : Underway digest original d caller (write :: writes))
    (hbefore : ∀ attempt ∈ d.attempts, Known original d attempt.before) (rest : NativeCall) :
    Allowed digest original d write ∧
      ∀ next ∈ writes, Allowed digest original (d.advance caller write rest) next := by
  obtain hall | ⟨attempt, hmem, state, hdescribes, rfl, hwrites⟩ := h
  · refine ⟨hall write mem_cons_self, fun next hnext => ?_⟩
    refine Allowed.mono ?_ (restored_subset _ _ _) (hall next (mem_cons_of_mem _ hnext))
    exact fun _ hmem => hmem
  · obtain ⟨rfl, rfl⟩ := List.cons.inj hwrites
    refine ⟨hbefore attempt hmem, fun next hnext => ?_⟩
    obtain rfl := mem_singleton.mp hnext
    exact ⟨attempt, hmem, ⟨hdescribes.payload, hdescribes.image, hdescribes.before⟩,
      fun _ => mem_cons_self⟩

theorem Reporting.next (h : Reporting digest d ⟨write :: writes, result⟩) :
    Reporting digest (d.advance caller write ⟨writes, result⟩) ⟨writes, result⟩ := by
  intro report hreport
  obtain ⟨state, hterminal, hconfirmed, ⟨hnone, -⟩ | hwrites⟩ := h report hreport
  · cases hnone
  · obtain ⟨rfl, rfl⟩ := List.cons.inj hwrites
    exact ⟨state, hterminal, hconfirmed, .inl ⟨rfl, rfl⟩⟩

theorem Allowed.executable (h : Allowed digest original d write)
    (hexecutable : Known original d d.files.executable) :
    Known original d (d.files.perform write).executable := by
  cases write with
  | executable bytes => exact h
  | previous bytes => exact hexecutable
  | state state => exact hexecutable

theorem Allowed.journal (h : Allowed digest original d write)
    (hjournal : ∀ state, d.files.state = some state → Tracked digest d state) :
    ∀ state, (d.files.perform write).state = some state → Tracked digest d state := by
  cases write with
  | executable bytes => exact hjournal
  | previous bytes => exact hjournal
  | state state =>
    rintro _ ⟨⟩
    exact h

end

theorem Recoverable.write (h : Recoverable digest original d) (henabled : d.enabled .write) :
    Recoverable digest original (d.apply digest .write) := by
  obtain ⟨caller, write, writes, result, hrunning⟩ := henabled
  simp only [apply, hrunning]
  obtain ⟨hwrite, hrest⟩ := (h.underway caller _ hrunning).next h.before ⟨writes, result⟩
  refine ⟨hwrite.executable h.executable, h.before, fun state hstate => ?_, ?_, ?_⟩
  · refine Tracked.mono ?_ (restored_subset _ _ _) (hwrite.journal h.journal state hstate)
    exact fun _ hmem => hmem
  · rintro _ _ ⟨⟩
    exact .inl hrest
  · rintro _ _ ⟨⟩
    exact (h.reporting caller _ hrunning).next

/-- One step lemma for all steps. -/
theorem Recoverable.preserved (h : Recoverable digest original d) {step : NativeStep}
    (henabled : d.enabled step) : Recoverable digest original (d.apply digest step) := by
  cases step with
  | install bytes payload previousVersion => exact h.install henabled
  | rollback attempt => exact h.rollback attempt
  | boot => exact h.boot
  | confirm => exact h.confirm
  | write => exact h.write henabled
  | finish => exact h.release
  | crash => exact h.release

theorem recoverable_run {steps : List NativeStep}
    (h : (machine digest).Run (start original) steps d) : Recoverable digest original d :=
  h.invariant (I := Recoverable digest original) (fun _ _ hi henabled => hi.preserved henabled)
    recoverable_start

section

variable {report : Json} {caller : NativeCaller} {id : ℤ}

theorem Recoverable.reported (h : Recoverable digest original d)
    (hrunning : d.running = some (caller, ⟨[], .report (some report)⟩))
    (hid : report.get "deployment_id" = some (.integer id)) :
    ∃ state attempt, d.files.state = some state ∧ state.Describes digest attempt ∧
      d.attempts.find? id = some attempt ∧
      (state.phase = .confirmed ∧ report.get "status" = some (.string "success") ∧
          d.files.executable = attempt.image ∨
        state.phase = .rolledBack ∧ report.get "status" = some (.string "failed") ∧
          (id, attempt.before) ∈ d.restored) := by
  obtain ⟨state, hterminal, hconfirmed, ⟨-, hstate⟩ | hwrites⟩ :=
    h.reporting caller _ hrunning report rfl
  · obtain ⟨attempt, hmem, hdescribes, hback⟩ := h.journal state hstate
    obtain ⟨parsed, hparsed, hnamed, hend⟩ := terminalReport_eq_report hterminal
    obtain ⟨parsed', hparsed', hattempt⟩ := hdescribes.payload
    obtain rfl := Option.some.inj (hparsed.symm.trans hparsed')
    rw [hid] at hnamed
    have hsame : attempt.deploymentId = id := by
      rw [← hattempt]
      injection hnamed with hjson
      injection hjson with heq
      exact heq.symm
    refine ⟨state, attempt, hstate, hdescribes, Table.find?_eq_some.mpr ⟨hmem, hsame⟩, ?_⟩
    obtain ⟨hphase, hstatus⟩ | ⟨hphase, hstatus⟩ := hend
    · exact .inl ⟨hphase, hstatus,
        digest.injective ((hconfirmed hphase).symm.trans hdescribes.image)⟩
    · exact .inr ⟨hphase, hstatus, hsame ▸ hback hphase⟩
  · cases hwrites

end

/-- The journal says that its attempt is confirmed and no call has a write left. -/
structure Settled (files : DeviceFiles) (d : NativeDevice) : Prop where
  unchanged : d.files = files
  confirmed : ∃ state, files.state = some state ∧ state.phase = .confirmed
  idle : ∀ caller call, d.running = some (caller, call) → call.writes = []

namespace Settled

variable {files : DeviceFiles}

theorem not_isOpen (h : Settled files d) {state : InstallationJournal}
    (hstate : d.files.state = some state) : state.isOpen ≠ true := by
  obtain ⟨confirmed, hconfirmed, hphase⟩ := h.confirmed
  rw [h.unchanged, hconfirmed] at hstate
  cases hstate
  simp [isOpen, hphase]

theorem begin {caller : NativeCaller} {call : NativeCall} (h : Settled files d)
    (hwrites : call.writes = []) : Settled files { d with running := some (caller, call) } where
  unchanged := h.unchanged
  confirmed := h.confirmed
  idle := by
    rintro _ _ ⟨⟩
    exact hwrites

theorem preserved (h : Settled files d) {step : NativeStep} (henabled : d.enabled step)
    (hinstall : ∀ bytes payload version, step ≠ .install bytes payload version) :
    Settled files (d.apply digest step) := by
  cases step with
  | install bytes payload version => exact absurd rfl (hinstall bytes payload version)
  | rollback attempt =>
    refine h.begin ?_
    obtain hnone | ⟨state, _, hstate, -, hopen, -⟩ :=
      rollback_writes digest d.files attempt
    · exact hnone
    · exact absurd hopen (h.not_isOpen hstate)
  | boot =>
    refine h.begin ?_
    obtain hnone | ⟨state, hstate, hopen, -⟩ := boot_writes digest d.files
    · exact hnone
    · exact absurd hopen (h.not_isOpen hstate)
  | confirm =>
    refine h.begin ?_
    obtain hnone | ⟨state, hstate, hbooting, -⟩ := confirm_writes digest d.files
    · exact hnone
    · exact absurd (isOpen_iff.mpr (.inr hbooting)) (h.not_isOpen hstate)
  | write =>
    obtain ⟨caller, write, writes, result, hrunning⟩ := henabled
    cases h.idle caller _ hrunning
  | finish => exact ⟨h.unchanged, h.confirmed, nofun⟩
  | crash => exact ⟨h.unchanged, h.confirmed, nofun⟩

theorem run (h : Settled files d) {steps : List NativeStep}
    (hinstall : ∀ bytes payload version, .install bytes payload version ∉ steps)
    (hrun : (machine digest).Run d steps d') : Settled files d' := by
  induction hrun with
  | nil => exact h
  | cons henabled _ ih =>
    refine ih (h.preserved henabled fun bytes payload version heq => ?_) fun _ _ _ hmem =>
      hinstall _ _ _ (mem_cons_of_mem _ hmem)
    exact hinstall bytes payload version (heq ▸ mem_cons_self)

end Settled

theorem rollback_of_unnamed {id : ℤ}
    (h : d.files.state.bind deploymentId ≠ some id) :
    digest.rollback d.files (some id) = ⟨[], .done⟩ := by
  unfold ImageDigest.rollback
  cases hstate : d.files.state with
  | none => rfl
  | some state =>
    rw [hstate] at h
    exact if_pos (.inr (.inl h))

/-- Wherever the calls of a device are cut off, its executable is a whole image, the
original or one that was to be installed. A success is reported only while the executable
is the image of that attempt, which then stays until the next install; a failure is
reported only after the executable became the image that the attempt found; and a
watchdog of an attempt that the journal does not name writes nothing. -/
theorem native_ota_sound {steps : List NativeStep}
    (h : (machine digest).Run (start original) steps d) :
    Known original d d.files.executable ∧
    (∀ report id, d.running = some (.confirm, ⟨[], .report (some report)⟩) →
      report.get "deployment_id" = some (.integer id) →
      (report.get "status" = some (.string "success") →
        ∃ attempt, d.attempts.find? id = some attempt ∧ d.files.executable = attempt.image ∧
          ∀ later d', (∀ bytes payload version, .install bytes payload version ∉ later) →
            (machine digest).Run (d.apply digest .finish) later d' →
            d'.files.executable = attempt.image) ∧
      (report.get "status" = some (.string "failed") →
        ∃ attempt, d.attempts.find? id = some attempt ∧ (id, attempt.before) ∈ d.restored)) ∧
    ∀ id, d.files.state.bind InstallationJournal.deploymentId ≠ some id →
      (d.apply digest (.rollback (some id))).files = d.files ∧
      (d.apply digest (.rollback (some id))).running =
        some (.rollback (some id), ⟨[], .done⟩) := by
  have hrecoverable := recoverable_run h
  refine ⟨hrecoverable.executable, fun report id hrunning hid => ?_, fun id hunnamed => ⟨rfl, ?_⟩⟩
  · obtain ⟨state, attempt, hstate, -, hattempt, hend⟩ := hrecoverable.reported hrunning hid
    obtain ⟨hphase, hstatus, himage⟩ | ⟨-, hstatus, hback⟩ := hend
    · refine ⟨fun _ => ⟨attempt, hattempt, himage, fun later d' hinstall hlater => ?_⟩, ?_⟩
      · have hsettled : Settled d.files (d.apply digest .finish) :=
          ⟨rfl, ⟨state, hstate, hphase⟩, nofun⟩
        rw [(hsettled.run hinstall hlater).unchanged]
        exact himage
      · rw [hstatus]
        simp
    · refine ⟨?_, fun _ => ⟨attempt, hattempt, hback⟩⟩
      rw [hstatus]
      simp
  · simp only [apply, rollback_of_unnamed hunnamed]

def plainDigest : ImageDigest where
  hex bytes := String.ofList (bytes.map UInt8.toChar)
  injective := by
    have hbyte : Function.Injective UInt8.toChar := fun a b h =>
      UInt8.toNat_inj.mp (congrArg Char.toNat h)
    intro a b h
    exact map_injective_iff.mpr hbyte (String.ofList_injective h)

def sampleManifest (id : ℤ) : Json :=
  .ofMap (.ofList [("deployment_id", .integer id), ("firmware_update_id", .integer 42),
    ("firmware_version", .string "2.0.0"), ("firmware_url", .string "https://example.com/image"),
    ("sha256", .string "0000000000000000000000000000000000000000000000000000000000000000")])

def confirmedTrial : List NativeStep :=
  [.install [2] (sampleManifest 7) "v1.0.0", .write, .write, .write, .finish, .boot, .write,
    .finish, .confirm, .write]

/-- The next install is cut off before the executable is replaced, and its watchdog puts
the image back that is still there. -/
def interruptedTrial : List NativeStep :=
  [.finish, .install [3] (sampleManifest 8) "v2.0.0", .write, .write, .crash, .rollback (some 8),
    .write, .write, .finish, .confirm]

theorem confirmedTrial_run : (machine plainDigest).Run (start [1]) confirmedTrial
    (confirmedTrial.foldl (apply plainDigest) (start [1])) :=
  .cons ⟨rfl, fun _ _ => rfl⟩ (.cons ⟨_, _, _, _, rfl⟩ (.cons ⟨_, _, _, _, rfl⟩
    (.cons ⟨_, _, _, _, rfl⟩ (.cons ⟨_, _, rfl⟩ (.cons rfl (.cons ⟨_, _, _, _, rfl⟩
    (.cons ⟨_, _, rfl⟩ (.cons rfl (.cons ⟨_, _, _, _, rfl⟩ (.nil _))))))))))

theorem interruptedTrial_run : (machine plainDigest).Run (start [1])
    (confirmedTrial ++ interruptedTrial)
    ((confirmedTrial ++ interruptedTrial).foldl (apply plainDigest) (start [1])) := by
  rw [foldl_append]
  refine confirmedTrial_run.append (.cons ⟨_, _, rfl⟩ (.cons ⟨rfl, fun _ h => ?_⟩
    (.cons ⟨_, _, _, _, rfl⟩ (.cons ⟨_, _, _, _, rfl⟩ (.cons trivial (.cons rfl
    (.cons ⟨_, _, _, _, rfl⟩ (.cons ⟨_, _, _, _, rfl⟩ (.cons ⟨_, _, rfl⟩
    (.cons rfl (.nil _)))))))))))
  cases h
  rfl

theorem native_ota_sound_trials :
    (∃ d, (machine plainDigest).Run (start [1]) confirmedTrial d ∧
      ∃ attempt, d.attempts.find? 7 = some attempt ∧ d.files.executable = attempt.image) ∧
    ∃ d, (machine plainDigest).Run (start [1]) (confirmedTrial ++ interruptedTrial) d ∧
      ∃ attempt, d.attempts.find? 8 = some attempt ∧ (8, attempt.before) ∈ d.restored := by
  obtain ⟨attempt, hattempt, himage, -⟩ :=
    ((native_ota_sound confirmedTrial_run).2.1 _ 7 rfl rfl).1 rfl
  exact ⟨⟨_, confirmedTrial_run, attempt, hattempt, himage⟩, _, interruptedTrial_run,
    ((native_ota_sound interruptedTrial_run).2.1 _ 8 rfl rfl).2 rfl⟩

end NativeDevice

end Extrittio
