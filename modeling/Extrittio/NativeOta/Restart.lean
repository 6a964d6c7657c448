import Extrittio.NativeOta.Recovery

/-!
The next start after a watchdog was cut off: what `boot` and then `confirm` make of an
executable that is put back and a journal that may not say so yet.
-/
namespace Extrittio

open Transition InstallationJournal

def DeviceFiles.performAll (files : DeviceFiles) (writes : List FileWrite) : DeviceFiles :=
  writes.foldl DeviceFiles.perform files

/-- The start of the image that an attempt replaced: it runs under its own version, and the
server is told that the attempt failed. -/
def ImageDigest.Recovers (digest : ImageDigest) (files : DeviceFiles) (id : ℤ)
    (previousVersion : String) : Prop :=
  (digest.boot files).result = .version (some previousVersion) ∧
    ∃ report, (digest.confirm (files.performAll (digest.boot files).writes)).result =
        .report (some report) ∧
      report.get "status" = some (.string "failed") ∧
      report.get "deployment_id" = some (.integer id)

namespace ImageDigest

variable {digest : ImageDigest} {files : DeviceFiles} {state : InstallationJournal} {id : ℤ}
  {version : String}

variable (digest) in
theorem isOpen_of_boot (hstate : files.state = some state) (hopen : state.isOpen) :
    ∃ after, (files.performAll (digest.boot files).writes).state = some after ∧
      after.isOpen := by
  obtain hnone | ⟨_, -, -, hwrites⟩ := boot_writes digest files
  · rw [hnone]
    exact ⟨state, hstate, hopen⟩
  · rw [hwrites]
    exact ⟨_, rfl, rfl⟩

theorem rolledBack_of_failed {report : Json}
    (hreport : (digest.confirm files).result = .report (some report))
    (hfailed : report.get "status" = some (.string "failed")) :
    ∃ state, files.state = some state ∧ state.phase = .rolledBack := by
  obtain ⟨state, hterminal, -, hstate⟩ := confirm_report hreport
  obtain ⟨_, -, -, ⟨-, hstatus⟩ | ⟨hphase, -⟩⟩ :=
    terminalReport_eq_report hterminal
  · rw [hfailed] at hstatus
    simp at hstatus
  · obtain ⟨-, hstate⟩ | hwrites := hstate
    · exact ⟨state, hstate, hphase⟩
    · -- the only journal that `confirm` writes is a confirmed one
      obtain hnone | ⟨_, -, -, hconfirmed⟩ := confirm_writes digest files
      · rw [hwrites] at hnone
        cases hnone
      · rw [hwrites] at hconfirmed
        obtain rfl := FileWrite.state.inj (List.cons.inj hconfirmed).1
        cases hphase

theorem not_recovers_of_isOpen (hstate : files.state = some state) (hopen : state.isOpen) :
    ¬digest.Recovers files id version := by
  rintro ⟨-, report, hreport, hfailed, -⟩
  obtain ⟨after, hafter, hstill⟩ := isOpen_of_boot digest hstate hopen
  obtain ⟨_, hsame, hphase⟩ := rolledBack_of_failed hreport hfailed
  rw [hafter] at hsame
  cases hsame
  simp [isOpen, hphase] at hstill

/-- Once the journal says that the attempt was rolled back, the start recovers. -/
theorem recovers_of_rolledBack {parsed : OtaPayload} (hstate : files.state = some state)
    (hphase : state.phase = .rolledBack) (himage : state.previousDigest = digest.hex files.executable)
    (hparsed : OtaPayload.fromJson state.payload = some parsed) :
    digest.Recovers files parsed.deploymentId state.previousVersion := by
  have hboot : digest.boot files = ⟨[], .version (some state.previousVersion)⟩ := by
    simp [boot, hstate, hphase, himage]
  rw [Recovers, hboot]
  refine ⟨rfl, buildStatusJson "failed" parsed.firmwareVersion parsed.firmwareUpdateId
    parsed.deploymentId (some "Startup health check failed; previous image restored"), ?_, by simp,
    by simp⟩
  simp [confirm, DeviceFiles.performAll, hstate, hphase, terminalReport, hparsed]

end ImageDigest

namespace NativeDevice

variable {digest : ImageDigest} {original : Image} {d d' : NativeDevice} {caller : NativeCaller}
  {call : NativeCall} {k : ℕ}

theorem files_of_cut (hrunning : d.running = some (caller, call))
    (h : (machine digest).Run d (List.replicate k .write ++ [.crash]) d') :
    k ≤ call.writes.length ∧ d'.files = d.files.performAll (call.writes.take k) := by
  induction k generalizing d call with
  | zero =>
    cases h with
    | cons _ hrest =>
      cases hrest
      exact ⟨Nat.zero_le _, rfl⟩
  | succ k ih =>
    rw [List.replicate_succ, List.cons_append] at h
    cases h with
    | cons henabled hrest =>
      obtain ⟨_, write, writes, result, hnext⟩ := henabled
      obtain ⟨rfl, rfl⟩ := Prod.mk.inj (Option.some.inj (hrunning.symm.trans hnext))
      have hstep : (machine digest).apply d .write = d.advance caller write ⟨writes, result⟩ := by
        simp only [machine, apply, hrunning]
      rw [hstep] at hrest
      obtain ⟨hle, hfiles⟩ := ih rfl hrest
      exact ⟨Nat.succ_le_succ hle, hfiles⟩

variable (digest) in
theorem exists_cut (hrunning : d.running = some (caller, call)) (hk : k ≤ call.writes.length) :
    ∃ d', (machine digest).Run d (List.replicate k .write ++ [.crash]) d' ∧ d'.running = none := by
  induction k generalizing d call with
  | zero => exact ⟨_, .single trivial, rfl⟩
  | succ k ih =>
    obtain ⟨_ | ⟨write, writes⟩, result⟩ := call
    · cases hk
    · have hstep : (machine digest).apply d .write = d.advance caller write ⟨writes, result⟩ := by
        simp only [machine, apply, hrunning]
      obtain ⟨d', hrest, hidle⟩ := ih (d := d.advance caller write ⟨writes, result⟩) rfl
        (Nat.le_of_succ_le_succ hk)
      exact ⟨d', .cons ⟨caller, write, writes, result, hrunning⟩ (hstep ▸ hrest), hidle⟩

/-- A watchdog that acts and is cut off leaves a device which recovers at its next start
exactly when it came as far as the journal. -/
theorem interrupted_rollback_recovers_iff {steps : List NativeStep} {id : ℤ}
    {state : InstallationJournal} (hrun : (machine digest).Run (start original) steps d)
    (hstate : d.files.state = some state) (hacts : (digest.rollback d.files (some id)).writes ≠ [])
    (hcut : (machine digest).Run d
      (.rollback (some id) :: (List.replicate k .write ++ [.crash])) d') :
    digest.Recovers d'.files id state.previousVersion ↔
      k = (digest.rollback d.files (some id)).writes.length := by
  obtain ⟨attempt, -, hdescribes, -⟩ := (recoverable_run hrun).journal state hstate
  obtain ⟨parsed, hparsed, hattempt⟩ := hdescribes.payload
  obtain hnone | ⟨_, previous, hsame, -, hopen, -, hid, hdigest, hwrites⟩ :=
    ImageDigest.rollback_writes digest d.files (some id)
  · exact absurd hnone hacts
  rw [hstate] at hsame
  cases hsame
  cases hcut with
  | cons _ hrest =>
    obtain ⟨hle, hfiles⟩ := files_of_cut rfl hrest
    have hname : parsed.deploymentId = id := by
      rw [hattempt]
      exact Option.some.inj (hdescribes.deploymentId.symm.trans hid)
    simp only [hwrites, List.length_cons, List.length_nil, Nat.zero_add, Nat.reduceAdd] at hle hfiles ⊢
    constructor
    · intro hrecovers
      by_contra hearly
      -- before the last write the journal is the one that the watchdog found
      have hjournal : d'.files.state = some state := by
        rw [hfiles]
        interval_cases k
        · exact hstate
        · exact hstate
        · exact absurd rfl hearly
      exact ImageDigest.not_recovers_of_isOpen hjournal hopen hrecovers
    · rintro rfl
      rw [hfiles, ← hname]
      have hrestored : (d.files.performAll [.executable previous,
          .state { state with phase := .rolledBack }]).state =
            some { state with phase := .rolledBack } := rfl
      have hrecovers := ImageDigest.recovers_of_rolledBack hrestored rfl hdigest hparsed
      exact hrecovers

def startedTrial : List NativeStep :=
  [.install [2] (sampleManifest 7) "v1.0.0", .write, .write, .write, .finish, .boot, .write, .finish]

theorem startedTrial_run : (machine plainDigest).Run (start [1]) startedTrial
    (startedTrial.foldl (apply plainDigest) (start [1])) := by
  have hrun : (machine plainDigest).Run (start [1]) (startedTrial ++ [.confirm, .write]) _ :=
    confirmedTrial_run
  exact hrun.of_append.1

/-- The watchdog of that image, which comes as far as both of its writes. -/
theorem interrupted_rollback_recovers_late : ∃ d d', (machine plainDigest).Run (start [1]) startedTrial d ∧
    (machine plainDigest).Run d [.rollback (some 7), .write, .write, .crash] d' ∧
    plainDigest.Recovers d'.files 7 "v1.0.0" := by
  have hcut : (machine plainDigest).Run (startedTrial.foldl (apply plainDigest) (start [1]))
      [.rollback (some 7), .write, .write, .crash] _ :=
    .cons rfl (.cons ⟨_, _, _, _, rfl⟩ (.cons ⟨_, _, _, _, rfl⟩ (.cons trivial (.nil _))))
  exact ⟨_, _, startedTrial_run, hcut,
    (interrupted_rollback_recovers_iff startedTrial_run rfl (by decide) hcut).mpr rfl⟩

/-- The same watchdog, cut off between its two writes: the old image is back and starts without
a version, and instead of a report there is an error. -/
theorem interrupted_rollback_unreported : ∃ d d', (machine plainDigest).Run (start [1]) startedTrial d ∧
    (machine plainDigest).Run d [.rollback (some 7), .write, .crash] d' ∧
    d'.files.executable = [1] ∧ (plainDigest.boot d'.files) = ⟨[], .version none⟩ ∧
    (plainDigest.confirm d'.files).result = .error "Installed image changed" ∧
    ¬plainDigest.Recovers d'.files 7 "v1.0.0" := by
  refine ⟨_, _, startedTrial_run,
    .cons rfl (.cons ⟨_, _, _, _, rfl⟩ (.cons trivial (.nil _))), rfl, by decide, by decide, ?_⟩
  exact ImageDigest.not_recovers_of_isOpen rfl rfl

end NativeDevice

end Extrittio
