import Extrittio.NativeOta.Restart

/-!
Processes around the files: the client, which runs the image it was started from, and the
watchdogs, each of which calls `rollback` once for its attempt. A client that exits leaves
the watchdogs alone; a restart of the machine ends every process, and what starts afterwards
is a client only.
-/
namespace Extrittio

open Transition List OtaPayload ImageDigest DeviceFiles NativeDevice

inductive HostEffect where
  | write (write : FileWrite)
  /-- The journal of a new attempt. -/
  | begin (journal : InstallationJournal)
  | spawn (attempt : ℤ)
  deriving DecidableEq

structure NativeHost where
  files : DeviceFiles
  /-- The image that the client was started from. -/
  client : Option Image
  /-- The attempts of the watchdogs that have not called `rollback` yet. -/
  watchdogs : List ℤ
  /-- The images of which a process has returned from `boot`. -/
  booted : List Image
  /-- The attempts in the journal whose watchdog has called `rollback`. -/
  expired : List ℤ
  deriving DecidableEq

/-- The steps of the processes; a call may end after any number of its effects. -/
inductive HostStep where
  | install (bytes : Image) (payload : Json) (previousVersion : String) (done : ℕ)
  | boot (done : ℕ)
  | confirm (done : ℕ)
  /-- The time of a watchdog is over. -/
  | expire (attempt : ℤ) (done : ℕ)
  | exit
  | restart
  deriving DecidableEq

/-- The watchdog is started once the journal is in place. -/
def ImageDigest.installEffects (digest : ImageDigest) (files : DeviceFiles) (bytes : Image)
    (payload : Json) (previousVersion : String) : List HostEffect :=
  match fromJson payload, (digest.install files bytes payload previousVersion).writes with
  | some parsed, [previous, .state journal, executable] =>
    [.write previous, .begin journal, .spawn parsed.deploymentId, .write executable]
  | _, _ => []

namespace NativeHost

def start (original : Image) : NativeHost := ⟨⟨original, none, none⟩, none, [], [], []⟩

def perform (host : NativeHost) : HostEffect → NativeHost
  | .write write => { host with files := host.files.perform write }
  | .begin journal =>
    { host with
      files := host.files.perform (.state journal)
      expired := host.expired.filter fun id => journal.deploymentId ≠ some id }
  | .spawn attempt => { host with watchdogs := attempt :: host.watchdogs }

def apply (digest : ImageDigest) (host : NativeHost) : HostStep → NativeHost
  | .install bytes payload previousVersion done =>
    ((digest.installEffects host.files bytes payload previousVersion).take done).foldl perform host
  | .boot done =>
    let writes := (digest.boot host.files).writes
    { host with
      files := host.files.performAll (writes.take done)
      client := some host.files.executable
      booted := if writes.length ≤ done then host.files.executable :: host.booted else host.booted }
  | .confirm done =>
    { host with files := host.files.performAll ((digest.confirm host.files).writes.take done) }
  | .expire attempt done =>
    { host with
      files := host.files.performAll ((digest.rollback host.files (some attempt)).writes.take done)
      watchdogs := host.watchdogs.erase attempt
      expired := attempt :: host.expired }
  | .exit => { host with client := none }
  | .restart => { host with client := none, watchdogs := [] }

def enabled (host : NativeHost) : HostStep → Prop
  | .install .. | .confirm _ | .exit => host.client ≠ none
  | .boot _ => host.client = none
  | .expire attempt _ => attempt ∈ host.watchdogs
  | .restart => True

def machine (digest : ImageDigest) : Machine NativeHost HostStep := ⟨enabled, apply digest⟩

/-- The executable is the candidate of an attempt that has not ended. -/
def OnTrial (digest : ImageDigest) (host : NativeHost) (state : InstallationJournal) : Prop :=
  host.files.state = some state ∧ state.isOpen = true ∧
    state.digest = digest.hex host.files.executable

/-- A process will call `rollback` for the attempt, or the time of the attempt is over and
one has. -/
def Watched (host : NativeHost) (state : InstallationJournal) : Prop :=
  ∃ id, state.deploymentId = some id ∧ (id ∈ host.watchdogs ∨ id ∈ host.expired)

/-- A candidate of which a process has booted is watched. -/
def Guarded (digest : ImageDigest) (host : NativeHost) : Prop :=
  ∀ state, host.OnTrial digest state → host.files.executable ∈ host.booted → host.Watched state

/-- The machine is not restarted while a candidate is on trial, and no attempt with the image
that already runs ends between its journal and its watchdog. -/
def undisturbed (digest : ImageDigest) (host : NativeHost) : HostStep → Prop
  | .install bytes payload _ done =>
    done = 2 → bytes = host.files.executable → ∀ parsed, fromJson payload = some parsed →
      parsed.deploymentId ∈ host.watchdogs
  | .restart => ∀ state, host.OnTrial digest state →
    ∃ id, state.deploymentId = some id ∧ id ∈ host.expired
  | .boot _ | .confirm _ | .expire .. | .exit => True

variable {digest : ImageDigest} {original : Image} {host host' : NativeHost}

/-- The invariant: whether or not it has started, a candidate on trial is watched. -/
def Attended (digest : ImageDigest) (host : NativeHost) : Prop :=
  ∀ state, host.OnTrial digest state → host.Watched state

theorem attended_start : Attended digest (start original) := by
  rintro _ ⟨hstate, -⟩
  cases hstate

section

variable (digest) (files : DeviceFiles) (bytes : Image) (payload : Json) (version : String)

theorem installEffects_cases :
    digest.installEffects files bytes payload version = [] ∧ fromJson payload = none ∨
    ∃ parsed journal, fromJson payload = some parsed ∧ journal.isOpen ∧
      journal.deploymentId = some parsed.deploymentId ∧ journal.digest = digest.hex bytes ∧
      (digest.install files bytes payload version).writes =
        [.previous files.executable, .state journal, .executable bytes] ∧
      digest.installEffects files bytes payload version =
        [.write (.previous files.executable), .begin journal, .spawn parsed.deploymentId,
          .write (.executable bytes)] := by
  unfold installEffects install
  cases hparsed : fromJson payload with
  | none => exact .inl ⟨rfl, rfl⟩
  | some parsed =>
    exact .inr ⟨parsed, _, rfl, rfl, deploymentId_of_fromJson hparsed, rfl, rfl, rfl⟩

end

namespace Attended

theorem of_phase (h : Attended digest host)
    (hexecutable : host'.files.executable = host.files.executable)
    (hwatchdogs : host'.watchdogs = host.watchdogs) (hexpired : host'.expired = host.expired)
    (hstate : ∀ state', host'.files.state = some state' → state'.isOpen →
      ∃ state, host.files.state = some state ∧ state.isOpen ∧
        state.digest = state'.digest ∧ state.deploymentId = state'.deploymentId) :
    Attended digest host' := by
  rintro state' ⟨hjournal, hopen, hdigest⟩
  obtain ⟨state, hbefore, hopen', hsame, hid⟩ := hstate state' hjournal hopen
  rw [Watched, hwatchdogs, hexpired, ← hid]
  exact h state ⟨hbefore, hopen', by rw [hsame, hdigest, hexecutable]⟩

theorem of_files (h : Attended digest host) (hfiles : host'.files = host.files)
    (hwatchdogs : host'.watchdogs = host.watchdogs) (hexpired : host'.expired = host.expired) :
    Attended digest host' := by
  refine h.of_phase (by rw [hfiles]) hwatchdogs hexpired fun state' hstate' hopen' => ?_
  exact ⟨state', hfiles ▸ hstate', hopen', rfl, rfl⟩

theorem boot (h : Attended digest host) (done : ℕ) :
    Attended digest (host.apply digest (.boot done)) := by
  obtain hnone | ⟨state, hstate, hopen, hwrites⟩ := boot_writes digest host.files
  · exact h.of_files (by simp [apply, hnone, performAll]) rfl rfl
  · cases done with
    | zero => exact h.of_files rfl rfl rfl
    | succ done =>
      have hfiles : (host.apply digest (.boot (done + 1))).files =
          host.files.perform (.state { state with phase := .booting }) := by
        simp [apply, hwrites, performAll]
      refine h.of_phase (by rw [hfiles]; rfl) rfl rfl fun state' hstate' _ => ⟨state, hstate, hopen, ?_⟩
      rw [hfiles] at hstate'
      obtain rfl := Option.some.inj hstate'
      exact ⟨rfl, rfl⟩

theorem confirm (h : Attended digest host) (done : ℕ) :
    Attended digest (host.apply digest (.confirm done)) := by
  obtain hnone | ⟨state, hstate, -, hwrites⟩ := confirm_writes digest host.files
  · exact h.of_files (by simp [apply, hnone, performAll]) rfl rfl
  · cases done with
    | zero => exact h.of_files rfl rfl rfl
    | succ done =>
      have hfiles : (host.apply digest (.confirm (done + 1))).files =
          host.files.perform (.state { state with phase := .confirmed }) := by
        simp [apply, hwrites, performAll]
      rintro state' ⟨hstate', hopen', -⟩
      rw [hfiles] at hstate'
      obtain rfl := Option.some.inj hstate'
      cases hopen'

theorem expire (h : Attended digest host) (attempt : ℤ) (done : ℕ) :
    Attended digest (host.apply digest (.expire attempt done)) := by
  rintro state' ⟨hstate', hopen', hdigest'⟩
  obtain hnone | ⟨state, previous, hstate, -, -, -, hid, -, hwrites⟩ :=
    rollback_writes digest host.files (some attempt)
  · simp only [apply, hnone, take_nil, performAll, foldl_nil] at hstate' hdigest'
    obtain ⟨id, hnamed, hwatched⟩ := h state' ⟨hstate', hopen', hdigest'⟩
    refine ⟨id, hnamed, ?_⟩
    by_cases hsame : id = attempt
    · exact .inr (hsame ▸ mem_cons_self)
    · exact hwatched.imp (mem_erase_of_ne hsame).mpr (mem_cons_of_mem _)
  · have hjournal : state' = state := by
      simp only [apply, hwrites] at hstate'
      rcases done with _ | _ | done
      · exact Option.some.inj (hstate'.symm.trans hstate)
      · exact Option.some.inj (hstate'.symm.trans hstate)
      · rw [take_of_length_le (by simp)] at hstate'
        obtain rfl := Option.some.inj hstate'
        cases hopen'
    exact ⟨attempt, hjournal ▸ hid, .inr mem_cons_self⟩

theorem install (h : Attended digest host) {bytes : Image} {payload : Json} {version : String}
    {done : ℕ} (hundisturbed : host.undisturbed digest (.install bytes payload version done)) :
    Attended digest (host.apply digest (.install bytes payload version done)) := by
  obtain ⟨hnone, -⟩ | ⟨parsed, journal, hparsed, -, hid, hdigest, -, heffects⟩ :=
    installEffects_cases digest host.files bytes payload version
  · simp only [apply, hnone, take_nil, foldl_nil]
    exact h
  simp only [apply, heffects]
  rcases done with _ | _ | _ | done
  · exact h
  · exact h.of_phase rfl rfl rfl fun state' hstate' hopen' => ⟨state', hstate', hopen', rfl, rfl⟩
  · -- the journal without a watchdog: a candidate only if its image was there before
    rintro _ ⟨⟨⟩, -, htrial⟩
    have hsame : bytes = host.files.executable := digest.injective (hdigest.symm.trans htrial)
    exact ⟨parsed.deploymentId, hid, .inl (hundisturbed rfl hsame parsed hparsed)⟩
  · have hwatched : ∀ executable expired, Watched ⟨executable, host.client,
        parsed.deploymentId :: host.watchdogs, host.booted, expired⟩ journal :=
      fun _ _ => ⟨parsed.deploymentId, hid, .inl mem_cons_self⟩
    cases done with
    | zero =>
      rintro _ ⟨⟨⟩, -, -⟩
      exact hwatched _ _
    | succ done =>
      rw [take_of_length_le (by simp)]
      rintro _ ⟨⟨⟩, -, -⟩
      exact hwatched _ _

theorem preserved (h : Attended digest host) {step : HostStep}
    (hundisturbed : host.undisturbed digest step) : Attended digest (host.apply digest step) := by
  cases step with
  | install bytes payload version done => exact h.install hundisturbed
  | boot done => exact h.boot done
  | confirm done => exact h.confirm done
  | expire attempt done => exact h.expire attempt done
  | exit => exact h
  | restart =>
    rintro state htrial
    obtain ⟨id, hid, hexpired⟩ := hundisturbed state htrial
    exact ⟨id, hid, .inr hexpired⟩

end Attended

theorem unguarded_of_boot {state : InstallationJournal} (htrial : host.OnTrial digest state)
    (hunwatched : ¬host.Watched state) :
    ¬Guarded digest (host.apply digest (.boot 1)) := by
  obtain ⟨hstate, hopen, hdigest⟩ := htrial
  have hphase : state.phase ≠ .rolledBack := by
    rintro hphase
    simp [InstallationJournal.isOpen, hphase] at hopen
  have hwrites : (digest.boot host.files).writes = [.state { state with phase := .booting }] := by
    simp [boot, hstate, hphase, hdigest, hopen]
  intro hguarded
  refine hunwatched (hguarded { state with phase := .booting } ⟨?_, rfl, ?_⟩ ?_)
  · simp only [apply, hwrites]
    rfl
  · simp only [apply, hwrites]
    exact hdigest
  · simp only [apply, hwrites, length_singleton, le_refl, if_true]
    exact mem_cons_self

/-- While no step disturbs a trial, every candidate of which a process has booted has a
process that will call `rollback` for it. After any step that does, there is a run in which
a candidate starts that nothing watches. -/
theorem trial_guarded {steps : List HostStep}
    (hrun : ((machine digest).restrict (undisturbed digest)).Run (start original) steps host) :
    Guarded digest host ∧ ∀ step, host.enabled step → ¬host.undisturbed digest step →
      ∃ later host', (machine digest).Run (host.apply digest step) later host' ∧
        ¬Guarded digest host' := by
  have hattended : Attended digest host := by
    refine hrun.invariant ?_ attended_start
    rintro host step h ⟨-, hundisturbed⟩
    exact h.preserved hundisturbed
  refine ⟨fun state htrial _ => hattended state htrial, fun step henabled hdisturbs => ?_⟩
  cases step with
  | boot | confirm | expire | exit => exact absurd trivial hdisturbs
  | restart =>
    simp only [undisturbed, not_forall] at hdisturbs
    obtain ⟨state, htrial, hexpired⟩ := hdisturbs
    have hstill : (host.apply digest .restart).OnTrial digest state := htrial
    refine ⟨[.boot 1], _, .single rfl, unguarded_of_boot hstill ?_⟩
    rintro ⟨id, hid, hgone | hlate⟩
    · cases hgone
    · exact hexpired ⟨id, hid, hlate⟩
  | install bytes payload version done =>
    simp only [undisturbed, Classical.not_imp, not_forall] at hdisturbs
    obtain ⟨rfl, rfl, parsed, hparsed, hwatchdog⟩ := hdisturbs
    obtain ⟨-, hnone⟩ | ⟨_, journal, hsame, hopen, hid, hdigest, -, heffects⟩ :=
      installEffects_cases digest host.files host.files.executable payload version
    · rw [hparsed] at hnone
      cases hnone
    rw [hparsed] at hsame
    cases hsame
    have hafter : host.apply digest (.install host.files.executable payload version 2) =
        (host.perform (.write (.previous host.files.executable))).perform (.begin journal) := by
      simp only [apply, heffects]
      rfl
    rw [hafter]
    have htrial : (((host.perform (.write (.previous host.files.executable))).perform
        (.begin journal)).apply digest .exit).OnTrial digest journal := ⟨rfl, hopen, hdigest⟩
    refine ⟨[.exit, .boot 1], _, .cons henabled (.single rfl), unguarded_of_boot htrial ?_⟩
    rintro ⟨id, hnamed, hlive | hlate⟩
    · obtain rfl := Option.some.inj (hid.symm.trans hnamed)
      exact hwatchdog hlive
    · have hother := (List.mem_filter.mp hlate).2
      simp [hnamed] at hother

section

variable {d : NativeDevice}

variable (digest) in
theorem call_simulated (step : NativeStep) {caller : NativeCaller} {call : NativeCall}
    {files : DeviceFiles} (henabled : d.enabled step)
    (hcall : (d.apply digest step).running = some (caller, call))
    (hsame : (d.apply digest step).files = d.files) (done : ℕ)
    (hfiles : d.files.performAll (call.writes.take done) = files) :
    ∃ steps d', (NativeDevice.machine digest).Run d steps d' ∧ d'.running = none ∧
      d'.files = files := by
  obtain ⟨d', hrest, hidle⟩ := exists_cut digest hcall
    (Nat.min_le_right done call.writes.length)
  refine ⟨_, d', .cons henabled hrest, hidle, ?_⟩
  rw [(NativeDevice.files_of_cut hcall hrest).2, hsame, ← take_eq_take_min, hfiles]

variable (digest host) in
theorem files_install (bytes : Image) (payload : Json) (version : String) (done : ℕ) :
    ∃ n, (host.apply digest (.install bytes payload version done)).files =
      host.files.performAll ((digest.install host.files bytes payload version).writes.take n) := by
  obtain ⟨hnone, -⟩ | ⟨parsed, journal, -, -, -, -, hwrites, heffects⟩ :=
    installEffects_cases digest host.files bytes payload version
  · exact ⟨0, by simp [apply, hnone, performAll]⟩
  · simp only [apply, hwrites, heffects]
    rcases done with _ | _ | _ | _ | done
    exacts [⟨0, rfl⟩, ⟨1, rfl⟩, ⟨2, rfl⟩, ⟨2, rfl⟩, ⟨3, by rw [take_of_length_le (by simp)]; rfl⟩]

end

/-- The first image starts, installs a second one and exits, and that one starts. -/
def startedHost : List HostStep :=
  [.boot 0, .install [2] (NativeDevice.sampleManifest 7) "v1.0.0" 4, .exit, .boot 1]

theorem startedHost_run :
    ((machine plainDigest).restrict (undisturbed plainDigest)).Run
      (start [1]) startedHost (startedHost.foldl (apply plainDigest) (start [1])) :=
  .cons ⟨rfl, trivial⟩ (.cons ⟨nofun, nofun⟩ (.cons ⟨nofun, trivial⟩
    (.cons ⟨rfl, trivial⟩ (.nil _))))

theorem trial_guarded_started :
    ∃ host, (machine NativeDevice.plainDigest).Run (start [1]) startedHost host ∧
      host.files.executable = [2] ∧ Guarded NativeDevice.plainDigest host :=
  ⟨_, startedHost_run.of_restrict, rfl, (trial_guarded startedHost_run).1⟩

/-- The machine restarts during the trial: the candidate is still there and starts again, and no
watchdog is left. -/
theorem restarted_trial_unwatched :
    ∃ host, (machine NativeDevice.plainDigest).Run (start [1]) (startedHost ++ [.restart, .boot 1]) host ∧
      host.files.executable = [2] ∧ [2] ∈ host.booted ∧
      host.files.state.map InstallationJournal.phase = some .booting ∧ host.watchdogs = [] ∧
      host.expired = [] ∧ ¬Guarded NativeDevice.plainDigest host := by
  refine ⟨_, startedHost_run.of_restrict.append (.cons trivial (.cons rfl (.nil _))),
    rfl, by decide, rfl, rfl, rfl, ?_⟩
  intro hguarded
  obtain ⟨_, -, hlive | hlate⟩ := hguarded _ ⟨rfl, rfl, rfl⟩ (by decide)
  · cases hlive
  · cases hlate

end NativeHost

end Extrittio
