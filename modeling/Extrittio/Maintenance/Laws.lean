import Extrittio.Maintenance.Restore

/-!
The names of the files of a restore, and what its operations leave alone. Until the database is
moved, a restore touches only files of the backup and of the copy it makes.
-/
namespace Extrittio

open FileSystem Action List

section

theorem toList_fileOf (path : String) (part : Option Sidecar) :
    (fileOf path part).toList = path.toList ++ (part.elim "" Sidecar.suffix).toList := by
  cases part with
  | none => simp [fileOf]
  | some s => simp [fileOf, sidecarPath]

@[simp] theorem fileOf_inj {path : String} {a b : Option Sidecar} :
    fileOf path a = fileOf path b ↔ a = b := by
  refine ⟨fun h => ?_, fun h => h ▸ rfl⟩
  have hsuffix : (a.elim "" Sidecar.suffix).toList = (b.elim "" Sidecar.suffix).toList := by
    have htext := congrArg String.toList h
    rw [toList_fileOf, toList_fileOf] at htext
    exact append_cancel_left htext
  rcases a with _ | (_ | _) <;> rcases b with _ | (_ | _) <;>
    first | rfl | exact absurd hsuffix (by decide)

theorem sidecarPath_ne (path : String) (s : Sidecar) : sidecarPath path s ≠ path := by
  intro h
  have hparts : fileOf path (some s) = fileOf path none := h
  rw [fileOf_inj] at hparts
  cases hparts

/-- The names given to a database before and during a restore. -/
structure Apart (database recovery temporary : String) : Prop where
  database_recovery : ∀ a b, fileOf database a ≠ fileOf recovery b
  database_temporary : ∀ a b, fileOf database a ≠ fileOf temporary b
  recovery_temporary : ∀ a b, fileOf recovery a ≠ fileOf temporary b

theorem dot_not_mem_suffix (part : Option Sidecar) : '.' ∉ (part.elim "" Sidecar.suffix).toList := by
  rcases part with _ | (_ | _) <;> decide

theorem DatabasePath.fileOf_text_ne (path : DatabasePath) {e : String} (he : '.' ∈ e.toList)
    (a b : Option Sidecar) : fileOf path.text a ≠ fileOf (path.withExtension e) b := by
  intro h
  have htext := congrArg String.toList h
  rw [toList_fileOf, toList_fileOf, text, withExtension] at htext
  have hsuffix := dot_not_mem_suffix a
  cases hextension : path.extension with
  | none =>
    rw [hextension] at htext
    simp only [String.toList_append, append_assoc, append_cancel_left_eq] at htext
    rw [htext] at hsuffix
    simp at hsuffix
  | some own =>
    rw [hextension] at htext
    simp only [String.toList_append, append_assoc, append_cancel_left_eq] at htext
    have hdot : '.' ∈ own.toList ++ (a.elim "" Sidecar.suffix).toList := by
      rw [htext]
      exact mem_append_left _ he
    rcases mem_append.mp hdot with hown | hown
    · exact path.dotless own (by simp [hextension]) hown
    · exact hsuffix hown

theorem DatabasePath.apart (path : DatabasePath) (uuid stamp : String) :
    Apart path.text (path.recovery stamp) (path.temporary uuid) where
  database_recovery := path.fileOf_text_ne (by simp)
  database_temporary := path.fileOf_text_ne (by simp)
  recovery_temporary := by
    intro a b h
    have htext := congrArg String.toList h
    rw [toList_fileOf, toList_fileOf, recovery, temporary, withExtension, withExtension] at htext
    simp at htext

end

/-- However the action ends, it leaves these files as they are. -/
def Keeps {α : Type} (names : Set String) (action : FileM α) : Prop :=
  Leaves action fun before after => ∀ name ∈ names, after name = before name

section

variable {α β : Type} {names : Set String} {action : FileM α} {next : α → FileM β}
  {handler : PersistenceError → FileM α}

theorem keeps_pure (a : α) : Keeps names (pure a : FileM α) := leaves_pure (fun _ _ _ => rfl) a

theorem keeps_throw (e : PersistenceError) : Keeps names (throw e : FileM α) :=
  leaves_throw (fun _ _ _ => rfl) e

theorem Keeps.bind (h : Keeps names action) (hnext : ∀ a, Keeps names (next a)) :
    Keeps names (action >>= next) :=
  Leaves.bind (fun _ _ _ h h' name hname => (h' name hname).trans (h name hname)) h hnext

theorem Keeps.tryCatch (h : Keeps names action) (hhandler : ∀ e, Keeps names (handler e)) :
    Keeps names (tryCatch action handler) :=
  Leaves.tryCatch (fun _ _ _ h h' name hname => (h' name hname).trans (h name hname)) h hhandler

theorem keeps_modify {f : DatabaseFiles → DatabaseFiles}
    (h : ∀ files, ∀ name ∈ names, f files name = files name) : Keeps names (modify f : FileM Unit) :=
  h

theorem Keeps.of_eq (h : Keeps names action) {files after : DatabaseFiles}
    {result : Except PersistenceError α} (hrun : action files = (result, after)) {name : String}
    (hname : name ∈ names) : after name = files name := by
  have hkept := h files name hname
  rw [hrun] at hkept
  exact hkept

end

namespace RestoreHost

section

variable {host : RestoreHost} {op : FileOp} {files : DatabaseFiles} {path source target : String}
  {names : Set String} {bytes : FileBytes}

theorem readFile_ok (hop : host.fails op = none) (h : files path = some bytes) :
    host.readFile op path files = (.ok bytes, files) := by
  simp only [readFile, hop, h]

theorem readFile_error (h : host.fails op ≠ none ∨ files path = none) :
    ∃ e, host.readFile op path files = (.error e, files) := by
  unfold readFile
  cases hop : host.fails op with
  | some error => exact ⟨_, rfl⟩
  | none =>
    rw [h.resolve_left (absurd hop)]
    exact ⟨_, rfl⟩

variable {after : DatabaseFiles} {file : VerifiedFile} {database : DatabasePath}
  {uuid backup : String} {force : Bool} {verified : TursoBackupInfo}

theorem readFile_eq_ok (h : host.readFile op path files = (.ok bytes, after)) :
    files path = some bytes ∧ after = files := by
  unfold readFile at h
  split at h
  · cases h
  · cases h
  · next hpath =>
    cases h
    exact ⟨hpath, rfl⟩

theorem renameFile_ok (hop : host.fails op = none) (h : files source = some bytes) :
    host.renameFile op source target files = (.ok (), files.rename source target) :=
  bind_of_ok (readFile_ok hop h)

theorem renameFile_error (h : host.fails op ≠ none) :
    ∃ e, host.renameFile op source target files = (.error e, files) := by
  obtain ⟨e, he⟩ : ∃ e, host.readFile op source files = (.error e, files) := readFile_error (.inl h)
  exact ⟨e, bind_of_error he⟩

theorem keeps_readFile : Keeps names (host.readFile op path) := by
  intro files name _
  unfold readFile
  split <;> rfl

theorem keeps_fileExists : Keeps names (host.fileExists op path) := fun _ _ _ => rfl

theorem keeps_attempt : Keeps names (host.attempt op) := by
  unfold attempt
  split
  · exact keeps_throw _
  · exact keeps_pure _

theorem keeps_require {condition : Bool} {e : PersistenceError} : Keeps names (require condition e) := by
  unfold require
  split
  · exact keeps_pure _
  · exact keeps_throw _

theorem keeps_removeFile (h : path ∉ names) : Keeps names (host.removeFile op path) := by
  refine keeps_readFile.bind fun _ => keeps_modify fun files name hname => ?_
  exact Function.update_of_ne (ne_of_mem_of_not_mem hname h) _ _

theorem keeps_copyFile (h : target ∉ names) : Keeps names (host.copyFile op source target) := by
  refine keeps_readFile.bind fun _ => keeps_modify fun files name hname => ?_
  exact Function.update_of_ne (ne_of_mem_of_not_mem hname h) _ _

theorem keeps_ignore {α : Type} {action : FileM α} (h : Keeps names action) :
    Keeps names (ignore action) :=
  Keeps.tryCatch (h.bind fun _ => keeps_pure _) fun _ => keeps_pure _

theorem keeps_checkWal : Keeps names (host.checkWal file path) := by
  refine keeps_fileExists.bind fun present => ?_
  cases present with
  | false => exact keeps_pure _
  | true => exact keeps_readFile.bind fun _ => keeps_require

theorem keeps_removeSidecar {s : Sidecar} (h : sidecarPath path s ∉ names) :
    Keeps names (host.removeSidecar file path s) := by
  refine keeps_fileExists.bind fun present => ?_
  cases present with
  | false => exact keeps_pure _
  | true => exact keeps_removeFile h

theorem keeps_verifyDatabaseFile (h : ∀ part, fileOf path part ∉ names) :
    Keeps names (host.verifyDatabaseFile file path) := by
  refine keeps_checkWal.bind fun _ => Keeps.bind (fun files name hname => ?_) fun _ =>
    (keeps_removeSidecar (h (some .wal))).bind fun _ =>
      (keeps_removeSidecar (h (some .shm))).bind fun _ => keeps_pure _
  exact host.inspect_other files path name fun part => ne_of_mem_of_not_mem hname (h part)

theorem keeps_checkManifest {sha256 : String} : Keeps names (host.checkManifest path sha256) := by
  refine keeps_fileExists.bind fun present => ?_
  cases present with
  | false => exact keeps_pure _
  | true =>
    refine Keeps.bind (keeps_readFile.bind fun bytes => ?_) fun _ => keeps_require
    split
    · exact keeps_pure _
    · exact keeps_throw _

theorem keeps_verifyBackup (h : ∀ part, fileOf path part ∉ names) :
    Keeps names (host.verifyBackup path) := by
  exact (keeps_verifyDatabaseFile h).bind fun _ => keeps_readFile.bind fun _ =>
    keeps_checkManifest.bind fun _ => keeps_pure _

theorem keeps_openProcessLock : Keeps names host.openProcessLock := by
  unfold openProcessLock
  split
  · exact keeps_throw _
  · exact keeps_pure _

theorem prepareRestore_same :
    ∃ e, host.prepareRestore database database.text force uuid files = (.error e, files) := by
  refine ⟨.unavailable "backup path must differ from the database path", bind_of_error ?_⟩
  rw [decide_eq_false (by simp)]
  rfl

/-- Preparing a restore touches the files of the backup and of the copy, and no others. -/
theorem keeps_prepareRestore (hbackup : database.text ≠ backup → ∀ part, fileOf backup part ∉ names)
    (htemporary : ∀ part, fileOf (database.temporary uuid) part ∉ names) :
    Keeps names (host.prepareRestore database backup force uuid) := by
  by_cases hsame : database.text = backup
  · subst hsame
    intro files name _
    obtain ⟨e, he⟩ : ∃ e, host.prepareRestore database database.text force uuid files =
      (.error e, files) := prepareRestore_same
    rw [he]
  refine keeps_require.bind fun _ => (keeps_verifyBackup (hbackup hsame)).bind fun _ =>
    keeps_attempt.bind fun _ => keeps_openProcessLock.bind fun _ => keeps_fileExists.bind fun _ =>
    keeps_require.bind fun _ => keeps_attempt.bind fun _ =>
    (keeps_copyFile (htemporary none)).bind fun _ => Keeps.bind ?_ fun _ => keeps_pure _
  refine (keeps_verifyDatabaseFile htemporary).tryCatch fun _ => Keeps.bind ?_ fun _ => keeps_throw _
  exact keeps_ignore (keeps_removeFile (htemporary none))

theorem verifyDatabaseFile_eq_ok {version : ℤ}
    (h : host.verifyDatabaseFile file path files = (.ok version, after)) :
    files path ≠ none ∧ after path = files path := by
  have hsidecar : ∀ s, sidecarPath path s ∉ ({path} : Set String) := sidecarPath_ne path
  obtain ⟨_, checked, hcheck, h⟩ := bind_eq_ok.mp h
  obtain ⟨_, inspected, hinspect, h⟩ := bind_eq_ok.mp h
  obtain ⟨_, walRemoved, hwal, h⟩ := bind_eq_ok.mp h
  obtain ⟨_, shmRemoved, hshm, h⟩ := bind_eq_ok.mp h
  cases h
  have hchecked : checked path = files path := keeps_checkWal.of_eq hcheck rfl
  have hwalRemoved := (keeps_removeSidecar (hsidecar .wal)).of_eq hwal rfl
  have hshmRemoved := (keeps_removeSidecar (hsidecar .shm)).of_eq hshm rfl
  have hpresent : checked path ≠ none := by
    intro hmissing
    exact host.inspect_missing checked path hmissing version (congrArg Prod.fst hinspect)
  have hkept := host.inspect_main checked path hpresent
  rw [hinspect] at hkept
  exact ⟨hchecked ▸ hpresent, by rw [hshmRemoved, hwalRemoved, ← hchecked, ← hkept]⟩

theorem verifyBackup_eq_ok (h : host.verifyBackup path files = (.ok verified, after)) :
    files path ≠ none ∧ after path = files path := by
  obtain ⟨_, checked, hcheck, h⟩ := bind_eq_ok.mp h
  obtain ⟨_, read, hread, h⟩ := bind_eq_ok.mp h
  obtain ⟨_, compared, hcompare, h⟩ := bind_eq_ok.mp h
  cases h
  obtain ⟨hpresent, hchecked⟩ := verifyDatabaseFile_eq_ok hcheck
  have hcompared : after path = read path := keeps_checkManifest.of_eq hcompare (Set.mem_singleton path)
  exact ⟨hpresent, by rw [hcompared, (readFile_eq_ok hread).2, hchecked]⟩

theorem copyFile_eq_ok {u : Unit} (hne : source ≠ target)
    (h : host.copyFile op source target files = (.ok u, after)) :
    files source ≠ none ∧ after target = files source := by
  obtain ⟨bytes, read, hread, hwrite⟩ := bind_eq_ok.mp h
  obtain ⟨hsource, -⟩ := readFile_eq_ok hread
  cases hwrite
  simp [hsource, hne]

theorem prepareRestore_eq_ok (hfresh : backup ≠ database.temporary uuid)
    (h : host.prepareRestore database backup force uuid files = (.ok verified, after)) :
    files backup ≠ none ∧ after (database.temporary uuid) = files backup := by
  obtain ⟨_, f₁, h₁, h⟩ := bind_eq_ok.mp h
  obtain ⟨_, f₂, h₂, h⟩ := bind_eq_ok.mp h
  obtain ⟨_, f₃, h₃, h⟩ := bind_eq_ok.mp h
  obtain ⟨_, f₄, h₄, h⟩ := bind_eq_ok.mp h
  obtain ⟨_, f₅, h₅, h⟩ := bind_eq_ok.mp h
  obtain ⟨_, f₆, h₆, h⟩ := bind_eq_ok.mp h
  obtain ⟨_, f₇, h₇, h⟩ := bind_eq_ok.mp h
  obtain ⟨_, f₈, h₈, h⟩ := bind_eq_ok.mp h
  obtain ⟨version, f₉, h₉, h⟩ := bind_eq_ok.mp h
  cases h
  have hmem : backup ∈ ({backup} : Set String) := Set.mem_singleton backup
  -- nothing between the check and the copy touches the backup
  have hbackup : f₇ backup = files backup := by
    rw [keeps_attempt.of_eq h₇ hmem, keeps_require.of_eq h₆ hmem, keeps_fileExists.of_eq h₅ hmem,
      keeps_openProcessLock.of_eq h₄ hmem, keeps_attempt.of_eq h₃ hmem, (verifyBackup_eq_ok h₂).2,
      keeps_require.of_eq h₁ hmem]
  obtain ⟨hpresent, hcopied⟩ := copyFile_eq_ok hfresh h₈
  have hverified : host.verifyDatabaseFile .temporary (database.temporary uuid) f₈ =
      (.ok version, after) := by
    refine of_tryCatch_eq_ok (fun e s a t hthrown => ?_) h₉
    obtain ⟨_, _, -, hthrown⟩ := bind_eq_ok.mp hthrown
    cases hthrown
  rw [hbackup] at hpresent hcopied
  exact ⟨hpresent, (verifyDatabaseFile_eq_ok hverified).2.trans hcopied⟩

end

end RestoreHost

end Extrittio
