import Extrittio.Maintenance.Laws

/-!
What a restore leaves behind when operations on files fail. The database is moved file by file
and the moves are not undone together, so that only some patterns of failures are harmless.
-/
namespace Extrittio

open FileSystem Action Option Files

/-- A restore that fails leaves the files of the database as they were. One that succeeds has put
the contents there without the old sidecars, and kept the old files under the recovery name. -/
def Atomic {α : Type} (database recovery : String) (contents : Option FileBytes)
    (before : DatabaseFiles) : Except PersistenceError α × DatabaseFiles → Prop
  | (.error _, after) => ∀ part, after (fileOf database part) = before (fileOf database part)
  | (.ok _, after) => contents ≠ none ∧ after database = contents ∧
    (∀ s, after (sidecarPath database s) = none) ∧
    (before database ≠ none → ∀ part, after (fileOf recovery part) = before (fileOf database part))

namespace RestoreHost

variable (host : RestoreHost)

/-- Which files of a database are moved once its main file is. -/
def moves (database : String) (files : DatabaseFiles) : Option Sidecar → Bool
  | none => true
  | some s => host.sees (.sidecarFound s) files (sidecarPath database s)

/-- The failures that a restore survives, from the files as they are when the database is about
to be moved. -/
def Replaceable (database recovery : String) (files : DatabaseFiles) : Prop :=
  if host.sees .databaseStillExists files database then
    host.fails .moveDatabase ≠ none ∨
      (∀ s, host.moves database files (some s) = true → host.fails (.moveSidecar s) = none) ∧
      if host.fails .moveTemporary = none then
        ∀ s, host.moves database files (some s) = true ∨
          files (sidecarPath database s) = none ∧ files (sidecarPath recovery s) = none
      else
        (∀ s, host.moves database files (some s) = false) ∧
          host.fails .recoveryExists = none ∧ host.fails .moveBack = none
  else if host.fails .moveTemporary = none then
    (∀ s, files (sidecarPath database s) = none) ∧
      (files database ≠ none → ∀ part, files (fileOf recovery part) = files (fileOf database part))
  else
    host.sees .recoveryExists files recovery = true → host.fails .moveBack = none →
      files recovery = files database

variable {host} {database recovery temporary : String} {files before : DatabaseFiles} {s : Sidecar}

theorem sees_eq_true {op : FileOp} {path : String} :
    host.sees op files path ↔ host.fails op = none ∧ files path ≠ none := by
  simp [sees, isNone_iff_eq_none, isSome_iff_ne_none]

theorem bind_fileExists {α : Type} (op : FileOp) (path : String) (next : Bool → FileM α) :
    (host.fileExists op path >>= next) files = next (host.sees op files path) files :=
  bind_of_ok rfl

theorem preserveSidecar_moved (h : host.sees (.sidecarFound s) files (sidecarPath database s))
    (hop : host.fails (.moveSidecar s) = none) :
    host.preserveSidecar database recovery s files =
      (.ok (), files.rename (sidecarPath database s) (sidecarPath recovery s)) := by
  obtain ⟨bytes, hbytes⟩ := ne_none_iff_exists'.mp (sees_eq_true.mp h).2
  rw [preserveSidecar, bind_fileExists, h]
  exact renameFile_ok hop hbytes

theorem preserveSidecar_absent (h : host.sees (.sidecarFound s) files (sidecarPath database s) = false) :
    host.preserveSidecar database recovery s files = (.ok (), files) := by
  rw [preserveSidecar, bind_fileExists, h]
  rfl

theorem preserveSidecar_error (h : host.sees (.sidecarFound s) files (sidecarPath database s))
    (hop : host.fails (.moveSidecar s) ≠ none) :
    ∃ e, host.preserveSidecar database recovery s files = (.error e, files) := by
  rw [preserveSidecar, bind_fileExists, h]
  exact renameFile_error hop

/-- The files of `moved` are under the recovery name, the others where they were. -/
structure MovedAside (database recovery : String) (moved : Option Sidecar → Bool)
    (before after : DatabaseFiles) : Prop where
  gone : ∀ part, after (fileOf database part) =
    if moved part then none else before (fileOf database part)
  kept : ∀ part, after (fileOf recovery part) =
    if moved part then before (fileOf database part) else before (fileOf recovery part)
  others : ∀ name, (∀ part, name ≠ fileOf database part) → (∀ part, name ≠ fileOf recovery part) →
    after name = before name

theorem MovedAside.nothing (files : DatabaseFiles) :
    MovedAside database recovery (fun _ => false) files files :=
  ⟨fun _ => rfl, fun _ => rfl, fun _ _ _ => rfl⟩

variable {moved : Option Sidecar → Bool}

theorem MovedAside.rename {part : Option Sidecar}
    (h : MovedAside database recovery moved before files)
    (hapart : ∀ a b, fileOf database a ≠ fileOf recovery b) (hpart : moved part = false) :
    MovedAside database recovery (Function.update moved part true) before
      (files.rename (fileOf database part) (fileOf recovery part)) where
  gone := by
    intro other
    by_cases hother : other = part
    · subst hother
      rw [rename_source (hapart _ _)]
      simp
    · rw [rename_other (by simpa using hother) (hapart _ _), h.gone]
      simp [hother]
  kept := by
    intro other
    by_cases hother : other = part
    · subst hother
      rw [rename_target, h.gone]
      simp [hpart]
    · rw [rename_other (hapart _ _).symm (by simpa using hother), h.kept]
      simp [hother]
  others := by
    intro name hdatabase hrecovery
    rw [rename_other (hdatabase part) (hrecovery part), h.others name hdatabase hrecovery]

theorem MovedAside.sees
    (h : MovedAside database recovery moved before files) (hs : moved (some s) = false) :
    host.sees (.sidecarFound s) files (sidecarPath database s) =
      host.moves database before (some s) := by
  have hsame := h.gone (some s)
  rw [hs] at hsame
  have hsame : files (sidecarPath database s) = before (sidecarPath database s) := hsame
  rw [moves, RestoreHost.sees, RestoreHost.sees, hsame]

theorem MovedAside.preserveSidecar (h : MovedAside database recovery moved before files)
    (hapart : ∀ a b, fileOf database a ≠ fileOf recovery b) (hs : moved (some s) = false)
    (hop : host.moves database before (some s) → host.fails (.moveSidecar s) = none) :
    ∃ after, host.preserveSidecar database recovery s files = (.ok (), after) ∧
      MovedAside database recovery
        (Function.update moved (some s) (host.moves database before (some s))) before after := by
  have hsees : host.sees (.sidecarFound s) files (sidecarPath database s) = _ := h.sees hs
  cases hmoves : host.moves database before (some s) with
  | true =>
    rw [hmoves] at hsees
    exact ⟨_, preserveSidecar_moved hsees (hop hmoves), h.rename hapart hs⟩
  | false =>
    rw [hmoves] at hsees
    refine ⟨files, preserveSidecar_absent hsees, ?_⟩
    rw [← hs, Function.update_eq_self]
    exact h

theorem moveAside_absent (h : host.sees .databaseStillExists files database = false) :
    host.moveAside database recovery files = (.ok (), files) := by
  rw [moveAside, bind_fileExists, h]
  rfl

theorem moveAside_of_seen (h : host.sees .databaseStillExists files database) :
    host.moveAside database recovery files = (do
      host.renameFile .moveDatabase database recovery
      host.preserveSidecar database recovery .wal
      host.preserveSidecar database recovery .shm : FileM Unit) files := by
  rw [moveAside, bind_fileExists, h]
  rfl

theorem moveAside_error (h : host.sees .databaseStillExists files database)
    (hop : host.fails .moveDatabase ≠ none) :
    ∃ e, host.moveAside database recovery files = (.error e, files) := by
  obtain ⟨e, he⟩ : ∃ e, host.renameFile .moveDatabase database recovery files = (.error e, files) :=
    renameFile_error hop
  exact ⟨e, by rw [moveAside_of_seen h, bind_of_error he]⟩

section

variable (hapart : ∀ a b, fileOf database a ≠ fileOf recovery b)
  (hseen : host.sees .databaseStillExists files database = true) (hmove : host.fails .moveDatabase = none)

include hapart hseen hmove

theorem moveMain : host.renameFile .moveDatabase database recovery files =
      (.ok (), files.rename database recovery) ∧
    MovedAside database recovery (Function.update (fun _ => false) none true) files
      (files.rename database recovery) := by
  obtain ⟨bytes, hbytes⟩ := ne_none_iff_exists'.mp (sees_eq_true.mp hseen).2
  exact ⟨renameFile_ok hmove hbytes, (MovedAside.nothing files).rename hapart rfl⟩

theorem moveAside_ok
    (hops : ∀ s, host.moves database files (some s) → host.fails (.moveSidecar s) = none) :
    ∃ after, host.moveAside database recovery files = (.ok (), after) ∧
      MovedAside database recovery (host.moves database files) files after := by
  obtain ⟨hrename, hmain⟩ := moveMain hapart hseen hmove
  obtain ⟨f₁, hwal, hmovedWal⟩ := hmain.preserveSidecar hapart rfl (hops .wal)
  obtain ⟨f₂, hshm, hmovedShm⟩ := hmovedWal.preserveSidecar hapart rfl (hops .shm)
  refine ⟨f₂, by rw [moveAside_of_seen hseen, bind_of_ok hrename, bind_of_ok hwal, hshm], ?_⟩
  convert hmovedShm using 1
  funext part
  rcases part with _ | (_ | _) <;> rfl

/-- A sidecar that cannot be moved is left alone at the old place. -/
theorem moveAside_torn {s : Sidecar} (hs : host.moves database files (some s))
    (hop : host.fails (.moveSidecar s) ≠ none) :
    ∃ e after, host.moveAside database recovery files = (.error e, after) ∧ after database = none := by
  obtain ⟨hrename, hmain⟩ := moveMain hapart hseen hmove
  have hgone : files.rename database recovery database = none := hmain.gone none
  by_cases hwal : host.moves database files (some .wal) → host.fails (.moveSidecar .wal) = none
  · obtain ⟨f₁, hpreserved, hmoved⟩ := hmain.preserveSidecar hapart rfl hwal
    obtain rfl : s = .shm := by
      cases s with
      | wal => exact absurd (hwal hs) hop
      | shm => rfl
    obtain ⟨e, he⟩ : ∃ e, host.preserveSidecar database recovery .shm f₁ = (.error e, f₁) :=
      preserveSidecar_error ((hmoved.sees rfl).trans hs) hop
    refine ⟨e, f₁, by rw [moveAside_of_seen hseen, bind_of_ok hrename, bind_of_ok hpreserved, he], ?_⟩
    exact hmoved.gone none
  · push Not at hwal
    obtain ⟨e, he⟩ : ∃ e, host.preserveSidecar database recovery .wal (files.rename database recovery) =
        (.error e, files.rename database recovery) :=
      preserveSidecar_error ((hmain.sees rfl).trans hwal.1) hwal.2
    exact ⟨e, _, by rw [moveAside_of_seen hseen, bind_of_ok hrename, bind_of_error he], hgone⟩

end

theorem moveIn_ok (hop : host.fails .moveTemporary = none) (h : files temporary ≠ none) :
    host.moveIn database recovery temporary files = (.ok (), files.rename temporary database) := by
  obtain ⟨bytes, hbytes⟩ := ne_none_iff_exists'.mp h
  exact tryCatch_of_ok (renameFile_ok hop hbytes)

theorem ignore_eq {α : Type} (action : FileM α) (files : DatabaseFiles) :
    ignore action files = (.ok (), (action files).2) := by
  unfold ignore
  rcases h : action files with ⟨result, after⟩
  cases result with
  | ok a => exact tryCatch_of_ok (bind_of_ok h)
  | error e => exact tryCatch_of_error (bind_of_error h)

/-- What the undo leaves: the main file back in its place, if it is seen under the recovery name
and can be moved. -/
def undone (host : RestoreHost) (database recovery : String) (files : DatabaseFiles) : DatabaseFiles :=
  if host.sees .recoveryExists files recovery = true ∧ host.fails .moveBack = none then
    files.rename recovery database
  else files

theorem moveIn_error (hop : host.fails .moveTemporary ≠ none) :
    ∃ e after, host.moveIn database recovery temporary files = (.error e, after) ∧
      ∀ name, name ≠ temporary → after name = host.undone database recovery files name := by
  obtain ⟨e, he⟩ : ∃ e, host.renameFile .moveTemporary temporary database files = (.error e, files) :=
    renameFile_error hop
  have hremoved : Keeps {temporary}ᶜ (host.removeFile .removeTemporary temporary) :=
    keeps_removeFile (by simp)
  unfold moveIn undone
  rw [tryCatch_of_error he, bind_fileExists]
  cases hseen : host.sees .recoveryExists files recovery with
  | false =>
    refine ⟨e, _, bind_of_ok (ignore_eq _ _), fun name hname => ?_⟩
    simp [hremoved _ name hname]
  | true =>
    refine ⟨e, _, (bind_of_ok (ignore_eq _ _)).trans (bind_of_ok (ignore_eq _ _)), fun name hname => ?_⟩
    rw [hremoved _ name hname]
    by_cases hback : host.fails .moveBack = none
    · obtain ⟨bytes, hbytes⟩ := ne_none_iff_exists'.mp (sees_eq_true.mp hseen).2
      simp [renameFile_ok hback hbytes, hback]
    · obtain ⟨e, he⟩ : ∃ e, host.renameFile .moveBack recovery database files = (.error e, files) :=
        renameFile_error hback
      simp [he, hback]

section

variable (hapart : Apart database recovery temporary)

include hapart

theorem atomic_moveIn_iff_of_ok (hop : host.fails .moveTemporary = none) (hcopy : files temporary ≠ none) :
    Atomic database recovery (files temporary) before (host.moveIn database recovery temporary files) ↔
      (∀ s, files (sidecarPath database s) = none) ∧
      (before database ≠ none → ∀ part, files (fileOf recovery part) = before (fileOf database part)) := by
  have hsidecar : ∀ s, files.rename temporary database (sidecarPath database s) =
      files (sidecarPath database s) := fun s =>
    rename_other (hapart.database_temporary (some s) none) (sidecarPath_ne database s)
  have hrecovery : ∀ part, files.rename temporary database (fileOf recovery part) =
      files (fileOf recovery part) := fun part =>
    rename_other (hapart.recovery_temporary part none) (hapart.database_recovery none part).symm
  rw [moveIn_ok hop hcopy]
  simp only [Atomic, hsidecar, hrecovery, rename_target, hcopy, ne_eq, not_false_eq_true, true_and]

theorem atomic_moveIn_iff_of_error {contents : Option FileBytes} (hop : host.fails .moveTemporary ≠ none) :
    Atomic database recovery contents before (host.moveIn database recovery temporary files) ↔
      (∀ s, files (sidecarPath database s) = before (sidecarPath database s)) ∧
      host.undone database recovery files database = before database := by
  obtain ⟨e, after, hrun, hafter⟩ : ∃ e after, host.moveIn database recovery temporary files =
      (.error e, after) ∧ _ := moveIn_error hop
  have hmain : after database = host.undone database recovery files database :=
    hafter database (hapart.database_temporary none none)
  have hsidecar : ∀ s, after (sidecarPath database s) = files (sidecarPath database s) := by
    intro s
    have hsame : after (sidecarPath database s) = _ :=
      hafter _ (hapart.database_temporary (some s) none)
    rw [hsame, undone]
    split
    · exact rename_other (hapart.database_recovery (some s) none) (sidecarPath_ne database s)
    · rfl
  rw [hrun, ← hmain]
  simp only [Atomic, ← hsidecar]
  constructor
  · exact fun h => ⟨fun s => h (some s), h none⟩
  · rintro ⟨hsidecars, hdatabase⟩ (_ | s)
    · exact hdatabase
    · exact hsidecars s

end

theorem MovedAside.complete_iff (h : MovedAside database recovery (host.moves database before) before files)
    (hpresent : before database ≠ none) :
    (∀ s, files (sidecarPath database s) = none) ∧
        (before database ≠ none → ∀ part, files (fileOf recovery part) = before (fileOf database part)) ↔
      ∀ s, host.moves database before (some s) ∨
        before (sidecarPath database s) = none ∧ before (sidecarPath recovery s) = none := by
  have hgone : ∀ s, files (sidecarPath database s) = _ := fun s => h.gone (some s)
  have hkept : ∀ s, files (sidecarPath recovery s) = _ := fun s => h.kept (some s)
  constructor
  · rintro ⟨hnone, htogether⟩ s
    have htogether : files (sidecarPath recovery s) = before (sidecarPath database s) :=
      htogether hpresent (some s)
    cases hmoves : host.moves database before (some s) with
    | true => exact .inl rfl
    | false =>
      have hnone := hnone s
      rw [hgone, hmoves] at hnone
      rw [hkept, hmoves] at htogether
      exact .inr ⟨hnone, htogether.trans hnone⟩
  · intro hall
    refine ⟨fun s => ?_, fun _ part => ?_⟩
    · rw [hgone]
      rcases hall s with hmoves | ⟨hnone, -⟩
      · simp [hmoves]
      · simp [fileOf, hnone]
    · rw [h.kept]
      rcases part with _ | s
      · rfl
      · rcases hall s with hmoves | ⟨hnone, hfree⟩
        · simp [hmoves]
        · simp [fileOf, hnone, hfree]

/-- The undo brings back the main file only. -/
theorem MovedAside.undone_iff (h : MovedAside database recovery (host.moves database before) before files)
    (hpresent : before database ≠ none) :
    (∀ s, files (sidecarPath database s) = before (sidecarPath database s)) ∧
        host.undone database recovery files database = before database ↔
      (∀ s, host.moves database before (some s) = false) ∧
        host.fails .recoveryExists = none ∧ host.fails .moveBack = none := by
  have hgone : ∀ s, files (sidecarPath database s) = _ := fun s => h.gone (some s)
  have hmain : files database = none := h.gone none
  have hrecovered : files recovery = before database := h.kept none
  refine and_congr (forall_congr' fun s => ?_) ?_
  · rw [hgone]
    cases hmoves : host.moves database before (some s) with
    | true =>
      have hthere := (sees_eq_true.mp hmoves).2
      simp [hthere.symm]
    | false => simp [fileOf]
  · unfold undone
    have hseen : host.sees .recoveryExists files recovery ↔ host.fails .recoveryExists = none := by
      rw [sees_eq_true, hrecovered, and_iff_left hpresent]
    by_cases hback : host.fails .recoveryExists = none ∧ host.fails .moveBack = none
    · rw [if_pos ⟨hseen.mpr hback.1, hback.2⟩, rename_target]
      exact iff_of_true hrecovered hback
    · rw [if_neg (fun hdone => hback ⟨hseen.mp hdone.1, hdone.2⟩), hmain]
      exact ⟨fun hlost => absurd hlost.symm hpresent, fun hdone => absurd hdone hback⟩

theorem replaceDatabase_iff_of_absent (hapart : Apart database recovery temporary)
    (hcopy : files temporary ≠ none) (hseen : host.sees .databaseStillExists files database = false) :
    Atomic database recovery (files temporary) files
        (host.replaceDatabase database recovery temporary files) ↔
      host.Replaceable database recovery files := by
  unfold replaceDatabase Replaceable
  rw [bind_of_ok (moveAside_absent hseen)]
  by_cases hop : host.fails .moveTemporary = none
  · rw [atomic_moveIn_iff_of_ok hapart hop hcopy]
    simp [hseen, hop]
  · rw [atomic_moveIn_iff_of_error hapart hop, undone]
    by_cases hback : host.sees .recoveryExists files recovery ∧ host.fails .moveBack = none
    · simp [hseen, hop, hback]
    · rw [if_neg hback]
      simp only [hseen, hop, implies_true, true_and, Bool.false_eq_true, if_false, true_iff]
      exact fun hfound hmove => absurd ⟨hfound, hmove⟩ hback

theorem replaceDatabase_iff_of_seen (hapart : Apart database recovery temporary)
    (hcopy : files temporary ≠ none) (hseen : host.sees .databaseStillExists files database) :
    Atomic database recovery (files temporary) files
        (host.replaceDatabase database recovery temporary files) ↔
      host.Replaceable database recovery files := by
  have hpresent : files database ≠ none := (sees_eq_true.mp hseen).2
  unfold replaceDatabase Replaceable
  rw [if_pos hseen]
  by_cases hmove : host.fails .moveDatabase = none
  · simp only [hmove, ne_eq, not_true_eq_false, false_or]
    by_cases hops : ∀ s, host.moves database files (some s) → host.fails (.moveSidecar s) = none
    · obtain ⟨aside, hrun, hmoved⟩ := moveAside_ok hapart.database_recovery hseen hmove hops
      have hcopied : aside temporary = files temporary := hmoved.others temporary
        (fun part => (hapart.database_temporary part none).symm)
        fun part => (hapart.recovery_temporary part none).symm
      rw [bind_of_ok hrun, ← hcopied]
      by_cases hop : host.fails .moveTemporary = none
      · rw [atomic_moveIn_iff_of_ok hapart hop (hcopied ▸ hcopy), if_pos hop, hmoved.complete_iff hpresent]
        exact ⟨fun h => ⟨hops, h⟩, fun h => h.2⟩
      · rw [atomic_moveIn_iff_of_error hapart hop, if_neg hop, hmoved.undone_iff hpresent]
        exact ⟨fun h => ⟨hops, h⟩, fun h => h.2⟩
    · push Not at hops
      obtain ⟨s, hs, hfails⟩ := hops
      obtain ⟨e, after, hrun, hgone⟩ := moveAside_torn hapart.database_recovery hseen hmove hs hfails
      rw [bind_of_error hrun]
      constructor
      · intro h
        exact absurd ((h none).symm.trans hgone) hpresent
      · rintro ⟨hops, -⟩
        exact absurd (hops s hs) hfails
  · obtain ⟨e, he⟩ : ∃ e, host.moveAside database recovery files = (.error e, files) :=
      moveAside_error hseen hmove
    rw [bind_of_error he]
    simp [Atomic, hmove]

theorem replaceDatabase_iff (hapart : Apart database recovery temporary) (hcopy : files temporary ≠ none) :
    Atomic database recovery (files temporary) files
        (host.replaceDatabase database recovery temporary files) ↔
      host.Replaceable database recovery files := by
  cases hseen : host.sees .databaseStillExists files database with
  | false => exact replaceDatabase_iff_of_absent hapart hcopy hseen
  | true => exact replaceDatabase_iff_of_seen hapart hcopy hseen

end RestoreHost

section

variable {path recovery : String} {contents : Option FileBytes}

theorem atomic_congr {α : Type}
    {before before' : DatabaseFiles} {run : Except PersistenceError α × DatabaseFiles}
    (h : ∀ part, before' (fileOf path part) = before (fileOf path part)) :
    Atomic path recovery contents before' run ↔ Atomic path recovery contents before run := by
  have hmain : before' path = before path := h none
  obtain ⟨result, after⟩ := run
  cases result with
  | error e => simp only [Atomic, h]
  | ok a => simp only [Atomic, h, hmain]

theorem atomic_map {α β : Type} {action : FileM α} {value : β} {before files : DatabaseFiles} :
    Atomic path recovery contents before ((action >>= fun _ => pure value : FileM β) files) ↔
      Atomic path recovery contents before (action files) := by
  rcases h : action files with ⟨result, after⟩
  cases result with
  | error e =>
    rw [bind_of_error h]
    rfl
  | ok a =>
    rw [bind_of_ok h]
    rfl

/-- A restore is all or nothing exactly when, once it is prepared, the moves of the database's
files do not fail in a way that leaves them apart. -/
theorem restoreBackup_atomic_iff (host : RestoreHost) (database : DatabasePath) (backup : String)
    (force : Bool) (uuid stamp : String) (files : DatabaseFiles)
    (hfresh : backup ≠ database.temporary uuid)
    (hapart : backup ≠ database.text → ∀ a b, fileOf backup a ≠ fileOf database.text b) :
    Atomic database.text (database.recovery stamp) (files backup) files
        (host.restoreBackup database backup force uuid stamp files) ↔
      ∀ verified prepared, host.prepareRestore database backup force uuid files = (.ok verified, prepared) →
        host.Replaceable database.text (database.recovery stamp) prepared := by
  have hnames := database.apart uuid stamp
  -- the files of the database are as they were until they are moved
  have hkeeps : Keeps {name | ∃ part, name = fileOf database.text part}
      (host.prepareRestore database backup force uuid) := by
    refine RestoreHost.keeps_prepareRestore (fun hne part hmem => ?_) fun part hmem => ?_
    · obtain ⟨own, hown⟩ := hmem
      exact hapart hne.symm part own hown
    · obtain ⟨own, hown⟩ := hmem
      exact hnames.database_temporary own part hown.symm
  rcases hprepare : host.prepareRestore database backup force uuid files with ⟨result, prepared⟩
  have hsame : ∀ part, prepared (fileOf database.text part) = files (fileOf database.text part) :=
    fun part => hkeeps.of_eq hprepare ⟨part, rfl⟩
  unfold RestoreHost.restoreBackup
  cases result with
  | error e =>
    rw [bind_of_error hprepare]
    exact iff_of_true hsame (by rintro _ _ ⟨⟩)
  | ok verified =>
    obtain ⟨hbackup, hcopied⟩ := RestoreHost.prepareRestore_eq_ok hfresh hprepare
    rw [bind_of_ok hprepare, atomic_map, ← atomic_congr hsame, ← hcopied,
      RestoreHost.replaceDatabase_iff hnames (hcopied ▸ hbackup)]
    constructor
    · rintro h _ _ ⟨⟩
      exact h
    · exact fun h => h verified prepared rfl

def plainHost (fails : FileOp → Option String) : RestoreHost where
  fails := fails
  inspect files path := (match files path with
    | none => .error (.unavailable "no such table: _extrittio_migrations")
    | some _ => .ok 1, files)
  inspect_other _ _ _ _ := rfl
  inspect_main _ _ _ := rfl
  inspect_missing files path h := by simp [h]
  sha256 _ := "digest"

def edgeDatabase : DatabasePath := ⟨"extrittio", some "db", by simp⟩

def edgeFiles : DatabaseFiles
  | "extrittio.db" => some [1]
  | "extrittio.db-wal" => some [2]
  | "backup.db" => some [9]
  | _ => none

def forcedRestore (fails : FileOp → Option String) : Except PersistenceError TursoBackupInfo × DatabaseFiles :=
  (plainHost fails).restoreBackup edgeDatabase "backup.db" true "uuid" "20260101T000000Z" edgeFiles

theorem restoreBackup_atomic_forced : Atomic "extrittio.db" "extrittio.pre-restore-20260101T000000Z.db"
    (some [9]) edgeFiles (forcedRestore fun _ => none) := by
  have hapart : ∀ a b, fileOf "backup.db" a ≠ fileOf "extrittio.db" b := by
    rintro (_ | _ | _) (_ | _ | _) <;> decide
  refine (restoreBackup_atomic_iff (plainHost fun _ => none) edgeDatabase "backup.db" true "uuid"
    "20260101T000000Z" edgeFiles (by decide) fun _ => hapart).mpr ?_
  intro verified prepared hprepared
  obtain rfl := congrArg Prod.snd hprepared
  unfold RestoreHost.Replaceable
  rw [if_pos (by decide)]
  refine .inr ⟨fun _ _ => rfl, ?_⟩
  rw [if_pos (by rfl)]
  rintro (_ | _)
  · exact .inl (by decide)
  · exact .inr ⟨by decide, by decide⟩

/-- When the copy cannot take its place the main file comes back without its log; when the log
cannot be moved the main file does not come back. -/
theorem forced_restore_separates_wal :
    ((forcedRestore fun op => if op = .moveTemporary then some "I/O error" else none).2 "extrittio.db" =
        some [1] ∧
      (forcedRestore fun op => if op = .moveTemporary then some "I/O error" else none).2
        "extrittio.db-wal" = none ∧
      ¬Atomic "extrittio.db" "extrittio.pre-restore-20260101T000000Z.db" (some [9]) edgeFiles
        (forcedRestore fun op => if op = .moveTemporary then some "I/O error" else none)) ∧
    ¬Atomic "extrittio.db" "extrittio.pre-restore-20260101T000000Z.db" (some [9]) edgeFiles
      (forcedRestore fun op => if op = .moveSidecar .wal then some "I/O error" else none) := by
  refine ⟨⟨by decide, by decide, fun h => ?_⟩, fun h => ?_⟩
  · have hwal := h (some .wal)
    revert hwal
    decide
  · have hmain := h none
    revert hmain
    decide

end

end Extrittio
