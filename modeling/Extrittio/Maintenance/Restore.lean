import Extrittio.Library.Files
import Extrittio.Platform

/-!
Restoring the embedded database from a backup. A database is a file with a write-ahead log and
a shared-memory file beside it, under its own name with a suffix. Every operation on files may
fail; which ones do is given by the host. Directories and the lock file are not among the files.
-/
namespace Extrittio

open FileSystem

abbrev FileBytes := List UInt8

abbrev DatabaseFiles := Files String FileBytes

abbrev FileM := Action PersistenceError DatabaseFiles

inductive Sidecar where
  | wal
  | shm
  deriving DecidableEq

def Sidecar.suffix : Sidecar → String
  | .wal => "-wal"
  | .shm => "-shm"

def sidecarPath (path : String) (s : Sidecar) : String := path ++ s.suffix

def manifestPath (path : String) : String := path ++ ".sha256"

def fileOf (path : String) : Option Sidecar → String
  | none => path
  | some s => sidecarPath path s

/-- A path with a file name, taken apart before the last dot of the name. -/
structure DatabasePath where
  stem : String
  extension : Option String
  dotless : ∀ e ∈ extension, '.' ∉ e.toList

namespace DatabasePath

def text (path : DatabasePath) : String :=
  match path.extension with
  | none => path.stem
  | some e => path.stem ++ "." ++ e

def withExtension (path : DatabasePath) (e : String) : String := path.stem ++ "." ++ e

def temporary (path : DatabasePath) (uuid : String) : String :=
  path.withExtension ("restore-" ++ uuid ++ ".tmp")

def recovery (path : DatabasePath) (stamp : String) : String :=
  path.withExtension ("pre-restore-" ++ stamp ++ ".db")

end DatabasePath

structure TursoBackupInfo where
  path : String
  sizeBytes : ℕ
  sha256 : String
  schemaVersion : ℤ
  deriving DecidableEq

/-- Which file `verify_database_file` is called for. -/
inductive VerifiedFile where
  | backup
  | temporary
  deriving DecidableEq

/-- The operations on files, each made at most once. -/
inductive FileOp where
  | walExists (file : VerifiedFile)
  | walMetadata (file : VerifiedFile)
  | sidecarExists (file : VerifiedFile) (s : Sidecar)
  | removeSidecar (file : VerifiedFile) (s : Sidecar)
  | openBackup
  | manifestExists
  | readManifest
  | createDataDir
  | lockDataDir
  | databaseExists
  | createParent
  | copyBackup
  | discardTemporary
  | databaseStillExists
  | moveDatabase
  | sidecarFound (s : Sidecar)
  | moveSidecar (s : Sidecar)
  | moveTemporary
  | recoveryExists
  | moveBack
  | removeTemporary
  deriving DecidableEq

/-- What is outside: the operations that fail and with which text, the engine that opens a file,
checks it and reads its schema version, and the digest. The engine may write sidecars of the
file it opens and creates a missing file, which it then finds without a schema. -/
structure RestoreHost where
  fails : FileOp → Option String
  inspect : DatabaseFiles → String → Except PersistenceError ℤ × DatabaseFiles
  inspect_other : ∀ files path name, (∀ part, name ≠ fileOf path part) →
    (inspect files path).2 name = files name
  inspect_main : ∀ files path, files path ≠ none → (inspect files path).2 path = files path
  inspect_missing : ∀ files path, files path = none → ∀ version, (inspect files path).1 ≠ .ok version
  sha256 : FileBytes → String

namespace RestoreHost

variable (host : RestoreHost)

/-- `Path::exists` answers no when it fails. -/
def sees (op : FileOp) (files : DatabaseFiles) (path : String) : Bool :=
  (host.fails op).isNone && (files path).isSome

def fileExists (op : FileOp) (path : String) : FileM Bool := do
  return host.sees op (← get) path

/-- An operation of which only matters whether it fails. -/
def attempt (op : FileOp) : FileM Unit :=
  match host.fails op with
  | some error => throw (.unavailable error)
  | none => pure ()

def readFile (op : FileOp) (path : String) : FileM FileBytes := fun files =>
  match host.fails op, files path with
  | some error, _ => (.error (.unavailable error), files)
  | none, none => (.error (.unavailable "No such file or directory (os error 2)"), files)
  | none, some bytes => (.ok bytes, files)

def readToString (op : FileOp) (path : String) : FileM String := do
  let bytes ← host.readFile op path
  match String.fromUTF8? ⟨bytes.toArray⟩ with
  | some text => return text
  | none => throw (.unavailable "stream did not contain valid UTF-8")

def renameFile (op : FileOp) (source target : String) : FileM Unit := do
  let _ ← host.readFile op source
  modify fun files => files.rename source target

def removeFile (op : FileOp) (path : String) : FileM Unit := do
  let _ ← host.readFile op path
  modify fun files => Function.update files path none

/-- The target is emptied before the source is read. -/
def copyFile (op : FileOp) (source target : String) : FileM Unit := do
  let bytes ← host.readFile op source
  modify fun files => Function.update files target (some (if source = target then [] else bytes))

def require (condition : Bool) (error : PersistenceError) : FileM Unit :=
  if condition then pure () else throw error

def ignore {α : Type} (action : FileM α) : FileM Unit :=
  tryCatch (do let _ ← action) fun _ => pure ()

/-- The log must not hold more than its header. -/
def checkWal (file : VerifiedFile) (path : String) : FileM Unit := do
  if ← host.fileExists (.walExists file) (sidecarPath path .wal) then
    let bytes ← host.readFile (.walMetadata file) (sidecarPath path .wal)
    require (bytes.length ≤ 32) (.corruptData "backup contains an uncheckpointed write-ahead log")

def removeSidecar (file : VerifiedFile) (path : String) (s : Sidecar) : FileM Unit := do
  if ← host.fileExists (.sidecarExists file s) (sidecarPath path s) then
    host.removeFile (.removeSidecar file s) (sidecarPath path s)

def verifyDatabaseFile (file : VerifiedFile) (path : String) : FileM ℤ := do
  host.checkWal file path
  let version ← (fun files => host.inspect files path : FileM ℤ)
  host.removeSidecar file path .wal
  host.removeSidecar file path .shm
  return version

def firstWord (text : String) : String :=
  String.ofList ((text.toList.dropWhile isWhitespace).takeWhile fun c => !isWhitespace c)

def checkManifest (path sha256 : String) : FileM Unit := do
  if ← host.fileExists .manifestExists (manifestPath path) then
    let expected := firstWord (← host.readToString .readManifest (manifestPath path))
    require (expected = sha256)
      (.corruptData ("backup checksum mismatch: expected " ++ expected ++ ", got " ++ sha256))

def verifyBackup (path : String) : FileM TursoBackupInfo := do
  let schemaVersion ← host.verifyDatabaseFile .backup path
  let bytes ← host.readFile .openBackup path
  host.checkManifest path (host.sha256 bytes)
  return ⟨path, bytes.length, host.sha256 bytes, schemaVersion⟩

def openProcessLock : FileM Unit :=
  match host.fails .lockDataDir with
  | some error =>
    throw (.unavailable ("data directory is already in use or cannot be locked: " ++ error))
  | none => pure ()

/-- The first part of `restore_backup`: the backup is checked and copied beside the database. -/
def prepareRestore (database : DatabasePath) (backup : String) (force : Bool) (uuid : String) :
    FileM TursoBackupInfo := do
  require (database.text ≠ backup) (.unavailable "backup path must differ from the database path")
  let verified ← host.verifyBackup backup
  host.attempt .createDataDir
  host.openProcessLock
  let present ← host.fileExists .databaseExists database.text
  require (!present || force) (.unavailable ("database already exists: " ++ database.text ++
    "; pass --force to preserve and replace it"))
  host.attempt .createParent
  host.copyFile .copyBackup backup (database.temporary uuid)
  let _ ← tryCatch (host.verifyDatabaseFile .temporary (database.temporary uuid)) fun error => do
    ignore (host.removeFile .discardTemporary (database.temporary uuid))
    throw error
  return verified

def preserveSidecar (source recovery : String) (s : Sidecar) : FileM Unit := do
  if ← host.fileExists (.sidecarFound s) (sidecarPath source s) then
    host.renameFile (.moveSidecar s) (sidecarPath source s) (sidecarPath recovery s)

/-- The second part: a database that is there is moved to the recovery name. -/
def moveAside (database recovery : String) : FileM Unit := do
  if ← host.fileExists .databaseStillExists database then
    host.renameFile .moveDatabase database recovery
    host.preserveSidecar database recovery .wal
    host.preserveSidecar database recovery .shm

/-- The last part: the copy takes the place of the database. -/
def moveIn (database recovery temporary : String) : FileM Unit :=
  tryCatch (host.renameFile .moveTemporary temporary database) fun error => do
    if ← host.fileExists .recoveryExists recovery then
      ignore (host.renameFile .moveBack recovery database)
    ignore (host.removeFile .removeTemporary temporary)
    throw error

def replaceDatabase (database recovery temporary : String) : FileM Unit := do
  host.moveAside database recovery
  host.moveIn database recovery temporary

def restoreBackup (database : DatabasePath) (backup : String) (force : Bool) (uuid stamp : String) :
    FileM TursoBackupInfo := do
  let verified ← host.prepareRestore database backup force uuid
  host.replaceDatabase database.text (database.recovery stamp) (database.temporary uuid)
  return { verified with path := database.text }

end RestoreHost

end Extrittio
