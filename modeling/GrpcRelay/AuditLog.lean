import GrpcRelay.Lib.Directory
import Mathlib.Data.Nat.Notation
import Mathlib.Algebra.Order.Ring.Int

/-!
# The audit log

`FileAuditWriter` (`audit.rs`): a log file that is rotated when it has grown to its maximal size,
and its numbered backups.

A file is the list of the lines written to it, each of which takes its bytes and one for the
newline.  The names in the directory are the log and `log.1`, `log.2`, …, which `with_extension`
makes of it.  Every write is flushed, so nothing is left in the buffer between two calls.  Files
have fewer than 2^64 bytes, so the byte counter does not wrap.  Which renames, opens and removals
fail is given by `Faults`, the time by the caller.
-/

namespace GrpcRelay.Audit

/-- The file that is written to, and the backups `log.1`, `log.2` and so on. -/
inductive FileName where
  | active
  | backup (i : ℕ)
  deriving DecidableEq, Repr

/-- A log file: its lines and the time of its last change, in seconds. -/
structure LogFile where
  lines : List String
  modified : ℤ
  deriving DecidableEq, Repr, Inhabited

/-- The bytes that a line takes. -/
def lineSize (line : String) : ℕ := line.utf8ByteSize + 1

/-- The bytes of a file. -/
def size (lines : List String) : ℕ := (lines.map lineSize).sum

/-- The file operations that fail in a call. -/
structure Faults where
  renameBackup : ℕ → Bool := fun _ => false
  renameActive : Bool := false
  openActive : Bool := false
  removeBackup : ℕ → Bool := fun _ => false

/-- The operations that make `rotate` fail. -/
inductive IoError where
  | rename
  | open
  deriving DecidableEq, Repr

/-- The writer, with the directory that its file is in. -/
structure FileAuditWriter where
  directory : Directory FileName LogFile
  writer : ℕ
  maxSize : ℕ
  maxBackups : ℕ
  retentionDays : ℕ
  bytesWritten : ℕ

namespace FileAuditWriter

/-! ## Retention -/

/-- One turn of the loop of `cleanup_old_backups` that finds its backup. -/
def cleanupBackup (faults : Faults) (cutoff : ℤ) (d : Directory FileName LogFile) (i file : ℕ) :
    Directory FileName LogFile :=
  if (d.files file).modified < cutoff ∧ faults.removeBackup i = false then d.remove (.backup i)
  else d

/-- The loop of `cleanup_old_backups` over the backups from `i` on; it ends at the first that does
not exist. -/
def cleanupFrom (faults : Faults) (cutoff : ℤ) (d : Directory FileName LogFile) (i : ℕ) :
    ℕ → Directory FileName LogFile
  | 0 => d
  | n + 1 =>
    match d.names (.backup i) with
    | none => d
    | some file => cleanupFrom faults cutoff (cleanupBackup faults cutoff d i file) (i + 1) n

/-- `cleanup_old_backups`: backups older than the retention time are removed. -/
def cleanupOldBackups (w : FileAuditWriter) (faults : Faults) (now : ℤ) : FileAuditWriter :=
  if w.retentionDays = 0 then w
  else
    { w with
      directory := cleanupFrom faults (now - w.retentionDays * 24 * 3600) w.directory 1
        w.maxBackups }

/-! ## Rotation -/

/-- One turn of the rename loop: `log.i` becomes `log.(i+1)`.  A failed rename is only logged. -/
def shiftBackup (faults : Faults) (d : Directory FileName LogFile) (i : ℕ) :
    Directory FileName LogFile :=
  if (d.names (.backup i)).isSome ∧ faults.renameBackup i = false then
    d.rename (.backup i) (.backup (i + 1))
  else d

/-- The rename loop, for the backups from `n` down to 1. -/
def shiftBackups (faults : Faults) (d : Directory FileName LogFile) :
    ℕ → Directory FileName LogFile
  | 0 => d
  | i + 1 => shiftBackups faults (shiftBackup faults d (i + 1)) i

/-- `rotate`: the backups move up, the file becomes the first, and a new file is opened. -/
def rotate (w : FileAuditWriter) (faults : Faults) (now : ℤ) :
    Except IoError Unit × FileAuditWriter :=
  let d := shiftBackups faults w.directory (w.maxBackups - 1)
  if (d.names .active).isSome ∧ faults.renameActive = false then
    let d := d.rename .active (.backup 1)
    if faults.openActive then (.error .open, { w with directory := d })
    else
      let (file, d) := d.openOrCreate .active ⟨[], now⟩
      (.ok (), ({ w with directory := d, writer := file, bytesWritten := 0 }).cleanupOldBackups
        faults now)
  else (.error .rename, { w with directory := d })

/-! ## Writing -/

/-- `writeln!` and `flush`, and the count of the bytes. -/
def append (w : FileAuditWriter) (line : String) (now : ℤ) : FileAuditWriter :=
  { w with
    directory := w.directory.modify w.writer fun f => ⟨f.lines ++ [line], now⟩
    bytesWritten := w.bytesWritten + lineSize line }

/-- The line fills the file. -/
def fills (w : FileAuditWriter) (line : String) : Bool :=
  w.maxSize ≤ w.bytesWritten + lineSize line

/-- `write_event`: the line is appended, and a file that is full is rotated. -/
def writeEvent (w : FileAuditWriter) (line : String) (faults : Faults) (now : ℤ) :
    Except IoError Unit × FileAuditWriter :=
  if w.fills line then (w.append line now).rotate faults now else (.ok (), w.append line now)

/-- `FileAuditWriter::new` on a directory, without faults, for a maximal size in bytes. -/
def start (d : Directory FileName LogFile) (maxSize maxBackups retentionDays : ℕ) (now : ℤ) :
    FileAuditWriter :=
  let (file, d) := d.openOrCreate .active ⟨[], now⟩
  ({ directory := d
     writer := file
     maxSize := maxSize
     maxBackups := maxBackups
     retentionDays := retentionDays
     bytesWritten := size (d.files file).lines } : FileAuditWriter).cleanupOldBackups {} now

/-- `FileAuditWriter::new`. -/
def new (d : Directory FileName LogFile) (maxSizeMb maxBackups retentionDays : ℕ) (now : ℤ) :
    FileAuditWriter :=
  start d (maxSizeMb * 1024 * 1024 % 2 ^ 64) maxBackups retentionDays now

end FileAuditWriter

end GrpcRelay.Audit
