import GrpcRelay.AuditLog
import GrpcRelay.Lib.Charges

/-!
# What the audit log keeps

A run of `write_event` calls without faults cuts the lines into files: each rotation moves the lines
of the log since the last one into `log.1`.  The backups are the last of these files, in order, and
what is missing is what older rotations have moved (`audit_log_is_retained`).

A rotation that fails is meant to be skipped.  It leaves the directory alone exactly if it renames
nothing (`failed_rotation_keeps_iff`).
-/

namespace GrpcRelay.Audit.FileAuditWriter

/-! ## The rename loop -/

section Shift

variable {d : Directory FileName LogFile} {faults : Faults}

theorem files_shiftBackup (d : Directory FileName LogFile) (i : ℕ) :
    (shiftBackup faults d i).files = d.files ∧ (shiftBackup faults d i).next = d.next := by
  unfold shiftBackup
  split_ifs <;> exact ⟨rfl, rfl⟩

theorem names_shiftBackup_of_ne {n : FileName} {i : ℕ} (hi : n ≠ .backup i)
    (hnext : n ≠ .backup (i + 1)) : (shiftBackup faults d i).names n = d.names n := by
  unfold shiftBackup
  split_ifs
  · exact Directory.names_rename_of_ne hi hnext
  · rfl

theorem files_shiftBackups (n : ℕ) : ∀ d : Directory FileName LogFile,
    (shiftBackups faults d n).files = d.files ∧ (shiftBackups faults d n).next = d.next := by
  induction n with
  | zero => exact fun d => ⟨rfl, rfl⟩
  | succ n ih =>
    intro d
    obtain ⟨hfiles, hnext⟩ := ih (shiftBackup faults d (n + 1))
    exact ⟨hfiles.trans (files_shiftBackup d _).1, hnext.trans (files_shiftBackup d _).2⟩

/-- The loop only touches the backups up to the one after its first. -/
theorem names_shiftBackups_of_ne {m : FileName} (n : ℕ)
    (hm : ∀ i, 1 ≤ i → i ≤ n + 1 → m ≠ .backup i) : ∀ d : Directory FileName LogFile,
    (shiftBackups faults d n).names m = d.names m := by
  induction n with
  | zero => exact fun d => rfl
  | succ n ih =>
    intro d
    rw [shiftBackups, ih fun i hi hin => hm i hi (by omega)]
    exact names_shiftBackup_of_ne (hm _ (by omega) (by omega)) (hm _ (by omega) (by omega))

theorem exists_of_names_shiftBackups {m : FileName} {file : ℕ} (n : ℕ) :
    ∀ d : Directory FileName LogFile, (shiftBackups faults d n).names m = some file →
      ∃ m', d.names m' = some file := by
  induction n with
  | zero => exact fun d h => ⟨m, h⟩
  | succ n ih =>
    intro d h
    obtain ⟨m', hm'⟩ := ih _ h
    unfold shiftBackup at hm'
    split_ifs at hm'
    · exact Directory.exists_of_names_rename hm'
    · exact ⟨m', hm'⟩

end Shift

/-- Without faults, a turn of the loop moves the backup, if it is there. -/
theorem names_shiftBackup (d : Directory FileName LogFile) (i : ℕ) :
    (shiftBackup {} d i).names (.backup i) = none ∧
      (shiftBackup {} d i).names (.backup (i + 1)) =
        (d.names (.backup i)).or (d.names (.backup (i + 1))) := by
  have hne : FileName.backup (i + 1) ≠ .backup i := by simp
  unfold shiftBackup
  cases hi : d.names (.backup i) with
  | none => simp [hi]
  | some file => simp [Directory.names_rename_old, Directory.names_rename_new hne, hi]

/-- Without faults, the loop moves every backup to the next number, the last one included, and
leaves the first number free. -/
theorem names_shiftBackups (n : ℕ) : ∀ d : Directory FileName LogFile,
    (0 < n → (shiftBackups {} d n).names (.backup 1) = none) ∧
      (∀ j, 1 ≤ j → j < n → (shiftBackups {} d n).names (.backup (j + 1)) = d.names (.backup j)) ∧
      (0 < n → (shiftBackups {} d n).names (.backup (n + 1)) =
        (d.names (.backup n)).or (d.names (.backup (n + 1)))) := by
  induction n with
  | zero => exact fun d => ⟨by omega, by omega, by omega⟩
  | succ n ih =>
    intro d
    obtain ⟨hfirst, hmiddle, hlast⟩ := ih (shiftBackup {} d (n + 1))
    obtain ⟨hmoved, hnew⟩ := names_shiftBackup d (n + 1)
    have hsame (j : ℕ) (hj : j < n + 1) :
        (shiftBackup {} d (n + 1)).names (.backup j) = d.names (.backup j) :=
      names_shiftBackup_of_ne (by simp; omega) (by simp; omega)
    rw [shiftBackups]
    refine ⟨fun _ => ?_, fun j hj hjn => ?_, fun _ => ?_⟩
    · by_cases hn : 0 < n
      · exact hfirst hn
      · obtain rfl : n = 0 := by omega
        exact hmoved
    · by_cases hjn' : j < n
      · rw [hmiddle j hj hjn', hsame j (by omega)]
      · obtain rfl : j = n := by omega
        rw [hlast (by omega), hmoved, hsame j (by omega), Option.or_none]
    · rw [names_shiftBackups_of_ne n fun i _ hin => by simp; omega, hnew]

/-! ## The files of a run -/

/-- The lines of the file with a name. -/
def linesOf (w : FileAuditWriter) (n : FileName) : Option (List String) :=
  (w.directory.content n).map LogFile.lines

/-- The writer has its log open under its name, with the given lines, and the backups are the files
that were moved, the last one first, as far as they are kept. -/
structure Holds (w : FileAuditWriter) (moved : List (List String)) (lines : List String) :
    Prop where
  named : w.directory.names .active = some w.writer
  current : (w.directory.files w.writer).lines = lines
  kept : ∀ i, w.linesOf (.backup (i + 1)) = if i < w.maxBackups then moved[i]? else none
  unnumbered : w.directory.names (.backup 0) = none
  own : ∀ i, w.directory.names (.backup i) ≠ some w.writer
  used : ∀ n file, w.directory.names n = some file → file < w.directory.next
  counted : w.bytesWritten = size lines
  filled : ∀ file ∈ moved, w.maxSize ≤ size file

section Holds

variable {w : FileAuditWriter} {moved : List (List String)} {lines : List String}

theorem size_append (lines : List String) (line : String) :
    size (lines ++ [line]) = size lines + lineSize line := by
  simp [size]

theorem Holds.append (h : Holds w moved lines) (line : String) (now : ℤ) :
    Holds (w.append line now) moved (lines ++ [line]) where
  named := h.named
  current := by simp [FileAuditWriter.append, Directory.modify, h.current]
  kept i := (congrArg (Option.map LogFile.lines)
    (Directory.content_modify_of_ne (h.own (i + 1)))).trans (h.kept i)
  unnumbered := h.unnumbered
  own := h.own
  used := h.used
  counted := by rw [size_append, ← h.counted]; rfl
  filled := h.filled

/-- The last number of the rename loop keeps its file only if there is none to replace it. -/
theorem Holds.kept_or (h : Holds w moved lines) {n : ℕ} (hn : n + 1 < w.maxBackups) :
    ((w.directory.names (.backup (n + 1))).or (w.directory.names (.backup (n + 2)))).map
      (fun file => (w.directory.files file).lines) = moved[n]? := by
  have hthis := h.kept n
  have hnext := h.kept (n + 1)
  rw [if_pos (by omega), linesOf, Directory.content, Option.map_map] at hthis
  rw [if_pos hn, linesOf, Directory.content, Option.map_map] at hnext
  cases hfile : w.directory.names (.backup (n + 1)) with
  | some file =>
    rw [hfile] at hthis
    exact hthis
  | none =>
    rw [hfile, Option.map_none] at hthis
    have hshort : moved.length ≤ n := List.getElem?_eq_none_iff.mp hthis.symm
    have hnone : moved[n + 1]? = none := List.getElem?_eq_none (by omega)
    rw [Option.none_or, ← hthis, ← hnone]
    exact hnext

/-- The rename loop moves the lines of every backup to the next number. -/
theorem Holds.shifted (h : Holds w moved lines) {j : ℕ} (hj : 1 ≤ j) :
    ((shiftBackups {} w.directory (w.maxBackups - 1)).names (.backup (j + 1))).map
        (fun file => (w.directory.files file).lines) =
      if j < w.maxBackups then moved[j - 1]? else none := by
  obtain ⟨-, hmiddle, hlast⟩ := names_shiftBackups (w.maxBackups - 1) w.directory
  obtain ⟨i, rfl⟩ : ∃ i, j = i + 1 := ⟨j - 1, by omega⟩
  rw [Nat.add_sub_cancel]
  by_cases hlt : i + 1 < w.maxBackups - 1
  · rw [hmiddle (i + 1) (by omega) hlt, if_pos (by omega)]
    have hkept := h.kept i
    rw [if_pos (by omega), linesOf, Directory.content, Option.map_map] at hkept
    exact hkept
  · by_cases heq : i + 1 = w.maxBackups - 1
    · rw [← heq] at hlast ⊢
      rw [hlast (by omega), if_pos (by omega)]
      exact h.kept_or (by omega)
    · rw [names_shiftBackups_of_ne _ fun k _ hk => by simp; omega, if_neg (by omega)]
      have hkept := h.kept (i + 1)
      rw [if_neg (by omega), linesOf, Directory.content, Option.map_map] at hkept
      exact hkept

/-- The directory after a rotation without faults. -/
def rotated (w : FileAuditWriter) (now : ℤ) : Directory FileName LogFile where
  names := Function.update
    ((shiftBackups {} w.directory (w.maxBackups - 1)).rename .active (.backup 1)).names .active
    (some w.directory.next)
  files := Function.update w.directory.files w.directory.next ⟨[], now⟩
  next := w.directory.next + 1

theorem Holds.rotate_eq (h : Holds w moved lines) (hretention : w.retentionDays = 0) (now : ℤ) :
    w.rotate {} now = (.ok (), { w with
      directory := w.rotated now
      writer := w.directory.next
      bytesWritten := 0 }) := by
  have hactive : (shiftBackups {} w.directory (w.maxBackups - 1)).names .active =
      some w.writer := by
    rw [names_shiftBackups_of_ne _ (by simp), h.named]
  obtain ⟨hfiles, hnext⟩ : (shiftBackups {} w.directory (w.maxBackups - 1)).files =
      w.directory.files ∧ _ := files_shiftBackups _ _
  simp only [FileAuditWriter.rotate, hactive, Option.isSome_some, true_and, if_true,
    Bool.false_eq_true, if_false, Directory.openOrCreate, Directory.names_rename_old,
    cleanupOldBackups, hretention, rotated]
  simp only [Directory.rename, hfiles, hnext]

theorem names_rotated_active (w : FileAuditWriter) (now : ℤ) :
    (w.rotated now).names .active = some w.directory.next := by
  simp [rotated]

theorem names_rotated_of_ne {n : FileName} (hn : n ≠ .active) (now : ℤ) :
    (w.rotated now).names n =
      ((shiftBackups {} w.directory (w.maxBackups - 1)).rename .active (.backup 1)).names n :=
  Function.update_of_ne hn _ _

theorem Holds.names_rotated (h : Holds w moved lines) (now : ℤ) :
    (w.rotated now).names (.backup 1) = some w.writer ∧
      ∀ i, i ≠ 1 → (w.rotated now).names (.backup i) =
        (shiftBackups {} w.directory (w.maxBackups - 1)).names (.backup i) := by
  have hactive : (shiftBackups {} w.directory (w.maxBackups - 1)).names .active =
      some w.writer := by
    rw [names_shiftBackups_of_ne _ (by simp), h.named]
  constructor
  · rw [names_rotated_of_ne (by simp), Directory.names_rename_new (by simp), hactive]
  · intro i hi
    rw [names_rotated_of_ne (by simp),
      Directory.names_rename_of_ne (by simp) (by simpa using hi)]

/-- A file that has a name after a rotation had one before, or is the new log. -/
theorem Holds.used_rotated (h : Holds w moved lines) {now : ℤ} {n : FileName} {file : ℕ}
    (hn : (w.rotated now).names n = some file) :
    n = .active ∧ file = w.directory.next ∨ n ≠ .active ∧ file < w.directory.next := by
  by_cases hactive : n = .active
  · subst hactive
    rw [names_rotated_active] at hn
    cases hn
    exact .inl ⟨rfl, rfl⟩
  · rw [names_rotated_of_ne hactive] at hn
    obtain ⟨m, hm⟩ := Directory.exists_of_names_rename hn
    obtain ⟨m', hm'⟩ := exists_of_names_shiftBackups _ _ hm
    exact .inr ⟨hactive, h.used m' file hm'⟩

theorem Holds.rotate (h : Holds w moved lines) (hbackups : 1 ≤ w.maxBackups)
    (hfull : w.maxSize ≤ size lines) (now : ℤ) :
    Holds { w with
      directory := w.rotated now
      writer := w.directory.next
      bytesWritten := 0 } (lines :: moved) [] := by
  obtain ⟨hfirst, hothers⟩ := h.names_rotated now
  have hlines (i : ℕ) : ((w.rotated now).content (.backup i)).map LogFile.lines =
      ((w.rotated now).names (.backup i)).map fun file => (w.directory.files file).lines := by
    cases hfile : (w.rotated now).names (.backup i) with
    | none => simp [Directory.content, hfile]
    | some file =>
      obtain ⟨hn, -⟩ | ⟨-, hlt⟩ := h.used_rotated hfile
      · cases hn
      · have hsame : (w.rotated now).files file = w.directory.files file :=
          Function.update_of_ne (Nat.ne_of_lt hlt) _ _
        simp [Directory.content, hfile, hsame]
  constructor
  · exact names_rotated_active w now
  · simp [rotated]
  · intro i
    rw [linesOf, hlines]
    cases i with
    | zero =>
      rw [hfirst, if_pos (Nat.lt_of_lt_of_le Nat.zero_lt_one hbackups), Option.map_some, h.current]
      rfl
    | succ i =>
      rw [hothers _ (by omega), h.shifted (by omega)]
      rfl
  · rw [hothers 0 (by omega), names_shiftBackups_of_ne _ fun k _ _ => by simp; omega, h.unnumbered]
  · intro i hi
    obtain ⟨hn, -⟩ | ⟨-, hlt⟩ := h.used_rotated hi
    · cases hn
    · exact Nat.lt_irrefl _ hlt
  · intro n file hn
    obtain ⟨-, rfl⟩ | ⟨-, hlt⟩ := h.used_rotated hn
    · exact Nat.lt_succ_self _
    · exact Nat.lt_succ_of_lt hlt
  · rfl
  · intro file hmem
    obtain rfl | hmem := List.mem_cons.mp hmem
    · exact hfull
    · exact h.filled file hmem

end Holds

/-! ## Runs without faults -/

/-- The writer after a sequence of `write_event` calls without faults. -/
def writeAll (w : FileAuditWriter) (events : List (String × ℤ)) : FileAuditWriter :=
  events.foldl (fun w e => (w.writeEvent e.1 {} e.2).2) w

/-- The lines that each rotation of these calls moves out of the log, in order. -/
def rotations (w : FileAuditWriter) : List (String × ℤ) → List (List String)
  | [] => []
  | e :: events =>
    (if w.fills e.1 then [(w.directory.files w.writer).lines ++ [e.1]] else []) ++
      rotations (w.writeEvent e.1 {} e.2).2 events

section Run

variable {w : FileAuditWriter} {moved : List (List String)} {lines : List String}

/-- One call without faults: the line is written, and a log that is full is moved. -/
theorem Holds.writeEvent (h : Holds w moved lines) (hbackups : 1 ≤ w.maxBackups)
    (hretention : w.retentionDays = 0) (hsize : 0 < w.maxSize) (line : String) (now : ℤ) :
    ∃ lines', Holds (w.writeEvent line {} now).2
        ((if w.fills line then [lines ++ [line]] else []) ++ moved) lines' ∧
      (if w.fills line then [lines ++ [line]] else []).flatten ++ lines' = lines ++ [line] ∧
      size lines' < w.maxSize ∧
      (w.writeEvent line {} now).1 = .ok () ∧
      (w.writeEvent line {} now).2.maxBackups = w.maxBackups ∧
      (w.writeEvent line {} now).2.retentionDays = 0 ∧
      (w.writeEvent line {} now).2.maxSize = w.maxSize := by
  have happend := h.append line now
  have hcounted := happend.counted
  simp only [FileAuditWriter.append] at hcounted
  by_cases hfills : w.fills line = true
  · have hfull : w.maxSize ≤ size (lines ++ [line]) := by
      simpa [fills, hcounted] using hfills
    rw [FileAuditWriter.writeEvent, if_pos hfills, if_pos hfills,
      happend.rotate_eq (by exact hretention)]
    exact ⟨[], happend.rotate hbackups hfull now, by simp, by simpa [size] using hsize, rfl, rfl,
      hretention, rfl⟩
  · have hbelow : size (lines ++ [line]) < w.maxSize := by
      simpa [fills, hcounted] using hfills
    rw [FileAuditWriter.writeEvent, if_neg hfills, if_neg hfills]
    exact ⟨lines ++ [line], happend, by simp, hbelow, rfl, rfl, hretention, rfl⟩

/-- A run without faults moves the lines of the log in pieces, in order. -/
theorem Holds.writeAll (events : List (String × ℤ)) :
    ∀ {w : FileAuditWriter} {moved : List (List String)} {lines : List String},
    Holds w moved lines → 1 ≤ w.maxBackups → w.retentionDays = 0 → size lines < w.maxSize →
    ∃ lines', Holds (w.writeAll events) ((w.rotations events).reverse ++ moved) lines' ∧
      (w.rotations events).flatten ++ lines' = lines ++ events.map Prod.fst ∧
      size lines' < w.maxSize ∧ (w.writeAll events).maxBackups = w.maxBackups ∧
      (w.writeAll events).maxSize = w.maxSize := by
  induction events with
  | nil =>
    intro w moved lines h _ _ hbelow
    exact ⟨lines, h, by simp [rotations], hbelow, rfl, rfl⟩
  | cons e events ih =>
    intro w moved lines h hbackups hretention hbelow
    obtain ⟨lines₁, h₁, hpieces₁, hbelow₁, -, hmax₁, hret₁, hsize₁⟩ :=
      h.writeEvent hbackups hretention (Nat.lt_of_le_of_lt (Nat.zero_le _) hbelow) e.1 e.2
    obtain ⟨lines', h', hpieces, hbelow', hmax, hsize⟩ :=
      ih h₁ (hmax₁ ▸ hbackups) hret₁ (hsize₁ ▸ hbelow₁)
    refine ⟨lines', ?_, ?_, hsize₁ ▸ hbelow', hmax.trans hmax₁, hsize.trans hsize₁⟩
    · have horder : (w.rotations (e :: events)).reverse =
          ((w.writeEvent e.1 {} e.2).2.rotations events).reverse ++
            if w.fills e.1 then [lines ++ [e.1]] else [] := by
        rw [rotations, h.current, List.reverse_append]
        split_ifs <;> rfl
      rw [horder, List.append_assoc]
      exact h'
    · rw [rotations, h.current, List.flatten_append, List.append_assoc, hpieces,
        ← List.append_assoc, hpieces₁]
      simp

/-- The lines of the backups from number `k` down to 1, and then of the log. -/
def retained (w : FileAuditWriter) (k : ℕ) : List String :=
  ((List.range k).reverse.flatMap fun i => (w.linesOf (.backup (i + 1))).getD []) ++
    (w.linesOf .active).getD []

theorem Holds.linesOf_active (h : Holds w moved lines) : w.linesOf .active = some lines := by
  simp [linesOf, Directory.content, h.named, h.current]

theorem Holds.retained_eq (h : Holds w moved lines) {k : ℕ} (hk : k ≤ w.maxBackups)
    (hmoved : k ≤ moved.length) : w.retained k = (moved.take k).reverse.flatten ++ lines := by
  have htake : (List.range k).map (fun i => (w.linesOf (.backup (i + 1))).getD []) =
      moved.take k := by
    refine List.ext_getElem (by simpa using hmoved) fun i hi hi' => ?_
    simp only [List.length_map, List.length_range] at hi
    simp [h.kept, Nat.lt_of_lt_of_le hi hk, Nat.lt_of_lt_of_le hi hmoved]
  rw [retained, h.linesOf_active, List.flatMap_def, List.map_reverse, htake]
  rfl

theorem Holds.isSome_backup_iff (h : Holds w moved lines) (i : ℕ) :
    (w.directory.names (.backup i)).isSome = true ↔ 1 ≤ i ∧ i ≤ min moved.length w.maxBackups := by
  cases i with
  | zero => simp [h.unnumbered]
  | succ i =>
    have hkept := congrArg Option.isSome (h.kept i)
    rw [linesOf, Directory.content, Option.isSome_map, Option.isSome_map] at hkept
    rw [hkept]
    split_ifs with hi
    · simp
      omega
    · simp
      omega

end Run

/-- What a run of `write_event` calls leaves of the lines: the backups are numbered from 1 on, they
and the log hold the last lines in order, the lines that are missing are those that rotations before
the last `max_backups` ones have moved, every backup is full, and the counter is the size of the
log, which is not full. -/
structure Retains (w : FileAuditWriter) (events : List (String × ℤ)) : Prop where
  numbered : ∀ i, ((w.writeAll events).directory.names (.backup i)).isSome = true ↔
    1 ≤ i ∧ i ≤ min (w.rotations events).length w.maxBackups
  suffix : (w.writeAll events).retained (min (w.rotations events).length w.maxBackups) <:+
    events.map Prod.fst
  missing : events.map Prod.fst =
    ((w.rotations events).take ((w.rotations events).length - w.maxBackups)).flatten ++
      (w.writeAll events).retained (min (w.rotations events).length w.maxBackups)
  filled : ∀ i lines, (w.writeAll events).linesOf (.backup i) = some lines →
    w.maxSize ≤ size lines
  counted : ∃ lines, (w.writeAll events).linesOf .active = some lines ∧
    (w.writeAll events).bytesWritten = size lines ∧ size lines < w.maxSize

theorem Holds.retains {w : FileAuditWriter} (h : Holds w [] []) (hbackups : 1 ≤ w.maxBackups)
    (hretention : w.retentionDays = 0) (hsize : 0 < w.maxSize) (events : List (String × ℤ)) :
    w.Retains events := by
  obtain ⟨lines, h', hpieces, hbelow, hmax, hmaxSize⟩ := h.writeAll events hbackups hretention hsize
  rw [List.append_nil] at h'
  rw [List.nil_append] at hpieces
  have hretained : (w.writeAll events).retained (min (w.rotations events).length w.maxBackups) =
      ((w.rotations events).drop ((w.rotations events).length - w.maxBackups)).flatten ++
        lines := by
    rw [h'.retained_eq (by omega) (by simp), List.take_reverse, List.reverse_reverse]
    congr 3
    omega
  have hmissing : events.map Prod.fst =
      ((w.rotations events).take ((w.rotations events).length - w.maxBackups)).flatten ++
        (w.writeAll events).retained (min (w.rotations events).length w.maxBackups) := by
    rw [hretained, ← List.append_assoc, ← List.flatten_append, List.take_append_drop, hpieces]
  constructor
  · intro i
    rw [h'.isSome_backup_iff, hmax, List.length_reverse]
  · exact ⟨_, hmissing.symm⟩
  · exact hmissing
  · intro i file hfile
    cases i with
    | zero => simp [linesOf, Directory.content, h'.unnumbered] at hfile
    | succ i =>
      rw [h'.kept] at hfile
      split_ifs at hfile
      exact hmaxSize ▸ h'.filled file (List.mem_of_getElem? hfile)
  · exact ⟨lines, h'.linesOf_active, h'.counted, hbelow⟩

/-- A writer that starts on an empty directory keeps its log as it should in every run without
faults. -/
theorem audit_log_is_retained {maxSize maxBackups : ℕ} (hsize : 0 < maxSize)
    (hbackups : 1 ≤ maxBackups) (now : ℤ) (events : List (String × ℤ)) :
    (start .empty maxSize maxBackups 0 now).Retains events := by
  have h : Holds (start .empty maxSize maxBackups 0 now) [] [] := by
    refine ⟨?_, ?_, fun i => ?_, ?_, fun i => ?_, fun n file hn => ?_, ?_, by simp⟩
    · simp [start, Directory.openOrCreate, Directory.empty, cleanupOldBackups]
    · simp [start, Directory.openOrCreate, Directory.empty, cleanupOldBackups]
    · simp [start, Directory.openOrCreate, Directory.empty, cleanupOldBackups, linesOf,
        Directory.content]
    · simp [start, Directory.openOrCreate, Directory.empty, cleanupOldBackups]
    · simp [start, Directory.openOrCreate, Directory.empty, cleanupOldBackups]
    · simp [start, Directory.openOrCreate, Directory.empty, cleanupOldBackups,
        Function.update_apply] at hn ⊢
      omega
    · simp [start, Directory.openOrCreate, Directory.empty, cleanupOldBackups, size]
  exact h.retains hbackups rfl hsize events

/-- Two backups of files of at least four bytes: of four rotations, the first two are lost. -/
theorem oldest_files_are_missing :
    let w := start .empty 4 2 0 0
    let events := [("ab", 1), ("c", 2), ("def", 3), ("ghij", 4), ("klmn", 5), ("o", 6)]
    w.rotations events = [["ab", "c"], ["def"], ["ghij"], ["klmn"]] ∧
      w.Retains events ∧ (w.writeAll events).retained 2 = ["ghij", "klmn", "o"] :=
  ⟨by decide +kernel, audit_log_is_retained (by decide) (by decide) 0 _, by decide +kernel⟩

/-! ## Rotations that fail -/

/-- The loop renames a backup. -/
def Shifts (w : FileAuditWriter) (faults : Faults) : Prop :=
  ∃ i, 1 ≤ i ∧ i < w.maxBackups ∧ (w.directory.names (.backup i)).isSome = true ∧
    faults.renameBackup i = false

/-- The rename of the log succeeds: there is a file of its name, and no fault. -/
def RenamesActive (w : FileAuditWriter) (faults : Faults) : Prop :=
  (w.directory.names .active).isSome = true ∧ faults.renameActive = false

/-- If `rotate` returns an error, every name stands for the same lines as before. -/
def SkipsRotation (w : FileAuditWriter) (faults : Faults) (now : ℤ) : Prop :=
  ∀ e, (w.rotate faults now).1 = .error e →
    ∀ n, (w.rotate faults now).2.linesOf n = w.linesOf n

section Skip

variable {w : FileAuditWriter} {faults : Faults}

theorem shiftBackups_eq_self {n : ℕ} {d : Directory FileName LogFile}
    (h : ∀ i, 1 ≤ i → i ≤ n → (d.names (.backup i)).isSome = true → faults.renameBackup i = true) :
    shiftBackups faults d n = d := by
  induction n with
  | zero => rfl
  | succ n ih =>
    have hshift : shiftBackup faults d (n + 1) = d := by
      refine if_neg fun hmoves => ?_
      rw [h (n + 1) (by omega) le_rfl hmoves.1] at hmoves
      cases hmoves.2
    rw [shiftBackups, hshift, ih fun i hi hin => h i hi (by omega)]

/-- A backup that the loop renames leaves a number free: the lowest one that is renamed is not
filled again. -/
theorem exists_freed (n : ℕ) : ∀ d : Directory FileName LogFile,
    (∃ i, 1 ≤ i ∧ i ≤ n ∧ (d.names (.backup i)).isSome = true ∧ faults.renameBackup i = false) →
    ∃ i, i ≤ n ∧ (d.names (.backup i)).isSome = true ∧
      (shiftBackups faults d n).names (.backup i) = none := by
  induction n with
  | zero =>
    rintro d ⟨i, hi, hin, -⟩
    omega
  | succ n ih =>
    intro d hsome
    have hsame (j : ℕ) (hj : j ≤ n) :
        (shiftBackup faults d (n + 1)).names (.backup j) = d.names (.backup j) :=
      names_shiftBackup_of_ne (by simp; omega) (by simp; omega)
    rw [shiftBackups]
    by_cases hlower : ∃ i, 1 ≤ i ∧ i ≤ n ∧ (d.names (.backup i)).isSome = true ∧
        faults.renameBackup i = false
    · obtain ⟨i, hi, hin, hexists, hok⟩ := hlower
      obtain ⟨j, hj, hfound, hfree⟩ := ih (shiftBackup faults d (n + 1))
        ⟨i, hi, hin, (hsame i hin).symm ▸ hexists, hok⟩
      exact ⟨j, by omega, hsame j hj ▸ hfound, hfree⟩
    · obtain ⟨i, hi, hin, hexists, hok⟩ := hsome
      have hlast : i = n + 1 := by
        by_contra hne
        exact hlower ⟨i, hi, by omega, hexists, hok⟩
      subst hlast
      refine ⟨n + 1, le_rfl, hexists, ?_⟩
      rw [shiftBackups_eq_self, shiftBackup, if_pos ⟨hexists, hok⟩, Directory.names_rename_old]
      intro j hj hjn hfound
      rw [hsame j hjn] at hfound
      by_contra hmoves
      exact hlower ⟨j, hj, hjn, hfound, by simpa using hmoves⟩

theorem rotate_of_renamesActive (h : RenamesActive w faults) (now : ℤ) :
    (faults.openActive = true → (∃ e, (w.rotate faults now).1 = .error e) ∧
      (w.rotate faults now).2.linesOf .active = none) ∧
      (faults.openActive = false → (w.rotate faults now).1 = .ok ()) := by
  have hactive : (shiftBackups faults w.directory (w.maxBackups - 1)).names .active =
      w.directory.names .active := names_shiftBackups_of_ne _ (by simp) _
  unfold FileAuditWriter.rotate
  dsimp only
  rw [hactive, if_pos ⟨h.1, h.2⟩]
  constructor
  · intro hopen
    rw [if_pos hopen]
    exact ⟨⟨_, rfl⟩, by simp [linesOf, Directory.content, Directory.names_rename_old]⟩
  · intro hopen
    rw [if_neg (by simp [hopen])]

theorem rotate_of_not_renamesActive (h : ¬ RenamesActive w faults) (now : ℤ) :
    w.rotate faults now = (.error .rename, { w with
      directory := shiftBackups faults w.directory (w.maxBackups - 1) }) := by
  have hactive : (shiftBackups faults w.directory (w.maxBackups - 1)).names .active =
      w.directory.names .active := names_shiftBackups_of_ne _ (by simp) _
  unfold FileAuditWriter.rotate
  dsimp only
  rw [hactive]
  exact if_neg h

/-- A rotation leaves the directory as it was if it fails, exactly if a rename of the log that fails
comes after no rename of a backup that succeeds, and one that succeeds is followed by an open that
does. -/
theorem skipsRotation_iff (w : FileAuditWriter) (faults : Faults) (now : ℤ) :
    SkipsRotation w faults now ↔
      (¬ RenamesActive w faults → ¬ Shifts w faults) ∧
        (RenamesActive w faults → faults.openActive = false) := by
  by_cases hrenames : RenamesActive w faults
  · obtain ⟨hfails, hsucceeds⟩ := rotate_of_renamesActive hrenames now
    simp only [hrenames, not_true_eq_false, false_implies, true_and, true_implies]
    constructor
    · intro hskips
      by_contra hopen
      obtain ⟨⟨e, he⟩, hgone⟩ := hfails (by simpa using hopen)
      have hkept := hskips e he .active
      rw [hgone] at hkept
      obtain ⟨file, hfile⟩ := Option.isSome_iff_exists.mp hrenames.1
      simp [linesOf, Directory.content, hfile] at hkept
    · intro hopen e he
      rw [hsucceeds hopen] at he
      cases he
  · simp only [hrenames, not_false_eq_true, true_implies, false_implies, and_true]
    constructor
    · rintro hskips ⟨i, hi, himax, hexists, hok⟩
      obtain ⟨j, -, hfound, hfree⟩ := exists_freed (w.maxBackups - 1) w.directory
        ⟨i, hi, by omega, hexists, hok⟩
      have hkept := hskips .rename (by rw [rotate_of_not_renamesActive hrenames]) (.backup j)
      rw [rotate_of_not_renamesActive hrenames] at hkept
      obtain ⟨file, hfile⟩ := Option.isSome_iff_exists.mp hfound
      simp [linesOf, Directory.content, hfree, hfile] at hkept
    · intro hshifts e _ n
      rw [rotate_of_not_renamesActive hrenames, shiftBackups_eq_self]
      intro i hi hin hexists
      by_contra hok
      exact hshifts ⟨i, hi, by omega, hexists, by simpa using hok⟩

end Skip

/-- One `write_event` call: its line, its faults and its time. -/
structure Call where
  line : String
  faults : Faults
  now : ℤ

/-- A call is a step of the writer. -/
def call (w : FileAuditWriter) (c : Call) : Option FileAuditWriter :=
  some (w.writeEvent c.line c.faults c.now).2

/-- The call's rotation, if it makes one, fails and meets the condition of a rotation that is
skipped. -/
def FailsCleanly (w : FileAuditWriter) (c : Call) : Prop :=
  w.fills c.line = true → ¬ RenamesActive (w.append c.line c.now) c.faults ∧
    ¬ Shifts (w.append c.line c.now) c.faults

/-- The log is not open under a number of the backups. -/
def OpensOwn (w : FileAuditWriter) : Prop := ∀ i, w.directory.names (.backup i) ≠ some w.writer

theorem OpensOwn.call {w w' : FileAuditWriter} {c : Call} (h : OpensOwn w)
    (hfails : FailsCleanly w c) (hcall : w.call c = some w') :
    OpensOwn w' ∧ ∀ i, w'.linesOf (.backup i) = w.linesOf (.backup i) := by
  have happend (i : ℕ) : (w.append c.line c.now).linesOf (.backup i) = w.linesOf (.backup i) :=
    congrArg (Option.map LogFile.lines) (Directory.content_modify_of_ne (h i))
  cases hcall
  unfold FileAuditWriter.writeEvent
  split_ifs with hfills
  · obtain ⟨hrename, hshifts⟩ := hfails hfills
    rw [rotate_of_not_renamesActive hrename, shiftBackups_eq_self]
    · exact ⟨h, happend⟩
    · intro i hi hin hexists
      by_contra hok
      exact hshifts ⟨i, hi, by omega, hexists, by simpa using hok⟩
  · exact ⟨h, happend⟩

/-- A failed rotation is skipped exactly under the condition, and calls whose rotations all fail
under it discard no backup. -/
theorem failed_rotation_keeps_iff (w : FileAuditWriter) :
    (∀ (faults : Faults) (now : ℤ), SkipsRotation w faults now ↔
      (¬ RenamesActive w faults → ¬ Shifts w faults) ∧
        (RenamesActive w faults → faults.openActive = false)) ∧
    ∀ (w' : FileAuditWriter) (calls : List Call), OpensOwn w →
      Runs.execute call w calls = some w' → Runs.Always call FailsCleanly w calls →
      ∀ i, w'.linesOf (.backup i) = w.linesOf (.backup i) := by
  refine ⟨skipsRotation_iff w, fun w' calls hown hrun hfails => ?_⟩
  induction calls generalizing w with
  | nil =>
    cases hrun
    exact fun i => rfl
  | cons c calls ih =>
    obtain ⟨w₁, hcall, hrun⟩ := Runs.execute_cons hrun
    obtain ⟨hown₁, hsame⟩ := hown.call hfails.1 hcall
    intro i
    rw [ih w₁ hown₁ hrun (hfails.2 w₁ hcall), hsame i]

/-- Three backups and a log of one line. -/
def threeBackups : FileAuditWriter where
  directory :=
    { names := fun n => match n with
        | .active => some 0
        | .backup 1 => some 1
        | .backup 2 => some 2
        | .backup 3 => some 3
        | _ => none
      files := fun file => ⟨[toString file], 0⟩
      next := 4 }
  writer := 0
  maxSize := 2
  maxBackups := 3
  retentionDays := 0
  bytesWritten := 2

/-- A call whose renames all fail. -/
def blocked : Call := ⟨"x", { renameBackup := fun _ => true, renameActive := true }, 0⟩

/-- Rotations all of whose renames fail leave the backups alone. -/
theorem skipped_rotations_keep_backups :
    ∃ w, Runs.execute call threeBackups [blocked, blocked] = some w ∧
      ∀ i, w.linesOf (.backup i) = threeBackups.linesOf (.backup i) := by
  have hown : OpensOwn threeBackups := by
    intro i
    unfold threeBackups
    dsimp only
    split <;> simp_all
  have hfails (w : FileAuditWriter) : FailsCleanly w blocked := by
    intro _
    simp [RenamesActive, Shifts, blocked]
  refine ⟨_, rfl, (failed_rotation_keeps_iff _).2 _ [blocked, blocked] hown rfl ?_⟩
  exact ⟨hfails _, fun w₁ _ => ⟨hfails w₁, fun w₂ _ => trivial⟩⟩

/-- A rename of the log that fails after the renames of the backups discards the last backup, and
the next call that fails so discards another. -/
theorem failed_rotation_discards_backup :
    (threeBackups.rotate { renameActive := true } 0).1 = .error .rename ∧
      ¬ SkipsRotation threeBackups { renameActive := true } 0 ∧
      (threeBackups.rotate { renameActive := true } 0).2.linesOf (.backup 3) = some ["2"] ∧
      ∃ w, Runs.execute call threeBackups
          (List.replicate 2 ⟨"x", { renameActive := true }, 0⟩) = some w ∧
        w.linesOf (.backup 1) = none ∧ w.linesOf (.backup 2) = none ∧
        w.linesOf (.backup 3) = some ["1"] := by
  have hfails : (threeBackups.rotate { renameActive := true } 0).1 = .error .rename := by decide
  refine ⟨hfails, fun hskips => ?_, by decide, _, rfl, by decide, by decide, by decide⟩
  have hkept := hskips .rename hfails (.backup 1)
  exact absurd hkept (by decide)

end GrpcRelay.Audit.FileAuditWriter
