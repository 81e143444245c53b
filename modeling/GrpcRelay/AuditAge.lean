import GrpcRelay.AuditRetention

/-!
# How long the audit log keeps its backups

With a retention of some days, every rotation also removes the backups that are too old.  A backup
carries the time of its last line, which is when it was moved, so backups are older the higher their
number.  The loop over them can stop at the first number that is free: what it removes is an end of
the backups, and the numbers stay without a gap.

After any run the backups are the last files moved, as far as `max_backups` allows and without those
that were older than the retention at the last rotation (`backups_are_kept_by_age`).
-/

namespace GrpcRelay.Audit.FileAuditWriter

/-- The log has its name, the backups are numbered from 1 on without a gap and up to
`max_backups`, and every file with a name is in use. -/
structure Filed (w : FileAuditWriter) : Prop where
  named : w.directory.names .active = some w.writer
  unnumbered : w.directory.names (.backup 0) = none
  gapless : ∀ i, w.directory.names (.backup (i + 1)) = none →
    w.directory.names (.backup (i + 2)) = none
  bounded : ∀ i, w.maxBackups ≤ i → w.directory.names (.backup (i + 1)) = none
  own : ∀ i, w.directory.names (.backup i) ≠ some w.writer
  used : ∀ n file, w.directory.names n = some file → file < w.directory.next

variable {w : FileAuditWriter}

/-! ## Rotation -/

namespace Filed

theorem append (h : Filed w) (line : String) (now : ℤ) : Filed (w.append line now) :=
  ⟨h.named, h.unnumbered, h.gapless, h.bounded, h.own, h.used⟩

theorem names_active_shifted (h : Filed w) :
    (shiftBackups {} w.directory (w.maxBackups - 1)).names .active = some w.writer := by
  rw [names_shiftBackups_of_ne _ (by simp), h.named]

/-- The rename loop moves every backup but the last to the next number. -/
theorem names_shifted (h : Filed w) (i : ℕ) :
    (shiftBackups {} w.directory (w.maxBackups - 1)).names (.backup (i + 2)) =
      if i + 1 < w.maxBackups then w.directory.names (.backup (i + 1)) else none := by
  obtain ⟨-, hmiddle, hlast⟩ := names_shiftBackups (w.maxBackups - 1) w.directory
  split_ifs with hi
  · by_cases hlt : i + 1 < w.maxBackups - 1
    · exact hmiddle (i + 1) (by omega) hlt
    · have heq : w.maxBackups - 1 = i + 1 := by omega
      rw [heq] at hlast ⊢
      rw [hlast (by omega)]
      cases hfile : w.directory.names (.backup (i + 1)) with
      | some file => rfl
      | none => rw [Option.none_or, h.gapless i hfile]
  · rw [names_shiftBackups_of_ne _ fun k _ hk => by simp; omega]
    exact h.bounded (i + 1) (by omega)

theorem names_rotated_first (h : Filed w) (now : ℤ) :
    (w.rotated now).names (.backup 1) = some w.writer := by
  rw [names_rotated_of_ne (by simp), Directory.names_rename_new (by simp), h.names_active_shifted]

theorem names_rotated_next (h : Filed w) (now : ℤ) (i : ℕ) :
    (w.rotated now).names (.backup (i + 2)) =
      if i + 1 < w.maxBackups then w.directory.names (.backup (i + 1)) else none := by
  rw [names_rotated_of_ne (by simp), Directory.names_rename_of_ne (by simp) (by simp),
    h.names_shifted]

theorem used_rotated (h : Filed w) {now : ℤ} {n : FileName} {file : ℕ}
    (hn : (w.rotated now).names n = some file) :
    n = .active ∧ file = w.directory.next ∨ n ≠ .active ∧ file < w.directory.next := by
  by_cases hactive : n = .active
  · subst hactive
    rw [names_rotated_active] at hn
    cases hn
    exact .inl ⟨rfl, rfl⟩
  · rw [names_rotated_of_ne hactive] at hn
    obtain ⟨m, hm⟩ := Directory.exists_of_names_rename hn
    obtain ⟨m', hm'⟩ := exists_of_names_shiftBackups _ _ hm
    exact .inr ⟨hactive, h.used m' file hm'⟩

/-- The writer after a rotation, before the old backups are removed. -/
def moved (w : FileAuditWriter) (now : ℤ) : FileAuditWriter :=
  { w with directory := w.rotated now, writer := w.directory.next, bytesWritten := 0 }

theorem rotate_eq (h : Filed w) (now : ℤ) :
    w.rotate {} now = (.ok (), (moved w now).cleanupOldBackups {} now) := by
  obtain ⟨hfiles, hnext⟩ : (shiftBackups {} w.directory (w.maxBackups - 1)).files =
      w.directory.files ∧ _ := files_shiftBackups _ _
  simp only [FileAuditWriter.rotate, h.names_active_shifted, Option.isSome_some, true_and, if_true,
    Bool.false_eq_true, if_false, Directory.openOrCreate, Directory.names_rename_old, moved,
    rotated]
  simp only [Directory.rename, hfiles, hnext]

theorem rotate (h : Filed w) (hbackups : 1 ≤ w.maxBackups) (now : ℤ) : Filed (moved w now) where
  named := names_rotated_active w now
  unnumbered := by
    show (w.rotated now).names (.backup 0) = none
    rw [names_rotated_of_ne (by simp), Directory.names_rename_of_ne (by simp) (by simp),
      names_shiftBackups_of_ne _ fun k _ _ => by simp; omega, h.unnumbered]
  gapless i hi := by
    show (w.rotated now).names (.backup (i + 2)) = none
    rw [h.names_rotated_next]
    cases i with
    | zero => cases hi.symm.trans (h.names_rotated_first now)
    | succ i =>
      have hbefore := (h.names_rotated_next now i).symm.trans hi
      split_ifs at hbefore ⊢
      · exact h.gapless i hbefore
      · omega
      · rfl
      · rfl
  bounded i hi := by
    obtain ⟨j, rfl⟩ : ∃ j, i = j + 1 := ⟨i - 1, by have : w.maxBackups ≤ i := hi; omega⟩
    show (w.rotated now).names (.backup (j + 2)) = none
    rw [h.names_rotated_next, if_neg (by have : w.maxBackups ≤ j + 1 := hi; omega)]
  own i hi := by
    obtain ⟨hn, -⟩ | ⟨-, hlt⟩ := h.used_rotated hi
    · cases hn
    · exact Nat.lt_irrefl _ hlt
  used n file hn := by
    obtain ⟨-, rfl⟩ | ⟨-, hlt⟩ := h.used_rotated hn
    · exact Nat.lt_succ_self _
    · exact Nat.lt_succ_of_lt hlt

end Filed

/-! ## Removing old backups -/

/-- A cleanup changes the directory only. -/
theorem cleanupOldBackups_eq (w : FileAuditWriter) (faults : Faults) (now : ℤ) :
    w.cleanupOldBackups faults now =
      { w with directory := (w.cleanupOldBackups faults now).directory } := by
  unfold cleanupOldBackups
  split_ifs <;> rfl

/-- The file is not older than the cutoff. -/
def freshAt (d : Directory FileName LogFile) (cutoff : ℤ) (file : ℕ) : Bool :=
  cutoff ≤ (d.files file).modified

/-- A loop over backups leaves the files and the name of the log alone, and removes the backups of
some numbers that are too old. -/
structure Removes (cutoff : ℤ) (d d' : Directory FileName LogFile) (numbers : ℕ → Prop) : Prop where
  files : d'.files = d.files
  next : d'.next = d.next
  active : d'.names .active = d.names .active
  old : ∀ i, numbers i → d'.names (.backup i) = (d.names (.backup i)).filter (freshAt d cutoff)
  others : ∀ i, ¬ numbers i → d'.names (.backup i) = d.names (.backup i)

section Cleanup

variable {d d' d'' : Directory FileName LogFile} {cutoff : ℤ} {i : ℕ} {p q : ℕ → Prop}

theorem Removes.nothing (h : ∀ i, p i → d.names (.backup i) = none) : Removes cutoff d d p where
  files := rfl
  next := rfl
  active := rfl
  old i hi := by rw [h i hi]; rfl
  others _ _ := rfl

theorem Removes.freshAt_eq (h : Removes cutoff d d' p) : freshAt d' cutoff = freshAt d cutoff := by
  funext file
  rw [freshAt, h.files, freshAt]

theorem Removes.trans (h : Removes cutoff d d' p) (h' : Removes cutoff d' d'' q)
    (apart : ∀ i, p i → ¬ q i) : Removes cutoff d d'' fun i => p i ∨ q i where
  files := h'.files.trans h.files
  next := h'.next.trans h.next
  active := h'.active.trans h.active
  old i hi := by
    obtain hp | hq := hi
    · rw [h'.others i (apart i hp), h.old i hp]
    · rw [h'.old i hq, h.freshAt_eq, h.others i fun hp => apart i hp hq]
  others i hi := by
    rw [h'.others i fun hq => hi (.inr hq), h.others i fun hp => hi (.inl hp)]

theorem removes_cleanupBackup {file : ℕ} (found : d.names (.backup i) = some file) :
    Removes cutoff d (cleanupBackup {} cutoff d i file) fun j => j = i := by
  by_cases old : (d.files file).modified < cutoff
  · have removed : cleanupBackup {} cutoff d i file = d.remove (.backup i) := if_pos ⟨old, rfl⟩
    rw [removed]
    refine ⟨rfl, rfl, by simp [Directory.remove], ?_, fun j hj => by simp [Directory.remove, hj]⟩
    rintro _ rfl
    rw [found, Option.filter_some, if_neg (by simpa [freshAt] using old)]
    exact Function.update_self ..
  · have stays : cleanupBackup {} cutoff d i file = d := if_neg fun h => old h.1
    rw [stays]
    refine ⟨rfl, rfl, rfl, ?_, fun _ _ => rfl⟩
    rintro _ rfl
    rw [found, Option.filter_some, if_pos (by simpa [freshAt] using old)]

/-- Behind a free number there is none in use. -/
def Gapless (d : Directory FileName LogFile) (i : ℕ) : Prop :=
  ∀ j, i ≤ j → d.names (.backup j) = none → d.names (.backup (j + 1)) = none

theorem Gapless.names_eq_none (h : Gapless d i) (free : d.names (.backup i) = none) {j : ℕ}
    (hj : i ≤ j) : d.names (.backup j) = none := by
  induction j, hj using Nat.le_induction with
  | base => exact free
  | succ j hj ih => exact h j hj ih

/-- The loop removes all backups that are too old, if the numbers have no gap. -/
theorem removes_cleanupFrom (n : ℕ) : ∀ {d : Directory FileName LogFile} {i : ℕ}, Gapless d i →
    Removes cutoff d (cleanupFrom {} cutoff d i n) fun j => i ≤ j ∧ j < i + n := by
  induction n with
  | zero => exact fun _ => .nothing fun j hj => by omega
  | succ n ih =>
    intro d i gapless
    rw [cleanupFrom]
    cases found : d.names (.backup i) with
    | none => exact .nothing fun j hj => gapless.names_eq_none found hj.1
    | some file =>
      have first : Removes cutoff d _ _ := removes_cleanupBackup found
      have gapless' : Gapless (cleanupBackup {} cutoff d i file) (i + 1) := by
        intro j hj free
        rw [first.others j (by omega)] at free
        rw [first.others (j + 1) (by omega)]
        exact gapless j (by omega) free
      have both := first.trans (ih gapless') fun j hj => by omega
      have numbers : (fun j => j = i ∨ i + 1 ≤ j ∧ j < i + 1 + n) =
          fun j => i ≤ j ∧ j < i + (n + 1) := by
        funext j
        exact propext (by omega)
      rw [numbers] at both
      exact both

end Cleanup

/-! ## Runs -/

/-- The retention in seconds. -/
def retentionSeconds (retentionDays : ℕ) : ℤ := retentionDays * 24 * 3600

/-- The file was not too old at a time; a retention of no days keeps everything. -/
def youngAt (retentionDays : ℕ) (now : ℤ) (file : LogFile) : Bool :=
  retentionDays = 0 ∨ now - retentionSeconds retentionDays ≤ file.modified

/-- What the backup of a number holds after files were moved, the last one first: the file moved
that many rotations before the last, if it is among the last `max_backups` ones and was not too old
at the last rotation. -/
def survivor (retentionDays maxBackups : ℕ) (moved : List LogFile) (i : ℕ) : Option LogFile :=
  if i < maxBackups then
    (moved[i]?).filter (youngAt retentionDays (moved.headD default).modified)
  else none

/-- The writer after files were moved, the last one first, and lines were written to the log since;
the last line was written at the given time. -/
structure Aged (w : FileAuditWriter) (moved : List LogFile) (lines : List String) (now : ℤ) :
    Prop where
  filed : Filed w
  current : (w.directory.files w.writer).lines = lines
  kept : ∀ i, w.directory.content (.backup (i + 1)) =
    survivor w.retentionDays w.maxBackups moved i
  ordered : moved.Pairwise fun later earlier => earlier.modified ≤ later.modified
  past : ∀ file ∈ moved, file.modified ≤ now

theorem survivor_zero {retentionDays maxBackups : ℕ} (hbackups : 1 ≤ maxBackups) (file : LogFile)
    (moved : List LogFile) : survivor retentionDays maxBackups (file :: moved) 0 = some file := by
  have young : youngAt retentionDays file.modified file = true := by
    simp [youngAt, retentionSeconds]
  have first : 0 < maxBackups := hbackups
  simp [survivor, first, young]

/-- One more rotation: the survivors move on, but for those that have become too old. -/
theorem survivor_succ {retentionDays maxBackups : ℕ} {file : LogFile} {moved : List LogFile}
    (past : ∀ f ∈ moved, f.modified ≤ file.modified) (i : ℕ) :
    survivor retentionDays maxBackups (file :: moved) (i + 1) =
      if i + 1 < maxBackups then
        (survivor retentionDays maxBackups moved i).filter (youngAt retentionDays file.modified)
      else none := by
  unfold survivor
  split_ifs with hi hi'
  · rw [Option.filter_filter]
    cases found : moved[i]? with
    | none => simp [found]
    | some f =>
      have latest : (moved.headD default).modified ≤ file.modified := by
        cases moved with
        | nil => cases found
        | cons g moved => exact past g List.mem_cons_self
      simp only [List.getElem?_cons_succ, found, List.headD_cons, Option.filter_some]
      congr 1
      simp only [youngAt, Bool.decide_or, eq_iff_iff, Bool.and_eq_true, Bool.or_eq_true,
        decide_eq_true_eq]
      omega
  · omega
  · rfl

/-- If a test fails from some point of a list on, the elements that pass are a beginning of it. -/
theorem filter_getElem?_eq {α : Type} {p : α → Bool} {l : List α}
    (h : l.Pairwise fun a b => p b = true → p a = true) (i : ℕ) :
    (l[i]?).filter p = (l.takeWhile p)[i]? := by
  induction l generalizing i with
  | nil => simp
  | cons a l ih =>
    rw [List.pairwise_cons] at h
    cases pa : p a with
    | true =>
      rw [List.takeWhile_cons_of_pos pa]
      cases i with
      | zero => simp [pa]
      | succ i => simpa using ih h.2 i
    | false =>
      rw [List.takeWhile_cons_of_neg (by simp [pa])]
      have none : ∀ b ∈ a :: l, p b = false := by
        intro b mem
        obtain rfl | mem := List.mem_cons.1 mem
        · exact pa
        · by_contra pb
          exact absurd (h.1 b mem (by simpa using pb)) (by simp [pa])
      cases hi : (a :: l)[i]? with
      | none => simp
      | some b => simp [none b (List.mem_of_getElem? hi)]

/-- The backups after files were moved, the last one first. -/
def survivors (retentionDays maxBackups : ℕ) (moved : List LogFile) : List LogFile :=
  (moved.take maxBackups).takeWhile (youngAt retentionDays (moved.headD default).modified)

theorem youngAt_of_le {retentionDays : ℕ} {now : ℤ} {later earlier : LogFile}
    (h : earlier.modified ≤ later.modified) (young : youngAt retentionDays now earlier = true) :
    youngAt retentionDays now later = true := by
  simp only [youngAt, decide_eq_true_eq] at young ⊢
  omega

theorem survivor_eq {retentionDays maxBackups : ℕ} {moved : List LogFile}
    (ordered : moved.Pairwise fun later earlier => earlier.modified ≤ later.modified) (i : ℕ) :
    survivor retentionDays maxBackups moved i = (survivors retentionDays maxBackups moved)[i]? := by
  have young := (ordered.sublist (List.take_sublist maxBackups moved)).imp
    fun h => @youngAt_of_le retentionDays (moved.headD default).modified _ _ h
  rw [survivors, ← filter_getElem?_eq young, survivor, List.getElem?_take]
  split_ifs <;> rfl

theorem survivor_gapless {retentionDays maxBackups : ℕ} {moved : List LogFile}
    (ordered : moved.Pairwise fun later earlier => earlier.modified ≤ later.modified) {i : ℕ}
    (h : survivor retentionDays maxBackups moved i = none) :
    survivor retentionDays maxBackups moved (i + 1) = none := by
  rw [survivor_eq ordered, List.getElem?_eq_none_iff] at h ⊢
  omega

namespace Filed

/-- The files under the numbers of the backups, after a rotation. -/
theorem content_moved (h : Filed w) (now : ℤ) :
    (moved w now).directory.content (.backup 1) = some (w.directory.files w.writer) ∧
      ∀ i, (moved w now).directory.content (.backup (i + 2)) =
        if i + 1 < w.maxBackups then w.directory.content (.backup (i + 1)) else none := by
  have same {n : FileName} {file : ℕ} (hn : w.directory.names n = some file) :
      (w.rotated now).files file = w.directory.files file :=
    Function.update_of_ne (Nat.ne_of_lt (h.used n file hn)) _ _
  refine ⟨?_, fun i => ?_⟩
  · rw [moved, Directory.content, h.names_rotated_first, Option.map_some, same h.named]
  · rw [moved, Directory.content, h.names_rotated_next]
    split_ifs
    · cases found : w.directory.names (.backup (i + 1)) with
      | none => simp [Directory.content, found]
      | some file => simp [Directory.content, found, same found]
    · rfl

theorem removes_cleanup (h : Filed w) (now : ℤ) (hretention : w.retentionDays ≠ 0) :
    Removes (now - retentionSeconds w.retentionDays) w.directory
      (w.cleanupOldBackups {} now).directory fun j => 1 ≤ j ∧ j < 1 + w.maxBackups := by
  have gapless : Gapless w.directory 1 := by
    intro j hj free
    obtain ⟨i, rfl⟩ : ∃ i, j = i + 1 := ⟨j - 1, by omega⟩
    exact h.gapless i free
  rw [cleanupOldBackups, if_neg hretention]
  exact removes_cleanupFrom w.maxBackups gapless

theorem files_cleanup (h : Filed w) (now : ℤ) :
    (w.cleanupOldBackups {} now).directory.files = w.directory.files := by
  by_cases hretention : w.retentionDays = 0
  · rw [cleanupOldBackups, if_pos hretention]
  · exact (h.removes_cleanup now hretention).files

/-- A cleanup keeps the backups that are young. -/
theorem content_cleanup (h : Filed w) (now : ℤ) (i : ℕ) :
    (w.cleanupOldBackups {} now).directory.content (.backup (i + 1)) =
      (w.directory.content (.backup (i + 1))).filter (youngAt w.retentionDays now) := by
  by_cases hretention : w.retentionDays = 0
  · have young : youngAt w.retentionDays now = fun _ => true := by
      funext file
      simp [youngAt, hretention]
    rw [cleanupOldBackups, if_pos hretention, young]
    cases w.directory.content (.backup (i + 1)) <;> rfl
  · have removes := h.removes_cleanup now hretention
    rw [Directory.content, removes.files]
    by_cases hi : i < w.maxBackups
    · rw [removes.old (i + 1) (by omega), Directory.content]
      cases w.directory.names (.backup (i + 1)) with
      | none => rfl
      | some file =>
        have young : youngAt w.retentionDays now (w.directory.files file) =
            freshAt w.directory (now - retentionSeconds w.retentionDays) file := by
          simp [youngAt, freshAt, hretention]
        rw [Option.filter_some, Option.map_some, Option.filter_some, young]
        split_ifs <;> rfl
    · rw [removes.others (i + 1) (by omega), Directory.content, h.bounded i (by omega)]
      rfl

/-- A cleanup leaves the numbers in order, if what it removes is an end of them. -/
theorem cleanup (h : Filed w) (now : ℤ)
    (gapless : ∀ i, (w.cleanupOldBackups {} now).directory.content (.backup (i + 1)) = none →
      (w.cleanupOldBackups {} now).directory.content (.backup (i + 2)) = none) :
    Filed (w.cleanupOldBackups {} now) := by
  by_cases hretention : w.retentionDays = 0
  · rw [cleanupOldBackups, if_pos hretention]
    exact h
  · have removes := h.removes_cleanup now hretention
    have writer : (w.cleanupOldBackups {} now).writer = w.writer := by rw [cleanupOldBackups_eq]
    have maxBackups : (w.cleanupOldBackups {} now).maxBackups = w.maxBackups := by
      rw [cleanupOldBackups_eq]
    have before {n : FileName} {file : ℕ}
        (hn : (w.cleanupOldBackups {} now).directory.names n = some file) :
        w.directory.names n = some file := by
      cases n with
      | active => exact removes.active.symm.trans hn
      | backup i =>
        by_cases hi : 1 ≤ i ∧ i < 1 + w.maxBackups
        · rw [removes.old i hi] at hn
          exact (Option.filter_eq_some_iff.1 hn).1
        · exact (removes.others i hi).symm.trans hn
    refine ⟨?_, ?_, fun i hi => ?_, fun i hi => ?_, fun i hi => ?_, fun n file hn => ?_⟩
    · rw [removes.active, h.named, writer]
    · rw [removes.others 0 (by omega), h.unnumbered]
    · exact Option.map_eq_none_iff.1 (gapless i (Option.map_eq_none_iff.2 hi))
    · rw [maxBackups] at hi
      rw [removes.others (i + 1) (by omega), h.bounded i hi]
    · rw [writer] at hi
      exact h.own i (before hi)
    · rw [removes.next]
      exact h.used n file (before hn)

end Filed

namespace Aged

variable {moved : List LogFile} {lines : List String} {time : ℤ}

theorem append (h : Aged w moved lines time) {now : ℤ} (later : time ≤ now) (line : String) :
    Aged (w.append line now) moved (lines ++ [line]) now where
  filed := h.filed.append line now
  current := by simp [FileAuditWriter.append, Directory.modify, h.current]
  kept i := (Directory.content_modify_of_ne (h.filed.own (i + 1))).trans (h.kept i)
  ordered := h.ordered
  past file mem := (h.past file mem).trans later

/-- A rotation moves the log, which was written to just before. -/
theorem rotate (h : Aged w moved lines time) (hbackups : 1 ≤ w.maxBackups)
    (written : (w.directory.files w.writer).modified = time) :
    Aged ((Filed.moved w time).cleanupOldBackups {} time) (⟨lines, time⟩ :: moved) [] time := by
  have filed := h.filed.rotate hbackups time
  obtain ⟨first, others⟩ := h.filed.content_moved time
  have file : w.directory.files w.writer = ⟨lines, time⟩ := by
    rw [← h.current, ← written]
  have kept (i : ℕ) : ((Filed.moved w time).cleanupOldBackups {} time).directory.content
      (.backup (i + 1)) = survivor w.retentionDays w.maxBackups (⟨lines, time⟩ :: moved) i := by
    rw [filed.content_cleanup]
    cases i with
    | zero =>
      rw [first, file, survivor_zero hbackups, Option.filter_some]
      exact if_pos (by simp [youngAt, retentionSeconds])
    | succ i =>
      rw [others, survivor_succ h.past]
      split_ifs
      · rw [h.kept]
        rfl
      · rfl
  have ordered : (⟨lines, time⟩ :: moved).Pairwise fun later earlier : LogFile =>
      earlier.modified ≤ later.modified := List.pairwise_cons.2 ⟨h.past, h.ordered⟩
  have gapless (i : ℕ) (free : ((Filed.moved w time).cleanupOldBackups {} time).directory.content
      (.backup (i + 1)) = none) : ((Filed.moved w time).cleanupOldBackups {} time).directory.content
        (.backup (i + 2)) = none := by
    rw [kept] at free ⊢
    exact survivor_gapless ordered free
  refine ⟨filed.cleanup time gapless, ?_, fun i => ?_, ordered, ?_⟩
  · rw [filed.files_cleanup, cleanupOldBackups_eq]
    simp [Filed.moved, rotated]
  · rw [kept, cleanupOldBackups_eq]
    rfl
  · intro f mem
    obtain rfl | mem := List.mem_cons.1 mem
    · exact le_refl _
    · exact h.past f mem

/-- One call without faults: the line is written, and a log that is full is moved. -/
theorem writeEvent (h : Aged w moved lines time) (hbackups : 1 ≤ w.maxBackups) {now : ℤ}
    (later : time ≤ now) (line : String) :
    ∃ lines', Aged (w.writeEvent line {} now).2
        ((if w.fills line then [⟨lines ++ [line], now⟩] else []) ++ moved) lines' now ∧
      (if w.fills line then [(⟨lines ++ [line], now⟩ : LogFile)] else []).flatMap LogFile.lines ++
        lines' = lines ++ [line] ∧
      (w.writeEvent line {} now).2.maxBackups = w.maxBackups ∧
      (w.writeEvent line {} now).2.retentionDays = w.retentionDays := by
  have appended := h.append later line
  rw [FileAuditWriter.writeEvent]
  split_ifs with full
  · have written : ((w.append line now).directory.files (w.append line now).writer).modified =
        now := by
      simp [FileAuditWriter.append, Directory.modify]
    rw [appended.filed.rotate_eq]
    refine ⟨[], appended.rotate hbackups written, by simp, ?_, ?_⟩
    · rw [cleanupOldBackups_eq]
      rfl
    · rw [cleanupOldBackups_eq]
      rfl
  · exact ⟨lines ++ [line], appended, by simp, rfl, rfl⟩

end Aged

/-- The files that the rotations of these calls move, in order; a file carries the time of the call
that has moved it. -/
def movedFiles (w : FileAuditWriter) : List (String × ℤ) → List LogFile
  | [] => []
  | e :: events =>
    (if w.fills e.1 then [⟨(w.directory.files w.writer).lines ++ [e.1], e.2⟩] else []) ++
      movedFiles (w.writeEvent e.1 {} e.2).2 events

theorem Aged.writeAll (events : List (String × ℤ)) :
    ∀ {w : FileAuditWriter} {moved : List LogFile} {lines : List String} {time : ℤ},
    Aged w moved lines time → 1 ≤ w.maxBackups →
    (time :: events.map Prod.snd).Pairwise (· ≤ ·) →
    ∃ lines' time', Aged (w.writeAll events) ((w.movedFiles events).reverse ++ moved) lines' time' ∧
      (w.movedFiles events).flatMap LogFile.lines ++ lines' = lines ++ events.map Prod.fst ∧
      (w.writeAll events).maxBackups = w.maxBackups ∧
      (w.writeAll events).retentionDays = w.retentionDays := by
  induction events with
  | nil =>
    intro w moved lines time h _ _
    exact ⟨lines, time, h, by simp [movedFiles], rfl, rfl⟩
  | cons e events ih =>
    intro w moved lines time h hbackups clock
    rw [List.map_cons, List.pairwise_cons] at clock
    have later : time ≤ e.2 := clock.1 _ List.mem_cons_self
    obtain ⟨lines₁, h₁, pieces₁, max₁, days₁⟩ := h.writeEvent hbackups later e.1
    obtain ⟨lines', time', h', pieces, max, days⟩ := ih h₁ (max₁ ▸ hbackups) clock.2
    refine ⟨lines', time', ?_, ?_, max.trans max₁, days.trans days₁⟩
    · have order : (w.movedFiles (e :: events)).reverse =
          ((w.writeEvent e.1 {} e.2).2.movedFiles events).reverse ++
            if w.fills e.1 then [⟨lines ++ [e.1], e.2⟩] else [] := by
        rw [movedFiles, h.current, List.reverse_append]
        split_ifs <;> rfl
      rw [order, List.append_assoc]
      exact h'
    · rw [movedFiles, h.current, List.flatMap_append, List.append_assoc, pieces,
        ← List.append_assoc, pieces₁]
      simp

/-! ## Reading the files -/

theorem length_survivors (retentionDays maxBackups : ℕ) (moved : List LogFile) :
    (survivors retentionDays maxBackups moved).length ≤ maxBackups := by
  have take := (List.takeWhile_prefix (l := moved.take maxBackups)
    (youngAt retentionDays (moved.headD default).modified)).length_le
  rw [List.length_take] at take
  exact take.trans (Nat.min_le_left _ _)

/-- The files moved are the backups and the files removed. -/
theorem survivors_append {retentionDays maxBackups : ℕ} {moved : List LogFile}
    (ordered : moved.Pairwise fun later earlier => earlier.modified ≤ later.modified) :
    ∃ removed, moved = survivors retentionDays maxBackups moved ++ removed ∧
      ∀ file ∈ removed, (survivors retentionDays maxBackups moved).length = maxBackups ∨
        youngAt retentionDays (moved.headD default).modified file = false := by
  set backups := survivors retentionDays maxBackups moved with hbackups
  obtain ⟨removed, split⟩ : backups <+: moved :=
    (List.takeWhile_prefix _).trans (List.take_prefix _ _)
  refine ⟨removed, split.symm, fun file mem => ?_⟩
  obtain full | free := Nat.eq_or_lt_of_le (length_survivors retentionDays maxBackups moved)
  · exact .inl full
  right
  -- The first file removed is not young, and the others are older.
  have next : survivor retentionDays maxBackups moved backups.length = none := by
    rw [survivor_eq ordered, ← hbackups, List.getElem?_eq_none (Nat.le_refl _)]
  obtain ⟨first, others, rfl⟩ := List.exists_cons_of_ne_nil (List.ne_nil_of_mem mem)
  rw [survivor, if_pos free, ← split, List.getElem?_append_right (Nat.le_refl _), Nat.sub_self,
    List.getElem?_cons_zero, split] at next
  have old : youngAt retentionDays (moved.headD default).modified first = false := by
    simpa using next
  have older : file.modified ≤ first.modified := by
    obtain rfl | mem := List.mem_cons.1 mem
    · exact le_refl _
    · rw [← split, List.pairwise_append] at ordered
      exact (List.pairwise_cons.1 ordered.2.1).1 file mem
  by_contra young
  rw [youngAt_of_le older (by simpa using young)] at old
  cases old

/-- The last file moved is kept, so the time of the last rotation can be read off the backups. -/
theorem survivors_headD {retentionDays maxBackups : ℕ} (hbackups : 1 ≤ maxBackups)
    {moved : List LogFile}
    (ordered : moved.Pairwise fun later earlier => earlier.modified ≤ later.modified) :
    (survivors retentionDays maxBackups moved).headD default = moved.headD default := by
  cases moved with
  | nil => simp [survivors]
  | cons file moved =>
    have first : survivor retentionDays maxBackups (file :: moved) 0 = some file :=
      survivor_zero hbackups file moved
    rw [survivor_eq ordered] at first
    rw [List.headD_eq_head?_getD, List.head?_eq_getElem?, first]
    rfl

theorem flatten_range {α : Type} {l : List (List α)} {k : ℕ} (h : l.length ≤ k) :
    ((List.range k).reverse.flatMap fun i => (l[i]?).getD []) = l.reverse.flatten := by
  have whole : (List.range k).map (fun i => (l[i]?).getD []) =
      l ++ List.replicate (k - l.length) [] := by
    refine List.ext_getElem? fun i => ?_
    by_cases hi : i < l.length
    · simp [hi, List.getElem?_append_left, List.getElem?_range (show i < k by omega)]
    · rw [List.getElem?_append_right (by omega), List.getElem?_map]
      by_cases hk : i < k
      · simp [hk, hi, show i - l.length < k - l.length by omega]
      · simp [hk, show ¬ i - l.length < k - l.length by omega]
  rw [List.flatMap_def, List.map_reverse, whole, List.reverse_append, List.reverse_replicate]
  simp

theorem Aged.linesOf_active {w : FileAuditWriter} {moved : List LogFile} {lines : List String}
    {time : ℤ} (h : Aged w moved lines time) : w.linesOf .active = some lines := by
  simp [linesOf, Directory.content, h.filed.named, h.current]

/-- The lines of the backups and of the log. -/
theorem Aged.retained_eq {w : FileAuditWriter} {moved : List LogFile} {lines : List String}
    {time : ℤ} (h : Aged w moved lines time) :
    w.retained w.maxBackups =
      (survivors w.retentionDays w.maxBackups moved).reverse.flatMap LogFile.lines ++ lines := by
  have backup (i : ℕ) : (w.linesOf (.backup (i + 1))).getD [] =
      (((survivors w.retentionDays w.maxBackups moved).map LogFile.lines)[i]?).getD [] := by
    rw [linesOf, h.kept, survivor_eq h.ordered, List.getElem?_map]
  have few := length_survivors w.retentionDays w.maxBackups moved
  simp only [retained, backup]
  rw [flatten_range (by simpa using few), h.linesOf_active, ← List.map_reverse, ← List.flatMap_def]
  rfl

/-- What a run of `write_event` calls leaves: the lines are cut into the files moved and the log,
and the backups are the survivors of the files moved. -/
structure KeepsByAge (w : FileAuditWriter) (events : List (String × ℤ)) : Prop where
  kept : ∀ i, (w.writeAll events).directory.content (.backup (i + 1)) =
    survivor w.retentionDays w.maxBackups (w.movedFiles events).reverse i
  unnumbered : (w.writeAll events).directory.content (.backup 0) = none
  written : ∃ lines, (w.writeAll events).linesOf .active = some lines ∧
    events.map Prod.fst = (w.movedFiles events).flatMap LogFile.lines ++ lines

/-- A writer that has opened its log in an empty directory, before its first cleanup. -/
def opened (maxSize maxBackups retentionDays : ℕ) (now : ℤ) : FileAuditWriter where
  directory := ((Directory.empty : Directory FileName LogFile).openOrCreate .active ⟨[], now⟩).2
  writer := 0
  maxSize := maxSize
  maxBackups := maxBackups
  retentionDays := retentionDays
  bytesWritten := 0

theorem start_empty (maxSize maxBackups retentionDays : ℕ) (now : ℤ) :
    start .empty maxSize maxBackups retentionDays now =
      (opened maxSize maxBackups retentionDays now).cleanupOldBackups {} now := by
  simp [start, opened, Directory.openOrCreate, Directory.empty, size]

theorem names_opened (maxSize maxBackups retentionDays : ℕ) (now : ℤ) (n : FileName) :
    (opened maxSize maxBackups retentionDays now).directory.names n =
      if n = .active then some 0 else none := by
  simp [opened, Directory.openOrCreate, Directory.empty, Function.update_apply]

theorem aged_start (maxSize maxBackups retentionDays : ℕ) (now time : ℤ) :
    Aged (start .empty maxSize maxBackups retentionDays now) [] [] time := by
  have names := names_opened maxSize maxBackups retentionDays now
  have filed : Filed (opened maxSize maxBackups retentionDays now) := by
    refine ⟨names .active, names _, fun i _ => names _, fun i _ => names _, fun i hi => ?_,
      fun n file hn => ?_⟩
    · cases (names _).symm.trans hi
    · rw [names] at hn
      split_ifs at hn
      cases hn
      exact Nat.zero_lt_one
  have none (i : ℕ) : ((opened maxSize maxBackups retentionDays now).cleanupOldBackups {}
      now).directory.content (.backup (i + 1)) = none := by
    rw [filed.content_cleanup, Directory.content, names]
    rfl
  rw [start_empty]
  refine ⟨filed.cleanup now fun i _ => none (i + 1), ?_, fun i => ?_, .nil, by simp⟩
  · rw [filed.files_cleanup, cleanupOldBackups_eq]
    simp [opened, Directory.openOrCreate, Directory.empty]
  · rw [none]
    simp [survivor]

/-- The writer after a run on an empty directory whose clock does not go back. -/
theorem aged_writeAll {maxSize maxBackups : ℕ} (hbackups : 1 ≤ maxBackups) (retentionDays : ℕ)
    (now : ℤ) {events : List (String × ℤ)} (clock : (events.map Prod.snd).Pairwise (· ≤ ·))
    {w : FileAuditWriter} (hw : w = start .empty maxSize maxBackups retentionDays now) :
    ∃ lines time, Aged (w.writeAll events) (w.movedFiles events).reverse lines time ∧
      (w.movedFiles events).flatMap LogFile.lines ++ lines = events.map Prod.fst ∧
      w.maxBackups = maxBackups ∧ w.retentionDays = retentionDays ∧
      (w.writeAll events).maxBackups = maxBackups ∧
      (w.writeAll events).retentionDays = retentionDays := by
  have static : w.maxBackups = maxBackups ∧ w.retentionDays = retentionDays := by
    rw [hw, start_empty, cleanupOldBackups_eq]
    exact ⟨rfl, rfl⟩
  -- The run may start at any time before its first line.
  obtain ⟨time, before⟩ : ∃ time, ∀ now ∈ events.map Prod.snd, time ≤ now := by
    cases events with
    | nil => exact ⟨0, by simp⟩
    | cons e events =>
      rw [List.map_cons, List.pairwise_cons] at clock
      refine ⟨e.2, fun now mem => ?_⟩
      obtain rfl | mem := List.mem_cons.1 mem
      · exact le_refl _
      · exact clock.1 now mem
  have aged : Aged w [] [] time := hw ▸ aged_start maxSize maxBackups retentionDays now time
  obtain ⟨lines, time', h, pieces, max, days⟩ :=
    aged.writeAll events (static.1.symm ▸ hbackups) (List.pairwise_cons.2 ⟨before, clock⟩)
  rw [List.append_nil] at h
  rw [List.nil_append] at pieces
  exact ⟨lines, time', h, pieces, static.1, static.2, max.trans static.1, days.trans static.2⟩

/-- In every run on an empty directory whose clock does not go back, the backups are the last files
moved, without those that were too old at the last rotation. -/
theorem backups_are_kept_by_age {maxSize maxBackups : ℕ} (hbackups : 1 ≤ maxBackups)
    (retentionDays : ℕ) (now : ℤ) (events : List (String × ℤ))
    (clock : (events.map Prod.snd).Pairwise (· ≤ ·)) :
    (start .empty maxSize maxBackups retentionDays now).KeepsByAge events := by
  obtain ⟨lines, time, h, pieces, max, days, max', days'⟩ :=
    @aged_writeAll maxSize maxBackups hbackups retentionDays now events clock _ rfl
  refine ⟨fun i => ?_, ?_, lines, ?_, pieces.symm⟩
  · rw [h.kept, max, days, max', days']
  · rw [Directory.content, h.filed.unnumbered]
    rfl
  · exact h.linesOf_active

/-- Two days of retention and three backups of files of at least four bytes: a file of the first day
is removed by the first rotation more than two days later, although there is a backup to spare. -/
theorem old_backup_is_removed :
    let w := start .empty 4 3 2 0
    let events := [("abcd", 10), ("efgh", 172000), ("ijkl", 172900)]
    (events.map Prod.snd).Pairwise (· ≤ ·) ∧ w.KeepsByAge events ∧
      (w.writeAll (events.take 2)).linesOf (.backup 2) = some ["abcd"] ∧
      (w.writeAll events).linesOf (.backup 2) = some ["efgh"] ∧
      (w.writeAll events).linesOf (.backup 3) = none :=
  ⟨by decide, backups_are_kept_by_age (by decide) 2 0 _ (by decide), by decide +kernel,
    by decide +kernel, by decide +kernel⟩

end GrpcRelay.Audit.FileAuditWriter
