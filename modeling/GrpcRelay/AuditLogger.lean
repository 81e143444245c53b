import GrpcRelay.Lib.Runs
import GrpcRelay.Lib.History
import GrpcRelay.AuditAge
import GrpcRelay.AuditEvents

/-!
# The audit logger

`AuditLogger` (`audit.rs`): the callers write the lines of their events to a channel of 4096 places,
and one task takes them from there to the file or to the standard output.  An event that finds the
channel full is counted and dropped.

A step is a call of one of the methods for an event, the task taking a line out of the channel
(which frees its place), or the task writing the line it has taken.  The methods differ in their
variant only, so a call is given by its record.  The directory of the log file is given by the
caller of `new`, `none` when the file cannot be opened.
-/

namespace GrpcRelay.Audit

/-- The audit section of the configuration, with its defaults. -/
structure AuditConfig where
  enabled : Bool := true
  output : String := "stdout"
  maxSizeMb : ℕ := 100
  maxBackups : ℕ := 10
  retentionDays : ℕ := 30
  events : List String := []

/-- The writer that the task owns; of the standard output, the lines printed. -/
inductive AuditWriter where
  | file (w : FileAuditWriter)
  | stdout (lines : List String)

/-- `write_event`; the task only logs its errors. -/
def AuditWriter.writeEvent (line : String) (faults : Faults) (now : ℤ) : AuditWriter → AuditWriter
  | .file w => .file (w.writeEvent line faults now).2
  | .stdout lines => .stdout (lines ++ [line])

/-- The places of the channel. -/
def channelCapacity : ℕ := 4096

/-- The logger, with its channel and its task. -/
structure AuditLogger where
  queue : List String
  taken : Option String
  writer : AuditWriter
  relayId : String
  enabledEvents : Option (List String)
  droppedEvents : ℕ

namespace AuditLogger

/-- A file that cannot be opened is replaced by the standard output. -/
def newWriter (config : AuditConfig) (opened : Option (Directory FileName LogFile)) (now : ℤ) :
    AuditWriter :=
  if config.output = "stdout" then .stdout []
  else
    match opened with
    | some d => .file (.new d config.maxSizeMb config.maxBackups config.retentionDays now)
    | none => .stdout []

/-- `AuditLogger::new`; without events in the configuration all of them are enabled. -/
def new (config : AuditConfig) (relayId : String) (opened : Option (Directory FileName LogFile))
    (now : ℤ) : Option AuditLogger :=
  if config.enabled then
    some
      { queue := []
        taken := none
        writer := newWriter config opened now
        relayId := relayId
        enabledEvents := if config.events.isEmpty then none else some config.events
        droppedEvents := 0 }
  else none

/-- The event type is enabled. -/
def shouldLog (l : AuditLogger) (eventType : String) : Bool :=
  match l.enabledEvents with
  | none => true
  | some events => events.contains eventType

/-- There is a place in the channel. -/
def hasRoom (l : AuditLogger) : Bool := l.queue.length < channelCapacity

/-- `try_send` of the event's line; an event that finds the channel full is counted. -/
def send (l : AuditLogger) (e : AuditEvent) : AuditLogger :=
  if l.hasRoom then { l with queue := l.queue ++ [e.line] }
  else { l with droppedEvents := (l.droppedEvents + 1) % 2 ^ 64 }

/-- The event of a record, made at a time. -/
def event (l : AuditLogger) (timestamp : String) (r : AuditRecord) : AuditEvent :=
  ⟨timestamp, l.relayId, r⟩

/-- The method of a record's variant. -/
def log (l : AuditLogger) (timestamp : String) (r : AuditRecord) : AuditLogger :=
  if l.shouldLog r.eventType then l.send (l.event timestamp r) else l

/-- A call of a logging method, and the two steps of the task's loop. -/
inductive Step where
  | log (timestamp : String) (r : AuditRecord)
  | recv
  | write (faults : Faults) (now : ℤ)

/-- The logger after a step, or `none` where the task has to wait. -/
def step (l : AuditLogger) : Step → Option AuditLogger
  | .log timestamp r => some (l.log timestamp r)
  | .recv =>
    match l.taken, l.queue with
    | none, line :: queue => some { l with taken := some line, queue := queue }
    | _, _ => none
  | .write faults now =>
    l.taken.map fun line =>
      { l with taken := none, writer := l.writer.writeEvent line faults now }

/-! ## What happens in a run -/

/-- What is noted of a run. -/
inductive Note where
  | accepted (e : AuditEvent)
  | dropped (e : AuditEvent)
  | received (line : String)
  | written (line : String) (now : ℤ)

/-- What a step does. -/
def emit (l : AuditLogger) : Step → AuditLogger → List Note
  | .log timestamp r, _ =>
    if l.shouldLog r.eventType then
      if l.hasRoom then [.accepted (l.event timestamp r)] else [.dropped (l.event timestamp r)]
    else []
  | .recv, _ => l.queue.head?.toList.map .received
  | .write _ now, _ => l.taken.toList.map (.written · now)

namespace Note

/-- The event, if the channel has taken it. -/
def accepted? : Note → Option AuditEvent
  | .accepted e => some e
  | _ => none

/-- The event, if it was dropped. -/
def dropped? : Note → Option AuditEvent
  | .dropped e => some e
  | _ => none

/-- The event, if it was sent at all. -/
def offered? : Note → Option AuditEvent
  | .accepted e => some e
  | .dropped e => some e
  | _ => none

/-- The line, if the task has received it. -/
def received? : Note → Option String
  | .received line => some line
  | _ => none

/-- The line and the time, if it was handed to the writer. -/
def written? : Note → Option (String × ℤ)
  | .written line now => some (line, now)
  | _ => none

end Note

/-- The events that the channel took. -/
def accepted (notes : List Note) : List AuditEvent := notes.filterMap Note.accepted?

/-- The events that found the channel full. -/
def dropped (notes : List Note) : List AuditEvent := notes.filterMap Note.dropped?

/-- The events of both kinds. -/
def offered (notes : List Note) : List AuditEvent := notes.filterMap Note.offered?

/-- The lines that the task took out of the channel. -/
def received (notes : List Note) : List String := notes.filterMap Note.received?

/-- The lines that the task wrote, with the times of the calls. -/
def written (notes : List Note) : List (String × ℤ) := notes.filterMap Note.written?

/-- The runs whose steps meet a condition. -/
abbrev Run (ok : AuditLogger → Step → Prop) (init : AuditLogger) (notes : List Note)
    (l : AuditLogger) : Prop :=
  Runs.Logged step ok emit init notes l

/-! ## The channel -/

theorem filterMap_snoc {α β : Type} (f : α → Option β) (as : List α) (a : α) :
    (as ++ [a]).filterMap f = as.filterMap f ++ (f a).toList := by
  rw [List.filterMap_append]
  cases h : f a <;> simp [h]

theorem accepted_snoc (notes : List Note) (n : Note) :
    accepted (notes ++ [n]) = accepted notes ++ n.accepted?.toList :=
  filterMap_snoc ..

theorem dropped_snoc (notes : List Note) (n : Note) :
    dropped (notes ++ [n]) = dropped notes ++ n.dropped?.toList :=
  filterMap_snoc ..

theorem offered_snoc (notes : List Note) (n : Note) :
    offered (notes ++ [n]) = offered notes ++ n.offered?.toList :=
  filterMap_snoc ..

theorem received_snoc (notes : List Note) (n : Note) :
    received (notes ++ [n]) = received notes ++ n.received?.toList :=
  filterMap_snoc ..

theorem written_snoc (notes : List Note) (n : Note) :
    written (notes ++ [n]) = written notes ++ n.written?.toList :=
  filterMap_snoc ..

/-- The logger that `new` makes. -/
theorem new_eq_some {config : AuditConfig} {relayId : String}
    {opened : Option (Directory FileName LogFile)} {now : ℤ} {init : AuditLogger}
    (h : new config relayId opened now = some init) :
    config.enabled = true ∧
    init =
      { queue := []
        taken := none
        writer := newWriter config opened now
        relayId := relayId
        enabledEvents := if config.events.isEmpty then none else some config.events
        droppedEvents := 0 } := by
  unfold new at h
  cases enabled : config.enabled with
  | false => simp [enabled] at h
  | true =>
    rw [enabled, if_pos rfl] at h
    exact ⟨rfl, (Option.some.inj h).symm⟩

/-- What a step of the logger can be. -/
theorem step_cases {l l' : AuditLogger} {a : Step} (h : l.step a = some l') :
    (∃ timestamp r, a = .log timestamp r ∧ l.shouldLog r.eventType = false ∧ l' = l ∧
      emit l a l' = []) ∨
    (∃ timestamp r, a = .log timestamp r ∧ l.shouldLog r.eventType = true ∧ l.hasRoom = true ∧
      l' = { l with queue := l.queue ++ [(l.event timestamp r).line] } ∧
      emit l a l' = [.accepted (l.event timestamp r)]) ∨
    (∃ timestamp r, a = .log timestamp r ∧ l.shouldLog r.eventType = true ∧ l.hasRoom = false ∧
      l' = { l with droppedEvents := (l.droppedEvents + 1) % 2 ^ 64 } ∧
      emit l a l' = [.dropped (l.event timestamp r)]) ∨
    (∃ line queue, a = .recv ∧ l.taken = none ∧ l.queue = line :: queue ∧
      l' = { l with taken := some line, queue := queue } ∧ emit l a l' = [.received line]) ∨
    (∃ faults now line, a = .write faults now ∧ l.taken = some line ∧
      l' = { l with taken := none, writer := l.writer.writeEvent line faults now } ∧
      emit l a l' = [.written line now]) := by
  cases a with
  | log timestamp r =>
    simp only [step, log, Option.some.injEq] at h
    cases enabled : l.shouldLog r.eventType with
    | false => exact .inl ⟨timestamp, r, rfl, enabled, by simp_all, by simp [emit, enabled]⟩
    | true =>
      rw [enabled, if_pos rfl, send] at h
      cases room : l.hasRoom with
      | true =>
        exact .inr (.inl ⟨timestamp, r, rfl, enabled, rfl, by simp_all,
          by simp [emit, enabled, room]⟩)
      | false =>
        exact .inr (.inr (.inl ⟨timestamp, r, rfl, enabled, rfl, by simp_all,
          by simp [emit, enabled, room]⟩))
  | recv =>
    simp only [step] at h
    split at h
    · rename_i line queue free waiting
      exact .inr (.inr (.inr (.inl ⟨line, queue, rfl, free, waiting, (Option.some.inj h).symm,
        by simp [emit, waiting]⟩)))
    · cases h
  | write faults now =>
    obtain ⟨line, taken, rfl⟩ := Option.map_eq_some_iff.1 h
    exact .inr (.inr (.inr (.inr ⟨faults, now, line, rfl, taken, rfl, by simp [emit, taken]⟩)))

/-- An event is accepted if there is a place in the channel and dropped if there is none. -/
def Admitted (past : List Note) : Note → Prop
  | .accepted _ => (accepted past).length < (received past).length + channelCapacity
  | .dropped _ => (accepted past).length = (received past).length + channelCapacity
  | _ => True

/-- How the channel and the task stand in a run. -/
structure Flow (init : AuditLogger) (notes : List Note) (l : AuditLogger) : Prop where
  ordered : (accepted notes).map AuditEvent.line = received notes ++ l.queue
  held : received notes = (written notes).map Prod.fst ++ l.taken.toList
  bounded : l.queue.length ≤ channelCapacity
  counted : l.droppedEvents = (dropped notes).length % 2 ^ 64
  admitted : History.Justified Admitted notes
  relayId : l.relayId = init.relayId
  enabledEvents : l.enabledEvents = init.enabledEvents
  wanted : ∀ e ∈ offered notes,
    init.shouldLog e.record.eventType = true ∧ e.relayId = init.relayId

namespace Flow

variable {init l l' : AuditLogger} {notes : List Note}

theorem length_accepted (h : Flow init notes l) :
    (accepted notes).length = (received notes).length + l.queue.length := by
  rw [← List.length_map AuditEvent.line, h.ordered, List.length_append]

theorem shouldLog_eq (h : Flow init notes l) (eventType : String) :
    l.shouldLog eventType = init.shouldLog eventType := by
  rw [shouldLog, shouldLog, h.enabledEvents]

theorem wanted_snoc (h : Flow init notes l) {n : Note} (new : ∀ e, n.offered? = some e →
    l.shouldLog e.record.eventType = true ∧ e.relayId = l.relayId) :
    ∀ e ∈ offered (notes ++ [n]),
      init.shouldLog e.record.eventType = true ∧ e.relayId = init.relayId := by
  intro e mem
  rw [offered_snoc, List.mem_append, Option.mem_toList] at mem
  obtain old | now := mem
  · exact h.wanted e old
  · obtain ⟨enabled, relayId⟩ := new e now
    exact ⟨h.shouldLog_eq _ ▸ enabled, relayId.trans h.relayId⟩

theorem step {a : Step} (h : Flow init notes l) (hs : l.step a = some l') :
    Flow init (notes ++ emit l a l') l' := by
  have length := h.length_accepted
  have bounded := h.bounded
  obtain ⟨timestamp, r, -, -, rfl, emits⟩ | ⟨timestamp, r, -, enabled, room, rfl, emits⟩ |
    ⟨timestamp, r, -, enabled, full, rfl, emits⟩ | ⟨line, queue, -, free, waiting, rfl, emits⟩ |
    ⟨faults, now, line, -, taken, rfl, emits⟩ := step_cases hs
  · rw [emits, List.append_nil]
    exact h
  · simp only [hasRoom, decide_eq_true_eq] at room
    rw [emits]
    refine ⟨?_, ?_, ?_, ?_, History.justified_snoc.2 ⟨h.admitted, ?_⟩, h.relayId, h.enabledEvents,
      h.wanted_snoc ?_⟩
    · simp [accepted_snoc, received_snoc, Note.accepted?, Note.received?, h.ordered]
    · simpa [received_snoc, written_snoc, Note.received?, Note.written?] using h.held
    · simp only [List.length_append, List.length_singleton]
      omega
    · simpa [dropped_snoc, Note.dropped?] using h.counted
    · simp only [Admitted]
      omega
    · rintro e ⟨⟩
      exact ⟨enabled, rfl⟩
  · simp only [hasRoom, decide_eq_false_iff_not] at full
    rw [emits]
    refine ⟨?_, ?_, bounded, ?_, History.justified_snoc.2 ⟨h.admitted, ?_⟩, h.relayId,
      h.enabledEvents, h.wanted_snoc ?_⟩
    · simpa [accepted_snoc, received_snoc, Note.accepted?, Note.received?] using h.ordered
    · simpa [received_snoc, written_snoc, Note.received?, Note.written?] using h.held
    · simp [dropped_snoc, Note.dropped?, h.counted]
    · simp only [Admitted]
      omega
    · rintro e ⟨⟩
      exact ⟨enabled, rfl⟩
  · have ordered := h.ordered
    have held := h.held
    rw [waiting] at ordered bounded
    rw [free, Option.toList_none, List.append_nil] at held
    rw [List.length_cons] at bounded
    rw [emits]
    refine ⟨?_, ?_, by simp only; omega, ?_, History.justified_snoc.2 ⟨h.admitted, trivial⟩,
      h.relayId, h.enabledEvents, h.wanted_snoc (by rintro e ⟨⟩)⟩
    · simp [accepted_snoc, received_snoc, Note.accepted?, Note.received?, ordered]
    · simp [received_snoc, written_snoc, Note.received?, Note.written?, held]
    · simpa [dropped_snoc, Note.dropped?] using h.counted
  · have held := h.held
    rw [taken] at held
    rw [emits]
    refine ⟨?_, ?_, bounded, ?_, History.justified_snoc.2 ⟨h.admitted, trivial⟩,
      h.relayId, h.enabledEvents, h.wanted_snoc (by rintro e ⟨⟩)⟩
    · simpa [accepted_snoc, received_snoc, Note.accepted?, Note.received?] using h.ordered
    · simpa [received_snoc, written_snoc, Note.received?, Note.written?] using held
    · simpa [dropped_snoc, Note.dropped?] using h.counted

theorem start {config : AuditConfig} {relayId : String}
    {opened : Option (Directory FileName LogFile)} {now : ℤ}
    (h : new config relayId opened now = some init) : Flow init [] init := by
  obtain ⟨-, rfl⟩ := new_eq_some h
  exact ⟨rfl, rfl, by simp, rfl, History.justified_nil, rfl, rfl, by simp [offered]⟩

theorem run {ok : AuditLogger → Step → Prop} (start : Flow init [] init)
    (h : Run ok init notes l) : Flow init notes l := by
  refine h.invariant start ?_
  intro notes l a l' _ ih _ hs
  exact ih.step hs

/-- The lines written are those of the first events accepted. -/
theorem lines_written (h : Flow init notes l) :
    (written notes).map Prod.fst =
      ((accepted notes).take (written notes).length).map AuditEvent.line := by
  have ordered := h.ordered
  rw [h.held, List.append_assoc] at ordered
  rw [List.map_take, ordered, List.take_left' (List.length_map _)]

end Flow

/-- The file operations of the step succeed. -/
def Faultless (_ : AuditLogger) : Step → Prop
  | .write faults _ => faults = {}
  | _ => True

theorem writer_run {init l : AuditLogger} {notes : List Note} {w : FileAuditWriter}
    (start : init.writer = .file w) (h : Run Faultless init notes l) :
    l.writer = .file (w.writeAll (written notes)) := by
  refine h.invariant (I := fun notes l => l.writer = .file (w.writeAll (written notes))) start ?_
  intro notes l a l' _ ih faultless hs
  obtain ⟨timestamp, r, -, -, rfl, emits⟩ | ⟨timestamp, r, -, -, -, rfl, emits⟩ |
    ⟨timestamp, r, -, -, -, rfl, emits⟩ | ⟨line, queue, -, -, -, rfl, emits⟩ |
    ⟨faults, now, line, rfl, -, rfl, emits⟩ := step_cases hs
  · rw [emits, List.append_nil]
    exact ih
  · rw [emits, written_snoc]
    simpa [Note.written?] using ih
  · rw [emits, written_snoc]
    simpa [Note.written?] using ih
  · rw [emits, written_snoc]
    simpa [Note.written?] using ih
  · cases faultless
    rw [emits, written_snoc, FileAuditWriter.writeAll, List.foldl_append]
    simp only [ih, AuditWriter.writeEvent]
    rfl

/-- What the files hold after events were written: the backups, the oldest first, and the log can be
read as the last events.  The first events were in the files removed, each of which had the maximal
number of backups after it or was too old at the last rotation. -/
structure ReadsBack (config : AuditConfig) (w : FileAuditWriter) (lost kept : List AuditEvent)
    (removed backups : List LogFile) : Prop where
  read : readFile (fileText (w.retained config.maxBackups)) = some kept
  gone : lost.map AuditEvent.line = removed.flatMap LogFile.lines
  named : ∀ i, w.directory.content (.backup (i + 1)) = backups.reverse[i]?
  outdated : ∀ file ∈ removed, backups.length = config.maxBackups ∨
    FileAuditWriter.youngAt config.retentionDays (backups.getLastD default).modified file = false

/-- In every run without faults on an empty directory whose clock does not go back, the files can be
read as the last events that were written. -/
theorem audit_files_are_read_back {config : AuditConfig} {relayId : String} {now : ℤ}
    {init l : AuditLogger} {notes : List Note} (output : config.output ≠ "stdout")
    (hbackups : 1 ≤ config.maxBackups) (hnew : new config relayId (some .empty) now = some init)
    (run : Run Faultless init notes l)
    (clock : ((written notes).map Prod.snd).Pairwise (· ≤ ·)) :
    ∃ w lost kept removed backups, l.writer = .file w ∧
      (accepted notes).take (written notes).length = lost ++ kept ∧
      ReadsBack config w lost kept removed backups := by
  have flow := Flow.run (.start hnew) run
  obtain ⟨-, rfl⟩ := new_eq_some hnew
  have writer := writer_run (by simp [newWriter, output]; rfl) run
  set w := FileAuditWriter.new .empty config.maxSizeMb config.maxBackups config.retentionDays now
  obtain ⟨lines, time, aged, pieces, -, -, max, days⟩ :=
    @FileAuditWriter.aged_writeAll _ _ hbackups config.retentionDays now _ clock w rfl
  set moved := (w.movedFiles (written notes)).reverse with hmoved
  set backups := FileAuditWriter.survivors config.retentionDays config.maxBackups moved
    with hbackups'
  obtain ⟨removed, split, outdated⟩ :=
    @FileAuditWriter.survivors_append config.retentionDays config.maxBackups _ aged.ordered
  have last := @FileAuditWriter.survivors_headD config.retentionDays _ hbackups _ aged.ordered
  have retained := aged.retained_eq
  rw [max, days, ← hbackups'] at retained
  rw [← hbackups'] at split outdated last
  have files : w.movedFiles (written notes) = removed.reverse ++ backups.reverse := by
    rw [← List.reverse_append, ← split, hmoved, List.reverse_reverse]
  rw [files, List.flatMap_append, List.append_assoc, ← retained, flow.lines_written] at pieces
  -- The events whose lines were in the files removed come first.
  obtain ⟨lost, kept, events, gone, still⟩ := List.append_eq_map_iff.1 pieces
  refine ⟨_, lost, kept, removed.reverse, backups.reverse, writer, events, ?_, gone, ?_, ?_⟩
  · rw [← still, readFile_fileText]
  · intro i
    rw [aged.kept, FileAuditWriter.survivor_eq aged.ordered, max, days, List.reverse_reverse]
  · intro file mem
    rw [List.length_reverse, List.getLastD_eq_getLast?, List.getLast?_reverse,
      ← List.headD_eq_head?_getD, last]
    exact outdated file (List.mem_reverse.1 mem)

theorem run_of_execute {init l' : AuditLogger} {notes' : List Note} {steps : List Step}
    (faultless : ∀ l, ∀ a ∈ steps, Faultless l a) :
    ∀ {l : AuditLogger} {notes : List Note}, Run Faultless init notes l →
      Runs.executeLogged step (fun _ _ => true) emit notes l steps = some (notes', l') →
      Run Faultless init notes' l' := by
  induction steps with
  | nil =>
    intro l notes run executed
    cases executed
    exact run
  | cons a steps ih =>
    intro l notes run executed
    rw [Runs.executeLogged, if_pos rfl] at executed
    obtain ⟨l₁, hs, executed⟩ := Option.bind_eq_some_iff.1 executed
    exact ih (fun l a mem => faultless l a (List.mem_cons_of_mem _ mem))
      (.next a run (faultless l a List.mem_cons_self) hs) executed

/-- Every line fills a file of which two backups are kept: of three events written the first is
lost, and a fourth one waits. -/
theorem rotated_events_are_read_back :
    let config : AuditConfig := { output := "file", maxSizeMb := 0, maxBackups := 2 }
    let e (i : ℕ) : AuditEvent := ⟨"now", "relay-1", .controllerDisconnect (toString i)⟩
    let notes : List Note := [.accepted (e 1), .received (e 1).line, .accepted (e 2),
      .written (e 1).line 5, .received (e 2).line, .accepted (e 3), .written (e 2).line 6,
      .received (e 3).line, .accepted (e 4), .written (e 3).line 7]
    config.output ≠ "stdout" ∧ 1 ≤ config.maxBackups ∧
    ((written notes).map Prod.snd).Pairwise (· ≤ ·) ∧
    ∃ init l, new config "relay-1" (some .empty) 0 = some init ∧ Run Faultless init notes l ∧
      ∃ w lost kept removed backups, l.writer = .file w ∧ [e 1, e 2, e 3] = lost ++ kept ∧
        ReadsBack config w lost kept removed backups ∧
        w.retained config.maxBackups = [(e 2).line, (e 3).line] := by
  intro config e notes
  have output : config.output ≠ "stdout" := by decide
  have clock : ((written notes).map Prod.snd).Pairwise (· ≤ ·) := by decide
  obtain ⟨init, made⟩ : ∃ init, new config "relay-1" (some .empty) 0 = some init := ⟨_, rfl⟩
  obtain ⟨-, hinit⟩ := new_eq_some made
  obtain ⟨l, w', executed, file, left⟩ : ∃ l w, Runs.executeLogged step (fun _ _ => true) emit []
      init [.log "now" (e 1).record, .recv, .log "now" (e 2).record, .write {} 5, .recv,
        .log "now" (e 3).record, .write {} 6, .recv, .log "now" (e 4).record, .write {} 7] =
          some (notes, l) ∧
      l.writer = .file w ∧ w.retained config.maxBackups = [(e 2).line, (e 3).line] := by
    subst hinit
    exact ⟨_, _, rfl, rfl, by decide +kernel⟩
  have run : Run Faultless init notes l :=
    run_of_execute (by simp [Faultless]) .start executed
  obtain ⟨w, lost, kept, removed, backups, writer, split, reads⟩ :=
    audit_files_are_read_back output (by decide) made run clock
  obtain rfl : w' = w := AuditWriter.file.inj (file.symm.trans writer)
  exact ⟨output, by decide, clock, init, l, made, run, w', lost, kept, removed, backups, writer,
    split, reads, left⟩

end AuditLogger

end GrpcRelay.Audit
