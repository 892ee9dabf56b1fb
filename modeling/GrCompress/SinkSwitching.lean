import GrCompress.FileSinkBlock

/-!
# Switching the file of the sink

`open` promises to begin output to another file and `close` to ignore output
until the next `open`. Both only stage the change: `do_update` would make it, and
after the constructor nothing calls `do_update`. So every message goes to the
file the sink was constructed with, and the promise is kept exactly when that is
the file it should go to.
-/

namespace GrCompress.SinkSwitching

open GrCompress.CallRuns
open GrCompress.CheckedStorage
open GrCompress.LengthFraming
open GrCompress.OpenFiles
open GrCompress.ZstdCodec
open GrCompress.RecordFormat
open GrCompress.FileSinkBlock (FileSink SinkSetup)

set_option autoImplicit false

/-- `stop` is `close`. -/
inductive SinkEvent where
  | openFile (name : String)
  | close
  | message (message : Message)

variable (setup : SinkSetup)

def sinkEvent : SinkEvent → EStateM Fault FileSink Unit
  | .openFile name => do
      let _ ← FileSinkBlock.openFile name .succeeds
      return ()
  | .close => FileSinkBlock.close
  | .message message => FileSinkBlock.compressedIn setup.params message.pdu

/-- Construct the sink, then take the events. -/
def session (events : List SinkEvent) : EStateM.Result Fault FileSink (List Unit) :=
  (do
    FileSinkBlock.make setup.name setup.unbuffered .succeeds .succeeds
    runAll (sinkEvent setup) events).run (FileSinkBlock.unopened setup.append setup.disk)

/-! ## The promise -/

/-- The file that output goes to: of the last `open`, or none after a `close`. -/
def currentNext (current : Option String) : SinkEvent → Option String
  | .openFile name => some name
  | .close => none
  | .message _ => current

def currentFile (events : List SinkEvent) : Option String :=
  events.foldl currentNext (some setup.name)

/-- A record appended to the current file, or dropped. -/
def recorded (current : Option String) (record : Bytes) (disk : Disk UInt8) : Disk UInt8 :=
  match current with
  | none => disk
  | some name => disk.set name (disk.content name ++ record)

/-- Every message is recorded in the file that is current when it arrives. -/
def Honours (events : List SinkEvent) : Prop :=
  ∀ earlier message, earlier ++ [.message message] <+: events →
    ∃ outs before after, session setup earlier = .ok outs before ∧
      (FileSinkBlock.compressedIn setup.params message.pdu).run before = .ok () after ∧
      after.disk = recorded (currentFile setup earlier) message.record.cells before.disk

/-! ## When it is kept -/

/-- Whether a message has been written, and whether the constructor's file has
been opened again, and thereby truncated, since the last one. -/
structure Rewritten where
  written : Bool
  truncated : Bool
  deriving DecidableEq, Repr

def Rewritten.next (state : Rewritten) : SinkEvent → Rewritten
  | .openFile name =>
      if name = setup.name then { state with truncated := state.truncated || state.written }
      else state
  | .close => state
  | .message _ => { written := true, truncated := false }

def rewritten (events : List SinkEvent) : Rewritten :=
  events.foldl (Rewritten.next setup) { written := false, truncated := false }

/-- The constructor's file is current, the next write appends to it, and the
blob is read in items of one byte. -/
structure Meets (earlier : List SinkEvent) (message : Message) : Prop where
  bytewise : setup.params.itemsize = 1 ∨ message.pdu.blob = []
  current : currentFile setup earlier = some setup.name
  appends : setup.append = true ∨ (rewritten setup earlier).truncated = false

@[simp] theorem rewritten_snoc (events : List SinkEvent) (event : SinkEvent) :
    rewritten setup (events ++ [event]) = (rewritten setup events).next setup event := by
  simp [rewritten]

/-- The constructor's file stays installed. In overwrite mode its handle has a
position of its own, which a truncation leaves behind. -/
structure Holds (events : List SinkEvent) (sink : FileSink) (file : WriteFile) : Prop where
  installed : sink.fp = some file
  name : file.name = setup.name
  mode : file.append = setup.append
  openMode : sink.append = setup.append
  succeeding : sink.outcomes = []
  fresh : setup.append = false → (rewritten setup events).written = false →
    file.position = 0 ∧ sink.disk.content setup.name = []
  wrote : setup.append = false → (rewritten setup events).written = true → 0 < file.position
  atEnd : setup.append = false → (rewritten setup events).truncated = false →
    file.position = (sink.disk.content setup.name).length
  behind : setup.append = false → (rewritten setup events).truncated = true →
    sink.disk.content setup.name = [] ∧ 0 < file.position

section Steps

variable {setup} {events : List SinkEvent} {sink : FileSink} {file : WriteFile}

theorem target_of_mode (holds : Holds setup events sink file) (overwrite : setup.append = false) :
    file.target sink.disk = file.position := by
  simp [WriteFile.target, holds.mode, overwrite]

/-- The next write goes to the end of the file or beyond it. -/
theorem past_end (holds : Holds setup events sink file) :
    (sink.disk.content file.name).length ≤ file.target sink.disk := by
  rw [holds.name]
  cases mode : setup.append with
  | true => simp [WriteFile.target, holds.mode, mode, holds.name]
  | false =>
      rw [target_of_mode holds mode]
      cases behind : (rewritten setup events).truncated with
      | true => simp [(holds.behind mode behind).1]
      | false => exact Nat.le_of_eq (holds.atEnd mode behind).symm

theorem at_end_iff (holds : Holds setup events sink file) :
    file.AtEnd sink.disk ↔
      setup.append = true ∨ (rewritten setup events).truncated = false := by
  rw [WriteFile.AtEnd, holds.name]
  cases mode : setup.append with
  | true => simp [WriteFile.target, holds.mode, mode, holds.name]
  | false =>
      rw [target_of_mode holds mode]
      cases behind : (rewritten setup events).truncated with
      | true =>
          obtain ⟨empty, positive⟩ := holds.behind mode behind
          simp only [empty, List.length_nil, Bool.false_eq_true, Bool.true_eq_false, or_self,
            iff_false]
          omega
      | false => simp [holds.atEnd mode behind]

theorem record_nonempty (message : Message) : 0 < message.record.cells.length := by
  rw [message_record_cells, List.length_append, header_bytes_length, headerSize]
  omega

/-- What a message writes is what was promised exactly when the constructor's
file is current and the write appends to it. -/
theorem message_recorded_iff (holds : Holds setup events sink file) (message : Message) :
    file.put sink.disk message.record.cells =
        recorded (currentFile setup events) message.record.cells sink.disk ↔
      currentFile setup events = some setup.name ∧
        (setup.append = true ∨ (rewritten setup events).truncated = false) := by
  have past := past_end holds
  have nonempty := record_nonempty message
  have length := content_put_length past nonempty
  rw [← at_end_iff holds]
  constructor
  · intro same
    rw [same] at length
    cases current : currentFile setup events with
    | none =>
        simp only [recorded, current] at length
        omega
    | some name =>
        simp only [recorded, current] at length
        by_cases own : name = file.name
        · subst own
          rw [content_set_same, List.length_append] at length
          refine ⟨by rw [holds.name], ?_⟩
          rw [WriteFile.AtEnd]
          omega
        · rw [content_set_other _ _ (fun equal => own equal.symm)] at length
          omega
  · rintro ⟨current, atEnd⟩
    rw [put_at_end atEnd, current, recorded, holds.name]

/-- A message leaves the handle at the end of the constructor's file. -/
theorem message_holds (holds : Holds setup events sink file) (message : Message) :
    Holds setup (events ++ [.message message]) (sink.written file message.record.cells)
      (file.advance sink.disk message.record.cells.length) := by
  have nonempty := record_nonempty message
  have length := content_put_length (past_end holds) nonempty
  rw [holds.name] at length
  refine ⟨rfl, holds.name, holds.mode, holds.openMode, holds.succeeding, ?_, ?_, ?_, ?_⟩
  · simp [Rewritten.next]
  · intro _ _
    simp only [WriteFile.advance]
    omega
  · intro _ _
    simp only [WriteFile.advance, FileSink.written, length]
  · simp [Rewritten.next]

/-- Opening a file stages a handle and truncates or creates the file; the
installed handle is untouched. -/
theorem open_run (sink : FileSink) (name : String) :
    ∃ after, (sinkEvent setup (.openFile name)).run sink = .ok () after ∧
      after.fp = sink.fp ∧ after.append = sink.append ∧ after.outcomes = sink.outcomes ∧
      after.disk = sink.disk.opened name sink.append := ⟨_, rfl, rfl, rfl, rfl, rfl⟩

theorem close_run (sink : FileSink) :
    ∃ after, (sinkEvent setup .close).run sink = .ok () after ∧
      after.fp = sink.fp ∧ after.append = sink.append ∧ after.outcomes = sink.outcomes ∧
      after.disk = sink.disk := ⟨_, rfl, rfl, rfl, rfl, rfl⟩

/-- An event that leaves the handle, the constructor's file and its history alone. -/
theorem unchanged_holds (holds : Holds setup events sink file) {later : List SinkEvent}
    {after : FileSink} (sameFile : after.fp = sink.fp) (sameMode : after.append = sink.append)
    (sameOutcomes : after.outcomes = sink.outcomes)
    (state : rewritten setup later = rewritten setup events)
    (content : after.disk.content setup.name = sink.disk.content setup.name) :
    Holds setup later after file where
  installed := sameFile.trans holds.installed
  name := holds.name
  mode := holds.mode
  openMode := sameMode.trans holds.openMode
  succeeding := sameOutcomes.trans holds.succeeding
  fresh := by rw [state, content]; exact holds.fresh
  wrote := by rw [state]; exact holds.wrote
  atEnd := by rw [state, content]; exact holds.atEnd
  behind := by rw [state, content]; exact holds.behind

theorem open_holds (holds : Holds setup events sink file) (name : String) {after : FileSink}
    (sameFile : after.fp = sink.fp) (sameMode : after.append = sink.append)
    (sameOutcomes : after.outcomes = sink.outcomes)
    (disk : after.disk = sink.disk.opened name sink.append) :
    Holds setup (events ++ [.openFile name]) after file := by
  rw [holds.openMode] at disk
  by_cases own : name = setup.name
  · subst own
    refine ⟨sameFile.trans holds.installed, holds.name, holds.mode, sameMode.trans holds.openMode,
      sameOutcomes.trans holds.succeeding, ?_, ?_, ?_, ?_⟩
    all_goals
      intro overwrite
      have emptied : after.disk.content setup.name = [] := by
        rw [disk, overwrite]
        simp [Disk.opened]
      simp only [rewritten_snoc, Rewritten.next, if_true, emptied, List.length_nil]
    · intro fresh
      exact ⟨(holds.fresh overwrite fresh).1, trivial⟩
    · exact holds.wrote overwrite
    · intro settled
      have fresh : (rewritten setup events).written = false := by
        rw [Bool.or_eq_false_iff] at settled
        exact settled.2
      exact (holds.fresh overwrite fresh).1
    · intro truncated
      refine ⟨trivial, ?_⟩
      cases written : (rewritten setup events).written with
      | true => exact holds.wrote overwrite written
      | false =>
          rw [written, Bool.or_false] at truncated
          exact (holds.behind overwrite truncated).2
  · have same : after.disk.content setup.name = sink.disk.content setup.name := by
      rw [disk, Disk.opened, content_set_other _ _ (fun equal => own equal.symm)]
    have state : rewritten setup (events ++ [.openFile name]) = rewritten setup events := by
      rw [rewritten_snoc, Rewritten.next, if_neg own]
    exact unchanged_holds holds sameFile sameMode sameOutcomes state same

theorem close_holds (holds : Holds setup events sink file) {after : FileSink}
    (sameFile : after.fp = sink.fp) (sameMode : after.append = sink.append)
    (sameOutcomes : after.outcomes = sink.outcomes) (disk : after.disk = sink.disk) :
    Holds setup (events ++ [.close]) after file := by
  have state : rewritten setup (events ++ [.close]) = rewritten setup events := by
    rw [rewritten_snoc, Rewritten.next]
  exact unchanged_holds holds sameFile sameMode sameOutcomes state (by rw [disk])

/-- An event whose blob, if any, is read bytewise keeps the file installed. -/
theorem event_holds (holds : Holds setup events sink file) (event : SinkEvent)
    (bytewise : ∀ message, event = .message message →
      setup.params.itemsize = 1 ∨ message.pdu.blob = []) :
    ∃ after next, (sinkEvent setup event).run sink = .ok () after ∧
      Holds setup (events ++ [event]) after next := by
  cases event with
  | openFile name =>
      obtain ⟨after, ran, sameFile, sameMode, sameOutcomes, disk⟩ := open_run sink name
      exact ⟨after, file, ran, open_holds holds name sameFile sameMode sameOutcomes disk⟩
  | close =>
      obtain ⟨after, ran, sameFile, sameMode, sameOutcomes, disk⟩ := close_run sink
      exact ⟨after, file, ran, close_holds holds sameFile sameMode sameOutcomes disk⟩
  | message message =>
      exact ⟨_, _, FileSinkBlock.compressed_in_run holds.installed holds.succeeding message
        (bytewise message rfl), message_holds holds message⟩

/-- A message that returns had a blob that is read bytewise. -/
theorem bytewise_of_ok (holds : Holds setup events sink file) {message : Message}
    {after : FileSink}
    (ran : (FileSinkBlock.compressedIn setup.params message.pdu).run sink = .ok () after) :
    setup.params.itemsize = 1 ∨ message.pdu.blob = [] := by
  by_cases bytewise : setup.params.itemsize = 1 ∨ message.pdu.blob = []
  · exact bytewise
  · have positive := setup.params.itemsize_pos
    obtain ⟨notOne, nonempty⟩ := not_or.1 bytewise
    have larger : 1 < setup.params.itemsize := by omega
    obtain ⟨stopped, faulted⟩ := FileSinkBlock.compressed_in_outside holds.installed
      holds.succeeding message larger nonempty
    rw [faulted] at ran
    simp at ran

end Steps

/-! ## Runs -/

/-- The constructor installs its file, at its end. -/
theorem make_holds :
    ∃ sink file, (FileSinkBlock.make setup.name setup.unbuffered .succeeds .succeeds).run
        (FileSinkBlock.unopened setup.append setup.disk) = .ok () sink ∧
      Holds setup [] sink file := by
  refine ⟨_, _, rfl, rfl, rfl, rfl, rfl, rfl, ?_, ?_, ?_, ?_⟩
  all_goals
    intro overwrite
    simp [rewritten, FileSinkBlock.unopened, Disk.opened, overwrite]

/-- After any session the constructor's file is still installed. -/
theorem session_holds {events : List SinkEvent} {outs : List Unit} {sink : FileSink}
    (ran : session setup events = .ok outs sink) : ∃ file, Holds setup events sink file := by
  obtain ⟨made, file, constructed, holds⟩ := make_holds setup
  have rest : (runAll (sinkEvent setup) events).run made = .ok outs sink := by
    simpa only [session, EStateM.run_bind, constructed] using ran
  apply run_all_invariant (sinkEvent setup)
    (fun done _ sink => ∃ file, Holds setup done sink file) ?_ ⟨file, holds⟩ rest
  intro done outs before event out after invariant stepped
  rcases invariant with ⟨file, holds⟩
  obtain ⟨after', next, ran, nextHolds⟩ := event_holds holds event (by
    intro message same
    subst same
    exact bytewise_of_ok holds stepped)
  obtain ⟨_, rfl⟩ := ok_unique stepped ran
  exact ⟨next, nextHolds⟩

theorem session_total {events : List SinkEvent}
    (bytewise : ∀ message, .message message ∈ events →
      setup.params.itemsize = 1 ∨ message.pdu.blob = []) :
    ∃ outs sink file, session setup events = .ok outs sink ∧ Holds setup events sink file := by
  obtain ⟨made, file, constructed, holds⟩ := make_holds setup
  obtain ⟨outs, sink, ran, file, finalHolds⟩ := run_all_total (sinkEvent setup)
    (fun event => ∀ message, event = .message message →
      setup.params.itemsize = 1 ∨ message.pdu.blob = [])
    (fun done _ sink => ∃ file, Holds setup done sink file)
    (by
      intro done outs before event allowed invariant
      rcases invariant with ⟨file, holds⟩
      obtain ⟨after, next, ran, nextHolds⟩ := event_holds holds event allowed
      exact ⟨(), after, ran, next, nextHolds⟩)
    events (fun event member message same => bytewise message (same ▸ member)) made ⟨file, holds⟩
  refine ⟨outs, sink, file, ?_, finalHolds⟩
  simp only [session, EStateM.run_bind, constructed, ran]

theorem meets_of_honours {events : List SinkEvent} (honours : Honours setup events) :
    ∀ earlier message, earlier ++ [.message message] <+: events →
      Meets setup earlier message := by
  intro earlier message arrives
  obtain ⟨outs, before, after, ran, stepped, disk⟩ := honours earlier message arrives
  obtain ⟨file, holds⟩ := session_holds setup ran
  have bytewise := bytewise_of_ok holds stepped
  have wrote := FileSinkBlock.compressed_in_run holds.installed holds.succeeding message bytewise
  obtain ⟨_, rfl⟩ := ok_unique stepped wrote
  obtain ⟨current, appends⟩ := (message_recorded_iff holds message).1 disk
  exact ⟨bytewise, current, appends⟩

theorem honours_of_meets {events : List SinkEvent}
    (meets : ∀ earlier message, earlier ++ [.message message] <+: events →
      Meets setup earlier message) : Honours setup events := by
  intro earlier message arrives
  have bytewise : ∀ other, .message other ∈ earlier →
      setup.params.itemsize = 1 ∨ other.pdu.blob = [] := by
    intro other member
    obtain ⟨before, after, rfl⟩ := List.append_of_mem member
    refine (meets before other ?_).bytewise
    exact List.IsPrefix.trans ⟨after ++ [.message message], by simp⟩ arrives
  obtain ⟨outs, sink, file, ran, holds⟩ := session_total setup bytewise
  have here := meets earlier message arrives
  exact ⟨outs, sink, _, ran,
    FileSinkBlock.compressed_in_run holds.installed holds.succeeding message here.bytewise,
    (message_recorded_iff holds message).2 ⟨here.current, here.appends⟩⟩

/-- The sink honours `open` and `close` exactly when every message arrives while
the constructor's own file is current and, in overwrite mode, has not been
truncated since the last message. -/
theorem honours_iff_own_file (events : List SinkEvent) :
    Honours setup events ↔
      ∀ earlier message, earlier ++ [.message message] <+: events →
        Meets setup earlier message :=
  ⟨meets_of_honours setup, honours_of_meets setup⟩

/-- A sink on the file `a`, in overwrite mode, with items of one byte. -/
def onFileA : SinkSetup where
  params := { itemsize := 1, itemsize_pos := Nat.one_pos }
  name := "a"
  unbuffered := false
  append := false
  disk := fun _ => none

def oneByteMessage : Message where
  hasheader := false
  uncompressedSize := 1
  payload := [0x41]
  size_fits := by decide
  payload_fits := by decide

/-- After `open("b")` the record goes to `a`; after `close()` it is not dropped. -/
theorem open_and_close_not_honoured :
    ¬Honours onFileA [.openFile "b", .message oneByteMessage] ∧
      ¬Honours onFileA [.close, .message oneByteMessage] := by
  constructor
  · intro honours
    have meets := meets_of_honours onFileA honours [.openFile "b"] oneByteMessage
      (List.prefix_refl _)
    exact absurd meets.current (by decide)
  · intro honours
    have meets := meets_of_honours onFileA honours [.close] oneByteMessage (List.prefix_refl _)
    exact absurd meets.current (by decide)

end GrCompress.SinkSwitching
