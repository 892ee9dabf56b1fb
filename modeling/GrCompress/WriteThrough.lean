import GrCompress.HandleOwnership
import GrCompress.KilledRecording
import GrCompress.MatchingCalls

/-!
# The file sink with and without buffers

In `FileSinkBlock` a write reaches its file at once; in `BufferedSink` a stream's buffer
is in between. Whatever the operations, the one is what the other would be with all
buffers written out, unless a file is truncated by being opened while something for it
is still buffered. So both leave the same files once the stream is flushed or the sink
is destroyed, and after every operation with `d_unbuffered` set.
-/

namespace GrCompress.WriteThrough

open GrCompress.CallRuns
open GrCompress.CheckedStorage
open GrCompress.OpenFiles
open GrCompress.StdioStreams (Behaviour Stream Device Follows Killed killed)
open GrCompress.MatchingCalls
open GrCompress.ZstdCodec
open GrCompress.RecordFormat
open GrCompress.FileSinkBlock (SinkParams SinkSetup)
open GrCompress.HandleOwnership (SinkOperation sinkOperation)
open GrCompress.KilledRecording (single unbufferedOut)

set_option autoImplicit false

/-- The operations of the sink, here of the buffered one. -/
def bufferedOperation (params : SinkParams) :
    SinkOperation → EStateM Fault BufferedSink.FileSink Unit
  | .openFile name opening => do
      let _ ← BufferedSink.openFile name opening
  | .close => BufferedSink.close
  | .doUpdate => BufferedSink.doUpdate
  | .setUnbuffered unbuffered => BufferedSink.setUnbuffered unbuffered
  | .stop => do
      let _ ← BufferedSink.stop
  | .message pdu => BufferedSink.compressedIn params pdu

/-! ## The sink with its buffers written out -/

/-- The two handles that are installed, and the files. -/
def Installed (stream : Option (Stream UInt8)) (disk : Disk UInt8) (file : Option WriteFile)
    (through : Disk UInt8) : Prop :=
  match stream, file with
  | none, none => through = disk
  | some stream, some file => Follows stream disk file through
  | _, _ => False

/-- The two handles that are staged; nothing has been written to them. -/
def Staged (stream : Option (Stream UInt8)) (file : Option WriteFile) (disk : Disk UInt8) : Prop :=
  match stream, file with
  | none, none => True
  | some stream, some file => stream.buffered = [] ∧ stream.file.failed = false ∧
      file = { stream.file with descriptor := file.descriptor } ∧ disk.Has stream.file.name
  | _, _ => False

structure WrittenThrough (sink : BufferedSink.FileSink) (through : FileSinkBlock.FileSink) :
    Prop where
  installed : Installed sink.fp sink.device.disk through.fp through.disk
  staged : Staged sink.newFp through.newFp sink.device.disk
  updated : through.updated = sink.updated
  append : through.append = sink.append
  unbuffered : through.unbuffered = sink.unbuffered
  succeeding : through.outcomes = []

/-- Nothing that is written through the installed stream is still in its buffer. -/
def Flushed (sink : BufferedSink.FileSink) : Prop :=
  ∀ stream, sink.fp = some stream → stream.buffered = []

/-- An `open` does not truncate a file that something is buffered for. -/
def Spares (sink : BufferedSink.FileSink) : SinkOperation → Prop
  | .openFile name .fdopenFails | .openFile name .succeeds => sink.append = true ∨
      ∀ stream, sink.fp = some stream → stream.file.name ≠ name ∨ stream.buffered = []
  | _ => True

variable {params : SinkParams} {sink : BufferedSink.FileSink} {through : FileSinkBlock.FileSink}
  {disk : Disk UInt8} {fp : Option WriteFile}

theorem disk_of_flushed (related : WrittenThrough sink through) (flushed : Flushed sink) :
    sink.device.disk = through.disk := by
  have installed := related.installed
  unfold Installed at installed
  split at installed
  · exact installed.symm
  · rename_i stream file current _
    exact (StdioStreams.follows_disk installed (flushed stream current)).symm
  · exact installed.elim

theorem installed_opened {stream : Option (Stream UInt8)} {before after : Disk UInt8}
    (installed : Installed stream before fp after) {name : String} {append : Bool}
    (spared : append = true ∨
      ∀ current, stream = some current → current.file.name ≠ name ∨ current.buffered = []) :
    Installed stream (before.opened name append) fp (after.opened name append) := by
  unfold Installed at installed ⊢
  split at installed
  · rw [installed]
  · rename_i current file
    apply StdioStreams.follows_opened installed
    rcases spared with appends | spared
    · exact .inl appends
    · exact .inr (spared current rfl)
  · exact installed.elim

theorem staged_files {stream : Option (Stream UInt8)} {file : Option WriteFile}
    {before after : Disk UInt8} (staged : Staged stream file before)
    (files : ∀ name, before.Has name → after.Has name) : Staged stream file after := by
  unfold Staged at staged ⊢
  split at staged
  · trivial
  · rcases staged with ⟨flushed, fine, same, has⟩
    exact ⟨flushed, fine, same, files _ has⟩
  · exact staged.elim

/-- As long as it is only staged, it is as well installed where nothing is written. -/
theorem installed_of_staged {stream : Option (Stream UInt8)} {file : Option WriteFile}
    (staged : Staged stream file disk) : Installed stream disk (stream.map Stream.file) disk := by
  unfold Staged at staged
  split at staged
  · rfl
  · rcases staged with ⟨flushed, fine, _, has⟩
    exact StdioStreams.follows_flushed flushed fine has
  · exact staged.elim

/-- Closing a stream writes out what is still in its buffer. -/
theorem closing_run {stream : Option (Stream UInt8)} {file : Option WriteFile}
    {written : Disk UInt8} (installed : Installed stream sink.device.disk file written) :
    Leads (fun _ after => ∃ device, after = { sink with device := device } ∧
        device.disk = written ∧ ∀ name, sink.device.disk.Has name → device.disk.Has name)
      Killed ((BufferedSink.closing stream).run sink) := by
  unfold Installed at installed
  split at installed
  · exact ⟨sink.device, rfl, installed.symm, fun _ has => has⟩
  · exact within_leads (StdioStreams.fclose_follows installed)
  · exact installed.elim

/-! ## The operations -/

/-- The two sinks, and what an operation that does not write leaves as it was. -/
def Quiet (sink : BufferedSink.FileSink) (after : BufferedSink.FileSink)
    (after' : FileSinkBlock.FileSink) : Prop :=
  WrittenThrough after after' ∧ after.fp = sink.fp ∧ after.unbuffered = sink.unbuffered

theorem close_matches (related : WrittenThrough sink through) :
    MatchesAt (Quiet sink) Killed sink through BufferedSink.close FileSinkBlock.close := by
  apply matches_get_before
  apply matches_bind_before (closing_run (installed_of_staged related.staged))
  intro out _ led
  rcases led with ⟨device, rfl, same, _⟩
  have installed := related.installed
  rw [← same] at installed
  exact matches_modify ⟨{
    installed := installed
    staged := trivial
    updated := rfl
    append := related.append
    unbuffered := related.unbuffered
    succeeding := related.succeeding }, rfl, rfl⟩

/-- Both sinks once a file is open, whatever is staged then. -/
theorem opening_matches (related : WrittenThrough sink through) {name : String}
    (spared : sink.append = true ∨
      ∀ stream, sink.fp = some stream → stream.file.name ≠ name ∨ stream.buffered = [])
    {stream : Option (Stream UInt8)} {file : Option WriteFile} {handles : Handles}
    (staged : Staged stream file (sink.device.disk.opened name sink.append))
    {stage : BufferedSink.FileSink → BufferedSink.FileSink}
    {stage' : FileSinkBlock.FileSink → FileSinkBlock.FileSink}
    (stages : ∀ device, stage { sink with device := device } =
      { sink with newFp := stream, updated := true, device := device })
    (stages' : stage' through = { through with
      newFp := file
      updated := true
      handles := handles
      disk := through.disk.opened name through.append }) (opens : Bool) :
    MatchesAt (Quiet sink) Killed sink through
      (do
        modify fun sink => { sink with device := { sink.device with
          disk := sink.device.disk.opened name sink.append } }
        BufferedSink.closing (← get).newFp
        modify stage
        return opens)
      (do
        modify stage'
        return opens) := by
  have stagedBefore : Staged sink.newFp through.newFp
      (sink.device.disk.opened name sink.append) :=
    staged_files related.staged fun _ has => has_set has _ _
  have installed := installed_opened related.installed spared
  apply matches_modify_before
  apply matches_get_before
  apply matches_bind_before (closing_run (installed_of_staged stagedBefore))
  intro out _ led
  rcases led with ⟨device, rfl, same, _⟩
  dsimp only at same
  rw [← same] at installed staged
  have quiet : Quiet sink (stage { sink with device := device }) (stage' through) := by
    rw [stages, stages']
    exact ⟨{
      installed := by rw [related.append]; exact installed
      staged := staged
      updated := rfl
      append := related.append
      unbuffered := related.unbuffered
      succeeding := related.succeeding }, rfl, rfl⟩
  apply matches_bind (matches_modify quiet)
  intro _ next next' _ quiet
  exact matches_pure quiet opens

theorem open_matches (related : WrittenThrough sink through) (name : String) (opening : Opening)
    (spared : Spares sink (.openFile name opening)) :
    MatchesAt (Quiet sink) Killed sink through (BufferedSink.openFile name opening)
      (FileSinkBlock.openFile name opening) := by
  cases opening with
  | openFails => exact matches_pure ⟨related, rfl, rfl⟩ false
  | fdopenFails =>
      have staged : Staged none none (sink.device.disk.opened name sink.append) := trivial
      exact opening_matches related spared staged (fun _ => rfl) rfl false
  | succeeds =>
      have staged : Staged (some (BufferedSink.opened name sink.append))
          (some {
            descriptor := through.handles.next
            name := name
            position := 0
            append := through.append
            failed := false })
          (sink.device.disk.opened name sink.append) :=
        ⟨rfl, rfl, by rw [related.append]; rfl, has_opened _ _ _⟩
      exact opening_matches related spared staged (fun _ => rfl) rfl true

theorem set_unbuffered_matches (related : WrittenThrough sink through) (unbuffered : Bool) :
    MatchesAt (fun after after' => WrittenThrough after after' ∧ after.fp = sink.fp ∧
        after.unbuffered = unbuffered)
      Killed sink through (BufferedSink.setUnbuffered unbuffered)
      (FileSinkBlock.setUnbuffered unbuffered) :=
  matches_modify ⟨{ related with unbuffered := rfl }, rfl, rfl⟩

theorem stop_matches (related : WrittenThrough sink through) :
    MatchesAt (Quiet sink) Killed sink through BufferedSink.stop FileSinkBlock.stop := by
  apply matches_bind (close_matches related)
  intro _ next next' _ quiet
  exact matches_pure quiet true

/-- What is staged is installed, with nothing in its buffer. -/
theorem installed_staged {stream : Option (Stream UInt8)} {file : Option WriteFile}
    (staged : Staged stream file disk) :
    Installed stream disk file disk ∧
      ∀ current, stream = some current → current.buffered = [] := by
  unfold Staged at staged
  split at staged
  · exact ⟨rfl, fun _ impossible => by cases impossible⟩
  · rename_i current file
    rcases staged with ⟨flushed, fine, same, has⟩
    have follows := StdioStreams.follows_flushed flushed fine has
    refine ⟨?_, ?_⟩
    · rw [same]
      exact ⟨rfl, rfl, fine, follows.position, has, follows.disk⟩
    · intro other same
      cases same
      exact flushed
  · exact staged.elim

/-- `do_update` closes what was installed, so nothing is buffered after it either. -/
theorem do_update_matches (related : WrittenThrough sink through) :
    MatchesAt (fun after after' => WrittenThrough after after' ∧
        (Flushed sink → Flushed after) ∧ after.unbuffered = sink.unbuffered)
      Killed sink through BufferedSink.doUpdate FileSinkBlock.doUpdate := by
  apply matches_get_before
  cases due : sink.updated with
  | false =>
      have updates : FileSinkBlock.doUpdate.run through = .ok () through := by
        simp [FileSinkBlock.doUpdate, related.updated, due]
      rw [if_neg Bool.false_ne_true, MatchesAt, updates]
      exact ⟨rfl, related, id, rfl⟩
  | true =>
      have updates : FileSinkBlock.doUpdate.run through = .ok () { through with
          fp := through.newFp
          newFp := none
          updated := false
          handles := FileSinkBlock.closing through.fp through.handles } := by
        simp [FileSinkBlock.doUpdate, related.updated, due]
      rw [if_pos rfl]
      apply matches_bind_before (closing_run related.installed)
      intro out _ led
      rcases led with ⟨device, rfl, same, files⟩
      obtain ⟨installed, flushed⟩ := installed_staged (staged_files related.staged files)
      rw [MatchesAt, updates]
      exact ⟨rfl, {
        installed := by rw [← same]; exact installed
        staged := trivial
        updated := rfl
        append := related.append
        unbuffered := related.unbuffered
        succeeding := related.succeeding }, fun _ => flushed, rfl⟩

/-! ## Messages -/

/-- Both sinks have a handle installed and write to it. -/
def Writing (unbuffered : Bool) (sink : BufferedSink.FileSink)
    (through : FileSinkBlock.FileSink) : Prop :=
  WrittenThrough sink through ∧ sink.fp ≠ none ∧ sink.unbuffered = unbuffered

variable {unbuffered : Bool}

/-- Either no handle is installed in either sink, or the one follows the other. -/
theorem installed_cases {stream : Option (Stream UInt8)} {written : Disk UInt8}
    (installed : Installed stream disk fp written) :
    (stream = none ∧ fp = none) ∨
      ∃ current file, stream = some current ∧ fp = some file ∧
        Follows current disk file written := by
  unfold Installed at installed
  split at installed
  · exact .inl ⟨rfl, rfl⟩
  · rename_i current file
    exact .inr ⟨current, file, rfl, rfl, installed⟩
  · exact installed.elim

/-- A load comes to the same in both and leaves both alone. -/
theorem matches_load_bind {State Other Out : Type} {Related : State → Other → Prop}
    {Excused : Fault → Prop} {state : State} {state' : Other} {buffer : Buffer UInt8}
    {offset count : Nat} {rest : Bytes → EStateM Fault State Out}
    {rest' : Bytes → EStateM Fault Other Out}
    (same : ∀ bytes, MatchesAt Related Excused state state' (rest bytes) (rest' bytes)) :
    MatchesAt Related Excused state state' (load buffer offset count >>= rest)
      (load buffer offset count >>= rest') := by
  have loads : MatchesAt (fun next next' => next = state ∧ next' = state') Excused state state'
      (load buffer offset count) (load buffer offset count) := by
    cases buffer with
    | none => exact matches_throw _
    | some array => exact matches_ite (fun _ => matches_pure ⟨rfl, rfl⟩ _) fun _ => matches_throw _
  apply matches_bind loads
  intro bytes _ _ _ kept
  rcases kept with ⟨rfl, rfl⟩
  exact same bytes

theorem fwrite_matches (writing : Writing unbuffered sink through) (buffer : Buffer UInt8)
    (offset size count : Nat) :
    MatchesAt (Writing unbuffered) Killed sink through
      (BufferedSink.fwrite buffer offset size count)
      (FileSinkBlock.fwrite buffer offset size count) := by
  rcases writing with ⟨related, current, flag⟩
  apply matches_get_bind
  rcases installed_cases related.installed with ⟨none, _⟩ | ⟨stream, file, opened, opened', follows⟩
  · exact absurd none current
  · rw [opened, opened', related.succeeding]
    apply matches_load_bind
    intro bytes
    apply matches_bind_before (within_leads (StdioStreams.fwrite_follows follows bytes))
    intro after _ led
    rcases led with ⟨device, rfl, followed, files, _⟩
    exact ⟨rfl, {
      installed := followed
      staged := staged_files related.staged files
      updated := related.updated
      append := related.append
      unbuffered := related.unbuffered
      succeeding := rfl }, Option.some_ne_none after, flag⟩

/-- The loop writes the same, whatever the size of the items. -/
theorem write_loop_matches (blob : Bytes) (fuel : Nat) (nwritten offset : Int)
    (writing : Writing unbuffered sink through) :
    MatchesAt (Writing unbuffered) Killed sink through
      (BufferedSink.writeLoop params blob fuel nwritten offset)
      (FileSinkBlock.writeLoop params blob fuel nwritten offset) := by
  induction fuel generalizing nwritten offset sink through with
  | zero => exact matches_throw _
  | succ fuel induction =>
      unfold BufferedSink.writeLoop FileSinkBlock.writeLoop
      apply matches_ite
      · intro _
        apply matches_bind (fwrite_matches writing blob _ _ _)
        intro items next next' _ writing
        dsimp only
        generalize toInt items = count
        by_cases ended : count = 0
        · rw [if_pos ended, if_pos ended]
          rcases installed_cases writing.1.installed with
            ⟨none, _⟩ | ⟨stream, file, _, opened', follows⟩
          · exact absurd none writing.2.1
          · rw [MatchesAt]
            simp only [EStateM.run_bind, EStateM.run_get, opened', follows.fine,
              Bool.false_eq_true, if_false, EStateM.run_pure]
            exact ⟨rfl, writing⟩
        · rw [if_neg ended, if_neg ended]
          exact induction _ _ writing
      · intro _
        exact matches_pure writing ()

/-- A message has been handled; with `d_unbuffered` nothing of it is left in the buffer. -/
def Handled (unbuffered : Bool) (sink : BufferedSink.FileSink)
    (through : FileSinkBlock.FileSink) : Prop :=
  WrittenThrough sink through ∧ sink.unbuffered = unbuffered ∧
    (unbuffered = true → Flushed sink)

/-- The sink without a buffer has nothing to flush. -/
theorem fflush_matches (writing : Writing true sink through) :
    MatchesAt (Handled true) Killed sink through BufferedSink.fflush (pure ()) := by
  rcases writing with ⟨related, current, flag⟩
  apply matches_get_before
  rcases installed_cases related.installed with ⟨none, _⟩ | ⟨stream, file, opened, opened', follows⟩
  · exact absurd none current
  · rw [opened]
    apply matches_bind_before (within_leads (StdioStreams.fflush_follows follows))
    intro after _ led
    rcases led with ⟨device, rfl, followed, files, empty⟩
    have installed : Installed (some after) device.disk through.fp through.disk := by
      rw [opened']
      exact followed
    refine ⟨rfl, {
      installed := installed
      staged := staged_files related.staged files
      updated := related.updated
      append := related.append
      unbuffered := related.unbuffered
      succeeding := related.succeeding }, flag, ?_⟩
    intro _ current same
    cases same
    exact empty trivial

theorem write_blob_matches (blob : Bytes) (fuel : Nat) (nwritten offset : Int)
    (writing : Writing unbuffered sink through) :
    MatchesAt (Handled unbuffered) Killed sink through
      (do
        BufferedSink.writeLoop params blob fuel nwritten offset
        if (← get).unbuffered then BufferedSink.fflush)
      (FileSinkBlock.writeLoop params blob fuel nwritten offset) := by
  apply matches_bind_alone (write_loop_matches blob fuel nwritten offset writing)
  intro next next' _ writing
  apply matches_get_before
  rw [writing.2.2]
  cases unbuffered with
  | false =>
      rw [if_neg Bool.false_ne_true]
      exact matches_pure ⟨writing.1, writing.2.2, fun impossible => by cases impossible⟩ ()
  | true =>
      rw [if_pos rfl]
      exact fflush_matches writing

/-- Both handlers write the same. -/
theorem message_matches (related : WrittenThrough sink through) (pdu : Pdu) :
    MatchesAt (Handled sink.unbuffered) Killed sink through
      (BufferedSink.compressedIn params pdu) (FileSinkBlock.compressedIn params pdu) := by
  apply matches_get_bind
  rcases installed_cases related.installed with ⟨none, none'⟩ | ⟨stream, file, opened, opened', _⟩
  · rw [none, none']
    refine matches_pure ⟨related, rfl, fun _ stream impossible => ?_⟩ ()
    rw [none] at impossible
    cases impossible
  · have writing : Writing sink.unbuffered sink through :=
      ⟨related, by simp [opened], rfl⟩
    rw [opened, opened']
    cases headed : pdu.hasHeader with
    | true =>
        simp only [Bool.not_true, Bool.false_eq_true, if_false]
        exact write_blob_matches _ _ _ _ writing
    | false =>
        simp only [Bool.not_false, if_true]
        apply matches_bind (fwrite_matches writing _ _ _ _)
        intro _ next next' _ writing
        exact write_blob_matches _ _ _ _ writing

/-! ## Whole runs -/

/-- `d_unbuffered` is set and nothing is buffered. -/
def Prompt (sink : BufferedSink.FileSink) : Prop := sink.unbuffered = true ∧ Flushed sink

/-- A sink that is prompt stays so, as long as `d_unbuffered` is not cleared. -/
def Stepped (sink : BufferedSink.FileSink) (op : SinkOperation) (after : BufferedSink.FileSink)
    (after' : FileSinkBlock.FileSink) : Prop :=
  WrittenThrough after after' ∧ (Prompt sink → op ≠ .setUnbuffered false → Prompt after)

theorem stepped_of_quiet {op : SinkOperation} {after : BufferedSink.FileSink}
    {after' : FileSinkBlock.FileSink} (quiet : Quiet sink after after') :
    Stepped sink op after after' := by
  rcases quiet with ⟨related, same, flag⟩
  refine ⟨related, fun prompt _ => ⟨flag.trans prompt.1, ?_⟩⟩
  intro stream current
  rw [same] at current
  exact prompt.2 stream current

theorem operation_matches (related : WrittenThrough sink through) (op : SinkOperation)
    (spared : Spares sink op) :
    MatchesAt (Stepped sink op) Killed sink through (bufferedOperation params op)
      (sinkOperation params op) := by
  cases op with
  | openFile name opening =>
      apply matches_bind (open_matches related name opening spared)
      intro _ next next' _ quiet
      exact matches_pure (stepped_of_quiet quiet) ()
  | close => exact matches_mono (fun _ _ => stepped_of_quiet) (close_matches related)
  | doUpdate =>
      apply matches_mono ?_ (do_update_matches related)
      intro next next' stepped
      rcases stepped with ⟨related, flushed, flag⟩
      exact ⟨related, fun prompt _ => ⟨flag.trans prompt.1, flushed prompt.2⟩⟩
  | setUnbuffered unbuffered =>
      apply matches_mono ?_ (set_unbuffered_matches related unbuffered)
      intro next next' stepped
      rcases stepped with ⟨related, same, flag⟩
      refine ⟨related, fun prompt switched => ⟨?_, ?_⟩⟩
      · rw [flag]
        simpa using switched
      · intro stream current
        rw [same] at current
        exact prompt.2 stream current
  | stop =>
      apply matches_bind (stop_matches related)
      intro _ next next' _ quiet
      exact matches_pure (stepped_of_quiet quiet) ()
  | message pdu =>
      apply matches_mono ?_ (message_matches related pdu)
      intro next next' stepped
      rcases stepped with ⟨related, flag, flushed⟩
      exact ⟨related, fun prompt _ => ⟨flag.trans prompt.1, flushed prompt.1⟩⟩

theorem make_base_matches (related : WrittenThrough sink through) (name : String)
    (opening : Opening) (spared : Spares sink (.openFile name opening)) :
    MatchesAt (Quiet sink) Killed sink through (BufferedSink.makeBase name opening)
      (FileSinkBlock.makeBase name opening) := by
  apply matches_bind (open_matches related name opening spared)
  intro opens next next' _ quiet
  cases opens with
  | false => exact matches_throw _
  | true => exact matches_pure quiet ()

theorem spares_of_flushed (flushed : Flushed sink) (op : SinkOperation) : Spares sink op := by
  unfold Spares
  split
  · exact .inr fun stream current => .inr (flushed stream current)
  · exact .inr fun stream current => .inr (flushed stream current)
  · trivial

theorem flushed_of_uninstalled (none : sink.fp = none) : Flushed sink := by
  intro stream current
  rw [none] at current
  cases current

/-- The constructor opens its file twice; nothing is installed before it is done. -/
theorem make_matches (name : String) (unbuffered append : Bool) (first second : Opening)
    (device : Device UInt8) :
    MatchesAt (fun after after' => WrittenThrough after after' ∧ Flushed after ∧
        after.unbuffered = unbuffered) Killed
      (BufferedSink.unopened append device) (FileSinkBlock.unopened append device.disk)
      (BufferedSink.make name unbuffered first second)
      (FileSinkBlock.make name unbuffered first second) := by
  have related : WrittenThrough (BufferedSink.unopened append device)
      (FileSinkBlock.unopened append device.disk) := ⟨rfl, trivial, rfl, rfl, rfl, rfl⟩
  apply matches_bind (make_base_matches related name first
    (spares_of_flushed (flushed_of_uninstalled rfl) _))
  intro _ one one' _ stepped
  rcases stepped with ⟨related, none, _⟩
  apply matches_bind (set_unbuffered_matches related unbuffered)
  intro _ two two' _ stepped
  rcases stepped with ⟨related, same, flag⟩
  have uninstalled : two.fp = .none := same.trans none
  apply matches_bind (open_matches related name second
    (spares_of_flushed (flushed_of_uninstalled uninstalled) _))
  intro _ three three' _ stepped
  rcases stepped with ⟨related, same', flag'⟩
  apply matches_mono ?_ (do_update_matches related)
  intro next next' stepped
  rcases stepped with ⟨related, flushed, flag''⟩
  exact ⟨related, flushed (flushed_of_uninstalled (same'.trans uninstalled)),
    flag''.trans (flag'.trans flag)⟩

/-- The destructor leaves the same files behind. -/
theorem destroy_matches (related : WrittenThrough sink through) :
    MatchesAt (fun after after' => after.device.disk = after'.disk) Killed sink through
      BufferedSink.destroy FileSinkBlock.destroy := by
  apply matches_bind (stop_matches related)
  intro _ next next' _ stepped
  rcases stepped with ⟨related, _⟩
  apply matches_bind (close_matches related)
  intro _ last last' _ stepped
  rcases stepped with ⟨related, _⟩
  apply matches_get_before
  apply matches_bind_before (closing_run related.installed)
  intro out _ led
  rcases led with ⟨device, rfl, same, _⟩
  exact matches_modify same

/-- A run of the buffered sink, whose process may be killed. -/
def buffered (setup : SinkSetup) (first second : Opening) (behaviours : List Behaviour)
    (ops : List SinkOperation) : EStateM.Result Fault BufferedSink.FileSink (List Unit) :=
  (do
    BufferedSink.make setup.name setup.unbuffered first second
    runAll (bufferedOperation setup.params) ops).run
      (BufferedSink.unopened setup.append { disk := setup.disk, behaviours := behaviours })

/-- The same run of the sink without a buffer. -/
def direct (setup : SinkSetup) (first second : Opening) (ops : List SinkOperation) :
    EStateM.Result Fault FileSinkBlock.FileSink (List Unit) :=
  (do
    FileSinkBlock.make setup.name setup.unbuffered first second
    runAll (sinkOperation setup.params) ops).run
      (FileSinkBlock.unopened setup.append setup.disk)

/-- Whatever has been done before, an operation drops nothing that is buffered. -/
def NothingDropped (setup : SinkSetup) (first second : Opening) (behaviours : List Behaviour)
    (ops : List SinkOperation) : Prop :=
  ∀ earlier op, earlier ++ [op] <+: ops → ∀ outs sink,
    buffered setup first second behaviours earlier = .ok outs sink → Spares sink op

variable {setup : SinkSetup} {first second : Opening} {behaviours : List Behaviour}
  {ops : List SinkOperation}

theorem buffered_of_made {sink : BufferedSink.FileSink}
    (made : (BufferedSink.make setup.name setup.unbuffered first second).run
      (BufferedSink.unopened setup.append { disk := setup.disk, behaviours := behaviours }) =
        .ok () sink) (ops : List SinkOperation) :
    buffered setup first second behaviours ops =
      (runAll (bufferedOperation setup.params) ops).run sink := by
  simp only [buffered, EStateM.run_bind, made]

theorem runs_match (spared : NothingDropped setup first second behaviours ops) :
    Matched WrittenThrough Killed (buffered setup first second behaviours ops)
      (direct setup first second ops) := by
  apply matches_bind (make_matches setup.name setup.unbuffered setup.append first second
    { disk := setup.disk, behaviours := behaviours })
  intro _ sink through made reached
  rcases reached with ⟨related, _⟩
  apply run_all_matches Spares ?_ ops sink through related
  · intro earlier op segment outs before ran
    apply spared earlier op segment outs before
    rw [buffered_of_made made, ran]
  · intro sink through op related spared
    exact matches_mono (fun _ _ stepped => stepped.1) (operation_matches related op spared)

variable (first second behaviours) in
/-- While `d_unbuffered` is set nothing is ever buffered between two operations. -/
theorem prompt_runs_match (unbuffered : setup.unbuffered = true)
    (kept : .setUnbuffered false ∉ ops) :
    Matched (fun sink through => WrittenThrough sink through ∧ Prompt sink) Killed
      (buffered setup first second behaviours ops) (direct setup first second ops) := by
  apply matches_bind (make_matches setup.name setup.unbuffered setup.append first second
    { disk := setup.disk, behaviours := behaviours })
  intro _ sink through _ reached
  rcases reached with ⟨related, flushed, flag⟩
  apply run_all_matches (fun _ op => op ≠ .setUnbuffered false) ?_ ops sink through
    ⟨related, flag.trans unbuffered, flushed⟩
  · intro earlier op segment _ _ _ switched
    rw [switched] at segment
    exact kept (segment.subset (by simp))
  · intro sink through op reached stays
    rcases reached with ⟨related, prompt⟩
    apply matches_mono ?_ (operation_matches related op (spares_of_flushed prompt.2 op))
    intro next next' both
    rcases both with ⟨related, stepped⟩
    exact ⟨related, stepped prompt stays⟩

variable (first second behaviours) in
theorem nothing_dropped_of_unbuffered (unbuffered : setup.unbuffered = true)
    (kept : .setUnbuffered false ∉ ops) : NothingDropped setup first second behaviours ops := by
  intro earlier op segment outs sink ran
  have keptEarlier : .setUnbuffered false ∉ earlier :=
    fun member => kept (segment.subset (by simp [member]))
  obtain ⟨_, _, _, prompt⟩ :=
    matched_ok (prompt_runs_match first second behaviours unbuffered keptEarlier) ran
  exact spares_of_flushed prompt.2 op

/-- With `d_unbuffered` set all the time the files are the same after every operation. -/
theorem unbuffered_sinks_agree (unbuffered : setup.unbuffered = true)
    (kept : .setUnbuffered false ∉ ops) {outs : List Unit} {sink : BufferedSink.FileSink}
    (ran : buffered setup first second behaviours ops = .ok outs sink) :
    ∃ through, direct setup first second ops = .ok outs through ∧
      sink.device.disk = through.disk := by
  obtain ⟨through, ran', related, prompt⟩ :=
    matched_ok (prompt_runs_match first second behaviours unbuffered kept) ran
  exact ⟨through, ran', disk_of_flushed related prompt.2⟩

/-- Whatever is done with the sink and whatever its buffer does meanwhile, as long as no
file is truncated that something is buffered for: a run that returns also returns
without a buffer, and the files are the same once the stream is flushed and once the
sink is destroyed. Another run fails without a buffer as well, or the process is killed. -/
theorem sinks_agree (setup : SinkSetup) (first second : Opening) (behaviours : List Behaviour)
    (ops : List SinkOperation)
    (spared : NothingDropped setup first second behaviours ops) :
    (∀ outs sink, buffered setup first second behaviours ops = .ok outs sink →
      ∃ through, direct setup first second ops = .ok outs through ∧
        (Flushed sink → sink.device.disk = through.disk) ∧
        ∀ gone, BufferedSink.destroy.run sink = .ok () gone →
          ∃ gone', FileSinkBlock.destroy.run through = .ok () gone' ∧
            gone.device.disk = gone'.disk) ∧
    ∀ fault sink, buffered setup first second behaviours ops = .error fault sink →
      fault = killed ∨ ∃ stopped, direct setup first second ops = .error fault stopped := by
  have matched := runs_match spared
  refine ⟨?_, fun fault sink ran => matched_error matched ran⟩
  intro outs sink ran
  obtain ⟨through, ran', related⟩ := matched_ok matched ran
  exact ⟨through, ran', disk_of_flushed related,
    fun gone ended => matched_ok (destroy_matches related) ended⟩

/-- The file is opened again between two messages, and then installed. -/
def reopened : List SinkOperation :=
  [.message single.pdu, .openFile "out" .succeeds, .message single.pdu, .doUpdate,
    .message single.pdu]

theorem sinks_agree_reopened :
    ∃ outs sink through gone gone',
      buffered unbufferedOut .succeeds .succeeds [] reopened = .ok outs sink ∧
      direct unbufferedOut .succeeds .succeeds reopened = .ok outs through ∧
      sink.device.disk = through.disk ∧
      BufferedSink.destroy.run sink = .ok () gone ∧
      FileSinkBlock.destroy.run through = .ok () gone' ∧
      gone.device.disk = gone'.disk := by
  have kept : .setUnbuffered false ∉ reopened := by simp [reopened]
  obtain ⟨agree, _⟩ := sinks_agree unbufferedOut .succeeds .succeeds [] reopened
    (nothing_dropped_of_unbuffered .succeeds .succeeds [] rfl kept)
  obtain ⟨outs, sink, _, gone, ran, ended⟩ := exists_of_returned_then
    (show returned (andThen (buffered unbufferedOut .succeeds .succeeds [] reopened)
      BufferedSink.destroy) = true by decide +kernel)
  obtain ⟨through, ran', same, destroyed⟩ := agree outs sink ran
  obtain ⟨_, _, _, prompt⟩ :=
    matched_ok (prompt_runs_match .succeeds .succeeds [] rfl kept) ran
  obtain ⟨gone', ended', left⟩ := destroyed gone ended
  exact ⟨outs, sink, through, gone, gone', ran, ran', same prompt.2, ended, ended', left⟩

end GrCompress.WriteThrough
