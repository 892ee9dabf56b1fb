import GrCompress.FileSinkBlock
import GrCompress.FileSourceBlock
import GrCompress.HandleSlots

/-!
# Ownership of file handles

`d_fp` and `d_new_fp` of the sink and of the source are two slots of handles.
Each of their operations is one of those of slots, or leaves the slots alone;
writing and reading records is of the second kind. So the handles of both
blocks are used linearly, whatever the order of the calls and whichever of them
fail.
-/

namespace GrCompress.HandleOwnership

open GrCompress.CallRuns
open GrCompress.CheckedStorage
open GrCompress.OpenFiles
open GrCompress.ZstdCodec
open GrCompress.RecordFormat
open GrCompress.HandleSlots
open GrCompress.FileSinkBlock (FileSink SinkParams WriteOutcome)
open GrCompress.FileSourceBlock (FileSource SourceParams)

set_option autoImplicit false

/-! ## Calls that leave the whole state alone -/

section Storage

variable {State Cell : Type} {state : State}

theorem load_keeps (buffer : Buffer Cell) (offset count : Nat) :
    KeepsAt id state (load buffer offset count : EStateM Fault State (List Cell)) := by
  cases buffer with
  | none => apply keeps_at_throw
  | some array => apply keeps_at_check

theorem store_keeps (buffer : Buffer Cell) (offset : Nat) (cells : List Cell) :
    KeepsAt id state (store buffer offset cells : EStateM Fault State (Buffer Cell)) := by
  cases buffer with
  | none => apply keeps_at_throw
  | some array => apply keeps_at_check

theorem reserve_keeps (buffer : Buffer Cell) (offset capacity : Nat) :
    KeepsAt id state (reserve buffer offset capacity : EStateM Fault State Unit) := by
  cases buffer with
  | none => apply keeps_at_throw
  | some array => apply keeps_at_check

theorem unless_empty_keeps {Out : Type} {count : Nat} {skipped : Out}
    {access : EStateM Fault State Out} (keeps : KeepsAt id state access) :
    KeepsAt id state (unlessEmpty count skipped access) := by
  unfold unlessEmpty
  split
  · apply keeps_at_pure
  · exact keeps

theorem pop_front_keeps (count : Nat) (queue : List Cell) :
    KeepsAt id state (popFront count queue : EStateM Fault State (List Cell × List Cell)) := by
  induction count generalizing queue with
  | zero => apply keeps_at_pure
  | succ count induction =>
      cases queue with
      | nil => apply keeps_at_throw
      | cons front queue =>
          apply keeps_at_read_bind (induction queue)
          intro popped _
          apply keeps_at_pure

theorem fread_keeps (buffer : Buffer Cell) (count : Nat) (file : ReadFile Cell) :
    KeepsAt id state
      (fread buffer count file : EStateM Fault State (Buffer Cell × Nat × ReadFile Cell)) := by
  apply keeps_at_read_bind (reserve_keeps buffer 0 count)
  intro _ _
  apply keeps_at_read_bind (store_keeps buffer 0 _)
  intro _ _
  apply keeps_at_pure

theorem decompress_keeps (zstd : Zstd) (dst : Buffer UInt8) (capacity : Nat) (src : Bytes) :
    KeepsAt id state
      (ZStdDecompressor.decompress zstd dst capacity src :
        EStateM Fault State (Buffer UInt8 × Nat)) := by
  apply keeps_at_read_bind (unless_empty_keeps (reserve_keeps dst 0 capacity))
  intro _ _
  split
  · apply keeps_at_read_bind (unless_empty_keeps (store_keeps dst 0 _))
    intro _ _
    apply keeps_at_pure
  · apply keeps_at_pure

/-- Reading moves the position of a file and keeps its handle. -/
theorem fread_descriptor {buffer : Buffer Cell} {count : Nat} {file : ReadFile Cell} {next : State}
    {out : Buffer Cell × Nat × ReadFile Cell}
    (ran : (fread buffer count file).run state = .ok out next) :
    out.2.2.descriptor = file.descriptor := by
  simp only [fread, EStateM.run_bind] at ran
  split at ran
  · split at ran
    · rw [EStateM.run_pure, EStateM.Result.ok.injEq] at ran
      rw [← ran.1]
      rfl
    · simp at ran
  · simp at ran

end Storage

/-! ## The sink -/

section Sink

def sinkSlots (sink : FileSink) : Slots where
  current := sink.fp.map WriteFile.descriptor
  staged := sink.newFp.map WriteFile.descriptor
  handles := sink.handles

inductive SinkOperation where
  | openFile (name : String) (opening : Opening)
  | close
  | doUpdate
  | setUnbuffered (unbuffered : Bool)
  | stop
  | message (pdu : Pdu)

variable (params : SinkParams)

def sinkOperation : SinkOperation → EStateM Fault FileSink Unit
  | .openFile name opening => do
      let _ ← FileSinkBlock.openFile name opening
  | .close => FileSinkBlock.close
  | .doUpdate => FileSinkBlock.doUpdate
  | .setUnbuffered unbuffered => FileSinkBlock.setUnbuffered unbuffered
  | .stop => do
      let _ ← FileSinkBlock.stop
  | .message pdu => FileSinkBlock.compressedIn params pdu

theorem sink_fwrite_keeps (sink : FileSink) (buffer : Buffer UInt8) (offset size count : Nat) :
    KeepsAt sinkSlots sink (FileSinkBlock.fwrite buffer offset size count) := by
  apply keeps_at_get_bind
  cases installed : sink.fp with
  | none => apply keeps_at_throw
  | some fp =>
      apply keeps_at_read_bind (load_keeps _ _ _)
      intro bytes _
      split
      · apply keeps_at_bind_pure
        apply keeps_at_set
        simp [sinkSlots, installed, WriteFile.advance]
      · apply keeps_at_bind_pure
        apply keeps_at_set
        simp [sinkSlots, installed, WriteFile.advance]

theorem write_loop_keeps (blob : Bytes) (fuel : Nat) (nwritten offset : Int) (sink : FileSink) :
    KeepsAt sinkSlots sink (FileSinkBlock.writeLoop params blob fuel nwritten offset) := by
  induction fuel generalizing nwritten offset sink with
  | zero => apply keeps_at_throw
  | succ fuel induction =>
      unfold FileSinkBlock.writeLoop
      split
      · apply keeps_at_bind (sink_fwrite_keeps sink _ _ _ _)
        intro items next _
        dsimp only
        split
        · apply keeps_at_get_bind
          split
          · apply keeps_at_throw
          · split
            · apply keeps_at_throw
            · apply keeps_at_pure
        · apply induction
      · apply keeps_at_pure

theorem compressed_in_keeps (pdu : Pdu) (sink : FileSink) :
    KeepsAt sinkSlots sink (FileSinkBlock.compressedIn params pdu) := by
  apply keeps_at_get_bind
  split
  · apply keeps_at_pure
  · split
    · apply keeps_at_bind (sink_fwrite_keeps sink _ _ _ _)
      intro _ next _
      apply write_loop_keeps
    · apply write_loop_keeps

theorem sink_open_step (sink : FileSink) (name : String) (opening : Opening) :
    (sinkSlots sink).Step
      (sinkSlots (leave (sinkOperation params) sink (.openFile name opening))) := by
  cases opening with
  | openFails => exact .keep
  | fdopenFails =>
      have staged : sinkSlots (leave (sinkOperation params) sink (.openFile name .fdopenFails)) =
          (sinkSlots sink).stageFails := by
        rcases sink with ⟨fp, newFp⟩
        cases newFp <;> rfl
      rw [staged]
      exact .stageFails
  | succeeds =>
      have staged : sinkSlots (leave (sinkOperation params) sink (.openFile name .succeeds)) =
          (sinkSlots sink).stage := by
        rcases sink with ⟨fp, newFp⟩
        cases newFp <;> rfl
      rw [staged]
      exact .stage

/-- What each operation of the sink does to its slots. -/
theorem sink_step (sink : FileSink) (op : SinkOperation) :
    (sinkSlots sink).Step (sinkSlots (leave (sinkOperation params) sink op)) := by
  cases op with
  | openFile name opening => exact sink_open_step params sink name opening
  | close =>
      have unstaged : sinkSlots (leave (sinkOperation params) sink .close) =
          (sinkSlots sink).unstage := by
        rcases sink with ⟨fp, newFp⟩
        cases newFp <;> rfl
      rw [unstaged]
      exact .unstage
  | doUpdate =>
      have installed : sinkSlots (leave (sinkOperation params) sink .doUpdate) =
          if sink.updated then (sinkSlots sink).install else sinkSlots sink := by
        rcases sink with ⟨fp, newFp, updated⟩
        cases updated <;> cases fp <;> rfl
      rw [installed]
      split
      · exact .install
      · exact .keep
  | setUnbuffered unbuffered => exact .keep
  | stop =>
      have unstaged : sinkSlots (leave (sinkOperation params) sink .stop) =
          (sinkSlots sink).unstage := by
        rcases sink with ⟨fp, newFp⟩
        cases newFp <;> rfl
      rw [unstaged]
      exact .unstage
  | message pdu =>
      have kept : KeepsAt sinkSlots sink (sinkOperation params (.message pdu)) :=
        compressed_in_keeps params pdu sink
      rw [leave_keeps kept]
      exact .keep

/-- The members as initialised, and what the calls of `fwrite` will come to. -/
def sinkStart (append : Bool) (disk : Disk UInt8) (outcomes : List WriteOutcome) : FileSink :=
  { FileSinkBlock.unopened append disk with outcomes := outcomes }

theorem destroy_base_run (sink : FileSink) :
    ∃ after, FileSinkBlock.destroyBase.run sink = .ok () after ∧
      sinkSlots after = (sinkSlots sink).unstage.install := by
  refine ⟨_, rfl, ?_⟩
  rcases sink with ⟨fp, newFp⟩
  cases fp <;> cases newFp <;> rfl

theorem destroy_base_closes {sink : FileSink} (linear : (sinkSlots sink).Linear) :
    ∃ after, FileSinkBlock.destroyBase.run sink = .ok () after ∧
      ClosedOnce (sinkSlots after).handles := by
  obtain ⟨after, ran, slots⟩ := destroy_base_run sink
  refine ⟨after, ran, ?_⟩
  rw [slots]
  exact closed_once_of_linear (install_linear (unstage_linear linear)) rfl rfl

/-- `stop` comes first, and is `close`. -/
theorem destroy_sink_run (sink : FileSink) :
    ∃ after, FileSinkBlock.destroy.run sink = .ok () after ∧
      sinkSlots after = (sinkSlots sink).unstage.unstage.install := by
  refine ⟨_, rfl, ?_⟩
  rcases sink with ⟨fp, newFp⟩
  cases fp <;> cases newFp <;> rfl

theorem destroy_sink_closes {sink : FileSink} (linear : (sinkSlots sink).Linear) :
    ∃ after, FileSinkBlock.destroy.run sink = .ok () after ∧
      ClosedOnce (sinkSlots after).handles := by
  obtain ⟨after, ran, slots⟩ := destroy_sink_run sink
  refine ⟨after, ran, ?_⟩
  rw [slots]
  exact closed_once_of_linear (install_linear (unstage_linear (unstage_linear linear))) rfl rfl

/-- A failing `open` in the base's constructor has closed what it obtained. -/
theorem make_base_linear (append : Bool) (disk : Disk UInt8) (outcomes : List WriteOutcome)
    (name : String) (opening : Opening) :
    ConstructsLinear sinkSlots (sinkStart append disk outcomes)
      (FileSinkBlock.makeBase name opening) := by
  cases opening with
  | openFails => exact .inr ⟨_, _, rfl, closed_once_of_linear empty_linear rfl rfl⟩
  | fdopenFails =>
      exact .inr ⟨_, _, rfl, closed_once_of_linear (stage_fails_linear empty_linear) rfl rfl⟩
  | succeeds => exact .inl ⟨_, rfl, stage_linear empty_linear⟩

/-- The second `open` finds the handle of the first one staged. -/
theorem make_sink_linear (append : Bool) (disk : Disk UInt8) (outcomes : List WriteOutcome)
    (name : String) (unbuffered : Bool) (first second : Opening) :
    ConstructsLinear sinkSlots (sinkStart append disk outcomes)
      (FileSinkBlock.make name unbuffered first second) := by
  have staged : Slots.empty.stage.Linear := stage_linear empty_linear
  cases first with
  | openFails => exact .inr ⟨_, _, rfl, closed_once_of_linear empty_linear rfl rfl⟩
  | fdopenFails =>
      exact .inr ⟨_, _, rfl, closed_once_of_linear (stage_fails_linear empty_linear) rfl rfl⟩
  | succeeds =>
      cases second with
      | openFails => exact .inl ⟨_, rfl, install_linear staged⟩
      | fdopenFails => exact .inl ⟨_, rfl, install_linear (stage_fails_linear staged)⟩
      | succeeds => exact .inl ⟨_, rfl, install_linear (stage_linear staged)⟩

end Sink

/-! ## The source -/

section Source

def sourceSlots (block : FileSource) : Slots where
  current := block.fp.map ReadFile.descriptor
  staged := block.newFp.map ReadFile.descriptor
  handles := block.handles

inductive SourceOperation where
  | openFile (content : Bytes) (opening : Opening) (repeats : Bool)
  | close
  | doUpdate
  | stop
  | seek (seekPoint : Int) (whence : Whence)
  | setBeginTag (present : Bool)
  | work (noutputItems : Nat)

variable (zstd : Zstd) (params : SourceParams)

def sourceOperation : SourceOperation → EStateM Fault FileSource Unit
  | .openFile content opening repeats => FileSourceBlock.openFile content opening repeats
  | .close => FileSourceBlock.close
  | .doUpdate => FileSourceBlock.doUpdate
  | .stop => do
      let _ ← FileSourceBlock.stop
  | .seek seekPoint whence => do
      let _ ← FileSourceBlock.seek params seekPoint whence
  | .setBeginTag present => FileSourceBlock.setBeginTag present
  | .work noutputItems => do
      let _ ← FileSourceBlock.work zstd params noutputItems

/-- The slots, and whether an update is due. -/
def sourceStaging (block : FileSource) : Slots × Bool := (sourceSlots block, block.updated)

theorem slots_of_staging {block : FileSource} {staging : Slots × Bool}
    (same : sourceStaging block = staging) : sourceSlots block = staging.1 :=
  congrArg Prod.fst same

theorem read_header_keeps (block : FileSource) :
    KeepsAt sourceStaging block FileSourceBlock.readHeader := by
  apply keeps_at_get_bind
  cases installed : block.fp with
  | none => apply keeps_at_throw
  | some fp =>
      apply keeps_at_read_bind (fread_keeps _ _ _)
      intro out ran
      have descriptor := fread_descriptor ran
      apply keeps_at_set_bind
      · simp [sourceStaging, sourceSlots, installed, descriptor]
      · split
        · apply keeps_at_pure
        · apply keeps_at_read_bind (load_keeps _ _ _)
          intro header _
          apply keeps_at_pure

theorem read_payload_keeps (header : CompressionHeader) (block : FileSource) :
    KeepsAt sourceStaging block (FileSourceBlock.readPayload zstd header) := by
  apply keeps_at_get_bind
  cases installed : block.fp with
  | none => apply keeps_at_throw
  | some fp =>
      apply keeps_at_read_bind (fread_keeps _ _ _)
      intro out ran
      have descriptor := fread_descriptor ran
      apply keeps_at_set_bind
      · simp [sourceStaging, sourceSlots, installed, descriptor]
      · split
        · apply keeps_at_read_bind (load_keeps _ _ _)
          intro source _
          apply keeps_at_read_bind (decompress_keeps _ _ _ _)
          intro decompressed _
          apply keeps_at_read_bind (load_keeps _ _ _)
          intro plain _
          apply keeps_at_set_bind
          · simp [sourceStaging, sourceSlots]
          · apply keeps_at_pure
        · apply keeps_at_pure

theorem read_record_keeps (block : FileSource) :
    KeepsAt sourceStaging block (FileSourceBlock.readRecord zstd) := by
  apply keeps_at_bind (read_header_keeps block)
  intro header next _
  split
  · apply keeps_at_pure
  · apply keeps_at_bind
    · apply keeps_at_modify
      rfl
    · intro _ grown _
      apply read_payload_keeps

theorem read_loop_keeps (noi fuel : Nat) (block : FileSource) :
    KeepsAt sourceStaging block (FileSourceBlock.readLoop zstd noi fuel) := by
  induction fuel generalizing block with
  | zero => apply keeps_at_throw
  | succ fuel induction =>
      apply keeps_at_get_bind
      split
      · apply keeps_at_bind (read_record_keeps zstd block)
        intro more next _
        split
        · apply induction
        · apply keeps_at_pure
      · apply keeps_at_pure

theorem serve_keeps (noutputItems noi : Nat) (block : FileSource) :
    KeepsAt sourceStaging block (FileSourceBlock.serve noutputItems noi) := by
  apply keeps_at_get_bind
  apply keeps_at_read_bind (pop_front_keeps _ _)
  intro popped _
  apply keeps_at_set_bind
  · simp [sourceStaging, sourceSlots]
  · apply keeps_at_pure

theorem end_of_file_keeps (block : FileSource) :
    KeepsAt sourceStaging block FileSourceBlock.endOfFile := by
  have rewound : block.fp.map (ReadFile.descriptor ∘ ReadFile.rewind) =
      block.fp.map ReadFile.descriptor := rfl
  apply keeps_at_get_bind
  split
  · apply keeps_at_pure
  · apply keeps_at_set_bind
    · simp [sourceStaging, sourceSlots, rewound]
    · split
      · apply keeps_at_bind_pure
        apply keeps_at_modify
        simp [sourceStaging, sourceSlots]
      · apply keeps_at_pure

/-- What `work` does after its `do_update`. -/
def afterUpdate (noutputItems : Nat) : EStateM Fault FileSource StreamOutput := do
  let block ← get
  match block.fp with
  | none => throw (.exception "work with file not open")
  | some fp =>
      if noutputItems * params.itemsize ≤ block.byteQueue.length then
        FileSourceBlock.serve noutputItems (noutputItems * params.itemsize)
      else if ← FileSourceBlock.readLoop zstd (noutputItems * params.itemsize)
          (fp.remaining.length + 1) then
        FileSourceBlock.serve noutputItems (noutputItems * params.itemsize)
      else
        FileSourceBlock.endOfFile

theorem after_update_keeps (noutputItems : Nat) (block : FileSource) :
    KeepsAt sourceStaging block (afterUpdate zstd params noutputItems) := by
  apply keeps_at_get_bind
  split
  · apply keeps_at_throw
  · split
    · apply serve_keeps
    · apply keeps_at_bind (read_loop_keeps zstd _ _ block)
      intro reached next _
      split
      · apply serve_keeps
      · apply end_of_file_keeps

theorem seek_keeps (seekPoint : Int) (whence : Whence) (block : FileSource) :
    KeepsAt sourceStaging block (FileSourceBlock.seek params seekPoint whence) := by
  apply keeps_at_get_bind
  cases installed : block.fp with
  | none => apply keeps_at_throw
  | some fp =>
      dsimp only
      split
      · apply keeps_at_pure
      · rename_i moved sought
        have descriptor := seek_descriptor sought
        apply keeps_at_set_bind
        · simp [sourceStaging, sourceSlots, installed, descriptor]
        · apply keeps_at_pure

theorem leave_seek (seekPoint : Int) (whence : Whence) (block : FileSource) :
    sourceStaging (leave (sourceOperation zstd params) block (.seek seekPoint whence)) =
      sourceStaging block := by
  apply leave_keeps
  apply keeps_at_bind_pure
  apply seek_keeps

theorem leave_do_update (block : FileSource) :
    sourceStaging (leave (sourceOperation zstd params) block .doUpdate) =
      if block.updated then ((sourceSlots block).install, false) else sourceStaging block := by
  rcases block with ⟨queue, localWriteBuffer, compressedBuffer, fp, newFp, repeats, updated⟩
  cases updated <;> cases fp <;> rfl

/-- `work` does to the slots what `do_update` does. -/
theorem leave_work (noutputItems : Nat) (block : FileSource) :
    sourceStaging (leave (sourceOperation zstd params) block (.work noutputItems)) =
      sourceStaging (leave (sourceOperation zstd params) block .doUpdate) := by
  have behind : leave (sourceOperation zstd params) block (.work noutputItems) =
      leave (fun count => do let _ ← afterUpdate zstd params count)
        (leave (sourceOperation zstd params) block .doUpdate) noutputItems := rfl
  rw [behind]
  apply leave_keeps
  apply keeps_at_bind_pure
  apply after_update_keeps

theorem source_open_step (block : FileSource) (content : Bytes) (opening : Opening)
    (repeats : Bool) :
    (sourceSlots block).Step (sourceSlots
      (leave (sourceOperation zstd params) block (.openFile content opening repeats))) := by
  cases opening with
  | openFails => exact .keep
  | fdopenFails =>
      have staged : sourceSlots (leave (sourceOperation zstd params) block
          (.openFile content .fdopenFails repeats)) = (sourceSlots block).stageFails := by
        rcases block with ⟨queue, localWriteBuffer, compressedBuffer, fp, newFp⟩
        cases newFp <;> rfl
      rw [staged]
      exact .stageFails
  | succeeds =>
      have staged : sourceSlots (leave (sourceOperation zstd params) block
          (.openFile content .succeeds repeats)) = (sourceSlots block).stage := by
        rcases block with ⟨queue, localWriteBuffer, compressedBuffer, fp, newFp⟩
        cases newFp <;> rfl
      rw [staged]
      exact .stage

theorem source_update_step (block : FileSource) :
    (sourceSlots block).Step
      (sourceSlots (leave (sourceOperation zstd params) block .doUpdate)) := by
  rw [slots_of_staging (leave_do_update zstd params block), apply_ite Prod.fst]
  split
  · exact .install
  · exact .keep

/-- What each operation of the source does to its slots. -/
theorem source_step (block : FileSource) (op : SourceOperation) :
    (sourceSlots block).Step (sourceSlots (leave (sourceOperation zstd params) block op)) := by
  cases op with
  | openFile content opening repeats =>
      exact source_open_step zstd params block content opening repeats
  | close =>
      have unstaged : sourceSlots (leave (sourceOperation zstd params) block .close) =
          (sourceSlots block).unstage := by
        rcases block with ⟨queue, localWriteBuffer, compressedBuffer, fp, newFp⟩
        cases newFp <;> rfl
      rw [unstaged]
      exact .unstage
  | doUpdate => exact source_update_step zstd params block
  | stop =>
      have released : sourceSlots (leave (sourceOperation zstd params) block .stop) =
          (sourceSlots block).release := by
        rcases block with ⟨queue, localWriteBuffer, compressedBuffer, fp, newFp⟩
        cases fp <;> cases newFp <;> rfl
      rw [released]
      exact .release
  | seek seekPoint whence =>
      rw [slots_of_staging (leave_seek zstd params seekPoint whence block)]
      exact .keep
  | setBeginTag present => exact .keep
  | work noutputItems =>
      rw [slots_of_staging (leave_work zstd params noutputItems block)]
      exact source_update_step zstd params block

theorem destroy_source_run (block : FileSource) :
    ∃ after, FileSourceBlock.destroy.run block = .ok () after ∧
      sourceSlots after = (sourceSlots block).release := by
  refine ⟨_, rfl, ?_⟩
  rcases block with ⟨queue, localWriteBuffer, compressedBuffer, fp, newFp⟩
  cases fp <;> cases newFp <;> rfl

theorem destroy_source_closes {block : FileSource} (linear : (sourceSlots block).Linear) :
    ∃ after, FileSourceBlock.destroy.run block = .ok () after ∧
      ClosedOnce (sourceSlots after).handles := by
  obtain ⟨after, ran, slots⟩ := destroy_source_run block
  refine ⟨after, ran, ?_⟩
  rw [slots]
  exact closed_once_of_linear (release_linear linear) rfl rfl

theorem make_source_linear (content : Bytes) (opening : Opening) (repeats : Bool) :
    ConstructsLinear sourceSlots (FileSourceBlock.unopened repeats)
      (FileSourceBlock.make content opening repeats) := by
  cases opening with
  | openFails => exact .inr ⟨_, _, rfl, closed_once_of_linear empty_linear rfl rfl⟩
  | fdopenFails =>
      exact .inr ⟨_, _, rfl, closed_once_of_linear (stage_fails_linear empty_linear) rfl rfl⟩
  | succeeds => exact .inl ⟨_, rfl, install_linear (stage_linear empty_linear)⟩

end Source

/-! ## Linear use -/

/-- The base of the sink, the sink and the source use their handles linearly,
however the calls that open a file come out. -/
theorem handles_used_linearly :
    (∀ (params : SinkParams) (append : Bool) (disk : Disk UInt8) (outcomes : List WriteOutcome)
      (name : String) (opening : Opening),
      UsedLinearly sinkSlots (sinkStart append disk outcomes)
        (FileSinkBlock.makeBase name opening) (sinkOperation params)
        FileSinkBlock.destroyBase) ∧
    (∀ (params : SinkParams) (append : Bool) (disk : Disk UInt8) (outcomes : List WriteOutcome)
      (name : String) (unbuffered : Bool) (first second : Opening),
      UsedLinearly sinkSlots (sinkStart append disk outcomes)
        (FileSinkBlock.make name unbuffered first second) (sinkOperation params)
        FileSinkBlock.destroy) ∧
    ∀ (zstd : Zstd) (params : SourceParams) (content : Bytes) (opening : Opening) (repeats : Bool),
      UsedLinearly sourceSlots (FileSourceBlock.unopened repeats)
        (FileSourceBlock.make content opening repeats) (sourceOperation zstd params)
        FileSourceBlock.destroy := by
  refine ⟨?_, ?_, ?_⟩
  · intro params append disk outcomes name opening
    apply used_linearly (make_base_linear append disk outcomes name opening) (sink_step params)
    intro sink linear
    exact destroy_base_closes linear
  · intro params append disk outcomes name unbuffered first second
    apply used_linearly (make_sink_linear append disk outcomes name unbuffered first second)
      (sink_step params)
    intro sink linear
    exact destroy_sink_closes linear
  · intro zstd params content opening repeats
    apply used_linearly (make_source_linear content opening repeats) (source_step zstd params)
    intro block linear
    exact destroy_source_closes linear

end GrCompress.HandleOwnership
