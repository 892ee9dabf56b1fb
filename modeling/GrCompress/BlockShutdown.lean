import GrCompress.CompressBlock
import GrCompress.FileSourceBlock
import GrCompress.StoredFrameCodec

/-!
# Stopping the blocks

What `stop` leaves behind. `compress_impl::stop` frees the codec and both
buffers and neither compresses what is pending nor resets its length; the file
source closes its file. The first part settles which samples are lost, the
second which calls of `work` still succeed afterwards.
-/

namespace GrCompress.BlockShutdown

open GrCompress.CallRuns
open GrCompress.CheckedStorage
open GrCompress.OpenFiles
open GrCompress.ThresholdBatching
open GrCompress.ZstdCodec
open GrCompress.RecordFormat
open GrCompress.CompressBlock
open GrCompress.FileSourceBlock (FileSource SourceParams Playback Plays)
open GrCompress.StoredFrameCodec

set_option autoImplicit false

variable {zstd : Zstd} (params : CompressParams)

/-- What `stop` does to each member. -/
def stopped (block : CompressImpl zstd) : CompressImpl zstd where
  pCompressor := none
  compressedBuffer := none
  compressedBufferSize := if block.compressedBuffer.isSome then 0 else block.compressedBufferSize
  localWriteBuffer := none
  localWriteBufferSize := if block.localWriteBuffer.isSome then 0 else block.localWriteBufferSize
  localWriteBufferNextIndex := block.localWriteBufferNextIndex

theorem stop_run (block : CompressImpl zstd) :
    CompressBlock.stop.run block = .ok true (stopped block) := by
  rcases block with ⟨codec, compressedBuffer, compressedSize, localBuffer, localSize, index⟩
  cases codec <;> cases compressedBuffer <;> cases localBuffer <;> rfl

/-! ## The samples pending at shutdown -/

/-- `work` for each chunk, then `stop`. -/
def recording (zstd : Zstd) (chunks : List (Chunk params.itemsize)) :
    EStateM.Result Fault (CompressImpl zstd) (List MessageOutput) :=
  (do
    let outputs ← runAll (CompressBlock.work params) chunks
    let _ ← CompressBlock.stop
    return outputs).run (CompressBlock.make params zstd)

/-- How many bytes the chunks leave pending, from their sizes alone. -/
def leftPending (chunks : List (Chunk params.itemsize)) : Nat :=
  pendingLength params.compressionBlockSize.value 0
    (chunks.map fun chunk => chunk.noutputItems * params.itemsize.value)

theorem batches_left_pending (chunks : List (Chunk params.itemsize)) :
    (batches params chunks).2.length = leftPending params chunks := by
  have sizes : (chunks.map Chunk.bytes).map List.length =
      chunks.map fun chunk => chunk.noutputItems * params.itemsize.value := by
    rw [List.map_map]
    exact List.map_congr_left fun chunk _ => chunk.length_eq
  rw [batches, batch_pending_length, sizes, List.length_nil, leftPending]

/-- The messages of a recording decompress to what was consumed, up to the bytes
left pending. -/
theorem recording_messages (succeeds : zstd.CompressSucceeds) (roundTrips : zstd.RoundTrips)
    {chunks : List (Chunk params.itemsize)} {outputs : List MessageOutput}
    {final : CompressImpl zstd} (ran : recording params zstd chunks = .ok outputs final) :
    messagesBytes zstd (publishedMessages outputs) ++ (batches params chunks).2 =
      consumedBytes params chunks := by
  cases worked : (runAll (CompressBlock.work params) chunks).run
      (CompressBlock.make params zstd) with
  | error fault at_fault => simp [recording, EStateM.run_bind, worked] at ran
  | ok outputs' block =>
      simp only [recording, EStateM.run_bind, worked, stop_run, EStateM.run_pure,
        EStateM.Result.ok.injEq] at ran
      rcases ran with ⟨rfl, _⟩
      have invariant := work_run_returned params succeeds worked
      rw [messages_bytes_published params roundTrips invariant.published, batches_conserve]

theorem recording_total (succeeds : zstd.CompressSucceeds) (chunks : List (Chunk params.itemsize))
    (fits : ∀ chunk ∈ chunks, chunk.Fits) :
    ∃ outputs final, recording params zstd chunks = .ok outputs final := by
  obtain ⟨outputs, final, worked, _⟩ := work_run_total params succeeds chunks fits
  refine ⟨outputs, stopped final, ?_⟩
  simp only [recording, EStateM.run_bind, worked, stop_run, EStateM.run_pure]

/-- No sample is lost exactly when the chunks leave nothing pending; and every
recording whose chunk sizes fit in `int` completes. -/
theorem stop_keeps_samples_iff (succeeds : zstd.CompressSucceeds) (roundTrips : zstd.RoundTrips)
    (chunks : List (Chunk params.itemsize)) :
    (∀ outputs final, recording params zstd chunks = .ok outputs final →
        (messagesBytes zstd (publishedMessages outputs) = consumedBytes params chunks ↔
          leftPending params chunks = 0)) ∧
      ((∀ chunk ∈ chunks, chunk.Fits) →
        ∃ outputs final, recording params zstd chunks = .ok outputs final) := by
  refine ⟨?_, recording_total params succeeds chunks⟩
  intro outputs final ran
  have conserved := recording_messages params succeeds roundTrips ran
  rw [← batches_left_pending, List.length_eq_zero_iff]
  constructor
  · intro all
    rw [← all] at conserved
    exact List.append_right_eq_self.1 conserved
  · intro none_pending
    rwa [none_pending, List.append_nil] at conserved

/-- Block size 10, items of one byte, no header. -/
def blocksOfTen : CompressParams where
  itemsize := .one
  compressionBlockSize := ⟨10, by decide, by decide⟩
  numThreads := 4
  addHeader := false

/-- One item, then `stop`: no message is published and the item is lost. -/
theorem stop_loses_one_item :
    ∃ outputs final,
      recording blocksOfTen storedZstd [⟨1, [0x41], rfl⟩] = .ok outputs final ∧
      messagesBytes storedZstd (publishedMessages outputs) ≠
        consumedBytes blocksOfTen [⟨1, [0x41], rfl⟩] := by
  obtain ⟨outputs, final, ran⟩ := recording_total blocksOfTen stored_compress_succeeds
    [⟨1, [0x41], rfl⟩] (List.forall_mem_singleton.2 (by decide))
  refine ⟨outputs, final, ran, ?_⟩
  intro all
  have conserved := recording_messages blocksOfTen stored_compress_succeeds stored_round_trips ran
  rw [← all] at conserved
  have pending : (batches blocksOfTen [⟨1, [0x41], rfl⟩]).2 = [0x41] := rfl
  rw [List.append_right_eq_self.1 conserved] at pending
  simp at pending

/-- Twelve items at once fill a block and leave nothing. -/
theorem stop_keeps_samples_iff_twelve_items :
    ∃ outputs final,
      recording blocksOfTen storedZstd [⟨12, List.replicate 12 0x41, rfl⟩] = .ok outputs final ∧
      messagesBytes storedZstd (publishedMessages outputs) =
        consumedBytes blocksOfTen [⟨12, List.replicate 12 0x41, rfl⟩] := by
  obtain ⟨law, total⟩ := stop_keeps_samples_iff blocksOfTen stored_compress_succeeds
    stored_round_trips [⟨12, List.replicate 12 0x41, rfl⟩]
  obtain ⟨outputs, final, ran⟩ := total (List.forall_mem_singleton.2 (by decide))
  exact ⟨outputs, final, ran, (law outputs final ran).2 rfl⟩

/-! ## The compress block after a stop -/

inductive CompressCall where
  | work (chunk : Chunk params.itemsize)
  | stop

def compressCall : CompressCall params → EStateM Fault (CompressImpl zstd) Unit
  | .work chunk => do
      let _ ← CompressBlock.work params chunk
      return ()
  | .stop => do
      let _ ← CompressBlock.stop
      return ()

/-- Where a block stands: not stopped yet, just stopped, or called since the last stop. -/
inductive Stage where
  | running
  | stopped
  | resumed
  deriving DecidableEq, Repr

variable {params}

def Stage.next : Stage → CompressCall params → Stage
  | _, .stop => .stopped
  | .running, .work _ => .running
  | .stopped, .work _ | .resumed, .work _ => .resumed

def stageAfter (calls : List (CompressCall params)) : Stage := calls.foldl Stage.next .running

/-- The bytes pending after some calls, from the chunk sizes: `stop` does not change them. -/
def pendingNext (pending : Nat) : CompressCall params → Nat
  | .stop => pending
  | .work chunk =>
      pushLength params.compressionBlockSize.value pending
        (chunk.noutputItems * params.itemsize.value)

def pendingAfter (calls : List (CompressCall params)) : Nat := calls.foldl pendingNext 0

/-- After a stop, the first chunk must find nothing pending and must not be
empty, and no chunk may fill a block. -/
def CompressAllowed (earlier : List (CompressCall params)) : CompressCall params → Prop
  | .stop => True
  | .work chunk => chunk.Fits ∧
      (stageAfter earlier = .stopped → pendingAfter earlier = 0 ∧ chunk.noutputItems ≠ 0) ∧
      (stageAfter earlier ≠ .running →
        pendingAfter earlier + chunk.noutputItems * params.itemsize.value <
          params.compressionBlockSize.value)

@[simp] theorem stage_after_snoc (calls : List (CompressCall params)) (call : CompressCall params) :
    stageAfter (calls ++ [call]) = (stageAfter calls).next call := by
  simp [stageAfter]

@[simp] theorem pending_after_snoc (calls : List (CompressCall params))
    (call : CompressCall params) :
    pendingAfter (calls ++ [call]) = pendingNext (pendingAfter calls) call := by
  simp [pendingAfter]

variable (params)

/-- The members that matter at each stage. -/
def AtStage (block : CompressImpl zstd) (pending : Nat) : Stage → Prop
  | .running => ∃ bytes, CompressBlock.Invariant params block bytes ∧ bytes.length = pending
  | .stopped => block.pCompressor = none ∧ block.localWriteBuffer = none ∧
      block.localWriteBufferSize = 0 ∧ block.localWriteBufferNextIndex = pending
  | .resumed => block.pCompressor = none ∧ ∃ bytes, Pending block bytes ∧ bytes.length = pending

/-- Compressing needs the codec object. -/
theorem flush_without_codec {block : CompressImpl zstd} (freed : block.pCompressor = none)
    (queueSize : Nat) : (flush params queueSize).run block = .error .nullPointer block := by
  simp only [flush, growCompressedBuffer, EStateM.run_bind, EStateM.run_get, freed]
  rfl

/-- Without a codec, a chunk can only be added to what is pending. -/
theorem work_without_codec {block queued : CompressImpl zstd} {chunk : Chunk params.itemsize}
    {queueSize : Nat} (enqueued : (enqueue params chunk).run block = .ok queueSize queued)
    (freed : queued.pCompressor = none) :
    (compressCall params (.work chunk)).run block =
      if params.compressionBlockSize.value ≤ queueSize then .error .nullPointer queued
      else .ok () queued := by
  by_cases reaches : params.compressionBlockSize.value ≤ queueSize
  · simp only [compressCall, CompressBlock.work, EStateM.run_bind, enqueued, if_pos reaches,
      flush_without_codec params freed]
  · simp only [compressCall, CompressBlock.work, EStateM.run_bind, enqueued, if_neg reaches,
      EStateM.run_pure]

/-- With its buffer freed, the block can queue a chunk only if nothing is pending
and the chunk makes it allocate a buffer. -/
theorem enqueue_stopped {block : CompressImpl zstd} {chunk : Chunk params.itemsize}
    (size : block.localWriteBufferSize = 0) (empty : block.localWriteBufferNextIndex = 0)
    (fits : chunk.Fits) (nonempty : 0 < chunk.bytes.length) :
    ∃ after, (enqueue params chunk).run block = .ok chunk.bytes.length after ∧
      Pending after chunk.bytes ∧ after.pCompressor = block.pCompressor := by
  have product : chunk.noutputItems * params.itemsize.value = chunk.bytes.length :=
    chunk.length_eq.symm
  have incoming : 0 + chunk.bytes.length ≤ chunk.bytes.length := by omega
  have stored : 0 + chunk.bytes.length ≤
      (List.replicate chunk.bytes.length (default : UInt8)).length := by simp
  refine ⟨{ block with
      localWriteBuffer := some (overwrite (List.replicate chunk.bytes.length default) 0 chunk.bytes)
      localWriteBufferSize := chunk.bytes.length
      localWriteBufferNextIndex := chunk.bytes.length }, ?_,
    ⟨⟨_, rfl, ?_, take_overwrite_zero _ _⟩, rfl, Nat.le_refl _⟩, rfl⟩
  · simp only [enqueue, growLocalWriteBuffer, EStateM.run_bind, int_product_fits fits, product,
      EStateM.run_get, empty, size, Nat.zero_add, if_pos nonempty, Nat.lt_irrefl, if_false,
      allocate, EStateM.run_pure, EStateM.run_set, load_some incoming, List.drop_zero,
      List.take_length, store_some stored]
  · rw [length_overwrite stored, List.length_replicate]

/-- Otherwise it reads or writes through the null pointer. -/
theorem enqueue_stopped_faults {block : CompressImpl zstd} {chunk : Chunk params.itemsize}
    (released : block.localWriteBuffer = none) (size : block.localWriteBufferSize = 0)
    (fits : chunk.Fits)
    (unusable : 0 < block.localWriteBufferNextIndex ∨ chunk.bytes.length = 0) :
    ∃ after, (enqueue params chunk).run block = .error .nullPointer after := by
  have product : chunk.noutputItems * params.itemsize.value = chunk.bytes.length :=
    chunk.length_eq.symm
  have incoming : 0 + chunk.bytes.length ≤ chunk.bytes.length := by omega
  refine ⟨block, ?_⟩
  by_cases pending : 0 < block.localWriteBufferNextIndex
  · have grows : 0 < block.localWriteBufferNextIndex + chunk.bytes.length := by omega
    simp only [enqueue, growLocalWriteBuffer, EStateM.run_bind, int_product_fits fits, product,
      EStateM.run_get, size, if_pos grows, if_pos pending, released]
    rfl
  · have stays : ¬0 < block.localWriteBufferNextIndex + chunk.bytes.length := by omega
    simp only [enqueue, growLocalWriteBuffer, EStateM.run_bind, int_product_fits fits, product,
      EStateM.run_get, size, if_neg stays, EStateM.run_pure, load_some incoming, released]
    rfl

/-- The first chunk after a stop, where nothing is pending. -/
theorem work_stopped {block : CompressImpl zstd} (atStage : AtStage params block 0 .stopped)
    (chunk : Chunk params.itemsize) (fits : chunk.Fits) (nonempty : 0 < chunk.bytes.length) :
    ∃ after, AtStage params after chunk.bytes.length .resumed ∧
      (compressCall params (.work chunk)).run block =
        if params.compressionBlockSize.value ≤ chunk.bytes.length then .error .nullPointer after
        else .ok () after := by
  rcases atStage with ⟨freed, _, size, index⟩
  obtain ⟨after, enqueued, holds, codec⟩ := enqueue_stopped params size index fits nonempty
  have stillFreed := codec.trans freed
  exact ⟨after, ⟨stillFreed, chunk.bytes, holds, rfl⟩,
    work_without_codec params enqueued stillFreed⟩

theorem work_resumed {block : CompressImpl zstd} {pending : Nat}
    (atStage : AtStage params block pending .resumed) (chunk : Chunk params.itemsize)
    (fits : chunk.Fits) :
    ∃ after, AtStage params after (pending + chunk.bytes.length) .resumed ∧
      (compressCall params (.work chunk)).run block =
        if params.compressionBlockSize.value ≤ pending + chunk.bytes.length then
          .error .nullPointer after
        else .ok () after := by
  rcases atStage with ⟨freed, bytes, holds, rfl⟩
  obtain ⟨after, enqueued, next, codec, _⟩ := enqueue_run params holds chunk fits
  have stillFreed := codec.trans freed
  exact ⟨after, ⟨stillFreed, bytes ++ chunk.bytes, next, List.length_append⟩,
    work_without_codec params enqueued stillFreed⟩

theorem stop_at_stage {block : CompressImpl zstd} {pending : Nat} {stage : Stage}
    (atStage : AtStage params block pending stage) :
    (compressCall params .stop).run block = .ok () (stopped block) ∧
      AtStage params (stopped block) pending .stopped := by
  have ran : (compressCall params .stop).run block = .ok () (stopped block) := by
    simp only [compressCall, EStateM.run_bind, stop_run, EStateM.run_pure]
  refine ⟨ran, rfl, rfl, ?_, ?_⟩
  · cases stage with
    | running =>
        rcases atStage with ⟨bytes, invariant, _⟩
        rcases invariant.holds.buffer with ⟨array, allocated, _⟩
        simp [stopped, allocated]
    | stopped =>
        rcases atStage with ⟨_, released, size, _⟩
        simp [stopped, released, size]
    | resumed =>
        rcases atStage with ⟨_, bytes, holds, _⟩
        rcases holds.buffer with ⟨array, allocated, _⟩
        simp [stopped, allocated]
  · cases stage with
    | running =>
        rcases atStage with ⟨bytes, invariant, length⟩
        exact invariant.holds.index.trans length
    | stopped => exact atStage.2.2.2
    | resumed =>
        rcases atStage with ⟨_, bytes, holds, length⟩
        exact holds.index.trans length

theorem pending_next_work (pending : Nat) (chunk : Chunk params.itemsize)
    (below : pending + chunk.bytes.length < params.compressionBlockSize.value) :
    pendingNext pending (.work chunk) = pending + chunk.bytes.length := by
  rw [pendingNext, ← chunk.length_eq, pushLength, if_neg (by omega)]

/-- An allowed call returns and the stage is the next one. -/
theorem compress_call_returns (succeeds : zstd.CompressSucceeds)
    (earlier : List (CompressCall params)) (block : CompressImpl zstd)
    (call : CompressCall params)
    (atStage : AtStage params block (pendingAfter earlier) (stageAfter earlier))
    (allowed : CompressAllowed earlier call) :
    ∃ out after, (compressCall params call).run block = .ok out after ∧
      AtStage params after (pendingAfter (earlier ++ [call])) (stageAfter (earlier ++ [call])) := by
  rw [pending_after_snoc, stage_after_snoc]
  cases call with
  | stop =>
      obtain ⟨ran, next⟩ := stop_at_stage params atStage
      exact ⟨(), stopped block, ran, next⟩
  | work chunk =>
      rcases allowed with ⟨fits, first, below⟩
      cases stage : stageAfter earlier with
      | running =>
          rw [stage] at atStage
          rcases atStage with ⟨bytes, invariant, length⟩
          obtain ⟨output, after, ran, _, _, next⟩ :=
            CompressBlock.work_run params succeeds invariant chunk fits
          refine ⟨(), after, ?_, _, next, ?_⟩
          · simp only [compressCall, EStateM.run_bind, ran, EStateM.run_pure]
          · rw [push_length, length, chunk.length_eq, pendingNext]
      | stopped =>
          obtain ⟨nothing, items⟩ := first stage
          have room := below (by simp [stage])
          rw [stage, nothing] at atStage
          have nonempty : 0 < chunk.bytes.length := by
            rw [chunk.length_eq]
            exact Nat.mul_pos (Nat.pos_of_ne_zero items) params.itemsize.positive
          obtain ⟨after, next, ran⟩ := work_stopped params atStage chunk fits nonempty
          rw [nothing, Nat.zero_add, ← chunk.length_eq] at room
          rw [if_neg (by omega)] at ran
          refine ⟨(), after, ran, ?_⟩
          rw [nothing, pending_next_work params 0 chunk (by rwa [Nat.zero_add]), Nat.zero_add]
          exact next
      | resumed =>
          have room := below (by simp [stage])
          rw [stage] at atStage
          obtain ⟨after, next, ran⟩ := work_resumed params atStage chunk fits
          rw [← chunk.length_eq] at room
          rw [if_neg (by omega)] at ran
          refine ⟨(), after, ran, ?_⟩
          rw [pending_next_work params (pendingAfter earlier) chunk room]
          exact next

/-- A call that is not allowed overflows or uses what `stop` has freed. -/
theorem compress_call_fails (earlier : List (CompressCall params)) (block : CompressImpl zstd)
    (call : CompressCall params)
    (atStage : AtStage params block (pendingAfter earlier) (stageAfter earlier))
    (refused : ¬CompressAllowed earlier call) :
    ∃ fault at_fault, (compressCall params call).run block = .error fault at_fault := by
  cases call with
  | stop => exact absurd trivial refused
  | work chunk =>
      by_cases fits : chunk.Fits
      · cases stage : stageAfter earlier with
        | running => simp [CompressAllowed, stage, fits] at refused
        | stopped =>
            by_cases usable : pendingAfter earlier = 0 ∧ 0 < chunk.bytes.length
            · rcases usable with ⟨nothing, nonempty⟩
              rw [stage, nothing] at atStage
              obtain ⟨after, _, ran⟩ := work_stopped params atStage chunk fits nonempty
              have items : chunk.noutputItems ≠ 0 := by
                intro none_items
                have length := chunk.length_eq
                rw [none_items, Nat.zero_mul] at length
                omega
              have full : params.compressionBlockSize.value ≤ chunk.bytes.length := by
                simpa [CompressAllowed, stage, nothing, fits, items, ← chunk.length_eq]
                  using refused
              rw [if_pos full] at ran
              exact ⟨_, _, ran⟩
            · rw [stage] at atStage
              rcases atStage with ⟨_, released, size, index⟩
              obtain ⟨after, faulted⟩ := enqueue_stopped_faults params released size fits
                (by rw [index]; omega)
              refine ⟨.nullPointer, after, ?_⟩
              simp only [compressCall, CompressBlock.work, EStateM.run_bind, faulted]
        | resumed =>
            rw [stage] at atStage
            obtain ⟨after, _, ran⟩ := work_resumed params atStage chunk fits
            have full : params.compressionBlockSize.value ≤
                pendingAfter earlier + chunk.bytes.length := by
              simpa [CompressAllowed, stage, fits, ← chunk.length_eq] using refused
            rw [if_pos full] at ran
            exact ⟨_, _, ran⟩
      · have overflows := CompressBlock.work_overflows params block chunk fits
        refine ⟨.signedOverflow, block, ?_⟩
        simp only [compressCall, EStateM.run_bind, overflows]

theorem compress_restart_iff (succeeds : zstd.CompressSucceeds)
    (calls : List (CompressCall params)) :
    (∃ outs final,
        (runAll (compressCall params) calls).run (CompressBlock.make params zstd) =
          .ok outs final) ↔
      ∀ earlier call, earlier ++ [call] <+: calls → CompressAllowed earlier call :=
  run_all_ok_iff (compressCall params)
    (fun earlier block => AtStage params block (pendingAfter earlier) (stageAfter earlier))
    CompressAllowed
    (fun earlier block call => compress_call_returns params succeeds earlier block call)
    (fun earlier block call => compress_call_fails params earlier block call) calls _
    ⟨[], CompressBlock.make_invariant params, rfl⟩

/-! ## The file source after a stop -/

inductive SourceCall where
  | work (noutputItems : Nat)
  | stop
  deriving DecidableEq, Repr

def sourceCall (zstd : Zstd) (source : SourceParams) :
    SourceCall → EStateM Fault FileSource Unit
  | .work noutputItems => do
      let _ ← FileSourceBlock.work zstd source noutputItems
      return ()
  | .stop => do
      let _ ← FileSourceBlock.stop
      return ()

def SourceAllowed (earlier : List SourceCall) (call : SourceCall) : Prop :=
  call = .stop ∨ .stop ∉ earlier

/-- Before a stop the source plays its file; after one it has none. -/
def SourceAfter (content : Bytes) (repeats : Bool) (earlier : List SourceCall)
    (block : FileSource) : Prop :=
  if .stop ∈ earlier then block.fp = none ∧ block.newFp = none
  else ∃ playback, Plays content repeats block playback

theorem source_stop_run (block : FileSource) :
    ∃ after, FileSourceBlock.stop.run block = .ok true after ∧
      after.fp = none ∧ after.newFp = none := ⟨_, rfl, rfl, rfl⟩

/-- Nothing opens the file again. -/
theorem source_work_closed (zstd : Zstd) (source : SourceParams) {block : FileSource}
    (closed : block.fp = none) (nothing : block.newFp = none) (noutputItems : Nat) :
    ∃ after, (FileSourceBlock.work zstd source noutputItems).run block =
      .error (.exception "work with file not open") after := by
  have still : ∃ idle, FileSourceBlock.doUpdate.run block = .ok () idle ∧ idle.fp = none := by
    cases updated : block.updated with
    | true => exact ⟨_, rfl, by simpa [updated] using nothing⟩
    | false => exact ⟨block, FileSourceBlock.do_update_run updated, closed⟩
  rcases still with ⟨idle, update, none_open⟩
  refine ⟨idle, ?_⟩
  simp only [FileSourceBlock.work, update, EStateM.run_bind, EStateM.run_get, none_open]
  rfl

theorem source_restart_iff (source : SourceParams) (bounded : zstd.DecompressBounded)
    {content : Bytes} {repeats : Bool} {made : FileSource} {playback : Playback}
    (plays : Plays content repeats made playback) (calls : List SourceCall) :
    (∃ outs final, (runAll (sourceCall zstd source) calls).run made = .ok outs final) ↔
      ∀ earlier call, earlier ++ [call] <+: calls → SourceAllowed earlier call := by
  apply run_all_ok_iff (sourceCall zstd source) (SourceAfter content repeats) SourceAllowed
    ?_ ?_ calls made ?_
  · intro earlier block call state allowed
    cases call with
    | stop =>
        obtain ⟨after, ran, closed⟩ := source_stop_run block
        refine ⟨(), after, ?_, by simpa [SourceAfter] using closed⟩
        simp only [sourceCall, EStateM.run_bind, ran, EStateM.run_pure]
    | work noutputItems =>
        have running : .stop ∉ earlier := by simpa [SourceAllowed] using allowed
        rw [SourceAfter, if_neg running] at state
        rcases state with ⟨playback, plays⟩
        obtain ⟨output, after, next, ran, _, played⟩ :=
          FileSourceBlock.work_run zstd source bounded noutputItems plays
        refine ⟨(), after, ?_, ?_⟩
        · simp only [sourceCall, EStateM.run_bind, ran, EStateM.run_pure]
        · rw [SourceAfter, if_neg (by simpa using running)]
          exact ⟨next, played⟩
  · intro earlier block call state refused
    cases call with
    | stop => simp [SourceAllowed] at refused
    | work noutputItems =>
        have halted : .stop ∈ earlier := by simpa [SourceAllowed] using refused
        rw [SourceAfter, if_pos halted] at state
        obtain ⟨after, failed⟩ := source_work_closed zstd source state.1 state.2 noutputItems
        refine ⟨.exception "work with file not open", after, ?_⟩
        simp only [sourceCall, EStateM.run_bind, failed]
  · rw [SourceAfter, if_neg (by simp)]
    exact ⟨playback, plays⟩

/-! ## Restarting -/

/-- Every call of a run completes: no freed buffer or codec is used, no
exception is thrown. -/
def CompressSurvives (zstd : Zstd) (calls : List (CompressCall params)) : Prop :=
  ∃ outs final,
    (runAll (compressCall params) calls).run (CompressBlock.make params zstd) = .ok outs final

def SourceSurvives (zstd : Zstd) (source : SourceParams) (content : Bytes) (repeats : Bool)
    (calls : List SourceCall) : Prop :=
  ∃ outs final,
    (do
      FileSourceBlock.make content .succeeds repeats
      runAll (sourceCall zstd source) calls).run (FileSourceBlock.unopened repeats) =
        .ok outs final

/-- The blocks survive a sequence of calls exactly when each call is allowed
after those before it: no `work` of the source after a stop, and no `work` of
the compress block after one that finds pending bytes, adds nothing to a freed
buffer or fills a block. -/
theorem restart_survived_iff (succeeds : zstd.CompressSucceeds)
    (bounded : zstd.DecompressBounded) (source : SourceParams) (content : Bytes)
    (repeats : Bool) (compressCalls : List (CompressCall params))
    (sourceCalls : List SourceCall) :
    (CompressSurvives params zstd compressCalls ↔
        ∀ earlier call, earlier ++ [call] <+: compressCalls → CompressAllowed earlier call) ∧
      (SourceSurvives zstd source content repeats sourceCalls ↔
        ∀ earlier call, earlier ++ [call] <+: sourceCalls → SourceAllowed earlier call) := by
  refine ⟨compress_restart_iff params succeeds compressCalls, ?_⟩
  obtain ⟨made, constructed, plays⟩ := FileSourceBlock.make_run content repeats
  rw [← source_restart_iff source bounded plays sourceCalls, SourceSurvives]
  simp only [EStateM.run_bind, constructed]

/-- A stop and one full block; a stop and one request. -/
theorem restart_not_survived :
    ¬CompressSurvives blocksOfTen storedZstd
        [.stop, .work ⟨10, List.replicate 10 0x41, rfl⟩] ∧
      ¬SourceSurvives storedZstd { itemsize := 1, itemsize_pos := by decide } [] false
        [.stop, .work 1] := by
  constructor
  · rw [CompressSurvives, compress_restart_iff blocksOfTen stored_compress_succeeds]
    intro allowed
    have refused := allowed [.stop] (.work ⟨10, List.replicate 10 0x41, rfl⟩) (List.prefix_refl _)
    exact absurd (refused.2.2 (by decide)) (by decide)
  · obtain ⟨made, constructed, plays⟩ := FileSourceBlock.make_run [] false
    have survives := source_restart_iff { itemsize := 1, itemsize_pos := by decide }
      stored_decompress_bounded plays [.stop, .work 1]
    simp only [SourceSurvives, EStateM.run_bind, constructed]
    rw [survives]
    intro allowed
    have refused := allowed [.stop] (.work 1) (List.prefix_refl _)
    simp [SourceAllowed] at refused

/-- Without a stop in between, and with one chunk below the block size after it. -/
theorem restart_survived_small_chunk :
    CompressSurvives blocksOfTen storedZstd [.stop, .work ⟨1, [0x41], rfl⟩, .stop] ∧
      SourceSurvives storedZstd { itemsize := 1, itemsize_pos := by decide } [] false
        [.work 1, .stop, .stop] := by
  obtain ⟨compress, source⟩ := restart_survived_iff blocksOfTen stored_compress_succeeds
    stored_decompress_bounded { itemsize := 1, itemsize_pos := by decide } [] false
    [.stop, .work ⟨1, [0x41], rfl⟩, .stop] [.work 1, .stop, .stop]
  refine ⟨compress.2 ?_, source.2 ?_⟩
  · refine (forall_call_cons _ _ _).2 ⟨trivial, (forall_call_cons _ _ _).2 ⟨?_,
      (forall_call_cons _ _ _).2 ⟨trivial, forall_call_nil _⟩⟩⟩
    exact ⟨by decide, fun _ => by decide, fun _ => by decide⟩
  · simp [forall_call_cons, SourceAllowed]

end GrCompress.BlockShutdown
