import GrCompress.CompressorRoom
import GrCompress.HandleOwnership

/-!
# Timing the compressor

`timeCompression` may be called at any time. It compresses what is in the buffer
and publishes nothing, but a buffer of less than 64000 bytes it replaces without
copying what is pending. So a run of calls is that of a queue with a buffer size:
growing for a request keeps what is queued, growing for the timing does not.
-/

namespace GrCompress.TimedCompression

open GrCompress.CallRuns
open GrCompress.CheckedStorage
open GrCompress.ThresholdBatching
open GrCompress.ZstdCodec
open GrCompress.RecordFormat
open GrCompress.CompressBlock
open GrCompress.CompressCalls
open GrCompress.CompressorRoom (compress_once_run flush_of_queue)
open GrCompress.HandleOwnership (load_keeps store_keeps reserve_keeps)
open GrCompress.StoredFrameCodec

set_option autoImplicit false

variable {zstd : Zstd} (params : CompressParams)

/-! ## Queues -/

/-- What is queued, and the size of the buffer that holds it. -/
structure Queued where
  pending : Bytes
  size : Nat
  deriving DecidableEq, Repr

def Queued.empty : Queued where
  pending := []
  size := params.compressionBlockSize.value

/-- The batch that these bytes complete, if any, and the queue then. -/
def Queued.add (queued : Queued) (bytes : Bytes) : List Bytes × Queued :=
  ((push params.compressionBlockSize.value queued.pending bytes).1,
    { pending := (push params.compressionBlockSize.value queued.pending bytes).2
      size := max queued.size (queued.pending.length + bytes.length) })

/-- A buffer that is replaced begins with what its memory held before. -/
def Queued.timed (queued : Queued) (contents : Contents) : Queued :=
  if queued.size < timedSize then
    { pending := contents.bytes.take queued.pending.length
      size := timedSize }
  else queued

/-- The batches that a call publishes, and the queue it leaves. -/
def Queued.step (queued : Queued) : CompressCall params → List Bytes × Queued
  | .work chunk => queued.add params chunk.bytes
  | .test chunk => ([], (queued.add params chunk.bytes).2)
  | .timeCompression contents => ([], queued.timed contents)

/-- The calls of the block, with the messages they publish. -/
def publishing : CompressCall params → EStateM Fault (TestedCompress zstd) (List Pdu)
  | .work chunk => do
      let output ← onBlock (work params chunk)
      return output.published
  | .test chunk => do
      let _ ← test params chunk
      return []
  | .timeCompression contents => do
      timeCompression params contents
      return []

/-- The block holds what is queued in a buffer of this size. -/
structure Represents (block : CompressImpl zstd) (queued : Queued) : Prop where
  invariant : Invariant params block queued.pending
  size : block.localWriteBufferSize = queued.size

theorem made_represents : Represents params (make params zstd) (Queued.empty params) :=
  ⟨make_invariant params, rfl⟩

/-! ## The size of the buffer -/

section Sizes

variable {params} {block : CompressImpl zstd}

theorem grow_local_size {queueSize : Nat} {after : CompressImpl zstd}
    (grown : (growLocalWriteBuffer queueSize).run block = .ok () after) :
    after.localWriteBufferSize = max block.localWriteBufferSize queueSize := by
  by_cases grows : block.localWriteBufferSize < queueSize
  · rw [Nat.max_eq_right (Nat.le_of_lt grows)]
    by_cases some_pending : 0 < block.localWriteBufferNextIndex
    · simp only [growLocalWriteBuffer, EStateM.run_bind, EStateM.run_get, if_pos grows,
        if_pos some_pending] at grown
      split at grown
      · split at grown
        · rw [EStateM.run_set, EStateM.Result.ok.injEq] at grown
          rw [← grown.2]
        · simp at grown
      · simp at grown
    · simp only [growLocalWriteBuffer, EStateM.run_bind, EStateM.run_get, if_pos grows,
        if_neg some_pending, EStateM.run_pure, EStateM.run_set, EStateM.Result.ok.injEq] at grown
      rw [← grown.2]
  · simp only [growLocalWriteBuffer, EStateM.run_bind, EStateM.run_get, if_neg grows,
      EStateM.run_pure, EStateM.Result.ok.injEq] at grown
    rw [← grown.2]
    exact (Nat.max_eq_left (Nat.le_of_not_lt grows)).symm

theorem enqueue_size {chunk : Chunk params.itemsize} (fits : chunk.Fits) {queueSize : Nat}
    {after : CompressImpl zstd}
    (enqueued : (enqueue params chunk).run block = .ok queueSize after) :
    after.localWriteBufferSize =
      max block.localWriteBufferSize (block.localWriteBufferNextIndex + chunk.bytes.length) := by
  have product : chunk.noutputItems * params.itemsize.value = chunk.bytes.length :=
    chunk.length_eq.symm
  simp only [enqueue, EStateM.run_bind, int_product_fits fits, EStateM.run_get, product]
    at enqueued
  cases grown : (growLocalWriteBuffer (block.localWriteBufferNextIndex +
      chunk.bytes.length)).run block with
  | error fault stopped => simp [grown] at enqueued
  | ok _ next =>
      have size := grow_local_size grown
      simp only [grown] at enqueued
      split at enqueued
      · split at enqueued
        · simp only [EStateM.run_set, EStateM.run_pure, EStateM.Result.ok.injEq] at enqueued
          rw [← enqueued.2]
          exact size
        · simp at enqueued
      · simp at enqueued

/-- The size of `localWriteBuffer`, as the block records it. -/
def bufferSize (block : CompressImpl zstd) : Nat := block.localWriteBufferSize

theorem compress_keeps (context : zstd.Context) (dst : Buffer UInt8) (offset capacity : Nat)
    (src : Bytes) :
    KeepsAt id block (ZStdCompressor.compress zstd context dst offset capacity src) := by
  apply keeps_at_read_bind (reserve_keeps _ _ _)
  intro _ _
  split
  · apply keeps_at_read_bind (store_keeps _ _ _)
    intro _ _
    apply keeps_at_pure
  · apply keeps_at_pure

theorem grow_compressed_keeps (queueSize : Nat) (block : CompressImpl zstd) :
    KeepsAt bufferSize block (growCompressedBuffer params queueSize) := by
  apply keeps_at_get_bind
  split
  · apply keeps_at_throw
  · dsimp only
    split
    · apply keeps_at_set
      rfl
    · apply keeps_at_pure

theorem make_blob_keeps (buffer : Buffer UInt8) (length : Int) :
    KeepsAt id block (makeBlob buffer length) := by
  unfold makeBlob
  dsimp only
  split
  · apply load_keeps
  · apply keeps_at_throw

theorem build_message_keeps (queueSize actualCompressedSize : Nat) (block : CompressImpl zstd) :
    KeepsAt bufferSize block (buildMessage params queueSize actualCompressedSize) := by
  unfold buildMessage
  dsimp only
  split
  · apply keeps_at_get_bind
    apply keeps_at_read_bind (store_keeps _ _ _)
    intro written _
    apply keeps_at_set_bind
    · rfl
    · apply keeps_at_get_bind
      apply keeps_at_read_bind (make_blob_keeps _ _)
      intro blob _
      apply keeps_at_pure
  · apply keeps_at_get_bind
    apply keeps_at_read_bind (make_blob_keeps _ _)
    intro blob _
    apply keeps_at_pure

theorem flush_keeps (queueSize : Nat) (block : CompressImpl zstd) :
    KeepsAt bufferSize block (flush params queueSize) := by
  apply keeps_at_bind (grow_compressed_keeps queueSize block)
  intro _ grown _
  apply keeps_at_get_bind
  split
  · apply keeps_at_throw
  · apply keeps_at_read_bind (load_keeps _ _ _)
    intro source _
    apply keeps_at_read_bind (compress_keeps _ _ _ _ _)
    intro compressed _
    apply keeps_at_set_bind
    · rfl
    · apply build_message_keeps

/-- A call of `work` leaves room for what it found pending and what it was given. -/
theorem work_size {chunk : Chunk params.itemsize} (fits : chunk.Fits) {output : MessageOutput}
    {after : CompressImpl zstd} (ran : (work params chunk).run block = .ok output after) :
    after.localWriteBufferSize =
      max block.localWriteBufferSize (block.localWriteBufferNextIndex + chunk.bytes.length) := by
  unfold work at ran
  rw [EStateM.run_bind] at ran
  cases enqueued : (enqueue params chunk).run block with
  | error fault stopped => simp [enqueued] at ran
  | ok queueSize queued =>
      rw [← enqueue_size fits enqueued]
      simp only [enqueued] at ran
      split at ran
      · have kept : KeepsAt bufferSize queued (flush params queueSize >>= fun datapdu =>
            pure (MessageOutput.mk chunk.noutputItems [datapdu])) :=
          keeps_at_bind_pure (flush_keeps queueSize queued) _
        exact kept.1 output after ran
      · rw [EStateM.run_pure, EStateM.Result.ok.injEq] at ran
        rw [ran.2]

end Sizes

/-! ## The calls -/

section Calls

variable {params} {tested : TestedCompress zstd} {queued : Queued}

theorem work_represents (succeeds : zstd.CompressSucceeds) {block : CompressImpl zstd}
    (represents : Represents params block queued) (chunk : Chunk params.itemsize)
    (fits : chunk.Fits) :
    ∃ output after, (work params chunk).run block = .ok output after ∧
      List.Forall₂ (PublishedFor zstd params) output.published
        (queued.add params chunk.bytes).1 ∧
      Represents params after (queued.add params chunk.bytes).2 := by
  obtain ⟨output, after, ran, _, published, invariant⟩ :=
    work_run params succeeds represents.invariant chunk fits
  refine ⟨output, after, ran, published, invariant, ?_⟩
  rw [work_size fits ran, represents.size, represents.invariant.holds.index]
  rfl

/-- `test` leaves the block as `work` would. -/
theorem test_as_work (bounded : zstd.CompressBounded)
    (invariant : Invariant params tested.block queued.pending) {chunk : Chunk params.itemsize}
    (fits : chunk.Fits) {output : MessageOutput} {after : CompressImpl zstd}
    (worked : (work params chunk).run tested.block = .ok output after) :
    ∃ size, (test params chunk).run tested =
      .ok chunk.noutputItems { block := after, compressedSize := size } := by
  obtain ⟨waiting, enqueued, holds, codec, buffer, bufferSize⟩ :=
    enqueue_run params invariant.holds chunk fits
  have ready := codec_ready_of_same params invariant.ready codec buffer bufferSize
  have onEnqueue : (onBlock (enqueue params chunk)).run tested =
      .ok _ { tested with block := waiting } := within_ok enqueued
  unfold work at worked
  rw [EStateM.run_bind, enqueued] at worked
  dsimp only at worked
  by_cases reaches : params.compressionBlockSize.value ≤
      queued.pending.length + chunk.bytes.length
  · have flushes := flush_of_queue params bounded holds ready
    rw [List.length_append] at flushes
    rw [if_pos reaches, EStateM.run_bind, flushes] at worked
    cases compressed : (compressQueue params (queued.pending.length + chunk.bytes.length)).run
        waiting with
    | error fault stopped => simp [compressed] at worked
    | ok size next =>
        simp only [compressed] at worked
        cases built : (buildMessage params (queued.pending.length + chunk.bytes.length) size).run
            next with
        | error fault stopped => simp [built] at worked
        | ok pdu final =>
            simp only [built, EStateM.run_pure, EStateM.Result.ok.injEq] at worked
            have onCompress : (onBlock (compressQueue params
                (queued.pending.length + chunk.bytes.length))).run
                  { tested with block := waiting } = .ok size { tested with block := next } :=
              within_ok compressed
            have onBuild : (onBlock (buildMessage params
                (queued.pending.length + chunk.bytes.length) size)).run
                  { block := next, compressedSize := size } =
                    .ok pdu { block := final, compressedSize := size } := within_ok built
            refine ⟨size, ?_⟩
            simp only [test, EStateM.run_bind, onEnqueue, if_pos reaches, onCompress,
              EStateM.run_modify, onBuild, EStateM.run_pure, worked.2]
  · simp only [if_neg reaches, EStateM.run_pure, EStateM.Result.ok.injEq] at worked
    refine ⟨tested.compressedSize, ?_⟩
    simp only [test, EStateM.run_bind, onEnqueue, if_neg reaches, EStateM.run_pure, worked.2]

/-- Compressing again and again changes the codec and its buffer, whatever zstd returns. -/
theorem compress_times_keeps (bounded : zstd.CompressBounded) (contents : Contents)
    (iterations : Nat) {block : CompressImpl zstd} (ready : CodecReady params block)
    {array : Bytes} (allocated : block.localWriteBuffer = some array)
    (room : timedSize ≤ array.length) :
    ∃ after, (compressTimes params contents iterations).run block = .ok () after ∧
      CodecReady params after ∧ after.localWriteBuffer = block.localWriteBuffer ∧
      after.localWriteBufferSize = block.localWriteBufferSize ∧
      after.localWriteBufferNextIndex = block.localWriteBufferNextIndex := by
  induction iterations generalizing block with
  | zero => exact ⟨block, rfl, ready, rfl, rfl, rfl⟩
  | succ iterations induction =>
      rcases ready.codec with ⟨context, codec⟩
      have loaded : 0 + timedSize ≤ array.length := by omega
      obtain ⟨written, size, compressed, length, _⟩ :=
        compress_once_run params bounded ready codec
          (((array.drop 0).take timedSize).take block.localWriteBufferNextIndex ++
            contents.bytes.drop block.localWriteBufferNextIndex)
      have readyNext : CodecReady params { block with
          pCompressor := some (zstd.compress2 context block.compressedBufferSize
            (((array.drop 0).take timedSize).take block.localWriteBufferNextIndex ++
              contents.bytes.drop block.localWriteBufferNextIndex)).1
          compressedBuffer := some written } :=
        ⟨⟨_, rfl⟩, ⟨written, rfl, length⟩, ready.bounded⟩
      obtain ⟨after, ran, stillReady, buffer, bufferSize, index⟩ := induction readyNext allocated
      refine ⟨after, ?_, stillReady, buffer, bufferSize, index⟩
      simp only [compressTimes, compressBuffer, EStateM.run_bind, EStateM.run_get, allocated,
        load_some loaded, compressed, EStateM.run_pure]
      rw [← allocated]
      exact ran

/-- A buffer that is replaced holds as many bytes, which it did not get from the old one. -/
theorem grow_for_timing_represents {block : CompressImpl zstd}
    (represents : Represents params block queued) (contents : Contents) :
    ∃ after array, (growForTiming contents).run block = .ok () after ∧
      Represents params after (queued.timed contents) ∧
      after.localWriteBuffer = some array ∧ timedSize ≤ array.length := by
  have holds := represents.invariant.holds
  have size := represents.size
  have room := holds.room
  by_cases small : queued.size < timedSize
  · have smallBlock : block.localWriteBufferSize < timedSize := by omega
    have length : (contents.bytes.take queued.pending.length).length = queued.pending.length := by
      rw [List.length_take, contents.length_eq]
      omega
    have below := represents.invariant.below
    rw [← length] at below
    refine ⟨{ block with
        localWriteBuffer := some contents.bytes
        localWriteBufferSize := timedSize }, contents.bytes, ?_, ?_, rfl,
      Nat.le_of_eq contents.length_eq.symm⟩
    · simp only [growForTiming, EStateM.run_modify, if_pos smallBlock]
    · rw [Queued.timed, if_pos small]
      refine ⟨⟨⟨⟨contents.bytes, rfl, contents.length_eq, by rw [length]⟩, ?_, ?_⟩, ?_, below⟩,
        rfl⟩
      · rw [length]
        exact holds.index
      · rw [length]
        exact Nat.le_of_lt (Nat.lt_of_le_of_lt room smallBlock)
      · exact codec_ready_of_same params represents.invariant.ready rfl rfl rfl
  · have largeBlock : ¬block.localWriteBufferSize < timedSize := by omega
    rcases holds.buffer with ⟨array, allocated, length, _⟩
    refine ⟨block, array, ?_, ?_, allocated, by omega⟩
    · simp only [growForTiming, EStateM.run_modify, if_neg largeBlock]
    · rw [Queued.timed, if_neg small]
      exact represents

theorem time_represents (bounded : zstd.CompressBounded)
    (represents : Represents params tested.block queued) (contents : Contents) :
    ∃ after, (timeCompression params contents).run tested = .ok () { tested with block := after } ∧
      Represents params after (queued.timed contents) := by
  obtain ⟨grown, array, grew, held, allocated, room⟩ :=
    grow_for_timing_represents represents contents
  have ready := held.invariant.ready
  obtain ⟨target, supplied, length⟩ := grow_compressed_buffer_run params ready timedSize
  have modest := bounded.bound_modest timedSize (by decide)
  have readyNext : CodecReady params { grown with
      compressedBuffer := some target
      compressedBufferSize := max grown.compressedBufferSize (zstd.compressBound timedSize) } :=
    ⟨ready.codec, ⟨target, rfl, length⟩, Nat.max_lt.2 ⟨ready.bounded, modest⟩⟩
  obtain ⟨after, timed, stillReady, buffer, size, index⟩ :=
    compress_times_keeps bounded contents (1 + 100) readyNext allocated room
  have holds := held.invariant.holds
  refine ⟨after, ?_, ⟨⟨⟨?_, ?_, ?_⟩, stillReady, held.invariant.below⟩, ?_⟩⟩
  · apply within_ok
    simp only [EStateM.run_bind, grew, supplied, timed]
  · rw [buffer, size]
    exact holds.buffer
  · rw [index]
    exact holds.index
  · rw [size]
    exact holds.room
  · rw [size]
    exact held.size

/-- Each call is a step of the queue. -/
theorem publishing_represents (succeeds : zstd.CompressSucceeds) (bounded : zstd.CompressBounded)
    (represents : Represents params tested.block queued) (call : CompressCall params)
    (fits : call.Fits) :
    ∃ pdus after, (publishing params call).run tested = .ok pdus after ∧
      List.Forall₂ (PublishedFor zstd params) pdus (queued.step params call).1 ∧
      Represents params after.block (queued.step params call).2 := by
  cases call with
  | work chunk =>
      obtain ⟨output, after, ran, published, held⟩ :=
        work_represents succeeds represents chunk fits
      have onWork : (onBlock (work params chunk)).run tested =
          .ok output { tested with block := after } := within_ok ran
      refine ⟨output.published, { tested with block := after }, ?_, published, held⟩
      simp only [publishing, EStateM.run_bind, onWork, EStateM.run_pure]
  | test chunk =>
      obtain ⟨output, after, ran, _, held⟩ := work_represents succeeds represents chunk fits
      obtain ⟨size, tests⟩ := test_as_work bounded represents.invariant fits ran
      refine ⟨[], { block := after, compressedSize := size }, ?_, .nil, held⟩
      simp only [publishing, EStateM.run_bind, tests, EStateM.run_pure]
  | timeCompression contents =>
      obtain ⟨after, timed, held⟩ := time_represents bounded represents contents
      refine ⟨[], { tested with block := after }, ?_, .nil, held⟩
      simp only [publishing, EStateM.run_bind, timed, EStateM.run_pure]

end Calls

/-! ## Runs -/

/-- The batches published and the queue left by a run of calls. -/
def queuedRun (calls : List (CompressCall params)) : List (List Bytes) × Queued :=
  answers (Queued.step params) (Queued.empty params) calls

section Runs

variable {params}

theorem publishing_run (succeeds : zstd.CompressSucceeds) (bounded : zstd.CompressBounded)
    (calls : List (CompressCall params)) (fits : ∀ call ∈ calls, call.Fits) :
    ∃ published final,
      (runAll (publishing params) calls).run (makeTested params zstd) = .ok published final ∧
      List.Forall₂ (List.Forall₂ (PublishedFor zstd params)) published
        (queuedRun params calls).1 ∧
      Represents params final.block (queuedRun params calls).2 := by
  apply run_all_total (publishing params) CompressCall.Fits
    (fun calls published tested =>
      List.Forall₂ (List.Forall₂ (PublishedFor zstd params)) published
          (queuedRun params calls).1 ∧
        Represents params tested.block (queuedRun params calls).2)
    _ calls fits _ ⟨.nil, made_represents params⟩
  rintro done earlier before call callFits ⟨published, represents⟩
  obtain ⟨pdus, after, ran, messages, held⟩ :=
    publishing_represents succeeds bounded represents call callFits
  refine ⟨pdus, after, ran, ?_⟩
  rw [queuedRun, answers_append]
  exact ⟨List.rel_append published (.cons messages .nil), held⟩

end Runs

/-- Whatever the order of `work`, `test` and `timeCompression`, every call returns,
publishes what the queue says and leaves what it says, in a buffer of its size. -/
theorem calls_as_queued (succeeds : zstd.CompressSucceeds) (bounded : zstd.CompressBounded)
    (calls : List (CompressCall params)) (fits : ∀ call ∈ calls, call.Fits) :
    ∃ published final,
      (runAll (publishing params) calls).run (makeTested params zstd) = .ok published final ∧
      List.Forall₂ (List.Forall₂ (PublishedFor zstd params)) published
        (queuedRun params calls).1 ∧
      pendingBytes final.block = (queuedRun params calls).2.pending ∧
      final.block.localWriteBufferSize = (queuedRun params calls).2.size := by
  obtain ⟨published, final, ran, messages, represents⟩ :=
    publishing_run succeeds bounded calls fits
  exact ⟨published, final, ran, messages, pending_bytes_eq represents.invariant.holds,
    represents.size⟩

/-- Items of three bytes in blocks of at least nine bytes. -/
def triplesOfNine : CompressParams :=
  ⟨⟨3, by decide, by decide⟩, ⟨9, by decide, by decide⟩, 1, true⟩

/-- Six of nine bytes are queued, the buffer is replaced, and six more complete a batch. -/
theorem calls_as_queued_three_calls :
    ∃ published final,
      (runAll (publishing triplesOfNine)
          [.work ⟨2, [1, 2, 3, 4, 5, 6], rfl⟩,
            .timeCompression ⟨List.replicate timedSize 0, List.length_replicate⟩,
            .test ⟨2, [7, 8, 9, 10, 11, 12], rfl⟩]).run (makeTested triplesOfNine storedZstd) =
        .ok published final ∧
      List.Forall₂ (List.Forall₂ (PublishedFor storedZstd triplesOfNine)) published
        (queuedRun triplesOfNine
          [.work ⟨2, [1, 2, 3, 4, 5, 6], rfl⟩,
            .timeCompression ⟨List.replicate timedSize 0, List.length_replicate⟩,
            .test ⟨2, [7, 8, 9, 10, 11, 12], rfl⟩]).1 ∧
      pendingBytes final.block =
        (queuedRun triplesOfNine
          [.work ⟨2, [1, 2, 3, 4, 5, 6], rfl⟩,
            .timeCompression ⟨List.replicate timedSize 0, List.length_replicate⟩,
            .test ⟨2, [7, 8, 9, 10, 11, 12], rfl⟩]).2.pending ∧
      final.block.localWriteBufferSize =
        (queuedRun triplesOfNine
          [.work ⟨2, [1, 2, 3, 4, 5, 6], rfl⟩,
            .timeCompression ⟨List.replicate timedSize 0, List.length_replicate⟩,
            .test ⟨2, [7, 8, 9, 10, 11, 12], rfl⟩]).2.size := by
  apply calls_as_queued triplesOfNine stored_compress_succeeds stored_compress_bounded
  simp only [List.forall_mem_cons, CompressCall.Fits]
  exact ⟨by decide, trivial, by decide, by simp⟩

/-! ## When timing does no harm -/

/-- A call of `work`, or one of `timeCompression`, whatever its memory holds. -/
inductive TimedStep where
  | work (chunk : Chunk params.itemsize)
  | time

def TimedStep.call {params : CompressParams} (contents : Contents) :
    TimedStep params → CompressCall params
  | .work chunk => .work chunk
  | .time => .timeCompression contents

def TimedStep.Fits {params : CompressParams} : TimedStep params → Prop
  | .work chunk => chunk.Fits
  | .time => True

def TimedStep.bytes {params : CompressParams} : TimedStep params → Bytes
  | .work chunk => chunk.bytes
  | .time => []

/-- With so much pending in a buffer of this size, every timing of the run finds
nothing pending or does not replace the buffer. -/
def TimesSafely : Nat → Nat → List (TimedStep params) → Prop
  | _, _, [] => True
  | pending, size, .work chunk :: rest =>
      TimesSafely
        (pushLength params.compressionBlockSize.value pending chunk.bytes.length)
        (max size (pending + chunk.bytes.length)) rest
  | pending, size, .time :: rest =>
      (pending = 0 ∨ timedSize ≤ size) ∧ TimesSafely pending (max size timedSize) rest

/-- What has been published, and then what is still pending. -/
def flow (contents : Contents) (queued : Queued) (steps : List (TimedStep params)) : Bytes :=
  (answers (Queued.step params) queued (steps.map (TimedStep.call contents))).1.flatten.flatten ++
    (answers (Queued.step params) queued (steps.map (TimedStep.call contents))).2.pending

section Timing

variable {params}

theorem times_safely_large {pending size : Nat} (large : timedSize ≤ size)
    (steps : List (TimedStep params)) : TimesSafely params pending size steps := by
  induction steps generalizing pending size with
  | nil => trivial
  | cons step rest induction =>
      cases step with
      | work chunk => exact induction (Nat.le_trans large (Nat.le_max_left _ _))
      | time => exact ⟨.inr large, induction (Nat.le_max_right _ _)⟩

theorem flow_work (contents : Contents) (queued : Queued) (chunk : Chunk params.itemsize)
    (rest : List (TimedStep params)) :
    flow params contents queued (.work chunk :: rest) =
      (queued.add params chunk.bytes).1.flatten ++
        flow params contents (queued.add params chunk.bytes).2 rest := by
  simp only [flow, List.map_cons, TimedStep.call, answers, Queued.step, List.flatten_cons,
    List.flatten_append, List.append_assoc]

theorem flow_time (contents : Contents) (queued : Queued) (rest : List (TimedStep params)) :
    flow params contents queued (.time :: rest) =
      flow params contents (queued.timed contents) rest := by
  simp only [flow, List.map_cons, TimedStep.call, answers, Queued.step, List.flatten_cons,
    List.nil_append]

/-- Memory that differs from what is pending in every byte that matters. -/
theorem contents_differ {pending : Bytes}
    (same : ∀ contents : Contents, contents.bytes.take pending.length = pending) :
    pending = [] := by
  cases pending with
  | nil => rfl
  | cons first rest =>
      have other := same ⟨List.replicate timedSize (first + 1), List.length_replicate⟩
      obtain ⟨count, some_byte⟩ : ∃ count, min (first :: rest).length timedSize = count + 1 := by
        refine ⟨min (first :: rest).length timedSize - 1, ?_⟩
        simp only [List.length_cons, timedSize]
        omega
      rw [List.take_replicate, some_byte, List.replicate_succ, List.cons.injEq] at other
      have different : first + 1 ≠ first := by simp
      exact absurd other.1 different

/-- The bytes come through for any contents of the memory exactly when no timing
does harm. -/
theorem flow_conserves_iff (queued : Queued) (steps : List (TimedStep params)) :
    (∀ contents, flow params contents queued steps =
        queued.pending ++ steps.flatMap TimedStep.bytes) ↔
      TimesSafely params queued.pending.length queued.size steps := by
  induction steps generalizing queued with
  | nil => simp [flow, answers, TimesSafely]
  | cons step rest induction =>
      cases step with
      | work chunk =>
          have conserved := push_conserves params.compressionBlockSize.value queued.pending
            chunk.bytes
          have length := push_length params.compressionBlockSize.value queued.pending chunk.bytes
          rw [TimesSafely, ← length]
          apply Iff.trans _ (induction (queued.add params chunk.bytes).2)
          apply forall_congr'
          intro contents
          rw [flow_work, List.flatMap_cons, TimedStep.bytes, ← List.append_assoc, ← conserved,
            List.append_assoc]
          exact List.append_right_inj _
      | time =>
          simp only [flow_time, List.flatMap_cons, TimedStep.bytes, List.nil_append, TimesSafely]
          rcases Nat.lt_or_ge queued.size timedSize with small | large
          · -- the rest of the run cannot do harm, so it is this timing that decides
            have harmless : ∀ size, TimesSafely params size (max queued.size timedSize) rest :=
              fun size => times_safely_large (Nat.le_max_right _ _) rest
            have timed : ∀ contents, flow params contents (queued.timed contents) rest =
                contents.bytes.take queued.pending.length ++ rest.flatMap TimedStep.bytes := by
              intro contents
              have replaced : queued.timed contents =
                  { pending := contents.bytes.take queued.pending.length
                    size := timedSize } := if_pos small
              rw [replaced]
              exact (induction _).2 (times_safely_large (Nat.le_refl _) rest) contents
            simp only [timed, List.append_cancel_right_eq, harmless, and_true,
              Nat.not_le.2 small, or_false, List.length_eq_zero_iff]
            constructor
            · exact contents_differ
            · intro empty contents
              rw [empty]
              exact List.take_zero
          · have kept : ∀ contents, queued.timed contents = queued :=
              fun contents => if_neg (Nat.not_lt.2 large)
            simp only [kept, induction, Nat.max_eq_left large, large, or_true, true_and]

theorem steps_fit {steps : List (TimedStep params)} (fits : ∀ step ∈ steps, step.Fits)
    (contents : Contents) : ∀ call ∈ steps.map (TimedStep.call contents), call.Fits := by
  intro call member
  obtain ⟨step, stepMember, rfl⟩ := List.mem_map.1 member
  cases step with
  | work chunk => exact fits _ stepMember
  | time => trivial

theorem messages_bytes_runs (roundTrips : zstd.RoundTrips) {published : List (List Pdu)}
    {batches : List (List Bytes)}
    (messages : List.Forall₂ (List.Forall₂ (PublishedFor zstd params)) published batches) :
    messagesBytes zstd published.flatten = batches.flatten.flatten := by
  induction messages with
  | nil => rfl
  | cons first _ induction =>
      rw [List.flatten_cons, messages_bytes_append,
        messages_bytes_published params roundTrips first, induction, List.flatten_cons,
        List.flatten_append]

end Timing

/-- The bytes consumed are those that come out, and then those still pending. -/
def Conserves (zstd : Zstd) (steps : List (TimedStep params)) (contents : Contents) : Prop :=
  ∃ published final,
    (runAll (publishing params) (steps.map (TimedStep.call contents))).run
        (makeTested params zstd) = .ok published final ∧
      messagesBytes zstd published.flatten ++ pendingBytes final.block =
        steps.flatMap TimedStep.bytes

/-- A run of `work` and `timeCompression` conserves its bytes, whatever memory a
replaced buffer begins with, exactly when each timing finds nothing pending or a
buffer that it does not replace. -/
theorem timing_conserves_iff (succeeds : zstd.CompressSucceeds) (bounded : zstd.CompressBounded)
    (roundTrips : zstd.RoundTrips) (steps : List (TimedStep params))
    (fits : ∀ step ∈ steps, step.Fits) :
    (∀ contents, Conserves params zstd steps contents) ↔
      TimesSafely params 0 params.compressionBlockSize.value steps := by
  apply Iff.trans _ (flow_conserves_iff (Queued.empty params) steps)
  apply forall_congr'
  intro contents
  obtain ⟨published, final, ran, messages, represents⟩ :=
    publishing_run succeeds bounded (steps.map (TimedStep.call contents))
      (steps_fit fits contents)
  have pending := pending_bytes_eq represents.invariant.holds
  have carried := messages_bytes_runs roundTrips messages
  have flows : messagesBytes zstd published.flatten ++ pendingBytes final.block =
      flow params contents (Queued.empty params) steps := by
    rw [pending, carried]
    rfl
  constructor
  · rintro ⟨published', final', ran', conserved⟩
    obtain ⟨rfl, rfl⟩ := ok_unique ran ran'
    rw [← flows]
    exact conserved
  · intro conserved
    refine ⟨published, final, ran, ?_⟩
    rw [flows]
    exact conserved

/-- Six bytes that are pending in a buffer of nine do not outlive a timing. -/
theorem timing_conserves_iff_six_pending :
    ¬∀ contents, Conserves triplesOfNine storedZstd
      [.work ⟨2, [1, 2, 3, 4, 5, 6], rfl⟩, .time] contents := by
  rw [timing_conserves_iff triplesOfNine stored_compress_succeeds stored_compress_bounded
    stored_round_trips]
  · simp [TimesSafely, pushLength, triplesOfNine, timedSize]
  · simp only [List.forall_mem_cons, TimedStep.Fits]
    exact ⟨by decide, trivial, by simp⟩

end GrCompress.TimedCompression
