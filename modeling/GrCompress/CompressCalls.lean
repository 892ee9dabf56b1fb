import GrCompress.CompressBlock

/-!
# The calls of the compress block

`compress_impl::test` does what `work` does, but publishes nothing and remembers
the compressed size; `timeCompression` compresses 64000 bytes again and again.

Which requests a run makes of the codec cannot be seen in the state of the
block. A codec whose contexts record them is a codec, too; forgetting what it
recorded gives back the run of the codec itself.
-/

namespace GrCompress.CompressCalls

open GrCompress.CallRuns
open GrCompress.CheckedStorage
open GrCompress.ZstdCodec
open GrCompress.RecordFormat
open GrCompress.CompressBlock

set_option autoImplicit false

variable {zstd : Zstd} (params : CompressParams)

/-! ## test and timeCompression -/

/-- The members of the block, and the one that only `test` writes. -/
structure TestedCompress (zstd : Zstd) where
  block : CompressImpl zstd
  compressedSize : Nat

def makeTested (zstd : Zstd) : TestedCompress zstd where
  block := make params zstd
  compressedSize := 0

def onBlock {Out : Type} (call : EStateM Fault (CompressImpl zstd) Out) :
    EStateM Fault (TestedCompress zstd) Out :=
  within TestedCompress.block (fun block tested => { tested with block := block }) call

/-- One call of `ZStdCompressor::compress` into `pOutputBuffer`. -/
def compressOnce (source : Bytes) : EStateM Fault (CompressImpl zstd) Nat := do
  let block ← get
  match block.pCompressor with
  | none => throw .nullPointer
  | some context =>
      let (context, compressedBuffer, actualCompressedSize) ←
        ZStdCompressor.compress zstd context block.compressedBuffer params.headerRoom
          block.compressedBufferSize source
      set { block with pCompressor := some context, compressedBuffer := compressedBuffer }
      return actualCompressedSize

/-- Compress all that is queued, before a message is built. -/
def compressQueue (queueSize : Nat) : EStateM Fault (CompressImpl zstd) Nat := do
  growCompressedBuffer params queueSize
  let source ← load (← get).localWriteBuffer 0 queueSize
  let actualCompressedSize ← compressOnce params source
  modify fun block => { block with localWriteBufferNextIndex := 0 }
  return actualCompressedSize

def test (chunk : Chunk params.itemsize) : EStateM Fault (TestedCompress zstd) Nat := do
  let queueSize ← onBlock (enqueue params chunk)
  if params.compressionBlockSize.value ≤ queueSize then
    let actualCompressedSize ← onBlock (compressQueue params queueSize)
    modify fun tested => { tested with compressedSize := actualCompressedSize }
    -- the message is built, but its `message_port_pub` is commented out
    let _ ← onBlock (buildMessage params queueSize actualCompressedSize)
    return chunk.noutputItems
  else
    return chunk.noutputItems

/-- The `queueSize` of `timeCompression`. -/
def timedSize : Nat := 64000

/-- What may be found in the cells that nothing has written. -/
structure Contents where
  bytes : Bytes
  length_eq : bytes.length = timedSize

/-- A larger buffer takes the place of the pending bytes, too; how many were
pending is not reset. -/
def growForTiming (contents : Contents) : EStateM Fault (CompressImpl zstd) Unit :=
  modify fun block =>
    if block.localWriteBufferSize < timedSize then
      { block with
        localWriteBuffer := some contents.bytes
        localWriteBufferSize := timedSize }
    else block

/-- Compress the first bytes of the buffer, of which only the pending ones need
have been written. -/
def compressBuffer (contents : Contents) : EStateM Fault (CompressImpl zstd) Unit := do
  let block ← get
  let held ← load block.localWriteBuffer 0 timedSize
  let _ ← compressOnce params
    (held.take block.localWriteBufferNextIndex ++
      contents.bytes.drop block.localWriteBufferNextIndex)

def compressTimes (contents : Contents) : Nat → EStateM Fault (CompressImpl zstd) Unit
  | 0 => return ()
  | iterations + 1 => do
      compressBuffer params contents
      compressTimes contents iterations

/-- Once, and then 100 times for an average. -/
def timeCompression (contents : Contents) : EStateM Fault (TestedCompress zstd) Unit :=
  onBlock do
    growForTiming contents
    growCompressedBuffer params timedSize
    compressTimes params contents (1 + 100)

inductive CompressCall where
  | work (chunk : Chunk params.itemsize)
  | test (chunk : Chunk params.itemsize)
  | timeCompression (contents : Contents)

def CompressCall.Fits {params : CompressParams} : CompressCall params → Prop
  | .work chunk => chunk.Fits
  | .test chunk => chunk.Fits
  | .timeCompression _ => True

def compressCall : CompressCall params → EStateM Fault (TestedCompress zstd) Unit
  | .work chunk => do
      let _ ← onBlock (work params chunk)
  | .test chunk => do
      let _ ← test params chunk
  | .timeCompression contents => timeCompression params contents

/-! ## Recorded requests -/

/-- What the codec was asked to do, and what came of it. -/
structure Request where
  capacity : Nat
  source : Bytes
  result : Except ErrorCode Bytes

/-- The same zstd, whose contexts also record the requests made of them. -/
def recording (zstd : Zstd) : Zstd where
  Context := zstd.Context × List Request
  createCCtx numThreads := (zstd.createCCtx numThreads, [])
  compress2 context capacity source :=
    (((zstd.compress2 context.1 capacity source).1,
      context.2 ++ [{
        capacity := capacity
        source := source
        result := (zstd.compress2 context.1 capacity source).2 }]),
      (zstd.compress2 context.1 capacity source).2)
  compressBound := zstd.compressBound
  decompressDCtx := zstd.decompressDCtx

theorem recording_bounded (bounded : zstd.CompressBounded) : (recording zstd).CompressBounded where
  bound_modest := bounded.bound_modest
  within := by
    intro context capacity source next payload result
    have returned : (zstd.compress2 context.1 capacity source).2 = .ok payload :=
      congrArg Prod.snd result
    exact bounded.within context.1 capacity source _ payload (Prod.ext rfl returned)

/-- The requests made of the codec of a block so far. -/
def requests (block : CompressImpl (recording zstd)) : List Request :=
  match block.pCompressor with
  | none => []
  | some context => context.2

/-- What came of the last request. -/
def lastResult (block : CompressImpl (recording zstd)) : Option (Except ErrorCode Bytes) :=
  (requests block).getLast?.map Request.result

/-! ## Forgetting the requests -/

def forget (block : CompressImpl (recording zstd)) : CompressImpl zstd where
  pCompressor := block.pCompressor.map Prod.fst
  compressedBuffer := block.compressedBuffer
  compressedBufferSize := block.compressedBufferSize
  localWriteBuffer := block.localWriteBuffer
  localWriteBufferSize := block.localWriteBufferSize
  localWriteBufferNextIndex := block.localWriteBufferNextIndex

def forgetTested (tested : TestedCompress (recording zstd)) : TestedCompress zstd where
  block := forget tested.block
  compressedSize := tested.compressedSize

theorem forget_made : forgetTested (makeTested params (recording zstd)) = makeTested params zstd :=
  rfl

section Storage

variable {State Part Cell Out : Type} {view : State → Part} {state : State}

theorem load_seen (buffer : Buffer Cell) (offset count : Nat) :
    SeenAs view state (load buffer offset count) (load buffer offset count) := by
  cases buffer with
  | none => rfl
  | some array => exact seen_as_check _ _

theorem store_seen (buffer : Buffer Cell) (offset : Nat) (cells : List Cell) :
    SeenAs view state (store buffer offset cells) (store buffer offset cells) := by
  cases buffer with
  | none => rfl
  | some array => exact seen_as_check _ _

theorem reserve_seen (buffer : Buffer Cell) (offset capacity : Nat) :
    SeenAs view state (reserve buffer offset capacity) (reserve buffer offset capacity) := by
  cases buffer with
  | none => rfl
  | some array => exact seen_as_check _ _

theorem int_product_seen (left right : Nat) :
    SeenAs view state (intProduct left right) (intProduct left right) :=
  seen_as_check _ _

/-- The recording context does what the context in it does. -/
theorem compress_seen_bind (context : (recording zstd).Context) (dst : Buffer UInt8)
    (offset dstCapacity : Nat) (src : Bytes)
    {rest : (recording zstd).Context × Buffer UInt8 × Nat → EStateM Fault State Out}
    {other : zstd.Context × Buffer UInt8 × Nat → EStateM Fault Part Out}
    (same : ∀ next dst size (state : State),
      SeenAs view state (rest (next, dst, size)) (other (next.1, dst, size))) :
    SeenAs view state
      (ZStdCompressor.compress (recording zstd) context dst offset dstCapacity src >>= rest)
      (ZStdCompressor.compress zstd context.1 dst offset dstCapacity src >>= other) := by
  have recorded : (recording zstd).compress2 context dstCapacity src =
      (((zstd.compress2 context.1 dstCapacity src).1,
        context.2 ++ [⟨dstCapacity, src, (zstd.compress2 context.1 dstCapacity src).2⟩]),
        (zstd.compress2 context.1 dstCapacity src).2) := rfl
  simp only [ZStdCompressor.compress, bind_assoc]
  apply seen_as_bind
  · exact reserve_seen dst offset dstCapacity
  · intro _ _ _
    rw [recorded]
    cases zstd.compress2 context.1 dstCapacity src with
    | mk next outcome =>
        cases outcome with
        | error code => exact same _ _ _ _
        | ok payload =>
            simp only [bind_assoc]
            apply seen_as_bind
            · exact store_seen dst offset payload
            · intro written _ _
              exact same _ _ _ _

end Storage

section Calls

variable (block : CompressImpl (recording zstd))

theorem grow_local_write_buffer_seen (queueSize : Nat) :
    SeenAs forget block (growLocalWriteBuffer queueSize) (growLocalWriteBuffer queueSize) := by
  apply seen_as_get_bind
  apply seen_as_ite
  · intro _
    dsimp only
    apply seen_as_ite
    · intro _
      apply seen_as_bind (load_seen _ _ _)
      intro pending _ _
      apply seen_as_bind (store_seen _ _ _)
      intro newBuff _ _
      exact seen_as_set rfl
    · intro _
      apply seen_as_bind (seen_as_pure _)
      intro newBuff _ _
      exact seen_as_set rfl
  · exact fun _ => seen_as_pure _

theorem enqueue_seen (chunk : Chunk params.itemsize) :
    SeenAs forget block (enqueue params chunk) (enqueue params chunk) := by
  apply seen_as_bind (int_product_seen _ _)
  intro noi next _
  apply seen_as_get_bind
  apply seen_as_bind (grow_local_write_buffer_seen _ _)
  intro _ grown _
  apply seen_as_get_bind
  apply seen_as_bind (load_seen _ _ _)
  intro incoming _ _
  apply seen_as_bind (store_seen _ _ _)
  intro localWriteBuffer _ _
  exact seen_as_bind_pure (seen_as_set rfl) _

theorem grow_compressed_buffer_seen (queueSize : Nat) :
    SeenAs forget block (growCompressedBuffer params queueSize)
      (growCompressedBuffer params queueSize) := by
  apply seen_as_get_bind
  simp only [forget]
  cases block.pCompressor with
  | none => exact seen_as_throw _
  | some context =>
      apply seen_as_ite
      · exact fun _ => seen_as_set rfl
      · exact fun _ => seen_as_pure _

theorem make_blob_seen (buffer : Buffer UInt8) (length : Int) :
    SeenAs forget block (makeBlob buffer length) (makeBlob buffer length) := by
  apply seen_as_ite
  · exact fun _ => load_seen _ _ _
  · exact fun _ => seen_as_throw _

theorem build_message_seen (queueSize actualCompressedSize : Nat) :
    SeenAs forget block (buildMessage params queueSize actualCompressedSize)
      (buildMessage params queueSize actualCompressedSize) := by
  unfold buildMessage
  cases params.addHeader with
  | false =>
      apply seen_as_get_bind
      exact seen_as_bind_pure (make_blob_seen _ _ _) _
  | true =>
      apply seen_as_get_bind
      apply seen_as_bind (store_seen _ _ _)
      intro compressedBuffer _ _
      apply seen_as_bind (seen_as_set rfl)
      intro _ _ _
      apply seen_as_get_bind
      exact seen_as_bind_pure (make_blob_seen _ _ _) _

theorem flush_seen (queueSize : Nat) :
    SeenAs forget block (flush params queueSize) (flush params queueSize) := by
  apply seen_as_bind (grow_compressed_buffer_seen _ _ _)
  intro _ grown _
  apply seen_as_get_bind
  simp only [forget]
  cases grown.pCompressor with
  | none => exact seen_as_throw _
  | some context =>
      apply seen_as_bind (load_seen _ _ _)
      intro source _ _
      apply compress_seen_bind
      intro next dst size _
      apply seen_as_bind (seen_as_set rfl)
      intro _ _ _
      exact build_message_seen _ _ _ _

theorem work_seen (chunk : Chunk params.itemsize) :
    SeenAs forget block (work params chunk) (work params chunk) := by
  apply seen_as_bind (enqueue_seen _ _ _)
  intro queueSize queued _
  apply seen_as_ite
  · intro _
    exact seen_as_bind_pure (flush_seen _ _ _) _
  · exact fun _ => seen_as_pure _

theorem compress_once_seen (source : Bytes) :
    SeenAs forget block (compressOnce params source) (compressOnce params source) := by
  apply seen_as_get_bind
  simp only [forget]
  cases block.pCompressor with
  | none => exact seen_as_throw _
  | some context =>
      apply compress_seen_bind
      intro next dst size _
      exact seen_as_bind_pure (seen_as_set rfl) _

theorem compress_queue_seen (queueSize : Nat) :
    SeenAs forget block (compressQueue params queueSize) (compressQueue params queueSize) := by
  apply seen_as_bind (grow_compressed_buffer_seen _ _ _)
  intro _ grown _
  apply seen_as_get_bind
  apply seen_as_bind (load_seen _ _ _)
  intro source held _
  apply seen_as_bind (compress_once_seen _ _ _)
  intro actualCompressedSize compressed _
  apply seen_as_bind_pure
  exact seen_as_modify rfl

theorem compress_times_seen (contents : Contents) (iterations : Nat) :
    SeenAs forget block (compressTimes params contents iterations)
      (compressTimes params contents iterations) := by
  induction iterations generalizing block with
  | zero => exact seen_as_pure _
  | succ iterations induction =>
      apply seen_as_bind
      · apply seen_as_get_bind
        apply seen_as_bind (load_seen _ _ _)
        intro held loaded _
        exact seen_as_bind_pure (compress_once_seen _ _ _) _
      · intro _ compressed _
        exact induction compressed

theorem grow_for_timing_seen (contents : Contents) :
    SeenAs forget block (growForTiming contents) (growForTiming contents) := by
  apply seen_as_modify
  by_cases grows : block.localWriteBufferSize < timedSize
  · have forgotten : (forget block).localWriteBufferSize < timedSize := grows
    rw [if_pos grows, if_pos forgotten]
    rfl
  · have forgotten : ¬(forget block).localWriteBufferSize < timedSize := grows
    rw [if_neg grows, if_neg forgotten]

variable (tested : TestedCompress (recording zstd))

theorem on_block_seen {Out : Type} {call : EStateM Fault (CompressImpl (recording zstd)) Out}
    {other : EStateM Fault (CompressImpl zstd) Out}
    (same : SeenAs forget tested.block call other) :
    SeenAs forgetTested tested (onBlock call) (onBlock other) := by
  unfold SeenAs at same
  cases ran : call.run tested.block with
  | ok out next =>
      rw [ran] at same
      have onWhole : (onBlock call).run tested = _ := within_ok ran
      have onPart : (onBlock other).run (forgetTested tested) = _ := within_ok same
      rw [SeenAs, onWhole, onPart]
      rfl
  | error fault next =>
      rw [ran] at same
      have onWhole : (onBlock call).run tested = _ := within_error ran
      have onPart : (onBlock other).run (forgetTested tested) = _ := within_error same
      rw [SeenAs, onWhole, onPart]
      rfl

theorem test_seen (chunk : Chunk params.itemsize) :
    SeenAs forgetTested tested (test params chunk) (test params chunk) := by
  apply seen_as_bind (on_block_seen _ (enqueue_seen _ _ _))
  intro queueSize queued _
  apply seen_as_ite
  · intro _
    apply seen_as_bind (on_block_seen _ (compress_queue_seen _ _ _))
    intro actualCompressedSize compressed _
    apply seen_as_bind
    · exact seen_as_modify rfl
    · intro _ remembered _
      exact seen_as_bind_pure (on_block_seen _ (build_message_seen _ _ _ _)) _
  · exact fun _ => seen_as_pure _

theorem time_compression_seen (contents : Contents) :
    SeenAs forgetTested tested (timeCompression params contents)
      (timeCompression params contents) := by
  apply on_block_seen
  apply seen_as_bind (grow_for_timing_seen _ _)
  intro _ grown _
  apply seen_as_bind (grow_compressed_buffer_seen _ _ _)
  intro _ ready _
  exact compress_times_seen _ _ _ _

/-- Recording its requests does not change what a run comes to. -/
theorem compress_call_seen (call : CompressCall params) :
    SeenAs forgetTested tested (compressCall params call) (compressCall params call) := by
  cases call with
  | work chunk =>
      exact seen_as_bind_pure (on_block_seen _ (work_seen _ _ _)) _
  | test chunk =>
      exact seen_as_bind_pure (test_seen _ _ _) _
  | timeCompression contents => exact time_compression_seen _ _ _

theorem calls_seen (calls : List (CompressCall params)) :
    leaveAll (compressCall params) (makeTested params zstd) calls =
      forgetTested
        (leaveAll (compressCall params) (makeTested params (recording zstd)) calls) := by
  rw [← forget_made]
  exact leave_all_seen (compress_call_seen params) _ calls

end Calls

end GrCompress.CompressCalls
