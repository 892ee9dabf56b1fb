import GrCompress.CallRuns
import GrCompress.ThresholdBatching
import GrCompress.RecordFormat
import Mathlib.Data.List.Forall2

/-!
# The compress block

`compress_impl`: incoming items are collected in `localWriteBuffer`; when at
least `compressionBlockSize` bytes are pending, all of them are compressed and
published as one message. Members that no function assigns after the
constructor are parameters. Console output is left out.

The block refines threshold batching: from any state that holds some pending
bytes, a call of `work` makes exactly the step of `ThresholdBatching.push`.
-/

namespace GrCompress.CompressBlock

open GrCompress.CallRuns
open GrCompress.CheckedStorage
open GrCompress.ThresholdBatching
open GrCompress.ZstdCodec
open GrCompress.RecordFormat

set_option autoImplicit false

/-- An `int` argument that is at least 1. -/
structure PositiveInt where
  value : Nat
  positive : 0 < value
  bounded : value < 2 ^ 31

def PositiveInt.one : PositiveInt := ⟨1, Nat.one_pos, by decide⟩

structure CompressParams where
  itemsize : PositiveInt
  compressionBlockSize : PositiveInt
  numThreads : Nat
  addHeader : Bool

/-- One window of the input buffer: `noutput_items` items at `input_items[0]`. -/
structure Chunk (itemsize : PositiveInt) where
  noutputItems : Nat
  bytes : Bytes
  length_eq : bytes.length = noutputItems * itemsize.value

/-- `noutput_items * d_itemsize` is formed in `int`. -/
def Chunk.Fits {itemsize : PositiveInt} (chunk : Chunk itemsize) : Prop :=
  chunk.noutputItems * itemsize.value < 2 ^ 31

instance {itemsize : PositiveInt} (chunk : Chunk itemsize) : Decidable chunk.Fits :=
  inferInstanceAs (Decidable (chunk.noutputItems * itemsize.value < 2 ^ 31))

structure CompressImpl (zstd : Zstd) where
  pCompressor : Option zstd.Context
  compressedBuffer : Buffer UInt8
  compressedBufferSize : Nat
  localWriteBuffer : Buffer UInt8
  localWriteBufferSize : Nat
  localWriteBufferNextIndex : Nat

variable {zstd : Zstd} (params : CompressParams)

/-- What `d_addHeader` adds in front of the payload. -/
def CompressParams.headerRoom : Nat := if params.addHeader then headerSize else 0

def make (zstd : Zstd) : CompressImpl zstd where
  pCompressor := some (zstd.createCCtx params.numThreads)
  compressedBuffer := allocate (params.compressionBlockSize.value + params.headerRoom)
  compressedBufferSize := params.compressionBlockSize.value
  localWriteBuffer := allocate params.compressionBlockSize.value
  localWriteBufferSize := params.compressionBlockSize.value
  localWriteBufferNextIndex := 0

def stop : EStateM Fault (CompressImpl zstd) Bool := do
  let block ← get
  let block := if block.pCompressor.isSome then { block with pCompressor := none } else block
  let block :=
    if block.compressedBuffer.isSome then
      { block with compressedBuffer := none, compressedBufferSize := 0 }
    else block
  let block :=
    if block.localWriteBuffer.isSome then
      { block with localWriteBuffer := none, localWriteBufferSize := 0 }
    else block
  set block
  return true

/-! ## work -/

/-- Make room for `queueSize` bytes, keeping the pending ones. -/
def growLocalWriteBuffer (queueSize : Nat) : EStateM Fault (CompressImpl zstd) Unit := do
  let block ← get
  if block.localWriteBufferSize < queueSize then
    let newBuff : Buffer UInt8 := allocate queueSize
    let newBuff ←
      if 0 < block.localWriteBufferNextIndex then do
        let pending ← load block.localWriteBuffer 0 block.localWriteBufferNextIndex
        store newBuff 0 pending
      else pure newBuff
    set { block with localWriteBuffer := newBuff, localWriteBufferSize := queueSize }

/-- Add the bytes that just came in to the queue; the result is `queueSize`. -/
def enqueue (chunk : Chunk params.itemsize) : EStateM Fault (CompressImpl zstd) Nat := do
  let noi ← intProduct chunk.noutputItems params.itemsize.value
  let queueSize := (← get).localWriteBufferNextIndex + noi
  growLocalWriteBuffer queueSize
  let block ← get
  let incoming ← load (some chunk.bytes) 0 noi
  let localWriteBuffer ← store block.localWriteBuffer block.localWriteBufferNextIndex incoming
  set { block with
    localWriteBuffer := localWriteBuffer
    localWriteBufferNextIndex := queueSize }
  return queueSize

/-- Check if we have enough space in our compression buffer. -/
def growCompressedBuffer (queueSize : Nat) : EStateM Fault (CompressImpl zstd) Unit := do
  let block ← get
  match block.pCompressor with
  | none => throw .nullPointer
  | some _ =>
      let worstCaseTargetBuffer := ZStdCompressor.maxDestBufferSize zstd queueSize
      if block.compressedBufferSize < worstCaseTargetBuffer then
        set { block with
          compressedBuffer := allocate (worstCaseTargetBuffer + params.headerRoom)
          compressedBufferSize := worstCaseTargetBuffer }

/-- `pmt::make_blob` takes a `size_t`; a vector of more than `max_size()` bytes
cannot be created. -/
def makeBlob (buffer : Buffer UInt8) (length : Int) : EStateM Fault (CompressImpl zstd) Bytes :=
  let size := toSize length
  if size < 2 ^ 63 then load buffer 0 size
  else throw (.exception "cannot create std::vector larger than max_size()")

/-- Build the message from the compressed bytes. The size is used as it came
from `ZStdCompressor::compress`, in the metadata, the header and the blob. -/
def buildMessage (queueSize actualCompressedSize : Nat) :
    EStateM Fault (CompressImpl zstd) Pdu := do
  let metadata : Metadata :=
    { uncompressedsize := some queueSize
      compressedsize := some (toLong actualCompressedSize)
      hasheader := params.addHeader }
  let vecSize := toLong actualCompressedSize + params.headerRoom
  if params.addHeader then
    let block ← get
    let compressedBuffer ←
      store block.compressedBuffer 0 (headerFor queueSize actualCompressedSize).bytes
    set { block with compressedBuffer := compressedBuffer }
  let block ← get
  let blob ← makeBlob block.compressedBuffer vecSize
  return { metadata := metadata, blob := blob }

/-- Compress all that is queued. -/
def flush (queueSize : Nat) : EStateM Fault (CompressImpl zstd) Pdu := do
  growCompressedBuffer params queueSize
  let block ← get
  match block.pCompressor with
  | none => throw .nullPointer
  | some context =>
      let source ← load block.localWriteBuffer 0 queueSize
      let (context, compressedBuffer, actualCompressedSize) ←
        ZStdCompressor.compress zstd context block.compressedBuffer params.headerRoom
          block.compressedBufferSize source
      set { block with
        pCompressor := some context
        compressedBuffer := compressedBuffer
        localWriteBufferNextIndex := 0 }
      buildMessage params queueSize actualCompressedSize

def work (chunk : Chunk params.itemsize) :
    EStateM Fault (CompressImpl zstd) MessageOutput := do
  let queueSize ← enqueue params chunk
  if params.compressionBlockSize.value ≤ queueSize then
    let datapdu ← flush params queueSize
    return { returned := chunk.noutputItems, published := [datapdu] }
  else
    return { returned := chunk.noutputItems, published := [] }

/-! ## The pending bytes -/

/-- `localWriteBuffer` is allocated, as large as recorded, and starts with
exactly the pending bytes. -/
structure Pending (block : CompressImpl zstd) (pending : Bytes) : Prop where
  buffer : ∃ array, block.localWriteBuffer = some array ∧
    array.length = block.localWriteBufferSize ∧ array.take pending.length = pending
  index : block.localWriteBufferNextIndex = pending.length
  room : pending.length ≤ block.localWriteBufferSize

/-- The codec object is allocated and so is `compressedBuffer`, whose recorded
size leaves the header out. -/
structure CodecReady (block : CompressImpl zstd) : Prop where
  codec : ∃ context, block.pCompressor = some context
  buffer : ∃ array, block.compressedBuffer = some array ∧
    array.length = block.compressedBufferSize + params.headerRoom
  bounded : block.compressedBufferSize < 2 ^ 62

/-- The bytes that are pending, as `work` will find them. -/
def pendingBytes (block : CompressImpl zstd) : Bytes :=
  (block.localWriteBuffer.getD []).take block.localWriteBufferNextIndex

theorem pending_bytes_eq {block : CompressImpl zstd} {pending : Bytes}
    (holds : Pending block pending) : pendingBytes block = pending := by
  rcases holds.buffer with ⟨array, allocated, _, starts⟩
  simp only [pendingBytes, allocated, Option.getD_some, holds.index, starts]

theorem make_pending : Pending (make params zstd) [] where
  buffer := ⟨_, rfl, List.length_replicate, rfl⟩
  index := rfl
  room := Nat.zero_le _

theorem make_codec_ready : CodecReady params (make params zstd) where
  codec := ⟨_, rfl⟩
  buffer := ⟨_, rfl, List.length_replicate⟩
  bounded := by
    have := params.compressionBlockSize.bounded
    simp only [make]
    omega

/-- The codec and its buffer are all that `CodecReady` speaks of. -/
theorem codec_ready_of_same {block after : CompressImpl zstd} (ready : CodecReady params block)
    (codec : after.pCompressor = block.pCompressor)
    (buffer : after.compressedBuffer = block.compressedBuffer)
    (size : after.compressedBufferSize = block.compressedBufferSize) :
    CodecReady params after where
  codec := codec ▸ ready.codec
  buffer := by
    rw [buffer, size]
    exact ready.buffer
  bounded := size ▸ ready.bounded

/-- What is queued for one message is well below 4 GiB. -/
theorem queue_small {pending : Bytes} (below : pending.length < params.compressionBlockSize.value)
    {chunk : Chunk params.itemsize} (fits : chunk.Fits) :
    (pending ++ chunk.bytes).length < 2 ^ 32 := by
  have blockSize := params.compressionBlockSize.bounded
  have chunkBytes := chunk.length_eq
  unfold Chunk.Fits at fits
  rw [List.length_append]
  omega

/-- Growing keeps the pending bytes, makes room and touches nothing else. -/
theorem grow_local_write_buffer_run {block : CompressImpl zstd} {pending : Bytes}
    (holds : Pending block pending) (queueSize : Nat) (more : pending.length ≤ queueSize) :
    ∃ array size, (growLocalWriteBuffer queueSize).run block =
        .ok () { block with localWriteBuffer := some array, localWriteBufferSize := size } ∧
      array.length = size ∧ queueSize ≤ size ∧ array.take pending.length = pending := by
  rcases holds.buffer with ⟨array, allocated, length, starts⟩
  have room := holds.room
  by_cases grows : block.localWriteBufferSize < queueSize
  · by_cases some_pending : 0 < pending.length
    · have loaded : 0 + pending.length ≤ array.length := by omega
      have stored : 0 + pending.length ≤ (List.replicate queueSize (default : UInt8)).length := by
        simpa using more
      refine ⟨overwrite (List.replicate queueSize default) 0 pending, queueSize, ?_, ?_,
        Nat.le_refl _, ?_⟩
      · simp only [growLocalWriteBuffer, EStateM.run_bind, EStateM.run_get, if_pos grows,
          holds.index, if_pos some_pending, allocated, load_some loaded, List.drop_zero, starts,
          allocate, store_some stored, EStateM.run_set]
      · rw [length_overwrite stored, List.length_replicate]
      · exact take_overwrite_zero _ _
    · have empty : pending = [] := List.length_eq_zero_iff.1 (by omega)
      refine ⟨List.replicate queueSize default, queueSize, ?_, List.length_replicate,
        Nat.le_refl _, by simp [empty]⟩
      simp only [growLocalWriteBuffer, EStateM.run_bind, EStateM.run_get, if_pos grows,
        holds.index, if_neg some_pending, allocate, EStateM.run_pure, EStateM.run_set]
  · refine ⟨array, block.localWriteBufferSize, ?_, length, by omega, starts⟩
    simp only [growLocalWriteBuffer, EStateM.run_bind, EStateM.run_get, if_neg grows,
      EStateM.run_pure, ← allocated]

/-- `enqueue` appends the chunk to the pending bytes and touches no codec member. -/
theorem enqueue_run {block : CompressImpl zstd} {pending : Bytes} (holds : Pending block pending)
    (chunk : Chunk params.itemsize) (fits : chunk.Fits) :
    ∃ after, (enqueue params chunk).run block =
        .ok (pending.length + chunk.bytes.length) after ∧
      Pending after (pending ++ chunk.bytes) ∧
      after.pCompressor = block.pCompressor ∧
      after.compressedBuffer = block.compressedBuffer ∧
      after.compressedBufferSize = block.compressedBufferSize := by
  obtain ⟨array, size, grown, length, room, starts⟩ :=
    grow_local_write_buffer_run holds (pending.length + chunk.bytes.length) (by omega)
  have product : chunk.noutputItems * params.itemsize.value = chunk.bytes.length :=
    chunk.length_eq.symm
  have incoming : 0 + chunk.bytes.length ≤ chunk.bytes.length := by omega
  have stored : pending.length + chunk.bytes.length ≤ array.length := by omega
  refine ⟨{ block with
      localWriteBuffer := some (overwrite array pending.length chunk.bytes)
      localWriteBufferSize := size
      localWriteBufferNextIndex := pending.length + chunk.bytes.length }, ?_,
    ⟨⟨_, rfl, ?_, ?_⟩, ?_, ?_⟩, rfl, rfl, rfl⟩
  · simp only [enqueue, EStateM.run_bind, int_product_fits fits, EStateM.run_get, holds.index,
      product, grown, load_some incoming, List.drop_zero, List.take_length, store_some stored,
      EStateM.run_set, EStateM.run_pure]
  · rw [length_overwrite stored, length]
  · rw [List.length_append, take_overwrite stored, starts]
  · simp
  · simpa using room

theorem enqueue_overflows {block : CompressImpl zstd} (chunk : Chunk params.itemsize)
    (overflows : ¬chunk.Fits) :
    (enqueue params chunk).run block = .error .signedOverflow block := by
  simp only [enqueue, EStateM.run_bind, int_product_overflows overflows]

/-! ## One message -/

/-- The message is what zstd made of `plain`, and its sizes are sizes. -/
def PublishedFor (zstd : Zstd) (params : CompressParams) (pdu : Pdu) (plain : Bytes) : Prop :=
  ∃ context capacity next payload, plain.length < 2 ^ 32 ∧ payload.length < 2 ^ 62 ∧
    zstd.compress2 context capacity plain = (next, .ok payload) ∧
    pdu = payloadPdu params.addHeader plain.length payload

theorem grow_compressed_buffer_run {block : CompressImpl zstd} (ready : CodecReady params block)
    (queueSize : Nat) :
    ∃ array, (growCompressedBuffer params queueSize).run block =
        .ok () { block with
          compressedBuffer := some array
          compressedBufferSize := max block.compressedBufferSize
            (zstd.compressBound queueSize) } ∧
      array.length = max block.compressedBufferSize (zstd.compressBound queueSize) +
        params.headerRoom := by
  rcases ready.codec with ⟨context, codec⟩
  rcases ready.buffer with ⟨array, allocated, length⟩
  by_cases grows : block.compressedBufferSize < zstd.compressBound queueSize
  · rw [Nat.max_eq_right (Nat.le_of_lt grows)]
    refine ⟨List.replicate (zstd.compressBound queueSize + params.headerRoom) default, ?_,
      List.length_replicate⟩
    simp only [growCompressedBuffer, EStateM.run_bind, EStateM.run_get, codec,
      ZStdCompressor.maxDestBufferSize, if_pos grows, allocate, EStateM.run_set]
  · rw [Nat.max_eq_left (Nat.le_of_not_lt grows)]
    refine ⟨array, ?_, length⟩
    have unchanged : (growCompressedBuffer params queueSize).run block = .ok () block := by
      simp only [growCompressedBuffer, EStateM.run_bind, EStateM.run_get, codec,
        ZStdCompressor.maxDestBufferSize, if_neg grows, EStateM.run_pure]
    rw [unchanged, ← allocated]

theorem make_blob_run (array : Bytes) (length : Int) (size : Nat) (same : length = size)
    (small : size < 2 ^ 63) (inside : size ≤ array.length) (block : CompressImpl zstd) :
    (makeBlob (some array) length).run block = .ok (array.take size) block := by
  have narrowed : toSize length = size := by rw [same, to_size_natCast (by omega)]
  have loaded : 0 + size ≤ array.length := by omega
  simp only [makeBlob, narrowed, if_pos small, load_some loaded, List.drop_zero]

/-- Writing the header in front of the payload makes the blob of the message. -/
theorem overwrite_header_take {array payload : Bytes} {header : CompressionHeader}
    (fits : headerSize + payload.length ≤ array.length) :
    (overwrite (overwrite array headerSize payload) 0 header.bytes).take
      (payload.length + headerSize) = header.bytes ++ payload := by
  have width : header.bytes.length = headerSize := header_bytes_length header
  have window : (overwrite array headerSize payload).drop headerSize =
      payload ++ array.drop (headerSize + payload.length) := by
    rw [overwrite, List.append_assoc, List.drop_left' (by simp only [List.length_take]; omega)]
  rw [overwrite, List.take_zero, List.nil_append, width, Nat.zero_add, window, Nat.add_comm,
    ← List.append_assoc, List.take_left' (by simp [width])]

theorem build_message_run {block : CompressImpl zstd} {array payload : Bytes}
    (allocated : block.compressedBuffer = some (overwrite array params.headerRoom payload))
    (fits : params.headerRoom + payload.length ≤ array.length)
    (small : params.headerRoom + payload.length < 2 ^ 63) (queueSize : Nat) :
    ∃ final : Bytes, final.length = array.length ∧
      (buildMessage params queueSize payload.length).run block =
        .ok (payloadPdu params.addHeader queueSize payload)
          { block with compressedBuffer := some final } := by
  have size_long : toLong payload.length = payload.length := to_long_small (by omega)
  have length := length_overwrite fits
  cases header : params.addHeader with
  | false =>
      have room : params.headerRoom = 0 := by simp [CompressParams.headerRoom, header]
      simp only [room] at allocated fits small length
      have blob := make_blob_run (overwrite array 0 payload)
        (payload.length + ((0 : Nat) : Int)) payload.length (by omega) (by omega) (by omega) block
      refine ⟨overwrite array 0 payload, length, ?_⟩
      rw [← allocated]
      rw [← allocated, take_overwrite_zero] at blob
      simp only [buildMessage, header, Bool.false_eq_true, if_false, EStateM.run_bind,
        EStateM.run_pure, EStateM.run_get, size_long, room, blob, payloadPdu, List.nil_append]
  | true =>
      have room : params.headerRoom = headerSize := by simp [CompressParams.headerRoom, header]
      simp only [room] at allocated fits small length
      have width : (headerFor queueSize payload.length).bytes.length = headerSize :=
        header_bytes_length _
      have stored : 0 + (headerFor queueSize payload.length).bytes.length ≤
          (overwrite array headerSize payload).length := by omega
      have finalLength := length_overwrite stored
      have blob := make_blob_run
        (overwrite (overwrite array headerSize payload) 0
          (headerFor queueSize payload.length).bytes)
        (payload.length + ((headerSize : Nat) : Int)) (payload.length + headerSize) (by omega)
        (by omega) (by omega)
        { block with compressedBuffer := some (overwrite (overwrite array headerSize payload) 0
          (headerFor queueSize payload.length).bytes) }
      refine ⟨_, finalLength.trans length, ?_⟩
      rw [overwrite_header_take fits] at blob
      simp only [buildMessage, header, if_true, EStateM.run_bind, EStateM.run_pure,
        EStateM.run_get, EStateM.run_set, size_long, room, allocated, store_some stored, blob,
        payloadPdu]

theorem header_room_le : params.headerRoom ≤ headerSize := by
  unfold CompressParams.headerRoom
  split <;> simp

/-- The capacity that `flush` offers for `queueSize` bytes. -/
def dstCapacity (block : CompressImpl zstd) (queueSize : Nat) : Nat :=
  max block.compressedBufferSize (zstd.compressBound queueSize)

/-- Up to its message, `flush` depends on what zstd returns for the pending bytes. -/
theorem flush_until_message {block : CompressImpl zstd} {pending : Bytes}
    (holds : Pending block pending) (ready : CodecReady params block) {context : zstd.Context}
    (codec : block.pCompressor = some context) :
    ∃ array : Bytes, array.length = dstCapacity block pending.length + params.headerRoom ∧
      (∀ next payload, zstd.compress2 context (dstCapacity block pending.length) pending =
          (next, .ok payload) → payload.length ≤ dstCapacity block pending.length →
        (flush params pending.length).run block =
          (buildMessage params pending.length payload.length).run { block with
            pCompressor := some next
            compressedBuffer := some (overwrite array params.headerRoom payload)
            compressedBufferSize := dstCapacity block pending.length
            localWriteBufferNextIndex := 0 }) ∧
      ∀ next code, zstd.compress2 context (dstCapacity block pending.length) pending =
          (next, .error code) →
        (flush params pending.length).run block =
          (buildMessage params pending.length code.toSize).run { block with
            pCompressor := some next
            compressedBuffer := some array
            compressedBufferSize := dstCapacity block pending.length
            localWriteBufferNextIndex := 0 } := by
  obtain ⟨array, grown, length⟩ := grow_compressed_buffer_run params ready pending.length
  rw [← dstCapacity] at grown length
  rcases holds.buffer with ⟨source, allocated, sourceLength, starts⟩
  have loaded : 0 + pending.length ≤ source.length := by have := holds.room; omega
  have window : params.headerRoom + dstCapacity block pending.length ≤ array.length := by omega
  refine ⟨array, length, ?_, ?_⟩
  · intro next payload result payloadBound
    simp only [flush, EStateM.run_bind, grown, EStateM.run_get, codec, allocated,
      load_some loaded, List.drop_zero, starts, compress_run_ok window result payloadBound,
      EStateM.run_set]
  · intro next code result
    simp only [flush, EStateM.run_bind, grown, EStateM.run_get, codec, allocated,
      load_some loaded, List.drop_zero, starts, compress_run_error window result,
      EStateM.run_set]

/-- Compression that returns a size within its capacity makes the message. -/
theorem flush_compressed {block : CompressImpl zstd} {pending : Bytes}
    (holds : Pending block pending) (ready : CodecReady params block)
    (modest : zstd.compressBound pending.length < 2 ^ 62) {context next : zstd.Context}
    (codec : block.pCompressor = some context) {payload : Bytes}
    (result : zstd.compress2 context (dstCapacity block pending.length) pending =
      (next, .ok payload))
    (payloadBound : payload.length ≤ dstCapacity block pending.length) :
    ∃ after, (flush params pending.length).run block =
        .ok (payloadPdu params.addHeader pending.length payload) after ∧
      Pending after [] ∧ CodecReady params after ∧
      after.compressedBufferSize = dstCapacity block pending.length := by
  obtain ⟨array, length, compresses, _⟩ := flush_until_message params holds ready codec
  have capacity : dstCapacity block pending.length < 2 ^ 62 := Nat.max_lt.2 ⟨ready.bounded, modest⟩
  rcases holds.buffer with ⟨source, allocated, sourceLength, _⟩
  have headerBound := header_room_le params
  let compressed : CompressImpl zstd :=
    { block with
      pCompressor := some next
      compressedBuffer := some (overwrite array params.headerRoom payload)
      compressedBufferSize := dstCapacity block pending.length
      localWriteBufferNextIndex := 0 }
  have stored : compressed.compressedBuffer =
      some (overwrite array params.headerRoom payload) := rfl
  obtain ⟨final, finalLength, built⟩ := build_message_run params stored
    (by omega) (by simp only [headerSize] at headerBound; omega) pending.length
  refine ⟨{ compressed with compressedBuffer := some final }, ?_,
    ⟨⟨source, allocated, sourceLength, rfl⟩, rfl, Nat.zero_le _⟩,
    ⟨⟨next, rfl⟩, ⟨final, rfl, finalLength.trans length⟩, capacity⟩, rfl⟩
  rw [compresses next payload result payloadBound]
  exact built

theorem flush_run (succeeds : zstd.CompressSucceeds) {block : CompressImpl zstd}
    {pending : Bytes} (holds : Pending block pending) (ready : CodecReady params block)
    (small : pending.length < 2 ^ 32) :
    ∃ pdu after, (flush params pending.length).run block = .ok pdu after ∧
      PublishedFor zstd params pdu pending ∧ Pending after [] ∧ CodecReady params after := by
  have modest := succeeds.bound_modest _ small
  rcases ready.codec with ⟨context, codec⟩
  obtain ⟨next, payload, result, payloadBound⟩ := succeeds.succeeds context
    (dstCapacity block pending.length) pending (Nat.le_max_right _ _)
  have capacity : dstCapacity block pending.length < 2 ^ 62 := Nat.max_lt.2 ⟨ready.bounded, modest⟩
  obtain ⟨after, flushed, empty, stillReady, _⟩ :=
    flush_compressed params holds ready modest codec result payloadBound
  exact ⟨_, after, flushed,
    ⟨context, dstCapacity block pending.length, next, payload, small, by omega, result, rfl⟩,
    empty, stillReady⟩

/-! ## Calls and runs -/

/-- What holds between calls of `work`, as long as `stop` is not called. -/
structure Invariant (block : CompressImpl zstd) (pending : Bytes) : Prop where
  holds : Pending block pending
  ready : CodecReady params block
  below : pending.length < params.compressionBlockSize.value

theorem make_invariant : Invariant params (make params zstd) [] :=
  ⟨make_pending params, make_codec_ready params, params.compressionBlockSize.positive⟩

/-- A call of `work` is a step of threshold batching: it publishes a message for
the batch the chunk completes, if any, and keeps the rest pending. -/
theorem work_run (succeeds : zstd.CompressSucceeds) {block : CompressImpl zstd} {pending : Bytes}
    (invariant : Invariant params block pending) (chunk : Chunk params.itemsize)
    (fits : chunk.Fits) :
    ∃ output after, (work params chunk).run block = .ok output after ∧
      output.returned = chunk.noutputItems ∧
      List.Forall₂ (PublishedFor zstd params) output.published
        (push params.compressionBlockSize.value pending chunk.bytes).1 ∧
      Invariant params after (push params.compressionBlockSize.value pending chunk.bytes).2 := by
  obtain ⟨queued, enqueued, holds, codec, buffer, bufferSize⟩ :=
    enqueue_run params invariant.holds chunk fits
  have ready := codec_ready_of_same params invariant.ready codec buffer bufferSize
  have queueSize : (pending ++ chunk.bytes).length = pending.length + chunk.bytes.length :=
    List.length_append
  by_cases reaches :
      params.compressionBlockSize.value ≤ pending.length + chunk.bytes.length
  · have small := queue_small params invariant.below fits
    obtain ⟨pdu, after, flushed, published, empty, stillReady⟩ :=
      flush_run params succeeds holds ready small
    rw [push_reaches reaches]
    refine ⟨{ returned := chunk.noutputItems, published := [pdu] }, after, ?_, rfl,
      .cons published .nil, empty, stillReady, params.compressionBlockSize.positive⟩
    rw [queueSize] at flushed
    simp only [work, EStateM.run_bind, enqueued, if_pos reaches, flushed, EStateM.run_pure]
  · rw [push_below (by omega)]
    refine ⟨{ returned := chunk.noutputItems, published := [] }, queued, ?_, rfl, .nil, holds,
      ready, by rw [queueSize]; omega⟩
    simp only [work, EStateM.run_bind, enqueued, if_neg reaches, EStateM.run_pure]

theorem work_overflows (block : CompressImpl zstd) (chunk : Chunk params.itemsize)
    (overflows : ¬chunk.Fits) : (work params chunk).run block = .error .signedOverflow block := by
  simp only [work, EStateM.run_bind, enqueue_overflows params chunk overflows]

/-- A call that returns had a chunk whose size fits, and did what `work_run` says. -/
theorem work_returned (succeeds : zstd.CompressSucceeds) {block after : CompressImpl zstd}
    {pending : Bytes} (invariant : Invariant params block pending)
    {chunk : Chunk params.itemsize} {output : MessageOutput}
    (returned : (work params chunk).run block = .ok output after) :
    chunk.Fits ∧ output.returned = chunk.noutputItems ∧
      List.Forall₂ (PublishedFor zstd params) output.published
        (push params.compressionBlockSize.value pending chunk.bytes).1 ∧
      Invariant params after (push params.compressionBlockSize.value pending chunk.bytes).2 := by
  by_cases fits : chunk.Fits
  · obtain ⟨output', after', ran, result⟩ := work_run params succeeds invariant chunk fits
    obtain ⟨rfl, rfl⟩ := ok_unique returned ran
    exact ⟨fits, result⟩
  · simp [work_overflows params block chunk fits] at returned

/-- The bytes that a list of calls consumes. -/
def consumedBytes (chunks : List (Chunk params.itemsize)) : Bytes := chunks.flatMap Chunk.bytes

/-- The batches that the chunks form, and what they leave pending. -/
def batches (chunks : List (Chunk params.itemsize)) : List Bytes × Bytes :=
  batch params.compressionBlockSize.value [] (chunks.map Chunk.bytes)

theorem batches_conserve (chunks : List (Chunk params.itemsize)) :
    (batches params chunks).1.flatten ++ (batches params chunks).2 =
      consumedBytes params chunks := by
  rw [batches, batch_conserves, List.nil_append, consumedBytes, List.flatMap_def]

/-- The state of a run of `work` calls: one message for each batch so far. -/
structure RunInvariant (chunks : List (Chunk params.itemsize)) (outputs : List MessageOutput)
    (block : CompressImpl zstd) : Prop where
  fits : ∀ chunk ∈ chunks, chunk.Fits
  published : List.Forall₂ (PublishedFor zstd params) (publishedMessages outputs)
    (batches params chunks).1
  state : Invariant params block (batches params chunks).2

theorem run_invariant_start : RunInvariant params [] [] (make params zstd) :=
  ⟨by simp, .nil, make_invariant params⟩

theorem run_invariant_step (succeeds : zstd.CompressSucceeds)
    (chunks : List (Chunk params.itemsize)) (outputs : List MessageOutput)
    (before : CompressImpl zstd) (chunk : Chunk params.itemsize) (output : MessageOutput)
    (after : CompressImpl zstd) (invariant : RunInvariant params chunks outputs before)
    (returned : (work params chunk).run before = .ok output after) :
    RunInvariant params (chunks ++ [chunk]) (outputs ++ [output]) after := by
  obtain ⟨fits, _, published, state⟩ := work_returned params succeeds invariant.state returned
  have stepped : batches params (chunks ++ [chunk]) =
      ((batches params chunks).1 ++
          (push params.compressionBlockSize.value (batches params chunks).2 chunk.bytes).1,
        (push params.compressionBlockSize.value (batches params chunks).2 chunk.bytes).2) := by
    simp only [batches, List.map_append, List.map_cons, List.map_nil, batch_snoc]
  refine ⟨?_, ?_, by rw [stepped]; exact state⟩
  · intro other member
    rcases List.mem_append.1 member with earlier | last
    · exact invariant.fits other earlier
    · rw [List.mem_singleton.1 last]
      exact fits
  · rw [stepped]
    simpa using List.rel_append invariant.published published

theorem work_run_returned (succeeds : zstd.CompressSucceeds)
    {chunks : List (Chunk params.itemsize)} {outputs : List MessageOutput}
    {final : CompressImpl zstd}
    (ran : (runAll (work params) chunks).run (make params zstd) = .ok outputs final) :
    RunInvariant params chunks outputs final :=
  run_all_invariant (work params) (RunInvariant params) (run_invariant_step params succeeds)
    (run_invariant_start params) ran

/-- A run of calls whose sizes fit returns. -/
theorem work_run_total (succeeds : zstd.CompressSucceeds) (chunks : List (Chunk params.itemsize))
    (fits : ∀ chunk ∈ chunks, chunk.Fits) :
    ∃ outputs final, (runAll (work params) chunks).run (make params zstd) = .ok outputs final ∧
      RunInvariant params chunks outputs final := by
  apply run_all_total (work params) Chunk.Fits (RunInvariant params) ?_ chunks fits
    (make params zstd) (run_invariant_start params)
  intro done outputs before chunk chunkFits invariant
  obtain ⟨output, after, ran, _⟩ := work_run params succeeds invariant.state chunk chunkFits
  exact ⟨output, after, ran,
    run_invariant_step params succeeds done outputs before chunk output after invariant ran⟩

/-! ## The messages as records -/

/-- The message carries what zstd made of `plain`. -/
def MessageFor (zstd : Zstd) (message : Message) (plain : Bytes) : Prop :=
  message.uncompressedSize = plain.length ∧
    ∃ context capacity next, zstd.compress2 context capacity plain = (next, .ok message.payload)

/-- Published messages below 2 GiB are messages in one of the two shapes. -/
theorem published_messages_shape {pdus : List Pdu} {plains : List Bytes}
    (published : List.Forall₂ (PublishedFor zstd params) pdus plains)
    (small : ∀ pdu ∈ pdus, pdu.blob.length < 2 ^ 31) :
    ∃ messages : List Message, pdus = messages.map Message.pdu ∧
      List.Forall₂ (MessageFor zstd) messages plains := by
  induction published with
  | nil => exact ⟨[], rfl, .nil⟩
  | cons head _ induction =>
      rcases head with ⟨context, capacity, next, payload, plainSmall, _, result, rfl⟩
      obtain ⟨messages, rfl, carried⟩ := induction fun pdu member => small pdu (by simp [member])
      have blob := small _ List.mem_cons_self
      rw [payload_pdu_blob_length] at blob
      exact ⟨⟨params.addHeader, _, payload, plainSmall, by omega⟩ :: messages, rfl,
        .cons ⟨rfl, context, capacity, next, result⟩ carried⟩

theorem records_bytes_messages (roundTrips : zstd.RoundTrips) {messages : List Message}
    {plains : List Bytes} (carried : List.Forall₂ (MessageFor zstd) messages plains) :
    recordsBytes zstd (messages.map Message.record) = plains.flatten := by
  induction carried with
  | nil => rfl
  | @cons message plain _ _ head _ induction =>
      rcases head with ⟨size, context, capacity, next, result⟩
      have restored := roundTrips context capacity plain next message.payload result plain.length
        (Nat.le_refl _)
      have record : recordBytes zstd message.record = plain := by
        rw [Message.record, record_bytes_payload_record zstd _ _ message.size_fits, size,
          plainBytes, restored]
      rw [List.map_cons, records_bytes_cons, record, induction, List.flatten_cons]

/-- When compression is a function, a message's record is one of what it covers. -/
theorem encode_messages_as {compressed : Bytes → Bytes} (asFunction : zstd.CompressesAs compressed)
    {messages : List Message} {plains : List Bytes}
    (carried : List.Forall₂ (MessageFor zstd) messages plains) :
    LengthFraming.encodeFrames (messages.map Message.record) = plains.flatMap fun plain =>
      (headerFor plain.length (compressed plain).length).bytes ++ compressed plain := by
  induction carried with
  | nil => rfl
  | cons head _ induction =>
      rcases head with ⟨size, context, capacity, next, result⟩
      rw [List.map_cons, LengthFraming.encode_frames_cons, induction, message_record_cells, size,
        asFunction _ _ _ _ _ result, List.flatMap_cons]

/-! ## What the messages decompress to -/

theorem message_bytes_published (roundTrips : zstd.RoundTrips) {pdu : Pdu} {plain : Bytes}
    (published : PublishedFor zstd params pdu plain) : messageBytes zstd pdu = plain := by
  rcases published with ⟨context, capacity, next, payload, _, _, result, rfl⟩
  have restored := roundTrips context capacity plain next payload result plain.length
    (Nat.le_refl _)
  simp [plainBytes, restored]

theorem messages_bytes_published (roundTrips : zstd.RoundTrips) {pdus : List Pdu}
    {plains : List Bytes} (published : List.Forall₂ (PublishedFor zstd params) pdus plains) :
    messagesBytes zstd pdus = plains.flatten := by
  induction published with
  | nil => rfl
  | cons head _ induction =>
      rw [messages_bytes_cons, message_bytes_published params roundTrips head, induction,
        List.flatten_cons]

end GrCompress.CompressBlock
