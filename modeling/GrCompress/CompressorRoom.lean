import GrCompress.CompressCalls
import GrCompress.CompressFailure

/-!
# The room of the compressor

`work`, `test` and `timeCompression` share two buffers, which each of them grows
as it needs; the recorded size of one of them leaves the header out. Whatever
their order, the codec is always offered at least the bound of what it
compresses, and the buffer has that much behind the header.
-/

namespace GrCompress.CompressorRoom

open GrCompress.CallRuns
open GrCompress.CheckedStorage
open GrCompress.ZstdCodec
open GrCompress.RecordFormat
open GrCompress.CompressBlock
open GrCompress.CompressCalls
open GrCompress.CompressFailure
open GrCompress.StoredFrameCodec

set_option autoImplicit false

variable {zstd : Zstd} (params : CompressParams)

/-! ## One request -/

/-- The size that was returned is one within the capacity, or an error number. -/
def Answered (capacity : Nat) (result : Except ErrorCode Bytes) (size : Nat) : Prop :=
  match result with
  | .ok _ => size ≤ capacity
  | .error code => size = code.toSize

/-- The output window is inside the buffer, and the buffer keeps its length. -/
theorem compress_once_run (bounded : zstd.CompressBounded) {block : CompressImpl zstd}
    (ready : CodecReady params block) {context : zstd.Context}
    (codec : block.pCompressor = some context) (source : Bytes) :
    ∃ array size,
      (compressOnce params source).run block =
        .ok size { block with
          pCompressor := some (zstd.compress2 context block.compressedBufferSize source).1
          compressedBuffer := some array } ∧
      array.length = block.compressedBufferSize + params.headerRoom ∧
      Answered block.compressedBufferSize
        (zstd.compress2 context block.compressedBufferSize source).2 size := by
  rcases ready.buffer with ⟨array, allocated, length⟩
  have window : params.headerRoom + block.compressedBufferSize ≤ array.length := by omega
  cases result : zstd.compress2 context block.compressedBufferSize source with
  | mk next outcome =>
      cases outcome with
      | error code =>
          refine ⟨array, code.toSize, ?_, length, rfl⟩
          simp only [compressOnce, EStateM.run_bind, EStateM.run_get, codec, allocated,
            compress_run_error window result, EStateM.run_set, EStateM.run_pure]
      | ok payload =>
          have payloadBound := bounded.within _ _ _ _ _ result
          have inside : params.headerRoom + payload.length ≤ array.length := by omega
          refine ⟨overwrite array params.headerRoom payload, payload.length, ?_,
            (length_overwrite inside).trans length, payloadBound⟩
          simp only [compressOnce, EStateM.run_bind, EStateM.run_get, codec, allocated,
            compress_run_ok window result payloadBound, EStateM.run_set, EStateM.run_pure]

/-- `work` compresses as `test` does. -/
theorem flush_of_queue (bounded : zstd.CompressBounded) {block : CompressImpl zstd}
    {pending : Bytes} (holds : Pending block pending) (ready : CodecReady params block) :
    (flush params pending.length).run block =
      match (compressQueue params pending.length).run block with
      | .ok actualCompressedSize after =>
          (buildMessage params pending.length actualCompressedSize).run after
      | .error fault after => .error fault after := by
  rcases ready.codec with ⟨context, codec⟩
  rcases holds.buffer with ⟨source, allocated, sourceLength, starts⟩
  obtain ⟨array, grown, length⟩ := grow_compressed_buffer_run params ready pending.length
  have loaded : 0 + pending.length ≤ source.length := by have := holds.room; omega
  rw [← dstCapacity] at grown length
  have window : params.headerRoom + dstCapacity block pending.length ≤ array.length := by omega
  cases result : zstd.compress2 context (dstCapacity block pending.length) pending with
  | mk next outcome =>
      cases outcome with
      | error code =>
          simp only [flush, compressQueue, compressOnce, EStateM.run_bind, grown,
            EStateM.run_get, codec, allocated, load_some loaded, List.drop_zero, starts,
            compress_run_error window result, EStateM.run_set, EStateM.run_pure,
            EStateM.run_modify]
      | ok payload =>
          have payloadBound := bounded.within _ _ _ _ _ result
          simp only [flush, compressQueue, compressOnce, EStateM.run_bind, grown,
            EStateM.run_get, codec, allocated, load_some loaded, List.drop_zero, starts,
            compress_run_ok window result payloadBound, EStateM.run_set, EStateM.run_pure,
            EStateM.run_modify]

/-- An answer makes a message from the buffer alone; only an error may make none. -/
theorem build_message_answered {block : CompressImpl zstd} (ready : CodecReady params block)
    {result : Except ErrorCode Bytes} {size : Nat}
    (answered : Answered block.compressedBufferSize result size) (queueSize : Nat) :
    ∃ final : Bytes, final.length = block.compressedBufferSize + params.headerRoom ∧
      (((∃ code, result = .error code) ∧ (buildMessage params queueSize size).run block =
          .error tooLarge { block with compressedBuffer := some final }) ∨
        ∃ pdu, (buildMessage params queueSize size).run block =
          .ok pdu { block with compressedBuffer := some final }) := by
  rcases ready.buffer with ⟨array, allocated, length⟩
  have headerBound := header_room_le params
  simp only [headerSize] at headerBound
  cases result with
  | ok payload =>
      have bound := ready.bounded
      have within : size ≤ block.compressedBufferSize := answered
      have inside : params.headerRoom + size ≤ array.length := by omega
      have window : ((array.drop params.headerRoom).take size).length = size := by
        rw [List.length_take, List.length_drop]
        omega
      have holds : block.compressedBuffer = some (overwrite array params.headerRoom
          ((array.drop params.headerRoom).take size)) := by rw [overwrite_same inside, allocated]
      obtain ⟨final, finalLength, built⟩ :=
        build_message_run params holds (by omega) (by omega) queueSize
      rw [window] at built
      exact ⟨final, finalLength.trans length, .inr ⟨_, built⟩⟩
  | error code =>
      have returned : size = code.toSize := answered
      obtain ⟨final, finalLength, built⟩ :=
        build_message_error params allocated (by omega) queueSize code
      refine ⟨final, finalLength.trans length, ?_⟩
      rw [returned]
      rcases built with failed | ⟨pdu, _, made⟩
      · exact .inl ⟨⟨code, rfl⟩, failed⟩
      · exact .inr ⟨pdu, made⟩

/-! ## Supplied requests -/

/-- The capacity covers the bound, is not exceeded, and was not too small. -/
structure RoomFor (zstd : Zstd) (request : Request) : Prop where
  bound : zstd.compressBound request.source.length ≤ request.capacity
  within : ∀ payload, request.result = .ok payload → payload.length ≤ request.capacity
  enough : ∀ code, request.result = .error code → ¬ErrorCode.TooSmall code

/-- The codec is ready, and every request so far had room; none was offered more
than the buffer has behind the header. -/
structure Supplied (block : CompressImpl (recording zstd)) : Prop where
  ready : CodecReady params block
  requests : ∀ request ∈ requests block,
    RoomFor zstd request ∧ request.capacity ≤ block.compressedBufferSize

theorem made_supplied : Supplied params (make params (recording zstd)) where
  ready := make_codec_ready params
  requests := by simp [requests, make, recording]

theorem request_has_room (bounded : zstd.CompressBounded) (boundSuffices : zstd.BoundSuffices)
    (context : zstd.Context) {capacity : Nat} {source : Bytes}
    (covers : zstd.compressBound source.length ≤ capacity) :
    RoomFor zstd
      { capacity := capacity
        source := source
        result := (zstd.compress2 context capacity source).2 } where
  bound := covers
  within payload result :=
    bounded.within context capacity source _ payload (Prod.ext rfl result)
  enough code result :=
    boundSuffices context capacity source _ code covers (Prod.ext rfl result)

section Requests

variable {params} {block : CompressImpl (recording zstd)}

/-- The codec and its buffer are all that `Supplied` speaks of. -/
theorem supplied_of_same {after : CompressImpl (recording zstd)} (supplied : Supplied params block)
    (codec : after.pCompressor = block.pCompressor)
    (buffer : after.compressedBuffer = block.compressedBuffer)
    (size : after.compressedBufferSize = block.compressedBufferSize) : Supplied params after where
  ready := codec_ready_of_same params supplied.ready codec buffer size
  requests := by
    have same : requests after = requests block := by simp only [requests, codec]
    rw [same, size]
    exact supplied.requests

/-- A buffer at least as large supplies what the old one did. -/
theorem supplied_replaced (supplied : Supplied params block) {array : Bytes} {size : Nat}
    (length : array.length = size + params.headerRoom) (more : block.compressedBufferSize ≤ size)
    (small : size < 2 ^ 62) :
    Supplied params
      { block with compressedBuffer := some array, compressedBufferSize := size } where
  ready := ⟨supplied.ready.codec, ⟨array, rfl, length⟩, small⟩
  requests := by
    intro request member
    obtain ⟨hasRoom, within⟩ := supplied.requests request member
    exact ⟨hasRoom, Nat.le_trans within more⟩

theorem grow_supplied (bounded : zstd.CompressBounded) (supplied : Supplied params block)
    {queueSize : Nat} (small : queueSize < 2 ^ 32) :
    ∃ array size, (growCompressedBuffer params queueSize).run block =
        .ok () { block with compressedBuffer := some array, compressedBufferSize := size } ∧
      Supplied params
        { block with compressedBuffer := some array, compressedBufferSize := size } ∧
      zstd.compressBound queueSize ≤ size := by
  obtain ⟨array, grown, length⟩ := grow_compressed_buffer_run params supplied.ready queueSize
  have modest := bounded.bound_modest queueSize small
  have capacity : max block.compressedBufferSize (zstd.compressBound queueSize) < 2 ^ 62 :=
    Nat.max_lt.2 ⟨supplied.ready.bounded, modest⟩
  exact ⟨array, _, grown, supplied_replaced supplied length (Nat.le_max_left _ _) capacity,
    Nat.le_max_right _ _⟩

/-- A request with room for its bound keeps all of them supplied. -/
theorem compress_once_supplied (bounded : zstd.CompressBounded)
    (boundSuffices : zstd.BoundSuffices) (supplied : Supplied params block) {source : Bytes}
    (covers : zstd.compressBound source.length ≤ block.compressedBufferSize) :
    ∃ next array size result,
      (compressOnce params source).run block =
        .ok size { block with pCompressor := some next, compressedBuffer := some array } ∧
      Supplied params { block with pCompressor := some next, compressedBuffer := some array } ∧
      next.2.getLast?.map Request.result = some result ∧
      Answered block.compressedBufferSize result size := by
  rcases supplied.ready.codec with ⟨context, codec⟩
  obtain ⟨array, size, ran, length, answered⟩ :=
    compress_once_run params (recording_bounded bounded) supplied.ready codec source
  refine ⟨_, array, size, _, ran, ⟨⟨⟨_, rfl⟩, ⟨array, rfl, length⟩, supplied.ready.bounded⟩, ?_⟩,
    ?_, answered⟩
  · intro request member
    have before : requests block = context.2 := by simp only [requests, codec]
    rcases List.mem_append.1 member with earlier | last
    · exact supplied.requests request (before ▸ earlier)
    · rw [List.mem_singleton.1 last]
      exact ⟨request_has_room bounded boundSuffices context.1 covers, Nat.le_refl _⟩
  · simp only [recording, List.getLast?_append, List.getLast?_singleton, Option.some_or,
      Option.map_some]

/-! ## Queueing, compressing, building -/

theorem enqueue_supplied {pending : Bytes} (holds : Pending block pending)
    (supplied : Supplied params block) (chunk : Chunk params.itemsize) (fits : chunk.Fits) :
    ∃ queued, (enqueue params chunk).run block =
        .ok (pending ++ chunk.bytes).length queued ∧
      Pending queued (pending ++ chunk.bytes) ∧ Supplied params queued := by
  obtain ⟨queued, enqueued, held, codec, buffer, size⟩ := enqueue_run params holds chunk fits
  rw [← List.length_append] at enqueued
  exact ⟨queued, enqueued, held, supplied_of_same supplied codec buffer size⟩

theorem compress_queue_supplied (bounded : zstd.CompressBounded)
    (boundSuffices : zstd.BoundSuffices) {pending : Bytes} (holds : Pending block pending)
    (supplied : Supplied params block) (small : pending.length < 2 ^ 32) :
    ∃ size after result, (compressQueue params pending.length).run block = .ok size after ∧
      Pending after [] ∧ Supplied params after ∧ lastResult after = some result ∧
      Answered after.compressedBufferSize result size := by
  rcases holds.buffer with ⟨source, allocated, sourceLength, starts⟩
  have loaded : 0 + pending.length ≤ source.length := by have := holds.room; omega
  obtain ⟨array, capacity, grown, suppliedGrown, covers⟩ := grow_supplied bounded supplied small
  obtain ⟨next, written, size, result, compressed, suppliedNext, last, answered⟩ :=
    compress_once_supplied bounded boundSuffices suppliedGrown covers
  let after : CompressImpl (recording zstd) :=
    { block with
      pCompressor := some next
      compressedBuffer := some written
      compressedBufferSize := capacity
      localWriteBufferNextIndex := 0 }
  have suppliedAfter : Supplied params after := supplied_of_same suppliedNext rfl rfl rfl
  refine ⟨size, after, result, ?_, ⟨⟨source, allocated, sourceLength, rfl⟩, rfl, Nat.zero_le _⟩,
    suppliedAfter, last, answered⟩
  simp only [compressQueue, EStateM.run_bind, grown, EStateM.run_get, allocated,
    load_some loaded, List.drop_zero, starts]
  rw [← allocated]
  simp only [compressed, EStateM.run_modify, EStateM.run_pure, after]

theorem build_message_supplied (holds : Pending block []) (supplied : Supplied params block)
    {result : Except ErrorCode Bytes} {size : Nat} (last : lastResult block = some result)
    (answered : Answered block.compressedBufferSize result size) (queueSize : Nat) :
    ∃ after, Pending after [] ∧ Supplied params after ∧
      (((∃ code, lastResult after = some (.error code)) ∧
          (buildMessage params queueSize size).run block = .error tooLarge after) ∨
        ∃ pdu, (buildMessage params queueSize size).run block = .ok pdu after) := by
  obtain ⟨final, length, built⟩ :=
    build_message_answered params supplied.ready answered queueSize
  refine ⟨{ block with compressedBuffer := some final }, ⟨holds.buffer, holds.index, holds.room⟩,
    supplied_replaced supplied length (Nat.le_refl _) supplied.ready.bounded, ?_⟩
  rcases built with ⟨⟨code, refused⟩, failed⟩ | made
  · left
    rw [refused] at last
    exact ⟨⟨code, last⟩, failed⟩
  · exact .inr made

end Requests

/-! ## The three calls -/

/-- What holds of the block between calls, before `stop`. -/
structure Roomy (block : CompressImpl (recording zstd)) : Prop where
  pending : ∃ pending, Pending block pending ∧
    pending.length < params.compressionBlockSize.value
  supplied : Supplied params block

/-- A call fails only if a size does not fit an `int`, or if no message can be
made of the error that zstd returned. -/
def Excused (fits : Prop) (fault : Fault) (block : CompressImpl (recording zstd)) : Prop :=
  (fault = tooLarge ∧ ∃ code, lastResult block = some (.error code)) ∨
    (fault = .signedOverflow ∧ ¬fits)

/-- The call has room for all that it does. -/
def Accommodated (fits : Prop) {Out : Type}
    (call : EStateM Fault (TestedCompress (recording zstd)) Out)
    (tested : TestedCompress (recording zstd)) : Prop :=
  match call.run tested with
  | .ok _ after => Roomy params after.block
  | .error fault after => Roomy params after.block ∧ Excused fits fault after.block

section Calls

variable {params} {fits : Prop} {Out : Type} {tested after : TestedCompress (recording zstd)}
  {call : EStateM Fault (TestedCompress (recording zstd)) Out}

theorem accommodated_ok {out : Out} (ran : call.run tested = .ok out after)
    (roomy : Roomy params after.block) : Accommodated params fits call tested := by
  simp only [Accommodated, ran]
  exact roomy

theorem accommodated_error {fault : Fault} (ran : call.run tested = .error fault after)
    (roomy : Roomy params after.block) (excused : Excused fits fault after.block) :
    Accommodated params fits call tested := by
  simp only [Accommodated, ran]
  exact ⟨roomy, excused⟩

/-- What a call returns does not matter. -/
theorem accommodated_discard (accommodated : Accommodated params fits call tested) :
    Accommodated params fits (do let _ ← call) tested := by
  unfold Accommodated at accommodated ⊢
  rw [EStateM.run_bind]
  cases ran : call.run tested with
  | ok out after => simpa only [ran, EStateM.run_pure] using accommodated
  | error fault after => simpa only [ran] using accommodated

/-- The queue that is left after the new bytes were added to it. -/
theorem enqueue_roomy {block : CompressImpl (recording zstd)} (roomy : Roomy params block)
    (chunk : Chunk params.itemsize) (fits : chunk.Fits) :
    ∃ queue queued, (enqueue params chunk).run block = .ok queue.length queued ∧
      Pending queued queue ∧ Supplied params queued ∧ queue.length < 2 ^ 32 := by
  rcases roomy.pending with ⟨pending, holds, below⟩
  obtain ⟨queued, enqueued, held, supplied⟩ := enqueue_supplied holds roomy.supplied chunk fits
  exact ⟨pending ++ chunk.bytes, queued, enqueued, held, supplied,
    queue_small params below fits⟩

/-- A queue that is compressed leaves room, whether a message is made or not. -/
theorem queue_made_message (bounded : zstd.CompressBounded) (boundSuffices : zstd.BoundSuffices)
    {block : CompressImpl (recording zstd)} {queue : Bytes} (holds : Pending block queue)
    (supplied : Supplied params block) (small : queue.length < 2 ^ 32) :
    ∃ size compressed final, (compressQueue params queue.length).run block = .ok size compressed ∧
      (flush params queue.length).run block =
        (buildMessage params queue.length size).run compressed ∧
      Roomy params final ∧
      (((∃ code, lastResult final = some (.error code)) ∧
          (buildMessage params queue.length size).run compressed = .error tooLarge final) ∨
        ∃ pdu, (buildMessage params queue.length size).run compressed = .ok pdu final) := by
  obtain ⟨size, compressed, result, ran, empty, suppliedCompressed, last, answered⟩ :=
    compress_queue_supplied bounded boundSuffices holds supplied small
  have flushed := flush_of_queue params (recording_bounded bounded) holds supplied.ready
  rw [ran] at flushed
  obtain ⟨final, emptyFinal, suppliedFinal, built⟩ :=
    build_message_supplied empty suppliedCompressed last answered queue.length
  have roomy : Roomy params final :=
    ⟨⟨[], emptyFinal, params.compressionBlockSize.positive⟩, suppliedFinal⟩
  exact ⟨size, compressed, final, ran, flushed, roomy, built⟩

theorem work_accommodated (bounded : zstd.CompressBounded) (boundSuffices : zstd.BoundSuffices)
    (roomy : Roomy params tested.block) (chunk : Chunk params.itemsize) :
    Accommodated params chunk.Fits (onBlock (work params chunk)) tested := by
  by_cases fits : chunk.Fits
  · obtain ⟨queue, queued, enqueued, holds, supplied, small⟩ := enqueue_roomy roomy chunk fits
    by_cases reaches : params.compressionBlockSize.value ≤ queue.length
    · obtain ⟨size, compressed, final, _, flushed, worked, built⟩ :=
        queue_made_message bounded boundSuffices holds supplied small
      rcases built with ⟨refused, failed⟩ | ⟨pdu, made⟩
      · have stopped : (work params chunk).run tested.block = .error tooLarge final := by
          simp only [work, EStateM.run_bind, enqueued, if_pos reaches, flushed, failed]
        exact accommodated_error (within_error stopped) worked (.inl ⟨rfl, refused⟩)
      · have returned : (work params chunk).run tested.block =
            .ok { returned := chunk.noutputItems, published := [pdu] } final := by
          simp only [work, EStateM.run_bind, enqueued, if_pos reaches, flushed, made,
            EStateM.run_pure]
        exact accommodated_ok (within_ok returned) worked
    · have returned : (work params chunk).run tested.block =
          .ok { returned := chunk.noutputItems, published := [] } queued := by
        simp only [work, EStateM.run_bind, enqueued, if_neg reaches, EStateM.run_pure]
      exact accommodated_ok (within_ok returned)
        ⟨⟨queue, holds, Nat.lt_of_not_le reaches⟩, supplied⟩
  · apply accommodated_error (within_error (work_overflows params tested.block chunk fits)) roomy
    exact .inr ⟨rfl, fits⟩

theorem test_accommodated (bounded : zstd.CompressBounded) (boundSuffices : zstd.BoundSuffices)
    (roomy : Roomy params tested.block) (chunk : Chunk params.itemsize) :
    Accommodated params chunk.Fits (test params chunk) tested := by
  by_cases fits : chunk.Fits
  · obtain ⟨queue, queued, enqueued, holds, supplied, small⟩ := enqueue_roomy roomy chunk fits
    have enqueued : (onBlock (enqueue params chunk)).run tested = _ := within_ok enqueued
    by_cases reaches : params.compressionBlockSize.value ≤ queue.length
    · obtain ⟨size, compressed, final, ran, _, worked, built⟩ :=
        queue_made_message bounded boundSuffices holds supplied small
      have ran : (onBlock (compressQueue params queue.length)).run
          { tested with block := queued } = _ := within_ok ran
      rcases built with ⟨refused, failed⟩ | ⟨pdu, made⟩
      · have failed : (onBlock (buildMessage params queue.length size)).run
            { block := compressed, compressedSize := size } = _ := within_error failed
        have stopped : (test params chunk).run tested =
            .error tooLarge { block := final, compressedSize := size } := by
          simp only [test, EStateM.run_bind, enqueued, if_pos reaches, ran, EStateM.run_modify,
            failed]
        exact accommodated_error stopped worked (.inl ⟨rfl, refused⟩)
      · have made : (onBlock (buildMessage params queue.length size)).run
            { block := compressed, compressedSize := size } = _ := within_ok made
        have returned : (test params chunk).run tested =
            .ok chunk.noutputItems { block := final, compressedSize := size } := by
          simp only [test, EStateM.run_bind, enqueued, if_pos reaches, ran, EStateM.run_modify,
            made, EStateM.run_pure]
        exact accommodated_ok returned worked
    · have returned : (test params chunk).run tested =
          .ok chunk.noutputItems { tested with block := queued } := by
        simp only [test, EStateM.run_bind, enqueued, if_neg reaches, EStateM.run_pure]
      exact accommodated_ok returned ⟨⟨queue, holds, Nat.lt_of_not_le reaches⟩, supplied⟩
  · have overflows : (onBlock (enqueue params chunk)).run tested = _ :=
      within_error (enqueue_overflows params chunk fits)
    have stopped : (test params chunk).run tested = .error .signedOverflow tested := by
      simp only [test, EStateM.run_bind, overflows]
    exact accommodated_error stopped roomy (.inr ⟨rfl, fits⟩)

/-! ### timeCompression -/

/-- What holds while the 64000 bytes are compressed again and again. -/
structure Timing (params : CompressParams) (block : CompressImpl (recording zstd)) : Prop where
  roomy : Roomy params block
  source : timedSize ≤ block.localWriteBufferSize
  covers : zstd.compressBound timedSize ≤ block.compressedBufferSize

/-- As many bytes are pending as before; which ones they are may change. -/
theorem grow_for_timing_run {block : CompressImpl (recording zstd)} (roomy : Roomy params block)
    (contents : Contents) :
    ∃ after, (growForTiming contents).run block = .ok () after ∧ Roomy params after ∧
      timedSize ≤ after.localWriteBufferSize := by
  by_cases grows : block.localWriteBufferSize < timedSize
  · rcases roomy.pending with ⟨pending, holds, below⟩
    have room := holds.room
    have length := contents.length_eq
    have kept : (contents.bytes.take pending.length).length = pending.length := by
      rw [List.length_take]
      omega
    refine ⟨{ block with
        localWriteBuffer := some contents.bytes
        localWriteBufferSize := timedSize }, ?_,
      ⟨⟨contents.bytes.take pending.length, ⟨⟨contents.bytes, rfl, length, ?_⟩, ?_, ?_⟩, ?_⟩,
        supplied_of_same roomy.supplied rfl rfl rfl⟩, Nat.le_refl _⟩
    · simp only [growForTiming, EStateM.run_modify, if_pos grows]
    · rw [kept]
    · rw [kept, ← holds.index]
    · rw [kept]
      show pending.length ≤ timedSize
      omega
    · rw [kept]
      exact below
  · refine ⟨block, ?_, roomy, Nat.le_of_not_lt grows⟩
    simp only [growForTiming, EStateM.run_modify, if_neg grows]

theorem compress_buffer_run (bounded : zstd.CompressBounded) (boundSuffices : zstd.BoundSuffices)
    {block : CompressImpl (recording zstd)} (timing : Timing params block) (contents : Contents) :
    ∃ after, (compressBuffer params contents).run block = .ok () after ∧
      Timing params after := by
  rcases timing.roomy.pending with ⟨pending, holds, below⟩
  rcases holds.buffer with ⟨array, allocated, length, starts⟩
  have source := timing.source
  have loaded : 0 + timedSize ≤ array.length := by omega
  have sourceLength : (((array.drop 0).take timedSize).take block.localWriteBufferNextIndex ++
      contents.bytes.drop block.localWriteBufferNextIndex).length = timedSize := by
    have contentsLength := contents.length_eq
    rw [List.length_append, List.length_take, List.length_take, List.length_drop,
      List.length_drop]
    omega
  obtain ⟨next, written, size, _, ran, supplied, _⟩ := compress_once_supplied bounded
    boundSuffices timing.roomy.supplied (sourceLength ▸ timing.covers)
  have stillTiming : Timing params
      { block with pCompressor := some next, compressedBuffer := some written } :=
    ⟨⟨⟨pending, ⟨holds.buffer, holds.index, holds.room⟩, below⟩, supplied⟩, source,
      timing.covers⟩
  refine ⟨_, ?_, stillTiming⟩
  simp only [compressBuffer, EStateM.run_bind, EStateM.run_get, allocated, load_some loaded]
  rw [← allocated]
  simp only [ran, EStateM.run_pure]

theorem compress_times_run (bounded : zstd.CompressBounded) (boundSuffices : zstd.BoundSuffices)
    (contents : Contents) (iterations : Nat) {block : CompressImpl (recording zstd)}
    (timing : Timing params block) :
    ∃ after, (compressTimes params contents iterations).run block = .ok () after ∧
      Timing params after := by
  induction iterations generalizing block with
  | zero => exact ⟨block, rfl, timing⟩
  | succ iterations induction =>
      obtain ⟨next, once, stillTiming⟩ :=
        compress_buffer_run bounded boundSuffices timing contents
      obtain ⟨after, more, ended⟩ := induction stillTiming
      refine ⟨after, ?_, ended⟩
      simp only [compressTimes, EStateM.run_bind, once, more]

theorem time_compression_accommodated (bounded : zstd.CompressBounded)
    (boundSuffices : zstd.BoundSuffices) (roomy : Roomy params tested.block)
    (contents : Contents) :
    Accommodated params True (timeCompression params contents) tested := by
  obtain ⟨grown, grew, roomyGrown, source⟩ := grow_for_timing_run roomy contents
  rcases roomyGrown.pending with ⟨pending, holds, below⟩
  have small : timedSize < 2 ^ 32 := by decide
  obtain ⟨array, size, ready, supplied, covers⟩ :=
    grow_supplied bounded roomyGrown.supplied small
  have timing : Timing params
      { grown with compressedBuffer := some array, compressedBufferSize := size } :=
    ⟨⟨⟨pending, ⟨holds.buffer, holds.index, holds.room⟩, below⟩, supplied⟩, source, covers⟩
  obtain ⟨after, timed, ended⟩ :=
    compress_times_run bounded boundSuffices contents (1 + 100) timing
  have returned : (timeCompression params contents).run tested =
      .ok () { tested with block := after } := by
    apply within_ok
    simp only [EStateM.run_bind, grew, ready, timed]
  exact accommodated_ok returned ended.roomy

theorem compress_call_accommodated (bounded : zstd.CompressBounded)
    (boundSuffices : zstd.BoundSuffices) (roomy : Roomy params tested.block)
    (call : CompressCall params) :
    Accommodated params call.Fits (compressCall params call) tested := by
  cases call with
  | work chunk =>
      apply accommodated_discard
      exact work_accommodated bounded boundSuffices roomy chunk
  | test chunk =>
      apply accommodated_discard
      exact test_accommodated bounded boundSuffices roomy chunk
  | timeCompression contents =>
      exact time_compression_accommodated bounded boundSuffices roomy contents

end Calls

/-! ## Runs -/

theorem calls_roomy (bounded : zstd.CompressBounded) (boundSuffices : zstd.BoundSuffices)
    (calls : List (CompressCall params)) :
    Roomy params
      (leaveAll (compressCall params) (makeTested params (recording zstd)) calls).block := by
  apply leave_all_invariant (compressCall params) (fun _ => True)
    (fun tested => Roomy params tested.block)
  · intro before call _ roomy
    have accommodated := compress_call_accommodated bounded boundSuffices roomy call
    unfold Accommodated at accommodated
    cases ran : (compressCall params call).run before with
    | ok out after =>
        rw [leave_of_ok ran]
        rw [ran] at accommodated
        exact accommodated
    | error fault after =>
        rw [leave_of_error ran]
        rw [ran] at accommodated
        exact accommodated.1
  · exact fun _ _ => trivial
  · exact ⟨⟨[], make_pending params, params.compressionBlockSize.positive⟩, made_supplied params⟩

/-- The pending bytes are within their buffer, both buffers are as large as
recorded, and every request had room and a window inside the buffer. -/
structure HasRoom (block : CompressImpl zstd) (requests : List Request) : Prop where
  pending : block.localWriteBufferNextIndex ≤ block.localWriteBufferSize
  localWriteBuffer : ∃ array, block.localWriteBuffer = some array ∧
    array.length = block.localWriteBufferSize
  compressedBuffer : ∃ array, block.compressedBuffer = some array ∧
    array.length = block.compressedBufferSize + params.headerRoom
  requests : ∀ request ∈ requests,
    RoomFor zstd request ∧ request.capacity ≤ block.compressedBufferSize

theorem roomy_has_room {block : CompressImpl (recording zstd)} (roomy : Roomy params block) :
    HasRoom params (forget block) (requests block) := by
  rcases roomy.pending with ⟨pending, holds, _⟩
  rcases holds.buffer with ⟨array, allocated, length, _⟩
  have room := holds.room
  rw [← holds.index] at room
  exact ⟨room, ⟨array, allocated, length⟩, roomy.supplied.ready.buffer,
    roomy.supplied.requests⟩

/-- In every state that calls of `work`, `test` and `timeCompression` reach, there
is room for the pending bytes and there was room for every request so far. A
further call does not leave its buffers either: it fails, if it does, for a size
that does not fit an `int` or for want of a message. -/
theorem compressor_has_room (bounded : zstd.CompressBounded) (boundSuffices : zstd.BoundSuffices)
    (params : CompressParams) (calls : List (CompressCall params)) :
    let reached := leaveAll (compressCall params) (makeTested params zstd) calls
    let recorded := leaveAll (compressCall params) (makeTested params (recording zstd)) calls
    HasRoom params reached.block (requests recorded.block) ∧
      ∀ call fault after, (compressCall params call).run reached = .error fault after →
        Excused call.Fits fault (leave (compressCall params) recorded call).block := by
  intro reached recorded
  have roomy : Roomy params recorded.block := calls_roomy params bounded boundSuffices calls
  have forgotten : reached = forgetTested recorded := calls_seen params calls
  constructor
  · rw [forgotten]
    exact roomy_has_room params roomy
  · intro call fault after failed
    have same : (compressCall params call).run (forgetTested recorded) = _ :=
      compress_call_seen params recorded call
    have accommodated := compress_call_accommodated bounded boundSuffices roomy call
    unfold Accommodated at accommodated
    rw [← forgotten, failed] at same
    cases ran : (compressCall params call).run recorded with
    | ok out next =>
        rw [ran] at same
        simp [seen] at same
    | error fault' next =>
        rw [ran, seen, EStateM.Result.error.injEq] at same
        rw [ran] at accommodated
        rw [same.1, leave_of_error ran]
        exact accommodated.2

/-- Six of eight bytes are queued, `timeCompression` replaces their buffer, and
`test` compresses what is then found there with the four that follow. -/
theorem compressor_has_room_three_calls :
    let params : CompressParams := ⟨⟨2, by decide, by decide⟩, ⟨8, by decide, by decide⟩, 1, true⟩
    let calls : List (CompressCall params) :=
      [.work ⟨3, [1, 2, 3, 4, 5, 6], rfl⟩,
        .timeCompression ⟨List.replicate timedSize 0, List.length_replicate⟩,
        .test ⟨2, [7, 8, 9, 10], rfl⟩]
    HasRoom params (leaveAll (compressCall params) (makeTested params storedZstd) calls).block
      (requests
        (leaveAll (compressCall params) (makeTested params (recording storedZstd)) calls).block) :=
  (compressor_has_room stored_compress_bounded stored_bound_suffices _ _).1

end GrCompress.CompressorRoom
