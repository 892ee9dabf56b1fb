import GrCompress.CompressBlock
import GrCompress.StoredFrameCodec

/-!
# Failing compression

`compress_impl::work` does not ask whether `ZStdCompressor::compress` returned a
size or an error code; `ZStdDecompressor::decompress` does ask. An error code is
a `size_t` close to 2^64, so as a `long` it is a small negative number: the blob
cannot be created, or with a header it is a few bytes of the buffer. In either
case the pending bytes have been dropped before.
-/

namespace GrCompress.CompressFailure

open GrCompress.CallRuns
open GrCompress.CheckedStorage
open GrCompress.ZstdCodec
open GrCompress.RecordFormat
open GrCompress.CompressBlock
open GrCompress.StoredFrameCodec

set_option autoImplicit false

variable {zstd : Zstd} (params : CompressParams)

/-- An error code as a `long`. -/
theorem to_long_error (code : ErrorCode) : toLong code.toSize = -(code.val + 1 : Int) := by
  have bound := code.isLt
  unfold toLong ErrorCode.toSize
  split <;> omega

/-- The exception of a vector of more than `max_size()` bytes. -/
def tooLarge : Fault := .exception "cannot create std::vector larger than max_size()"

/-- Of an error code and a few bytes of header no blob is made, or one of fewer
bytes than the header. -/
theorem make_blob_error {array : Bytes} {room : Nat} (roomLe : room ≤ headerSize)
    (inside : room ≤ array.length) (code : ErrorCode) (block : CompressImpl zstd) :
    (makeBlob (some array) (-(code.val + 1 : Int) + room)).run block = .error tooLarge block ∨
      ∃ blob, (makeBlob (some array) (-(code.val + 1 : Int) + room)).run block =
        .ok blob block := by
  have bound := code.isLt
  simp only [headerSize] at roomLe
  by_cases few : code.val < room
  · have size : toSize (-(code.val + 1 : Int) + room) = room - 1 - code.val := by
      unfold toSize
      omega
    have loaded : 0 + (room - 1 - code.val) ≤ array.length := by omega
    have small : room - 1 - code.val < 2 ^ 63 := by omega
    right
    simp only [makeBlob, size, if_pos small, load_some loaded]
    exact ⟨_, rfl⟩
  · have huge : ¬toSize (-(code.val + 1 : Int) + room) < 2 ^ 63 := by
      unfold toSize
      omega
    left
    simp only [makeBlob, if_neg huge]
    rfl

/-- A message built from an error code is not made, or has a negative size. -/
theorem build_message_error {block : CompressImpl zstd} {array : Bytes}
    (allocated : block.compressedBuffer = some array) (room : params.headerRoom ≤ array.length)
    (queueSize : Nat) (code : ErrorCode) :
    ∃ final : Bytes, final.length = array.length ∧
      ((buildMessage params queueSize code.toSize).run block =
          .error tooLarge { block with compressedBuffer := some final } ∨
        ∃ pdu, pdu.compressedSize < 0 ∧ (buildMessage params queueSize code.toSize).run block =
          .ok pdu { block with compressedBuffer := some final }) := by
  have size := to_long_error code
  have negative : (-(code.val + 1 : Int)) < 0 := by omega
  have unchanged : { block with compressedBuffer := some array } = block := by rw [← allocated]
  have roomLe := header_room_le params
  cases header : params.addHeader with
  | false =>
      refine ⟨array, rfl, ?_⟩
      rw [unchanged]
      rcases make_blob_error roomLe room code block with failed | ⟨blob, made⟩
      · left
        simp only [buildMessage, header, Bool.false_eq_true, if_false, EStateM.run_bind,
          EStateM.run_get, size, allocated, failed]
      · right
        simp only [buildMessage, header, Bool.false_eq_true, if_false, EStateM.run_bind,
          EStateM.run_pure, EStateM.run_get, size, allocated, made]
        refine ⟨_, ?_, rfl⟩
        exact negative
  | true =>
      have headerRoom : params.headerRoom = headerSize := by
        simp [CompressParams.headerRoom, header]
      have width := header_bytes_length (headerFor queueSize code.toSize)
      have stored : 0 + (headerFor queueSize code.toSize).bytes.length ≤ array.length := by
        omega
      have length := length_overwrite stored
      refine ⟨_, length, ?_⟩
      rw [← length] at room
      rcases make_blob_error roomLe room code { block with compressedBuffer := some (overwrite
          array 0 (headerFor queueSize code.toSize).bytes) } with failed | ⟨blob, made⟩
      · left
        simp only [buildMessage, header, if_true, EStateM.run_bind, EStateM.run_get,
          EStateM.run_set, size, allocated, store_some stored, failed]
      · right
        simp only [buildMessage, header, if_true, EStateM.run_bind, EStateM.run_get,
          EStateM.run_set, size, allocated, store_some stored, made, EStateM.run_pure]
        refine ⟨_, ?_, rfl⟩
        exact negative

/-- Compression that returns an error drops the pending bytes all the same. -/
theorem flush_error {block : CompressImpl zstd} {pending : Bytes}
    (holds : Pending block pending) (ready : CodecReady params block)
    (modest : zstd.compressBound pending.length < 2 ^ 62) {context next : zstd.Context}
    (codec : block.pCompressor = some context) {code : ErrorCode}
    (result : zstd.compress2 context (dstCapacity block pending.length) pending =
      (next, .error code)) :
    ∃ after, Pending after [] ∧ CodecReady params after ∧
      ((∃ fault, (flush params pending.length).run block = .error fault after) ∨
        ∃ pdu, pdu.compressedSize < 0 ∧ (flush params pending.length).run block =
          .ok pdu after) := by
  obtain ⟨array, length, _, drops⟩ := flush_until_message params holds ready codec
  have capacity : dstCapacity block pending.length < 2 ^ 62 := Nat.max_lt.2 ⟨ready.bounded, modest⟩
  rcases holds.buffer with ⟨source, allocated, sourceLength, _⟩
  let dropped : CompressImpl zstd :=
    { block with
      pCompressor := some next
      compressedBuffer := some array
      compressedBufferSize := dstCapacity block pending.length
      localWriteBufferNextIndex := 0 }
  have buffer : dropped.compressedBuffer = some array := rfl
  obtain ⟨final, finalLength, built⟩ :=
    build_message_error params buffer (by omega) pending.length code
  refine ⟨{ dropped with compressedBuffer := some final },
    ⟨⟨source, allocated, sourceLength, rfl⟩, rfl, Nat.zero_le _⟩,
    ⟨⟨next, rfl⟩, ⟨final, rfl, finalLength.trans length⟩, capacity⟩, ?_⟩
  rw [drops next code result]
  exact built.imp_left fun failed => ⟨tooLarge, failed⟩

/-! ## One call -/

/-- The call makes the queue long enough to be compressed. -/
def Triggers (block : CompressImpl zstd) (chunk : Chunk params.itemsize) : Prop :=
  params.compressionBlockSize.value ≤ (pendingBytes block ++ chunk.bytes).length

instance (block : CompressImpl zstd) (chunk : Chunk params.itemsize) :
    Decidable (Triggers params block chunk) :=
  inferInstanceAs (Decidable (params.compressionBlockSize.value ≤ _))

/-- The sizes of the header that belongs to a payload are those of the payload. -/
def HeaderDescribes (uncompressedSize : Nat) (payload : Bytes) : Prop :=
  (headerFor uncompressedSize payload.length).uncompressedSize.toNat = uncompressedSize ∧
    (headerFor uncompressedSize payload.length).compressedSize.toNat = payload.length

/-- The message describes a payload that zstd made of `plain` within its capacity. -/
def Publishes (zstd : Zstd) (capacity : Nat) (plain : Bytes) (published : List Pdu) : Prop :=
  ∃ context next payload, zstd.compress2 context capacity plain = (next, .ok payload) ∧
    payload.length ≤ capacity ∧
    published = [payloadPdu params.addHeader plain.length payload] ∧
    (params.addHeader = true → HeaderDescribes plain.length payload)

/-- The call publishes all pending bytes, or nothing and keeps them pending. -/
def Accounted (block : CompressImpl zstd) (chunk : Chunk params.itemsize) : Prop :=
  match (work params chunk).run block with
  | .ok output after =>
      Publishes params zstd after.compressedBufferSize (pendingBytes block ++ chunk.bytes)
          output.published ∨
        (output.published = [] ∧ pendingBytes after = pendingBytes block ++ chunk.bytes)
  | .error _ after => pendingBytes after = pendingBytes block ++ chunk.bytes

/-- zstd returns a size for the pending bytes; with a header, one it has room for. -/
def Compresses (block : CompressImpl zstd) (chunk : Chunk params.itemsize) : Prop :=
  ∃ context next payload, block.pCompressor = some context ∧
    zstd.compress2 context (dstCapacity block (pendingBytes block ++ chunk.bytes).length)
      (pendingBytes block ++ chunk.bytes) = (next, .ok payload) ∧
    (params.addHeader = true → payload.length < 2 ^ 32)

theorem header_describes_iff {size : Nat} (sizeFits : size < 2 ^ 32) (payload : Bytes) :
    HeaderDescribes size payload ↔ payload.length < 2 ^ 32 := by
  have stored : ∀ length : Nat, (UInt32.ofInt (length : Int)).toNat = length % 2 ^ 32 := by
    intro length
    rw [UInt32.ofInt, UInt32.toNat_ofNat']
    omega
  simp only [HeaderDescribes, headerFor, stored]
  omega

/-- The queue that a triggering call is going to compress. -/
structure Queued (block queued : CompressImpl zstd) (chunk : Chunk params.itemsize) : Prop where
  enqueued : (enqueue params chunk).run block =
    .ok (pendingBytes block ++ chunk.bytes).length queued
  holds : Pending queued (pendingBytes block ++ chunk.bytes)
  ready : CodecReady params queued
  codec : queued.pCompressor = block.pCompressor
  capacity : ∀ queueSize, dstCapacity queued queueSize = dstCapacity block queueSize
  small : (pendingBytes block ++ chunk.bytes).length < 2 ^ 32

theorem enqueue_queued {block : CompressImpl zstd} {pending : Bytes}
    (invariant : Invariant params block pending) (chunk : Chunk params.itemsize)
    (fits : chunk.Fits) : ∃ queued, Queued params block queued chunk := by
  obtain ⟨queued, enqueued, holds, codec, buffer, bufferSize⟩ :=
    enqueue_run params invariant.holds chunk fits
  have bytes := pending_bytes_eq invariant.holds
  have ready := codec_ready_of_same params invariant.ready codec buffer bufferSize
  have small := queue_small params invariant.below fits
  refine ⟨queued, ⟨?_, by rwa [bytes], ready, codec, fun _ => ?_, by rwa [bytes]⟩⟩
  · rw [bytes, List.length_append]
    exact enqueued
  · rw [dstCapacity, dstCapacity, bufferSize]

theorem work_of_flush {block queued : CompressImpl zstd} {chunk : Chunk params.itemsize}
    (queue : Queued params block queued chunk) (triggers : Triggers params block chunk) :
    (work params chunk).run block =
      match (flush params (pendingBytes block ++ chunk.bytes).length).run queued with
      | .ok pdu after => .ok { returned := chunk.noutputItems, published := [pdu] } after
      | .error fault after => .error fault after := by
  unfold Triggers at triggers
  simp only [work, EStateM.run_bind, queue.enqueued, if_pos triggers]
  cases (flush params (pendingBytes block ++ chunk.bytes).length).run queued with
  | ok pdu after => rfl
  | error fault after => rfl

section Outcome

variable {block : CompressImpl zstd} {chunk : Chunk params.itemsize}
  {context next : zstd.Context} {payload : Bytes}

theorem not_compresses_error (codec : block.pCompressor = some context) {code : ErrorCode}
    (result : zstd.compress2 context (dstCapacity block (pendingBytes block ++ chunk.bytes).length)
      (pendingBytes block ++ chunk.bytes) = (next, .error code)) :
    ¬Compresses params block chunk := by
  rintro ⟨context', _, _, codec', result', _⟩
  rw [codec, Option.some.injEq] at codec'
  subst codec'
  rw [result] at result'
  simp at result'

theorem compresses_payload_iff (codec : block.pCompressor = some context)
    (result : zstd.compress2 context (dstCapacity block (pendingBytes block ++ chunk.bytes).length)
      (pendingBytes block ++ chunk.bytes) = (next, .ok payload)) :
    Compresses params block chunk ↔ (params.addHeader = true → payload.length < 2 ^ 32) := by
  constructor
  · rintro ⟨context', _, other, codec', result', small⟩
    rw [codec, Option.some.injEq] at codec'
    subst codec'
    rw [result, Prod.mk.injEq, Except.ok.injEq] at result'
    rcases result' with ⟨rfl, rfl⟩
    exact small
  · intro small
    exact ⟨context, next, payload, codec, result, small⟩

/-- A message made of a payload is right if its header is. -/
theorem publishes_payload_iff {capacity : Nat} {plain : Bytes} (sizeFits : plain.length < 2 ^ 32)
    (result : zstd.compress2 context capacity plain = (next, .ok payload))
    (room : payload.length ≤ capacity) :
    Publishes params zstd capacity plain [payloadPdu params.addHeader plain.length payload] ↔
      (params.addHeader = true → payload.length < 2 ^ 32) := by
  constructor
  · rintro ⟨_, _, other, _, _, same, describes⟩ header
    rw [List.cons.injEq] at same
    have payloads := congrArg (fun pdu : Pdu => pdu.blob.drop pdu.payloadOffset) same.1
    simp only [payload_pdu_blob_drop] at payloads
    rw [payloads]
    exact (header_describes_iff sizeFits other).1 (describes header)
  · intro small
    exact ⟨context, next, payload, result, room, rfl,
      fun header => (header_describes_iff sizeFits payload).2 (small header)⟩

/-- A message with a negative size has no payload. -/
theorem not_publishes_negative {capacity : Nat} {plain : Bytes} {pdu : Pdu}
    (negative : pdu.compressedSize < 0) : ¬Publishes params zstd capacity plain [pdu] := by
  rintro ⟨_, _, payload, _, _, same, _⟩
  rw [List.cons.injEq] at same
  rw [same.1, payload_pdu_compressed_size] at negative
  omega

end Outcome

/-- Bytes that were dropped are not pending any more. -/
theorem dropped_not_pending {after : CompressImpl zstd} (empty : Pending after [])
    {pending : Bytes} (nonempty : 0 < pending.length) : ¬pendingBytes after = pending := by
  intro same
  rw [pending_bytes_eq empty] at same
  rw [← same] at nonempty
  simp at nonempty

theorem accounted_iff (bounded : zstd.CompressBounded) {block : CompressImpl zstd}
    {pending : Bytes} (invariant : Invariant params block pending)
    (chunk : Chunk params.itemsize) (fits : chunk.Fits)
    (triggers : Triggers params block chunk) :
    Accounted params block chunk ↔ Compresses params block chunk := by
  obtain ⟨queued, queue⟩ := enqueue_queued params invariant chunk fits
  have ran := work_of_flush params queue triggers
  have modest := bounded.bound_modest _ queue.small
  have nonempty : 0 < (pendingBytes block ++ chunk.bytes).length :=
    Nat.lt_of_lt_of_le params.compressionBlockSize.positive triggers
  rcases invariant.ready.codec with ⟨context, codec⟩
  have queuedCodec : queued.pCompressor = some context := queue.codec.trans codec
  cases result : zstd.compress2 context
      (dstCapacity block (pendingBytes block ++ chunk.bytes).length)
      (pendingBytes block ++ chunk.bytes) with
  | mk next outcome =>
      cases outcome with
      | error code =>
          obtain ⟨after, empty, _, flushed⟩ := flush_error params queue.holds queue.ready modest
            queuedCodec (by rw [queue.capacity]; exact result)
          refine iff_of_false ?_ (not_compresses_error params codec result)
          rcases flushed with ⟨fault, failed⟩ | ⟨pdu, negative, made⟩
          · simp only [Accounted, ran, failed]
            exact dropped_not_pending empty nonempty
          · simp only [Accounted, ran, made]
            rintro (published | ⟨none, _⟩)
            · exact not_publishes_negative params negative published
            · simp at none
      | ok payload =>
          have payloadBound := bounded.within _ _ _ _ _ result
          obtain ⟨after, flushed, empty, _, capacity⟩ := flush_compressed params queue.holds
            queue.ready modest queuedCodec (by rw [queue.capacity]; exact result)
            (by rw [queue.capacity]; exact payloadBound)
          rw [queue.capacity] at capacity
          rw [compresses_payload_iff params codec result,
            ← publishes_payload_iff params queue.small result payloadBound]
          simp only [Accounted, ran, flushed, capacity]
          exact or_iff_left fun kept => by simp at kept

/-! ## Runs -/

theorem work_below {block queued : CompressImpl zstd} {chunk : Chunk params.itemsize}
    (queue : Queued params block queued chunk) (below : ¬Triggers params block chunk) :
    (work params chunk).run block =
      .ok { returned := chunk.noutputItems, published := [] } queued := by
  unfold Triggers at below
  simp only [work, EStateM.run_bind, queue.enqueued, if_neg below, EStateM.run_pure]

/-- Whatever zstd returns, a flush empties the queue and keeps the codec ready. -/
theorem flush_empties (bounded : zstd.CompressBounded) {block : CompressImpl zstd}
    {pending : Bytes} (holds : Pending block pending) (ready : CodecReady params block)
    (small : pending.length < 2 ^ 32) :
    ∃ after, Pending after [] ∧ CodecReady params after ∧
      ((∃ fault, (flush params pending.length).run block = .error fault after) ∨
        ∃ pdu, (flush params pending.length).run block = .ok pdu after) := by
  have modest := bounded.bound_modest _ small
  rcases ready.codec with ⟨context, codec⟩
  cases result : zstd.compress2 context (dstCapacity block pending.length) pending with
  | mk next outcome =>
      cases outcome with
      | error code =>
          obtain ⟨after, empty, afterReady, flushed⟩ :=
            flush_error params holds ready modest codec result
          exact ⟨after, empty, afterReady, flushed.imp_right fun ⟨pdu, _, made⟩ => ⟨pdu, made⟩⟩
      | ok payload =>
          obtain ⟨after, flushed, empty, afterReady, _⟩ := flush_compressed params holds ready
            modest codec result (bounded.within _ _ _ _ _ result)
          exact ⟨after, empty, afterReady, .inr ⟨_, flushed⟩⟩

/-- A call leaves the invariant, whatever it comes to. -/
theorem leave_invariant (bounded : zstd.CompressBounded) (block : CompressImpl zstd)
    (chunk : Chunk params.itemsize) (fits : chunk.Fits)
    (invariant : ∃ pending, Invariant params block pending) :
    ∃ pending, Invariant params (leave (work params) block chunk) pending := by
  rcases invariant with ⟨pending, invariant⟩
  obtain ⟨queued, queue⟩ := enqueue_queued params invariant chunk fits
  by_cases triggers : Triggers params block chunk
  · have ran := work_of_flush params queue triggers
    have positive := params.compressionBlockSize.positive
    obtain ⟨after, empty, ready, flushed⟩ :=
      flush_empties params bounded queue.holds queue.ready queue.small
    refine ⟨[], ?_⟩
    rcases flushed with ⟨fault, failed⟩ | ⟨pdu, made⟩
    · rw [leave_of_error (ran.trans (by rw [failed]))]
      exact ⟨empty, ready, positive⟩
    · rw [leave_of_ok (ran.trans (by rw [made]))]
      exact ⟨empty, ready, positive⟩
  · refine ⟨pendingBytes block ++ chunk.bytes, ?_⟩
    rw [leave_of_ok (work_below params queue triggers)]
    exact ⟨queue.holds, queue.ready, Nat.lt_of_not_le triggers⟩

theorem reached_invariant (bounded : zstd.CompressBounded)
    (chunks : List (Chunk params.itemsize)) (fits : ∀ chunk ∈ chunks, chunk.Fits) :
    ∃ pending, Invariant params (leaveAll (work params) (make params zstd) chunks) pending := by
  apply leave_all_invariant (work params) Chunk.Fits
    (fun block => ∃ pending, Invariant params block pending) ?_ chunks fits (make params zstd)
    ⟨[], make_invariant params⟩
  intro before chunk chunkFits invariant
  exact leave_invariant params bounded before chunk chunkFits invariant

/-- After any calls, returned or thrown, a call that compresses accounts for the
pending bytes exactly if zstd returns a size that the header has room for. -/
theorem compressor_accounts_iff (bounded : zstd.CompressBounded)
    (chunks : List (Chunk params.itemsize)) (fits : ∀ chunk ∈ chunks, chunk.Fits)
    (chunk : Chunk params.itemsize) (chunkFits : chunk.Fits)
    (triggers : Triggers params (leaveAll (work params) (make params zstd) chunks) chunk) :
    Accounted params (leaveAll (work params) (make params zstd) chunks) chunk ↔
      Compresses params (leaveAll (work params) (make params zstd) chunks) chunk := by
  obtain ⟨pending, invariant⟩ := reached_invariant params bounded chunks fits
  exact accounted_iff params bounded invariant chunk chunkFits triggers

/-- One byte at a time, compressed at once, without a header. -/
def bytewise : CompressParams where
  itemsize := .one
  compressionBlockSize := .one
  numThreads := 0
  addHeader := false

def oneByte : Chunk bytewise.itemsize where
  noutputItems := 1
  bytes := [7]
  length_eq := rfl

/-- A zstd that has run out of memory. -/
def exhaustedZstd : Zstd :=
  { storedZstd with compress2 := fun context _ _ => (context, .error memoryAllocation) }

theorem exhausted_never_compresses {context next : exhaustedZstd.Context} {capacity : Nat}
    {source payload : Bytes} :
    exhaustedZstd.compress2 context capacity source ≠ (next, .ok payload) := by
  intro result
  have outcome : (.error memoryAllocation : Except ErrorCode Bytes) = .ok payload :=
    congrArg Prod.snd result
  simp at outcome

/-- The call throws, publishes nothing and keeps nothing. -/
theorem error_code_drops_pending :
    exhaustedZstd.CompressBounded ∧
      Triggers bytewise (make bytewise exhaustedZstd) oneByte ∧
      ¬Accounted bytewise (make bytewise exhaustedZstd) oneByte := by
  have bounded : exhaustedZstd.CompressBounded :=
    ⟨stored_compress_bounded.bound_modest,
      fun _ _ _ _ _ result => absurd result exhausted_never_compresses⟩
  have triggers : Triggers bytewise (make bytewise exhaustedZstd) oneByte := by decide
  refine ⟨bounded, triggers, ?_⟩
  rw [accounted_iff bytewise bounded (make_invariant bytewise) oneByte (by decide) triggers]
  rintro ⟨_, _, _, _, result, _⟩
  exact exhausted_never_compresses result

theorem compressor_accounts_iff_one_byte :
    Accounted bytewise (leaveAll (work bytewise) (make bytewise storedZstd) []) oneByte :=
  (compressor_accounts_iff bytewise stored_compress_bounded [] (by simp) oneByte (by decide)
    (by decide)).2 ⟨(), (), store [7], rfl, rfl, by simp [bytewise]⟩

end GrCompress.CompressFailure
