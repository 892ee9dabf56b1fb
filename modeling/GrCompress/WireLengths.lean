import GrCompress.CompressFailure
import GrCompress.StreamBlocks

/-!
# Lengths on the way to the wire

The sizes of a message are 64 bits wide in its metadata, 32 bits in a header, and
the length of its payload passes through an `int` in `CompressedMsgToStream`. A
block of up to 2 GiB and a codec that may expand its input can produce a payload
that an `int` cannot count, and then the payload does not follow its header.
-/

namespace GrCompress.WireLengths

open GrCompress.CallRuns
open GrCompress.ZstdCodec
open GrCompress.RecordFormat
open GrCompress.CompressBlock
open GrCompress.CompressFailure
open GrCompress.StoredFrameCodec
open GrCompress.StreamBlocks (CompressedMsgToStream compressedIn compressed_in_queues)

set_option autoImplicit false

/-- The header that the message carries, or that the file sink and
`CompressedMsgToStream` build from its metadata. -/
def wireHeader (pdu : Pdu) : CompressionHeader :=
  if pdu.hasHeader then CompressionHeader.ofBytes (pdu.blob.take headerSize)
  else headerFor pdu.uncompressedSize pdu.compressedSize

/-- `int dataLength`. -/
def dataLength (pdu : Pdu) : Int := toInt ((pdu.blob.length : Int) - pdu.payloadOffset)

/-- All lengths of the message are what they are in its metadata, and what is
queued is the header and the whole payload. -/
structure Survives (pdu : Pdu) : Prop where
  uncompressed : ((wireHeader pdu).uncompressedSize.toNat : Int) = pdu.uncompressedSize
  compressed : ((wireHeader pdu).compressedSize.toNat : Int) = pdu.compressedSize
  payload : dataLength pdu = (pdu.blob.drop pdu.payloadOffset).length
  queued : ∀ block : CompressedMsgToStream, (compressedIn pdu).run block =
    .ok () { byteQueue := block.byteQueue ++ (wireHeader pdu).bytes ++
      pdu.blob.drop pdu.payloadOffset }

theorem wire_header_payload_pdu (hasheader : Bool) (size : Nat) (payload : Bytes) :
    wireHeader (payloadPdu hasheader size payload) = headerFor size payload.length := by
  cases hasheader with
  | false => rfl
  | true =>
      have header : (payloadPdu true size payload).blob.take headerSize =
          (headerFor size payload.length).bytes := List.take_left' (header_bytes_length _)
      rw [wireHeader, payload_pdu_has_header, if_pos rfl, header, of_bytes_bytes_self]

theorem data_length_payload_pdu (hasheader : Bool) (size : Nat) (payload : Bytes) :
    dataLength (payloadPdu hasheader size payload) = toInt payload.length := by
  have length := payload_pdu_blob_length hasheader size payload
  have rest : ((payloadPdu hasheader size payload).blob.length : Int) -
      (payloadPdu hasheader size payload).payloadOffset = payload.length := by omega
  rw [dataLength, rest]

/-- The narrowest place decides. -/
theorem survives_iff (hasheader : Bool) {size : Nat} (sizeFits : size < 2 ^ 32) (payload : Bytes) :
    Survives (payloadPdu hasheader size payload) ↔ payload.length < 2 ^ 31 := by
  constructor
  · intro survives
    have narrowed := survives.payload
    rw [data_length_payload_pdu, payload_pdu_blob_drop] at narrowed
    exact (to_int_natCast_iff payload.length).1 narrowed
  · intro small
    obtain ⟨uncompressed, compressed⟩ :=
      (header_describes_iff sizeFits payload).2 (by omega)
    have narrowed := (to_int_natCast_iff payload.length).2 small
    refine ⟨?_, ?_, ?_, ?_⟩
    · rw [wire_header_payload_pdu, uncompressed, payload_pdu_uncompressed_size]
    · rw [wire_header_payload_pdu, compressed, payload_pdu_compressed_size]
    · rw [data_length_payload_pdu, payload_pdu_blob_drop, narrowed]
    · intro block
      rw [compressed_in_queues, wire_header_payload_pdu, payload_pdu_blob_drop, narrowed,
        Int.toNat_natCast, List.take_length]

/-! ## Runs -/

variable {zstd : Zstd} (params : CompressParams)

/-- The bound of `zstd.h`, and a codec that succeeds within it. -/
structure CompressesWithinBound (zstd : Zstd) : Prop where
  bound_eq : ∀ size, zstd.compressBound size = bound size
  succeeds : ∀ context capacity source, bound source.length ≤ capacity →
    ∃ next payload, zstd.compress2 context capacity source = (next, .ok payload) ∧
      payload.length ≤ bound source.length

theorem succeeds_of_within_bound (within : CompressesWithinBound zstd) :
    zstd.CompressSucceeds where
  bound_modest size small := by
    rw [within.bound_eq, bound]
    split <;> omega
  succeeds context capacity source room := by
    rw [within.bound_eq] at room
    obtain ⟨next, payload, result, payloadBound⟩ := within.succeeds context capacity source room
    exact ⟨next, payload, result, Nat.le_trans payloadBound room⟩

/-- zstd stays within its bound, whatever capacity it is offered. -/
theorem payload_within_bound (within : CompressesWithinBound zstd) {context next : zstd.Context}
    {capacity : Nat} {source payload : Bytes} (room : bound source.length ≤ capacity)
    (result : zstd.compress2 context capacity source = (next, .ok payload)) :
    payload.length ≤ bound source.length := by
  obtain ⟨next', payload', result', within'⟩ := within.succeeds context capacity source room
  rw [result] at result'
  rcases result' with ⟨rfl, rfl⟩
  exact within'

/-- zstd returned this payload to one of the calls. -/
def Returned (zstd : Zstd) (chunks : List (Chunk params.itemsize)) (payload : Bytes) : Prop :=
  ∃ earlier chunk outs block, earlier ++ [chunk] <+: chunks ∧
    (runAll (work params) earlier).run (make params zstd) = .ok outs block ∧
    Triggers params block chunk ∧
    ∃ context next, block.pCompressor = some context ∧
      zstd.compress2 context (dstCapacity block (pendingBytes block ++ chunk.bytes).length)
        (pendingBytes block ++ chunk.bytes) = (next, .ok payload)

/-- A triggering call publishes what zstd returned to it. -/
theorem triggering_call_run (succeeds : zstd.CompressSucceeds) {block : CompressImpl zstd}
    {pending : Bytes} (invariant : Invariant params block pending)
    {chunk : Chunk params.itemsize} (fits : chunk.Fits)
    (triggers : Triggers params block chunk) :
    ∃ context next payload after, block.pCompressor = some context ∧
      zstd.compress2 context (dstCapacity block (pendingBytes block ++ chunk.bytes).length)
        (pendingBytes block ++ chunk.bytes) = (next, .ok payload) ∧
      (pendingBytes block ++ chunk.bytes).length < 2 ^ 32 ∧
      (work params chunk).run block =
        .ok { returned := chunk.noutputItems
              published := [payloadPdu params.addHeader
                (pendingBytes block ++ chunk.bytes).length payload] } after := by
  obtain ⟨queued, queue⟩ := enqueue_queued params invariant chunk fits
  have modest := succeeds.bound_modest _ queue.small
  rcases invariant.ready.codec with ⟨context, codec⟩
  obtain ⟨next, payload, result, payloadBound⟩ := succeeds.succeeds context
    (dstCapacity block (pendingBytes block ++ chunk.bytes).length)
    (pendingBytes block ++ chunk.bytes) (Nat.le_max_right _ _)
  have queuedResult := result
  rw [← queue.capacity] at queuedResult payloadBound
  obtain ⟨after, flushed, _⟩ := flush_compressed params queue.holds queue.ready modest
    (queue.codec.trans codec) queuedResult payloadBound
  refine ⟨context, next, payload, after, codec, result, queue.small, ?_⟩
  rw [work_of_flush params queue triggers, flushed]

/-- A message of a run holds what zstd returned to one of its calls. -/
theorem published_iff_returned (succeeds : zstd.CompressSucceeds)
    {chunks : List (Chunk params.itemsize)} (fits : ∀ chunk ∈ chunks, chunk.Fits)
    {outputs : List MessageOutput} {final : CompressImpl zstd}
    (ran : (runAll (work params) chunks).run (make params zstd) = .ok outputs final) :
    (∀ pdu ∈ publishedMessages outputs, ∃ size payload, size < 2 ^ 32 ∧
        Returned params zstd chunks payload ∧ pdu = payloadPdu params.addHeader size payload) ∧
      ∀ payload, Returned params zstd chunks payload → ∃ size, size < 2 ^ 32 ∧
        payloadPdu params.addHeader size payload ∈ publishedMessages outputs := by
  constructor
  · intro pdu member
    obtain ⟨output, made, published⟩ := List.mem_flatMap.1 member
    obtain ⟨earlier, chunk, outs, block, after, segment, sofar, called⟩ :=
      (mem_outputs_iff (work params) ran output).1 made
    have invariant := (work_run_returned params succeeds sofar).state
    have chunkFits := fits chunk (segment.subset (by simp))
    by_cases triggers : Triggers params block chunk
    · obtain ⟨context, next, payload, after', codec, result, small, called'⟩ :=
        triggering_call_run params succeeds invariant chunkFits triggers
      obtain ⟨rfl, rfl⟩ := ok_unique called called'
      exact ⟨_, payload, small,
        ⟨earlier, chunk, outs, block, segment, sofar, triggers, context, next, codec, result⟩,
        List.mem_singleton.1 published⟩
    · obtain ⟨queued, queue⟩ := enqueue_queued params invariant chunk chunkFits
      obtain ⟨rfl, rfl⟩ := ok_unique called (work_below params queue triggers)
      simp at published
  · rintro payload ⟨earlier, chunk, outs, block, segment, sofar, triggers, context, next, codec,
      result⟩
    have invariant := (work_run_returned params succeeds sofar).state
    have chunkFits := fits chunk (segment.subset (by simp))
    obtain ⟨context', next', payload', after, codec', result', small, called⟩ :=
      triggering_call_run params succeeds invariant chunkFits triggers
    rw [codec, Option.some.injEq] at codec'
    subst codec'
    rw [result, Prod.mk.injEq, Except.ok.injEq] at result'
    rcases result' with ⟨rfl, rfl⟩
    refine ⟨_, small, List.mem_flatMap.2 ⟨_, (mem_outputs_iff (work params) ran _).2
      ⟨earlier, chunk, outs, block, after, segment, sofar, called⟩, by simp⟩⟩

/-- In every run the lengths of all messages survive exactly if each payload that
zstd returns is shorter than 2^31 bytes. -/
theorem lengths_survive_iff (within : CompressesWithinBound zstd)
    (chunks : List (Chunk params.itemsize)) (fits : ∀ chunk ∈ chunks, chunk.Fits) :
    ∃ outputs final, (runAll (work params) chunks).run (make params zstd) = .ok outputs final ∧
      ((∀ pdu ∈ publishedMessages outputs, Survives pdu) ↔
        ∀ payload, Returned params zstd chunks payload → payload.length < 2 ^ 31) := by
  have succeeds := succeeds_of_within_bound within
  obtain ⟨outputs, final, ran, _⟩ := work_run_total params succeeds chunks fits
  obtain ⟨returned, published⟩ := published_iff_returned params succeeds fits ran
  refine ⟨outputs, final, ran, ?_, ?_⟩
  · intro survive payload made
    obtain ⟨size, sizeFits, member⟩ := published payload made
    exact (survives_iff params.addHeader sizeFits payload).1 (survive _ member)
  · intro small pdu member
    obtain ⟨size, payload, sizeFits, made, rfl⟩ := returned pdu member
    exact (survives_iff params.addHeader sizeFits payload).2 (small payload made)

theorem stored_within_bound : CompressesWithinBound storedZstd where
  bound_eq _ := rfl
  succeeds _ capacity source room := by
    have fits : (store source).length ≤ capacity :=
      Nat.le_trans (store_length_le_bound source) room
    exact ⟨(), store source, stored_compress_run fits _, store_length_le_bound source⟩

/-- Single bytes in the largest blocks there are. -/
def largestBlocks : CompressParams where
  itemsize := .one
  compressionBlockSize := ⟨2 ^ 31 - 1, by decide, by decide⟩
  numThreads := 0
  addHeader := false

theorem stored_returned (bytes : Bytes) (length : bytes.length = (2 ^ 31 - 1) * 1) :
    Returned largestBlocks storedZstd [⟨2 ^ 31 - 1, bytes, length⟩] (store bytes) := by
  have pending : pendingBytes (make largestBlocks storedZstd) = [] :=
    pending_bytes_eq (make_pending largestBlocks)
  refine ⟨[], _, [], make largestBlocks storedZstd, List.prefix_refl _, rfl, ?_, (), (), rfl, ?_⟩
  · rw [Triggers, pending, List.nil_append, length]
    decide
  · have fits : (store bytes).length ≤ dstCapacity (make largestBlocks storedZstd) bytes.length :=
      Nat.le_trans (store_length_le_bound bytes) (Nat.le_max_right _ _)
    rw [pending, List.nil_append]
    exact stored_compress_run fits _

/-- A chunk of 2^31 - 1 bytes that grows by one byte: its payload is 2^31 bytes
long, `dataLength` is -2^31 and nothing follows the header. -/
theorem payload_too_long_for_int :
    ∃ chunk : Chunk largestBlocks.itemsize, chunk.Fits ∧ ∃ outputs final,
      (runAll (work largestBlocks) [chunk]).run (make largestBlocks storedZstd) =
        .ok outputs final ∧
      ∃ pdu ∈ publishedMessages outputs, pdu.compressedSize = 2 ^ 31 ∧
        dataLength pdu = -2 ^ 31 ∧ ¬Survives pdu := by
  obtain ⟨bytes, length⟩ : ∃ bytes : Bytes, bytes.length = (2 ^ 31 - 1) * 1 :=
    ⟨List.replicate ((2 ^ 31 - 1) * 1) 0, List.length_replicate⟩
  have stored : (store bytes).length = 2 ^ 31 := by
    rw [store, if_neg (by omega), List.length_cons]
    omega
  have fits : ∀ chunk ∈ [(⟨2 ^ 31 - 1, bytes, length⟩ : Chunk largestBlocks.itemsize)],
      chunk.Fits := by
    intro chunk member
    rw [List.mem_singleton.1 member]
    show (2 ^ 31 - 1) * 1 < 2 ^ 31
    decide
  obtain ⟨outputs, final, ran, _⟩ :=
    work_run_total largestBlocks stored_compress_succeeds _ fits
  obtain ⟨size, sizeFits, member⟩ :=
    (published_iff_returned largestBlocks stored_compress_succeeds fits ran).2 _
      (stored_returned bytes length)
  refine ⟨_, fits _ List.mem_cons_self, outputs, final, ran, _, member, ?_, ?_, ?_⟩
  · rw [payload_pdu_compressed_size, stored]
    rfl
  · rw [data_length_payload_pdu, stored]
    decide
  · rw [survives_iff _ sizeFits, stored]
    decide

theorem lengths_survive_iff_one_byte :
    ∃ outputs final,
      (runAll (work bytewise) [oneByte]).run (make bytewise storedZstd) = .ok outputs final ∧
      ((∀ pdu ∈ publishedMessages outputs, Survives pdu) ↔
        ∀ payload, Returned bytewise storedZstd [oneByte] payload → payload.length < 2 ^ 31) :=
  lengths_survive_iff bytewise stored_within_bound [oneByte] (by decide)

end GrCompress.WireLengths
