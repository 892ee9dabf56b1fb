import GrCompress.CompressBlock
import GrCompress.StoredFrameCodec

/-!
# The block size discipline of `compress_impl::work`

Between calls fewer than `compressionBlockSize` bytes are pending. A call
publishes a message exactly when the block size is reached, and the message is
then about everything that was pending and everything the call brought.
-/

namespace GrCompress.BlockDiscipline

open GrCompress.CallRuns
open GrCompress.CheckedStorage
open GrCompress.ThresholdBatching
open GrCompress.ZstdCodec
open GrCompress.RecordFormat
open GrCompress.CompressBlock
open GrCompress.StoredFrameCodec

set_option autoImplicit false

variable {zstd : Zstd} (params : CompressParams)

/-- What a message says, and what it holds, when a call publishes it on top of
the bytes that were pending. -/
structure Disciplined (zstd : Zstd) (pending : Bytes) (chunk : Chunk params.itemsize) (pdu : Pdu) :
    Prop where
  size : pdu.uncompressedSize = (pending ++ chunk.bytes).length
  restores : ∀ room, (pending ++ chunk.bytes).length ≤ room →
    zstd.decompressDCtx room (pdu.blob.drop pdu.payloadOffset) = .ok (pending ++ chunk.bytes)
  atLeast : params.compressionBlockSize.value ≤ pdu.uncompressedSize
  below : pdu.uncompressedSize < params.compressionBlockSize.value + chunk.bytes.length
  aligned : (params.itemsize.value : Int) ∣ pdu.uncompressedSize
  shape : pdu.hasHeader = params.addHeader
  blob : (pdu.blob.length : Int) = pdu.compressedSize + (if params.addHeader then 8 else 0)

theorem pending_aligned (chunks : List (Chunk params.itemsize)) :
    params.itemsize.value ∣ (batches params chunks).2.length := by
  apply batch_divides (Nat.dvd_zero _)
  intro bytes member
  rw [List.mem_map] at member
  rcases member with ⟨chunk, _, rfl⟩
  rw [chunk.length_eq]
  exact Nat.dvd_mul_left _ _

theorem disciplined_of_published (roundTrips : zstd.RoundTrips) {pending : Bytes}
    {chunk : Chunk params.itemsize} {pdu : Pdu}
    (below : pending.length < params.compressionBlockSize.value)
    (aligned : params.itemsize.value ∣ pending.length)
    (reaches : params.compressionBlockSize.value ≤ pending.length + chunk.bytes.length)
    (published : PublishedFor zstd params pdu (pending ++ chunk.bytes)) :
    Disciplined params zstd pending chunk pdu := by
  rcases published with ⟨context, capacity, next, payload, _, _, result, rfl⟩
  have length : (pending ++ chunk.bytes).length = pending.length + chunk.bytes.length :=
    List.length_append
  have chunkAligned : params.itemsize.value ∣ chunk.bytes.length := by
    rw [chunk.length_eq]
    exact Nat.dvd_mul_left _ _
  have blobLength :=
    payload_pdu_blob_length params.addHeader (pending ++ chunk.bytes).length payload
  refine ⟨rfl, ?_, ?_, ?_, ?_, rfl, ?_⟩
  · intro room enough
    rw [payload_pdu_blob_drop]
    exact roundTrips _ _ _ _ _ result room enough
  · rw [payload_pdu_uncompressed_size]
    omega
  · rw [payload_pdu_uncompressed_size]
    omega
  · rw [payload_pdu_uncompressed_size, length]
    exact Int.natCast_dvd_natCast.2 (Nat.dvd_add aligned chunkAligned)
  · rw [blobLength, payload_pdu_compressed_size, Pdu.payloadOffset, payload_pdu_has_header]
    split
    · simp only [headerSize]
      omega
    · omega

/-- After any calls, one more call leaves less than a block pending and publishes
at most one message, exactly when the block size is reached; the message covers
the range of the input that follows the ranges of the messages before it. -/
theorem block_size_discipline (succeeds : zstd.CompressSucceeds) (roundTrips : zstd.RoundTrips)
    (earlier : List (Chunk params.itemsize)) (fits : ∀ chunk ∈ earlier, chunk.Fits)
    (chunk : Chunk params.itemsize) (chunkFits : chunk.Fits) :
    ∃ outputs before output after,
      (runAll (work params) earlier).run (make params zstd) = .ok outputs before ∧
      (work params chunk).run before = .ok output after ∧
      (pendingBytes after).length < params.compressionBlockSize.value ∧
      output.published.length ≤ 1 ∧
      (output.published ≠ [] ↔
        params.compressionBlockSize.value ≤ (pendingBytes before).length + chunk.bytes.length) ∧
      messagesBytes zstd (publishedMessages outputs) ++ (pendingBytes before ++ chunk.bytes) =
        consumedBytes params (earlier ++ [chunk]) ∧
      ∀ pdu ∈ output.published, Disciplined params zstd (pendingBytes before) chunk pdu := by
  obtain ⟨outputs, before, ran, invariant⟩ := work_run_total params succeeds earlier fits
  obtain ⟨output, after, called, _, published, afterInvariant⟩ :=
    work_run params succeeds invariant.state chunk chunkFits
  have pending := pending_bytes_eq invariant.state.holds
  have below := invariant.state.below
  have aligned := pending_aligned params earlier
  have covered : messagesBytes zstd (publishedMessages outputs) ++
      (pendingBytes before ++ chunk.bytes) = consumedBytes params (earlier ++ [chunk]) := by
    have sofar := batches_conserve params earlier
    rw [messages_bytes_published params roundTrips invariant.published, pending,
      ← List.append_assoc, sofar]
    simp [consumedBytes]
  refine ⟨outputs, before, output, after, ran, called, ?_, ?_⟩
  · rw [pending_bytes_eq afterInvariant.holds]
    exact afterInvariant.below
  · rw [pending] at covered ⊢
    generalize output.published = messages at published ⊢
    by_cases reaches : params.compressionBlockSize.value ≤
        (batches params earlier).2.length + chunk.bytes.length
    · rw [push_reaches reaches] at published
      cases published with
      | cons head rest =>
          cases rest with
          | nil =>
              refine ⟨by simp, iff_of_true (by simp) reaches, covered, ?_⟩
              intro pdu member
              rw [List.mem_singleton.1 member]
              exact disciplined_of_published params roundTrips below aligned reaches head
    · rw [push_below (by omega)] at published
      cases published with
      | nil => exact ⟨by simp, iff_of_false (by simp) reaches, covered, by simp⟩

/-- Blocks of twelve bytes in items of two. -/
def blocksOfTwo : CompressParams where
  itemsize := ⟨2, Nat.two_pos, by decide⟩
  compressionBlockSize := ⟨12, by decide, by decide⟩
  numThreads := 0
  addHeader := true

/-- Two bytes are pending when ten more arrive. -/
theorem block_size_discipline_twelve_bytes :
    ∃ outputs before output after,
      (runAll (work blocksOfTwo) [⟨1, [1, 2], rfl⟩]).run (make blocksOfTwo storedZstd) =
        .ok outputs before ∧
      (work blocksOfTwo ⟨5, List.replicate 10 7, rfl⟩).run before = .ok output after ∧
      (pendingBytes after).length < 12 ∧
      ∀ pdu ∈ output.published, Disciplined blocksOfTwo storedZstd (pendingBytes before)
        ⟨5, List.replicate 10 7, rfl⟩ pdu := by
  have fits : ∀ chunk ∈ [(⟨1, [1, 2], rfl⟩ : Chunk blocksOfTwo.itemsize)], chunk.Fits := by
    decide
  obtain ⟨outputs, before, output, after, ran, called, below, _, _, _, messages⟩ :=
    block_size_discipline blocksOfTwo stored_compress_succeeds stored_round_trips
      [⟨1, [1, 2], rfl⟩] fits ⟨5, List.replicate 10 7, rfl⟩ (by decide)
  exact ⟨outputs, before, output, after, ran, called, below, messages⟩

end GrCompress.BlockDiscipline
