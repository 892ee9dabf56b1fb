import GrCompress.DecompressBlock
import GrCompress.FilePlayback
import GrCompress.StreamBlocks

/-!
# The two decoders

The record format is read in two places: `CompressedFileSource` pulls records
from a file, and `StreamToDecompressionMsg` with the decompress block behind it
is pushed the same bytes in pieces. Both are simulations of one grammar, the
framing of records, so they agree on every byte string.
-/

namespace GrCompress.DecoderAgreement

open GrCompress.CallRuns
open GrCompress.CheckedStorage
open GrCompress.LengthFraming
open GrCompress.ZstdCodec
open GrCompress.RecordFormat
open GrCompress.StreamBlocks (StreamToDecompressionMsg)
open GrCompress.DecompressBlock (DecompressParams DecompressImpl UncompressedPdu)
open GrCompress.FileSourceBlock (SourceParams workDone)
open GrCompress.FilePlayback
open GrCompress.StoredFrameCodec

set_option autoImplicit false

variable (zstd : Zstd) (decompressor : DecompressParams)

/-- The parser and the decompress block behind it. -/
structure StreamDecoder where
  toMsg : StreamToDecompressionMsg
  decompress : DecompressImpl

def StreamDecoder.make : StreamDecoder where
  toMsg := .make
  decompress := DecompressBlock.make

/-- Parse a piece of the stream and deliver each message it completes, in order. -/
def decodePiece (piece : Bytes) : EStateM Fault StreamDecoder (List (List UncompressedPdu)) := do
  let output ← within StreamDecoder.toMsg (fun block decoder => { decoder with toMsg := block })
    (StreamToDecompressionMsg.work piece)
  within StreamDecoder.decompress (fun block decoder => { decoder with decompress := block })
    (runAll (DecompressBlock.compressedIn zstd decompressor) output.published)

def decodeStream (pieces : List Bytes) :
    EStateM.Result Fault StreamDecoder (List (List (List UncompressedPdu))) :=
  (runAll (decodePiece zstd decompressor) pieces).run .make

/-- The parser carries the tail of what it was fed; the decompress block has
queued what the complete records decode to. -/
structure Decoding (fed : Bytes) (decoder : StreamDecoder) : Prop where
  carried : decoder.toMsg.carried = tail recordFraming fed
  queued : decoder.decompress.byteQueue = decodedContent zstd fed
  parserBacked : decoder.toMsg.localWriteBuffer.Backed
  decompressBacked : decoder.decompress.localWriteBuffer.Backed

theorem decoding_start : Decoding zstd [] .make where
  carried := by
    simp [StreamDecoder.make, StreamToDecompressionMsg.carried, StreamToDecompressionMsg.make]
  queued := by simp [StreamDecoder.make, DecompressBlock.make, decodedContent, records]
  parserBacked := new_backed 64000
  decompressBacked := new_backed 64000

/-- The records that a piece completes are exactly what it adds to the decoding. -/
theorem decode_piece_run (bounded : zstd.DecompressBounded) {fed : Bytes}
    {decoder : StreamDecoder} (decoding : Decoding zstd fed decoder) (piece : Bytes) :
    ∃ out after, (decodePiece zstd decompressor piece).run decoder = .ok out after ∧
      Decoding zstd (fed ++ piece) after := by
  obtain ⟨parser, parsed, carried, _, parserBacked⟩ :=
    StreamBlocks.parse_run piece decoding.parserBacked
  rw [decoding.carried] at parsed carried
  have wellFormed : ∀ pdu ∈ (records (tail recordFraming fed ++ piece)).map recordPdu,
      DecompressBlock.Readable pdu ∧
        (messageBytes zstd pdu).length ≤ pdu.uncompressedSize.toNat := by
    intro pdu member
    obtain ⟨record, _, rfl⟩ := List.mem_map.1 member
    exact ⟨DecompressBlock.record_pdu_readable record,
      DecompressBlock.record_pdu_bounded zstd bounded record⟩
  obtain ⟨out, block, deliveries, queue, backed⟩ := DecompressBlock.deliver_messages_run zstd
    decompressor _ wellFormed decoding.decompressBacked
  refine ⟨out, { toMsg := parser, decompress := block }, ?_,
    ⟨carried.trans (tail_append fed piece).symm, ?_, parserBacked, backed⟩⟩
  · have first : (within StreamDecoder.toMsg
        (fun block decoder => ({ decoder with toMsg := block } : StreamDecoder))
        (StreamToDecompressionMsg.work piece)).run decoder =
          .ok _ { decoder with toMsg := parser } := within_ok parsed
    simp only [decodePiece, EStateM.run_bind, first]
    exact within_ok deliveries
  · rw [queue, decoding.queued, messages_bytes_record_pdus, decodedContent, decodedContent,
      records_append fed, records_bytes_append]

theorem decode_stream_run (bounded : zstd.DecompressBounded) (pieces : List Bytes) :
    ∃ outs final, decodeStream zstd decompressor pieces = .ok outs final ∧
      Decoding zstd pieces.flatten final := by
  apply run_all_total (decodePiece zstd decompressor) (fun _ => True)
    (fun fed _ decoder => Decoding zstd fed.flatten decoder) ?_ pieces (fun _ _ => trivial) _
    (decoding_start zstd)
  intro fed outs before piece _ decoding
  obtain ⟨out, after, ran, next⟩ := decode_piece_run zstd decompressor bounded decoding piece
  exact ⟨out, after, ran, by simpa using next⟩

/-- The file source and the stream decoder agree on every byte string, however
it is cut and requested. -/
theorem decoders_agree (bounded : zstd.DecompressBounded) (source : SourceParams)
    (pieces : List Bytes) (requests : List Nat) :
    ∃ outputs played outs decoder,
      play zstd source pieces.flatten false requests = .ok outputs played ∧
      decodeStream zstd decompressor pieces = .ok outs decoder ∧
      decoder.decompress.byteQueue = decodedContent zstd pieces.flatten ∧
      ((∃ output ∈ outputs, output.returned = workDone) →
        delivered outputs ++ played.byteQueue = decoder.decompress.byteQueue) := by
  obtain ⟨outputs, played, initial, ran, _, decoded, exhausted⟩ :=
    play_once_run zstd source bounded pieces.flatten requests
  obtain ⟨outs, decoder, streamed, decoding⟩ :=
    decode_stream_run zstd decompressor bounded pieces
  refine ⟨outputs, played, outs, decoder, ran, streamed, decoding.queued, ?_⟩
  intro ended
  rw [decoded, exhausted ended, decoding.queued]
  rfl

/-- A file cut inside its header. -/
theorem decoders_agree_three_bytes :
    ∃ outputs played outs decoder,
      play storedZstd { itemsize := 1, itemsize_pos := by decide } threeByteFile false [5] =
        .ok outputs played ∧
      decodeStream storedZstd { itemsize := 1, itemsize_pos := by decide, sendMsg := false }
        [threeByteFile.take 3, threeByteFile.drop 3] = .ok outs decoder ∧
      decoder.decompress.byteQueue = [0x61, 0x62, 0x63] := by
  obtain ⟨outputs, played, outs, decoder, ran, decoded, queue, _⟩ :=
    decoders_agree storedZstd { itemsize := 1, itemsize_pos := by decide, sendMsg := false }
      stored_decompress_bounded { itemsize := 1, itemsize_pos := by decide }
      [threeByteFile.take 3, threeByteFile.drop 3] [5]
  have whole : [threeByteFile.take 3, threeByteFile.drop 3].flatten = threeByteFile := by
    simp [List.take_append_drop]
  rw [whole] at ran queue
  exact ⟨outputs, played, outs, decoder, ran, decoded, by rw [queue, three_byte_file_content]⟩

end GrCompress.DecoderAgreement
