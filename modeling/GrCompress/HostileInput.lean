import GrCompress.DecompressBlock
import GrCompress.FilePlayback
import GrCompress.StoredFrameCodec
import GrCompress.StreamBlocks

/-!
# Input with arbitrary sizes

The byte-level readers, `CompressedFileSource` and `StreamToDecompressionMsg`,
compare the sizes of a header with what they have read and with the buffers they
use. They stay within their storage whatever the bytes are.

The message handlers take the sizes of a message from its dictionary and do not
compare them with the blob; `decompress` asks for the blob's length and does not
use it. What they access lies within the message and the buffer exactly when the
sizes are sizes and the payload they describe lies in the blob.
-/

namespace GrCompress.HostileInput

open GrCompress.CallRuns
open GrCompress.CheckedStorage
open GrCompress.LengthFraming
open GrCompress.ZstdCodec
open GrCompress.RecordFormat
open GrCompress.DecompressBlock
open GrCompress.FilePlayback
open GrCompress.StoredFrameCodec
open GrCompress.FileSourceBlock (FileSource SourceParams Plays)
open GrCompress.StreamBlocks (CompressedMsgToStream StreamToDecompressionMsg)

set_option autoImplicit false

/-! ## The byte-level readers -/

/-- Both buffers are as large as recorded, and a header fits the first. -/
structure WithinBuffers (block : FileSource) : Prop where
  localWriteBuffer : block.localWriteBuffer.Backed
  headerRoom : headerSize ≤ block.localWriteBuffer.size
  compressedBuffer : block.compressedBuffer.Backed

theorem within_buffers_of_plays {content : Bytes} {repeats : Bool} {block : FileSource}
    {playback : FileSourceBlock.Playback} (plays : Plays content repeats block playback) :
    WithinBuffers block := by
  rcases plays with ⟨_, positioned, _⟩
  exact ⟨positioned.localWriteBuffer, positioned.headerRoom, positioned.compressedBuffer⟩

/-- No content of a file and no stream, however it is cut, makes the readers
access anything outside their buffers or take from an empty queue. What the
source reads back from its buffer is what zstd has written there. -/
theorem readers_stay_within_buffers (zstd : Zstd) (bounded : zstd.DecompressBounded) :
    (∀ (params : SourceParams) (content : Bytes) (repeats : Bool) (requests : List Nat),
      ∃ outputs final passes decoded,
        play zstd params content repeats requests = .ok outputs final ∧
        WithinBuffers final ∧
        decoded <+: records content ∧
        delivered outputs ++ final.byteQueue =
          (List.replicate passes (decodedContent zstd content)).flatten ++
            recordsBytes zstd decoded) ∧
    ∀ chunks : List Bytes,
      ∃ outs final,
        (runAll StreamToDecompressionMsg.work chunks).run StreamToDecompressionMsg.make =
          .ok outs final ∧
        final.localWriteBuffer.Backed ∧
        publishedMessages outs = (records chunks.flatten).map recordPdu := by
  constructor
  · intro params content repeats requests
    obtain ⟨outputs, final, playback, ran, plays, passes, decoded, file, _, bytes⟩ :=
      decodes_run zstd params bounded content repeats requests
    refine ⟨outputs, final, passes, decoded, ran, within_buffers_of_plays plays, ?_, ?_⟩
    · exact ⟨playback.ahead, file.symm⟩
    · rw [plays_queue plays, bytes]
  · intro chunks
    obtain ⟨outs, final, ran, parsed⟩ := StreamBlocks.parse_chunks_run chunks
    exact ⟨outs, final, ran, parsed.backed, parsed.published⟩

/-- A header that announces the largest sizes, and three bytes behind it. -/
def hugeHeader : Bytes := List.replicate 8 255 ++ [1, 2, 3]

theorem readers_stay_within_buffers_huge_header :
    (∃ outputs final,
      play storedZstd { itemsize := 1, itemsize_pos := Nat.one_pos } hugeHeader true [1, 1] =
        .ok outputs final ∧ WithinBuffers final) ∧
    ∃ outs final,
      (runAll StreamToDecompressionMsg.work [hugeHeader.take 3, hugeHeader.drop 3]).run
        StreamToDecompressionMsg.make = .ok outs final ∧ final.localWriteBuffer.Backed := by
  obtain ⟨files, streams⟩ := readers_stay_within_buffers storedZstd stored_decompress_bounded
  obtain ⟨outputs, final, _, _, played, within, _⟩ :=
    files { itemsize := 1, itemsize_pos := Nat.one_pos } hugeHeader true [1, 1]
  obtain ⟨outs, parser, ran, backed, _⟩ := streams [hugeHeader.take 3, hugeHeader.drop 3]
  exact ⟨⟨outputs, final, played, within⟩, outs, parser, ran, backed⟩

/-! ## Messages -/

/-- A message as it can be received: both sizes are `long`s, and no blob is
larger than an object can be. -/
structure LongPdu where
  pdu : Pdu
  uncompressed_long : -2 ^ 63 ≤ pdu.uncompressedSize ∧ pdu.uncompressedSize < 2 ^ 63
  compressed_long : -2 ^ 63 ≤ pdu.compressedSize ∧ pdu.compressedSize < 2 ^ 63
  blob_size : pdu.blob.length < 2 ^ 63

inductive DecompressEvent where
  | message (message : LongPdu)
  | work (noutputItems : Nat)
  | stop

variable (zstd : Zstd) (params : DecompressParams)

def decompressEvent : DecompressEvent → EStateM Fault DecompressImpl Unit
  | .message message => do
      let _ ← compressedIn zstd params message.pdu
  | .work noutputItems => do
      let _ ← work params noutputItems
  | .stop => do
      let _ ← stop

/-- Neither handler accesses anything outside the message or its own buffer. -/
def StaysInside (block : DecompressImpl) (stream : CompressedMsgToStream) (message : LongPdu) :
    Prop :=
  (∃ published after, (compressedIn zstd params message.pdu).run block = .ok published after) ∧
    ∃ after, (StreamBlocks.compressedIn message.pdu).run stream = .ok () after

/-- The sizes are sizes, and the payload they describe lies in the blob. -/
structure Describes (pdu : Pdu) : Prop where
  uncompressed : 0 ≤ pdu.uncompressedSize
  compressed : 0 ≤ pdu.compressedSize
  inside : pdu.payloadOffset + pdu.compressedSize.toNat ≤ pdu.blob.length

theorem readable_of_describes {message : LongPdu} (describes : Describes message.pdu) :
    Readable message.pdu where
  uncompressed_nonneg := describes.uncompressed
  uncompressed_long := message.uncompressed_long.2
  compressed_nonneg := describes.compressed
  compressed_long := message.compressed_long.2
  inside := describes.inside

/-! ## The handler of decompress -/

/-- The buffer is as large as recorded, and its size is a `long`. -/
structure Sized (block : DecompressImpl) : Prop where
  recorded : block.localWriteBuffer.Recorded
  long : block.localWriteBuffer.size < 2 ^ 63

theorem make_sized : Sized make where
  recorded := recorded_of_backed (new_backed 64000)
  long := by decide

section Decompress

variable {zstd} {block : DecompressImpl}

theorem grown_sized (sized : Sized block) (message : LongPdu) :
    Sized { block with
      localWriteBuffer := block.localWriteBuffer.grow message.pdu.uncompressedSize.toNat } where
  recorded := grow_recorded sized.recorded _
  long := by
    have long := message.uncompressed_long.2
    have before := sized.long
    rw [grow_size]
    omega

theorem negative_to_size {value : Int} (negative : value < 0) (long : -2 ^ 63 ≤ value) :
    2 ^ 63 ≤ toSize value := by
  simp only [toSize]
  omega

theorem compressed_in_described (bounded : zstd.DecompressBounded) (sized : Sized block)
    {message : LongPdu} (describes : Describes message.pdu) :
    ∃ published after, (compressedIn zstd params message.pdu).run block = .ok published after ∧
      Sized after := by
  obtain ⟨after, ran, _, recorded, size⟩ := compressed_in_recorded zstd params bounded
    (readable_of_describes describes) sized.recorded
  refine ⟨_, after, ran, recorded, ?_⟩
  rw [size]
  exact (grown_sized sized message).long

variable (zstd) in
/-- A payload that is not in the blob is read outside it; a negative capacity is
larger than any buffer. -/
theorem compressed_in_undescribed (sized : Sized block) {message : LongPdu}
    (undescribed : ¬Describes message.pdu) :
    ∃ fault, (compressedIn zstd params message.pdu).run block = .error fault
      { block with
        localWriteBuffer := block.localWriteBuffer.grow message.pdu.uncompressedSize.toNat } := by
  by_cases source : message.pdu.payloadOffset + toSize message.pdu.compressedSize ≤
      message.pdu.blob.length
  · have blobSize := message.blob_size
    have compressed : 0 ≤ message.pdu.compressedSize := by
      by_contra negative
      have huge := negative_to_size (by omega) message.compressed_long.1
      omega
    have count := to_size_of_long compressed message.compressed_long.2
    have negative : message.pdu.uncompressedSize < 0 := by
      by_contra nonneg
      exact undescribed ⟨by omega, compressed, by omega⟩
    have huge := negative_to_size negative message.uncompressed_long.1
    have some_room : ¬toSize message.pdu.uncompressedSize = 0 := by omega
    let grown : DecompressImpl :=
      { block with
        localWriteBuffer := block.localWriteBuffer.grow message.pdu.uncompressedSize.toNat }
    have room : grown.localWriteBuffer.size < 2 ^ 63 := (grown_sized sized message).long
    have beyond : grown.localWriteBuffer.size < toSize message.pdu.uncompressedSize := by omega
    obtain ⟨fault, refused⟩ :=
      reserve_beyond (grown_sized sized message).recorded beyond grown
    refine ⟨fault, ?_⟩
    simp only [compressedIn, EStateM.run_bind, EStateM.run_modify, EStateM.run_get,
      load_some source, ZStdDecompressor.decompress, unlessEmpty, if_neg some_room]
    simp only [grown] at refused
    simp only [refused]
  · refine ⟨.outOfBounds, ?_⟩
    simp only [compressedIn, EStateM.run_bind, EStateM.run_modify, EStateM.run_get,
      load_outside source]

/-- Every event leaves the buffer as large as recorded. -/
theorem event_sized (bounded : zstd.DecompressBounded) (sized : Sized block)
    (event : DecompressEvent) : Sized (leave (decompressEvent zstd params) block event) := by
  cases event with
  | message message =>
      by_cases describes : Describes message.pdu
      · obtain ⟨published, after, ran, afterSized⟩ :=
          compressed_in_described params bounded sized describes
        have left : leave (decompressEvent zstd params) block (.message message) = after := by
          apply leave_of_ok
          simp only [decompressEvent, EStateM.run_bind, ran, EStateM.run_pure]
          rfl
        rw [left]
        exact afterSized
      · obtain ⟨fault, failed⟩ := compressed_in_undescribed zstd params sized describes
        have left : leave (decompressEvent zstd params) block (.message message) =
            { block with
              localWriteBuffer :=
                block.localWriteBuffer.grow message.pdu.uncompressedSize.toNat } := by
          apply leave_of_error
          simp only [decompressEvent, EStateM.run_bind, failed]
          rfl
        rw [left]
        exact grown_sized sized message
  | work noutputItems =>
      obtain ⟨items, ran, _⟩ := work_run params noutputItems block
      have left : leave (decompressEvent zstd params) block (.work noutputItems) =
          { block with byteQueue := block.byteQueue.drop (items * params.itemsize) } := by
        apply leave_of_ok
        simp only [decompressEvent, EStateM.run_bind, ran, EStateM.run_pure]
        rfl
      rw [left]
      exact ⟨sized.recorded, sized.long⟩
  | stop =>
      have left : leave (decompressEvent zstd params) block .stop =
          { block with localWriteBuffer := block.localWriteBuffer.release } := rfl
      rw [left]
      exact ⟨release_recorded sized.recorded,
        Nat.lt_of_le_of_lt (release_size_le block.localWriteBuffer) sized.long⟩

theorem reached_sized (bounded : zstd.DecompressBounded) (events : List DecompressEvent) :
    Sized (leaveAll (decompressEvent zstd params) make events) := by
  apply leave_all_invariant (decompressEvent zstd params) (fun _ => True) Sized
  · intro before event _ sized
    exact event_sized params bounded sized event
  · intro event _
    trivial
  · exact make_sized

end Decompress

/-! ## Both handlers -/

/-- The payload that is queued starts behind the header and ends with the blob. -/
theorem stream_described {pdu : Pdu} (describes : Describes pdu) (stream : CompressedMsgToStream) :
    ∃ after, (StreamBlocks.compressedIn pdu).run stream = .ok () after := by
  have inside := describes.inside
  cases shape : pdu.hasHeader with
  | false =>
      have offset : pdu.payloadOffset = 0 := by simp [Pdu.payloadOffset, shape]
      have bound := to_int_toNat_le pdu.blob.length
      obtain ⟨dataLength, length⟩ : ∃ dataLength, (toInt (pdu.blob.length : Int)).toNat =
          dataLength := ⟨_, rfl⟩
      rw [length] at bound
      have loaded : pdu.payloadOffset + dataLength ≤ pdu.blob.length := by omega
      simp -implicitDefEqProofs only [StreamBlocks.compressedIn, shape, Bool.false_eq_true,
        if_false, EStateM.run_bind, EStateM.run_pure, length, load_some loaded,
        EStateM.run_modify]
      exact ⟨_, rfl⟩
  | true =>
      have offset : pdu.payloadOffset = headerSize := by simp [Pdu.payloadOffset, shape]
      have header : 0 + headerSize ≤ pdu.blob.length := by omega
      have rest : (pdu.blob.length : Int) - headerSize = (pdu.blob.length - headerSize : Nat) := by
        omega
      have bound := to_int_toNat_le (pdu.blob.length - headerSize)
      rw [← rest] at bound
      obtain ⟨dataLength, length⟩ : ∃ dataLength,
          (toInt ((pdu.blob.length : Int) - headerSize)).toNat = dataLength := ⟨_, rfl⟩
      rw [length] at bound
      have loaded : pdu.payloadOffset + dataLength ≤ pdu.blob.length := by omega
      simp -implicitDefEqProofs only [StreamBlocks.compressedIn, shape, if_true,
        EStateM.run_bind, load_some header, EStateM.run_pure, length, load_some loaded,
        EStateM.run_modify]
      exact ⟨_, rfl⟩

/-- Whatever arrived before, both handlers stay inside a message and the buffer
exactly when the message describes its blob. -/
theorem stays_inside_iff (bounded : zstd.DecompressBounded) (events : List DecompressEvent)
    (stream : CompressedMsgToStream) (message : LongPdu) :
    StaysInside zstd params (leaveAll (decompressEvent zstd params) make events) stream message ↔
      Describes message.pdu := by
  have sized := reached_sized params bounded events
  constructor
  · rintro ⟨⟨published, after, ran⟩, _⟩
    by_contra undescribed
    obtain ⟨fault, failed⟩ := compressed_in_undescribed zstd params sized undescribed
    rw [failed] at ran
    simp at ran
  · intro describes
    obtain ⟨published, after, ran, _⟩ := compressed_in_described params bounded sized describes
    exact ⟨⟨published, after, ran⟩, stream_described describes stream⟩

def bytesOut : DecompressParams where
  itemsize := 1
  itemsize_pos := Nat.one_pos
  sendMsg := true

/-- Two payload bytes are announced and one arrives. -/
def shortMessage : LongPdu where
  pdu := { metadata := { uncompressedsize := some 2, compressedsize := some 2, hasheader := false }
           blob := [1] }
  uncompressed_long := by decide
  compressed_long := by decide
  blob_size := by decide

/-- The payload is read past the end of the blob. -/
theorem short_message_read_outside :
    ¬StaysInside storedZstd bytesOut (leaveAll (decompressEvent storedZstd bytesOut) make [])
      CompressedMsgToStream.make shortMessage := by
  have undescribed : ¬Describes shortMessage.pdu := by
    intro describes
    exact absurd describes.inside (by decide)
  rintro ⟨⟨published, after, ran⟩, _⟩
  obtain ⟨fault, failed⟩ := compressed_in_undescribed storedZstd bytesOut make_sized undescribed
  rw [leaveAll, List.foldl_nil, failed] at ran
  simp at ran

theorem stays_inside_iff_short_message :
    StaysInside storedZstd bytesOut
        (leaveAll (decompressEvent storedZstd bytesOut) make [.message shortMessage])
        CompressedMsgToStream.make shortMessage ↔
      Describes shortMessage.pdu :=
  stays_inside_iff storedZstd bytesOut stored_decompress_bounded [.message shortMessage]
    CompressedMsgToStream.make shortMessage

end GrCompress.HostileInput
