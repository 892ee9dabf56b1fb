import GrCompress.CompressBlock
import GrCompress.FilePlayback
import GrCompress.FileSinkBlock
import GrCompress.StreamBlocks

/-!
# Writing records and reading them back

The messages of the compress block reach a file through `CompressedFileSink` and
a stream through `CompressedMsgToStream`. Whatever path they take they become the
same records, and `CompressedFileSource` reads a file of them back to the bytes
the messages cover.
-/

namespace GrCompress.RecordPaths

open GrCompress.CallRuns
open GrCompress.CheckedStorage
open GrCompress.LengthFraming
open GrCompress.OpenFiles
open GrCompress.ZstdCodec
open GrCompress.RecordFormat
open GrCompress.CompressBlock
open GrCompress.StreamBlocks (CompressedMsgToStream)
open GrCompress.FileSourceBlock (SourceParams workDone)
open GrCompress.FileSinkBlock (FileSink SinkSetup)
open GrCompress.FilePlayback
open GrCompress.StoredFrameCodec

set_option autoImplicit false

variable {zstd : Zstd}

/-- Construct the sink and deliver messages to it; all writes succeed. -/
def recordTo (setup : SinkSetup) (pdus : List Pdu) :
    EStateM.Result Fault FileSink (List Unit) :=
  (do
    FileSinkBlock.make setup.name setup.unbuffered .succeeds .succeeds
    runAll (FileSinkBlock.compressedIn setup.params) pdus).run
      (FileSinkBlock.unopened setup.append setup.disk)

/-- The file is what it was constructed with and one record for each message. -/
theorem record_to_run (setup : SinkSetup) (itemsize : setup.params.itemsize = 1)
    (messages : List Message) :
    ∃ outs sink, recordTo setup (messages.map Message.pdu) = .ok outs sink ∧
      sink.disk.content setup.name =
        setup.base ++ encodeFrames (messages.map Message.record) := by
  obtain ⟨made, constructed, recording⟩ :=
    FileSinkBlock.make_run setup.name setup.unbuffered setup.append setup.disk
  obtain ⟨outs, sink, ran, recorded⟩ :=
    FileSinkBlock.record_messages_run itemsize recording messages
  refine ⟨outs, sink, ?_, recorded.content⟩
  simp only [recordTo, EStateM.run_bind, constructed, ran]

/-! ## Record, then play back -/

theorem records_bytes_initial_segment {first second : List Record} (initial : first <+: second) :
    recordsBytes zstd first <+: recordsBytes zstd second := by
  rcases initial with ⟨later, rfl⟩
  exact ⟨recordsBytes zstd later, (records_bytes_append zstd first later).symm⟩

/-- A file of complete records followed by more records decodes piece by piece. -/
theorem decoded_content_append {base : Bytes} (complete : tail recordFraming base = [])
    (sent : List Record) :
    decodedContent zstd (base ++ encodeFrames sent) =
      decodedContent zstd base ++ recordsBytes zstd sent := by
  have whole := encode_frames_of_tail_nil complete
  have appended := decoded_content_encode_frames zstd (records base ++ sent) []
  rw [encode_frames_append, whole, List.append_nil, records_bytes_append] at appended
  rw [appended]
  simp [decodedContent, records]

/-- What was recorded is played back: the file is what was there and exactly one
complete record for each message, and the source delivers the old content and
then the bytes the messages cover. -/
theorem record_plays_back (params : CompressParams) (succeeds : zstd.CompressSucceeds)
    (roundTrips : zstd.RoundTrips) (bounded : zstd.DecompressBounded)
    (chunks : List (Chunk params.itemsize)) (outputs : List MessageOutput)
    (compress : CompressImpl zstd)
    (ran : (runAll (CompressBlock.work params) chunks).run (CompressBlock.make params zstd) =
      .ok outputs compress)
    (small : ∀ pdu ∈ publishedMessages outputs, pdu.blob.length < 2 ^ 31)
    (setup : SinkSetup) (itemsize : setup.params.itemsize = 1)
    (complete : setup.append = true → tail recordFraming (setup.disk.content setup.name) = []) :
    ∃ (messages : List Message) (covered : Bytes) (outs : List Unit) (sink : FileSink),
      publishedMessages outputs = messages.map Message.pdu ∧
      covered ++ pendingBytes compress = consumedBytes params chunks ∧
      recordTo setup (publishedMessages outputs) = .ok outs sink ∧
      sink.disk.content setup.name =
        setup.base ++ encodeFrames (messages.map Message.record) ∧
      ∀ (source : SourceParams) (requests : List Nat), ∃ delivery played,
        play zstd source (sink.disk.content setup.name) false requests = .ok delivery played ∧
        delivered delivery ++ played.byteQueue <+:
          decodedContent zstd setup.base ++ covered ∧
        ((∃ output ∈ delivery, output.returned = workDone) →
          delivered delivery ++ played.byteQueue =
            decodedContent zstd setup.base ++ covered) := by
  have invariant := work_run_returned params succeeds ran
  obtain ⟨messages, shape, carried⟩ :=
    published_messages_shape params invariant.published small
  have covers := records_bytes_messages roundTrips carried
  have conserved := batches_conserve params chunks
  obtain ⟨outs, sink, recorded, content⟩ := record_to_run setup itemsize messages
  have baseComplete : tail recordFraming setup.base = [] := by
    unfold SinkSetup.base
    split
    · exact complete ‹_›
    · exact tail_nil
  have decodes : decodedContent zstd (sink.disk.content setup.name) =
      decodedContent zstd setup.base ++ (batches params chunks).1.flatten := by
    rw [content, decoded_content_append baseComplete, covers]
  refine ⟨messages, (batches params chunks).1.flatten, outs, sink, shape, ?_,
    by rw [shape]; exact recorded, content, ?_⟩
  · rw [pending_bytes_eq invariant.state.holds, conserved]
  · intro source requests
    obtain ⟨delivery, played, initial, playing, initialOf, decoded, exhausted⟩ :=
      play_once_run zstd source bounded (sink.disk.content setup.name) requests
    refine ⟨delivery, played, playing, ?_, ?_⟩
    · rw [decoded, ← decodes]
      exact records_bytes_initial_segment initialOf
    · intro ended
      rw [decoded, ← decodes, exhausted ended]
      rfl

/-- Blocks of one byte, items of one byte. -/
def blocksOfOne (addHeader : Bool) : CompressParams where
  itemsize := .one
  compressionBlockSize := .one
  numThreads := 4
  addHeader := addHeader

/-- The message that the items `A` and `B` make. -/
def twoItemsPdu (addHeader : Bool) : Pdu := payloadPdu addHeader 2 (store [0x41, 0x42])

theorem blocks_of_one_run (addHeader : Bool) :
    ∃ outputs, ∃ final : CompressImpl storedZstd,
      (runAll (CompressBlock.work (blocksOfOne addHeader)) [⟨2, [0x41, 0x42], rfl⟩]).run
        (CompressBlock.make (blocksOfOne addHeader) storedZstd) = .ok outputs final ∧
      publishedMessages outputs = [twoItemsPdu addHeader] ∧
      ∀ pdu ∈ publishedMessages outputs, pdu.blob.length < 2 ^ 31 := by
  have small : (twoItemsPdu addHeader).blob.length < 2 ^ 31 := by
    cases addHeader <;> decide
  cases addHeader with
  | false => exact ⟨_, _, rfl, rfl, List.forall_mem_singleton.2 small⟩
  | true => exact ⟨_, _, rfl, rfl, List.forall_mem_singleton.2 small⟩

/-- Two items appended to a file that decodes to three bytes. -/
theorem record_plays_back_two_items :
    ∃ outputs, ∃ compress : CompressImpl storedZstd, ∃ outs sink,
      (runAll (CompressBlock.work (blocksOfOne true)) [⟨2, [0x41, 0x42], rfl⟩]).run
        (CompressBlock.make (blocksOfOne true) storedZstd) = .ok outputs compress ∧
      recordTo
          { params := { itemsize := 1, itemsize_pos := by decide }
            name := "capture"
            unbuffered := false
            append := true
            disk := fun _ => some threeByteFile }
          (publishedMessages outputs) = .ok outs sink ∧
      ∀ (source : SourceParams) (requests : List Nat), ∃ delivery played,
        play storedZstd source (sink.disk.content "capture") false requests = .ok delivery played ∧
        delivered delivery ++ played.byteQueue <+: [0x61, 0x62, 0x63, 0x41, 0x42] := by
  obtain ⟨outputs, compress, ran, _, small⟩ := blocks_of_one_run true
  obtain ⟨messages, covered, outs, sink, _, consumed, recorded, _, playback⟩ :=
    record_plays_back (blocksOfOne true) stored_compress_succeeds stored_round_trips
      stored_decompress_bounded [⟨2, [0x41, 0x42], rfl⟩] outputs compress ran small
      { params := { itemsize := 1, itemsize_pos := by decide }
        name := "capture"
        unbuffered := false
        append := true
        disk := fun _ => some threeByteFile }
      rfl (fun _ => three_byte_file_complete)
  refine ⟨outputs, compress, outs, sink, ran, recorded, ?_⟩
  intro source requests
  obtain ⟨delivery, played, playing, isPrefix, _⟩ := playback source requests
  have base : decodedContent storedZstd threeByteFile = [0x61, 0x62, 0x63] :=
    three_byte_file_content
  have whole : covered ++ pendingBytes compress = [0x41, 0x42] := consumed
  refine ⟨delivery, played, playing, isPrefix.trans ⟨pendingBytes compress, ?_⟩⟩
  rw [List.append_assoc, whole]
  exact congrArg (fun bytes => bytes ++ [0x41, 0x42]) base

/-! ## One format on every path -/

inductive StreamCall where
  | compressedIn (pdu : Pdu)
  | work (noutputItems : Nat)

/-- The output of a call is what it emits. -/
def streamCall : StreamCall → EStateM Fault CompressedMsgToStream Bytes
  | .compressedIn pdu => do
      StreamBlocks.compressedIn pdu
      return []
  | .work noutputItems => do
      let output ← CompressedMsgToStream.work noutputItems
      return output.items

def StreamCall.sent : StreamCall → List Pdu
  | .compressedIn pdu => [pdu]
  | .work _ => []

def streamTo (calls : List StreamCall) : EStateM.Result Fault CompressedMsgToStream (List Bytes) :=
  (runAll streamCall calls).run .make

/-- What has been emitted and what is queued are the records of what came in. -/
theorem stream_to_run (calls : List StreamCall)
    (wellFormed : ∀ pdu, .compressedIn pdu ∈ calls → ∃ message : Message, pdu = message.pdu) :
    ∃ outs block, streamTo calls = .ok outs block ∧
      outs.flatten ++ block.byteQueue = (calls.flatMap StreamCall.sent).flatMap Pdu.wire := by
  apply run_all_total streamCall
    (fun call => ∀ pdu, call = .compressedIn pdu → ∃ message : Message, pdu = message.pdu)
    (fun done outs block =>
      outs.flatten ++ block.byteQueue = (done.flatMap StreamCall.sent).flatMap Pdu.wire)
    ?_ calls (fun call member pdu same => wellFormed pdu (same ▸ member)) _ rfl
  intro done outs before call shape conserved
  cases call with
  | compressedIn pdu =>
      obtain ⟨message, rfl⟩ := shape pdu rfl
      have queued := StreamBlocks.compressed_in_run message.hasheader message.uncompressedSize
        message.payload message.payload_fits before
      refine ⟨[], { byteQueue := before.byteQueue ++ message.record.cells }, ?_, ?_⟩
      · simp only [streamCall, Message.pdu, EStateM.run_bind, queued, EStateM.run_pure,
          message_record_cells, List.append_assoc]
      · simp only [List.flatten_concat, List.flatMap_append, List.flatMap_singleton,
          StreamCall.sent, message_pdu_wire, ← conserved, List.append_nil, List.append_assoc]
  | work noutputItems =>
      have emitted := StreamBlocks.emit_run noutputItems before
      refine ⟨before.byteQueue.take noutputItems,
        { byteQueue := before.byteQueue.drop noutputItems }, ?_, ?_⟩
      · simp only [streamCall, EStateM.run_bind, emitted, EStateM.run_pure]
      · simp only [List.flatten_concat, List.flatMap_append, List.flatMap_singleton,
          StreamCall.sent, ← conserved, List.append_nil, List.append_assoc, List.take_append_drop]

/-- The parameters of two compress blocks that differ in `addHeader` only. -/
def withHeader (params : CompressParams) (addHeader : Bool) : CompressParams where
  itemsize := params.itemsize
  compressionBlockSize := params.compressionBlockSize
  numThreads := params.numThreads
  addHeader := addHeader

/-- The bytes written do not depend on `addHeader` or on the path: one sequence
serves files and streams, with and without headers in the messages. -/
theorem one_record_format (params : CompressParams) (succeeds : zstd.CompressSucceeds)
    {compressed : Bytes → Bytes} (asFunction : zstd.CompressesAs compressed)
    (chunks : List (Chunk params.itemsize)) :
    ∃ format : Bytes, ∀ (addHeader : Bool) (outputs : List MessageOutput)
      (final : CompressImpl zstd),
      (runAll (CompressBlock.work (withHeader params addHeader)) chunks).run
          (CompressBlock.make (withHeader params addHeader) zstd) = .ok outputs final →
      (∀ pdu ∈ publishedMessages outputs, pdu.blob.length < 2 ^ 31) →
      (∀ setup : SinkSetup, setup.params.itemsize = 1 →
        ∃ outs sink, recordTo setup (publishedMessages outputs) = .ok outs sink ∧
          sink.disk.content setup.name = setup.base ++ format) ∧
      (∀ calls, calls.flatMap StreamCall.sent = publishedMessages outputs →
        ∃ outs block, streamTo calls = .ok outs block ∧
          (block.byteQueue = [] → outs.flatten = format)) := by
  refine ⟨(batches params chunks).1.flatMap fun plain =>
    (headerFor plain.length (compressed plain).length).bytes ++ compressed plain, ?_⟩
  intro addHeader outputs final ran small
  have invariant := work_run_returned (withHeader params addHeader) succeeds ran
  obtain ⟨messages, shape, carried⟩ :=
    published_messages_shape (withHeader params addHeader) invariant.published small
  have format := encode_messages_as asFunction carried
  have sameBatches : batches (withHeader params addHeader) chunks = batches params chunks := rfl
  rw [sameBatches] at format
  rw [← format, shape]
  constructor
  · intro setup itemsize
    exact record_to_run setup itemsize messages
  · intro calls sent
    obtain ⟨outs, block, streamed, conserved⟩ := stream_to_run calls (by
      intro pdu member
      have published : pdu ∈ messages.map Message.pdu := by
        rw [← sent]
        exact List.mem_flatMap.2 ⟨_, member, by simp [StreamCall.sent]⟩
      obtain ⟨message, _, rfl⟩ := List.mem_map.1 published
      exact ⟨message, rfl⟩)
    refine ⟨outs, block, streamed, ?_⟩
    intro drained
    rw [drained, List.append_nil, sent] at conserved
    rw [conserved, encode_message_records]

/-- Two items, with headers to a file and without to a stream. -/
theorem one_record_format_two_items :
    ∃ withHeaders withoutHeaders, ∃ final final' : CompressImpl storedZstd,
      (runAll (CompressBlock.work (blocksOfOne true)) [⟨2, [0x41, 0x42], rfl⟩]).run
        (CompressBlock.make (blocksOfOne true) storedZstd) = .ok withHeaders final ∧
      (runAll (CompressBlock.work (blocksOfOne false)) [⟨2, [0x41, 0x42], rfl⟩]).run
        (CompressBlock.make (blocksOfOne false) storedZstd) = .ok withoutHeaders final' ∧
      ∃ outs sink outs' block,
        recordTo
            { params := { itemsize := 1, itemsize_pos := by decide }
              name := "capture"
              unbuffered := false
              append := false
              disk := fun _ => none }
            (publishedMessages withHeaders) = .ok outs sink ∧
        streamTo ((publishedMessages withoutHeaders).map .compressedIn ++ [.work 100]) =
          .ok outs' block ∧
        outs'.flatten = sink.disk.content "capture" := by
  obtain ⟨withHeaders, final, ran, _, small⟩ := blocks_of_one_run true
  obtain ⟨withoutHeaders, final', ran', published, small'⟩ := blocks_of_one_run false
  obtain ⟨format, same⟩ := one_record_format (blocksOfOne true) stored_compress_succeeds
    stored_compresses_as [⟨2, [0x41, 0x42], rfl⟩]
  obtain ⟨outs, sink, recorded, content⟩ := (same true withHeaders final ran small).1
    { params := { itemsize := 1, itemsize_pos := by decide }
      name := "capture"
      unbuffered := false
      append := false
      disk := fun _ => none } rfl
  have sent : ((publishedMessages withoutHeaders).map StreamCall.compressedIn ++
      [StreamCall.work 100]).flatMap StreamCall.sent = publishedMessages withoutHeaders := by
    simp [List.flatMap_map, StreamCall.sent]
  obtain ⟨outs', block, streamed, drained⟩ :=
    (same false withoutHeaders final' ran' small').2 _ sent
  have empty : block.byteQueue = [] := by
    obtain ⟨emitted, left, ran, nothing⟩ : ∃ emitted left,
        streamTo ([twoItemsPdu false].map .compressedIn ++ [.work 100]) = .ok emitted left ∧
          left.byteQueue = [] := ⟨_, _, rfl, rfl⟩
    rw [← published] at ran
    rw [(ok_unique streamed ran).2, nothing]
  refine ⟨withHeaders, withoutHeaders, final, final', ran, ran', outs, sink, outs', block, recorded,
    streamed, ?_⟩
  rw [drained empty, content]
  rfl

end GrCompress.RecordPaths
