import GrCompress.FairRounds
import GrCompress.StreamTransport
import GrCompress.DecompressBlock
import GrCompress.WireLengths
import GrCompress.RecordPaths

/-!
# From the compress block to the decompress block over a byte stream

Compressed messages go over a byte stream on their way to the decompress block:
`compress` publishes to `CompressedMsgToStream`, whose stream is read by
`StreamToDecompressionMsg`, which publishes to `decompress`. Either port has a
FIFO queue. The runtime calls `work` of the blocks and delivers queued messages
in any order and in any sizes.

What has been consumed and not delivered is held in seven places, in order. No
call that takes nothing in changes what is held and delivered together, and each
that finds something to do makes the backlog smaller.
-/

namespace GrCompress.StreamedPipeline

open GrCompress.CallRuns
open GrCompress.CheckedStorage
open GrCompress.ThresholdBatching
open GrCompress.LengthFraming
open GrCompress.ZstdCodec
open GrCompress.RecordFormat
open GrCompress.FairRounds
open GrCompress.StoredFrameCodec (storedZstd bound bound_mono stored_round_trips
  stored_decompress_bounded)
open GrCompress.CompressBlock (CompressParams CompressImpl Chunk MessageFor pendingBytes)
open GrCompress.WireLengths (CompressesWithinBound succeeds_of_within_bound
  payload_within_bound)
open GrCompress.RecordPaths (decoded_content_append)
open GrCompress.StreamBlocks (CompressedMsgToStream StreamToDecompressionMsg)
open GrCompress.StreamTransport (Transport onToStream onToMsg)
open GrCompress.DecompressBlock (DecompressParams DecompressImpl)

set_option autoImplicit false

/-- The four blocks and the queues between them. -/
structure Flowgraph (zstd : Zstd) where
  compress : CompressImpl zstd
  compressed : List Pdu
  transport : Transport
  compressedin : List Pdu
  decompress : DecompressImpl

variable {zstd : Zstd} (compressor : CompressParams) (decompressor : DecompressParams)

def start (zstd : Zstd) : Flowgraph zstd where
  compress := CompressBlock.make compressor zstd
  compressed := []
  transport := StreamTransport.start
  compressedin := []
  decompress := DecompressBlock.make

/-- What moves something on, without taking anything in. -/
inductive Forward where
  | send
  | emit (noutputItems : Nat)
  | parse (ninputItems : Nat)
  | deliver
  | decompressWork (noutputItems : Nat)

inductive Event where
  | compressWork (chunk : Chunk compressor.itemsize)
  | forward (call : Forward)

def onCompress {Out : Type} (call : EStateM Fault (CompressImpl zstd) Out) :
    EStateM Fault (Flowgraph zstd) Out :=
  within Flowgraph.compress
    (fun block graph => { graph with compress := block }) call

def onTransport {Out : Type} (call : EStateM Fault Transport Out) :
    EStateM Fault (Flowgraph zstd) Out :=
  within Flowgraph.transport
    (fun transport graph => { graph with transport := transport }) call

def onDecompress {Out : Type} (call : EStateM Fault DecompressImpl Out) :
    EStateM Fault (Flowgraph zstd) Out :=
  within Flowgraph.decompress
    (fun block graph => { graph with decompress := block }) call

/-- The output is what `decompress.work` hands out. Messages on the `uncompressed`
port have no reader here. -/
def forward : Forward → EStateM Fault (Flowgraph zstd) Bytes
  | .send => do
      match (← get).compressed with
      | [] => return []
      | pdu :: later =>
          modify fun graph => { graph with compressed := later }
          onTransport (onToStream (StreamBlocks.compressedIn pdu))
          return []
  | .emit noutputItems => do
      let _ ← onTransport (StreamTransport.step (.emit noutputItems))
      return []
  | .parse ninputItems => do
      let published ← onTransport (StreamTransport.step (.parse ninputItems))
      modify fun graph => { graph with compressedin := graph.compressedin ++ published }
      return []
  | .deliver => do
      match (← get).compressedin with
      | [] => return []
      | pdu :: later =>
          modify fun graph => { graph with compressedin := later }
          let _ ← onDecompress (DecompressBlock.compressedIn zstd decompressor pdu)
          return []
  | .decompressWork noutputItems => do
      let output ← onDecompress (DecompressBlock.work decompressor noutputItems)
      return output.items

def step : Event compressor → EStateM Fault (Flowgraph zstd) Bytes
  | .compressWork chunk => do
      let output ← onCompress (CompressBlock.work compressor chunk)
      modify fun graph => { graph with compressed := graph.compressed ++ output.published }
      return []
  | .forward call => forward decompressor call

def run (events : List (Event compressor)) :
    EStateM.Result Fault (Flowgraph zstd) (List Bytes) :=
  (runAll (step compressor decompressor) events).run (start compressor zstd)

/-! ## What the graph holds -/

def Event.consumed : Event compressor → Bytes
  | .compressWork chunk => chunk.bytes
  | .forward _ => []

/-- The bytes that `compress.work` has consumed. -/
def consumedBytes (events : List (Event compressor)) : Bytes := events.flatMap (·.consumed)

/-- The bytes on the way from one queue to the other: an unfinished record in the
parser, the stream and the queue of `CompressedMsgToStream`. -/
def Flowgraph.inStream (graph : Flowgraph zstd) : Bytes :=
  graph.transport.toMsg.carried ++ graph.transport.transit ++
    graph.transport.toStream.byteQueue

/-- What has been compressed and not delivered, decompressed. -/
def Flowgraph.held (graph : Flowgraph zstd) : Bytes :=
  graph.decompress.byteQueue ++ messagesBytes zstd graph.compressedin ++
    decodedContent zstd graph.inStream ++ messagesBytes zstd graph.compressed

/-- What each block needs for its next call, and what the stream consists of:
whole records, of which the parser has the start of one. -/
structure Invariant (graph : Flowgraph zstd) : Prop where
  compress : ∃ pending, CompressBlock.Invariant compressor graph.compress pending
  compressed : ∃ messages : List Message, graph.compressed = messages.map Message.pdu
  whole : tail recordFraming graph.inStream = []
  carried : tail recordFraming graph.transport.toMsg.carried = graph.transport.toMsg.carried
  parser : graph.transport.toMsg.localWriteBuffer.Backed
  compressedin : ∃ records : List Record, graph.compressedin = records.map recordPdu
  decompress : graph.decompress.localWriteBuffer.Backed

theorem start_invariant : Invariant compressor (start compressor zstd) where
  compress := ⟨[], CompressBlock.make_invariant compressor⟩
  compressed := ⟨[], rfl⟩
  whole := tail_nil
  carried := tail_nil
  parser := new_backed 64000
  compressedin := ⟨[], rfl⟩
  decompress := new_backed 64000

/-- The chunk fits in `int`, and so does the compressed size of what it may complete. -/
structure Admissible (chunk : Chunk compressor.itemsize) : Prop where
  fits : chunk.Fits
  short : bound (compressor.compressionBlockSize.value + chunk.bytes.length) < 2 ^ 31

/-- `compress.work` publishes messages that the stream can carry. -/
theorem compress_work_short (within : CompressesWithinBound zstd) {block : CompressImpl zstd}
    {pending : Bytes} (invariant : CompressBlock.Invariant compressor block pending)
    {chunk : Chunk compressor.itemsize} (admissible : Admissible compressor chunk) :
    ∃ output after messages, (CompressBlock.work compressor chunk).run block = .ok output after ∧
      output.published = messages.map Message.pdu ∧
      List.Forall₂ (MessageFor zstd) messages
        (push compressor.compressionBlockSize.value pending chunk.bytes).1 ∧
      CompressBlock.Invariant compressor after
        (push compressor.compressionBlockSize.value pending chunk.bytes).2 := by
  have succeeds := succeeds_of_within_bound within
  have pendingEq := CompressBlock.pending_bytes_eq invariant.holds
  have below := invariant.below
  obtain ⟨output, after, ran, _, published, holds⟩ :=
    CompressBlock.work_run compressor succeeds invariant chunk admissible.fits
  by_cases reaches :
      compressor.compressionBlockSize.value ≤ pending.length + chunk.bytes.length
  · have triggers : CompressFailure.Triggers compressor block chunk := by
      simpa only [CompressFailure.Triggers, pendingEq, List.length_append] using reaches
    obtain ⟨context, next, payload, after', _, result, small, ran'⟩ :=
      WireLengths.triggering_call_run compressor succeeds invariant admissible.fits triggers
    obtain ⟨rfl, rfl⟩ := ok_unique ran ran'
    rw [pendingEq] at result small
    have room : bound (pending ++ chunk.bytes).length ≤
        CompressBlock.dstCapacity block (pending ++ chunk.bytes).length := by
      rw [← within.bound_eq]
      exact Nat.le_max_right _ _
    have short : payload.length < 2 ^ 31 := by
      have payloadBound := payload_within_bound within room result
      have queued : bound (pending ++ chunk.bytes).length ≤
          bound (compressor.compressionBlockSize.value + chunk.bytes.length) :=
        bound_mono (by rw [List.length_append]; omega)
      have := admissible.short
      omega
    let message : Message :=
      { hasheader := compressor.addHeader
        uncompressedSize := (pending ++ chunk.bytes).length
        payload := payload
        size_fits := small
        payload_fits := short }
    refine ⟨_, after, [message], ran, by rw [pendingEq]; rfl, ?_, holds⟩
    rw [push_reaches reaches]
    exact .cons ⟨rfl, context, _, next, result⟩ .nil
  · rw [push_below (by omega)] at published holds ⊢
    exact ⟨output, after, [], ran, List.forall₂_nil_right_iff.1 published, .nil, holds⟩

/-! ## The backlog -/

inductive Stage where
  | send
  | emit
  | parse
  | deliver
  | decompressWork

def Forward.stage : Forward → Stage
  | .send => .send
  | .emit _ => .emit
  | .parse _ => .parse
  | .deliver => .deliver
  | .decompressWork _ => .decompressWork

/-- A call of `work` asks for at least one item. -/
def Forward.Asks : Forward → Prop
  | .send | .deliver => True
  | .emit items | .parse items | .decompressWork items => 0 < items

def Idle (graph : Flowgraph zstd) : Stage → Prop
  | .send => graph.compressed = []
  | .emit => graph.transport.toStream.byteQueue = []
  | .parse => graph.transport.transit = []
  | .deliver => graph.compressedin = []
  | .decompressWork => graph.decompress.byteQueue.length < decompressor.itemsize

/-- Bytes that are still to be emitted. -/
def Flowgraph.unsent (graph : Flowgraph zstd) : Nat :=
  graph.transport.toStream.byteQueue.length + (graph.compressed.flatMap Pdu.wire).length

/-- Messages that are still to be delivered to the decompress block. -/
def Flowgraph.undelivered (graph : Flowgraph zstd) : Nat :=
  graph.compressedin.length + (records graph.inStream).length + graph.compressed.length

/-- One part for each stage; no call makes any part larger. -/
def Flowgraph.backlog (graph : Flowgraph zstd) : Nat :=
  graph.compressed.length + graph.unsent + (graph.transport.transit.length + graph.unsent) +
    graph.undelivered + graph.held.length

/-- What a call of one block or the delivery of a message does to the graph. -/
structure Moved (call : Forward) (before after : Flowgraph zstd) (out : Bytes) : Prop where
  invariant : Invariant compressor after
  compress : after.compress = before.compress
  held : out ++ after.held = before.held
  wholeItems : decompressor.itemsize ∣ out.length
  served : call.Asks →
    ¬Idle decompressor before call.stage ∧ after.backlog < before.backlog ∨
      Idle decompressor before call.stage ∧ after.backlog = before.backlog ∧
        ∀ stage, Idle decompressor after stage ↔ Idle decompressor before stage

variable {graph : Flowgraph zstd}

/-- A call that finds nothing to do. -/
theorem moved_nothing {call : Forward} (invariant : Invariant compressor graph)
    (idle : Idle decompressor graph call.stage) :
    Moved compressor decompressor call graph graph [] where
  invariant := invariant
  compress := rfl
  held := rfl
  wholeItems := Nat.dvd_zero _
  served _ := .inr ⟨idle, rfl, fun _ => Iff.rfl⟩

theorem message_bytes_record (zstd : Zstd) (message : Message) :
    recordBytes zstd message.record = messageBytes zstd message.pdu := by
  rw [← message_bytes_record_pdu, record_pdu_message_record, Message.bare, Message.pdu,
    message_bytes_payload_pdu, message_bytes_payload_pdu]

theorem send_step (invariant : Invariant compressor graph) :
    ∃ after, (forward decompressor .send).run graph = .ok [] after ∧
      Moved compressor decompressor .send graph after [] := by
  rcases invariant.compressed with ⟨messages, queue⟩
  cases messages with
  | nil =>
      refine ⟨graph, ?_, moved_nothing compressor decompressor invariant queue⟩
      simp only [forward, EStateM.run_bind, EStateM.run_get, queue, List.map_nil, EStateM.run_pure]
  | cons message later =>
      have queued := StreamBlocks.compressed_in_run message.hasheader message.uncompressedSize
        message.payload message.payload_fits graph.transport.toStream
      rw [List.append_assoc, ← message_record_cells] at queued
      let after : Flowgraph zstd := { graph with
        compressed := later.map Message.pdu
        transport := { graph.transport with
          toStream := { byteQueue :=
            graph.transport.toStream.byteQueue ++ message.record.cells } } }
      have stream : after.inStream = graph.inStream ++ encodeFrames [message.record] := by
        simp only [after, Flowgraph.inStream, encode_frames_cons, encode_frames_nil,
          List.append_nil, List.append_assoc]
      have decoded : decodedContent zstd after.inStream =
          decodedContent zstd graph.inStream ++ messageBytes zstd message.pdu := by
        rw [stream, decoded_content_append invariant.whole, records_bytes_cons, records_bytes_nil,
          List.append_nil, message_bytes_record]
      have held : after.held = graph.held := by
        simp only [Flowgraph.held, decoded, queue, List.map_cons, messages_bytes_cons,
          List.append_assoc, after]
      have whole : tail recordFraming after.inStream = [] := by
        rw [stream]
        exact tail_append_encoded invariant.whole [message.record]
      have read : records after.inStream = records graph.inStream ++ [message.record] := by
        rw [stream]
        exact frames_append_encoded invariant.whole [message.record]
      have undelivered : after.undelivered = graph.undelivered := by
        simp only [Flowgraph.undelivered, read, queue, after, List.length_append, List.length_map,
          List.length_cons, List.length_nil]
        omega
      have unsent : after.unsent = graph.unsent := by
        simp only [Flowgraph.unsent, queue, List.map_cons, List.flatMap_cons, message_pdu_wire,
          List.length_append, after]
        omega
      refine ⟨after, ?_, ⟨⟨invariant.compress, ⟨later, rfl⟩, whole, invariant.carried,
        invariant.parser, invariant.compressedin, invariant.decompress⟩, rfl, held,
        Nat.dvd_zero _, fun _ => .inl ⟨by simp [Idle, Forward.stage, queue], ?_⟩⟩⟩
      · have sent : (onToStream (StreamBlocks.compressedIn message.pdu)).run graph.transport =
            .ok () after.transport := within_ok queued
        have sent' : (onTransport (onToStream (StreamBlocks.compressedIn message.pdu))).run
            { graph with compressed := later.map Message.pdu } = .ok () after := within_ok sent
        simp only [forward, EStateM.run_bind, EStateM.run_get, queue, List.map_cons,
          EStateM.run_modify, sent', EStateM.run_pure]
      · simp only [Flowgraph.backlog, held, undelivered, unsent, queue, List.map_cons,
          List.length_cons, after]
        omega

theorem emit_step (invariant : Invariant compressor graph) (noutputItems : Nat) :
    ∃ after, (forward decompressor (.emit noutputItems)).run graph = .ok [] after ∧
      Moved compressor decompressor (.emit noutputItems) graph after [] := by
  have emitted := StreamBlocks.emit_run noutputItems graph.transport.toStream
  have cut := List.take_append_drop noutputItems graph.transport.toStream.byteQueue
  let after : Flowgraph zstd := { graph with
    transport := { graph.transport with
      toStream := { byteQueue := graph.transport.toStream.byteQueue.drop noutputItems }
      transit := graph.transport.transit ++
        graph.transport.toStream.byteQueue.take noutputItems } }
  have ran : (forward decompressor (.emit noutputItems)).run graph = .ok [] after := by
    have moved : (StreamTransport.step (.emit noutputItems)).run graph.transport =
        .ok [] after.transport := by
      simp only [StreamTransport.step, EStateM.run_bind, onToStream, within_ok emitted,
        EStateM.run_modify, EStateM.run_pure, after]
    have moved' : (onTransport (StreamTransport.step (.emit noutputItems))).run graph =
        .ok [] after := within_ok moved
    simp only [forward, EStateM.run_bind, moved', EStateM.run_pure]
  have stream : after.inStream = graph.inStream := by
    simp only [Flowgraph.inStream, List.append_assoc, cut, after]
  have held : after.held = graph.held := by
    simp only [Flowgraph.held, stream, after]
  have undelivered : after.undelivered = graph.undelivered := by
    simp only [Flowgraph.undelivered, stream, after]
  have lengths := congrArg List.length cut
  rw [List.length_append] at lengths
  refine ⟨after, ran, ⟨⟨invariant.compress, invariant.compressed, stream ▸ invariant.whole,
    invariant.carried, invariant.parser, invariant.compressedin, invariant.decompress⟩, rfl, held,
    Nat.dvd_zero _, ?_⟩⟩
  intro asks
  have positive : 0 < noutputItems := asks
  by_cases nothing : graph.transport.toStream.byteQueue = []
  · have same : after = graph := by
      simp only [after, nothing, List.drop_nil, List.take_nil, List.append_nil]
      rw [← nothing]
    rw [same]
    exact .inr ⟨nothing, rfl, fun _ => Iff.rfl⟩
  · have some_queued := List.length_pos_iff.2 nothing
    have shorter : (graph.transport.toStream.byteQueue.drop noutputItems).length <
        graph.transport.toStream.byteQueue.length := by
      rw [List.length_drop]
      omega
    refine .inl ⟨nothing, ?_⟩
    simp only [Flowgraph.backlog, held, undelivered, Flowgraph.unsent, List.length_append, after]
    omega

/-- What has arrived at the parser once it has taken the next bytes of the stream. -/
def Flowgraph.arrived (graph : Flowgraph zstd) (ninputItems : Nat) : Bytes :=
  graph.transport.toMsg.carried ++ graph.transport.transit.take ninputItems

/-- The graph once the parser has published the records that have arrived. -/
def Flowgraph.parsed (graph : Flowgraph zstd) (ninputItems : Nat)
    (block : StreamToDecompressionMsg) : Flowgraph zstd :=
  { graph with
    transport := { graph.transport with
      transit := graph.transport.transit.drop ninputItems
      toMsg := block }
    compressedin := graph.compressedin ++ (records (graph.arrived ninputItems)).map recordPdu }

theorem parse_ran {block : StreamToDecompressionMsg} {ninputItems returned : Nat}
    (parsed : (StreamToDecompressionMsg.work (graph.transport.transit.take ninputItems)).run
        graph.transport.toMsg =
      .ok { returned := returned
            published := (records (graph.arrived ninputItems)).map recordPdu } block) :
    (forward decompressor (.parse ninputItems)).run graph =
      .ok [] (graph.parsed ninputItems block) := by
  have inside : (onToMsg (StreamToDecompressionMsg.work
      (graph.transport.transit.take ninputItems))).run
        { graph.transport with transit := graph.transport.transit.drop ninputItems } =
      .ok _ (graph.parsed ninputItems block).transport := within_ok parsed
  have moved : (StreamTransport.step (.parse ninputItems)).run graph.transport =
      .ok ((records (graph.arrived ninputItems)).map recordPdu)
        (graph.parsed ninputItems block).transport := by
    simp only [StreamTransport.step, EStateM.run_bind, EStateM.run_get, EStateM.run_modify,
      inside, EStateM.run_pure]
  have moved' : (onTransport (StreamTransport.step (.parse ninputItems))).run graph =
      .ok ((records (graph.arrived ninputItems)).map recordPdu)
        { graph with transport := (graph.parsed ninputItems block).transport } :=
    within_ok moved
  simp only [forward, EStateM.run_bind, moved', EStateM.run_modify, EStateM.run_pure,
    Flowgraph.parsed]

/-- The stream is what has arrived and a rest; the parser leaves the tail of what has
arrived. -/
theorem parsed_stream {block : StreamToDecompressionMsg} {ninputItems : Nat}
    (carried : block.carried = tail recordFraming (graph.arrived ninputItems)) :
    records graph.inStream = records (graph.arrived ninputItems) ++
        records (graph.parsed ninputItems block).inStream ∧
      tail recordFraming (graph.parsed ninputItems block).inStream =
        tail recordFraming graph.inStream := by
  have cut := List.take_append_drop ninputItems graph.transport.transit
  obtain ⟨rest, restEq⟩ : ∃ rest, graph.transport.transit.drop ninputItems ++
    graph.transport.toStream.byteQueue = rest := ⟨_, rfl⟩
  have before : graph.inStream = graph.arrived ninputItems ++ rest := by
    rw [Flowgraph.arrived, ← restEq, Flowgraph.inStream, ← List.append_assoc,
      List.append_assoc graph.transport.toMsg.carried _ (graph.transport.transit.drop ninputItems),
      cut]
  have after : (graph.parsed ninputItems block).inStream =
      tail recordFraming (graph.arrived ninputItems) ++ rest := by
    simp only [Flowgraph.inStream, Flowgraph.parsed, carried, ← restEq, List.append_assoc]
  rw [before, after]
  exact ⟨records_append _ rest, (tail_append _ rest).symm⟩

theorem parse_step (invariant : Invariant compressor graph) (ninputItems : Nat) :
    ∃ after, (forward decompressor (.parse ninputItems)).run graph = .ok [] after ∧
      Moved compressor decompressor (.parse ninputItems) graph after [] := by
  obtain ⟨block, parsed, carried, _, backed⟩ :=
    StreamBlocks.parse_run (graph.transport.transit.take ninputItems) invariant.parser
  rw [← Flowgraph.arrived] at parsed carried
  obtain ⟨split, whole⟩ := parsed_stream carried
  have unfinished : tail recordFraming block.carried = block.carried := by
    have again : tail recordFraming (graph.arrived ninputItems ++ []) =
        tail recordFraming (tail recordFraming (graph.arrived ninputItems) ++ []) :=
      tail_append (graph.arrived ninputItems) []
    rw [List.append_nil, List.append_nil] at again
    rw [carried, ← again]
  have held : (graph.parsed ninputItems block).held = graph.held := by
    simp only [Flowgraph.held, decodedContent, split, Flowgraph.parsed, messages_bytes_append,
      messages_bytes_record_pdus, records_bytes_append, List.append_assoc]
  have undelivered : (graph.parsed ninputItems block).undelivered = graph.undelivered := by
    simp only [Flowgraph.undelivered, split, Flowgraph.parsed, List.length_append,
      List.length_map]
    omega
  rcases invariant.compressedin with ⟨queued, queue⟩
  refine ⟨graph.parsed ninputItems block, parse_ran decompressor parsed,
    ⟨⟨invariant.compress, invariant.compressed, whole.trans invariant.whole, unfinished, backed,
      ⟨queued ++ records (graph.arrived ninputItems),
        by simp only [Flowgraph.parsed, queue, List.map_append]⟩,
      invariant.decompress⟩, rfl, held, Nat.dvd_zero _, ?_⟩⟩
  intro asks
  have positive : 0 < ninputItems := asks
  by_cases nothing : graph.transport.transit = []
  · -- without input the parser finds nothing new in what it carries
    have noRecords : records (graph.arrived ninputItems) = [] := by
      rw [Flowgraph.arrived, nothing, List.take_nil, List.append_nil]
      exact frames_of_unfinished invariant.carried
    refine .inr ⟨nothing, ?_, ?_⟩
    · rw [Flowgraph.backlog, Flowgraph.backlog, held, undelivered]
      simp only [Flowgraph.unsent, Flowgraph.parsed, nothing, List.drop_nil]
    · intro stage
      cases stage <;> simp [Idle, Flowgraph.parsed, noRecords, nothing]
  · have some_arrived := List.length_pos_iff.2 nothing
    have shorter : (graph.transport.transit.drop ninputItems).length <
        graph.transport.transit.length := by
      rw [List.length_drop]
      omega
    refine .inl ⟨nothing, ?_⟩
    rw [Flowgraph.backlog, Flowgraph.backlog, held, undelivered]
    simp only [Flowgraph.unsent, Flowgraph.parsed]
    omega

theorem deliver_step (bounded : zstd.DecompressBounded) (invariant : Invariant compressor graph) :
    ∃ after, (forward decompressor .deliver).run graph = .ok [] after ∧
      Moved compressor decompressor .deliver graph after [] := by
  rcases invariant.compressedin with ⟨waiting, queue⟩
  cases waiting with
  | nil =>
      refine ⟨graph, ?_, moved_nothing compressor decompressor invariant queue⟩
      simp only [forward, EStateM.run_bind, EStateM.run_get, queue, List.map_nil, EStateM.run_pure]
  | cons record later =>
      obtain ⟨block, ran, queued, backed⟩ := DecompressBlock.compressed_in_run zstd decompressor
        (DecompressBlock.record_pdu_readable record)
        (DecompressBlock.record_pdu_bounded zstd bounded record) invariant.decompress
      let after : Flowgraph zstd := { graph with
        compressedin := later.map recordPdu
        decompress := block }
      have held : after.held = graph.held := by
        simp only [Flowgraph.held, Flowgraph.inStream, after, queued, queue, List.map_cons,
          messages_bytes_cons, List.append_assoc]
      refine ⟨after, ?_, ⟨⟨invariant.compress, invariant.compressed, invariant.whole,
        invariant.carried, invariant.parser, ⟨later, rfl⟩, backed⟩, rfl, held, Nat.dvd_zero _,
        fun _ => .inl ⟨by simp [Idle, Forward.stage, queue], ?_⟩⟩⟩
      · have delivered : (onDecompress (DecompressBlock.compressedIn zstd decompressor
            (recordPdu record))).run { graph with compressedin := later.map recordPdu } =
            .ok _ after := within_ok ran
        simp only [forward, EStateM.run_bind, EStateM.run_get, queue, List.map_cons,
          EStateM.run_modify, delivered, EStateM.run_pure]
      · simp only [Flowgraph.backlog, held, Flowgraph.undelivered, Flowgraph.unsent,
          Flowgraph.inStream, queue, List.map_cons, List.length_cons, after]
        omega

theorem decompress_work_step (invariant : Invariant compressor graph) (noutputItems : Nat) :
    ∃ out after, (forward decompressor (.decompressWork noutputItems)).run graph = .ok out after ∧
      Moved compressor decompressor (.decompressWork noutputItems) graph after out := by
  obtain ⟨items, ran, enough, count⟩ :=
    DecompressBlock.work_run decompressor noutputItems graph.decompress
  let after : Flowgraph zstd := { graph with
    decompress := { graph.decompress with
      byteQueue := graph.decompress.byteQueue.drop (items * decompressor.itemsize) } }
  have held : graph.decompress.byteQueue.take (items * decompressor.itemsize) ++ after.held =
      graph.held := by
    simp only [Flowgraph.held, Flowgraph.inStream, after, ← List.append_assoc,
      List.take_append_drop]
  have taken := List.length_take_of_le enough
  refine ⟨graph.decompress.byteQueue.take (items * decompressor.itemsize), after, ?_,
    ⟨⟨invariant.compress, invariant.compressed, invariant.whole, invariant.carried,
      invariant.parser, invariant.compressedin, invariant.decompress⟩, rfl, held, ?_, ?_⟩⟩
  · have worked : (onDecompress (DecompressBlock.work decompressor noutputItems)).run graph =
        .ok _ after := within_ok ran
    simp only [forward, EStateM.run_bind, worked, EStateM.run_pure]
  · rw [taken]
    exact Nat.dvd_mul_left _ _
  · intro asks
    have positive : 0 < noutputItems := asks
    by_cases less : graph.decompress.byteQueue.length < decompressor.itemsize
    · have none : items = 0 := by rw [count, Nat.div_eq_of_lt less, Nat.min_zero]
      have same : after = graph := by simp only [after, none, Nat.zero_mul, List.drop_zero]
      rw [same]
      exact .inr ⟨less, rfl, fun _ => Iff.rfl⟩
    · have available := Nat.div_pos (Nat.le_of_not_lt less) decompressor.itemsize_pos
      have produced : 0 < items * decompressor.itemsize :=
        Nat.mul_pos (by omega) decompressor.itemsize_pos
      have lengths := congrArg List.length held
      rw [List.length_append, taken] at lengths
      refine .inl ⟨less, ?_⟩
      simp only [Flowgraph.backlog, Flowgraph.undelivered, Flowgraph.unsent, Flowgraph.inStream,
        after] at lengths ⊢
      omega

theorem forward_step (bounded : zstd.DecompressBounded) (invariant : Invariant compressor graph)
    (call : Forward) :
    ∃ out after, (forward decompressor call).run graph = .ok out after ∧
      Moved compressor decompressor call graph after out := by
  cases call with
  | send => exact ⟨[], send_step compressor decompressor invariant⟩
  | emit noutputItems => exact ⟨[], emit_step compressor decompressor invariant noutputItems⟩
  | parse ninputItems => exact ⟨[], parse_step compressor decompressor invariant ninputItems⟩
  | deliver => exact ⟨[], deliver_step compressor decompressor bounded invariant⟩
  | decompressWork noutputItems =>
      exact decompress_work_step compressor decompressor invariant noutputItems

theorem forward_drains (bounded : zstd.DecompressBounded) :
    Drains (forward decompressor) Forward.Asks
      (Invariant compressor : Flowgraph zstd → Prop) Forward.stage
      (fun stage graph => Idle decompressor graph stage) Flowgraph.backlog where
  serves before call asks invariant := by
    obtain ⟨out, after, ran, moved⟩ := forward_step compressor decompressor bounded invariant call
    exact ⟨out, after, ran, moved.invariant, moved.served asks⟩

end GrCompress.StreamedPipeline
