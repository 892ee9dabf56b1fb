import GrCompress.StreamedPipeline

/-!
# What the streamed pipeline delivers

Over whole runs of the four blocks nothing is lost, duplicated or reordered; and
once the input stops, fair rounds of calls deliver all but the bytes of less than
one item and of less than one block.
-/

namespace GrCompress.StreamedDelivery

open GrCompress.CallRuns
open GrCompress.ThresholdBatching
open GrCompress.LengthFraming
open GrCompress.ZstdCodec
open GrCompress.RecordFormat
open GrCompress.FairRounds
open GrCompress.StreamedPipeline
open GrCompress.StoredFrameCodec (storedZstd stored_round_trips stored_decompress_bounded)
open GrCompress.CompressBlock (CompressParams Chunk pendingBytes)
open GrCompress.WireLengths (CompressesWithinBound stored_within_bound)
open GrCompress.StreamBlocks (CompressedMsgToStream StreamToDecompressionMsg)
open GrCompress.DecompressBlock (DecompressParams)

set_option autoImplicit false

variable {zstd : Zstd} (compressor : CompressParams) (decompressor : DecompressParams)
  {graph : Flowgraph zstd}

theorem compress_work_step (within : CompressesWithinBound zstd) (roundTrips : zstd.RoundTrips)
    (invariant : Invariant compressor graph) {chunk : Chunk compressor.itemsize}
    (admissible : Admissible compressor chunk) :
    ∃ after, (step compressor decompressor (.compressWork chunk)).run graph = .ok [] after ∧
      Invariant compressor after ∧
      after.held ++ pendingBytes after.compress =
        graph.held ++ pendingBytes graph.compress ++ chunk.bytes := by
  rcases invariant.compress with ⟨pending, holds⟩
  rcases invariant.compressed with ⟨earlier, queue⟩
  obtain ⟨output, block, messages, ran, published, covered, blockHolds⟩ :=
    compress_work_short compressor within holds admissible
  have before := CompressBlock.pending_bytes_eq holds.holds
  have pendingAfter := CompressBlock.pending_bytes_eq blockHolds.holds
  have moved := push_conserves compressor.compressionBlockSize.value pending chunk.bytes
  have sent : messagesBytes zstd (messages.map Message.pdu) =
      (push compressor.compressionBlockSize.value pending chunk.bytes).1.flatten := by
    rw [← CompressBlock.records_bytes_messages roundTrips covered, messagesBytes, recordsBytes,
      List.flatMap_map, List.flatMap_map]
    simp only [message_bytes_record]
  let after : Flowgraph zstd := { graph with
    compress := block
    compressed := graph.compressed ++ output.published }
  refine ⟨after, ?_, ⟨⟨_, blockHolds⟩, ⟨earlier ++ messages, ?_⟩, invariant.whole,
    invariant.carried, invariant.parser, invariant.compressedin, invariant.decompress⟩, ?_⟩
  · have worked : (onCompress (CompressBlock.work compressor chunk)).run graph =
        .ok output { graph with compress := block } := within_ok ran
    simp only [step, EStateM.run_bind, worked, EStateM.run_modify, EStateM.run_pure, after]
  · simp only [after, queue, published, List.map_append]
  · simp only [Flowgraph.held, Flowgraph.inStream, after, published, messages_bytes_append, sent,
      pendingAfter, before, List.append_assoc, moved]

/-- An event of a run that the model speaks of. -/
def Allowed : Event compressor → Prop
  | .compressWork chunk => Admissible compressor chunk
  | .forward _ => True

/-- Everything consumed is delivered, held or pending, in order; and whole items
are delivered. -/
structure Conserves (events : List (Event compressor)) (outs : List Bytes)
    (graph : Flowgraph zstd) : Prop where
  stores : consumedBytes compressor events =
    outs.flatten ++ graph.held ++ pendingBytes graph.compress
  wholeItems : ∀ out ∈ outs, decompressor.itemsize ∣ out.length

theorem step_conserves (within : CompressesWithinBound zstd) (roundTrips : zstd.RoundTrips)
    (bounded : zstd.DecompressBounded) {events : List (Event compressor)} {outs : List Bytes}
    (invariant : Invariant compressor graph)
    (conserves : Conserves compressor decompressor events outs graph)
    {event : Event compressor} (allowed : Allowed compressor event) :
    ∃ out after, (step compressor decompressor event).run graph = .ok out after ∧
      Invariant compressor after ∧
      Conserves compressor decompressor (events ++ [event]) (outs ++ [out]) after := by
  have consumed : consumedBytes compressor (events ++ [event]) =
      consumedBytes compressor events ++ event.consumed := by
    simp [consumedBytes]
  have wholeItems : ∀ out : Bytes, decompressor.itemsize ∣ out.length →
      ∀ other ∈ outs ++ [out], decompressor.itemsize ∣ other.length := by
    intro out whole other member
    rcases List.mem_append.1 member with earlier | last
    · exact conserves.wholeItems other earlier
    · rw [List.mem_singleton.1 last]
      exact whole
  cases event with
  | compressWork chunk =>
      obtain ⟨after, ran, holds, stores⟩ :=
        compress_work_step compressor decompressor within roundTrips invariant allowed
      refine ⟨[], after, ran, holds, ⟨?_, wholeItems [] (Nat.dvd_zero _)⟩⟩
      rw [consumed, conserves.stores, List.flatten_concat, List.append_nil, List.append_assoc,
        List.append_assoc, List.append_assoc, stores]
      simp only [List.append_assoc]
      rfl
  | forward call =>
      obtain ⟨out, after, ran, moved⟩ :=
        forward_step compressor decompressor bounded invariant call
      refine ⟨out, after, ran, moved.invariant, ⟨?_, wholeItems out moved.wholeItems⟩⟩
      rw [consumed, conserves.stores, ← moved.held, moved.compress, List.flatten_concat]
      simp only [Event.consumed, List.append_assoc, List.append_nil]

theorem run_conserves (within : CompressesWithinBound zstd) (roundTrips : zstd.RoundTrips)
    (bounded : zstd.DecompressBounded) (events : List (Event compressor))
    (allowed : ∀ event ∈ events, Allowed compressor event) :
    ∃ outs, ∃ final : Flowgraph zstd, run compressor decompressor events = .ok outs final ∧
      Invariant compressor final ∧ Conserves compressor decompressor events outs final := by
  apply run_all_total (step compressor decompressor) (Allowed compressor)
    (fun done outs graph => Invariant compressor graph ∧
      Conserves compressor decompressor done outs graph) ?_ events allowed
    (start compressor zstd) ⟨start_invariant compressor, ?_⟩
  · intro done outs before event admissible holds
    exact step_conserves compressor decompressor within roundTrips bounded holds.1 holds.2
      admissible
  · have empty := CompressBlock.pending_bytes_eq
      (CompressBlock.make_pending compressor :
        CompressBlock.Pending (CompressBlock.make compressor zstd) [])
    have nothing : (start compressor zstd).held = [] := by
      simp [Flowgraph.held, Flowgraph.inStream, start, StreamTransport.start, DecompressBlock.make,
        StreamToDecompressionMsg.make, StreamToDecompressionMsg.carried, CompressedMsgToStream.make,
        decodedContent, records]
    exact ⟨by rw [nothing]; exact empty.symm, by simp⟩

/-- Blocks of one byte with headers, read back in items of two bytes. -/
def bytewise : CompressParams where
  itemsize := .one
  compressionBlockSize := .one
  numThreads := 4
  addHeader := true

def pairwise : DecompressParams where
  itemsize := 2
  itemsize_pos := Nat.succ_pos 1
  sendMsg := false

def twoBytes : Chunk bytewise.itemsize := ⟨2, [0x41, 0x42], rfl⟩

theorem two_bytes_admissible : Admissible bytewise twoBytes := ⟨by decide, by decide⟩

/-- Over a byte stream, too, nothing is lost, duplicated or reordered, whatever
the order and the sizes of the calls; and no call fails. -/
theorem streamed_pipeline_conserves (within : CompressesWithinBound zstd)
    (roundTrips : zstd.RoundTrips) (bounded : zstd.DecompressBounded)
    (events : List (Event compressor)) (allowed : ∀ event ∈ events, Allowed compressor event) :
    ∃ outs, ∃ final : Flowgraph zstd, run compressor decompressor events = .ok outs final ∧
      Conserves compressor decompressor events outs final := by
  obtain ⟨outs, final, ran, _, conserves⟩ :=
    run_conserves compressor decompressor within roundTrips bounded events allowed
  exact ⟨outs, final, ran, conserves⟩

/-- The record is emitted and parsed in pieces of five bytes. -/
theorem streamed_pipeline_conserves_two_bytes :
    ∃ outs, ∃ final : Flowgraph storedZstd,
      run bytewise pairwise [.compressWork twoBytes, .forward .send, .forward (.emit 5),
        .forward (.parse 5), .forward (.emit 100), .forward (.parse 100), .forward .deliver,
        .forward (.decompressWork 1)] = .ok outs final ∧
      Conserves bytewise pairwise [.compressWork twoBytes, .forward .send, .forward (.emit 5),
        .forward (.parse 5), .forward (.emit 100), .forward (.parse 100), .forward .deliver,
        .forward (.decompressWork 1)] outs final := by
  apply streamed_pipeline_conserves bytewise pairwise stored_within_bound stored_round_trips
    stored_decompress_bounded
  intro event member
  rcases List.mem_cons.1 member with rfl | forwarded
  · exact two_bytes_admissible
  · simp only [List.mem_cons, List.not_mem_nil, or_false] at forwarded
    rcases forwarded with rfl | rfl | rfl | rfl | rfl | rfl | rfl <;> trivial

theorem idle_stream_empty (invariant : Invariant compressor graph)
    (emitted : graph.transport.toStream.byteQueue = []) (parsed : graph.transport.transit = []) :
    graph.transport.toMsg.carried = [] := by
  have whole := invariant.whole
  rwa [Flowgraph.inStream, emitted, parsed, List.append_nil, List.append_nil, invariant.carried]
    at whole

/-- Moving things on consumes nothing. -/
theorem consumed_bytes_forwards (events : List (Event compressor)) (calls : List Forward) :
    consumedBytes compressor (events ++ calls.map .forward) = consumedBytes compressor events := by
  have nothing : (calls.map Event.forward).flatMap (Event.consumed compressor) = [] := by
    apply List.flatMap_eq_nil_iff.2
    intro event member
    obtain ⟨call, _, rfl⟩ := List.mem_map.1 member
    rfl
  rw [consumedBytes, List.flatMap_append, nothing, List.append_nil, consumedBytes]

theorem forwards_allowed {events : List (Event compressor)}
    (allowed : ∀ event ∈ events, Allowed compressor event) (calls : List Forward) :
    ∀ event ∈ events ++ calls.map .forward, Allowed compressor event := by
  intro event member
  rcases List.mem_append.1 member with earlier | forwarded
  · exact allowed event earlier
  · obtain ⟨call, _, rfl⟩ := List.mem_map.1 forwarded
    trivial

/-- Once the input stops, fair rounds of calls, however ordered and however small,
deliver all but less than an item and less than a block: after as many rounds as
there was backlog, every queue is empty and the parser is between records. -/
theorem fair_rounds_deliver (within : CompressesWithinBound zstd) (roundTrips : zstd.RoundTrips)
    (bounded : zstd.DecompressBounded) (events : List (Event compressor))
    (allowed : ∀ event ∈ events, Allowed compressor event) {outs : List Bytes}
    {middle : Flowgraph zstd}
    (ran : run compressor decompressor events = .ok outs middle) (rounds : List (List Forward))
    (fair : ∀ round ∈ rounds, Round Forward.Asks Forward.stage round)
    (enough : middle.backlog < rounds.length) :
    ∃ later, ∃ final : Flowgraph zstd,
      run compressor decompressor (events ++ rounds.flatten.map .forward) =
        .ok (outs ++ later) final ∧
      (∀ stage, Idle decompressor final stage) ∧
      final.transport.toMsg.headerValid = false ∧ final.transport.toMsg.byteQueue = [] ∧
      ∃ left, consumedBytes compressor events = (outs ++ later).flatten ++ left ++
          pendingBytes final.compress ∧
        left.length < decompressor.itemsize ∧
        (pendingBytes final.compress).length < compressor.compressionBlockSize.value := by
  obtain ⟨outs', middle', ran', invariant, _⟩ :=
    run_conserves compressor decompressor within roundTrips bounded events allowed
  obtain ⟨rfl, rfl⟩ := ok_unique ran ran'
  obtain ⟨later, final, drained, holds, idle⟩ :=
    rounds_drain (forward_drains compressor decompressor bounded) rounds fair middle invariant
      enough
  have continued : (runAll (step compressor decompressor)
      (rounds.flatten.map .forward)).run middle = .ok later final := by
    rw [run_all_map]
    exact drained
  have ranAll := run_all_append_ok (step compressor decompressor) ran continued
  obtain ⟨outs'', final', ran'', _, conserves⟩ :=
    run_conserves compressor decompressor within roundTrips bounded _
      (forwards_allowed compressor allowed rounds.flatten)
  obtain ⟨rfl, rfl⟩ := ok_unique ranAll ran''
  have nothing := idle_stream_empty compressor holds (idle .emit) (idle .parse)
  obtain ⟨between, queueEmpty⟩ := StreamBlocks.carried_nil nothing
  rcases holds.compress with ⟨pending, block⟩
  refine ⟨later, final, ranAll, idle, between, queueEmpty, final.decompress.byteQueue, ?_,
    idle .decompressWork, ?_⟩
  · have stores := conserves.stores
    have sent : final.compressed = [] := idle .send
    have emitted : final.transport.toStream.byteQueue = [] := idle .emit
    have parsed : final.transport.transit = [] := idle .parse
    have delivered : final.compressedin = [] := idle .deliver
    have held : final.held = final.decompress.byteQueue := by
      simp [Flowgraph.held, Flowgraph.inStream, sent, emitted, parsed, delivered, nothing,
        decodedContent, records]
    rw [← consumed_bytes_forwards compressor events rounds.flatten, stores, held]
  · rw [CompressBlock.pending_bytes_eq block.holds]
    exact block.below

/-- One call of each block, each for a single item, and one delivery on each port. -/
def singly : List Forward := [.send, .emit 1, .parse 1, .deliver, .decompressWork 1]

theorem singly_round : Round Forward.Asks Forward.stage singly where
  admissible call member := by
    simp only [singly, List.mem_cons, List.not_mem_nil, or_false] at member
    rcases member with rfl | rfl | rfl | rfl | rfl <;> simp [Forward.Asks]
  complete served := by cases served <;> simp [singly, Forward.stage]

theorem fair_rounds_deliver_two_bytes :
    ∃ outs later, ∃ final : Flowgraph storedZstd,
      run bytewise pairwise ([.compressWork twoBytes] ++
        (List.replicate 100 singly).flatten.map .forward) = .ok (outs ++ later) final ∧
      (∀ stage, Idle pairwise final stage) ∧
      final.transport.toMsg.headerValid = false ∧ final.transport.toMsg.byteQueue = [] ∧
      ∃ left, [0x41, 0x42] = (outs ++ later).flatten ++ left ++ pendingBytes final.compress ∧
        left.length < 2 ∧ (pendingBytes final.compress).length < 1 := by
  obtain ⟨outs, middle, ran, short⟩ : ∃ outs, ∃ middle : Flowgraph storedZstd,
      run bytewise pairwise [.compressWork twoBytes] = .ok outs middle ∧ middle.backlog < 100 :=
    ⟨_, _, rfl, by decide⟩
  obtain ⟨later, final, ran', idle⟩ := fair_rounds_deliver bytewise pairwise stored_within_bound
    stored_round_trips stored_decompress_bounded [.compressWork twoBytes]
    (by simpa [Allowed] using two_bytes_admissible) ran (List.replicate 100 singly)
    (by simpa using singly_round) (by simpa using short)
  exact ⟨outs, later, final, ran', idle⟩

end GrCompress.StreamedDelivery
