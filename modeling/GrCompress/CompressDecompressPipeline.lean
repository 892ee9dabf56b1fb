import GrCompress.CompressBlock
import GrCompress.DecompressBlock
import GrCompress.StoredFrameCodec

/-!
# From the compress block to the decompress block

The `compressed` port of a compress block feeds a decompress block through a
FIFO queue. The runtime calls `work` of either block and delivers queued
messages in any order. Four stores hold the bytes that have entered: the
pending bytes of the compressor, the messages in flight, the byte queue of the
decompressor and what it has handed out. Together they always hold exactly the
bytes consumed, in order.
-/

namespace GrCompress.CompressDecompressPipeline

open GrCompress.CallRuns
open GrCompress.CheckedStorage
open GrCompress.ThresholdBatching
open GrCompress.ZstdCodec
open GrCompress.RecordFormat
open GrCompress.CompressBlock (CompressParams CompressImpl Chunk PublishedFor pendingBytes)
open GrCompress.StoredFrameCodec (storedZstd stored_compress_succeeds stored_round_trips)
open GrCompress.DecompressBlock (DecompressParams DecompressImpl UncompressedPdu)

set_option autoImplicit false

/-- The two blocks and the queue between them, with a record of what went in
and what came out. -/
structure Pipeline (zstd : Zstd) where
  compress : CompressImpl zstd
  inFlight : List Pdu
  decompress : DecompressImpl
  consumed : Bytes
  deliveries : List StreamOutput
  uncompressed : List UncompressedPdu

variable {zstd : Zstd} (compressor : CompressParams) (decompressor : DecompressParams)

def start (zstd : Zstd) : Pipeline zstd where
  compress := CompressBlock.make compressor zstd
  inFlight := []
  decompress := DecompressBlock.make
  consumed := []
  deliveries := []
  uncompressed := []

inductive Event where
  | compressWork (chunk : Chunk compressor.itemsize)
  | deliver
  | decompressWork (noutputItems : Nat)

def onCompress {Out : Type} (call : EStateM Fault (CompressImpl zstd) Out) :
    EStateM Fault (Pipeline zstd) Out :=
  within Pipeline.compress (fun block pipeline => { pipeline with compress := block }) call

def onDecompress {Out : Type} (call : EStateM Fault DecompressImpl Out) :
    EStateM Fault (Pipeline zstd) Out :=
  within Pipeline.decompress (fun block pipeline => { pipeline with decompress := block }) call

def step : Event compressor → EStateM Fault (Pipeline zstd) Unit
  | .compressWork chunk => do
      let output ← onCompress (CompressBlock.work compressor chunk)
      modify fun pipeline => { pipeline with
        inFlight := pipeline.inFlight ++ output.published
        consumed := pipeline.consumed ++ chunk.bytes }
  | .deliver => do
      match (← get).inFlight with
      | [] => return ()
      | pdu :: later =>
          modify fun pipeline => { pipeline with inFlight := later }
          let published ← onDecompress (DecompressBlock.compressedIn zstd decompressor pdu)
          modify fun pipeline => { pipeline with
            uncompressed := pipeline.uncompressed ++ published }
  | .decompressWork noutputItems => do
      let output ← onDecompress (DecompressBlock.work decompressor noutputItems)
      modify fun pipeline => { pipeline with deliveries := pipeline.deliveries ++ [output] }

def run (events : List (Event compressor)) :
    EStateM.Result Fault (Pipeline zstd) (List Unit) :=
  (runAll (step compressor decompressor) events).run (start compressor zstd)

/-- The bytes that `decompress.work` has delivered. -/
def Pipeline.delivered (pipeline : Pipeline zstd) : Bytes :=
  pipeline.deliveries.flatMap StreamOutput.items

/-- The bytes of the messages published on the `uncompressed` port. -/
def Pipeline.messaged (pipeline : Pipeline zstd) : Bytes :=
  pipeline.uncompressed.flatMap UncompressedPdu.blob

structure Conserves (pipeline : Pipeline zstd) : Prop where
  stores : pipeline.consumed =
    pipeline.delivered ++ pipeline.decompress.byteQueue ++
      messagesBytes zstd pipeline.inFlight ++ pendingBytes pipeline.compress
  wholeItems : ∀ output ∈ pipeline.deliveries, 0 ≤ output.returned ∧
    output.items.length = output.returned.toNat * decompressor.itemsize
  messages : decompressor.sendMsg = true →
    pipeline.messaged = pipeline.delivered ++ pipeline.decompress.byteQueue

/-- Conservation, and what each block needs for its next call. -/
structure Invariant (pipeline : Pipeline zstd) : Prop where
  compress : ∃ pending, CompressBlock.Invariant compressor pipeline.compress pending
  inFlight : ∃ plains, List.Forall₂ (PublishedFor zstd compressor) pipeline.inFlight plains
  decompress : pipeline.decompress.localWriteBuffer.Backed
  conserves : Conserves decompressor pipeline

theorem start_invariant : Invariant compressor decompressor (start compressor zstd) where
  compress := ⟨[], CompressBlock.make_invariant compressor⟩
  inFlight := ⟨[], .nil⟩
  decompress := new_backed 64000
  conserves :=
    { stores := by
        have empty := CompressBlock.pending_bytes_eq
          (CompressBlock.make_pending compressor :
            CompressBlock.Pending (CompressBlock.make compressor zstd) [])
        simp [start, Pipeline.delivered, DecompressBlock.make, empty]
      wholeItems := by simp [start]
      messages := by simp [start, Pipeline.messaged, Pipeline.delivered, DecompressBlock.make] }

theorem compress_work_step (succeeds : zstd.CompressSucceeds) (roundTrips : zstd.RoundTrips)
    {pipeline : Pipeline zstd}
    (invariant : Invariant compressor decompressor pipeline) (chunk : Chunk compressor.itemsize)
    (fits : chunk.Fits) :
    ∃ after, (step compressor decompressor (.compressWork chunk)).run pipeline = .ok () after ∧
      Invariant compressor decompressor after := by
  rcases invariant.compress with ⟨pending, holds⟩
  rcases invariant.inFlight with ⟨plains, sentBefore⟩
  obtain ⟨output, block, ran, _, published, blockHolds⟩ :=
    CompressBlock.work_run compressor succeeds holds chunk fits
  have before := CompressBlock.pending_bytes_eq holds.holds
  have after := CompressBlock.pending_bytes_eq blockHolds.holds
  have sent := CompressBlock.messages_bytes_published compressor roundTrips published
  have moved := push_conserves compressor.compressionBlockSize.value pending chunk.bytes
  refine ⟨{ pipeline with
      compress := block
      inFlight := pipeline.inFlight ++ output.published
      consumed := pipeline.consumed ++ chunk.bytes }, ?_, ⟨_, blockHolds⟩,
    ⟨_, List.rel_append sentBefore published⟩, invariant.decompress, ?_,
    invariant.conserves.wholeItems, invariant.conserves.messages⟩
  · simp only [step, EStateM.run_bind, onCompress, within_ok ran, EStateM.run_modify]
  · have stores := invariant.conserves.stores
    rw [before] at stores
    simp only [messages_bytes_append, sent, after, stores, List.append_assoc, moved]
    rfl

theorem deliver_step (roundTrips : zstd.RoundTrips) {pipeline : Pipeline zstd}
    (invariant : Invariant compressor decompressor pipeline) :
    ∃ after, (step compressor decompressor .deliver).run pipeline = .ok () after ∧
      Invariant compressor decompressor after := by
  rcases invariant.inFlight with ⟨plains, sent⟩
  cases queue : pipeline.inFlight with
  | nil =>
      refine ⟨pipeline, ?_, invariant⟩
      simp only [step, EStateM.run_bind, EStateM.run_get, queue, EStateM.run_pure]
  | cons pdu later =>
      rw [queue] at sent
      obtain ⟨plain, laterPlains, published, laterSent, rfl⟩ := List.forall₂_cons_left_iff.1 sent
      have restored := CompressBlock.message_bytes_published compressor roundTrips published
      rcases published with ⟨context, capacity, next, payload, plainSmall, payloadSmall, _, shape⟩
      have readable : DecompressBlock.Readable pdu := by
        rw [shape]
        exact DecompressBlock.payload_pdu_readable (by omega) (by omega)
      have bounded : (messageBytes zstd pdu).length ≤ pdu.uncompressedSize.toNat := by
        rw [restored, shape]
        simp
      obtain ⟨block, ran, queued, backed⟩ :=
        DecompressBlock.compressed_in_run zstd decompressor readable bounded invariant.decompress
      refine ⟨{ pipeline with
          inFlight := later
          decompress := block
          uncompressed := pipeline.uncompressed ++
            DecompressBlock.uncompressedMessages decompressor (messageBytes zstd pdu) }, ?_,
        invariant.compress, ⟨laterPlains, laterSent⟩, backed, ?_, invariant.conserves.wholeItems,
        ?_⟩
      · have ran' : (DecompressBlock.compressedIn zstd decompressor pdu).run
            ({ pipeline with inFlight := later } : Pipeline zstd).decompress = _ := ran
        simp only [step, EStateM.run_bind, EStateM.run_get, queue, EStateM.run_modify,
          onDecompress, within_ok ran']
      · have stores := invariant.conserves.stores
        simp only [queue, messages_bytes_cons] at stores
        simp only [stores, queued, List.append_assoc]
        rfl
      · intro sendMsg
        have messages := invariant.conserves.messages sendMsg
        simp only [Pipeline.messaged, DecompressBlock.uncompressedMessages, sendMsg, if_true,
          List.flatMap_append, List.flatMap_cons, List.flatMap_nil, List.append_nil] at messages ⊢
        simp only [messages, queued, List.append_assoc]
        rfl

theorem decompress_work_step {pipeline : Pipeline zstd}
    (invariant : Invariant compressor decompressor pipeline) (noutputItems : Nat) :
    ∃ after, (step compressor decompressor (.decompressWork noutputItems)).run pipeline =
        .ok () after ∧ Invariant compressor decompressor after := by
  obtain ⟨items, ran, enough, _⟩ :=
    DecompressBlock.work_run decompressor noutputItems pipeline.decompress
  refine ⟨{ pipeline with
      decompress := { pipeline.decompress with
        byteQueue := pipeline.decompress.byteQueue.drop (items * decompressor.itemsize) }
      deliveries := pipeline.deliveries ++ [{
        returned := items
        items := pipeline.decompress.byteQueue.take (items * decompressor.itemsize) }] }, ?_,
    invariant.compress, invariant.inFlight, invariant.decompress, ?_, ?_, ?_⟩
  · simp only [step, EStateM.run_bind, onDecompress, within_ok ran, EStateM.run_modify]
  · have stores := invariant.conserves.stores
    simp only [stores, Pipeline.delivered, List.flatMap_append, List.flatMap_cons,
      List.flatMap_nil, List.append_nil, List.append_assoc, List.take_append_drop]
  · intro output member
    rcases List.mem_append.1 member with earlier | last
    · exact invariant.conserves.wholeItems output earlier
    · rw [List.mem_singleton.1 last]
      exact ⟨Int.natCast_nonneg items, List.length_take_of_le enough⟩
  · intro sendMsg
    have messages := invariant.conserves.messages sendMsg
    simp only [Pipeline.messaged, Pipeline.delivered, List.flatMap_append, List.flatMap_cons,
      List.flatMap_nil, List.append_nil, List.append_assoc, List.take_append_drop] at messages ⊢
    exact messages

theorem compress_work_overflows (pipeline : Pipeline zstd) (chunk : Chunk compressor.itemsize)
    (overflows : ¬chunk.Fits) :
    (step compressor decompressor (.compressWork chunk)).run pipeline =
      .error .signedOverflow pipeline := by
  have ran := CompressBlock.work_overflows compressor pipeline.compress chunk overflows
  simp only [step, EStateM.run_bind, onCompress, within_error ran]

/-- Every event keeps the invariant; the only call without a result is one whose
`noutput_items * d_itemsize` overflows `int`. -/
theorem step_result (succeeds : zstd.CompressSucceeds) (roundTrips : zstd.RoundTrips)
    {pipeline : Pipeline zstd} (invariant : Invariant compressor decompressor pipeline)
    (event : Event compressor) :
    match (step compressor decompressor event).run pipeline with
    | .ok _ after => Invariant compressor decompressor after
    | .error fault _ => fault = .signedOverflow ∧
        ∃ chunk, event = .compressWork chunk ∧ ¬chunk.Fits := by
  cases event with
  | compressWork chunk =>
      by_cases fits : chunk.Fits
      · obtain ⟨after, ran, holds⟩ :=
          compress_work_step compressor decompressor succeeds roundTrips invariant chunk fits
        rw [ran]
        exact holds
      · rw [compress_work_overflows compressor decompressor pipeline chunk fits]
        exact ⟨rfl, chunk, rfl, fits⟩
  | deliver =>
      obtain ⟨after, ran, holds⟩ := deliver_step compressor decompressor roundTrips invariant
      rw [ran]
      exact holds
  | decompressWork noutputItems =>
      obtain ⟨after, ran, holds⟩ :=
        decompress_work_step compressor decompressor invariant noutputItems
      rw [ran]
      exact holds

/-- Nothing is lost, duplicated or reordered between the two blocks, whatever
the order of calls and deliveries; and every run whose chunk sizes fit in `int`
completes. -/
theorem pipeline_conserves (succeeds : zstd.CompressSucceeds) (roundTrips : zstd.RoundTrips)
    (events : List (Event compressor)) :
    (∀ outs (final : Pipeline zstd), run compressor decompressor events = .ok outs final →
        Conserves decompressor final) ∧
      ((∀ chunk, .compressWork chunk ∈ events → chunk.Fits) →
        ∃ outs, ∃ final : Pipeline zstd, run compressor decompressor events = .ok outs final) := by
  have preserved : ∀ (done : List (Event compressor)) (outs : List Unit)
      (before : Pipeline zstd) (event : Event compressor) (out : Unit) (after : Pipeline zstd),
      Invariant compressor decompressor before →
        (step compressor decompressor event).run before = .ok out after →
          Invariant compressor decompressor after := by
    intro done outs before event out after invariant ran
    have result := step_result compressor decompressor succeeds roundTrips invariant event
    rw [ran] at result
    exact result
  constructor
  · intro outs final ran
    exact (run_all_invariant (step compressor decompressor)
      (fun _ _ pipeline => Invariant compressor decompressor pipeline) preserved
      (start_invariant compressor decompressor) ran).conserves
  · intro fits
    cases ran : (run compressor decompressor events :
        EStateM.Result Fault (Pipeline zstd) (List Unit)) with
    | ok outs final => exact ⟨outs, final, rfl⟩
    | error fault final =>
        obtain ⟨_, _, before, event, member, invariant, failed⟩ :=
          run_all_failure (step compressor decompressor)
            (fun _ _ pipeline => Invariant compressor decompressor pipeline) preserved
            (start_invariant compressor decompressor) ran
        have result := step_result compressor decompressor succeeds roundTrips invariant event
        rw [failed] at result
        rcases result with ⟨_, chunk, rfl, overflows⟩
        exact absurd (fits chunk member) overflows

/-- Two byte items, compressed in blocks of one byte with headers, delivered,
and read in items of two bytes. -/
theorem pipeline_conserves_two_items :
    let compressor : CompressParams :=
      { itemsize := .one
        compressionBlockSize := .one
        numThreads := 4
        addHeader := true }
    let decompressor : DecompressParams :=
      { itemsize := 2, itemsize_pos := by decide, sendMsg := true }
    ∃ outs, ∃ final : Pipeline storedZstd,
      run compressor decompressor
        [.compressWork ⟨2, [0x41, 0x42], rfl⟩, .deliver, .decompressWork 5] = .ok outs final ∧
      Conserves decompressor final := by
  intro compressor decompressor
  have law := pipeline_conserves compressor decompressor stored_compress_succeeds
    stored_round_trips [.compressWork ⟨2, [0x41, 0x42], rfl⟩, .deliver, .decompressWork 5]
  obtain ⟨outs, final, ran⟩ := law.2 (by
    intro chunk member
    simp only [List.mem_cons, Event.compressWork.injEq, List.not_mem_nil, or_false, reduceCtorEq]
      at member
    subst member
    decide)
  exact ⟨outs, final, ran, law.1 outs final ran⟩

end GrCompress.CompressDecompressPipeline
