import GrCompress.KilledRecording
import GrCompress.StreamedDelivery
import Mathlib.Data.List.Induction

/-!
# Recording and listening at once

The `compressed` port of one compress block feeds a file sink and a decompress
block. Either has a FIFO queue that gets every message published. The runtime calls
`work` of the blocks and delivers messages from either queue in any order, and the
process may be killed while the sink writes.

Both readers see the same bytes: what the decompress block hands out and what is in
the file are initial segments of what has been consumed, whatever the order.
-/

namespace GrCompress.LiveRecording

open GrCompress.CallRuns
open GrCompress.CheckedStorage
open GrCompress.ThresholdBatching
open GrCompress.StdioStreams (Behaviour killed)
open GrCompress.LengthFraming
open GrCompress.ZstdCodec
open GrCompress.RecordFormat
open GrCompress.CompressBlock (CompressParams CompressImpl Chunk MessageFor pendingBytes)
open GrCompress.WireLengths (CompressesWithinBound stored_within_bound)
open GrCompress.StreamedPipeline (Admissible compress_work_short message_bytes_record)
open GrCompress.StreamedDelivery (bytewise pairwise twoBytes two_bytes_admissible)
open GrCompress.DecompressBlock (DecompressParams DecompressImpl)
open GrCompress.FileSinkBlock (SinkSetup)
open GrCompress.BufferedSink (FileSink)
open GrCompress.KilledRecording (Progress received recording unbufferedAfter)
open GrCompress.StoredFrameCodec (storedZstd stored_round_trips stored_decompress_bounded)

set_option autoImplicit false

/-- The three blocks and the queues of the two readers. -/
structure Flowgraph (zstd : Zstd) where
  compress : CompressImpl zstd
  toSink : List Pdu
  toDecompress : List Pdu
  sink : FileSink
  decompress : DecompressImpl

variable {zstd : Zstd} (compressor : CompressParams) (decompressor : DecompressParams)
  (setup : SinkSetup)

/-- The sink is not yet constructed. -/
def start (zstd : Zstd) (behaviours : List Behaviour) : Flowgraph zstd where
  compress := CompressBlock.make compressor zstd
  toSink := []
  toDecompress := []
  sink := BufferedSink.unopened setup.append { disk := setup.disk, behaviours := behaviours }
  decompress := DecompressBlock.make

inductive Event where
  | compressWork (chunk : Chunk compressor.itemsize)
  | record
  | setUnbuffered (unbuffered : Bool)
  | stopSink
  | deliver
  | decompressWork (noutputItems : Nat)

def onCompress {Out : Type} (call : EStateM Fault (CompressImpl zstd) Out) :
    EStateM Fault (Flowgraph zstd) Out :=
  within Flowgraph.compress (fun block graph => { graph with compress := block }) call

def onSink {Out : Type} (call : EStateM Fault FileSink Out) : EStateM Fault (Flowgraph zstd) Out :=
  within Flowgraph.sink (fun sink graph => { graph with sink := sink }) call

def onDecompress {Out : Type} (call : EStateM Fault DecompressImpl Out) :
    EStateM Fault (Flowgraph zstd) Out :=
  within Flowgraph.decompress (fun block graph => { graph with decompress := block }) call

/-- The output is what `decompress.work` hands out. -/
def step : Event compressor → EStateM Fault (Flowgraph zstd) Bytes
  | .compressWork chunk => do
      let output ← onCompress (CompressBlock.work compressor chunk)
      modify fun graph => { graph with
        toSink := graph.toSink ++ output.published
        toDecompress := graph.toDecompress ++ output.published }
      return []
  | .record => do
      match (← get).toSink with
      | [] => return []
      | pdu :: later =>
          modify fun graph => { graph with toSink := later }
          onSink (BufferedSink.compressedIn setup.params pdu)
          return []
  | .setUnbuffered unbuffered => do
      onSink (KilledRecording.event setup.params (.setUnbuffered unbuffered))
      return []
  | .stopSink => do
      onSink (KilledRecording.event setup.params .stop)
      return []
  | .deliver => do
      match (← get).toDecompress with
      | [] => return []
      | pdu :: later =>
          modify fun graph => { graph with toDecompress := later }
          let _ ← onDecompress (DecompressBlock.compressedIn zstd decompressor pdu)
          return []
  | .decompressWork noutputItems => do
      let output ← onDecompress (DecompressBlock.work decompressor noutputItems)
      return output.items

def run (behaviours : List Behaviour) (events : List (Event compressor)) :
    EStateM.Result Fault (Flowgraph zstd) (List Bytes) :=
  (do
    onSink (BufferedSink.make setup.name setup.unbuffered .succeeds .succeeds)
    runAll (step compressor decompressor setup) events).run
      (start compressor setup zstd behaviours)

/-- The file after a run, whether it returned or was cut short. -/
def leftBehind (name : String) : EStateM.Result Fault (Flowgraph zstd) (List Bytes) → Bytes
  | .ok _ graph => graph.sink.device.disk.content name
  | .error _ graph => graph.sink.device.disk.content name

def Event.consumed {compressor : CompressParams} : Event compressor → Bytes
  | .compressWork chunk => chunk.bytes
  | .record | .setUnbuffered _ | .stopSink | .deliver | .decompressWork _ => []

def consumedBytes (events : List (Event compressor)) : Bytes := events.flatMap Event.consumed

/-- What has been consumed and not handed out. -/
def Flowgraph.unheard (graph : Flowgraph zstd) : Bytes :=
  graph.decompress.byteQueue ++ messagesBytes zstd graph.toDecompress ++
    pendingBytes graph.compress

/-- What has been consumed and not been given to the sink. -/
def Flowgraph.unrecorded (graph : Flowgraph zstd) : Bytes :=
  messagesBytes zstd graph.toSink ++ pendingBytes graph.compress

/-- The bytes that messages cover. -/
def covered (zstd : Zstd) (messages : List Message) : Bytes :=
  messagesBytes zstd (messages.map Message.pdu)

theorem covered_records (messages : List Message) :
    recordsBytes zstd (messages.map Message.record) = covered zstd messages := by
  induction messages with
  | nil => rfl
  | cons message later induction =>
      rw [List.map_cons, records_bytes_cons, induction, message_bytes_record, covered, covered,
        List.map_cons, messages_bytes_cons]

theorem covered_append (first second : List Message) :
    covered zstd (first ++ second) = covered zstd first ++ covered zstd second := by
  rw [covered, List.map_append, messages_bytes_append, covered, covered]

/-- What the sink has seen so far, and what each block needs for its next call. -/
structure Invariant (done : List (Event compressor)) (outs : List Bytes)
    (seen : List KilledRecording.Event) (graph : Flowgraph zstd) : Prop where
  compress : ∃ pending, CompressBlock.Invariant compressor graph.compress pending
  toSink : ∃ waiting : List Message, graph.toSink = waiting.map Message.pdu
  toDecompress : ∃ waiting : List Message, graph.toDecompress = waiting.map Message.pdu
  decompress : graph.decompress.localWriteBuffer.Backed
  heard : outs.flatten ++ graph.unheard = consumedBytes compressor done
  recorded : covered zstd (received seen) ++ graph.unrecorded = consumedBytes compressor done
  progress : Progress setup seen graph.sink
  switches : ∀ unbuffered, .setUnbuffered unbuffered ∈ seen → .setUnbuffered unbuffered ∈ done

/-- The run was cut short while the sink had the messages it has seen and one more. -/
def CutShort (done : List (Event compressor)) (graph : Flowgraph zstd) : Prop :=
  ∃ seen, setup.base <+: graph.sink.device.disk.content setup.name ∧
    graph.sink.device.disk.content setup.name <+: recording setup seen ∧
    covered zstd (received seen) <+: consumedBytes compressor done

/-- What a call comes to: the graph goes on, or the process is killed. -/
def Stepped (done : List (Event compressor)) (outs : List Bytes) :
    EStateM.Result Fault (Flowgraph zstd) Bytes → Prop
  | .ok out after => ∃ seen, Invariant compressor setup done (outs ++ [out]) seen after
  | .error fault after => fault = killed ∧ CutShort compressor setup done after

section Steps

variable {compressor decompressor setup} {done : List (Event compressor)} {outs : List Bytes}
  {seen : List KilledRecording.Event} {graph : Flowgraph zstd}

variable (decompressor) in
theorem compress_work_step (within : CompressesWithinBound zstd) (roundTrips : zstd.RoundTrips)
    (invariant : Invariant compressor setup done outs seen graph)
    (chunk : Chunk compressor.itemsize) (admissible : Admissible compressor chunk) :
    ∃ after, (step compressor decompressor setup (.compressWork chunk)).run graph = .ok [] after ∧
      Invariant compressor setup (done ++ [.compressWork chunk]) (outs ++ [[]]) seen after := by
  rcases invariant.compress with ⟨pending, holds⟩
  rcases invariant.toSink with ⟨waitingSink, sinkQueue⟩
  rcases invariant.toDecompress with ⟨waitingLive, liveQueue⟩
  obtain ⟨output, block, messages, ran, published, carried, blockHolds⟩ :=
    compress_work_short compressor within holds admissible
  have before := CompressBlock.pending_bytes_eq holds.holds
  have after := CompressBlock.pending_bytes_eq blockHolds.holds
  have moved := push_conserves compressor.compressionBlockSize.value pending chunk.bytes
  have sent : messagesBytes zstd output.published =
      (push compressor.compressionBlockSize.value pending chunk.bytes).1.flatten := by
    rw [published, ← CompressBlock.records_bytes_messages roundTrips carried]
    exact (covered_records messages).symm
  have onWork : (onCompress (CompressBlock.work compressor chunk)).run graph =
      .ok output { graph with compress := block } := within_ok ran
  have added : consumedBytes compressor (done ++ [.compressWork chunk]) =
      consumedBytes compressor done ++ chunk.bytes := by
    simp [consumedBytes, Event.consumed]
  refine ⟨{ graph with
      compress := block
      toSink := graph.toSink ++ output.published
      toDecompress := graph.toDecompress ++ output.published }, ?_,
    ⟨⟨_, blockHolds⟩, ⟨waitingSink ++ messages, ?_⟩, ⟨waitingLive ++ messages, ?_⟩,
      invariant.decompress, ?_, ?_, invariant.progress, ?_⟩⟩
  · simp only [step, EStateM.run_bind, onWork, EStateM.run_modify, EStateM.run_pure]
  · rw [sinkQueue, published, List.map_append]
  · rw [liveQueue, published, List.map_append]
  · rw [added, ← invariant.heard]
    simp only [Flowgraph.unheard, before, after, messages_bytes_append, sent, List.append_assoc,
      moved, List.flatten_concat, List.append_nil]
  · rw [added, ← invariant.recorded]
    simp only [Flowgraph.unrecorded, before, after, messages_bytes_append, sent,
      List.append_assoc, moved]
  · intro unbuffered member
    exact List.mem_append_left _ (invariant.switches unbuffered member)

theorem consumed_snoc (next : Event compressor) (nothing : next.consumed = []) :
    consumedBytes compressor (done ++ [next]) = consumedBytes compressor done := by
  simp [consumedBytes, nothing]

theorem switches_snoc (invariant : Invariant compressor setup done outs seen graph)
    (next : Event compressor) (unbuffered : Bool) (member : .setUnbuffered unbuffered ∈ seen) :
    .setUnbuffered unbuffered ∈ done ++ [next] :=
  List.mem_append_left _ (invariant.switches unbuffered member)

/-- A call that finds nothing to do. -/
theorem unchanged_step (invariant : Invariant compressor setup done outs seen graph)
    (next : Event compressor) (nothing : next.consumed = []) :
    Invariant compressor setup (done ++ [next]) (outs ++ [[]]) seen graph where
  compress := invariant.compress
  toSink := invariant.toSink
  toDecompress := invariant.toDecompress
  decompress := invariant.decompress
  heard := by
    rw [consumed_snoc next nothing, List.flatten_concat, List.append_nil]
    exact invariant.heard
  recorded := by
    rw [consumed_snoc next nothing]
    exact invariant.recorded
  progress := invariant.progress
  switches := switches_snoc invariant next

variable (decompressor) in
theorem deliver_step (bounded : zstd.DecompressBounded)
    (invariant : Invariant compressor setup done outs seen graph) :
    ∃ after, (step compressor decompressor setup .deliver).run graph = .ok [] after ∧
      Invariant compressor setup (done ++ [.deliver]) (outs ++ [[]]) seen after := by
  rcases invariant.toDecompress with ⟨waiting, queue⟩
  cases waiting with
  | nil =>
      refine ⟨graph, ?_, unchanged_step invariant .deliver rfl⟩
      simp only [step, EStateM.run_bind, EStateM.run_get, queue, List.map_nil, EStateM.run_pure]
  | cons message later =>
      have readable : DecompressBlock.Readable message.pdu := by
        have size := message.size_fits
        have payload := message.payload_fits
        exact DecompressBlock.payload_pdu_readable (by omega) (by omega)
      have restored : (messageBytes zstd message.pdu).length ≤
          message.pdu.uncompressedSize.toNat := plain_bytes_length_le bounded _ _
      obtain ⟨block, ran, queued, backed⟩ := DecompressBlock.compressed_in_run zstd decompressor
        readable restored invariant.decompress
      have onMessage : (onDecompress (DecompressBlock.compressedIn zstd decompressor
          message.pdu)).run { graph with toDecompress := later.map Message.pdu } =
            .ok _ { graph with toDecompress := later.map Message.pdu, decompress := block } :=
        within_ok ran
      have heard := invariant.heard
      refine ⟨{ graph with toDecompress := later.map Message.pdu, decompress := block }, ?_,
        ⟨invariant.compress, invariant.toSink, ⟨later, rfl⟩, backed, ?_, ?_, invariant.progress,
          switches_snoc invariant .deliver⟩⟩
      · simp only [step, EStateM.run_bind, EStateM.run_get, queue, List.map_cons,
          EStateM.run_modify, onMessage, EStateM.run_pure]
      · rw [consumed_snoc .deliver rfl, ← heard]
        simp only [Flowgraph.unheard, queue, List.map_cons, messages_bytes_cons, queued,
          List.flatten_concat, List.append_nil, List.append_assoc]
      · rw [consumed_snoc .deliver rfl]
        exact invariant.recorded

variable (decompressor) in
theorem decompress_work_step (invariant : Invariant compressor setup done outs seen graph)
    (noutputItems : Nat) :
    ∃ out after, (step compressor decompressor setup (.decompressWork noutputItems)).run graph =
        .ok out after ∧
      Invariant compressor setup (done ++ [.decompressWork noutputItems]) (outs ++ [out]) seen
        after := by
  obtain ⟨items, ran, _, _⟩ := DecompressBlock.work_run decompressor noutputItems graph.decompress
  have cut := List.take_append_drop (items * decompressor.itemsize) graph.decompress.byteQueue
  let after : Flowgraph zstd := { graph with decompress := { graph.decompress with
    byteQueue := graph.decompress.byteQueue.drop (items * decompressor.itemsize) } }
  have onWork : (onDecompress (DecompressBlock.work decompressor noutputItems)).run graph =
      .ok _ after := within_ok ran
  refine ⟨graph.decompress.byteQueue.take (items * decompressor.itemsize), after, ?_,
    ⟨invariant.compress, invariant.toSink, invariant.toDecompress, invariant.decompress, ?_, ?_,
      invariant.progress, switches_snoc invariant (.decompressWork noutputItems)⟩⟩
  · simp only [step, EStateM.run_bind, onWork, EStateM.run_pure]
  · rw [consumed_snoc _ rfl, ← invariant.heard]
    simp only [Flowgraph.unheard, List.flatten_concat, List.append_assoc, after]
    rw [← List.append_assoc (List.take _ _), cut]
  · rw [consumed_snoc _ rfl]
    exact invariant.recorded

/-- A call of the sink adds to what it has seen, or is cut short with at most that
in the file. -/
theorem sink_step (itemsize : setup.params.itemsize = 1)
    (invariant : Invariant compressor setup done outs seen graph) (next : Event compressor)
    (nothing : next.consumed = []) (call : KilledRecording.Event)
    (switch : ∀ unbuffered, call = .setUnbuffered unbuffered → next = .setUnbuffered unbuffered)
    (later : List Message)
    (moved : messagesBytes zstd graph.toSink = covered zstd call.received ++ covered zstd later) :
    Stepped compressor setup (done ++ [next]) outs
      ((do
        onSink (KilledRecording.event setup.params call)
        return [] : EStateM Fault (Flowgraph zstd) Bytes).run
          { graph with toSink := later.map Message.pdu }) := by
  have stepped := KilledRecording.event_step itemsize invariant.progress call
  have sees : received (seen ++ [call]) = received seen ++ call.received := by simp [received]
  have recorded := invariant.recorded
  simp only [Flowgraph.unrecorded, moved] at recorded
  cases ran : (KilledRecording.event setup.params call).run graph.sink with
  | ok _ sink =>
      rw [ran] at stepped
      have onCall : (onSink (KilledRecording.event setup.params call)).run
          { graph with toSink := later.map Message.pdu } =
            .ok () { graph with toSink := later.map Message.pdu, sink := sink } := within_ok ran
      simp only [EStateM.run_bind, onCall, EStateM.run_pure]
      refine ⟨seen ++ [call], invariant.compress, ⟨later, rfl⟩, invariant.toDecompress,
        invariant.decompress, ?_, ?_, stepped, ?_⟩
      · rw [consumed_snoc next nothing, List.flatten_concat, List.append_nil]
        exact invariant.heard
      · rw [consumed_snoc next nothing, ← recorded, sees, covered_append]
        simp only [Flowgraph.unrecorded, covered, List.append_assoc]
      · intro unbuffered member
        rcases List.mem_append.1 member with earlier | last
        · exact switches_snoc invariant next unbuffered earlier
        · rw [switch unbuffered (List.mem_singleton.1 last).symm]
          exact List.mem_append_right _ List.mem_cons_self
  | error fault sink =>
      rw [ran] at stepped
      rcases stepped with ⟨dies, between⟩
      have onCall : (onSink (KilledRecording.event setup.params call)).run
          { graph with toSink := later.map Message.pdu } =
            .error fault { graph with toSink := later.map Message.pdu, sink := sink } :=
        within_error ran
      simp only [EStateM.run_bind, onCall]
      refine ⟨dies, seen ++ [call], invariant.progress.base.trans between.extends_before,
        between.within_content, ?_⟩
      rw [consumed_snoc next nothing, ← recorded, sees, covered_append]
      exact ⟨covered zstd later ++ pendingBytes graph.compress, by
        simp only [List.append_assoc]⟩

theorem record_step (itemsize : setup.params.itemsize = 1)
    (invariant : Invariant compressor setup done outs seen graph) :
    Stepped compressor setup (done ++ [.record]) outs
      ((step compressor decompressor setup .record).run graph) := by
  rcases invariant.toSink with ⟨waiting, queue⟩
  cases waiting with
  | nil =>
      simp only [step, EStateM.run_bind, EStateM.run_get, queue, List.map_nil, EStateM.run_pure]
      exact ⟨seen, unchanged_step invariant .record rfl⟩
  | cons message later =>
      have moved : messagesBytes zstd graph.toSink =
          covered zstd (KilledRecording.Event.deliver message).received ++
            covered zstd later := by
        rw [queue, List.map_cons, messages_bytes_cons]
        simp [KilledRecording.Event.received, covered]
      have apart : ∀ unbuffered, KilledRecording.Event.deliver message =
          .setUnbuffered unbuffered → (.record : Event compressor) =
            .setUnbuffered unbuffered := by
        intro _ impossible
        cases impossible
      have recorded := sink_step itemsize invariant .record rfl (.deliver message) apart later moved
      simp only [step, EStateM.run_bind, EStateM.run_get, queue, List.map_cons,
        EStateM.run_modify] at recorded ⊢
      exact recorded

/-- A call that is not about the queue of the sink. -/
theorem quiet_step (itemsize : setup.params.itemsize = 1)
    (invariant : Invariant compressor setup done outs seen graph) (next : Event compressor)
    (nothing : next.consumed = []) (call : KilledRecording.Event) (quiet : call.received = [])
    (switch : ∀ unbuffered, call = .setUnbuffered unbuffered → next = .setUnbuffered unbuffered) :
    Stepped compressor setup (done ++ [next]) outs
      ((do
        onSink (KilledRecording.event setup.params call)
        return [] : EStateM Fault (Flowgraph zstd) Bytes).run graph) := by
  rcases invariant.toSink with ⟨waiting, queue⟩
  have moved : messagesBytes zstd graph.toSink =
      covered zstd call.received ++ covered zstd waiting := by
    rw [queue, quiet]
    rfl
  have stepped := sink_step itemsize invariant next nothing call switch waiting moved
  rw [← queue] at stepped
  exact stepped

variable (decompressor) in
/-- Every event keeps the invariant, unless the process is killed. -/
theorem step_result (within : CompressesWithinBound zstd) (roundTrips : zstd.RoundTrips)
    (bounded : zstd.DecompressBounded) (itemsize : setup.params.itemsize = 1)
    (invariant : Invariant compressor setup done outs seen graph) (event : Event compressor)
    (admissible : ∀ chunk, event = .compressWork chunk → Admissible compressor chunk) :
    Stepped compressor setup (done ++ [event]) outs
      ((step compressor decompressor setup event).run graph) := by
  cases event with
  | compressWork chunk =>
      obtain ⟨after, ran, held⟩ := compress_work_step decompressor within roundTrips invariant
        chunk (admissible chunk rfl)
      rw [ran]
      exact ⟨seen, held⟩
  | record => exact record_step itemsize invariant
  | setUnbuffered unbuffered =>
      exact quiet_step itemsize invariant (.setUnbuffered unbuffered) rfl
        (.setUnbuffered unbuffered) rfl (by rintro _ ⟨⟩; rfl)
  | stopSink =>
      exact quiet_step itemsize invariant .stopSink rfl .stop rfl
        (fun _ impossible => nomatch impossible)
  | deliver =>
      obtain ⟨after, ran, held⟩ := deliver_step decompressor bounded invariant
      rw [ran]
      exact ⟨seen, held⟩
  | decompressWork noutputItems =>
      obtain ⟨out, after, ran, held⟩ :=
        decompress_work_step decompressor invariant noutputItems
      rw [ran]
      exact ⟨seen, held⟩

theorem made_invariant (holds : BufferedSink.Recording setup.name setup.base setup.unbuffered
      graph.sink)
    (base : setup.base <+: graph.sink.device.disk.content setup.name)
    (made : graph = { start compressor setup zstd [] with sink := graph.sink }) :
    Invariant compressor setup [] [] [] graph := by
  have empty : pendingBytes (CompressBlock.make compressor zstd) = [] :=
    CompressBlock.pending_bytes_eq (CompressBlock.make_pending compressor)
  rw [made]
  exact {
    compress := ⟨[], CompressBlock.make_invariant compressor⟩
    toSink := ⟨[], rfl⟩
    toDecompress := ⟨[], rfl⟩
    decompress := new_backed 64000
    heard := empty
    recorded := empty
    progress := KilledRecording.made_progress holds base
    switches := fun _ member => nomatch member }

/-- The events of a run that returned. -/
theorem events_run (within : CompressesWithinBound zstd) (roundTrips : zstd.RoundTrips)
    (bounded : zstd.DecompressBounded) (itemsize : setup.params.itemsize = 1)
    (made : Invariant compressor setup [] [] [] graph) {events : List (Event compressor)}
    (admissible : ∀ chunk, .compressWork chunk ∈ events → Admissible compressor chunk)
    {outs : List Bytes} {final : Flowgraph zstd}
    (ran : (runAll (step compressor decompressor setup) events).run graph = .ok outs final) :
    ∃ seen, Invariant compressor setup events outs seen final := by
  apply run_all_invariant (step compressor decompressor setup)
    (fun done outs graph =>
      (∀ chunk, .compressWork chunk ∈ done → Admissible compressor chunk) →
        ∃ seen, Invariant compressor setup done outs seen graph) ?_
    (fun _ => ⟨[], made⟩) ran admissible
  intro done outs before event out after reached ran admissible
  obtain ⟨seen, invariant⟩ := reached fun chunk member =>
    admissible chunk (List.mem_append_left _ member)
  have stepped := step_result decompressor within roundTrips bounded itemsize invariant event
    fun chunk same => admissible chunk (by simp [same])
  rwa [ran] at stepped

/-- With `d_unbuffered` set all the time, the file has all that the sink has seen. -/
theorem recorded_at_once {sink : FileSink} (progress : Progress setup seen sink)
    (unbuffered : setup.unbuffered = true) (kept : .setUnbuffered false ∉ seen) :
    sink.device.disk.content setup.name = recording setup seen := by
  have always : ∀ initial, initial <+: seen → unbufferedAfter setup.unbuffered initial = true ∧
      recording setup initial <+: sink.device.disk.content setup.name := by
    intro initial
    induction initial using List.reverseRecOn with
    | nil =>
        intro _
        refine ⟨unbuffered, ?_⟩
        simpa [recording, received] using progress.base
    | append_singleton earlier last induction =>
        intro initial
        obtain ⟨set, recorded⟩ := induction ((List.prefix_append _ _).trans initial)
        have flag : unbufferedAfter setup.unbuffered (earlier ++ [last]) =
            last.flag (unbufferedAfter setup.unbuffered earlier) := by
          simp [unbufferedAfter]
        rw [flag, set, KilledRecording.recording_snoc]
        cases last with
        | stop => exact ⟨rfl, by simpa [KilledRecording.Event.received] using recorded⟩
        | setUnbuffered switched =>
            refine ⟨?_, by simpa [KilledRecording.Event.received] using recorded⟩
            cases switched with
            | true => rfl
            | false => exact absurd (initial.subset (by simp)) kept
        | deliver message =>
            rw [← KilledRecording.recording_snoc]
            exact ⟨rfl, progress.durable earlier message initial set⟩
  have within := KilledRecording.progress_within progress
  exact List.IsPrefix.eq_of_length_le within (always seen List.prefix_rfl).2.length_le

end Steps

/-- A run returns with the invariant, or is cut short. -/
theorem run_result (within : CompressesWithinBound zstd) (roundTrips : zstd.RoundTrips)
    (bounded : zstd.DecompressBounded) (itemsize : setup.params.itemsize = 1)
    (behaviours : List Behaviour) (events : List (Event compressor))
    (admissible : ∀ chunk, .compressWork chunk ∈ events → Admissible compressor chunk) :
    match (run compressor decompressor setup behaviours events :
        EStateM.Result Fault (Flowgraph zstd) (List Bytes)) with
    | .ok outs graph => ∃ seen, Invariant compressor setup events outs seen graph
    | .error fault graph => fault = killed ∧ CutShort compressor setup events graph := by
  have constructed := BufferedSink.make_run setup behaviours
  cases made : (BufferedSink.make setup.name setup.unbuffered .succeeds .succeeds).run
      (BufferedSink.unopened setup.append
        { disk := setup.disk, behaviours := behaviours }) with
  | error fault sink =>
      rw [made] at constructed
      rcases constructed with ⟨dies, between⟩
      have onMake : (onSink (BufferedSink.make setup.name setup.unbuffered .succeeds
          .succeeds)).run (start compressor setup zstd behaviours) =
            .error fault { start compressor setup zstd behaviours with sink := sink } :=
        within_error made
      simp only [run, EStateM.run_bind, onMake]
      refine ⟨dies, [], between.extends_before, ?_, List.nil_prefix⟩
      simpa [recording, received] using between.within_content
  | ok _ sink =>
      rw [made] at constructed
      rcases constructed with ⟨holds, between, _⟩
      let graph : Flowgraph zstd := { start compressor setup zstd behaviours with sink := sink }
      have onMake : (onSink (BufferedSink.make setup.name setup.unbuffered .succeeds
          .succeeds)).run (start compressor setup zstd behaviours) = .ok () graph :=
        within_ok made
      have initial : Invariant compressor setup [] [] [] graph :=
        made_invariant holds between.extends_before rfl
      simp only [run, EStateM.run_bind, onMake]
      cases ran : (runAll (step compressor decompressor setup) events).run graph with
      | ok outs final =>
          exact events_run within roundTrips bounded itemsize initial admissible ran
      | error fault final =>
          obtain ⟨done, next, later, outs, before, rfl, sofar, failed⟩ :=
            (run_all_error_iff (step compressor decompressor setup) events graph final fault).1 ran
          obtain ⟨seen, reached⟩ := events_run within roundTrips bounded itemsize initial
            (fun chunk member => admissible chunk (by simp [member])) sofar
          have stepped := step_result decompressor within roundTrips bounded itemsize reached next
            fun chunk same => admissible chunk (by simp [same])
          rw [failed] at stepped
          rcases stepped with ⟨dies, seen, base, content, messages⟩
          refine ⟨dies, seen, base, content, messages.trans ⟨consumedBytes compressor later, ?_⟩⟩
          simp [consumedBytes]

/-- The file read as records, with what the sink has not got yet, is what was there
and all that was consumed. -/
theorem decoded_recording (complete : tail recordFraming setup.base = [])
    {done : List (Event compressor)} {outs : List Bytes} {seen : List KilledRecording.Event}
    {graph : Flowgraph zstd} (invariant : Invariant compressor setup done outs seen graph)
    {content : Bytes} (all : content = recording setup seen) :
    decodedContent zstd content ++ graph.unrecorded =
      decodedContent zstd setup.base ++ consumedBytes compressor done := by
  rw [all, recording, RecordPaths.decoded_content_append complete, covered_records,
    List.append_assoc, invariant.recorded]

/-- A file that stops short of what the sink has seen plays some of what was consumed. -/
theorem plays_some (complete : tail recordFraming setup.base = [])
    {events : List (Event compressor)} {seen : List KilledRecording.Event} {content : Bytes}
    (extends_base : setup.base <+: content) (within : content <+: recording setup seen)
    (messages : covered zstd (received seen) <+: consumedBytes compressor events) :
    ∃ recorded, recorded <+: consumedBytes compressor events ∧
      decodedContent zstd content = decodedContent zstd setup.base ++ recorded := by
  obtain ⟨found, initial, read⟩ :=
    KilledRecording.messages_between complete extends_base within
  refine ⟨covered zstd found, ?_, ?_⟩
  · rcases initial with ⟨later, all⟩
    rw [← all, covered_append] at messages
    exact (List.prefix_append _ _).trans messages
  · rw [KilledRecording.decoded_of_messages read, covered_records]

/-- Nothing was lost on the way to either reader. What was handed out and what is
still held are what was consumed; so are what was recorded and what the sink has not
got yet, if nothing was buffered or the sink is destroyed. -/
structure Agrees (events : List (Event compressor)) (outs : List Bytes)
    (graph : Flowgraph zstd) : Prop where
  heard : outs.flatten ++ graph.unheard = consumedBytes compressor events
  recorded : setup.unbuffered = true → .setUnbuffered false ∉ events →
    decodedContent zstd (graph.sink.device.disk.content setup.name) ++ graph.unrecorded =
      decodedContent zstd setup.base ++ consumedBytes compressor events
  destroyed : ∀ sink, BufferedSink.destroy.run graph.sink = .ok () sink →
    decodedContent zstd (sink.device.disk.content setup.name) ++ graph.unrecorded =
      decodedContent zstd setup.base ++ consumedBytes compressor events

theorem agrees (complete : tail recordFraming setup.base = []) {events : List (Event compressor)}
    {outs : List Bytes} {seen : List KilledRecording.Event} {graph : Flowgraph zstd}
    (invariant : Invariant compressor setup events outs seen graph) :
    Agrees compressor setup events outs graph where
  heard := invariant.heard
  recorded unbuffered kept :=
    decoded_recording compressor setup complete invariant (recorded_at_once invariant.progress
      unbuffered fun member => kept (invariant.switches false member))
  destroyed sink ended := by
    have flushed := BufferedSink.destroy_run invariant.progress.holds
    rw [ended] at flushed
    exact decoded_recording compressor setup complete invariant flushed

/-- Whatever the order of calls and deliveries, only the end of the process makes one
fail, and the file then plays what was there and an initial segment of what was
consumed. In a run that returns, both readers agree on what was consumed. -/
theorem live_recording_agrees (within : CompressesWithinBound zstd)
    (roundTrips : zstd.RoundTrips) (bounded : zstd.DecompressBounded)
    (itemsize : setup.params.itemsize = 1) (complete : tail recordFraming setup.base = [])
    (behaviours : List Behaviour) (events : List (Event compressor))
    (admissible : ∀ chunk, .compressWork chunk ∈ events → Admissible compressor chunk) :
    (∃ recorded, recorded <+: consumedBytes compressor events ∧
      decodedContent zstd (leftBehind setup.name
          (run compressor decompressor setup behaviours events :
            EStateM.Result Fault (Flowgraph zstd) (List Bytes))) =
        decodedContent zstd setup.base ++ recorded) ∧
    (∀ fault, ∀ graph : Flowgraph zstd,
      run compressor decompressor setup behaviours events = .error fault graph →
        fault = killed) ∧
    ∀ outs, ∀ graph : Flowgraph zstd,
      run compressor decompressor setup behaviours events = .ok outs graph →
        Agrees compressor setup events outs graph := by
  have result := run_result compressor decompressor setup within roundTrips bounded itemsize
    behaviours events admissible
  cases ran : (run compressor decompressor setup behaviours events :
      EStateM.Result Fault (Flowgraph zstd) (List Bytes)) with
  | error fault graph =>
      rw [ran] at result
      rcases result with ⟨dies, seen, base, content, messages⟩
      refine ⟨plays_some compressor setup complete base content messages, ?_,
        fun _ _ impossible => nomatch impossible⟩
      intro fault' graph' same
      rw [EStateM.Result.error.injEq] at same
      rw [← same.1, dies]
  | ok outs graph =>
      rw [ran] at result
      rcases result with ⟨seen, invariant⟩
      refine ⟨plays_some compressor setup complete invariant.progress.base
        (KilledRecording.progress_within invariant.progress)
        ⟨graph.unrecorded, invariant.recorded⟩, ?_, ?_⟩
      · intro fault graph' impossible
        exact nomatch impossible
      · intro outs' graph' same
        rw [EStateM.Result.ok.injEq] at same
        rcases same with ⟨rfl, rfl⟩
        exact agrees compressor setup complete invariant

theorem run_append_ok {behaviours : List Behaviour} {events later : List (Event compressor)}
    {outs more : List Bytes} {middle final : Flowgraph zstd}
    (ran : run compressor decompressor setup behaviours events = .ok outs middle)
    (continued : (runAll (step compressor decompressor setup) later).run middle =
      .ok more final) :
    run compressor decompressor setup behaviours (events ++ later) = .ok (outs ++ more) final := by
  simp only [run, EStateM.run_bind] at ran ⊢
  cases made : (onSink (BufferedSink.make setup.name setup.unbuffered .succeeds .succeeds)).run
      (start compressor setup zstd behaviours) with
  | error fault graph =>
      rw [made] at ran
      cases ran
  | ok out graph =>
      rw [made] at ran
      exact run_all_append_ok (step compressor decompressor setup) ran continued

/-- The listener's side returns, wherever a run has led. -/
theorem listening_returns (within : CompressesWithinBound zstd) (roundTrips : zstd.RoundTrips)
    (bounded : zstd.DecompressBounded) (itemsize : setup.params.itemsize = 1)
    {behaviours : List Behaviour} {events : List (Event compressor)}
    (admissible : ∀ chunk, .compressWork chunk ∈ events → Admissible compressor chunk)
    {outs : List Bytes} {middle : Flowgraph zstd}
    (ran : run compressor decompressor setup behaviours events = .ok outs middle)
    (noutputItems : Nat) :
    ∃ outs', ∃ graph : Flowgraph zstd,
      run compressor decompressor setup behaviours
        (events ++ [.deliver, .decompressWork noutputItems]) = .ok outs' graph := by
  have result := run_result compressor decompressor setup within roundTrips bounded itemsize
    behaviours events admissible
  rw [ran] at result
  rcases result with ⟨seen, reached⟩
  obtain ⟨delivered, first, held⟩ := deliver_step decompressor bounded reached
  obtain ⟨out, final, second, _⟩ := decompress_work_step decompressor held noutputItems
  have continued : (runAll (step compressor decompressor setup)
      [.deliver, .decompressWork noutputItems]).run middle = .ok [[], out] final := by
    rw [run_all_cons_ok _ _ _ first, run_all_single_ok _ _ second]
  exact ⟨outs ++ [[], out], final, run_append_ok compressor decompressor setup ran continued⟩

/-- Two bytes are recorded. -/
def twoBytesRecorded : List (Event bytewise) := [.compressWork twoBytes, .record]

/-- And then they are listened to. -/
def twoBytesLive : List (Event bytewise) := twoBytesRecorded ++ [.deliver, .decompressWork 1]

theorem two_bytes_live_admissible {events : List (Event bytewise)}
    (initial : events <+: twoBytesLive) :
    ∀ chunk, .compressWork chunk ∈ events → Admissible bytewise chunk := by
  intro chunk member
  have memberToo := initial.subset member
  simp only [twoBytesLive, twoBytesRecorded, List.mem_append, List.mem_cons,
    Event.compressWork.injEq, reduceCtorEq, List.not_mem_nil, or_false] at memberToo
  rw [memberToo]
  exact two_bytes_admissible

/-- The process is killed in the sink's handler; in a run in which it is not, both
readers have the two bytes. -/
theorem live_recording_agrees_two_bytes :
    (∃ recorded : Bytes, recorded <+: [0x41, 0x42] ∧
      decodedContent storedZstd (leftBehind "out"
          (run bytewise pairwise KilledRecording.unbufferedOut
            [⟨0, false⟩, ⟨0, false⟩, ⟨4, true⟩] twoBytesLive :
              EStateM.Result Fault (Flowgraph storedZstd) (List Bytes))) = recorded) ∧
    ∃ outs, ∃ graph : Flowgraph storedZstd,
      run bytewise pairwise KilledRecording.unbufferedOut [] twoBytesLive = .ok outs graph ∧
      outs.flatten ++ graph.unheard = [0x41, 0x42] ∧
      decodedContent storedZstd (graph.sink.device.disk.content "out") ++ graph.unrecorded =
        [0x41, 0x42] := by
  obtain ⟨⟨recorded, initial, plays⟩, _⟩ := live_recording_agrees bytewise pairwise
    KilledRecording.unbufferedOut stored_within_bound stored_round_trips stored_decompress_bounded
    rfl tail_nil [⟨0, false⟩, ⟨0, false⟩, ⟨4, true⟩] twoBytesLive
    (two_bytes_live_admissible List.prefix_rfl)
  obtain ⟨_, _, agrees⟩ := live_recording_agrees bytewise pairwise KilledRecording.unbufferedOut
    stored_within_bound stored_round_trips stored_decompress_bounded rfl tail_nil [] twoBytesLive
    (two_bytes_live_admissible List.prefix_rfl)
  obtain ⟨_, _, recording⟩ := exists_of_returned
    (show returned (run bytewise pairwise KilledRecording.unbufferedOut [] twoBytesRecorded :
      EStateM.Result Fault (Flowgraph storedZstd) (List Bytes)) = true by decide +kernel)
  obtain ⟨outs, graph, ran⟩ := listening_returns bytewise pairwise KilledRecording.unbufferedOut
    stored_within_bound stored_round_trips stored_decompress_bounded rfl
    (two_bytes_live_admissible (List.prefix_append _ _)) recording 1
  have both := agrees outs graph ran
  exact ⟨⟨recorded, initial, plays⟩, outs, graph, ran, both.heard,
    both.recorded rfl (by simp [twoBytesLive, twoBytesRecorded])⟩

end GrCompress.LiveRecording
