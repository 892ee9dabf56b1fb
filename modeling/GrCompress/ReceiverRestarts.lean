import GrCompress.DecompressBlock
import GrCompress.FilePlayback
import GrCompress.StreamBlocks

/-!
# Restarts of the receiving blocks

`StreamToDecompressionMsg` and `decompress` free their buffers in `stop` and keep
everything else, so that the next call allocates what it needs. Whatever bytes arrive,
a stop of either block in between goes unnoticed. A record without a payload needs no
buffer, so one may arrive right after a stop as well.
-/

namespace GrCompress.ReceiverRestarts

open GrCompress.CallRuns
open GrCompress.CheckedStorage
open GrCompress.LengthFraming
open GrCompress.ZstdCodec
open GrCompress.RecordFormat
open GrCompress.StreamBlocks
open GrCompress.DecompressBlock (DecompressParams DecompressImpl UncompressedPdu Readable
  compressed_in_recorded record_pdu_readable uncompressedMessages)
open GrCompress.FilePlayback (threeByteFile three_byte_file_content)
open GrCompress.StoredFrameCodec (storedZstd stored_decompress_bounded)

set_option autoImplicit false

/-! ## The receiver -/

/-- The two receiving blocks, the stream that is on its way to them and the queue of
the port between them. -/
structure Receiver where
  incoming : Bytes
  toMsg : StreamToDecompressionMsg
  compressedin : List Pdu
  decompress : DecompressImpl

/-- What leaves the receiver. -/
inductive Emission where
  | handed (items : Bytes)
  | published (message : UncompressedPdu)

def Emission.items : Emission → Bytes
  | .handed items => items
  | .published _ => []

inductive Event where
  | parse (ninputItems : Nat)
  | deliver
  | decompressWork (noutputItems : Nat)
  | stopToMsg
  | stopDecompress

/-- Everything but the two stops. -/
def Event.moves : Event → Bool
  | .parse _ | .deliver | .decompressWork _ => true
  | .stopToMsg | .stopDecompress => false

def onToMsg {Out : Type} (call : EStateM Fault StreamToDecompressionMsg Out) :
    EStateM Fault Receiver Out :=
  within Receiver.toMsg (fun block receiver => { receiver with toMsg := block }) call

def onDecompress {Out : Type} (call : EStateM Fault DecompressImpl Out) :
    EStateM Fault Receiver Out :=
  within Receiver.decompress (fun block receiver => { receiver with decompress := block }) call

variable (zstd : Zstd) (params : DecompressParams)

def step : Event → EStateM Fault Receiver (List Emission)
  | .parse ninputItems => do
      let incoming := (← get).incoming
      modify fun receiver => { receiver with incoming := incoming.drop ninputItems }
      let output ← onToMsg (StreamToDecompressionMsg.work (incoming.take ninputItems))
      modify fun receiver =>
        { receiver with compressedin := receiver.compressedin ++ output.published }
      return []
  | .deliver => do
      match (← get).compressedin with
      | [] => return []
      | pdu :: later =>
          modify fun receiver => { receiver with compressedin := later }
          let messages ← onDecompress (DecompressBlock.compressedIn zstd params pdu)
          return messages.map .published
  | .decompressWork noutputItems => do
      let output ← onDecompress (DecompressBlock.work params noutputItems)
      return [.handed output.items]
  | .stopToMsg => do
      let _ ← onToMsg StreamToDecompressionMsg.stop
      return []
  | .stopDecompress => do
      let _ ← onDecompress DecompressBlock.stop
      return []

def start (stream : Bytes) : Receiver where
  incoming := stream
  toMsg := .make
  compressedin := []
  decompress := DecompressBlock.make

def run (stream : Bytes) (events : List Event) :
    EStateM.Result Fault Receiver (List (List Emission)) :=
  (runAll (step zstd params) events).run (start stream)

/-! ## The receiver without buffers -/

/-- What is held in each place, and no buffers. -/
structure Reception where
  incoming : Bytes
  carried : Bytes
  compressedin : List Pdu
  byteQueue : Bytes

def Receiver.reception (receiver : Receiver) : Reception where
  incoming := receiver.incoming
  carried := receiver.toMsg.carried
  compressedin := receiver.compressedin
  byteQueue := receiver.decompress.byteQueue

def respond (reception : Reception) : Event → List Emission × Reception
  | .parse ninputItems =>
      let fed := reception.carried ++ reception.incoming.take ninputItems
      ([], { reception with
        incoming := reception.incoming.drop ninputItems
        carried := tail recordFraming fed
        compressedin := reception.compressedin ++ (records fed).map recordPdu })
  | .deliver =>
      match reception.compressedin with
      | [] => ([], reception)
      | pdu :: later =>
          ((uncompressedMessages params (messageBytes zstd pdu)).map .published,
            { reception with
              compressedin := later
              byteQueue := reception.byteQueue ++ messageBytes zstd pdu })
  | .decompressWork noutputItems =>
      let items := min noutputItems (reception.byteQueue.length / params.itemsize)
      ([.handed (reception.byteQueue.take (items * params.itemsize))],
        { reception with byteQueue := reception.byteQueue.drop (items * params.itemsize) })
  | .stopToMsg | .stopDecompress => ([], reception)

/-- Buffers are as large as recorded, and what is queued can be read. -/
structure Receives (receiver : Receiver) : Prop where
  parser : receiver.toMsg.localWriteBuffer.Recorded
  decompressor : receiver.decompress.localWriteBuffer.Recorded
  readable : ∀ pdu ∈ receiver.compressedin, Readable pdu

section Steps

variable {zstd} {receiver : Receiver}

/-- The records of a stream come in two parts, wherever it is cut. -/
theorem records_cut (carried incoming : Bytes) (count : Nat) :
    records (carried ++ incoming) = records (carried ++ incoming.take count) ++
      records (tail recordFraming (carried ++ incoming.take count) ++ incoming.drop count) := by
  rw [← records_append, List.append_assoc, List.take_append_drop]

theorem parse_responds (receives : Receives receiver) (ninputItems : Nat) :
    ∃ next, (step zstd params (.parse ninputItems)).run receiver =
        .ok (respond zstd params receiver.reception (.parse ninputItems)).1 next ∧
      next.reception = (respond zstd params receiver.reception (.parse ninputItems)).2 ∧
      Receives next := by
  obtain ⟨block, ran, carried, _, kept⟩ := parse_recorded
    (receiver.incoming.take ninputItems) receives.parser
  have taken : (onToMsg (StreamToDecompressionMsg.work (receiver.incoming.take ninputItems))).run
      { receiver with incoming := receiver.incoming.drop ninputItems } =
        .ok _ { receiver with
          incoming := receiver.incoming.drop ninputItems
          toMsg := block } := within_ok ran
  refine ⟨{ receiver with
      incoming := receiver.incoming.drop ninputItems
      toMsg := block
      compressedin := receiver.compressedin ++ (records (receiver.toMsg.carried ++
        receiver.incoming.take ninputItems)).map recordPdu }, ?_, ?_,
    ⟨kept.recorded, receives.decompressor, ?_⟩⟩
  · simp only [step, EStateM.run_bind, EStateM.run_get, EStateM.run_modify, taken,
      EStateM.run_pure, respond]
  · simp only [Receiver.reception, respond, carried]
  · intro pdu member
    rcases List.mem_append.1 member with before | new
    · exact receives.readable pdu before
    · obtain ⟨record, _, rfl⟩ := List.mem_map.1 new
      exact record_pdu_readable record

theorem deliver_responds (bounded : zstd.DecompressBounded) (receives : Receives receiver) :
    ∃ next, (step zstd params .deliver).run receiver =
        .ok (respond zstd params receiver.reception .deliver).1 next ∧
      next.reception = (respond zstd params receiver.reception .deliver).2 ∧
      Receives next := by
  cases queued : receiver.compressedin with
  | nil =>
      refine ⟨receiver, ?_, ?_, receives⟩
      · simp only [step, EStateM.run_bind, EStateM.run_get, queued, EStateM.run_pure, respond,
          Receiver.reception]
      · simp only [respond, Receiver.reception, queued]
  | cons pdu later =>
      have readable : Readable pdu := receives.readable pdu (by simp [queued])
      obtain ⟨block, ran, bytes, recorded, _⟩ :=
        compressed_in_recorded zstd params bounded readable receives.decompressor
      have taken : (onDecompress (DecompressBlock.compressedIn zstd params pdu)).run
          { receiver with compressedin := later } =
            .ok _ { receiver with compressedin := later, decompress := block } := within_ok ran
      refine ⟨{ receiver with compressedin := later, decompress := block }, ?_, ?_,
        ⟨receives.parser, recorded, ?_⟩⟩
      · simp only [step, EStateM.run_bind, EStateM.run_get, queued, EStateM.run_modify, taken,
          EStateM.run_pure, respond, Receiver.reception]
      · simp only [respond, Receiver.reception, queued, bytes]
      · intro other member
        exact receives.readable other (by simp [queued, member])

theorem decompress_work_responds (receives : Receives receiver) (noutputItems : Nat) :
    ∃ next, (step zstd params (.decompressWork noutputItems)).run receiver =
        .ok (respond zstd params receiver.reception (.decompressWork noutputItems)).1 next ∧
      next.reception = (respond zstd params receiver.reception (.decompressWork noutputItems)).2 ∧
      Receives next := by
  obtain ⟨items, ran, _, produced⟩ :=
    DecompressBlock.work_run params noutputItems receiver.decompress
  let served : DecompressImpl :=
    { receiver.decompress with
      byteQueue := receiver.decompress.byteQueue.drop (items * params.itemsize) }
  have taken : (onDecompress (DecompressBlock.work params noutputItems)).run receiver =
      .ok _ { receiver with decompress := served } := within_ok ran
  refine ⟨{ receiver with decompress := served }, ?_, ?_,
    ⟨receives.parser, receives.decompressor, receives.readable⟩⟩
  · simp only [step, EStateM.run_bind, taken, EStateM.run_pure, respond, Receiver.reception,
      produced]
  · simp only [respond, Receiver.reception, produced, served]

/-- Every event is answered as if there were no buffers. -/
theorem step_responds (bounded : zstd.DecompressBounded) (receiver : Receiver) (event : Event)
    (receives : Receives receiver) :
    ∃ next, (step zstd params event).run receiver =
        .ok (respond zstd params receiver.reception event).1 next ∧
      next.reception = (respond zstd params receiver.reception event).2 ∧ Receives next := by
  cases event with
  | parse ninputItems => exact parse_responds params receives ninputItems
  | deliver => exact deliver_responds params bounded receives
  | decompressWork noutputItems => exact decompress_work_responds params receives noutputItems
  | stopToMsg =>
      exact ⟨_, rfl, rfl, release_recorded receives.parser, receives.decompressor,
        receives.readable⟩
  | stopDecompress =>
      exact ⟨_, rfl, rfl, receives.parser, release_recorded receives.decompressor,
        receives.readable⟩

theorem start_receives (stream : Bytes) : Receives (start stream) where
  parser := recorded_of_backed (new_backed 64000)
  decompressor := recorded_of_backed (new_backed 64000)
  readable := by simp [start]

theorem run_responds (bounded : zstd.DecompressBounded) (stream : Bytes) (events : List Event) :
    ∃ final, run zstd params stream events =
        .ok (answers (respond zstd params) (start stream).reception events).1 final ∧
      final.reception = (answers (respond zstd params) (start stream).reception events).2 := by
  obtain ⟨final, ran, reception, _⟩ := run_all_refines (step zstd params) (respond zstd params)
    Receiver.reception Receives (step_responds params bounded) events (start stream)
    (start_receives stream)
  exact ⟨final, ran, reception⟩

end Steps

/-! ## Nothing is lost, and no stop is noticed -/

/-- The bytes that are still to be handed out, in order. -/
def Reception.held (reception : Reception) : Bytes :=
  reception.byteQueue ++ messagesBytes zstd reception.compressedin ++
    decodedContent zstd (reception.carried ++ reception.incoming)

theorem published_items (messages : List UncompressedPdu) :
    (messages.map Emission.published).flatMap Emission.items = [] := by
  induction messages with
  | nil => rfl
  | cons message messages induction => exact induction

theorem respond_conserves (reception : Reception) (event : Event) :
    (respond zstd params reception event).1.flatMap Emission.items ++
      (respond zstd params reception event).2.held zstd = reception.held zstd := by
  cases event with
  | parse ninputItems =>
      have cut := records_cut reception.carried reception.incoming ninputItems
      simp only [respond, List.flatMap_nil, List.nil_append, Reception.held,
        messages_bytes_append, messages_bytes_record_pdus, decodedContent]
      rw [cut, records_bytes_append]
      simp only [List.append_assoc]
  | deliver =>
      cases queued : reception.compressedin with
      | nil => simp only [respond, queued, List.flatMap_nil, List.nil_append]
      | cons pdu later =>
          simp only [respond, queued, published_items, List.nil_append, Reception.held,
            messages_bytes_cons, List.append_assoc]
  | decompressWork noutputItems =>
      simp only [respond, Reception.held, List.flatMap_cons, List.flatMap_nil, Emission.items,
        List.append_nil, ← List.append_assoc, List.take_append_drop]
  | stopToMsg => rfl
  | stopDecompress => rfl

theorem respond_silent (reception : Reception) (event : Event) (stops : event.moves = false) :
    respond zstd params reception event = ([], reception) := by
  cases event with
  | parse ninputItems => cases stops
  | deliver => cases stops
  | decompressWork noutputItems => cases stops
  | stopToMsg => rfl
  | stopDecompress => rfl

/-- Whatever stream arrives, no stop of a receiving block is noticed: what the receiver
emits and what it holds afterwards are the same without the stops, and together they
are the decoding of the stream. -/
theorem restarts_unnoticed (bounded : zstd.DecompressBounded) (stream : Bytes)
    (events : List Event) :
    ∃ outs final outs' final', run zstd params stream events = .ok outs final ∧
      run zstd params stream (events.filter Event.moves) = .ok outs' final' ∧
      outs.flatten = outs'.flatten ∧ final.reception = final'.reception ∧
      outs.flatten.flatMap Emission.items ++ final.reception.held zstd =
        decodedContent zstd stream := by
  obtain ⟨final, ran, reception⟩ := run_responds params bounded stream events
  obtain ⟨final', ran', reception'⟩ :=
    run_responds params bounded stream (events.filter Event.moves)
  obtain ⟨same, ended⟩ := answers_filter (respond zstd params) Event.moves
    (respond_silent zstd params) events (start stream).reception
  have conserved := answers_conserve (respond zstd params) Emission.items (Reception.held zstd)
    (respond_conserves zstd params) events (start stream).reception
  refine ⟨_, final, _, final', ran, ran', same.symm, ?_, ?_⟩
  · rw [reception, reception', ended]
  · rw [reception, conserved]
    rfl

/-- Stops inside a record, between the two blocks and with bytes still queued. -/
def stoppedThrice : List Event :=
  [.parse 3, .stopToMsg, .parse 100, .stopToMsg, .deliver, .stopDecompress, .decompressWork 2]

theorem restarts_unnoticed_three_bytes :
    ∃ outs final outs' final',
      run storedZstd { itemsize := 1, itemsize_pos := Nat.one_pos, sendMsg := true }
        threeByteFile stoppedThrice = .ok outs final ∧
      run storedZstd { itemsize := 1, itemsize_pos := Nat.one_pos, sendMsg := true }
        threeByteFile [.parse 3, .parse 100, .deliver, .decompressWork 2] = .ok outs' final' ∧
      outs.flatten = outs'.flatten ∧ final.reception = final'.reception ∧
      outs.flatten.flatMap Emission.items ++ final.reception.held storedZstd =
        [0x61, 0x62, 0x63] := by
  rw [← three_byte_file_content]
  exact restarts_unnoticed storedZstd
    { itemsize := 1, itemsize_pos := Nat.one_pos, sendMsg := true } stored_decompress_bounded
    threeByteFile stoppedThrice

end GrCompress.ReceiverRestarts
