import GrCompress.DecompressBlock
import GrCompress.StoredFrameCodec

/-!
# Messages that zstd rejects

`ZStdDecompressor::decompress` reports an error as a size of 0, and the handler
tests for a size above the expected one. So a rejected message takes the way of
an empty one: it queues nothing, but with `sendMsg` an empty message is
published for it.

To its callers the block is a queue of bytes: `respond` is that machine,
and a run of the block answers as the machine does.
-/

namespace GrCompress.RejectedMessages

open GrCompress.CallRuns
open GrCompress.CheckedStorage
open GrCompress.ZstdCodec
open GrCompress.RecordFormat
open GrCompress.DecompressBlock
open GrCompress.StoredFrameCodec

set_option autoImplicit false

structure ReadablePdu where
  pdu : Pdu
  readable : Readable pdu

inductive BlockEvent where
  | message (message : ReadablePdu)
  | work (noutputItems : Nat)
  | stop

inductive BlockOutput where
  | published (messages : List UncompressedPdu)
  | served (output : StreamOutput)
  | stopped

def BlockOutput.messages : BlockOutput → List UncompressedPdu
  | .published messages => messages
  | .served _ => []
  | .stopped => []

def BlockOutput.stream : BlockOutput → Option StreamOutput
  | .published _ => none
  | .served output => some output
  | .stopped => none

variable (zstd : Zstd) (params : DecompressParams)

def blockEvent : BlockEvent → EStateM Fault DecompressImpl BlockOutput
  | .message message => do
      let published ← compressedIn zstd params message.pdu
      return .published published
  | .work noutputItems => do
      let output ← work params noutputItems
      return .served output
  | .stop => do
      let _ ← stop
      return .stopped

/-- zstd reports an error for the payload of the message. -/
def Rejected (pdu : Pdu) : Prop :=
  ∃ code, zstd.decompressDCtx pdu.uncompressedSize.toNat
    ((pdu.blob.drop pdu.payloadOffset).take pdu.compressedSize.toNat) = .error code

/-- Both runs return, with the same messages published and the same stream. -/
def Unnoticed (earlier : List BlockEvent) (bad : ReadablePdu) (later : List BlockEvent) : Prop :=
  ∃ noticed unnoticed after without,
    (runAll (blockEvent zstd params) (earlier ++ .message bad :: later)).run make =
      .ok noticed after ∧
    (runAll (blockEvent zstd params) (earlier ++ later)).run make = .ok unnoticed without ∧
    noticed.flatMap BlockOutput.messages = unnoticed.flatMap BlockOutput.messages ∧
    noticed.filterMap BlockOutput.stream = unnoticed.filterMap BlockOutput.stream

/-- The handler leaves the queue as it is and publishes nothing, and whatever
comes later is answered as if the message had not arrived. -/
def HasNoEffect (earlier : List BlockEvent) (bad : ReadablePdu) : Prop :=
  (∃ outs before after,
    (runAll (blockEvent zstd params) earlier).run make = .ok outs before ∧
    (compressedIn zstd params bad.pdu).run before = .ok [] after ∧
    after.byteQueue = before.byteQueue) ∧
  ∀ later, Unnoticed zstd params earlier bad later

/-! ## The block as a queue -/

/-- What the block answers when these bytes are queued, and what is queued then. -/
def respond (queue : Bytes) : BlockEvent → BlockOutput × Bytes
  | .message message =>
      (.published (uncompressedMessages params (messageBytes zstd message.pdu)),
        queue ++ messageBytes zstd message.pdu)
  | .work noutputItems =>
      let items := min noutputItems (queue.length / params.itemsize)
      (.served { returned := items, items := queue.take (items * params.itemsize) },
        queue.drop (items * params.itemsize))
  | .stop => (.stopped, queue)

section Queue

variable {zstd}

theorem message_run (bounded : zstd.DecompressBounded) {block : DecompressImpl}
    (recorded : block.localWriteBuffer.Recorded) (message : ReadablePdu) :
    ∃ after, (compressedIn zstd params message.pdu).run block =
        .ok (uncompressedMessages params (messageBytes zstd message.pdu)) after ∧
      after.byteQueue = block.byteQueue ++ messageBytes zstd message.pdu ∧
      after.localWriteBuffer.Recorded := by
  obtain ⟨after, ran, queue, afterRecorded, _⟩ :=
    compressed_in_recorded zstd params bounded message.readable recorded
  exact ⟨after, ran, queue, afterRecorded⟩

/-- Every event is answered as the queue answers it. -/
theorem block_event_responds (bounded : zstd.DecompressBounded) (block : DecompressImpl)
    (event : BlockEvent) (recorded : block.localWriteBuffer.Recorded) :
    ∃ after, (blockEvent zstd params event).run block =
        .ok (respond zstd params block.byteQueue event).1 after ∧
      after.byteQueue = (respond zstd params block.byteQueue event).2 ∧
      after.localWriteBuffer.Recorded := by
  cases event with
  | message message =>
      obtain ⟨after, ran, queue, afterRecorded⟩ := message_run params bounded recorded message
      refine ⟨after, ?_, queue, afterRecorded⟩
      simp only [blockEvent, EStateM.run_bind, ran, EStateM.run_pure, respond]
  | work noutputItems =>
      obtain ⟨items, ran, _, produced⟩ := work_run params noutputItems block
      rw [produced] at ran
      refine ⟨{ block with
        byteQueue := (respond zstd params block.byteQueue (.work noutputItems)).2 },
        ?_, rfl, recorded⟩
      simp only [blockEvent, EStateM.run_bind, ran, EStateM.run_pure, respond]
  | stop =>
      exact ⟨{ block with localWriteBuffer := block.localWriteBuffer.release }, rfl, rfl,
        release_recorded recorded⟩

theorem events_respond (bounded : zstd.DecompressBounded) (events : List BlockEvent) :
    ∃ final, (runAll (blockEvent zstd params) events).run make =
        .ok (answers (respond zstd params) [] events).1 final ∧
      final.byteQueue = (answers (respond zstd params) [] events).2 ∧
      final.localWriteBuffer.Recorded :=
  run_all_refines (blockEvent zstd params) (respond zstd params) DecompressImpl.byteQueue
    (fun block => block.localWriteBuffer.Recorded) (block_event_responds params bounded) events make
    (recorded_of_backed (new_backed 64000))

end Queue

/-! ## A rejected message -/

section Rejection

variable {zstd} {bad : ReadablePdu}

theorem rejected_bytes (rejected : Rejected zstd bad.pdu) : messageBytes zstd bad.pdu = [] := by
  rcases rejected with ⟨code, result⟩
  simp only [messageBytes, plainBytes, result]

theorem uncompressed_messages_nil_iff (plain : Bytes) :
    uncompressedMessages params plain = [] ↔ params.sendMsg = false := by
  rw [uncompressedMessages]
  cases params.sendMsg <;> simp

/-- To the queue a rejected message is one that says nothing. -/
theorem answers_rejected (rejected : Rejected zstd bad.pdu) (earlier later : List BlockEvent) :
    (answers (respond zstd params) [] (earlier ++ .message bad :: later)).1 =
      (answers (respond zstd params) [] earlier).1 ++
        .published (uncompressedMessages params []) ::
          (answers (respond zstd params) (answers (respond zstd params) [] earlier).2 later).1 := by
  rw [answers_append]
  simp only [answers, respond, rejected_bytes rejected, List.append_nil]

theorem unnoticed_of_quiet (bounded : zstd.DecompressBounded)
    (rejected : Rejected zstd bad.pdu) (quiet : params.sendMsg = false)
    (earlier later : List BlockEvent) : Unnoticed zstd params earlier bad later := by
  have nothing := (uncompressed_messages_nil_iff params []).2 quiet
  obtain ⟨after, noticed, _⟩ := events_respond params bounded (earlier ++ .message bad :: later)
  obtain ⟨without, unnoticed, _⟩ := events_respond params bounded (earlier ++ later)
  refine ⟨_, _, after, without, noticed, unnoticed, ?_, ?_⟩
  · rw [answers_rejected params rejected, answers_append, nothing]
    simp [BlockOutput.messages]
  · rw [answers_rejected params rejected, answers_append]
    simp [List.filterMap_cons, BlockOutput.stream]

theorem quiet_of_has_no_effect (bounded : zstd.DecompressBounded) (earlier : List BlockEvent)
    (rejected : Rejected zstd bad.pdu) (harmless : HasNoEffect zstd params earlier bad) :
    params.sendMsg = false := by
  obtain ⟨before, ran, _, recorded⟩ := events_respond params bounded earlier
  obtain ⟨after, handled, _⟩ := message_run params bounded recorded bad
  rcases harmless with ⟨⟨outs, before', after', ran', quiet, _⟩, _⟩
  rw [(ok_unique ran' ran).2, handled, EStateM.Result.ok.injEq, rejected_bytes rejected] at quiet
  exact (uncompressed_messages_nil_iff params []).1 quiet.1

theorem has_no_effect_of_quiet (bounded : zstd.DecompressBounded) (earlier : List BlockEvent)
    (rejected : Rejected zstd bad.pdu) (quiet : params.sendMsg = false) :
    HasNoEffect zstd params earlier bad := by
  obtain ⟨before, ran, _, recorded⟩ := events_respond params bounded earlier
  obtain ⟨after, handled, queue, _⟩ := message_run params bounded recorded bad
  rw [rejected_bytes rejected, (uncompressed_messages_nil_iff params []).2 quiet] at handled
  rw [rejected_bytes rejected, List.append_nil] at queue
  constructor
  · exact ⟨_, before, after, ran, handled, queue⟩
  · exact unnoticed_of_quiet params bounded rejected quiet earlier

end Rejection

/-- In every state that messages and calls of `work` and `stop` lead to, a message
that zstd rejects has no effect exactly if the block sends no messages. -/
theorem rejected_no_effect_iff (bounded : zstd.DecompressBounded) (earlier : List BlockEvent)
    (bad : ReadablePdu) (rejected : Rejected zstd bad.pdu) :
    HasNoEffect zstd params earlier bad ↔ params.sendMsg = false := by
  constructor
  · exact quiet_of_has_no_effect params bounded earlier rejected
  · exact has_no_effect_of_quiet params bounded earlier rejected

def sending (sendMsg : Bool) : DecompressParams where
  itemsize := 1
  itemsize_pos := Nat.one_pos
  sendMsg := sendMsg

/-- zstd rejects this payload of one byte. -/
def garbage : ReadablePdu where
  pdu := payloadPdu false 4 [1]
  readable := payload_pdu_readable (by decide) (by decide)

theorem garbage_rejected : Rejected storedZstd garbage.pdu := ⟨9, rfl⟩

/-- With `sendMsg` an empty message is published for it. -/
theorem garbage_published : ¬HasNoEffect storedZstd (sending true) [] garbage := by
  intro harmless
  have quiet := quiet_of_has_no_effect (sending true) stored_decompress_bounded [] garbage_rejected
    harmless
  exact absurd quiet (by decide)

theorem rejected_no_effect_iff_garbage :
    HasNoEffect storedZstd (sending false) [.stop, .work 1] garbage ∧
      (HasNoEffect storedZstd (sending true) [.stop, .work 1] garbage ↔
        (sending true).sendMsg = false) :=
  ⟨(rejected_no_effect_iff storedZstd (sending false) stored_decompress_bounded
      [.stop, .work 1] garbage garbage_rejected).2 rfl,
    rejected_no_effect_iff storedZstd (sending true) stored_decompress_bounded
      [.stop, .work 1] garbage garbage_rejected⟩

end GrCompress.RejectedMessages
