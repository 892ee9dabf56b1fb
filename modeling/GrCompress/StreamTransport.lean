import GrCompress.StreamBlocks

/-!
# Messages over a byte stream

`CompressedMsgToStream` feeds `StreamToDecompressionMsg` through a byte stream.
Messages come in, `work` of the first block emits queued bytes, and `work` of
the second one takes the next bytes of the stream, in any order and in pieces of
any size. The state carries no history: what holds of a run is stated over its
events and its outputs.
-/

namespace GrCompress.StreamTransport

open GrCompress.CallRuns
open GrCompress.CheckedStorage
open GrCompress.LengthFraming
open GrCompress.ZstdCodec
open GrCompress.RecordFormat
open GrCompress.StreamBlocks (CompressedMsgToStream StreamToDecompressionMsg)

set_option autoImplicit false

/-- The two blocks and the bytes between them. -/
structure Transport where
  toStream : CompressedMsgToStream
  transit : Bytes
  toMsg : StreamToDecompressionMsg

def start : Transport where
  toStream := .make
  transit := []
  toMsg := .make

inductive Event where
  | send (message : Message)
  | emit (noutputItems : Nat)
  | parse (ninputItems : Nat)

def onToStream {Out : Type} (call : EStateM Fault CompressedMsgToStream Out) :
    EStateM Fault Transport Out :=
  within Transport.toStream (fun block transport => { transport with toStream := block }) call

def onToMsg {Out : Type} (call : EStateM Fault StreamToDecompressionMsg Out) :
    EStateM Fault Transport Out :=
  within Transport.toMsg (fun block transport => { transport with toMsg := block }) call

/-- The output of an event is what it publishes at the far end. -/
def step : Event → EStateM Fault Transport (List Pdu)
  | .send message => do
      onToStream (StreamBlocks.compressedIn message.pdu)
      return []
  | .emit noutputItems => do
      let output ← onToStream (CompressedMsgToStream.work noutputItems)
      modify fun transport => { transport with transit := transport.transit ++ output.items }
      return []
  | .parse ninputItems => do
      let transit := (← get).transit
      modify fun transport => { transport with transit := transit.drop ninputItems }
      let output ← onToMsg (StreamToDecompressionMsg.work (transit.take ninputItems))
      return output.published

def run (events : List Event) : EStateM.Result Fault Transport (List (List Pdu)) :=
  (runAll step events).run start

def Event.sent : Event → List Message
  | .send message => [message]
  | .emit _ | .parse _ => []

/-- The messages that came in, in order. -/
def sentMessages (events : List Event) : List Message := events.flatMap Event.sent

theorem sent_messages_snoc (events : List Event) (event : Event) :
    sentMessages (events ++ [event]) = sentMessages events ++ event.sent := by
  simp [sentMessages]

/-- The records of all messages are spread over what the parser has received,
the stream and the queue; the parser has published what it has received. -/
structure Invariant (messages : List Message) (published : List Pdu) (transport : Transport) :
    Prop where
  spread : ∃ received,
    encodeFrames (messages.map Message.record) =
      received ++ transport.transit ++ transport.toStream.byteQueue ∧
    published = (records received).map recordPdu ∧
    transport.toMsg.carried = tail recordFraming received
  backed : transport.toMsg.localWriteBuffer.Backed

theorem start_invariant : Invariant [] [] start where
  spread := ⟨[], rfl, by simp [records], by
    simp [start, StreamToDecompressionMsg.carried, StreamToDecompressionMsg.make]⟩
  backed := new_backed 64000

theorem send_step {messages : List Message} {published : List Pdu} {transport : Transport}
    (invariant : Invariant messages published transport) (message : Message) :
    ∃ after, (step (.send message)).run transport = .ok [] after ∧
      Invariant (messages ++ [message]) published after := by
  rcases invariant.spread with ⟨received, spread, sofar, carried⟩
  have queued := StreamBlocks.compressed_in_run message.hasheader message.uncompressedSize
    message.payload message.payload_fits transport.toStream
  refine ⟨{ transport with
      toStream := { byteQueue := transport.toStream.byteQueue ++
        (headerFor message.uncompressedSize message.payload.length).bytes ++ message.payload } },
    ?_, ⟨received, ?_, sofar, carried⟩, invariant.backed⟩
  · simp only [step, Message.pdu, EStateM.run_bind, onToStream, within_ok queued,
      EStateM.run_pure]
  · simp only [List.map_append, List.map_cons, List.map_nil, encode_frames_append, spread,
      encode_frames_cons, encode_frames_nil, message_record_cells, List.append_assoc,
      List.append_nil]

theorem emit_step {messages : List Message} {published : List Pdu} {transport : Transport}
    (invariant : Invariant messages published transport) (noutputItems : Nat) :
    ∃ after, (step (.emit noutputItems)).run transport = .ok [] after ∧
      Invariant messages published after := by
  rcases invariant.spread with ⟨received, spread, sofar, carried⟩
  have emitted := StreamBlocks.emit_run noutputItems transport.toStream
  refine ⟨{ transport with
      toStream := { byteQueue := transport.toStream.byteQueue.drop noutputItems }
      transit := transport.transit ++ transport.toStream.byteQueue.take noutputItems },
    ?_, ⟨received, ?_, sofar, carried⟩, invariant.backed⟩
  · simp only [step, EStateM.run_bind, onToStream, within_ok emitted, EStateM.run_modify,
      EStateM.run_pure]
  · simp only [spread, List.append_assoc, List.take_append_drop]

theorem parse_step {messages : List Message} {published : List Pdu} {transport : Transport}
    (invariant : Invariant messages published transport) (ninputItems : Nat) :
    ∃ more after, (step (.parse ninputItems)).run transport = .ok more after ∧
      Invariant messages (published ++ more) after := by
  rcases invariant.spread with ⟨received, spread, sofar, carried⟩
  obtain ⟨block, parsed, remaining, _, backed⟩ :=
    StreamBlocks.parse_run (transport.transit.take ninputItems) invariant.backed
  rw [carried] at parsed remaining
  have inside : (onToMsg (StreamToDecompressionMsg.work (transport.transit.take ninputItems))).run
      { transport with transit := transport.transit.drop ninputItems } = .ok _ _ := within_ok parsed
  refine ⟨(records (tail recordFraming received ++
      transport.transit.take ninputItems)).map recordPdu,
    { transport with transit := transport.transit.drop ninputItems, toMsg := block }, ?_,
    ⟨received ++ transport.transit.take ninputItems, ?_, ?_, ?_⟩, backed⟩
  · simp only [step, EStateM.run_bind, EStateM.run_get, EStateM.run_modify, inside,
      EStateM.run_pure]
  · have cut := List.take_append_drop ninputItems transport.transit
    rw [spread, List.append_assoc received (transport.transit.take ninputItems), cut]
  · rw [sofar, ← List.map_append, records_append received]
  · rw [remaining, tail_append received]

theorem step_run {events : List Event} {outs : List (List Pdu)} {before : Transport}
    (invariant : Invariant (sentMessages events) outs.flatten before) (event : Event) :
    ∃ out after, (step event).run before = .ok out after ∧
      Invariant (sentMessages (events ++ [event])) (outs ++ [out]).flatten after := by
  rw [sent_messages_snoc]
  simp only [List.flatten_concat]
  cases event with
  | send message =>
      obtain ⟨after, ran, holds⟩ := send_step invariant message
      exact ⟨[], after, ran, by simpa [Event.sent] using holds⟩
  | emit noutputItems =>
      obtain ⟨after, ran, holds⟩ := emit_step invariant noutputItems
      exact ⟨[], after, ran, by simpa [Event.sent] using holds⟩
  | parse ninputItems =>
      obtain ⟨more, after, ran, holds⟩ := parse_step invariant ninputItems
      exact ⟨more, after, ran, by simpa [Event.sent] using holds⟩

theorem records_of_messages (messages : List Message) :
    (records (encodeFrames (messages.map Message.record))).map recordPdu =
      messages.map Message.bare := by
  have read := frames_encode_frames (messages.map Message.record) []
  simp only [List.append_nil, frames_nil] at read
  rw [records, read, List.map_map]
  exact List.map_congr_left fun message _ => record_pdu_message_record message

/-- At any moment the messages published are a prefix of those sent. -/
theorem published_initial_segment {messages : List Message} {published : List Pdu}
    {transport : Transport} (invariant : Invariant messages published transport) :
    published <+: messages.map Message.bare := by
  rcases invariant.spread with ⟨received, spread, sofar, _⟩
  rw [sofar, ← records_of_messages, spread, List.append_assoc]
  exact (frames_of_initial_segment received _).map recordPdu

/-- With nothing left on the way, all messages are published and the parser is
back between records. -/
theorem published_all {messages : List Message} {published : List Pdu} {transport : Transport}
    (invariant : Invariant messages published transport)
    (emitted : transport.toStream.byteQueue = []) (delivered : transport.transit = []) :
    published = messages.map Message.bare ∧
      transport.toMsg.headerValid = false ∧ transport.toMsg.byteQueue = [] := by
  rcases invariant.spread with ⟨received, spread, sofar, carried⟩
  rw [emitted, delivered, List.append_nil, List.append_nil] at spread
  have complete := tail_encode_frames (messages.map Message.record) []
  rw [List.append_nil, tail_nil, spread] at complete
  refine ⟨by rw [sofar, ← spread, records_of_messages], ?_⟩
  exact StreamBlocks.carried_nil (carried.trans complete)

/-- The stream is transparent to messages, in whatever order and sizes it is
written, emitted and parsed; and no call fails. -/
theorem transport_transparent (events : List Event) :
    ∃ outs final, run events = .ok outs final ∧
      outs.flatten <+: (sentMessages events).map Message.bare ∧
      (final.toStream.byteQueue = [] → final.transit = [] →
        outs.flatten = (sentMessages events).map Message.bare ∧
          final.toMsg.headerValid = false ∧ final.toMsg.byteQueue = []) := by
  obtain ⟨outs, final, ran, invariant⟩ := run_all_total step (fun _ => True)
    (fun done outs transport => Invariant (sentMessages done) outs.flatten transport)
    (fun _ _ _ event _ invariant => step_run invariant event) events (fun _ _ => trivial) start
    start_invariant
  exact ⟨outs, final, ran, published_initial_segment invariant, published_all invariant⟩

end GrCompress.StreamTransport
