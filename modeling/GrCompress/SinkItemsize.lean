import GrCompress.PartialWrites

/-!
# The item size of the sink

The write loop counts items for `fwrite` and bytes for the blob in the same
variable. With items of one byte the two agree; with larger ones the first
`fwrite` of a payload already asks for more bytes than the blob has.
-/

namespace GrCompress.SinkItemsize

open GrCompress.CallRuns
open GrCompress.CheckedStorage
open GrCompress.OpenFiles
open GrCompress.ZstdCodec
open GrCompress.RecordFormat
open GrCompress.FileSinkBlock
open GrCompress.PartialWrites

set_option autoImplicit false

/-- A message, and what the calls of `fwrite` made for it come to: each writes
some items, and none sets the error flag. A longer blob would not fit the size
field of a record. -/
structure Delivery where
  pdu : Pdu
  outcomes : List WriteOutcome
  progresses : ∀ outcome ∈ outcomes, 0 < outcome.items ∧ outcome.error = false
  short : pdu.blob.length < 2 ^ 32

/-- The outcomes that are left for the payload. -/
def Delivery.payloadOutcomes (delivery : Delivery) : List WriteOutcome :=
  if delivery.pdu.hasHeader then delivery.outcomes else delivery.outcomes.tail

variable (params : SinkParams)

def deliver (delivery : Delivery) : EStateM Fault FileSink Unit := do
  modify fun sink => { sink with outcomes := delivery.outcomes }
  compressedIn params delivery.pdu

/-- Construct the sink, then deliver the messages. -/
def session (setup : SinkSetup) (deliveries : List Delivery) :
    EStateM.Result Fault FileSink (List Unit) :=
  (do
    make setup.name setup.unbuffered .succeeds .succeeds
    runAll (deliver setup.params) deliveries).run (unopened setup.append setup.disk)

/-- Every message extends the file by exactly its record, and no access of the
loop is out of bounds. -/
def ExtendsByRecords (setup : SinkSetup) (deliveries : List Delivery) : Prop :=
  ∀ earlier delivery, earlier ++ [delivery] <+: deliveries →
    ∃ outs before after, session setup earlier = .ok outs before ∧
      (deliver setup.params delivery).run before = .ok () after ∧
      after.disk.content setup.name =
        before.disk.content setup.name ++ recordCells delivery.pdu

/-- There is no payload to write, or items are bytes and no write but the last
one counts more of them than an `int` does. -/
def Meets (delivery : Delivery) : Prop :=
  delivery.pdu.blob = [] ∨
    (params.itemsize = 1 ∧ Unbroken delivery.payloadOutcomes delivery.pdu.blob.length)

/-! ## One message -/

/-- The sink writes at the end of the file `name`. -/
def Ready (name : String) (content : Bytes) (sink : FileSink) : Prop :=
  ∃ failed, Installed name content failed sink

/-- What precedes the blob in the record. -/
def leading (pdu : Pdu) : Bytes :=
  if pdu.hasHeader then [] else (headerFor pdu.uncompressedSize pdu.compressedSize).bytes

theorem record_cells_leading (pdu : Pdu) : recordCells pdu = leading pdu ++ pdu.blob := by
  unfold recordCells leading
  split
  · rw [List.nil_append]
  · rfl

section OneMessage

variable {params} {name : String} {content : Bytes} {sink : FileSink}

theorem granted_one {outcomes : List WriteOutcome}
    (progresses : ∀ outcome ∈ outcomes, 0 < outcome.items ∧ outcome.error = false) :
    granted outcomes 1 = 1 := by
  cases outcomes with
  | nil => rfl
  | cons outcome outcomes =>
      have positive := (progresses outcome (by simp)).1
      simp only [granted]
      omega

/-- A message comes to its write loop, once its header is in the file. -/
theorem deliver_run (ready : Ready name content sink) (delivery : Delivery) :
    ∃ headed failed, Installed name (content ++ leading delivery.pdu) failed headed ∧
      headed.outcomes = delivery.payloadOutcomes ∧
      (deliver params delivery).run sink =
        (writeLoop params delivery.pdu.blob (delivery.pdu.blob.length + 1) 0 0).run headed := by
  rcases ready with ⟨failed, installed⟩
  have supplied : Installed name content failed { sink with outcomes := delivery.outcomes } :=
    ⟨installed.file, installed.content⟩
  have called : (deliver params delivery).run sink =
      (compressedIn params delivery.pdu).run { sink with outcomes := delivery.outcomes } := rfl
  rw [called]
  cases shape : delivery.pdu.hasHeader with
  | true =>
      refine ⟨_, failed, ?_, ?_, compressed_in_headed delivery.pdu shape supplied⟩
      · rw [leading, if_pos shape, List.append_nil]
        exact supplied
      · rw [Delivery.payloadOutcomes, if_pos shape]
  | false =>
      have bare : ¬delivery.pdu.hasHeader = true := by simp [shape]
      obtain ⟨headed, headedInstalled, rest, ran⟩ :=
        compressed_in_bare params delivery.pdu shape supplied
      have width := header_bytes_length
        (headerFor delivery.pdu.uncompressedSize delivery.pdu.compressedSize)
      rw [granted_one delivery.progresses, Nat.mul_one, List.take_of_length_le (by omega)]
        at headedInstalled
      refine ⟨headed, failed || flagged delivery.outcomes, ?_, ?_, ran⟩
      · rw [leading, if_neg bare]
        exact headedInstalled
      · rw [rest, Delivery.payloadOutcomes, if_neg bare]

theorem payload_progresses (delivery : Delivery) :
    ∀ outcome ∈ delivery.payloadOutcomes, 0 < outcome.items := by
  intro outcome member
  apply And.left
  apply delivery.progresses outcome
  unfold Delivery.payloadOutcomes at member
  split at member
  · exact member
  · exact List.mem_of_mem_tail member

/-- A loop whose writes all make progress does not stall. -/
theorem not_reported {outcomes : List WriteOutcome}
    (progresses : ∀ outcome ∈ outcomes, 0 < outcome.items) (failed : Bool) (length : Nat) :
    ending failed outcomes length ≠ .reported := by
  rw [ne_eq, ending_reported_iff]
  rintro ⟨earlier, outcome, later, rfl, _, nothing, _⟩
  have positive := progresses outcome (by simp)
  omega

theorem deliver_meets (ready : Ready name content sink) {delivery : Delivery}
    (meets : Meets params delivery) :
    ∃ after, (deliver params delivery).run sink = .ok () after ∧
      Ready name (content ++ recordCells delivery.pdu) after := by
  obtain ⟨headed, failed, installed, outcomes, ran⟩ := deliver_run ready delivery
  rw [ran, record_cells_leading, ← List.append_assoc]
  rcases meets with empty | ⟨itemsize, unbroken⟩
  · rw [empty, List.append_nil]
    have zero : toSize 0 = 0 := to_size_natCast (by decide)
    refine ⟨headed, ?_, failed, installed⟩
    simp only [writeLoop, zero, List.length_nil, Nat.lt_irrefl, if_false, EStateM.run_pure]
  · have ends := write_blob_ends params delivery.pdu.blob itemsize delivery.short installed
    rw [outcomes, (ending_complete_iff failed _ _).2 unbroken] at ends
    rcases ends with ⟨flag, after, looped, written⟩
    exact ⟨after, looped, flag, written⟩

/-- With larger items a payload is not written. -/
theorem bytewise_of_deliver (ready : Ready name content sink) {delivery : Delivery}
    {after : FileSink} (ran : (deliver params delivery).run sink = .ok () after)
    (nonempty : delivery.pdu.blob ≠ []) : params.itemsize = 1 := by
  by_contra other
  have larger : 1 < params.itemsize := by
    have positive := params.itemsize_pos
    omega
  obtain ⟨headed, failed, installed, _, called⟩ := deliver_run ready delivery
  rcases installed.file with ⟨file, opened, _⟩
  rw [called, write_loop_outside opened larger nonempty] at ran
  simp at ran

/-- A loop that returns leaves the sink at the end of its file. -/
theorem ready_of_ends {remaining : Bytes} {how : Ending} {after : FileSink}
    (ends : EndsAs name content remaining (.ok () after) how) :
    ∃ written, Ready name (content ++ written) after := by
  cases how with
  | complete =>
      rcases ends with ⟨failed, stopped, same, installed⟩
      rw [(EStateM.Result.ok.inj same).2]
      exact ⟨remaining, failed, installed⟩
  | reported =>
      rcases ends with ⟨written, failed, fault, stopped, same, _⟩
      simp at same
  | torn =>
      rcases ends with ⟨written, failed, stopped, same, installed, _⟩
      rw [(EStateM.Result.ok.inj same).2]
      exact ⟨written, failed, installed⟩

theorem deliver_ready (ready : Ready name content sink) {delivery : Delivery} {after : FileSink}
    (ran : (deliver params delivery).run sink = .ok () after) :
    ∃ written, Ready name (content ++ written) after := by
  by_cases empty : delivery.pdu.blob = []
  · obtain ⟨left, called, leftReady⟩ := deliver_meets ready (.inl empty)
    rw [(ok_unique ran called).2]
    exact ⟨_, leftReady⟩
  · have itemsize := bytewise_of_deliver ready ran empty
    obtain ⟨headed, failed, installed, _, called⟩ := deliver_run ready delivery
    have ends := write_blob_ends params delivery.pdu.blob itemsize delivery.short installed
    rw [← called, ran] at ends
    obtain ⟨written, afterReady⟩ := ready_of_ends ends
    rw [List.append_assoc] at afterReady
    exact ⟨_, afterReady⟩

/-- A message that extends the file by its record meets the condition. -/
theorem meets_of_deliver (ready : Ready name content sink) {delivery : Delivery}
    {after : FileSink} (ran : (deliver params delivery).run sink = .ok () after)
    (extended : after.disk.content name = content ++ recordCells delivery.pdu) :
    Meets params delivery := by
  by_cases empty : delivery.pdu.blob = []
  · exact .inl empty
  · right
    have itemsize := bytewise_of_deliver ready ran empty
    refine ⟨itemsize, ?_⟩
    obtain ⟨headed, failed, installed, outcomes, called⟩ := deliver_run ready delivery
    have ends := write_blob_ends params delivery.pdu.blob itemsize delivery.short installed
    rw [← called, ran, outcomes] at ends
    have whole := (ends_whole_iff ends).1 (by
      intro left same
      rw [← (EStateM.Result.ok.inj same).2, extended, record_cells_leading, List.append_assoc])
    rw [← ending_complete_iff failed]
    exact whole.resolve_left (not_reported (payload_progresses delivery) failed _)

end OneMessage

/-! ## Any number of messages -/

section Runs

variable {setup : SinkSetup}

theorem make_ready (setup : SinkSetup) :
    ∃ made, (make setup.name setup.unbuffered .succeeds .succeeds).run
        (unopened setup.append setup.disk) = .ok () made ∧
      Ready setup.name setup.base made := by
  obtain ⟨made, constructed, recording⟩ :=
    make_run setup.name setup.unbuffered setup.append setup.disk
  rcases recording.file with ⟨file, installed, named, atEnd⟩
  exact ⟨made, constructed, file.failed, ⟨file, installed, named, rfl, atEnd⟩, recording.content⟩

theorem session_ready {deliveries : List Delivery} {outs : List Unit} {sink : FileSink}
    (ran : session setup deliveries = .ok outs sink) :
    ∃ content, Ready setup.name content sink := by
  obtain ⟨made, constructed, ready⟩ := make_ready setup
  have rest : (runAll (deliver setup.params) deliveries).run made = .ok outs sink := by
    simpa only [session, EStateM.run_bind, constructed] using ran
  apply run_all_invariant (deliver setup.params)
    (fun _ _ sink => ∃ content, Ready setup.name content sink) ?_ ⟨_, ready⟩ rest
  intro done outs before delivery out after invariant stepped
  rcases invariant with ⟨content, beforeReady⟩
  obtain ⟨written, afterReady⟩ := deliver_ready beforeReady stepped
  exact ⟨_, afterReady⟩

theorem session_total {deliveries : List Delivery}
    (meets : ∀ delivery ∈ deliveries, Meets setup.params delivery) :
    ∃ outs sink, session setup deliveries = .ok outs sink ∧
      ∃ content, Ready setup.name content sink := by
  obtain ⟨made, constructed, ready⟩ := make_ready setup
  obtain ⟨outs, sink, ran, final⟩ := run_all_total (deliver setup.params) (Meets setup.params)
    (fun _ _ sink => ∃ content, Ready setup.name content sink)
    (by
      intro done outs before delivery allowed invariant
      rcases invariant with ⟨content, beforeReady⟩
      obtain ⟨after, ran, afterReady⟩ := deliver_meets beforeReady allowed
      exact ⟨(), after, ran, _, afterReady⟩)
    deliveries meets made ⟨_, ready⟩
  refine ⟨outs, sink, ?_, final⟩
  simp only [session, EStateM.run_bind, constructed, ran]

theorem meets_of_extends {deliveries : List Delivery}
    (extending : ExtendsByRecords setup deliveries) :
    ∀ delivery ∈ deliveries, Meets setup.params delivery := by
  intro delivery member
  obtain ⟨earlier, later, rfl⟩ := List.append_of_mem member
  obtain ⟨outs, before, after, ran, stepped, extended⟩ := extending earlier delivery (by simp)
  obtain ⟨content, ready⟩ := session_ready ran
  rcases ready with ⟨failed, installed⟩
  rw [installed.content] at extended
  exact meets_of_deliver ⟨failed, installed⟩ stepped extended

theorem extends_of_meets {deliveries : List Delivery}
    (meets : ∀ delivery ∈ deliveries, Meets setup.params delivery) :
    ExtendsByRecords setup deliveries := by
  intro earlier delivery delivered
  have among : ∀ other ∈ earlier ++ [delivery], Meets setup.params other :=
    fun other member => meets other (delivered.subset member)
  have initial : ∀ other ∈ earlier, Meets setup.params other :=
    fun other member => among other (by simp [member])
  obtain ⟨outs, before, ran, content, failed, installed⟩ :=
    session_total initial
  obtain ⟨after, stepped, flag, afterInstalled⟩ :=
    deliver_meets ⟨failed, installed⟩ (among delivery (by simp))
  refine ⟨outs, before, after, ran, stepped, ?_⟩
  rw [installed.content, afterInstalled.content]

end Runs

/-- The sink writes every message as its record exactly when the messages with a
payload meet items of one byte, and short counts that an `int` can hold. -/
theorem extends_by_records_iff (setup : SinkSetup) (deliveries : List Delivery) :
    ExtendsByRecords setup deliveries ↔
      ∀ delivery ∈ deliveries, Meets setup.params delivery :=
  ⟨meets_of_extends, extends_of_meets⟩

/-- A sink with items of eight bytes. -/
def complexSink : SinkSetup where
  params := { itemsize := 8, itemsize_pos := Nat.succ_pos 7 }
  name := "capture.zst"
  unbuffered := false
  append := false
  disk := fun _ => none

/-- One payload byte, and writes that all succeed. -/
def oneByteDelivery : Delivery where
  pdu := payloadPdu false 1 [7]
  outcomes := []
  progresses := by simp
  short := by decide

/-- The payload is not written as its record. -/
theorem larger_items_read_outside : ¬ExtendsByRecords complexSink [oneByteDelivery] := by
  intro extending
  rcases meets_of_extends extending oneByteDelivery (by simp) with empty | ⟨itemsize, _⟩
  · exact absurd empty (by decide)
  · exact absurd itemsize (by decide)

end GrCompress.SinkItemsize
