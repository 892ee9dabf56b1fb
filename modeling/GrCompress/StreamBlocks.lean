import GrCompress.CallRuns
import GrCompress.RecordFormat

/-!
# The two stream blocks

`CompressedMsgToStream_impl` writes each message as a record into a byte queue
and `work` emits the queue. `StreamToDecompressionMsg_impl` parses a byte stream
back into messages; it keeps its parser state between calls, so the stream may
be cut anywhere. The parser is shown to be the framing of records: a call
publishes the records that have become complete and carries the unfinished tail.
-/

namespace GrCompress.StreamBlocks

open GrCompress.CallRuns
open GrCompress.CheckedStorage
open GrCompress.LengthFraming
open GrCompress.ZstdCodec
open GrCompress.RecordFormat

set_option autoImplicit false

/-! ## CompressedMsgToStream -/

structure CompressedMsgToStream where
  byteQueue : Bytes
  deriving DecidableEq, Repr

def CompressedMsgToStream.make : CompressedMsgToStream where
  byteQueue := []

/-- The handler of the `compressed` port. A message without a header gets one
built from its metadata; otherwise the first 8 bytes of the blob are copied. -/
def compressedIn (pdu : Pdu) : EStateM Fault CompressedMsgToStream Unit := do
  let noutputItems : Int := pdu.blob.length
  let (cHeader, dataLength) ←
    if pdu.hasHeader then do
      let header ← load (some pdu.blob) 0 headerSize
      pure (CompressionHeader.ofBytes header, toInt (noutputItems - headerSize))
    else pure (headerFor pdu.uncompressedSize pdu.compressedSize, toInt noutputItems)
  -- a negative `dataLength` ends the loop at once
  let data ← load (some pdu.blob) pdu.payloadOffset dataLength.toNat
  modify fun block => { block with byteQueue := block.byteQueue ++ cHeader.bytes ++ data }

def CompressedMsgToStream.work (noutputItems : Nat) :
    EStateM Fault CompressedMsgToStream StreamOutput := do
  let block ← get
  let bytesToReturn :=
    if block.byteQueue.length < noutputItems then block.byteQueue.length else noutputItems
  if bytesToReturn = 0 then
    return { returned := 0, items := [] }
  else
    let (out, byteQueue) ← popFront bytesToReturn block.byteQueue
    set { block with byteQueue := byteQueue }
    return { returned := bytesToReturn, items := out }

/-- As much of the payload is queued as `int dataLength` can count. -/
theorem compressed_in_bare (size : Nat) (payload : Bytes) (block : CompressedMsgToStream) :
    (compressedIn (payloadPdu false size payload)).run block =
      .ok () { byteQueue := block.byteQueue ++ (headerFor size payload.length).bytes ++
        payload.take (toInt payload.length).toNat } := by
  have blob : (payloadPdu false size payload).blob = payload := rfl
  have offset : (payloadPdu false size payload).payloadOffset = 0 := rfl
  have bound := to_int_toNat_le payload.length
  obtain ⟨dataLength, length⟩ : ∃ dataLength, (toInt (payload.length : Int)).toNat = dataLength :=
    ⟨_, rfl⟩
  rw [length] at bound ⊢
  have loaded : 0 + dataLength ≤ payload.length := by omega
  simp -implicitDefEqProofs only [compressedIn, payload_pdu_has_header, Bool.false_eq_true,
    if_false, EStateM.run_bind, EStateM.run_pure, payload_pdu_uncompressed_size,
    payload_pdu_compressed_size, EStateM.run_modify, blob, offset, length, load_some loaded,
    List.drop_zero]

theorem compressed_in_headed (size : Nat) (payload : Bytes) (block : CompressedMsgToStream) :
    (compressedIn (payloadPdu true size payload)).run block =
      .ok () { byteQueue := block.byteQueue ++ (headerFor size payload.length).bytes ++
        payload.take (toInt payload.length).toNat } := by
  have blobLength := payload_pdu_blob_length true size payload
  have payloadAt := payload_pdu_blob_drop true size payload
  have offset : (payloadPdu true size payload).payloadOffset = headerSize := rfl
  have rest : ((payloadPdu true size payload).blob.length : Int) - headerSize =
      payload.length := by omega
  have bound := to_int_toNat_le payload.length
  obtain ⟨dataLength, length⟩ : ∃ dataLength, (toInt (payload.length : Int)).toNat = dataLength :=
    ⟨_, rfl⟩
  rw [length] at bound ⊢
  have loaded : (payloadPdu true size payload).payloadOffset + dataLength ≤
      (payloadPdu true size payload).blob.length := by omega
  have header : (payloadPdu true size payload).blob.take headerSize =
      (headerFor size payload.length).bytes := List.take_left' (header_bytes_length _)
  have headerInside : 0 + headerSize ≤ (payloadPdu true size payload).blob.length := by omega
  simp -implicitDefEqProofs only [compressedIn, payload_pdu_has_header, if_true,
    EStateM.run_bind, load_some headerInside, List.drop_zero, header, of_bytes_bytes_self,
    EStateM.run_pure, rest, length, load_some loaded, payloadAt, EStateM.run_modify]

theorem compressed_in_queues (hasheader : Bool) (size : Nat) (payload : Bytes)
    (block : CompressedMsgToStream) :
    (compressedIn (payloadPdu hasheader size payload)).run block =
      .ok () { byteQueue := block.byteQueue ++ (headerFor size payload.length).bytes ++
        payload.take (toInt payload.length).toNat } := by
  cases hasheader with
  | false => exact compressed_in_bare size payload block
  | true => exact compressed_in_headed size payload block

/-- A well-formed message is queued as its record, whichever shape it has. -/
theorem compressed_in_run (hasheader : Bool) (size : Nat) (payload : Bytes)
    (payloadInt : payload.length < 2 ^ 31) (block : CompressedMsgToStream) :
    (compressedIn (payloadPdu hasheader size payload)).run block =
      .ok () { byteQueue := block.byteQueue ++
        (headerFor size payload.length).bytes ++ payload } := by
  have length := (to_int_natCast_iff payload.length).2 payloadInt
  rw [compressed_in_queues, length, Int.toNat_natCast, List.take_length]

/-- `work` moves bytes from the front of the queue to the stream. -/
theorem emit_run (noutputItems : Nat) (block : CompressedMsgToStream) :
    (CompressedMsgToStream.work noutputItems).run block =
      .ok { returned := (min noutputItems block.byteQueue.length : Nat)
            items := block.byteQueue.take noutputItems }
        { byteQueue := block.byteQueue.drop noutputItems } := by
  have count : (if block.byteQueue.length < noutputItems then block.byteQueue.length
      else noutputItems) = min noutputItems block.byteQueue.length := by
    split <;> omega
  have enough : min noutputItems block.byteQueue.length ≤ block.byteQueue.length :=
    Nat.min_le_right _ _
  have taken : block.byteQueue.take (min noutputItems block.byteQueue.length) =
      block.byteQueue.take noutputItems := by
    rw [List.take_eq_take_iff]
    omega
  have dropped : block.byteQueue.drop (min noutputItems block.byteQueue.length) =
      block.byteQueue.drop noutputItems := by
    rcases Nat.le_total noutputItems block.byteQueue.length with fewer | more
    · rw [Nat.min_eq_left fewer]
    · rw [Nat.min_eq_right more, List.drop_length, List.drop_eq_nil_of_le more]
  simp only [CompressedMsgToStream.work, EStateM.run_bind, EStateM.run_get, count]
  by_cases none : min noutputItems block.byteQueue.length = 0
  · rw [if_pos none, EStateM.run_pure, ← taken, ← dropped, none]
    rfl
  · rw [if_neg none]
    simp only [EStateM.run_bind, pop_front_run enough, EStateM.run_set, EStateM.run_pure, taken,
      dropped]

/-! ## StreamToDecompressionMsg -/

structure StreamToDecompressionMsg where
  byteQueue : Bytes
  currentHeader : CompressionHeader
  headerValid : Bool
  localWriteBuffer : SizedBuffer UInt8

def StreamToDecompressionMsg.make : StreamToDecompressionMsg where
  byteQueue := []
  currentHeader := { uncompressedSize := 0, compressedSize := 0 }
  headerValid := false
  localWriteBuffer := .new 64000

def StreamToDecompressionMsg.stop : EStateM Fault StreamToDecompressionMsg Bool := do
  modify fun block => { block with localWriteBuffer := block.localWriteBuffer.release }
  return true

/-- Pull the header off the queue unless one is valid; false when it has not arrived. -/
def readHeader : EStateM Fault StreamToDecompressionMsg Bool := do
  let block ← get
  if !block.headerValid && decide (block.byteQueue.length < headerSize) then
    return false
  else if !block.headerValid then
    let (header, byteQueue) ← popFront headerSize block.byteQueue
    set { block with
      byteQueue := byteQueue
      currentHeader := CompressionHeader.ofBytes header
      headerValid := true }
    return true
  else
    return true

/-- Move one payload to the local buffer and publish it, if all of it is queued. -/
def readPayload : EStateM Fault StreamToDecompressionMsg (Option Pdu) := do
  let block ← get
  let compressedSize := block.currentHeader.compressedSize.toNat
  if block.byteQueue.length < compressedSize then
    return none
  else
    let localWriteBuffer := block.localWriteBuffer.grow compressedSize
    let (payload, byteQueue) ← popFront compressedSize block.byteQueue
    -- after `stop` the pointer is null; without a payload nothing is copied through it
    let pointer ← unlessEmpty compressedSize localWriteBuffer.pointer
      (store localWriteBuffer.pointer 0 payload)
    set { block with
      byteQueue := byteQueue
      headerValid := false
      localWriteBuffer := { pointer := pointer, size := localWriteBuffer.size } }
    let metadata : Metadata :=
      { uncompressedsize := some block.currentHeader.uncompressedSize.toNat
        compressedsize := some compressedSize
        hasheader := false }
    let blob ← unlessEmpty compressedSize [] (load pointer 0 compressedSize)
    return some { metadata := metadata, blob := blob }

/-- The loop of `work`; the result is what it publishes. -/
def parseLoop : Nat → EStateM Fault StreamToDecompressionMsg (List Pdu)
  | 0 => throw .outOfFuel
  | fuel + 1 => do
      if ← readHeader then
        match ← readPayload with
        | none => return []
        | some datapdu =>
            if (← get).byteQueue.length < headerSize then
              return [datapdu]
            else
              let later ← parseLoop fuel
              return datapdu :: later
      else
        return []

/-- All of the input is consumed, whatever the loop makes of it. Each round of
the loop after the first takes a header off the queue. -/
def StreamToDecompressionMsg.work (input : Bytes) :
    EStateM Fault StreamToDecompressionMsg MessageOutput := do
  modify fun block => { block with byteQueue := block.byteQueue ++ input }
  let published ← parseLoop ((← get).byteQueue.length + 2)
  return { returned := input.length, published := published }

/-! ## The parser is the framing of records -/

/-- The part of the stream that has been received and not published. -/
def StreamToDecompressionMsg.carried (block : StreamToDecompressionMsg) : Bytes :=
  (if block.headerValid then block.currentHeader.bytes else []) ++ block.byteQueue

/-- Neither a header nor the payload of a valid header is left on the queue. -/
def StreamToDecompressionMsg.Eager (block : StreamToDecompressionMsg) : Prop :=
  (block.headerValid = false ∧ block.byteQueue.length < headerSize) ∨
    (block.headerValid = true ∧
      block.byteQueue.length < block.currentHeader.compressedSize.toNat)

theorem read_header_waits {block : StreamToDecompressionMsg} (invalid : block.headerValid = false)
    (short : block.byteQueue.length < headerSize) :
    readHeader.run block = .ok false block := by
  simp only [readHeader, EStateM.run_bind, EStateM.run_get, invalid, Bool.not_false, short,
    decide_true, Bool.and_self, if_true, EStateM.run_pure]

theorem header_arrived {block : StreamToDecompressionMsg}
    (waits : ¬(block.headerValid = false ∧ block.byteQueue.length < headerSize)) :
    block.headerValid = true ∨ headerSize ≤ block.byteQueue.length := by
  cases valid : block.headerValid with
  | true => exact .inl rfl
  | false => exact .inr (by simpa [valid] using waits)

/-- Once a header is valid, the same bytes are carried as before. -/
theorem read_header_run {block : StreamToDecompressionMsg}
    (arrived : block.headerValid = true ∨ headerSize ≤ block.byteQueue.length) :
    ∃ after, readHeader.run block = .ok true after ∧ after.headerValid = true ∧
      after.carried = block.carried ∧ after.localWriteBuffer = block.localWriteBuffer := by
  cases valid : block.headerValid with
  | true =>
      refine ⟨block, ?_, valid, rfl, rfl⟩
      simp [readHeader, valid]
  | false =>
      have enough : headerSize ≤ block.byteQueue.length := by simpa [valid] using arrived
      have notShort : ¬block.byteQueue.length < headerSize := by omega
      refine ⟨{ block with
          byteQueue := block.byteQueue.drop headerSize
          currentHeader := CompressionHeader.ofBytes (block.byteQueue.take headerSize)
          headerValid := true }, ?_, rfl, ?_, rfl⟩
      · simp only [readHeader, EStateM.run_bind, EStateM.run_get, valid, Bool.not_false,
          notShort, decide_false, Bool.and_false, Bool.false_eq_true, if_false, if_true,
          pop_front_run enough, EStateM.run_set, EStateM.run_pure]
      · have header := bytes_of_bytes (block.byteQueue.take headerSize)
          (List.length_take_of_le enough)
        simp [StreamToDecompressionMsg.carried, valid, header]

theorem carried_valid {block : StreamToDecompressionMsg} (valid : block.headerValid = true) :
    block.carried = block.currentHeader.bytes ++ block.byteQueue := by
  simp [StreamToDecompressionMsg.carried, valid]

theorem carried_invalid {block : StreamToDecompressionMsg} (invalid : block.headerValid = false) :
    block.carried = block.byteQueue := by
  simp [StreamToDecompressionMsg.carried, invalid]

theorem read_payload_waits {block : StreamToDecompressionMsg} (valid : block.headerValid = true)
    (short : block.byteQueue.length < block.currentHeader.compressedSize.toNat) :
    readPayload.run block = .ok none block ∧
      splitFrame recordFraming block.carried = none := by
  constructor
  · simp only [readPayload, EStateM.run_bind, EStateM.run_get, if_pos short, EStateM.run_pure]
  · rw [carried_valid valid]
    apply split_frame_none_of_body (header_bytes_length _)
    simpa only [recordFraming, of_bytes_bytes_self] using short

/-- A payload that is all there makes a record with the header that waits for it. -/
theorem read_payload_run {block : StreamToDecompressionMsg} (valid : block.headerValid = true)
    (recorded : block.localWriteBuffer.Recorded)
    (arrived : block.currentHeader.compressedSize.toNat ≤ block.byteQueue.length) :
    ∃ record after, readPayload.run block = .ok (some (recordPdu record)) after ∧
      splitFrame recordFraming block.carried = some (record, after.carried) ∧
      after.headerValid = false ∧ block.localWriteBuffer.Kept after.localWriteBuffer := by
  obtain ⟨header, headerEq⟩ : ∃ header, block.currentHeader = header := ⟨_, rfl⟩
  rw [headerEq] at arrived
  have payloadLength : (block.byteQueue.take header.compressedSize.toNat).length =
      header.compressedSize.toNat := List.length_take_of_le arrived
  let record : Record :=
    { header := header.bytes
      body := block.byteQueue.take header.compressedSize.toNat
      header_length := header_bytes_length header
      body_length := by simpa only [recordFraming, of_bytes_bytes_self] using payloadLength }
  have grown := grow_kept recorded header.compressedSize.toNat
  have room : (block.byteQueue.take header.compressedSize.toNat).length ≤
      (block.localWriteBuffer.grow header.compressedSize.toNat).size := by
    rw [payloadLength, grow_size]
    exact Nat.le_max_right _ _
  obtain ⟨pointer, kept, stored, loaded⟩ :=
    store_load_run StreamToDecompressionMsg grown.recorded room
  rw [payloadLength] at stored loaded
  have pdu : recordPdu record =
      { metadata :=
          { uncompressedsize := some header.uncompressedSize.toNat
            compressedsize := some header.compressedSize.toNat
            hasheader := false }
        blob := block.byteQueue.take header.compressedSize.toNat } := by
    have read : record.compressionHeader = header := of_bytes_bytes_self header
    simp [recordPdu, payloadPdu, read, record, arrived]
  refine ⟨record, { block with
      byteQueue := block.byteQueue.drop header.compressedSize.toNat
      headerValid := false
      localWriteBuffer :=
        { pointer := pointer
          size := (block.localWriteBuffer.grow header.compressedSize.toNat).size } },
    ?_, ?_, rfl, kept_trans grown kept⟩
  · have enough : ¬block.byteQueue.length < header.compressedSize.toNat := by omega
    simp only [readPayload, EStateM.run_bind, EStateM.run_get, headerEq, if_neg enough,
      pop_front_run arrived, stored, EStateM.run_set, loaded, EStateM.run_pure, pdu]
  · have cells : block.carried =
        record.cells ++ block.byteQueue.drop header.compressedSize.toNat := by
      rw [carried_valid valid, headerEq]
      simp [record, Frame.cells]
    rw [cells, split_frame_cells]
    rfl

/-- Without a complete record the loop publishes nothing and carries the same bytes. -/
theorem parse_loop_waits (fuel : Nat) {block : StreamToDecompressionMsg}
    (recorded : block.localWriteBuffer.Recorded)
    (unfinished : splitFrame recordFraming block.carried = none) :
    ∃ after, (parseLoop (fuel + 1)).run block = .ok [] after ∧
      after.carried = block.carried ∧ after.Eager ∧
      block.localWriteBuffer.Kept after.localWriteBuffer := by
  by_cases waits : block.headerValid = false ∧ block.byteQueue.length < headerSize
  · have waited := read_header_waits waits.1 waits.2
    refine ⟨block, ?_, rfl, .inl waits, kept_refl recorded⟩
    simp only [parseLoop, EStateM.run_bind, waited, Bool.false_eq_true, if_false,
      EStateM.run_pure]
  · obtain ⟨headed, headerRead, valid, carried, buffer⟩ := read_header_run (header_arrived waits)
    rw [← carried] at unfinished ⊢
    rw [← buffer] at recorded ⊢
    rcases Nat.lt_or_ge headed.byteQueue.length headed.currentHeader.compressedSize.toNat with
      short | complete
    · have waited := (read_payload_waits valid short).1
      refine ⟨headed, ?_, rfl, .inr ⟨valid, short⟩, kept_refl recorded⟩
      simp only [parseLoop, EStateM.run_bind, headerRead, if_true, waited, EStateM.run_pure]
    · obtain ⟨record, after, _, split, _⟩ := read_payload_run valid recorded complete
      rw [unfinished] at split
      contradiction

/-- With a complete record the loop publishes it and goes on with what follows it. -/
theorem parse_loop_takes (fuel : Nat) {block : StreamToDecompressionMsg}
    (recorded : block.localWriteBuffer.Recorded) {record : Record} {rest : Bytes}
    (split : splitFrame recordFraming block.carried = some (record, rest)) :
    ∃ after, after.carried = rest ∧ after.headerValid = false ∧
      block.localWriteBuffer.Kept after.localWriteBuffer ∧
      (parseLoop (fuel + 1)).run block =
        if rest.length < headerSize then .ok [recordPdu record] after
        else (do
          let later ← parseLoop fuel
          return recordPdu record :: later).run after := by
  by_cases waits : block.headerValid = false ∧ block.byteQueue.length < headerSize
  · have unfinished : splitFrame recordFraming block.carried = none := by
      rw [carried_invalid waits.1]
      exact split_frame_none_of_short waits.2
    rw [unfinished] at split
    contradiction
  · obtain ⟨headed, headerRead, valid, carried, buffer⟩ := read_header_run (header_arrived waits)
    rw [← carried] at split
    rw [← buffer] at recorded ⊢
    rcases Nat.lt_or_ge headed.byteQueue.length headed.currentHeader.compressedSize.toNat with
      short | complete
    · rw [(read_payload_waits valid short).2] at split
      contradiction
    · obtain ⟨record', after, published, split', invalid, kept⟩ :=
        read_payload_run valid recorded complete
      have queued := carried_invalid invalid
      rw [split', Option.some.injEq, Prod.mk.injEq] at split
      rcases split with ⟨rfl, rfl⟩
      refine ⟨after, rfl, invalid, kept, ?_⟩
      simp only [parseLoop, EStateM.run_bind, headerRead, if_true, published, EStateM.run_get,
        queued]
      split <;> rfl

/-- The loop publishes every complete record and carries the rest. The bound on
the carried bytes is what makes the fuel enough: each round takes a header. -/
theorem parse_loop_run (fuel : Nat) {block : StreamToDecompressionMsg}
    (recorded : block.localWriteBuffer.Recorded)
    (enough : block.carried.length < headerSize * fuel) :
    ∃ after, (parseLoop fuel).run block = .ok ((records block.carried).map recordPdu) after ∧
      after.carried = tail recordFraming block.carried ∧ after.Eager ∧
      block.localWriteBuffer.Kept after.localWriteBuffer := by
  induction fuel generalizing block with
  | zero => simp at enough
  | succ fuel induction =>
      cases split : splitFrame recordFraming block.carried with
      | none =>
          obtain ⟨after, waited, carried, eager, kept⟩ := parse_loop_waits fuel recorded split
          have unfinished := drain_of_none split
          rw [records, frames, tail, unfinished]
          exact ⟨after, waited, carried, eager, kept⟩
      | some pair =>
          rcases pair with ⟨record, rest⟩
          obtain ⟨after, carried, invalid, kept, looped⟩ := parse_loop_takes fuel recorded split
          have drained := drain_of_some split
          rw [records, frames, tail, drained, List.map_cons, looped]
          by_cases short : rest.length < headerSize
          · have unfinished : drain recordFraming rest = ([], rest) :=
              drain_of_none (split_frame_none_of_short short)
            refine ⟨after, ?_, carried.trans ?_, .inl ⟨invalid, ?_⟩, kept⟩
            · rw [if_pos short, frames, unfinished, List.map_nil]
            · rw [tail, unfinished]
            · rw [← carried_invalid invalid, carried]
              exact short
          · have shorter : after.carried.length < headerSize * fuel := by
              have cells := congrArg List.length (split_frame_eq_some split)
              have width : record.header.length = headerSize := record.header_length
              rw [List.length_append, Frame.cells, List.length_append, width] at cells
              rw [carried]
              simp only [headerSize] at enough cells ⊢
              omega
            obtain ⟨final, continued, remaining, eager, keptOn⟩ := induction kept.recorded shorter
            rw [carried] at continued remaining
            refine ⟨final, ?_, remaining, eager, kept_trans kept keptOn⟩
            rw [if_neg short, EStateM.run_bind, continued]
            rfl

/-- A call publishes the records that have become complete, after a stop as well. -/
theorem parse_recorded (input : Bytes) {block : StreamToDecompressionMsg}
    (recorded : block.localWriteBuffer.Recorded) :
    ∃ after, (StreamToDecompressionMsg.work input).run block =
        .ok { returned := input.length
              published := (records (block.carried ++ input)).map recordPdu } after ∧
      after.carried = tail recordFraming (block.carried ++ input) ∧ after.Eager ∧
      block.localWriteBuffer.Kept after.localWriteBuffer := by
  let queued : StreamToDecompressionMsg := { block with byteQueue := block.byteQueue ++ input }
  have carried : queued.carried = block.carried ++ input := by
    simp [queued, StreamToDecompressionMsg.carried]
  have enough : queued.carried.length < headerSize * (queued.byteQueue.length + 2) := by
    unfold StreamToDecompressionMsg.carried
    split <;> simp [headerSize] <;> omega
  have queuedRecorded : queued.localWriteBuffer.Recorded := recorded
  obtain ⟨after, looped, remaining, eager, kept⟩ :=
    parse_loop_run (queued.byteQueue.length + 2) queuedRecorded enough
  rw [carried] at looped remaining
  refine ⟨after, ?_, remaining, eager, kept⟩
  have queuedLooped : (parseLoop ((block.byteQueue ++ input).length + 2)).run
      { block with byteQueue := block.byteQueue ++ input } = _ := looped
  simp only [StreamToDecompressionMsg.work, EStateM.run_bind, EStateM.run_modify, EStateM.run_get,
    queuedLooped, EStateM.run_pure]

/-- A buffer that has not been freed stays allocated. -/
theorem parse_run (input : Bytes) {block : StreamToDecompressionMsg}
    (backed : block.localWriteBuffer.Backed) :
    ∃ after, (StreamToDecompressionMsg.work input).run block =
        .ok { returned := input.length
              published := (records (block.carried ++ input)).map recordPdu } after ∧
      after.carried = tail recordFraming (block.carried ++ input) ∧ after.Eager ∧
      after.localWriteBuffer.Backed := by
  obtain ⟨after, ran, carried, eager, kept⟩ := parse_recorded input (recorded_of_backed backed)
  exact ⟨after, ran, carried, eager, kept.backed backed⟩

/-- What has been parsed of the bytes `fed` so far. -/
structure Parsed (fed : Bytes) (outs : List MessageOutput) (block : StreamToDecompressionMsg) :
    Prop where
  published : publishedMessages outs = (records fed).map recordPdu
  carried : block.carried = tail recordFraming fed
  eager : block.Eager
  backed : block.localWriteBuffer.Backed

theorem make_parsed : Parsed [] [] .make where
  published := by simp [records]
  carried := by simp [StreamToDecompressionMsg.carried, StreamToDecompressionMsg.make]
  eager := .inl ⟨rfl, by decide⟩
  backed := new_backed 64000

/-- However a stream is cut, its records are published and its tail is carried. -/
theorem parse_chunks_run (chunks : List Bytes) :
    ∃ outs final, (runAll StreamToDecompressionMsg.work chunks).run StreamToDecompressionMsg.make =
        .ok outs final ∧
      Parsed chunks.flatten outs final := by
  apply run_all_total StreamToDecompressionMsg.work (fun _ => True)
    (fun chunks outs block => Parsed chunks.flatten outs block) ?_ chunks (fun _ _ => trivial)
    StreamToDecompressionMsg.make make_parsed
  intro fed outs before chunk _ parsed
  obtain ⟨after, ran, remaining, eager, afterBacked⟩ := parse_run chunk parsed.backed
  rw [parsed.carried] at ran remaining
  refine ⟨_, after, ran, ⟨?_, ?_, eager, afterBacked⟩⟩
  · rw [published_messages_snoc, parsed.published, List.flatten_concat,
      records_append fed.flatten, List.map_append]
  · rw [remaining, List.flatten_concat, tail_append fed.flatten]

/-- A parser that carries nothing is between records. -/
theorem carried_nil {block : StreamToDecompressionMsg} (nothing : block.carried = []) :
    block.headerValid = false ∧ block.byteQueue = [] := by
  cases valid : block.headerValid with
  | true =>
      have length := congrArg List.length (carried_valid valid)
      rw [nothing, List.length_append, header_bytes_length, headerSize, List.length_nil] at length
      omega
  | false => exact ⟨rfl, by rw [← carried_invalid valid, nothing]⟩

/-- An eager parser has a header exactly when it carries one. -/
theorem eager_header_valid {block : StreamToDecompressionMsg} (eager : block.Eager) :
    block.headerValid = decide (headerSize ≤ block.carried.length) := by
  rcases eager with ⟨invalid, short⟩ | ⟨valid, _⟩
  · have absent : ¬headerSize ≤ block.carried.length := by
      rw [carried_invalid invalid]
      omega
    rw [invalid, decide_eq_false absent]
  · have present : headerSize ≤ block.carried.length := by
      rw [carried_valid valid, List.length_append, header_bytes_length]
      omega
    rw [valid, decide_eq_true present]

/-- The state of an eager parser is a function of the bytes it carries. A header
that has been used is not part of it. -/
theorem eager_unique {first second : StreamToDecompressionMsg} (firstEager : first.Eager)
    (secondEager : second.Eager) (carried : first.carried = second.carried) :
    first.byteQueue = second.byteQueue ∧ first.headerValid = second.headerValid ∧
      (first.headerValid = true → first.currentHeader = second.currentHeader) := by
  have sameValid : first.headerValid = second.headerValid := by
    rw [eager_header_valid firstEager, eager_header_valid secondEager, carried]
  cases valid : first.headerValid with
  | false =>
      rw [valid] at sameValid
      rw [carried_invalid valid, carried_invalid sameValid.symm] at carried
      exact ⟨carried, sameValid, by simp⟩
  | true =>
      rw [valid] at sameValid
      rw [carried_valid valid, carried_valid sameValid.symm] at carried
      have widths : first.currentHeader.bytes.length = second.currentHeader.bytes.length := by
        rw [header_bytes_length, header_bytes_length]
      obtain ⟨headers, queues⟩ := List.append_inj carried widths
      have header := congrArg CompressionHeader.ofBytes headers
      rw [of_bytes_bytes_self, of_bytes_bytes_self] at header
      exact ⟨queues, sameValid, fun _ => header⟩

/-- The parser does not depend on how its input is cut, and after every call of
a run it is eager. -/
theorem parser_independent_of_cuts (first second : List Bytes)
    (same : first.flatten = second.flatten) :
    ∃ outs outs' final final',
      (runAll StreamToDecompressionMsg.work first).run StreamToDecompressionMsg.make =
        .ok outs final ∧
      (runAll StreamToDecompressionMsg.work second).run StreamToDecompressionMsg.make =
        .ok outs' final' ∧
      publishedMessages outs = publishedMessages outs' ∧
      final.byteQueue = final'.byteQueue ∧ final.headerValid = final'.headerValid ∧
      (final.headerValid = true → final.currentHeader = final'.currentHeader) ∧
      ∀ made, made <+: first ∨ made <+: second →
        ∃ outs block, (runAll StreamToDecompressionMsg.work made).run
          StreamToDecompressionMsg.make = .ok outs block ∧ block.Eager := by
  obtain ⟨outs, final, ran, parsed⟩ := parse_chunks_run first
  obtain ⟨outs', final', ran', parsed'⟩ := parse_chunks_run second
  have carried : final.carried = final'.carried := by
    rw [parsed.carried, parsed'.carried, same]
  obtain ⟨queue, valid, header⟩ := eager_unique parsed.eager parsed'.eager carried
  refine ⟨outs, outs', final, final', ran, ran', ?_, queue, valid, header, ?_⟩
  · rw [parsed.published, parsed'.published, same]
  · intro made _
    obtain ⟨sofar, block, madeRan, madeParsed⟩ := parse_chunks_run made
    exact ⟨sofar, block, madeRan, madeParsed.eager⟩

/-- A record with a payload of one byte, and its header cut in two. -/
theorem parser_independent_of_cuts_nine_bytes :
    ∃ outs outs' final final',
      (runAll StreamToDecompressionMsg.work [[3, 0, 0], [0, 1, 0, 0, 0], [7]]).run
        StreamToDecompressionMsg.make = .ok outs final ∧
      (runAll StreamToDecompressionMsg.work [[3, 0, 0, 0, 1, 0, 0, 0, 7]]).run
        StreamToDecompressionMsg.make = .ok outs' final' ∧
      publishedMessages outs = publishedMessages outs' := by
  obtain ⟨outs, outs', final, final', ran, ran', published, _⟩ := parser_independent_of_cuts
    [[3, 0, 0], [0, 1, 0, 0, 0], [7]] [[3, 0, 0, 0, 1, 0, 0, 0, 7]] rfl
  exact ⟨outs, outs', final, final', ran, ran', published⟩

end GrCompress.StreamBlocks
