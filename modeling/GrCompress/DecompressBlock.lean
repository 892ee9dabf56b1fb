import GrCompress.CallRuns
import GrCompress.RecordFormat

/-!
# The decompress block

`decompress_impl`: a message handler decompresses each incoming message into a
byte queue, and `work` hands out whole items from the front of that queue. With
`sendMsg` the decompressed bytes also leave as a message. Console output is
left out.
-/

namespace GrCompress.DecompressBlock

open GrCompress.CallRuns
open GrCompress.CheckedStorage
open GrCompress.ZstdCodec
open GrCompress.RecordFormat

set_option autoImplicit false

structure DecompressParams where
  itemsize : Nat
  itemsize_pos : 0 < itemsize
  sendMsg : Bool

/-- `localWriteBuffer` stands for itself and `localWriteBufferSize`. -/
structure DecompressImpl where
  byteQueue : Bytes
  localWriteBuffer : SizedBuffer UInt8

/-- A message on the `uncompressed` port: its dictionary has one entry. -/
structure UncompressedPdu where
  uncompressedsize : Int
  blob : Bytes
  deriving DecidableEq, Repr

def make : DecompressImpl where
  byteQueue := []
  localWriteBuffer := .new 64000

variable (zstd : Zstd) (params : DecompressParams)

/-- The handler of the `compressedin` port; the result is what it publishes. -/
def compressedIn (pdu : Pdu) : EStateM Fault DecompressImpl (List UncompressedPdu) := do
  let compressedSize := pdu.compressedSize
  let uncompressedSize := pdu.uncompressedSize
  -- a negative size is below every recorded size
  modify fun block =>
    { block with localWriteBuffer := block.localWriteBuffer.grow uncompressedSize.toNat }
  let block ← get
  let source ← load (some pdu.blob) pdu.payloadOffset (toSize compressedSize)
  let (localWriteBuffer, actualDecompressedSize) ←
    ZStdDecompressor.decompress zstd block.localWriteBuffer.pointer (toSize uncompressedSize) source
  set { block with
    localWriteBuffer := { pointer := localWriteBuffer, size := block.localWriteBuffer.size } }
  -- the signed side of this comparison is converted to `size_t`
  if toSize uncompressedSize < actualDecompressedSize then
    return []
  else
    let plain ←
      unlessEmpty actualDecompressedSize [] (load localWriteBuffer 0 actualDecompressedSize)
    modify fun block => { block with byteQueue := block.byteQueue ++ plain }
    if params.sendMsg then
      return [{ uncompressedsize := actualDecompressedSize, blob := plain }]
    else
      return []

def stop : EStateM Fault DecompressImpl Bool := do
  modify fun block => { block with localWriteBuffer := block.localWriteBuffer.release }
  return true

def work (noutputItems : Nat) : EStateM Fault DecompressImpl StreamOutput := do
  let block ← get
  let itemsAvailable := block.byteQueue.length / params.itemsize
  let itemsProduced := if noutputItems ≤ itemsAvailable then noutputItems else itemsAvailable
  let noi := itemsProduced * params.itemsize
  let (out, byteQueue) ← popFront noi block.byteQueue
  set { block with byteQueue := byteQueue }
  return { returned := itemsProduced, items := out }

/-! ## The message handler -/

/-- A message whose sizes are sizes and whose payload lies in its blob. -/
structure Readable (pdu : Pdu) : Prop where
  uncompressed_nonneg : 0 ≤ pdu.uncompressedSize
  uncompressed_long : pdu.uncompressedSize < 2 ^ 63
  compressed_nonneg : 0 ≤ pdu.compressedSize
  compressed_long : pdu.compressedSize < 2 ^ 63
  inside : pdu.payloadOffset + pdu.compressedSize.toNat ≤ pdu.blob.length

theorem payload_pdu_readable {hasheader : Bool} {size : Nat} {payload : Bytes}
    (sizeLong : size < 2 ^ 63) (payloadLong : payload.length < 2 ^ 63) :
    Readable (payloadPdu hasheader size payload) where
  uncompressed_nonneg := by simp
  uncompressed_long := by simp only [payload_pdu_uncompressed_size]; omega
  compressed_nonneg := by simp
  compressed_long := by simp only [payload_pdu_compressed_size]; omega
  inside := by simp [payload_pdu_blob_length]

/-- What the handler publishes for some decompressed bytes. -/
def uncompressedMessages (plain : Bytes) : List UncompressedPdu :=
  if params.sendMsg then [{ uncompressedsize := plain.length, blob := plain }] else []

theorem to_size_of_long {value : Int} (nonneg : 0 ≤ value) (long : value < 2 ^ 63) :
    toSize value = value.toNat := by
  simp only [toSize]
  omega

/-- The state the handler leaves: the buffer has grown to the recorded size. -/
theorem compressed_in_state {pdu : Pdu} (readable : Readable pdu)
    (bounded : (messageBytes zstd pdu).length ≤ pdu.uncompressedSize.toNat)
    {block : DecompressImpl} (backed : block.localWriteBuffer.Backed) :
    ∃ written : Bytes,
      written.length = (block.localWriteBuffer.grow pdu.uncompressedSize.toNat).size ∧
      (compressedIn zstd params pdu).run block =
        .ok (uncompressedMessages params (messageBytes zstd pdu))
          { byteQueue := block.byteQueue ++ messageBytes zstd pdu
            localWriteBuffer :=
              { pointer := some written
                size := (block.localWriteBuffer.grow pdu.uncompressedSize.toNat).size } } := by
  have room := to_size_of_long readable.uncompressed_nonneg readable.uncompressed_long
  have count := to_size_of_long readable.compressed_nonneg readable.compressed_long
  obtain ⟨array, allocated, length⟩ := grow_backed backed pdu.uncompressedSize.toNat
  have size := grow_size block.localWriteBuffer pdu.uncompressedSize.toNat
  have window : pdu.uncompressedSize.toNat ≤ array.length := by omega
  obtain ⟨written, writtenLength, starts, decompressed⟩ :=
    decompress_run (show plainBytes zstd _ _ = messageBytes zstd pdu from rfl) window bounded
      { block with localWriteBuffer := block.localWriteBuffer.grow pdu.uncompressedSize.toNat }
  have plainInside : 0 + (messageBytes zstd pdu).length ≤ written.length := by omega
  have readBack : ∀ state : DecompressImpl,
      (unlessEmpty (messageBytes zstd pdu).length []
        (load (some written) 0 (messageBytes zstd pdu).length)).run state =
          .ok (messageBytes zstd pdu) state := by
    intro state
    have loaded := load_some plainInside state
    rw [List.drop_zero, starts] at loaded
    exact unless_empty_run loaded List.length_eq_zero_iff.1
  refine ⟨written, writtenLength.trans length, ?_⟩
  have notLarger : ¬pdu.uncompressedSize.toNat < (messageBytes zstd pdu).length := by omega
  simp only [compressedIn, EStateM.run_bind, EStateM.run_modify, EStateM.run_get, count,
    load_some readable.inside, room, allocated, decompressed, EStateM.run_set, if_neg notLarger,
    readBack, uncompressedMessages]
  split <;> rfl

/-- The handler appends what the message decompresses to and publishes the same bytes. -/
theorem compressed_in_run {pdu : Pdu} (readable : Readable pdu)
    (bounded : (messageBytes zstd pdu).length ≤ pdu.uncompressedSize.toNat)
    {block : DecompressImpl} (backed : block.localWriteBuffer.Backed) :
    ∃ after, (compressedIn zstd params pdu).run block =
        .ok (uncompressedMessages params (messageBytes zstd pdu)) after ∧
      after.byteQueue = block.byteQueue ++ messageBytes zstd pdu ∧
      after.localWriteBuffer.Backed := by
  obtain ⟨written, length, ran⟩ := compressed_in_state zstd params readable bounded backed
  exact ⟨_, ran, rfl, written, rfl, length⟩

/-- Once the buffer was freed, a message that needs one gets a new one. -/
theorem compressed_in_regrown {pdu : Pdu} {block : DecompressImpl}
    (freed : block.localWriteBuffer = { pointer := none, size := 0 })
    (positive : 0 < pdu.uncompressedSize.toNat) :
    (compressedIn zstd params pdu).run block = (compressedIn zstd params pdu).run
      { block with localWriteBuffer := .new pdu.uncompressedSize.toNat } := by
  have regrown : block.localWriteBuffer.grow pdu.uncompressedSize.toNat =
      .new pdu.uncompressedSize.toNat := by
    rw [freed]
    exact if_pos positive
  have kept : (SizedBuffer.new pdu.uncompressedSize.toNat : SizedBuffer UInt8).grow
      pdu.uncompressedSize.toNat = .new pdu.uncompressedSize.toNat := if_neg (Nat.lt_irrefl _)
  simp only [compressedIn, EStateM.run_bind, EStateM.run_modify, regrown, kept]

/-- Once the buffer was freed, an empty message does without. -/
theorem compressed_in_nowhere (bounded : zstd.DecompressBounded) {pdu : Pdu}
    (readable : Readable pdu) (empty : pdu.uncompressedSize.toNat = 0) {block : DecompressImpl}
    (freed : block.localWriteBuffer = { pointer := none, size := 0 }) :
    messageBytes zstd pdu = [] ∧
      (compressedIn zstd params pdu).run block = .ok (uncompressedMessages params []) block := by
  have room := to_size_of_long readable.uncompressed_nonneg readable.uncompressed_long
  have count := to_size_of_long readable.compressed_nonneg readable.compressed_long
  obtain ⟨nothing, decompressed⟩ := decompress_nowhere bounded
    ((pdu.blob.drop pdu.payloadOffset).take pdu.compressedSize.toNat) block
  rw [empty] at room
  have kept : block.localWriteBuffer.grow 0 = block.localWriteBuffer :=
    if_neg (Nat.not_lt_zero _)
  have unchanged : { block with localWriteBuffer := { pointer := none, size := 0 } } = block := by
    rw [← freed]
  have pointer : block.localWriteBuffer.pointer = none := by rw [freed]
  have size : block.localWriteBuffer.size = 0 := by rw [freed]
  refine ⟨by rw [messageBytes, empty, nothing], ?_⟩
  simp only [compressedIn, EStateM.run_bind, EStateM.run_modify, EStateM.run_get, empty, kept,
    count, load_some readable.inside, room, pointer, size, decompressed, EStateM.run_set,
    unchanged, Nat.lt_irrefl, if_false, unlessEmpty, if_true, EStateM.run_pure, List.append_nil,
    uncompressedMessages]
  split <;> rfl

/-- Whatever the buffer, the handler appends what the message decompresses to and
publishes the same bytes. -/
theorem compressed_in_recorded (bounded : zstd.DecompressBounded) {pdu : Pdu}
    (readable : Readable pdu) {block : DecompressImpl}
    (recorded : block.localWriteBuffer.Recorded) :
    ∃ after, (compressedIn zstd params pdu).run block =
        .ok (uncompressedMessages params (messageBytes zstd pdu)) after ∧
      after.byteQueue = block.byteQueue ++ messageBytes zstd pdu ∧
      after.localWriteBuffer.Recorded ∧
      after.localWriteBuffer.size =
        (block.localWriteBuffer.grow pdu.uncompressedSize.toNat).size := by
  have restored : (messageBytes zstd pdu).length ≤ pdu.uncompressedSize.toNat :=
    plain_bytes_length_le bounded _ _
  rcases recorded_cases recorded with backed | freed
  · obtain ⟨written, length, ran⟩ := compressed_in_state zstd params readable restored backed
    exact ⟨_, ran, rfl, length, rfl⟩
  · rcases Nat.eq_zero_or_pos pdu.uncompressedSize.toNat with empty | positive
    · obtain ⟨nothing, ran⟩ := compressed_in_nowhere zstd params bounded readable empty freed
      rw [nothing, List.append_nil, empty, freed]
      exact ⟨block, ran, rfl, recorded, by rw [freed]; rfl⟩
    · let regrown : DecompressImpl :=
        { block with localWriteBuffer := .new pdu.uncompressedSize.toNat }
      have backed : regrown.localWriteBuffer.Backed := new_backed _
      have size : (regrown.localWriteBuffer.grow pdu.uncompressedSize.toNat).size =
          (block.localWriteBuffer.grow pdu.uncompressedSize.toNat).size := by
        rw [grow_size, grow_size, freed]
        simp [regrown, SizedBuffer.new]
      obtain ⟨written, length, ran⟩ := compressed_in_state zstd params readable restored backed
      rw [compressed_in_regrown zstd params freed positive]
      exact ⟨_, ran, rfl, length, size⟩

/-- Messages delivered one after the other queue what they decompress to, in order. -/
theorem deliver_messages_run (pdus : List Pdu)
    (wellFormed : ∀ pdu ∈ pdus,
      Readable pdu ∧ (messageBytes zstd pdu).length ≤ pdu.uncompressedSize.toNat)
    {block : DecompressImpl} (backed : block.localWriteBuffer.Backed) :
    ∃ outs final, (runAll (compressedIn zstd params) pdus).run block = .ok outs final ∧
      final.byteQueue = block.byteQueue ++ messagesBytes zstd pdus ∧
      final.localWriteBuffer.Backed := by
  apply run_all_total (compressedIn zstd params)
    (fun pdu => Readable pdu ∧ (messageBytes zstd pdu).length ≤ pdu.uncompressedSize.toNat)
    (fun done _ current => current.byteQueue = block.byteQueue ++ messagesBytes zstd done ∧
      current.localWriteBuffer.Backed) ?_ pdus wellFormed block ⟨by simp, backed⟩
  intro done outs before pdu readable invariant
  rcases invariant with ⟨queued, stillBacked⟩
  obtain ⟨after, ran, queue, afterBacked⟩ :=
    compressed_in_run zstd params readable.1 readable.2 stillBacked
  refine ⟨_, after, ran, ?_, afterBacked⟩
  rw [queue, queued, messages_bytes_append, messages_bytes_cons, messages_bytes_nil,
    List.append_nil, List.append_assoc]

/-- A record's message has sizes that are sizes and a blob that holds its payload. -/
theorem record_pdu_readable (record : Record) : Readable (recordPdu record) := by
  have size := record.compressionHeader.uncompressedSize.toNat_lt
  have body : record.body.length = record.compressionHeader.compressedSize.toNat :=
    record.body_length
  have bodySize := record.compressionHeader.compressedSize.toNat_lt
  exact payload_pdu_readable (by omega) (by omega)

theorem record_pdu_bounded (bounded : zstd.DecompressBounded) (record : Record) :
    (messageBytes zstd (recordPdu record)).length ≤ (recordPdu record).uncompressedSize.toNat := by
  rw [message_bytes_record_pdu]
  exact plain_bytes_length_le bounded _ record.body

/-! ## work -/

/-- `work` hands out whole items: as many as asked for, or all there are. -/
theorem work_run (noutputItems : Nat) (block : DecompressImpl) :
    ∃ items : Nat, (work params noutputItems).run block =
        .ok { returned := items
              items := block.byteQueue.take (items * params.itemsize) }
          { block with byteQueue := block.byteQueue.drop (items * params.itemsize) } ∧
      items * params.itemsize ≤ block.byteQueue.length ∧
      items = min noutputItems (block.byteQueue.length / params.itemsize) := by
  have whole := Nat.div_mul_le_self block.byteQueue.length params.itemsize
  have produced : (if noutputItems ≤ block.byteQueue.length / params.itemsize then noutputItems
      else block.byteQueue.length / params.itemsize) =
        min noutputItems (block.byteQueue.length / params.itemsize) := by
    split <;> omega
  have enough : min noutputItems (block.byteQueue.length / params.itemsize) * params.itemsize ≤
      block.byteQueue.length :=
    Nat.le_trans (Nat.mul_le_mul_right _ (Nat.min_le_right _ _)) whole
  refine ⟨_, ?_, enough, rfl⟩
  simp only [work, EStateM.run_bind, EStateM.run_get, produced, pop_front_run enough,
    EStateM.run_set, EStateM.run_pure]

end GrCompress.DecompressBlock
