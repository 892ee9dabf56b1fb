import GrCompress.LittleEndianWords
import GrCompress.LengthFraming
import GrCompress.ZstdCodec

/-!
# Records and messages

The two shapes in which compressed data travels. In a file or a byte stream it
is a record: an 8-byte `CompressionHeader` and `compressed_size` bytes of
payload. Between blocks it is a PDU: a metadata dictionary and a blob, which is
the payload alone or, with `hasheader`, the whole record. Headers are stored in
host order, taken to be little-endian.
-/

namespace GrCompress.RecordFormat

open GrCompress.LittleEndianWords
open GrCompress.LengthFraming
open GrCompress.ZstdCodec

set_option autoImplicit false

/-! ## CompressionHeader -/

structure CompressionHeader where
  uncompressedSize : UInt32
  compressedSize : UInt32
  deriving DecidableEq, Repr

/-- `sizeof(CompressionHeader)`. -/
def headerSize : Nat := 8

def CompressionHeader.bytes (header : CompressionHeader) : Bytes :=
  encodeWord header.uncompressedSize ++ encodeWord header.compressedSize

def CompressionHeader.ofBytes (bytes : Bytes) : CompressionHeader where
  uncompressedSize := decodeWord bytes
  compressedSize := decodeWord (bytes.drop 4)

@[simp] theorem header_bytes_length (header : CompressionHeader) :
    header.bytes.length = headerSize := by
  simp [CompressionHeader.bytes, headerSize]

@[simp] theorem of_bytes_bytes (header : CompressionHeader) (rest : Bytes) :
    CompressionHeader.ofBytes (header.bytes ++ rest) = header := by
  have second : (header.bytes ++ rest).drop 4 = encodeWord header.compressedSize ++ rest := by
    rw [CompressionHeader.bytes, List.append_assoc, List.drop_left' (encode_word_length _)]
  rw [CompressionHeader.ofBytes, second, decode_encode_word, CompressionHeader.bytes,
    List.append_assoc, decode_encode_word]

theorem of_bytes_bytes_self (header : CompressionHeader) :
    CompressionHeader.ofBytes header.bytes = header := by
  simpa using of_bytes_bytes header []

theorem bytes_of_bytes (bytes : Bytes) (width : bytes.length = headerSize) :
    (CompressionHeader.ofBytes bytes).bytes = bytes := by
  simp only [headerSize] at width
  have first : decodeWord bytes = decodeWord (bytes.take 4) := by
    simp only [decodeWord, List.take_take, Nat.min_self]
  rw [CompressionHeader.bytes, CompressionHeader.ofBytes, first,
    encode_decode_word (bytes.take 4) (by simp [width]),
    encode_decode_word (bytes.drop 4) (by simp [width]), List.take_append_drop]

/-! ## Ports -/

/-- What `work` of a source block returns and what it wrote to `output_items[0]`. -/
structure StreamOutput where
  returned : Int
  items : Bytes
  deriving DecidableEq, Repr

/-- The conversion of a `long` to `size_t`. -/
def toSize (value : Int) : Nat := (value % 2 ^ 64).toNat

theorem to_size_natCast {size : Nat} (small : size < 2 ^ 64) : toSize size = size := by
  simp only [toSize]
  omega

/-- The cast of an unsigned 64-bit value to `long`. -/
def toLong (size : Nat) : Int := if size < 2 ^ 63 then size else (size : Int) - 2 ^ 64

theorem to_long_small {size : Nat} (small : size < 2 ^ 63) : toLong size = size := if_pos small

/-- The conversion of a 64-bit length to `int`. -/
def toInt (length : Int) : Int :=
  if length % 2 ^ 32 < 2 ^ 31 then length % 2 ^ 32 else length % 2 ^ 32 - 2 ^ 32

theorem to_int_small {length : Int} (nonneg : 0 ≤ length) (small : length < 2 ^ 31) :
    toInt length = length := by
  unfold toInt
  split <;> omega

theorem to_int_natCast_iff (length : Nat) : toInt length = length ↔ length < 2 ^ 31 := by
  unfold toInt
  split <;> omega

/-- Narrowing never makes a length longer. -/
theorem to_int_toNat_le (length : Nat) : (toInt length).toNat ≤ length := by
  unfold toInt
  split <;> omega

/-! ## Messages -/

/-- The dictionary of a PDU. The two sizes are `long`s and may be missing. -/
structure Metadata where
  uncompressedsize : Option Int
  compressedsize : Option Int
  hasheader : Bool
  deriving DecidableEq, Repr

structure Pdu where
  metadata : Metadata
  blob : Bytes
  deriving DecidableEq, Repr

/-- What `work` of a sink block returns and what it publishes. -/
structure MessageOutput where
  returned : Nat
  published : List Pdu
  deriving DecidableEq, Repr

/-- The messages that a list of calls publishes. -/
def publishedMessages (outputs : List MessageOutput) : List Pdu :=
  outputs.flatMap MessageOutput.published

@[simp] theorem published_messages_nil : publishedMessages [] = [] := rfl

@[simp] theorem published_messages_snoc (outputs : List MessageOutput) (output : MessageOutput) :
    publishedMessages (outputs ++ [output]) = publishedMessages outputs ++ output.published := by
  simp [publishedMessages]

/-- `dict_ref` with the default `mp(0)`. -/
def Pdu.uncompressedSize (pdu : Pdu) : Int := pdu.metadata.uncompressedsize.getD 0

def Pdu.compressedSize (pdu : Pdu) : Int := pdu.metadata.compressedsize.getD 0

def Pdu.hasHeader (pdu : Pdu) : Bool := pdu.metadata.hasheader

/-- The offset of `pBuff` in the blob. -/
def Pdu.payloadOffset (pdu : Pdu) : Nat := if pdu.hasHeader then headerSize else 0

/-- The header stored for two `size_t` or `long` lengths: each is cut to 32 bits. -/
def headerFor (uncompressedSize compressedSize : Int) : CompressionHeader where
  uncompressedSize := UInt32.ofInt uncompressedSize
  compressedSize := UInt32.ofInt compressedSize

/-- The message whose metadata, optional header and blob all describe one payload. -/
def payloadPdu (hasheader : Bool) (uncompressedSize : Nat) (payload : Bytes) : Pdu where
  metadata :=
    { uncompressedsize := some uncompressedSize
      compressedsize := some payload.length
      hasheader := hasheader }
  blob := (if hasheader then (headerFor uncompressedSize payload.length).bytes else []) ++ payload

@[simp] theorem payload_pdu_uncompressed_size (hasheader : Bool) (size : Nat) (payload : Bytes) :
    (payloadPdu hasheader size payload).uncompressedSize = size := rfl

@[simp] theorem payload_pdu_compressed_size (hasheader : Bool) (size : Nat) (payload : Bytes) :
    (payloadPdu hasheader size payload).compressedSize = payload.length := rfl

@[simp] theorem payload_pdu_has_header (hasheader : Bool) (size : Nat) (payload : Bytes) :
    (payloadPdu hasheader size payload).hasHeader = hasheader := rfl

theorem payload_pdu_blob_length (hasheader : Bool) (size : Nat) (payload : Bytes) :
    (payloadPdu hasheader size payload).blob.length =
      (payloadPdu hasheader size payload).payloadOffset + payload.length := by
  cases hasheader <;> simp [payloadPdu, Pdu.payloadOffset, Pdu.hasHeader]

@[simp] theorem payload_pdu_blob_drop (hasheader : Bool) (size : Nat) (payload : Bytes) :
    (payloadPdu hasheader size payload).blob.drop
      (payloadPdu hasheader size payload).payloadOffset = payload := by
  cases hasheader with
  | false => simp [payloadPdu, Pdu.payloadOffset, Pdu.hasHeader]
  | true => exact List.drop_left' (header_bytes_length _)

/-- What a message decompresses to when its own metadata is believed. -/
def messageBytes (zstd : Zstd) (pdu : Pdu) : Bytes :=
  plainBytes zstd pdu.uncompressedSize.toNat
    ((pdu.blob.drop pdu.payloadOffset).take pdu.compressedSize.toNat)

@[simp] theorem message_bytes_payload_pdu (zstd : Zstd) (hasheader : Bool) (size : Nat)
    (payload : Bytes) :
    messageBytes zstd (payloadPdu hasheader size payload) = plainBytes zstd size payload := by
  simp [messageBytes]

/-- The bytes the messages of a port decompress to, in order. -/
def messagesBytes (zstd : Zstd) (pdus : List Pdu) : Bytes := pdus.flatMap (messageBytes zstd)

@[simp] theorem messages_bytes_nil (zstd : Zstd) : messagesBytes zstd [] = [] := rfl

@[simp] theorem messages_bytes_cons (zstd : Zstd) (pdu : Pdu) (pdus : List Pdu) :
    messagesBytes zstd (pdu :: pdus) = messageBytes zstd pdu ++ messagesBytes zstd pdus := by
  simp [messagesBytes]

@[simp] theorem messages_bytes_append (zstd : Zstd) (first second : List Pdu) :
    messagesBytes zstd (first ++ second) =
      messagesBytes zstd first ++ messagesBytes zstd second := by
  simp [messagesBytes]

/-! ## Records -/

def recordFraming : Framing UInt8 where
  headerWidth := headerSize
  headerWidth_pos := by decide
  bodyLength header := (CompressionHeader.ofBytes header).compressedSize.toNat

/-- A complete record. -/
abbrev Record := Frame recordFraming

abbrev Record.compressionHeader (record : Record) : CompressionHeader :=
  CompressionHeader.ofBytes record.header

/-- The record of one payload; its length must survive the 32-bit field. -/
def payloadRecord (uncompressedSize : Nat) (payload : Bytes) (fits : payload.length < 2 ^ 32) :
    Record where
  header := (headerFor uncompressedSize payload.length).bytes
  body := payload
  header_length := header_bytes_length _
  body_length := by
    simp only [recordFraming, of_bytes_bytes_self, headerFor, UInt32.ofInt]
    rw [UInt32.toNat_ofNat']
    omega

/-- The records of a byte string: those before the first incomplete header or payload. -/
abbrev records (file : Bytes) : List Record := frames recordFraming file

theorem records_append (first second : Bytes) :
    records (first ++ second) = records first ++ records (tail recordFraming first ++ second) :=
  frames_append first second

/-- The message a record becomes when its header moves into the metadata. -/
def recordPdu (record : Record) : Pdu :=
  payloadPdu false record.compressionHeader.uncompressedSize.toNat record.body

/-- The decompression of a record's payload, or nothing when zstd reports an error. -/
def recordBytes (zstd : Zstd) (record : Record) : Bytes :=
  plainBytes zstd record.compressionHeader.uncompressedSize.toNat record.body

theorem message_bytes_record_pdu (zstd : Zstd) (record : Record) :
    messageBytes zstd (recordPdu record) = recordBytes zstd record :=
  message_bytes_payload_pdu zstd false _ record.body

def recordsBytes (zstd : Zstd) (records : List Record) : Bytes := records.flatMap (recordBytes zstd)

@[simp] theorem records_bytes_nil (zstd : Zstd) : recordsBytes zstd [] = [] := rfl

@[simp] theorem records_bytes_cons (zstd : Zstd) (record : Record) (records : List Record) :
    recordsBytes zstd (record :: records) =
      recordBytes zstd record ++ recordsBytes zstd records := by
  simp [recordsBytes]

@[simp] theorem records_bytes_append (zstd : Zstd) (first second : List Record) :
    recordsBytes zstd (first ++ second) =
      recordsBytes zstd first ++ recordsBytes zstd second := by
  simp [recordsBytes]

theorem messages_bytes_record_pdus (zstd : Zstd) (records : List Record) :
    messagesBytes zstd (records.map recordPdu) = recordsBytes zstd records := by
  induction records with
  | nil => rfl
  | cons record records induction =>
      rw [List.map_cons, messages_bytes_cons, message_bytes_record_pdu, induction,
        records_bytes_cons]

/-- The reference decoding of a file. -/
def decodedContent (zstd : Zstd) (file : Bytes) : Bytes := recordsBytes zstd (records file)

/-- Decoding is compositional over complete records. -/
theorem decoded_content_encode_frames (zstd : Zstd) (sent : List Record) (rest : Bytes) :
    decodedContent zstd (encodeFrames sent ++ rest) =
      recordsBytes zstd sent ++ decodedContent zstd rest := by
  rw [decodedContent, records, frames_encode_frames, records_bytes_append]
  rfl

theorem record_pdu_payload_record (size : Nat) (payload : Bytes) (sizeFits : size < 2 ^ 32)
    (fits : payload.length < 2 ^ 32) :
    recordPdu (payloadRecord size payload fits) = payloadPdu false size payload := by
  have stored : (UInt32.ofInt (size : Int)).toNat = size := by
    rw [UInt32.ofInt, UInt32.toNat_ofNat']
    omega
  simp only [recordPdu, Record.compressionHeader, payloadRecord, of_bytes_bytes_self, headerFor,
    stored]

theorem record_bytes_payload_record (zstd : Zstd) (size : Nat) (payload : Bytes)
    (sizeFits : size < 2 ^ 32) (fits : payload.length < 2 ^ 32) :
    recordBytes zstd (payloadRecord size payload fits) = plainBytes zstd size payload := by
  rw [← message_bytes_record_pdu, record_pdu_payload_record size payload sizeFits fits,
    message_bytes_payload_pdu]

/-! ## Messages that make records -/

/-- A message in either shape whose sizes survive the header and the queue. -/
structure Message where
  hasheader : Bool
  uncompressedSize : Nat
  payload : Bytes
  size_fits : uncompressedSize < 2 ^ 32
  payload_fits : payload.length < 2 ^ 31

def Message.pdu (message : Message) : Pdu :=
  payloadPdu message.hasheader message.uncompressedSize message.payload

/-- The same sizes and payload without a header. -/
def Message.bare (message : Message) : Pdu :=
  payloadPdu false message.uncompressedSize message.payload

def Message.record (message : Message) : Record :=
  payloadRecord message.uncompressedSize message.payload (by have := message.payload_fits; omega)

theorem message_record_cells (message : Message) :
    message.record.cells =
      (headerFor message.uncompressedSize message.payload.length).bytes ++ message.payload := rfl

/-- The bytes a message is written as, in a file or a stream. -/
def Pdu.wire (pdu : Pdu) : Bytes :=
  (headerFor pdu.uncompressedSize pdu.compressedSize).bytes ++ pdu.blob.drop pdu.payloadOffset

theorem message_pdu_wire (message : Message) : message.pdu.wire = message.record.cells := by
  rw [message_record_cells, Pdu.wire, Message.pdu, payload_pdu_blob_drop,
    payload_pdu_uncompressed_size, payload_pdu_compressed_size]

theorem encode_message_records (messages : List Message) :
    encodeFrames (messages.map Message.record) = (messages.map Message.pdu).flatMap Pdu.wire := by
  induction messages with
  | nil => rfl
  | cons message messages induction =>
      rw [List.map_cons, encode_frames_cons, induction, ← message_pdu_wire, List.map_cons,
        List.flatMap_cons]

theorem record_pdu_message_record (message : Message) :
    recordPdu message.record = message.bare :=
  record_pdu_payload_record message.uncompressedSize message.payload message.size_fits _

end GrCompress.RecordFormat
