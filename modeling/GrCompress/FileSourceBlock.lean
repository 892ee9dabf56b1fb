import GrCompress.OpenFiles
import GrCompress.RecordFormat

/-!
# The compressed file source

`CompressedFileSource_impl`: `work` serves items from a byte queue and, while
the queue is short, reads records from the file and decompresses them into it.
Files can be seeked, so a rewind does not fail. Warnings are left out.

A call is shown to be a step of `Playback`, which knows no file position and no
buffer: only the queued bytes and the records still to be decoded.
-/

namespace GrCompress.FileSourceBlock

open GrCompress.CheckedStorage
open GrCompress.OpenFiles
open GrCompress.LengthFraming
open GrCompress.ZstdCodec
open GrCompress.RecordFormat

set_option autoImplicit false

structure SourceParams where
  itemsize : Nat
  itemsize_pos : 0 < itemsize

/-- Each `SizedBuffer` stands for a pointer and its recorded size. -/
structure FileSource where
  byteQueue : Bytes
  localWriteBuffer : SizedBuffer UInt8
  compressedBuffer : SizedBuffer UInt8
  fp : Option (ReadFile UInt8)
  newFp : Option (ReadFile UInt8)
  repeats : Bool
  updated : Bool
  fileBegin : Bool
  repeatCnt : Nat
  addBeginTag : Bool
  handles : Handles

/-! ## Opening, seeking and closing -/

/-- `fclose`, if there is a handle. -/
def closing (file : Option (ReadFile UInt8)) (handles : Handles) : Handles :=
  match file with
  | none => handles
  | some file => handles.close file.descriptor

/-- `seek`. The product of the `long` and the `size_t` is a `size_t`; `fseek` takes a `long`. -/
def seek (params : SourceParams) (seekPoint : Int) (whence : Whence) :
    EStateM Fault FileSource Bool := do
  let block ← get
  match block.fp with
  | none => throw .nullPointer
  | some fp =>
      match fp.seek (toLong (toSize (toSize seekPoint * params.itemsize))) whence with
      | none => return false
      | some fp =>
          set { block with fp := some fp }
          return true

/-- `open`. The handle comes from `::open`, so a failing `fdopen` has one to close. -/
def openFile (content : Bytes) (opening : Opening) (repeats : Bool) :
    EStateM Fault FileSource Unit := do
  match opening with
  | .openFails => throw (.exception "can't open file")
  | .fdopenFails =>
      modify fun block =>
        let descriptor := block.handles.next
        { block with
          newFp := none
          handles := (closing block.newFp block.handles.obtain).close descriptor }
      throw (.exception "can't open file")
  | .succeeds =>
      modify fun block =>
        let descriptor := block.handles.next
        { block with
          newFp := some { descriptor := descriptor, content := content, position := 0 }
          handles := closing block.newFp block.handles.obtain
          updated := true
          repeats := repeats }

def close : EStateM Fault FileSource Unit :=
  modify fun block =>
    { block with
      newFp := none
      handles := closing block.newFp block.handles
      updated := true }

def doUpdate : EStateM Fault FileSource Unit :=
  modify fun block =>
    if block.updated then
      { block with
        handles := closing block.fp block.handles
        fp := block.newFp
        newFp := none
        updated := false
        fileBegin := true }
    else block

/-- The members as the constructor initialises them, before it opens the file. -/
def unopened (repeats : Bool) : FileSource where
  byteQueue := []
  localWriteBuffer := { pointer := none, size := 0 }
  compressedBuffer := { pointer := none, size := 0 }
  fp := none
  newFp := none
  repeats := repeats
  updated := false
  fileBegin := true
  repeatCnt := 0
  addBeginTag := false
  handles := .none

/-- The constructor. -/
def make (content : Bytes) (opening : Opening) (repeats : Bool) :
    EStateM Fault FileSource Unit := do
  openFile content opening repeats
  doUpdate
  modify fun block =>
    { block with localWriteBuffer := .new 64000, compressedBuffer := .new 64000 }

def stop : EStateM Fault FileSource Bool := do
  modify fun block =>
    { block with
      fp := none
      newFp := none
      handles := closing block.newFp (closing block.fp block.handles)
      localWriteBuffer := block.localWriteBuffer.release
      compressedBuffer := block.compressedBuffer.release }
  return true

/-- The destructor. -/
def destroy : EStateM Fault FileSource Unit := do
  let _ ← stop

def setBeginTag (present : Bool) : EStateM Fault FileSource Unit :=
  modify fun block => { block with addBeginTag := present }

/-! ## work -/

variable (zstd : Zstd) (params : SourceParams)

/-- Read just a header block. -/
def readHeader : EStateM Fault FileSource (Option CompressionHeader) := do
  let block ← get
  match block.fp with
  | none => throw .nullPointer
  | some fp =>
      let (pointer, count, fp) ← fread block.localWriteBuffer.pointer headerSize fp
      set { block with
        localWriteBuffer := { pointer := pointer, size := block.localWriteBuffer.size }
        fp := some fp }
      if count < headerSize then
        return none
      else
        let header ← load pointer 0 headerSize
        return some (CompressionHeader.ofBytes header)

/-- Make sure our buffers are good. -/
def growBuffers (header : CompressionHeader) : EStateM Fault FileSource Unit :=
  modify fun block =>
    { block with
      localWriteBuffer := block.localWriteBuffer.grow header.uncompressedSize.toNat
      compressedBuffer := block.compressedBuffer.grow header.compressedSize.toNat }

/-- Read a compressed block; if it is a good one, decompress it and queue it. -/
def readPayload (header : CompressionHeader) : EStateM Fault FileSource Bool := do
  let uncompressedSize := header.uncompressedSize.toNat
  let compressedSize := header.compressedSize.toNat
  let block ← get
  match block.fp with
  | none => throw .nullPointer
  | some fp =>
      let (compressedPointer, bytesRead, fp) ←
        fread block.compressedBuffer.pointer compressedSize fp
      let block := { block with
        compressedBuffer := { pointer := compressedPointer, size := block.compressedBuffer.size }
        fp := some fp }
      set block
      if bytesRead = compressedSize then
        let source ← load compressedPointer 0 compressedSize
        let (pointer, actualDecompressedSize) ←
          ZStdDecompressor.decompress zstd block.localWriteBuffer.pointer uncompressedSize source
        let plain ← load pointer 0 actualDecompressedSize
        set { block with
          localWriteBuffer := { pointer := pointer, size := block.localWriteBuffer.size }
          byteQueue := block.byteQueue ++ plain }
        return true
      else
        return false

/-- One round of the loop; false when the file has no complete record left. -/
def readRecord : EStateM Fault FileSource Bool := do
  match ← readHeader with
  | none => return false
  | some header =>
      growBuffers header
      readPayload zstd header

/-- The read loop; its result tells whether the queue has reached `noi` bytes. -/
def readLoop (noi : Nat) : Nat → EStateM Fault FileSource Bool
  | 0 => throw .outOfFuel
  | fuel + 1 => do
      if (← get).byteQueue.length < noi then
        if ← readRecord zstd then
          readLoop noi fuel
        else
          return false
      else
        return true

def workDone : Int := -1

/-- What follows a short header and, in the same words, a short payload. -/
def endOfFile : EStateM Fault FileSource StreamOutput := do
  let block ← get
  if !block.repeats then
    return { returned := workDone, items := [] }
  else
    set { block with fp := block.fp.map ReadFile.rewind }
    if block.addBeginTag then
      modify fun block => { block with fileBegin := true, repeatCnt := block.repeatCnt + 1 }
    return { returned := 0, items := [] }

/-- Just return from the queue. -/
def serve (noutputItems noi : Nat) : EStateM Fault FileSource StreamOutput := do
  let block ← get
  let (out, byteQueue) ← popFront noi block.byteQueue
  set { block with byteQueue := byteQueue }
  return { returned := noutputItems, items := out }

/-- Each round of the loop takes a header from the file. The product does not wrap in
`size_t` or `long`: the item size is an `int` in `io_signature::make`, as `noutput_items`
is one. -/
def work (noutputItems : Nat) : EStateM Fault FileSource StreamOutput := do
  let noi := noutputItems * params.itemsize
  doUpdate
  let block ← get
  match block.fp with
  | none => throw (.exception "work with file not open")
  | some fp =>
      if noi ≤ block.byteQueue.length then
        serve noutputItems noi
      else if ← readLoop zstd noi (fp.remaining.length + 1) then
        serve noutputItems noi
      else
        endOfFile

/-! ## Playback -/

/-- The bytes decoded and not delivered, and the records not decoded in this pass. -/
structure Playback where
  queue : Bytes
  ahead : List Record

/-- A request of `wanted` bytes is served from the queue and as many records as
it takes; a request that all records cannot serve ends the pass. -/
inductive Playback.Step (zstd : Zstd) (file : List Record) (repeats : Bool)
    (noutputItems wanted : Nat) : Playback → StreamOutput → Playback → Prop where
  | served (queue : Bytes) (decoded ahead : List Record)
      (enough : wanted ≤ (queue ++ recordsBytes zstd decoded).length) :
      Step zstd file repeats noutputItems wanted
        { queue := queue, ahead := decoded ++ ahead }
        { returned := noutputItems
          items := (queue ++ recordsBytes zstd decoded).take wanted }
        { queue := (queue ++ recordsBytes zstd decoded).drop wanted, ahead := ahead }
  | ended (queue : Bytes) (ahead : List Record) (once : repeats = false)
      (short : (queue ++ recordsBytes zstd ahead).length < wanted) :
      Step zstd file repeats noutputItems wanted
        { queue := queue, ahead := ahead }
        { returned := workDone, items := [] }
        { queue := queue ++ recordsBytes zstd ahead, ahead := [] }
  | rewound (queue : Bytes) (ahead : List Record) (again : repeats = true)
      (short : (queue ++ recordsBytes zstd ahead).length < wanted) :
      Step zstd file repeats noutputItems wanted
        { queue := queue, ahead := ahead }
        { returned := 0, items := [] }
        { queue := queue ++ recordsBytes zstd ahead, ahead := file }

/-- The file is open and installed and `rest` is what is left of it; the buffers
are allocated, and the first has room for a header. -/
structure Positioned (content : Bytes) (repeats : Bool) (queue rest : Bytes)
    (block : FileSource) : Prop where
  file : ∃ fp, block.fp = some fp ∧ fp.content = content ∧ fp.remaining = rest
  installed : block.updated = false
  queue : block.byteQueue = queue
  repeats : block.repeats = repeats
  localWriteBuffer : block.localWriteBuffer.Backed
  headerRoom : headerSize ≤ block.localWriteBuffer.size
  compressedBuffer : block.compressedBuffer.Backed

/-- The records ahead are those behind the file position. -/
def Plays (content : Bytes) (repeats : Bool) (block : FileSource) (playback : Playback) : Prop :=
  ∃ rest, Positioned content repeats playback.queue rest block ∧ playback.ahead = records rest

/-- The constructor leaves the block at the start of its file. -/
theorem make_run (content : Bytes) (repeats : Bool) :
    ∃ block, (make content .succeeds repeats).run (unopened repeats) = .ok () block ∧
      Plays content repeats block { queue := [], ahead := records content } := by
  refine ⟨_, rfl, content, ⟨⟨_, rfl, rfl, rfl⟩, rfl, rfl, rfl, new_backed 64000, ?_,
    new_backed 64000⟩, rfl⟩
  show headerSize ≤ 64000
  decide

section Reading

variable {content queue rest : Bytes} {repeats : Bool} {block : FileSource}

/-- `fread` into the first buffer moves the file position and nothing else. -/
theorem positioned_local_read (positioned : Positioned content repeats queue rest block)
    {fp : ReadFile UInt8} (opened : block.fp = some fp) {written : Bytes}
    (length : written.length = block.localWriteBuffer.size) (count : Nat) :
    Positioned content repeats queue (rest.drop count) { block with
      localWriteBuffer := { pointer := some written, size := block.localWriteBuffer.size }
      fp := some (fp.advance count) } := by
  rcases positioned.file with ⟨fp', opened', same, remaining⟩
  rw [opened, Option.some.injEq] at opened'
  subst opened'
  exact ⟨⟨_, rfl, same, by rw [advance_remaining, remaining]⟩, positioned.installed,
    positioned.queue, positioned.repeats, ⟨written, rfl, length⟩, positioned.headerRoom,
    positioned.compressedBuffer⟩

/-- So does `fread` into the second one. -/
theorem positioned_compressed_read (positioned : Positioned content repeats queue rest block)
    {fp : ReadFile UInt8} (opened : block.fp = some fp) {written : Bytes}
    (length : written.length = block.compressedBuffer.size) (count : Nat) :
    Positioned content repeats queue (rest.drop count) { block with
      compressedBuffer := { pointer := some written, size := block.compressedBuffer.size }
      fp := some (fp.advance count) } := by
  rcases positioned.file with ⟨fp', opened', same, remaining⟩
  rw [opened, Option.some.injEq] at opened'
  subst opened'
  exact ⟨⟨_, rfl, same, by rw [advance_remaining, remaining]⟩, positioned.installed,
    positioned.queue, positioned.repeats, positioned.localWriteBuffer, positioned.headerRoom,
    ⟨written, rfl, length⟩⟩

theorem read_header_short (positioned : Positioned content repeats queue rest block)
    (short : rest.length < headerSize) :
    ∃ after, readHeader.run block = .ok none after ∧
      Positioned content repeats queue [] after := by
  rcases positioned.file with ⟨fp, opened, _, remaining⟩
  rcases positioned.localWriteBuffer with ⟨array, allocated, length⟩
  have headerRoom := positioned.headerRoom
  have room : headerSize ≤ array.length := by omega
  obtain ⟨written, writtenLength, _, read⟩ := fread_run room fp block
  have all : min headerSize fp.remaining.length = rest.length := by
    rw [remaining]
    omega
  rw [all] at read
  have advanced := positioned_local_read positioned opened (writtenLength.trans length) rest.length
  rw [List.drop_length] at advanced
  refine ⟨_, ?_, advanced⟩
  simp only [readHeader, EStateM.run_bind, EStateM.run_get, opened, allocated, read,
    EStateM.run_set, if_pos short, EStateM.run_pure]

theorem read_header_run (positioned : Positioned content repeats queue rest block)
    (arrived : headerSize ≤ rest.length) :
    ∃ after, readHeader.run block =
        .ok (some (CompressionHeader.ofBytes (rest.take headerSize))) after ∧
      Positioned content repeats queue (rest.drop headerSize) after := by
  rcases positioned.file with ⟨fp, opened, _, remaining⟩
  rcases positioned.localWriteBuffer with ⟨array, allocated, length⟩
  have headerRoom := positioned.headerRoom
  have room : headerSize ≤ array.length := by omega
  obtain ⟨written, writtenLength, starts, read⟩ := fread_run room fp block
  have all : min headerSize fp.remaining.length = headerSize := by
    rw [remaining]
    omega
  rw [all] at read starts
  have loaded : 0 + headerSize ≤ written.length := by omega
  refine ⟨_, ?_, positioned_local_read positioned opened (writtenLength.trans length) headerSize⟩
  simp only [readHeader, EStateM.run_bind, EStateM.run_get, opened, allocated, read,
    EStateM.run_set, Nat.lt_irrefl, if_false, load_some loaded, List.drop_zero, starts,
    remaining, EStateM.run_pure]

theorem grow_buffers_run (positioned : Positioned content repeats queue rest block)
    (header : CompressionHeader) :
    ∃ after, (growBuffers header).run block = .ok () after ∧
      Positioned content repeats queue rest after ∧
      header.uncompressedSize.toNat ≤ after.localWriteBuffer.size ∧
      header.compressedSize.toNat ≤ after.compressedBuffer.size := by
  have localSize := grow_size block.localWriteBuffer header.uncompressedSize.toNat
  have compressedSize := grow_size block.compressedBuffer header.compressedSize.toNat
  have headerRoom := positioned.headerRoom
  refine ⟨_, rfl, ⟨positioned.file, positioned.installed, positioned.queue, positioned.repeats,
    grow_backed positioned.localWriteBuffer _, ?_,
    grow_backed positioned.compressedBuffer _⟩, ?_, ?_⟩
  · simp only [localSize]
    omega
  · simp only [localSize]
    omega
  · simp only [compressedSize]
    omega

theorem read_payload_short (positioned : Positioned content repeats queue rest block)
    (header : CompressionHeader)
    (room : header.compressedSize.toNat ≤ block.compressedBuffer.size)
    (short : rest.length < header.compressedSize.toNat) :
    ∃ after, (readPayload zstd header).run block = .ok false after ∧
      Positioned content repeats queue [] after := by
  rcases positioned.file with ⟨fp, opened, _, remaining⟩
  rcases positioned.compressedBuffer with ⟨array, allocated, length⟩
  rw [← length] at room
  obtain ⟨written, writtenLength, _, read⟩ := fread_run room fp block
  have all : min header.compressedSize.toNat fp.remaining.length = rest.length := by
    rw [remaining]
    omega
  rw [all] at read
  have fewer : ¬rest.length = header.compressedSize.toNat := by omega
  have advanced :=
    positioned_compressed_read positioned opened (writtenLength.trans length) rest.length
  rw [List.drop_length] at advanced
  refine ⟨_, ?_, advanced⟩
  simp only [readPayload, EStateM.run_bind, EStateM.run_get, opened, allocated, read,
    EStateM.run_set, if_neg fewer, EStateM.run_pure]

/-- A complete payload is queued as what it decompresses to, which may be nothing. -/
theorem read_payload_run (bounded : zstd.DecompressBounded)
    (positioned : Positioned content repeats queue rest block) (header : CompressionHeader)
    (plainRoom : header.uncompressedSize.toNat ≤ block.localWriteBuffer.size)
    (room : header.compressedSize.toNat ≤ block.compressedBuffer.size)
    (arrived : header.compressedSize.toNat ≤ rest.length) :
    ∃ after, (readPayload zstd header).run block = .ok true after ∧
      Positioned content repeats
        (queue ++ plainBytes zstd header.uncompressedSize.toNat
          (rest.take header.compressedSize.toNat))
        (rest.drop header.compressedSize.toNat) after := by
  rcases positioned.file with ⟨fp, opened, _, remaining⟩
  rcases positioned.compressedBuffer with ⟨array, allocated, length⟩
  rcases positioned.localWriteBuffer with ⟨target, targetAllocated, targetLength⟩
  rw [← length] at room
  rw [← targetLength] at plainRoom
  obtain ⟨written, writtenLength, starts, read⟩ := fread_run room fp block
  have all : min header.compressedSize.toNat fp.remaining.length =
      header.compressedSize.toNat := by
    rw [remaining]
    omega
  rw [all] at read starts
  rw [remaining] at starts
  have loaded : 0 + header.compressedSize.toNat ≤ written.length := by omega
  have plainLength := plain_bytes_length_le bounded header.uncompressedSize.toNat
    (rest.take header.compressedSize.toNat)
  have advanced := positioned_compressed_read positioned opened (writtenLength.trans length)
    header.compressedSize.toNat
  obtain ⟨plainArray, plainArrayLength, plainStarts, decompressed⟩ :=
    decompress_run rfl plainRoom plainLength
      { block with
        compressedBuffer := { pointer := some written, size := block.compressedBuffer.size }
        fp := some (fp.advance header.compressedSize.toNat) }
  have plainLoaded : 0 + (plainBytes zstd header.uncompressedSize.toNat
      (rest.take header.compressedSize.toNat)).length ≤ plainArray.length := by
    omega
  refine ⟨{ block with
      compressedBuffer := { pointer := some written, size := block.compressedBuffer.size }
      fp := some (fp.advance header.compressedSize.toNat)
      localWriteBuffer := { pointer := some plainArray, size := block.localWriteBuffer.size }
      byteQueue := block.byteQueue ++ plainBytes zstd header.uncompressedSize.toNat
        (rest.take header.compressedSize.toNat) }, ?_, ⟨advanced.file, positioned.installed,
    by rw [positioned.queue], positioned.repeats,
    ⟨plainArray, rfl, plainArrayLength.trans targetLength⟩, positioned.headerRoom,
    advanced.compressedBuffer⟩⟩
  simp only [readPayload, EStateM.run_bind, EStateM.run_get, opened, allocated, read,
    EStateM.run_set, if_true, load_some loaded, List.drop_zero, starts, targetAllocated,
    decompressed, load_some plainLoaded, plainStarts, EStateM.run_pure]

/-- A round of the loop takes the first record of what is left. -/
theorem read_record_run (bounded : zstd.DecompressBounded)
    (positioned : Positioned content repeats queue rest block) {record : Record} {later : Bytes}
    (split : splitFrame recordFraming rest = some (record, later)) :
    ∃ after, (readRecord zstd).run block = .ok true after ∧
      Positioned content repeats (queue ++ recordBytes zstd record) later after := by
  have cells := split_frame_eq_some split
  have width : record.header.length = headerSize := record.header_length
  have bodyLength : record.body.length = record.compressionHeader.compressedSize.toNat :=
    record.body_length
  rw [Frame.cells, List.append_assoc] at cells
  have arrived : headerSize ≤ rest.length := by
    rw [cells, List.length_append]
    omega
  obtain ⟨headed, headerRead, headedAt⟩ := read_header_run positioned arrived
  have header : rest.take headerSize = record.header := by rw [cells, List.take_left' width]
  have afterHeader : rest.drop headerSize = record.body ++ later := by
    rw [cells, List.drop_left' width]
  rw [header] at headerRead
  rw [afterHeader] at headedAt
  obtain ⟨grown, grew, grownAt, plainRoom, room⟩ :=
    grow_buffers_run headedAt record.compressionHeader
  have complete : record.compressionHeader.compressedSize.toNat ≤
      (record.body ++ later).length := by
    rw [List.length_append]
    omega
  obtain ⟨after, payloadRead, afterAt⟩ :=
    read_payload_run zstd bounded grownAt record.compressionHeader plainRoom room complete
  rw [List.take_left' bodyLength, List.drop_left' bodyLength] at afterAt
  refine ⟨after, ?_, afterAt⟩
  simp only [readRecord, EStateM.run_bind, headerRead, grew, payloadRead]

/-- Without a complete record, a round reads what is left and queues nothing. -/
theorem read_record_ends (positioned : Positioned content repeats queue rest block)
    (split : splitFrame recordFraming rest = none) :
    ∃ after, (readRecord zstd).run block = .ok false after ∧
      Positioned content repeats queue [] after := by
  rcases Nat.lt_or_ge rest.length headerSize with short | arrived
  · obtain ⟨after, headerRead, afterAt⟩ := read_header_short positioned short
    refine ⟨after, ?_, afterAt⟩
    simp only [readRecord, EStateM.run_bind, headerRead, EStateM.run_pure]
  · obtain ⟨headed, headerRead, headedAt⟩ := read_header_run positioned arrived
    obtain ⟨grown, grew, grownAt, _, room⟩ :=
      grow_buffers_run headedAt (CompressionHeader.ofBytes (rest.take headerSize))
    have short : (rest.drop headerSize).length <
        (CompressionHeader.ofBytes (rest.take headerSize)).compressedSize.toNat :=
      body_short_of_split_frame_none arrived split
    obtain ⟨after, payloadRead, afterAt⟩ := read_payload_short zstd grownAt _ room short
    refine ⟨after, ?_, afterAt⟩
    simp only [readRecord, EStateM.run_bind, headerRead, grew, payloadRead]

end Reading

/-! ## A call is a step of playback -/

section Calls

variable {content : Bytes} {repeats : Bool} {block : FileSource}

/-- The loop decodes records until the queue is long enough or none is left. -/
theorem read_loop_run (bounded : zstd.DecompressBounded) (noi fuel : Nat) {queue : Bytes}
    {ahead : List Record} (plays : Plays content repeats block { queue := queue, ahead := ahead })
    (enough : ahead.length < fuel) :
    ∃ decoded left after, ahead = decoded ++ left ∧
      Plays content repeats after { queue := queue ++ recordsBytes zstd decoded, ahead := left } ∧
      ((noi ≤ (queue ++ recordsBytes zstd decoded).length ∧
          (readLoop zstd noi fuel).run block = .ok true after) ∨
        ((queue ++ recordsBytes zstd decoded).length < noi ∧ left = [] ∧
          (readLoop zstd noi fuel).run block = .ok false after)) := by
  induction fuel generalizing block queue ahead with
  | zero => omega
  | succ fuel induction =>
      rcases plays with ⟨rest, positioned, aheadEq⟩
      simp only at positioned aheadEq
      by_cases wants : queue.length < noi
      · cases split : splitFrame recordFraming rest with
        | none =>
            obtain ⟨after, round, afterAt⟩ := read_record_ends zstd positioned split
            have none_left : ahead = [] := by rw [aheadEq, records, frames, drain_of_none split]
            refine ⟨[], [], after, none_left, ⟨[], by simpa using afterAt, by simp [records]⟩,
              .inr ⟨by simpa using wants, rfl, ?_⟩⟩
            simp only [readLoop, EStateM.run_bind, EStateM.run_get, positioned.queue,
              if_pos wants, round, Bool.false_eq_true, if_false, EStateM.run_pure]
        | some pair =>
            rcases pair with ⟨record, later⟩
            obtain ⟨next, round, nextAt⟩ := read_record_run zstd bounded positioned split
            have first : ahead = record :: records later := by
              rw [aheadEq, records, frames, drain_of_some split]
            have shorter : (records later).length < fuel := by
              rw [first, List.length_cons] at enough
              omega
            obtain ⟨decoded, left, after, laterEq, afterPlays, result⟩ :=
              induction ⟨later, nextAt, rfl⟩ shorter
            have looped : (readLoop zstd noi (fuel + 1)).run block =
                (readLoop zstd noi fuel).run next := by
              simp only [readLoop, EStateM.run_bind, EStateM.run_get, positioned.queue,
                if_pos wants, round, if_true]
            refine ⟨record :: decoded, left, after,
              first.trans (congrArg (List.cons record) laterEq), ?_, ?_⟩
            · simpa using afterPlays
            · rw [looped]
              simpa using result
      · refine ⟨[], ahead, block, rfl, ⟨rest, by simpa using positioned, aheadEq⟩,
          .inl ⟨by simpa using Nat.le_of_not_lt wants, ?_⟩⟩
        simp only [readLoop, EStateM.run_bind, EStateM.run_get, positioned.queue, if_neg wants,
          EStateM.run_pure]

theorem do_update_run (installed : block.updated = false) : doUpdate.run block = .ok () block := by
  simp [doUpdate, installed]

theorem serve_run (noutputItems noi : Nat) {playback : Playback}
    (plays : Plays content repeats block playback) (enough : noi ≤ playback.queue.length) :
    ∃ after, (serve noutputItems noi).run block =
        .ok { returned := noutputItems, items := playback.queue.take noi } after ∧
      Plays content repeats after
        { queue := playback.queue.drop noi, ahead := playback.ahead } := by
  rcases plays with ⟨rest, positioned, ahead⟩
  refine ⟨{ block with byteQueue := block.byteQueue.drop noi }, ?_, rest,
    ⟨positioned.file, positioned.installed, by rw [positioned.queue], positioned.repeats,
      positioned.localWriteBuffer, positioned.headerRoom, positioned.compressedBuffer⟩, ahead⟩
  simp only [serve, EStateM.run_bind, EStateM.run_get, positioned.queue, pop_front_run enough,
    EStateM.run_set, EStateM.run_pure]

theorem end_of_file_once {queue : Bytes} {ahead : List Record}
    (plays : Plays content false block { queue := queue, ahead := ahead }) :
    endOfFile.run block = .ok { returned := workDone, items := [] } block := by
  rcases plays with ⟨rest, positioned, _⟩
  simp [endOfFile, positioned.repeats]

/-- A rewind keeps the queue and puts all records of the file ahead again. -/
theorem end_of_file_again {queue : Bytes} {ahead : List Record}
    (plays : Plays content true block { queue := queue, ahead := ahead }) :
    ∃ after, endOfFile.run block = .ok { returned := 0, items := [] } after ∧
      Plays content true after { queue := queue, ahead := records content } := by
  rcases plays with ⟨rest, positioned, _⟩
  rcases positioned.file with ⟨fp, opened, same, _⟩
  have rewound : ∀ fileBegin repeatCnt, Positioned content true queue content
      { block with
        fp := some fp.rewind
        fileBegin := fileBegin
        repeatCnt := repeatCnt } := fun _ _ =>
    ⟨⟨fp.rewind, rfl, same, same⟩, positioned.installed, positioned.queue, positioned.repeats,
      positioned.localWriteBuffer, positioned.headerRoom, positioned.compressedBuffer⟩
  cases tagged : block.addBeginTag with
  | true =>
      refine ⟨_, ?_, content, rewound true (block.repeatCnt + 1), rfl⟩
      simp only [endOfFile, EStateM.run_bind, EStateM.run_get, positioned.repeats, Bool.not_true,
        Bool.false_eq_true, if_false, EStateM.run_set, tagged, if_true, EStateM.run_modify,
        EStateM.run_pure, opened, Option.map_some]
  | false =>
      refine ⟨_, ?_, content, rewound block.fileBegin block.repeatCnt, rfl⟩
      simp only [endOfFile, EStateM.run_bind, EStateM.run_get, positioned.repeats, Bool.not_true,
        Bool.false_eq_true, if_false, EStateM.run_set, tagged, EStateM.run_pure, opened,
        Option.map_some]

theorem records_length_le (stream : Bytes) : (records stream).length ≤ stream.length :=
  frames_length_le stream

/-- `work` refines `Playback.Step`. -/
theorem work_run (bounded : zstd.DecompressBounded) (noutputItems : Nat) {playback : Playback}
    (plays : Plays content repeats block playback) :
    ∃ output after next, (work zstd params noutputItems).run block = .ok output after ∧
      Playback.Step zstd (records content) repeats noutputItems (noutputItems * params.itemsize)
        playback output next ∧
      Plays content repeats after next := by
  rcases playback with ⟨queue, ahead⟩
  rcases plays with ⟨rest, positioned, aheadEq⟩
  have plays : Plays content repeats block { queue := queue, ahead := ahead } :=
    ⟨rest, positioned, aheadEq⟩
  have updated := do_update_run positioned.installed
  rcases positioned.file with ⟨fp, opened, _, remaining⟩
  simp only at positioned aheadEq
  by_cases queued : noutputItems * params.itemsize ≤ queue.length
  · have step : Playback.Step zstd (records content) repeats noutputItems
        (noutputItems * params.itemsize) { queue := queue, ahead := [] ++ ahead } _ _ :=
      .served queue [] ahead (by simpa using queued)
    obtain ⟨after, served, afterPlays⟩ :=
      serve_run noutputItems (noutputItems * params.itemsize) plays queued
    refine ⟨_, after, _, ?_, by simpa using step, afterPlays⟩
    simp only [work, EStateM.run_bind, updated, EStateM.run_get, opened, positioned.queue,
      if_pos queued, served]
  · have fuel : ahead.length < fp.remaining.length + 1 := by
      have := records_length_le rest
      rw [remaining, aheadEq]
      omega
    obtain ⟨decoded, left, filled, aheadSplit, filledPlays, result⟩ :=
      read_loop_run zstd bounded (noutputItems * params.itemsize) _ plays fuel
    rcases result with ⟨reached, looped⟩ | ⟨short, rfl, looped⟩
    · obtain ⟨after, served, afterPlays⟩ :=
        serve_run noutputItems (noutputItems * params.itemsize) filledPlays reached
      refine ⟨_, after, _, ?_, by rw [aheadSplit]; exact .served queue decoded left reached,
        afterPlays⟩
      simp only [work, EStateM.run_bind, updated, EStateM.run_get, opened, positioned.queue,
        if_neg queued, looped, if_true, served]
    · rw [List.append_nil] at aheadSplit
      subst aheadSplit
      cases repeats with
      | false =>
          refine ⟨_, filled, _, ?_, .ended queue ahead rfl short, filledPlays⟩
          simp only [work, EStateM.run_bind, updated, EStateM.run_get, opened, positioned.queue,
            if_neg queued, looped, Bool.false_eq_true, if_false, end_of_file_once filledPlays]
      | true =>
          obtain ⟨after, rewound, afterPlays⟩ := end_of_file_again filledPlays
          refine ⟨_, after, _, ?_, .rewound queue ahead rfl short, afterPlays⟩
          simp only [work, EStateM.run_bind, updated, EStateM.run_get, opened, positioned.queue,
            if_neg queued, looped, Bool.false_eq_true, if_false, rewound]

end Calls

end GrCompress.FileSourceBlock
