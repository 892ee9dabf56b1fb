import GrCompress.CallRuns
import GrCompress.OpenFiles
import GrCompress.RecordFormat

/-!
# The compressed file sink

`file_sink_base` and `CompressedFileSink_impl`. `open` and `close` only stage a
handle; `do_update` installs it. The handler of the `compressedin` port writes
each message as a record through the installed handle and does not call
`do_update`; the constructor does. The handler does not use `d_itemsize` as the
size of what it has, only as the size of what it writes.
-/

namespace GrCompress.FileSinkBlock

open GrCompress.CallRuns
open GrCompress.CheckedStorage
open GrCompress.OpenFiles
open GrCompress.LengthFraming
open GrCompress.ZstdCodec
open GrCompress.RecordFormat

set_option autoImplicit false

/-- What one `fwrite` comes to: how many items it writes, and its error flag. -/
structure WriteOutcome where
  items : Nat
  error : Bool
  deriving DecidableEq, Repr

/-- `outcomes` are those of the next calls of `fwrite`; after them all succeed. -/
structure FileSink where
  fp : Option WriteFile
  newFp : Option WriteFile
  updated : Bool
  append : Bool
  unbuffered : Bool
  handles : Handles
  disk : Disk UInt8
  outcomes : List WriteOutcome

structure SinkParams where
  itemsize : Nat
  itemsize_pos : 0 < itemsize

/-- The constructor's arguments, and the files there are. -/
structure SinkSetup where
  params : SinkParams
  name : String
  unbuffered : Bool
  append : Bool
  disk : Disk UInt8

/-- What the file holds once the sink is constructed. -/
def SinkSetup.base (setup : SinkSetup) : Bytes :=
  if setup.append then setup.disk.content setup.name else []

/-! ## file_sink_base -/

/-- `fclose`, if there is a handle. -/
def closing (file : Option WriteFile) (handles : Handles) : Handles :=
  match file with
  | none => handles
  | some file => handles.close file.descriptor

/-- `open`: `::open` creates or truncates the file before `fdopen` can fail. -/
def openFile (name : String) (opening : Opening) : EStateM Fault FileSink Bool := do
  match opening with
  | .openFails => return false
  | .fdopenFails =>
      modify fun sink =>
        let descriptor := sink.handles.next
        { sink with
          newFp := none
          handles := (closing sink.newFp sink.handles.obtain).close descriptor
          disk := sink.disk.opened name sink.append
          updated := true }
      return false
  | .succeeds =>
      modify fun sink =>
        let descriptor := sink.handles.next
        { sink with
          newFp := some
            { descriptor := descriptor
              name := name
              position := 0
              append := sink.append
              failed := false }
          handles := closing sink.newFp sink.handles.obtain
          disk := sink.disk.opened name sink.append
          updated := true }
      return true

def close : EStateM Fault FileSink Unit :=
  modify fun sink =>
    { sink with
      newFp := none
      handles := closing sink.newFp sink.handles
      updated := true }

def doUpdate : EStateM Fault FileSink Unit :=
  modify fun sink =>
    if sink.updated then
      { sink with
        handles := closing sink.fp sink.handles
        fp := sink.newFp
        newFp := none
        updated := false }
    else sink

def setUnbuffered (unbuffered : Bool) : EStateM Fault FileSink Unit :=
  modify fun sink => { sink with unbuffered := unbuffered }

/-- The members as `file_sink_base` initialises them. -/
def unopened (append : Bool) (disk : Disk UInt8) : FileSink where
  fp := none
  newFp := none
  updated := false
  append := append
  unbuffered := false
  handles := .none
  disk := disk
  outcomes := []

def makeBase (name : String) (opening : Opening) : EStateM Fault FileSink Unit := do
  if !(← openFile name opening) then
    throw (.exception "can't open file")

/-- The destructor of `file_sink_base`. -/
def destroyBase : EStateM Fault FileSink Unit := do
  close
  modify fun sink => { sink with fp := none, handles := closing sink.fp sink.handles }

/-! ## CompressedFileSink_impl -/

/-- The constructor opens the file a second time, whatever that comes to. -/
def make (name : String) (unbuffered : Bool) (first second : Opening) :
    EStateM Fault FileSink Unit := do
  makeBase name first
  modify fun sink => { sink with unbuffered := unbuffered }
  let _ ← openFile name second
  doUpdate

def stop : EStateM Fault FileSink Bool := do
  close
  return true

/-- The destructor, and then that of the base. -/
def destroy : EStateM Fault FileSink Unit := do
  let _ ← stop
  destroyBase

/-- `fwrite` of `count` items through the installed handle. -/
def fwrite (buffer : Buffer UInt8) (offset size count : Nat) : EStateM Fault FileSink Nat := do
  let sink ← get
  match sink.fp with
  | none => throw .nullPointer
  | some fp =>
      let bytes ← load buffer offset (size * count)
      match sink.outcomes with
      | [] =>
          set { sink with
            disk := fp.put sink.disk bytes
            fp := some (fp.advance sink.disk bytes.length) }
          return count
      | outcome :: outcomes =>
          let items := min outcome.items count
          let written := bytes.take (size * items)
          set { sink with
            disk := fp.put sink.disk written
            fp := some { fp.advance sink.disk written.length with
              failed := fp.failed || outcome.error }
            outcomes := outcomes }
          return items

/-- The write loop; `nwritten` is a `long`, and `inbuf` is `offset` bytes into the blob. -/
def writeLoop (params : SinkParams) (blob : Bytes) :
    Nat → Int → Int → EStateM Fault FileSink Unit
  | 0, _, _ => throw .outOfFuel
  | fuel + 1, nwritten, offset => do
      -- `nwritten` is converted to `size_t` for this comparison and for the count
      if toSize nwritten < blob.length then
        let items ← fwrite (some blob) offset.toNat params.itemsize (blob.length - toSize nwritten)
        let count := toInt items
        if count = 0 then
          match (← get).fp with
          | none => throw .nullPointer
          | some fp =>
              if fp.failed then
                throw (.exception
                  ("file_sink write failed with error " ++ toString fp.descriptor ++ "\n"))
              else return ()
        else
          writeLoop params blob fuel (nwritten + count) (offset + count * params.itemsize)
      else return ()

/-- The handler of the `compressedin` port. What `fwrite` reports as written counts as
being in the file, so whether the stream is buffered does not show; the `fflush` that
`d_unbuffered` asks for at the end, whose failure is ignored, is left out. -/
def compressedIn (params : SinkParams) (pdu : Pdu) : EStateM Fault FileSink Unit := do
  match (← get).fp with
  | none => return ()
  | some _ =>
      if !pdu.hasHeader then
        let hdr := headerFor pdu.uncompressedSize pdu.compressedSize
        let _ ← fwrite (some hdr.bytes) 0 headerSize 1
      writeLoop params pdu.blob (pdu.blob.length + 1) 0 0

/-! ## Writing a record -/

section Writing

variable {params : SinkParams} {sink : FileSink} {file : WriteFile}

/-- The sink once some bytes have been written through its handle. -/
def FileSink.written (sink : FileSink) (file : WriteFile) (bytes : Bytes) : FileSink :=
  { sink with
    disk := file.put sink.disk bytes
    fp := some (file.advance sink.disk bytes.length) }

theorem fwrite_run (installed : sink.fp = some file) (succeeding : sink.outcomes = [])
    {buffer : Bytes} {offset size count : Nat} (inside : offset + size * count ≤ buffer.length) :
    (fwrite (some buffer) offset size count).run sink =
      .ok count (sink.written file ((buffer.drop offset).take (size * count))) := by
  simp only [fwrite, EStateM.run_bind, EStateM.run_get, installed, load_some inside, succeeding,
    EStateM.run_set, EStateM.run_pure, FileSink.written]

theorem written_written (bytes more : Bytes) :
    (sink.written file bytes).written (file.advance sink.disk bytes.length) more =
      sink.written file (bytes ++ more) := by
  simp only [FileSink.written, put_put, advance_advance]

/-- The count of one `fwrite` of a whole blob ends the loop, even where it does
not fit in `int` and comes out negative. -/
theorem count_ends_loop {length : Nat} (positive : 0 < length) (small : length < 2 ^ 32) :
    toInt length ≠ 0 ∧ ¬toSize (0 + toInt length) < length := by
  unfold toInt toSize
  constructor <;> split <;> omega

/-- With items of one byte the loop writes the blob; an empty blob it leaves alone. -/
theorem write_loop_run (installed : sink.fp = some file) (succeeding : sink.outcomes = [])
    (blob : Bytes) (small : blob.length < 2 ^ 32) (bytewise : params.itemsize = 1 ∨ blob = []) :
    (writeLoop params blob (blob.length + 1) 0 0).run sink =
      .ok () (if blob = [] then sink else sink.written file blob) := by
  have zero : toSize 0 = 0 := to_size_natCast (by decide)
  by_cases empty : blob = []
  · subst empty
    simp only [writeLoop, zero, List.length_nil, Nat.lt_irrefl, if_false, if_true,
      EStateM.run_pure]
  · have itemsize : params.itemsize = 1 := by simpa [empty] using bytewise
    have positive : 0 < blob.length := List.length_pos_iff.2 empty
    have inside : 0 + 1 * blob.length ≤ blob.length := by omega
    have wrote := fwrite_run installed succeeding inside
    rw [List.drop_zero, Nat.one_mul, List.take_length] at wrote
    obtain ⟨fuel, length⟩ : ∃ fuel, blob.length = fuel + 1 := ⟨blob.length - 1, by omega⟩
    obtain ⟨nonzero, ends⟩ := count_ends_loop positive small
    have finished : (writeLoop params blob blob.length (0 + toInt blob.length)
        (0 + toInt blob.length * params.itemsize)).run (sink.written file blob) =
          .ok () (sink.written file blob) := by
      rw [length, writeLoop, ← length, if_neg ends, EStateM.run_pure]
    rw [if_neg empty, writeLoop, zero, if_pos positive, Nat.sub_zero, Int.toNat_zero]
    rw [itemsize] at finished ⊢
    rw [EStateM.run_bind, wrote]
    simp only [if_neg nonzero]
    exact finished

/-- A message is written as its record, whichever shape it has. -/
theorem compressed_in_run (installed : sink.fp = some file) (succeeding : sink.outcomes = [])
    (message : Message) (bytewise : params.itemsize = 1 ∨ message.pdu.blob = []) :
    (compressedIn params message.pdu).run sink =
      .ok () (sink.written file message.record.cells) := by
  rcases message with ⟨hasheader, size, payload, sizeFits, payloadFits⟩
  cases hasheader with
  | true =>
      have blob : (payloadPdu true size payload).blob =
          (headerFor size payload.length).bytes ++ payload := rfl
      have length : ((headerFor size payload.length).bytes ++ payload).length =
          headerSize + payload.length := by
        rw [List.length_append, header_bytes_length]
      have nonempty : (headerFor size payload.length).bytes ++ payload ≠ [] := by
        intro empty
        rw [empty, List.length_nil, headerSize] at length
        omega
      have looped := write_loop_run installed succeeding
        ((headerFor size payload.length).bytes ++ payload)
        (by rw [length, headerSize]; omega) bytewise
      rw [if_neg nonempty] at looped
      simp only [compressedIn, Message.pdu, EStateM.run_bind, EStateM.run_get, installed,
        payload_pdu_has_header, Bool.not_true, Bool.false_eq_true, if_false, blob]
      exact looped
  | false =>
      have blob : (payloadPdu false size payload).blob = payload := rfl
      have header : (headerFor size payload.length).bytes.length = headerSize :=
        header_bytes_length _
      have inside : 0 + headerSize * 1 ≤ (headerFor size payload.length).bytes.length := by omega
      have wrote := fwrite_run installed succeeding inside
      rw [List.drop_zero, Nat.mul_one, ← header, List.take_length] at wrote
      have stillInstalled : (sink.written file (headerFor size payload.length).bytes).fp =
          some (file.advance sink.disk (headerFor size payload.length).bytes.length) := rfl
      have looped := write_loop_run stillInstalled succeeding payload (by omega) bytewise
      simp only [compressedIn, Message.pdu, EStateM.run_bind, EStateM.run_get, installed,
        payload_pdu_has_header, Bool.not_false, if_true, payload_pdu_uncompressed_size,
        payload_pdu_compressed_size, ← header, wrote, blob]
      rw [looped]
      by_cases empty : payload = []
      · subst empty
        simp [message_record_cells]
      · rw [if_neg empty, written_written]
        rfl

theorem fwrite_outside (installed : sink.fp = some file) {buffer : Bytes}
    {offset size count : Nat} (outside : ¬offset + size * count ≤ buffer.length) :
    (fwrite (some buffer) offset size count).run sink = .error .outOfBounds sink := by
  simp only [fwrite, EStateM.run_bind, EStateM.run_get, installed, load_outside outside]

/-- With larger items the loop reads past the end of a blob at once. -/
theorem write_loop_outside (installed : sink.fp = some file) {blob : Bytes}
    (larger : 1 < params.itemsize) (nonempty : blob ≠ []) :
    (writeLoop params blob (blob.length + 1) 0 0).run sink = .error .outOfBounds sink := by
  have zero : toSize 0 = 0 := to_size_natCast (by decide)
  have positive : 0 < blob.length := List.length_pos_iff.2 nonempty
  have outside : ¬0 + params.itemsize * blob.length ≤ blob.length := by
    have more := Nat.mul_le_mul_right blob.length larger
    omega
  rw [writeLoop, zero, if_pos positive, Nat.sub_zero, Int.toNat_zero, EStateM.run_bind,
    fwrite_outside installed outside]

theorem compressed_in_outside (installed : sink.fp = some file) (succeeding : sink.outcomes = [])
    (message : Message) (larger : 1 < params.itemsize) (nonempty : message.pdu.blob ≠ []) :
    ∃ after, (compressedIn params message.pdu).run sink = .error .outOfBounds after := by
  cases shape : message.pdu.hasHeader with
  | true =>
      refine ⟨sink, ?_⟩
      simp only [compressedIn, EStateM.run_bind, EStateM.run_get, installed, shape, Bool.not_true,
        Bool.false_eq_true, if_false]
      exact write_loop_outside installed larger nonempty
  | false =>
      have header : (headerFor message.pdu.uncompressedSize
          message.pdu.compressedSize).bytes.length = headerSize := header_bytes_length _
      have inside : 0 + headerSize * 1 ≤ (headerFor message.pdu.uncompressedSize
          message.pdu.compressedSize).bytes.length := by omega
      have wrote := fwrite_run installed succeeding inside
      refine ⟨sink.written file (((headerFor message.pdu.uncompressedSize
        message.pdu.compressedSize).bytes.drop 0).take (headerSize * 1)), ?_⟩
      simp only [compressedIn, EStateM.run_bind, EStateM.run_get, installed, shape, Bool.not_false,
        if_true, wrote]
      exact write_loop_outside rfl larger nonempty

end Writing

/-! ## A file of records -/

/-- The sink has this file installed, at its end, and the content is `content`. -/
structure Recording (name : String) (content : Bytes) (sink : FileSink) : Prop where
  file : ∃ file, sink.fp = some file ∧ file.name = name ∧ file.AtEnd sink.disk
  content : sink.disk.content name = content
  succeeding : sink.outcomes = []

/-- The constructor installs its file: empty, or with its content in append mode. -/
theorem make_run (name : String) (unbuffered append : Bool) (disk : Disk UInt8) :
    ∃ sink, (make name unbuffered .succeeds .succeeds).run (unopened append disk) = .ok () sink ∧
      Recording name (if append then disk.content name else []) sink := by
  cases append with
  | false =>
      refine ⟨_, rfl, ⟨_, rfl, rfl, ?_⟩, ?_, rfl⟩
      · simp [WriteFile.AtEnd, WriteFile.target, Disk.opened, unopened]
      · simp [Disk.opened, unopened]
  | true =>
      refine ⟨_, rfl, ⟨_, rfl, rfl, ?_⟩, ?_, rfl⟩
      · simp [WriteFile.AtEnd, WriteFile.target, unopened]
      · simp [Disk.opened, unopened]

/-- One message, one complete record at the end of the file. -/
theorem record_message_run {params : SinkParams} (itemsize : params.itemsize = 1) {name : String}
    {content : Bytes} {sink : FileSink} (recording : Recording name content sink)
    (message : Message) :
    ∃ after, (compressedIn params message.pdu).run sink = .ok () after ∧
      Recording name (content ++ message.record.cells) after := by
  rcases recording.file with ⟨file, installed, named, atEnd⟩
  refine ⟨_, compressed_in_run installed recording.succeeding message (.inl itemsize),
    ⟨_, rfl, named, advance_at_end atEnd _⟩, ?_, recording.succeeding⟩
  simp only [FileSink.written, put_at_end atEnd]
  rw [named, content_set_same, recording.content]

theorem record_messages_run {params : SinkParams} (itemsize : params.itemsize = 1) {name : String}
    {content : Bytes} {sink : FileSink} (recording : Recording name content sink)
    (messages : List Message) :
    ∃ outs final, (runAll (compressedIn params) (messages.map Message.pdu)).run sink =
        .ok outs final ∧
      Recording name (content ++ encodeFrames (messages.map Message.record)) final := by
  induction messages generalizing sink content with
  | nil => exact ⟨[], sink, rfl, by simpa using recording⟩
  | cons message messages induction =>
      obtain ⟨after, ran, recorded⟩ := record_message_run itemsize recording message
      obtain ⟨outs, final, rest, recordedAll⟩ := induction recorded
      refine ⟨() :: outs, final, ?_, by simpa using recordedAll⟩
      rw [List.map_cons, run_all_cons_ok (compressedIn params) _ _ ran, rest]

end GrCompress.FileSinkBlock
