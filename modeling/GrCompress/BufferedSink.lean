import GrCompress.StdioStreams
import GrCompress.FileSinkBlock

/-!
# The file sink over buffered streams

`file_sink_base` and `CompressedFileSink_impl` again, now with the buffer that the
C library puts between `fwrite` and the file, so that `d_unbuffered`, `fflush` and
what `fclose` does show. All writes are accepted; the process may be killed in
any call on a stream.

The handler's `fwrite` leaves the stream holding what the file of the sink without
buffers has. What is in the file when the process is killed is a part of that.
-/

namespace GrCompress.BufferedSink

open GrCompress.CallRuns
open GrCompress.CheckedStorage
open GrCompress.OpenFiles
open GrCompress.StdioStreams (Behaviour Stream Device Holds Between Transferred killed)
open GrCompress.LengthFraming
open GrCompress.ZstdCodec
open GrCompress.RecordFormat
open GrCompress.FileSinkBlock (SinkParams SinkSetup count_ends_loop)

set_option autoImplicit false

structure FileSink where
  fp : Option (Stream UInt8)
  newFp : Option (Stream UInt8)
  updated : Bool
  append : Bool
  unbuffered : Bool
  device : Device UInt8

def onDevice {Out : Type} (call : EStateM Fault (Device UInt8) Out) : EStateM Fault FileSink Out :=
  within FileSink.device (fun device sink => { sink with device := device }) call

/-! ## file_sink_base -/

/-- `fclose`, if there is a stream. -/
def closing (stream : Option (Stream UInt8)) : EStateM Fault FileSink Unit :=
  match stream with
  | none => pure ()
  | some stream => onDevice (StdioStreams.fclose stream)

/-- A stream that `fdopen` makes of a descriptor just opened. -/
def opened (name : String) (append : Bool) : Stream UInt8 where
  file :=
    { descriptor := 0
      name := name
      position := 0
      append := append
      failed := false }
  buffered := []

def openFile (name : String) (opening : Opening) : EStateM Fault FileSink Bool := do
  match opening with
  | .openFails => return false
  | .fdopenFails =>
      modify fun sink => { sink with device := { sink.device with
        disk := sink.device.disk.opened name sink.append } }
      closing (← get).newFp
      modify fun sink => { sink with newFp := none, updated := true }
      return false
  | .succeeds =>
      modify fun sink => { sink with device := { sink.device with
        disk := sink.device.disk.opened name sink.append } }
      closing (← get).newFp
      modify fun sink => { sink with newFp := some (opened name sink.append), updated := true }
      return true

def close : EStateM Fault FileSink Unit := do
  closing (← get).newFp
  modify fun sink => { sink with newFp := none, updated := true }

def doUpdate : EStateM Fault FileSink Unit := do
  if (← get).updated then
    closing (← get).fp
    modify fun sink => { sink with fp := sink.newFp, newFp := none, updated := false }

def setUnbuffered (unbuffered : Bool) : EStateM Fault FileSink Unit :=
  modify fun sink => { sink with unbuffered := unbuffered }

/-- The members as `file_sink_base` initialises them. -/
def unopened (append : Bool) (device : Device UInt8) : FileSink where
  fp := none
  newFp := none
  updated := false
  append := append
  unbuffered := false
  device := device

def makeBase (name : String) (opening : Opening) : EStateM Fault FileSink Unit := do
  if !(← openFile name opening) then
    throw (.exception "can't open file")

def destroyBase : EStateM Fault FileSink Unit := do
  close
  closing (← get).fp
  modify fun sink => { sink with fp := none }

/-! ## CompressedFileSink_impl -/

def make (name : String) (unbuffered : Bool) (first second : Opening) :
    EStateM Fault FileSink Unit := do
  makeBase name first
  setUnbuffered unbuffered
  let _ ← openFile name second
  doUpdate

def stop : EStateM Fault FileSink Bool := do
  close
  return true

def destroy : EStateM Fault FileSink Unit := do
  let _ ← stop
  destroyBase

/-- `fwrite` of `count` items through the installed handle. -/
def fwrite (buffer : Buffer UInt8) (offset size count : Nat) : EStateM Fault FileSink Nat := do
  match (← get).fp with
  | none => throw .nullPointer
  | some stream =>
      let bytes ← load buffer offset (size * count)
      let stream ← onDevice (StdioStreams.fwrite stream bytes)
      modify fun sink => { sink with fp := some stream }
      return count

def fflush : EStateM Fault FileSink Unit := do
  match (← get).fp with
  | none => throw .nullPointer
  | some stream =>
      let stream ← onDevice (StdioStreams.fflush stream)
      modify fun sink => { sink with fp := some stream }

def writeLoop (params : SinkParams) (blob : Bytes) :
    Nat → Int → Int → EStateM Fault FileSink Unit
  | 0, _, _ => throw .outOfFuel
  | fuel + 1, nwritten, offset => do
      if toSize nwritten < blob.length then
        let items ← fwrite (some blob) offset.toNat params.itemsize (blob.length - toSize nwritten)
        let count := toInt items
        -- every item is accepted, so `ferror` is not set
        if count = 0 then return ()
        else writeLoop params blob fuel (nwritten + count) (offset + count * params.itemsize)
      else return ()

/-- The handler of the `compressedin` port. -/
def compressedIn (params : SinkParams) (pdu : Pdu) : EStateM Fault FileSink Unit := do
  match (← get).fp with
  | none => return ()
  | some _ =>
      if !pdu.hasHeader then
        let hdr := headerFor pdu.uncompressedSize pdu.compressedSize
        let _ ← fwrite (some hdr.bytes) 0 headerSize 1
      writeLoop params pdu.blob (pdu.blob.length + 1) 0 0
      if (← get).unbuffered then fflush

/-! ## What the handle holds -/

/-- The sink has a stream on the file `name` installed, which holds `content`. -/
structure Recording (name : String) (content : Bytes) (unbuffered : Bool) (sink : FileSink) :
    Prop where
  stream : ∃ stream, sink.fp = some stream ∧ stream.file.name = name ∧
    Holds content stream sink.device
  staged : sink.newFp = none
  unbuffered : sink.unbuffered = unbuffered

/-- What a call comes to that adds to the stream or writes it out: nothing that was
in the file is lost, and nothing gets there that the stream does not hold. -/
def Recorded {Out : Type} (name : String) (before content : Bytes) (unbuffered : Bool)
    (flushed : Prop) : EStateM.Result Fault FileSink Out → Prop
  | .ok _ after => Recording name content unbuffered after ∧
      Between before content name after.device ∧
      (flushed → after.device.disk.content name = content)
  | .error fault after => fault = killed ∧ Between before content name after.device

variable {name : String} {before content more : Bytes} {unbuffered : Bool} {flushed : Prop}
  {sink : FileSink} {params : SinkParams}

/-- Calls in sequence record one after the other. -/
theorem recorded_bind {Out Out' : Type} {call : EStateM Fault FileSink Out}
    {rest : Out → EStateM Fault FileSink Out'} (extends_content : content <+: more)
    (first : Recorded name before content unbuffered False (call.run sink))
    (second : ∀ out after, call.run sink = .ok out after →
      Recording name content unbuffered after →
        Recorded name (after.device.disk.content name) more unbuffered flushed
          ((rest out).run after)) :
    Recorded name before more unbuffered flushed ((call >>= rest).run sink) := by
  rw [EStateM.run_bind]
  cases ran : call.run sink with
  | error fault after =>
      rw [ran] at first
      rcases first with ⟨dies, between⟩
      exact ⟨dies, between.extends_before, between.within_content.trans extends_content⟩
  | ok out after =>
      rw [ran] at first
      rcases first with ⟨recording, between, _⟩
      have later := second out after ran recording
      show Recorded name before more unbuffered flushed ((rest out).run after)
      cases ran' : (rest out).run after with
      | error fault final =>
          rw [ran'] at later
          rcases later with ⟨dies, between'⟩
          exact ⟨dies, between.extends_before.trans between'.extends_before,
            between'.within_content⟩
      | ok out' final =>
          rw [ran'] at later
          rcases later with ⟨recording', between', done⟩
          exact ⟨recording', ⟨between.extends_before.trans between'.extends_before,
            between'.within_content⟩, done⟩

theorem recorded_nothing {Out : Type} (recording : Recording name content unbuffered sink)
    (out : Out) (nothing : ¬flushed) :
    Recorded name (sink.device.disk.content name) content unbuffered flushed
      (.ok out sink : EStateM.Result Fault FileSink Out) := by
  rcases recording.stream with ⟨stream, _, named, holds⟩
  have between := StdioStreams.holds_between holds
  rw [named] at between
  exact ⟨recording, between, fun done => absurd done nothing⟩

theorem fwrite_run (recording : Recording name content unbuffered sink) {buffer : Bytes}
    {offset size count : Nat} (inside : offset + size * count ≤ buffer.length) :
    Recorded name (sink.device.disk.content name)
        (content ++ (buffer.drop offset).take (size * count)) unbuffered False
        ((fwrite (some buffer) offset size count).run sink) ∧
      ∀ out after, (fwrite (some buffer) offset size count).run sink = .ok out after →
        out = count := by
  rcases recording.stream with ⟨stream, installed, named, holds⟩
  have wrote := StdioStreams.fwrite_run holds ((buffer.drop offset).take (size * count))
  rw [named] at wrote
  simp only [fwrite, EStateM.run_bind, EStateM.run_get, installed, load_some inside]
  cases ran : (StdioStreams.fwrite stream ((buffer.drop offset).take (size * count))).run
      sink.device with
  | error fault device =>
      rw [ran] at wrote
      have inSink : (onDevice (StdioStreams.fwrite stream
          ((buffer.drop offset).take (size * count)))).run sink =
            .error fault { sink with device := device } := within_error ran
      simp only [inSink]
      exact ⟨wrote, fun _ _ impossible => nomatch impossible⟩
  | ok after device =>
      rw [ran] at wrote
      rcases wrote with ⟨held, namedAfter, _, between⟩
      have inSink : (onDevice (StdioStreams.fwrite stream
          ((buffer.drop offset).take (size * count)))).run sink =
            .ok after { sink with device := device } := within_ok ran
      simp only [inSink, EStateM.run_modify, EStateM.run_pure]
      refine ⟨⟨⟨⟨after, rfl, namedAfter, held⟩, recording.staged, recording.unbuffered⟩, between,
        False.elim⟩, ?_⟩
      intro out final same
      rw [EStateM.Result.ok.injEq] at same
      exact same.1.symm

theorem fflush_run (recording : Recording name content unbuffered sink) :
    Recorded name (sink.device.disk.content name) content unbuffered True (fflush.run sink) := by
  rcases recording.stream with ⟨stream, installed, named, holds⟩
  have flushed := StdioStreams.fflush_run holds
  rw [named] at flushed
  simp only [fflush, EStateM.run_bind, EStateM.run_get, installed]
  cases ran : (StdioStreams.fflush stream).run sink.device with
  | error fault device =>
      rw [ran] at flushed
      have inSink : (onDevice (StdioStreams.fflush stream)).run sink =
          .error fault { sink with device := device } := within_error ran
      simp only [inSink]
      exact flushed
  | ok after device =>
      rw [ran] at flushed
      rcases flushed with ⟨held, namedAfter, empty, between⟩
      have inSink : (onDevice (StdioStreams.fflush stream)).run sink =
          .ok after { sink with device := device } := within_ok ran
      have complete := StdioStreams.content_of_flushed held (empty trivial)
      rw [namedAfter] at complete
      simp only [inSink, EStateM.run_modify]
      exact ⟨⟨⟨after, rfl, namedAfter, held⟩, recording.staged, recording.unbuffered⟩, between,
        fun _ => complete⟩

/-- With items of one byte the loop writes the whole blob in one call. -/
theorem write_loop_run (itemsize : params.itemsize = 1)
    (recording : Recording name content unbuffered sink) (blob : Bytes)
    (small : blob.length < 2 ^ 32) :
    Recorded name (sink.device.disk.content name) (content ++ blob) unbuffered False
      ((writeLoop params blob (blob.length + 1) 0 0).run sink) := by
  have zero : toSize 0 = 0 := to_size_natCast (by decide)
  by_cases empty : blob = []
  · subst empty
    simp only [writeLoop, zero, List.length_nil, Nat.lt_irrefl, if_false, EStateM.run_pure,
      List.append_nil]
    exact recorded_nothing recording () id
  · have positive : 0 < blob.length := List.length_pos_iff.2 empty
    have inside : 0 + 1 * blob.length ≤ blob.length := by omega
    obtain ⟨wrote, counted⟩ := fwrite_run recording inside
    rw [List.drop_zero, Nat.one_mul, List.take_length] at wrote
    obtain ⟨fuel, length⟩ : ∃ fuel, blob.length = fuel + 1 := ⟨blob.length - 1, by omega⟩
    obtain ⟨nonzero, ends⟩ := count_ends_loop positive small
    rw [writeLoop, zero, if_pos positive, Nat.sub_zero, Int.toNat_zero, itemsize]
    apply recorded_bind List.prefix_rfl wrote
    intro out after ran recordingAfter
    rw [counted out after ran, if_neg nonzero, length, writeLoop, ← length, if_neg ends,
      EStateM.run_pure]
    exact recorded_nothing recordingAfter () id

/-- The end of the handler: the blob, and what `d_unbuffered` asks for. -/
theorem write_blob_run (itemsize : params.itemsize = 1)
    (recording : Recording name content unbuffered sink) (blob : Bytes)
    (small : blob.length < 2 ^ 32) :
    Recorded name (sink.device.disk.content name) (content ++ blob) unbuffered (unbuffered = true)
      ((do
        writeLoop params blob (blob.length + 1) 0 0
        if (← get).unbuffered then fflush : EStateM Fault FileSink Unit).run sink) := by
  apply recorded_bind List.prefix_rfl (write_loop_run itemsize recording blob small)
  intro _ after _ recordingAfter
  simp only [EStateM.run_bind, EStateM.run_get, recordingAfter.unbuffered]
  cases unbuffered with
  | false => exact recorded_nothing recordingAfter () Bool.false_ne_true
  | true => simpa only [if_true] using fflush_run recordingAfter

/-- The handler records one message; with `d_unbuffered` its record is in the file
when it returns. -/
theorem message_run (itemsize : params.itemsize = 1)
    (recording : Recording name content unbuffered sink) (message : Message) :
    Recorded name (sink.device.disk.content name) (content ++ message.record.cells) unbuffered
      (unbuffered = true) ((compressedIn params message.pdu).run sink) := by
  rcases message with ⟨hasheader, size, payload, sizeFits, payloadFits⟩
  rcases recording.stream with ⟨stream, installed, _⟩
  have header : (headerFor size payload.length).bytes.length = headerSize := header_bytes_length _
  cases hasheader with
  | true =>
      have blob : (payloadPdu true size payload).blob =
          (headerFor size payload.length).bytes ++ payload := rfl
      have short : ((headerFor size payload.length).bytes ++ payload).length < 2 ^ 32 := by
        rw [List.length_append, header, headerSize]
        omega
      have wrote := write_blob_run itemsize recording _ short
      simp only [compressedIn, Message.pdu, EStateM.run_bind, EStateM.run_get, installed,
        payload_pdu_has_header, Bool.not_true, Bool.false_eq_true, if_false, blob] at wrote ⊢
      exact wrote
  | false =>
      have inside : 0 + headerSize * 1 ≤ (headerFor size payload.length).bytes.length := by omega
      obtain ⟨wrote, _⟩ := fwrite_run recording inside
      rw [List.drop_zero, Nat.mul_one, ← header, List.take_length] at wrote
      have whole : content ++ (headerFor size payload.length).bytes <+:
          content ++ (headerFor size payload.length).bytes ++ payload := List.prefix_append _ _
      have second : ∀ (out : Nat) (after : FileSink), (fwrite
          (some (headerFor size payload.length).bytes) 0
            (headerFor size payload.length).bytes.length 1).run sink = .ok out after →
          Recording name (content ++ (headerFor size payload.length).bytes) unbuffered after →
          Recorded name (after.device.disk.content name)
            (content ++ (headerFor size payload.length).bytes ++ payload) unbuffered
            (unbuffered = true) ((do
              writeLoop params payload (payload.length + 1) 0 0
              if (← get).unbuffered then fflush : EStateM Fault FileSink Unit).run after) :=
        fun _ _ _ recordingAfter => write_blob_run itemsize recordingAfter payload (by omega)
      have recorded := recorded_bind whole wrote second
      have blob : (payloadPdu false size payload).blob = payload := rfl
      rw [List.append_assoc] at recorded
      simp only [compressedIn, Message.pdu, EStateM.run_bind, EStateM.run_get, installed,
        payload_pdu_has_header, Bool.not_false, if_true, payload_pdu_uncompressed_size,
        payload_pdu_compressed_size, ← header, blob] at recorded ⊢
      exact recorded

/-! ## The life of a sink -/

/-- Closing a stream writes out all that it holds, unless the process is killed. -/
theorem closing_run {stream : Stream UInt8} (holds : Holds content stream sink.device) :
    match (closing (some stream)).run sink with
    | .ok _ after => (∃ device, after = { sink with device := device }) ∧
        after.device.disk.content stream.file.name = content
    | .error fault after => fault = killed ∧
        Between (sink.device.disk.content stream.file.name) content stream.file.name
          after.device := by
  have flushed := StdioStreams.fflush_run holds
  cases ran : (StdioStreams.fflush stream).run sink.device with
  | error fault device =>
      rw [ran] at flushed
      have closed : (StdioStreams.fclose stream).run sink.device = .error fault device := by
        simp only [StdioStreams.fclose, EStateM.run_bind, ran]
      have inSink : (closing (some stream)).run sink =
          .error fault { sink with device := device } := within_error closed
      rw [inSink]
      exact flushed
  | ok after device =>
      rw [ran] at flushed
      rcases flushed with ⟨held, named, empty, _⟩
      have closed : (StdioStreams.fclose stream).run sink.device = .ok () device := by
        simp only [StdioStreams.fclose, EStateM.run_bind, ran, EStateM.run_pure]
      have inSink : (closing (some stream)).run sink = .ok () { sink with device := device } :=
        within_ok closed
      have complete := StdioStreams.content_of_flushed held (empty trivial)
      rw [inSink]
      exact ⟨⟨device, rfl⟩, by rw [← named]; exact complete⟩

theorem opened_holds (setup : SinkSetup) {device : Device UInt8}
    (content : device.disk.content setup.name = setup.base) :
    Holds setup.base (opened setup.name setup.append) device where
  atEnd := by
    have name : (opened setup.name setup.append).file.name = setup.name := rfl
    rw [WriteFile.AtEnd, WriteFile.target, name, content]
    cases mode : setup.append <;> simp [opened, SinkSetup.base, mode]
  content := (List.append_nil _).trans content

/-- The constructor opens its file twice and closes the first stream. -/
theorem make_run (setup : SinkSetup) (behaviours : List Behaviour) :
    Recorded setup.name setup.base setup.base setup.unbuffered True
      ((make setup.name setup.unbuffered .succeeds .succeeds).run
        (unopened setup.append { disk := setup.disk, behaviours := behaviours })) := by
  have again : Disk.opened (setup.disk.opened setup.name setup.append) setup.name setup.append =
      setup.disk.opened setup.name setup.append := by
    cases mode : setup.append <;> simp [Disk.opened]
  let staged : FileSink :=
    { fp := none
      newFp := some (opened setup.name setup.append)
      updated := true
      append := setup.append
      unbuffered := setup.unbuffered
      device :=
        { disk := setup.disk.opened setup.name setup.append
          behaviours := behaviours } }
  have content : staged.device.disk.content setup.name = setup.base := by
    simp [staged, Disk.opened, SinkSetup.base]
  have closed := closing_run (opened_holds setup content)
  have made : (make setup.name setup.unbuffered .succeeds .succeeds).run
      (unopened setup.append { disk := setup.disk, behaviours := behaviours }) =
        ((closing (some (opened setup.name setup.append)) >>= fun _ => do
          modify fun sink => { sink with
            newFp := some (opened setup.name sink.append)
            updated := true }
          doUpdate : EStateM Fault FileSink Unit)).run staged := by
    simp only [make, makeBase, openFile, setUnbuffered, unopened, EStateM.run_bind,
      EStateM.run_modify, EStateM.run_get, closing, EStateM.run_pure, Bool.not_true,
      Bool.false_eq_true, if_false, again, staged]
    generalize (onDevice (StdioStreams.fclose (opened setup.name setup.append))).run _ = result
    cases result <;> rfl
  rw [made, EStateM.run_bind]
  cases ran : (closing (some (opened setup.name setup.append))).run staged with
  | error fault after =>
      rw [ran] at closed
      rcases closed with ⟨dies, between⟩
      have name : (opened setup.name setup.append).file.name = setup.name := rfl
      rw [name, content] at between
      exact ⟨dies, between⟩
  | ok _ after =>
      rw [ran] at closed
      rcases closed with ⟨⟨device, rfl⟩, complete⟩
      have name : (opened setup.name setup.append).file.name = setup.name := rfl
      rw [name] at complete
      have updated : (do
          modify fun sink => { sink with
            newFp := some (opened setup.name sink.append)
            updated := true }
          doUpdate : EStateM Fault FileSink Unit).run { staged with device := device } =
          .ok () { staged with
            fp := some (opened setup.name setup.append)
            newFp := none
            updated := false
            device := device } := rfl
      simp only [updated]
      exact ⟨⟨⟨_, rfl, name, opened_holds setup complete⟩, rfl, rfl⟩,
        ⟨complete.symm ▸ List.prefix_rfl, complete.symm ▸ List.prefix_rfl⟩, fun _ => complete⟩

/-- `close` closes what is staged, and nothing is: the handle stays as it is. -/
theorem close_run (recording : Recording name content unbuffered sink) :
    close.run sink = .ok () { sink with updated := true } := by
  have same : { sink with newFp := none, updated := true } = { sink with updated := true } := by
    rw [← recording.staged]
  simp only [close, closing, EStateM.run_bind, EStateM.run_get, recording.staged,
    EStateM.run_pure, EStateM.run_modify, same]

theorem stop_run (recording : Recording name content unbuffered sink) :
    stop.run sink = .ok true { sink with updated := true } := by
  simp only [stop, EStateM.run_bind, close_run recording, EStateM.run_pure]

theorem recording_updated (recording : Recording name content unbuffered sink) :
    Recording name content unbuffered { sink with updated := true } :=
  ⟨recording.stream, recording.staged, recording.unbuffered⟩

/-- The destructor writes out all that the handle holds. -/
theorem destroy_run (recording : Recording name content unbuffered sink) :
    match destroy.run sink with
    | .ok _ after => after.device.disk.content name = content
    | .error fault after => fault = killed ∧
        Between (sink.device.disk.content name) content name after.device := by
  rcases recording.stream with ⟨stream, installed, named, holds⟩
  let updated : FileSink := { sink with updated := true }
  have stopped : stop.run sink = .ok true updated := stop_run recording
  have closedAgain : close.run updated = .ok () updated :=
    close_run (recording_updated recording)
  have stillInstalled : updated.fp = some stream := installed
  have holds' : Holds content stream updated.device := holds
  have closed := closing_run holds'
  simp only [destroy, destroyBase, EStateM.run_bind, stopped, closedAgain, EStateM.run_get,
    stillInstalled]
  cases ran : (closing (some stream)).run updated with
  | error fault after =>
      rw [ran, named] at closed
      exact closed
  | ok _ after =>
      rw [ran, named] at closed
      exact closed.2

end GrCompress.BufferedSink
