import GrCompress.RepeatedPlayback

/-!
# Seeking and opening another file

Neither `seek` nor `open` touches the byte queue, so bytes decoded before are
delivered after. And the offset `seek` computes from a sample is an offset in the
compressed file, where `work` then expects a header.

Both are followed by calls that play on from some queue and some records ahead.
With repeat off those calls deliver whole items of what is coming, and can be made
to deliver all of them; that decides when a seek or a switch is clean.
-/

namespace GrCompress.SourceRepositioning

open GrCompress.CallRuns
open GrCompress.CheckedStorage
open GrCompress.OpenFiles
open GrCompress.LengthFraming
open GrCompress.ZstdCodec
open GrCompress.RecordFormat
open GrCompress.FileSourceBlock
open GrCompress.FilePlayback
open GrCompress.RepeatedPlayback
open GrCompress.StoredFrameCodec

set_option autoImplicit false

variable (zstd : Zstd) (params : SourceParams)

/-! ## Playing on from any point -/

/-- The bytes without those of an incomplete last item. -/
def wholeItems (bytes : Bytes) : Bytes :=
  bytes.take (bytes.length / params.itemsize * params.itemsize)

/-- What was coming at the start has been delivered, in whole items, or is still coming. -/
structure PlaysOn (start : Bytes) (outputs : List StreamOutput) (playback : Playback) : Prop where
  conserved : delivered outputs ++ Playback.coming zstd playback = start
  items : params.itemsize ∣ (delivered outputs).length

section PlayingOn

variable {zstd params}

theorem whole_items_initial (bytes : Bytes) : wholeItems params bytes <+: bytes :=
  List.take_prefix _ _

theorem whole_items_length (bytes : Bytes) :
    (wholeItems params bytes).length = bytes.length / params.itemsize * params.itemsize :=
  List.length_take_of_le (Nat.div_mul_le_self _ _)

theorem initial_whole_items {items bytes : Bytes} (initial : items <+: bytes)
    (whole : params.itemsize ∣ items.length) : items <+: wholeItems params bytes := by
  apply List.prefix_of_prefix_length_le initial (whole_items_initial bytes)
  rcases whole with ⟨count, length⟩
  have fewer := initial.length_le
  rw [length, Nat.mul_comm] at fewer
  rw [whole_items_length, length, Nat.mul_comm]
  exact Nat.mul_le_mul_right _ ((Nat.le_div_iff_mul_le params.itemsize_pos).2 fewer)

theorem plays_on_step {content start : Bytes} {outputs : List StreamOutput} {noutputItems : Nat}
    {before after : Playback} {output : StreamOutput}
    (playsOn : PlaysOn zstd params start outputs before)
    (step : Playback.Step zstd (records content) false noutputItems
      (noutputItems * params.itemsize) before output after) :
    PlaysOn zstd params start (outputs ++ [output]) after := by
  refine ⟨conserved_step zstd playsOn.conserved step, ?_⟩
  cases step with
  | served queue decoded ahead enough =>
      rw [delivered_snoc, List.length_append, List.length_take_of_le enough]
      exact Nat.dvd_add playsOn.items (Nat.dvd_mul_left _ _)
  | ended queue ahead _ short => simpa using playsOn.items
  | rewound queue ahead again _ => simp at again

/-- With repeat off, later calls deliver whole items of what is coming and nothing else. -/
theorem plays_on (bounded : zstd.DecompressBounded) {content : Bytes} {block : FileSource}
    {playback : Playback} (plays : Plays content false block playback) (following : List Nat) :
    ∃ answers final, (runAll (work zstd params) following).run block = .ok answers final ∧
      delivered answers <+: wholeItems params (Playback.coming zstd playback) := by
  obtain ⟨answers, final, last, ran, _, playsOn⟩ := work_all_run zstd params bounded plays
    (fun _ => True)
    (fun _ outputs after => PlaysOn zstd params (Playback.coming zstd playback) outputs after)
    ⟨rfl, Nat.dvd_zero _⟩ (fun _ _ _ _ _ _ _ playsOn step => plays_on_step playsOn step) following
    (fun _ _ => trivial)
  exact ⟨answers, final, ran, initial_whole_items ⟨_, playsOn.conserved⟩ playsOn.items⟩

/-- A call that asks for all whole items gets them. -/
theorem plays_out (bounded : zstd.DecompressBounded) {content : Bytes} {block : FileSource}
    {playback : Playback} (plays : Plays content false block playback) :
    ∃ answers final, (runAll (work zstd params)
        [(Playback.coming zstd playback).length / params.itemsize]).run block =
          .ok answers final ∧
      delivered answers = wholeItems params (Playback.coming zstd playback) := by
  obtain ⟨output, after, next, ran, step, _⟩ := work_run zstd params bounded
    ((Playback.coming zstd playback).length / params.itemsize) plays
  refine ⟨[output], after, run_all_single_ok (work zstd params) _ ran, ?_⟩
  have available := Nat.div_mul_le_self (Playback.coming zstd playback).length params.itemsize
  have single : delivered [output] = output.items := by simp [delivered]
  rw [single, wholeItems]
  generalize (Playback.coming zstd playback).length / params.itemsize = count at *
  cases step with
  | served queue decoded ahead enough =>
      simp only [Playback.coming, records_bytes_append, ← List.append_assoc]
      rw [List.take_append_of_le_length enough]
  | ended queue ahead _ short =>
      simp only [Playback.coming] at available
      omega
  | rewound queue ahead again _ => simp at again

end PlayingOn

/-! ## Seeking -/

/-- The byte of the compressed file that a sample's offset is taken for, as a `size_t`. -/
def soughtByte (seekPoint : Nat) : Nat := seekPoint * params.itemsize % 2 ^ 64

/-- If `seek(seekPoint, SEEK_SET)` returns true, what later calls deliver is the
content from the sample on. -/
def SeeksToSample (content : Bytes) (block : FileSource) (seekPoint : Nat) : Prop :=
  ∀ moved, (seek params seekPoint .seekSet).run block = .ok true moved →
    ∀ following answers final,
      (runAll (work zstd params) following).run moved = .ok answers final →
        delivered answers <+: (decodedContent zstd content).drop (seekPoint * params.itemsize)

/-- The queued bytes and what the compressed file decodes to from the byte sought
agree with the content from the sample on, as far as they make whole items. A
source that repeats never stops delivering, so its file must decode to nothing. -/
def AgreesAtSample (content : Bytes) (repeats : Bool) (queue : Bytes) (seekPoint : Nat) : Prop :=
  soughtByte params seekPoint < 2 ^ 63 →
    if repeats then decodedContent zstd content = []
    else
      wholeItems params
          (queue ++ decodedContent zstd (content.drop (soughtByte params seekPoint))) <+:
        (decodedContent zstd content).drop (seekPoint * params.itemsize)

section Seeking

variable {zstd params}

theorem to_size_product (seekPoint : Nat) :
    toSize (toSize seekPoint * params.itemsize) = soughtByte params seekPoint := by
  have point : toSize (seekPoint : Int) = seekPoint % 2 ^ 64 := by
    simp only [toSize]
    omega
  rw [point, ← Int.natCast_mul, soughtByte, ← Nat.mod_mul_mod seekPoint]
  simp only [toSize]
  omega

variable {content : Bytes} {repeats : Bool} {block : FileSource} {playback : Playback}

/-- A seek moves the position in the compressed file and keeps the queue. -/
theorem seek_run (plays : Plays content repeats block playback) {seekPoint : Nat}
    (inRange : soughtByte params seekPoint < 2 ^ 63) :
    ∃ moved, (seek params seekPoint .seekSet).run block = .ok true moved ∧
      Plays content repeats moved
        { queue := playback.queue
          ahead := records (content.drop (soughtByte params seekPoint)) } := by
  rcases plays with ⟨rest, positioned, _⟩
  rcases positioned.file with ⟨fp, opened, same, _⟩
  have sought : fp.seek (toLong (soughtByte params seekPoint)) .seekSet =
      some { fp with position := soughtByte params seekPoint } := by
    rw [to_long_small inRange]
    simp only [ReadFile.seek, Int.zero_add, Int.toNat_natCast]
    exact if_pos ⟨by omega, by omega⟩
  refine ⟨{ block with fp := some { fp with position := soughtByte params seekPoint } }, ?_,
    content.drop (soughtByte params seekPoint),
    ⟨⟨_, rfl, same, by rw [ReadFile.remaining, same]⟩, positioned.installed, positioned.queue,
      positioned.repeats, positioned.localWriteBuffer, positioned.headerRoom,
      positioned.compressedBuffer⟩, rfl⟩
  simp only [seek, EStateM.run_bind, EStateM.run_get, opened, to_size_product, sought,
    EStateM.run_set, EStateM.run_pure]

theorem seek_refused (plays : Plays content repeats block playback) {seekPoint : Nat}
    (outOfRange : ¬soughtByte params seekPoint < 2 ^ 63) :
    (seek params seekPoint .seekSet).run block = .ok false block := by
  rcases plays with ⟨rest, positioned, _⟩
  rcases positioned.file with ⟨fp, opened, _, _⟩
  have sought : fp.seek (toLong (soughtByte params seekPoint)) .seekSet = none := by
    have below : soughtByte params seekPoint < 2 ^ 64 := Nat.mod_lt _ (by omega)
    have negative : toLong (soughtByte params seekPoint) < 0 := by
      rw [toLong, if_neg outOfRange]
      omega
    simp only [ReadFile.seek, Int.zero_add]
    exact if_neg (fun inside => by omega)
  simp only [seek, EStateM.run_bind, EStateM.run_get, opened, to_size_product, sought,
    EStateM.run_pure]

/-- What a successful seek says about the state it leaves. -/
theorem seek_succeeded (plays : Plays content repeats block playback) {seekPoint : Nat}
    {moved : FileSource} (sought : (seek params seekPoint .seekSet).run block = .ok true moved) :
    soughtByte params seekPoint < 2 ^ 63 ∧
      Plays content repeats moved
        { queue := playback.queue
          ahead := records (content.drop (soughtByte params seekPoint)) } := by
  by_cases inRange : soughtByte params seekPoint < 2 ^ 63
  · obtain ⟨landed, ran, landedPlays⟩ := seek_run plays inRange
    obtain ⟨_, rfl⟩ := ok_unique sought ran
    exact ⟨inRange, landedPlays⟩
  · obtain ⟨refused, _⟩ := ok_unique sought (seek_refused plays inRange)
    simp at refused

theorem seeks_to_sample_once_iff (bounded : zstd.DecompressBounded)
    (plays : Plays content false block playback) (seekPoint : Nat) :
    SeeksToSample zstd params content block seekPoint ↔
      AgreesAtSample zstd params content false playback.queue seekPoint := by
  constructor
  · intro seeks inRange
    obtain ⟨moved, sought, movedPlays⟩ := seek_run plays inRange
    obtain ⟨answers, final, ran, all⟩ := plays_out bounded movedPlays
    have delivers := seeks moved sought _ answers final ran
    rwa [all] at delivers
  · intro agrees moved sought following answers final ran
    obtain ⟨inRange, movedPlays⟩ := seek_succeeded plays sought
    obtain ⟨answers', final', ran', initial⟩ := plays_on bounded movedPlays following
    obtain ⟨rfl, rfl⟩ := ok_unique ran ran'
    exact initial.trans (agrees inRange)

/-- A source of a file that decodes to nothing has nothing to deliver. -/
theorem decodes_nothing {outputs : List StreamOutput} (empty : decodedContent zstd content = [])
    (decodes : Decodes zstd content repeats outputs playback) :
    delivered outputs = [] ∧ playback.queue = [] := by
  rcases decodes with ⟨passes, decoded, file, _, bytes⟩
  have none_decoded : recordsBytes zstd decoded = [] := by
    rw [decodedContent, file, records_bytes_append] at empty
    exact (List.append_eq_nil_iff.1 empty).1
  rw [empty, none_decoded] at bytes
  simpa using bytes

theorem seeks_to_sample_again_iff (bounded : zstd.DecompressBounded)
    {outputs : List StreamOutput} (plays : Plays content true block playback)
    (decodes : Decodes zstd content true outputs playback) {seekPoint : Nat}
    (inside : seekPoint * params.itemsize ≤ (decodedContent zstd content).length) :
    SeeksToSample zstd params content block seekPoint ↔
      AgreesAtSample zstd params content true playback.queue seekPoint := by
  have positive := params.itemsize_pos
  constructor
  · intro seeks inRange
    rw [if_pos rfl]
    by_contra nonempty
    -- asked for more than the whole content, a repeating source delivers it in the end
    obtain ⟨moved, sought, movedPlays⟩ := seek_run plays inRange
    obtain ⟨zeros, items, final, _, length, ran⟩ := serves_within_ceiling bounded nonempty
      ((decodedContent zstd content).length + 1) movedPlays
    have delivers := (seeks moved sought _ _ final ran).length_le
    have all : delivered (List.replicate zeros { returned := 0, items := [] } ++
        [{ returned := ((decodedContent zstd content).length + 1 : Nat), items := items }]) =
          items := by
      simp [delivered]
    rw [all, length, List.length_drop] at delivers
    have product := Nat.le_mul_of_pos_right ((decodedContent zstd content).length + 1) positive
    omega
  · intro agrees moved sought following answers final ran
    obtain ⟨inRange, movedPlays⟩ := seek_succeeded plays sought
    have empty : decodedContent zstd content = [] := agrees inRange
    have start : seekPoint * params.itemsize = 0 := by
      rw [empty] at inside
      exact Nat.le_zero.1 inside
    rw [(decodes_nothing empty decodes).2, soughtByte, start] at movedPlays
    obtain ⟨answers', final', _, ran', _, decoded⟩ := work_all_run zstd params bounded movedPlays
      (fun _ => True) (fun _ outputs after => Decodes zstd content true outputs after)
      (decodes_start zstd content true)
      (fun _ _ _ _ _ _ _ decodes step => decodes_step zstd decodes step) following
      (fun _ _ => trivial)
    obtain ⟨rfl, rfl⟩ := ok_unique ran ran'
    rw [(decodes_nothing empty decoded).1]
    exact List.nil_prefix

end Seeking

/-- In every state a source reaches, a seek positions it by sample exactly when
what the compressed file decodes to at that byte, behind what is still queued,
happens to be the content at that sample. -/
theorem seeks_to_sample_iff (bounded : zstd.DecompressBounded) (content : Bytes) (repeats : Bool)
    (requests : List Nat) (seekPoint : Nat)
    (inside : seekPoint * params.itemsize ≤ (decodedContent zstd content).length) :
    ∃ outputs block, play zstd params content repeats requests = .ok outputs block ∧
      (SeeksToSample zstd params content block seekPoint ↔
        AgreesAtSample zstd params content repeats block.byteQueue seekPoint) := by
  obtain ⟨outputs, block, playback, ran, plays, decodes⟩ :=
    decodes_run zstd params bounded content repeats requests
  refine ⟨outputs, block, ran, ?_⟩
  rw [plays_queue plays]
  cases repeats with
  | false => exact seeks_to_sample_once_iff bounded plays seekPoint
  | true => exact seeks_to_sample_again_iff bounded plays decodes inside

/-- A record of 18 bytes that decodes to one byte, and one that decodes to forty. -/
def twoRecordFile : Bytes :=
  encodeFrames [payloadRecord 1 (store [0x61]) (by decide),
    payloadRecord 40 (store (List.replicate 40 0x62)) (by decide)]

theorem two_record_file_content :
    decodedContent storedZstd twoRecordFile = 0x61 :: List.replicate 40 0x62 := by
  have second : decodedContent storedZstd (encodeFrames
      [payloadRecord 40 (store (List.replicate 40 0x62)) (by decide)]) = List.replicate 40 0x62 :=
    stored_record_content (List.replicate 40 0x62) (by decide) (by decide) []
  rw [← second]
  exact stored_record_content [0x61] (by decide) (by decide) _

/-- The second record begins at byte 18. -/
theorem two_record_file_second :
    decodedContent storedZstd (twoRecordFile.drop 18) = List.replicate 40 0x62 := by
  have second : twoRecordFile.drop 18 =
      encodeFrames [payloadRecord 40 (store (List.replicate 40 0x62)) (by decide)] := by
    rw [twoRecordFile, encode_frames_cons]
    exact List.drop_left' rfl
  rw [second]
  exact stored_record_content (List.replicate 40 0x62) (by decide) (by decide) []

theorem two_record_file_complete : tail recordFraming twoRecordFile = [] := by
  have complete := tail_encode_frames [payloadRecord 1 (store [0x61]) (by decide),
    payloadRecord 40 (store (List.replicate 40 0x62)) (by decide)] []
  rwa [List.append_nil, tail_nil] at complete

/-- From item 18 there are 23 items left, and 40 are delivered. -/
theorem seek_lands_on_second_record :
    tail recordFraming twoRecordFile = [] ∧
      (decodedContent storedZstd twoRecordFile).length = 41 ∧
      ∃ outputs block,
        play storedZstd { itemsize := 1, itemsize_pos := Nat.one_pos } twoRecordFile false [] =
          .ok outputs block ∧
        ¬SeeksToSample storedZstd { itemsize := 1, itemsize_pos := Nat.one_pos } twoRecordFile
          block 18 := by
  refine ⟨two_record_file_complete, by rw [two_record_file_content]; rfl, ?_⟩
  obtain ⟨block, constructed, plays⟩ := make_run twoRecordFile false
  refine ⟨[], block, play_made _ _ constructed (run_all_nil _ _), ?_⟩
  rw [seeks_to_sample_once_iff stored_decompress_bounded plays]
  intro agrees
  have landed := (agrees (by decide)).length_le
  have byte : soughtByte { itemsize := 1, itemsize_pos := Nat.one_pos } 18 = 18 := by decide
  rw [whole_items_length, List.nil_append, byte, two_record_file_second,
    two_record_file_content] at landed
  simp at landed

theorem seeks_to_sample_iff_third_item :
    ∃ outputs block,
      play storedZstd { itemsize := 1, itemsize_pos := Nat.one_pos } threeByteFile false [1] =
        .ok outputs block ∧
      (SeeksToSample storedZstd { itemsize := 1, itemsize_pos := Nat.one_pos } threeByteFile
          block 2 ↔
        AgreesAtSample storedZstd { itemsize := 1, itemsize_pos := Nat.one_pos } threeByteFile false
          block.byteQueue 2) := by
  have inside : 2 * 1 ≤ (decodedContent storedZstd threeByteFile).length := by
    rw [three_byte_file_content]
    decide
  exact seeks_to_sample_iff storedZstd { itemsize := 1, itemsize_pos := Nat.one_pos }
    stored_decompress_bounded threeByteFile false [1] 2 inside

/-! ## Opening another file -/

/-- Once the file with this content has been opened, with repeat off, calls deliver
an initial segment of it and none of the bytes queued before. Those would come
first; they were decoded from the old file. -/
def SwitchesCleanly (content : Bytes) (block : FileSource) : Prop :=
  ∀ opened, (openFile content .succeeds false).run block = .ok () opened →
    ∀ following answers final,
      (runAll (work zstd params) following).run opened = .ok answers final →
        delivered answers <+: decodedContent zstd content ∧
          block.byteQueue.take (delivered answers).length = []

section Opening

variable {zstd params} {content other : Bytes} {repeats : Bool} {block : FileSource}
  {playback : Playback}

/-- `open` stages the file, and the first part of the next `work` installs it. The queue stays. -/
theorem open_installs (plays : Plays content repeats block playback) (other : Bytes) :
    ∃ opened installed, (openFile other .succeeds false).run block = .ok () opened ∧
      doUpdate.run opened = .ok () installed ∧ doUpdate.run installed = .ok () installed ∧
      Plays other false installed { queue := playback.queue, ahead := records other } := by
  rcases plays with ⟨rest, positioned, _⟩
  refine ⟨_, _, rfl, rfl, ?_, other, ⟨⟨_, rfl, rfl, rfl⟩, rfl, positioned.queue, rfl,
    positioned.localWriteBuffer, positioned.headerRoom, positioned.compressedBuffer⟩, rfl⟩
  exact do_update_run rfl

theorem run_installed {opened installed : FileSource} {following : List Nat}
    (install : doUpdate.run opened = .ok () installed)
    (again : doUpdate.run installed = .ok () installed) (calls : following ≠ []) :
    (runAll (work zstd params) following).run opened =
      (runAll (work zstd params) following).run installed := by
  cases following with
  | nil => exact absurd rfl calls
  | cons request following =>
      have first : (work zstd params request).run opened =
          (work zstd params request).run installed := by
        simp only [work, EStateM.run_bind, install, again]
      simp only [runAll, EStateM.run_bind, first]

theorem switches_cleanly_plays_iff (bounded : zstd.DecompressBounded)
    (plays : Plays content repeats block playback) (other : Bytes) :
    SwitchesCleanly zstd params other block ↔
      playback.queue = [] ∨
        playback.queue.length + (decodedContent zstd other).length < params.itemsize := by
  obtain ⟨opened, installed, staged, install, again, installedPlays⟩ := open_installs plays other
  have queue := plays_queue plays
  have coming : Playback.coming zstd { queue := playback.queue, ahead := records other } =
      playback.queue ++ decodedContent zstd other := rfl
  constructor
  · intro clean
    obtain ⟨answers, final, ran, all⟩ := plays_out bounded installedPlays
    rw [← run_installed install again (List.cons_ne_nil _ _)] at ran
    have none_old := (clean opened staged _ answers final ran).2
    rw [all, coming, whole_items_length, List.length_append, queue,
      List.take_eq_nil_iff] at none_old
    rcases none_old with none_whole | none_queued
    · right
      rcases Nat.mul_eq_zero.1 none_whole with fewer | zero
      · exact (Nat.div_eq_zero_iff_lt params.itemsize_pos).1 fewer
      · exact absurd zero (Nat.ne_of_gt params.itemsize_pos)
    · exact .inl none_queued
  · intro condition opened' staged' following answers final ran
    obtain ⟨_, rfl⟩ := ok_unique staged staged'
    rw [queue]
    by_cases calls : following = []
    · subst calls
      rw [run_all_nil, EStateM.Result.ok.injEq] at ran
      rw [← ran.1]
      exact ⟨List.nil_prefix, List.take_zero⟩
    · rw [run_installed install again calls] at ran
      obtain ⟨answers', final', ran', initial⟩ := plays_on bounded installedPlays following
      obtain ⟨rfl, rfl⟩ := ok_unique ran ran'
      rw [coming] at initial
      rcases condition with none_queued | fewer
      · rw [none_queued, List.nil_append] at initial
        rw [none_queued]
        exact ⟨initial.trans (whole_items_initial _), List.take_nil⟩
      · have none_whole : wholeItems params (playback.queue ++ decodedContent zstd other) = [] := by
          rw [wholeItems, List.length_append, Nat.div_eq_of_lt fewer, Nat.zero_mul, List.take_zero]
        rw [none_whole] at initial
        rw [List.prefix_nil.1 initial]
        exact ⟨List.nil_prefix, List.take_zero⟩

end Opening

/-- In every state a source reaches on a first file, switching to a second one is
clean exactly when nothing is queued or the two together are less than one item. -/
theorem switches_cleanly_iff (bounded : zstd.DecompressBounded) (first second : Bytes)
    (repeats : Bool) (requests : List Nat) :
    ∃ outputs block, play zstd params first repeats requests = .ok outputs block ∧
      (SwitchesCleanly zstd params second block ↔
        block.byteQueue = [] ∨
          block.byteQueue.length + (decodedContent zstd second).length < params.itemsize) := by
  obtain ⟨outputs, block, playback, ran, plays, _⟩ :=
    decodes_run zstd params bounded first repeats requests
  refine ⟨outputs, block, ran, ?_⟩
  rw [plays_queue plays]
  exact switches_cleanly_plays_iff bounded plays second

theorem three_byte_file_record : ∃ record, records threeByteFile = [record] := by
  have framed := frames_encode_frames
    [payloadRecord 3 (store [0x61, 0x62, 0x63]) (by decide)] []
  rw [List.append_nil, frames_nil, List.append_nil] at framed
  exact ⟨_, framed⟩

/-- Two items of three leave the third in the queue. -/
theorem three_byte_file_leaves_third :
    ∃ outputs block playback,
      play storedZstd { itemsize := 1, itemsize_pos := Nat.one_pos } threeByteFile false [2] =
        .ok outputs block ∧
      Plays threeByteFile false block playback ∧ playback.queue = [0x63] := by
  obtain ⟨made, constructed, plays⟩ := make_run threeByteFile false
  obtain ⟨output, block, playback, ran, step, played⟩ := work_run storedZstd
    { itemsize := 1, itemsize_pos := Nat.one_pos } stored_decompress_bounded 2 plays
  refine ⟨[output], block, playback,
    play_made _ _ constructed (run_all_single_ok _ 2 ran), played, ?_⟩
  have content : recordsBytes storedZstd (records threeByteFile) = [0x61, 0x62, 0x63] :=
    three_byte_file_content
  obtain ⟨record, single⟩ := three_byte_file_record
  generalize start : ({ queue := [], ahead := records threeByteFile } : Playback) = before at step
  cases step with
  | served queue decoded ahead enough =>
      rw [Playback.mk.injEq] at start
      rcases start with ⟨rfl, split⟩
      rw [single] at split
      cases decoded with
      | nil => simp at enough
      | cons first others =>
          rw [List.cons_append, List.cons.injEq] at split
          rcases split with ⟨rfl, rest⟩
          rw [(List.append_eq_nil_iff.1 rest.symm).1, List.nil_append, ← single, content]
          rfl
  | ended queue ahead _ short =>
      rw [Playback.mk.injEq] at start
      rcases start with ⟨rfl, rfl⟩
      rw [List.nil_append, content] at short
      simp at short
  | rewound queue ahead again _ => simp at again

/-- The item left of the first file is delivered before those of the second. -/
theorem third_item_outlives_switch :
    tail recordFraming threeByteFile = [] ∧ tail recordFraming twoRecordFile = [] ∧
      ∃ outputs block,
        play storedZstd { itemsize := 1, itemsize_pos := Nat.one_pos } threeByteFile false [2] =
          .ok outputs block ∧
        ¬SwitchesCleanly storedZstd { itemsize := 1, itemsize_pos := Nat.one_pos } twoRecordFile
          block := by
  obtain ⟨outputs, block, playback, ran, plays, queue⟩ := three_byte_file_leaves_third
  refine ⟨three_byte_file_complete, two_record_file_complete, outputs, block, ran, ?_⟩
  rw [switches_cleanly_plays_iff stored_decompress_bounded plays, queue]
  simp

theorem switches_cleanly_iff_whole_file :
    ∃ outputs block,
      play storedZstd { itemsize := 1, itemsize_pos := Nat.one_pos } threeByteFile false [2, 1] =
        .ok outputs block ∧
      (SwitchesCleanly storedZstd { itemsize := 1, itemsize_pos := Nat.one_pos } twoRecordFile
          block ↔
        block.byteQueue = [] ∨
          block.byteQueue.length + (decodedContent storedZstd twoRecordFile).length < 1) :=
  switches_cleanly_iff storedZstd { itemsize := 1, itemsize_pos := Nat.one_pos }
    stored_decompress_bounded threeByteFile twoRecordFile false [2, 1]

end GrCompress.SourceRepositioning
