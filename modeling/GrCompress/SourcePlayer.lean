import GrCompress.FilePlayback
import GrCompress.HandleOwnership

/-!
# The file source as a player

What a source answers to calls in any order, the failing ones among them, is
what a player of tapes answers. A player has no buffers, no handles and no
headers: it knows the bytes queued, the tape it plays and where, and the tape
that the next call of `work` will put in its place.

A player reads as few records as a request takes.
-/

namespace GrCompress.SourcePlayer

open GrCompress.CallRuns
open GrCompress.CheckedStorage
open GrCompress.OpenFiles
open GrCompress.LengthFraming
open GrCompress.ZstdCodec
open GrCompress.RecordFormat
open GrCompress.FileSourceBlock
open GrCompress.FilePlayback (threeByteFile)
open GrCompress.StoredFrameCodec
open GrCompress.HandleOwnership (SourceOperation fread_keeps load_keeps decompress_keeps)

set_option autoImplicit false

/-! ## Players -/

/-- A file by its content, and the place at which it is read next. -/
structure Tape where
  content : Bytes
  position : Nat
  deriving DecidableEq, Repr

namespace Tape

def left (tape : Tape) : Bytes := tape.content.drop tape.position

def wind (tape : Tape) (count : Nat) : Tape := { tape with position := tape.position + count }

/-- At the end; a place beyond the end stays. -/
def exhaust (tape : Tape) : Tape :=
  { tape with position := max tape.position tape.content.length }

def rewind (tape : Tape) : Tape := { tape with position := 0 }

/-- No place lies before the start, and none at `2 ^ 63` or behind it. -/
def moveTo (tape : Tape) (place : Int) : Option Tape :=
  if 0 ≤ place ∧ place < 2 ^ 63 then some { tape with position := place.toNat } else none

def origin (tape : Tape) : Whence → Int
  | .seekSet => 0
  | .seekCur => tape.position
  | .seekEnd => tape.content.length

end Tape

/-- `staged` is what the next call of `work` puts in place of the tape; there may
be nothing to put there. A player that has been stopped cannot read. -/
structure Player where
  queue : Bytes
  tape : Option Tape
  staged : Option (Option Tape)
  repeats : Bool
  running : Bool
  deriving DecidableEq, Repr

inductive Answer where
  | done
  | sought (moved : Bool)
  | served (output : StreamOutput)
  deriving DecidableEq

/-- The bytes a call delivered; one that failed has delivered none. -/
def Answer.items : Except Fault Answer → Bytes
  | .ok (.served output) => output.items
  | _ => []

variable (zstd : Zstd) (params : SourceParams)

/-- As few of the records as bring the queue to `wanted` bytes, or all of them. -/
def needed (wanted : Nat) : Bytes → List Record → List Record
  | _, [] => []
  | queue, record :: later =>
      if queue.length < wanted then
        record :: needed wanted (queue ++ recordBytes zstd record) later
      else []

namespace Player

/-- A player with this tape at its start. -/
def loaded (content : Bytes) (repeats : Bool) : Player where
  queue := []
  tape := some { content := content, position := 0 }
  staged := none
  repeats := repeats
  running := true

def install (player : Player) : Player :=
  match player.staged with
  | none => player
  | some tape => { player with tape := tape, staged := none }

/-- Nothing is staged any more, but if something was, nothing will take its place. -/
def unstage (player : Player) : Player :=
  { player with staged := player.staged.map fun _ => none }

def openFile (content : Bytes) (opening : Opening) (repeats : Bool) :
    EStateM Fault Player Unit := do
  match opening with
  | .openFails => throw (.exception "can't open file")
  | .fdopenFails =>
      modify unstage
      throw (.exception "can't open file")
  | .succeeds =>
      modify fun player =>
        { player with
          staged := some (some { content := content, position := 0 })
          repeats := repeats }

def close : EStateM Fault Player Unit := modify fun player => { player with staged := some none }

def stop : EStateM Fault Player Bool := do
  modify fun player => { player.unstage with tape := none, running := false }
  return true

def seek (seekPoint : Int) (whence : Whence) : EStateM Fault Player Bool := do
  let player ← get
  match player.tape with
  | none => throw .nullPointer
  | some tape =>
      match tape.moveTo (tape.origin whence +
          toLong (toSize (toSize seekPoint * params.itemsize))) with
      | none => return false
      | some tape =>
          set { player with tape := some tape }
          return true

/-- The records a request takes from the tape. -/
def reads (player : Player) (tape : Tape) (wanted : Nat) : List Record :=
  needed zstd wanted player.queue (records tape.left)

/-- The queue when these records have been decoded into it. -/
def filled (player : Player) (decoded : List Record) : Bytes :=
  player.queue ++ recordsBytes zstd decoded

def playOn (noutputItems : Nat) : EStateM Fault Player StreamOutput := do
  let wanted := noutputItems * params.itemsize
  let player ← get
  match player.tape with
  | none => throw (.exception "work with file not open")
  | some tape =>
      if player.queue.length < wanted ∧ player.running = false then
        throw .nullPointer
      else
        let decoded := player.reads zstd tape wanted
        let queue := player.filled zstd decoded
        if wanted ≤ queue.length then
          set { player with
            queue := queue.drop wanted
            tape := some (tape.wind (encodeFrames decoded).length) }
          return { returned := noutputItems, items := queue.take wanted }
        else if player.repeats then
          set { player with queue := queue, tape := some tape.rewind }
          return { returned := 0, items := [] }
        else
          set { player with queue := queue, tape := some tape.exhaust }
          return { returned := workDone, items := [] }

def work (noutputItems : Nat) : EStateM Fault Player StreamOutput := do
  modify install
  playOn zstd params noutputItems

def call : SourceOperation → EStateM Fault Player Answer
  | .openFile content opening repeats => do
      openFile content opening repeats
      return .done
  | .close => do
      close
      return .done
  | .doUpdate => do
      modify install
      return .done
  | .stop => do
      let _ ← stop
      return .done
  | .seek seekPoint whence => do
      let moved ← seek params seekPoint whence
      return .sought moved
  | .setBeginTag _ => return .done
  | .work noutputItems => do
      let output ← work zstd params noutputItems
      return .served output

end Player

/-- The calls of the source, with what they return. -/
def sourceCall : SourceOperation → EStateM Fault FileSource Answer
  | .openFile content opening repeats => do
      FileSourceBlock.openFile content opening repeats
      return .done
  | .close => do
      FileSourceBlock.close
      return .done
  | .doUpdate => do
      FileSourceBlock.doUpdate
      return .done
  | .stop => do
      let _ ← FileSourceBlock.stop
      return .done
  | .seek seekPoint whence => do
      let moved ← FileSourceBlock.seek params seekPoint whence
      return .sought moved
  | .setBeginTag present => do
      FileSourceBlock.setBeginTag present
      return .done
  | .work noutputItems => do
      let output ← FileSourceBlock.work zstd params noutputItems
      return .served output

def tapeOf (file : ReadFile UInt8) : Tape where
  content := file.content
  position := file.position

/-- The player that a source is seen as. -/
def playerOf (block : FileSource) : Player where
  queue := block.byteQueue
  tape := block.fp.map tapeOf
  staged := if block.updated then some (block.newFp.map tapeOf) else none
  repeats := block.repeats
  running := block.localWriteBuffer.pointer.isSome

/-- The buffers are allocated, and the first has room for a header; or the block
has been stopped. -/
def Sound (block : FileSource) : Prop :=
  block.localWriteBuffer.pointer = none ∨
    block.localWriteBuffer.Backed ∧ headerSize ≤ block.localWriteBuffer.size ∧
      block.compressedBuffer.Backed

/-! ## Calls that read nothing -/

section Control

variable {params}

theorem tape_of_seek (file : ReadFile UInt8) (offset : Int) (whence : Whence) :
    (tapeOf file).moveTo ((tapeOf file).origin whence + offset) =
      (file.seek offset whence).map tapeOf := by
  simp only [ReadFile.seek, apply_ite (Option.map tapeOf)]
  cases whence <;> rfl

theorem seek_seen (seekPoint : Int) (whence : Whence) (block : FileSource) :
    SeenAs playerOf block (FileSourceBlock.seek params seekPoint whence)
      (Player.seek params seekPoint whence) := by
  apply seen_as_get_bind
  cases installed : block.fp with
  | none =>
      have empty : (playerOf block).tape = none := by simp [playerOf, installed]
      simp only [empty]
      apply seen_as_throw
  | some fp =>
      have playing : (playerOf block).tape = some (tapeOf fp) := by simp [playerOf, installed]
      simp only [playing, tape_of_seek]
      cases fp.seek (toLong (toSize (toSize seekPoint * params.itemsize))) whence with
      | none => apply seen_as_pure
      | some moved =>
          apply seen_as_bind
          · apply seen_as_set
            rfl
          · intro _ _ _
            apply seen_as_pure

theorem open_file_seen (content : Bytes) (opening : Opening) (repeats : Bool)
    (block : FileSource) :
    SeenAs playerOf block (FileSourceBlock.openFile content opening repeats)
      (Player.openFile content opening repeats) := by
  cases opening with
  | openFails => apply seen_as_throw
  | fdopenFails =>
      apply seen_as_bind
      · apply seen_as_modify
        rcases block with ⟨queue, localWriteBuffer, compressedBuffer, fp, newFp, repeats, updated⟩
        cases updated <;> rfl
      · intro _ _ _
        apply seen_as_throw
  | succeeds =>
      apply seen_as_modify
      rfl

theorem stop_seen (block : FileSource) :
    SeenAs playerOf block FileSourceBlock.stop Player.stop := by
  apply seen_as_bind
  · apply seen_as_modify
    rcases block with ⟨queue, localWriteBuffer, compressedBuffer, fp, newFp, repeats, updated⟩
    rcases localWriteBuffer with ⟨pointer, size⟩
    cases updated <;> cases pointer <;> rfl
  · intro _ _ _
    apply seen_as_pure

theorem do_update_seen (block : FileSource) :
    SeenAs playerOf block FileSourceBlock.doUpdate (modify Player.install) := by
  apply seen_as_modify
  rcases block with ⟨queue, localWriteBuffer, compressedBuffer, fp, newFp, repeats, updated⟩
  cases updated <;> rfl

end Control

/-! ## How far a file has been read -/

/-- The end of the file, or the place behind it. -/
def reach (block : FileSource) : Option Nat :=
  block.fp.map fun fp => max fp.position fp.content.length

section Reaching

theorem fread_reach {State : Type} {buffer : Buffer UInt8} {count : Nat} {file : ReadFile UInt8}
    {state next : State} {out : Buffer UInt8 × Nat × ReadFile UInt8}
    (ran : (fread buffer count file).run state = .ok out next) :
    max out.2.2.position out.2.2.content.length = max file.position file.content.length := by
  simp only [fread, EStateM.run_bind] at ran
  split at ran
  · split at ran
    · rw [EStateM.run_pure, EStateM.Result.ok.injEq] at ran
      have remaining : file.remaining.length = file.content.length - file.position :=
        List.length_drop
      rw [← ran.1]
      simp only [ReadFile.advance, List.length_take, remaining]
      omega
    · simp at ran
  · simp at ran

theorem read_header_reach (block : FileSource) : KeepsAt reach block readHeader := by
  apply keeps_at_get_bind
  cases installed : block.fp with
  | none => apply keeps_at_throw
  | some fp =>
      apply keeps_at_read_bind (fread_keeps _ _ _)
      intro out ran
      have reached := fread_reach ran
      apply keeps_at_set_bind
      · simp [reach, installed, reached]
      · split
        · apply keeps_at_pure
        · apply keeps_at_read_bind (load_keeps _ _ _)
          intro header _
          apply keeps_at_pure

theorem read_payload_reach (header : CompressionHeader) (block : FileSource) :
    KeepsAt reach block (readPayload zstd header) := by
  apply keeps_at_get_bind
  cases installed : block.fp with
  | none => apply keeps_at_throw
  | some fp =>
      apply keeps_at_read_bind (fread_keeps _ _ _)
      intro out ran
      have reached := fread_reach ran
      apply keeps_at_set_bind
      · simp [reach, installed, reached]
      · split
        · apply keeps_at_read_bind (load_keeps _ _ _)
          intro source _
          apply keeps_at_read_bind (decompress_keeps _ _ _ _)
          intro decompressed _
          apply keeps_at_read_bind (load_keeps _ _ _)
          intro plain _
          apply keeps_at_set_bind
          · simp [reach]
          · apply keeps_at_pure
        · apply keeps_at_pure

theorem read_record_reach (block : FileSource) : KeepsAt reach block (readRecord zstd) := by
  apply keeps_at_bind (read_header_reach block)
  intro header next _
  split
  · apply keeps_at_pure
  · apply keeps_at_bind
    · apply keeps_at_modify
      rfl
    · intro _ grown _
      apply read_payload_reach

theorem read_loop_reach (noi fuel : Nat) (block : FileSource) :
    KeepsAt reach block (readLoop zstd noi fuel) := by
  induction fuel generalizing block with
  | zero => apply keeps_at_throw
  | succ fuel induction =>
      apply keeps_at_get_bind
      split
      · apply keeps_at_bind (read_record_reach zstd block)
        intro more next _
        split
        · apply induction
        · apply keeps_at_pure
      · apply keeps_at_pure

end Reaching

/-! ## A request -/

section Requests

variable {zstd params} {content queue rest : Bytes} {repeats : Bool} {block : FileSource}

theorem needed_enough {wanted : Nat} {queue : Bytes} (enough : wanted ≤ queue.length)
    (ahead : List Record) : needed zstd wanted queue ahead = [] := by
  cases ahead with
  | nil => rfl
  | cons record later => rw [needed, if_neg (Nat.not_lt.2 enough)]

theorem needed_more {wanted : Nat} {queue : Bytes} (short : queue.length < wanted)
    (record : Record) (later : List Record) :
    needed zstd wanted queue (record :: later) =
      record :: needed zstd wanted (queue ++ recordBytes zstd record) later := by
  rw [needed, if_pos short]

/-- The loop decodes the records needed; either they are enough, or all were read. -/
theorem read_loop_needed (bounded : zstd.DecompressBounded) (wanted fuel : Nat)
    (positioned : Positioned content repeats queue rest block)
    (fueled : (records rest).length < fuel) :
    ∃ left after,
      Positioned content repeats
        (queue ++ recordsBytes zstd (needed zstd wanted queue (records rest))) left after ∧
      ((wanted ≤ (queue ++ recordsBytes zstd (needed zstd wanted queue (records rest))).length ∧
          rest = encodeFrames (needed zstd wanted queue (records rest)) ++ left ∧
          (readLoop zstd wanted fuel).run block = .ok true after) ∨
        ((queue ++ recordsBytes zstd (needed zstd wanted queue (records rest))).length < wanted ∧
          left = [] ∧ (readLoop zstd wanted fuel).run block = .ok false after)) := by
  induction fuel generalizing block queue rest with
  | zero => omega
  | succ fuel induction =>
      by_cases short : queue.length < wanted
      · cases split : splitFrame recordFraming rest with
        | none =>
            obtain ⟨after, round, afterAt⟩ := read_record_ends zstd positioned split
            have none_left : records rest = [] := by rw [records, frames, drain_of_none split]
            have ends : (readLoop zstd wanted (fuel + 1)).run block = .ok false after := by
              simp only [readLoop, EStateM.run_bind, EStateM.run_get, positioned.queue,
                if_pos short, round, Bool.false_eq_true, if_false, EStateM.run_pure]
            simp only [none_left, needed, records_bytes_nil, List.append_nil]
            exact ⟨[], after, afterAt, .inr ⟨short, rfl, ends⟩⟩
        | some pair =>
            rcases pair with ⟨record, later⟩
            obtain ⟨next, round, nextAt⟩ := read_record_run zstd bounded positioned split
            have first : records rest = record :: records later := by
              rw [records, frames, drain_of_some split]
            have fewer : (records later).length < fuel := by
              rw [first, List.length_cons] at fueled
              omega
            have loops : (readLoop zstd wanted (fuel + 1)).run block =
                (readLoop zstd wanted fuel).run next := by
              simp only [readLoop, EStateM.run_bind, EStateM.run_get, positioned.queue,
                if_pos short, round, if_true]
            obtain ⟨left, after, afterAt, result⟩ := induction nextAt fewer
            simp only [first, needed_more short, records_bytes_cons, ← List.append_assoc, loops]
            refine ⟨left, after, afterAt, ?_⟩
            rcases result with ⟨enough, whole, ran⟩ | ended
            · have cells : rest = record.cells ++ later := split_frame_eq_some split
              refine .inl ⟨enough, ?_, ran⟩
              rw [encode_frames_cons, List.append_assoc, ← whole, cells]
            · exact .inr ended
      · have enough := Nat.le_of_not_lt short
        have serves : (readLoop zstd wanted (fuel + 1)).run block = .ok true block := by
          simp only [readLoop, EStateM.run_bind, EStateM.run_get, positioned.queue, if_neg short,
            EStateM.run_pure]
        simp only [needed_enough enough, records_bytes_nil, List.append_nil]
        exact ⟨rest, block, positioned, .inl ⟨enough, rfl, serves⟩⟩

/-- Where a file stands whose reach is known, once `count` bytes of it have been read. -/
theorem tape_position {before after : Tape} {count : Nat} (same : after.content = before.content)
    (reached : max after.position after.content.length =
      max before.position before.content.length)
    (read : before.left.length = count + after.left.length) : after = before.wind count := by
  rcases before with ⟨content, position⟩
  rcases after with ⟨content', position'⟩
  simp only at same reached
  subst same
  simp only [Tape.left, List.length_drop] at read
  have moved : position' = position + count := by omega
  rw [Tape.wind, moved]

theorem tape_exhausted {before after : Tape} (same : after.content = before.content)
    (reached : max after.position after.content.length =
      max before.position before.content.length)
    (empty : after.left = []) : after = before.exhaust := by
  rcases before with ⟨content, position⟩
  rcases after with ⟨content', position'⟩
  simp only at same reached
  subst same
  have behind : content'.length ≤ position' := List.drop_eq_nil_iff.1 empty
  have moved : position' = max position content'.length := by omega
  rw [Tape.exhaust, moved]

theorem player_of_positioned {fp : ReadFile UInt8} (opened : block.fp = some fp)
    (positioned : Positioned content repeats queue rest block) :
    playerOf block =
      { queue := queue
        tape := some (tapeOf fp)
        staged := none
        repeats := repeats
        running := true } := by
  rcases positioned.localWriteBuffer with ⟨array, allocated, _⟩
  simp [playerOf, opened, positioned.queue, positioned.repeats, positioned.installed, allocated]

theorem sound_of_positioned (positioned : Positioned content repeats queue rest block) :
    Sound block :=
  .inr ⟨positioned.localWriteBuffer, positioned.headerRoom, positioned.compressedBuffer⟩

/-- The queue is served without regard to the file. -/
theorem serve_queued (noutputItems wanted : Nat) (enough : wanted ≤ block.byteQueue.length) :
    (serve noutputItems wanted).run block =
      .ok { returned := noutputItems, items := block.byteQueue.take wanted }
        { block with byteQueue := block.byteQueue.drop wanted } := by
  simp only [serve, EStateM.run_bind, EStateM.run_get, pop_front_run enough, EStateM.run_set,
    EStateM.run_pure]

theorem end_of_file_rewinds {fp : ReadFile UInt8} (opened : block.fp = some fp)
    (again : block.repeats = true) :
    ∃ after, endOfFile.run block = .ok { returned := 0, items := [] } after ∧
      playerOf after = { playerOf block with tape := some (tapeOf fp).rewind } ∧
      (Sound block → Sound after) := by
  cases tagged : block.addBeginTag with
  | true =>
      refine ⟨{ block with
        fp := some fp.rewind
        fileBegin := true
        repeatCnt := block.repeatCnt + 1 }, ?_, rfl, id⟩
      simp only [endOfFile, EStateM.run_bind, EStateM.run_get, again, Bool.not_true,
        Bool.false_eq_true, if_false, EStateM.run_set, tagged, if_true, EStateM.run_modify,
        EStateM.run_pure, opened, Option.map_some]
  | false =>
      refine ⟨{ block with fp := some fp.rewind }, ?_, rfl, id⟩
      simp only [endOfFile, EStateM.run_bind, EStateM.run_get, again, Bool.not_true,
        Bool.false_eq_true, if_false, EStateM.run_set, tagged, EStateM.run_pure, opened,
        Option.map_some]

/-- A stopped block has no buffer to read a header into. -/
theorem read_loop_stopped {fp : ReadFile UInt8} (opened : block.fp = some fp)
    (stopped : block.localWriteBuffer.pointer = none) {wanted : Nat}
    (short : block.byteQueue.length < wanted) (fuel : Nat) :
    (readLoop zstd wanted (fuel + 1)).run block = .error .nullPointer block := by
  have refused : (fread none headerSize fp :
      EStateM Fault FileSource (Buffer UInt8 × Nat × ReadFile UInt8)).run block =
        .error .nullPointer block := rfl
  simp only [readLoop, readRecord, readHeader, EStateM.run_bind, EStateM.run_get, opened, stopped,
    if_pos short, refused]

/-- What has been read tells where the file stands. -/
theorem file_after {fp : ReadFile UInt8} (opened : block.fp = some fp)
    (positioned : Positioned content repeats queue fp.remaining block) {left filled : Bytes}
    {after : FileSource} (afterAt : Positioned content repeats filled left after)
    (reached : reach after = reach block) :
    ∃ file, after.fp = some file ∧
      (∀ decoded : List Record, fp.remaining = encodeFrames decoded ++ left →
        tapeOf file = (tapeOf fp).wind (encodeFrames decoded).length) ∧
      (left = [] → tapeOf file = (tapeOf fp).exhaust) := by
  rcases positioned.file with ⟨fp', opened', content', _⟩
  rw [opened, Option.some.injEq] at opened'
  subst opened'
  rcases afterAt.file with ⟨file, afterOpened, same, remaining⟩
  have contents : (tapeOf file).content = (tapeOf fp).content := same.trans content'.symm
  have reaches : max file.position file.content.length = max fp.position fp.content.length := by
    simpa [reach, opened, afterOpened] using reached
  refine ⟨file, afterOpened, fun decoded whole => ?_, fun empty => ?_⟩
  · apply tape_position contents reaches
    have before : (tapeOf fp).left = encodeFrames decoded ++ left := whole
    have behind : (tapeOf file).left = left := remaining
    rw [before, behind, List.length_append]
  · apply tape_exhausted contents reaches
    have behind : (tapeOf file).left = left := remaining
    rw [behind, empty]

/-- The source and the player that it is seen as answer a request alike. -/
def Alike (zstd : Zstd) (params : SourceParams) (noutputItems : Nat) (block : FileSource) : Prop :=
  SeenAs playerOf block (HandleOwnership.afterUpdate zstd params noutputItems)
      (Player.playOn zstd params noutputItems) ∧
    Sound (settle (HandleOwnership.afterUpdate zstd params) block noutputItems).2

theorem alike_of_ok {noutputItems : Nat} {output : StreamOutput} {after : FileSource}
    {next : Player}
    (ran : (HandleOwnership.afterUpdate zstd params noutputItems).run block = .ok output after)
    (played : (Player.playOn zstd params noutputItems).run (playerOf block) = .ok output next)
    (same : playerOf after = next) (sound : Sound after) :
    Alike zstd params noutputItems block := by
  constructor
  · rw [SeenAs, played, ran, seen, same]
  · rw [settle_of_ok ran]
    exact sound

theorem alike_of_error {noutputItems : Nat} {fault : Fault}
    (ran : (HandleOwnership.afterUpdate zstd params noutputItems).run block = .error fault block)
    (played : (Player.playOn zstd params noutputItems).run (playerOf block) =
      .error fault (playerOf block))
    (sound : Sound block) : Alike zstd params noutputItems block := by
  constructor
  · rw [SeenAs, played, ran, seen]
  · rw [settle_of_error ran]
    exact sound

section Players

variable {player : Player} {tape : Tape} {noutputItems : Nat} {decoded : List Record}

/-- The player can answer: it has what is wanted, or can read. -/
def Player.Able (player : Player) (wanted : Nat) : Prop :=
  ¬(player.queue.length < wanted ∧ player.running = false)

theorem play_on_served (playing : player.tape = some tape)
    (able : player.Able (noutputItems * params.itemsize))
    (reads : player.reads zstd tape (noutputItems * params.itemsize) = decoded)
    (enough : noutputItems * params.itemsize ≤ (player.filled zstd decoded).length) :
    (Player.playOn zstd params noutputItems).run player =
      .ok { returned := noutputItems
            items := (player.filled zstd decoded).take (noutputItems * params.itemsize) }
        { player with
          queue := (player.filled zstd decoded).drop (noutputItems * params.itemsize)
          tape := some (tape.wind (encodeFrames decoded).length) } := by
  simp only [Player.playOn, EStateM.run_bind, EStateM.run_get, playing, if_neg able, reads,
    if_pos enough, EStateM.run_set, EStateM.run_pure]

theorem play_on_ended (playing : player.tape = some tape)
    (able : player.Able (noutputItems * params.itemsize))
    (reads : player.reads zstd tape (noutputItems * params.itemsize) = decoded)
    (tooFew : (player.filled zstd decoded).length < noutputItems * params.itemsize) :
    (Player.playOn zstd params noutputItems).run player =
      .ok { returned := if player.repeats then 0 else workDone, items := [] }
        { player with
          queue := player.filled zstd decoded
          tape := some (if player.repeats then tape.rewind else tape.exhaust) } := by
  cases mode : player.repeats <;>
    simp only [Player.playOn, EStateM.run_bind, EStateM.run_get, playing, if_neg able, reads,
      if_neg (Nat.not_le.2 tooFew), mode, EStateM.run_set, EStateM.run_pure, if_true,
      Bool.false_eq_true, if_false]

end Players

/-- A request that is for more than the queue reads, and serves or ends. -/
theorem after_update_reads {fp : ReadFile UInt8} (opened : block.fp = some fp)
    {noutputItems : Nat} (short : block.byteQueue.length < noutputItems * params.itemsize)
    {reached : Bool} {filled : FileSource}
    (looped : (readLoop zstd (noutputItems * params.itemsize) (fp.remaining.length + 1)).run block =
      .ok reached filled) :
    (HandleOwnership.afterUpdate zstd params noutputItems).run block =
      if reached then (serve noutputItems (noutputItems * params.itemsize)).run filled
      else endOfFile.run filled := by
  simp only [HandleOwnership.afterUpdate, EStateM.run_bind, EStateM.run_get, opened,
    if_neg (Nat.not_le.2 short), looped]
  cases reached <;> rfl

/-- A request that reads is answered alike. -/
theorem read_request_alike (bounded : zstd.DecompressBounded) {fp : ReadFile UInt8}
    (opened : block.fp = some fp)
    (positioned : Positioned content repeats queue fp.remaining block) (noutputItems : Nat)
    (short : queue.length < noutputItems * params.itemsize) :
    Alike zstd params noutputItems block := by
  have player := player_of_positioned opened positioned
  rw [← positioned.queue] at short
  have playing : (playerOf block).tape = some (tapeOf fp) := by rw [player]
  have able : (playerOf block).Able (noutputItems * params.itemsize) := by
    simp [Player.Able, player]
  obtain ⟨left, filled, filledAt, result⟩ :=
    read_loop_needed bounded (noutputItems * params.itemsize) (fp.remaining.length + 1) positioned
      (Nat.lt_succ_of_le (records_length_le fp.remaining))
  have reads : (playerOf block).reads zstd (tapeOf fp) (noutputItems * params.itemsize) =
      needed zstd (noutputItems * params.itemsize) queue (records fp.remaining) := by
    rw [player]
    rfl
  generalize needed zstd (noutputItems * params.itemsize) queue (records fp.remaining) = decoded
    at filledAt result reads
  have fills : (playerOf block).filled zstd decoded = queue ++ recordsBytes zstd decoded := by
    rw [player]
    rfl
  have kept : ∀ reached, (readLoop zstd (noutputItems * params.itemsize)
      (fp.remaining.length + 1)).run block = .ok reached filled → reach filled = reach block :=
    fun reached ran => (read_loop_reach zstd _ _ block).1 reached filled ran
  rcases result with ⟨enough, whole, looped⟩ | ⟨tooFew, empty, looped⟩
  · obtain ⟨file, afterOpened, wound, _⟩ :=
      file_after opened positioned filledAt (kept true looped)
    have served := serve_queued noutputItems (noutputItems * params.itemsize)
      (filledAt.queue.symm ▸ enough)
    have played := play_on_served playing able reads (fills ▸ enough)
    rw [fills, ← filledAt.queue] at played
    have ran := after_update_reads opened short looped
    rw [if_pos rfl, served] at ran
    apply alike_of_ok ran played
    · have queued : playerOf { filled with
          byteQueue := filled.byteQueue.drop (noutputItems * params.itemsize) } =
            { playerOf filled with
              queue := filled.byteQueue.drop (noutputItems * params.itemsize) } := rfl
      rw [player, ← wound decoded whole]
      rw [player_of_positioned afterOpened filledAt] at queued
      exact queued
    · have filledSound := sound_of_positioned filledAt
      exact filledSound
  · obtain ⟨file, afterOpened, _, exhausted⟩ :=
      file_after opened positioned filledAt (kept false looped)
    have seenFilled := player_of_positioned afterOpened filledAt
    have played := play_on_ended playing able reads (fills ▸ tooFew)
    have repeating : (playerOf block).repeats = repeats := by rw [player]
    rw [fills, repeating] at played
    cases repeats with
    | false =>
        have ended : endOfFile.run filled = .ok { returned := workDone, items := [] } filled := by
          simp [endOfFile, filledAt.repeats]
        have ran := after_update_reads opened short looped
        rw [if_neg Bool.false_ne_true, ended] at ran
        apply alike_of_ok ran played _ (sound_of_positioned filledAt)
        rw [seenFilled, exhausted empty, player]
        rfl
    | true =>
        obtain ⟨after, rewound, seenAfter, sound⟩ :=
          end_of_file_rewinds afterOpened filledAt.repeats
        have ran := after_update_reads opened short looped
        rw [if_neg Bool.false_ne_true, rewound] at ran
        apply alike_of_ok ran played _ (sound (sound_of_positioned filledAt))
        rw [seenAfter, seenFilled, exhausted empty, player]
        rfl

/-- After an update, requests are answered alike. -/
theorem after_update_alike (bounded : zstd.DecompressBounded) (installed : block.updated = false)
    (sound : Sound block) (noutputItems : Nat) : Alike zstd params noutputItems block := by
  cases opened : block.fp with
  | none =>
      have empty : (playerOf block).tape = none := by simp [playerOf, opened]
      have ran : (HandleOwnership.afterUpdate zstd params noutputItems).run block =
          .error (.exception "work with file not open") block := by
        simp only [HandleOwnership.afterUpdate, EStateM.run_bind, EStateM.run_get, opened]
        rfl
      have played : (Player.playOn zstd params noutputItems).run (playerOf block) =
          .error (.exception "work with file not open") (playerOf block) := by
        simp only [Player.playOn, EStateM.run_bind, EStateM.run_get, empty]
        rfl
      exact alike_of_error ran played sound
  | some fp =>
      have playing : (playerOf block).tape = some (tapeOf fp) := by simp [playerOf, opened]
      rcases Nat.lt_or_ge block.byteQueue.length (noutputItems * params.itemsize)
        with short | enough
      · rcases sound with stopped | ⟨backed, headerRoom, compressedBacked⟩
        · have unable : (playerOf block).queue.length < noutputItems * params.itemsize ∧
              (playerOf block).running = false := ⟨short, by simp [playerOf, stopped]⟩
          have ran : (HandleOwnership.afterUpdate zstd params noutputItems).run block =
              .error .nullPointer block := by
            simp only [HandleOwnership.afterUpdate, EStateM.run_bind, EStateM.run_get, opened,
              if_neg (Nat.not_le.2 short), read_loop_stopped opened stopped short]
          have played : (Player.playOn zstd params noutputItems).run (playerOf block) =
              .error .nullPointer (playerOf block) := by
            simp only [Player.playOn, EStateM.run_bind, EStateM.run_get, playing, if_pos unable]
            rfl
          exact alike_of_error ran played (.inl stopped)
        · have positioned : Positioned fp.content block.repeats block.byteQueue fp.remaining
              block :=
            ⟨⟨fp, opened, rfl, rfl⟩, installed, rfl, rfl, backed, headerRoom, compressedBacked⟩
          exact read_request_alike bounded opened positioned noutputItems short
      · have able : (playerOf block).Able (noutputItems * params.itemsize) :=
          fun unable => Nat.not_lt.2 enough unable.1
        have reads : (playerOf block).reads zstd (tapeOf fp) (noutputItems * params.itemsize) =
            [] := needed_enough enough _
        have fills : (playerOf block).filled zstd [] = block.byteQueue := List.append_nil _
        have played := play_on_served playing able reads (fills ▸ enough)
        rw [fills] at played
        have ran : (HandleOwnership.afterUpdate zstd params noutputItems).run block =
            (serve noutputItems (noutputItems * params.itemsize)).run block := by
          simp only [HandleOwnership.afterUpdate, EStateM.run_bind, EStateM.run_get, opened,
            if_pos enough]
        rw [serve_queued noutputItems (noutputItems * params.itemsize) enough] at ran
        apply alike_of_ok ran played _ sound
        simp only [playerOf, opened]
        rfl

end Requests

/-! ## Runs -/

section Runs

variable {zstd params} {block : FileSource}

theorem do_update_installs (block : FileSource) :
    ∃ next, FileSourceBlock.doUpdate.run block = .ok () next ∧ next.updated = false ∧
      (Sound block → Sound next) := by
  cases due : block.updated with
  | false =>
      refine ⟨block, ?_, due, id⟩
      simp [FileSourceBlock.doUpdate, due]
  | true =>
      refine ⟨_, rfl, ?_, ?_⟩
      · simp [due]
      · simp only [due, if_true]
        exact id

theorem work_seen (bounded : zstd.DecompressBounded) (sound : Sound block) (noutputItems : Nat) :
    SeenAs playerOf block (FileSourceBlock.work zstd params noutputItems)
      (Player.work zstd params noutputItems) := by
  apply seen_as_bind (do_update_seen block)
  intro _ next ran
  obtain ⟨next', ran', installed, kept⟩ := do_update_installs block
  obtain ⟨_, rfl⟩ := ok_unique ran ran'
  exact (after_update_alike bounded installed (kept sound) noutputItems).1

/-- Each call of a source comes to what it comes to for the player. -/
theorem source_call_seen (bounded : zstd.DecompressBounded) (block : FileSource)
    (op : SourceOperation) (sound : Sound block) :
    SeenAs playerOf block (sourceCall zstd params op) (Player.call zstd params op) := by
  cases op with
  | openFile content opening repeats =>
      apply seen_as_bind_pure (open_file_seen content opening repeats block)
  | close =>
      apply seen_as_bind
      · apply seen_as_modify
        rfl
      · intro _ _ _
        apply seen_as_pure
  | doUpdate => apply seen_as_bind_pure (do_update_seen block)
  | stop => apply seen_as_bind_pure (stop_seen block)
  | seek seekPoint whence => apply seen_as_bind_pure (seek_seen seekPoint whence block)
  | setBeginTag present => rfl
  | work noutputItems => apply seen_as_bind_pure (work_seen bounded sound noutputItems)

theorem seek_sound (sound : Sound block) (seekPoint : Int) (whence : Whence) :
    Sound (settle (sourceCall zstd params) block (.seek seekPoint whence)).2 := by
  have kept : KeepsAt (fun block => (block.localWriteBuffer, block.compressedBuffer)) block
      (sourceCall zstd params (.seek seekPoint whence)) := by
    apply keeps_at_bind_pure
    apply keeps_at_get_bind
    split
    · apply keeps_at_throw
    · split
      · apply keeps_at_pure
      · apply keeps_at_bind_pure
        apply keeps_at_set
        rfl
  have buffers := leave_keeps kept
  rw [settle_state]
  simp only [Prod.mk.injEq] at buffers
  simpa only [Sound, buffers.1, buffers.2] using sound

theorem work_sound (bounded : zstd.DecompressBounded) (sound : Sound block)
    (noutputItems : Nat) :
    Sound (settle (sourceCall zstd params) block (.work noutputItems)).2 := by
  obtain ⟨next, ran, installed, kept⟩ := do_update_installs block
  have updated : settle (sourceCall zstd params) block (.work noutputItems) =
      settle (fun count => HandleOwnership.afterUpdate zstd params count >>=
        fun output => pure (Answer.served output)) next noutputItems := by
    have first : (sourceCall zstd params (.work noutputItems)).run block =
        (HandleOwnership.afterUpdate zstd params noutputItems >>=
          fun output => pure (Answer.served output)).run next := by
      simp only [sourceCall, FileSourceBlock.work, EStateM.run_bind, ran]
      rfl
    simp only [settle, first]
  rw [updated, settle_bind_pure_state]
  exact (after_update_alike bounded installed (kept sound) noutputItems).2

theorem source_call_sound (bounded : zstd.DecompressBounded) (block : FileSource)
    (op : SourceOperation) (sound : Sound block) :
    Sound (settle (sourceCall zstd params) block op).2 := by
  cases op with
  | openFile content opening repeats => cases opening <;> exact sound
  | close => exact sound
  | doUpdate =>
      obtain ⟨next, ran, _, kept⟩ := do_update_installs block
      have updated : (sourceCall zstd params .doUpdate).run block = .ok .done next := by
        simp only [sourceCall, EStateM.run_bind, ran, EStateM.run_pure]
      rw [settle_of_ok updated]
      exact kept sound
  | stop =>
      left
      rcases block with ⟨queue, localWriteBuffer, compressedBuffer, fp, newFp, repeats, updated⟩
      rcases localWriteBuffer with ⟨pointer, size⟩
      cases pointer <;> rfl
  | seek seekPoint whence => exact seek_sound sound seekPoint whence
  | setBeginTag present => exact sound
  | work noutputItems => exact work_sound bounded sound noutputItems

theorem made_sound (content : Bytes) (repeats : Bool) :
    ∃ made, (make content .succeeds repeats).run (unopened repeats) = .ok () made ∧
      Sound made ∧ playerOf made = Player.loaded content repeats := by
  have headerRoom : headerSize ≤ 64000 := by decide
  exact ⟨_, rfl, .inr ⟨new_backed 64000, headerRoom, new_backed 64000⟩, rfl⟩

variable (zstd params) in
theorem made_answers (bounded : zstd.DecompressBounded) (content : Bytes) (repeats : Bool)
    (calls : List SourceOperation) :
    ∃ made, (make content .succeeds repeats).run (unopened repeats) = .ok () made ∧
      answers (settle (Player.call zstd params)) (Player.loaded content repeats) calls =
        ((answers (settle (sourceCall zstd params)) made calls).1,
          playerOf (answers (settle (sourceCall zstd params)) made calls).2) := by
  obtain ⟨made, constructed, sound, loaded⟩ := made_sound content repeats
  refine ⟨made, constructed, ?_⟩
  rw [← loaded]
  exact answers_seen Sound (source_call_seen bounded) (source_call_sound bounded) calls made sound

end Runs

/-- A source and a player with its file at the start answer calls in any order
alike, and the source ends as what the player has become. -/
theorem source_answers_as_player (bounded : zstd.DecompressBounded) (content : Bytes)
    (repeats : Bool) (calls : List SourceOperation) :
    ∃ made, (make content .succeeds repeats).run (unopened repeats) = .ok () made ∧
      answers (settle (Player.call zstd params)) (Player.loaded content repeats) calls =
        ((answers (settle (sourceCall zstd params)) made calls).1,
          playerOf (answers (settle (sourceCall zstd params)) made calls).2) :=
  made_answers zstd params bounded content repeats calls

/-- Every call once, and some that fail. -/
def everyCall : List SourceOperation :=
  [.work 2, .openFile threeByteFile .fdopenFails true, .seek (-3) .seekCur, .setBeginTag true,
    .openFile threeByteFile .succeeds true, .work 4, .close, .doUpdate, .work 1, .stop]

theorem source_answers_every_call :
    ∃ made, (make threeByteFile .succeeds false).run (unopened false) = .ok () made ∧
      answers (settle (Player.call storedZstd { itemsize := 1, itemsize_pos := Nat.one_pos }))
          (Player.loaded threeByteFile false) everyCall =
        ((answers (settle (sourceCall storedZstd { itemsize := 1, itemsize_pos := Nat.one_pos }))
            made everyCall).1,
          playerOf (answers (settle
            (sourceCall storedZstd { itemsize := 1, itemsize_pos := Nat.one_pos }))
              made everyCall).2) :=
  source_answers_as_player storedZstd { itemsize := 1, itemsize_pos := Nat.one_pos }
    stored_decompress_bounded threeByteFile false everyCall

end GrCompress.SourcePlayer
