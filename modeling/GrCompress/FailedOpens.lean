import GrCompress.HandleOwnership
import GrCompress.PartialWrites
import GrCompress.StoredFrameCodec

/-!
# Opens that fail

`open` of the sink and of the source discards the staged file before `fdopen`
can fail. The source then leaves `d_updated` alone; the sink sets it all the
same, so that a failed `open` takes away the current file, too. Where `::open`
fails, neither has touched anything.
-/

namespace GrCompress.FailedOpens

open GrCompress.CallRuns
open GrCompress.CheckedStorage
open GrCompress.OpenFiles
open GrCompress.LengthFraming
open GrCompress.ZstdCodec
open GrCompress.RecordFormat
open GrCompress.HandleOwnership
open GrCompress.PartialWrites (byteItems)
open GrCompress.StoredFrameCodec
open GrCompress.FileSinkBlock (FileSink SinkParams WriteOutcome)
open GrCompress.FileSourceBlock (FileSource SourceParams)

set_option autoImplicit false

/-! ## The sink -/

section Sink

variable (params : SinkParams)

/-- What operations in any order can make of a sink once it is constructed. -/
def SinkReached (sink : FileSink) : Prop :=
  ∃ (append : Bool) (disk : Disk UInt8) (outcomes : List WriteOutcome) (name : String)
    (opening : Opening) (made : FileSink) (ops : List SinkOperation),
    (FileSinkBlock.makeBase name opening).run (sinkStart append disk outcomes) = .ok () made ∧
      sink = leaveAll (sinkOperation params) made ops

/-- The file that the next `do_update` leaves current. -/
def nextSinkFile (sink : FileSink) : Option WriteFile :=
  (leave (sinkOperation params) sink .doUpdate).fp

/-- `open` reports its failure, and the next `do_update` does not show it. -/
def SinkUnaffected (name : String) (opening : Opening) (sink : FileSink) : Prop :=
  ∃ after, (FileSinkBlock.openFile name opening).run sink = .ok false after ∧
    nextSinkFile params after = nextSinkFile params sink

/-- An update would leave no file current: an announced one finds nothing
staged, or none is announced and nothing is current. -/
def NothingToLose (sink : FileSink) : Prop :=
  (sink.updated = true → sink.newFp = none) ∧ (sink.updated = false → sink.fp = none)

theorem next_sink_file (sink : FileSink) :
    nextSinkFile params sink = if sink.updated then sink.newFp else sink.fp := by
  rcases sink with ⟨fp, newFp, updated⟩
  cases updated <;> rfl

theorem next_sink_file_none_iff (sink : FileSink) :
    nextSinkFile params sink = none ↔ NothingToLose sink := by
  rw [next_sink_file, NothingToLose]
  cases sink.updated <;> simp

/-- An `open` without a stream stages nothing and announces it. -/
theorem sink_open_without_stream (name : String) (sink : FileSink) :
    ∃ after, (FileSinkBlock.openFile name .fdopenFails).run sink = .ok false after ∧
      nextSinkFile params after = none := by
  refine ⟨_, rfl, ?_⟩
  rw [next_sink_file]
  rfl

theorem sink_unaffected_iff (name : String) {opening : Opening} (failed : opening ≠ .succeeds)
    (sink : FileSink) :
    SinkUnaffected params name opening sink ↔ opening = .openFails ∨ NothingToLose sink := by
  cases opening with
  | openFails => exact iff_of_true ⟨sink, rfl, rfl⟩ (.inl rfl)
  | succeeds => exact absurd rfl failed
  | fdopenFails =>
      obtain ⟨left, opened, nothing⟩ := sink_open_without_stream params name sink
      rw [← next_sink_file_none_iff params]
      constructor
      · rintro ⟨after, ran, same⟩
        rw [(ok_unique ran opened).2, nothing] at same
        exact .inr same.symm
      · rintro (other | lost)
        · simp at other
        · exact ⟨left, opened, nothing.trans lost.symm⟩

end Sink

/-! ## The source -/

section Source

variable (zstd : Zstd) (params : SourceParams)

def SourceReached (block : FileSource) : Prop :=
  ∃ (content : Bytes) (opening : Opening) (repeats : Bool) (made : FileSource)
    (ops : List SourceOperation),
    (FileSourceBlock.make content opening repeats).run (FileSourceBlock.unopened repeats) =
        .ok () made ∧
      block = leaveAll (sourceOperation zstd params) made ops

def nextSourceFile (block : FileSource) : Option (ReadFile UInt8) :=
  (leave (sourceOperation zstd params) block .doUpdate).fp

/-- `open` throws, and the next `do_update` does not show it. -/
def SourceUnaffected (content : Bytes) (opening : Opening) (repeats : Bool) (block : FileSource) :
    Prop :=
  ∃ after, (FileSourceBlock.openFile content opening repeats).run block =
      .error (.exception "can't open file") after ∧
    nextSourceFile zstd params after = nextSourceFile zstd params block

/-- A staged file has been announced. -/
def Announced (block : FileSource) : Prop := block.newFp.isSome → block.updated = true

theorem next_source_file (block : FileSource) :
    nextSourceFile zstd params block = if block.updated then block.newFp else block.fp := by
  rcases block with ⟨queue, localWriteBuffer, compressedBuffer, fp, newFp, repeats, updated⟩
  cases updated <;> rfl

theorem announced_of_staging {before after : FileSource}
    (same : sourceStaging after = sourceStaging before) (announced : Announced before) :
    Announced after := by
  have staged : after.newFp.map ReadFile.descriptor = before.newFp.map ReadFile.descriptor :=
    congrArg (fun staging => staging.1.staged) same
  have updated : after.updated = before.updated := congrArg Prod.snd same
  intro some
  rw [← Option.isSome_map (f := ReadFile.descriptor), staged, Option.isSome_map] at some
  rw [updated]
  exact announced some

/-- Every operation announces what it stages. -/
theorem announced_step {block : FileSource} (announced : Announced block) (op : SourceOperation) :
    Announced (leave (sourceOperation zstd params) block op) := by
  have updating : Announced (leave (sourceOperation zstd params) block .doUpdate) := by
    rcases block with ⟨queue, localWriteBuffer, compressedBuffer, fp, newFp, repeats, updated⟩
    cases updated with
    | false => exact announced
    | true =>
        intro staged
        exact absurd staged Bool.false_ne_true
  cases op with
  | openFile content opening repeats =>
      cases opening with
      | openFails => exact announced
      | fdopenFails =>
          intro staged
          exact absurd staged Bool.false_ne_true
      | succeeds =>
          intro _
          rfl
  | close =>
      intro _
      rfl
  | doUpdate => exact updating
  | stop =>
      intro staged
      exact absurd staged Bool.false_ne_true
  | seek seekPoint whence =>
      exact announced_of_staging (leave_seek zstd params seekPoint whence block) announced
  | setBeginTag present => exact announced
  | work noutputItems =>
      exact announced_of_staging (leave_work zstd params noutputItems block) updating

theorem announced_reached {block : FileSource} (reached : SourceReached zstd params block) :
    Announced block := by
  rcases reached with ⟨content, opening, repeats, made, ops, constructed, rfl⟩
  have start : Announced made := by
    cases opening with
    | openFails => cases constructed
    | fdopenFails => cases constructed
    | succeeds =>
        cases constructed
        intro staged
        exact absurd staged Bool.false_ne_true
  apply leave_all_invariant (sourceOperation zstd params) (fun _ => True) Announced
  · intro before op _ announced
    exact announced_step zstd params announced op
  · intro op _
    trivial
  · exact start

/-- An `open` without a stream has discarded what was staged. -/
theorem source_open_without_stream (content : Bytes) (repeats : Bool) (block : FileSource) :
    ∃ after, (FileSourceBlock.openFile content .fdopenFails repeats).run block =
        .error (.exception "can't open file") after ∧
      nextSourceFile zstd params after = if block.updated then none else block.fp := by
  refine ⟨_, rfl, ?_⟩
  rw [next_source_file]

theorem source_unaffected_iff (content : Bytes) {opening : Opening}
    (failed : opening ≠ .succeeds) (repeats : Bool) {block : FileSource}
    (announced : Announced block) :
    SourceUnaffected zstd params content opening repeats block ↔
      opening = .openFails ∨ block.newFp = none := by
  cases opening with
  | openFails => exact iff_of_true ⟨block, rfl, rfl⟩ (.inl rfl)
  | succeeds => exact absurd rfl failed
  | fdopenFails =>
      obtain ⟨left, opened, kept⟩ := source_open_without_stream zstd params content repeats block
      have before := next_source_file zstd params block
      constructor
      · rintro ⟨after, ran, same⟩
        rw [ran, EStateM.Result.error.injEq] at opened
        rw [opened.2, kept, before] at same
        cases staged : block.newFp with
        | none => exact .inr rfl
        | some file =>
            have due : block.updated = true := announced (by rw [staged]; rfl)
            rw [due, staged] at same
            simp at same
      · rintro (other | nothing)
        · simp at other
        · refine ⟨left, opened, ?_⟩
          rw [kept, before, nothing]

end Source

/-! ## When nothing is affected -/

/-- In every state the sink and the source can reach, a failing `open` leaves
the next current file as it would have been exactly if `::open` already fails or
there is nothing it could take away: in the sink no file that would be current
next, in the source none that is staged. -/
theorem failed_open_unaffected_iff (opening : Opening) (failed : opening ≠ .succeeds) :
    (∀ (params : SinkParams) (sink : FileSink) (name : String), SinkReached params sink →
      (SinkUnaffected params name opening sink ↔ opening = .openFails ∨ NothingToLose sink)) ∧
    ∀ (zstd : Zstd) (params : SourceParams) (block : FileSource) (content : Bytes) (repeats : Bool),
      SourceReached zstd params block →
      (SourceUnaffected zstd params content opening repeats block ↔
        opening = .openFails ∨ block.newFp = none) := by
  constructor
  · intro params sink name _
    exact sink_unaffected_iff params name failed sink
  · intro zstd params block content repeats reached
    exact source_unaffected_iff zstd params content failed repeats
      (announced_reached zstd params reached)

/-- A sink whose file is current, with nothing staged. -/
def writingSink : FileSink :=
  leave (sinkOperation byteItems)
    (leave (sinkOperation byteItems) (sinkStart false (fun _ => none) [])
      (.openFile "capture.zst" .succeeds)) .doUpdate

theorem writing_sink_reached : SinkReached byteItems writingSink :=
  ⟨false, fun _ => none, [], "capture.zst", .succeeds, _, [.doUpdate], rfl, rfl⟩

def sampleItems : SourceParams where
  itemsize := 1
  itemsize_pos := Nat.one_pos

/-- A source on an empty file that has another one staged. -/
def switchingSource : FileSource :=
  match (FileSourceBlock.make [] .succeeds false).run (FileSourceBlock.unopened false) with
  | .ok _ made =>
      leave (sourceOperation storedZstd sampleItems) made (.openFile [7] .succeeds false)
  | .error _ stopped => stopped

theorem switching_source_reached : SourceReached storedZstd sampleItems switchingSource :=
  ⟨[], .succeeds, false, _, [.openFile [7] .succeeds false], rfl, rfl⟩

/-- The sink loses its current file to an `open` of another, the source the
file it has staged. -/
theorem failed_open_takes_files :
    (SinkReached byteItems writingSink ∧
      ¬SinkUnaffected byteItems "other.zst" .fdopenFails writingSink) ∧
    SourceReached storedZstd sampleItems switchingSource ∧
      ¬SourceUnaffected storedZstd sampleItems [9] .fdopenFails false switchingSource := by
  have failed : Opening.fdopenFails ≠ .succeeds := by decide
  refine ⟨⟨writing_sink_reached, ?_⟩, switching_source_reached, ?_⟩
  · rw [sink_unaffected_iff byteItems "other.zst" failed, not_or]
    constructor
    · decide
    · rintro ⟨_, nothing⟩
      exact absurd (nothing rfl) (by decide)
  · have announced := announced_reached storedZstd sampleItems switching_source_reached
    rw [source_unaffected_iff storedZstd sampleItems [9] failed false announced, not_or]
    constructor
    · decide
    · exact Option.some_ne_none _

/-- The two ways to fail, on these two. -/
theorem failed_open_unaffected_iff_both_ways :
    ((SinkUnaffected byteItems "other.zst" .openFails writingSink ↔
        Opening.openFails = .openFails ∨ NothingToLose writingSink) ∧
      (SourceUnaffected storedZstd sampleItems [9] .openFails false switchingSource ↔
        Opening.openFails = .openFails ∨ switchingSource.newFp = none)) ∧
    (SinkUnaffected byteItems "other.zst" .fdopenFails writingSink ↔
        Opening.fdopenFails = .openFails ∨ NothingToLose writingSink) ∧
      (SourceUnaffected storedZstd sampleItems [9] .fdopenFails false switchingSource ↔
        Opening.fdopenFails = .openFails ∨ switchingSource.newFp = none) := by
  have atOpen := failed_open_unaffected_iff .openFails (by decide)
  have atStream := failed_open_unaffected_iff .fdopenFails (by decide)
  exact ⟨⟨atOpen.1 byteItems writingSink "other.zst" writing_sink_reached,
      atOpen.2 storedZstd sampleItems switchingSource [9] false switching_source_reached⟩,
    atStream.1 byteItems writingSink "other.zst" writing_sink_reached,
    atStream.2 storedZstd sampleItems switchingSource [9] false switching_source_reached⟩

end GrCompress.FailedOpens
