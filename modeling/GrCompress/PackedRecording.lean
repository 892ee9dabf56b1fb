import GrCompress.Packed12Precision
import GrCompress.RecordPaths

/-!
# Samples through all the blocks

Samples are packed to 12 bits, the bytes are compressed and recorded, the file is
played back, and what it delivers is unpacked. Every block may cut its stream as it
likes. The file paths restore bytes exactly, so the only error in the samples is that
of the one rounding in the packer.
-/

namespace GrCompress.PackedRecording

open GrCompress.CallRuns
open GrCompress.CheckedStorage
open GrCompress.LengthFraming
open GrCompress.ZstdCodec
open GrCompress.RecordFormat
open GrCompress.CompressBlock
open GrCompress.Packed12Blocks
open GrCompress.Packed12Precision (recovered unpack_bytes_pack_samples recovered_error)
open GrCompress.FileSourceBlock (SourceParams workDone)
open GrCompress.FileSinkBlock (FileSink SinkSetup)
open GrCompress.FilePlayback (delivered play play_once_run)
open GrCompress.RecordPaths (recordTo record_to_run records_bytes_initial_segment
  decoded_content_append blocksOfOne)
open GrCompress.StoredFrameCodec

set_option autoImplicit false

variable {zstd : Zstd}

/-- A new file decodes to the batches that the calls completed. -/
theorem recorded_batches (params : CompressParams) (succeeds : zstd.CompressSucceeds)
    (roundTrips : zstd.RoundTrips) {chunks : List (Chunk params.itemsize)}
    {outputs : List MessageOutput} {compress : CompressImpl zstd}
    (ran : (runAll (work params) chunks).run (make params zstd) = .ok outputs compress)
    (small : ∀ pdu ∈ publishedMessages outputs, pdu.blob.length < 2 ^ 31)
    (setup : SinkSetup) (itemsize : setup.params.itemsize = 1) (fresh : setup.append = false) :
    ∃ outs sink, recordTo setup (publishedMessages outputs) = .ok outs sink ∧
      decodedContent zstd (sink.disk.content setup.name) ++ pendingBytes compress =
        consumedBytes params chunks := by
  have invariant := work_run_returned params succeeds ran
  obtain ⟨messages, shape, carried⟩ :=
    published_messages_shape params invariant.published small
  obtain ⟨outs, sink, recorded, content⟩ := record_to_run setup itemsize messages
  have base : setup.base = [] := by
    rw [SinkSetup.base, fresh]
    rfl
  have complete : tail recordFraming [] = [] := tail_nil
  have decoded : decodedContent zstd (encodeFrames (messages.map Message.record)) =
      (batches params chunks).1.flatten := by
    rw [← List.nil_append (encodeFrames _), decoded_content_append complete,
      records_bytes_messages roundTrips carried]
    simp [decodedContent, records, batches]
  refine ⟨outs, sink, by rw [shape]; exact recorded, ?_⟩
  rw [content, base, List.nil_append, decoded, pending_bytes_eq invariant.state.holds]
  exact batches_conserve params chunks

theorem pack_samples_length (samples : List GrComplex) :
    (packSamples samples).length = samples.length * 3 := by
  induction samples with
  | nil => rfl
  | cons sample samples induction =>
      rw [packSamples, List.flatMap_cons, List.length_append, ← packSamples, induction,
        List.length_cons, Nat.succ_mul, Nat.add_comm]
      rfl

theorem floats_take_subset {samples : List GrComplex} (count : Nat) {x : ℚ}
    (member : x ∈ floats (samples.take count)) : x ∈ floats samples := by
  rw [← List.take_append_drop count samples, floats_append]
  exact List.mem_append_left _ member

/-- Each real and each imaginary part is off by at most half a step of the 12 bits. -/
def OffByHalfStep (samples returned : List GrComplex) : Prop :=
  List.Forall₂ (fun x y => |y - x| ≤ 1 / 4095) (floats samples) (floats returned)

/-- The first bytes of packed samples are unpacked to the first samples, each off by
at most half a step. -/
theorem unpack_initial (samples : List GrComplex)
    (unit : ∀ x ∈ floats samples, -1 ≤ x ∧ x ≤ 1) (received : List ByteWindow)
    (initial : windowBytes received <+: packSamples samples) :
    ∃ unpacked, (runAll unpackWindow received).run () = .ok unpacked () ∧
      OffByHalfStep (samples.take (unpacked.flatMap ComplexOutput.items).length)
        (unpacked.flatMap ComplexOutput.items) ∧
      3 * (unpacked.flatMap ComplexOutput.items).length = (windowBytes received).length := by
  obtain ⟨unpacked, ran, items⟩ := unpack_stream_run received
  have triples := window_bytes_length received
  obtain ⟨count, countEq⟩ : ∃ count, count = (received.map ByteWindow.noutputItems).sum :=
    ⟨_, rfl⟩
  rw [← countEq] at triples
  have inside := initial.length_le
  rw [triples, pack_samples_length] at inside
  have length : (samples.take count).length = count := List.length_take_of_le (by omega)
  have bytes : windowBytes received = packSamples (samples.take count) := by
    have cut := pack_samples_append (samples.take count) (samples.drop count)
    rw [List.take_append_drop] at cut
    rw [cut] at initial
    have same : (windowBytes received).length = (packSamples (samples.take count)).length := by
      rw [triples, pack_samples_length, length]
    apply List.IsPrefix.eq_of_length _ same
    exact List.prefix_of_prefix_length_le initial (List.prefix_append _ _) same.le
  have back := unpack_bytes_pack_samples (samples.take count)
  rw [← bytes, ← items] at back
  have lengths := congrArg List.length back
  rw [List.length_map, floats_length, floats_length, length] at lengths
  have unpackedCount : (unpacked.flatMap ComplexOutput.items).length = count := by omega
  refine ⟨unpacked, ran, ?_, by omega⟩
  rw [OffByHalfStep, unpackedCount, back, List.forall₂_map_right_iff, List.forall₂_same]
  intro x member
  have inScale := unit x (floats_take_subset count member)
  exact recovered_error inScale.1 inScale.2

/-- Samples that are packed, compressed, recorded, played back and unpacked come back
in order, each off by at most half a step. When the source has ended the stream, only
what it and the compressor still hold is missing. -/
theorem packed_recording_plays (params : CompressParams) (succeeds : zstd.CompressSucceeds)
    (roundTrips : zstd.RoundTrips) (bounded : zstd.DecompressBounded) (setup : SinkSetup)
    (itemsize : setup.params.itemsize = 1) (fresh : setup.append = false)
    (windows : List (List GrComplex)) (unit : ∀ x ∈ floats windows.flatten, -1 ≤ x ∧ x ≤ 1) :
    ∃ packed, (runAll packWindow windows).run () = .ok packed () ∧
      ∀ (chunks : List (Chunk params.itemsize)) (outputs : List MessageOutput)
        (compress : CompressImpl zstd),
        consumedBytes params chunks <+: packed.flatMap StreamOutput.items →
        (runAll (work params) chunks).run (make params zstd) = .ok outputs compress →
        (∀ pdu ∈ publishedMessages outputs, pdu.blob.length < 2 ^ 31) →
        ∃ outs sink, recordTo setup (publishedMessages outputs) = .ok outs sink ∧
          ∀ (source : SourceParams) (requests : List Nat), ∃ answers played,
            play zstd source (sink.disk.content setup.name) false requests =
                .ok answers played ∧
              ∀ received : List ByteWindow, windowBytes received <+: delivered answers →
                ∃ unpacked, (runAll unpackWindow received).run () = .ok unpacked () ∧
                  OffByHalfStep
                    (windows.flatten.take (unpacked.flatMap ComplexOutput.items).length)
                    (unpacked.flatMap ComplexOutput.items) ∧
                  ((∃ answer ∈ answers, answer.returned = workDone) →
                    windowBytes received = delivered answers →
                    (consumedBytes params chunks).length =
                      3 * (unpacked.flatMap ComplexOutput.items).length +
                        played.byteQueue.length + (pendingBytes compress).length) := by
  obtain ⟨packed, packing, bytes⟩ := pack_stream_run windows
  refine ⟨packed, packing, ?_⟩
  intro chunks outputs compress initial ran small
  obtain ⟨outs, sink, recorded, content⟩ :=
    recorded_batches params succeeds roundTrips ran small setup itemsize fresh
  refine ⟨outs, sink, recorded, ?_⟩
  intro source requests
  obtain ⟨answers, played, taken, playing, takenFirst, decoded, exhausted⟩ :=
    play_once_run zstd source bounded (sink.disk.content setup.name) requests
  refine ⟨answers, played, playing, ?_⟩
  intro received first
  have inFile : delivered answers <+: decodedContent zstd (sink.disk.content setup.name) := by
    have inTaken : delivered answers <+: recordsBytes zstd taken := ⟨_, decoded⟩
    exact inTaken.trans (records_bytes_initial_segment takenFirst)
  have inConsumed : decodedContent zstd (sink.disk.content setup.name) <+:
      consumedBytes params chunks := ⟨_, content⟩
  rw [bytes] at initial
  obtain ⟨unpacked, unpacking, near, count⟩ := unpack_initial windows.flatten unit received
    (first.trans (inFile.trans (inConsumed.trans initial)))
  refine ⟨unpacked, unpacking, near, ?_⟩
  intro ended whole
  have held := congrArg List.length decoded
  rw [exhausted ended, List.length_append, ← whole] at held
  have lengths := congrArg List.length content
  rw [List.length_append, decodedContent, ← held] at lengths
  omega

/-- One sample at both ends of the scale. -/
def corner : GrComplex where
  real := 1
  imag := -1

theorem pack_corner : packSamples [corner] = [0xff, 0xf0, 0x00] := by decide +kernel

def newFile : SinkSetup where
  params :=
    { itemsize := 1
      itemsize_pos := Nat.one_pos }
  name := "samples"
  unbuffered := false
  append := false
  disk := fun _ => none

/-- One sample that is recorded in blocks of one byte. -/
theorem packed_recording_plays_one_sample :
    ∃ outputs, ∃ compress : CompressImpl storedZstd, ∃ outs sink,
      (runAll (work (blocksOfOne true)) [⟨3, [0xff, 0xf0, 0x00], rfl⟩]).run
        (make (blocksOfOne true) storedZstd) = .ok outputs compress ∧
      recordTo newFile (publishedMessages outputs) = .ok outs sink ∧
      ∀ (source : SourceParams) (requests : List Nat), ∃ answers played,
        play storedZstd source (sink.disk.content "samples") false requests =
            .ok answers played ∧
          ∀ received : List ByteWindow, windowBytes received <+: delivered answers →
            ∃ unpacked, (runAll unpackWindow received).run () = .ok unpacked () ∧
              OffByHalfStep ([corner].take (unpacked.flatMap ComplexOutput.items).length)
                (unpacked.flatMap ComplexOutput.items) := by
  have unit : ∀ x ∈ floats [[corner]].flatten, -1 ≤ x ∧ x ≤ 1 := by
    intro x member
    have value : x = 1 ∨ x = -1 := by simpa [floats, corner] using member
    rcases value with rfl | rfl <;> norm_num
  obtain ⟨outputs, compress, ran, small⟩ : ∃ outputs, ∃ compress : CompressImpl storedZstd,
      (runAll (work (blocksOfOne true)) [⟨3, [0xff, 0xf0, 0x00], rfl⟩]).run
        (make (blocksOfOne true) storedZstd) = .ok outputs compress ∧
      ∀ pdu ∈ publishedMessages outputs, pdu.blob.length < 2 ^ 31 :=
    ⟨_, _, rfl, by decide⟩
  obtain ⟨packed, packing, returned⟩ :=
    packed_recording_plays (blocksOfOne true) stored_compress_succeeds stored_round_trips
      stored_decompress_bounded newFile rfl rfl [[corner]] unit
  obtain ⟨samePacked, packingAgain, bytes⟩ := pack_stream_run [[corner]]
  rw [packing, EStateM.Result.ok.injEq] at packingAgain
  rw [← packingAgain.1] at bytes
  have consumed : consumedBytes (blocksOfOne true) [⟨3, [0xff, 0xf0, 0x00], rfl⟩] <+:
      packed.flatMap StreamOutput.items := by
    rw [bytes]
    exact ⟨[], pack_corner.symm⟩
  obtain ⟨outs, sink, recorded, playback⟩ := returned _ outputs compress consumed ran small
  refine ⟨outputs, compress, outs, sink, ran, recorded, ?_⟩
  intro source requests
  obtain ⟨answers, played, playing, received⟩ := playback source requests
  refine ⟨answers, played, playing, ?_⟩
  intro windows first
  obtain ⟨unpacked, unpacking, near, _⟩ := received windows first
  exact ⟨unpacked, unpacking, near⟩

end GrCompress.PackedRecording
