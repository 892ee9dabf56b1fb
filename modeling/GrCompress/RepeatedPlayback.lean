import GrCompress.FilePlayback

/-!
# Repeat mode makes progress

A request that the rest of the file cannot serve is answered with 0 after a
rewind, and everything decoded on the way stays in the queue. So each such answer
adds one whole pass to what the next request can be served from, and the answers
0 in a row are bounded by the passes a request is long.
-/

namespace GrCompress.RepeatedPlayback

open GrCompress.CallRuns
open GrCompress.ZstdCodec
open GrCompress.RecordFormat
open GrCompress.FileSourceBlock
open GrCompress.FilePlayback
open GrCompress.StoredFrameCodec

set_option autoImplicit false

variable (zstd : Zstd) (params : SourceParams)

/-- Asked for the same again and again, the source answers 0 at most `limit`
times, and then serves the request in full. -/
def ServesWithin (block : FileSource) (noutputItems limit : Nat) : Prop :=
  ∃ zeros items final, zeros ≤ limit ∧ items.length = noutputItems * params.itemsize ∧
    (runAll (work zstd params) (List.replicate (zeros + 1) noutputItems)).run block =
      .ok (List.replicate zeros { returned := 0, items := [] } ++
        [{ returned := noutputItems, items := items }]) final

section Passes

variable {zstd params}

theorem serves_at_once {block after : FileSource} {noutputItems : Nat} {items : Bytes}
    (length : items.length = noutputItems * params.itemsize)
    (served : (work zstd params noutputItems).run block =
      .ok { returned := noutputItems, items := items } after) (limit : Nat) :
    ServesWithin zstd params block noutputItems limit := by
  refine ⟨0, items, after, Nat.zero_le limit, length, ?_⟩
  rw [List.replicate_one]
  exact run_all_single_ok (work zstd params) noutputItems served

theorem serves_after_rewind {block after : FileSource} {noutputItems limit : Nat}
    (rewound : (work zstd params noutputItems).run block =
      .ok { returned := 0, items := [] } after)
    (later : ServesWithin zstd params after noutputItems limit) :
    ServesWithin zstd params block noutputItems (limit + 1) := by
  rcases later with ⟨zeros, items, final, atMost, length, ran⟩
  refine ⟨zeros + 1, items, final, by omega, length, ?_⟩
  rw [List.replicate_succ, run_all_cons_ok (work zstd params) noutputItems _ rewound, ran]
  rfl

/-- A request is served, or it takes all that is coming and a whole pass comes on top. -/
theorem serves_or_rewinds (bounded : zstd.DecompressBounded) {content : Bytes}
    (noutputItems : Nat) {block : FileSource} {playback : Playback}
    (plays : Plays content true block playback) :
    (∃ items after, items.length = noutputItems * params.itemsize ∧
      (work zstd params noutputItems).run block =
        .ok { returned := noutputItems, items := items } after) ∨
      ∃ after next, (work zstd params noutputItems).run block =
          .ok { returned := 0, items := [] } after ∧
        Plays content true after next ∧
        (Playback.coming zstd playback).length < noutputItems * params.itemsize ∧
        Playback.coming zstd next =
          Playback.coming zstd playback ++ decodedContent zstd content := by
  obtain ⟨output, after, next, ran, step, nextPlays⟩ :=
    work_run zstd params bounded noutputItems plays
  cases step with
  | served queue decoded ahead enough =>
      exact .inl ⟨_, after, List.length_take_of_le enough, ran⟩
  | ended queue ahead once _ => simp at once
  | rewound queue ahead _ short => exact .inr ⟨after, _, ran, nextPlays, short, rfl⟩

/-- What is coming in this pass and `limit` more passes are enough for the request. -/
theorem serves_within_passes (bounded : zstd.DecompressBounded) {content : Bytes}
    (noutputItems limit : Nat) {block : FileSource} {playback : Playback}
    (plays : Plays content true block playback)
    (enough : noutputItems * params.itemsize ≤
      (Playback.coming zstd playback).length + limit * (decodedContent zstd content).length) :
    ServesWithin zstd params block noutputItems limit := by
  induction limit generalizing block playback with
  | zero =>
      rcases serves_or_rewinds bounded noutputItems plays with
        ⟨items, after, length, served⟩ | ⟨_, _, _, _, short, _⟩
      · exact serves_at_once length served 0
      · omega
  | succ limit induction =>
      rcases serves_or_rewinds bounded noutputItems plays with
        ⟨items, after, length, served⟩ | ⟨after, next, rewound, nextPlays, _, coming⟩
      · exact serves_at_once length served (limit + 1)
      · apply serves_after_rewind rewound
        apply induction nextPlays
        rw [coming, List.length_append]
        rw [Nat.add_mul, Nat.one_mul] at enough
        omega

theorem serves_within_ceiling (bounded : zstd.DecompressBounded) {content : Bytes}
    (nonempty : decodedContent zstd content ≠ []) (noutputItems : Nat) {block : FileSource}
    {playback : Playback} (plays : Plays content true block playback) :
    ServesWithin zstd params block noutputItems
      ((noutputItems * params.itemsize + (decodedContent zstd content).length - 1) /
        (decodedContent zstd content).length) := by
  apply serves_within_passes bounded noutputItems _ plays
  generalize noutputItems * params.itemsize = wanted
  have positive := List.length_pos_of_ne_nil nonempty
  have division :=
    Nat.div_add_mod' (wanted + (decodedContent zstd content).length - 1)
      (decodedContent zstd content).length
  have remainder := Nat.mod_lt (wanted + (decodedContent zstd content).length - 1) positive
  omega

end Passes

/-- In every state that a repeating source of a file with content reaches, every
call returns, and a request made again and again is served after at most as many
answers 0 as it takes passes of the content to cover it. -/
theorem repeat_makes_progress (bounded : zstd.DecompressBounded) (content : Bytes)
    (nonempty : decodedContent zstd content ≠ []) (requests : List Nat) (noutputItems : Nat) :
    ∃ outputs block, play zstd params content true requests = .ok outputs block ∧
      (∀ request, ∃ output after, (work zstd params request).run block = .ok output after) ∧
      ServesWithin zstd params block noutputItems
        ((noutputItems * params.itemsize + (decodedContent zstd content).length - 1) /
          (decodedContent zstd content).length) := by
  obtain ⟨outputs, block, playback, ran, plays, _⟩ :=
    decodes_run zstd params bounded content true requests
  refine ⟨outputs, block, ran, ?_, serves_within_ceiling bounded nonempty noutputItems plays⟩
  intro request
  obtain ⟨output, after, _, returned, _, _⟩ := work_run zstd params bounded request plays
  exact ⟨output, after, returned⟩

/-- Seven items of a three-byte file take at most three answers 0. -/
theorem repeat_makes_progress_three_bytes :
    ∃ outputs block,
      play storedZstd { itemsize := 1, itemsize_pos := Nat.one_pos } threeByteFile true [2, 4] =
        .ok outputs block ∧
      ServesWithin storedZstd { itemsize := 1, itemsize_pos := Nat.one_pos } block 7 3 := by
  have nonempty : decodedContent storedZstd threeByteFile ≠ [] := by simp [three_byte_file_content]
  obtain ⟨outputs, block, ran, _, serves⟩ := repeat_makes_progress storedZstd
    { itemsize := 1, itemsize_pos := Nat.one_pos } stored_decompress_bounded threeByteFile nonempty
    [2, 4] 7
  rw [three_byte_file_content] at serves
  exact ⟨outputs, block, ran, serves⟩

end GrCompress.RepeatedPlayback
