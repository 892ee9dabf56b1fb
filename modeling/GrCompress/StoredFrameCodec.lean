import GrCompress.ZstdCodec

/-!
# A codec that stores

A concrete instance of the zstd interface, to evaluate the model on. Up to 255
bytes become one zstd frame with one raw block, which is what zstd itself makes
of inputs too short to compress: magic number, a single-segment descriptor, the
content size, the block header and the bytes. Longer inputs are tagged and
copied; no evaluation below uses them.
-/

namespace GrCompress.StoredFrameCodec

open GrCompress.ZstdCodec

set_option autoImplicit false

/-- The header of a last, raw block: its size above three low bits. -/
def blockHeader (size : Nat) : Bytes := [UInt8.ofNat (8 * size + 1), UInt8.ofNat (size / 32), 0]

def store (source : Bytes) : Bytes :=
  if source.length < 256 then
    [0x28, 0xb5, 0x2f, 0xfd, 0x20, UInt8.ofNat source.length] ++ blockHeader source.length ++ source
  else 0 :: source

def restore : Bytes → Option Bytes
  | [] => some []
  | 0x28 :: 0xb5 :: 0x2f :: 0xfd :: 0x20 :: size :: low :: high :: 0 :: content =>
      if content.length = size.toNat ∧ [low, high, 0] = blockHeader size.toNat then some content
      else none
  | 0 :: content => some content
  | _ => none

theorem store_length_le (source : Bytes) : (store source).length ≤ source.length + 9 := by
  unfold store
  split <;> simp [blockHeader]

theorem restore_store (source : Bytes) : restore (store source) = some source := by
  by_cases short : source.length < 256
  · have size : (UInt8.ofNat source.length).toNat = source.length := by
      rw [UInt8.toNat_ofNat']
      omega
    simp [store, short, restore, blockHeader, size]
  · simp only [store, if_neg short, restore]

/-- The bound of `zstd.h`. -/
def bound (size : Nat) : Nat :=
  size + size / 256 + (if size < 2 ^ 17 then (2 ^ 17 - size) / 2 ^ 11 else 0)

theorem bound_mono {first second : Nat} (le : first ≤ second) : bound first ≤ bound second := by
  unfold bound
  split <;> split <;> omega

theorem store_length_le_bound (source : Bytes) : (store source).length ≤ bound source.length := by
  by_cases short : source.length < 256
  · have length := store_length_le source
    simp only [bound, if_pos (show source.length < 2 ^ 17 by omega)]
    omega
  · simp only [store, if_neg short, List.length_cons, bound]
    split <;> omega

/-- Error 70 is `dstSize_tooSmall`, error 10 is `prefix_unknown`. -/
def storedZstd : Zstd where
  Context := Unit
  createCCtx _ := ()
  compress2 _ capacity source :=
    ((), if (store source).length ≤ capacity then .ok (store source) else .error 69)
  compressBound := bound
  decompressDCtx capacity source :=
    match restore source with
    | some plain => if plain.length ≤ capacity then .ok plain else .error 69
    | none => .error 9

/-- Error 64. -/
def memoryAllocation : ErrorCode := 63

theorem stored_compress_run {capacity : Nat} {source : Bytes}
    (fits : (store source).length ≤ capacity) (context : storedZstd.Context) :
    storedZstd.compress2 context capacity source = ((), .ok (store source)) := by
  simp only [storedZstd, if_pos fits]

theorem stored_compresses_as : storedZstd.CompressesAs store := by
  intro _ capacity source next payload result
  have written := congrArg Prod.snd result
  simp only [storedZstd] at written
  split at written
  · exact (Except.ok.inj written).symm
  · simp at written

theorem stored_compress_succeeds : storedZstd.CompressSucceeds where
  bound_modest size small := by
    simp only [storedZstd, bound]
    split <;> omega
  succeeds _ capacity source room := by
    have fits : (store source).length ≤ capacity :=
      Nat.le_trans (store_length_le_bound source) room
    exact ⟨(), store source, stored_compress_run fits _, fits⟩

theorem stored_compress_bounded : storedZstd.CompressBounded where
  bound_modest := stored_compress_succeeds.bound_modest
  within _ capacity source next payload result := by
    have written := congrArg Prod.snd result
    simp only [storedZstd] at written
    split at written
    · exact Except.ok.inj written ▸ ‹_›
    · simp at written

theorem stored_bound_suffices : storedZstd.BoundSuffices := by
  intro context capacity source next code covers failed
  have fits : (store source).length ≤ capacity :=
    Nat.le_trans (store_length_le_bound source) covers
  rw [stored_compress_run fits] at failed
  exact nomatch congrArg Prod.snd failed

theorem stored_round_trips : storedZstd.RoundTrips := by
  intro context capacity source next payload result room enough
  rw [stored_compresses_as context capacity source next payload result]
  simp [storedZstd, restore_store, enough]

theorem stored_decompress_bounded : storedZstd.DecompressBounded := by
  intro capacity source plain result
  simp only [storedZstd] at result
  split at result
  · split at result
    · exact Except.ok.inj result ▸ ‹_›
    · simp at result
  · simp at result

theorem stored_plain_bytes (size : Nat) (source : Bytes) (room : source.length ≤ size) :
    plainBytes storedZstd size (store source) = source := by
  simp [plainBytes, storedZstd, restore_store, room]

end GrCompress.StoredFrameCodec
