import GrCompress.CheckedStorage

/-!
# The zstd library and its two wrapper classes

The zstd functions are a parameter: their code is outside the repository. What
a result relies on is stated as a named law, each as `zstd.h` documents it. A
compression context is an object with a state of its own, so compression need
not be a function of its input unless a law says so.
-/

namespace GrCompress.ZstdCodec

open GrCompress.CheckedStorage

set_option autoImplicit false

abbrev Bytes := List UInt8

/-- An error number, from 1 to 119. -/
abbrev ErrorCode := Fin 119

/-- The `size_t` an error number is returned as. -/
def ErrorCode.toSize (code : ErrorCode) : Nat := 2 ^ 64 - (code.val + 1)

structure Zstd where
  Context : Type
  createCCtx : Nat → Context
  compress2 : Context → Nat → Bytes → Context × Except ErrorCode Bytes
  compressBound : Nat → Nat
  decompressDCtx : Nat → Bytes → Except ErrorCode Bytes

/-- Decompression writes and returns at most `dstCapacity` bytes. -/
def Zstd.DecompressBounded (zstd : Zstd) : Prop :=
  ∀ capacity source plain, zstd.decompressDCtx capacity source = .ok plain →
    plain.length ≤ capacity

/-- Compression into at least `ZSTD_compressBound(srcSize)` bytes succeeds and
stays within its capacity; the bound of a source below 4 GiB is nowhere near the
largest `size_t`. -/
structure Zstd.CompressSucceeds (zstd : Zstd) : Prop where
  bound_modest : ∀ size, size < 2 ^ 32 → zstd.compressBound size < 2 ^ 62
  succeeds : ∀ context capacity source, zstd.compressBound source.length ≤ capacity →
    ∃ next payload, zstd.compress2 context capacity source = (next, .ok payload) ∧
      payload.length ≤ capacity

/-- Compression may fail; when it succeeds it stays within its capacity. The
bound of a source below 4 GiB is nowhere near the largest `size_t`. -/
structure Zstd.CompressBounded (zstd : Zstd) : Prop where
  bound_modest : ∀ size, size < 2 ^ 32 → zstd.compressBound size < 2 ^ 62
  within : ∀ context capacity source next payload,
    zstd.compress2 context capacity source = (next, .ok payload) → payload.length ≤ capacity

/-- `ZSTD_error_dstSize_tooSmall` is error 70. -/
def ErrorCode.TooSmall (code : ErrorCode) : Prop := code.val + 1 = 70

/-- A destination of `ZSTD_compressBound(srcSize)` bytes is not too small. -/
def Zstd.BoundSuffices (zstd : Zstd) : Prop :=
  ∀ context capacity source next code, zstd.compressBound source.length ≤ capacity →
    zstd.compress2 context capacity source = (next, .error code) → ¬ErrorCode.TooSmall code

/-- Decompression, given room for the original, restores what was compressed. -/
def Zstd.RoundTrips (zstd : Zstd) : Prop :=
  ∀ context capacity source next payload,
    zstd.compress2 context capacity source = (next, .ok payload) →
      ∀ room, source.length ≤ room → zstd.decompressDCtx room payload = .ok source

/-- The bytes compression produces are the function `compressed` of its input. -/
def Zstd.CompressesAs (zstd : Zstd) (compressed : Bytes → Bytes) : Prop :=
  ∀ context capacity source next payload,
    zstd.compress2 context capacity source = (next, .ok payload) → payload = compressed source

variable {State : Type}

/-! ## ZStdCompressor -/

def ZStdCompressor.maxDestBufferSize (zstd : Zstd) (inputSize : Nat) : Nat :=
  zstd.compressBound inputSize

/-- `ZStdCompressor::compress`. The result is returned as zstd returns it: a
size, or an error number as a `size_t` close to 2^64. -/
def ZStdCompressor.compress (zstd : Zstd) (context : zstd.Context) (dst : Buffer UInt8)
    (offset dstCapacity : Nat) (src : Bytes) :
    EStateM Fault State (zstd.Context × Buffer UInt8 × Nat) := do
  reserve dst offset dstCapacity
  match zstd.compress2 context dstCapacity src with
  | (next, .ok payload) =>
      let dst ← store dst offset payload
      return (next, dst, payload.length)
  | (next, .error code) => return (next, dst, ErrorCode.toSize code)

theorem compress_run_ok {zstd : Zstd} {context next : zstd.Context} {array payload src : Bytes}
    {offset dstCapacity : Nat} (window : offset + dstCapacity ≤ array.length)
    (result : zstd.compress2 context dstCapacity src = (next, .ok payload))
    (bounded : payload.length ≤ dstCapacity) (state : State) :
    (ZStdCompressor.compress zstd context (some array) offset dstCapacity src).run state =
      .ok (next, some (overwrite array offset payload), payload.length) state := by
  have inside : offset + payload.length ≤ array.length := by omega
  simp only [ZStdCompressor.compress, EStateM.run_bind, reserve_some window, result,
    store_some inside, EStateM.run_pure]

theorem compress_run_error {zstd : Zstd} {context next : zstd.Context} {array src : Bytes}
    {offset dstCapacity : Nat} {code : ErrorCode} (window : offset + dstCapacity ≤ array.length)
    (result : zstd.compress2 context dstCapacity src = (next, .error code)) (state : State) :
    (ZStdCompressor.compress zstd context (some array) offset dstCapacity src).run state =
      .ok (next, some array, code.toSize) state := by
  simp only [ZStdCompressor.compress, EStateM.run_bind, reserve_some window, result,
    EStateM.run_pure]

/-! ## ZStdDecompressor -/

/-- `ZStdDecompressor::decompress`: a zstd error is reported and becomes 0. -/
def ZStdDecompressor.decompress (zstd : Zstd) (dst : Buffer UInt8) (dstCapacity : Nat)
    (src : Bytes) : EStateM Fault State (Buffer UInt8 × Nat) := do
  unlessEmpty dstCapacity () (reserve dst 0 dstCapacity)
  match zstd.decompressDCtx dstCapacity src with
  | .ok plain =>
      let dst ← unlessEmpty plain.length dst (store dst 0 plain)
      return (dst, plain.length)
  | .error _ => return (dst, 0)

/-- The bytes a record contributes: nothing when zstd reports an error. -/
def plainBytes (zstd : Zstd) (capacity : Nat) (payload : Bytes) : Bytes :=
  match zstd.decompressDCtx capacity payload with
  | .ok plain => plain
  | .error _ => []

theorem plain_bytes_length_le {zstd : Zstd} (bounded : zstd.DecompressBounded)
    (capacity : Nat) (payload : Bytes) : (plainBytes zstd capacity payload).length ≤ capacity := by
  unfold plainBytes
  split
  · exact bounded _ _ _ ‹_›
  · exact Nat.zero_le _

/-- Whatever zstd reports, the destination starts with the record's bytes and
the size returned is their number. -/
theorem decompress_run {zstd : Zstd} {array payload plain : Bytes} {capacity : Nat}
    (contributes : plainBytes zstd capacity payload = plain)
    (window : capacity ≤ array.length) (bounded : plain.length ≤ capacity) (state : State) :
    ∃ written : Bytes, written.length = array.length ∧ written.take plain.length = plain ∧
      (ZStdDecompressor.decompress zstd (some array) capacity payload).run state =
        .ok (some written, plain.length) state := by
  have fits : 0 + capacity ≤ array.length := by omega
  have inside : 0 + plain.length ≤ array.length := by omega
  have reserved : (unlessEmpty capacity () (reserve (some array) 0 capacity)).run state =
      .ok () state := unless_empty_run (reserve_some fits state) fun _ => rfl
  unfold plainBytes at contributes
  cases result : zstd.decompressDCtx capacity payload with
  | error code =>
      simp only [result] at contributes
      subst contributes
      refine ⟨array, rfl, rfl, ?_⟩
      simp only [ZStdDecompressor.decompress, EStateM.run_bind, reserved, result,
        EStateM.run_pure, List.length_nil]
  | ok restored =>
      simp only [result] at contributes
      subst contributes
      have stored : (unlessEmpty restored.length (some array) (store (some array) 0 restored)).run
          state = .ok (some (overwrite array 0 restored)) state := by
        apply unless_empty_run (store_some inside state)
        intro nothing
        rw [List.length_eq_zero_iff.1 nothing, overwrite_nil]
      refine ⟨overwrite array 0 restored, length_overwrite inside,
        take_overwrite_zero array restored, ?_⟩
      simp only [ZStdDecompressor.decompress, EStateM.run_bind, reserved, result, stored,
        EStateM.run_pure]

/-- Without room there may be no destination either. -/
theorem decompress_nowhere {zstd : Zstd} (bounded : zstd.DecompressBounded) (payload : Bytes)
    (state : State) :
    plainBytes zstd 0 payload = [] ∧
      (ZStdDecompressor.decompress zstd none 0 payload).run state = .ok (none, 0) state := by
  have nothing : plainBytes zstd 0 payload = [] :=
    List.length_eq_zero_iff.1 (Nat.le_zero.1 (plain_bytes_length_le bounded 0 payload))
  refine ⟨nothing, ?_⟩
  unfold plainBytes at nothing
  cases result : zstd.decompressDCtx 0 payload with
  | error code =>
      simp only [ZStdDecompressor.decompress, unlessEmpty, if_true, EStateM.run_bind,
        EStateM.run_pure, result]
  | ok restored =>
      simp only [result] at nothing
      simp only [ZStdDecompressor.decompress, unlessEmpty, if_true, EStateM.run_bind,
        EStateM.run_pure, result, nothing, List.length_nil]

end GrCompress.ZstdCodec
