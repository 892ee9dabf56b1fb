import GrCompress.CallRuns
import GrCompress.HalfEvenRounding
import GrCompress.RecordFormat
import Mathlib.Data.List.Forall2
import Mathlib.Data.Rat.Floor

/-!
# The 12-bit packing blocks

`ComplexToPacked12_impl` scales the two floats of a sample to 12-bit codes and
packs them into three bytes; `Packed12ToComplex_impl` undoes it. Floats are exact
rationals and `lrintf` is rounding to the nearest integer, ties to even. The
integers between are fixed-width, as in the code. Both blocks are stateless.
-/

namespace GrCompress.Packed12Blocks

open GrCompress.CallRuns
open GrCompress.CheckedStorage
open GrCompress.HalfEvenRounding
open GrCompress.ZstdCodec
open GrCompress.RecordFormat

set_option autoImplicit false

/-- `USHRT12_MAX`. -/
def ushrt12Max : Nat := 4095

structure GrComplex where
  real : ℚ
  imag : ℚ
  deriving DecidableEq, Repr

/-- An array of samples, read as an array of floats. -/
def floats (samples : List GrComplex) : List ℚ :=
  samples.flatMap fun sample => [sample.real, sample.imag]

/-! ## ComplexToPacked12 -/

/-- Shift scale from -1->1 to 0->2 to pack in unsigned correctly. -/
def scaled (x : ℚ) : ℚ := (x + 1) / 2 * ushrt12Max

/-- The `int32_t` that is packed. It is limited from above only. -/
def quantized (x : ℚ) : Int32 := min (Int32.ofInt (roundHalfEven (scaled x))) 4095

/-- Pack into 3 bytes. -/
def pack (real imag : Int32) : Bytes :=
  [((real &&& 0x0FF0) >>> 4).toUInt32.toUInt8,
    (((real &&& 0x000F) <<< 4).toUInt32 + ((imag &&& 0x0F00) >>> 8).toUInt32).toUInt8,
    (imag &&& 0x00FF).toUInt32.toUInt8]

/-- The loop over the floats; `i` grows by two each round. -/
def packLoop (input : List ℚ) : Nat → Nat → EStateM Fault Unit Bytes
  | 0, _ => return []
  | rounds + 1, i => do
      let real ← fetch input i
      let imag ← fetch input (i + 1)
      let later ← packLoop input rounds (i + 2)
      return pack (quantized real) (quantized imag) ++ later

def ComplexToPacked12.work (noutputItems : Nat) (input : List GrComplex) :
    EStateM Fault Unit StreamOutput := do
  let numFloats := noutputItems / 3 * 2
  let out ← packLoop (floats input) (numFloats / 2) 0
  return { returned := noutputItems, items := out }

/-- A `sync_interpolator` by 3 is asked for three bytes for each sample it gets. -/
def packWindow (samples : List GrComplex) : EStateM Fault Unit StreamOutput :=
  ComplexToPacked12.work (3 * samples.length) samples

/-! ## Packed12ToComplex -/

/-- Unpack bytes. -/
def unpack (first second third : UInt8) : UInt16 × UInt16 :=
  ((first.toUInt16 <<< 4) + ((second &&& 0xF0) >>> 4).toUInt16,
    ((second &&& 0x0F).toUInt16 <<< 8) + third.toUInt16)

/-- Convert to float. -/
def toFloat (code : UInt16) : ℚ := (code.toNat : ℚ) / ushrt12Max * 2 - 1

def unpackLoop (input : Bytes) : Nat → Nat → EStateM Fault Unit (List GrComplex)
  | 0, _ => return []
  | rounds + 1, i => do
      let first ← fetch input i
      let second ← fetch input (i + 1)
      let third ← fetch input (i + 2)
      let (real, imag) := unpack first second third
      let later ← unpackLoop input rounds (i + 3)
      return { real := toFloat real, imag := toFloat imag } :: later

/-- What `work` of a block with complex output returns and what it wrote. -/
structure ComplexOutput where
  returned : Nat
  items : List GrComplex
  deriving DecidableEq, Repr

def Packed12ToComplex.work (noutputItems : Nat) (input : Bytes) :
    EStateM Fault Unit ComplexOutput := do
  let inBytes ← intProduct noutputItems 3
  let out ← unpackLoop input (inBytes / 3) 0
  return { returned := noutputItems, items := out }

/-- A window of the input of a `sync_decimator` by 3. The scheduler counts the
items of a window in `int`. -/
structure ByteWindow where
  noutputItems : Nat
  bytes : Bytes
  length_eq : bytes.length = noutputItems * 3
  count_int : noutputItems * 3 < 2 ^ 31

def unpackWindow (window : ByteWindow) : EStateM Fault Unit ComplexOutput :=
  Packed12ToComplex.work window.noutputItems window.bytes

/-! ## Bit fields -/

/-- Masking a field of a word and shifting it down. -/
theorem masked_shift (word width shift : Nat) :
    (word &&& ((2 ^ width - 1) <<< shift)) >>> shift = word / 2 ^ shift % 2 ^ width := by
  rw [Nat.shiftRight_and_distrib, Nat.shiftLeft_shiftRight, Nat.and_two_pow_sub_one_eq_mod,
    Nat.shiftRight_eq_div_pow]

/-- A masked word is not negative, so its arithmetic shift is a logical one. -/
theorem masked_sshift (word mask : BitVec 32) (nonneg : mask.msb = false) (shift : Nat) :
    (word &&& mask).sshiftRight shift = (word &&& mask) >>> shift := by
  apply BitVec.sshiftRight_eq_of_msb_false
  rw [BitVec.msb_and, nonneg, Bool.and_false]

theorem high_bits (word : Int32) :
    ((word &&& 0x0FF0) >>> 4).toUInt32.toNat = word.toUInt32.toNat / 16 % 256 := by
  have shifted := masked_sshift word.toBitVec 0x0FF0 (by decide) 4
  have field := masked_shift word.toUInt32.toNat 8 4
  have same : ((word &&& 0x0FF0) >>> 4).toUInt32.toBitVec =
      (word.toUInt32.toBitVec &&& 0x0FF0) >>> 4 := shifted
  rw [← UInt32.toNat_toBitVec, same]
  simpa [Int32.toNat_toBitVec] using field

theorem upper_bits (word : Int32) :
    ((word &&& 0x0F00) >>> 8).toUInt32.toNat = word.toUInt32.toNat / 256 % 16 := by
  have shifted := masked_sshift word.toBitVec 0x0F00 (by decide) 8
  have field := masked_shift word.toUInt32.toNat 4 8
  have same : ((word &&& 0x0F00) >>> 8).toUInt32.toBitVec =
      (word.toUInt32.toBitVec &&& 0x0F00) >>> 8 := shifted
  rw [← UInt32.toNat_toBitVec, same]
  simpa [Int32.toNat_toBitVec] using field

/-- The 12 low bits of an `int32_t`, which are all that is packed. -/
def low12 (word : Int32) : Nat := word.toUInt32.toNat % 4096

theorem pack_first (real : Int32) :
    (((real &&& 0x0FF0) >>> 4).toUInt32.toUInt8).toNat = low12 real / 16 := by
  have bits := high_bits real
  rw [UInt32.toNat_toUInt8, bits, low12]
  omega

theorem pack_second (real imag : Int32) :
    ((((real &&& 0x000F) <<< 4).toUInt32 + ((imag &&& 0x0F00) >>> 8).toUInt32).toUInt8).toNat =
      low12 real % 16 * 16 + low12 imag / 256 := by
  have bits := upper_bits imag
  have mask : (real &&& 0x000F).toUInt32.toNat = real.toUInt32.toNat % 16 :=
    Nat.and_two_pow_sub_one_eq_mod real.toUInt32.toNat 4
  have shifted : ((real &&& 0x000F) <<< 4).toUInt32.toNat = real.toUInt32.toNat % 16 * 16 := by
    have same : ((real &&& 0x000F) <<< 4).toUInt32 = (real &&& 0x000F).toUInt32 <<< 4 := rfl
    rw [same, UInt32.toNat_shiftLeft, mask, Nat.shiftLeft_eq]
    simp
    omega
  rw [UInt32.toNat_toUInt8, UInt32.toNat_add, bits, shifted, low12, low12]
  omega

theorem pack_third (imag : Int32) :
    ((imag &&& 0x00FF).toUInt32.toUInt8).toNat = low12 imag % 256 := by
  have mask : (imag &&& 0x00FF).toUInt32.toNat = imag.toUInt32.toNat % 256 :=
    Nat.and_two_pow_sub_one_eq_mod imag.toUInt32.toNat 8
  rw [UInt32.toNat_toUInt8, mask, low12]
  omega

theorem unpack_codes (first second third : UInt8) :
    (unpack first second third).1.toNat = first.toNat * 16 + second.toNat / 16 ∧
      (unpack first second third).2.toNat = second.toNat % 16 * 256 + third.toNat := by
  have firstBound := first.toNat_lt
  have secondBound := second.toNat_lt
  have thirdBound := third.toNat_lt
  have high : ((second &&& 0xF0) >>> 4).toNat = second.toNat / 16 := by
    have field := masked_shift second.toNat 4 4
    have same : ((second &&& 0xF0) >>> 4).toNat = (second.toNat &&& 240) >>> 4 := rfl
    simp only [Nat.reducePow, Nat.reduceSub, Nat.reduceShiftLeft] at field
    rw [same, field]
    omega
  have low : (second &&& 0x0F).toNat = second.toNat % 16 :=
    Nat.and_two_pow_sub_one_eq_mod second.toNat 4
  have firstShift : (first.toUInt16 <<< 4).toNat = first.toNat <<< 4 % 65536 := rfl
  have lowShift : ((second &&& 0x0F).toUInt16 <<< 8).toNat =
      (second &&& 0x0F).toNat <<< 8 % 65536 := rfl
  constructor
  · rw [unpack, UInt16.toNat_add, firstShift, UInt8.toNat_toUInt16, high, Nat.shiftLeft_eq]
    omega
  · rw [unpack, UInt16.toNat_add, lowShift, UInt8.toNat_toUInt16, low, Nat.shiftLeft_eq]
    omega

/-- Unpacking recovers the 12 low bits of both words. -/
theorem unpack_pack (real imag : Int32) :
    ∃ first second third, pack real imag = [first, second, third] ∧
      (unpack first second third).1.toNat = low12 real ∧
      (unpack first second third).2.toNat = low12 imag := by
  refine ⟨_, _, _, rfl, ?_, ?_⟩
  · rw [(unpack_codes _ _ _).1, pack_first, pack_second]
    have bound : low12 imag < 4096 := Nat.mod_lt _ (by decide)
    omega
  · rw [(unpack_codes _ _ _).2, pack_second, pack_third]
    have bound : low12 imag < 4096 := Nat.mod_lt _ (by decide)
    omega

/-- Packing two words whose low bits are the codes of three bytes restores the bytes. -/
theorem pack_unpack (first second third : UInt8) {real imag : Int32}
    (realCode : low12 real = (unpack first second third).1.toNat)
    (imagCode : low12 imag = (unpack first second third).2.toNat) :
    pack real imag = [first, second, third] := by
  rw [(unpack_codes _ _ _).1] at realCode
  rw [(unpack_codes _ _ _).2] at imagCode
  have firstBound := first.toNat_lt
  have secondBound := second.toNat_lt
  have thirdBound := third.toNat_lt
  have firstEq : ((real &&& 0x0FF0) >>> 4).toUInt32.toUInt8 = first := by
    rw [← UInt8.toNat_inj, pack_first, realCode]
    omega
  have secondEq : (((real &&& 0x000F) <<< 4).toUInt32 +
      ((imag &&& 0x0F00) >>> 8).toUInt32).toUInt8 = second := by
    rw [← UInt8.toNat_inj, pack_second, realCode, imagCode]
    omega
  have thirdEq : (imag &&& 0x00FF).toUInt32.toUInt8 = third := by
    rw [← UInt8.toNat_inj, pack_third, imagCode]
    omega
  rw [pack, firstEq, secondEq, thirdEq]

/-! ## Streams -/

@[simp] theorem floats_nil : floats [] = [] := rfl

@[simp] theorem floats_cons (sample : GrComplex) (samples : List GrComplex) :
    floats (sample :: samples) = sample.real :: sample.imag :: floats samples := rfl

@[simp] theorem floats_append (first second : List GrComplex) :
    floats (first ++ second) = floats first ++ floats second := by
  simp [floats]

@[simp] theorem floats_length (samples : List GrComplex) :
    (floats samples).length = 2 * samples.length := by
  induction samples with
  | nil => rfl
  | cons sample samples induction =>
      simp only [floats_cons, List.length_cons, induction]
      omega

/-- The bytes a list of samples is packed to. -/
def packSamples (samples : List GrComplex) : Bytes :=
  samples.flatMap fun sample => pack (quantized sample.real) (quantized sample.imag)

/-- The samples a list of bytes is unpacked to. -/
def unpackBytes : Bytes → List GrComplex
  | first :: second :: third :: rest =>
      { real := toFloat (unpack first second third).1
        imag := toFloat (unpack first second third).2 } :: unpackBytes rest
  | _ => []

/-- The loop packs the samples from the `i`-th float on. -/
theorem pack_loop_run (samples earlier : List GrComplex) :
    (packLoop (floats (earlier ++ samples)) samples.length (2 * earlier.length)).run () =
      .ok (packSamples samples) () := by
  induction samples generalizing earlier with
  | nil => rfl
  | cons sample samples induction =>
      have length := floats_length earlier
      have real : (floats (earlier ++ sample :: samples))[2 * earlier.length]? =
          some sample.real := by
        rw [floats_append, List.getElem?_append_right (by omega), length, Nat.sub_self]
        rfl
      have imag : (floats (earlier ++ sample :: samples))[2 * earlier.length + 1]? =
          some sample.imag := by
        rw [floats_append, List.getElem?_append_right (by omega), length,
          Nat.add_sub_cancel_left]
        rfl
      have later := induction (earlier ++ [sample])
      rw [List.append_assoc, List.singleton_append, List.length_append, List.length_singleton,
        Nat.mul_add, Nat.mul_one] at later
      simp only [List.length_cons, packLoop, EStateM.run_bind, fetch, real, imag,
        EStateM.run_pure, later, packSamples, List.flatMap_cons]

theorem pack_window_run (samples : List GrComplex) :
    (packWindow samples).run () =
      .ok { returned := (3 * samples.length : Nat), items := packSamples samples } () := by
  have rounds : 3 * samples.length / 3 * 2 / 2 = samples.length := by omega
  have looped := pack_loop_run samples []
  simp only [List.nil_append, List.length_nil, Nat.mul_zero] at looped
  simp only [packWindow, ComplexToPacked12.work, rounds, EStateM.run_bind, looped,
    EStateM.run_pure]

theorem first_triple {count : Nat} {bytes : Bytes} (length : bytes.length = (count + 1) * 3) :
    ∃ first second third rest, bytes = first :: second :: third :: rest ∧
      rest.length = count * 3 := by
  rcases bytes with _ | ⟨first, _ | ⟨second, _ | ⟨third, rest⟩⟩⟩
  · simp at length
  · simp at length
    omega
  · simp at length
    omega
  · simp only [List.length_cons] at length
    exact ⟨first, second, third, rest, rfl, by omega⟩

/-- The loop unpacks the triples from the `i`-th byte on. -/
theorem unpack_loop_run (rounds : Nat) (earlier bytes : Bytes)
    (length : bytes.length = rounds * 3) :
    (unpackLoop (earlier ++ bytes) rounds earlier.length).run () =
      .ok (unpackBytes bytes) () := by
  induction rounds generalizing earlier bytes with
  | zero =>
      have empty : bytes = [] := List.length_eq_zero_iff.1 (by omega)
      rw [empty]
      rfl
  | succ rounds induction =>
      obtain ⟨first, second, third, rest, rfl, restLength⟩ := first_triple length
      have fetched : ∀ offset, (earlier ++ first :: second :: third :: rest)[earlier.length +
          offset]? = (first :: second :: third :: rest)[offset]? := by
        intro offset
        rw [List.getElem?_append_right (by omega), Nat.add_sub_cancel_left]
      have firstAt : (earlier ++ first :: second :: third :: rest)[earlier.length]? =
          some first := fetched 0
      have secondAt : (earlier ++ first :: second :: third :: rest)[earlier.length + 1]? =
          some second := fetched 1
      have thirdAt : (earlier ++ first :: second :: third :: rest)[earlier.length + 2]? =
          some third := fetched 2
      have later := induction (earlier ++ [first, second, third]) rest restLength
      rw [List.append_assoc, List.length_append] at later
      simp only [List.cons_append, List.nil_append, List.length_cons, List.length_nil,
        Nat.zero_add, Nat.reduceAdd] at later
      simp only [unpackLoop, EStateM.run_bind, fetch, firstAt, secondAt, thirdAt,
        EStateM.run_pure, later, unpackBytes]

theorem unpack_window_run (window : ByteWindow) :
    (unpackWindow window).run () =
      .ok { returned := window.noutputItems, items := unpackBytes window.bytes } () := by
  have rounds : window.noutputItems * 3 / 3 = window.noutputItems := by omega
  have looped := unpack_loop_run window.noutputItems [] window.bytes window.length_eq
  simp only [List.nil_append, List.length_nil] at looped
  simp only [unpackWindow, Packed12ToComplex.work, EStateM.run_bind,
    int_product_fits window.count_int, rounds, looped, EStateM.run_pure]

theorem pack_samples_append (first second : List GrComplex) :
    packSamples (first ++ second) = packSamples first ++ packSamples second := by
  simp [packSamples]

/-- Whole triples of bytes are unpacked independently of what follows. -/
theorem unpack_bytes_append (count : Nat) (first second : Bytes)
    (length : first.length = count * 3) :
    unpackBytes (first ++ second) = unpackBytes first ++ unpackBytes second := by
  induction count generalizing first with
  | zero =>
      have empty : first = [] := List.length_eq_zero_iff.1 (by omega)
      rw [empty]
      rfl
  | succ count induction =>
      obtain ⟨one, two, three, rest, rfl, restLength⟩ := first_triple length
      simp only [List.cons_append, unpackBytes, induction rest restLength]

/-- However a stream of samples is cut into windows, all of it is packed. -/
theorem pack_stream_run (windows : List (List GrComplex)) :
    ∃ packed, (runAll packWindow windows).run () = .ok packed () ∧
      packed.flatMap StreamOutput.items = packSamples windows.flatten := by
  obtain ⟨packed, final, ran, bytes⟩ := run_all_total packWindow (fun _ => True)
    (fun windows packed _ =>
      packed.flatMap StreamOutput.items = packSamples windows.flatten)
    (by
      intro done outs _ samples _ sofar
      refine ⟨_, _, pack_window_run samples, ?_⟩
      simp only [List.flatMap_append, List.flatten_append, sofar, pack_samples_append]
      simp)
    windows (fun _ _ => trivial) () rfl
  exact ⟨packed, ran, bytes⟩

/-- The bytes of a list of windows. -/
def windowBytes (windows : List ByteWindow) : Bytes := windows.flatMap ByteWindow.bytes

theorem window_bytes_length (windows : List ByteWindow) :
    (windowBytes windows).length = (windows.map ByteWindow.noutputItems).sum * 3 := by
  induction windows with
  | nil => rfl
  | cons window windows induction =>
      rw [windowBytes, List.flatMap_cons, List.length_append, ← windowBytes, induction,
        window.length_eq, List.map_cons, List.sum_cons, Nat.add_mul]

theorem unpack_stream_run (windows : List ByteWindow) :
    ∃ unpacked, (runAll unpackWindow windows).run () = .ok unpacked () ∧
      unpacked.flatMap ComplexOutput.items = unpackBytes (windowBytes windows) := by
  obtain ⟨unpacked, final, ran, samples⟩ := run_all_total unpackWindow (fun _ => True)
    (fun windows unpacked _ =>
      unpacked.flatMap ComplexOutput.items = unpackBytes (windowBytes windows))
    (by
      intro done outs _ window _ sofar
      refine ⟨_, _, unpack_window_run window, ?_⟩
      have more : windowBytes (done ++ [window]) = windowBytes done ++ window.bytes := by
        simp [windowBytes]
      rw [more, unpack_bytes_append _ _ _ (window_bytes_length done), List.flatMap_append, sofar]
      simp)
    windows (fun _ _ => trivial) () rfl
  exact ⟨unpacked, ran, samples⟩

end GrCompress.Packed12Blocks
