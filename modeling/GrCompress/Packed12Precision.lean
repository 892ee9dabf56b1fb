import GrCompress.Packed12Blocks
import Mathlib.Tactic.FieldSimp
import Mathlib.Tactic.Ring

/-!
# What 12-bit packing does to a sample

Inside the scale the packer rounds once: the code that comes back is the nearest
one, and packing it again changes nothing. Above the scale it saturates. Below
the scale the rounded value is negative, its sign is masked away and its 12 low
bits are packed, which is the end of the scale only when they happen to be zero.
-/

namespace GrCompress.Packed12Precision

open GrCompress.CallRuns
open GrCompress.CheckedStorage
open GrCompress.HalfEvenRounding
open GrCompress.ZstdCodec
open GrCompress.RecordFormat
open GrCompress.Packed12Blocks

set_option autoImplicit false

/-- The rounded value is an `int32_t`. -/
def Representable (x : ℚ) : Prop :=
  -2 ^ 31 ≤ roundHalfEven (scaled x) ∧ roundHalfEven (scaled x) < 2 ^ 31

instance (x : ℚ) : Decidable (Representable x) :=
  inferInstanceAs (Decidable (_ ∧ _))

/-- The code that unpacking recovers for a packed component. -/
def recovered (x : ℚ) : UInt16 := UInt16.ofNat (low12 (quantized x))

theorem recovered_toNat (x : ℚ) : (recovered x).toNat = low12 (quantized x) := by
  have bound : low12 (quantized x) < 4096 := Nat.mod_lt _ (by decide)
  rw [recovered, UInt16.toNat_ofNat']
  omega

theorem eq_recovered {code : UInt16} {x : ℚ} (same : code.toNat = low12 (quantized x)) :
    code = recovered x := by
  rw [← UInt16.toNat_inj, same, recovered_toNat]

/-- What comes back for a stream of samples, component by component. -/
theorem unpack_bytes_pack_samples (samples : List GrComplex) :
    floats (unpackBytes (packSamples samples)) =
      (floats samples).map fun x => toFloat (recovered x) := by
  induction samples with
  | nil => rfl
  | cons sample samples induction =>
      obtain ⟨first, second, third, packed, real, imag⟩ :=
        unpack_pack (quantized sample.real) (quantized sample.imag)
      have bytes : packSamples (sample :: samples) =
          first :: second :: third :: packSamples samples := by
        rw [packSamples, List.flatMap_cons, packed]
        rfl
      rw [bytes, unpackBytes, floats_cons, floats_cons, List.map_cons, List.map_cons, induction,
        eq_recovered real, eq_recovered imag]

theorem low12_eq_toInt (word : Int32) : (low12 word : ℤ) = word.toInt % 4096 := by
  have bits : word.toInt = word.toBitVec.toInt := rfl
  have size : word.toUInt32.toNat = word.toBitVec.toNat := rfl
  have bound := word.toBitVec.isLt
  rw [bits, BitVec.toInt_eq_toNat_cond, low12, size]
  split <;> omega

theorem quantized_toInt {x : ℚ} (representable : Representable x) :
    (quantized x).toInt = min (roundHalfEven (scaled x)) 4095 := by
  have value : (Int32.ofInt (roundHalfEven (scaled x))).toInt = roundHalfEven (scaled x) :=
    Int32.toInt_ofInt_of_le representable.1 representable.2
  have limit : (4095 : Int32).toInt = 4095 := rfl
  have choice : quantized x =
      if Int32.ofInt (roundHalfEven (scaled x)) ≤ 4095 then
        Int32.ofInt (roundHalfEven (scaled x))
      else 4095 := rfl
  rw [choice]
  split
  · have le : (Int32.ofInt (roundHalfEven (scaled x))).toInt ≤ (4095 : Int32).toInt :=
      Int32.le_iff_toInt_le.1 ‹_›
    rw [value, limit] at le
    rw [value, min_eq_left le]
  · have beyond : ¬(Int32.ofInt (roundHalfEven (scaled x))).toInt ≤ (4095 : Int32).toInt :=
      fun le => ‹¬_› (Int32.le_iff_toInt_le.2 le)
    rw [value, limit] at beyond
    rw [limit, min_eq_right (by omega)]

/-- The packed code, as a number: the rounded value, limited from above, modulo 4096. -/
theorem recovered_code {x : ℚ} (representable : Representable x) :
    ((recovered x).toNat : ℤ) = min (roundHalfEven (scaled x)) 4095 % 4096 := by
  rw [recovered_toNat, low12_eq_toInt, quantized_toInt representable]

/-! ## Saturation -/

/-- The code of a packer that saturates at both ends of the scale. -/
def saturated (x : ℚ) : Nat := (max 0 (min (roundHalfEven (scaled x)) 4095)).toNat

theorem scaled_mono {x y : ℚ} (le : x ≤ y) : scaled x ≤ scaled y := by
  unfold scaled ushrt12Max
  push_cast
  linarith

/-- At most half a step below the scale, or within half a step of a multiple of
4096 steps below its lower end. -/
def Saturates (x : ℚ) : Prop :=
  -1 - 1 / 4095 ≤ x ∨ ∃ wraps : ℕ, 1 ≤ wraps ∧ |x + 1 + 8192 * wraps / 4095| ≤ 1 / 4095

theorem round_nonneg_iff (x : ℚ) : 0 ≤ roundHalfEven (scaled x) ↔ -1 - 1 / 4095 ≤ x := by
  rw [le_round_half_even_iff_of_even (by rfl)]
  unfold scaled ushrt12Max
  push_cast
  constructor <;> intro le <;> linarith

theorem round_wraps_iff (x : ℚ) (wraps : ℕ) :
    roundHalfEven (scaled x) = -4096 * wraps ↔ |x + 1 + 8192 * wraps / 4095| ≤ 1 / 4095 := by
  rw [round_half_even_eq_iff_of_even (by omega), abs_le, abs_le]
  unfold scaled ushrt12Max
  push_cast
  constructor
  · rintro ⟨lower, upper⟩
    constructor <;> linarith
  · rintro ⟨lower, upper⟩
    constructor <;> linarith

theorem recovered_saturated_iff {x : ℚ} (representable : Representable x) :
    (recovered x).toNat = saturated x ↔ Saturates x := by
  have code := recovered_code representable
  have wrapped : (∃ wraps : ℕ, 1 ≤ wraps ∧ |x + 1 + 8192 * wraps / 4095| ≤ 1 / 4095) ↔
      ∃ wraps : ℕ, 1 ≤ wraps ∧ roundHalfEven (scaled x) = -4096 * wraps := by
    simp only [round_wraps_iff]
  rw [Saturates, wrapped, ← round_nonneg_iff, saturated]
  generalize roundHalfEven (scaled x) = rounded at code
  constructor
  · intro same
    rcases lt_or_ge rounded 0 with negative | nonneg
    · right
      refine ⟨(-rounded / 4096).toNat, ?_, ?_⟩ <;> omega
    · exact .inl nonneg
  · intro condition
    rcases condition with nonneg | ⟨wraps, positive, wrapped⟩
    · omega
    · omega

/-- The codes recovered for a stream are the saturated ones exactly when each
component is above the lower end of the scale or happens to wrap to it. -/
theorem packer_saturates_iff (windows : List (List GrComplex))
    (representable : ∀ x ∈ floats windows.flatten, Representable x) :
    ∃ packed, (runAll packWindow windows).run () = .ok packed () ∧
      ∀ received : List ByteWindow,
        windowBytes received = packed.flatMap StreamOutput.items →
        ∃ (unpacked : List ComplexOutput) (codes : List UInt16),
          (runAll unpackWindow received).run () = .ok unpacked () ∧
          floats (unpacked.flatMap ComplexOutput.items) = codes.map toFloat ∧
          List.Forall₂ (fun x code => code.toNat = saturated x ↔ Saturates x)
            (floats windows.flatten) codes ∧
          (codes.map UInt16.toNat = (floats windows.flatten).map saturated ↔
            ∀ x ∈ floats windows.flatten, Saturates x) := by
  obtain ⟨packed, ran, bytes⟩ := pack_stream_run windows
  refine ⟨packed, ran, fun received arrived => ?_⟩
  obtain ⟨unpacked, unpackRan, samples⟩ := unpack_stream_run received
  rw [arrived, bytes] at samples
  refine ⟨unpacked, (floats windows.flatten).map recovered, unpackRan, ?_, ?_, ?_⟩
  · rw [samples, unpack_bytes_pack_samples, List.map_map]
    rfl
  · rw [List.forall₂_map_right_iff, List.forall₂_same]
    exact fun x member => recovered_saturated_iff (representable x member)
  · rw [List.map_map, List.map_inj_left]
    exact forall₂_congr fun x member => recovered_saturated_iff (representable x member)

/-- A sample far above the scale, and one in the middle of it. -/
theorem packer_saturates_iff_above_scale :
    ∃ packed, (runAll packWindow [[{ real := 2, imag := 0 }]]).run () = .ok packed () ∧
      ∀ received : List ByteWindow,
        windowBytes received = packed.flatMap StreamOutput.items →
        ∃ (unpacked : List ComplexOutput) (codes : List UInt16),
          (runAll unpackWindow received).run () = .ok unpacked () ∧
          floats (unpacked.flatMap ComplexOutput.items) = codes.map toFloat ∧
          codes.map UInt16.toNat = [4095, 2048] := by
  obtain ⟨packed, ran, returned⟩ := packer_saturates_iff [[{ real := 2, imag := 0 }]] (by
    decide +kernel)
  refine ⟨packed, ran, fun received arrived => ?_⟩
  obtain ⟨unpacked, codes, unpackRan, samples, _, exact⟩ := returned received arrived
  have above : ∀ x ∈ floats [[{ real := 2, imag := 0 }]].flatten, Saturates x := by
    intro x member
    have value : x = 2 ∨ x = 0 := by simpa [floats] using member
    left
    rcases value with rfl | rfl <;> norm_num
  refine ⟨unpacked, codes, unpackRan, samples, (exact.2 above).trans ?_⟩
  decide +kernel

/-- A thousandth of the scale's half-width below it, a sample comes back at the upper end. -/
theorem packer_wraps_below_scale :
    (∀ x ∈ floats [[{ real := -1001 / 1000, imag := 0 }]].flatten, Representable x) ∧
      (runAll packWindow [[{ real := -1001 / 1000, imag := 0 }]]).run () =
        .ok [{ returned := 3, items := [0xff, 0xe8, 0x00] }] () ∧
      (runAll unpackWindow [⟨1, [0xff, 0xe8, 0x00], rfl, by decide⟩]).run () =
        .ok [{ returned := 1, items := [{ real := toFloat 4094, imag := toFloat 2048 }] }] () ∧
      (4094 : UInt16).toNat ≠ saturated (-1001 / 1000) := by
  have bytes : packSamples [{ real := -1001 / 1000, imag := 0 }] = [0xff, 0xe8, 0x00] := by
    decide +kernel
  have packed := pack_window_run [{ real := -1001 / 1000, imag := 0 }]
  rw [bytes] at packed
  refine ⟨by decide +kernel, ?_, ?_, by decide +kernel⟩
  · rw [run_all_cons_ok packWindow _ [] packed]
    rfl
  · rw [run_all_cons_ok unpackWindow _ [] (unpack_window_run _)]
    rfl

/-! ## Inside the scale -/

theorem scaled_toFloat (code : UInt16) : scaled (toFloat code) = ((code.toNat : ℤ) : ℚ) := by
  unfold scaled toFloat ushrt12Max
  push_cast
  ring

theorem toFloat_scaled_error (code : UInt16) (x : ℚ) :
    |toFloat code - x| = |((code.toNat : ℤ) : ℚ) - scaled x| * (2 / 4095) := by
  have factor : toFloat code - x = (((code.toNat : ℤ) : ℚ) - scaled x) * (2 / 4095) := by
    unfold scaled toFloat ushrt12Max
    push_cast
    ring
  rw [factor, abs_mul]
  norm_num

/-- A component of the scale is neither limited nor wrapped. -/
theorem round_of_unit {x : ℚ} (lower : -1 ≤ x) (upper : x ≤ 1) :
    0 ≤ roundHalfEven (scaled x) ∧ roundHalfEven (scaled x) ≤ 4095 := by
  have bottom : scaled (-1) = ((0 : ℤ) : ℚ) := by norm_num [scaled]
  have top : scaled 1 = ((4095 : ℤ) : ℚ) := by norm_num [scaled, ushrt12Max]
  have above := round_half_even_mono (scaled_mono lower)
  have below := round_half_even_mono (scaled_mono upper)
  rw [bottom, round_half_even_intCast] at above
  rw [top, round_half_even_intCast] at below
  exact ⟨above, below⟩

theorem recovered_error {x : ℚ} (lower : -1 ≤ x) (upper : x ≤ 1) :
    |toFloat (recovered x) - x| ≤ 1 / 4095 := by
  obtain ⟨nonneg, limit⟩ := round_of_unit lower upper
  have code : ((recovered x).toNat : ℤ) = roundHalfEven (scaled x) := by
    have packed := recovered_code (x := x) ⟨by omega, by omega⟩
    omega
  have near := abs_round_half_even_sub_le (scaled x)
  rw [toFloat_scaled_error, code]
  linarith

/-- A code is packed as itself. -/
theorem low12_quantized_toFloat {code : UInt16} (bound : code.toNat < 4096) :
    low12 (quantized (toFloat code)) = code.toNat := by
  have rounded : roundHalfEven (scaled (toFloat code)) = code.toNat := by
    rw [scaled_toFloat, round_half_even_intCast]
  have packed := recovered_code (x := toFloat code) (by
    rw [Representable, rounded]
    omega)
  rw [rounded, recovered_toNat] at packed
  omega

theorem pack_samples_unpack_bytes (count : Nat) (bytes : Bytes)
    (length : bytes.length = count * 3) : packSamples (unpackBytes bytes) = bytes := by
  induction count generalizing bytes with
  | zero =>
      have empty : bytes = [] := List.length_eq_zero_iff.1 (by omega)
      rw [empty]
      rfl
  | succ count induction =>
      obtain ⟨first, second, third, rest, rfl, restLength⟩ := first_triple length
      have codes := unpack_codes first second third
      have firstBound := first.toNat_lt
      have secondBound := second.toNat_lt
      have thirdBound := third.toNat_lt
      have realBound : (unpack first second third).1.toNat < 4096 := by omega
      have imagBound : (unpack first second third).2.toNat < 4096 := by omega
      have repacked := pack_unpack first second third (low12_quantized_toFloat realBound)
        (low12_quantized_toFloat imagBound)
      rw [unpackBytes, packSamples, List.flatMap_cons, ← packSamples, repacked,
        induction rest restLength]
      rfl

/-- Every byte string whose length is a multiple of three can be cut into windows. -/
theorem windows_of_bytes (count : Nat) (bytes : Bytes) (length : bytes.length = count * 3) :
    ∃ windows, windowBytes windows = bytes := by
  induction count generalizing bytes with
  | zero =>
      have empty : bytes = [] := List.length_eq_zero_iff.1 (by omega)
      exact ⟨[], by rw [empty]; rfl⟩
  | succ count induction =>
      obtain ⟨first, second, third, rest, rfl, restLength⟩ := first_triple length
      obtain ⟨windows, restCut⟩ := induction rest restLength
      refine ⟨⟨1, [first, second, third], rfl, by decide⟩ :: windows, ?_⟩
      rw [windowBytes, List.flatMap_cons, ← windowBytes, restCut]
      rfl

theorem unpack_after_pack (windows : List (List GrComplex))
    (unit : ∀ x ∈ floats windows.flatten, -1 ≤ x ∧ x ≤ 1) :
    ∃ packed, (runAll packWindow windows).run () = .ok packed () ∧
      ∀ received : List ByteWindow,
        windowBytes received = packed.flatMap StreamOutput.items →
        ∃ unpacked : List ComplexOutput,
          (runAll unpackWindow received).run () = .ok unpacked () ∧
          (unpacked.flatMap ComplexOutput.items).length = windows.flatten.length ∧
          List.Forall₂ (fun x y => |y - x| ≤ 1 / 4095) (floats windows.flatten)
            (floats (unpacked.flatMap ComplexOutput.items)) := by
  obtain ⟨packed, ran, bytes⟩ := pack_stream_run windows
  refine ⟨packed, ran, fun received arrived => ?_⟩
  obtain ⟨unpacked, unpackRan, samples⟩ := unpack_stream_run received
  rw [arrived, bytes] at samples
  have back := unpack_bytes_pack_samples windows.flatten
  rw [← samples] at back
  have lengths := congrArg List.length back
  rw [List.length_map, floats_length, floats_length] at lengths
  refine ⟨unpacked, unpackRan, by omega, ?_⟩
  rw [back, List.forall₂_map_right_iff, List.forall₂_same]
  exact fun x member => recovered_error (unit x member).1 (unit x member).2

theorem pack_after_unpack (received : List ByteWindow) :
    ∃ unpacked : List ComplexOutput, (runAll unpackWindow received).run () = .ok unpacked () ∧
      ∀ windows : List (List GrComplex),
        windows.flatten = unpacked.flatMap ComplexOutput.items →
        ∃ packed, (runAll packWindow windows).run () = .ok packed () ∧
          packed.flatMap StreamOutput.items = windowBytes received := by
  obtain ⟨unpacked, unpackRan, samples⟩ := unpack_stream_run received
  refine ⟨unpacked, unpackRan, fun windows sent => ?_⟩
  obtain ⟨packed, ran, bytes⟩ := pack_stream_run windows
  refine ⟨packed, ran, ?_⟩
  rw [bytes, sent, samples, pack_samples_unpack_bytes _ _ (window_bytes_length received)]

/-- Unpacking what was packed is off by at most half a step, and packing what was
unpacked restores the bytes, however the streams are cut. -/
theorem packing_loses_precision_once :
    (∀ windows : List (List GrComplex), (∀ x ∈ floats windows.flatten, -1 ≤ x ∧ x ≤ 1) →
      ∃ packed, (runAll packWindow windows).run () = .ok packed () ∧
        ∀ received : List ByteWindow,
          windowBytes received = packed.flatMap StreamOutput.items →
          ∃ unpacked : List ComplexOutput,
            (runAll unpackWindow received).run () = .ok unpacked () ∧
            (unpacked.flatMap ComplexOutput.items).length = windows.flatten.length ∧
            List.Forall₂ (fun x y => |y - x| ≤ 1 / 4095) (floats windows.flatten)
              (floats (unpacked.flatMap ComplexOutput.items))) ∧
      ∀ bytes : Bytes, bytes.length % 3 = 0 →
        (∃ received, windowBytes received = bytes) ∧
          ∀ received : List ByteWindow, windowBytes received = bytes →
            ∃ unpacked : List ComplexOutput,
              (runAll unpackWindow received).run () = .ok unpacked () ∧
              ∀ windows : List (List GrComplex),
                windows.flatten = unpacked.flatMap ComplexOutput.items →
                ∃ packed, (runAll packWindow windows).run () = .ok packed () ∧
                  packed.flatMap StreamOutput.items = bytes := by
  refine ⟨unpack_after_pack, fun bytes triples => ⟨?_, ?_⟩⟩
  · exact windows_of_bytes (bytes.length / 3) bytes (by omega)
  · rintro received rfl
    exact pack_after_unpack received

/-- One sample in and out, and the three bytes of its codes. -/
theorem packing_loses_precision_once_one_sample :
    (∃ packed, (runAll packWindow [[{ real := 1 / 3, imag := -1 }]]).run () = .ok packed () ∧
      ∀ received : List ByteWindow,
        windowBytes received = packed.flatMap StreamOutput.items →
        ∃ unpacked : List ComplexOutput,
          (runAll unpackWindow received).run () = .ok unpacked () ∧
          List.Forall₂ (fun x y => |y - x| ≤ 1 / 4095) [1 / 3, -1]
            (floats (unpacked.flatMap ComplexOutput.items))) ∧
      ∃ received, windowBytes received = [0xaa, 0xa0, 0x00] := by
  constructor
  · have unit : ∀ x ∈ floats [[{ real := 1 / 3, imag := -1 }]].flatten, -1 ≤ x ∧ x ≤ 1 := by
      intro x member
      have value : x = 1 / 3 ∨ x = -1 := by simpa [floats] using member
      rcases value with rfl | rfl <;> norm_num
    obtain ⟨packed, ran, returned⟩ := packing_loses_precision_once.1 _ unit
    refine ⟨packed, ran, fun received arrived => ?_⟩
    obtain ⟨unpacked, unpackRan, _, near⟩ := returned received arrived
    exact ⟨unpacked, unpackRan, near⟩
  · exact (packing_loses_precision_once.2 [0xaa, 0xa0, 0x00] rfl).1

end GrCompress.Packed12Precision
