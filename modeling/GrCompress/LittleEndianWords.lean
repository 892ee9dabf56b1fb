import Mathlib.Algebra.Order.Ring.Nat
import Mathlib.Data.List.Basic

/-!
# Little-endian words

Fixed-width unsigned words as bytes, least significant byte first. Encoding
truncates to the width, as a store into an unsigned field does; the two
directions are inverse on words that fit.
-/

namespace GrCompress.LittleEndianWords

set_option autoImplicit false

def encodeLE : Nat → Nat → List UInt8
  | 0, _ => []
  | width + 1, value => UInt8.ofNat value :: encodeLE width (value / 256)

def decodeLE : List UInt8 → Nat
  | [] => 0
  | byte :: rest => byte.toNat + 256 * decodeLE rest

@[simp] theorem encode_le_length (width value : Nat) : (encodeLE width value).length = width := by
  induction width generalizing value with
  | zero => rfl
  | succ width induction => simp [encodeLE, induction]

theorem decode_encode_le (width value : Nat) :
    decodeLE (encodeLE width value) = value % 256 ^ width := by
  induction width generalizing value with
  | zero => simp [encodeLE, decodeLE, Nat.mod_one]
  | succ width induction =>
      simp only [encodeLE, decodeLE, induction, UInt8.toNat_ofNat']
      rw [Nat.pow_succ 256 width, Nat.mul_comm (256 ^ width) 256, Nat.mod_mul]

theorem decode_le_lt (bytes : List UInt8) : decodeLE bytes < 256 ^ bytes.length := by
  induction bytes with
  | nil => simp [decodeLE]
  | cons byte rest induction =>
      have bounded := byte.toNat_lt
      simp only [decodeLE, List.length_cons, Nat.pow_succ]
      omega

theorem encode_decode_le (bytes : List UInt8) :
    encodeLE bytes.length (decodeLE bytes) = bytes := by
  induction bytes with
  | nil => rfl
  | cons byte rest induction =>
      have bounded := byte.toNat_lt
      have low : UInt8.ofNat (byte.toNat + 256 * decodeLE rest) = byte := by
        apply UInt8.toNat_inj.1
        rw [UInt8.toNat_ofNat']
        omega
      have high : (byte.toNat + 256 * decodeLE rest) / 256 = decodeLE rest := by omega
      simp only [List.length_cons, decodeLE, encodeLE, low, high, induction]

/-! ## 32-bit words -/

def encodeWord (word : UInt32) : List UInt8 := encodeLE 4 word.toNat

def decodeWord (bytes : List UInt8) : UInt32 := UInt32.ofNat (decodeLE (bytes.take 4))

@[simp] theorem encode_word_length (word : UInt32) : (encodeWord word).length = 4 :=
  encode_le_length 4 word.toNat

@[simp] theorem decode_encode_word (word : UInt32) (rest : List UInt8) :
    decodeWord (encodeWord word ++ rest) = word := by
  have bounded : word.toNat < 256 ^ 4 := word.toNat_lt
  rw [decodeWord, List.take_left' (encode_word_length word), encodeWord, decode_encode_le,
    Nat.mod_eq_of_lt bounded]
  exact UInt32.ofNat_toNat

theorem encode_decode_word (bytes : List UInt8) (width : bytes.length = 4) :
    encodeWord (decodeWord bytes) = bytes := by
  have bounded := decode_le_lt bytes
  rw [width] at bounded
  rw [encodeWord, decodeWord, List.take_of_length_le (by omega), UInt32.toNat_ofNat_of_lt' bounded,
    ← width, encode_decode_le]

end GrCompress.LittleEndianWords
