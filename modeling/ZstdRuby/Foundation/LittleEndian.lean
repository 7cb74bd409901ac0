import Mathlib.Data.List.Basic
import Mathlib.Tactic.Ring

/-! # Little-endian byte strings -/

namespace LittleEndian

def value : List UInt8 → Nat
  | [] => 0
  | low :: high => low.toNat + 256 * value high

def encode : (width : Nat) → Nat → List UInt8
  | 0, _ => []
  | width + 1, number => UInt8.ofNat number :: encode width (number / 256)

@[simp] theorem encode_length (width number : Nat) :
    (encode width number).length = width := by
  induction width generalizing number with
  | zero => rfl
  | succ width induction => simp [encode, induction]

theorem value_encode (width number : Nat) :
    value (encode width number) = number % 256 ^ width := by
  induction width generalizing number with
  | zero => simp [encode, value, Nat.mod_one]
  | succ width induction =>
      rw [Nat.pow_succ, Nat.mul_comm (256 ^ width) 256, Nat.mod_mul]
      simp [encode, value, induction]

theorem value_encode_of_lt {width number : Nat} (fits : number < 256 ^ width) :
    value (encode width number) = number := by
  rw [value_encode, Nat.mod_eq_of_lt fits]

theorem encode_value (bytes : List UInt8) : encode bytes.length (value bytes) = bytes := by
  induction bytes with
  | nil => rfl
  | cons low high induction =>
      have bound := UInt8.toNat_lt low
      have shift : (low.toNat + 256 * value high) / 256 = value high := by omega
      have byte : UInt8.ofNat (low.toNat + 256 * value high) = low :=
        UInt8.toNat_inj.mp (by simp)
      rw [List.length_cons, value, encode, shift, byte, induction]

theorem value_lt (bytes : List UInt8) : value bytes < 256 ^ bytes.length := by
  induction bytes with
  | nil => simp [value]
  | cons low high induction =>
      have lowBound := UInt8.toNat_lt low
      rw [value, List.length_cons, pow_succ]
      omega

end LittleEndian
