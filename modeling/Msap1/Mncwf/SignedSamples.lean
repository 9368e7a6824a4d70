import Mathlib.Data.Nat.Bitwise
import Msap1.ByteCodec
import Msap1.SignedArithmetic

/-! `decode_signed`: little-endian bytes of a sample, extended from the width of their channel. -/

namespace Msap1.Mncwf

open ByteCodec

/-- `raw |= byte << (index * 8)`, byte after byte. -/
def littleRaw : Nat → Bytes → UInt64 → UInt64
  | _, [], raw => raw
  | index, byte :: bytes, raw =>
      littleRaw (index + 1) bytes (raw ||| (byte.toUInt64 <<< (UInt64.ofNat (index * 8))))

def decodeSigned (bytes : Bytes) (bits : UInt16) : Int64 :=
  let raw := littleRaw 0 bytes 0
  let extended := if bits < 64 then
      let mask := (1 <<< bits.toUInt64) - 1
      let low := raw &&& mask
      if low &&& (1 <<< (bits.toUInt64 - 1)) ≠ 0 then low ||| ~~~mask else low
    else raw
  extended.toInt64

theorem shifted_byte {index : Nat} (small : index < 8) (byte : UInt8) :
    (byte.toUInt64 <<< UInt64.ofNat (index * 8)).toNat = 2 ^ (index * 8) * byte.toNat := by
  have bound := byte.toNat_lt
  have power : 2 ^ (index * 8) ≤ 2 ^ 56 := Nat.pow_le_pow_right (by decide) (by omega)
  have product : byte.toNat * 2 ^ (index * 8) ≤ 255 * 2 ^ 56 :=
    Nat.mul_le_mul (by omega) power
  have count : (UInt64.ofNat (index * 8)).toNat % 64 = index * 8 := by
    rw [UInt64.toNat_ofNat']
    omega
  rw [UInt64.toNat_shiftLeft, count, UInt8.toNat_toUInt64, Nat.shiftLeft_eq,
    Nat.mod_eq_of_lt (by omega), Nat.mul_comm]

theorem littleRaw_toNat {index : Nat} {bytes : Bytes} {raw : UInt64}
    (fits : index + bytes.length ≤ 8) (low : raw.toNat < 2 ^ (index * 8)) :
    (littleRaw index bytes raw).toNat = raw.toNat + 2 ^ (index * 8) * ofLittle bytes := by
  induction bytes generalizing index raw with
  | nil => simp [littleRaw, ofLittle]
  | cons byte bytes ih =>
      rw [List.length_cons] at fits
      have bound := byte.toNat_lt
      have joined : (raw ||| (byte.toUInt64 <<< UInt64.ofNat (index * 8))).toNat =
          raw.toNat + 2 ^ (index * 8) * byte.toNat := by
        rw [UInt64.toNat_or, shifted_byte (by omega), Nat.or_comm,
          ← Nat.two_pow_add_eq_or_of_lt low, Nat.add_comm]
      have wider : 2 ^ ((index + 1) * 8) = 2 ^ (index * 8) * 256 := by
        rw [Nat.add_mul, Nat.one_mul, Nat.pow_add]
      have next : (raw ||| (byte.toUInt64 <<< UInt64.ofNat (index * 8))).toNat <
          2 ^ ((index + 1) * 8) := by
        have most := Nat.mul_le_mul_left (2 ^ (index * 8)) (show byte.toNat ≤ 255 by omega)
        rw [joined, wider]
        omega
      rw [littleRaw, ih (by omega) next, joined, wider, ofLittle]
      ring

def signedValue (bytes : Bytes) : Int :=
  (BitVec.ofNat (8 * bytes.length) (ofLittle bytes)).toInt

theorem signedValue_eq (bytes : Bytes) : signedValue bytes =
    if 2 * ofLittle bytes < 2 ^ (8 * bytes.length) then (ofLittle bytes : Int)
    else (ofLittle bytes : Int) - 2 ^ (8 * bytes.length) := by
  have bound := ofLittle_lt bytes
  rw [show 256 = 2 ^ 8 from rfl, ← Nat.pow_mul] at bound
  rw [signedValue, BitVec.toInt, BitVec.toNat_ofNat, Nat.mod_eq_of_lt bound]
  split
  · rfl
  · push_cast
    rfl

theorem extended_toNat {raw bits : UInt64} (positive : 0 < bits.toNat) (small : bits.toNat < 64)
    (low : raw.toNat < 2 ^ bits.toNat) :
    let mask := (1 <<< bits) - 1
    (raw &&& mask).toNat = raw.toNat ∧
      (raw &&& mask &&& (1 <<< (bits - 1)) ≠ 0 ↔ 2 ^ bits.toNat ≤ 2 * raw.toNat) ∧
      (raw &&& mask ||| ~~~mask).toNat = raw.toNat + (2 ^ 64 - 2 ^ bits.toNat) := by
  have below : 2 ^ bits.toNat < 2 ^ 64 := Nat.pow_lt_pow_right (by decide) small
  have some : 0 < 2 ^ bits.toNat := Nat.two_pow_pos _
  have shifted : ∀ count : UInt64, count.toNat < 64 → ((1 : UInt64) <<< count).toNat =
      2 ^ count.toNat := by
    intro count inside
    have power : 2 ^ count.toNat < 2 ^ 64 := Nat.pow_lt_pow_right (by decide) inside
    rw [UInt64.toNat_shiftLeft, UInt64.toNat_one, Nat.mod_eq_of_lt inside, Nat.one_shiftLeft,
      Nat.mod_eq_of_lt power]
  have mask : ((1 : UInt64) <<< bits - 1).toNat = 2 ^ bits.toNat - 1 := by
    rw [UInt64.toNat_sub_of_le, shifted bits small, UInt64.toNat_one]
    rw [UInt64.le_iff_toNat_le, shifted bits small, UInt64.toNat_one]
    omega
  have kept : (raw &&& ((1 : UInt64) <<< bits - 1)).toNat = raw.toNat := by
    rw [UInt64.toNat_and, mask, Nat.and_two_pow_sub_one_eq_mod, Nat.mod_eq_of_lt low]
  have last : (bits - 1).toNat = bits.toNat - 1 := by
    rw [UInt64.toNat_sub_of_le _ _ (by rw [UInt64.le_iff_toNat_le, UInt64.toNat_one]; omega),
      UInt64.toNat_one]
  refine ⟨kept, ?_, ?_⟩
  · have half : 2 ^ bits.toNat = 2 * 2 ^ (bits.toNat - 1) := by
      rw [← Nat.pow_succ', Nat.succ_eq_add_one, Nat.sub_add_cancel positive]
    have sign : raw.toNat / 2 ^ (bits.toNat - 1) < 2 := by
      apply Nat.div_lt_of_lt_mul
      omega
    have first : 1 ≤ raw.toNat / 2 ^ (bits.toNat - 1) ↔ 2 ^ (bits.toNat - 1) ≤ raw.toNat := by
      rw [Nat.le_div_iff_mul_le (Nat.two_pow_pos _), Nat.one_mul]
    have bit : raw.toNat.testBit (bits.toNat - 1) = true ↔ 2 ^ bits.toNat ≤ 2 * raw.toNat := by
      rw [Nat.testBit_eq_decide_div_mod_eq, decide_eq_true_iff, Nat.mod_eq_of_lt sign, half]
      omega
    rw [← bit, ne_eq, ← UInt64.toNat_inj, UInt64.toNat_zero, UInt64.toNat_and, kept,
      shifted (bits - 1) (by omega), last, Nat.and_comm, Nat.two_pow_and]
    cases raw.toNat.testBit (bits.toNat - 1) with
    | false => simp
    | true => simp
  · have above : (~~~((1 : UInt64) <<< bits - 1)).toNat =
        2 ^ bits.toNat * (2 ^ (64 - bits.toNat) - 1) := by
      rw [UInt64.toNat_not, mask, Nat.mul_sub, ← Nat.pow_add, Nat.add_sub_cancel' (by omega),
        UInt64.size]
      omega
    rw [UInt64.toNat_or, kept, above, Nat.or_comm, ← Nat.two_pow_add_eq_or_of_lt low, Nat.mul_sub,
      ← Nat.pow_add, Nat.add_sub_cancel' (by omega)]
    omega

theorem decodeSigned_toInt {bytes : Bytes} {bits : UInt16} (width : bits.toNat = 8 * bytes.length)
    (some : 0 < bits.toNat) (most : bits.toNat ≤ 64) :
    (decodeSigned bytes bits).toInt = signedValue bytes := by
  have raw : (littleRaw 0 bytes 0).toNat = ofLittle bytes := by
    rw [littleRaw_toNat (by omega) (by decide)]
    simp
  have bound := ofLittle_lt bytes
  rw [show 256 = 2 ^ 8 from rfl, ← Nat.pow_mul, ← width] at bound
  rw [signedValue_eq, ← width]
  unfold decodeSigned
  dsimp only
  split
  · next narrow =>
      have small : bits.toUInt64.toNat < 64 := by
        rw [UInt16.toNat_toUInt64]
        exact UInt16.lt_iff_toNat_lt.mp narrow
      rw [← UInt16.toNat_toUInt64] at some bound ⊢
      rw [← raw] at bound ⊢
      rcases extended_toNat some small bound with ⟨kept, sign, extended⟩
      have below : 2 ^ bits.toUInt64.toNat < 2 ^ 64 := Nat.pow_lt_pow_right (by decide) small
      have power : ((2 : Int) ^ bits.toUInt64.toNat) = ((2 ^ bits.toUInt64.toNat : Nat) : Int) := by
        push_cast
        rfl
      have half : 2 * 2 ^ bits.toUInt64.toNat ≤ 2 ^ 64 := by
        rw [← Nat.pow_succ']
        exact Nat.pow_le_pow_right (by decide) small
      split
      · next negative =>
          have high := sign.mp negative
          rw [SignedArithmetic.toInt64_toInt, extended, power]
          rw [if_neg (by omega), if_neg (Nat.not_lt.mpr high)]
          push_cast
          omega
      · next positive =>
          have low := Nat.not_le.mp fun high => positive (sign.mpr high)
          rw [SignedArithmetic.toInt64_toInt, kept, if_pos (by omega), if_pos low]
  · next wide =>
      have full : bits.toNat = 64 := by
        have least : 64 ≤ bits.toNat := UInt16.le_iff_toNat_le.mp (UInt16.not_lt.mp wide)
        omega
      rw [SignedArithmetic.toInt64_toInt, raw, full]
      split
      · next positive => rw [if_pos (by omega)]
      · next negative => rw [if_neg (by omega)]

end Msap1.Mncwf
