import MySensors.Proofs.Ota
import Mathlib

/-! The firmware checksum of `transportIsValidFirmware` is CRC-16/MODBUS. The
loop's register, read bit-reflected as a polynomial over `ZMod 2`, is after each
shift the remainder of `x` times its reading by `x^16 + x^15 + x^2 + 1`; after a
byte, of `x^8` times the reading plus the byte sixteen degrees up; and after the
whole image, the remainder that defines the CRC. The loop is executable, the
reference remainder is Mathlib's. -/

namespace MySensors


open Polynomial

/-! ### The register on `Nat` -/

theorem UInt16.toNat_xor (a b : UInt16) : (a ^^^ b).toNat = a.toNat ^^^ b.toNat :=
  BitVec.toNat_xor _ _

theorem UInt16.toNat_shiftRight_one (r : UInt16) : (r >>> 1).toNat = r.toNat / 2 := by
  show (r.toBitVec >>> (1 : Nat)).toNat = r.toBitVec.toNat / 2
  rw [BitVec.toNat_ushiftRight, Nat.shiftRight_one]

theorem UInt16.toNat_and_one (r : UInt16) : (r &&& 1).toNat = r.toNat % 2 := by
  show (r.toBitVec &&& 1#16).toNat = r.toBitVec.toNat % 2
  rw [BitVec.toNat_and]
  exact Nat.and_one_is_mod _

/-- One shift of the loop, on the register's value. -/
theorem crcShift_toNat (r : UInt16) :
    (crcShift r).toNat = if r.toNat.testBit 0 then r.toNat / 2 ^^^ 0xA001 else r.toNat / 2 := by
  unfold crcShift
  have h := UInt16.toNat_and_one r
  by_cases h1 : r.toNat % 2 = 1
  · have : (r &&& 1 != 0) = true :=
      bne_iff_ne.mpr fun e => absurd ((congrArg UInt16.toNat e).symm.trans (h.trans h1)) (by decide)
    rw [if_pos this, if_pos (by simp [h1]), UInt16.toNat_xor, UInt16.toNat_shiftRight_one]; rfl
  · have : (r &&& 1 != 0) = false :=
      bne_eq_false_iff_eq.mpr (UInt16.toNat.inj (h.trans (by show r.toNat % 2 = 0; omega)))
    rw [if_neg (by simp [this]), if_neg (by simp [h1]), UInt16.toNat_shiftRight_one]

/-! ### The register read as a polynomial over `ZMod 2` -/

noncomputable section

/-- The generator `x^16 + x^15 + x^2 + 1` (`0x8005`). -/
def crcGenerator : (ZMod 2)[X] := X ^ 16 + X ^ 15 + X ^ 2 + 1

/-- The `w` low bits of `r` read bit-reflected: bit `0` is the coefficient of
`x^(w-1)`, bit `w - 1` that of `x^0`. -/
def reflected : Nat → Nat → (ZMod 2)[X]
  | 0, _ => 0
  | w + 1, r => (if r.testBit 0 then X ^ w else 0) + reflected w (r / 2)

theorem coeff_reflected (w r j : Nat) :
    (reflected w r).coeff j = if j < w ∧ r.testBit (w - 1 - j) then 1 else 0 := by
  induction w generalizing r with
  | zero => rw [reflected, coeff_zero, if_neg fun h => absurd h.1 (Nat.not_lt_zero j)]
  | succ w ih =>
    rw [reflected, coeff_add, ih, apply_ite (fun p : (ZMod 2)[X] => p.coeff j), coeff_X_pow, coeff_zero,
      Nat.testBit_div_two]
    rcases Nat.lt_trichotomy j w with h | rfl | h
    · rw [if_neg (Nat.ne_of_lt h), ite_self, zero_add, show w - 1 - j + 1 = w + 1 - 1 - j by omega]
      simp only [h, Nat.lt_succ_of_lt h, true_and]
    · rw [if_pos rfl, Nat.add_sub_cancel, Nat.sub_self]
      simp only [lt_self_iff_false, false_and, if_false, add_zero, Nat.lt_succ_self, true_and]
    · have h1 : ¬j < w := by omega
      have h2 : ¬j < w + 1 := by omega
      simp only [Nat.ne_of_gt h, if_false, ite_self, h1, h2, false_and, add_zero]

theorem degree_reflected_lt (w r : Nat) : (reflected w r).degree < w := by
  rw [degree_lt_iff_coeff_zero]
  intro j hj
  rw [coeff_reflected, if_neg fun h => absurd h.1 (by omega)]

/-- Reading bits is additive: xor is addition over `ZMod 2`. -/
theorem reflected_xor (w a b : Nat) : reflected w (a ^^^ b) = reflected w a + reflected w b := by
  ext j
  simp only [coeff_add, coeff_reflected, Nat.testBit_xor]
  by_cases hj : j < w <;> simp only [hj, true_and, false_and, if_false, add_zero]
  cases a.testBit (w - 1 - j) <;> cases b.testBit (w - 1 - j) <;> decide

/-- One more bit at the bottom: the reading so far moves up one degree. -/
theorem reflected_succ_top (w q : Nat) :
    reflected (w + 1) q = X * reflected w q + if q.testBit w then 1 else 0 := by
  ext j
  rw [coeff_add, apply_ite (fun p : (ZMod 2)[X] => p.coeff j), coeff_one, coeff_zero]
  cases j with
  | zero =>
    rw [coeff_X_mul_zero, zero_add, coeff_reflected, if_pos rfl, Nat.add_sub_cancel, Nat.sub_zero]
    simp only [Nat.zero_lt_succ, true_and]
  | succ j =>
    rw [coeff_X_mul, coeff_reflected, coeff_reflected, show w + 1 - 1 - (j + 1) = w - 1 - j by omega]
    simp only [Nat.add_lt_add_iff_right, Nat.add_one_ne_zero, if_false, ite_self, add_zero]

/-- The reading of a value below `2^w` in a wider register: `k` more powers of `x`. -/
theorem reflected_add_of_lt {w q : Nat} (hq : q < 2 ^ w) :
    ∀ k, reflected (w + k) q = X ^ k * reflected w q
  | 0 => by rw [Nat.add_zero, pow_zero, one_mul]
  | k + 1 => by
    rw [← Nat.add_assoc, reflected_succ_top, reflected_add_of_lt hq k,
      Nat.testBit_lt_two_pow (hq.trans_le (Nat.pow_le_pow_right (by decide) (Nat.le_add_right w k)))]
    simp only [Bool.false_eq_true, if_false, add_zero, pow_succ, mul_assoc, mul_comm X]

theorem reflected_inj {w a b : Nat} (ha : a < 2 ^ w) (hb : b < 2 ^ w)
    (h : reflected w a = reflected w b) : a = b := by
  refine Nat.eq_of_testBit_eq fun i => ?_
  by_cases hi : i < w
  · have := congrArg (fun p => p.coeff (w - 1 - i)) h
    simp only [coeff_reflected, show w - 1 - (w - 1 - i) = i by omega, show w - 1 - i < w by omega,
      true_and] at this
    revert this
    cases a.testBit i <;> cases b.testBit i <;> decide
  · rw [Nat.testBit_lt_two_pow (ha.trans_le (Nat.pow_le_pow_right (by decide) (by omega))),
      Nat.testBit_lt_two_pow (hb.trans_le (Nat.pow_le_pow_right (by decide) (by omega)))]

/-- The feedback constant of the loop is the generator's tail, read reflected. -/
theorem reflected_A001 : reflected 16 0xA001 = X ^ 15 + X ^ 2 + 1 := by
  simp [reflected, Nat.testBit_zero]
  ring

theorem crcGenerator_eq : crcGenerator = X ^ 16 + reflected 16 0xA001 := by
  rw [reflected_A001, crcGenerator]; simp only [add_assoc]

theorem crcGenerator_monic : crcGenerator.Monic := by
  rw [crcGenerator_eq]; exact monic_X_pow_add (degree_reflected_lt 16 _)

theorem degree_crcGenerator : crcGenerator.degree = 16 := by
  have h : (reflected 16 0xA001).degree < (X ^ 16 : (ZMod 2)[X]).degree := by
    rw [degree_X_pow]; exact degree_reflected_lt 16 _
  rw [crcGenerator_eq, degree_add_eq_left_of_degree_lt h, degree_X_pow]; rfl

/-! ### One pass of the inner loop is one multiplication by `x` -/

theorem reflected_modByMonic (r : Nat) : reflected 16 r %ₘ crcGenerator = reflected 16 r :=
  (modByMonic_eq_self_iff crcGenerator_monic).mpr
    (by rw [degree_crcGenerator]; exact degree_reflected_lt 16 r)

theorem crcGenerator_dvd_modByMonic_sub (p : (ZMod 2)[X]) : crcGenerator ∣ p %ₘ crcGenerator - p := by
  rw [modByMonic_eq_sub_mul_div p crcGenerator_monic, sub_sub_cancel_left]
  exact dvd_neg.mpr (dvd_mul_right _ _)

/-- A factor can be reduced before the product is. -/
theorem mul_modByMonic_add (c a d : (ZMod 2)[X]) :
    (c * (a %ₘ crcGenerator) + d) %ₘ crcGenerator = (c * a + d) %ₘ crcGenerator :=
  modByMonic_eq_of_dvd_sub crcGenerator_monic (by
    rw [add_sub_add_right_eq_sub, ← mul_sub]
    exact dvd_mul_of_dvd_right (crcGenerator_dvd_modByMonic_sub a) c)

/-- Shifting the register right moves its reading up one degree; the bit that falls out is
the coefficient of `x ^ w`. -/
theorem X_mul_reflected {w r : Nat} (hr : r < 2 ^ w) :
    X * reflected w r = (if r.testBit 0 then X ^ w else 0) + reflected w (r / 2) := by
  have h := reflected_succ_top w r
  rw [Nat.testBit_lt_two_pow hr, reflected] at h
  simp only [Bool.false_eq_true, if_false, add_zero] at h
  exact h.symm

theorem reflected_crcShift (r : UInt16) :
    reflected 16 (crcShift r).toNat = (X * reflected 16 r.toNat) %ₘ crcGenerator := by
  rw [X_mul_reflected r.toNat_lt_size, crcShift_toNat]
  by_cases h : r.toNat.testBit 0
  · -- the bit shifted out is `x ^ 16`, which the generator turns into `0xA001`
    rw [if_pos h, if_pos h, ← reflected_modByMonic]
    refine modByMonic_eq_of_dvd_sub crcGenerator_monic ⟨1, ?_⟩
    rw [mul_one, reflected_xor, CharTwo.sub_eq_add, crcGenerator_eq,
      show ∀ a b c : (ZMod 2)[X], b + a + (c + b) = c + a + (b + b) from fun a b c => by ring,
      CharTwo.add_self_eq_zero, add_zero]
  · rw [if_neg h, if_neg h, zero_add, reflected_modByMonic]

theorem reflected_crcShift_iterate (k : Nat) (r : UInt16) :
    reflected 16 (crcShift^[k] r).toNat = (X ^ k * reflected 16 r.toNat) %ₘ crcGenerator := by
  induction k with
  | zero => rw [Function.iterate_zero_apply, pow_zero, one_mul, reflected_modByMonic]
  | succ k ih =>
    rw [Function.iterate_succ_apply', reflected_crcShift, ih, ← add_zero (X * _), mul_modByMonic_add,
      add_zero, ← mul_assoc, ← pow_succ']

/-- One byte: the register moves up eight degrees and the byte enters sixteen degrees up. -/
theorem reflected_crcByte (crc : UInt16) (b : UInt8) :
    reflected 16 (crcByte crc b).toNat =
      (reflected 16 crc.toNat * X ^ 8 + reflected 8 b.toNat * X ^ 16) %ₘ crcGenerator := by
  have hb : reflected 16 b.toNat = X ^ 8 * reflected 8 b.toNat :=
    reflected_add_of_lt (w := 8) b.toNat_lt_size 8
  rw [crcByte, reflected_crcShift_iterate, UInt16.toNat_xor, reflected_xor,
    show b.toUInt16.toNat = b.toNat from rfl, hb]
  congr 1; ring

/-! ### CRC-16/MODBUS -/

/-- The bytes as a polynomial, first byte highest, each byte least significant bit
first (reflected input). -/
def messagePoly : List UInt8 → (ZMod 2)[X]
  | [] => 0
  | b :: bs => reflected 8 b.toNat * X ^ (8 * bs.length) + messagePoly bs

/-- CRC-16/MODBUS as a remainder: the initial register `0xFFFF` ahead of the message and
sixteen zero bits after it, reduced by `x^16 + x^15 + x^2 + 1`, read reflected (reflected
output), with no final xor. -/
def crc16Modbus (bytes : List UInt8) : (ZMod 2)[X] :=
  (reflected 16 0xFFFF * X ^ (8 * bytes.length) + messagePoly bytes * X ^ 16) %ₘ crcGenerator

/-- The loop over any bytes from any register computes the remainder. -/
theorem reflected_foldl_crcByte (bytes : List UInt8) (r : UInt16) :
    reflected 16 (bytes.foldl crcByte r).toNat =
      (reflected 16 r.toNat * X ^ (8 * bytes.length) + messagePoly bytes * X ^ 16) %ₘ crcGenerator := by
  induction bytes generalizing r with
  | nil => rw [List.foldl_nil, List.length_nil, messagePoly, mul_zero, pow_zero, mul_one, zero_mul,
      add_zero, reflected_modByMonic]
  | cons b bs ih =>
    rw [List.foldl_cons, ih, reflected_crcByte, mul_comm, mul_modByMonic_add, List.length_cons, messagePoly]
    congr 1; ring

/-- The catalogue's check value of CRC-16/MODBUS, over the ASCII digits `"123456789"`. -/
example : ([49, 50, 51, 52, 53, 54, 55, 56, 57] : List UInt8).foldl crcByte 0xFFFF = 0x4B37 := by
  set_option maxRecDepth 4000 in decide

/-- The bytes the checksum of `transportIsValidFirmware` is over:
`flash[FIRMWARE_START_OFFSET, FIRMWARE_START_OFFSET + _fc.blocks * FIRMWARE_BLOCK_SIZE)`. -/
def firmwareImage (fc : NodeFirmwareConfig) (flash : Nat → UInt8) : List UInt8 :=
  (List.range' FIRMWARE_START_OFFSET.toNat (fc.blocks.toNat * FIRMWARE_BLOCK_SIZE.toNat)).map flash

theorem reflected_inj_uint16 {a b : UInt16} (h : reflected 16 a.toNat = reflected 16 b.toNat) : a = b :=
  UInt16.toNat.inj (reflected_inj a.toNat_lt_size b.toNat_lt_size h)

theorem firmware_crc_is_modbus (fc : NodeFirmwareConfig) (flash : Nat → UInt8)
    (hL : fc.blocks.toNat * FIRMWARE_BLOCK_SIZE.toNat ≤ 65535) :
    reflected 16 ((firmwareAddresses fc).foldl (fun crc a => crcByte crc (flash a)) 0xFFFF).toNat =
        crc16Modbus (firmwareImage fc flash) ∧
      (transportIsValidFirmware fc flash = true ↔ reflected 16 fc.crc.toNat = crc16Modbus (firmwareImage fc flash)) := by
  have hreg : reflected 16 ((firmwareAddresses fc).foldl (fun crc a => crcByte crc (flash a)) 0xFFFF).toNat =
      crc16Modbus (firmwareImage fc flash) := by
    rw [← List.foldl_map, reflected_foldl_crcByte, crc16Modbus, firmwareImage, firmwareAddresses_eq (by
      change _ * 16 ≤ _ at hL; omega)]
    rfl
  refine ⟨hreg, ?_⟩
  rw [transportIsValidFirmware, beq_iff_eq, ← hreg]
  exact ⟨fun h => h ▸ rfl, fun h => reflected_inj_uint16 h.symm⟩

theorem firmware_crc_is_modbus_one_block :
    (⟨1, 1, 1, 0⟩ : NodeFirmwareConfig).blocks.toNat * FIRMWARE_BLOCK_SIZE.toNat ≤ 65535 ∧
    (reflected 16 ((firmwareAddresses ⟨1, 1, 1, 0⟩).foldl (fun crc a => crcByte crc ((fun _ => 0) a)) 0xFFFF).toNat =
        crc16Modbus (firmwareImage ⟨1, 1, 1, 0⟩ fun _ => 0) ∧
      (transportIsValidFirmware ⟨1, 1, 1, 0⟩ (fun _ => 0) = true ↔
        reflected 16 (0 : UInt16).toNat = crc16Modbus (firmwareImage ⟨1, 1, 1, 0⟩ fun _ => 0))) :=
  ⟨by decide, firmware_crc_is_modbus ⟨1, 1, 1, 0⟩ (fun _ => 0) (by decide)⟩

end

end MySensors
