import LineMachine.Proofs.Number.Value

/-!
The 64 bits of a number, field by field.  Every row of bits is some number, and the rational
that the number is can be computed from the three fields.
-/

open Float.Model Float.Model.UnpackedFloat

namespace LineMachine

namespace Number

/-- The eleven bits of exponent. -/
def exponentField (bits : UInt64) : Nat :=
  bits.toNat / 2 ^ 52 % 2 ^ 11

/-- The 52 bits of fraction, the last ones. -/
def fractionField (bits : UInt64) : Nat :=
  bits.toNat % 2 ^ 52

/-- What the first bit, the sign, multiplies by. -/
def signFactor (bits : UInt64) : Rat :=
  if bits.toNat / 2 ^ 63 = 0 then 1 else -1

/-- The rational that the bits stand for.  The greatest exponent is that of the infinities and
of what is not a number.  The least one is that of zero and of the smallest numbers, which have
no leading bit. -/
def valueOfBits? (bits : UInt64) : Option Rat :=
  if exponentField bits = 2047 then none
  else if exponentField bits = 0 then
    some (signFactor bits * (fractionField bits * 2 ^ (-1074 : Int)))
  else
    some (signFactor bits *
      ((2 ^ 52 + fractionField bits) * 2 ^ ((exponentField bits : Int) - 1075)))

/-- Packing loses nothing but what lies outside the range of finite numbers. -/
theorem unpack_pack {unpacked : UnpackedFloat}
    (h : ∀ sign significand exponent hpos, unpacked = .finite sign significand exponent hpos →
      Canonical significand exponent) :
    UnpackedFloat.unpack Format.binary64 (UnpackedFloat.pack Format.binary64 unpacked) =
      unpacked := by
  cases unpacked with
  | notANumber => exact unpack_packedNaN
  | infinity sign => cases sign <;> rfl
  | zero sign => exact unpack_packedZero
  | finite sign significand exponent hpos =>
      exact unpack_pack_of_canonical sign (h _ _ _ _ rfl)

/-- Bits are unpacked as they are.  Only the payload of what is not a number is dropped, and
unpacking does not see it. -/
theorem unpack_ofBits (bits : UInt64) :
    (Float.ofBits bits).toModel.unpack =
      UnpackedFloat.unpack Format.binary64 bits.toBitVec :=
  unpack_pack fun _ _ _ _ hunpack => canonical_of_unpack_eq_finite hunpack

theorem toNat_unpackExponent (bits : UInt64) :
    (@unpackExponent Format.binary64 bits.toBitVec).toNat = exponentField bits := by
  rw [unpackExponent_def, BitVec.extractLsb'_toNat, Nat.shiftRight_eq_div_pow]
  rfl

theorem toNat_unpackMantissa (bits : UInt64) :
    (@unpackMantissa Format.binary64 bits.toBitVec).toNat = fractionField bits := by
  rw [unpackMantissa_def, BitVec.extractLsb'_toNat, Nat.shiftRight_zero]
  rfl

theorem toNat_unpackSign (bits : UInt64) :
    (@unpackSign Format.binary64 bits.toBitVec).toNat = bits.toNat / 2 ^ 63 := by
  have hbound := bits.toNat_lt
  rw [unpackSign_def, BitVec.extractLsb'_toNat, Nat.shiftRight_eq_div_pow]
  exact Nat.mod_eq_of_lt (show bits.toNat / 2 ^ 63 < 2 ^ 1 by omega)

theorem unpackExponent_eq_greatest_iff (bits : UInt64) :
    @unpackExponent Format.binary64 bits.toBitVec = -1#11 ↔
      exponentField bits = 2047 := by
  rw [← BitVec.toNat_inj, toNat_unpackExponent]
  rfl

theorem unpackExponent_eq_zero_iff (bits : UInt64) :
    @unpackExponent Format.binary64 bits.toBitVec = 0#11 ↔ exponentField bits = 0 := by
  rw [← BitVec.toNat_inj, toNat_unpackExponent]
  rfl

/-- A magnitude with the sign of the bits. -/
theorem ite_unpackSign_eq_signFactor_mul (bits : UInt64) (magnitude : Rat) :
    (if Sign.ofBitVec (@unpackSign Format.binary64 bits.toBitVec) == .negative
      then -magnitude else magnitude) = signFactor bits * magnitude := by
  have hbit := toNat_unpackSign bits
  rw [signFactor, Sign.ofBitVec]
  by_cases hclear : @unpackSign Format.binary64 bits.toBitVec = 0#1
  · rw [hclear] at hbit
    have hpositive : bits.toNat / 2 ^ 63 = 0 := hbit.symm
    rw [if_pos hclear, if_pos hpositive, one_mul]
    rfl
  · have hnegative : bits.toNat / 2 ^ 63 ≠ 0 :=
      fun h => hclear (BitVec.eq_of_toNat_eq (hbit.trans h))
    rw [if_neg hclear, if_neg hnegative, neg_one_mul]
    rfl

section

variable {bits : UInt64}

theorem value?_ofBits_of_greatest (h : exponentField bits = 2047) :
    value? (.ofBits bits) = none := by
  rw [value?, reading, unpack_ofBits, UnpackedFloat.unpack]
  dsimp only
  rw [if_pos ((unpackExponent_eq_greatest_iff bits).2 h)]
  by_cases hfraction : @unpackMantissa Format.binary64 bits.toBitVec = 0#52
  · rw [if_pos hfraction]
  · rw [if_neg hfraction]

theorem value?_ofBits_of_zero (h : exponentField bits = 0) :
    value? (.ofBits bits) =
      some (signFactor bits * (fractionField bits * 2 ^ (-1074 : Int))) := by
  have hfinite : exponentField bits ≠ 2047 := by omega
  rw [value?, reading, unpack_ofBits, UnpackedFloat.unpack, exponentBias_binary64]
  dsimp only
  rw [if_neg (mt (unpackExponent_eq_greatest_iff bits).1 hfinite),
    if_pos ((unpackExponent_eq_zero_iff bits).2 h), ← ite_unpackSign_eq_signFactor_mul,
    ← toNat_unpackMantissa]
  by_cases hfraction : @unpackMantissa Format.binary64 bits.toBitVec = 0#52
  · rw [dif_pos hfraction, hfraction]
    simp
  · rw [dif_neg hfraction, toNat_unpackExponent, h]
    rfl

theorem value?_ofBits_of_between (hgreatest : exponentField bits ≠ 2047)
    (hzero : exponentField bits ≠ 0) :
    value? (.ofBits bits) = some (signFactor bits *
      ((2 ^ 52 + fractionField bits) * 2 ^ ((exponentField bits : Int) - 1075))) := by
  rw [value?, reading, unpack_ofBits, UnpackedFloat.unpack, exponentBias_binary64]
  dsimp only
  rw [if_neg (mt (unpackExponent_eq_greatest_iff bits).1 hgreatest),
    if_neg (mt (unpackExponent_eq_zero_iff bits).1 hzero)]
  dsimp only
  rw [ite_unpackSign_eq_signFactor_mul, toNat_one_append, toNat_unpackMantissa,
    toNat_unpackExponent]
  push_cast
  rfl

end

/-- A number is the rational that its bits stand for. -/
theorem value?_ofBits (bits : UInt64) : value? (.ofBits bits) = valueOfBits? bits := by
  rw [valueOfBits?]
  split_ifs with hgreatest hzero
  · exact value?_ofBits_of_greatest hgreatest
  · exact value?_ofBits_of_zero hzero
  · exact value?_ofBits_of_between hgreatest hzero

theorem valueOfBits?_toBits (x : Number) : valueOfBits? x.toBits = x.value? := by
  rw [← value?_ofBits, Float.ofBits_toBits]

end Number

end LineMachine
