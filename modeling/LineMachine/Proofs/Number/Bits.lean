import LineMachine.Number
import Mathlib

/-!
Numbers and their bits.  A finite number is stored with a significand and an exponent in a
fixed range, and these and the sign determine its bits.
-/

open Float.Model Float.Model.UnpackedFloat

namespace LineMachine

namespace Number

/-- The significands and exponents of finite numbers other than zero. -/
structure Canonical (significand : Nat) (exponent : Int) : Prop where
  pos : 0 < significand
  lt : significand < 2 ^ 53
  least_le : -1074 ≤ exponent
  le_greatest : exponent ≤ 971
  /-- Only the smallest numbers are stored with fewer bits. -/
  normal : 2 ^ 52 ≤ significand ∨ exponent = -1074

theorem toNat_one_append (mantissa : BitVec 52) :
    (1#1 ++ mantissa).toNat = 2 ^ 52 + mantissa.toNat := by
  rw [BitVec.toNat_append, ← Nat.shiftLeft_add_eq_or_of_lt mantissa.isLt]
  simp [Nat.shiftLeft_eq]

theorem exponentBias_binary64 : Format.binary64.exponentBias = 1023 := by decide

/-- Bits that stand for a finite number other than zero have a significand and an exponent
in the range. -/
theorem canonical_of_unpack_eq_finite {bits : BitVec Format.binary64.numBits} {sign : Sign}
    {significand : Nat} {exponent : Int} {hpos : 0 < significand}
    (h : UnpackedFloat.unpack Format.binary64 bits = .finite sign significand exponent hpos) :
    Canonical significand exponent := by
  have hmantissa : (unpackMantissa bits).toNat < 2 ^ 52 := (unpackMantissa bits).isLt
  have hstored : (unpackExponent bits).toNat < 2 ^ 11 := (unpackExponent bits).isLt
  unfold UnpackedFloat.unpack at h
  dsimp only at h
  rw [exponentBias_binary64] at h
  split at h
  · split at h <;> cases h
  rename_i hlast
  have hlast : (unpackExponent bits).toNat ≠ 2047 := fun heq => hlast (BitVec.eq_of_toNat_eq heq)
  split at h
  · rename_i hzero
    split at h
    · cases h
    · injection h with _ hsignificand hexponent
      have hleast : exponent = -1074 := by
        rw [← hexponent, hzero]
        rfl
      exact ⟨hpos, by omega, by omega, by omega, .inr hleast⟩
  · rename_i hzero
    have hzero : (unpackExponent bits).toNat ≠ 0 := fun heq => hzero (BitVec.eq_of_toNat_eq heq)
    injection h with _ hsignificand hexponent
    have hstands : exponent = (unpackExponent bits).toNat - 1075 := by
      rw [← hexponent]
      rfl
    rw [toNat_one_append] at hsignificand
    exact ⟨hpos, by omega, by omega, by omega, .inl (by omega)⟩

/-- Packed components give back their sign. -/
theorem ofBitVec_unpackSign_packComponents {format : Format} {sign : Sign}
    {exponent : BitVec format.exponentBits}
    {mantissa : BitVec format.mantissaBitsWithoutImplicit} :
    Sign.ofBitVec (unpackSign (packComponents format sign exponent mantissa)) = sign := by
  have hbits : unpackSign (packComponents format sign exponent mantissa) = sign.toBitVec := by
    apply BitVec.eq_of_getLsbD_eq
    intro i hi
    obtain rfl : i = 0 := by omega
    simp [unpackSign, packComponents, BitVec.getLsbD_append, BitVec.getElem_append]
  rw [hbits]
  cases sign <;> rfl

/-- A significand and an exponent in the range are kept by packing. -/
theorem unpack_pack_of_canonical {significand : Nat} {exponent : Int} (sign : Sign)
    (h : Canonical significand exponent) :
    UnpackedFloat.unpack Format.binary64
        (UnpackedFloat.pack Format.binary64 (.finite sign significand exponent h.pos)) =
      .finite sign significand exponent h.pos := by
  have hpos := h.pos
  have hlt := h.lt
  have hleast := h.least_le
  have hgreatest := h.le_greatest
  have hlog := @Nat.log2_eq_iff significand 52 (Nat.ne_of_gt hpos)
  have hwidth : Format.binary64.mantissaBits = 53 := rfl
  obtain ⟨stored, hstored⟩ := Int.eq_ofNat_of_zero_le (show 0 ≤ exponent + 1075 by omega)
  have hbias : (exponent + (1023 : Nat) + (52 : Nat)).toNat = stored := by omega
  unfold UnpackedFloat.pack
  simp only [exponentBias_binary64, hbias]
  rw [if_neg (by omega)]
  by_cases hnormal : 2 ^ 52 ≤ significand
  · -- The leading bit is left out, and the exponent field tells that it was there.
    have hbits : significand.log2 + 1 = Format.binary64.mantissaBits := by
      rw [hlog.2 ⟨hnormal, hlt⟩, hwidth]
    have hexponent : (BitVec.ofNat 11 stored).toNat = stored := by
      rw [BitVec.toNat_ofNat, Nat.mod_eq_of_lt (by omega)]
    have hmantissa : (BitVec.ofNat 52 significand).toNat = significand - 2 ^ 52 := by
      rw [BitVec.toNat_ofNat]
      omega
    have hfinite : BitVec.ofNat 11 stored ≠ -1#11 := by
      rw [BitVec.toNat_ne, hexponent, show (-1#11).toNat = 2047 by decide]
      omega
    have hnonzero : BitVec.ofNat 11 stored ≠ 0#11 := by
      rw [BitVec.toNat_ne, hexponent, BitVec.toNat_zero]
      omega
    rw [if_pos hbits]
    unfold UnpackedFloat.unpack
    simp only [unpackMantissa_packComponents, unpackExponent_packComponents,
      ofBitVec_unpackSign_packComponents]
    rw [if_neg hfinite, if_neg hnonzero]
    congr 1
    · rw [toNat_one_append, hmantissa]
      omega
    · rw [hexponent, exponentBias_binary64]
      omega
  · -- The smallest numbers are stored whole, with the exponent field zero.
    have hbits : significand.log2 + 1 ≠ Format.binary64.mantissaBits := by
      rw [hwidth]
      omega
    have hmantissa : (BitVec.ofNat 52 significand).toNat = significand := by
      rw [BitVec.toNat_ofNat, Nat.mod_eq_of_lt (Nat.lt_of_not_le hnormal)]
    have hnonzero : BitVec.ofNat 52 significand ≠ 0#52 := by
      rw [BitVec.toNat_ne, hmantissa, BitVec.toNat_zero]
      omega
    rw [if_neg hbits]
    unfold UnpackedFloat.unpack
    simp only [unpackMantissa_packComponents, unpackExponent_packComponents,
      ofBitVec_unpackSign_packComponents]
    rw [if_neg (by decide), if_pos trivial, dif_neg hnonzero]
    congr 1
    rw [exponentBias_binary64, h.normal.resolve_left hnormal]
    rfl

/-- A number is what it unpacks to, packed again. -/
theorem eq_ofModel_pack {x : Number} {unpacked : UnpackedFloat}
    (h : x.toModel.unpack = unpacked) : x = .ofModel (Float.Model.pack unpacked) := by
  rw [← h]
  exact (Float.ofBits_toBits x).symm

theorem sign_eq_of_beq_negative {a b : Sign} (h : (a == .negative) = (b == .negative)) : a = b := by
  cases a with
  | positive =>
      cases b with
      | positive => rfl
      | negative => exact absurd h (by decide)
  | negative =>
      cases b with
      | positive => exact absurd h (by decide)
      | negative => rfl

/-- What a finite number other than zero unpacks to can be read off it. -/
theorem unpack_of_reading_eq_finite {x : Number} {negative : Bool} {significand : Nat}
    {exponent : Int} (h : x.reading = .finite negative significand exponent)
    (hpos : 0 < significand) :
    ∃ sign, (sign == .negative) = negative ∧
      x.toModel.unpack = .finite sign significand exponent hpos := by
  rw [reading] at h
  cases hunpack : x.toModel.unpack with
  | notANumber => rw [hunpack] at h; cases h
  | infinity sign => rw [hunpack] at h; cases h
  | zero sign =>
      rw [hunpack] at h
      injection h with _ hzero
      omega
  | finite sign stored e hstored =>
      rw [hunpack] at h
      injection h with hsign hsignificand hexponent
      subst hsignificand hexponent
      exact ⟨sign, hsign, rfl⟩

theorem unpack_of_reading_eq_zero {x : Number} {negative : Bool} {exponent : Int}
    (h : x.reading = .finite negative 0 exponent) :
    ∃ sign, (sign == .negative) = negative ∧ x.toModel.unpack = .zero sign := by
  rw [reading] at h
  cases hunpack : x.toModel.unpack with
  | notANumber => rw [hunpack] at h; cases h
  | infinity sign => rw [hunpack] at h; cases h
  | zero sign =>
      rw [hunpack] at h
      injection h with hsign
      exact ⟨sign, hsign, rfl⟩
  | finite sign stored e hstored =>
      rw [hunpack] at h
      injection h with _ hzero
      omega

theorem canonical_of_reading_eq_finite {x : Number} {negative : Bool} {significand : Nat}
    {exponent : Int} (h : x.reading = .finite negative significand exponent)
    (hpos : 0 < significand) : Canonical significand exponent := by
  obtain ⟨sign, -, hunpack⟩ := unpack_of_reading_eq_finite h hpos
  exact canonical_of_unpack_eq_finite hunpack

/-- A finite number other than zero is given by its significand and exponent. -/
theorem of_reading_eq_finite {x : Number} {significand : Nat} {exponent : Int}
    (h : x.reading = .finite false significand exponent) (hpos : 0 < significand) :
    Canonical significand exponent ∧
      x = .ofModel (Float.Model.pack (.finite .positive significand exponent hpos)) := by
  obtain ⟨sign, hsign, hunpack⟩ := unpack_of_reading_eq_finite h hpos
  obtain rfl : sign = .positive := sign_eq_of_beq_negative hsign
  exact ⟨canonical_of_reading_eq_finite h hpos, eq_ofModel_pack hunpack⟩

/-- The only number that reads as zero without a sign is positive zero. -/
theorem of_reading_eq_zero {x : Number} {exponent : Int}
    (h : x.reading = .finite false 0 exponent) :
    x = .ofModel (Float.Model.pack (.zero .positive)) := by
  obtain ⟨sign, hsign, hunpack⟩ := unpack_of_reading_eq_zero h
  obtain rfl : sign = .positive := sign_eq_of_beq_negative hsign
  exact eq_ofModel_pack hunpack

/-- Finite numbers are told apart by their sign, their significand and, unless they are zero,
their exponent. -/
theorem eq_of_reading_eq_finite {x y : Number} {negative : Bool} {significand : Nat} {e f : Int}
    (hx : x.reading = .finite negative significand e)
    (hy : y.reading = .finite negative significand f) (hexponent : 0 < significand → e = f) :
    x = y := by
  rcases Nat.eq_zero_or_pos significand with rfl | hpos
  · obtain ⟨a, ha, hunpack⟩ := unpack_of_reading_eq_zero hx
    obtain ⟨b, hb, hunpack'⟩ := unpack_of_reading_eq_zero hy
    obtain rfl : a = b := sign_eq_of_beq_negative (ha.trans hb.symm)
    rw [eq_ofModel_pack hunpack, eq_ofModel_pack hunpack']
  · obtain rfl := hexponent hpos
    obtain ⟨a, ha, hunpack⟩ := unpack_of_reading_eq_finite hx hpos
    obtain ⟨b, hb, hunpack'⟩ := unpack_of_reading_eq_finite hy hpos
    obtain rfl : a = b := sign_eq_of_beq_negative (ha.trans hb.symm)
    rw [eq_ofModel_pack hunpack, eq_ofModel_pack hunpack']

end Number

end LineMachine
