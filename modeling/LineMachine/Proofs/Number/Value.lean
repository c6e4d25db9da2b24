import LineMachine.Proofs.Number.Bits

/-!
Numbers as rationals.  A finite number is exactly one rational; the comparison of numbers
is that of the rationals, and the integer part of a number is that of its rational.
-/

open Float.Model Float.Model.UnpackedFloat

namespace LineMachine

namespace Number

/-- What finite numbers are stored as, with the rational that each of them is. -/
inductive Stored : UnpackedFloat → Rat → Prop
  | zero (sign : Sign) : Stored (.zero sign) 0
  | positive {significand : Nat} {exponent : Int} (h : Canonical significand exponent) :
      Stored (.finite .positive significand exponent h.pos) ((significand : Rat) * 2 ^ exponent)
  | negative {significand : Nat} {exponent : Int} (h : Canonical significand exponent) :
      Stored (.finite .negative significand exponent h.pos)
        (-((significand : Rat) * 2 ^ exponent))

theorem stored_of_value? {x : Number} {v : Rat} (h : x.value? = some v) :
    Stored x.toModel.unpack v := by
  rw [value?, reading] at h
  cases hunpack : x.toModel.unpack with
  | notANumber => rw [hunpack] at h; cases h
  | infinity sign => rw [hunpack] at h; cases h
  | zero sign =>
      rw [hunpack] at h
      obtain rfl : 0 = v := by
        rw [← Option.some.inj h, Nat.cast_zero, zero_mul, neg_zero, ite_self]
      exact .zero sign
  | finite sign significand exponent hpos =>
      rw [hunpack] at h
      have hcanonical := canonical_of_unpack_eq_finite hunpack
      cases sign with
      | positive =>
          obtain rfl : (significand : Rat) * 2 ^ exponent = v := Option.some.inj h
          exact .positive hcanonical
      | negative =>
          obtain rfl : -((significand : Rat) * 2 ^ exponent) = v := Option.some.inj h
          exact .negative hcanonical

theorem value?_ofModel_pack {significand : Nat} {exponent : Int}
    (h : Canonical significand exponent) :
    value? (.ofModel (Float.Model.pack (.finite .positive significand exponent h.pos))) =
      some ((significand : Rat) * 2 ^ exponent) := by
  have hunpack : (Float.Model.pack (.finite .positive significand exponent h.pos)).unpack =
      .finite .positive significand exponent h.pos := unpack_pack_of_canonical .positive h
  rw [value?, reading, hunpack]
  rfl

theorem Canonical.magnitude_pos {significand : Nat} {exponent : Int}
    (h : Canonical significand exponent) : 0 < (significand : Rat) * 2 ^ exponent := by
  have hpos : (0 : Rat) < significand := by exact_mod_cast h.pos
  positivity

/-- A number above zero is given by its significand and exponent. -/
theorem exists_canonical_of_pos {x : Number} {v : Rat} (h : x.value? = some v) (hpos : 0 < v) :
    ∃ significand exponent, ∃ hcanonical : Canonical significand exponent,
      x.toModel.unpack = .finite .positive significand exponent hcanonical.pos ∧
        v = (significand : Rat) * 2 ^ exponent := by
  have hstored := stored_of_value? h
  generalize x.toModel.unpack = unpacked at hstored
  cases hstored with
  | zero sign => exact absurd hpos (lt_irrefl 0)
  | positive hcanonical => exact ⟨_, _, hcanonical, rfl, rfl⟩
  | negative hcanonical => exact absurd hpos (not_lt.2 (neg_nonpos.2 hcanonical.magnitude_pos.le))

/-- A number that reaches `2 ^ 52` units is no finer than they are. -/
theorem Canonical.le_of_le_magnitude {m : Nat} {d unit : Int} {w : Rat} (hm : Canonical m d)
    (hw : 2 ^ 52 ≤ w) (h : w * 2 ^ unit ≤ m * 2 ^ d) : unit ≤ d := by
  by_contra hfiner
  have hm : (m : Rat) < 2 ^ 53 := by exact_mod_cast hm.lt
  have hlt : (m : Rat) * 2 ^ d < w * 2 ^ unit :=
    calc (m : Rat) * 2 ^ d < 2 ^ 53 * 2 ^ d := mul_lt_mul_of_pos_right hm (by positivity)
      _ = 2 ^ 52 * 2 ^ (d + 1) := by
          rw [zpow_add_one₀ two_ne_zero]
          ring
      _ ≤ 2 ^ 52 * 2 ^ unit :=
          mul_le_mul_of_nonneg_left (zpow_le_zpow_right₀ one_le_two (by omega)) (by positivity)
      _ ≤ w * 2 ^ unit := mul_le_mul_of_nonneg_right hw (by positivity)
  exact absurd h (not_le.2 hlt)

/-- Of two exponents the larger one belongs to the larger number. -/
theorem Canonical.magnitude_lt_of_lt {m n : Nat} {d e : Int} (hm : Canonical m d)
    (hn : Canonical n e) (h : d < e) : (m : Rat) * 2 ^ d < n * 2 ^ e := by
  have hleast := hm.least_le
  have hnormal : (2 : Rat) ^ 52 ≤ n := by exact_mod_cast hn.normal.resolve_right (by omega)
  by_contra hle
  exact absurd (hm.le_of_le_magnitude hnormal (not_lt.1 hle)) (not_le.2 h)

/-- Numbers are ordered by their exponents and then by their significands. -/
theorem Canonical.magnitude_lt_iff {m n : Nat} {d e : Int} (hm : Canonical m d)
    (hn : Canonical n e) : (m : Rat) * 2 ^ d < n * 2 ^ e ↔ d < e ∨ d = e ∧ m < n := by
  rcases lt_trichotomy d e with hlt | rfl | hgt
  · exact iff_of_true (hm.magnitude_lt_of_lt hn hlt) (.inl hlt)
  · have hunit : (0 : Rat) < 2 ^ d := by positivity
    rw [mul_lt_mul_iff_left₀ hunit, Nat.cast_lt]
    simp
  · have hlt := hn.magnitude_lt_of_lt hm hgt
    exact iff_of_false (not_lt.2 hlt.le) (by omega)

theorem Stored.compare_eq_lt_iff {a b : UnpackedFloat} {v w : Rat} (ha : Stored a v)
    (hb : Stored b w) : a.compare b = some .lt ↔ v < w := by
  cases ha with
  | zero sign =>
      cases hb with
      | zero sign => simp [UnpackedFloat.compare]
      | positive hn => simpa [UnpackedFloat.compare] using hn.magnitude_pos
      | negative hn => simpa [UnpackedFloat.compare] using hn.magnitude_pos.le
  | positive hm =>
      cases hb with
      | zero sign => simpa [UnpackedFloat.compare] using hm.magnitude_pos.le
      | positive hn =>
          rw [UnpackedFloat.compare, Option.some.injEq, Ordering.then_eq_lt, compare_lt_iff_lt,
            compare_eq_iff_eq, compare_lt_iff_lt, hm.magnitude_lt_iff hn]
      | negative hn =>
          have hm := hm.magnitude_pos
          have hn := hn.magnitude_pos
          refine iff_of_false (by simp [UnpackedFloat.compare]) ?_
          linarith
  | negative hm =>
      cases hb with
      | zero sign => simpa [UnpackedFloat.compare] using hm.magnitude_pos
      | positive hn =>
          have hm := hm.magnitude_pos
          have hn := hn.magnitude_pos
          refine iff_of_true rfl ?_
          linarith
      | negative hn =>
          rw [UnpackedFloat.compare, Option.some.injEq, Ordering.swap_eq_lt, Ordering.then_eq_gt,
            compare_gt_iff_gt, compare_eq_iff_eq, compare_gt_iff_gt, neg_lt_neg_iff,
            hn.magnitude_lt_iff hm, eq_comm]

/-- A rational rounded toward zero to an integer. -/
def truncate (v : Rat) : Int :=
  if 0 ≤ v then ⌊v⌋ else ⌈v⌉

theorem truncate_of_nonneg {v : Rat} (h : 0 ≤ v) : truncate v = ⌊v⌋ :=
  if_pos h

theorem truncate_intCast (n : Int) : truncate n = n := by
  rw [truncate, Int.floor_intCast, Int.ceil_intCast, ite_self]

theorem wholePart_eq_floor (significand : Nat) (exponent : Int) :
    (wholePart significand exponent : Int) = ⌊(significand : Rat) * 2 ^ exponent⌋ := by
  rw [wholePart]
  split
  · rename_i hnonneg
    obtain ⟨n, rfl⟩ := Int.eq_ofNat_of_zero_le hnonneg
    rw [Int.toNat_natCast, Nat.shiftLeft_eq, zpow_natCast]
    exact_mod_cast (Int.floor_natCast (R := Rat) (significand * 2 ^ n)).symm
  · rename_i hnegative
    obtain ⟨n, hn⟩ := Int.eq_ofNat_of_zero_le (show 0 ≤ -exponent by omega)
    obtain rfl : exponent = -n := by omega
    have hquotient := Rat.floor_natCast_div_natCast significand (2 ^ n)
    rw [hn, Int.toNat_natCast, Nat.shiftRight_eq_div_pow, zpow_neg, zpow_natCast,
      ← div_eq_mul_inv]
    push_cast at hquotient ⊢
    exact hquotient.symm

/-- The integer part of a number is its rational rounded toward zero. -/
theorem integerPart?_of_value? {x : Number} {v : Rat} (h : x.value? = some v) :
    x.integerPart? = some (truncate v) := by
  have hstored := stored_of_value? h
  rw [integerPart?, reading]
  generalize x.toModel.unpack = unpacked at hstored
  cases hstored with
  | zero sign => cases sign <;> simp [truncate, wholePart]
  | positive hcanonical =>
      rw [truncate_of_nonneg hcanonical.magnitude_pos.le, ← wholePart_eq_floor]
      rfl
  | negative hcanonical =>
      have hneg : ¬ (0 : Rat) ≤ -(_ * _) := not_le.2 (neg_lt_zero.2 hcanonical.magnitude_pos)
      rw [truncate, if_neg hneg, Int.ceil_neg, ← wholePart_eq_floor]
      rfl

theorem integerPart?_of_le_of_lt {x : Number} {v : Rat} {whole : Nat} (h : x.value? = some v)
    (hle : (whole : Rat) ≤ v) (hlt : v < whole + 1) : x.integerPart? = some (whole : Int) := by
  have hnonneg : 0 ≤ v := whole.cast_nonneg.trans hle
  rw [integerPart?_of_value? h, truncate_of_nonneg hnonneg, Option.some.injEq, Int.floor_eq_iff]
  exact ⟨hle, hlt⟩

theorem unpack_ofNat_zero : (ofNat 0).toModel.unpack = .zero .positive := rfl

theorem value?_zero : (ofNat 0).value? = some 0 := by
  rw [value?, reading, unpack_ofNat_zero]
  simp

theorem lt_iff {x y : Number} :
    x < y ↔ x.toModel.unpack.compare y.toModel.unpack = some .lt := by
  have hmodel : x < y ↔ decide (x.toModel < y.toModel) = true := Iff.rfl
  have hunpack : x.toModel < y.toModel ↔ x.toModel.unpack.lt y.toModel.unpack = true := Iff.rfl
  rw [hmodel, decide_eq_true_iff, hunpack, UnpackedFloat.lt, beq_iff_eq]

/-- Numbers are compared as the rationals that they are. -/
theorem lt_iff_of_value? {x y : Number} {v w : Rat} (hx : x.value? = some v)
    (hy : y.value? = some w) : x < y ↔ v < w :=
  lt_iff.trans ((stored_of_value? hx).compare_eq_lt_iff (stored_of_value? hy))

theorem not_infinity_lt (y : UnpackedFloat) :
    (UnpackedFloat.infinity .positive).compare y ≠ some .lt := by
  cases y with
  | infinity sign => cases sign <;> decide
  | _ => simp [UnpackedFloat.compare]

/-- What lies between zero and another number is finite and has no sign. -/
theorem reading_of_pos_of_lt {x y : Number} (hpos : ofNat 0 < x) (hlt : x < y) :
    ∃ significand exponent, x.reading = .finite false significand exponent := by
  rw [lt_iff, unpack_ofNat_zero] at hpos
  rw [lt_iff] at hlt
  rw [reading]
  cases hunpack : x.toModel.unpack with
  | notANumber => simp [hunpack, UnpackedFloat.compare] at hpos
  | zero sign => simp [hunpack, UnpackedFloat.compare] at hpos
  | infinity sign =>
      rw [hunpack] at hpos hlt
      cases sign with
      | negative => simp [UnpackedFloat.compare] at hpos
      | positive => exact absurd hlt (not_infinity_lt _)
  | finite sign significand exponent hpositive =>
      cases sign with
      | negative => simp [hunpack, UnpackedFloat.compare] at hpos
      | positive => exact ⟨significand, exponent, rfl⟩

theorem exists_value?_of_pos_of_lt {x y : Number} (hpos : ofNat 0 < x) (hlt : x < y) :
    ∃ v, x.value? = some v ∧ 0 < v := by
  obtain ⟨significand, exponent, hreading⟩ := reading_of_pos_of_lt hpos hlt
  have hvalue : x.value? = some ((significand : Rat) * 2 ^ exponent) := by
    rw [value?, hreading]
    rfl
  exact ⟨_, hvalue, (lt_iff_of_value? value?_zero hvalue).1 hpos⟩

end Number

end LineMachine
