import LineMachine.Proofs.Number.Rounding
import LineMachine.Proofs.Number.Value

/-!
Whole numbers and sums.  A positive rational is rounded to a whole number of units in the
last place, so a rational that is one already is kept: whole numbers up to `2 ^ 53` are
exact, and adding one to a smaller one is too.
-/

open Float.Model Float.Model.UnpackedFloat

namespace LineMachine

namespace Number

open Rounding

theorem log2_shiftLeft {m : Nat} (hm : m ≠ 0) (shift : Nat) :
    (m <<< shift).log2 = m.log2 + shift := by
  have hne : m <<< shift ≠ 0 := by
    rw [Nat.shiftLeft_eq]
    exact Nat.mul_ne_zero hm (Nat.ne_of_gt (Nat.two_pow_pos shift))
  rw [Nat.log2_eq_iff hne, Nat.shiftLeft_eq, Nat.pow_add, Nat.add_right_comm, Nat.pow_add]
  exact ⟨Nat.mul_le_mul_right _ (Nat.log2_self_le hm),
    Nat.mul_lt_mul_of_pos_right Nat.lt_log2_self (Nat.two_pow_pos shift)⟩

/-- A rational near a number is rounded to it, whatever mantissa and exponent it is given
with. -/
theorem round_of_near {m significand : Nat} {e exponent : Int} (sign : Sign) (hm : m ≠ 0)
    (hcanonical : Canonical significand exponent)
    (hnear : Near significand exponent ((m : Rat) * 2 ^ e / 2 ^ exponent)) :
    UnpackedFloat.round Format.binary64 sign m e =
      .finite sign significand exponent hcanonical.pos := by
  obtain ⟨target, htarget⟩ : ∃ target : Int, target = max (m.log2 + 1 + e - 53) (-1074) :=
    ⟨_, rfl⟩
  obtain ⟨shift, hshift⟩ : ∃ shift, shift = (e - target).toNat := ⟨_, rfl⟩
  have hvalue : (m : Rat) * 2 ^ e = ((m <<< shift : Nat) : Rat) * 2 ^ (e - shift) := by
    rw [Nat.shiftLeft_eq, zpow_sub₀ two_ne_zero, zpow_natCast]
    push_cast
    field_simp
  have henough : 52 ≤ (m <<< shift).log2 ∨ e - shift ≤ -1074 := by
    rw [log2_shiftLeft hm]
    omega
  rw [hvalue] at hnear
  rw [UnpackedFloat.round, targetExponent_binary64, totalExponent, ← htarget]
  simp only [decreaseExponent, ← hshift]
  exact roundWithAccuracy_of_near sign (represents_exact _) henough hcanonical hnear

/-- A whole number nearest to a rational, the even one of two that are equally near. -/
structure NearestWhole (n : Nat) (w : Rat) : Prop where
  low : (n : Rat) - 1 / 2 ≤ w
  high : w ≤ n + 1 / 2
  tie : n % 2 = 0 ∨ ((n : Rat) - 1 / 2 < w ∧ w < n + 1 / 2)

theorem nearestWhole_natCast (n : Nat) : NearestWhole n n :=
  ⟨by linarith, by linarith, .inr ⟨by linarith, by linarith⟩⟩

theorem exists_nearestWhole {w : Rat} (h : 0 ≤ w) : ∃ n, NearestWhole n w := by
  have hle := Nat.floor_le h
  have hlt := Nat.lt_floor_add_one w
  rcases lt_trichotomy (w - ⌊w⌋₊) (1 / 2) with hbelow | hhalf | habove
  · exact ⟨⌊w⌋₊, by linarith, by linarith, .inr ⟨by linarith, by linarith⟩⟩
  · rcases Nat.mod_two_eq_zero_or_one ⌊w⌋₊ with heven | hodd
    · exact ⟨⌊w⌋₊, by linarith, by linarith, .inl heven⟩
    · exact ⟨⌊w⌋₊ + 1, by push_cast; linarith, by push_cast; linarith, .inl (by omega)⟩
  · refine ⟨⌊w⌋₊ + 1, ?_, ?_, .inr ⟨?_, ?_⟩⟩ <;> push_cast <;> linarith

/-- Rounding does not pass a whole number. -/
theorem NearestWhole.le_of_le {n bound : Nat} {w : Rat} (h : NearestWhole n w)
    (hw : w ≤ bound) : n ≤ bound := by
  have hlt : (n : Rat) < (bound + 1 : Nat) := by
    have hlow := h.low
    push_cast
    linarith
  have hlt : n < bound + 1 := by exact_mod_cast hlt
  omega

theorem NearestWhole.ge_of_ge {n bound : Nat} {w : Rat} (h : NearestWhole n w)
    (hw : bound ≤ w) : bound ≤ n := by
  have hlt : (bound : Rat) < (n + 1 : Nat) := by
    have hhigh := h.high
    push_cast
    linarith
  have hlt : bound < n + 1 := by exact_mod_cast hlt
  omega

/-- A positive rational is rounded to the nearest whole number of units in the last place. -/
theorem value?_round {m n : Nat} {e unit : Int} {w : Rat} (hm : m ≠ 0)
    (hvalue : (m : Rat) * 2 ^ e = w * 2 ^ unit) (hlow : 2 ^ 52 ≤ w) (hhigh : w < 2 ^ 53)
    (hnearest : NearestWhole n w) (hleast : -1074 ≤ unit)
    (hfits : unit ≤ 970 ∨ unit = 971 ∧ n < 2 ^ 53) :
    value? (.ofModel (Float.Model.pack (UnpackedFloat.round Format.binary64 .positive m e))) =
      some ((n : Rat) * 2 ^ unit) := by
  have hunit : (0 : Rat) < 2 ^ unit := by positivity
  have hge : 2 ^ 52 ≤ n := hnearest.ge_of_ge (by exact_mod_cast hlow)
  have hle : n ≤ 2 ^ 53 := hnearest.le_of_le (by exact_mod_cast hhigh.le)
  have hw : (m : Rat) * 2 ^ e / 2 ^ unit = w := by
    rw [hvalue]
    field_simp
  rcases Nat.lt_or_eq_of_le hle with hlt | rfl
  · have hcanonical : Canonical n unit := ⟨by omega, hlt, hleast, by omega, .inl hge⟩
    have hnear : Near n unit ((m : Rat) * 2 ^ e / 2 ^ unit) := by
      rw [hw]
      refine ⟨hnearest.low, hnearest.high, hnearest.tie, ?_⟩
      rintro rfl -
      push_cast
      linarith
    rw [round_of_near .positive hm hcanonical hnear]
    exact value?_ofModel_pack hcanonical
  · -- The mantissa has grown by a bit, and the unit is twice as large.
    have hcanonical : Canonical (2 ^ 52) (unit + 1) :=
      ⟨by norm_num, by norm_num, by omega, by omega, .inl (le_refl _)⟩
    have hhalf : (m : Rat) * 2 ^ e / 2 ^ (unit + 1) = w / 2 := by
      rw [zpow_add_one₀ two_ne_zero, ← div_div, hw]
    have hnear : Near (2 ^ 52) (unit + 1) ((m : Rat) * 2 ^ e / 2 ^ (unit + 1)) := by
      have hbelow := hnearest.low
      rw [hhalf]
      push_cast at hbelow
      refine ⟨?_, ?_, .inl (by norm_num), fun _ _ => ?_⟩ <;> push_cast <;> linarith
    rw [round_of_near .positive hm hcanonical hnear]
    have hsame : ((2 ^ 53 : Nat) : Rat) * 2 ^ unit = ((2 ^ 52 : Nat) : Rat) * 2 ^ (unit + 1) := by
      rw [zpow_add_one₀ two_ne_zero]
      push_cast
      ring
    rw [hsame]
    exact value?_ofModel_pack hcanonical

theorem ofNat_eq_round {n : Nat} (hn : n ≠ 0) :
    ofNat n = .ofModel (Float.Model.pack (UnpackedFloat.round Format.binary64 .positive n 0)) := by
  have hgt : compare (n : Int) 0 = .gt := by
    rw [compare_gt_iff_gt]
    omega
  rw [ofNat, ofInt, Float.Model.ofInt, UnpackedFloat.ofInt, UnpackedFloat.normalize, hgt]
  rfl

theorem two_pow_eq_units (k n : Nat) : (2 : Rat) ^ k = 2 ^ n * 2 ^ ((k : Int) - n) := by
  rw [← zpow_natCast, ← zpow_natCast, ← zpow_add₀ two_ne_zero]
  congr 1
  ring

/-- A whole number in units of the last place that its leading bit asks for. -/
theorem exists_units {n : Nat} (hn : n ≠ 0) :
    ∃ w : Rat, (n : Rat) * 2 ^ (0 : Int) = w * 2 ^ ((n.log2 : Int) - 52) ∧ 2 ^ 52 ≤ w ∧
      w < 2 ^ 53 := by
  have hunit : (0 : Rat) < 2 ^ ((n.log2 : Int) - 52) := by positivity
  have hpower := two_pow_eq_units n.log2 52
  have hlow : (2 : Rat) ^ n.log2 ≤ n := by exact_mod_cast Nat.log2_self_le hn
  have hhigh : (n : Rat) < 2 ^ (n.log2 + 1) := by exact_mod_cast (Nat.lt_log2_self (n := n))
  push_cast at hpower
  refine ⟨n / 2 ^ ((n.log2 : Int) - 52), by field_simp, ?_, ?_⟩
  · rw [le_div_iff₀ hunit]
    linarith
  · rw [div_lt_iff₀ hunit]
    rw [pow_succ] at hhigh
    linarith

/-- Whole numbers with at most 53 bits are exact. -/
theorem value?_ofNat {n : Nat} (h : n < 2 ^ 53) : (ofNat n).value? = some (n : Rat) := by
  by_cases hn : n = 0
  · subst hn
    exact value?_zero
  obtain ⟨w, hvalue, hlow, hhigh⟩ := exists_units hn
  have hlog : n.log2 ≤ 52 := by
    have hlt := (Nat.log2_lt hn).2 h
    omega
  have hw : w = (n * 2 ^ (52 - n.log2) : Nat) := by
    have hunit : (2 : Rat) ^ ((n.log2 : Int) - 52) = 1 / 2 ^ (52 - n.log2) := by
      rw [show (n.log2 : Int) - 52 = -((52 - n.log2 : Nat) : Int) by omega, zpow_neg,
        zpow_natCast, one_div]
    rw [hunit] at hvalue
    push_cast
    field_simp at hvalue
    linarith
  subst hw
  rw [ofNat_eq_round hn, value?_round hn hvalue hlow hhigh (nearestWhole_natCast _) (by omega)
    (.inl (by omega)), ← hvalue, zpow_zero, mul_one]

/-- What is a whole number of units is a whole number of smaller units. -/
theorem magnitude_eq_units (m : Nat) {d unit : Int} (h : unit ≤ d) :
    ∃ shift : Nat, d = unit + shift ∧
      (m : Rat) * 2 ^ d = ((m * 2 ^ shift : Nat) : Rat) * 2 ^ unit := by
  obtain ⟨shift, hshift⟩ := Int.eq_ofNat_of_zero_le (Int.sub_nonneg_of_le h)
  have hd : d = unit + shift := by omega
  refine ⟨shift, hd, ?_⟩
  rw [hd, zpow_add₀ two_ne_zero, zpow_natCast]
  push_cast
  ring

/-- No number lies below a whole number that it has reached, however large and rounded. -/
theorem not_lt_ofNat_of_le {x : Number} {v : Rat} {n : Nat} (hx : x.value? = some v)
    (h : n ≤ v) : ¬ x < ofNat n := by
  by_cases hn : n = 0
  · subst hn
    rw [lt_iff_of_value? hx value?_zero, not_lt]
    exact_mod_cast h
  have hpos : (0 : Rat) < v := lt_of_lt_of_le (by exact_mod_cast Nat.pos_of_ne_zero hn) h
  obtain ⟨significand, exponent, hcanonical, -, rfl⟩ := exists_canonical_of_pos hx hpos
  obtain ⟨w, hvalue, hlow, hhigh⟩ := exists_units hn
  obtain ⟨unit, hunit⟩ : ∃ unit : Int, unit = n.log2 - 52 := ⟨_, rfl⟩
  have hpositive : (0 : Rat) < 2 ^ unit := by positivity
  rw [← hunit] at hvalue
  rw [zpow_zero, mul_one] at hvalue
  have hlt := hcanonical.lt
  have hgreatest := hcanonical.le_greatest
  have hle : unit ≤ exponent := hcanonical.le_of_le_magnitude hlow (hvalue ▸ h)
  obtain ⟨shift, hshift, hsame⟩ := magnitude_eq_units significand hle
  obtain ⟨rounded, hrounded⟩ := exists_nearestWhole (w := w) (by linarith)
  have hbound : rounded ≤ significand * 2 ^ shift := by
    refine hrounded.le_of_le (le_of_mul_le_mul_right ?_ hpositive)
    rw [← hsame, ← hvalue]
    exact h
  have hfits : unit ≤ 970 ∨ unit = 971 ∧ rounded < 2 ^ 53 := by
    by_cases hlast : unit = 971
    · obtain rfl : shift = 0 := by omega
      exact .inr ⟨hlast, by omega⟩
    · exact .inl (by omega)
  have hrhs : (ofNat n).value? = some ((rounded : Rat) * 2 ^ unit) := by
    rw [ofNat_eq_round hn]
    exact value?_round hn (by rw [zpow_zero, mul_one, hvalue]) hlow hhigh hrounded (by omega) hfits
  rw [lt_iff_of_value? hx hrhs, not_lt, hsame]
  exact mul_le_mul_of_nonneg_right (by exact_mod_cast hbound) hpositive.le

/-- The sum of two numbers above zero is their exact sum, rounded. -/
theorem add_eq_round {x y : Number} {v w : Rat} (hx : x.value? = some v)
    (hy : y.value? = some w) (hv : 0 < v) (hw : 0 < w) :
    ∃ (m : Nat) (e : Int), m ≠ 0 ∧ (m : Rat) * 2 ^ e = v + w ∧ x + y =
      .ofModel (Float.Model.pack (UnpackedFloat.round Format.binary64 .positive m e)) := by
  obtain ⟨m, d, hm, hunpack, rfl⟩ := exists_canonical_of_pos hx hv
  obtain ⟨n, e, hn, hunpack', rfl⟩ := exists_canonical_of_pos hy hw
  obtain ⟨low, hlow⟩ : ∃ low, low = min d e := ⟨_, rfl⟩
  obtain ⟨shift, hshift⟩ := Int.eq_ofNat_of_zero_le (show 0 ≤ d - low by omega)
  obtain ⟨shift', hshift'⟩ := Int.eq_ofNat_of_zero_le (show 0 ≤ e - low by omega)
  have hpos : 0 < m <<< shift + n <<< shift' := by
    rw [Nat.shiftLeft_eq]
    exact Nat.add_pos_left (Nat.mul_pos hm.pos (Nat.two_pow_pos shift)) _
  refine ⟨m <<< shift + n <<< shift', low, Nat.ne_of_gt hpos, ?_, ?_⟩
  · have hd : d = low + shift := by omega
    have he : e = low + shift' := by omega
    rw [hd, he, zpow_add₀ two_ne_zero, zpow_add₀ two_ne_zero, zpow_natCast, zpow_natCast,
      Nat.shiftLeft_eq, Nat.shiftLeft_eq]
    push_cast
    ring
  · have hgt : compare ((m <<< shift : Nat) + (n <<< shift' : Nat) : Int) 0 = .gt := by
      rw [compare_gt_iff_gt]
      omega
    have hsum : x + y = .ofModel (Float.Model.pack (UnpackedFloat.add Format.binary64
        x.toModel.unpack y.toModel.unpack)) := rfl
    rw [hsum, hunpack, hunpack', UnpackedFloat.add, ← hlow]
    simp only [decreaseExponent, hshift, hshift', Int.toNat_natCast, Sign.apply,
      UnpackedFloat.normalize, hgt]
    rfl

/-- A sum is rounded to the nearest whole number of units in its last place. -/
theorem value?_add {x y : Number} {v w units : Rat} {unit : Int} {n : Nat}
    (hx : x.value? = some v) (hy : y.value? = some w) (hv : 0 < v) (hw : 0 < w)
    (hunits : v + w = units * 2 ^ unit) (hlow : 2 ^ 52 ≤ units) (hhigh : units < 2 ^ 53)
    (hnearest : NearestWhole n units) (hleast : -1074 ≤ unit) (hgreatest : unit ≤ 970) :
    (x + y).value? = some ((n : Rat) * 2 ^ unit) := by
  obtain ⟨m, e, hm, hvalue, hsum⟩ := add_eq_round hx hy hv hw
  rw [hsum, value?_round hm (hvalue.trans hunits) hlow hhigh hnearest hleast (.inl hgreatest)]

end Number

end LineMachine
