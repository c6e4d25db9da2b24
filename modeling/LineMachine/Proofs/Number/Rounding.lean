import LineMachine.Number.Decimal
import LineMachine.Proofs.Number.Bits

/-!
Rounding.  Arithmetic on numbers keeps a mantissa and two residual bits, and these say
enough of the exact result to find the number that it rounds to.  Every decimal inside the
interval around a number is therefore read as that number.
-/

open Float.Model Float.Model.UnpackedFloat

namespace LineMachine

namespace Rounding

open Number (Canonical)

/-- Twice the mantissa, and the round bit. -/
def doubled (em : ExtendedMantissa) : Nat :=
  2 * em.mantissa + em.roundBit.toNat

/-- A mantissa and its residual bits describe a rational: the mantissa and the round bit
are its leading bits, and the sticky bit tells whether there are more. -/
structure Represents (em : ExtendedMantissa) (v : Rat) : Prop where
  le : (doubled em : Rat) ≤ 2 * v
  lt : 2 * v < doubled em + 1
  sticky : em.stickyBit = false ↔ (doubled em : Rat) = 2 * v

theorem Represents.mantissa_le {em : ExtendedMantissa} {v : Rat} (h : Represents em v) :
    (em.mantissa : Rat) ≤ v := by
  have hle := h.le
  have hbit : (0 : Rat) ≤ em.roundBit.toNat := Nat.cast_nonneg _
  rw [doubled] at hle
  push_cast at hle
  linarith

theorem Represents.lt_mantissa {em : ExtendedMantissa} {v : Rat} (h : Represents em v) :
    v < em.mantissa + 1 := by
  have hlt := h.lt
  have hbit : (em.roundBit.toNat : Rat) ≤ 1 := by exact_mod_cast Bool.toNat_le em.roundBit
  rw [doubled] at hlt
  push_cast at hlt
  linarith

theorem doubled_shiftRightOne (em : ExtendedMantissa) :
    doubled em.shiftRightOne = em.mantissa := by
  rw [doubled, ExtendedMantissa.shiftRightOne]
  rcases Nat.mod_two_eq_zero_or_one em.mantissa with hmod | hmod
  · simp only [hmod, bne_self_eq_false, Bool.toNat_false]
    omega
  · simp only [hmod]
    rw [show (1 != 0) = true from rfl, Bool.toNat_true]
    omega

/-- Shifting out a bit halves the rational. -/
theorem Represents.shiftRightOne {em : ExtendedMantissa} {v : Rat} (h : Represents em v) :
    Represents em.shiftRightOne (v / 2) := by
  have hle := h.mantissa_le
  have hlt := h.lt_mantissa
  constructor
  · rw [doubled_shiftRightOne]
    linarith
  · rw [doubled_shiftRightOne]
    linarith
  · rw [doubled_shiftRightOne, ExtendedMantissa.shiftRightOne, Bool.or_eq_false_iff, h.sticky,
      mul_div_cancel₀ v two_ne_zero, doubled]
    constructor
    · rintro ⟨hround, heq⟩
      rw [hround, Bool.toNat_false, Nat.add_zero] at heq
      push_cast at heq
      linarith
    · intro heq
      cases hround : em.roundBit with
      | true =>
          have hfirst := h.le
          rw [doubled, hround, Bool.toNat_true] at hfirst
          push_cast at hfirst
          linarith
      | false =>
          refine ⟨rfl, ?_⟩
          rw [Bool.toNat_false, Nat.add_zero]
          push_cast
          linarith

theorem Represents.shiftRight {em : ExtendedMantissa} {v : Rat} (h : Represents em v)
    (n : Nat) : Represents (em >>> n) (v / 2 ^ n) := by
  induction n with
  | zero =>
      rw [pow_zero, div_one]
      exact h
  | succ n ih =>
      rw [pow_succ, ← div_div]
      exact ih.shiftRightOne

theorem represents_exact (m : Nat) :
    Represents (ExtendedMantissa.ofMantissaAndAccuracy m .exact) m := by
  have hdoubled : doubled (ExtendedMantissa.ofMantissaAndAccuracy m .exact) = 2 * m := rfl
  constructor
  · rw [hdoubled]
    push_cast
    exact le_refl _
  · rw [hdoubled]
    push_cast
    linarith
  · rw [hdoubled]
    simp [ExtendedMantissa.ofMantissaAndAccuracy]

/-- A quotient is described by its whole part and the comparison of its remainder. -/
theorem represents_fraction (m : Nat) {num den : Nat} (h : num < den) :
    Represents (ExtendedMantissa.ofMantissaAndAccuracy m (accuracyOfFraction num den))
      (m + num / den) := by
  have hden : (0 : Rat) < den := by exact_mod_cast Nat.zero_lt_of_lt h
  rw [accuracyOfFraction]
  by_cases hzero : num = 0
  · rw [if_pos hzero, hzero, Nat.cast_zero, zero_div, add_zero]
    exact represents_exact m
  have hpos : (0 : Rat) < num / den := by
    have hnum : (0 : Rat) < num := by exact_mod_cast Nat.pos_of_ne_zero hzero
    positivity
  have hone : (num : Rat) / den < 1 := by
    rw [div_lt_one hden]
    exact_mod_cast h
  rw [if_neg hzero]
  rcases Nat.lt_trichotomy (2 * num) den with hlt | heq | hgt
  · have hhalf : 2 * ((num : Rat) / den) < 1 := by
      rw [← mul_div_assoc, div_lt_one hden]
      exact_mod_cast hlt
    rw [Nat.compare_eq_lt.2 hlt]
    have hdoubled : (doubled ⟨m, false, true⟩ : Rat) = 2 * m := by simp [doubled]
    refine ⟨?_, ?_, iff_of_false Bool.noConfusion ?_⟩
    · exact hdoubled.trans_le (by linarith)
    · exact lt_of_lt_of_eq (by linarith) (congrArg (· + 1) hdoubled.symm)
    · exact fun heq => absurd (hdoubled.symm.trans heq) (by linarith)
  · have hhalf : 2 * ((num : Rat) / den) = 1 := by
      rw [← mul_div_assoc, div_eq_one_iff_eq (ne_of_gt hden)]
      exact_mod_cast heq
    rw [Nat.compare_eq_eq.2 heq]
    have hdoubled : (doubled ⟨m, true, false⟩ : Rat) = 2 * m + 1 := by simp [doubled]
    refine ⟨?_, ?_, iff_of_true rfl ?_⟩
    · exact hdoubled.trans_le (by linarith)
    · exact lt_of_lt_of_eq (by linarith) (congrArg (· + 1) hdoubled.symm)
    · exact hdoubled.trans (by linarith)
  · have hhalf : 1 < 2 * ((num : Rat) / den) := by
      rw [← mul_div_assoc, one_lt_div hden]
      exact_mod_cast hgt
    rw [Nat.compare_eq_gt.2 hgt]
    have hdoubled : (doubled ⟨m, true, true⟩ : Rat) = 2 * m + 1 := by simp [doubled]
    refine ⟨?_, ?_, iff_of_false Bool.noConfusion ?_⟩
    · exact hdoubled.trans_le (by linarith)
    · exact lt_of_lt_of_eq (by linarith) (congrArg (· + 1) hdoubled.symm)
    · exact fun heq => absurd (hdoubled.symm.trans heq) (by linarith)

/-- The mantissa is rounded to a whole number that is half a unit away at most, and is even
if it is exactly half a unit away. -/
theorem Represents.roundedMantissa_eq {em : ExtendedMantissa} {v : Rat} (h : Represents em v)
    {n : Nat} (hlow : 2 * (n : Rat) - 1 ≤ 2 * v) (hhigh : 2 * v ≤ 2 * n + 1)
    (htie : n % 2 = 0 ∨ (2 * (n : Rat) - 1 < 2 * v ∧ 2 * v < 2 * n + 1)) :
    em.roundedMantissa = n := by
  have hlower : 2 * n ≤ doubled em + 1 := by
    have hlt : ((2 * n : Nat) : Rat) < (doubled em + 2 : Nat) := by
      have hv := h.lt
      push_cast
      linarith
    have hlt : 2 * n < doubled em + 2 := by exact_mod_cast hlt
    omega
  have hupper : doubled em ≤ 2 * n + 1 := by
    have hle : (doubled em : Rat) ≤ (2 * n + 1 : Nat) := by
      push_cast
      exact h.le.trans hhigh
    exact_mod_cast hle
  obtain ⟨m, round, sticky⟩ := em
  cases round with
  | false =>
      -- Less than half a unit above the mantissa.
      obtain rfl : m = n := by
        simp only [doubled, Bool.toNat_false] at hlower hupper
        omega
      cases sticky <;> rfl
  | true =>
      simp only [doubled, Bool.toNat_true] at hlower hupper
      cases sticky with
      | false =>
          -- Exactly half a unit.
          have hexact := h.sticky.1 rfl
          have heven : n % 2 = 0 := by
            rcases htie with heven | ⟨hlow, hhigh⟩
            · exact heven
            · rw [← hexact] at hlow hhigh
              have hlow : 2 * n < 2 * m + 1 + 1 := by
                have hcast : ((2 * n : Nat) : Rat) < (2 * m + 1 + 1 : Nat) := by
                  simp only [doubled, Bool.toNat_true] at hlow
                  push_cast at hlow ⊢
                  linarith
                exact_mod_cast hcast
              have hhigh : 2 * m + 1 < 2 * n + 1 := by
                have hcast : ((2 * m + 1 : Nat) : Rat) < (2 * n + 1 : Nat) := by
                  simp only [doubled, Bool.toNat_true] at hhigh
                  push_cast at hhigh ⊢
                  linarith
                exact_mod_cast hcast
              omega
          have hrounded : m + m % 2 = n := by omega
          exact hrounded
      | true =>
          -- More than half a unit.
          have hmore : (doubled ⟨m, true, true⟩ : Rat) < 2 * v :=
            lt_of_le_of_ne h.le fun heq => Bool.noConfusion (h.sticky.2 heq)
          have hstrict : 2 * m + 1 < 2 * n + 1 := by
            have hcast : ((2 * m + 1 : Nat) : Rat) < (2 * n + 1 : Nat) := by
              simp only [doubled, Bool.toNat_true] at hmore
              push_cast at hmore ⊢
              linarith
            exact_mod_cast hcast
          have hrounded : m + 1 = n := by omega
          exact hrounded

theorem targetExponent_binary64 (total : Int) :
    Format.binary64.targetExponent total = max (total - 53) (-1074) := by
  have hwidth : (Format.binary64.mantissaBits : Int) = 53 := by decide
  have hleast : Format.binary64.minExponent = -1074 := by decide
  rw [Format.targetExponent, hwidth, hleast]

/-- How far a rational may be from a significand, in units of its last bit. -/
structure Near (significand : Nat) (exponent : Int) (w : Rat) : Prop where
  low : (significand : Rat) - 1 / 2 ≤ w
  high : w ≤ significand + 1 / 2
  tie : significand % 2 = 0 ∨ ((significand : Rat) - 1 / 2 < w ∧ w < significand + 1 / 2)
  narrow : significand = 2 ^ 52 → -1074 < exponent → (significand : Rat) - 1 / 4 ≤ w

theorem Near.lt_two_zpow {significand : Nat} {exponent : Int} {w : Rat}
    (hcanonical : Canonical significand exponent) (h : Near significand exponent w) :
    w < 2 ^ (53 : Int) := by
  have hle : ((significand + 1 : Nat) : Rat) ≤ (2 ^ 53 : Nat) := by
    exact_mod_cast hcanonical.lt
  have hhigh := h.high
  have htwo : (2 : Rat) ^ (53 : Int) = 2 ^ 53 := by norm_cast
  push_cast at hle
  rw [htwo]
  linarith

theorem contains_iff {interval : RationalInterval} {x : Rat} :
    interval.contains x = true ↔
      (interval.low ≤ x ∧ x ≤ interval.high) ∧
        (interval.closed = true ∨ (interval.low < x ∧ x < interval.high)) := by
  rw [RationalInterval.contains]
  cases interval.closed with
  | true => simp
  | false =>
      simp only [Bool.false_eq_true, if_false, Bool.and_eq_true, decide_eq_true_eq, false_or]
      constructor
      · intro h
        exact ⟨⟨le_of_lt h.1, le_of_lt h.2⟩, h⟩
      · exact And.right

/-- The interval around a number in units of its last bit. -/
theorem near_of_contains {significand : Nat} {exponent : Int} {x : Rat}
    (h : (RationalInterval.aroundBinary significand exponent).contains x = true) :
    Near significand exponent (x / 2 ^ exponent) := by
  have hunit : (0 : Rat) < 2 ^ exponent := by positivity
  obtain ⟨⟨hlow, hhigh⟩, hends⟩ := contains_iff.1 h
  obtain ⟨w, rfl⟩ : ∃ w, x = w * 2 ^ exponent := ⟨x / 2 ^ exponent, by field_simp⟩
  rw [mul_div_cancel_right₀ w (ne_of_gt hunit)]
  simp only [RationalInterval.aroundBinary] at hlow hhigh hends
  have hhigh' : w ≤ significand + 1 / 2 := by
    refine le_of_mul_le_mul_right ?_ hunit
    linarith
  split at hlow
  · rename_i hnarrow
    have hlow' : (significand : Rat) - 1 / 4 ≤ w := by
      refine le_of_mul_le_mul_right ?_ hunit
      linarith
    have heven : significand % 2 = 0 := by
      rw [hnarrow.1]
      rfl
    exact ⟨by linarith, hhigh', .inl heven, fun _ _ => hlow'⟩
  · rename_i hnarrow
    have hlow' : (significand : Rat) - 1 / 2 ≤ w := by
      refine le_of_mul_le_mul_right ?_ hunit
      linarith
    refine ⟨hlow', hhigh', ?_, fun hs he => absurd ⟨hs, he⟩ hnarrow⟩
    rcases hends with heven | ⟨hlow, hhigh⟩
    · exact .inl (by simpa using heven)
    · right
      rw [if_neg hnarrow] at hlow
      constructor
      · refine lt_of_mul_lt_mul_right ?_ (le_of_lt hunit)
        linarith
      · refine lt_of_mul_lt_mul_right ?_ (le_of_lt hunit)
        linarith

theorem two_zpow_lt_iff {a b : Int} : (2 : Rat) ^ a < 2 ^ b ↔ a < b :=
  zpow_lt_zpow_iff_right₀ one_lt_two

theorem mantissa_ofMantissaAndAccuracy (m : Nat) (accuracy : Accuracy) :
    (ExtendedMantissa.ofMantissaAndAccuracy m accuracy).mantissa = m := by
  rcases accuracy with _ | _ | _ | _ <;> rfl

/-- A mantissa tells the leading bit of what it describes. -/
theorem Represents.leadingBit {m : Nat} {accuracy : Accuracy} {v : Rat}
    (h : Represents (ExtendedMantissa.ofMantissaAndAccuracy m accuracy) v) (e : Int) :
    v * 2 ^ e < 2 ^ (m.log2 + 1 + e) ∧ (m ≠ 0 → (2 : Rat) ^ (m.log2 + e) ≤ v * 2 ^ e) := by
  have hunit : (0 : Rat) < 2 ^ e := by positivity
  have hle := h.mantissa_le
  have hlt := h.lt_mantissa
  rw [mantissa_ofMantissaAndAccuracy] at hle hlt
  constructor
  · have hlog : m + 1 ≤ 2 ^ (m.log2 + 1) := Nat.lt_log2_self
    have hcast : ((m + 1 : Nat) : Rat) ≤ (2 ^ (m.log2 + 1) : Nat) := by exact_mod_cast hlog
    push_cast at hcast
    rw [zpow_add₀ two_ne_zero]
    refine mul_lt_mul_of_pos_right ?_ hunit
    exact_mod_cast hlt.trans_le hcast
  · intro hne
    have hcast : ((2 ^ m.log2 : Nat) : Rat) ≤ m := by exact_mod_cast Nat.log2_self_le hne
    push_cast at hcast
    rw [zpow_add₀ two_ne_zero]
    refine mul_le_mul_of_nonneg_right ?_ (le_of_lt hunit)
    exact_mod_cast hcast.trans hle

theorem shiftToTargetExponent_eq {m shift : Nat} {e : Int} (accuracy : Accuracy)
    (h : shift = (max (m.log2 + e - 52) (-1074) - e).toNat) :
    shiftToTargetExponent Format.binary64 m e accuracy =
      (ExtendedMantissa.ofMantissaAndAccuracy m accuracy >>> shift, e + shift) := by
  have hshift : (max ((m.log2 : Int) + 1 + e - 53) (-1074) - e).toNat = shift := by omega
  rw [shiftToTargetExponent, targetExponent_binary64, totalExponent]
  simp only [shiftToExponent, hshift]

/-- Rounding is a shift, the choice of the mantissa and, should that have grown by a bit,
another shift. -/
theorem roundWithAccuracy_eq {m significand first : Nat} {e exponent : Int}
    {accuracy : Accuracy} {rounded : Nat} (last : Nat) (sign : Sign) (hpos : 0 < significand)
    (hfirst : first = (max (m.log2 + e - 52) (-1074) - e).toNat)
    (hrounded : (ExtendedMantissa.ofMantissaAndAccuracy m accuracy >>> first).roundedMantissa =
      rounded)
    (hlast : last = (max (rounded.log2 + (e + first) - 52) (-1074) - (e + first)).toNat)
    (hsignificand : (ExtendedMantissa.ofMantissaAndAccuracy rounded .exact >>> last).mantissa =
      significand)
    (hexponent : e + first + last = exponent) :
    roundWithAccuracy Format.binary64 sign m e accuracy =
      .finite sign significand exponent hpos := by
  subst hsignificand hexponent hrounded
  rw [roundWithAccuracy, shiftToTargetExponent_eq accuracy hfirst]
  dsimp only
  rw [shiftToTargetExponent_eq .exact hlast]
  exact dif_neg (Nat.ne_of_gt hpos)

/-- A rational below the least significand rounds to it only, and is not far below it. -/
theorem Near.least_of_lt {significand : Nat} {exponent : Int} {w : Rat}
    (hnear : Near significand exponent w) (hcanonical : Canonical significand exponent)
    (hexponent : -1074 < exponent) (hsmall : w < 2 ^ 52) :
    significand = 2 ^ 52 ∧ 2 ^ 51 ≤ w := by
  have hnormal : 2 ^ 52 ≤ significand := hcanonical.normal.resolve_right (by omega)
  have hlt : ((significand : Nat) : Rat) < (2 ^ 52 + 1 : Nat) := by
    have hlow := hnear.low
    push_cast
    linarith
  have hlt : significand < 2 ^ 52 + 1 := by exact_mod_cast hlt
  obtain rfl : significand = 2 ^ 52 := by omega
  have hnarrow := hnear.narrow rfl hexponent
  push_cast at hnarrow
  exact ⟨rfl, by linarith⟩

/-- The exponent to shift to is that of the number, or one less where the number is the
least with its exponent and the rational lies below it. -/
theorem target_cases {m significand : Nat} {e exponent : Int} {accuracy : Accuracy} {v : Rat}
    (h : Represents (ExtendedMantissa.ofMantissaAndAccuracy m accuracy) v)
    (henough : 52 ≤ m.log2 ∨ e ≤ -1074) (hcanonical : Canonical significand exponent)
    (hnear : Near significand exponent (v * 2 ^ e / 2 ^ exponent)) :
    max (m.log2 + e - 52) (-1074) = exponent ∨
      (max (m.log2 + e - 52) (-1074) = exponent - 1 ∧ significand = 2 ^ 52 ∧
        -1074 < exponent ∧ v * 2 ^ e / 2 ^ exponent < 2 ^ 52) := by
  have hunit : (0 : Rat) < 2 ^ exponent := by positivity
  obtain ⟨hupper, hlower⟩ := h.leadingBit e
  have hscaled : v * 2 ^ e = v * 2 ^ e / 2 ^ exponent * 2 ^ exponent := by field_simp
  generalize v * 2 ^ e / 2 ^ exponent = w at hnear hscaled ⊢
  have hleast := hcanonical.least_le
  -- Powers of two on either side of the rational bound its leading bit.
  have habove (k : Int) (hk : w < 2 ^ k) : m ≠ 0 → m.log2 + e < k + exponent := by
    intro hne
    rw [← two_zpow_lt_iff, zpow_add₀ two_ne_zero k]
    refine (hlower hne).trans_lt ?_
    rw [hscaled]
    exact mul_lt_mul_of_pos_right hk hunit
  have hbelow (k : Int) (hk : (2 : Rat) ^ k ≤ w) : k + exponent < m.log2 + 1 + e := by
    rw [← two_zpow_lt_iff, zpow_add₀ two_ne_zero k]
    refine lt_of_le_of_lt ?_ hupper
    rw [hscaled]
    exact mul_le_mul_of_nonneg_right hk (le_of_lt hunit)
  have hlarge := hnear.lt_two_zpow hcanonical
  have hzero : m = 0 → m.log2 = 0 ∧ e ≤ -1074 := by
    rintro rfl
    rcases henough with hlog | he
    · simp at hlog
    · exact ⟨by simp, he⟩
  rcases lt_or_ge w (2 ^ (52 : Int)) with hsmall | hbig
  · by_cases hsubnormal : exponent = -1074
    · left
      by_cases hm : m = 0
      · have he := hzero hm
        omega
      · have hlt := habove 52 hsmall hm
        omega
    · right
      have hexponent : -1074 < exponent := by omega
      have htwo (k : Nat) : (2 : Rat) ^ (k : Int) = 2 ^ k := zpow_natCast 2 k
      have hbelowLeast : w < 2 ^ 52 := htwo 52 ▸ hsmall
      obtain ⟨hsignificand, hhalf⟩ := hnear.least_of_lt hcanonical hexponent hbelowLeast
      have hge := hbelow 51 (htwo 51 ▸ hhalf)
      have hm : m ≠ 0 := by
        intro hm
        have he := hzero hm
        omega
      have hlt := habove 52 hsmall hm
      exact ⟨by omega, hsignificand, hexponent, hbelowLeast⟩
  · left
    have hge := hbelow 52 hbig
    have hm : m ≠ 0 := by
      intro hm
      have he := hzero hm
      omega
    have hlt := habove 53 hlarge hm
    omega

theorem log2_le_of_canonical {significand : Nat} {exponent : Int}
    (h : Canonical significand exponent) : significand.log2 ≤ 52 := by
  have hlog := (Nat.log2_lt (Nat.ne_of_gt h.pos)).2 h.lt
  omega

/-- A rational near a number is rounded to it. -/
theorem roundWithAccuracy_of_near {m significand : Nat} {e exponent : Int} {accuracy : Accuracy}
    {v : Rat} (sign : Sign)
    (h : Represents (ExtendedMantissa.ofMantissaAndAccuracy m accuracy) v)
    (henough : 52 ≤ m.log2 ∨ e ≤ -1074) (hcanonical : Canonical significand exponent)
    (hnear : Near significand exponent (v * 2 ^ e / 2 ^ exponent)) :
    roundWithAccuracy Format.binary64 sign m e accuracy =
      .finite sign significand exponent hcanonical.pos := by
  have hle : e ≤ max (m.log2 + e - 52) (-1074) := by omega
  obtain ⟨first, hfirst⟩ := Int.eq_ofNat_of_zero_le (Int.sub_nonneg_of_le hle)
  have hshifted := h.shiftRight first
  -- The rational in units of the exponent that is shifted to.
  have hscaled : v / 2 ^ first = v * 2 ^ e / 2 ^ (e + first) := by
    rw [zpow_add₀ two_ne_zero, zpow_natCast]
    field_simp
  rw [hscaled] at hshifted
  have hlog := log2_le_of_canonical hcanonical
  have hleast := hcanonical.least_le
  rcases target_cases h henough hcanonical hnear with heq | ⟨heq, hsignificand, hlt, hsmall⟩
  · have hexponent : e + first = exponent := by omega
    rw [hexponent] at hshifted
    have hrounded := hshifted.roundedMantissa_eq (n := significand) (by linarith [hnear.low])
      (by linarith [hnear.high]) (hnear.tie.imp_right fun ⟨hlow, hhigh⟩ =>
        ⟨by linarith, by linarith⟩)
    exact roundWithAccuracy_eq 0 sign hcanonical.pos (by omega) hrounded (by omega) rfl
      (by omega)
  · have hexponent : e + first = exponent - 1 := by omega
    have hdouble : v * 2 ^ e / 2 ^ (exponent - 1) = 2 * (v * 2 ^ e / 2 ^ exponent) := by
      rw [zpow_sub₀ two_ne_zero]
      field_simp
    rw [hexponent, hdouble] at hshifted
    have hnarrow := hnear.narrow hsignificand hlt
    rw [hsignificand] at hnarrow
    push_cast at hnarrow
    have hrounded := hshifted.roundedMantissa_eq (n := 2 ^ 53) (by push_cast; linarith)
      (by push_cast; linarith) (.inl (by norm_num))
    have hbits : (2 ^ 53).log2 = 53 := Nat.log2_two_pow
    exact roundWithAccuracy_eq 1 sign hcanonical.pos (by omega) hrounded (by omega)
      hsignificand.symm (by omega)

/-- What is near a number is neither too large nor too small to be finite. -/
theorem Near.bounds {significand : Nat} {exponent : Int} {x : Rat}
    (hcanonical : Canonical significand exponent)
    (h : Near significand exponent (x / 2 ^ exponent)) :
    (2 : Rat) ^ (-1075 : Int) ≤ x ∧ x < 2 ^ (1024 : Int) := by
  have hunit : (0 : Rat) < 2 ^ exponent := by positivity
  have hscaled : x = x / 2 ^ exponent * 2 ^ exponent := by field_simp
  have hlow := h.low
  have hlarge := h.lt_two_zpow hcanonical
  generalize x / 2 ^ exponent = w at hscaled hlow hlarge
  rw [hscaled]
  constructor
  · have hone : (1 : Rat) ≤ significand := by exact_mod_cast hcanonical.pos
    have hhalf : (2 : Rat) ^ (-1 : Int) ≤ w := by
      rw [zpow_neg_one]
      linarith
    calc (2 : Rat) ^ (-1075 : Int) = 2 ^ (-1 : Int) * 2 ^ (-1074 : Int) := by
          rw [← zpow_add₀ two_ne_zero]
          norm_num
      _ ≤ w * 2 ^ exponent := by
          refine mul_le_mul hhalf ?_ (by positivity) (le_trans (by positivity) hhalf)
          exact zpow_le_zpow_right₀ one_le_two hcanonical.least_le
  · calc w * 2 ^ exponent < 2 ^ (53 : Int) * 2 ^ exponent := mul_lt_mul_of_pos_right hlarge hunit
      _ ≤ 2 ^ (53 : Int) * 2 ^ (971 : Int) := by
          refine mul_le_mul_of_nonneg_left ?_ (by positivity)
          exact zpow_le_zpow_right₀ one_le_two hcanonical.le_greatest
      _ = 2 ^ (1024 : Int) := by
          rw [← zpow_add₀ two_ne_zero]
          norm_num

theorem digits_ne_zero_of_near {digits significand : Nat} {e exponent : Int}
    (hcanonical : Canonical significand exponent)
    (h : Near significand exponent ((digits : Rat) * 10 ^ e / 2 ^ exponent)) : digits ≠ 0 := by
  rintro rfl
  have hlow := (h.bounds hcanonical).1
  rw [Nat.cast_zero, zero_mul] at hlow
  exact absurd hlow (not_le.2 (by positivity))

/-- A decimal with a huge exponent is not near a number. -/
theorem exponent_le_of_near {digits : Nat} {e : Int} (hdigits : digits ≠ 0)
    (h : (digits : Rat) * 10 ^ e < 2 ^ (1024 : Int)) : e ≤ 2048 := by
  by_contra hlarge
  have hone : (1 : Rat) ≤ digits := by exact_mod_cast Nat.pos_of_ne_zero hdigits
  have hten : (2 : Rat) ^ e ≤ 10 ^ e := zpow_le_zpow_left₀ (by omega) two_pos.le (by norm_num)
  have hpow : (2 : Rat) ^ (1024 : Int) ≤ 2 ^ e := zpow_le_zpow_right₀ one_le_two (by omega)
  have hle : (2 : Rat) ^ (1024 : Int) ≤ digits * 10 ^ e :=
    calc (2 : Rat) ^ (1024 : Int) ≤ 1 * 10 ^ e := by
          rw [one_mul]
          exact hpow.trans hten
      _ ≤ digits * 10 ^ e := mul_le_mul_of_nonneg_right hone (by positivity)
  exact absurd h (not_lt.2 hle)

/-- A decimal whose exponent is too far below zero for its digits is not near a number. -/
theorem le_exponent_of_near {digits : Nat} {e : Int}
    (h : (2 : Rat) ^ (-1075 : Int) ≤ digits * 10 ^ e) : -(2048 + digits.log2) ≤ e := by
  by_contra hsmall
  have hlog : ((digits : Nat) : Rat) < (2 ^ (digits.log2 + 1) : Nat) := by
    exact_mod_cast Nat.lt_log2_self
  push_cast at hlog
  have hten : (10 : Rat) ^ e ≤ 2 ^ e := by
    have hinv := zpow_le_zpow_left₀ (a := (2 : Rat)) (b := 10) (n := -e) (by omega) two_pos.le
      (by norm_num)
    rw [zpow_neg, zpow_neg] at hinv
    exact (inv_le_inv₀ (by positivity) (by positivity)).1 hinv
  have hlt : (digits : Rat) * 10 ^ e < 2 ^ (-1075 : Int) :=
    calc (digits : Rat) * 10 ^ e < 2 ^ (digits.log2 + 1) * 10 ^ e :=
          mul_lt_mul_of_pos_right hlog (by positivity)
      _ ≤ 2 ^ (digits.log2 + 1) * 2 ^ e := mul_le_mul_of_nonneg_left hten (by positivity)
      _ = 2 ^ ((digits.log2 + 1 : Nat) + e) := by
          rw [zpow_add₀ two_ne_zero, zpow_natCast]
      _ ≤ 2 ^ (-1075 : Int) := zpow_le_zpow_right₀ one_le_two (by push_cast; omega)
  exact absurd h (not_le.2 hlt)

/-- Division keeps enough bits of the quotient to round it. -/
theorem log2_quotient_le {digits divisor shift : Nat} (hdigits : digits ≠ 0)
    (hdivisor : divisor ≠ 0) (hshift : divisor.log2 + 53 ≤ digits.log2 + shift) :
    52 ≤ ((digits <<< shift) / divisor).log2 := by
  have hlower : 2 ^ digits.log2 ≤ digits := Nat.log2_self_le hdigits
  have hupper : divisor < 2 ^ (divisor.log2 + 1) := Nat.lt_log2_self
  have hquotient : 2 ^ 52 ≤ (digits <<< shift) / divisor := by
    rw [Nat.le_div_iff_mul_le (Nat.pos_of_ne_zero hdivisor), Nat.shiftLeft_eq]
    calc 2 ^ 52 * divisor ≤ 2 ^ 52 * 2 ^ (divisor.log2 + 1) :=
          Nat.mul_le_mul_left _ (le_of_lt hupper)
      _ = 2 ^ (divisor.log2 + 53) := by rw [← Nat.pow_add]; congr 1; omega
      _ ≤ 2 ^ (digits.log2 + shift) := Nat.pow_le_pow_right (by decide) hshift
      _ = 2 ^ digits.log2 * 2 ^ shift := Nat.pow_add _ _ _
      _ ≤ digits * 2 ^ shift := Nat.mul_le_mul_right _ hlower
  have hne : (digits <<< shift) / divisor ≠ 0 := by
    have hpos : 0 < 2 ^ 52 := by decide
    omega
  exact (Nat.le_log2 hne).2 hquotient

theorem mul_of_near {digits power significand : Nat} {exponent : Int} (hdigits : 0 < digits)
    (hpower : 0 < power) (hcanonical : Canonical significand exponent)
    (hnear : Near significand exponent ((digits : Rat) * power / 2 ^ exponent)) {hleft hright} :
    UnpackedFloat.mul Format.binary64 (.finite .positive (digits <<< 53) (-53) hleft)
      (.finite .positive power 0 hright) =
        .finite .positive significand exponent hcanonical.pos := by
  have hproduct : ((digits <<< 53 * power : Nat) : Rat) * 2 ^ (-53 + 0 : Int) = digits * power := by
    have hunit : (2 : Rat) ^ (-53 + 0 : Int) = 1 / 2 ^ 53 := by norm_num
    rw [Nat.shiftLeft_eq, hunit]
    push_cast
    ring
  rw [← hproduct] at hnear
  refine roundWithAccuracy_of_near _ (represents_exact _) (.inl ?_) hcanonical hnear
  have hlarge : 2 ^ 52 ≤ digits <<< 53 * power := by
    rw [Nat.shiftLeft_eq]
    calc 2 ^ 52 ≤ 1 * 2 ^ 53 * 1 := by decide
      _ ≤ digits * 2 ^ 53 * power := Nat.mul_le_mul (Nat.mul_le_mul_right _ hdigits) hpower
  have hne : digits <<< 53 * power ≠ 0 := by
    have hpos : 0 < 2 ^ 52 := by decide
    omega
  exact (Nat.le_log2 hne).2 hlarge

theorem divCore_eq {digits divisor shift : Nat}
    (hshift : shift = (-min 0 (max ((digits.log2 : Int) - divisor.log2 - 53) (-1074))).toNat) :
    divCore Format.binary64 digits 0 divisor 0 =
      (digits <<< shift / divisor, -(shift : Int),
        accuracyOfFraction (digits <<< shift % divisor) divisor) := by
  have htarget : min (0 - 0 : Int)
      (max (digits.log2 + 1 + 0 - (divisor.log2 + 1 + 0) - 53) (-1074)) = -(shift : Int) := by
    omega
  have hamount : (0 - 0 - -(shift : Int)).toNat = shift := by omega
  rw [divCore, targetExponent_binary64, totalExponent, totalExponent, htarget]
  simp only [hamount]

theorem div_of_near {digits divisor significand : Nat} {exponent : Int} (hdigits : 0 < digits)
    (hdivisor : 0 < divisor) (hcanonical : Canonical significand exponent)
    (hnear : Near significand exponent ((digits : Rat) / divisor / 2 ^ exponent)) {hleft hright} :
    UnpackedFloat.div Format.binary64 (.finite .positive digits 0 hleft)
      (.finite .positive divisor 0 hright) =
        .finite .positive significand exponent hcanonical.pos := by
  obtain ⟨shift, hshift⟩ : ∃ shift, shift =
      (-min 0 (max ((digits.log2 : Int) - divisor.log2 - 53) (-1074))).toNat := ⟨_, rfl⟩
  have hrepresents := represents_fraction (digits <<< shift / divisor)
    (Nat.mod_lt (digits <<< shift) hdivisor)
  have hnonzero : (divisor : Rat) ≠ 0 := by exact_mod_cast Nat.ne_of_gt hdivisor
  have hquotient : ((digits <<< shift / divisor : Nat) : Rat) +
      ((digits <<< shift % divisor : Nat) : Rat) / divisor = digits * 2 ^ shift / divisor := by
    have hdivision : divisor * (digits <<< shift / divisor) + digits <<< shift % divisor =
        digits * 2 ^ shift := by
      rw [Nat.div_add_mod, Nat.shiftLeft_eq]
    have hcast : (divisor : Rat) * (digits <<< shift / divisor : Nat) +
        (digits <<< shift % divisor : Nat) = digits * 2 ^ shift := by
      exact_mod_cast hdivision
    rw [← hcast]
    field_simp
  rw [hquotient] at hrepresents
  have hunscaled : (digits : Rat) / divisor =
      digits * 2 ^ shift / divisor * 2 ^ (-(shift : Int)) := by
    rw [zpow_neg, zpow_natCast]
    field_simp
  rw [hunscaled] at hnear
  have henough : 52 ≤ (digits <<< shift / divisor).log2 ∨ -(shift : Int) ≤ -1074 := by
    by_cases hleast : -(shift : Int) ≤ -1074
    · exact .inr hleast
    · exact .inl (log2_quotient_le (Nat.ne_of_gt hdigits) (Nat.ne_of_gt hdivisor) (by omega))
  have hrounded := roundWithAccuracy_of_near .positive hrepresents henough hcanonical hnear
  rw [UnpackedFloat.div, divCore_eq hshift]
  exact hrounded

/-- A decimal inside the interval around a number is read as that number. -/
theorem ofScientific_of_near {digits significand : Nat} {e exponent : Int}
    (hcanonical : Canonical significand exponent)
    (hnear : Near significand exponent ((digits : Rat) * 10 ^ e / 2 ^ exponent)) :
    UnpackedFloat.ofScientific Format.binary64 digits e =
      .finite .positive significand exponent hcanonical.pos := by
  have hdigits := digits_ne_zero_of_near hcanonical hnear
  obtain ⟨hlow, hhigh⟩ := hnear.bounds hcanonical
  have hle := exponent_le_of_near hdigits hhigh
  have hge := le_exponent_of_near hlow
  have hpos := Nat.pos_of_ne_zero hdigits
  rw [UnpackedFloat.ofScientific, dif_neg hdigits, if_neg (by norm_num; omega),
    if_neg (by norm_num; omega)]
  split
  · rename_i hnonneg
    obtain ⟨n, rfl⟩ := Int.eq_ofNat_of_zero_le hnonneg
    refine mul_of_near hpos (by positivity) hcanonical ?_
    rw [zpow_natCast] at hnear
    push_cast
    exact hnear
  · rename_i hnegative
    refine div_of_near hpos (by positivity) hcanonical ?_
    obtain ⟨n, hn⟩ := Int.eq_ofNat_of_zero_le (show 0 ≤ -e by omega)
    obtain rfl : e = -n := by omega
    rw [zpow_neg, zpow_natCast, ← div_eq_mul_inv] at hnear
    rw [hn]
    push_cast
    exact hnear

end Rounding

end LineMachine
