import LineMachine.Proofs.Number.Sum

/-!
Adding one.  The sum is rounded, and yet the integer part moves on by exactly one, but for
the greatest number below each power of two: there the sum falls half way between two
numbers, and the even one of them is the whole number after the next.
-/

namespace LineMachine

namespace Number

/-- The rational is the greatest number below a power of two. -/
def LastBelowPower (v : Rat) : Prop :=
  ∃ k : Nat, v = 2 ^ k - 2 ^ ((k : Int) - 53)

/-- A number that reaches `2 ^ 52` units is a whole number of them. -/
theorem exists_units_of_le {x : Number} {v : Rat} {unit : Int} (hx : x.value? = some v)
    (h : 2 ^ 52 * 2 ^ unit ≤ v) : ∃ n : Nat, v = n * 2 ^ unit := by
  have hpos : (0 : Rat) < v := lt_of_lt_of_le (by positivity) h
  obtain ⟨m, d, hcanonical, -, rfl⟩ := exists_canonical_of_pos hx hpos
  obtain ⟨shift, -, hunits⟩ :=
    magnitude_eq_units m (hcanonical.le_of_le_magnitude (le_refl _) h)
  exact ⟨m * 2 ^ shift, hunits⟩

/-- No number lies between the last one below a power of two and that power. -/
theorem le_of_lt_two_pow {x : Number} {v : Rat} {k : Nat} (hx : x.value? = some v)
    (h : v < 2 ^ k) : v ≤ 2 ^ k - 2 ^ ((k : Int) - 53) := by
  have hunit : (0 : Rat) < 2 ^ ((k : Int) - 53) := by positivity
  have hpower := two_pow_eq_units k 53
  push_cast at hpower
  rcases lt_or_ge v (2 ^ 52 * 2 ^ ((k : Int) - 53)) with hsmall | hlarge
  · linarith
  · obtain ⟨n, rfl⟩ := exists_units_of_le hx hlarge
    have hlt : (n : Rat) < (2 ^ 53 : Nat) := by
      push_cast
      exact lt_of_mul_lt_mul_right (hpower ▸ h) hunit.le
    have hle : (n : Rat) ≤ (2 ^ 53 - 1 : Nat) := by
      have hlt : n < 2 ^ 53 := by exact_mod_cast hlt
      exact_mod_cast Nat.le_sub_one_of_lt hlt
    have hscaled := mul_le_mul_of_nonneg_right hle hunit.le
    push_cast at hscaled
    linarith

theorem two_zpow_half (e : Int) : (2 : Rat) ^ (e - 1) = 2 ^ e / 2 := by
  rw [zpow_sub_one₀ two_ne_zero, div_eq_mul_inv]

theorem one_eq_units {k : Nat} (h : k ≤ 52) :
    ((2 ^ (52 - k) : Nat) : Rat) * 2 ^ ((k : Int) - 52) = 1 := by
  rw [show (k : Int) - 52 = -((52 - k : Nat) : Int) by omega, zpow_neg, zpow_natCast]
  push_cast
  field_simp

/-- Every other number is a whole unit below the next whole number. -/
theorem le_sub_unit {x : Number} {v : Rat} {whole k : Nat} (hx : x.value? = some v)
    (hlt : v < whole + 1) (hk : 2 ^ k ≤ v) (hbits : k ≤ 52) :
    v ≤ whole + 1 - 2 ^ ((k : Int) - 52) := by
  have hunit : (0 : Rat) < 2 ^ ((k : Int) - 52) := by positivity
  have hpower := two_pow_eq_units k 52
  have hone := one_eq_units hbits
  push_cast at hpower
  obtain ⟨n, rfl⟩ := exists_units_of_le hx (hpower ▸ hk)
  -- In these units the next whole number is a whole number too.
  have hnext : (whole : Rat) + 1 =
      (((whole + 1) * 2 ^ (52 - k) : Nat) : Rat) * 2 ^ ((k : Int) - 52) := by
    rw [Nat.cast_mul, mul_assoc, hone, mul_one]
    push_cast
    rfl
  rw [hnext] at hlt ⊢
  have hlt : n + 1 ≤ (whole + 1) * 2 ^ (52 - k) := by
    exact_mod_cast lt_of_mul_lt_mul_right hlt hunit.le
  have hcast : ((n + 1 : Nat) : Rat) ≤ ((whole + 1) * 2 ^ (52 - k) : Nat) := by
    exact_mod_cast hlt
  have hle := mul_le_mul_of_nonneg_right hcast hunit.le
  push_cast at hle ⊢
  linarith

/-- The whole number after the last number below a power of two is that power. -/
theorem two_pow_of_lastBelowPower {v : Rat} {whole : Nat} (h : LastBelowPower v)
    (hle : (whole : Rat) ≤ v) (hlt : v < whole + 1) (hsmall : v < 2 ^ 53) :
    ∃ k : Nat, whole + 1 = 2 ^ k ∧ v = 2 ^ k - 2 ^ ((k : Int) - 53) := by
  obtain ⟨k, rfl⟩ := h
  refine ⟨k, ?_, rfl⟩
  have hk : k ≤ 53 := by
    by_contra hlarge
    have hhalf : (2 : Rat) ^ ((k : Int) - 53) ≤ 2 ^ ((k : Int) - 1) :=
      zpow_le_zpow_right₀ one_le_two (by omega)
    have hbound : (2 : Rat) ^ 54 ≤ 2 ^ k := pow_le_pow_right₀ one_le_two (by omega)
    rw [two_zpow_half, zpow_natCast] at hhalf
    linarith
  have hpositive : (0 : Rat) < 2 ^ ((k : Int) - 53) := by positivity
  have hone : (2 : Rat) ^ ((k : Int) - 53) ≤ 1 := zpow_le_one_of_nonpos₀ one_le_two (by omega)
  have hlow : ((2 ^ k : Nat) : Rat) < (whole + 2 : Nat) := by
    push_cast
    linarith
  have hhigh : (whole : Rat) < (2 ^ k : Nat) := by
    push_cast
    linarith
  have hlow : 2 ^ k < whole + 2 := by exact_mod_cast hlow
  have hhigh : whole < 2 ^ k := by exact_mod_cast hhigh
  omega

/-- The last number below a power of two is less than a unit in the last place of the next
whole number away from it, and no other number is. -/
theorem lastBelowPower_iff {x : Number} {v : Rat} {whole k : Nat} (hx : x.value? = some v)
    (hle : (whole : Rat) ≤ v) (hlt : v < whole + 1) (hk : 2 ^ k ≤ whole + 1)
    (hk' : whole + 1 < 2 ^ (k + 1)) (hbits : k ≤ 52) :
    LastBelowPower v ↔ (whole : Rat) + 1 - 2 ^ ((k : Int) - 53) ≤ v := by
  constructor
  · intro h
    have hsmall : v < 2 ^ 53 := by
      have hbound : whole + 1 < 2 ^ 53 :=
        lt_of_lt_of_le hk' (Nat.pow_le_pow_right (by decide) (by omega))
      exact hlt.trans (by exact_mod_cast hbound)
    obtain ⟨j, hwhole, rfl⟩ := two_pow_of_lastBelowPower h hle hlt hsmall
    rw [hwhole] at hk hk'
    have hge := (Nat.pow_le_pow_iff_right (by decide)).1 hk
    have hlt := (Nat.pow_lt_pow_iff_right (by decide)).1 hk'
    obtain rfl : j = k := by omega
    have hcast : (whole : Rat) + 1 = 2 ^ j := by exact_mod_cast hwhole
    rw [hcast]
  · intro hclose
    refine ⟨k, ?_⟩
    rcases Nat.lt_or_eq_of_le hk with hpower | hpower
    · have hcast : (2 : Rat) ^ k ≤ whole := by exact_mod_cast Nat.le_of_lt_succ hpower
      have hfar := le_sub_unit hx hlt (hcast.trans hle) hbits
      have hunit : (0 : Rat) < 2 ^ ((k : Int) - 52) := by positivity
      rw [show (k : Int) - 53 = k - 52 - 1 by ring, two_zpow_half] at hclose
      linarith
    · have hcast : (2 : Rat) ^ k = whole + 1 := by exact_mod_cast hpower
      have hbelow := le_of_lt_two_pow hx (hcast ▸ hlt)
      rw [hcast] at hbelow ⊢
      linarith

theorem value?_one : (ofNat 1).value? = some 1 := by
  have hone := value?_ofNat (n := 1) (by decide)
  rwa [Nat.cast_one] at hone

/-- Whatever the sum in units of its last place is rounded to becomes the result. -/
theorem value?_add_one {x : Number} {v : Rat} {whole k n : Nat} (hx : x.value? = some v)
    (hpos : 0 < v) (hle : (whole : Rat) ≤ v) (hlt : v < whole + 1) (hk : 2 ^ k ≤ whole + 1)
    (hk' : whole + 1 < 2 ^ (k + 1)) (hbits : k ≤ 52)
    (hn : NearestWhole n ((v + 1) / 2 ^ ((k : Int) - 52))) :
    (x + ofNat 1).value? = some ((n : Rat) * 2 ^ ((k : Int) - 52)) := by
  have hunit : (0 : Rat) < 2 ^ ((k : Int) - 52) := by positivity
  have hpower := two_pow_eq_units k 52
  push_cast at hpower
  refine value?_add hx value?_one hpos one_pos (by field_simp) ?_ ?_ hn (by omega) (by omega)
  · have hlow : (2 : Rat) ^ k ≤ whole + 1 := by exact_mod_cast hk
    rw [le_div_iff₀ hunit, ← hpower]
    linarith
  · have hhigh : (whole : Rat) + 2 ≤ 2 ^ (k + 1) := by exact_mod_cast hk'
    rw [pow_succ] at hhigh
    rw [div_lt_iff₀ hunit]
    linarith

/-- Adding one to a whole number is exact. -/
theorem value?_add_one_of_whole {x : Number} {n : Nat} (hx : x.value? = some (n : Rat))
    (hpos : 0 < n) (hsmall : n < 2 ^ 52) :
    (x + ofNat 1).value? = some ((n + 1 : Nat) : Rat) := by
  obtain ⟨k, hk⟩ : ∃ k, k = (n + 1).log2 := ⟨_, rfl⟩
  obtain ⟨hlow, hhigh⟩ := (Nat.log2_eq_iff (Nat.add_one_ne_zero n)).1 hk.symm
  have hbits : k ≤ 52 := by
    have hlog := (Nat.log2_lt (Nat.add_one_ne_zero n)).2 (show n + 1 < 2 ^ 53 by omega)
    omega
  have hunits : (((n + 1) * 2 ^ (52 - k) : Nat) : Rat) * 2 ^ ((k : Int) - 52) = (n + 1 : Nat) := by
    rw [Nat.cast_mul, mul_assoc, one_eq_units hbits, mul_one]
  have hsum : ((n : Rat) + 1) / 2 ^ ((k : Int) - 52) = ((n + 1) * 2 ^ (52 - k) : Nat) := by
    rw [div_eq_iff (by positivity), hunits]
    push_cast
    rfl
  have hnearest := nearestWhole_natCast ((n + 1) * 2 ^ (52 - k))
  rw [← hsum] at hnearest
  rw [value?_add_one hx (by exact_mod_cast hpos) (le_refl _) (lt_add_one _) hlow hhigh hbits
    hnearest, hunits]

/-- Adding one takes the last number below a power of two past the next whole number, and
every other number to a number with the next integer part. -/
theorem add_one_cases {x : Number} {v : Rat} {whole : Nat} (hx : x.value? = some v)
    (hpos : 0 < v) (hle : (whole : Rat) ≤ v) (hlt : v < whole + 1) (hsmall : whole < 2 ^ 51) :
    (LastBelowPower v ∧ (x + ofNat 1).value? = some ((whole : Rat) + 2)) ∨
      (¬ LastBelowPower v ∧ ∃ r : Rat, (x + ofNat 1).value? = some r ∧
        (whole : Rat) + 1 ≤ r ∧ r < whole + 2) := by
  obtain ⟨k, hk⟩ : ∃ k, k = (whole + 1).log2 := ⟨_, rfl⟩
  obtain ⟨hlow, hhigh⟩ := (Nat.log2_eq_iff (Nat.add_one_ne_zero whole)).1 hk.symm
  have hbits : k ≤ 51 := by
    have hlog := (Nat.log2_lt (Nat.add_one_ne_zero whole)).2
      (show whole + 1 < 2 ^ 52 by omega)
    omega
  have hresult {n : Nat} := value?_add_one (n := n) hx hpos hle hlt hlow hhigh (by omega)
  have hlast := lastBelowPower_iff hx hle hlt hlow hhigh (by omega)
  have hscale := one_eq_units (show k ≤ 52 by omega)
  rw [show (k : Int) - 53 = k - 52 - 1 by ring, two_zpow_half] at hlast
  -- A whole number is an even number of units in the last place of the sum.
  obtain ⟨half, hhalf⟩ : ∃ half, half = 2 ^ (51 - k) := ⟨_, rfl⟩
  rw [show 52 - k = 51 - k + 1 by omega, Nat.pow_succ, ← hhalf] at hscale
  have hunits (m : Nat) : ((2 * (m * half) : Nat) : Rat) * 2 ^ ((k : Int) - 52) = m := by
    push_cast at hscale ⊢
    linear_combination (m : Rat) * hscale
  have hunit : (0 : Rat) < 2 ^ ((k : Int) - 52) := by positivity
  by_cases hclose : LastBelowPower v
  · refine .inl ⟨hclose, ?_⟩
    have hclose := hlast.1 hclose
    have hvalue := hunits (whole + 2)
    push_cast at hvalue
    have hn : NearestWhole (2 * ((whole + 2) * half)) ((v + 1) / 2 ^ ((k : Int) - 52)) := by
      refine ⟨?_, ?_, .inl (Nat.mul_mod_right 2 _)⟩
      · rw [le_div_iff₀ hunit]
        push_cast
        linarith
      · rw [div_le_iff₀ hunit]
        push_cast
        linarith
    rw [hresult hn, hunits (whole + 2)]
    push_cast
    rfl
  · refine .inr ⟨hclose, ?_⟩
    have hfar := not_le.1 (mt hlast.2 hclose)
    obtain ⟨n, hn⟩ := exists_nearestWhole (w := (v + 1) / 2 ^ ((k : Int) - 52)) (by positivity)
    refine ⟨n * 2 ^ ((k : Int) - 52), hresult hn, ?_, ?_⟩
    · have hge : 2 * ((whole + 1) * half) ≤ n := by
        refine hn.ge_of_ge ?_
        rw [le_div_iff₀ hunit, hunits]
        push_cast
        linarith
      have hcast : ((2 * ((whole + 1) * half) : Nat) : Rat) ≤ n := by exact_mod_cast hge
      have hscaled := mul_le_mul_of_nonneg_right hcast hunit.le
      rw [hunits] at hscaled
      exact_mod_cast hscaled
    · have hlow := hn.low
      rw [le_div_iff₀ hunit] at hlow
      linarith

end Number

end LineMachine
