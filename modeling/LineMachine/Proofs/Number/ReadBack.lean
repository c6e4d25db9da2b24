import LineMachine.Number.Format
import LineMachine.Proofs.Lexeme.Boundary
import LineMachine.Proofs.Number.Rounding
import LineMachine.Token.Scan

/-!
Numbers read back.  A finite number is written as a decimal inside its interval, without
sign or exponent, so its text is a single number lexeme and that lexeme stands for the
number again.
-/

namespace LineMachine

open Rounding

namespace Text

theorem digitsValue_eq_ofDigitChars (digits : List Char) :
    digitsValue digits = Nat.ofDigitChars 10 digits 0 := by
  rw [digitsValue, Nat.ofDigitChars_eq_foldl]
  congr 1
  funext value digit
  rw [Nat.mul_comm, digitValue]

theorem digitsValue_toDigits (n : Nat) : digitsValue (Nat.toDigits 10 n) = n := by
  rw [digitsValue_eq_ofDigitChars, Nat.ofDigitChars_ten_toDigits]

theorem toDigits_injective {m n : Nat} (h : Nat.toDigits 10 m = Nat.toDigits 10 n) : m = n := by
  rw [← digitsValue_toDigits m, h, digitsValue_toDigits]

theorem digitsValue_zeros_append (count : Nat) (digits : List Char) :
    digitsValue (List.replicate count '0' ++ digits) = digitsValue digits := by
  rw [digitsValue_eq_ofDigitChars, Nat.ofDigitChars_append, Nat.ofDigitChars_replicate_zero,
    Nat.mul_zero, ← digitsValue_eq_ofDigitChars]

theorem digitsValue_append_zeros (digits : List Char) (count : Nat) :
    digitsValue (digits ++ List.replicate count '0') = digitsValue digits * 10 ^ count := by
  rw [digitsValue_eq_ofDigitChars, Nat.ofDigitChars_append, Nat.ofDigitChars_replicate_zero,
    ← digitsValue_eq_ofDigitChars, Nat.mul_comm]

theorem isDigit_of_mem_toDigits {n : Nat} {c : Char} (h : c ∈ Nat.toDigits 10 n) :
    c.isDigit = true :=
  Nat.isDigit_of_mem_toDigits (by decide) (by decide) h

end Text

open Text

namespace Decimal

theorem value_strip (d : Decimal) : d.strip.value = d.value := by
  induction d using strip.induct with
  | case1 d h ih =>
      have hdigits : d.digits = d.digits / 10 * 10 := by omega
      have hvalue : (⟨d.digits / 10, d.exponent + 1⟩ : Decimal).value = d.value := by
        rw [value, value]
        conv_rhs => rw [hdigits]
        rw [zpow_add_one₀ (by norm_num)]
        push_cast
        ring
      rw [strip, dif_pos h, ih, hvalue]
  | case2 d h => rw [strip, dif_neg h]

theorem value_exact (significand : Nat) (exponent : Int) :
    (exact significand exponent).value = significand * 2 ^ exponent := by
  rw [exact]
  split
  · rename_i hnonneg
    obtain ⟨n, rfl⟩ := Int.eq_ofNat_of_zero_le hnonneg
    simp [value, Nat.shiftLeft_eq]
  · rename_i hnegative
    obtain ⟨n, hn⟩ := Int.eq_ofNat_of_zero_le (show 0 ≤ -exponent by omega)
    obtain rfl : exponent = -n := by omega
    have hten : (10 : Rat) ^ n = 2 ^ n * 5 ^ n := by
      rw [← mul_pow]
      norm_num
    rw [value, hn]
    simp only [Int.toNat_natCast, zpow_neg, zpow_natCast, hten, Nat.pow_eq]
    push_cast
    field_simp

/-- A number lies inside its own interval. -/
theorem contains_center (significand : Nat) (exponent : Int) :
    (RationalInterval.aroundBinary significand exponent).contains
      (significand * 2 ^ exponent) = true := by
  have hunit : (0 : Rat) < 2 ^ exponent := by positivity
  rw [contains_iff]
  simp only [RationalInterval.aroundBinary]
  refine ⟨⟨?_, by linarith⟩, .inr ⟨?_, by linarith⟩⟩
  · split <;> linarith
  · split <;> linarith

theorem contains_of_nearest?_eq_some {tie : Tie} {interval : RationalInterval} {x : Rat}
    {exponent : Int} {d : Decimal} (h : nearest? tie interval x exponent = some d) :
    interval.contains d.value = true := by
  unfold nearest? at h
  dsimp only at h
  split at h
  · cases h
  · cases h
    assumption
  · cases h
    assumption
  · rename_i hlower hupper
    have hboth : interval.contains d.value = true := by
      split at h
      · cases h
        exact hlower
      split at h
      · cases h
        exact hupper
      split at h
      · cases h
        exact hupper
      · cases h
        split
        · exact hlower
        · exact hupper
    exact hboth

/-- The shortest decimal lies inside the interval around the number. -/
theorem contains_shortest (tie : Tie) (significand : Nat) (exponent : Int) :
    (RationalInterval.aroundBinary significand exponent).contains
      (shortest tie significand exponent).value = true := by
  unfold shortest
  dsimp only
  rw [value_strip]
  cases hfound : (List.range mostDigits).findSome? _ with
  | none =>
      rw [Option.getD_none, value_exact]
      exact contains_center significand exponent
  | some d =>
      obtain ⟨count, -, hnearest⟩ := List.exists_of_findSome?_eq_some hfound
      exact contains_of_nearest?_eq_some hnearest

end Decimal

theorem Lexeme.chars_number_of_ne_nil (whole : List Char) {fraction : List Char}
    (h : fraction ≠ []) : (number whole fraction).chars = whole ++ '.' :: fraction := by
  cases fraction with
  | nil => exact absurd rfl h
  | cons digit digits => rfl

namespace NumberFormat

/-- Digits and a point make up a number lexeme, whatever the place of the point. -/
theorem layoutPositional_eq_chars (format : NumberFormat) {digits : List Char} (hne : digits ≠ [])
    (hdigits : ∀ c ∈ digits, c.isDigit = true) (exponent : Int) :
    ∃ whole fraction,
      format.layoutPositional digits (digits.length + exponent) =
        (Lexeme.number whole fraction).chars ∧
      (Lexeme.number whole fraction).WellFormed ∧
      (⟨digitsValue (whole ++ fraction), -(fraction.length : Int)⟩ : Decimal).value =
        (⟨digitsValue digits, exponent⟩ : Decimal).value := by
  have hzeros (count : Nat) : ∀ c ∈ List.replicate count '0', c.isDigit = true := by
    intro c hc
    rw [List.eq_of_mem_replicate hc]
    rfl
  rw [layoutPositional]
  split
  · -- All digits stand after the point, behind zeros.
    refine ⟨['0'], List.replicate (-(digits.length + exponent)).toNat '0' ++ digits, ?_, ?_, ?_⟩
    · rw [Lexeme.chars_number_of_ne_nil _ (List.append_ne_nil_of_right_ne_nil _ hne)]
      rfl
    · refine ⟨List.cons_ne_nil _ _, List.all_eq_true.1 (by decide), ?_⟩
      intro c hc
      rcases List.mem_append.1 hc with hc | hc
      · exact hzeros _ c hc
      · exact hdigits c hc
    · have hlength : -((List.replicate (-(digits.length + exponent)).toNat '0' ++
          digits).length : Int) = exponent := by
        rw [List.length_append, List.length_replicate]
        omega
      rw [hlength, List.singleton_append, digitsValue_zero_cons, digitsValue_zeros_append]
  rename_i hposition
  dsimp only
  obtain ⟨places, hplaces⟩ := Int.eq_ofNat_of_zero_le (show 0 ≤ digits.length + exponent by omega)
  rw [hplaces, Int.toNat_natCast]
  split
  · -- The point stands between two digits.
    rename_i hlt
    refine ⟨digits.take places, digits.drop places, ?_, ⟨?_, ?_, ?_⟩, ?_⟩
    · rw [Lexeme.chars_number_of_ne_nil _ (by rw [List.ne_nil_iff_length_pos]; simp [hlt])]
    · rw [List.ne_nil_iff_length_pos, List.length_take]
      omega
    · exact fun c hc => hdigits c (List.mem_of_mem_take hc)
    · exact fun c hc => hdigits c (List.mem_of_mem_drop hc)
    · have hlength : -((digits.drop places).length : Int) = exponent := by
        rw [List.length_drop]
        omega
      rw [hlength, List.take_append_drop]
  · -- Zeros fill the places that the digits do not reach; a fraction can only be zero.
    rename_i hge
    obtain ⟨more, hmore⟩ : ∃ more, (if format.wholeFraction then ['.', '0'] else []) =
        (if more = 0 then [] else '.' :: List.replicate more '0') := by
      cases format.wholeFraction with
      | false => exact ⟨0, rfl⟩
      | true => exact ⟨1, rfl⟩
    refine ⟨digits ++ List.replicate (places - digits.length) '0', List.replicate more '0', ?_,
      ⟨?_, ?_, hzeros more⟩, ?_⟩
    · rw [hmore]
      cases more with
      | zero => exact List.append_nil _
      | succ more => rfl
    · exact List.append_ne_nil_of_left_ne_nil hne _
    · intro c hc
      rcases List.mem_append.1 hc with hc | hc
      · exact hdigits c hc
      · exact hzeros _ c hc
    · obtain ⟨count, hcount⟩ := Int.eq_ofNat_of_zero_le (show 0 ≤ exponent by omega)
      have hplaces : places - digits.length = count := by omega
      have hten : (10 : Rat) ^ more ≠ 0 := pow_ne_zero more (by norm_num)
      rw [hplaces, List.append_assoc, List.replicate_append_replicate, digitsValue_append_zeros,
        List.length_replicate, hcount, Decimal.value, Decimal.value]
      push_cast
      rw [zpow_neg, zpow_natCast, zpow_natCast, pow_add]
      field_simp

/-- The text of a decimal is a number lexeme with the decimal's value. -/
theorem layout_written (d : Decimal) :
    ∃ whole fraction, written.layout d = (Lexeme.number whole fraction).chars ∧
      (Lexeme.number whole fraction).WellFormed ∧
      (⟨digitsValue (whole ++ fraction), -(fraction.length : Int)⟩ : Decimal).value = d.value := by
  have hdigits : ∀ c ∈ Nat.toDigits 10 d.digits, c.isDigit = true :=
    fun _ => isDigit_of_mem_toDigits
  have hlayout := written.layoutPositional_eq_chars Nat.toDigits_ne_nil hdigits d.exponent
  rwa [digitsValue_toDigits] at hlayout

end NumberFormat

/-- What is written for a finite number without a sign is read as that number. -/
theorem Number.text_reads_back {x : Number} {significand : Nat} {exponent : Int}
    (h : x.reading = .finite false significand exponent) :
    ∃ whole fraction, x.text.toList = (Lexeme.number whole fraction).chars ∧
      (Lexeme.number whole fraction).WellFormed ∧
      Number.ofDecimal (digitsValue (whole ++ fraction)) (-(fraction.length : Int)) = x := by
  rw [Number.text, NumberFormat.render, h]
  dsimp only
  by_cases hzero : significand = 0
  · subst hzero
    rw [if_pos rfl]
    refine ⟨['0'], [], rfl, ⟨by simp, List.all_eq_true.1 (by decide), by simp⟩, ?_⟩
    rw [Number.of_reading_eq_zero h]
    rfl
  · rw [if_neg hzero]
    obtain ⟨whole, fraction, hchars, hwell, hvalue⟩ := NumberFormat.layout_written
      (Decimal.shortest NumberFormat.written.tie significand exponent)
    refine ⟨whole, fraction, ?_, hwell, ?_⟩
    · rw [if_neg Bool.false_ne_true, String.toList_ofList, hchars]
    · obtain ⟨hcanonical, hx⟩ := Number.of_reading_eq_finite h (Nat.pos_of_ne_zero hzero)
      have hnear := near_of_contains
        (Decimal.contains_shortest NumberFormat.written.tie significand exponent)
      rw [← hvalue, Decimal.value] at hnear
      rw [Number.ofDecimal, Float.Model.ofScientific, ofScientific_of_near hcanonical hnear]
      exact hx.symm

end LineMachine
