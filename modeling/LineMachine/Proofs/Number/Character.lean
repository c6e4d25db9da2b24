import LineMachine.Proofs.Number.Fields
import LineMachine.Proofs.Number.Sum

/-!
Numbers as characters.  A number may be rounded toward zero, converted to a word of 32 bits and
looked up as a code point, with the replacement character for what is lost on the way.  For all
64 bits that a number can have this gives the character whose code point is the rational of the
number, rounded toward zero.
-/

open Float.Model Float.Model.UnpackedFloat

namespace LineMachine

namespace Number

theorem reading_of_value?_eq_none {x : Number} (h : x.value? = none) :
    x.reading = .notANumber ∨ ∃ negative, x.reading = .infinite negative := by
  rw [value?] at h
  cases hreading : x.reading with
  | notANumber => exact .inl rfl
  | infinite negative => exact .inr ⟨negative, rfl⟩
  | finite => rw [hreading] at h; cases h

theorem integerPart?_of_value?_eq_none {x : Number} (h : x.value? = none) :
    x.integerPart? = none := by
  obtain hreading | ⟨_, hreading⟩ := reading_of_value?_eq_none h <;> rw [integerPart?, hreading]

/-- The integer part of any number, read off its rational. -/
theorem integerPart?_eq_map_truncate (x : Number) : x.integerPart? = x.value?.map truncate := by
  cases hvalue : x.value? with
  | none => exact integerPart?_of_value?_eq_none hvalue
  | some v => exact integerPart?_of_value? hvalue

theorem integerPart?_ofBits_eq_some_iff {bits : UInt64} {n : Int} :
    integerPart? (.ofBits bits) = some n ↔ ∃ v, valueOfBits? bits = some v ∧ truncate v = n := by
  rw [integerPart?_eq_map_truncate, value?_ofBits, Option.map_eq_some_iff]

/-- Negation turns the sign over and keeps all else. -/
theorem unpack_neg (x : Number) : (-x).toModel.unpack = x.toModel.unpack.neg := by
  refine unpack_pack fun sign significand exponent hpos hneg => ?_
  cases hunpack : x.toModel.unpack with
  | finite =>
      rw [hunpack, UnpackedFloat.neg] at hneg
      cases hneg
      exact canonical_of_unpack_eq_finite hunpack
  | _ => rw [hunpack] at hneg; cases hneg

theorem value?_neg {x : Number} {v : Rat} (h : x.value? = some v) : (-x).value? = some (-v) := by
  have hstored := stored_of_value? h
  rw [value?, reading, unpack_neg]
  generalize x.toModel.unpack = unpacked at hstored
  cases hstored with
  | zero sign => simp [UnpackedFloat.neg]
  | positive hcanonical => rfl
  | negative hcanonical => rw [neg_neg]; rfl

/-- A number rounded toward zero to a whole number.  The sign stays, even if nothing else does. -/
def trunc (x : Number) : Number :=
  match x.reading with
  | .finite negative significand exponent =>
      if 0 ≤ exponent then x
      else
        let whole := ofNat (wholePart significand exponent)
        if negative then -whole else whole
  | _ => x

section

variable {x : Number} {v : Rat} {negative : Bool} {significand : Nat} {exponent : Int}

/-- A number without bits below one is whole. -/
theorem truncate_eq_of_exponent_nonneg (hvalue : x.value? = some v)
    (hreading : x.reading = .finite negative significand exponent) (h : 0 ≤ exponent) :
    (truncate v : Rat) = v := by
  obtain ⟨n, rfl⟩ := Int.eq_ofNat_of_zero_le h
  rw [value?, hreading] at hvalue
  obtain rfl := Option.some.inj hvalue
  have hwhole : (if negative then -((significand : Rat) * 2 ^ (n : Int))
      else (significand : Rat) * 2 ^ (n : Int)) =
      ((if negative then -(significand * 2 ^ n) else significand * 2 ^ n : Int) : Rat) := by
    cases negative <;> simp
  rw [hwhole, truncate_intCast]

/-- What is left of a number with bits below one has at most 53 bits. -/
theorem wholePart_lt_of_exponent_neg
    (hreading : x.reading = .finite negative significand exponent) (h : ¬ 0 ≤ exponent) :
    wholePart significand exponent < 2 ^ 53 := by
  have hsignificand : significand < 2 ^ 53 := by
    rcases Nat.eq_zero_or_pos significand with rfl | hpos
    · exact Nat.two_pow_pos 53
    · exact (canonical_of_reading_eq_finite hreading hpos).lt
  rw [wholePart, if_neg h]
  exact (Nat.shiftRight_le _ _).trans_lt hsignificand

end

/-- Rounding toward zero is exact: the whole number that is left is a number too. -/
theorem value?_trunc {x : Number} {v : Rat} (h : x.value? = some v) :
    x.trunc.value? = some (truncate v : Rat) := by
  have hpart := integerPart?_of_value? h
  rw [integerPart?] at hpart
  rw [trunc]
  cases hreading : x.reading with
  | notANumber => rw [hreading] at hpart; cases hpart
  | infinite => rw [hreading] at hpart; cases hpart
  | finite negative significand exponent =>
      rw [hreading] at hpart
      have hpart := Option.some.inj hpart
      dsimp only
      split
      · -- All bits are whole, and the number stays as it is.
        rename_i hnonneg
        rw [h, truncate_eq_of_exponent_nonneg h hreading hnonneg]
      · rename_i hneg
        have hwhole := value?_ofNat (wholePart_lt_of_exponent_neg hreading hneg)
        have hnegated := value?_neg hwhole
        rw [← hpart]
        cases negative with
        | false => exact hwhole
        | true => exact_mod_cast hnegated

theorem trunc_of_value?_eq_none {x : Number} (h : x.value? = none) : x.trunc = x := by
  obtain hreading | ⟨_, hreading⟩ := reading_of_value?_eq_none h <;> rw [trunc, hreading]

theorem integerPart?_trunc (x : Number) : x.trunc.integerPart? = x.integerPart? := by
  cases hvalue : x.value? with
  | none => rw [trunc_of_value?_eq_none hvalue]
  | some v =>
      rw [integerPart?_of_value? (value?_trunc hvalue), integerPart?_of_value? hvalue,
        truncate_intCast]

/-- The code points that are characters. -/
def IsScalarValue (n : Int) : Prop :=
  0 ≤ n ∧ n ≤ 0xD7FF ∨ 0xE000 ≤ n ∧ n ≤ 0x10FFFF

instance (n : Int) : Decidable (IsScalarValue n) :=
  inferInstanceAs (Decidable (_ ∨ _))

theorem isValidChar_iff_isScalarValue (n : Nat) : n.isValidChar ↔ IsScalarValue n := by
  rw [Nat.isValidChar, IsScalarValue]
  omega

theorem toNat_toChar {x : Number} {n : Int} (h : x.integerPart? = some n)
    (hscalar : IsScalarValue n) : (x.toChar.toNat : Int) = n := by
  have hnonneg : 0 ≤ n := by
    rw [IsScalarValue] at hscalar
    omega
  obtain ⟨n, rfl⟩ := Int.eq_ofNat_of_zero_le hnonneg
  have hvalid := (isValidChar_iff_isScalarValue n).2 hscalar
  rw [toChar, h]
  dsimp only [Int.ofNat_eq_natCast]
  rw [dif_pos hvalid]
  rfl

theorem toChar_eq_replacementChar {x : Number}
    (h : ∀ n, x.integerPart? = some n → ¬ IsScalarValue n) : x.toChar = replacementChar := by
  rw [toChar]
  split
  · rename_i n hpart
    exact dif_neg (mt (isValidChar_iff_isScalarValue n).1 (h _ hpart))
  · rfl

theorem value?_ofNat_toNat (c : Char) : (ofNat c.toNat).value? = some (c.toNat : Rat) :=
  value?_ofNat (c.val.toNat_lt.trans (by decide))

/-- A character is found again from its code point. -/
theorem toChar_ofNat (c : Char) : (ofNat c.toNat).toChar = c := by
  have hpart : (ofNat c.toNat).integerPart? = some (c.toNat : Int) :=
    integerPart?_of_le_of_lt (value?_ofNat_toNat c) (le_refl _) (lt_add_one _)
  rw [toChar, hpart]
  exact dif_pos c.valid

/-- A conversion to words of 32 bits.  It gives the number rounded toward zero if that is a word,
and nothing for all other numbers. -/
def RoundsToWords (toWord? : Number → Option UInt32) : Prop :=
  ∀ bits w, toWord? (.ofBits bits) = some w ↔
    ∃ v, valueOfBits? bits = some v ∧ truncate v = w.toNat

/-- The character with a code point. -/
def charOfWord? (w : UInt32) : Option Char :=
  if h : w.isValidChar then some ⟨w, h⟩ else none

/-- The character of a number by way of a word. -/
def charThroughWord (toWord? : Number → Option UInt32) (x : Number) : Char :=
  ((toWord? x.trunc).bind charOfWord?).getD replacementChar

section

variable {toWord? : Number → Option UInt32} (hword : RoundsToWords toWord?)

include hword

theorem RoundsToWords.eq_some_iff (x : Number) (w : UInt32) :
    toWord? x = some w ↔ x.integerPart? = some (w.toNat : Int) := by
  rw [← Float.ofBits_toBits x, hword, integerPart?_ofBits_eq_some_iff]

/-- The word loses nothing: no integer part beyond the words is a character. -/
theorem charThroughWord_eq_toChar (x : Number) : charThroughWord toWord? x = x.toChar := by
  have hwords (w : UInt32) := hword.eq_some_iff x.trunc w
  rw [charThroughWord]
  -- The word to expect is the one that the character itself is stored as.
  by_cases hscalar : ∃ n, x.integerPart? = some n ∧ IsScalarValue n
  · obtain ⟨n, hpart, hscalar⟩ := hscalar
    have hfound : toWord? x.trunc = some x.toChar.val := by
      rw [hwords, integerPart?_trunc, hpart, ← toNat_toChar hpart hscalar]
      rfl
    rw [hfound]
    exact congrArg (Option.getD · replacementChar) (dif_pos x.toChar.valid)
  · have hother (n : Int) (hpart : x.integerPart? = some n) : ¬ IsScalarValue n :=
      fun h => hscalar ⟨n, hpart, h⟩
    rw [toChar_eq_replacementChar hother]
    cases hfound : toWord? x.trunc with
    | none => rfl
    | some w =>
        have hpart := (hwords w).1 hfound
        rw [integerPart?_trunc] at hpart
        have hinvalid := mt (isValidChar_iff_isScalarValue w.toNat).1 (hother _ hpart)
        exact congrArg (Option.getD · replacementChar) (dif_neg hinvalid)

end

/-- The character of a number is exact.  It is found by way of words, and it is the one whose
code point is the rational of the number rounded toward zero, or the replacement character if
that is no code point of a character.  So every character comes back from its code point, and
from one whole number up to the next there is only one character. -/
theorem toChar_exact {toWord? : Number → Option UInt32} (hword : RoundsToWords toWord?) :
    (∀ x : Number, charThroughWord toWord? x = x.toChar) ∧
      (∀ bits v, valueOfBits? bits = some v → IsScalarValue (truncate v) →
        ((toChar (.ofBits bits)).toNat : Int) = truncate v) ∧
      (∀ bits, (∀ v, valueOfBits? bits = some v → ¬ IsScalarValue (truncate v)) →
        toChar (.ofBits bits) = '\ufffd') ∧
      (∀ c : Char, valueOfBits? (ofNat c.toNat).toBits = some (c.toNat : Rat) ∧
        (ofNat c.toNat).toChar = c) ∧
      ∀ (n : Nat) (bits bits' : UInt64) (v w : Rat),
        valueOfBits? bits = some v → valueOfBits? bits' = some w →
        v ∈ Set.Ico (n : Rat) (n + 1) → w ∈ Set.Ico (n : Rat) (n + 1) →
        toChar (.ofBits bits) = toChar (.ofBits bits') := by
  refine ⟨charThroughWord_eq_toChar hword, ?scalar, ?other, ?codePoint, ?interval⟩
  case scalar =>
    intro bits v hvalue hscalar
    exact toNat_toChar (integerPart?_ofBits_eq_some_iff.2 ⟨v, hvalue, rfl⟩) hscalar
  case other =>
    intro bits hother
    refine toChar_eq_replacementChar fun n hpart => ?_
    obtain ⟨v, hvalue, rfl⟩ := integerPart?_ofBits_eq_some_iff.1 hpart
    exact hother v hvalue
  case codePoint =>
    intro c
    rw [valueOfBits?_toBits]
    exact ⟨value?_ofNat_toNat c, toChar_ofNat c⟩
  case interval =>
    intro n bits bits' v w hv hw hvn hwn
    have hpart := integerPart?_of_le_of_lt ((value?_ofBits bits).trans hv) hvn.1 hvn.2
    have hpart' := integerPart?_of_le_of_lt ((value?_ofBits bits').trans hw) hwn.1 hwn.2
    rw [toChar, toChar, hpart, hpart']

/-- The word that an integer is. -/
def wordOfInt? (n : Int) : Option UInt32 :=
  if 0 ≤ n ∧ n < 2 ^ 32 then some (.ofNat n.toNat) else none

theorem wordOfInt?_eq_some_iff {n : Int} {w : UInt32} : wordOfInt? n = some w ↔ n = w.toNat := by
  have hbound := w.toNat_lt
  rw [wordOfInt?]
  split_ifs with hword
  · have hsize : n.toNat < UInt32.size := by
      rw [UInt32.size]
      omega
    rw [Option.some.injEq, ← UInt32.toNat_inj, UInt32.toNat_ofNat_of_lt' hsize]
    omega
  · refine iff_of_false nofun ?_
    omega

/-- A conversion that rounds first and then tests for words. -/
def word? (x : Number) : Option UInt32 :=
  x.integerPart?.bind wordOfInt?

theorem roundsToWords_word? : RoundsToWords word? := by
  intro bits w
  rw [← integerPart?_ofBits_eq_some_iff, word?, Option.bind_eq_some_iff]
  simp only [wordOfInt?_eq_some_iff, exists_eq_right]

/-- The greatest number below the surrogates is still the character before them, what lies
between minus one and zero is the first character, and a number beyond the words is not wrapped
around to the letter that is left of it in 32 bits. -/
theorem toChar_exact_at_limits :
    RoundsToWords word? ∧
      valueOfBits? 0x40EAFFFFFFFFFFFF = some (0xD800 - 1 / 2 ^ 37) ∧
      (toChar (.ofBits 0x40EAFFFFFFFFFFFF)).toNat = 0xD7FF ∧
      valueOfBits? 0xBFE0000000000000 = some (-1 / 2) ∧
      (toChar (.ofBits 0xBFE0000000000000)).toNat = 0 ∧
      valueOfBits? 0x41F0000004100000 = some (2 ^ 32 + 65) ∧
      charThroughWord word? (.ofBits 0x41F0000004100000) = '\ufffd' := by
  obtain ⟨hthrough, hscalar, hother, -, -⟩ := toChar_exact roundsToWords_word?
  have hbelow : valueOfBits? 0x40EAFFFFFFFFFFFF = some (0xD800 - 1 / 2 ^ 37) := by decide +kernel
  have hbetween : valueOfBits? 0xBFE0000000000000 = some (-1 / 2) := by decide +kernel
  have hbeyond : valueOfBits? 0x41F0000004100000 = some (2 ^ 32 + 65) := by decide +kernel
  have hlast : truncate (0xD800 - 1 / 2 ^ 37) = 0xD7FF := by decide +kernel
  have hfirst : truncate (-1 / 2) = 0 := by decide +kernel
  refine ⟨roundsToWords_word?, hbelow, ?below, hbetween, ?between, hbeyond, ?beyond⟩
  case below =>
    have hchar := hscalar _ _ hbelow (by rw [hlast]; decide)
    rw [hlast] at hchar
    exact_mod_cast hchar
  case between =>
    have hchar := hscalar _ _ hbetween (by rw [hfirst]; decide)
    rw [hfirst] at hchar
    exact_mod_cast hchar
  case beyond =>
    rw [hthrough]
    refine hother _ fun v hvalue => ?_
    obtain rfl := Option.some.inj (hbeyond.symm.trans hvalue)
    decide +kernel

end Number

end LineMachine
