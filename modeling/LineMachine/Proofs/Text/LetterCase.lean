import LineMachine.Operation
import Mathlib

/-!
Words in whatever letter case.  The full case mappings take some characters that are no ASCII
letters to ASCII letters, the Kelvin sign to a small k for one.  None of those letters stands
in a command word, so a word becomes a command word in small letters only when it is that word
but for the case of its ASCII letters; and likewise for the endings that name comparisons.
-/

namespace LineMachine

namespace Text

/-- The words differ in nothing but the case of their ASCII letters. -/
def SameButForCase (word other : String) : Prop :=
  word.toList.map Char.toLower = other.toList.map Char.toLower

instance (word other : String) : Decidable (SameButForCase word other) :=
  inferInstanceAs (Decidable (_ = _))

theorem toNat_lt_of_isAlpha {c : Char} (h : c.isAlpha = true) : c.toNat < 128 := by
  simp only [Char.isAlpha, Char.isUpper, Char.isLower, Bool.or_eq_true, Bool.and_eq_true,
    decide_eq_true_eq, ge_iff_le, UInt32.le_iff_toNat_le] at h
  have hbound : c.toNat ≤ 'z'.toNat := by
    rcases h with h | h
    · exact Nat.le_trans h.2 (by decide)
    · exact h.2
  exact Nat.lt_of_le_of_lt hbound (by decide)

/-- Below 128 both mappings are those of the ASCII letters. -/
theorem lower_upper_of_lt {c : Char} (h : c.toNat < 128) :
    lower c = [c.toLower] ∧ upper c = [c.toUpper] := by
  have hall : ∀ n < 128, lower (Char.ofNat n) = [(Char.ofNat n).toLower] ∧
      upper (Char.ofNat n) = [(Char.ofNat n).toUpper] := by
    decide +kernel
  have hc := hall c.toNat h
  rwa [Char.ofNat_toNat] at hc

namespace CaseMap

/-- A character is spelled out, moved along with a run of others, or left alone. -/
theorem map_cases (m : CaseMap) (c : Char) :
    (∃ image, (c.toNat, image) ∈ m.expansions ∧ m.map c = image.map Char.ofNat) ∨
      (∃ run ∈ m.runs, ∃ image, run.image? c.toNat = some image ∧ m.map c = [Char.ofNat image]) ∨
      m.map c = [c] := by
  rw [CaseMap.map]
  cases hexpansion : expansionIn? c.toNat m.expansions with
  | some image => exact .inl ⟨image, mem_of_expansionIn? hexpansion, rfl⟩
  | none =>
      cases himage : imageIn? c.toNat m.runs with
      | some image =>
          obtain ⟨run, hrun, hrunImage⟩ := exists_run_of_imageIn? himage
          exact .inr (.inl ⟨run, hrun, image, hrunImage, rfl⟩)
      | none => exact .inr (.inr rfl)

/-- Nothing from 128 on has an image that consists of the given letters alone.  A run that
reaches there is moved within that range, or it is one character that becomes another letter. -/
def Avoids (m : CaseMap) (letter : Char → Bool) : Prop :=
  (∀ run ∈ m.runs, run.last < 128 ∨ 128 ≤ (run.first : Int) + run.offset ∨
    run.first = run.last ∧ letter (Char.ofNat (run.first + run.offset).toNat) = false) ∧
  ∀ entry ∈ m.expansions, ∃ n ∈ entry.2, letter (Char.ofNat n) = false

instance (m : CaseMap) (letter : Char → Bool) : Decidable (m.Avoids letter) :=
  inferInstanceAs (Decidable (_ ∧ _))

theorem letter_ofNat_eq_false {letter : Char → Bool} {n : Nat}
    (hletter : ∀ d, letter d = true → d.isAlpha = true) (h : 128 ≤ n) :
    letter (Char.ofNat n) = false := by
  rw [← Bool.not_eq_true]
  intro hn
  have halpha := hletter _ hn
  by_cases hvalid : n.isValidChar
  · have hlt := toNat_lt_of_isAlpha halpha
    rw [Char.toNat_ofNat, if_pos hvalid] at hlt
    omega
  · have hzero : Char.ofNat n = '\x00' := by
      rw [Char.ofNat, dif_neg hvalid]
      rfl
    rw [hzero] at halpha
    cases halpha

/-- What becomes such letters is an ASCII character. -/
theorem Avoids.toNat_lt {m : CaseMap} {letter : Char → Bool} (h : m.Avoids letter)
    (hletter : ∀ d, letter d = true → d.isAlpha = true) {c : Char}
    (hc : ∀ d ∈ m.map c, letter d = true) : c.toNat < 128 := by
  rcases m.map_cases c with ⟨image, hentry, hmap⟩ | ⟨run, hrun, image, himage, hmap⟩ | hmap
  · obtain ⟨n, hn, hother⟩ := h.2 _ hentry
    rw [hmap] at hc
    rw [hc _ (List.mem_map_of_mem hn)] at hother
    cases hother
  · rw [hmap, List.forall_mem_singleton] at hc
    rw [CaseRun.image?] at himage
    split at himage
    · rename_i hinside
      cases himage
      rcases h.1 run hrun with hlast | hfar | ⟨hsingle, hother⟩
      · exact hinside.2.1.trans_lt hlast
      · have himage : 128 ≤ ((c.toNat : Int) + run.offset).toNat := by omega
        rw [letter_ofNat_eq_false hletter himage] at hc
        cases hc
      · have hfirst : c.toNat = run.first := by omega
        rw [hfirst, hother] at hc
        cases hc
    · cases himage
  · rw [hmap, List.forall_mem_singleton] at hc
    exact toNat_lt_of_isAlpha (hletter c hc)

end CaseMap

/-- The ASCII letters but for k, to which the Kelvin sign is lowered. -/
def isPlain (c : Char) : Bool :=
  c.isAlpha && c.toLower != 'k'

theorem isAlpha_of_isPlain {c : Char} (h : isPlain c = true) : c.isAlpha = true := by
  rw [isPlain, Bool.and_eq_true] at h
  exact h.1

@[simp] theorem isPlain_toLower (c : Char) : isPlain c.toLower = isPlain c := by
  simp [isPlain]

theorem lowercase_avoids : lowercase.Avoids isPlain := by
  decide +kernel

/-- The capital letters of the comparisons. -/
def isComparing (c : Char) : Bool :=
  c ∈ ['G', 'T', 'L', 'E', 'Q']

theorem isAlpha_of_isComparing {c : Char} (h : isComparing c = true) : c.isAlpha = true := by
  have hall : ['G', 'T', 'L', 'E', 'Q'].all Char.isAlpha = true := by decide
  rw [isComparing, decide_eq_true_eq] at h
  exact List.all_eq_true.1 hall c h

theorem uppercase_avoids : uppercase.Avoids isComparing := by
  decide +kernel

theorem map_toLower_map_toLower (cs : List Char) :
    (cs.map Char.toLower).map Char.toLower = cs.map Char.toLower := by
  simp

theorem lowerAfter_of_lt {cs : List Char} (h : ∀ c ∈ cs, c.toNat < 128) (before : List Char) :
    lowerAfter before cs = cs.map Char.toLower := by
  induction cs generalizing before with
  | nil => rfl
  | cons c cs ih =>
      rw [List.forall_mem_cons] at h
      have hsigma : c ≠ 'Σ' := by
        rintro rfl
        exact absurd h.1 (by decide)
      rw [lowerAfter, if_neg hsigma, (lower_upper_of_lt h.1).1, ih h.2, List.map_cons]
      rfl

/-- A text that becomes plain letters is made of ASCII characters. -/
theorem lt_of_mem_of_lowerAfter {cs before : List Char}
    (h : ∀ d ∈ lowerAfter before cs, isPlain d = true) : ∀ c ∈ cs, c.toNat < 128 := by
  induction cs generalizing before with
  | nil => exact List.forall_mem_nil _
  | cons c cs ih =>
      rw [lowerAfter] at h
      split at h
      · -- A capital sigma becomes one of two small ones, and neither is an ASCII letter.
        have hsigma : isPlain 'ς' = false ∧ isPlain 'σ' = false := by decide +kernel
        have hplain := h _ List.mem_cons_self
        rw [sigmaBetween] at hplain
        split at hplain
        · rw [hsigma.1] at hplain
          cases hplain
        · rw [hsigma.2] at hplain
          cases hplain
      · rw [List.forall_mem_append] at h
        exact List.forall_mem_cons.2
          ⟨lowercase_avoids.toNat_lt (fun _ => isAlpha_of_isPlain) h.1, ih h.2⟩

theorem lowerText_of_isPlain {cs : List Char} (h : ∀ c ∈ cs, isPlain c = true) :
    lowerText cs = cs.map Char.toLower :=
  lowerAfter_of_lt (fun c hc => toNat_lt_of_isAlpha (isAlpha_of_isPlain (h c hc))) []

namespace SameButForCase

variable {word other : String}

theorem trans {third : String} (h : SameButForCase word other) (h' : SameButForCase other third) :
    SameButForCase word third :=
  Eq.trans h h'

theorem symm (h : SameButForCase word other) : SameButForCase other word :=
  Eq.symm h

theorem append_iff {start : String} :
    SameButForCase (start ++ word) (start ++ other) ↔ SameButForCase word other := by
  simp [SameButForCase]

section Plain

variable (hplain : ∀ c ∈ other.toList, isPlain c = true)

include hplain

theorem forall_isPlain (h : SameButForCase word other) : ∀ c ∈ word.toList, isPlain c = true := by
  intro c hc
  have hlowered : c.toLower ∈ other.toList.map Char.toLower := h ▸ List.mem_map_of_mem hc
  obtain ⟨d, hd, heq⟩ := List.mem_map.1 hlowered
  rw [← isPlain_toLower, ← heq, isPlain_toLower]
  exact hplain d hd

theorem lowerText_eq (h : SameButForCase word other) :
    lowerText word.toList = lowerText other.toList := by
  rw [lowerText_of_isPlain hplain, lowerText_of_isPlain (h.forall_isPlain hplain)]
  exact h

/-- Lowering a word with the full mappings does not bring it to another one of plain letters
unless lowering its ASCII letters does. -/
theorem lowerText_iff :
    SameButForCase (String.ofList (lowerText word.toList)) other ↔ SameButForCase word other := by
  constructor
  · intro h
    have hascii := lt_of_mem_of_lowerAfter (String.toList_ofList ▸ h.forall_isPlain hplain)
    rwa [SameButForCase, String.toList_ofList, lowerText, lowerAfter_of_lt hascii,
      map_toLower_map_toLower] at h
  · intro h
    rw [SameButForCase, String.toList_ofList, lowerText_of_isPlain (h.forall_isPlain hplain),
      map_toLower_map_toLower]
    exact h

end Plain

end SameButForCase

/-- Raising a text with the full mappings does not bring it to the letters of a comparison
unless raising its ASCII letters does. -/
theorem upperText_eq_iff {cs word : List Char} (hword : ∀ c ∈ word, isComparing c = true) :
    upperText cs = word ↔ cs.map Char.toUpper = word := by
  have hraise (hascii : ∀ c ∈ cs, c.toNat < 128) : upperText cs = cs.map Char.toUpper := by
    rw [upperText, List.flatMap_congr fun c hc => (lower_upper_of_lt (hascii c hc)).2,
      List.map_eq_flatMap]
  constructor
  · intro h
    rw [hraise] at h
    · exact h
    · intro c hc
      apply uppercase_avoids.toNat_lt fun _ => isAlpha_of_isComparing
      intro d hd
      exact hword d (h ▸ List.mem_flatMap.2 ⟨c, hc, hd⟩)
  · intro h
    rw [hraise, h]
    intro c hc
    have hcomparing := hword _ (h ▸ List.mem_map_of_mem hc)
    have halpha := isAlpha_of_isComparing hcomparing
    rw [Char.isAlpha_toUpper_eq_isAlpha] at halpha
    exact toNat_lt_of_isAlpha halpha

/-- Words agree but for case in small letters as they do in capitals. -/
theorem map_toUpper_eq_iff {cs other : List Char} :
    cs.map Char.toUpper = other.map Char.toUpper ↔
      cs.map Char.toLower = other.map Char.toLower := by
  constructor
  · intro h
    have hlowered := congrArg (List.map Char.toLower) h
    simpa [Function.comp_def] using hlowered
  · intro h
    have hraised := congrArg (List.map Char.toUpper) h
    simpa [Function.comp_def] using hraised

end Text

namespace Condition

theorem ofSuffix?_eq_some_iff_upperText {ending : String} {condition : Condition} :
    ofSuffix? ending = some condition ↔
      Text.upperText ending.toList = condition.suffix.toList.map Char.toUpper := by
  rw [ofSuffix?]
  constructor
  · intro h
    split at h
    case h_4 => cases h
    all_goals
      rename_i hraised
      cases h
      rw [← String.toList_ofList (l := Text.upperText ending.toList), hraised]
      rfl
  · intro h
    rw [h]
    cases condition <;> rfl

/-- An ending asks for a comparison when it is the ending of that comparison but for the case
of its ASCII letters. -/
theorem ofSuffix?_eq_some_iff {ending : String} {condition : Condition} :
    ofSuffix? ending = some condition ↔ Text.SameButForCase ending condition.suffix := by
  have hall : (condition.suffix.toList.map Char.toUpper).all Text.isComparing = true := by
    cases condition <;> decide
  rw [ofSuffix?_eq_some_iff_upperText, Text.upperText_eq_iff (List.all_eq_true.1 hall),
    Text.map_toUpper_eq_iff, Text.SameButForCase]

end Condition

end LineMachine
