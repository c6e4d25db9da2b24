import LineMachine.Proofs.Lexeme.Lines
import LineMachine.Proofs.Number.ReadBack
import LineMachine.Seed

/-!
An initial stack line by line.  Every line with something on it gives one value and other
lines give none: the integer that the line holds between white space, if that has 64 bits,
and otherwise the code point of the first character that is no white space.
-/

namespace LineMachine

open Text

namespace Text

/-- White space and nothing else. -/
def IsWhite (text : List Char) : Prop :=
  ∀ c ∈ text, isWhiteSpace c = true

theorem not_all_isWhiteSpace_iff {text : List Char} :
    (!text.all isWhiteSpace) = true ↔ ¬ IsWhite text := by
  rw [Bool.not_eq_true', Bool.eq_false_iff, ne_eq, List.all_eq_true, IsWhite]

theorem isWhiteSpace_of_isDigit {c : Char} (h : c.isDigit = true) : isWhiteSpace c = false := by
  simp only [Char.isDigit, ge_iff_le, Bool.and_eq_true, decide_eq_true_eq,
    UInt32.le_iff_toNat_le] at h
  have hlow : 0x30 ≤ c.toNat := h.1
  have hhigh : c.toNat ≤ 0x39 := h.2
  have houtside : ∀ range ∈ whiteSpaceRanges, range.2 < 0x30 ∨ 0x39 < range.1 := by decide
  rw [Bool.eq_false_iff]
  intro hwhite
  obtain ⟨range, hmem, hfirst, hlast⟩ := CodePoints.exists_range_of_contains hwhite
  have houtside := houtside range hmem
  omega

theorem IsWhite.eq_nil_of_stopsAt {text : List Char} (h : IsWhite text)
    (hstops : StopsAt isWhiteSpace text) : text = [] := by
  cases text with
  | nil => rfl
  | cons c text =>
      have hc := h c List.mem_cons_self
      rw [stopsAt_cons.1 hstops] at hc
      cases hc

/-- A text is what trimming leaves of it, between white space. -/
theorem exists_trim (text : List Char) :
    ∃ before after, text = before ++ trim text ++ after ∧ IsWhite before ∧ IsWhite after ∧
      StopsAt isWhiteSpace (trim text) := by
  obtain ⟨rest, hrest⟩ : ∃ rest, rest = text.dropWhile isWhiteSpace := ⟨_, rfl⟩
  refine ⟨text.takeWhile isWhiteSpace, (rest.reverse.takeWhile isWhiteSpace).reverse, ?_,
    fun c hc => of_mem_takeWhile hc, fun c hc => of_mem_takeWhile (List.mem_reverse.1 hc), ?_⟩
  · rw [trim, ← hrest, List.append_assoc, ← List.reverse_append, List.takeWhile_append_dropWhile,
      List.reverse_reverse, hrest, List.takeWhile_append_dropWhile]
  · have hstops := stopsAt_dropWhile isWhiteSpace text
    rw [← hrest, ← List.reverse_reverse rest,
      ← List.takeWhile_append_dropWhile (p := isWhiteSpace) (l := rest.reverse),
      List.reverse_append] at hstops
    rw [trim, ← hrest]
    exact hstops.of_append

/-- White space around a text without any is trimmed. -/
theorem trim_append_of_not_isWhiteSpace {before body after : List Char} (hbefore : IsWhite before)
    (hafter : IsWhite after) (hne : body ≠ []) (hbody : ∀ c ∈ body, isWhiteSpace c = false) :
    trim (before ++ body ++ after) = body := by
  have hfront : StopsAt isWhiteSpace (body ++ after) := by
    obtain ⟨c, body, rfl⟩ := List.exists_cons_of_ne_nil hne
    exact stopsAt_cons.2 (hbody c List.mem_cons_self)
  have hback : StopsAt isWhiteSpace body.reverse :=
    fun c hc => hbody c (List.mem_reverse.1 (List.mem_of_mem_head? hc))
  have hafter' : ∀ c ∈ after.reverse, isWhiteSpace c = true :=
    fun c hc => hafter c (List.mem_reverse.1 hc)
  rw [trim, List.append_assoc, dropWhile_append_of_stopsAt hbefore hfront, List.reverse_append,
    dropWhile_append_of_stopsAt hafter' hback, List.reverse_reverse]

theorem trim_eq_nil_iff {text : List Char} : trim text = [] ↔ IsWhite text := by
  obtain ⟨before, after, htext, hbefore, hafter, hstops⟩ := exists_trim text
  constructor
  · intro h c hc
    rw [htext, h, List.append_nil, List.mem_append] at hc
    exact hc.elim (hbefore c) (hafter c)
  · intro h
    refine IsWhite.eq_nil_of_stopsAt (fun c hc => h c ?_) hstops
    rw [htext]
    exact List.mem_append_left after (List.mem_append_right before hc)

end Text

namespace Seed

/-- The text spells an integer in decimal: digits, zeros at the front among them, with or
without a sign. -/
inductive SpellsInteger : List Char → Int → Prop where
  | plain {digits : List Char} (hne : digits ≠ []) (hdigits : ∀ c ∈ digits, c.isDigit = true) :
      SpellsInteger digits (Nat.ofDigitChars 10 digits 0)
  | plus {digits : List Char} (hne : digits ≠ []) (hdigits : ∀ c ∈ digits, c.isDigit = true) :
      SpellsInteger ('+' :: digits) (Nat.ofDigitChars 10 digits 0)
  | minus {digits : List Char} (hne : digits ≠ []) (hdigits : ∀ c ∈ digits, c.isDigit = true) :
      SpellsInteger ('-' :: digits) (-(Nat.ofDigitChars 10 digits 0 : Int))

/-- The line is an integer of 64 bits between white space. -/
def HoldsInteger (line : List Char) (n : Int) : Prop :=
  ∃ before body after, line = before ++ body ++ after ∧ IsWhite before ∧ IsWhite after ∧
    SpellsInteger body n ∧ -2 ^ 63 ≤ n ∧ n < 2 ^ 63

/-- The value of a line with something on it. -/
inductive Yields : List Char → Number → Prop where
  | integer {line : List Char} {n : Int} (h : HoldsInteger line n) : Yields line (Number.ofInt n)
  | character {before rest : List Char} {c : Char} (hbefore : IsWhite before)
      (hc : isWhiteSpace c = false) (h : ∀ n, ¬ HoldsInteger (before ++ c :: rest) n) :
      Yields (before ++ c :: rest) (Number.ofNat c.toNat)

/-- The lines of a text that are not all white space. -/
def filledLines (text : String) : List (List Char) :=
  (splitOn '\n' text.toList).filter fun line => !line.all isWhiteSpace

theorem SpellsInteger.ne_nil {body : List Char} {n : Int} (h : SpellsInteger body n) :
    body ≠ [] := by
  cases h with
  | plain hne hdigits => exact hne
  | plus hne hdigits => exact List.cons_ne_nil _ _
  | minus hne hdigits => exact List.cons_ne_nil _ _

theorem SpellsInteger.not_isWhiteSpace {body : List Char} {n : Int} (h : SpellsInteger body n) :
    ∀ c ∈ body, isWhiteSpace c = false := by
  cases h with
  | plain hne hdigits => exact fun c hc => isWhiteSpace_of_isDigit (hdigits c hc)
  | plus hne hdigits =>
      exact List.forall_mem_cons.2 ⟨rfl, fun c hc => isWhiteSpace_of_isDigit (hdigits c hc)⟩
  | minus hne hdigits =>
      exact List.forall_mem_cons.2 ⟨rfl, fun c hc => isWhiteSpace_of_isDigit (hdigits c hc)⟩

theorem isInRange_iff {n : Int} : isInRange n = true ↔ -2 ^ 63 ≤ n ∧ n < 2 ^ 63 := by
  rw [isInRange, Bool.and_eq_true, decide_eq_true_iff, decide_eq_true_iff]
  omega

theorem natural?_eq_some_iff_ofDigitChars {text : List Char} {n : Nat} :
    natural? text = some n ↔
      text ≠ [] ∧ (∀ c ∈ text, c.isDigit = true) ∧ Nat.ofDigitChars 10 text 0 = n := by
  rw [natural?_eq_some_iff, List.all_eq_true, digitsValue_eq_ofDigitChars]

/-- A line is read as an integer exactly when it spells one of 64 bits. -/
theorem integer?_eq_some_iff {body : List Char} {n : Int} :
    integer? body = some n ↔ SpellsInteger body n ∧ -2 ^ 63 ≤ n ∧ n < 2 ^ 63 := by
  rw [integer?.eq_def, Option.filter_eq_some_iff, isInRange_iff]
  refine and_congr_left fun _ => ?_
  constructor
  · intro h
    split at h
    · rename_i digits
      cases hm : natural? digits with
      | none => rw [hm] at h; cases h
      | some m =>
          rw [hm] at h
          cases h
          obtain ⟨hne, hdigits, rfl⟩ := natural?_eq_some_iff_ofDigitChars.1 hm
          exact .minus hne hdigits
    · obtain ⟨m, hm, rfl⟩ := Option.map_eq_some_iff.1 h
      obtain ⟨hne, hdigits, rfl⟩ := natural?_eq_some_iff_ofDigitChars.1 hm
      exact .plus hne hdigits
    · obtain ⟨m, hm, rfl⟩ := Option.map_eq_some_iff.1 h
      obtain ⟨hne, hdigits, rfl⟩ := natural?_eq_some_iff_ofDigitChars.1 hm
      exact .plain hne hdigits
  · intro h
    have hread {digits : List Char} (hne : digits ≠ []) (hdigits : ∀ c ∈ digits, c.isDigit = true) :
        natural? digits = some (Nat.ofDigitChars 10 digits 0) :=
      natural?_eq_some_iff_ofDigitChars.2 ⟨hne, hdigits, rfl⟩
    cases h with
    | minus hne hdigits => simp [hread hne hdigits]
    | plus hne hdigits => simp [hread hne hdigits]
    | plain hne hdigits =>
        split
        · exact absurd (hdigits '-' List.mem_cons_self) (by decide)
        · exact absurd (hdigits '+' List.mem_cons_self) (by decide)
        · simp [hread hne hdigits]

theorem holdsInteger_iff {line : List Char} {n : Int} :
    HoldsInteger line n ↔ integer? (trim line) = some n := by
  rw [integer?_eq_some_iff]
  constructor
  · rintro ⟨before, body, after, rfl, hbefore, hafter, hbody, hrange⟩
    rw [trim_append_of_not_isWhiteSpace hbefore hafter hbody.ne_nil hbody.not_isWhiteSpace]
    exact ⟨hbody, hrange⟩
  · rintro ⟨hbody, hrange⟩
    obtain ⟨before, after, hline, hbefore, hafter, -⟩ := exists_trim line
    exact ⟨before, trim line, after, hline, hbefore, hafter, hbody, hrange⟩

theorem lineValue?_of_holdsInteger {line : List Char} {n : Int} (h : HoldsInteger line n) :
    lineValue? (trim line) = some (Number.ofInt n) := by
  have hinteger := holdsInteger_iff.1 h
  cases htrim : trim line with
  | nil => rw [htrim] at hinteger; cases hinteger
  | cons c rest => rw [lineValue?, ← htrim, hinteger]

/-- A line gives a value exactly when something is on it. -/
theorem lineValue?_trim_cases (line : List Char) :
    IsWhite line ∧ lineValue? (trim line) = none ∨
      ¬ IsWhite line ∧ ∃ x, lineValue? (trim line) = some x ∧ Yields line x := by
  rw [← trim_eq_nil_iff]
  cases htrim : trim line with
  | nil => exact .inl ⟨rfl, rfl⟩
  | cons c rest =>
      refine .inr ⟨List.cons_ne_nil c rest, ?_⟩
      by_cases hinteger : ∃ n, HoldsInteger line n
      · obtain ⟨n, hn⟩ := hinteger
        exact ⟨_, htrim ▸ lineValue?_of_holdsInteger hn, .integer hn⟩
      · have hnone : integer? (c :: rest) = none := by
          rw [← htrim, Option.eq_none_iff_forall_ne_some]
          exact fun n hn => hinteger ⟨n, holdsInteger_iff.2 hn⟩
        obtain ⟨before, after, hline, hbefore, -, hstops⟩ := exists_trim line
        rw [htrim] at hline hstops
        rw [List.append_assoc, List.cons_append] at hline
        subst hline
        exact ⟨_, by rw [lineValue?, hnone],
          .character hbefore (stopsAt_cons.1 hstops) (not_exists.1 hinteger)⟩

/-- Only lines with something on them count. -/
theorem values_eq_filledLines (text : String) :
    values text = (filledLines text).filterMap fun line => lineValue? (trim line) := by
  rw [values, filledLines, List.filterMap_filter]
  apply List.filterMap_congr
  intro line _
  rcases lineValue?_trim_cases line with ⟨hwhite, hvalue⟩ | ⟨hfilled, -⟩
  · rw [hvalue, ite_self]
  · rw [if_pos (not_all_isWhiteSpace_iff.2 hfilled)]

theorem values_append (a b : String) : values (a ++ "\n" ++ b) = values a ++ values b := by
  have htext : (a ++ "\n" ++ b).toList = a.toList ++ '\n' :: b.toList := by
    rw [String.toList_append, String.toList_append, List.append_assoc]
    rfl
  rw [values, htext, splitOn_append, List.filterMap_append, values, values]

theorem not_isWhite_of_mem_filledLines {text : String} {line : List Char}
    (h : line ∈ filledLines text) : ¬ IsWhite line :=
  not_all_isWhiteSpace_iff.1 (List.mem_filter.1 h).2

theorem forall₂_yields_filterMap {lines : List (List Char)} (h : ∀ line ∈ lines, ¬ IsWhite line) :
    List.Forall₂ Yields lines (lines.filterMap fun line => lineValue? (trim line)) := by
  induction lines with
  | nil => exact .nil
  | cons line lines ih =>
      rw [List.forall_mem_cons] at h
      rcases lineValue?_trim_cases line with ⟨hwhite, -⟩ | ⟨-, x, hvalue, hx⟩
      · exact absurd hwhite h.1
      · rw [List.filterMap_cons, hvalue]
        exact .cons hx (ih h.2)

theorem filterMap_of_forall₂_holdsInteger {lines : List (List Char)} {integers : List Int}
    (h : List.Forall₂ HoldsInteger lines integers) :
    (lines.filterMap fun line => lineValue? (trim line)) = integers.map Number.ofInt := by
  induction h with
  | nil => rfl
  | cons hline hlines ih =>
      rw [List.filterMap_cons, lineValue?_of_holdsInteger hline, ih, List.map_cons]

/-- The text of an initial stack is read line by line and nothing is lost: every line with
something on it gives one value, its integer or else its first character, in the order of
the lines. -/
theorem values_line_by_line :
    (∀ a b : String, values (a ++ "\n" ++ b) = values a ++ values b) ∧
      ∀ text : String, (values text).length = (filledLines text).length ∧
        List.Forall₂ Yields (filledLines text) (values text) ∧
        ∀ integers, List.Forall₂ HoldsInteger (filledLines text) integers →
          values text = integers.map Number.ofInt := by
  refine ⟨values_append, fun text => ?_⟩
  have hyields : List.Forall₂ Yields (filledLines text) (values text) := by
    rw [values_eq_filledLines]
    exact forall₂_yields_filterMap fun line hline => not_isWhite_of_mem_filledLines hline
  refine ⟨hyields.length_eq.symm, hyields, ?_⟩
  intro integers h
  rw [values_eq_filledLines, filterMap_of_forall₂_holdsInteger h]

/-- The least integer of 64 bits, and one with a sign, zeros and white space around it. -/
theorem values_of_padded_and_least :
    List.Forall₂ HoldsInteger (filledLines " +007\r\n\u3000\n-9223372036854775808\n")
        [7, -2 ^ 63] ∧
      values " +007\r\n\u3000\n-9223372036854775808\n" =
        [Number.ofInt 7, Number.ofInt (-2 ^ 63)] := by
  have hlines : filledLines " +007\r\n\u3000\n-9223372036854775808\n" =
      [" +007\r".toList, "-9223372036854775808".toList] := by
    decide +kernel
  have hheld : List.Forall₂ HoldsInteger (filledLines " +007\r\n\u3000\n-9223372036854775808\n")
      [7, -2 ^ 63] := by
    rw [hlines]
    refine .cons (holdsInteger_iff.2 ?_) (.cons (holdsInteger_iff.2 ?_) .nil)
    · decide +kernel
    · decide +kernel
  obtain ⟨-, -, hvalues⟩ := values_line_by_line.2 " +007\r\n\u3000\n-9223372036854775808\n"
  exact ⟨hheld, hvalues _ hheld⟩

example : values "9223372036854775808\n\t- 5" =
    [Number.ofNat '9'.toNat, Number.ofNat '-'.toNat] := by
  decide +kernel

end Seed

end LineMachine
