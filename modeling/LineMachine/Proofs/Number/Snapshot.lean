import LineMachine.Proofs.Number.ReadBack

/-!
Numbers in a snapshot.  The text of a number tells the decimal that it was written from, with
an exponent or without one, and a decimal lies in the interval of one number only.  Finite
numbers with the same text are therefore equal, and only those that are not finite share
one.
-/

namespace LineMachine

open Text Rounding

namespace Lexeme

/-- A text begins with one lexeme at most that ends where it should. -/
theorem eq_of_chars_append_eq {a b : Lexeme} {s t : List Char} (ha : a.WellFormed)
    (hb : b.WellFormed) (hs : a.EndsBefore s) (ht : b.EndsBefore t)
    (h : a.chars ++ s = b.chars ++ t) : a = b ∧ s = t := by
  obtain ⟨c, rest, hchars⟩ := List.exists_cons_of_ne_nil (chars_ne_nil ha)
  have hnext : next c (rest ++ s) = .ok (a, s) := by
    rw [next_eq_ok_iff, hchars]
    exact ⟨ha, hs, rfl⟩
  have hnext' : next c (rest ++ s) = .ok (b, t) := by
    rw [next_eq_ok_iff, ← h, hchars]
    exact ⟨hb, ht, rfl⟩
  rw [hnext] at hnext'
  cases hnext'
  exact ⟨rfl, rfl⟩

end Lexeme

namespace NumberFormat

/-- The text of a power of ten behind a number, if one is written. -/
def exponentText : Option Int → List Char
  | none => []
  | some exponent =>
      'e' :: (if exponent < 0 then '-' else '+') :: Nat.toDigits 10 exponent.natAbs

theorem exponentText_injective {a b : Option Int} (h : exponentText a = exponentText b) :
    a = b := by
  cases a with
  | none =>
      cases b with
      | none => rfl
      | some n => cases h
  | some m =>
      cases b with
      | none => cases h
      | some n =>
          obtain ⟨hsign, hdigits⟩ := List.cons.inj (List.cons.inj h).2
          have habs := toDigits_injective hdigits
          have hnegative : m < 0 ↔ n < 0 := by
            by_cases hm : m < 0 <;> by_cases hn : n < 0 <;> simp [hm, hn] at hsign ⊢
          congr 1
          omega

theorem endsBefore_exponentText (whole fraction : List Char) (exponent? : Option Int) :
    (Lexeme.number whole fraction).EndsBefore (exponentText exponent?) := by
  have hdigit : StopsAt Char.isDigit (exponentText exponent?) := by
    cases exponent? with
    | none => exact stopsAt_nil _
    | some exponent => exact stopsAt_cons.2 (by decide)
  cases fraction with
  | cons digit digits => exact hdigit
  | nil =>
      refine ⟨hdigit, ?_⟩
      intro digit rest heq
      cases exponent? <;> cases heq

/-- Every decimal is written as a number lexeme and perhaps a power of ten, and these have
its value. -/
theorem exists_layout_eq (format : NumberFormat) (d : Decimal) :
    ∃ whole fraction exponent?,
      format.layout d = (Lexeme.number whole fraction).chars ++ exponentText exponent? ∧
      (Lexeme.number whole fraction).WellFormed ∧
      (⟨digitsValue (whole ++ fraction), exponent?.getD 0 - fraction.length⟩ : Decimal).value =
        d.value := by
  obtain ⟨digits, hd⟩ : ∃ digits, digits = Nat.toDigits 10 d.digits := ⟨_, rfl⟩
  have hne : digits ≠ [] := hd ▸ Nat.toDigits_ne_nil
  have hdigits : ∀ c ∈ digits, c.isDigit = true := by
    intro c hc
    rw [hd] at hc
    exact isDigit_of_mem_toDigits hc
  have hvalue : digitsValue digits = d.digits := by rw [hd, digitsValue_toDigits]
  rw [layout, ← hd]
  split
  · obtain ⟨whole, fraction, hchars, hwell, hsame⟩ :=
      format.layoutPositional_eq_chars hne hdigits d.exponent
    refine ⟨whole, fraction, none, ?_, hwell, ?_⟩
    · rw [hchars, exponentText, List.append_nil]
    · rw [Option.getD_none, Int.zero_sub, hsame, hvalue]
  · obtain ⟨digit, fraction, rfl⟩ := List.exists_cons_of_ne_nil hne
    rw [List.forall_mem_cons] at hdigits
    refine ⟨[digit], fraction, some ((digit :: fraction).length + d.exponent - 1), ?_,
      ⟨List.cons_ne_nil _ _, by simpa using hdigits.1, hdigits.2⟩, ?_⟩
    · cases fraction <;> simp [layoutScientific, Lexeme.chars, exponentText]
    · have hexponent : ((digit :: fraction).length : Int) + d.exponent - 1 - fraction.length =
          d.exponent := by
        rw [List.length_cons]
        push_cast
        omega
      rw [Option.getD_some, hexponent, List.singleton_append, hvalue]

/-- The text of a decimal tells its value. -/
theorem value_eq_of_layout_eq {format : NumberFormat} {d other : Decimal}
    (h : format.layout d = format.layout other) : d.value = other.value := by
  obtain ⟨whole, fraction, exponent?, hlayout, hwell, hvalue⟩ := format.exists_layout_eq d
  obtain ⟨whole', fraction', exponent?', hlayout', hwell', hvalue'⟩ :=
    format.exists_layout_eq other
  rw [hlayout, hlayout'] at h
  obtain ⟨hnumber, hexponent⟩ := Lexeme.eq_of_chars_append_eq hwell hwell'
    (endsBefore_exponentText _ _ _) (endsBefore_exponentText _ _ _) h
  cases hnumber
  obtain rfl := exponentText_injective hexponent
  exact hvalue.symm.trans hvalue'

/-- The characters that numbers are written with. -/
def isNumeralChar (c : Char) : Bool :=
  c.isDigit || c == '.' || c == 'e' || c == '+' || c == '-'

theorem isNumeralChar_of_isDigit {c : Char} (h : c.isDigit = true) : isNumeralChar c = true := by
  simp [isNumeralChar, h]

theorem isNumeralChar_of_mem_layout {format : NumberFormat} {d : Decimal} {c : Char}
    (h : c ∈ format.layout d) : isNumeralChar c = true := by
  obtain ⟨whole, fraction, exponent?, hlayout, ⟨-, hwhole, hfraction⟩, -⟩ :=
    format.exists_layout_eq d
  rw [hlayout, List.mem_append] at h
  rcases h with hnumber | hexponent
  · cases fraction with
    | nil => exact isNumeralChar_of_isDigit (hwhole c hnumber)
    | cons digit digits =>
        rw [Lexeme.chars_number_of_ne_nil whole (List.cons_ne_nil digit digits), List.mem_append,
          List.mem_cons] at hnumber
        rcases hnumber with hc | rfl | hc
        · exact isNumeralChar_of_isDigit (hwhole c hc)
        · rfl
        · exact isNumeralChar_of_isDigit (hfraction c hc)
  · cases exponent? with
    | none => cases hexponent
    | some exponent =>
        rw [exponentText, List.mem_cons, List.mem_cons] at hexponent
        rcases hexponent with rfl | rfl | hc
        · rfl
        · split <;> rfl
        · exact isNumeralChar_of_isDigit (isDigit_of_mem_toDigits hc)

/-- A decimal is written without a sign. -/
theorem head?_layout_ne (format : NumberFormat) (d : Decimal) :
    (format.layout d).head? ≠ some '-' := by
  obtain ⟨whole, fraction, exponent?, hlayout, ⟨hne, hwhole, -⟩, -⟩ := format.exists_layout_eq d
  obtain ⟨c, whole, rfl⟩ := List.exists_cons_of_ne_nil hne
  have hhead : (format.layout d).head? = some c := by
    rw [hlayout]
    cases fraction <;> rfl
  rw [hhead]
  rintro ⟨⟩
  exact absurd (hwhole '-' List.mem_cons_self) (by decide)

end NumberFormat

namespace Decimal

theorem value_shortest_pos (tie : Tie) {significand : Nat} {exponent : Int}
    (h : Number.Canonical significand exponent) :
    0 < (shortest tie significand exponent).value := by
  have hnear := near_of_contains (contains_shortest tie significand exponent)
  exact lt_of_lt_of_le (by positivity) (hnear.bounds h).1

/-- The intervals around two numbers have no decimal in common. -/
theorem eq_of_contains {d : Decimal} {significand other : Nat} {exponent exponent' : Int}
    (hcanonical : Number.Canonical significand exponent)
    (hcanonical' : Number.Canonical other exponent')
    (h : (RationalInterval.aroundBinary significand exponent).contains d.value = true)
    (h' : (RationalInterval.aroundBinary other exponent').contains d.value = true) :
    significand = other ∧ exponent = exponent' := by
  have hnear := near_of_contains h
  have hnear' := near_of_contains h'
  rw [value] at hnear hnear'
  -- The decimal is read as either number, and reading has one result.
  have hread := ofScientific_of_near hcanonical hnear
  rw [ofScientific_of_near hcanonical' hnear'] at hread
  injection hread with _ hsignificand hexponent
  exact ⟨hsignificand.symm, hexponent.symm⟩

/-- The decimal that a snapshot writes for `significand * 2 ^ exponent`. -/
def magnitude (significand : Nat) (exponent : Int) : Decimal :=
  if significand = 0 then ⟨0, 0⟩
  else shortest NumberFormat.snapshot.tie significand exponent

theorem eq_of_value_magnitude_eq {significand other : Nat} {exponent exponent' : Int}
    (hcanonical : 0 < significand → Number.Canonical significand exponent)
    (hcanonical' : 0 < other → Number.Canonical other exponent')
    (h : (magnitude significand exponent).value = (magnitude other exponent').value) :
    significand = other ∧ (0 < significand → exponent = exponent') := by
  have hzero (e : Int) : (magnitude 0 e).value = 0 := by
    rw [magnitude, if_pos rfl, value, Nat.cast_zero, zero_mul]
  have hshortest {n : Nat} (e : Int) (hn : 0 < n) :
      magnitude n e = shortest NumberFormat.snapshot.tie n e :=
    if_neg (Nat.ne_of_gt hn)
  rcases Nat.eq_zero_or_pos significand with rfl | hpos
  · rcases Nat.eq_zero_or_pos other with rfl | hpos'
    · exact ⟨rfl, fun hpos => absurd hpos (Nat.lt_irrefl 0)⟩
    · rw [hzero, hshortest exponent' hpos'] at h
      exact absurd h (ne_of_lt (value_shortest_pos _ (hcanonical' hpos')))
  · rcases Nat.eq_zero_or_pos other with rfl | hpos'
    · rw [hzero, hshortest exponent hpos] at h
      exact absurd h (ne_of_gt (value_shortest_pos _ (hcanonical hpos)))
    · rw [hshortest exponent hpos, hshortest exponent' hpos'] at h
      have hcontains := contains_shortest NumberFormat.snapshot.tie significand exponent
      rw [h] at hcontains
      obtain ⟨hsignificand, hexponent⟩ := eq_of_contains (hcanonical hpos) (hcanonical' hpos')
        hcontains (contains_shortest _ _ _)
      exact ⟨hsignificand, fun _ => hexponent⟩

end Decimal

namespace Number

/-- The number is neither not-a-number nor an infinity. -/
def IsFinite (x : Number) : Prop :=
  ∃ negative significand exponent, x.reading = .finite negative significand exponent

theorem render_snapshot_of_not_isFinite {x : Number} (h : ¬ x.IsFinite) :
    NumberFormat.snapshot.render x = "null" := by
  rw [NumberFormat.render]
  cases hreading : x.reading with
  | notANumber => rfl
  | infinite negative => rfl
  | finite negative significand exponent => exact absurd ⟨_, _, _, hreading⟩ h

theorem toList_render_snapshot {x : Number} {negative : Bool} {significand : Nat}
    {exponent : Int} (h : x.reading = .finite negative significand exponent) :
    (NumberFormat.snapshot.render x).toList =
      (if negative then ['-'] else []) ++
        NumberFormat.snapshot.layout (Decimal.magnitude significand exponent) := by
  rw [NumberFormat.render, h, Decimal.magnitude]
  dsimp only
  by_cases hzero : significand = 0
  · rw [if_pos hzero, if_pos hzero]
    cases negative <;> decide +kernel
  · rw [if_neg hzero, if_neg hzero, String.toList_ofList]
    cases negative <;> rfl

theorem isNumeralChar_of_mem_render {x : Number} (h : x.IsFinite) {c : Char}
    (hc : c ∈ (NumberFormat.snapshot.render x).toList) : NumberFormat.isNumeralChar c = true := by
  obtain ⟨negative, significand, exponent, hreading⟩ := h
  rw [toList_render_snapshot hreading, List.mem_append] at hc
  rcases hc with hsign | hmagnitude
  · cases negative with
    | false => cases hsign
    | true =>
        obtain rfl := List.mem_singleton.1 hsign
        rfl
  · exact NumberFormat.isNumeralChar_of_mem_layout hmagnitude

/-- Finite numbers with the same text are equal. -/
theorem eq_of_render_snapshot_eq {x y : Number} (hx : x.IsFinite) (hy : y.IsFinite)
    (h : NumberFormat.snapshot.render x = NumberFormat.snapshot.render y) : x = y := by
  obtain ⟨negative, significand, exponent, hreading⟩ := hx
  obtain ⟨negative', other, exponent', hreading'⟩ := hy
  have htext := congrArg String.toList h
  rw [toList_render_snapshot hreading, toList_render_snapshot hreading'] at htext
  have hsigned {d d' : Decimal}
      (hcons : '-' :: NumberFormat.snapshot.layout d = NumberFormat.snapshot.layout d') : False :=
    NumberFormat.head?_layout_ne NumberFormat.snapshot d' (by rw [← hcons, List.head?_cons])
  have hsame : negative = negative' ∧ NumberFormat.snapshot.layout
      (Decimal.magnitude significand exponent) =
        NumberFormat.snapshot.layout (Decimal.magnitude other exponent') := by
    cases negative with
    | false =>
        cases negative' with
        | false => exact ⟨rfl, htext⟩
        | true => exact absurd htext.symm hsigned
    | true =>
        cases negative' with
        | false => exact absurd htext hsigned
        | true => exact ⟨rfl, (List.cons.inj htext).2⟩
  obtain ⟨rfl, hlayout⟩ := hsame
  obtain ⟨rfl, hexponent⟩ := Decimal.eq_of_value_magnitude_eq
    (canonical_of_reading_eq_finite hreading) (canonical_of_reading_eq_finite hreading')
    (NumberFormat.value_eq_of_layout_eq hlayout)
  exact eq_of_reading_eq_finite hreading hreading' hexponent

/-- What a snapshot does not tell apart: equal numbers, and numbers that are not finite. -/
def LooksLike (x y : Number) : Prop :=
  x = y ∨ ¬ x.IsFinite ∧ ¬ y.IsFinite

/-- The number texts that a snapshot can be made of.  Finite numbers are told apart by their
texts, which are neither empty nor `null` and hold none of the characters by which an array
goes on or ends; all other numbers are `null`. -/
structure JsonRendering (render : Number → String) : Prop where
  injective : ∀ x y : Number, x.IsFinite → y.IsFinite → render x = render y → x = y
  null : ∀ x : Number, ¬ x.IsFinite → render x = "null"
  ne_null : ∀ x : Number, x.IsFinite → render x ≠ "null"
  ne_empty : ∀ x : Number, x.IsFinite → render x ≠ ""
  separated : ∀ x : Number, x.IsFinite → ',' ∉ (render x).toList ∧ ']' ∉ (render x).toList

namespace JsonRendering

variable {render : Number → String} (h : JsonRendering render)

include h

/-- Two numbers have the same text exactly when they are equal or both of them are not
finite. -/
theorem eq_iff {x y : Number} : render x = render y ↔ x.LooksLike y := by
  constructor
  · intro heq
    by_cases hx : x.IsFinite
    · by_cases hy : y.IsFinite
      · exact .inl (h.injective x y hx hy heq)
      · exact absurd (heq.trans (h.null y hy)) (h.ne_null x hx)
    · by_cases hy : y.IsFinite
      · exact absurd (heq.symm.trans (h.null x hx)) (h.ne_null y hy)
      · exact .inr ⟨hx, hy⟩
  · rintro (rfl | ⟨hx, hy⟩)
    · rfl
    · rw [h.null x hx, h.null y hy]

theorem not_mem (x : Number) : ',' ∉ (render x).toList ∧ ']' ∉ (render x).toList := by
  by_cases hx : x.IsFinite
  · exact h.separated x hx
  · rw [h.null x hx]
    decide

theorem toList_ne_nil (x : Number) : (render x).toList ≠ [] := by
  rw [Ne, String.toList_eq_nil_iff]
  by_cases hx : x.IsFinite
  · exact h.ne_empty x hx
  · rw [h.null x hx]
    decide

end JsonRendering

theorem render_snapshot_ne_empty {x : Number} (h : x.IsFinite) :
    NumberFormat.snapshot.render x ≠ "" := by
  obtain ⟨negative, significand, exponent, hreading⟩ := h
  obtain ⟨whole, fraction, exponent?, hlayout, hwell, -⟩ :=
    NumberFormat.snapshot.exists_layout_eq (Decimal.magnitude significand exponent)
  rw [Ne, ← String.toList_eq_nil_iff, toList_render_snapshot hreading, hlayout]
  refine List.append_ne_nil_of_right_ne_nil _ ?_
  exact List.append_ne_nil_of_left_ne_nil (Lexeme.chars_ne_nil hwell) _

/-- A snapshot writes its numbers as it should: in the characters of numerals, or as
`null`. -/
theorem jsonRendering_snapshot : JsonRendering NumberFormat.snapshot.render := by
  have hnumeral {x : Number} (hx : x.IsFinite) {c : Char}
      (hc : NumberFormat.isNumeralChar c = false) :
      c ∉ (NumberFormat.snapshot.render x).toList := by
    intro hmem
    rw [isNumeralChar_of_mem_render hx hmem] at hc
    cases hc
  constructor
  case injective => exact fun x y => eq_of_render_snapshot_eq
  case null => exact fun x => render_snapshot_of_not_isFinite
  case ne_null =>
    intro x hx hnull
    have hletter : 'n' ∈ (NumberFormat.snapshot.render x).toList := by
      rw [hnull]
      decide
    exact hnumeral hx rfl hletter
  case ne_empty => exact fun x => render_snapshot_ne_empty
  case separated => exact fun x hx => ⟨hnumeral hx rfl, hnumeral hx rfl⟩

end Number

end LineMachine
