import LineMachine.Lexeme

/-!
Where lexemes begin and end.  A lexeme is cut off exactly when it is well formed and
the text after it does not go on with it; no lexeme is cut off exactly when the first
character begins none.  Both conditions look only at what stands behind the cut.
-/

namespace LineMachine

namespace Text

/-- The text is over, or its first character lacks the property. -/
def StopsAt (p : Char → Bool) (text : List Char) : Prop :=
  ∀ c, text.head? = some c → p c = false

theorem stopsAt_nil (p : Char → Bool) : StopsAt p [] := by
  simp [StopsAt]

theorem stopsAt_cons {p : Char → Bool} {c : Char} {text : List Char} :
    StopsAt p (c :: text) ↔ p c = false := by
  simp [StopsAt]

theorem stopsAt_dropWhile (p : Char → Bool) (text : List Char) :
    StopsAt p (text.dropWhile p) := by
  intro c hc
  have hhead := List.head?_dropWhile_not p text
  rw [hc] at hhead
  exact hhead

/-- A text that stops stops as well when its end is cut off. -/
theorem StopsAt.of_append {p : Char → Bool} {text more : List Char}
    (h : StopsAt p (text ++ more)) : StopsAt p text := by
  cases text with
  | nil => exact stopsAt_nil p
  | cons c text => exact stopsAt_cons.2 (stopsAt_cons.1 h)

/-- A text that stops goes on stopping when what is put behind it stops. -/
theorem StopsAt.append {p : Char → Bool} {text more : List Char}
    (htext : StopsAt p text) (hmore : StopsAt p more) : StopsAt p (text ++ more) := by
  cases text with
  | nil => exact hmore
  | cons c text => exact stopsAt_cons.2 (stopsAt_cons.1 htext)

theorem takeWhile_append_of_stopsAt {p : Char → Bool} {run after : List Char}
    (hrun : ∀ c ∈ run, p c = true) (hafter : StopsAt p after) :
    (run ++ after).takeWhile p = run := by
  rw [List.takeWhile_append_of_pos hrun]
  cases after with
  | nil => simp
  | cons c after => simp [stopsAt_cons.1 hafter]

theorem dropWhile_append_of_stopsAt {p : Char → Bool} {run after : List Char}
    (hrun : ∀ c ∈ run, p c = true) (hafter : StopsAt p after) :
    (run ++ after).dropWhile p = after := by
  rw [List.dropWhile_append_of_pos hrun]
  cases after with
  | nil => rfl
  | cons c after => simp [stopsAt_cons.1 hafter]

theorem dropWhile_of_stopsAt {p : Char → Bool} {text : List Char} (h : StopsAt p text) :
    text.dropWhile p = text :=
  dropWhile_append_of_stopsAt (List.forall_mem_nil _) h

theorem of_mem_takeWhile {p : Char → Bool} {text : List Char} {c : Char}
    (h : c ∈ text.takeWhile p) : p c = true :=
  List.all_eq_true.1 List.all_takeWhile c h

theorem upper_of_lt {c : Char} (h : c.toNat < 0x61) : upper c = [c] := by
  have hexpansion : expansionIn? c.toNat uppercaseExpansions = none := by
    rw [uppercaseExpansions, expansionIn?, if_pos (by omega)]
  have himage : imageIn? c.toNat uppercaseRuns = none := by
    rw [uppercaseRuns, imageIn?, if_pos h]
  simp only [upper, CaseMap.map, uppercase, hexpansion, himage]

theorem lower_of_lt {c : Char} (h : c.toNat < 0x41) : lower c = [c] := by
  have hexpansion : expansionIn? c.toNat lowercaseExpansions = none := by
    rw [lowercaseExpansions, expansionIn?, if_pos (by omega)]
  have himage : imageIn? c.toNat lowercaseRuns = none := by
    rw [lowercaseRuns, imageIn?, if_pos h]
  simp only [lower, CaseMap.map, lowercase, hexpansion, himage]

end Text

open Text

/-- Nothing before the first capital is a letter. -/
theorem isWordChar_of_lt {c : Char} (h : c.toNat < 0x41) : isWordChar c = false := by
  simp [isWordChar, upper_of_lt (show c.toNat < 0x61 by omega), lower_of_lt h]

theorem isWordChar_of_isDigit {c : Char} (h : c.isDigit = true) : isWordChar c = false := by
  apply isWordChar_of_lt
  simp only [Char.isDigit, ge_iff_le, Bool.and_eq_true, decide_eq_true_eq] at h
  have hval : c.val.toNat ≤ '9'.val.toNat := UInt32.le_iff_toNat_le.1 h.2
  exact Nat.lt_of_le_of_lt hval (by decide)

theorem lineFeed_not_mem_digits {digits : List Char} (h : ∀ c ∈ digits, c.isDigit = true) :
    '\n' ∉ digits :=
  fun hmem => absurd (h _ hmem) (by decide)

theorem lineFeed_not_mem_letters {letters : List Char} (h : ∀ c ∈ letters, isWordChar c = true) :
    '\n' ∉ letters := by
  intro hmem
  have hword := h _ hmem
  rw [isWordChar_of_lt (by decide)] at hword
  cases hword

namespace Lexeme

/-- What a lexeme of each kind may be made of. -/
def WellFormed : Lexeme → Prop
  | .blank c => c = ' ' ∨ c = '\r' ∨ c = '\t'
  | .comment body => '\n' ∉ body
  | .lineFeed => True
  | .generalRegister digits => digits ≠ [] ∧ ∀ c ∈ digits, c.isDigit = true
  | .specialRegister letter => letter = 'v' ∨ letter = 'c'
  | .number whole fraction =>
      whole ≠ [] ∧ (∀ c ∈ whole, c.isDigit = true) ∧ ∀ c ∈ fraction, c.isDigit = true
  | .word letters =>
      letters ≠ [] ∧ letters.head? ≠ some 'r' ∧ ∀ c ∈ letters, isWordChar c = true

/-- The text does not begin with a point and a digit. -/
def NoFraction (text : List Char) : Prop :=
  ∀ digit rest, text = '.' :: digit :: rest → digit.isDigit = false

/-- The text after a lexeme does not go on with it. -/
def EndsBefore : Lexeme → List Char → Prop
  | .blank _, _ | .lineFeed, _ | .specialRegister _, _ => True
  | .comment _, after => StopsAt (· ≠ '\n') after
  | .generalRegister _, after => StopsAt Char.isDigit after
  | .number _ [], after => StopsAt Char.isDigit after ∧ NoFraction after
  | .number _ (_ :: _), after => StopsAt Char.isDigit after
  | .word _, after => StopsAt isWordChar after

/-- What ends before a text also ends before its beginning. -/
theorem EndsBefore.of_append {lexeme : Lexeme} {after more : List Char}
    (h : lexeme.EndsBefore (after ++ more)) : lexeme.EndsBefore after := by
  cases lexeme with
  | blank c => trivial
  | lineFeed => trivial
  | specialRegister letter => trivial
  | comment body => exact StopsAt.of_append h
  | generalRegister digits => exact StopsAt.of_append h
  | word letters => exact StopsAt.of_append h
  | number whole fraction =>
      cases fraction with
      | cons digit digits => exact StopsAt.of_append h
      | nil =>
          refine ⟨StopsAt.of_append h.1, ?_⟩
          rintro digit rest rfl
          exact h.2 digit (rest ++ more) rfl

/-- The character can go on with a lexeme that is no comment. -/
def continues (c : Char) : Bool :=
  c.isDigit || isWordChar c || c == '.'

theorem continues_eq_false_iff {c : Char} :
    continues c = false ↔ c.isDigit = false ∧ isWordChar c = false ∧ c ≠ '.' := by
  simp [continues, and_assoc]

/-- A text put behind another one goes on with no lexeme that ends before that one, if its
first character goes on with none. -/
theorem EndsBefore.append {lexeme : Lexeme} {after more : List Char}
    (h : lexeme.EndsBefore after) (hmore : StopsAt continues more)
    (hcomment : ∀ body, lexeme = .comment body → StopsAt (· ≠ '\n') more) :
    lexeme.EndsBefore (after ++ more) := by
  have hdigit : StopsAt Char.isDigit more :=
    fun c hc => (continues_eq_false_iff.1 (hmore c hc)).1
  have hword : StopsAt isWordChar more :=
    fun c hc => (continues_eq_false_iff.1 (hmore c hc)).2.1
  cases lexeme with
  | blank c => trivial
  | lineFeed => trivial
  | specialRegister letter => trivial
  | comment body => exact StopsAt.append h (hcomment body rfl)
  | generalRegister digits => exact StopsAt.append h hdigit
  | word letters => exact StopsAt.append h hword
  | number whole fraction =>
      cases fraction with
      | cons digit digits => exact StopsAt.append h hdigit
      | nil =>
          refine ⟨StopsAt.append h.1 hdigit, ?_⟩
          intro digit rest heq
          match after, h, heq with
          | [], _, heq =>
              obtain rfl : more = '.' :: digit :: rest := heq
              exact absurd rfl (continues_eq_false_iff.1 (hmore '.' rfl)).2.2
          | ['.'], _, heq =>
              obtain rfl : more = digit :: rest := (List.cons.inj heq).2
              exact hdigit digit rfl
          | c :: d :: after, h, heq =>
              cases heq
              exact h.2 digit after rfl

theorem stopsAt_continues_lineFeed (more : List Char) : StopsAt continues ('\n' :: more) :=
  stopsAt_cons.2 (continues_eq_false_iff.2 ⟨by decide, isWordChar_of_lt (by decide), by decide⟩)

/-- A line feed put behind a text goes on with no lexeme that ends before the text. -/
theorem EndsBefore.append_lineFeed {lexeme : Lexeme} {after : List Char} (more : List Char)
    (h : lexeme.EndsBefore after) : lexeme.EndsBefore (after ++ '\n' :: more) :=
  h.append (stopsAt_continues_lineFeed more) fun _ _ => stopsAt_cons.2 (by simp)

theorem wellFormed_cutRegister {rest after : List Char} {lexeme : Lexeme}
    (h : cutRegister rest = .ok (lexeme, after)) : lexeme.WellFormed ∧ lexeme.EndsBefore after := by
  unfold cutRegister at h
  split at h
  · rename_i digit digits hdigits
    cases h
    refine ⟨⟨List.cons_ne_nil digit digits, ?_⟩, stopsAt_dropWhile Char.isDigit rest⟩
    intro c hc
    rw [← hdigits] at hc
    exact of_mem_takeWhile hc
  · split at h
    · cases h
    · split at h
      · rename_i hletter
        cases h
        exact ⟨hletter, trivial⟩
      · cases h

theorem wellFormed_cutNumber (whole rest : List Char) (hne : whole ≠ [])
    (hwhole : ∀ c ∈ whole, c.isDigit = true) (hrest : StopsAt Char.isDigit rest) :
    (cutNumber whole rest).1.WellFormed ∧
      (cutNumber whole rest).1.EndsBefore (cutNumber whole rest).2 := by
  unfold cutNumber
  split
  · rename_i digit after
    split
    · rename_i hdigit
      refine ⟨⟨hne, hwhole, ?_⟩, stopsAt_dropWhile Char.isDigit after⟩
      intro c hc
      rcases List.mem_cons.1 hc with rfl | hc
      · exact hdigit
      · exact of_mem_takeWhile hc
    · rename_i hdigit
      refine ⟨⟨hne, hwhole, by simp⟩, hrest, ?_⟩
      intro other after' heq
      cases heq
      simpa using hdigit
  · rename_i hshape
    refine ⟨⟨hne, hwhole, by simp⟩, hrest, ?_⟩
    rintro digit after rfl
    exact absurd rfl (hshape digit after)

theorem wellFormed_next {c : Char} {rest after : List Char} {lexeme : Lexeme}
    (h : next c rest = .ok (lexeme, after)) : lexeme.WellFormed ∧ lexeme.EndsBefore after := by
  unfold next at h
  split at h
  · rename_i hblank
    cases h
    exact ⟨hblank, trivial⟩
  split at h
  · cases h
    exact ⟨trivial, trivial⟩
  split at h
  · cases h
    refine ⟨fun hmem => ?_, stopsAt_dropWhile _ rest⟩
    have hne := of_mem_takeWhile hmem
    simp at hne
  split at h
  · exact wellFormed_cutRegister h
  rename_i hr
  split at h
  · rename_i hdigit
    have hwhole : ∀ d ∈ c :: rest.takeWhile Char.isDigit, d.isDigit = true := by
      intro d hd
      rcases List.mem_cons.1 hd with rfl | hd
      · exact hdigit
      · exact of_mem_takeWhile hd
    have hnumber := wellFormed_cutNumber (c :: rest.takeWhile Char.isDigit)
      (rest.dropWhile Char.isDigit) (List.cons_ne_nil c _) hwhole
      (stopsAt_dropWhile Char.isDigit rest)
    rw [Except.ok.injEq] at h
    rw [h] at hnumber
    exact hnumber
  split at h
  · rename_i hword
    cases h
    refine ⟨⟨List.cons_ne_nil c _, by simpa using hr, ?_⟩, stopsAt_dropWhile isWordChar rest⟩
    intro d hd
    rcases List.mem_cons.1 hd with rfl | hd
    · exact hword
    · exact of_mem_takeWhile hd
  · cases h

theorem next_of_isDigit {c : Char} (h : c.isDigit = true) (rest : List Char) :
    next c rest =
      .ok (cutNumber (c :: rest.takeWhile Char.isDigit) (rest.dropWhile Char.isDigit)) := by
  have hne {d : Char} (hd : d.isDigit = false) : c ≠ d := by
    rintro rfl
    rw [h] at hd
    cases hd
  simp [next, h, hne (d := ' ') (by decide), hne (d := '\r') (by decide),
    hne (d := '\t') (by decide), hne (d := '\n') (by decide), hne (d := '#') (by decide),
    hne (d := 'r') (by decide)]

theorem next_of_isWordChar {c : Char} (h : isWordChar c = true) (hr : c ≠ 'r')
    (rest : List Char) :
    next c rest = .ok (.word (c :: rest.takeWhile isWordChar), rest.dropWhile isWordChar) := by
  have hne {d : Char} (hd : d.toNat < 0x41) : c ≠ d := by
    rintro rfl
    rw [isWordChar_of_lt hd] at h
    cases h
  have hdigit : ¬ c.isDigit = true := by
    intro hdigit
    rw [isWordChar_of_isDigit hdigit] at h
    cases h
  simp [next, h, hr, hdigit, hne (d := ' ') (by decide), hne (d := '\r') (by decide),
    hne (d := '\t') (by decide), hne (d := '\n') (by decide), hne (d := '#') (by decide)]

theorem cutRegister_digits {digits after : List Char} (hne : digits ≠ [])
    (hdigits : ∀ c ∈ digits, c.isDigit = true) (hafter : StopsAt Char.isDigit after) :
    cutRegister (digits ++ after) = .ok (.generalRegister digits, after) := by
  obtain ⟨digit, rest, rfl⟩ := List.exists_cons_of_ne_nil hne
  simp only [cutRegister.eq_def, takeWhile_append_of_stopsAt hdigits hafter,
    dropWhile_append_of_stopsAt hdigits hafter]

theorem cutRegister_letter {letter : Char} (h : letter = 'v' ∨ letter = 'c')
    (after : List Char) :
    cutRegister (letter :: after) = .ok (.specialRegister letter, after) := by
  have hdigit : letter.isDigit = false := by
    rcases h with rfl | rfl <;> decide
  simp [cutRegister, hdigit, h]

theorem cutNumber_whole {whole after : List Char} (h : NoFraction after) :
    cutNumber whole after = (.number whole [], after) := by
  unfold cutNumber
  split
  · rename_i digit rest
    rw [if_neg (by simp [h digit rest rfl])]
  · rfl

theorem cutNumber_fraction {whole after : List Char} {digit : Char} {digits : List Char}
    (hdigits : ∀ c ∈ digit :: digits, c.isDigit = true) (hafter : StopsAt Char.isDigit after) :
    cutNumber whole ('.' :: digit :: digits ++ after) =
      (.number whole (digit :: digits), after) := by
  have hrest : ∀ c ∈ digits, c.isDigit = true := fun c hc => hdigits c (List.mem_cons_of_mem _ hc)
  simp only [cutNumber, List.cons_append, hdigits digit List.mem_cons_self, if_true,
    takeWhile_append_of_stopsAt hrest hafter, dropWhile_append_of_stopsAt hrest hafter]

theorem next_number {c : Char} {whole fraction after : List Char}
    (hwhole : ∀ d ∈ c :: whole, d.isDigit = true) (hfraction : ∀ d ∈ fraction, d.isDigit = true)
    (hafter : (number (c :: whole) fraction).EndsBefore after) :
    next c ((number (c :: whole) fraction).chars.tail ++ after) =
      .ok (.number (c :: whole) fraction, after) := by
  have htail : ∀ d ∈ whole, d.isDigit = true := fun d hd => hwhole d (List.mem_cons_of_mem _ hd)
  rw [next_of_isDigit (hwhole c List.mem_cons_self)]
  cases fraction with
  | nil =>
      rw [chars, List.tail_cons, takeWhile_append_of_stopsAt htail hafter.1,
        dropWhile_append_of_stopsAt htail hafter.1, cutNumber_whole hafter.2]
  | cons digit digits =>
      have hpoint : StopsAt Char.isDigit ('.' :: digit :: digits ++ after) :=
        stopsAt_cons.2 (by decide)
      rw [show (number (c :: whole) (digit :: digits)).chars.tail ++ after =
          whole ++ ('.' :: digit :: digits ++ after) by simp [chars],
        takeWhile_append_of_stopsAt htail hpoint, dropWhile_append_of_stopsAt htail hpoint,
        cutNumber_fraction hfraction hafter]

/-- A lexeme is cut off exactly when it is well formed, makes up the beginning of the
text and ends there. -/
theorem next_eq_ok_iff {c : Char} {rest after : List Char} {lexeme : Lexeme} :
    next c rest = .ok (lexeme, after) ↔
      lexeme.WellFormed ∧ lexeme.EndsBefore after ∧ lexeme.chars ++ after = c :: rest := by
  constructor
  · intro h
    exact ⟨(wellFormed_next h).1, (wellFormed_next h).2, chars_next h⟩
  rintro ⟨hwell, hends, hchars⟩
  cases lexeme with
  | blank d =>
      obtain ⟨rfl, rfl⟩ := List.cons.inj hchars
      exact if_pos hwell
  | lineFeed =>
      obtain ⟨rfl, rfl⟩ := List.cons.inj hchars
      simp [next]
  | comment body =>
      have hbody : ∀ d ∈ body, decide (d ≠ '\n') = true := by
        intro d hd
        simp only [decide_eq_true_eq]
        rintro rfl
        exact hwell hd
      obtain ⟨rfl, rfl⟩ := List.cons.inj hchars
      simp only [next, Char.reduceEq, or_self, if_false, if_true, List.append_eq]
      rw [takeWhile_append_of_stopsAt hbody hends, dropWhile_append_of_stopsAt hbody hends]
  | generalRegister digits =>
      obtain ⟨rfl, rfl⟩ := List.cons.inj hchars
      simp only [next, Char.reduceEq, or_self, if_false, if_true, List.append_eq]
      exact cutRegister_digits hwell.1 hwell.2 hends
  | specialRegister letter =>
      obtain ⟨rfl, rfl⟩ := List.cons.inj hchars
      simp only [next, Char.reduceEq, or_self, if_false, if_true, List.append_eq]
      exact cutRegister_letter hwell after
  | number whole fraction =>
      obtain ⟨d, digits, rfl⟩ := List.exists_cons_of_ne_nil hwell.1
      have hsplit : (number (d :: digits) fraction).chars =
          d :: (number (d :: digits) fraction).chars.tail := by
        cases fraction <;> rfl
      rw [hsplit] at hchars
      obtain ⟨rfl, rfl⟩ := List.cons.inj hchars
      exact next_number hwell.2.1 hwell.2.2 hends
  | word letters =>
      obtain ⟨d, letters, rfl⟩ := List.exists_cons_of_ne_nil hwell.1
      obtain ⟨-, hr, hletters⟩ := hwell
      have htail : ∀ e ∈ letters, isWordChar e = true :=
        fun e he => hletters e (List.mem_cons_of_mem _ he)
      obtain ⟨rfl, rfl⟩ := List.cons.inj hchars
      rw [next_of_isWordChar (hletters d List.mem_cons_self) (by simpa using hr),
        List.append_eq, takeWhile_append_of_stopsAt htail hends,
        dropWhile_append_of_stopsAt htail hends]

/-- No lexeme begins at the character, for the reason given by the fault. -/
def Blocked (c : Char) (rest : List Char) : LexFault → Prop
  | .register following =>
      c = 'r' ∧ following = rest.head? ∧
        ∀ d, rest.head? = some d → d.isDigit = false ∧ d ≠ 'v' ∧ d ≠ 'c'
  | .unexpected d =>
      d = c ∧ c ≠ ' ' ∧ c ≠ '\r' ∧ c ≠ '\t' ∧ c ≠ '\n' ∧ c ≠ '#' ∧ c.isDigit = false ∧
        isWordChar c = false

theorem cutRegister_eq_error_iff {rest : List Char} {fault : LexFault} :
    cutRegister rest = .error fault ↔
      fault = .register rest.head? ∧
        ∀ d, rest.head? = some d → d.isDigit = false ∧ d ≠ 'v' ∧ d ≠ 'c' := by
  cases rest with
  | nil =>
      constructor
      · intro h
        cases h
        simp
      · rintro ⟨rfl, -⟩
        rfl
  | cons c rest =>
      constructor
      · intro h
        unfold cutRegister at h
        split at h
        · cases h
        · rename_i hdigits
          dsimp only at h
          split at h
          · cases h
          · rename_i hletter
            cases h
            refine ⟨rfl, ?_⟩
            intro d hd
            cases hd
            refine ⟨?_, (not_or.1 hletter).1, (not_or.1 hletter).2⟩
            cases hdigit : c.isDigit with
            | false => rfl
            | true => simp [hdigit] at hdigits
      · rintro ⟨rfl, h⟩
        obtain ⟨hdigit, hv, hc⟩ := h c rfl
        simp only [cutRegister.eq_def, List.takeWhile_cons, hdigit, Bool.false_eq_true, if_false,
          hv, hc, or_self, List.head?_cons]

/-- Which faults there are, and where. -/
theorem next_eq_error_iff {c : Char} {rest : List Char} {fault : LexFault} :
    next c rest = .error fault ↔ Blocked c rest fault := by
  by_cases hr : c = 'r'
  · subst hr
    have hnext : next 'r' rest = cutRegister rest := by simp [next]
    rw [hnext, cutRegister_eq_error_iff]
    cases fault with
    | register following => simp [Blocked]
    | unexpected d =>
        have hword : isWordChar 'r' = true := by decide
        simp [Blocked, hword]
  · constructor
    · intro h
      unfold next at h
      split at h
      · cases h
      split at h
      · cases h
      split at h
      · cases h
      split at h
      · cases h
      split at h
      · cases h
      · cases h
        simp_all [Blocked]
    · intro h
      cases fault with
      | register following => exact absurd h.1 hr
      | unexpected d =>
          obtain ⟨rfl, hspace, hreturn, htab, hfeed, hsign, hdigit, hword⟩ := h
          simp [next, hspace, hreturn, htab, hfeed, hsign, hr, hdigit, hword]

/-- What blocks a character blocks it too when the end of the text is cut off. -/
theorem Blocked.of_append {c : Char} {rest more : List Char} {fault : LexFault}
    (h : Blocked c (rest ++ more) fault) : ∃ fault', Blocked c rest fault' := by
  cases fault with
  | unexpected d => exact ⟨.unexpected d, h⟩
  | register following =>
      refine ⟨.register rest.head?, h.1, rfl, fun d hd => h.2.2 d ?_⟩
      cases rest with
      | nil => cases hd
      | cons d' rest => exact hd

/-- What blocks a character blocks it too when a text is put behind that goes on with no
lexeme. -/
theorem Blocked.append {c : Char} {rest more : List Char} {fault : LexFault}
    (h : Blocked c rest fault) (hmore : StopsAt continues more) :
    ∃ fault', Blocked c (rest ++ more) fault' := by
  cases fault with
  | unexpected d => exact ⟨.unexpected d, h⟩
  | register following =>
      refine ⟨.register (rest ++ more).head?, h.1, rfl, fun d hd => ?_⟩
      cases rest with
      | nil =>
          obtain ⟨hdigit, hword, -⟩ := continues_eq_false_iff.1 (hmore d hd)
          refine ⟨hdigit, ?_, ?_⟩
          · rintro rfl
            exact absurd hword (by decide)
          · rintro rfl
            exact absurd hword (by decide)
      | cons d' rest => exact h.2.2 d hd

theorem chars_ne_nil {lexeme : Lexeme} (h : lexeme.WellFormed) : lexeme.chars ≠ [] := by
  cases lexeme with
  | number whole fraction =>
      cases fraction with
      | nil => exact h.1
      | cons digit digits => simp [chars]
  | word letters => exact h.1
  | _ => simp [chars]

/-- Only the line feed lexeme holds a line feed. -/
theorem lineFeed_not_mem_chars {lexeme : Lexeme} (hwell : lexeme.WellFormed)
    (hne : lexeme ≠ .lineFeed) : '\n' ∉ lexeme.chars := by
  cases lexeme with
  | blank c => rcases hwell with rfl | rfl | rfl <;> simp [chars]
  | comment body => exact List.not_mem_cons_of_ne_of_not_mem (by decide) hwell
  | lineFeed => exact absurd rfl hne
  | generalRegister digits => simpa [chars] using lineFeed_not_mem_digits hwell.2
  | specialRegister letter => rcases hwell with rfl | rfl <;> simp [chars]
  | number whole fraction =>
      cases fraction with
      | nil => exact lineFeed_not_mem_digits hwell.2.1
      | cons digit digits =>
          simpa [chars] using ⟨lineFeed_not_mem_digits hwell.2.1,
            by simpa using lineFeed_not_mem_digits hwell.2.2⟩
  | word letters => exact lineFeed_not_mem_letters hwell.2.2

/-- A lexeme that ends where it should is cut off as it is. -/
theorem cut_chars_append {lexeme : Lexeme} {after : List Char} (hwell : lexeme.WellFormed)
    (hends : lexeme.EndsBefore after) :
    cut (lexeme.chars ++ after) = (lexeme :: (cut after).1, (cut after).2) := by
  obtain ⟨c, rest, hchars⟩ := List.exists_cons_of_ne_nil (chars_ne_nil hwell)
  rw [hchars, List.cons_append]
  apply cut_of_next_ok
  rw [next_eq_ok_iff]
  exact ⟨hwell, hends, by rw [hchars, List.cons_append]⟩

theorem cut_of_blocked {c : Char} {rest : List Char} {fault : LexFault}
    (h : Blocked c rest fault) : cut (c :: rest) = ([], some fault) :=
  cut_of_next_error (next_eq_error_iff.2 h)

/-- A text is empty, begins with a character that is blocked, or with a lexeme that is
cut off. -/
@[elab_as_elim]
theorem cut_induction {motive : List Char → Prop} (nil : motive [])
    (blocked : ∀ c rest fault, Blocked c rest fault → motive (c :: rest))
    (lexeme : ∀ (lexeme : Lexeme) (after : List Char), lexeme.WellFormed →
      lexeme.EndsBefore after → motive after → motive (lexeme.chars ++ after))
    (text : List Char) : motive text := by
  induction text using cut.induct with
  | case1 => exact nil
  | case2 c rest fault h => exact blocked c rest fault (next_eq_error_iff.1 h)
  | case3 c rest first after h _ _ _ _ ih =>
      obtain ⟨hwell, hends, hchars⟩ := next_eq_ok_iff.1 h
      rw [← hchars]
      exact lexeme first after hwell hends ih

end Lexeme

end LineMachine
