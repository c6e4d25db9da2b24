import LineMachine.Proofs.Source.Lines

/-!
Layout at the ends of lines.  Blanks and a comment behind each line of a text, a carriage
return before each line feed among them, change neither the tokens of the text nor the line
of its first fault: nothing on a line goes on with them but a comment, which has no token.
-/

namespace LineMachine

open Text Lexeme Token

namespace Text

/-- The text with a suffix behind each of its lines; the first line has the suffix 0. -/
def extendLines (text : List Char) (suffix : Nat → List Char) : List Char :=
  ['\n'].intercalate ((splitOn '\n' text).mapIdx fun i line => line ++ suffix i)

theorem extendLines_of_not_mem {line : List Char} (h : '\n' ∉ line) (suffix : Nat → List Char) :
    extendLines line suffix = line ++ suffix 0 := by
  rw [extendLines, splitOn_of_not_mem h]
  exact List.intercalate_singleton

theorem extendLines_append {line : List Char} (h : '\n' ∉ line) (rest : List Char)
    (suffix : Nat → List Char) :
    extendLines (line ++ '\n' :: rest) suffix =
      line ++ suffix 0 ++ '\n' :: extendLines rest fun i => suffix (i + 1) := by
  rw [extendLines, extendLines, splitOn_append_of_not_mem h, List.mapIdx_cons]
  cases hlines : splitOn '\n' rest with
  | nil => exact absurd hlines (splitOn_ne_nil '\n' rest)
  | cons second others =>
      rw [List.mapIdx_cons, List.intercalate_cons_cons, List.append_assoc, List.singleton_append]

end Text

namespace Lexeme

/-- A suffix that may stand behind a line: blanks, and a comment perhaps. -/
def IsTrailing (suffix : List Char) : Prop :=
  IsLayout suffix ∧ '\n' ∉ suffix

theorem IsTrailing.stopsAt_continues {suffix : List Char} (h : IsTrailing suffix) :
    StopsAt continues suffix := by
  cases suffix with
  | nil => exact stopsAt_nil _
  | cons c suffix =>
      rw [stopsAt_cons]
      cases hblank : isBlank c with
      | true =>
          simp only [isBlank, Bool.or_eq_true, beq_iff_eq] at hblank
          rcases hblank with (rfl | rfl) | rfl <;> decide
      | false =>
          obtain rfl : c = '#' := (isLayout_cons_of_not_isBlank hblank suffix).1 h.1
          decide

theorem IsTrailing.lineFeed_not_mem_append {line suffix : List Char} (h : IsTrailing suffix)
    (hline : '\n' ∉ line) : '\n' ∉ line ++ suffix := by
  rw [List.mem_append, not_or]
  exact ⟨hline, h.2⟩

/-- What is put behind a line adds no fault to it and no token. -/
theorem cut_append_trailing {line suffix : List Char} (hline : '\n' ∉ line)
    (h : IsTrailing suffix) (number : Nat) :
    ((cut (line ++ suffix)).2 = none ↔ (cut line).2 = none) ∧
      row number (cut (line ++ suffix)).1 = row number (cut line).1 := by
  induction line using cut_induction with
  | nil =>
      obtain ⟨hcut, hmeaning⟩ := (cut_meaningless_iff h.2).2 h.1
      rw [List.nil_append, row_eq_nil_iff.2 hmeaning]
      exact ⟨iff_of_true hcut (by simp [cut]), by simp [cut, row]⟩
  | blocked c rest fault hblocked =>
      obtain ⟨fault', hblocked'⟩ := hblocked.append h.stopsAt_continues
      rw [List.cons_append, cut_of_blocked hblocked', cut_of_blocked hblocked]
      exact ⟨iff_of_false (Option.some_ne_none _) (Option.some_ne_none _), rfl⟩
  | lexeme lexeme after hwell hends ih =>
      rw [List.mem_append, not_or] at hline
      by_cases hcomment : ∃ body, lexeme = .comment body
      · -- The comment takes in what is put behind it.
        obtain ⟨body, rfl⟩ := hcomment
        obtain rfl := eq_nil_of_comment_endsBefore hends hline.2
        have hlonger : (comment (body ++ suffix)).WellFormed := h.lineFeed_not_mem_append hwell
        have hchars : (comment body).chars ++ [] ++ suffix =
            (comment (body ++ suffix)).chars ++ [] := by
          simp [chars]
        rw [hchars, cut_chars_append hlonger (stopsAt_nil _), cut_chars_append hwell hends]
        exact ⟨Iff.rfl, rfl⟩
      · have hends' : lexeme.EndsBefore (after ++ suffix) :=
          hends.append h.stopsAt_continues fun body hbody => absurd ⟨body, hbody⟩ hcomment
        obtain ⟨hfault, hrow⟩ := ih hline.2
        rw [List.append_assoc, cut_chars_append hwell hends', cut_chars_append hwell hends,
          row_cons, row_cons, hrow]
        exact ⟨hfault, rfl⟩

/-- What is put behind the lines of a text adds no fault to it and no token. -/
theorem cut_extendLines (text : List Char) {suffix : Nat → List Char}
    (h : ∀ i, IsTrailing (suffix i)) (first : Nat) :
    ((cut (extendLines text suffix)).2 = none ↔ (cut text).2 = none) ∧
      ofLexemes first (cut (extendLines text suffix)).1 = ofLexemes first (cut text).1 := by
  induction text using lines_induction generalizing suffix first with
  | last line hline =>
      have hline' : '\n' ∉ line ++ suffix 0 := (h 0).lineFeed_not_mem_append hline
      obtain ⟨hfault, hrow⟩ := cut_append_trailing hline (h 0) first
      rw [extendLines_of_not_mem hline, ofLexemes_cut_of_not_mem hline,
        ofLexemes_cut_of_not_mem hline', hrow]
      exact ⟨hfault, rfl⟩
  | line line rest hline ih =>
      have hline' : '\n' ∉ line ++ suffix 0 := (h 0).lineFeed_not_mem_append hline
      obtain ⟨hfault, hrow⟩ := cut_append_trailing hline (h 0) first
      rw [extendLines_append hline]
      by_cases hnone : (cut line).2 = none
      · obtain ⟨hrest, htokens⟩ := ih (fun i => h (i + 1)) (first + 1)
        rw [cut_append_lineFeed hnone, cut_append_lineFeed (hfault.2 hnone),
          ofLexemes_append (lineFeed_not_mem_cut hline),
          ofLexemes_append (lineFeed_not_mem_cut hline'), ofLexemes_lineFeed, ofLexemes_lineFeed,
          hrow, htokens]
        exact ⟨hrest, rfl⟩
      · -- The fault hides the lines that follow.
        obtain ⟨fault, hcut⟩ := cut_append_lineFeed_of_fault hnone rest
        obtain ⟨fault', hcut'⟩ := cut_append_lineFeed_of_fault (mt hfault.1 hnone)
          (extendLines rest fun i => suffix (i + 1))
        rw [hcut, hcut', ofLexemes_cut_of_not_mem hline, ofLexemes_cut_of_not_mem hline', hrow]
        exact ⟨iff_of_false (Option.some_ne_none _) (Option.some_ne_none _), rfl⟩

theorem lastLine_cut_extendLines (text : List Char) {suffix : Nat → List Char}
    (h : ∀ i, IsTrailing (suffix i)) (first : Nat) :
    lastLine first (cut (extendLines text suffix)).1 = lastLine first (cut text).1 := by
  -- The closing token tells the line that the cut has reached.
  have hlast := congrArg List.getLast? (cut_extendLines text h first).2
  rw [getLast?_ofLexemes, getLast?_ofLexemes] at hlast
  exact congrArg Token.line (Option.some.inj hlast)

end Lexeme

/-- Layout at the ends of lines is invisible.  A text has the same tokens with it and without
it, and a text that has none is refused on the same line. -/
theorem scan_with_trailing_layout (source : String) {suffix : Nat → List Char}
    (h : ∀ i, IsTrailing (suffix i)) :
    (∀ tokens, scan (String.ofList (extendLines source.toList suffix)) = .ok tokens ↔
        scan source = .ok tokens) ∧
      ∀ error, scan source = .error error →
        ∃ error', scan (String.ofList (extendLines source.toList suffix)) = .error error' ∧
          error.diagnostic.stage = .scanning ∧ error'.diagnostic.stage = .scanning ∧
          error'.diagnostic.line? = error.diagnostic.line? := by
  obtain ⟨hfault, htokens⟩ := cut_extendLines source.toList h 1
  constructor
  · intro tokens
    rw [scan_eq_ok_iff, scan_eq_ok_iff, String.toList_ofList, hfault, htokens]
  · intro error herror
    obtain ⟨hcut, hline⟩ := scan_eq_error_iff.1 herror
    obtain ⟨fault, hcut'⟩ : ∃ fault, (cut (extendLines source.toList suffix)).2 = some fault := by
      rw [← Option.ne_none_iff_exists', ne_eq, hfault, hcut]
      exact nofun
    have hlast := lastLine_cut_extendLines source.toList h 1
    refine ⟨⟨fault, _⟩, scan_eq_error_iff.2 ⟨?_, rfl⟩, rfl, rfl, ?_⟩
    · rwa [String.toList_ofList]
    · rw [String.toList_ofList]
      exact congrArg some (hlast.trans hline.symm)

/-- A carriage return and a comment, behind lines that have tokens and behind a register
without a letter. -/
theorem scan_with_return_and_comment :
    (∀ i, IsTrailing (if i = 0 then ['\r'] else ['\t', '#', 'r'])) ∧
      scan "wrts#1\r\npop\t#r" =
        .ok [⟨.command, "wrts", some (.word "wrts"), 1⟩, lineEnd 1,
          ⟨.command, "pop", some (.word "pop"), 2⟩, closing 2] ∧
      ∃ error, scan "pop\r\ncp r\t#r" = .error error ∧ error.diagnostic.line? = some 2 := by
  have htrailing : ∀ i, IsTrailing (if i = 0 then ['\r'] else ['\t', '#', 'r']) := by
    intro i
    split
    · exact ⟨stopsAt_nil _, by decide⟩
    · exact ⟨stopsAt_cons.2 rfl, by decide⟩
  have hscan : scan "wrts#1\npop" =
      .ok [⟨.command, "wrts", some (.word "wrts"), 1⟩, lineEnd 1,
        ⟨.command, "pop", some (.word "pop"), 2⟩, closing 2] := by
    decide +kernel
  have hrefused : scan "pop\ncp r" = .error ⟨.register none, 2⟩ := by decide +kernel
  obtain ⟨hok, -⟩ := scan_with_trailing_layout "wrts#1\npop" htrailing
  obtain ⟨-, herror⟩ := scan_with_trailing_layout "pop\ncp r" htrailing
  obtain ⟨error, hextended, -, -, hline⟩ := herror _ hrefused
  exact ⟨htrailing, (hok _).2 hscan, error, hextended, hline⟩

end LineMachine
