import LineMachine.Proofs.Lexeme.Boundary
import LineMachine.Text.Basic
import LineMachine.Token.Scan

/-!
The cut line by line.  No lexeme reaches over a line feed, so each line of a text is cut
as if it stood alone, and the cut ends on the first line that has a fault when alone.
-/

namespace LineMachine

namespace Text

theorem splitOn_append_of_not_mem {separator : Char} {line : List Char} (h : separator ∉ line)
    (rest : List Char) :
    splitOn separator (line ++ separator :: rest) = line :: splitOn separator rest := by
  rw [splitOn_append, splitOn_of_not_mem h, List.singleton_append]

/-- Pieces joined by a separator: the first one, and each other one behind a separator. -/
theorem intercalate_cons (separator : Char) (first : List Char) (rest : List (List Char)) :
    [separator].intercalate (first :: rest) = first ++ rest.flatMap (separator :: ·) := by
  induction rest generalizing first with
  | nil => simp
  | cons second rest ih => simp [List.intercalate_cons_cons, ih]

/-- Pieces joined by a separator come apart again; no pieces at all are one empty piece. -/
theorem splitOn_intercalate {separator : Char} {pieces : List (List Char)}
    (h : ∀ piece ∈ pieces, separator ∉ piece) :
    splitOn separator ([separator].intercalate pieces) = if pieces = [] then [[]] else pieces := by
  induction pieces with
  | nil => rfl
  | cons first rest ih =>
      rw [List.forall_mem_cons] at h
      rw [if_neg (List.cons_ne_nil first rest)]
      cases rest with
      | nil => rw [List.intercalate_singleton, splitOn_of_not_mem h.1]
      | cons second rest =>
          rw [List.intercalate_cons_cons, List.append_assoc, List.singleton_append,
            splitOn_append_of_not_mem h.1, ih h.2, if_neg (List.cons_ne_nil second rest)]

/-- A text is a single line, or a line, a line feed and further lines. -/
@[elab_as_elim]
theorem lines_induction {motive : List Char → Prop}
    (last : ∀ line, '\n' ∉ line → motive line)
    (line : ∀ line rest, '\n' ∉ line → motive rest → motive (line ++ '\n' :: rest))
    (text : List Char) : motive text := by
  induction hlength : text.length using Nat.strongRecOn generalizing text with
  | _ n ih =>
  by_cases hmem : '\n' ∈ text
  · obtain ⟨before, rest, rfl, hbefore⟩ := List.eq_append_cons_of_mem hmem
    rw [List.length_append, List.length_cons] at hlength
    exact line before rest hbefore (ih rest.length (by omega) rest rfl)
  · exact last text hmem

/-- The pieces of a text at its line feeds hold none. -/
theorem not_mem_of_mem_splitOn {text line : List Char} (h : line ∈ splitOn '\n' text) :
    '\n' ∉ line := by
  induction text using lines_induction with
  | last only honly =>
      rw [splitOn_of_not_mem honly, List.mem_singleton] at h
      exact h ▸ honly
  | line first rest hfirst ih =>
      rw [splitOn_append_of_not_mem hfirst] at h
      rcases List.mem_cons.1 h with rfl | h
      · exact hfirst
      · exact ih h

/-- The first entry of a list with a property. -/
def IsFirst {α : Type} (p : α → Prop) (entries : List α) (i : Nat) : Prop :=
  (∃ entry, entries[i]? = some entry ∧ p entry) ∧
    ∀ j, j < i → ∀ entry, entries[j]? = some entry → ¬ p entry

theorem isFirst_zero {α : Type} {p : α → Prop} {entry : α} {entries : List α} (h : p entry) :
    IsFirst p (entry :: entries) 0 :=
  ⟨⟨entry, rfl, h⟩, fun j hj => absurd hj (Nat.not_lt_zero j)⟩

theorem IsFirst.succ {α : Type} {p : α → Prop} {entry : α} {entries : List α} {i : Nat}
    (h : IsFirst p entries i) (hentry : ¬ p entry) : IsFirst p (entry :: entries) (i + 1) := by
  refine ⟨h.1, ?_⟩
  intro j hj other hother
  cases j with
  | zero =>
      obtain rfl := Option.some.inj hother
      exact hentry
  | succ j => exact h.2 j (Nat.lt_of_succ_lt_succ hj) other hother

end Text

open Text

namespace Lexeme

/-- A line without a fault is cut as it is, and the text after it as if it began there. -/
theorem cut_append_lineFeed {line : List Char} (h : (cut line).2 = none) (rest : List Char) :
    cut (line ++ '\n' :: rest) = ((cut line).1 ++ .lineFeed :: (cut rest).1, (cut rest).2) := by
  induction line using cut_induction with
  | nil =>
      have hfeed : cut (lineFeed.chars ++ rest) = (lineFeed :: (cut rest).1, (cut rest).2) :=
        cut_chars_append trivial trivial
      simpa [cut, chars] using hfeed
  | blocked c tail fault hblocked =>
      rw [cut_of_blocked hblocked] at h
      cases h
  | lexeme lexeme after hwell hends ih =>
      rw [cut_chars_append hwell hends] at h ⊢
      rw [List.append_assoc, cut_chars_append hwell (hends.append_lineFeed rest), ih h,
        List.cons_append]

/-- A line with a fault hides the text after it. -/
theorem cut_append_lineFeed_of_fault {line : List Char} (h : (cut line).2 ≠ none)
    (rest : List Char) :
    ∃ fault, cut (line ++ '\n' :: rest) = ((cut line).1, some fault) := by
  induction line using cut_induction with
  | nil => simp [cut] at h
  | blocked c tail fault hblocked =>
      obtain ⟨fault', hblocked'⟩ := hblocked.append (stopsAt_continues_lineFeed rest)
      exact ⟨fault', by rw [List.cons_append, cut_of_blocked hblocked', cut_of_blocked hblocked]⟩
  | lexeme lexeme after hwell hends ih =>
      rw [cut_chars_append hwell hends] at h ⊢
      obtain ⟨fault, hfault⟩ := ih h
      refine ⟨fault, ?_⟩
      rw [List.append_assoc, cut_chars_append hwell (hends.append_lineFeed rest), hfault]

theorem lineFeed_not_mem_cut {line : List Char} (h : '\n' ∉ line) : lineFeed ∉ (cut line).1 := by
  induction line using cut_induction with
  | nil => simp [cut]
  | blocked c tail fault hblocked => simp [cut_of_blocked hblocked]
  | lexeme lexeme after hwell hends ih =>
      rw [List.mem_append, not_or] at h
      rw [cut_chars_append hwell hends, List.mem_cons, not_or]
      refine ⟨?_, ih h.2⟩
      rintro rfl
      exact h.1 (by simp [chars])

theorem lastLine_append (line : Nat) (before after : List Lexeme) :
    lastLine line (before ++ after) = lastLine (lastLine line before) after :=
  List.foldl_append

theorem lastLine_of_not_mem {lexemes : List Lexeme} (h : lineFeed ∉ lexemes) (line : Nat) :
    lastLine line lexemes = line := by
  induction lexemes with
  | nil => rfl
  | cons lexeme lexemes ih =>
      rw [List.mem_cons, not_or] at h
      rw [lastLine, List.foldl_cons, lineAfter_of_ne (Ne.symm h.1)]
      exact ih h.2

/-- A text is cut to its end exactly when each of its lines is. -/
theorem cut_eq_none_iff_lines {text : List Char} :
    (cut text).2 = none ↔ ∀ line ∈ splitOn '\n' text, (cut line).2 = none := by
  induction text using lines_induction with
  | last line hline => simp [splitOn_of_not_mem hline]
  | line line rest hline ih =>
      rw [splitOn_append_of_not_mem hline, List.forall_mem_cons, ← ih]
      by_cases h : (cut line).2 = none
      · simp [cut_append_lineFeed h, h]
      · obtain ⟨fault, hfault⟩ := cut_append_lineFeed_of_fault h rest
        simp [hfault, h]

/-- The fault of a text stands on the first of its lines that has a fault. -/
theorem lastLine_cut_of_fault {text : List Char} (h : (cut text).2 ≠ none) (first : Nat) :
    ∃ i, IsFirst (fun line => (cut line).2 ≠ none) (splitOn '\n' text) i ∧
      lastLine first (cut text).1 = first + i := by
  induction text using lines_induction generalizing first with
  | last line hline =>
      rw [splitOn_of_not_mem hline]
      exact ⟨0, isFirst_zero h, lastLine_of_not_mem (lineFeed_not_mem_cut hline) first⟩
  | line line rest hline ih =>
      rw [splitOn_append_of_not_mem hline]
      have hkeep := lastLine_of_not_mem (lineFeed_not_mem_cut hline) first
      by_cases hnone : (cut line).2 = none
      · rw [cut_append_lineFeed hnone] at h ⊢
        obtain ⟨i, hfirst, hlast⟩ := ih h (first + 1)
        refine ⟨i + 1, hfirst.succ (by simpa using hnone), ?_⟩
        rw [lastLine_append, hkeep, lastLine, List.foldl_cons, ← lastLine]
        exact hlast.trans (by omega)
      · obtain ⟨fault, hfault⟩ := cut_append_lineFeed_of_fault hnone rest
        rw [hfault]
        exact ⟨0, isFirst_zero hnone, hkeep⟩

def isBlank (c : Char) : Bool :=
  c == ' ' || c == '\t' || c == '\r'

/-- The line holds nothing but blanks, or blanks and a comment. -/
def IsLayout (line : List Char) : Prop :=
  StopsAt (· ≠ '#') (line.dropWhile isBlank)

theorem isLayout_cons_of_isBlank {c : Char} (h : isBlank c = true) (line : List Char) :
    IsLayout (c :: line) ↔ IsLayout line := by
  rw [IsLayout, List.dropWhile_cons, if_pos h, ← IsLayout]

theorem isLayout_cons_of_not_isBlank {c : Char} (h : isBlank c = false) (line : List Char) :
    IsLayout (c :: line) ↔ c = '#' := by
  rw [IsLayout, List.dropWhile_cons, if_neg (by simp [h]), stopsAt_cons]
  simp

/-- A lexeme with a meaning does not begin like layout. -/
theorem not_isLayout_chars_append {lexeme : Lexeme} (hwell : lexeme.WellFormed)
    (hmeaning : lexeme.meaning? ≠ none) (after : List Char) (hfeed : '\n' ∉ lexeme.chars) :
    ¬ IsLayout (lexeme.chars ++ after) := by
  have hhead {c : Char} {tail : List Char} (hblank : isBlank c = false) (hsign : c ≠ '#') :
      ¬ IsLayout (c :: tail) := by
    rw [isLayout_cons_of_not_isBlank hblank]
    exact hsign
  cases lexeme with
  | blank c => exact absurd rfl hmeaning
  | comment body => exact absurd rfl hmeaning
  | lineFeed => simp [chars] at hfeed
  | generalRegister digits => exact hhead (by decide) (by decide)
  | specialRegister letter => exact hhead (by decide) (by decide)
  | number whole fraction =>
      obtain ⟨c, whole, rfl⟩ := List.exists_cons_of_ne_nil hwell.1
      have hdigit := hwell.2.1 c List.mem_cons_self
      have hblank : isBlank c = false := by
        rw [Bool.eq_false_iff]
        intro hblank
        simp only [isBlank, Bool.or_eq_true, beq_iff_eq] at hblank
        rcases hblank with (rfl | rfl) | rfl <;> cases hdigit
      have hsign : c ≠ '#' := by
        rintro rfl
        cases hdigit
      cases fraction <;> exact hhead hblank hsign
  | word letters =>
      obtain ⟨c, letters, rfl⟩ := List.exists_cons_of_ne_nil hwell.1
      have hword := hwell.2.2 c List.mem_cons_self
      have hne {d : Char} (hd : d.toNat < 0x41) : c ≠ d := by
        rintro rfl
        rw [isWordChar_of_lt hd] at hword
        cases hword
      refine hhead ?_ (hne (by decide))
      simp [isBlank, hne (d := ' ') (by decide), hne (d := '\t') (by decide),
        hne (d := '\r') (by decide)]

/-- A comment fills the rest of its line. -/
theorem eq_nil_of_comment_endsBefore {body after : List Char}
    (h : (comment body).EndsBefore after) (hline : '\n' ∉ after) : after = [] := by
  cases after with
  | nil => rfl
  | cons c after =>
      have hc := stopsAt_cons.1 h
      simp only [ne_eq, decide_not, Bool.not_eq_false', decide_eq_true_eq] at hc
      exact absurd (hc ▸ List.mem_cons_self) hline

/-- A line is cut into lexemes without meaning exactly when it is layout. -/
theorem cut_meaningless_iff {line : List Char} (h : '\n' ∉ line) :
    ((cut line).2 = none ∧ ∀ lexeme ∈ (cut line).1, lexeme.meaning? = none) ↔ IsLayout line := by
  induction line using cut_induction with
  | nil => simp [cut, IsLayout, stopsAt_nil]
  | blocked c rest fault hblocked =>
      rw [cut_of_blocked hblocked]
      have hlayout : ¬ IsLayout (c :: rest) := by
        cases fault with
        | register following =>
            rw [hblocked.1, isLayout_cons_of_not_isBlank (by decide)]
            decide
        | unexpected d =>
            obtain ⟨-, hspace, hreturn, htab, -, hsign, -⟩ := hblocked
            rw [isLayout_cons_of_not_isBlank (by simp [isBlank, hspace, hreturn, htab])]
            exact hsign
      simp [hlayout]
  | lexeme lexeme after hwell hends ih =>
      rw [List.mem_append, not_or] at h
      rw [cut_chars_append hwell hends, List.forall_mem_cons]
      by_cases hmeaning : lexeme.meaning? = none
      · cases lexeme with
        | blank c =>
            have hblank : isBlank c = true := by
              rcases hwell with rfl | rfl | rfl <;> rfl
            rw [chars, List.singleton_append, isLayout_cons_of_isBlank hblank, ← ih h.2]
            simp [meaning?]
        | comment body =>
            obtain rfl := eq_nil_of_comment_endsBefore hends h.2
            rw [chars, List.cons_append, isLayout_cons_of_not_isBlank (by decide)]
            simp [cut, meaning?]
        | _ => cases hmeaning
      · have hlayout := not_isLayout_chars_append hwell hmeaning after h.1
        simp [hmeaning, hlayout]

end Lexeme

end LineMachine
