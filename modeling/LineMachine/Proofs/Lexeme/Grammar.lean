import LineMachine.Proofs.Lexeme.Boundary
import LineMachine.Token.Scan
import Mathlib.Data.List.Chain

/-!
The lexical grammar.  A text may be divided into lexemes in several ways, of which the
cut takes the greedy one.  Greed is harmless for words, but a run of digits that is cut
short can make room for a fraction: `r11.5` is the register `r1` and the number `1.5`
to the grammar, and no text at all to the cut.  Where no run of digits is cut short,
grammar and cut agree, and a text that is refused is refused where its longest accepted
beginning ends.
-/

namespace LineMachine

open Text

namespace Lexeme

/-- A comment goes on up to the end of its line. -/
def FillsLine : Lexeme → List Char → Prop
  | .comment _, after => StopsAt (· ≠ '\n') after
  | _, _ => True

/-- The text divides into the lexemes, whether or not a longer lexeme could have been
taken somewhere. -/
inductive Divides : List Lexeme → List Char → Prop
  | nil : Divides [] []
  | cons {lexeme : Lexeme} {lexemes : List Lexeme} {text : List Char}
      (hwell : lexeme.WellFormed) (hline : lexeme.FillsLine text)
      (hrest : Divides lexemes text) : Divides (lexeme :: lexemes) (lexeme.chars ++ text)

def endsInDigit : Lexeme → Bool
  | .generalRegister _ | .number _ _ => true
  | _ => false

def isNumber : Lexeme → Bool
  | .number _ _ => true
  | _ => false

/-- No number directly follows digits. -/
def Apart (left right : Lexeme) : Prop :=
  left.endsInDigit = true → right.isNumber = false

/-- The text divides into lexemes without a run of digits that is cut short. -/
def Accepted (text : List Char) : Prop :=
  ∃ lexemes, Divides lexemes text ∧ lexemes.IsChain Apart

/-- The longest beginning of the text that the grammar accepts. -/
def LongestAccepted (text part : List Char) : Prop :=
  part <+: text ∧ Accepted part ∧
    ∀ other, other <+: text → Accepted other → other.length ≤ part.length

/-- Accepted texts lexeme by lexeme: where a lexeme ends in a digit, the text after it
does not begin with one. -/
inductive Spelled : List Char → Prop
  | nil : Spelled []
  | cons {lexeme : Lexeme} {text : List Char}
      (hwell : lexeme.WellFormed) (hline : lexeme.FillsLine text)
      (hdigit : lexeme.endsInDigit = true → StopsAt Char.isDigit text)
      (hrest : Spelled text) : Spelled (lexeme.chars ++ text)

/-- A lexeme begins with a digit exactly when it is a number. -/
theorem stopsAt_chars {lexeme : Lexeme} (h : lexeme.WellFormed) (after : List Char) :
    StopsAt Char.isDigit (lexeme.chars ++ after) ↔ lexeme.isNumber = false := by
  cases lexeme with
  | blank c =>
      rcases h with rfl | rfl | rfl <;> simp [chars, isNumber, stopsAt_cons]
  | comment body => simp [chars, isNumber, stopsAt_cons]
  | lineFeed => simp [chars, isNumber, stopsAt_cons]
  | generalRegister digits => simp [chars, isNumber, stopsAt_cons]
  | specialRegister letter => simp [chars, isNumber, stopsAt_cons]
  | number whole fraction =>
      obtain ⟨c, whole, rfl⟩ := List.exists_cons_of_ne_nil h.1
      have hdigit : c.isDigit = true := h.2.1 c List.mem_cons_self
      cases fraction <;> simp [chars, isNumber, stopsAt_cons, hdigit]
  | word letters =>
      obtain ⟨c, letters, rfl⟩ := List.exists_cons_of_ne_nil h.1
      have hword : isWordChar c = true := h.2.2 c List.mem_cons_self
      have hdigit : c.isDigit = false := by
        cases hdigit : c.isDigit with
        | false => rfl
        | true => rw [isWordChar_of_isDigit hdigit] at hword; cases hword
      simp [chars, isNumber, stopsAt_cons, hdigit]

theorem Divides.spelled {lexemes : List Lexeme} {text : List Char}
    (h : Divides lexemes text) (hchain : lexemes.IsChain Apart) : Spelled text := by
  induction h with
  | nil => exact .nil
  | @cons lexeme lexemes text hwell hline hrest ih =>
      have hparts := List.isChain_cons.1 hchain
      refine .cons hwell hline (fun hdigit => ?_) (ih hparts.2)
      cases hrest with
      | nil => exact stopsAt_nil _
      | cons hnext _ _ =>
          rw [stopsAt_chars hnext]
          exact hparts.1 _ (by simp) hdigit

theorem Spelled.accepted {text : List Char} (h : Spelled text) : Accepted text := by
  induction h with
  | nil => exact ⟨[], .nil, .nil⟩
  | @cons lexeme text hwell hline hdigit hrest ih =>
      obtain ⟨lexemes, hdivides, hchain⟩ := ih
      refine ⟨lexeme :: lexemes, .cons hwell hline hdivides, List.isChain_cons.2 ⟨?_, hchain⟩⟩
      intro next hnext hends
      cases hdivides with
      | nil => simp at hnext
      | cons hwell' _ _ =>
          obtain rfl := Option.some.inj hnext
          exact (stopsAt_chars hwell' _).1 (hdigit hends)

theorem accepted_iff_spelled {text : List Char} : Accepted text ↔ Spelled text :=
  ⟨fun ⟨_, hdivides, hchain⟩ => hdivides.spelled hchain, Spelled.accepted⟩

theorem EndsBefore.fillsLine {lexeme : Lexeme} {after : List Char}
    (h : lexeme.EndsBefore after) : lexeme.FillsLine after := by
  cases lexeme with
  | comment body => exact h
  | _ => trivial

theorem EndsBefore.stopsAt {lexeme : Lexeme} {after : List Char}
    (h : lexeme.EndsBefore after) (hdigit : lexeme.endsInDigit = true) :
    StopsAt Char.isDigit after := by
  cases lexeme with
  | generalRegister digits => exact h
  | number whole fraction =>
      cases fraction with
      | nil => exact h.1
      | cons digit digits => exact h
  | _ => cases hdigit

theorem Spelled.noFraction {text : List Char} (h : Spelled text) : NoFraction text := by
  rintro digit rest rfl
  generalize htext : '.' :: digit :: rest = text at h
  cases h with
  | nil => cases htext
  | @cons lexeme text hwell hline hdigit hrest =>
      cases lexeme with
      | blank c =>
          obtain ⟨rfl, -⟩ := List.cons.inj htext
          simp [WellFormed] at hwell
      | comment body => cases htext
      | lineFeed => cases htext
      | generalRegister digits => cases htext
      | specialRegister letter => cases htext
      | number whole fraction =>
          obtain ⟨c, whole, rfl⟩ := List.exists_cons_of_ne_nil hwell.1
          have hpoint : '.' = c := by cases fraction <;> exact (List.cons.inj htext).1
          have hc := hwell.2.1 c List.mem_cons_self
          rw [← hpoint] at hc
          cases hc
      | word letters =>
          obtain ⟨c, letters, rfl⟩ := List.exists_cons_of_ne_nil hwell.1
          have hc := hwell.2.2 c List.mem_cons_self
          rw [← (List.cons.inj htext).1, isWordChar_of_lt (by decide)] at hc
          cases hc

/-- Letters at the beginning of an accepted text can be left to a word before it: a
register then loses its first letter, and what remains of it is a number. -/
theorem Spelled.dropWhile_isWordChar {text : List Char} (h : Spelled text) :
    Spelled (text.dropWhile isWordChar) := by
  induction h with
  | nil => exact .nil
  | @cons lexeme text hwell hline hdigit hrest ih =>
      have hkeep (hstop : StopsAt isWordChar (lexeme.chars ++ text)) :
          Spelled ((lexeme.chars ++ text).dropWhile isWordChar) := by
        rw [dropWhile_of_stopsAt hstop]
        exact .cons hwell hline hdigit hrest
      cases lexeme with
      | blank c =>
          apply hkeep
          rcases hwell with rfl | rfl | rfl <;> exact stopsAt_cons.2 (isWordChar_of_lt (by decide))
      | comment body => exact hkeep (stopsAt_cons.2 (isWordChar_of_lt (by decide)))
      | lineFeed => exact hkeep (stopsAt_cons.2 (isWordChar_of_lt (by decide)))
      | generalRegister digits =>
          have hr : isWordChar 'r' = true := by decide
          have hstop : StopsAt isWordChar (digits ++ text) := by
            obtain ⟨c, digits, rfl⟩ := List.exists_cons_of_ne_nil hwell.1
            exact stopsAt_cons.2 (isWordChar_of_isDigit (hwell.2 c List.mem_cons_self))
          have hnumber : Spelled ((number digits []).chars ++ text) :=
            .cons ⟨hwell.1, hwell.2, by simp⟩ trivial (fun _ => hdigit rfl) hrest
          rw [chars, List.cons_append, List.dropWhile_cons, if_pos hr, dropWhile_of_stopsAt hstop]
          exact hnumber
      | specialRegister letter =>
          have hletters : ∀ c ∈ ['r', letter], isWordChar c = true := by
            rcases hwell with rfl | rfl <;> exact List.all_eq_true.1 (by decide)
          rw [chars, List.dropWhile_append_of_pos hletters]
          exact ih
      | number whole fraction =>
          obtain ⟨c, whole, rfl⟩ := List.exists_cons_of_ne_nil hwell.1
          have hc := isWordChar_of_isDigit (hwell.2.1 c List.mem_cons_self)
          apply hkeep
          cases fraction <;> exact stopsAt_cons.2 hc
      | word letters =>
          rw [chars, List.dropWhile_append_of_pos hwell.2.2]
          exact ih

/-- Greed refuses nothing: what is spelled in some way is cut to its end. -/
theorem Spelled.cut_eq_none {text : List Char} (h : Spelled text) : (cut text).2 = none := by
  induction hlength : text.length using Nat.strong_induction_on generalizing text with
  | _ n ih =>
  cases h with
  | nil => simp [cut]
  | @cons lexeme text hwell hline hdigit hrest =>
      rw [List.length_append] at hlength
      have hpos : 0 < lexeme.chars.length := List.length_pos_iff.2 (chars_ne_nil hwell)
      have hends (hword : ∀ letters, lexeme ≠ .word letters) : lexeme.EndsBefore text := by
        cases lexeme with
        | comment body => exact hline
        | generalRegister digits => exact hdigit rfl
        | number whole fraction =>
            cases fraction with
            | nil => exact ⟨hdigit rfl, hrest.noFraction⟩
            | cons digit digits => exact hdigit rfl
        | word letters => exact absurd rfl (hword letters)
        | _ => trivial
      by_cases hword : ∃ letters, lexeme = .word letters
      · obtain ⟨letters, rfl⟩ := hword
        -- The cut may take more letters than the word at hand has.
        have hall : ∀ c ∈ letters ++ text.takeWhile isWordChar, isWordChar c = true := by
          intro c hc
          rcases List.mem_append.1 hc with hc | hc
          · exact hwell.2.2 c hc
          · exact of_mem_takeWhile hc
        have hlonger : (word (letters ++ text.takeWhile isWordChar)).WellFormed := by
          obtain ⟨c, letters, rfl⟩ := List.exists_cons_of_ne_nil hwell.1
          exact ⟨List.cons_ne_nil _ _, hwell.2.1, hall⟩
        have hsplit : (word letters).chars ++ text =
            (word (letters ++ text.takeWhile isWordChar)).chars ++ text.dropWhile isWordChar := by
          simp [chars, List.takeWhile_append_dropWhile]
        rw [hsplit, cut_chars_append hlonger (stopsAt_dropWhile isWordChar text)]
        have hle := length_dropWhile_le isWordChar text
        exact ih _ (by omega) hrest.dropWhile_isWordChar rfl
      · rw [cut_chars_append hwell (hends fun letters heq => hword ⟨letters, heq⟩)]
        exact ih _ (by omega) hrest rfl

/-- The text that lexemes are made of. -/
def textOf (lexemes : List Lexeme) : List Char :=
  lexemes.flatMap chars

/-- The cut takes lexemes from the front of the text up to where one of them is
blocked. -/
theorem textOf_cut (text : List Char) :
    ∃ left, text = textOf (cut text).1 ++ left ∧
      match (cut text).2 with
      | none => left = []
      | some fault => ∃ c rest, left = c :: rest ∧ Blocked c rest fault := by
  induction text using cut_induction with
  | nil => exact ⟨[], by simp [cut, textOf]⟩
  | blocked c rest fault h =>
      rw [cut_of_blocked h]
      exact ⟨c :: rest, rfl, c, rest, rfl, h⟩
  | lexeme lexeme after hwell hends ih =>
      obtain ⟨left, hleft, hfault⟩ := ih
      rw [cut_chars_append hwell hends]
      refine ⟨left, ?_, hfault⟩
      rw [textOf, List.flatMap_cons, List.append_assoc]
      exact congrArg _ hleft

theorem wellFormed_of_mem_cut {text : List Char} {lexeme : Lexeme}
    (h : lexeme ∈ (cut text).1) : lexeme.WellFormed := by
  induction text using cut_induction with
  | nil => simp [cut] at h
  | blocked c rest fault hblocked => simp [cut_of_blocked hblocked] at h
  | lexeme first after hwell hends ih =>
      rw [cut_chars_append hwell hends] at h
      rcases List.mem_cons.1 h with rfl | h
      · exact hwell
      · exact ih h

/-- What has been cut is accepted, whether or not a fault follows. -/
theorem spelled_textOf_cut (text : List Char) : Spelled (textOf (cut text).1) := by
  induction text using cut_induction with
  | nil => simpa [cut, textOf] using Spelled.nil
  | blocked c rest fault h => simpa [cut_of_blocked h, textOf] using Spelled.nil
  | lexeme lexeme after hwell hends ih =>
      rw [cut_chars_append hwell hends]
      obtain ⟨left, hleft, -⟩ := textOf_cut after
      rw [hleft] at hends
      have hends := hends.of_append
      exact .cons hwell hends.fillsLine hends.stopsAt ih

/-- A fault is met as soon as a beginning of the text reaches beyond what has been
cut. -/
theorem cut_ne_none_of_length_lt {part more : List Char} (hfault : (cut (part ++ more)).2 ≠ none)
    (hlength : (textOf (cut (part ++ more)).1).length < part.length) : (cut part).2 ≠ none := by
  generalize htext : part ++ more = text at hfault hlength
  induction text using cut_induction generalizing part with
  | nil => simp [cut] at hfault
  | blocked c rest fault h =>
      cases part with
      | nil => simp at hlength
      | cons d part =>
          obtain ⟨rfl, rfl⟩ := List.cons.inj htext
          obtain ⟨fault', h⟩ := h.of_append
          simp [cut_of_blocked h]
  | lexeme lexeme after hwell hends ih =>
      rw [cut_chars_append hwell hends] at hfault hlength
      simp only [textOf, List.flatMap_cons, List.length_append] at hlength
      -- The beginning holds the first lexeme and more.
      obtain ⟨part', rfl, rfl⟩ : ∃ part', part = lexeme.chars ++ part' ∧ after = part' ++ more := by
        rcases List.append_eq_append_iff.1 htext with ⟨l, hl, -⟩ | ⟨l, hl, hmore⟩
        · rw [hl, List.length_append] at hlength
          omega
        · exact ⟨l, hl, hmore⟩
      rw [cut_chars_append hwell hends.of_append]
      rw [List.length_append] at hlength
      exact ih rfl hfault (Nat.lt_of_add_lt_add_left hlength)

theorem accepted_iff_cut_eq_none {text : List Char} : Accepted text ↔ (cut text).2 = none := by
  rw [accepted_iff_spelled]
  constructor
  · exact Spelled.cut_eq_none
  · intro h
    obtain ⟨left, htext, hleft⟩ := textOf_cut text
    rw [h] at hleft
    dsimp only at hleft
    rw [htext, hleft, List.append_nil]
    exact spelled_textOf_cut text

/-- What is cut off before a fault is the longest beginning that the grammar accepts. -/
theorem longestAccepted_textOf_cut {text : List Char} (h : (cut text).2 ≠ none) :
    LongestAccepted text (textOf (cut text).1) := by
  obtain ⟨left, htext, -⟩ := textOf_cut text
  refine ⟨⟨left, htext.symm⟩, (spelled_textOf_cut text).accepted, ?_⟩
  rintro other ⟨more, rfl⟩ haccepted
  by_contra hlength
  exact cut_ne_none_of_length_lt h (Nat.lt_of_not_le hlength)
    (accepted_iff_cut_eq_none.1 haccepted)

theorem lineAfter_eq {lexeme : Lexeme} (hwell : lexeme.WellFormed) (line : Nat) :
    lexeme.lineAfter line = line + lexeme.chars.count '\n' := by
  by_cases h : lexeme = .lineFeed
  · subst h
    simp [lineAfter, chars]
  · rw [List.count_eq_zero.2 (lineFeed_not_mem_chars hwell h), lineAfter_of_ne h, Nat.add_zero]

/-- The line reached is the line of the beginning and the line feeds on the way. -/
theorem lastLine_eq {lexemes : List Lexeme} (hwell : ∀ lexeme ∈ lexemes, lexeme.WellFormed)
    (line : Nat) : lastLine line lexemes = line + (textOf lexemes).count '\n' := by
  induction lexemes generalizing line with
  | nil => simp [lastLine, textOf]
  | cons lexeme lexemes ih =>
      have hrest := ih (fun l hl => hwell l (List.mem_cons_of_mem _ hl)) (lexeme.lineAfter line)
      rw [lastLine, List.foldl_cons, ← lastLine, hrest,
        lineAfter_eq (hwell lexeme List.mem_cons_self), textOf, textOf, List.flatMap_cons,
        List.count_append, Nat.add_assoc]

end Lexeme

open Lexeme

/-- A source text has tokens exactly when the grammar accepts it; if it has none, the
fault stands on the line where the longest accepted beginning ends. -/
theorem scan_ok_iff_accepted (source : String) :
    ((∃ tokens, Token.scan source = .ok tokens) ↔ Accepted source.toList) ∧
      ∀ error, Token.scan source = .error error →
        ∃ part, LongestAccepted source.toList part ∧ error.diagnostic.stage = .scanning ∧
          error.diagnostic.line? = some (1 + part.count '\n') := by
  refine ⟨Token.exists_scan_ok_iff.trans accepted_iff_cut_eq_none.symm, ?_⟩
  intro error h
  obtain ⟨hfault, hline⟩ := Token.scan_eq_error_iff.1 h
  refine ⟨textOf (cut source.toList).1, longestAccepted_textOf_cut (by simp [hfault]), rfl, ?_⟩
  rw [Token.ScanError.diagnostic, hline, lastLine_eq fun _ => wellFormed_of_mem_cut]

/-- Without the condition on digits the grammar divides texts that have no tokens. -/
theorem not_scan_ok_iff_divides :
    ¬ ((∃ tokens, Token.scan "r11.5" = .ok tokens) ↔
      ∃ lexemes, Divides lexemes "r11.5".toList) := by
  have hone : ∀ c ∈ ['1'], c.isDigit = true := List.all_eq_true.1 (by decide)
  have hfive : ∀ c ∈ ['5'], c.isDigit = true := List.all_eq_true.1 (by decide)
  have heleven : ∀ c ∈ ['1', '1'], c.isDigit = true := List.all_eq_true.1 (by decide)
  have hdivides : Divides [.generalRegister ['1'], .number ['1'] ['5']] "r11.5".toList :=
    .cons ⟨by simp, hone⟩ trivial (.cons ⟨by simp, hone, hfive⟩ trivial .nil)
  have hwell : (generalRegister ['1', '1']).WellFormed := ⟨by simp, heleven⟩
  have hends : (generalRegister ['1', '1']).EndsBefore ['.', '5'] := stopsAt_cons.2 (by decide)
  have hblocked : Blocked '.' ['5'] (.unexpected '.') := ⟨rfl, by decide⟩
  have hcut : cut "r11.5".toList =
      ([.generalRegister ['1', '1']], some (.unexpected '.')) := by
    rw [show "r11.5".toList = (generalRegister ['1', '1']).chars ++ ['.', '5'] from rfl,
      cut_chars_append hwell hends, cut_of_blocked hblocked]
  rintro ⟨-, h⟩
  obtain ⟨tokens, htokens⟩ := h ⟨_, hdivides⟩
  rw [Token.scan, hcut] at htokens
  cases htokens

end LineMachine
