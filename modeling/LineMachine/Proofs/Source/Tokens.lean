import LineMachine.Proofs.Source.Lines

/-!
The tokens of a source text line by line.  The line ends among them count its line feeds, the
tokens between two line ends are those of one line, and the tokens that an error names are
those of the first line that is no instruction.
-/

namespace LineMachine

open Text Lexeme

namespace Token

/-- The tokens on a line, without the one that ends it. -/
def lineTokens (tokens : List Token) (number : Nat) : List Token :=
  tokens.filter fun token => token.line == number && !token.isTerminator

theorem le_line_of_mem_ofLexemes {first : Nat} {lexemes : List Lexeme} {token : Token}
    (h : token ∈ ofLexemes first lexemes) : first ≤ token.line := by
  induction lexemes generalizing first with
  | nil =>
      obtain rfl := List.mem_singleton.1 h
      exact Nat.le_refl _
  | cons lexeme rest ih =>
      rw [ofLexemes_cons, List.mem_append, Option.mem_toList] at h
      rcases h with hhere | hrest
      · obtain ⟨meaning, -, rfl⟩ := Option.map_eq_some_iff.1 hhere
        exact Nat.le_refl _
      · have hnext : first ≤ lexeme.lineAfter first := by
          cases lexeme with
          | lineFeed => exact Nat.le_succ first
          | _ => exact Nat.le_refl first
        exact hnext.trans (ih hrest)

section Row

variable {line : List Char} (hline : '\n' ∉ line) (first : Nat)

include hline

theorem countP_row : (row first (cut line).1).countP (·.kind == .lineEnd) = 0 := by
  rw [List.countP_eq_zero]
  intro token htoken hkind
  have hend := not_isTerminator_of_mem_row (lineFeed_not_mem_cut hline) htoken
  rw [isTerminator, hkind] at hend
  cases hend

theorem lineTokens_row : lineTokens (row first (cut line).1) first = row first (cut line).1 := by
  rw [lineTokens, List.filter_eq_self]
  intro token htoken
  have hend := not_isTerminator_of_mem_row (lineFeed_not_mem_cut hline) htoken
  simp [Instruction.line_of_mem_row htoken, hend]

end Row

/-- There are as many lines as line feeds, and one more. -/
theorem lineCount_ofLexemes_cut {text : List Char} (h : (cut text).2 = none) (first : Nat) :
    lineCount (ofLexemes first (cut text).1) = 1 + text.count '\n' := by
  induction text using lines_induction generalizing first with
  | last line hline =>
      rw [ofLexemes_cut_of_not_mem hline, lineCount, List.countP_append, countP_row hline,
        List.count_eq_zero.2 hline]
      rfl
  | line line rest hline ih =>
      obtain ⟨hrest, htokens⟩ := ofLexemes_cut_append hline h first
      have hcount := ih hrest (first + 1)
      rw [lineCount] at hcount ⊢
      rw [htokens, List.countP_append, countP_row hline, List.countP_cons_of_pos rfl,
        List.count_append, List.count_eq_zero.2 hline, List.count_cons_self]
      omega

/-- The tokens on a line are those that the line has alone. -/
theorem lineTokens_ofLexemes_cut {text line : List Char} {i : Nat} (h : (cut text).2 = none)
    (hline : (splitOn '\n' text)[i]? = some line) (first : Nat) :
    lineTokens (ofLexemes first (cut text).1) (first + i) = row (first + i) (cut line).1 := by
  induction text using lines_induction generalizing first i with
  | last only honly =>
      rw [splitOn_of_not_mem honly, List.getElem?_singleton] at hline
      obtain ⟨rfl, rfl⟩ : i = 0 ∧ only = line := by
        split at hline
        · exact ⟨by assumption, Option.some.inj hline⟩
        · cases hline
      rw [Nat.add_zero, ofLexemes_cut_of_not_mem honly, lineTokens, List.filter_append,
        ← lineTokens, lineTokens_row honly]
      simp [closing, isTerminator]
  | line top rest htop ih =>
      obtain ⟨hrest, htokens⟩ := ofLexemes_cut_append htop h first
      rw [splitOn_append_of_not_mem htop] at hline
      rw [htokens, lineTokens, List.filter_append,
        List.filter_cons_of_neg (by simp [isTerminator, lineEnd])]
      cases i with
      | zero =>
          obtain rfl := Option.some.inj hline
          have hlater : (ofLexemes (first + 1) (cut rest).1).filter
              (fun token => token.line == first && !token.isTerminator) = [] := by
            rw [List.filter_eq_nil_iff]
            intro token htoken
            have hle := le_line_of_mem_ofLexemes htoken
            have hne : token.line ≠ first := by omega
            simp [hne]
          rw [Nat.add_zero, hlater, List.append_nil, ← lineTokens, lineTokens_row htop]
      | succ i =>
          have hearlier : (row first (cut top).1).filter
              (fun token => token.line == first + (i + 1) && !token.isTerminator) = [] := by
            rw [List.filter_eq_nil_iff]
            intro token htoken
            simp [Instruction.line_of_mem_row htoken]
          have hlater := ih hrest hline (first + 1)
          rw [Nat.add_right_comm, Nat.add_assoc] at hlater
          rw [hearlier, List.nil_append]
          exact hlater

end Token

open Token Source

namespace Instruction

theorem tokens_of_ofRow_eq_error {tokens : List Token} {error : ParseError}
    (h : ofRow tokens = .error error) : error.tokens = tokens := by
  cases tokens with
  | nil => cases h
  | cons head operands =>
      rw [ofRow] at h
      cases hhead : ofTokens head operands with
      | error fault =>
          rw [hhead] at h
          cases h
          rfl
      | ok instruction =>
          rw [hhead] at h
          cases h

/-- The tokens that a refused text is blamed for are all tokens on its first bad line. -/
theorem firstLine_of_parse_eq_error {source : String} {tokens : List Token} {error : ParseError}
    (hscan : scan source = .ok tokens) (h : parse tokens = .error error) :
    ∃ number, FirstLine source (fun line => ¬ Parses line) number ∧
      error.tokens = lineTokens tokens number := by
  obtain ⟨hcut, rfl⟩ := scan_eq_ok_iff.1 hscan
  rw [parse_ofLexemes_cut hcut] at h
  have hlines := cut_eq_none_iff_lines.1 hcut
  obtain ⟨i, line, alone, hfirst, hline, halone, rfl⟩ := ofLines_eq_error h
  refine ⟨i + 1, firstLine_of_isFirst hfirst ?_, ?_⟩
  · intro line hmem
    rw [parses_ofList_iff (not_mem_of_mem_splitOn hmem) (hlines line hmem)]
    cases ofLine line <;> simp
  · have htokens : alone.tokens = row 1 (cut line).1 := tokens_of_ofRow_eq_error halone
    rw [ParseError.onLine, htokens, ← row_eq_map_onLine, Nat.add_comm i 1,
      lineTokens_ofLexemes_cut hcut hline 1]

end Instruction

end LineMachine
