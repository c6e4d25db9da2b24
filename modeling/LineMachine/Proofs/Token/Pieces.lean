import LineMachine.Proofs.Lexeme.Grammar
import Mathlib

/-!
A source text piece by piece.  Each token stands in the text with a gap before it, and the
pieces make up the whole text.  A gap holds blanks and comments and nothing else, and what
a token says can be read off the text: its line, and the value that its characters denote.
-/

namespace LineMachine

open Text

/-- What may stand between tokens, before the given text: blanks, and comments that reach up
to the end of their line. -/
inductive IsGap : List Char → List Char → Prop where
  | nil {after : List Char} : IsGap [] after
  | blank {c : Char} {gap after : List Char} (hblank : c = ' ' ∨ c = '\r' ∨ c = '\t')
      (hgap : IsGap gap after) : IsGap (c :: gap) after
  | comment {body gap after : List Char} (hbody : '\n' ∉ body)
      (hends : StopsAt (· ≠ '\n') (gap ++ after)) (hgap : IsGap gap after) :
      IsGap ('#' :: body ++ gap) after

/-- A gap goes on with what is a gap behind it. -/
theorem IsGap.append {gap more after : List Char} (h : IsGap gap (more ++ after))
    (hmore : IsGap more after) : IsGap (gap ++ more) after := by
  generalize hrest : more ++ after = rest at h
  induction h with
  | nil => exact hmore
  | blank hblank hgap ih => exact .blank hblank (ih hrest)
  | comment hbody hends hgap ih =>
      subst hrest
      rw [List.append_assoc]
      apply IsGap.comment hbody
      · rwa [List.append_assoc]
      · exact ih rfl

theorem IsGap.lineFeed_not_mem {gap after : List Char} (h : IsGap gap after) : '\n' ∉ gap := by
  induction h with
  | nil => exact List.not_mem_nil
  | blank hblank hgap ih =>
      apply List.not_mem_cons_of_ne_of_not_mem _ ih
      rcases hblank with rfl | rfl | rfl <;> decide
  | comment hbody hends hgap ih =>
      rw [List.mem_append, not_or]
      exact ⟨List.not_mem_cons_of_ne_of_not_mem (by decide) hbody, ih⟩

/-- What a token of each kind is written as, and the value that it then has. -/
inductive Denotes : Token.Kind → List Char → Option Token.Value → Prop where
  | lineEnd : Denotes .lineEnd ['\n'] none
  | endOfInput : Denotes .endOfInput [] none
  | whole {digits : List Char} (hne : digits ≠ [])
      (hdigits : ∀ c ∈ digits, c.isDigit = true) :
      Denotes .number digits (some (.number (.ofDecimal (digitsValue digits) 0)))
  | fraction {whole fraction : List Char} (hne : whole ≠ []) (hne' : fraction ≠ [])
      (hwhole : ∀ c ∈ whole, c.isDigit = true) (hfraction : ∀ c ∈ fraction, c.isDigit = true) :
      Denotes .number (whole ++ '.' :: fraction)
        (some (.number (.ofDecimal (digitsValue (whole ++ fraction)) (-(fraction.length : Int)))))
  | index {digits : List Char} (hne : digits ≠ [])
      (hdigits : ∀ c ∈ digits, c.isDigit = true) :
      Denotes .register ('r' :: digits) (some (.index (min (digitsValue digits) 0xFFFFFFFFFFFFFFFF)))
  | special {letter : Char} (hletter : letter = 'v' ∨ letter = 'c') :
      Denotes .register ['r', letter] (some (.special letter))
  | word {letters : List Char} (hne : letters ≠ [])
      (hletters : ∀ c ∈ letters, isWordChar c = true) :
      Denotes .command letters (some (.word (String.ofList letters)))

/-- A lexeme that gives a token is written as such a token is, and denotes its value. -/
theorem denotes_of_meaning? {lexeme : Lexeme} (hwell : lexeme.WellFormed) {kind : Token.Kind}
    {value? : Option Token.Value} (h : lexeme.meaning? = some (kind, value?)) :
    Denotes kind lexeme.chars value? := by
  cases lexeme with
  | blank c => cases h
  | comment body => cases h
  | lineFeed =>
      cases h
      exact .lineEnd
  | generalRegister digits =>
      cases h
      exact .index hwell.1 hwell.2
  | specialRegister letter =>
      cases h
      exact .special hwell
  | number whole fraction =>
      cases h
      cases fraction with
      | nil =>
          rw [List.append_nil]
          exact .whole hwell.1 hwell.2.1
      | cons digit digits =>
          exact .fraction hwell.1 (List.cons_ne_nil digit digits) hwell.2.1 hwell.2.2
  | word letters =>
      cases h
      exact .word hwell.1 hwell.2.2

theorem Denotes.eq_nil_iff {kind : Token.Kind} {text : List Char}
    {value? : Option Token.Value} (h : Denotes kind text value?) :
    text = [] ↔ kind = .endOfInput := by
  cases h with
  | whole hne hdigits => simp [hne]
  | word hne hletters => simp [hne]
  | _ => simp

/-- Line ends are line feeds, and no other token holds one. -/
theorem Denotes.lineEnd_or {kind : Token.Kind} {text : List Char} {value? : Option Token.Value}
    (h : Denotes kind text value?) :
    kind = .lineEnd ∧ text = ['\n'] ∨ kind ≠ .lineEnd ∧ '\n' ∉ text := by
  cases h with
  | lineEnd => exact .inl ⟨rfl, rfl⟩
  | endOfInput => exact .inr ⟨nofun, List.not_mem_nil⟩
  | whole hne hdigits => exact .inr ⟨nofun, lineFeed_not_mem_digits hdigits⟩
  | fraction hne hne' hwhole hfraction =>
      refine .inr ⟨nofun, ?_⟩
      rw [List.mem_append, not_or]
      exact ⟨lineFeed_not_mem_digits hwhole,
        List.not_mem_cons_of_ne_of_not_mem (by decide) (lineFeed_not_mem_digits hfraction)⟩
  | index hne hdigits =>
      exact .inr ⟨nofun,
        List.not_mem_cons_of_ne_of_not_mem (by decide) (lineFeed_not_mem_digits hdigits)⟩
  | special hletter =>
      refine .inr ⟨nofun, ?_⟩
      rcases hletter with rfl | rfl <;> decide
  | word hne hletters => exact .inr ⟨nofun, lineFeed_not_mem_letters hletters⟩

/-- A token and the gap before it. -/
structure Piece where
  gap : List Char
  token : Token

namespace Piece

def text (piece : Piece) : List Char :=
  piece.gap ++ piece.token.lexeme.toList

def textOf (pieces : List Piece) : List Char :=
  pieces.flatMap text

@[simp] theorem textOf_nil : textOf [] = [] := rfl

@[simp] theorem textOf_cons (piece : Piece) (pieces : List Piece) :
    textOf (piece :: pieces) = piece.text ++ textOf pieces := rfl

/-- The pieces of a text cut into lexemes whose first one stands on `line`, behind a gap
that has been begun. -/
def row (gap : List Char) (line : Nat) : List Lexeme → List Piece
  | [] => [⟨gap, .closing line⟩]
  | lexeme :: rest =>
      match lexeme.token? line with
      | some token => ⟨gap, token⟩ :: row [] (lexeme.lineAfter line) rest
      | none => row (gap ++ lexeme.chars) (lexeme.lineAfter line) rest

theorem map_token_row (gap : List Char) (line : Nat) (lexemes : List Lexeme) :
    (row gap line lexemes).map token = Token.ofLexemes line lexemes := by
  induction lexemes generalizing gap line with
  | nil => rfl
  | cons lexeme rest ih =>
      rw [row, Token.ofLexemes]
      cases lexeme.token? line with
      | none => exact ih _ _
      | some token => exact congrArg (token :: ·) (ih _ _)

/-- What is true of a piece between the text before it and the pieces after it. -/
structure Fits (before : List Char) (piece : Piece) (after : List Piece) : Prop where
  gap : IsGap piece.gap (piece.token.lexeme.toList ++ textOf after)
  line : piece.token.line = 1 + (before ++ piece.gap).count '\n'
  denotes : Denotes piece.token.kind piece.token.lexeme.toList piece.token.value?
  last : piece.token.kind = .endOfInput ↔ after = []

/-- The pieces follow one another in a text, behind what stands before them. -/
inductive Follow : List Char → List Piece → Prop where
  | nil : Follow _ []
  | cons {before : List Char} {piece : Piece} {pieces : List Piece}
      (hfits : piece.Fits before pieces) (hpieces : Follow (before ++ piece.text) pieces) :
      Follow before (piece :: pieces)

theorem Follow.fits {start : List Char} {pieces after : List Piece} {piece : Piece}
    (h : Follow start (pieces ++ piece :: after)) :
    piece.Fits (start ++ textOf pieces) after := by
  induction pieces generalizing start with
  | nil =>
      cases h with
      | cons hfits hpieces =>
          rw [textOf_nil, List.append_nil]
          exact hfits
  | cons first pieces ih =>
      cases h with
      | cons hfits hpieces =>
          rw [textOf_cons, ← List.append_assoc]
          exact ih hpieces

theorem row_ne_nil (gap : List Char) (line : Nat) (lexemes : List Lexeme) :
    row gap line lexemes ≠ [] := by
  induction lexemes generalizing gap line with
  | nil => exact nofun
  | cons lexeme rest ih =>
      rw [row]
      cases lexeme.token? line with
      | none => exact ih _ _
      | some token => exact nofun

/-- A lexeme that gives no token is a gap where it ends. -/
theorem isGap_of_meaning?_eq_none {lexeme : Lexeme} {after : List Char}
    (hwell : lexeme.WellFormed) (hends : lexeme.EndsBefore after) (h : lexeme.meaning? = none) :
    IsGap lexeme.chars after := by
  cases lexeme with
  | blank c => exact .blank hwell .nil
  | comment body =>
      rw [← List.append_nil (Lexeme.comment body).chars]
      exact .comment hwell hends .nil
  | _ => cases h

/-- The pieces of a text behind what stands before it follow one another and make up the
text. -/
theorem follow_row {text : List Char} (h : (Lexeme.cut text).2 = none) {before gap : List Char}
    {line : Nat} (hgap : IsGap gap text) (hline : line = 1 + (before ++ gap).count '\n') :
    Follow before (row gap line (Lexeme.cut text).1) ∧
      textOf (row gap line (Lexeme.cut text).1) = gap ++ text := by
  -- What stands before the text grows with each token, the gap with each lexeme without one.
  induction text using Lexeme.cut_induction generalizing before gap line with
  | nil =>
      rw [Lexeme.cut]
      refine ⟨.cons ⟨hgap, hline, .endOfInput, iff_of_true rfl rfl⟩ .nil, ?_⟩
      rw [row, textOf_cons, textOf_nil, List.append_nil]
      rfl
  | blocked c rest fault hblocked =>
      rw [Lexeme.cut_of_blocked hblocked] at h
      cases h
  | lexeme lexeme after hwell hends ih =>
      rw [Lexeme.cut_chars_append hwell hends] at h ⊢
      have hnext : lexeme.lineAfter line = 1 + (before ++ (gap ++ lexeme.chars)).count '\n' := by
        rw [Lexeme.lineAfter_eq hwell, hline, Nat.add_assoc, ← List.count_append,
          List.append_assoc]
      rw [row]
      cases hmeaning : lexeme.meaning? with
      | none =>
          have hgap := hgap.append (isGap_of_meaning?_eq_none hwell hends hmeaning)
          obtain ⟨hfollow, htext⟩ := ih h hgap hnext
          rw [Lexeme.token?, hmeaning]
          exact ⟨hfollow, htext.trans (List.append_assoc _ _ _)⟩
      | some meaning =>
          obtain ⟨kind, value?⟩ := meaning
          have hdenotes := denotes_of_meaning? hwell hmeaning
          rw [← List.append_nil (gap ++ lexeme.chars), ← List.append_assoc] at hnext
          obtain ⟨hfollow, htext⟩ := ih h .nil hnext
          rw [Lexeme.token?, hmeaning]
          simp only [Option.map_some]
          have hpiece : (⟨gap, ⟨kind, String.ofList lexeme.chars, value?, line⟩⟩ : Piece).text =
              gap ++ lexeme.chars := by
            rw [text, String.toList_ofList]
          constructor
          · apply Follow.cons
            · constructor
              · rw [String.toList_ofList, htext]
                exact hgap
              · exact hline
              · rw [String.toList_ofList]
                exact hdenotes
              · rw [← hdenotes.eq_nil_iff]
                exact iff_of_false (Lexeme.chars_ne_nil hwell) (row_ne_nil _ _ _)
            · rw [hpiece]
              exact hfollow
          · rw [textOf_cons, hpiece, htext, List.nil_append, List.append_assoc]

/-- Where the line ends among the pieces stand, counted from where the pieces begin. -/
def lineEnds (start : Nat) : List Piece → List Nat
  | [] => []
  | piece :: rest =>
      if piece.token.kind = .lineEnd then
        (start + piece.gap.length) :: lineEnds (start + piece.text.length) rest
      else lineEnds (start + piece.text.length) rest

theorem idxsOf_of_not_mem {c : Char} {text : List Char} (h : c ∉ text) (start : Nat) :
    text.idxsOf c start = [] := by
  rw [List.idxsOf_eq_nil_iff]
  intro d hd
  rw [beq_eq_false_iff_ne]
  rintro rfl
  exact h hd

/-- The line ends stand where the line feeds of the text are. -/
theorem Follow.lineEnds_eq {before : List Char} {pieces : List Piece} (h : Follow before pieces)
    (start : Nat) : lineEnds start pieces = (textOf pieces).idxsOf '\n' start := by
  induction h generalizing start with
  | nil => rfl
  | @cons before piece pieces hfits hpieces ih =>
      rw [lineEnds, ih, textOf_cons, List.idxsOf_append, text, List.idxsOf_append,
        idxsOf_of_not_mem hfits.gap.lineFeed_not_mem, List.nil_append]
      rcases hfits.denotes.lineEnd_or with ⟨hkind, hlexeme⟩ | ⟨hkind, hlexeme⟩
      · rw [if_pos hkind, hlexeme]
        rfl
      · rw [if_neg hkind, idxsOf_of_not_mem hlexeme, List.nil_append]

end Piece

/-- The tokens of a source text and the gaps between them make up the text.  Every token
stands on the line where its characters are and has the value that they denote; the line
ends are the line feeds of the text, and only the last token ends the input. -/
theorem scan_piece_by_piece {source : String} {tokens : List Token}
    (h : Token.scan source = .ok tokens) :
    ∃ pieces : List Piece, pieces.map Piece.token = tokens ∧
      Piece.textOf pieces = source.toList ∧ pieces ≠ [] ∧
      (∀ before piece after, pieces = before ++ piece :: after →
        piece.Fits (Piece.textOf before) after) ∧
      Piece.lineEnds 0 pieces = source.toList.idxsOf '\n' := by
  have hcut : (Lexeme.cut source.toList).2 = none := Token.exists_scan_ok_iff.1 ⟨tokens, h⟩
  have htokens : Token.ofLexemes 1 (Lexeme.cut source.toList).1 = tokens := by
    rw [Token.scan] at h
    generalize Lexeme.cut source.toList = result at h hcut
    obtain ⟨lexemes, fault?⟩ := result
    cases hcut
    cases h
    rfl
  have hline : 1 = 1 + ([] ++ [] : List Char).count '\n' := rfl
  obtain ⟨hfollow, htext⟩ := Piece.follow_row hcut .nil hline
  refine ⟨Piece.row [] 1 (Lexeme.cut source.toList).1, ?_, htext, Piece.row_ne_nil _ _ _, ?_, ?_⟩
  · rw [Piece.map_token_row, htokens]
  · intro before piece after hpieces
    rw [hpieces] at hfollow
    exact hfollow.fits
  · rw [hfollow.lineEnds_eq, htext, List.nil_append]

/-- A comment and a blank between tokens on two lines. -/
theorem pieces_of_two_lines :
    Token.scan "set 1.5 # x\nrv" =
      .ok [⟨.command, "set", some (.word "set"), 1⟩,
        ⟨.number, "1.5", some (.number (.ofDecimal 15 (-1))), 1⟩, ⟨.lineEnd, "\n", none, 1⟩,
        ⟨.register, "rv", some (.special 'v'), 2⟩, .closing 2] ∧
    ∃ pieces : List Piece,
      pieces.map (·.token.lexeme) = ["set", "1.5", "\n", "rv", ""] ∧
      Piece.textOf pieces = "set 1.5 # x\nrv".toList ∧ Piece.lineEnds 0 pieces = [11] := by
  have hcut : Lexeme.cut "set 1.5 # x\nrv".toList =
      ([.word ['s', 'e', 't'], .blank ' ', .number ['1'] ['5'], .blank ' ', .comment [' ', 'x'],
        .lineFeed, .specialRegister 'v'], none) := by
    cbv
  have hscan : Token.scan "set 1.5 # x\nrv" =
      .ok [⟨.command, "set", some (.word "set"), 1⟩,
        ⟨.number, "1.5", some (.number (.ofDecimal 15 (-1))), 1⟩, ⟨.lineEnd, "\n", none, 1⟩,
        ⟨.register, "rv", some (.special 'v'), 2⟩, .closing 2] := by
    rw [Token.scan, hcut]
    rfl
  obtain ⟨pieces, htokens, htext, -, -, hlineEnds⟩ := scan_piece_by_piece hscan
  refine ⟨hscan, pieces, ?_, htext, ?_⟩
  · have hlexemes := congrArg (List.map Token.lexeme) htokens
    rwa [List.map_map] at hlexemes
  · rw [hlineEnds]
    decide

end LineMachine
