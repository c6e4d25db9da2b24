import LineMachine.Lexeme

/-!
From source text to tokens.  Blanks and comments give no token; every other lexeme
gives one, marked with the line that it stands on.
-/

namespace LineMachine

namespace Lexeme

/-- Register indices beyond this one are all the same: none of them exists. -/
def largestIndex : Nat := 0xFFFFFFFFFFFFFFFF

/-- What the lexeme stands for as a token: its kind and value, if it gives one. -/
def meaning? : Lexeme → Option (Token.Kind × Option Token.Value)
  | .blank _ | .comment _ => none
  | .lineFeed => some (.lineEnd, none)
  | .generalRegister digits =>
      some (.register, some (.index (min (Text.digitsValue digits) largestIndex)))
  | .specialRegister letter => some (.register, some (.special letter))
  | .number whole fraction =>
      some (.number, some (.number
        (Number.ofDecimal (Text.digitsValue (whole ++ fraction)) (-(fraction.length : Int)))))
  | .word letters => some (.command, some (.word (String.ofList letters)))

/-- The token of a lexeme on a line. -/
def token? (lexeme : Lexeme) (line : Nat) : Option Token :=
  lexeme.meaning?.map fun meaning =>
    ⟨meaning.1, String.ofList lexeme.chars, meaning.2, line⟩

/-- The line after a lexeme that stands on `line`. -/
def lineAfter (lexeme : Lexeme) (line : Nat) : Nat :=
  match lexeme with
  | .lineFeed => line + 1
  | _ => line

theorem lineAfter_of_ne {lexeme : Lexeme} (h : lexeme ≠ .lineFeed) (line : Nat) :
    lexeme.lineAfter line = line := by
  cases lexeme with
  | lineFeed => exact absurd rfl h
  | _ => rfl

/-- The line that the text after the lexemes stands on. -/
def lastLine (line : Nat) (lexemes : List Lexeme) : Nat :=
  lexemes.foldl (fun line lexeme => lexeme.lineAfter line) line

end Lexeme

namespace Token

/-- The token that closes the input. -/
def closing (line : Nat) : Token :=
  ⟨.endOfInput, "", none, line⟩

/-- The tokens of lexemes whose first one stands on `line`. -/
def ofLexemes (line : Nat) : List Lexeme → List Token
  | [] => [closing line]
  | lexeme :: rest =>
      let tokens := ofLexemes (lexeme.lineAfter line) rest
      match lexeme.token? line with
      | some token => token :: tokens
      | none => tokens

/-- All tokens of a source text, or its first fault. -/
def scan (source : String) : Except ScanError (List Token) :=
  match Lexeme.cut source.toList with
  | (lexemes, none) => .ok (ofLexemes 1 lexemes)
  | (lexemes, some fault) => .error ⟨fault, Lexeme.lastLine 1 lexemes⟩

theorem exists_scan_ok_iff {source : String} :
    (∃ tokens, scan source = .ok tokens) ↔ (Lexeme.cut source.toList).2 = none := by
  unfold scan
  rcases Lexeme.cut source.toList with ⟨lexemes, _ | fault⟩ <;> simp

theorem scan_eq_ok_iff {source : String} {tokens : List Token} :
    scan source = .ok tokens ↔
      (Lexeme.cut source.toList).2 = none ∧
        tokens = ofLexemes 1 (Lexeme.cut source.toList).1 := by
  unfold scan
  rcases Lexeme.cut source.toList with ⟨lexemes, _ | fault⟩ <;> simp [eq_comm]

theorem scan_eq_error_iff {source : String} {error : ScanError} :
    scan source = .error error ↔
      (Lexeme.cut source.toList).2 = some error.fault ∧
        error.line = Lexeme.lastLine 1 (Lexeme.cut source.toList).1 := by
  obtain ⟨fault, line⟩ := error
  unfold scan
  rcases Lexeme.cut source.toList with ⟨lexemes, _ | fault'⟩ <;> simp [eq_comm]

end Token

end LineMachine
