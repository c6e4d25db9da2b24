import LineMachine.Diagnostic

/-!
Lexemes, the smallest parts of a source text, and how a text is cut into them.
The cut is greedy: a run of digits, of letters or of comment text ends only where
the next character does not continue it.
-/

namespace LineMachine

/-- A letter of the command alphabet: its upper and lower case forms differ. -/
def isWordChar (c : Char) : Bool :=
  Text.upper c != Text.lower c

inductive Lexeme where
  /-- A space, tab or carriage return. -/
  | blank (c : Char)
  /-- The text between a number sign and the end of its line. -/
  | comment (body : List Char)
  | lineFeed
  /-- The digits after the letter `r`. -/
  | generalRegister (digits : List Char)
  /-- The letter after the letter `r`. -/
  | specialRegister (letter : Char)
  /-- Digits, and the digits after a point; without a point there are none. -/
  | number (whole fraction : List Char)
  | word (letters : List Char)
deriving DecidableEq, Repr

namespace Lexeme

/-- The characters that a lexeme is made of. -/
def chars : Lexeme → List Char
  | .blank c => [c]
  | .comment body => '#' :: body
  | .lineFeed => ['\n']
  | .generalRegister digits => 'r' :: digits
  | .specialRegister letter => ['r', letter]
  | .number whole [] => whole
  | .number whole fraction => whole ++ '.' :: fraction
  | .word letters => letters

/-- What follows the letter `r`. -/
def cutRegister (rest : List Char) : Except LexFault (Lexeme × List Char) :=
  match rest.takeWhile Char.isDigit with
  | digit :: digits =>
      .ok (.generalRegister (digit :: digits), rest.dropWhile Char.isDigit)
  | [] =>
      match rest with
      | [] => .error (.register none)
      | c :: after =>
          if c = 'v' ∨ c = 'c' then .ok (.specialRegister c, after)
          else .error (.register (some c))

/-- A number from its whole digits on: a point belongs to it only when a digit
follows. -/
def cutNumber (whole rest : List Char) : Lexeme × List Char :=
  match rest with
  | '.' :: digit :: after =>
      if digit.isDigit then
        (.number whole (digit :: after.takeWhile Char.isDigit), after.dropWhile Char.isDigit)
      else (.number whole [], rest)
  | _ => (.number whole [], rest)

/-- The lexeme that begins with `c`, and what is left of the text after it. -/
def next (c : Char) (rest : List Char) : Except LexFault (Lexeme × List Char) :=
  if c = ' ' ∨ c = '\r' ∨ c = '\t' then .ok (.blank c, rest)
  else if c = '\n' then .ok (.lineFeed, rest)
  else if c = '#' then
    .ok (.comment (rest.takeWhile (· ≠ '\n')), rest.dropWhile (· ≠ '\n'))
  else if c = 'r' then cutRegister rest
  else if c.isDigit then
    .ok (cutNumber (c :: rest.takeWhile Char.isDigit) (rest.dropWhile Char.isDigit))
  else if isWordChar c then
    .ok (.word (c :: rest.takeWhile isWordChar), rest.dropWhile isWordChar)
  else .error (.unexpected c)

theorem length_dropWhile_le (p : Char → Bool) (cs : List Char) :
    (cs.dropWhile p).length ≤ cs.length :=
  (List.dropWhile_suffix p).length_le

theorem length_le_of_cutRegister {rest after : List Char} {lexeme : Lexeme}
    (h : cutRegister rest = .ok (lexeme, after)) : after.length ≤ rest.length := by
  unfold cutRegister at h
  split at h
  · cases h; exact length_dropWhile_le _ _
  · split at h
    · cases h
    · split at h
      · cases h; simp
      · cases h

theorem length_cutNumber_le (whole rest : List Char) :
    (cutNumber whole rest).2.length ≤ rest.length := by
  unfold cutNumber
  split
  · split
    · exact Nat.le_trans (length_dropWhile_le _ _) (by simp; omega)
    · exact Nat.le_refl _
  · exact Nat.le_refl _

theorem length_le_of_next {c : Char} {rest after : List Char} {lexeme : Lexeme}
    (h : next c rest = .ok (lexeme, after)) : after.length ≤ rest.length := by
  unfold next at h
  split at h
  · cases h; exact Nat.le_refl _
  split at h
  · cases h; exact Nat.le_refl _
  split at h
  · cases h; exact length_dropWhile_le _ _
  split at h
  · exact length_le_of_cutRegister h
  split at h
  · have hnumber := length_cutNumber_le (c :: rest.takeWhile Char.isDigit)
      (rest.dropWhile Char.isDigit)
    rw [Except.ok.injEq] at h
    rw [h] at hnumber
    exact Nat.le_trans hnumber (length_dropWhile_le _ _)
  split at h
  · cases h; exact length_dropWhile_le _ _
  · cases h

/-- The lexemes of a text up to its first fault, and that fault if there is one. -/
def cut : List Char → List Lexeme × Option LexFault
  | [] => ([], none)
  | c :: rest =>
      match h : next c rest with
      | .error fault => ([], some fault)
      | .ok (lexeme, after) =>
          have : after.length ≤ rest.length := length_le_of_next h
          let (lexemes, fault?) := cut after
          (lexeme :: lexemes, fault?)
termination_by cs => cs.length

theorem cut_of_next_error {c : Char} {rest : List Char} {fault : LexFault}
    (h : next c rest = .error fault) : cut (c :: rest) = ([], some fault) := by
  rw [cut]; split <;> simp_all

theorem cut_of_next_ok {c : Char} {rest after : List Char} {lexeme : Lexeme}
    (h : next c rest = .ok (lexeme, after)) :
    cut (c :: rest) = (lexeme :: (cut after).1, (cut after).2) := by
  rw [cut]; split <;> simp_all

theorem chars_cutRegister {rest after : List Char} {lexeme : Lexeme}
    (h : cutRegister rest = .ok (lexeme, after)) : lexeme.chars ++ after = 'r' :: rest := by
  unfold cutRegister at h
  split at h
  · rename_i digit digits hdigits
    cases h
    simp [chars, ← hdigits, List.takeWhile_append_dropWhile]
  · split at h
    · cases h
    · split at h
      · cases h; simp [chars]
      · cases h

theorem chars_cutNumber (whole rest : List Char) :
    (cutNumber whole rest).1.chars ++ (cutNumber whole rest).2 = whole ++ rest := by
  unfold cutNumber
  split
  · split
    · simp [chars, List.takeWhile_append_dropWhile]
    · simp [chars]
  · simp [chars]

/-- Cutting off a lexeme neither loses nor adds a character. -/
theorem chars_next {c : Char} {rest after : List Char} {lexeme : Lexeme}
    (h : next c rest = .ok (lexeme, after)) : lexeme.chars ++ after = c :: rest := by
  unfold next at h
  split at h
  · cases h; simp [chars]
  split at h
  · rename_i hc; cases h; simp [chars, hc]
  split at h
  · rename_i hc; cases h; simp [chars, hc, List.takeWhile_append_dropWhile]
  split at h
  · rename_i hc; rw [hc]; exact chars_cutRegister h
  split at h
  · have hnumber := chars_cutNumber (c :: rest.takeWhile Char.isDigit)
      (rest.dropWhile Char.isDigit)
    rw [Except.ok.injEq] at h
    rw [h] at hnumber
    simpa [List.takeWhile_append_dropWhile] using hnumber
  split at h
  · cases h; simp [chars, List.takeWhile_append_dropWhile]
  · cases h

end Lexeme

end LineMachine
