/-!
Texts as lists of characters: sets of code points that decide what a character counts as,
rows of decimal digits with the numbers that they denote, and texts cut at every occurrence
of a separating character.  A text with `n` separators has `n + 1` pieces, some of which may
be empty.
-/

namespace LineMachine.Text

/-- A set of code points as closed ranges, ascending and apart. -/
abbrev CodePoints := List (Nat × Nat)

/-- Membership; the search stops at the first range that lies beyond the code point. -/
def CodePoints.contains : CodePoints → Nat → Bool
  | [], _ => false
  | (first, last) :: rest, n =>
      if n < first then false
      else if n ≤ last then true
      else CodePoints.contains rest n

/-- A member lies within one of the ranges. -/
theorem CodePoints.exists_range_of_contains {ranges : CodePoints} {n : Nat}
    (h : CodePoints.contains ranges n = true) :
    ∃ range ∈ ranges, range.1 ≤ n ∧ n ≤ range.2 := by
  induction ranges with
  | nil => simp [CodePoints.contains] at h
  | cons range rest ih =>
      by_cases before : n < range.1
      · simp [CodePoints.contains, before] at h
      · by_cases within : n ≤ range.2
        · exact ⟨range, by simp, by omega, within⟩
        · simp only [CodePoints.contains, before, within, if_false] at h
          obtain ⟨found, hfound, hbounds⟩ := ih h
          exact ⟨found, List.mem_cons_of_mem _ hfound, hbounds⟩

def digitValue (c : Char) : Nat :=
  c.toNat - '0'.toNat

/-- The number that a row of digits denotes, its first digit the most significant. -/
def digitsValue (digits : List Char) : Nat :=
  digits.foldl (fun value digit => value * 10 + digitValue digit) 0

/-- The number that a text denotes when it is one or more digits and nothing else. -/
def natural? (text : List Char) : Option Nat :=
  if text ≠ [] ∧ text.all Char.isDigit then some (digitsValue text) else none

/-- Leading zeros do not count. -/
theorem digitsValue_zero_cons (digits : List Char) :
    digitsValue ('0' :: digits) = digitsValue digits := by
  simp [digitsValue, digitValue]

theorem natural?_eq_some_iff {text : List Char} {n : Nat} :
    natural? text = some n ↔ text ≠ [] ∧ text.all Char.isDigit = true ∧ digitsValue text = n := by
  unfold natural?
  split
  · rename_i h; simp [h]
  · rename_i h
    constructor
    · intro hnone; cases hnone
    · intro htext; exact absurd ⟨htext.1, htext.2.1⟩ h

example : natural? "0042".toList = some 42 := by decide

example : natural? [] = none := by decide

/-- The pieces of a text with one more character in front. -/
def splitStep (separator c : Char) (pieces : List (List Char)) : List (List Char) :=
  if c = separator then [] :: pieces
  else
    match pieces with
    | [] => [[c]]
    | piece :: rest => (c :: piece) :: rest

/-- The pieces of a text between its separators. -/
def splitOn (separator : Char) (text : List Char) : List (List Char) :=
  text.foldr (splitStep separator) [[]]

theorem splitOn_nil (separator : Char) : splitOn separator [] = [[]] := rfl

theorem splitOn_cons (separator c : Char) (text : List Char) :
    splitOn separator (c :: text) = splitStep separator c (splitOn separator text) := rfl

theorem splitStep_ne_nil (separator c : Char) (pieces : List (List Char)) :
    splitStep separator c pieces ≠ [] := by
  unfold splitStep
  split
  · simp
  · split <;> simp

theorem splitOn_ne_nil (separator : Char) (text : List Char) : splitOn separator text ≠ [] := by
  cases text with
  | nil => simp [splitOn_nil]
  | cons c text => exact splitStep_ne_nil separator c _

/-- A separator between two texts keeps their pieces apart. -/
theorem splitOn_append (separator : Char) (before after : List Char) :
    splitOn separator (before ++ separator :: after) =
      splitOn separator before ++ splitOn separator after := by
  induction before with
  | nil => simp [splitOn_cons, splitOn_nil, splitStep]
  | cons c before ih =>
      rw [List.cons_append, splitOn_cons, ih, splitOn_cons]
      cases hpieces : splitOn separator before with
      | nil => exact absurd hpieces (splitOn_ne_nil separator before)
      | cons piece pieces =>
          by_cases h : c = separator <;> simp [splitStep, h]

theorem splitOn_of_not_mem {separator : Char} {text : List Char} (h : separator ∉ text) :
    splitOn separator text = [text] := by
  induction text with
  | nil => rfl
  | cons c text ih =>
      simp only [List.mem_cons, not_or] at h
      rw [splitOn_cons, ih h.2]
      simp [splitStep, Ne.symm h.1]

/-- A line without the carriage return that it may end with. -/
def dropReturn (line : List Char) : List Char :=
  if line.getLast? = some '\r' then line.dropLast else line

/-- The lines of a text.  A line feed ends a line, alone or behind a carriage return; what
stands behind the last line feed is a line too, unless it is empty. -/
def lines (text : List Char) : List (List Char) :=
  let pieces := splitOn '\n' text
  pieces.dropLast.map dropReturn ++ pieces.getLast?.toList.filter fun rest => !rest.isEmpty

example : lines ['a', '\r', '\n', '\n', 'b', '\r'] = [['a'], [], ['b', '\r']] := by decide

example : lines [] = [] ∧ lines ['\n'] = [[]] := by decide

end LineMachine.Text
