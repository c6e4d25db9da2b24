import LineMachine.Number
import LineMachine.Text.Basic

/-!
The text of an initial stack: one value a line, an integer or else the code point of
the line's first character.  Lines of white space alone count for nothing.  White space is
the Unicode property `White_Space`: 25 characters, among them the line and paragraph
separators and the ideographic space.
-/

namespace LineMachine

namespace Text

/-- The code points with the property `White_Space`. -/
def whiteSpaceRanges : CodePoints :=
  [(0x09, 0x0D), (0x20, 0x20), (0x85, 0x85), (0xA0, 0xA0), (0x1680, 0x1680), (0x2000, 0x200A),
   (0x2028, 0x2029), (0x202F, 0x202F), (0x205F, 0x205F), (0x3000, 0x3000)]

def isWhiteSpace (c : Char) : Bool :=
  whiteSpaceRanges.contains c.toNat

/-- The text without the white space at its two ends. -/
def trim (cs : List Char) : List Char :=
  ((cs.dropWhile isWhiteSpace).reverse.dropWhile isWhiteSpace).reverse

example : (whiteSpaceRanges.map fun range => range.2 + 1 - range.1).sum = 25 := by decide

end Text

namespace Seed

/-- The integers that a line may hold: those of 64 bits with a sign. -/
def isInRange (n : Int) : Bool :=
  decide (-0x8000000000000000 ≤ n) && decide (n ≤ 0x7FFFFFFFFFFFFFFF)

/-- The integer that a line spells, with or without a sign. -/
def integer? (line : List Char) : Option Int :=
  let signed :=
    match line with
    | '-' :: digits => (Text.natural? digits).map fun n => -(n : Int)
    | '+' :: digits => (Text.natural? digits).map Int.ofNat
    | digits => (Text.natural? digits).map Int.ofNat
  signed.filter isInRange

/-- The value of a line without white space around it, unless it is empty. -/
def lineValue? (line : List Char) : Option Number :=
  match line with
  | [] => none
  | c :: _ =>
      match integer? line with
      | some n => some (Number.ofInt n)
      | none => some (Number.ofNat c.toNat)

/-- The values of a text in the order of its lines. -/
def values (text : String) : List Number :=
  (Text.splitOn '\n' text.toList).filterMap fun line => lineValue? (Text.trim line)

example : values "12\n\nA\n-3\n" = [Number.ofInt 12, Number.ofInt 65, Number.ofInt (-3)] := by
  decide +kernel

end Seed

end LineMachine
