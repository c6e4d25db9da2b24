import LineMachine.Number.Decimal

/-!
The two ways in which numbers are written: by the write operations and listings,
and inside the snapshot of a stopped machine.  Both write a shortest decimal; they
differ in layout and in what they write for the values that have no digits.
-/

namespace LineMachine

/-- The decisions that a way of writing numbers makes. -/
structure NumberFormat where
  /-- Which of two equally near shortest decimals is written. -/
  tie : Tie
  /-- Whether a number with its leading digit at `10 ^ e` is written without an
  exponent. -/
  positional : Int → Bool
  /-- Whether a whole number is written with a fraction, which is then zero. -/
  wholeFraction : Bool
  zero : Bool → String
  infinite : Bool → String
  notANumber : String

namespace NumberFormat

/-- Digits with a point after the first `position` of them; zeros fill up what the
digits do not reach. -/
def layoutPositional (format : NumberFormat) (digits : List Char) (position : Int) :
    List Char :=
  if position ≤ 0 then
    '0' :: '.' :: (List.replicate (-position).toNat '0' ++ digits)
  else
    let places := position.toNat
    if places < digits.length then digits.take places ++ '.' :: digits.drop places
    else
      digits ++ List.replicate (places - digits.length) '0' ++
        (if format.wholeFraction then ['.', '0'] else [])

/-- One digit, the other digits after a point, and a signed power of ten. -/
def layoutScientific (digits : List Char) (exponent : Int) : List Char :=
  let fraction := digits.drop 1
  digits.take 1 ++ (if fraction.isEmpty then [] else '.' :: fraction) ++
    ['e', if exponent < 0 then '-' else '+'] ++ Nat.toDigits 10 exponent.natAbs

def layout (format : NumberFormat) (d : Decimal) : List Char :=
  let digits := Nat.toDigits 10 d.digits
  let position := digits.length + d.exponent
  if format.positional (position - 1) then format.layoutPositional digits position
  else layoutScientific digits (position - 1)

/-- The text of a number. -/
def render (format : NumberFormat) (x : Number) : String :=
  match x.reading with
  | .notANumber => format.notANumber
  | .infinite negative => format.infinite negative
  | .finite negative significand exponent =>
      if significand = 0 then format.zero negative
      else
        let magnitude := format.layout (Decimal.shortest format.tie significand exponent)
        String.ofList (if negative then '-' :: magnitude else magnitude)

/-- Programs write numbers without an exponent and whole numbers without a
fraction; both zeros are `0`. -/
def written : NumberFormat where
  tie := .upward
  positional _ := true
  wholeFraction := false
  zero _ := "0"
  infinite negative := if negative then "-Infinity" else "Infinity"
  notANumber := "NaN"

/-- Snapshots write numbers as JSON: without an exponent from `10 ^ -5` up to
`10 ^ 16`, always with a fraction or an exponent, and `null` for what is not
finite. -/
def snapshot : NumberFormat where
  tie := .toEven
  positional exponent := decide (-5 ≤ exponent) && decide (exponent < 16)
  wholeFraction := true
  zero negative := if negative then "-0.0" else "0.0"
  infinite _ := "null"
  notANumber := "null"

end NumberFormat

/-- The text that the write operations print for a number. -/
def Number.text (x : Number) : String :=
  NumberFormat.written.render x

end LineMachine
