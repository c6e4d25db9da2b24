/-!
Numbers are binary64 values.  A number is read exactly, as a sign, a whole
significand and a power of two; its rational value, its integer part and the
character it stands for are all taken from that reading.
-/

namespace LineMachine

/-- Registers, literals and stack cells hold binary64 numbers.  There is one
not-a-number, and the two zeros differ. -/
abbrev Number := Float

namespace Number

/-- What a number stands for.  A finite number is
`± significand * 2 ^ exponent`; both zeros have the significand zero. -/
inductive Reading where
  | notANumber
  | infinite (negative : Bool)
  | finite (negative : Bool) (significand : Nat) (exponent : Int)
deriving DecidableEq, Repr

def reading (x : Number) : Reading :=
  match x.toModel.unpack with
  | .notANumber => .notANumber
  | .infinity sign => .infinite (sign == .negative)
  | .zero sign => .finite (sign == .negative) 0 0
  | .finite sign significand exponent _ => .finite (sign == .negative) significand exponent

/-- The rational that a finite number is. -/
def value? (x : Number) : Option Rat :=
  match x.reading with
  | .finite negative significand exponent =>
      let magnitude := (significand : Rat) * (2 : Rat) ^ exponent
      some (if negative then -magnitude else magnitude)
  | _ => none

/-- The whole part of `significand * 2 ^ exponent`. -/
def wholePart (significand : Nat) (exponent : Int) : Nat :=
  if 0 ≤ exponent then significand <<< exponent.toNat
  else significand >>> (-exponent).toNat

/-- A finite number rounded toward zero to an integer. -/
def integerPart? (x : Number) : Option Int :=
  match x.reading with
  | .finite negative significand exponent =>
      let whole : Int := wholePart significand exponent
      some (if negative then -whole else whole)
  | _ => none

/-- The character for whatever is no code point. -/
def replacementChar : Char := '\ufffd'

/-- The character whose code point is the integer part of the number.  A number
that names no character gives the replacement character. -/
def toChar (x : Number) : Char :=
  match x.integerPart? with
  | some (.ofNat n) => if h : n.isValidChar then Char.ofNatAux n h else replacementChar
  | _ => replacementChar

/-- The number nearest to an integer, ties to even. -/
def ofInt (n : Int) : Number :=
  .ofModel (.ofInt n)

def ofNat (n : Nat) : Number :=
  ofInt n

/-- The number nearest to `digits * 10 ^ exponent`, ties to even. -/
def ofDecimal (digits : Nat) (exponent : Int) : Number :=
  .ofModel (.ofScientific digits exponent)

example : (ofDecimal 979 (-1)).toChar = 'a' := by decide +kernel

example : (-ofDecimal 5 (-1)).toChar = '\x00' := by decide +kernel

example : (ofNat 0xD800).toChar = replacementChar := by decide +kernel

end Number

end LineMachine
