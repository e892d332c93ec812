/-!
# Decimal integers — reading digits with an optional sign

A whole number is written as one or more ASCII digits; an integer may have one sign in front.
Leading zeros are allowed. An integer read into a 64-bit word must lie in its range.
-/

namespace Colloquy

namespace Text

/-- The value of an ASCII digit. -/
def digit? (c : Char) : Option Nat := if c.isDigit then some (c.toNat - '0'.toNat) else none

/-- The number that digits denote, read on from the number read so far. -/
def digitsFrom? (n : Nat) : List Char → Option Nat
  | [] => some n
  | c :: cs => (digit? c).bind fun d => digitsFrom? (10 * n + d) cs

/-- The number that one or more digits denote. -/
def natural? : List Char → Option Nat
  | [] => none
  | cs => digitsFrom? 0 cs

/-- The integer that digits with an optional sign denote. -/
def integer? : List Char → Option Int
  | '-' :: cs => (natural? cs).map fun n => -(n : Int)
  | '+' :: cs => (natural? cs).map Int.ofNat
  | cs => (natural? cs).map Int.ofNat

/-- A 64-bit integer, if the integer lies in its range. -/
def int64? (n : Int) : Option Int64 :=
  if Int64.minValue.toInt ≤ n ∧ n ≤ Int64.maxValue.toInt then some (Int64.ofInt n) else none

example : integer? "-007".toList = some (-7) ∧ integer? "+".toList = none := by decide

end Text

end Colloquy
