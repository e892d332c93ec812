/-!
# Numerals — number literals and their size

A literal is kept as it is written. Where a document is taken in as a whole, its numbers are read in
double precision and must not be too large for it. Reading keeps the leading digits, as long as the
number that they make fits into 64 bits, and a power of ten; the two are rounded to doubles, and
then their product is. So a literal just below the largest double may be too large, and one just
above it may not be.
-/

namespace Colloquy

/-- A number literal. -/
inductive Numeral where
  /-- A sign and digits. -/
  | whole (negative : Bool) (magnitude : Nat)
  /-- A sign, digits of which the last `places` stand behind the point, and a power of ten. -/
  | scaled (negative : Bool) (digits places : Nat) (exponent : Int)
  deriving DecidableEq, Repr

namespace Numeral

/-- The integer that the literal denotes. Minus zero and numbers with a fraction or an exponent
are not integers. -/
def integer? : Numeral → Option Int
  | .whole false n => some n
  | .whole true 0 => none
  | .whole true n => some (-n)
  | .scaled .. => none

/-- The decimal digits of a number. -/
def decimalDigits (n : Nat) : List Nat :=
  (Nat.toDigits 10 n).map fun c => c.toNat - '0'.toNat

/-- The digits before the point, at least one, and those behind it. -/
def parts (digits places : Nat) : List Nat × List Nat :=
  let all := decimalDigits digits
  let padded := List.replicate (places + 1 - all.length) 0 ++ all
  padded.splitAt (padded.length - places)

/-- Digits read on from a number as long as it fits into 64 bits: the number, and how many digits
are left out. -/
def gather (n : Nat) : List Nat → Nat × Nat
  | [] => (n, 0)
  | d :: ds =>
    if 10 * n + d < Nat.pow 2 64 then gather (10 * n + d) ds else (n, ds.length + 1)

/-- The leading digits of a literal and the power of ten that they count. A digit left out before
the point raises the power, a digit kept behind it lowers it. -/
def leading (digits places : Nat) (exponent : Int) : Nat × Int :=
  let (before, behind) := parts digits places
  let (n, dropped) := gather 0 before
  let (n, left) := gather n behind
  (n, exponent + dropped - (behind.length - left : Nat))

/-- The double nearest to a number, the one with an even last bit if there are two. -/
def nearestDouble (n : Nat) : Nat :=
  let unit := Nat.pow 2 (n.log2 + 1 - 53)
  let lower := n / unit
  let rest := 2 * (n % unit)
  if unit < rest || rest == unit && lower % 2 == 1 then (lower + 1) * unit else lower * unit

/-- Numbers from here on are nearer to the power of two that is no double than to any double. -/
def limit : Nat := Nat.pow 2 1024 - Nat.pow 2 970

/-- Whether a number with a power of ten has a finite value in double precision. -/
def hasDouble (n : Nat) (exponent : Int) : Bool :=
  n == 0 || exponent < 0 ||
    exponent ≤ 308 && nearestDouble n * nearestDouble (Nat.pow 10 exponent.toNat) < limit

/-- Whether the literal is read as a finite number in double precision. -/
def isFinite : Numeral → Bool
  | .whole _ magnitude => let (n, e) := leading magnitude 0 0; hasDouble n e
  | .scaled _ digits places exponent => let (n, e) := leading digits places exponent; hasDouble n e

end Numeral

end Colloquy
