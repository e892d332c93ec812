import Colloquy.Text.Basic

/-!
# Blank characters — what is trimmed at the edge of a text

A character is blank when it has the Unicode property `White_Space`: the no-break space and the
ideographic space are blank, the zero width space is not. Trimming drops blank characters from
both ends and leaves the inside alone.
-/

namespace Colloquy

namespace Text

/-- The code points with the property `White_Space`. -/
def blankRanges : List (Nat × Nat) :=
  [(0x9, 0xD), (0x20, 0x20), (0x85, 0x85), (0xA0, 0xA0), (0x1680, 0x1680), (0x2000, 0x200A),
    (0x2028, 0x2029), (0x202F, 0x202F), (0x205F, 0x205F), (0x3000, 0x3000)]

/-- Whether a character counts as blank. -/
def isBlank (c : Char) : Bool := within blankRanges c

/-- Without the blank characters in front. -/
def trimStart (cs : List Char) : List Char := cs.dropWhile isBlank

/-- Without the blank characters at the end. -/
def trimEnd (cs : List Char) : List Char := (cs.reverse.dropWhile isBlank).reverse

/-- Without the blank characters at both ends. -/
def trim (cs : List Char) : List Char := trimEnd (trimStart cs)

/-- A trimmed text. -/
def trimmed (s : String) : String := String.ofList (trim s.toList)

example : isBlank '\u00a0' ∧ isBlank '\u3000' ∧ ¬ isBlank '\u200b' := by decide

example : trim " \t a b \n".toList = "a b".toList := by decide

end Text

end Colloquy
