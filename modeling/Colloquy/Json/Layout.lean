import Colloquy.Json.Basic

/-!
# Writing JSON — one item to a line, indented by two spaces

Empty containers are written on one line, all others one item to a line. In a string the quote, the
backslash and the control characters are escaped, the common ones by a letter; all other characters
stand for themselves.
-/

namespace Colloquy

namespace Json

/-- A hexadecimal digit in lowercase. -/
def hexChar (n : Nat) : Char :=
  if n < 10 then Char.ofNat ('0'.toNat + n) else Char.ofNat ('a'.toNat + (n - 10))

/-- The escape of a UTF-16 unit below 65536. -/
def unitEscape (n : Nat) : List Char :=
  ['\\', 'u', hexChar (n / 0x1000 % 16), hexChar (n / 0x100 % 16), hexChar (n / 0x10 % 16),
    hexChar (n % 16)]

/-- A character as it stands inside a string literal. -/
def escape (c : Char) : List Char :=
  if c = '"' then ['\\', '"']
  else if c = '\\' then ['\\', '\\']
  else if c = '\x08' then ['\\', 'b']
  else if c = '\x0c' then ['\\', 'f']
  else if c = '\n' then ['\\', 'n']
  else if c = '\r' then ['\\', 'r']
  else if c = '\t' then ['\\', 't']
  else if c.toNat < 0x20 then unitEscape c.toNat
  else [c]

/-- A string literal. A literal that denotes no text is written as half a pair. -/
def quote : Option String → List Char
  | some s => '"' :: s.toList.flatMap escape ++ ['"']
  | none => '"' :: unitEscape 0xD800 ++ ['"']

/-- A number literal. -/
def writeNumeral : Numeral → List Char
  | .whole negative n => (if negative then ['-'] else []) ++ (toString n).toList
  | .scaled negative digits places e =>
    let (before, behind) := Numeral.parts digits places
    (if negative then ['-'] else []) ++ before.map Nat.digitChar ++
      (if places = 0 then [] else '.' :: behind.map Nat.digitChar) ++ ['e'] ++ (toString e).toList

/-- A new line with its indentation. -/
def newLine (indent : Nat) : List Char := '\n' :: List.replicate (2 * indent) ' '

mutual

/-- A document that starts at an indentation. -/
def lay (indent : Nat) : Json → List Char
  | .null => "null".toList
  | .bool true => "true".toList
  | .bool false => "false".toList
  | .number n => writeNumeral n
  | .text s => quote s
  | .list [] => ['[', ']']
  | .list (item :: items) =>
    '[' :: newLine (indent + 1) ++ lay (indent + 1) item ++ layItems (indent + 1) items ++
      newLine indent ++ [']']
  | .object [] => ['\x7b', '\x7d']
  | .object ((key, value) :: members) =>
    '\x7b' :: newLine (indent + 1) ++ quote key ++ [':', ' '] ++ lay (indent + 1) value ++
      layMembers (indent + 1) members ++ newLine indent ++ ['\x7d']

/-- The items after the first. -/
def layItems (indent : Nat) : List Json → List Char
  | [] => []
  | item :: items => ',' :: newLine indent ++ lay indent item ++ layItems indent items

/-- The members after the first. -/
def layMembers (indent : Nat) : List (Option String × Json) → List Char
  | [] => []
  | (key, value) :: members =>
    ',' :: newLine indent ++ quote key ++ [':', ' '] ++ lay indent value ++
      layMembers indent members

end

/-- The text of a document. -/
def pretty (j : Json) : String := String.ofList (lay 0 j)

end Json

end Colloquy
