import Colloquy.Json.Basic
import Colloquy.Text.Basic
import Colloquy.Text.Decimal

/-!
# JSON tokens — the lexemes of a document

A document is first cut into tokens. Four characters are blank between tokens. Control characters
must be escaped inside a string. A `\u` escape denotes one UTF-16 unit: two units that form a
surrogate pair denote one character, and a half without its other half makes the literal denote
no text.
-/

namespace Colloquy

namespace Json

/-- A lexeme. -/
inductive Token where
  | openBracket
  | closeBracket
  | openBrace
  | closeBrace
  | comma
  | colon
  | null
  | bool (b : Bool)
  | number (n : Numeral)
  | text (s : Option String)
  deriving DecidableEq, Repr

/-- A part of a string literal: a character, or a UTF-16 unit that is half of a pair. -/
inductive Unit16 where
  | char (c : Char)
  | half (n : Nat)
  deriving DecidableEq, Repr

/-- Whether a character is blank between tokens. -/
def isGap (c : Char) : Bool := c = ' ' || c = '\t' || c = '\n' || c = '\r'

/-- The character that a one-letter escape stands for. -/
def escaped? : Char → Option Char
  | '"' => some '"'
  | '\\' => some '\\'
  | '/' => some '/'
  | 'b' => some '\x08'
  | 'f' => some '\x0c'
  | 'n' => some '\n'
  | 'r' => some '\r'
  | 't' => some '\t'
  | _ => none

/-- The value of a hexadecimal digit of either case. -/
def hexDigit? (c : Char) : Option Nat :=
  if '0' ≤ c ∧ c ≤ '9' then some (c.toNat - '0'.toNat)
  else if 'a' ≤ c ∧ c ≤ 'f' then some (c.toNat - 'a'.toNat + 10)
  else if 'A' ≤ c ∧ c ≤ 'F' then some (c.toNat - 'A'.toNat + 10)
  else none

/-- The number of four hexadecimal digits. -/
def hex? (a b c d : Char) : Option Nat := do
  return (((← hexDigit? a) * 16 + (← hexDigit? b)) * 16 + (← hexDigit? c)) * 16 + (← hexDigit? d)

/-- The unit that a number below 65536 denotes. -/
def Unit16.ofNat (n : Nat) : Unit16 :=
  if 0xD800 ≤ n ∧ n < 0xE000 then .half n else .char (Char.ofNat n)

/-- The units of a string literal after its opening quote, and what follows its closing quote. -/
def scanText : List Char → Option (List Unit16 × List Char)
  | [] => none
  | '"' :: rest => some ([], rest)
  | '\\' :: 'u' :: a :: b :: c :: d :: rest => do
    let n ← hex? a b c d
    let (units, rest) ← scanText rest
    return (.ofNat n :: units, rest)
  | '\\' :: e :: rest => do
    let c ← escaped? e
    let (units, rest) ← scanText rest
    return (.char c :: units, rest)
  | c :: rest =>
    if c.toNat < 0x20 then none
    else do
      let (units, rest) ← scanText rest
      return (.char c :: units, rest)

/-- The text of a sequence of units, if every half stands in a pair. -/
def assemble : List Unit16 → Option (List Char)
  | [] => some []
  | .char c :: rest => (assemble rest).map (c :: ·)
  | .half hi :: .half lo :: rest =>
    if hi < 0xDC00 ∧ 0xDC00 ≤ lo then
      (assemble rest).map (Char.ofNat (0x10000 + (hi - 0xD800) * 0x400 + (lo - 0xDC00)) :: ·)
    else none
  | .half _ :: _ => none

/-- The digits in front, which must be at least one, and the rest. -/
def scanDigits (cs : List Char) : Option (List Char × List Char) :=
  if cs.takeWhile Char.isDigit = [] then none
  else some (cs.takeWhile Char.isDigit, cs.dropWhile Char.isDigit)

/-- The number that digits denote. -/
def valueOf (digits : List Char) : Nat := (Text.digitsFrom? 0 digits).getD 0

/-- The fraction digits in front, if there is a point, and the rest. -/
def scanFraction : List Char → Option (Option (List Char) × List Char)
  | '.' :: cs => (scanDigits cs).map fun (ds, rest) => (some ds, rest)
  | cs => some (none, cs)

/-- A signed exponent without its mark, and the rest. -/
def scanSigned : List Char → Option (Int × List Char)
  | '-' :: cs => (scanDigits cs).map fun (ds, rest) => (-(valueOf ds : Int), rest)
  | '+' :: cs => (scanDigits cs).map fun (ds, rest) => ((valueOf ds : Int), rest)
  | cs => (scanDigits cs).map fun (ds, rest) => ((valueOf ds : Int), rest)

/-- The exponent in front, if there is a mark, and the rest. -/
def scanExponent : List Char → Option (Option Int × List Char)
  | c :: cs =>
    if c = 'e' ∨ c = 'E' then (scanSigned cs).map fun (e, rest) => (some e, rest)
    else some (none, c :: cs)
  | [] => some (none, [])

/-- The digits before the point: a zero alone, or digits that do not start with zero. -/
def scanWhole : List Char → Option (List Char × List Char)
  | '0' :: cs => some (['0'], cs)
  | cs => scanDigits cs

/-- The number literal in front after its sign, and the rest. -/
def scanNumber (negative : Bool) (cs : List Char) : Option (Numeral × List Char) := do
  let (whole, cs) ← scanWhole cs
  let (fraction?, cs) ← scanFraction cs
  let (exponent?, cs) ← scanExponent cs
  match fraction?, exponent? with
  | none, none => return (.whole negative (valueOf whole), cs)
  | _, _ =>
    let fraction := fraction?.getD []
    let digits := valueOf (whole ++ fraction)
    return (.scaled negative digits fraction.length (exponent?.getD 0), cs)

/-- The token that starts with a character, and what follows it. -/
def Token.read? (c : Char) (rest : List Char) : Option (Token × List Char) :=
  match c with
  | '[' => some (.openBracket, rest)
  | ']' => some (.closeBracket, rest)
  | '\x7b' => some (.openBrace, rest)
  | '\x7d' => some (.closeBrace, rest)
  | ',' => some (.comma, rest)
  | ':' => some (.colon, rest)
  | '"' => (scanText rest).map fun (units, rest) =>
    (.text ((assemble units).map String.ofList), rest)
  | '-' => (scanNumber true rest).map fun (n, rest) => (.number n, rest)
  | 'n' => (Text.after? "ull".toList rest).map fun rest => (.null, rest)
  | 't' => (Text.after? "rue".toList rest).map fun rest => (.bool true, rest)
  | 'f' => (Text.after? "alse".toList rest).map fun rest => (.bool false, rest)
  | c => (scanNumber false (c :: rest)).map fun (n, rest) => (.number n, rest)

/-! ## A token takes at least one character -/

theorem scanText_length {cs rest : List Char} {units : List Unit16}
    (h : scanText cs = some (units, rest)) : rest.length < cs.length := by
  fun_induction scanText cs generalizing units rest with
  | case1 => simp at h
  | case2 rest' => simp_all
  | case3 a b c d rest' ih =>
    simp only [Option.bind_eq_bind, Option.bind_eq_some_iff, Option.pure_def, Option.some.injEq,
      Prod.mk.injEq, Prod.exists] at h
    obtain ⟨n, -, us, r, hr, -, rfl⟩ := h
    have := ih hr
    simp only [List.length_cons]
    omega
  | case4 e rest' _ ih =>
    simp only [Option.bind_eq_bind, Option.bind_eq_some_iff, Option.pure_def, Option.some.injEq,
      Prod.mk.injEq, Prod.exists] at h
    obtain ⟨n, -, us, r, hr, -, rfl⟩ := h
    have := ih hr
    simp only [List.length_cons]
    omega
  | case5 => simp at h
  | case6 c rest' _ _ _ hc ih =>
    simp only [Option.bind_eq_bind, Option.bind_eq_some_iff, Option.pure_def,
      Option.some.injEq, Prod.mk.injEq, Prod.exists] at h
    obtain ⟨us, r, hr, -, rfl⟩ := h
    have := ih hr
    simp only [List.length_cons]
    omega

theorem scanDigits_length {cs ds rest : List Char} (h : scanDigits cs = some (ds, rest)) :
    rest.length < cs.length := by
  unfold scanDigits at h
  split at h
  · simp at h
  · rename_i hne
    simp only [Option.some.injEq, Prod.mk.injEq] at h
    have hlen :=
      congrArg List.length (List.takeWhile_append_dropWhile (p := Char.isDigit) (l := cs))
    have hpos := List.length_pos_iff.2 hne
    rw [List.length_append, h.2] at hlen
    omega

theorem scanFraction_length {cs rest : List Char} {f : Option (List Char)}
    (h : scanFraction cs = some (f, rest)) : rest.length ≤ cs.length := by
  unfold scanFraction at h
  split at h
  · simp only [Option.map_eq_some_iff, Prod.mk.injEq, Prod.exists] at h
    obtain ⟨ds, r, hr, -, rfl⟩ := h
    have := scanDigits_length hr
    simp only [List.length_cons]
    omega
  · simp_all

theorem scanSigned_length {cs rest : List Char} {e : Int}
    (h : scanSigned cs = some (e, rest)) : rest.length ≤ cs.length := by
  unfold scanSigned at h
  split at h <;> simp only [Option.map_eq_some_iff, Prod.mk.injEq, Prod.exists] at h <;>
    obtain ⟨ds, r, hr, -, rfl⟩ := h <;> have := scanDigits_length hr
  · exact Nat.le_succ_of_le (Nat.le_of_lt this)
  · exact Nat.le_succ_of_le (Nat.le_of_lt this)
  · exact Nat.le_of_lt this

theorem scanExponent_length {cs rest : List Char} {e : Option Int}
    (h : scanExponent cs = some (e, rest)) : rest.length ≤ cs.length := by
  unfold scanExponent at h
  split at h
  · split at h
    · simp only [Option.map_eq_some_iff, Prod.mk.injEq, Prod.exists] at h
      obtain ⟨n, r, hr, -, rfl⟩ := h
      have := scanSigned_length hr
      simp only [List.length_cons]
      omega
    · simp_all
  · simp_all

theorem scanWhole_length {cs ds rest : List Char} (h : scanWhole cs = some (ds, rest)) :
    rest.length < cs.length := by
  unfold scanWhole at h
  split at h
  · simp_all
  · exact scanDigits_length h

theorem scanNumber_length {negative : Bool} {cs rest : List Char} {n : Numeral}
    (h : scanNumber negative cs = some (n, rest)) : rest.length < cs.length := by
  simp only [scanNumber, Option.bind_eq_bind, Option.bind_eq_some_iff, Prod.exists] at h
  obtain ⟨ds, r₁, h₁, f, r₂, h₂, e, r₃, h₃, h⟩ := h
  have := scanWhole_length h₁
  have := scanFraction_length h₂
  have := scanExponent_length h₃
  split at h <;> simp only [Option.pure_def, Option.some.injEq, Prod.mk.injEq] at h <;>
    obtain ⟨-, rfl⟩ := h <;> omega

theorem after?_length {bs cs rest : List Char} (h : Text.after? bs cs = some rest) :
    rest.length ≤ cs.length := by
  rw [Text.after?_eq_some.1 h]
  simp

theorem Token.read?_length {c : Char} {cs rest : List Char} {t : Token}
    (h : Token.read? c cs = some (t, rest)) : rest.length ≤ cs.length := by
  unfold Token.read? at h
  split at h
  case h_7 =>
    simp only [Option.map_eq_some_iff, Prod.mk.injEq, Prod.exists] at h
    obtain ⟨us, r, hr, -, rfl⟩ := h
    exact Nat.le_of_lt (scanText_length hr)
  case h_8 =>
    simp only [Option.map_eq_some_iff, Prod.mk.injEq, Prod.exists] at h
    obtain ⟨n, r, hr, -, rfl⟩ := h
    exact Nat.le_of_lt (scanNumber_length hr)
  case h_12 =>
    simp only [Option.map_eq_some_iff, Prod.mk.injEq, Prod.exists] at h
    obtain ⟨n, r, hr, -, rfl⟩ := h
    exact Nat.le_of_lt_succ (scanNumber_length hr)
  case h_9 | h_10 | h_11 =>
    simp only [Option.map_eq_some_iff, Prod.mk.injEq] at h
    obtain ⟨r, hr, -, rfl⟩ := h
    exact after?_length hr
  all_goals
    simp only [Option.some.injEq, Prod.mk.injEq] at h
    simp [h.2]

/-! ## The tokens of a text -/

/-- The tokens of a text, if it is cut into tokens and gaps. -/
def tokens? (cs : List Char) : Option (List Token) :=
  match cs with
  | [] => some []
  | c :: rest =>
    if isGap c then tokens? rest
    else match _h : Token.read? c rest with
      | none => none
      | some (token, rest') => (tokens? rest').map (token :: ·)
termination_by cs.length
decreasing_by
  · simp
  · exact Nat.lt_succ_of_le (Token.read?_length _h)

end Json

end Colloquy
