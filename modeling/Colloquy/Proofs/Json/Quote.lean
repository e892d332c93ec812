import Colloquy.Json.Layout
import Colloquy.Json.Token

/-!
# String literals are read back

A string literal is written character by character, and each character is read back by itself
(`scanText_escape`): what is escaped by a letter or by a number, and what stands for itself.
-/

namespace Colloquy

namespace Json

variable {rest : List Char}

/-- One more unit in front of what is scanned. -/
def withUnit (u : Unit16) (scanned : Option (List Unit16 × List Char)) :
    Option (List Unit16 × List Char) :=
  scanned.map fun (units, rest) => (u :: units, rest)

/-- The number of an escape is read back. -/
theorem hex?_unitEscape {n : Nat} (h : n < 0x10000) :
    hex? (hexChar (n / 0x1000 % 16)) (hexChar (n / 0x100 % 16)) (hexChar (n / 0x10 % 16))
      (hexChar (n % 16)) = some n := by
  have hdigit : ∀ d < 16, hexDigit? (hexChar d) = some d := by decide
  have hlast :
      n = ((n / 0x1000 % 16 * 16 + n / 0x100 % 16) * 16 + n / 0x10 % 16) * 16 + n % 16 := by
    omega
  simp only [hex?, hdigit _ (Nat.mod_lt _ (by decide : 0 < 16)), Option.bind_eq_bind,
    Option.bind_some, Option.pure_def, ← hlast]

/-- An escape by number is read as its unit. -/
theorem scanText_unitEscape {n : Nat} (h : n < 0x10000) :
    scanText (unitEscape n ++ rest) = withUnit (.ofNat n) (scanText rest) := by
  show scanText ('\\' :: 'u' :: _ :: _ :: _ :: _ :: rest) = _
  rw [scanText, hex?_unitEscape h]
  cases scanText rest <;> rfl

/-- An escape by a letter is read as what the letter stands for. -/
theorem scanText_letter {c e : Char} (h : escaped? e = some c) :
    scanText ('\\' :: e :: rest) = withUnit (.char c) (scanText rest) := by
  rw [scanText, h]
  · cases scanText rest <;> rfl
  · rintro a b d f tail rfl -
    cases h

/-- **How a character stands in a literal**: behind a backslash by a letter, or by its number, or as
it is. -/
theorem escape_cases (c : Char) :
    (∃ e, escaped? e = some c ∧ escape c = ['\\', e]) ∨
      (c.toNat < 0x20 ∧ escape c = unitEscape c.toNat) ∨
      (c ≠ '"' ∧ c ≠ '\\' ∧ 0x20 ≤ c.toNat ∧ escape c = [c]) := by
  unfold escape
  by_cases hletter : c ∈ ['"', '\\', '\x08', '\x0c', '\n', '\r', '\t']
  · simp only [List.mem_cons, List.not_mem_nil, or_false] at hletter
    left
    rcases hletter with rfl | rfl | rfl | rfl | rfl | rfl | rfl <;> exact ⟨_, rfl, rfl⟩
  · simp only [List.mem_cons, List.not_mem_nil, or_false, not_or] at hletter
    obtain ⟨hquote, hslash, hb, hf, hn, hr, ht⟩ := hletter
    simp only [hquote, hslash, hb, hf, hn, hr, ht, if_false]
    by_cases hlow : c.toNat < 0x20
    · exact .inr (.inl ⟨hlow, if_pos hlow⟩)
    · exact .inr (.inr ⟨hquote, hslash, Nat.le_of_not_lt hlow, if_neg hlow⟩)

/-- **A character of a literal is read back.** -/
theorem scanText_escape (c : Char) :
    scanText (escape c ++ rest) = withUnit (.char c) (scanText rest) := by
  obtain ⟨e, he, hescape⟩ | ⟨hlow, hescape⟩ | ⟨hquote, hslash, hlow, hescape⟩ := escape_cases c
  · rw [hescape]
    exact scanText_letter he
  · have hunit : Unit16.ofNat c.toNat = .char c := by
      rw [Unit16.ofNat, if_neg (by omega), Char.ofNat_toNat]
    rw [hescape, scanText_unitEscape (by omega), hunit]
  · rw [hescape, List.singleton_append, scanText, if_neg (Nat.not_lt.2 hlow)]
    · cases scanText rest <;> rfl
    all_goals simp [hquote, hslash]

/-- So are all characters of a text. -/
theorem scanText_flatMap_escape (cs : List Char) :
    scanText (cs.flatMap escape ++ '"' :: rest) = some (cs.map .char, rest) := by
  induction cs with
  | nil => rfl
  | cons c cs ih =>
    rw [List.flatMap_cons, List.append_assoc, scanText_escape, ih]
    rfl

theorem assemble_map_char (cs : List Char) : assemble (cs.map .char) = some cs := by
  induction cs with
  | nil => rfl
  | cons c cs ih =>
    rw [List.map_cons, assemble, ih]
    rfl

/-- **A literal is read back**, also one that denotes no text. -/
theorem scan_quote (s : Option String) :
    ∃ cs, quote s = '"' :: cs ∧ ∀ rest, ∃ units, scanText (cs ++ rest) = some (units, rest) ∧
      (assemble units).map String.ofList = s := by
  cases s with
  | some s =>
    refine ⟨s.toList.flatMap escape ++ ['"'], rfl, fun rest => ⟨s.toList.map .char, ?_, ?_⟩⟩
    · rw [List.append_assoc]
      exact scanText_flatMap_escape s.toList
    · rw [assemble_map_char, Option.map_some, String.ofList_toList]
  | none =>
    refine ⟨unitEscape 0xD800 ++ ['"'], rfl, fun rest => ⟨[.half 0xD800], ?_, rfl⟩⟩
    rw [List.append_assoc, scanText_unitEscape (by decide)]
    rfl

end Json

end Colloquy
