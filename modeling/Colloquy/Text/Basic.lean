/-!
# Text as characters — searching, cutting and measuring

Scripts, clauses and flag names are read as lists of characters. This module holds the operations
that know nothing about any alphabet: membership in a table of code point ranges, cutting at a
separator, taking a known beginning off, and the length of a text in UTF-8 bytes.
-/

namespace Colloquy

namespace Text

/-- Whether a character lies in one of the ranges of code points, ends included. -/
def within (ranges : List (Nat × Nat)) (c : Char) : Bool :=
  ranges.any fun range => range.1 ≤ c.toNat && c.toNat ≤ range.2

/-- The parts before and after the first separator, if there is one. -/
def cut (sep : Char) : List Char → Option (List Char × List Char)
  | [] => none
  | c :: cs => if c = sep then some ([], cs) else (cut sep cs).map fun (l, r) => (c :: l, r)

/-- The parts between separators. There is one more part than there are separators. -/
def pieces (sep : Char) : List Char → List (List Char)
  | [] => [[]]
  | c :: cs =>
    if c = sep then [] :: pieces sep cs
    else match pieces sep cs with
      | [] => [[c]]
      | p :: ps => (c :: p) :: ps

/-- What follows a known beginning. -/
def after? : List Char → List Char → Option (List Char)
  | [], cs => some cs
  | _ :: _, [] => none
  | b :: bs, c :: cs => if b = c then after? bs cs else none

/-- Length in UTF-8 bytes. -/
def byteSize : List Char → Nat
  | [] => 0
  | c :: cs => c.utf8Size + byteSize cs

/-- Texts joined with a separator between neighbours. -/
def join (sep : String) (texts : List String) : String := sep.intercalate texts

/-- A character repeated. -/
def repeated (n : Nat) (c : Char) : String := String.ofList (List.replicate n c)

/-- Lines, each with its end. -/
def paragraph (lines : List String) : String := String.join (lines.map fun line => line ++ "\n")

/-! ## Cutting loses nothing -/

theorem cut_eq_some {sep : Char} {cs l r : List Char} (h : cut sep cs = some (l, r)) :
    cs = l ++ sep :: r ∧ sep ∉ l := by
  induction cs generalizing l with
  | nil => simp [cut] at h
  | cons c cs ih =>
    by_cases hc : c = sep
    · simp only [cut, hc, if_true, Option.some.injEq, Prod.mk.injEq] at h
      obtain ⟨rfl, rfl⟩ := h
      simp [hc]
    · simp only [cut, hc, if_false, Option.map_eq_some_iff, Prod.mk.injEq, Prod.exists] at h
      obtain ⟨l', r', h', rfl, rfl⟩ := h
      obtain ⟨rfl, hl⟩ := ih h'
      simp [hl, Ne.symm hc]

theorem cut_eq_none {sep : Char} {cs : List Char} : cut sep cs = none ↔ sep ∉ cs := by
  induction cs with
  | nil => simp [cut]
  | cons c cs ih =>
    by_cases hc : c = sep
    · simp [cut, hc]
    · simp [cut, hc, ih, Ne.symm hc]

theorem after?_eq_some {bs cs r : List Char} : after? bs cs = some r ↔ cs = bs ++ r := by
  induction bs generalizing cs with
  | nil => simp [after?, eq_comm]
  | cons b bs ih =>
    cases cs with
    | nil => simp [after?]
    | cons c cs =>
      by_cases hc : b = c
      · simp [after?, hc, ih]
      · simp [after?, hc, Ne.symm hc]

@[simp] theorem byteSize_nil : byteSize [] = 0 := rfl

@[simp] theorem byteSize_cons (c : Char) (cs : List Char) :
    byteSize (c :: cs) = c.utf8Size + byteSize cs := rfl

@[simp] theorem byteSize_append (cs ds : List Char) :
    byteSize (cs ++ ds) = byteSize cs + byteSize ds := by
  induction cs with
  | nil => simp
  | cons c cs ih => simp [ih, Nat.add_assoc]

end Text

end Colloquy
