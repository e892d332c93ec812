import Colloquy.Proofs.Text.Clean
import Colloquy.Text.Decimal

/-!
# Decimal integers — what is read is what is denoted

Which texts are integers is said without a reader: digits with or without a sign in front
(`Denotes`). The reader reads just these, each as the integer that it denotes
(`integer?_eq_some_iff`), and an integer is written as a text that denotes it (`denotes_toString`).
Leading zeros and a plus sign make several texts of one integer, but only one of them is written.
-/

namespace Colloquy

namespace Text

/-! ## Digits -/

/-- One or more ASCII digits. -/
structure IsDigits (cs : List Char) : Prop where
  filled : cs ≠ []
  digit : ∀ c ∈ cs, c.isDigit = true

/-- The number that digits denote is what they count. -/
theorem digitsFrom?_eq {ds : List Char} (hds : ∀ c ∈ ds, c.isDigit = true) (n : Nat) :
    digitsFrom? n ds = some (Nat.ofDigitChars 10 ds n) := by
  induction ds generalizing n with
  | nil => rfl
  | cons c ds ih =>
    have hc : digit? c = some (c.toNat - '0'.toNat) := if_pos (hds c List.mem_cons_self)
    rw [digitsFrom?, hc, Option.bind_some, ih fun d hd => hds d (List.mem_cons_of_mem _ hd),
      Nat.ofDigitChars_cons]

/-- Only digits denote a number. -/
theorem isDigit_of_digitsFrom? {cs : List Char} {m n : Nat} (h : digitsFrom? n cs = some m) :
    ∀ c ∈ cs, c.isDigit = true := by
  induction cs generalizing n with
  | nil => exact nofun
  | cons c cs ih =>
    obtain ⟨d, hd, hrest⟩ := Option.bind_eq_some_iff.1 h
    obtain ⟨hc, -⟩ := Option.ite_none_right_eq_some.1 hd
    exact List.forall_mem_cons.2 ⟨hc, ih hrest⟩

theorem natural?_eq_some_iff {cs : List Char} {n : Nat} :
    natural? cs = some n ↔ IsDigits cs ∧ Nat.ofDigitChars 10 cs 0 = n := by
  cases cs with
  | nil => exact iff_of_false nofun fun h => h.1.filled rfl
  | cons c cs =>
    show digitsFrom? 0 (c :: cs) = some n ↔ _
    constructor
    · intro h
      have hdigit := isDigit_of_digitsFrom? h
      rw [digitsFrom?_eq hdigit] at h
      exact ⟨⟨List.cons_ne_nil c cs, hdigit⟩, Option.some.inj h⟩
    · rintro ⟨hdigits, rfl⟩
      exact digitsFrom?_eq hdigits.digit 0

theorem isDigit_toDigits {n : Nat} {c : Char} (h : c ∈ Nat.toDigits 10 n) : c.isDigit = true :=
  Nat.isDigit_of_mem_toDigits (by decide) (by decide) h

theorem isDigits_toDigits (n : Nat) : IsDigits (Nat.toDigits 10 n) :=
  ⟨Nat.toDigits_ne_nil, fun _ => isDigit_toDigits⟩

theorem toList_toString_nat (n : Nat) : (toString n).toList = Nat.toDigits 10 n := by
  rw [Nat.toString_eq_repr, Nat.toList_repr]

theorem toList_toString_negSucc (n : Nat) :
    (toString (Int.negSucc n)).toList = '-' :: Nat.toDigits 10 (n + 1) := by
  show ("-" ++ (n + 1).repr).toList = _
  rw [String.toList_append, Nat.toList_repr]
  rfl

theorem isWord_of_isDigit {c : Char} (h : c.isDigit = true) : isWord c = true := by
  have hascii : c.toNat < 128 := by
    have hlast : c.toNat ≤ '9'.toNat := (Char.isDigit_iff_toNat.1 h).2
    exact Nat.lt_of_le_of_lt hlast (by decide)
  rw [isWord, if_pos hascii]
  simp [Char.isAlphanum, h]

/-- A number is written as a word. -/
theorem isName_toString (n : Nat) : IsName (toString n).toList := by
  rw [toList_toString_nat]
  exact ⟨Nat.toDigits_ne_nil, fun c hc => isWord_of_isDigit (isDigit_toDigits hc)⟩

/-! ## Integers -/

/-- A text that is an integer, and which one: digits, with or without a sign. -/
inductive Denotes : List Char → Int → Prop
  | unsigned {ds : List Char} (h : IsDigits ds) : Denotes ds (Nat.ofDigitChars 10 ds 0)
  | plus {ds : List Char} (h : IsDigits ds) : Denotes ('+' :: ds) (Nat.ofDigitChars 10 ds 0)
  | minus {ds : List Char} (h : IsDigits ds) : Denotes ('-' :: ds) (-Nat.ofDigitChars 10 ds 0)

theorem IsDigits.head_ne {c : Char} {cs : List Char} (h : IsDigits (c :: cs)) :
    c ≠ '-' ∧ c ≠ '+' := by
  have hc := h.digit c List.mem_cons_self
  constructor <;> rintro rfl <;> cases hc

theorem integer?_minus (ds : List Char) :
    integer? ('-' :: ds) = (natural? ds).map fun n : Nat => -(n : Int) := by
  rw [integer?]
  cases natural? ds <;> rfl

/-- **A text is read as an integer just if it denotes it.** -/
theorem integer?_eq_some_iff {cs : List Char} {k : Int} : integer? cs = some k ↔ Denotes cs k := by
  constructor
  · intro h
    have hdenotes {ds : List Char} {f : Nat → Int} (hmap : (natural? ds).map f = some k) :
        IsDigits ds ∧ f (Nat.ofDigitChars 10 ds 0) = k := by
      obtain ⟨n, hn, rfl⟩ := Option.map_eq_some_iff.1 hmap
      obtain ⟨hdigits, rfl⟩ := natural?_eq_some_iff.1 hn
      exact ⟨hdigits, rfl⟩
    unfold integer? at h
    split at h
    · obtain ⟨hdigits, rfl⟩ := hdenotes ((integer?_minus _).symm.trans h)
      exact .minus hdigits
    · obtain ⟨hdigits, rfl⟩ := hdenotes h
      exact .plus hdigits
    · obtain ⟨hdigits, rfl⟩ := hdenotes h
      exact .unsigned hdigits
  · intro h
    cases h with
    | unsigned h =>
      have hread := natural?_eq_some_iff.2 ⟨h, rfl⟩
      obtain ⟨c, ds, rfl⟩ := List.exists_cons_of_ne_nil h.filled
      obtain ⟨hminus, hplus⟩ := h.head_ne
      rw [integer?, hread]
      · rfl
      · rintro ds heq
        exact hminus (List.cons.inj heq).1
      · rintro ds heq
        exact hplus (List.cons.inj heq).1
    | plus h => exact congrArg (Option.map Int.ofNat) (natural?_eq_some_iff.2 ⟨h, rfl⟩)
    | minus h => rw [integer?_minus, natural?_eq_some_iff.2 ⟨h, rfl⟩, Option.map_some]

/-- **An integer is written as a text that denotes it.** -/
theorem denotes_toString (k : Int) : Denotes (toString k).toList k := by
  have hvalue (n : Nat) : Nat.ofDigitChars 10 (Nat.toDigits 10 n) 0 = n :=
    Nat.ofDigitChars_toDigits (by decide) (by decide)
  cases k with
  | ofNat n =>
    have h := Denotes.unsigned (isDigits_toDigits n)
    rw [hvalue, ← toList_toString_nat] at h
    exact h
  | negSucc n =>
    have h := Denotes.minus (isDigits_toDigits (n + 1))
    rw [hvalue, ← toList_toString_negSucc] at h
    exact h

/-- No character of an integer is blank. -/
theorem Denotes.not_isBlank {cs : List Char} {k : Int} (h : Denotes cs k) :
    ∀ c ∈ cs, isBlank c = false := by
  have hdigits {ds : List Char} (hds : IsDigits ds) : ∀ c ∈ ds, isBlank c = false :=
    fun c hc => isBlank_of_isWord (isWord_of_isDigit (hds.digit c hc))
  cases h with
  | unsigned h => exact hdigits h
  | plus h => exact List.forall_mem_cons.2 ⟨by decide, hdigits h⟩
  | minus h => exact List.forall_mem_cons.2 ⟨by decide, hdigits h⟩

/-- A 64-bit integer is the one that lies in the range. -/
theorem int64?_eq_some_iff {k : Int} {n : Int64} : int64? k = some n ↔ n.toInt = k := by
  constructor
  · intro h
    obtain ⟨⟨hlow, hhigh⟩, hn⟩ := Option.ite_none_right_eq_some.1 h
    rw [Int64.toInt_minValue] at hlow
    rw [Int64.toInt_maxValue] at hhigh
    rw [← Option.some.inj hn, Int64.toInt_ofInt_of_le hlow (by omega)]
  · rintro rfl
    exact (if_pos ⟨Int64.minValue_le_toInt n, Int64.toInt_le n⟩).trans
      (congrArg some (Int64.ofInt_toInt n))

theorem int64?_eq_none_iff {k : Int} :
    int64? k = none ↔ k < Int64.minValue.toInt ∨ Int64.maxValue.toInt < k := by
  unfold int64?
  split
  · next h => exact iff_of_false nofun (by omega)
  · next h => exact iff_of_true rfl (by omega)

end Text

end Colloquy
