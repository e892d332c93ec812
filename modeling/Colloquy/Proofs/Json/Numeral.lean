import Colloquy.Json.Layout
import Colloquy.Json.Token
import Colloquy.Proofs.Text.Decimal

/-!
# Number literals are read back

A number literal has no mark at its end: where it stops is for what follows to say. `Ends` says that
nothing follows that could go on it, and then a literal that was written is read back as it is,
whatever its sign, its digits and its exponent (`scanNumber_whole`, `scanNumber_scaled`).
-/

namespace Colloquy

open Text (digitsFrom?_eq isDigit_toDigits toList_toString_nat toList_toString_negSucc)

namespace Json

/-- No digit comes first. -/
def NoDigit (rest : List Char) : Prop := ∀ c ∈ rest.head?, c.isDigit = false

/-- Nothing comes first that could go on a number literal. -/
def Ends (rest : List Char) : Prop :=
  ∀ c ∈ rest.head?, c.isDigit = false ∧ c ≠ '.' ∧ c ≠ 'e' ∧ c ≠ 'E'

theorem Ends.noDigit {rest : List Char} (h : Ends rest) : NoDigit rest := fun c hc => (h c hc).1

/-- Digits that are written as they are: a zero alone, or digits that do not start with zero. -/
structure IsWhole (ds : List Char) : Prop where
  nonempty : ds ≠ []
  digits : ∀ c ∈ ds, c.isDigit = true
  canonical : ∀ rest, ds = '0' :: rest → rest = []

variable {ds rest : List Char}

theorem IsWhole.head (h : IsWhole ds) : ∃ c cs, ds = c :: cs ∧ c.isDigit = true := by
  obtain ⟨c, cs, rfl⟩ := List.exists_cons_of_ne_nil h.nonempty
  exact ⟨c, cs, rfl, h.digits c List.mem_cons_self⟩

/-! ## Digits -/

theorem scanDigits_append (hne : ds ≠ []) (hds : ∀ c ∈ ds, c.isDigit = true)
    (hrest : NoDigit rest) : scanDigits (ds ++ rest) = some (ds, rest) := by
  have hstop : rest.takeWhile Char.isDigit = [] ∧ rest.dropWhile Char.isDigit = rest := by
    cases rest with
    | nil => exact ⟨rfl, rfl⟩
    | cons c rest => simp [hrest c rfl]
  rw [scanDigits, List.takeWhile_append_of_pos hds, List.dropWhile_append_of_pos hds, hstop.1,
    hstop.2, List.append_nil, if_neg hne]

theorem scanWhole_append (h : IsWhole ds) (hrest : NoDigit rest) :
    scanWhole (ds ++ rest) = some (ds, rest) := by
  cases ds with
  | nil => exact absurd rfl h.nonempty
  | cons c ds =>
    by_cases hzero : c = '0'
    · subst hzero
      obtain rfl := h.canonical ds rfl
      rfl
    · rw [List.cons_append, scanWhole, ← List.cons_append]
      · exact scanDigits_append h.nonempty h.digits hrest
      · rintro cs hcons
        exact hzero (List.cons.inj hcons).1

/-- Zeros in front count nothing. -/
theorem valueOf_zeros (k n : Nat) :
    valueOf (List.replicate k '0' ++ Nat.toDigits 10 n) = n := by
  have hdigits : ∀ c ∈ List.replicate k '0' ++ Nat.toDigits 10 n, c.isDigit = true := by
    intro c hc
    rcases List.mem_append.1 hc with hc | hc
    · rw [List.eq_of_mem_replicate hc]
      rfl
    · exact isDigit_toDigits hc
  have hzeros : ∀ k, Nat.ofDigitChars 10 (List.replicate k '0') 0 = 0 := by
    intro k
    induction k with
    | zero => rfl
    | succ k ih => rw [List.replicate_succ, Nat.ofDigitChars_cons]; exact ih
  rw [valueOf, digitsFrom?_eq hdigits, Option.getD_some, Nat.ofDigitChars_append, hzeros,
    Nat.ofDigitChars_toDigits (by decide) (by decide)]

theorem valueOf_toDigits (n : Nat) : valueOf (Nat.toDigits 10 n) = n := valueOf_zeros 0 n

/-- A number other than zero does not start with zero. -/
theorem head?_toDigits_ne {n : Nat} (h : 0 < n) : (Nat.toDigits 10 n).head? ≠ some '0' := by
  induction n using Nat.strongRecOn with
  | ind n ih =>
    by_cases hlt : n < 10
    · rw [Nat.toDigits_of_lt_base hlt]
      intro hzero
      have hzero : n.digitChar.toNat = '0'.toNat := congrArg Char.toNat (Option.some.inj hzero)
      rw [Nat.toNat_digitChar_of_lt_ten hlt] at hzero
      exact absurd hzero (by simp; omega)
    · obtain ⟨c, cs, hcs⟩ := List.exists_cons_of_ne_nil (Nat.toDigits_ne_nil (n := n / 10))
      have hfirst := ih (n / 10) (by omega) (by omega)
      rw [hcs] at hfirst
      rw [Nat.toDigits_of_base_le (by decide) (by omega), hcs]
      exact hfirst

theorem isWhole_toDigits (n : Nat) : IsWhole (Nat.toDigits 10 n) where
  nonempty := Nat.toDigits_ne_nil
  digits := fun _ => isDigit_toDigits
  canonical := by
    intro rest hzero
    rcases Nat.eq_zero_or_pos n with rfl | hpos
    · exact (List.cons.inj hzero).2.symm
    · exact absurd (by rw [hzero]; rfl) (head?_toDigits_ne hpos)

/-! ## The parts of a literal -/

/-- The leading digits of a number are written as they are, too. -/
theorem IsWhole.take (h : IsWhole ds) {m : Nat} (hm : 0 < m) : IsWhole (ds.take m) where
  nonempty := by
    obtain ⟨c, cs, rfl⟩ := List.exists_cons_of_ne_nil h.nonempty
    obtain ⟨m, rfl⟩ := Nat.exists_eq_succ_of_ne_zero (Nat.ne_of_gt hm)
    exact List.cons_ne_nil c (cs.take m)
  digits := fun c hc => h.digits c (List.mem_of_mem_take hc)
  canonical := by
    intro rest htake
    obtain ⟨c, cs, rfl⟩ := List.exists_cons_of_ne_nil h.nonempty
    obtain ⟨m, rfl⟩ := Nat.exists_eq_succ_of_ne_zero (Nat.ne_of_gt hm)
    obtain ⟨rfl, rfl⟩ := List.cons.inj htake
    rw [h.canonical cs rfl, List.take_nil]

theorem digitChar_of_isDigit {c : Char} (h : c.isDigit = true) :
    Nat.digitChar (c.toNat - '0'.toNat) = c := by
  obtain ⟨hlow, hhigh⟩ := Char.isDigit_iff_toNat.1 h
  have hzero : '0'.toNat = 48 := rfl
  have hnine : '9'.toNat = 57 := rfl
  refine Char.toNat_inj.1 ?_
  rw [Nat.toNat_digitChar_of_lt_ten (by omega)]
  omega

theorem map_digitChar_decimalDigits (n : Nat) :
    (Numeral.decimalDigits n).map Nat.digitChar = Nat.toDigits 10 n := by
  rw [Numeral.decimalDigits, List.map_map]
  exact (List.map_congr_left fun c hc => digitChar_of_isDigit (isDigit_toDigits hc)).trans
    (List.map_id _)

/-- The digits of a literal with a point as they are written: the digits of the number, behind
zeros if the point would come in front of them, cut where the point is. -/
theorem parts_eq (digits places : Nat) :
    ∃ before behind, Numeral.parts digits places = (before, behind) ∧
      IsWhole (before.map Nat.digitChar) ∧ (∀ c ∈ behind.map Nat.digitChar, c.isDigit = true) ∧
      behind.length = places ∧
      valueOf (before.map Nat.digitChar ++ behind.map Nat.digitChar) = digits := by
  let all := Numeral.decimalDigits digits
  let k := places + 1 - all.length
  let padded := List.replicate k 0 ++ all
  have hlength : places + 1 ≤ padded.length := by
    simp only [padded, k, List.length_append, List.length_replicate]
    omega
  have hchars : padded.map Nat.digitChar = List.replicate k '0' ++ Nat.toDigits 10 digits := by
    rw [List.map_append, List.map_replicate, map_digitChar_decimalDigits]
    rfl
  refine ⟨padded.take (padded.length - places), padded.drop (padded.length - places), ?_, ?_, ?_,
    ?_, ?_⟩
  · rw [← List.splitAt_eq]
    rfl
  · rw [List.map_take, hchars]
    rcases Nat.eq_zero_or_pos k with hk | hk
    · rw [hk]
      exact (isWhole_toDigits digits).take (by omega)
    · -- there are just enough zeros for one digit before the point
      have hone : padded.length - places = 1 := by
        simp only [padded, k, List.length_append, List.length_replicate] at hk ⊢
        omega
      obtain ⟨j, hj⟩ := Nat.exists_eq_succ_of_ne_zero (Nat.ne_of_gt hk)
      rw [hone, hj]
      exact isWhole_toDigits 0
  · intro c hc
    rw [List.map_drop, hchars] at hc
    rcases List.mem_append.1 (List.mem_of_mem_drop hc) with hc | hc
    · rw [List.eq_of_mem_replicate hc]
      rfl
    · exact isDigit_toDigits hc
  · rw [List.length_drop]
    omega
  · rw [← List.map_append, List.take_append_drop, hchars, valueOf_zeros]

/-! ## Literals -/

/-- An exponent is read back. -/
theorem scanSigned_toString (e : Int) (hrest : NoDigit rest) :
    scanSigned ((toString e).toList ++ rest) = some (e, rest) := by
  cases e with
  | ofNat n =>
    have hwhole := isWhole_toDigits n
    have htext : (toString (Int.ofNat n)).toList = Nat.toDigits 10 n := toList_toString_nat n
    have hscan := scanDigits_append hwhole.nonempty hwhole.digits hrest
    rw [htext, scanSigned, hscan]
    · simp [valueOf_toDigits]
    all_goals
      -- a digit is no sign
      rintro cs hcs
      obtain ⟨c, ds, hds, hc⟩ := hwhole.head
      rw [hds] at hcs
      obtain rfl := (List.cons.inj hcs).1
      cases hc
  | negSucc n =>
    have hwhole := isWhole_toDigits (n + 1)
    rw [toList_toString_negSucc, List.cons_append, scanSigned,
      scanDigits_append hwhole.nonempty hwhole.digits hrest]
    show some (-(valueOf (Nat.toDigits 10 (n + 1)) : Int), rest) = _
    rw [valueOf_toDigits]
    rfl

/-- Without a point there is no fraction. -/
theorem scanFraction_of_ne (h : ∀ c ∈ rest.head?, c ≠ '.') :
    scanFraction rest = some (none, rest) := by
  cases rest with
  | nil => rfl
  | cons c rest =>
    rw [scanFraction]
    rintro cs hcs
    exact h c rfl (List.cons.inj hcs).1

/-- Without a mark there is no exponent. -/
theorem scanExponent_of_ends (h : Ends rest) : scanExponent rest = some (none, rest) := by
  cases rest with
  | nil => rfl
  | cons c rest =>
    obtain ⟨-, -, he, hE⟩ := h c rfl
    rw [scanExponent, if_neg (by simp [he, hE])]

/-- The exponent of a literal is read back behind its mark. -/
theorem scanExponent_toString (e : Int) (hrest : NoDigit rest) :
    scanExponent ('e' :: (toString e).toList ++ rest) = some (some e, rest) := by
  rw [List.cons_append, scanExponent, if_pos (.inl rfl), scanSigned_toString e hrest]
  rfl

/-- **An integer without its sign is read back.** -/
theorem scanNumber_whole (negative : Bool) (n : Nat) (hrest : Ends rest) :
    scanNumber negative (Nat.toDigits 10 n ++ rest) = some (.whole negative n, rest) := by
  rw [scanNumber, scanWhole_append (isWhole_toDigits n) hrest.noDigit]
  simp [scanFraction_of_ne fun c hc => (hrest c hc).2.1, scanExponent_of_ends hrest,
    valueOf_toDigits]

/-- **So is a literal with an exponent**, with a point or without one. -/
theorem scanNumber_scaled (negative : Bool) {digits places : Nat} {before behind : List Nat}
    (hparts : Numeral.parts digits places = (before, behind)) (e : Int) (hrest : Ends rest) :
    scanNumber negative (before.map Nat.digitChar ++
        (if places = 0 then [] else '.' :: behind.map Nat.digitChar) ++ ['e'] ++
        (toString e).toList ++ rest) =
      some (.scaled negative digits places e, rest) := by
  obtain ⟨before', behind', hparts', hwhole, hdigits, hlength, hvalue⟩ := parts_eq digits places
  obtain ⟨rfl, rfl⟩ := Prod.mk.inj (hparts.symm.trans hparts')
  have hexponent := scanExponent_toString e hrest.noDigit
  -- what follows the digits is the mark of the exponent
  have hmark : ∀ c ∈ ('e' :: (toString e).toList ++ rest).head?, c = 'e' := by simp
  by_cases hplaces : places = 0
  · have hbehind : behind = [] := List.length_eq_zero_iff.1 (hlength.trans hplaces)
    have hwritten : before.map Nat.digitChar ++
        (if places = 0 then [] else '.' :: behind.map Nat.digitChar) ++ ['e'] ++
        (toString e).toList ++ rest =
      before.map Nat.digitChar ++ ('e' :: (toString e).toList ++ rest) := by simp [hplaces]
    have hfraction : scanFraction ('e' :: (toString e).toList ++ rest) =
        some (none, 'e' :: (toString e).toList ++ rest) :=
      scanFraction_of_ne fun c hc => by simp [hmark c hc]
    rw [hwritten, scanNumber, scanWhole_append hwhole fun c hc => by rw [hmark c hc]; rfl]
    simp only [Option.bind_eq_bind, Option.bind_some, hfraction, hexponent]
    simpa [hbehind, hplaces] using hvalue
  · have hbehind : behind.map Nat.digitChar ≠ [] := fun hnil =>
      hplaces (hlength.symm.trans (by simpa using congrArg List.length hnil))
    have hwritten : before.map Nat.digitChar ++
        (if places = 0 then [] else '.' :: behind.map Nat.digitChar) ++ ['e'] ++
        (toString e).toList ++ rest =
      before.map Nat.digitChar ++ ('.' :: (behind.map Nat.digitChar ++
        ('e' :: (toString e).toList ++ rest))) := by simp [hplaces]
    have hfraction : scanFraction ('.' :: (behind.map Nat.digitChar ++
        ('e' :: (toString e).toList ++ rest))) =
          some (some (behind.map Nat.digitChar), 'e' :: (toString e).toList ++ rest) := by
      rw [scanFraction, scanDigits_append hbehind hdigits fun c hc => by rw [hmark c hc]; rfl]
      rfl
    rw [hwritten, scanNumber, scanWhole_append hwhole fun c hc => by cases hc; rfl]
    simp only [Option.bind_eq_bind, Option.bind_some, hfraction, hexponent]
    simpa [hlength] using hvalue

end Json

end Colloquy
