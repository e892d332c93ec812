import Colloquy.Text.Blank
import Colloquy.Text.Word
import Mathlib.Data.List.TakeWhile

/-!
# Clean texts — what survives being trimmed and cut

A text is clean when it can stand in a field of a line-based format: something is written, trimming
leaves it alone, and it fits on one line. Trimming is idempotent and only looks at the two ends
(`trim_eq_self`), so a text that starts and ends well is clean whatever stands inside
(`Clean.append`). The cutters of a script and of a clause give back exactly the parts that were put
together, under the condition that the part in front does not contain the separator.
-/

namespace Colloquy

namespace Text

/-! ## Tables -/

/-- A character in two tables lies in a range of each, and these ranges meet. -/
theorem ranges_meet {rs ss : List (Nat × Nat)} {c : Char} (hr : within rs c = true)
    (hs : within ss c = true) : ∃ r ∈ rs, ∃ s ∈ ss, r.1 ≤ s.2 ∧ s.1 ≤ r.2 := by
  simp only [within, List.any_eq_true, Bool.and_eq_true, decide_eq_true_eq] at hr hs
  obtain ⟨r, hr, hlo, hhi⟩ := hr
  obtain ⟨s, hs, slo, shi⟩ := hs
  exact ⟨r, hr, s, hs, by omega, by omega⟩

/-- No range of blank characters meets a range of word characters. -/
theorem blankRanges_wordRanges :
    ∀ r ∈ blankRanges, ∀ s ∈ wordRanges, ¬ (r.1 ≤ s.2 ∧ s.1 ≤ r.2) := by decide +kernel

/-- No blank ASCII character is a letter, a digit or the low line. -/
theorem isBlank_of_ascii :
    ∀ n < 128, isWord (Char.ofNat n) = true → isBlank (Char.ofNat n) = false := by decide +kernel

/-- **A word character is not blank.** -/
theorem isBlank_of_isWord {c : Char} (h : isWord c = true) : isBlank c = false := by
  by_cases hascii : c.toNat < 128
  · have := isBlank_of_ascii c.toNat hascii
    rw [Char.ofNat_toNat] at this
    exact this h
  · rw [isWord, if_neg hascii] at h
    refine Bool.eq_false_iff.2 fun hblank => ?_
    obtain ⟨r, hr, s, hs, hmeet⟩ := ranges_meet hblank h
    exact blankRanges_wordRanges r hr s hs hmeet

/-! ## Trimming -/

/-- A text that starts with a character that is not blank. -/
def StartsBare (cs : List Char) : Prop := ∀ c ∈ cs.head?, isBlank c = false

/-- A text that ends with a character that is not blank. -/
def EndsBare (cs : List Char) : Prop := ∀ c ∈ cs.getLast?, isBlank c = false

theorem startsBare_append {cs : List Char} (h : cs ≠ []) (ds : List Char) :
    StartsBare (cs ++ ds) ↔ StartsBare cs := by
  obtain ⟨c, cs, rfl⟩ := List.exists_cons_of_ne_nil h
  rfl

theorem endsBare_append (cs : List Char) {ds : List Char} (h : ds ≠ []) :
    EndsBare (cs ++ ds) ↔ EndsBare ds := by
  rw [EndsBare, EndsBare, List.getLast?_append, List.getLast?_eq_some_getLast h, Option.some_or]

theorem startsBare_dropWhile (cs : List Char) : StartsBare (cs.dropWhile isBlank) := by
  intro c hc
  have := List.head?_dropWhile_not isBlank cs
  rw [hc] at this
  exact this

theorem trimStart_eq_self {cs : List Char} (h : StartsBare cs) : trimStart cs = cs := by
  cases cs with
  | nil => rfl
  | cons c cs => exact List.dropWhile_cons_of_neg (by simp [h c rfl])

theorem trimEnd_eq_self {cs : List Char} (h : EndsBare cs) : trimEnd cs = cs := by
  have hrev : trimStart cs.reverse = cs.reverse := by
    refine trimStart_eq_self fun c hc => h c ?_
    rwa [List.head?_reverse] at hc
  rw [trimEnd, ← trimStart, hrev, List.reverse_reverse]

/-- **Trimming looks at the two ends only.** -/
theorem trim_eq_self {cs : List Char} (hstart : StartsBare cs) (hend : EndsBare cs) :
    trim cs = cs := by
  rw [trim, trimStart_eq_self hstart, trimEnd_eq_self hend]

theorem endsBare_trimEnd (cs : List Char) : EndsBare (trimEnd cs) := by
  intro c hc
  rw [trimEnd, List.getLast?_reverse] at hc
  exact startsBare_dropWhile _ c hc

/-- What is left in front of the blank characters at the end starts as before. -/
theorem startsBare_trimEnd {cs : List Char} (h : StartsBare cs) : StartsBare (trimEnd cs) := by
  have hprefix : trimEnd cs <+: cs := by
    have := List.reverse_prefix.2 (List.dropWhile_suffix isBlank (l := cs.reverse))
    rwa [List.reverse_reverse] at this
  obtain ⟨rest, hrest⟩ := hprefix
  intro c hc
  refine h c ?_
  rw [← hrest, List.head?_append, hc]
  rfl

theorem startsBare_trim (cs : List Char) : StartsBare (trim cs) :=
  startsBare_trimEnd (startsBare_dropWhile cs)

theorem endsBare_trim (cs : List Char) : EndsBare (trim cs) := endsBare_trimEnd _

/-- **Trimming twice is trimming once.** -/
@[simp] theorem trim_trim (cs : List Char) : trim (trim cs) = trim cs :=
  trim_eq_self (startsBare_trim cs) (endsBare_trim cs)

theorem mem_of_mem_trimEnd {c : Char} {cs : List Char} (h : c ∈ trimEnd cs) : c ∈ cs := by
  rw [trimEnd, List.mem_reverse] at h
  exact List.mem_reverse.1 ((List.dropWhile_sublist _).subset h)

theorem mem_of_mem_trim {c : Char} {cs : List Char} (h : c ∈ trim cs) : c ∈ cs :=
  (List.dropWhile_sublist _).subset (mem_of_mem_trimEnd h)

@[simp] theorem trim_nil : trim [] = [] := rfl

/-- What is not blank is not trimmed off. -/
theorem mem_trim {c : Char} {cs : List Char} (hc : isBlank c = false) (h : c ∈ cs) :
    c ∈ trim cs := by
  have hdrop {ds : List Char} (hds : c ∈ ds) : c ∈ ds.dropWhile isBlank := by
    rw [← List.takeWhile_append_dropWhile (p := isBlank) (l := ds)] at hds
    refine (List.mem_append.1 hds).resolve_left fun hfront => ?_
    rw [List.mem_takeWhile_imp hfront] at hc
    exact Bool.noConfusion hc
  exact List.mem_reverse.2 (hdrop (List.mem_reverse.2 (hdrop h)))

/-- Nothing is left of a text just if all of it is blank. -/
theorem trim_eq_nil_iff {cs : List Char} : trim cs = [] ↔ ∀ c ∈ cs, isBlank c = true := by
  constructor
  · intro h c hc
    refine Decidable.byContradiction fun hbare => ?_
    have hmem := mem_trim (Bool.eq_false_iff.2 hbare) hc
    rw [h] at hmem
    exact List.not_mem_nil hmem
  · intro h
    rw [trim, trimStart, List.dropWhile_eq_nil_iff.2 h]
    rfl

theorem trim_blank_cons {c : Char} (h : isBlank c = true) (cs : List Char) :
    trim (c :: cs) = trim cs := by
  rw [trim, trimStart, List.dropWhile_cons_of_pos h, ← trimStart, ← trim]

theorem isBlank_of_mem_space : ∀ c ∈ [' '], isBlank c = true :=
  List.forall_mem_singleton.2 (by decide)

@[simp] theorem trim_space_cons (cs : List Char) : trim (' ' :: cs) = trim cs :=
  trim_blank_cons (by decide) cs

/-- Blanks in front of something else are trimmed off. -/
theorem trimStart_append {blanks rest : List Char} (hblanks : ∀ c ∈ blanks, isBlank c = true)
    (hrest : StartsBare rest) : trimStart (blanks ++ rest) = rest := by
  rw [trimStart, List.dropWhile_append_of_pos hblanks, ← trimStart, trimStart_eq_self hrest]

/-- Trimming the end of two texts trims the second, and goes on to the first if nothing is left. -/
theorem trimEnd_append (cs ds : List Char) :
    trimEnd (cs ++ ds) = if trimEnd ds = [] then trimEnd cs else cs ++ trimEnd ds := by
  simp only [trimEnd, List.reverse_append, List.dropWhile_append, List.reverse_eq_nil_iff]
  cases hrest : ds.reverse.dropWhile isBlank with
  | nil => rfl
  | cons c rest => simp

/-- Trimming the end first makes no difference. -/
theorem trim_trimEnd (cs : List Char) : trim (trimEnd cs) = trim cs := by
  have hblanks : ∀ c ∈ cs.takeWhile isBlank, isBlank c = true := fun c => List.mem_takeWhile_imp
  have hstart : StartsBare (trimStart cs) := startsBare_dropWhile cs
  have hsplit : trimEnd (cs.takeWhile isBlank ++ trimStart cs) = trimEnd cs := by
    rw [trimStart, List.takeWhile_append_dropWhile]
  rw [← hsplit, trimEnd_append]
  split
  · rename_i hnil
    have hnone : trimEnd (cs.takeWhile isBlank) = [] := by
      rw [trimEnd, List.reverse_eq_nil_iff, List.dropWhile_eq_nil_iff]
      exact fun c hc => hblanks c (List.mem_reverse.1 hc)
    rw [hnone, trim_nil, trim, hnil]
  · rw [trim, trimStart_append hblanks (startsBare_trimEnd hstart),
      trimEnd_eq_self (endsBare_trimEnd _), trim]

/-- Behind a text that is trimmed and not empty only the end is trimmed. -/
theorem trim_append {cs : List Char} (hne : cs ≠ []) (htrim : trim cs = cs) (ds : List Char) :
    trim (cs ++ ds) = cs ++ trimEnd ds := by
  have hstart : StartsBare cs := htrim ▸ startsBare_trim cs
  have hend : EndsBare cs := htrim ▸ endsBare_trim cs
  rw [trim, trimStart_eq_self ((startsBare_append hne ds).2 hstart), trimEnd_append]
  split
  · rename_i hnil
    rw [trimEnd_eq_self hend, hnil, List.append_nil]
  · rfl

/-! ## Clean texts -/

/-- A text that can stand in a field: it is not empty, it is trimmed, and it is on one line. -/
structure Clean (cs : List Char) : Prop where
  filled : cs ≠ []
  trimmed : trim cs = cs
  oneLine : '\n' ∉ cs

theorem clean_iff {cs : List Char} : Clean cs ↔ cs ≠ [] ∧ trim cs = cs ∧ '\n' ∉ cs :=
  ⟨fun h => ⟨h.filled, h.trimmed, h.oneLine⟩, fun h => ⟨h.1, h.2.1, h.2.2⟩⟩

instance (cs : List Char) : Decidable (Clean cs) := decidable_of_iff _ clean_iff.symm

namespace Clean

variable {cs ds : List Char}

theorem startsBare (h : Clean cs) : StartsBare cs := h.trimmed ▸ startsBare_trim cs

theorem endsBare (h : Clean cs) : EndsBare cs := h.trimmed ▸ endsBare_trim cs

/-- **A text is clean by its ends**: what starts like a clean text and ends like one is clean. -/
theorem of_append (hcs : cs ≠ []) (hstart : StartsBare cs) (hline : '\n' ∉ cs) (hds : Clean ds) :
    Clean (cs ++ ds) where
  filled := by simp [hcs]
  trimmed := trim_eq_self ((startsBare_append hcs ds).2 hstart)
    ((endsBare_append cs hds.filled).2 hds.endsBare)
  oneLine := by simp [hline, hds.oneLine]

theorem append (hcs : Clean cs) {mid : List Char} (hmid : '\n' ∉ mid) (hds : Clean ds) :
    Clean (cs ++ (mid ++ ds)) := by
  rw [← List.append_assoc]
  exact of_append (by simp [hcs.filled]) ((startsBare_append hcs.filled mid).2 hcs.startsBare)
    (by simp [hcs.oneLine, hmid]) hds

end Clean

/-! ## Names -/

/-- A name: word characters, and at least one. -/
structure IsName (cs : List Char) : Prop where
  filled : cs ≠ []
  word : ∀ c ∈ cs, isWord c = true

instance (cs : List Char) : Decidable (IsName cs) :=
  decidable_of_iff (cs ≠ [] ∧ cs.all isWord = true)
    ⟨fun h => ⟨h.1, List.all_eq_true.1 h.2⟩, fun h => ⟨h.filled, List.all_eq_true.2 h.word⟩⟩

namespace IsName

variable {cs : List Char}

theorem not_mem (h : IsName cs) {c : Char} (hc : isWord c = false) : c ∉ cs := by
  intro hmem
  rw [h.word c hmem] at hc
  exact Bool.noConfusion hc

theorem clean (h : IsName cs) : Clean cs where
  filled := h.filled
  trimmed := trim_eq_self (fun c hc => isBlank_of_isWord (h.word c (List.mem_of_mem_head? hc)))
    (fun c hc => isBlank_of_isWord (h.word c (List.mem_of_mem_getLast? hc)))
  oneLine := h.not_mem (by decide)

/-- A name in front of a character that cannot be part of it is read as a whole. -/
theorem leadingWord_append (h : IsName cs) {c : Char} (hc : isWord c = false) (rest : List Char) :
    leadingWord (cs ++ c :: rest) = (cs, c :: rest) := by
  rw [leadingWord, List.takeWhile_append_of_pos h.word, List.dropWhile_append_of_pos h.word,
    List.takeWhile_cons_of_neg (by simp [hc]), List.dropWhile_cons_of_neg (by simp [hc]),
    List.append_nil]

end IsName

/-! ## Cutting -/

theorem cut_append {sep : Char} {l : List Char} (h : sep ∉ l) (r : List Char) :
    cut sep (l ++ sep :: r) = some (l, r) := by
  induction l with
  | nil => simp [cut]
  | cons c l ih =>
    rw [List.mem_cons, not_or] at h
    simp [cut, Ne.symm h.1, ih h.2]

theorem after?_append (bs cs : List Char) : after? bs (bs ++ cs) = some cs := after?_eq_some.2 rfl

theorem pieces_ne_nil (sep : Char) (cs : List Char) : pieces sep cs ≠ [] := by
  cases cs with
  | nil => simp [pieces]
  | cons c cs =>
    by_cases hc : c = sep
    · simp [pieces, hc]
    · simp only [pieces, hc, if_false]
      split <;> simp

theorem pieces_of_not_mem {sep : Char} {p : List Char} (h : sep ∉ p) : pieces sep p = [p] := by
  induction p with
  | nil => rfl
  | cons c p ih =>
    rw [List.mem_cons, not_or] at h
    simp [pieces, Ne.symm h.1, ih h.2]

/-- **The pieces of two texts with a separator between them are the pieces of both.** -/
theorem pieces_append_sep {sep : Char} (cs ds : List Char) :
    pieces sep (cs ++ sep :: ds) = pieces sep cs ++ pieces sep ds := by
  induction cs with
  | nil => simp [pieces]
  | cons c cs ih =>
    by_cases hc : c = sep
    · simp [pieces, hc, ih]
    · simp only [List.cons_append, pieces, hc, if_false, ih]
      obtain ⟨p, ps, hps⟩ := List.exists_cons_of_ne_nil (pieces_ne_nil sep cs)
      simp [hps]

/-- **The first piece ends at the first separator.** -/
theorem pieces_append {sep : Char} {p : List Char} (h : sep ∉ p) (rest : List Char) :
    pieces sep (p ++ sep :: rest) = p :: pieces sep rest := by
  rw [pieces_append_sep, pieces_of_not_mem h, List.singleton_append]

/-- A piece is part of the text and does not contain the separator. -/
theorem of_mem_pieces {sep : Char} {cs p : List Char} (h : p ∈ pieces sep cs) :
    sep ∉ p ∧ ∀ c ∈ p, c ∈ cs := by
  induction cs generalizing p with
  | nil =>
    rw [pieces, List.mem_singleton] at h
    simp [h]
  | cons d cs ih =>
    by_cases hd : d = sep
    · rw [pieces, if_pos hd] at h
      rcases List.mem_cons.1 h with rfl | h
      · simp
      · exact ⟨(ih h).1, fun c hc => List.mem_cons_of_mem d ((ih h).2 c hc)⟩
    · rw [pieces, if_neg hd] at h
      cases hps : pieces sep cs with
      | nil =>
        rw [hps, List.mem_singleton] at h
        simp [h, Ne.symm hd]
      | cons q qs =>
        rw [hps] at h ih
        rcases List.mem_cons.1 h with rfl | h
        · obtain ⟨hsep, hsub⟩ := ih List.mem_cons_self
          refine ⟨by simp [hsep, Ne.symm hd], fun c hc => ?_⟩
          rcases List.mem_cons.1 hc with rfl | hc
          · exact List.mem_cons_self
          · exact List.mem_cons_of_mem d (hsub c hc)
        · obtain ⟨hsep, hsub⟩ := ih (List.mem_cons_of_mem q h)
          exact ⟨hsep, fun c hc => List.mem_cons_of_mem d (hsub c hc)⟩

/-- **Pieces that each end with the separator are read back**, with an empty piece after them. -/
theorem pieces_terminated {sep : Char} {ps : List (List Char)} (h : ∀ p ∈ ps, sep ∉ p) :
    pieces sep (ps.flatMap fun p => p ++ [sep]) = ps ++ [[]] := by
  induction ps with
  | nil => rfl
  | cons p ps ih =>
    rw [List.flatMap_cons, List.append_assoc, List.singleton_append,
      pieces_append (h p List.mem_cons_self), ih fun q hq => h q (List.mem_cons_of_mem p hq),
      List.cons_append]

end Text

end Colloquy
