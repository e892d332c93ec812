import Colloquy.Condition.Clause
import Colloquy.Proofs.Text.Clean

/-!
# Atoms — what stands between the commas of a clause

An atom starts with a keyword, or it names a flag, with an exclamation mark in front or without.
`Means` lists these forms, each with what it means, and reading an atom finds its form
(`means_iff`): a statement about atoms is a case analysis over `Means`, and nothing tries the
keywords again. Whether an atom has a flaw can be told from what it means
(`Means.notes_eq_nil_iff`).
-/

namespace Colloquy

namespace Condition

open Text

/-! ## Texts between commas -/

/-- An atom of a clause: there is something, it is trimmed, and it has no comma. -/
structure IsAtom (cs : List Char) : Prop where
  filled : cs ≠ []
  trimmed : trim cs = cs
  noComma : ',' ∉ cs

instance (cs : List Char) : Decidable (IsAtom cs) :=
  decidable_of_iff (cs ≠ [] ∧ trim cs = cs ∧ ',' ∉ cs)
    ⟨fun h => ⟨h.1, h.2.1, h.2.2⟩, fun h => ⟨h.filled, h.trimmed, h.noComma⟩⟩

/-- The atoms of a clause are atoms, and part of the clause. -/
theorem isAtom_of_mem_atoms {clause atom : List Char} (h : atom ∈ atoms clause) :
    IsAtom atom ∧ ∀ c ∈ atom, c ∈ clause := by
  rw [atoms, List.mem_filter, List.mem_map] at h
  obtain ⟨⟨piece, hpiece, rfl⟩, hne⟩ := h
  obtain ⟨hcomma, hsub⟩ := of_mem_pieces hpiece
  exact ⟨⟨by simpa using hne, trim_trim piece, fun hc => hcomma (mem_of_mem_trim hc)⟩,
    fun c hc => hsub c (mem_of_mem_trim hc)⟩

/-- An atom by itself is a clause with that atom. -/
theorem atoms_of_isAtom {atom : List Char} (h : IsAtom atom) : atoms atom = [atom] := by
  simp [atoms, pieces_of_not_mem h.noComma, h.trimmed, h.filled]

/-- A keyword with an operand that ends well is an atom. -/
theorem IsAtom.append {key operand : List Char} (hkey : IsAtom key) (hend : EndsBare operand)
    (hcomma : ',' ∉ operand) : IsAtom (key ++ operand) where
  filled := List.append_ne_nil_of_left_ne_nil hkey.filled _
  trimmed := by rw [trim_append hkey.filled hkey.trimmed, trimEnd_eq_self hend]
  noComma := by simp [hkey.noComma, hcomma]

/-! ## The forms of an atom -/

/-- What an atom about something other than a flag starts with. -/
def keywords : List (List Char) :=
  ["asked:".toList, "!asked:".toList, "!has:".toList, "has:".toList, "npc_state:".toList,
    "visited:".toList]

/-- An atom that is the name of a flag: it does not start with a keyword, and if it starts with an
exclamation mark, then a colon follows somewhere. -/
structure NamesFlag (atom : List Char) : Prop where
  noKeyword : ∀ key ∈ keywords, ¬ key <+: atom
  noBang : ∀ name, atom = '!' :: name → ':' ∈ name

/-- A keyword that tests whatever stands behind it, and what it tests. -/
inductive Keyword : String → (String → Condition) → Prop where
  | asked : Keyword "asked:" .asked
  | notAsked : Keyword "!asked:" .notAsked
  | hasItem : Keyword "has:" .hasItem
  | lacksItem : Keyword "!has:" .lacksItem
  | visited : Keyword "visited:" .visited

/-- What an atom means. -/
inductive Means : List Char → Condition → Prop where
  /-- A keyword tests what stands behind it. -/
  | keyword {key : String} {test : String → Condition} (h : Keyword key test)
      (operand : List Char) :
      Means (key.toList ++ operand) (test (String.ofList (trim operand)))
  /-- The state of a character stands behind the first colon after the keyword. -/
  | npcState {npc : List Char} (hcolon : ':' ∉ npc) (state : List Char) :
      Means ("npc_state:".toList ++ (npc ++ ':' :: state))
        (.npcState (String.ofList (trim npc)) (String.ofList (trim state)))
  /-- Without such a colon there is no state. -/
  | noState {rest : List Char} (hcolon : ':' ∉ rest) : Means ("npc_state:".toList ++ rest) .never
  /-- An exclamation mark negates the flag behind it, unless there is a colon. -/
  | notFlag {name : List Char} (hcolon : ':' ∉ name) :
      Means ('!' :: name) (.notFlag (String.ofList (trim name)))
  /-- Anything else is the name of a flag. -/
  | flag {atom : List Char} (h : NamesFlag atom) : Means atom (.flag (String.ofList atom))

variable {key : String} {test : String → Condition} {atom : List Char} {c : Condition}

theorem Keyword.isAtom (h : Keyword key test) : IsAtom key.toList := by cases h <;> decide

theorem Keyword.value_readAtom (h : Keyword key test) (operand : List Char) :
    (readAtom (key.toList ++ operand)).value = test (String.ofList (trim operand)) := by
  cases h <;> rfl

theorem readAtom_npc (rest : List Char) : readAtom ("npc_state:".toList ++ rest) =
    readNpcState ("npc_state:".toList ++ rest) rest := rfl

/-- Without a keyword, an atom is about a flag. -/
theorem readAtom_of_noKeyword (h : ∀ key ∈ keywords, ¬ key <+: atom) :
    readAtom atom = pure (readFlag atom) := by
  have hnone : ∀ key ∈ keywords, after? key atom = none := by
    intro key hkey
    cases hafter : after? key atom with
    | none => rfl
    | some rest => exact absurd ⟨rest, (after?_eq_some.1 hafter).symm⟩ (h key hkey)
  simp only [keywords, List.mem_cons, List.not_mem_nil, or_false, forall_eq_or_imp, forall_eq]
    at hnone
  obtain ⟨hasked, hnotAsked, hlacks, hhas, hnpc, hvisited⟩ := hnone
  rw [readAtom, hasked, hnotAsked, hlacks, hhas, hnpc, hvisited]

/-- Every keyword has a colon, so nothing without one starts with a keyword. -/
theorem noKeyword_of_noColon (hcolon : ':' ∉ atom) : ∀ key ∈ keywords, ¬ key <+: atom := by
  rintro key hkey ⟨rest, rfl⟩
  have hcolons : ∀ key ∈ keywords, ':' ∈ key := by decide
  exact hcolon (List.mem_append_left rest (hcolons key hkey))

theorem readAtom_bang {name : List Char} (hcolon : ':' ∉ name) :
    readAtom ('!' :: name) = pure (.notFlag (String.ofList (trim name))) := by
  have hbang : ':' ∉ '!' :: name := by simpa using hcolon
  rw [readAtom_of_noKeyword (noKeyword_of_noColon hbang), readFlag, if_neg hcolon]

theorem NamesFlag.readAtom_eq (h : NamesFlag atom) :
    readAtom atom = pure (.flag (String.ofList atom)) := by
  rw [readAtom_of_noKeyword h.noKeyword]
  unfold readFlag
  split
  · rename_i name
    rw [if_pos (h.noBang name rfl)]
  · rfl

/-- An atom without a keyword names a flag, or it has an exclamation mark and no colon. -/
theorem namesFlag_or_bang (h : ∀ key ∈ keywords, ¬ key <+: atom) :
    NamesFlag atom ∨ ∃ name, atom = '!' :: name ∧ ':' ∉ name := by
  by_cases hbang : ∀ name, atom = '!' :: name → ':' ∈ name
  · exact .inl ⟨h, hbang⟩
  · simp only [not_forall] at hbang
    obtain ⟨name, rfl, hcolon⟩ := hbang
    exact .inr ⟨name, rfl, hcolon⟩

/-- **Every atom has one of these forms**, and is read as what the form means. -/
theorem means_readAtom (atom : List Char) : Means atom (readAtom atom).value := by
  -- no keyword begins another one, so an atom that starts with one is read by it
  by_cases hkeyword : ∀ key ∈ keywords, ¬ key <+: atom
  · rcases namesFlag_or_bang hkeyword with hnames | ⟨name, rfl, hcolon⟩
    · rw [hnames.readAtom_eq]
      exact .flag hnames
    · rw [readAtom_bang hcolon]
      exact .notFlag hcolon
  · obtain ⟨key, hkey, rest, rfl⟩ : ∃ key ∈ keywords, key <+: atom := by simpa using hkeyword
    have hnpc : Means ("npc_state:".toList ++ rest)
        (readAtom ("npc_state:".toList ++ rest)).value := by
      rw [readAtom_npc, readNpcState]
      cases hcut : cut ':' rest with
      | none => exact .noState (cut_eq_none.1 hcut)
      | some parts =>
        obtain ⟨rfl, hcolon⟩ := cut_eq_some hcut
        exact .npcState hcolon parts.2
    simp only [keywords, List.mem_cons, List.not_mem_nil, or_false] at hkey
    rcases hkey with rfl | rfl | rfl | rfl | rfl | rfl
    · exact .keyword .asked rest
    · exact .keyword .notAsked rest
    · exact .keyword .lacksItem rest
    · exact .keyword .hasItem rest
    · exact hnpc
    · exact .keyword .visited rest

theorem means_iff : Means atom c ↔ (readAtom atom).value = c := by
  constructor
  · intro h
    cases h with
    | keyword h operand => exact h.value_readAtom operand
    | npcState hcolon state =>
      rw [readAtom_npc, readNpcState, cut_append hcolon]
      rfl
    | noState hcolon => rw [readAtom_npc, readNpcState, cut_eq_none.2 hcolon]
    | notFlag hcolon => rw [readAtom_bang hcolon, Noted.value_pure]
    | flag h => rw [h.readAtom_eq, Noted.value_pure]
  · rintro rfl
    exact means_readAtom atom

/-- An atom means one test. -/
theorem Means.ne (h : Means atom c) : c ≠ .always ∧ ∀ cs, c ≠ .all cs := by
  cases h with
  | keyword h => cases h <;> exact ⟨nofun, nofun⟩
  | npcState | noState | notFlag | flag => exact ⟨nofun, nofun⟩

/-- **An atom tests a flag just if it names it**, and the flag is called like the atom. -/
theorem value_readAtom_eq_flag_iff {name : String} :
    (readAtom atom).value = .flag name ↔ NamesFlag atom ∧ name = String.ofList atom := by
  rw [← means_iff]
  constructor
  · intro h
    generalize hc : Condition.flag name = c at h
    cases h with
    | keyword h => cases h <;> cases hc
    | flag h => exact ⟨h, Condition.flag.inj hc⟩
    | npcState | noState | notFlag => cases hc
  · rintro ⟨hnames, rfl⟩
    exact .flag hnames

/-- An atom never holds just if it is about the state of a character and has no second colon. -/
theorem means_never_iff :
    Means atom .never ↔ ∃ rest, atom = "npc_state:".toList ++ rest ∧ ':' ∉ rest := by
  constructor
  · intro h
    generalize hc : Condition.never = c at h
    cases h with
    | keyword h => cases h <;> cases hc
    | noState hcolon => exact ⟨_, rfl, hcolon⟩
    | npcState | notFlag | flag => cases hc
  · rintro ⟨rest, rfl, hcolon⟩
    exact .noState hcolon

/-! ## Flaws -/

theorem notes_readLabel (test : String → Condition) (atom label : List Char) :
    (readLabel test atom label).notes = [] ↔ trim label ≠ [] := by
  simp [readLabel]

theorem notes_readNpcState (atom rest : List Char) :
    (readNpcState atom rest).notes = [] ↔ ':' ∈ rest := by
  cases hcut : cut ':' rest with
  | none => simp [readNpcState, hcut, cut_eq_none.1 hcut]
  | some parts =>
    obtain ⟨rfl, -⟩ := cut_eq_some hcut
    simp [readNpcState, hcut]

/-- What an atom with a flaw means: there is no state to test, or no label. -/
def Flawed (c : Condition) : Prop := c = .never ∨ c = .asked "" ∨ c = .notAsked ""

/-- **An atom has a flaw just if its meaning shows it.** -/
theorem Means.notes_eq_nil_iff (h : Means atom c) : (readAtom atom).notes = [] ↔ ¬ c.Flawed := by
  cases h with
  | keyword h operand =>
    cases h with
    | asked =>
      have hread : readAtom ("asked:".toList ++ operand) = readLabel .asked _ operand := rfl
      rw [hread, notes_readLabel]
      simp [Flawed]
    | notAsked =>
      have hread : readAtom ("!asked:".toList ++ operand) = readLabel .notAsked _ operand := rfl
      rw [hread, notes_readLabel]
      simp [Flawed]
    | hasItem | lacksItem | visited => exact iff_of_true rfl (by simp [Flawed])
  | npcState hcolon state =>
    rw [readAtom_npc, notes_readNpcState]
    simp [Flawed]
  | noState hcolon =>
    rw [readAtom_npc, notes_readNpcState]
    simp [Flawed, hcolon]
  | notFlag hcolon =>
    rw [readAtom_bang hcolon]
    simp [Flawed]
  | flag h =>
    rw [h.readAtom_eq]
    simp [Flawed]

end Condition

end Colloquy
