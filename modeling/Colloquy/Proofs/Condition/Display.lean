import Colloquy.Proofs.Condition.Atom

/-!
# Conditions read back — a clause is displayed as a clause

A clause can be spelled in many ways: blanks around operands and atoms without content are lost when
it is read. Displaying the condition spells it in one way, which reads as the condition again, with
flaws or without and on however many lines. Two conditions have no spelling and are displayed as
words that no clause reads so: the one that always holds and the one that never does. A condition
comes back just if it is not the first and the second is no part of it, and what is displayed is
displayed so again in any case (`display_reads_back_iff`). Without a flaw in the clause there is
none in what is displayed, and what was on one line stays on one line (`Written`).
-/

namespace Colloquy

namespace Condition

open Text

/-! ## Displaying an atom -/

section

variable {key : String} {test : String → Condition} {atom : List Char} {c : Condition}

theorem Keyword.display (h : Keyword key test) (operand : String) :
    (test operand).display = key ++ operand := by cases h <;> rfl

theorem display_flag (name : String) : (Condition.flag name).display = name := rfl

theorem display_never : Condition.never.display = "<never>" := rfl

theorem display_always : Condition.always.display = "<always>" := rfl

theorem display_all (cs : List Condition) :
    (Condition.all cs).display = Text.join ", " (cs.map display) :=
  congrArg (Text.join ", ") (displayAll_eq cs)

theorem toList_display_npcState (npc state : List Char) :
    (Condition.npcState (String.ofList npc) (String.ofList state)).display.toList =
      "npc_state:".toList ++ (npc ++ ':' :: state) := by
  have hdisplay : (Condition.npcState (String.ofList npc) (String.ofList state)).display =
      "npc_state:" ++ String.ofList npc ++ ":" ++ String.ofList state := rfl
  simp [hdisplay]

theorem toList_display_notFlag (name : List Char) :
    (Condition.notFlag (String.ofList name)).display.toList = '!' :: name := by
  have hdisplay : (Condition.notFlag (String.ofList name)).display = "!" ++ String.ofList name :=
    rfl
  simp [hdisplay]

/-- **What an atom means is displayed as an atom that means it**, unless it never holds. -/
theorem Means.display (h : Means atom c) (hc : c ≠ .never) : Means c.display.toList c := by
  cases h with
  | keyword h operand =>
    rw [h.display, String.toList_append, String.toList_ofList]
    simpa using Means.keyword h (trim operand)
  | npcState hcolon state =>
    rw [toList_display_npcState]
    simpa using Means.npcState (fun hc => hcolon (mem_of_mem_trim hc)) (trim state)
  | noState => exact absurd rfl hc
  | notFlag hcolon =>
    rw [toList_display_notFlag]
    simpa using Means.notFlag fun hc => hcolon (mem_of_mem_trim hc)
  | flag h =>
    rw [display_flag, String.toList_ofList]
    exact .flag h

/-- **Nothing is displayed that the atom does not say.** -/
theorem Means.mem_of_mem_display (h : Means atom c) (hc : c ≠ .never) :
    ∀ x ∈ c.display.toList, x ∈ atom := by
  intro x hx
  cases h with
  | keyword h operand =>
    rw [h.display, String.toList_append, String.toList_ofList] at hx
    exact (List.mem_append.1 hx).elim (List.mem_append_left _)
      fun hx => List.mem_append_right _ (mem_of_mem_trim hx)
  | npcState hcolon state =>
    rw [toList_display_npcState] at hx
    simp only [List.mem_append, List.mem_cons] at hx ⊢
    exact hx.imp_right (Or.imp mem_of_mem_trim (Or.imp_right mem_of_mem_trim))
  | noState => exact absurd rfl hc
  | notFlag hcolon =>
    rw [toList_display_notFlag] at hx
    exact (List.mem_cons.1 hx).elim (fun hx => hx ▸ List.mem_cons_self)
      fun hx => List.mem_cons_of_mem _ (mem_of_mem_trim hx)
  | flag h =>
    rwa [display_flag, String.toList_ofList] at hx

/-- The state behind the last colon ends the test of it. -/
theorem endsBare_state (npc state : List Char) : EndsBare (trim npc ++ ':' :: trim state) := by
  rw [endsBare_append _ (List.cons_ne_nil _ _)]
  by_cases hnil : trim state = []
  · rw [hnil]
    rintro c ⟨rfl⟩
    decide
  · exact (endsBare_append [':'] hnil).2 (endsBare_trim state)

/-- **What an atom means is displayed as an atom**, also if it never holds. -/
theorem Means.isAtom_display (h : Means atom c) (hatom : IsAtom atom) :
    IsAtom c.display.toList := by
  -- nothing is displayed but what the atom says, so only the end of the operand is in question
  have hcomma (hc : c ≠ .never) : ',' ∉ c.display.toList :=
    fun hmem => hatom.noComma (h.mem_of_mem_display hc _ hmem)
  cases h with
  | keyword h operand =>
    rw [h.display, String.toList_append, String.toList_ofList] at hcomma ⊢
    refine h.isAtom.append (endsBare_trim operand) fun hmem => ?_
    exact hcomma (by cases h <;> exact Condition.noConfusion) (List.mem_append_right _ hmem)
  | npcState hcolon state =>
    rw [toList_display_npcState] at hcomma ⊢
    refine (by decide : IsAtom "npc_state:".toList).append (endsBare_state _ state) fun hmem => ?_
    exact hcomma Condition.noConfusion (List.mem_append_right _ hmem)
  | noState =>
    rw [display_never]
    decide
  | @notFlag name hcolon =>
    rw [toList_display_notFlag] at hcomma ⊢
    refine (by decide : IsAtom ['!']).append (endsBare_trim name) fun hmem => ?_
    exact hcomma Condition.noConfusion (List.mem_cons_of_mem _ hmem)
  | flag =>
    rw [display_flag, String.toList_ofList]
    exact hatom

/-- The word for what never holds is the name of a flag. -/
theorem value_readAtom_display_never :
    (readAtom Condition.never.display.toList).value = .flag Condition.never.display := by
  rw [display_never]
  rfl

/-- A test is read back just if it may hold. -/
theorem Means.value_display_iff (h : Means atom c) :
    (readAtom c.display.toList).value = c ↔ c ≠ .never := by
  constructor
  · rintro hread rfl
    cases value_readAtom_display_never.symm.trans hread
  · exact fun hc => means_iff.1 (h.display hc)

/-- Read back or not, it is displayed as before. -/
theorem Means.display_value_display (h : Means atom c) :
    (readAtom c.display.toList).value.display = c.display := by
  by_cases hc : c = .never
  · rw [hc, value_readAtom_display_never, display_flag]
  · rw [h.value_display_iff.2 hc]

/-- A test without a flaw is read back without a flaw. -/
theorem Means.readAtom_display (h : Means atom c) (hsound : ¬ c.Flawed) :
    readAtom c.display.toList = pure c := by
  have hc : c ≠ .never := fun hc => hsound (.inl hc)
  have hnotes : (readAtom c.display.toList).notes = [] := (h.display hc).notes_eq_nil_iff.2 hsound
  have hvalue : (readAtom c.display.toList).value = c := h.value_display_iff.2 hc
  cases hread : readAtom c.display.toList with
  | mk value notes =>
    rw [hread] at hvalue hnotes
    rw [show value = c from hvalue, show notes = [] from hnotes]
    rfl

end

/-! ## Several tests -/

/-- The atoms of a clause are those on both sides of any of its commas. -/
theorem atoms_comma (front back : List Char) :
    atoms (front ++ ',' :: back) = atoms front ++ atoms back := by
  simp only [atoms, pieces_append_sep, List.map_append, List.filter_append]

/-- Blanks in front of an atom do not count. -/
theorem atoms_blank_append {blanks : List Char} (h : ∀ c ∈ blanks, isBlank c = true)
    (clause : List Char) : atoms (blanks ++ clause) = atoms clause := by
  induction blanks with
  | nil => rfl
  | cons c blanks ih =>
    have hblank : isBlank c = true := h c List.mem_cons_self
    have hc : c ≠ ',' := by
      rintro rfl
      exact absurd hblank (by decide)
    rw [← ih fun d hd => h d (List.mem_cons_of_mem c hd), List.cons_append]
    obtain ⟨p, ps, hpieces⟩ := List.exists_cons_of_ne_nil (pieces_ne_nil ',' (blanks ++ clause))
    simp [atoms, pieces, hpieces, hc, trim_blank_cons hblank]

/-- **The atoms of clauses that are joined by commas are those of the clauses**, whether or not
blanks follow the commas. -/
theorem atoms_join {sep : String} {blanks : List Char} (hsep : sep.toList = ',' :: blanks)
    (hblanks : ∀ c ∈ blanks, isBlank c = true) (clauses : List String) :
    atoms (Text.join sep clauses).toList = clauses.flatMap fun clause => atoms clause.toList := by
  induction clauses with
  | nil => rfl
  | cons clause rest ih =>
    by_cases hnil : rest = []
    · rw [hnil, Text.join, String.intercalate_singleton, List.flatMap_singleton]
    · have hjoin : (Text.join sep (clause :: rest)).toList =
          clause.toList ++ ',' :: (blanks ++ (Text.join sep rest).toList) := by
        rw [Text.join, String.intercalate_cons_of_ne_nil hnil, String.toList_append,
          String.toList_append, List.append_assoc, hsep]
        rfl
      rw [hjoin, atoms_comma, atoms_blank_append hblanks, ih, List.flatMap_cons]

theorem display_conjunction {cs : List Condition} (h : cs ≠ []) :
    (conjunction cs).display = Text.join ", " (cs.map display) := by
  unfold conjunction
  split
  · exact absurd rfl h
  · rw [List.map_singleton, Text.join, String.intercalate_singleton]
  · rw [display_all]

/-- **The atoms of a displayed conjunction are the displayed tests.** -/
theorem atoms_display_conjunction {cs : List Condition} (hne : cs ≠ [])
    (h : ∀ c ∈ cs, IsAtom c.display.toList) :
    atoms (conjunction cs).display.toList = cs.map fun c => c.display.toList := by
  have hsep : ", ".toList = ',' :: [' '] := rfl
  rw [display_conjunction hne, atoms_join hsep isBlank_of_mem_space, List.flatMap_map]
  clear hne
  induction cs with
  | nil => rfl
  | cons c cs ih =>
    rw [List.flatMap_cons, atoms_of_isAtom (h c List.mem_cons_self),
      ih fun d hd => h d (List.mem_cons_of_mem c hd), List.map_cons, List.singleton_append]

/-! ## Clauses -/

/-- What the atoms of a clause mean. -/
def meanings (clause : List Char) : List Condition :=
  (atoms clause).map fun atom => (readAtom atom).value

variable {clause : List Char}

theorem value_read (clause : List Char) : (read clause).value = conjunction (meanings clause) := by
  rw [read, Noted.value_map, Noted.value_each, meanings]

theorem notes_read_eq (clause : List Char) :
    (read clause).notes = (atoms clause).flatMap fun atom => (readAtom atom).notes := by
  rw [read, Noted.notes_map, Noted.notes_each]

theorem value_compile (clause : String) :
    (compile clause).value = conjunction (meanings clause.toList) := by
  rw [compile, Noted.value_mapNotes, value_read]

/-- Each meaning is that of an atom, and is displayed as an atom. -/
theorem means_of_mem_meanings {c : Condition} (h : c ∈ meanings clause) :
    ∃ atom ∈ atoms clause, Means atom c ∧ IsAtom c.display.toList := by
  obtain ⟨atom, hatom, rfl⟩ := List.mem_map.1 h
  exact ⟨atom, hatom, means_readAtom atom,
    (means_readAtom atom).isAtom_display (isAtom_of_mem_atoms hatom).1⟩

theorem isAtom_display_of_mem_meanings {c : Condition} (h : c ∈ meanings clause) :
    IsAtom c.display.toList := by
  obtain ⟨_, -, -, hatom⟩ := means_of_mem_meanings h
  exact hatom

/-- **The atoms of a displayed clause mean what the displayed tests mean.** -/
theorem meanings_display (hne : meanings clause ≠ []) :
    meanings (conjunction (meanings clause)).display.toList =
      (meanings clause).map fun c => (readAtom c.display.toList).value := by
  rw [meanings, atoms_display_conjunction hne fun c => isAtom_display_of_mem_meanings,
    List.map_map]
  rfl

/-- A clause always holds just if it has no atoms. -/
theorem conjunction_meanings_eq_always_iff :
    conjunction (meanings clause) = .always ↔ meanings clause = [] := by
  constructor
  · intro h
    unfold conjunction at h
    split at h
    · assumption
    · rename_i c hc
      obtain ⟨_, -, hmeans, -⟩ := means_of_mem_meanings (hc ▸ List.mem_singleton_self c)
      exact absurd h hmeans.ne.1
    · cases h
  · intro h
    rw [h]
    rfl

/-! ## Reading back -/

/-- A condition is another one, or part of it at some depth. -/
inductive Occurs (c : Condition) : Condition → Prop where
  | whole : Occurs c c
  | part {d : Condition} {ds : List Condition} (hd : d ∈ ds) (h : Occurs c d) : Occurs c (.all ds)

theorem Means.occurs_never_iff {atom : List Char} {c : Condition} (h : Means atom c) :
    Occurs .never c ↔ c = .never := by
  constructor
  · intro hoccurs
    cases hoccurs with
    | whole => rfl
    | part => exact absurd rfl (h.ne.2 _)
  · rintro rfl
    exact .whole

theorem occurs_never_conjunction {cs : List Condition} :
    Occurs .never (conjunction cs) ↔ ∃ c ∈ cs, Occurs .never c := by
  unfold conjunction
  split
  · simpa using nofun
  · simp
  · constructor
    · rintro (_ | ⟨hc, h⟩)
      exact ⟨_, hc, h⟩
    · rintro ⟨c, hc, h⟩
      exact .part hc h

theorem occurs_never_iff :
    Occurs .never (conjunction (meanings clause)) ↔ .never ∈ meanings clause := by
  rw [occurs_never_conjunction]
  constructor
  · rintro ⟨c, hc, hoccurs⟩
    obtain ⟨_, -, hmeans, -⟩ := means_of_mem_meanings hc
    exact hmeans.occurs_never_iff.1 hoccurs ▸ hc
  · exact fun hmem => ⟨_, hmem, .whole⟩

/-- Nothing satisfies a clause with an atom about the state of a character that has no second
colon. -/
theorem never_mem_meanings_iff : .never ∈ meanings clause ↔
    ∃ atom ∈ atoms clause, ∃ rest, atom = "npc_state:".toList ++ rest ∧ ':' ∉ rest := by
  simp only [meanings, List.mem_map, ← means_iff, means_never_iff]

/-- Conjunctions of as many conditions are the same just if the conditions are. -/
theorem conjunction_inj {cs ds : List Condition} (hlength : cs.length = ds.length) :
    conjunction cs = conjunction ds ↔ cs = ds := by
  refine ⟨fun h => ?_, congrArg conjunction⟩
  match cs, ds, hlength with
  | [], [], _ => rfl
  | [c], [d], _ => rw [show c = d from h]
  | c₁ :: c₂ :: cs, d₁ :: d₂ :: ds, _ => exact Condition.all.inj h

/-- A clause with atoms is read back just if each of them may hold. -/
theorem value_compile_display_iff (hne : meanings clause ≠ []) :
    (compile (conjunction (meanings clause)).display).value = conjunction (meanings clause) ↔
      .never ∉ meanings clause := by
  have hreread : (compile (conjunction (meanings clause)).display).value =
      conjunction (meanings clause) ↔
        ∀ c ∈ meanings clause, (readAtom c.display.toList).value = c := by
    rw [value_compile, meanings_display hne, conjunction_inj (List.length_map _),
      ← List.map_inj_left, List.map_id']
  -- both are conjunctions of as many tests, so each test is compared with itself read back
  rw [hreread]
  constructor
  · intro h hmem
    obtain ⟨_, -, hmeans, -⟩ := means_of_mem_meanings hmem
    exact hmeans.value_display_iff.1 (h _ hmem) rfl
  · intro h c hc
    obtain ⟨_, -, hmeans, -⟩ := means_of_mem_meanings hc
    exact hmeans.value_display_iff.2 fun hnever => h (hnever ▸ hc)

/-- What is displayed of a clause with atoms is displayed so again. -/
theorem display_compile_display (hne : meanings clause ≠ []) :
    (compile (conjunction (meanings clause)).display).value.display =
      (conjunction (meanings clause)).display := by
  rw [value_compile, meanings_display hne, display_conjunction (by simpa using hne),
    display_conjunction hne, List.map_map]
  congr 1
  refine List.map_congr_left fun c hc => ?_
  obtain ⟨_, -, hmeans, -⟩ := means_of_mem_meanings hc
  exact hmeans.display_value_display

/-- The word for what always holds is the name of a flag. -/
theorem value_compile_display_always :
    (compile Condition.always.display).value = .flag Condition.always.display := by
  rw [display_always]
  decide

/-- **Displaying a clause spells it as it can be read back.** The condition of a clause, displayed
and read, is the condition again just if it is not the one that always holds and the one that never
holds is no part of it; and this is part of it just if the clause has an atom about the state of a
character without a second colon. In any case what is displayed is displayed so again. -/
theorem display_reads_back_iff (clause : String) :
    ((compile (compile clause).value.display).value = (compile clause).value ↔
      (compile clause).value ≠ .always ∧ ¬ Occurs .never (compile clause).value) ∧
    (Occurs .never (compile clause).value ↔ ∃ atom ∈ atoms clause.toList, ∃ rest,
      atom = "npc_state:".toList ++ rest ∧ ':' ∉ rest) ∧
    (compile (compile clause).value.display).value.display = (compile clause).value.display := by
  rw [value_compile clause]
  have hnever : Occurs .never (conjunction (meanings clause.toList)) ↔
      .never ∈ meanings clause.toList := occurs_never_iff
  refine ⟨?_, hnever.trans never_mem_meanings_iff, ?_⟩
  · -- without atoms the word for what always holds is read, and it names a flag
    rw [hnever, Ne, conjunction_meanings_eq_always_iff]
    by_cases hne : meanings clause.toList = []
    · rw [conjunction_meanings_eq_always_iff.2 hne, value_compile_display_always]
      simp [hne]
    · simp [hne, value_compile_display_iff hne]
  · by_cases hne : meanings clause.toList = []
    · rw [conjunction_meanings_eq_always_iff.2 hne, value_compile_display_always, display_flag]
    · exact display_compile_display hne

/-- Blanks and empty atoms are gone, and every operand is where it was. -/
example : (compile " ,asked: a ,,!  b,npc_state: c : d:e ,!has:").value.display =
    "asked:a, !b, npc_state:c:d:e, !has:" := by decide +kernel

/-! ## Conditions from clauses without a flaw -/

/-- The conditions that a clause on one line without a flaw has, other than the one that always
holds. -/
def Written (c : Condition) : Prop :=
  c ≠ .always ∧ ∃ clause : String, '\n' ∉ clause.toList ∧ read clause.toList = pure c

/-- **A written condition is what the atoms of a clause mean**, none of which has a flaw. -/
theorem Written.meanings {c : Condition} (h : Written c) :
    ∃ clause, '\n' ∉ clause ∧ meanings clause ≠ [] ∧ c = conjunction (meanings clause) ∧
      ∀ d ∈ meanings clause, ¬ d.Flawed := by
  obtain ⟨hc, clause, hline, hread⟩ := h
  have hvalue : conjunction (Condition.meanings clause.toList) = c := by
    rw [← value_read, hread, Noted.value_pure]
  have hnotes : (read clause.toList).notes = [] := by rw [hread, Noted.notes_pure]
  rw [notes_read_eq, List.flatMap_eq_nil_iff] at hnotes
  refine ⟨clause.toList, hline, fun hnil => ?_, hvalue.symm, fun d hd => ?_⟩
  · exact hc (hvalue ▸ conjunction_meanings_eq_always_iff.2 hnil)
  · obtain ⟨atom, hatom, rfl⟩ := List.mem_map.1 hd
    exact (means_readAtom atom).notes_eq_nil_iff.1 (hnotes atom hatom)

theorem clean_join {texts : List String} (hne : texts ≠ []) (h : ∀ t ∈ texts, Clean t.toList) :
    Clean (Text.join ", " texts).toList := by
  induction texts with
  | nil => exact absurd rfl hne
  | cons t texts ih =>
    have ht := h t List.mem_cons_self
    by_cases hnil : texts = []
    · rw [hnil, Text.join, String.intercalate_singleton]
      exact ht
    · rw [Text.join, String.intercalate_cons_of_ne_nil hnil, String.toList_append,
        String.toList_append, List.append_assoc]
      exact ht.append (by decide) (ih hnil fun u hu => h u (List.mem_cons_of_mem t hu))

/-- **The text of a written condition fits in a field.** -/
theorem Written.clean {c : Condition} (h : Written c) : Clean c.display.toList := by
  obtain ⟨clause, hline, hne, rfl, hsound⟩ := h.meanings
  rw [display_conjunction hne]
  refine clean_join (by simpa using hne) fun t ht => ?_
  obtain ⟨d, hd, rfl⟩ := List.mem_map.1 ht
  obtain ⟨atom, hatom, hmeans, hshown⟩ := means_of_mem_meanings hd
  refine ⟨hshown.filled, hshown.trimmed, fun hmem => hline ?_⟩
  have hc : d ≠ .never := fun hc => hsound d hd (.inl hc)
  exact (isAtom_of_mem_atoms hatom).2 _ (hmeans.mem_of_mem_display hc _ hmem)

/-- **The text of a written condition reads as the condition, without a flaw.** -/
theorem Written.read_display {c : Condition} (h : Written c) : read c.display.toList = pure c := by
  obtain ⟨clause, -, hne, rfl, hsound⟩ := h.meanings
  have heach : Noted.each readAtom ((Condition.meanings clause).map fun d => d.display.toList) =
      pure (Condition.meanings clause) := by
    refine Noted.each_eq_pure ?_
    rw [List.map_map]
    refine List.map_congr_left fun d hd => ?_
    obtain ⟨_, -, hmeans, -⟩ := means_of_mem_meanings hd
    exact hmeans.readAtom_display (hsound d hd)
  rw [read, atoms_display_conjunction hne fun c => isAtom_display_of_mem_meanings, heach]
  rfl

end Condition

end Colloquy
