import Colloquy.Proofs.Script.Cut

/-!
# The grammar — the scripts that are read without a remark

A script is grammatical if it starts with a heading, no two headings have the same name, every
section has rows, and every row is at home in its part of the section. The borders of the parts
depend on the rows before: the leading annotations are about the node, and from the first dash on
rows are about choices. The grammar is stated on rows and says nothing about readers; that a script
is read without a remark just if it is grammatical (`read_eq_pure_iff`) is put together from the
same statement for a row, a part, a section and the list of sections.
-/

namespace Colloquy

namespace Script

open Text

/-- The rows of a section, each at home in its part. -/
structure IsBody (rows : List Row) : Prop where
  filled : rows ≠ []
  /-- The leading annotations. -/
  annotations : ∀ row ∈ rows.takeWhile Row.isAnnotation, IsNodeLine row.text
  /-- What comes before the first choice. -/
  intro : ∀ row ∈ (rows.dropWhile Row.isAnnotation).takeWhile fun row => !row.opensChoice,
    IsIntroLine row.text
  /-- What comes from the first choice on. -/
  choices : ∀ row ∈ (rows.dropWhile Row.isAnnotation).dropWhile fun row => !row.opensChoice,
    IsChoiceLine row.text

/-- Rows that are sections, at least one, with different names and nothing out of place. -/
def Grammatical (rows : List Row) : Prop :=
  ∃ found, Cut rows [] found ∧ found ≠ [] ∧ found.Pairwise (fun s t => s.name ≠ t.name) ∧
    ∀ s ∈ found, IsBody s.body

/-! ## Rows -/

/-- **Rows are read without a remark just if each of them is.** -/
theorem Rowwise.notes {σ : Type} {step : σ → Row → Remarked σ} {read : σ → List Row → Remarked σ}
    (h : Rowwise step read) {P : Row → Prop} {rows : List Row}
    (hstep : ∀ row ∈ rows, ∀ s, (step s row).notes = [] ↔ P row) (s : σ) :
    (read s rows).notes = [] ↔ ∀ row ∈ rows, P row := by
  induction rows generalizing s with
  | nil => simp [h.nil]
  | cons row rows ih =>
    rw [h.cons, Noted.notes_bind, List.append_eq_nil_iff, hstep row List.mem_cons_self,
      ih fun r hr => hstep r (List.mem_cons_of_mem row hr), List.forall_mem_cons]

theorem annotation?_of_isAnnotation {row : Row} (h : row.isAnnotation = true) :
    ∃ note, annotation? row.text = some note := by
  obtain ⟨rest, hrest⟩ := List.head?_eq_some_iff.1 (of_decide_eq_true h)
  rw [hrest, annotation?]
  split <;> exact ⟨_, rfl⟩

theorem notes_readAnnotations {rows : List Row} (h : ∀ row ∈ rows, row.isAnnotation = true)
    (n : Node) : (readAnnotations n rows).notes = [] ↔ ∀ row ∈ rows, IsNodeLine row.text := by
  refine rowwise_readAnnotations.notes (fun row hrow n => ?_) n
  obtain ⟨note, hnote⟩ := annotation?_of_isAnnotation (h row hrow)
  rw [annotateRow, hnote]
  exact notes_annotateNode hnote n

theorem notes_readIntroRows (hero : String) (d : IntroDraft) (rows : List Row) :
    (readIntroRows hero d rows).notes = [] ↔ ∀ row ∈ rows, IsIntroLine row.text :=
  (rowwise_readIntroRows hero).notes (fun _ _ d => notes_readIntroRow hero d) d

theorem notes_readChoiceRows {rows : List Row} (h : ∀ row ∈ rows, row.opensChoice = false)
    (hero : String) (d : ChoiceDraft) :
    (readChoiceRows hero d rows).notes = [] ↔ ∀ row ∈ rows, IsChoiceLine row.text :=
  (rowwise_readChoiceRows hero).notes (fun row hrow d => notes_readChoiceRow (h row hrow) hero d) d

/-! ## Choices -/

/-- The rows before the first choice. -/
theorem blocks_fst (rows : List Row) :
    (blocks rows).1 = rows.takeWhile fun row => !row.opensChoice := by
  induction rows with
  | nil => rfl
  | cons row rows ih =>
    cases hopens : row.opensChoice with
    | true => rw [blocks_cons_opening hopens, List.takeWhile_cons_of_neg (by simp [hopens])]
    | false => rw [blocks_cons_loose hopens, List.takeWhile_cons_of_pos (by simp [hopens]), ih]

/-- The rows from the first choice on. -/
theorem blocks_snd (rows : List Row) :
    (blocks rows).2.flatMap (fun b => b.opening :: b.body) =
      rows.dropWhile fun row => !row.opensChoice := by
  have h := blocks_rows rows
  rw [blocks_fst] at h
  exact List.append_cancel_left (h.trans List.takeWhile_append_dropWhile.symm)

/-- **A choice is opened by a dash, and no other row of it starts with one.** -/
theorem openings_of_mem {rows : List Row} {b : Block} (h : b ∈ (blocks rows).2) :
    b.opening.opensChoice = true ∧ ∀ row ∈ b.body, row.opensChoice = false := by
  induction rows with
  | nil => exact absurd h List.not_mem_nil
  | cons row rows ih =>
    cases hopens : row.opensChoice with
    | true =>
      rw [blocks_cons_opening hopens] at h
      rcases List.mem_cons.1 h with rfl | h
      · refine ⟨hopens, fun r hr => ?_⟩
        rw [blocks_fst] at hr
        simpa using List.mem_takeWhile_imp hr
      · exact ih h
    | false =>
      rw [blocks_cons_loose hopens] at h
      exact ih h

theorem notes_readChoice (hero : String) {b : Block} (hopening : b.opening.opensChoice = true)
    (hbody : ∀ row ∈ b.body, row.opensChoice = false) :
    (readChoice hero b).notes = [] ↔ ∀ row ∈ b.opening :: b.body, IsChoiceLine row.text := by
  obtain ⟨text, htext⟩ := List.head?_eq_some_iff.1 (of_decide_eq_true hopening)
  rw [List.forall_mem_cons, htext, isChoiceLine_opening]
  unfold readChoice
  rw [htext]
  by_cases hblank : trim text = []
  · simp [hblank, remark]
  · simp [hblank, notes_readChoiceRows hbody]

theorem notes_readChoices (hero : String) (rows : List Row) :
    (Noted.each (readChoice hero) (blocks rows).2).notes = [] ↔
      ∀ row ∈ rows.dropWhile fun row => !row.opensChoice, IsChoiceLine row.text := by
  rw [← blocks_snd, Noted.notes_each, List.flatMap_eq_nil_iff, List.forall_mem_flatMap]
  refine forall₂_congr fun b hb => ?_
  obtain ⟨hopening, hbody⟩ := openings_of_mem hb
  exact notes_readChoice hero hopening hbody

/-! ## Sections -/

/-- **The rows of a section are read without a remark just if each is at home in its part.** -/
theorem notes_readNode (hero : String) (s : Section) :
    (readNode hero s).notes = [] ∧ s.body ≠ [] ↔ IsBody s.body := by
  have hannotations : ∀ row ∈ s.annotations, row.isAnnotation = true := fun row hrow =>
    List.mem_takeWhile_imp hrow
  have hnotes : (readNode hero s).notes = [] ↔ (∀ row ∈ s.annotations, IsNodeLine row.text) ∧
      (∀ row ∈ s.intro, IsIntroLine row.text) ∧
        ∀ row ∈ s.contents.dropWhile fun row => !row.opensChoice, IsChoiceLine row.text := by
    rw [← notes_readAnnotations hannotations {}, ← notes_readIntroRows hero {}, ←
      notes_readChoices hero]
    simp [readNode, Section.choices]
  rw [hnotes, Section.intro, blocks_fst]
  exact ⟨fun h => ⟨h.2, h.1.1, h.1.2.1, h.1.2.2⟩,
    fun h => ⟨⟨h.annotations, h.intro, h.choices⟩, h.filled⟩⟩

/-- **A section is read without a remark just if it has rows, each at home, and a new name.** -/
theorem notes_readSection (hero : String) (g : Graph) (s : Section) :
    (readSection hero g s).notes = [] ↔
      IsBody s.body ∧ g.contains (String.ofList s.name) = false := by
  by_cases hbody : s.body = []
  · have hnone : ¬ IsBody s.body := fun h => h.filled hbody
    simp [readSection_of_empty hero g hbody, hnone]
  · rw [readSection_of_filled hero g hbody, ← notes_readNode hero s]
    cases g.contains (String.ofList s.name) <;> simp [hbody]

/-- **Sections are read without a remark just if each is, and each has a new name.** -/
theorem notes_readSections (hero : String) (g : Graph) (found : List Section) :
    (readSections hero g found).notes = [] ↔ (∀ s ∈ found, IsBody s.body) ∧
      (∀ s ∈ found, g.contains (String.ofList s.name) = false) ∧
        found.Pairwise fun s t => s.name ≠ t.name := by
  induction found generalizing g with
  | nil => simp [readSections]
  | cons s found ih =>
    -- a name is new after a section with rows if it was before and is not that of the section
    have hnew (hbody : s.body ≠ []) :
        (∀ t ∈ found, (readSection hero g s).value.contains (String.ofList t.name) = false) ↔
          (∀ t ∈ found, g.contains (String.ofList t.name) = false) ∧
            ∀ t ∈ found, s.name ≠ t.name := by
      rw [← forall₂_and]
      refine forall₂_congr fun t _ => ?_
      rw [← Bool.not_eq_true, contains_readSection, not_or, Bool.not_eq_true, String.ofList_inj,
        and_iff_right hbody]
    rw [readSections, Noted.notes_bind, List.append_eq_nil_iff, notes_readSection, ih,
      List.pairwise_cons, List.forall_mem_cons, List.forall_mem_cons]
    constructor
    · rintro ⟨⟨hbody, hfirst⟩, hbodies, hlater, hnames⟩
      obtain ⟨hrest, hother⟩ := (hnew hbody.filled).1 hlater
      exact ⟨⟨hbody, hbodies⟩, ⟨hfirst, hrest⟩, hother, hnames⟩
    · rintro ⟨⟨hbody, hbodies⟩, ⟨hfirst, hrest⟩, hother, hnames⟩
      exact ⟨⟨hbody, hfirst⟩, hbodies, (hnew hbody.filled).2 ⟨hrest, hother⟩, hnames⟩

/-! ## Scripts -/

theorem readRows_eq_pure_iff (hero : String) (rows : List Row) :
    (∃ g, readRows hero rows = pure (.ok g)) ↔ Grammatical rows := by
  constructor
  · rintro ⟨g, hread⟩
    have hcut := cut_sections rows
    rw [readRows_of_cut hero hcut] at hread
    obtain ⟨hvalue, hnotes⟩ := Noted.mk.inj hread
    obtain ⟨hloose, hsections⟩ := List.append_eq_nil_iff.1 hnotes
    rw [List.map_eq_nil_iff.1 hloose] at hcut
    obtain ⟨hbody, -, hnames⟩ := (notes_readSections hero _ _).1 hsections
    refine ⟨_, hcut, fun hnone => ?_, hnames, hbody⟩
    rw [if_pos hnone] at hvalue
    cases hvalue
  · rintro ⟨found, hcut, hsome, hnames, hbody⟩
    have hnotes : (readSections hero .empty found).notes = [] :=
      (notes_readSections hero _ _).2 ⟨hbody, fun _ _ => rfl, hnames⟩
    have hfiled : ¬ (readSections hero .empty found).value.isEmpty = true := by
      obtain ⟨s, hs⟩ := List.exists_mem_of_ne_nil found hsome
      exact fun hempty => (hbody s hs).filled ((isEmpty_readSections hero found).1 hempty s hs)
    rw [readRows_of_cut hero hcut, if_neg hsome, if_neg hfiled, hnotes]
    exact ⟨_, rfl⟩

/-- **A script is read without a remark just if it is grammatical**, whoever the hero is. -/
theorem read_eq_pure_iff (hero script : String) :
    (∃ g, read hero script = pure (.ok g)) ↔ Grammatical (Row.ofScript script.toList) :=
  readRows_eq_pure_iff _ _

end Script

end Colloquy
