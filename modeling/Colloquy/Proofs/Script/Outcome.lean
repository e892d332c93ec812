import Colloquy.Proofs.Script.Place

/-!
# Outcomes — what a script comes to, section by section

A script comes to nothing if it has no heading, or only sections without rows. Any other script is
a graph, and what stands in it under a name is what the last section with rows of that name says on
its own: a section is read as if the script consisted of it (`read_script`), so that nothing passes
from one section to another. What is remarked falls into remarks on loose rows, remarks on empty and
on repeated sections, and what is remarked inside of each section.
-/

namespace Colloquy

open Text

/-- The script that consists of a section. -/
def Section.script (s : Section) : String :=
  paragraph ((s.heading :: s.body).map fun row => String.ofList row.text)

namespace Script

variable {rows loose : List Row} {found : List Section} {s : Section}

/-! ## Rows of a script -/

theorem text_of_mem_ofLines {number offset : Nat} {lines : List (List Char)} {row : Row}
    (h : row ∈ Row.ofLines number offset lines) :
    ∃ line ∈ lines, row.text = trim line ∧ trim line ≠ [] := by
  induction lines generalizing number offset with
  | nil => exact absurd h List.not_mem_nil
  | cons line lines ih =>
    rcases List.mem_append.1 h with h | h
    · rw [Row.ofLine] at h
      split at h
      · exact absurd h List.not_mem_nil
      · rename_i hfilled
        obtain rfl := List.mem_singleton.1 h
        exact ⟨line, List.mem_cons_self, rfl, hfilled⟩
    · obtain ⟨other, hother, htext⟩ := ih h
      exact ⟨other, List.mem_cons_of_mem line hother, htext⟩

/-- **The rows of a script are clean.** -/
theorem clean_of_mem_ofScript {script : List Char} {row : Row} (h : row ∈ Row.ofScript script) :
    Clean row.text := by
  obtain ⟨line, hline, htext, hfilled⟩ := text_of_mem_ofLines h
  rw [htext]
  exact ⟨hfilled, trim_trim line, fun hmem => (of_mem_pieces hline).1 (mem_of_mem_trim hmem)⟩

/-! ## A section on its own -/

theorem Cut.mem_heading (h : Cut rows loose found) (hs : s ∈ found) : s.heading ∈ rows := by
  rw [← h.whole]
  exact List.mem_append_right _ (List.mem_flatMap.2 ⟨s, hs, List.mem_cons_self⟩)

theorem Cut.mem_body (h : Cut rows loose found) (hs : s ∈ found) {row : Row} (hrow : row ∈ s.body) :
    row ∈ rows := by
  rw [← h.whole]
  exact List.mem_append_right _ (List.mem_flatMap.2 ⟨s, hs, List.mem_cons_of_mem _ hrow⟩)

/-- A section is all there is to its rows. -/
theorem Cut.alone (h : Cut rows loose found) (hs : s ∈ found) :
    Cut (s.heading :: s.body) [] [s] where
  whole := by simp
  loose := fun _ hrow => absurd hrow List.not_mem_nil
  heading := by simpa using h.heading s hs
  body := by simpa using h.body s hs

/-- **A section that stands alone is read as it is among others.** -/
theorem read_script {hero script : String} (h : Cut (Row.ofScript script.toList) loose found)
    (hs : s ∈ found) (hbody : s.body ≠ []) :
    (read hero s.script).value = .ok (TextMap.empty.insert (String.ofList s.name)
      (readNode (lowercase hero) s).value) := by
  have hclean : ∀ line ∈ (s.heading :: s.body).map fun row => String.ofList row.text,
      Clean line.toList := by
    intro line hline
    obtain ⟨row, hrow, rfl⟩ := List.mem_map.1 hline
    rw [String.toList_ofList]
    rcases List.mem_cons.1 hrow with rfl | hrow
    · exact clean_of_mem_ofScript (h.mem_heading hs)
    · exact clean_of_mem_ofScript (h.mem_body hs hrow)
  have htexts : (Row.ofScript s.script.toList).map Row.text =
      (s.heading :: s.body).map Row.text := by
    rw [Section.script, text_ofScript_paragraph hclean, List.map_map]
    exact List.map_congr_left fun row _ => String.toList_ofList
  have hvalue : (readSections (lowercase hero) .empty [s]).value =
      TextMap.empty.insert (String.ofList s.name) (readNode (lowercase hero) s).value := by
    rw [readSections, readSection_of_filled _ _ hbody]
    rfl
  rw [read, readRows_congr _ htexts, readRows_of_cut _ (h.alone hs), if_neg (List.cons_ne_nil s []),
    hvalue]
  rfl

/-! ## What is remarked about sections -/

/-- What is remarked about a section that comes after others: that it is empty, or what is remarked
inside and that there was one of its name that is not empty. -/
def remarksOn (hero : String) (earlier : List Section) (s : Section) : List Remark :=
  if s.body = [] then [⟨s.heading, .emptySection (String.ofList s.name)⟩]
  else (readNode hero s).notes ++
    if ∃ t ∈ earlier, t.body ≠ [] ∧ t.name = s.name then
      [⟨s.heading, .repeatedSection (String.ofList s.name)⟩]
    else []

/-- Sections after others, from whose names the graph so far comes, are remarked on in order. -/
theorem notes_readSections_after (hero : String) (earlier : List Section) {g : Graph}
    (hg : ∀ key, g.contains key = true ↔
      ∃ t ∈ earlier, t.body ≠ [] ∧ String.ofList t.name = key) (found : List Section) :
    (readSections hero g found).notes =
      found.zipIdx.flatMap fun (s, i) => remarksOn hero (earlier ++ found.take i) s := by
  induction found generalizing earlier g with
  | nil => rfl
  | cons s found ih =>
    -- whether the name is taken shows in the graph so far, which has the names of those before
    have hnotes : (readSection hero g s).notes = remarksOn hero earlier s := by
      by_cases hbody : s.body = []
      · rw [readSection_of_empty hero g hbody, remarksOn, if_pos hbody]
      · simp only [readSection_of_filled hero g hbody, remarksOn, if_neg hbody, hg,
          String.ofList_inj]
    have hnext : ∀ key, (readSection hero g s).value.contains key = true ↔
        ∃ t ∈ earlier ++ [s], t.body ≠ [] ∧ String.ofList t.name = key := by
      intro key
      rw [contains_readSection, hg]
      simp [or_and_right, exists_or]
    rw [readSections, Noted.notes_bind, hnotes, ih _ hnext, List.zipIdx_cons', List.flatMap_cons,
      List.flatMap_map]
    simp [List.append_assoc]

theorem row_mem_of_mem_readSection {hero : String} {g : Graph} {r : Remark}
    (h : r ∈ (readSection hero g s).notes) : r.row ∈ s.heading :: s.body := by
  by_cases hbody : s.body = []
  · rw [readSection_of_empty hero g hbody] at h
    rw [List.mem_singleton.1 h]
    exact List.mem_cons_self
  · rw [readSection_of_filled hero g hbody] at h
    rcases List.mem_append.1 h with hinner | hrepeated
    · exact List.mem_cons_of_mem _ (remarksIn_readNode hero s r hinner).1
    · rw [List.mem_singleton.1 (List.mem_ite_nil_right.1 hrepeated).2]
      exact List.mem_cons_self

/-- What is remarked while sections are read is on their rows. -/
theorem row_mem_of_mem_readSections {hero : String} {g : Graph} {r : Remark}
    (h : r ∈ (readSections hero g found).notes) :
    r.row ∈ found.flatMap fun s => s.heading :: s.body := by
  induction found generalizing g with
  | nil => exact absurd h List.not_mem_nil
  | cons s found ih =>
    rw [readSections, Noted.notes_bind] at h
    rcases List.mem_append.1 h with hfirst | hlater
    · exact List.mem_append_left _ (row_mem_of_mem_readSection hfirst)
    · exact List.mem_append_right _ (ih hlater)

/-! ## Scripts -/

/-- The last section with rows that has its name. -/
def Prevails (found : List Section) (s : Section) : Prop :=
  ∃ before after, found = before ++ s :: after ∧ s.body ≠ [] ∧
    ∀ t ∈ after, t.name = s.name → t.body = []

/-- Of the sections with rows that have a name one is the last. -/
theorem exists_prevails {name : List Char} (h : ∃ s ∈ found, s.body ≠ [] ∧ s.name = name) :
    ∃ s, Prevails found s ∧ s.name = name := by
  induction found with
  | nil =>
    obtain ⟨s, hs, -⟩ := h
    exact absurd hs List.not_mem_nil
  | cons t found ih =>
    by_cases hlater : ∃ s ∈ found, s.body ≠ [] ∧ s.name = name
    · obtain ⟨s, ⟨before, after, rfl, hlast⟩, hname⟩ := ih hlater
      exact ⟨s, ⟨t :: before, after, rfl, hlast⟩, hname⟩
    · obtain ⟨s, hs, hbody, hname⟩ := h
      rcases List.mem_cons.1 hs with rfl | hs
      · refine ⟨s, ⟨[], found, rfl, hbody, fun u hu hsame => ?_⟩, hname⟩
        by_contra hfilled
        exact hlater ⟨u, hu, hfilled, hsame.trans hname⟩
      · exact absurd ⟨s, hs, hbody, hname⟩ hlater

/-- The graph that sections come to. -/
structure Assembled (hero : String) (found : List Section) (g : Graph) : Prop where
  /-- There is a node for the name of every section with rows, and no other. -/
  names : ∀ key, g.contains key = true ↔ ∃ s ∈ found, s.body ≠ [] ∧ String.ofList s.name = key
  /-- Of these sections one is the last of its name. -/
  last : ∀ key, g.contains key = true → ∃ s, Prevails found s ∧ String.ofList s.name = key
  /-- The node is the one that the last section of its name is on its own. -/
  node : ∀ s, Prevails found s → ∃ n, g.get? (String.ofList s.name) = some n ∧
    (read hero s.script).value = .ok (TextMap.empty.insert (String.ofList s.name) n)

/-- What a script comes to. -/
structure Outcome (hero script : String) (loose : List Row) (found : List Section) : Prop where
  cut : Cut (Row.ofScript script.toList) loose found
  /-- There are no sections just if no row is a heading. -/
  noSections : (read hero script).value = .error .noSections ↔
    ∀ row ∈ Row.ofScript script.toList, ∀ name, ¬ IsHeading row.text name
  /-- There are sections without a node just if some row is a heading and no section has rows. -/
  emptyGraph : (read hero script).value = .error .emptyGraph ↔
    (∃ row ∈ Row.ofScript script.toList, ∃ name, IsHeading row.text name) ∧
      ∀ s ∈ found, s.body = []
  /-- Otherwise there is a graph. -/
  graph : (∃ s ∈ found, s.body ≠ []) →
    ∃ g, (read hero script).value = .ok g ∧ Assembled hero found g
  /-- Every loose row is remarked on, and then every section. -/
  notes : (read hero script).notes = (loose.map fun row => ⟨row, .outsideSection⟩) ++
    found.zipIdx.flatMap fun (s, i) => remarksOn (lowercase hero) (found.take i) s
  /-- What is remarked inside a section is none of the remarks on loose rows and on sections. -/
  inside : ∀ s ∈ found, RemarksIn s.body (readNode (lowercase hero) s).notes

theorem Cut.exists_heading (h : Cut rows loose found) :
    (∃ row ∈ rows, ∃ name, IsHeading row.text name) ↔ found ≠ [] := by
  constructor
  · rintro ⟨row, hrow, name, hheading⟩ rfl
    rw [← h.whole, List.flatMap_nil, List.append_nil] at hrow
    exact h.loose row hrow name hheading
  · intro hsome
    obtain ⟨s, hs⟩ := List.exists_mem_of_ne_nil found hsome
    exact ⟨s.heading, h.mem_heading hs, s.name, h.heading s hs⟩

/-- The sections of a script are assembled to the graph that is read from them. -/
theorem assembled_readSections {hero script : String}
    (h : Cut (Row.ofScript script.toList) loose found) :
    Assembled hero found (readSections (lowercase hero) .empty found).value where
  names := contains_readSections_empty (lowercase hero) found
  last key hkey := by
    obtain ⟨s, hs, hbody, rfl⟩ := (contains_readSections_empty _ _ key).1 hkey
    obtain ⟨t, hlast, hname⟩ := exists_prevails ⟨s, hs, hbody, rfl⟩
    exact ⟨t, hlast, congrArg String.ofList hname⟩
  node s hs := by
    obtain ⟨before, after, hfound, hbody, hlast⟩ := hs
    have hmem : s ∈ found := by
      rw [hfound]
      exact List.mem_append_right before List.mem_cons_self
    refine ⟨_, ?_, read_script h hmem hbody⟩
    rw [hfound]
    exact get?_readSections _ _ hbody hlast

/-! ### What a cut comes to -/

/-- Reading rows tells that there are no sections just if there are none. -/
theorem Cut.readRows_eq_noSections_iff (h : Cut rows loose found) (hero : String) :
    (readRows hero rows).value = .error .noSections ↔ found = [] := by
  rw [readRows_of_cut hero h]
  dsimp only
  split
  · rename_i hnone
    exact iff_of_true rfl hnone
  · rename_i hsome
    refine iff_of_false ?_ hsome
    split <;> simp

/-- Reading rows tells that there is no node just if there are sections and none of them has
rows. -/
theorem Cut.readRows_eq_emptyGraph_iff (h : Cut rows loose found) (hero : String) :
    (readRows hero rows).value = .error .emptyGraph ↔ found ≠ [] ∧ ∀ s ∈ found, s.body = [] := by
  rw [readRows_of_cut hero h, ← isEmpty_readSections hero found]
  dsimp only
  split
  · rename_i hnone
    simp [hnone]
  · rename_i hsome
    split
    · rename_i hempty
      exact iff_of_true rfl ⟨hsome, hempty⟩
    · rename_i hfiled
      simp [hfiled]

/-- Rows come to a graph if some section has rows. -/
theorem Cut.readRows_eq_ok (h : Cut rows loose found) (hero : String) (hs : s ∈ found)
    (hbody : s.body ≠ []) :
    (readRows hero rows).value = .ok (readSections hero .empty found).value := by
  have hfiled : ¬ (readSections hero .empty found).value.isEmpty = true :=
    fun hempty => hbody ((isEmpty_readSections hero found).1 hempty s hs)
  rw [readRows_of_cut hero h]
  dsimp only
  rw [if_neg (List.ne_nil_of_mem hs), if_neg hfiled]

/-- **What a script comes to is told by its cut.** -/
theorem exists_outcome (hero script : String) : ∃ loose found, Outcome hero script loose found := by
  have hcut := cut_sections (Row.ofScript script.toList)
  generalize (sections (Row.ofScript script.toList)).1 = loose at hcut
  generalize (sections (Row.ofScript script.toList)).2 = found at hcut
  have hheading := hcut.exists_heading
  have hnone : found = [] ↔ ∀ row ∈ Row.ofScript script.toList, ∀ name,
      ¬ IsHeading row.text name := by
    rw [← not_iff_not, ← ne_eq, ← hheading]
    simp only [not_forall, not_not, exists_prop]
  refine ⟨loose, found, ⟨hcut, ?_, ?_, fun ⟨s, hs, hbody⟩ => ?_, ?_,
    fun s _ => remarksIn_readNode _ s⟩⟩
  · rw [← hnone]
    exact hcut.readRows_eq_noSections_iff _
  · rw [hheading]
    exact hcut.readRows_eq_emptyGraph_iff _
  · exact ⟨_, hcut.readRows_eq_ok _ hs hbody, assembled_readSections hcut⟩
  · have hnotes := congrArg Noted.notes (readRows_of_cut (lowercase hero) hcut)
    rw [notes_readSections_after _ [] (by simp [TextMap.contains])] at hnotes
    exact hnotes

end Script

end Colloquy
