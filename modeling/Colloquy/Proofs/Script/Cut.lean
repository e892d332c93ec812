import Colloquy.Proofs.Script.Form
import Colloquy.Proofs.Script.RoundTrip

/-!
# Cuts — what the sections of a script are, and what each of them does

A cut takes a list of rows apart: rows that belong to no section, and then sections, each a heading
and rows that are none. There is one cut of every list of rows, and `sections` finds it
(`cut_iff`). Reading goes through the sections of the cut in order. A section without rows is
remarked and otherwise leaves no trace; any other section files its node under its name, so that
what is found under a name was put there by the last section with rows that has it
(`get?_readSections`).
-/

namespace Colloquy

namespace TextMap

variable {α : Type}

/-- A map is empty if nothing is filed. -/
theorem isEmpty_iff (m : TextMap α) : m.isEmpty = true ↔ ∀ key, m.contains key = false := by
  rw [isEmpty, List.isEmpty_iff]
  constructor
  · intro h key
    rw [contains, get?, h]
    rfl
  · intro h
    refine eq_nil_of_lookup_eq_none fun key => ?_
    simpa [contains, get?] using h key

end TextMap

namespace Script

open Text

variable {rows loose : List Row} {found : List Section} {s : Section}

/-! ## Cuts -/

/-- Rows taken apart at their headings. -/
structure Cut (rows loose : List Row) (found : List Section) : Prop where
  /-- Nothing is lost. -/
  whole : loose ++ found.flatMap (fun s => s.heading :: s.body) = rows
  /-- No heading is loose. -/
  loose : ∀ row ∈ loose, ∀ name, ¬ IsHeading row.text name
  /-- A section starts with a heading that names it. -/
  heading : ∀ s ∈ found, IsHeading s.heading.text s.name
  /-- No other row of a section is a heading. -/
  body : ∀ s ∈ found, ∀ row ∈ s.body, ∀ name, ¬ IsHeading row.text name

theorem headingName?_eq_none_iff {line : List Char} :
    headingName? line = none ↔ ∀ name, ¬ IsHeading line name := by
  simp only [Option.eq_none_iff_forall_ne_some, ne_eq, headingName?_eq_some_iff]

theorem cut_sections (rows : List Row) : Cut rows (sections rows).1 (sections rows).2 where
  whole := sections_rows rows
  loose _ hrow := headingName?_eq_none_iff.1 (headingName?_loose hrow)
  heading _ hs := headingName?_eq_some_iff.1 (headings_of_mem hs).1
  body _ hs row hrow := headingName?_eq_none_iff.1 ((headings_of_mem hs).2 row hrow)

theorem Cut.sections_eq (h : Cut rows loose found) : sections rows = (loose, found) := by
  -- behind the loose rows a heading comes first, so each section is cut off whole
  have hfound : sections (found.flatMap fun s => s.heading :: s.body) = ([], found) := by
    have hheading := h.heading
    have hbody := h.body
    clear h
    induction found with
    | nil => rfl
    | cons s found ih =>
      have hopens := headingName?_eq_some_iff.2 (hheading s List.mem_cons_self)
      have hrest := ih (fun t ht => hheading t (List.mem_cons_of_mem s ht))
        (fun t ht => hbody t (List.mem_cons_of_mem s ht))
      have hloose : ∀ row ∈ s.body, headingName? row.text = none := fun row hrow =>
        headingName?_eq_none_iff.2 (hbody s List.mem_cons_self row hrow)
      rw [List.flatMap_cons, List.cons_append, sections_cons_heading hopens,
        sections_append_loose hloose, hrest, List.append_nil]
  have hloose : ∀ row ∈ loose, headingName? row.text = none := fun row hrow =>
    headingName?_eq_none_iff.2 (h.loose row hrow)
  rw [← h.whole, sections_append_loose hloose, hfound, List.append_nil]

/-- **There is one cut of every list of rows, and it is the one that is found.** -/
theorem cut_iff : Cut rows loose found ↔ sections rows = (loose, found) := by
  refine ⟨Cut.sections_eq, fun h => ?_⟩
  have hcut := cut_sections rows
  rwa [h] at hcut

/-! ## What one section does -/

theorem readSection_of_empty (hero : String) (g : Graph) (h : s.body = []) :
    readSection hero g s = ⟨g, [⟨s.heading, .emptySection (String.ofList s.name)⟩]⟩ := by
  rw [readSection, if_pos h]
  rfl

theorem readSection_of_filled (hero : String) (g : Graph) (h : s.body ≠ []) :
    readSection hero g s = ⟨g.insert (String.ofList s.name) (readNode hero s).value,
      (readNode hero s).notes ++ if g.contains (String.ofList s.name) then
        [⟨s.heading, .repeatedSection (String.ofList s.name)⟩] else []⟩ := by
  rw [readSection, if_neg h]
  cases g.contains (String.ofList s.name) <;> rfl

/-- **A section with rows files its node under its name**, and no section does anything else. -/
theorem get?_readSection (hero : String) (g : Graph) (s : Section) (key : String) :
    (readSection hero g s).value.get? key =
      if s.body ≠ [] ∧ String.ofList s.name = key then some (readNode hero s).value
      else g.get? key := by
  by_cases hbody : s.body = []
  · rw [readSection_of_empty hero g hbody, if_neg fun h => h.1 hbody]
  · rw [readSection_of_filled hero g hbody]
    refine (TextMap.get?_insert g _ key _).trans (if_congr ?_ rfl rfl)
    exact (and_iff_right hbody).symm

theorem contains_readSection (hero : String) (g : Graph) (s : Section) (key : String) :
    (readSection hero g s).value.contains key = true ↔
      g.contains key = true ∨ s.body ≠ [] ∧ String.ofList s.name = key := by
  rw [TextMap.contains, get?_readSection, TextMap.contains]
  split
  · rename_i hfiled
    exact iff_of_true rfl (.inr hfiled)
  · rename_i hother
    exact (or_iff_left hother).symm

/-! ## What the sections of a script do -/

/-- Sections leave alone what is found under other names. -/
theorem get?_readSections_of_ne (hero : String) (g : Graph) {key : String}
    (h : ∀ s ∈ found, String.ofList s.name = key → s.body = []) :
    (readSections hero g found).value.get? key = g.get? key := by
  induction found generalizing g with
  | nil => rfl
  | cons s found ih =>
    rw [readSections, Noted.value_bind, ih _ fun t ht => h t (List.mem_cons_of_mem s ht),
      get?_readSection, if_neg fun hfiled => hfiled.1 (h s List.mem_cons_self hfiled.2)]

/-- **Under a name stands the node of the last section with rows that has it.** -/
theorem get?_readSections (hero : String) (g : Graph) {before after : List Section}
    (hbody : s.body ≠ []) (hlast : ∀ t ∈ after, t.name = s.name → t.body = []) :
    (readSections hero g (before ++ s :: after)).value.get? (String.ofList s.name) =
      some (readNode hero s).value := by
  induction before generalizing g with
  | nil =>
    have hrest : ∀ t ∈ after, String.ofList t.name = String.ofList s.name → t.body = [] :=
      fun t ht hname => hlast t ht (String.ofList_injective hname)
    rw [List.nil_append, readSections, Noted.value_bind, get?_readSections_of_ne hero _ hrest,
      get?_readSection, if_pos ⟨hbody, rfl⟩]
  | cons t before ih => exact ih _

/-- **What is found is what was there and the names of sections with rows.** -/
theorem contains_readSections (hero : String) (g : Graph) (found : List Section) (key : String) :
    (readSections hero g found).value.contains key = true ↔
      g.contains key = true ∨ ∃ s ∈ found, s.body ≠ [] ∧ String.ofList s.name = key := by
  induction found generalizing g with
  | nil => simp [readSections]
  | cons s found ih =>
    rw [readSections, Noted.value_bind, ih, contains_readSection, or_assoc]
    simp only [List.mem_cons, exists_eq_or_imp]

theorem contains_readSections_empty (hero : String) (found : List Section) (key : String) :
    (readSections hero .empty found).value.contains key = true ↔
      ∃ s ∈ found, s.body ≠ [] ∧ String.ofList s.name = key := by
  rw [contains_readSections]
  exact or_iff_right Bool.noConfusion

/-- What is found among sections that were read was there before or comes of one of them. -/
theorem exists_of_get?_readSections (hero : String) {g : Graph} {key : String} {node : Node}
    (h : (readSections hero g found).value.get? key = some node) :
    g.get? key = some node ∨
      ∃ s ∈ found, String.ofList s.name = key ∧ node = (readNode hero s).value := by
  induction found generalizing g with
  | nil => exact .inl h
  | cons s found ih =>
    rw [readSections, Noted.value_bind] at h
    rcases ih h with hfirst | ⟨t, ht, hkey, hnode⟩
    · rw [get?_readSection] at hfirst
      split at hfirst
      · rename_i hfiled
        exact .inr ⟨s, List.mem_cons_self, hfiled.2, (Option.some.inj hfirst).symm⟩
      · exact .inl hfirst
    · exact .inr ⟨t, List.mem_cons_of_mem s ht, hkey, hnode⟩

/-- Nothing comes of sections just if none of them has rows. -/
theorem isEmpty_readSections (hero : String) (found : List Section) :
    (readSections hero .empty found).value.isEmpty = true ↔ ∀ s ∈ found, s.body = [] := by
  rw [TextMap.isEmpty_iff]
  constructor
  · intro hnone s hs
    by_contra hbody
    have hfiled := (contains_readSections_empty hero found _).2 ⟨s, hs, hbody, rfl⟩
    rw [hnone] at hfiled
    cases hfiled
  · intro hempty key
    refine Bool.eq_false_iff.2 fun hfiled => ?_
    obtain ⟨s, hs, hbody, -⟩ := (contains_readSections_empty hero found key).1 hfiled
    exact hbody (hempty s hs)

/-! ## What a script does -/

theorem readRows_of_cut (hero : String) (h : Cut rows loose found) :
    readRows hero rows =
      ⟨if found = [] then .error .noSections
        else if (readSections hero .empty found).value.isEmpty then .error .emptyGraph
        else .ok (readSections hero .empty found).value,
      (loose.map fun row => ⟨row, .outsideSection⟩) ++ (readSections hero .empty found).notes⟩ := by
  rw [readRows, h.sections_eq]
  by_cases hfound : found = []
  · subst hfound
    rfl
  · simp only [if_neg hfound]
    exact congrArg (Noted.mk _) (by simp)

end Script

end Colloquy
