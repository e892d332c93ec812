import Colloquy.Script.Row

/-!
# Sections — a script cut at its headings

Every heading opens a section, which reaches to the next heading or the end. Rows before the first
heading belong to no section. Inside a section the leading annotations are about the node, the rows
up to the first choice are its intro, and every row that starts with a dash opens a choice. Nothing
is lost on the way: a script is its loose rows and its sections (`sections_rows`), and a section is
its parts (`Section.parts`).
-/

namespace Colloquy

/-- A heading with the rows under it. -/
structure Section where
  /-- The name in the heading. -/
  name : List Char
  /-- The row of the heading. -/
  heading : Row
  /-- The rows up to the next heading. -/
  body : List Row
  deriving DecidableEq

/-- The rows before the first heading, and the sections. -/
def sections : List Row → List Row × List Section
  | [] => ([], [])
  | row :: rows =>
    let (loose, rest) := sections rows
    match headingName? row.text with
    | some name => ([], ⟨name, row, loose⟩ :: rest)
    | none => (row :: loose, rest)

/-- A heading takes the rows that were loose so far. -/
theorem sections_cons_heading {row : Row} {name : List Char} (h : headingName? row.text = some name)
    (rows : List Row) :
    sections (row :: rows) = ([], ⟨name, row, (sections rows).1⟩ :: (sections rows).2) := by
  simp [sections, h]

/-- Any other row is loose. -/
theorem sections_cons_loose {row : Row} (h : headingName? row.text = none) (rows : List Row) :
    sections (row :: rows) = (row :: (sections rows).1, (sections rows).2) := by
  simp [sections, h]

/-- **Cutting at headings loses nothing.** -/
theorem sections_rows (rows : List Row) :
    (sections rows).1 ++ (sections rows).2.flatMap (fun s => s.heading :: s.body) = rows := by
  induction rows with
  | nil => rfl
  | cons row rows ih =>
    cases hname : headingName? row.text with
    | some name =>
      rw [sections_cons_heading hname, List.nil_append, List.flatMap_cons, List.cons_append, ih]
    | none => rw [sections_cons_loose hname, List.cons_append, ih]

/-- No heading is loose. -/
theorem headingName?_loose {rows : List Row} {row : Row} (h : row ∈ (sections rows).1) :
    headingName? row.text = none := by
  induction rows with
  | nil => exact absurd h List.not_mem_nil
  | cons first rows ih =>
    cases hname : headingName? first.text with
    | some name =>
      rw [sections_cons_heading hname] at h
      exact absurd h List.not_mem_nil
    | none =>
      rw [sections_cons_loose hname] at h
      rcases List.mem_cons.1 h with rfl | h
      · exact hname
      · exact ih h

/-- **A section is named by its heading, and no heading is in its body**: the body was loose when
the heading was met. -/
theorem headings_of_mem {rows : List Row} {s : Section} (h : s ∈ (sections rows).2) :
    headingName? s.heading.text = some s.name ∧
      ∀ row ∈ s.body, headingName? row.text = none := by
  induction rows with
  | nil => exact absurd h List.not_mem_nil
  | cons first rows ih =>
    cases hname : headingName? first.text with
    | some name =>
      rw [sections_cons_heading hname] at h
      rcases List.mem_cons.1 h with rfl | h
      · exact ⟨hname, fun row hrow => headingName?_loose hrow⟩
      · exact ih h
    | none =>
      rw [sections_cons_loose hname] at h
      exact ih h

namespace Row

/-- Whether a row is an annotation. -/
def isAnnotation (r : Row) : Bool := r.text.head? = some '#'

/-- Whether a row opens a choice. -/
def opensChoice (r : Row) : Bool := r.text.head? = some '-'

end Row

/-- A row that opens a choice with the rows up to the next one. -/
structure Block where
  opening : Row
  body : List Row
  deriving DecidableEq

/-- The rows before the first choice, and the choices. -/
def blocks : List Row → List Row × List Block
  | [] => ([], [])
  | row :: rows =>
    let (loose, rest) := blocks rows
    if row.opensChoice then ([], ⟨row, loose⟩ :: rest) else (row :: loose, rest)

/-- A row that opens a choice takes the rows that were loose so far. -/
theorem blocks_cons_opening {row : Row} (h : row.opensChoice = true) (rows : List Row) :
    blocks (row :: rows) = ([], ⟨row, (blocks rows).1⟩ :: (blocks rows).2) := by
  simp [blocks, h]

/-- Any other row is loose. -/
theorem blocks_cons_loose {row : Row} (h : row.opensChoice = false) (rows : List Row) :
    blocks (row :: rows) = (row :: (blocks rows).1, (blocks rows).2) := by
  simp [blocks, h]

/-- **Cutting at choices loses nothing.** -/
theorem blocks_rows (rows : List Row) :
    (blocks rows).1 ++ (blocks rows).2.flatMap (fun b => b.opening :: b.body) = rows := by
  induction rows with
  | nil => rfl
  | cons row rows ih =>
    cases hopen : row.opensChoice with
    | true =>
      rw [blocks_cons_opening hopen, List.nil_append, List.flatMap_cons, List.cons_append, ih]
    | false => rw [blocks_cons_loose hopen, List.cons_append, ih]

namespace Section

/-- The leading annotations of a section. -/
def annotations (s : Section) : List Row := s.body.takeWhile Row.isAnnotation

/-- The rows of a section after the leading annotations. -/
def contents (s : Section) : List Row := s.body.dropWhile Row.isAnnotation

/-- The intro rows of a section. -/
def intro (s : Section) : List Row := (blocks s.contents).1

/-- The choices of a section. -/
def choices (s : Section) : List Block := (blocks s.contents).2

/-- **A section is its annotations, its intro and its choices, in this order.** -/
theorem parts (s : Section) :
    s.annotations ++ s.intro ++ s.choices.flatMap (fun b => b.opening :: b.body) = s.body := by
  have hcontents : s.intro ++ s.choices.flatMap (fun b => b.opening :: b.body) = s.contents :=
    blocks_rows s.contents
  rw [List.append_assoc, hcontents]
  exact List.takeWhile_append_dropWhile

end Section

end Colloquy
