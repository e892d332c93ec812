import Colloquy.Proofs.Script.Grammar

/-!
# Places — what is read depends on what rows say

Where the rows of a section stand is of no account to what is read from them: it only shows in the
remarks, each of which is on the row it is about. A reader of one row with this property is local
(`IsLocal`). Local readers compose, every reader of a row is one, and so are rows, parts and
sections read by them: rows moved elsewhere are read as before, with the remarks moved along. As a
consequence two scripts whose rows say the same are read the same, with the same remarks wherever
they stand (`readRows_nowhere`).
-/

namespace Colloquy

namespace Noted

variable {ν μ ξ α β : Type}

theorem mapNotes_bind (f : ν → μ) (x : Noted ν α) (k : α → Noted ν β) :
    (x >>= k).mapNotes f = x.mapNotes f >>= fun a => (k a).mapNotes f :=
  congrArg (Noted.mk _) List.map_append

theorem mapNotes_mapNotes (f : ν → μ) (g : μ → ξ) (x : Noted ν α) :
    (x.mapNotes f).mapNotes g = x.mapNotes (g ∘ f) := congrArg (Noted.mk _) List.map_map

theorem mapNotes_each (f : ν → μ) (k : α → Noted ν β) (l : List α) :
    (each k l).mapNotes f = each (fun a => (k a).mapNotes f) l := by
  simp [each, mapNotes, List.map_flatMap, Function.comp_def, List.flatMap_map]

end Noted

/-- Whether a flaw is one of a row inside a section, and not of a section or outside of all. -/
def Flaw.isInner : Flaw → Bool
  | .outsideSection | .emptySection _ | .repeatedSection _ => false
  | _ => true

/-- The row with another text. -/
def Row.saying (r : Row) (text : List Char) : Row := { r with text := text }

theorem Row.text_saying (r : Row) (text : List Char) : (r.saying text).text = text := rfl

/-- The row as if nothing stood in front of it. -/
def Row.nowhere (r : Row) : Row := ⟨0, 0, r.text⟩

theorem Row.text_nowhere (r : Row) : r.nowhere.text = r.text := rfl

/-- The same remark about another row. -/
def Remark.move (f : Row → Row) (r : Remark) : Remark := ⟨f r.row, r.flaw⟩

/-- The same choice in other rows. -/
def Block.move (f : Row → Row) (b : Block) : Block := ⟨f b.opening, b.body.map f⟩

/-- The same section in other rows. -/
def Section.move (f : Row → Row) (s : Section) : Section := ⟨s.name, f s.heading, s.body.map f⟩

namespace Script

variable {α β : Type}

/-! ## Local readers -/

/-- A reading of rows that say a text, wherever they stand, that has remarks on these rows only. -/
def IsLocalOn (text : List Char) (reading : Row → Remarked α) : Prop :=
  ∃ what : Noted Flaw α, (∀ flaw ∈ what.notes, flaw.isInner = true) ∧
    ∀ row, reading row = what.mapNotes (Remark.mk (row.saying text))

/-- A reader that goes by what a row says, and has remarks on this row only. -/
def IsLocal (step : Row → Remarked α) : Prop :=
  ∀ text, IsLocalOn text fun row => step (row.saying text)

namespace IsLocalOn

variable {text : List Char}

theorem pure (a : α) : IsLocalOn text fun _ => Pure.pure a :=
  ⟨Pure.pure a, fun _ hflaw => absurd hflaw List.not_mem_nil, fun _ => rfl⟩

theorem remark {flaw : Flaw} (h : flaw.isInner = true) :
    IsLocalOn text fun row => remark (row.saying text) flaw :=
  ⟨Noted.note flaw, fun _ hflaw => List.mem_singleton.1 hflaw ▸ h, fun _ => rfl⟩

theorem bind {x : Row → Remarked α} {k : Row → α → Remarked β} (hx : IsLocalOn text x)
    (hk : ∀ a, IsLocalOn text fun row => k row a) : IsLocalOn text fun row => x row >>= k row := by
  obtain ⟨first, hfirst, hx⟩ := hx
  obtain ⟨next, hnext, hk⟩ := hk first.value
  refine ⟨first >>= fun _ => next, fun flaw hflaw => ?_, fun row => ?_⟩
  · rcases List.mem_append.1 hflaw with hflaw | hflaw
    · exact hfirst flaw hflaw
    · exact hnext flaw hflaw
  · have hthen : k row first.value = next.mapNotes (Remark.mk (row.saying text)) := hk row
    calc x row >>= k row
        = first.mapNotes (Remark.mk (row.saying text)) >>= k row := by rw [hx]
      _ = first.mapNotes (Remark.mk (row.saying text)) >>= fun _ => k row first.value := rfl
      _ = (first >>= fun _ => next).mapNotes (Remark.mk (row.saying text)) := by
        rw [hthen, Noted.mapNotes_bind]

/-- A remark, and then the value that was there before. -/
theorem skip {flaw : Flaw} (h : flaw.isInner = true) (a : α) :
    IsLocalOn text fun row => Script.remark (row.saying text) flaw >>= fun _ => Pure.pure a :=
  (remark h).bind fun _ => pure a

theorem readCondition (clause : Option (List Char)) :
    IsLocalOn text fun row => readCondition (row.saying text) clause := by
  have hclause : IsLocalOn text fun row =>
      (Condition.read (clause.getD [])).mapNotes fun flaw => ⟨row.saying text, .clause flaw⟩ := by
    refine ⟨(Condition.read (clause.getD [])).mapNotes .clause, fun flaw hflaw => ?_,
      fun row => (Noted.mapNotes_mapNotes _ _ _).symm⟩
    obtain ⟨_, -, rfl⟩ := List.mem_map.1 hflaw
    rfl
  unfold Script.readCondition
  dsimp only
  split
  · exact (remark rfl).bind fun _ => hclause
  · exact hclause

theorem annotateNode (n : Node) (note : Annotation) :
    IsLocalOn text fun row => annotateNode n (row.saying text) note := by
  unfold Script.annotateNode
  split
  case h_4 => exact (readCondition note.value).bind fun _ => .pure _
  all_goals first | exact .pure _ | exact .skip rfl n

theorem annotateChoice (d : ChoiceDraft) (note : Annotation) :
    IsLocalOn text fun row => annotateChoice d (row.saying text) note := by
  unfold Script.annotateChoice
  split
  case h_1 => exact (readCondition note.value).bind fun _ => .pure _
  all_goals first | exact .pure _ | exact .skip rfl d

theorem routeChoice (d : ChoiceDraft) (target : List Char) :
    IsLocalOn text fun row => routeChoice d (row.saying text) target := by
  unfold Script.routeChoice
  split
  · exact .skip rfl d
  · split <;> exact .pure _

end IsLocalOn

theorem isLocal_annotateRow (n : Node) : IsLocal (annotateRow n) := by
  intro text
  unfold annotateRow
  dsimp only [Row.text_saying]
  split
  · exact .annotateNode n _
  · exact .pure n

theorem isLocal_readIntroRow (hero : String) (d : IntroDraft) : IsLocal (readIntroRow hero d) := by
  intro text
  unfold readIntroRow
  dsimp only [Row.text_saying]
  split
  · split
    · exact (IsLocalOn.readCondition _).bind fun _ => .pure _
    · exact .skip rfl d
  · split
    · exact .pure d
    · exact .pure _
    · exact .skip rfl d

theorem isLocal_speakChoice (hero : String) (d : ChoiceDraft) : IsLocal (speakChoice hero d) := by
  intro text
  unfold speakChoice
  dsimp only [Row.text_saying]
  split
  · split
    · exact .pure _
    · split <;> exact .pure _
  · exact .skip rfl d

theorem isLocal_readChoiceRow (hero : String) (d : ChoiceDraft) :
    IsLocal (readChoiceRow hero d) := by
  intro text
  unfold readChoiceRow
  dsimp only [Row.text_saying]
  split
  · exact .annotateChoice d _
  · exact .routeChoice d _
  · exact isLocal_speakChoice hero d _

namespace IsLocal

variable {step : Row → Remarked α}

/-- **A row that says the same is read the same**, with the remarks on it. -/
theorem move (h : IsLocal step) {f : Row → Row} (hf : ∀ row, (f row).text = row.text) (row : Row) :
    step (f row) = (step row).mapNotes (Remark.move f) := by
  obtain ⟨what, -, hwhat⟩ := h row.text
  have hthere := hwhat (f row)
  rw [← hf] at hthere
  rw [show step row = _ from hwhat row, Noted.mapNotes_mapNotes]
  exact hthere

/-- **Every remark is on the row that is read.** -/
theorem notes (h : IsLocal step) {row : Row} {r : Remark} (hr : r ∈ (step row).notes) :
    r.row = row ∧ r.flaw.isInner = true := by
  obtain ⟨what, hinner, hwhat⟩ := h row.text
  rw [show step row = _ from hwhat row] at hr
  obtain ⟨flaw, hflaw, rfl⟩ := List.mem_map.1 hr
  exact ⟨rfl, hinner flaw hflaw⟩

end IsLocal

/-! ## Rows that are moved -/

section

variable {f : Row → Row} (hf : ∀ row, (f row).text = row.text)

include hf

/-- **Moved rows are read alike, with the remarks moved along.** -/
theorem Rowwise.move {σ : Type} {step : σ → Row → Remarked σ} {read : σ → List Row → Remarked σ}
    (h : Rowwise step read) (hstep : ∀ s, IsLocal (step s)) (s : σ) (rows : List Row) :
    read s (rows.map f) = (read s rows).mapNotes (Remark.move f) := by
  induction rows generalizing s with
  | nil => rw [List.map_nil, h.nil]; rfl
  | cons row rows ih =>
    rw [List.map_cons, h.cons, h.cons, (hstep s).move hf, Noted.mapNotes_bind]
    exact congrArg _ (funext ih)

theorem isAnnotation_move (row : Row) : Row.isAnnotation (f row) = Row.isAnnotation row := by
  rw [Row.isAnnotation, hf, Row.isAnnotation]

theorem opensChoice_move (row : Row) : (f row).opensChoice = row.opensChoice := by
  rw [Row.opensChoice, hf, Row.opensChoice]

theorem blocks_move (rows : List Row) :
    blocks (rows.map f) = ((blocks rows).1.map f, (blocks rows).2.map (Block.move f)) := by
  induction rows with
  | nil => rfl
  | cons row rows ih =>
    cases hopens : row.opensChoice with
    | true =>
      have hmoved := (opensChoice_move hf row).trans hopens
      rw [List.map_cons, blocks_cons_opening hmoved, blocks_cons_opening hopens, ih]
      rfl
    | false =>
      have hmoved := (opensChoice_move hf row).trans hopens
      rw [List.map_cons, blocks_cons_loose hmoved, blocks_cons_loose hopens, ih]
      rfl

theorem sections_move (rows : List Row) :
    sections (rows.map f) = ((sections rows).1.map f, (sections rows).2.map (Section.move f)) := by
  induction rows with
  | nil => rfl
  | cons row rows ih =>
    cases hname : headingName? row.text with
    | some name =>
      have hmoved : headingName? (f row).text = some name := by rw [hf, hname]
      rw [List.map_cons, sections_cons_heading hmoved, sections_cons_heading hname, ih]
      rfl
    | none =>
      have hmoved : headingName? (f row).text = none := by rw [hf, hname]
      rw [List.map_cons, sections_cons_loose hmoved, sections_cons_loose hname, ih]
      rfl

theorem readChoice_move (hero : String) (b : Block) :
    readChoice hero (b.move f) = (readChoice hero b).mapNotes (Remark.move f) := by
  have hrows (d : ChoiceDraft) : readChoiceRows hero d (b.body.map f) =
      (readChoiceRows hero d b.body).mapNotes (Remark.move f) :=
    (rowwise_readChoiceRows hero).move hf (isLocal_readChoiceRow hero) d b.body
  unfold readChoice
  dsimp only [Block.move]
  rw [hf]
  split
  · simp only [hrows, Noted.mapNotes_bind]
    rfl
  · simp only [hrows, Noted.mapNotes_bind]
    rfl

theorem readNode_move (hero : String) (s : Section) :
    readNode hero (s.move f) = (readNode hero s).mapNotes (Remark.move f) := by
  -- the borders between the parts stay where they are, so each part is moved as a whole
  have hcomp : Row.isAnnotation ∘ f = Row.isAnnotation := funext (isAnnotation_move hf)
  have hcontents : (s.move f).contents = s.contents.map f := by
    rw [Section.contents, Section.contents, Section.move, List.dropWhile_map, hcomp]
  have hannotations : (s.move f).annotations = s.annotations.map f := by
    rw [Section.annotations, Section.annotations, Section.move, List.takeWhile_map, hcomp]
  have hintro : (s.move f).intro = s.intro.map f := by
    rw [Section.intro, hcontents, blocks_move hf, Section.intro]
  have hchoices : (s.move f).choices = s.choices.map (Block.move f) := by
    rw [Section.choices, hcontents, blocks_move hf, Section.choices]
  have heach : Noted.each (readChoice hero) (s.choices.map (Block.move f)) =
      (Noted.each (readChoice hero) s.choices).mapNotes (Remark.move f) := by
    rw [Noted.mapNotes_each]
    simp only [Noted.each, List.map_map, ← readChoice_move hf]
    rfl
  have hnotes (n : Node) : readAnnotations n (s.annotations.map f) =
      (readAnnotations n s.annotations).mapNotes (Remark.move f) :=
    rowwise_readAnnotations.move hf isLocal_annotateRow n _
  have hlines (d : IntroDraft) : readIntroRows hero d (s.intro.map f) =
      (readIntroRows hero d s.intro).mapNotes (Remark.move f) :=
    (rowwise_readIntroRows hero).move hf (isLocal_readIntroRow hero) d _
  rw [readNode, readNode, hannotations, hintro, hchoices, heach, hnotes, hlines]
  simp only [Noted.mapNotes_bind]
  rfl

theorem readSections_move (hero : String) (g : Graph) (found : List Section) :
    readSections hero g (found.map (Section.move f)) =
      (readSections hero g found).mapNotes (Remark.move f) := by
  induction found generalizing g with
  | nil => rfl
  | cons s found ih =>
    have hsection : readSection hero g (s.move f) =
        (readSection hero g s).mapNotes (Remark.move f) := by
      by_cases hbody : s.body = []
      · have hmoved : (s.move f).body = [] := by rw [Section.move, hbody, List.map_nil]
        rw [readSection_of_empty hero g hbody, readSection_of_empty hero g hmoved]
        rfl
      · have hmoved : (s.move f).body ≠ [] := fun h => hbody (List.map_eq_nil_iff.1 h)
        rw [readSection_of_filled hero g hbody, readSection_of_filled hero g hmoved,
          readNode_move hf, Section.move]
        cases hnew : g.contains (String.ofList s.name) <;> simp [Noted.mapNotes, Remark.move]
    rw [List.map_cons, readSections, readSections, hsection, Noted.mapNotes_bind]
    exact congrArg _ (funext ih)

theorem readRows_move (hero : String) (rows : List Row) :
    readRows hero (rows.map f) = (readRows hero rows).mapNotes (Remark.move f) := by
  have hcut := cut_sections rows
  have hmoved : Cut (rows.map f) ((sections rows).1.map f)
      ((sections rows).2.map (Section.move f)) := cut_iff.2 (sections_move hf rows)
  rw [readRows_of_cut hero hcut, readRows_of_cut hero hmoved, readSections_move hf,
    Noted.value_mapNotes, Noted.notes_mapNotes]
  refine congrArg₂ Noted.mk (if_congr List.map_eq_nil_iff rfl rfl) ?_
  rw [List.map_append, List.map_map, List.map_map]
  rfl

end

/-- **Rows that say the same are read the same**, with the same remarks wherever they stand. -/
theorem readRows_nowhere (hero : String) {rows rows' : List Row}
    (h : rows.map Row.text = rows'.map Row.text) :
    (readRows hero rows).mapNotes (Remark.move Row.nowhere) =
      (readRows hero rows').mapNotes (Remark.move Row.nowhere) := by
  -- moved to the same place, the rows are the same
  have hsame : rows.map Row.nowhere = rows'.map Row.nowhere := by
    have := congrArg (List.map fun text => (⟨0, 0, text⟩ : Row)) h
    rwa [List.map_map, List.map_map] at this
  rw [← readRows_move Row.text_nowhere, hsame, readRows_move Row.text_nowhere]

theorem readRows_congr (hero : String) {rows rows' : List Row}
    (h : rows.map Row.text = rows'.map Row.text) :
    (readRows hero rows).value = (readRows hero rows').value := by
  have hvalue := congrArg Noted.value (readRows_nowhere hero h)
  rwa [Noted.value_mapNotes, Noted.value_mapNotes] at hvalue

/-! ## Remarks inside a section -/

/-- Remarks that are on rows of a list and on nothing but the inside of a section. -/
def RemarksIn (rows : List Row) (notes : List Remark) : Prop :=
  ∀ r ∈ notes, r.row ∈ rows ∧ r.flaw.isInner = true

theorem RemarksIn.mono {rows rows' : List Row} {notes : List Remark} (h : RemarksIn rows notes)
    (hrows : rows ⊆ rows') : RemarksIn rows' notes :=
  fun r hr => ⟨hrows (h r hr).1, (h r hr).2⟩

theorem RemarksIn.append {rows : List Row} {notes notes' : List Remark} (h : RemarksIn rows notes)
    (h' : RemarksIn rows notes') : RemarksIn rows (notes ++ notes') :=
  fun r hr => (List.mem_append.1 hr).elim (h r) (h' r)

theorem Rowwise.remarksIn {σ : Type} {step : σ → Row → Remarked σ}
    {read : σ → List Row → Remarked σ} (h : Rowwise step read) (hstep : ∀ s, IsLocal (step s))
    (s : σ) (rows : List Row) : RemarksIn rows (read s rows).notes := by
  induction rows generalizing s with
  | nil => rw [h.nil]; exact fun r hr => absurd hr List.not_mem_nil
  | cons row rows ih =>
    rw [h.cons, Noted.notes_bind]
    refine .append (fun r hr => ?_) ((ih _).mono (List.subset_cons_self row rows))
    obtain ⟨hrow, hflaw⟩ := (hstep s).notes hr
    exact ⟨hrow ▸ List.mem_cons_self, hflaw⟩

theorem remarksIn_readChoice (hero : String) (b : Block) :
    RemarksIn (b.opening :: b.body) (readChoice hero b).notes := by
  have hbody (d : ChoiceDraft) : RemarksIn b.body (readChoiceRows hero d b.body).notes :=
    (rowwise_readChoiceRows hero).remarksIn (isLocal_readChoiceRow hero) d b.body
  have hrest (d : ChoiceDraft) : RemarksIn (b.opening :: b.body)
      (readChoiceRows hero d b.body).notes :=
    (hbody d).mono (List.subset_cons_self b.opening b.body)
  unfold readChoice
  dsimp only
  split
  · rw [Noted.notes_bind, Noted.notes_bind, Noted.notes_pure, List.append_nil]
    refine .append (fun r hr => ?_) (hrest _)
    obtain rfl := List.mem_singleton.1 hr
    exact ⟨List.mem_cons_self, rfl⟩
  · rw [Noted.notes_bind, Noted.notes_pure, List.append_nil]
    exact hrest _

/-- **What is remarked while a section is read is on its rows.** -/
theorem remarksIn_readNode (hero : String) (s : Section) :
    RemarksIn s.body (readNode hero s).notes := by
  have hnotes : RemarksIn s.annotations (readAnnotations {} s.annotations).notes :=
    rowwise_readAnnotations.remarksIn isLocal_annotateRow _ _
  have hlines : RemarksIn s.intro (readIntroRows hero {} s.intro).notes :=
    (rowwise_readIntroRows hero).remarksIn (isLocal_readIntroRow hero) _ _
  have hchoices : RemarksIn (s.choices.flatMap fun b => b.opening :: b.body)
      (Noted.each (readChoice hero) s.choices).notes := by
    rw [Noted.notes_each]
    intro r hr
    obtain ⟨b, hb, hr⟩ := List.mem_flatMap.1 hr
    exact (remarksIn_readChoice hero b).mono
      (fun _ hrow => List.mem_flatMap.2 ⟨b, hb, hrow⟩) r hr
  rw [← s.parts, readNode]
  simp only [Noted.notes_bind, Noted.notes_pure, List.append_nil]
  refine .append (hnotes.mono ?_) (.append (hlines.mono ?_) (hchoices.mono ?_))
  · rw [List.append_assoc]
    exact List.subset_append_left _ _
  · rw [List.append_assoc]
    exact List.Subset.trans (List.subset_append_left _ _) (List.subset_append_right _ _)
  · exact List.subset_append_right _ _

end Script

end Colloquy
