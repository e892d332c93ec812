import Colloquy.Proofs.Script.Drafts

/-!
# Stray rows — what makes no sense disturbs nothing else

A row inside a section that has none of the forms of a line is skipped, and nothing else is read in
another way because of it: no draft, no block and no later section. What is read with the row and
without it is compared as a whole (`OneMore`): the result is the same, and there is one remark more,
on this row, between the remarks on rows before it and those on rows behind it. That passes from the
readers of single rows up to a whole script (`oneMore_readRows`). Only the remark that a section
repeats the name of an earlier one comes late: it is on the heading, and is made when the section is
complete.
-/

namespace Colloquy

open Text

/-- The choice with more rows. -/
def Block.extend (b : Block) (rows : List Row) : Block := { b with body := b.body ++ rows }

/-- The section with more rows. -/
def Section.extend (s : Section) (rows : List Row) : Section := { s with body := s.body ++ rows }

theorem Section.extend_filled {s : Section} {row : Row} (h : row ∈ s.body) (rows : List Row) :
    (s.extend rows).body ≠ [] :=
  List.append_ne_nil_of_left_ne_nil (List.ne_nil_of_mem h) rows

namespace Script

variable {α β : Type}

/-! ## One remark more -/

/-- Of two results the second one is the first one with one remark more. What is remarked before it
and what is remarked after it is told by a property each. -/
structure OneMore (r : Remark) (Before After : Remark → Prop) (x y : Remarked α) : Prop where
  value : y.value = x.value
  notes : ∃ before after, x.notes = before ++ after ∧ y.notes = before ++ r :: after ∧
    (∀ n ∈ before, Before n) ∧ ∀ n ∈ after, After n

namespace OneMore

variable {r : Remark} {Before After : Remark → Prop} {x y : Remarked α}

theorem mono (h : OneMore r Before After x y) {Before' After' : Remark → Prop}
    (hbefore : ∀ n, Before n → Before' n) (hafter : ∀ n, After n → After' n) :
    OneMore r Before' After' x y := by
  obtain ⟨before, after, hx, hy, hfirst, hlater⟩ := h.notes
  exact ⟨h.value, before, after, hx, hy, fun n hn => hbefore n (hfirst n hn),
    fun n hn => hafter n (hlater n hn)⟩

/-- What is computed from the result comes behind. -/
theorem bind (h : OneMore r Before After x y) {k : α → Remarked β}
    (hk : ∀ n ∈ (k x.value).notes, After n) : OneMore r Before After (x >>= k) (y >>= k) := by
  obtain ⟨before, after, hx, hy, hbefore, hafter⟩ := h.notes
  refine ⟨congrArg (fun a => (k a).value) h.value, before, after ++ (k x.value).notes, ?_, ?_,
    hbefore, fun n hn => (List.mem_append.1 hn).elim (hafter n) (hk n)⟩
  · rw [Noted.notes_bind, hx, List.append_assoc]
  · rw [Noted.notes_bind, hy, h.value, List.append_assoc, List.cons_append]

/-- What the result is computed from comes before. -/
theorem after {x : Remarked β} (hx : ∀ n ∈ x.notes, Before n) {k k' : β → Remarked α}
    (h : OneMore r Before After (k x.value) (k' x.value)) :
    OneMore r Before After (x >>= k) (x >>= k') := by
  obtain ⟨before, after, hk, hk', hbefore, hafter⟩ := h.notes
  refine ⟨h.value, x.notes ++ before, after, ?_, ?_,
    fun n hn => (List.mem_append.1 hn).elim (hx n) (hbefore n), hafter⟩
  · rw [Noted.notes_bind, hk, List.append_assoc]
  · rw [Noted.notes_bind, hk', List.append_assoc]

/-- One of many results is another one. -/
theorem each {f : β → Remarked α} {b b' : β} (h : OneMore r Before After (f b) (f b'))
    {bs bs' : List β} (hbs : ∀ c ∈ bs, ∀ n ∈ (f c).notes, Before n)
    (hbs' : ∀ c ∈ bs', ∀ n ∈ (f c).notes, After n) :
    OneMore r Before After (Noted.each f (bs ++ b :: bs')) (Noted.each f (bs ++ b' :: bs')) := by
  obtain ⟨before, after, hb, hb', hbefore, hafter⟩ := h.notes
  refine ⟨by simp [h.value], bs.flatMap (fun c => (f c).notes) ++ before,
    after ++ bs'.flatMap fun c => (f c).notes, by simp [hb], by simp [hb'], fun n hn => ?_,
    fun n hn => ?_⟩
  · rcases List.mem_append.1 hn with hn | hn
    · obtain ⟨c, hc, hn⟩ := List.mem_flatMap.1 hn
      exact hbs c hc n hn
    · exact hbefore n hn
  · rcases List.mem_append.1 hn with hn | hn
    · exact hafter n hn
    · obtain ⟨c, hc, hn⟩ := List.mem_flatMap.1 hn
      exact hbs' c hc n hn

end OneMore

/-- **Rows with one that is skipped among them** are read as if it were not there, with its remark
where it stands. -/
theorem Rowwise.oneMore {σ : Type} {step : σ → Row → Remarked σ} {read : σ → List Row → Remarked σ}
    (h : Rowwise step read) (hstep : ∀ s, IsLocal (step s)) {stray : Row} {flaw : Flaw}
    (hskip : ∀ s, step s stray = ⟨s, [⟨stray, flaw⟩]⟩) (s : σ) (rows rest : List Row) :
    OneMore ⟨stray, flaw⟩ (fun n => n.row ∈ rows) (fun n => n.row ∈ rest)
      (read s (rows ++ rest)) (read s (rows ++ stray :: rest)) := by
  rw [h.append, h.append]
  refine .after (fun n hn => (h.remarksIn hstep s rows n hn).1) ⟨?_, [], _, rfl, ?_, nofun,
    fun n hn => (h.remarksIn hstep _ rest n hn).1⟩
  · rw [h.cons, hskip]
    rfl
  · rw [h.cons, hskip]
    rfl

/-! ## Stray rows -/

/-- A text that has none of the forms of a line. -/
structure IsStray (text : List Char) : Prop where
  filled : text ≠ []
  heading : ∀ name, ¬ IsHeading text name
  notOpening : text.head? ≠ some '-'
  notAnnotation : text.head? ≠ some '#'
  notRoute : text.head? ≠ some '>'
  notSpeech : ¬ IsSpeech text

/-- **A text is stray just if no reader takes it.** -/
theorem isStray_iff {text : List Char} :
    IsStray text ↔ text ≠ [] ∧ headingName? text = none ∧
      (text.head? ≠ some '-' ∧ text.head? ≠ some '#' ∧ text.head? ≠ some '>') ∧
        spoken? text = none := by
  have hspeech : ¬ IsSpeech text ↔ spoken? text = none := by
    rw [← spoken?_isSome_iff, Option.not_isSome_iff_eq_none]
  rw [headingName?_eq_none_iff, ← hspeech]
  exact ⟨fun h => ⟨h.filled, h.heading, ⟨h.notOpening, h.notAnnotation, h.notRoute⟩, h.notSpeech⟩,
    fun ⟨hfilled, hheading, ⟨hopening, hannotation, hroute⟩, hspeech⟩ =>
      ⟨hfilled, hheading, hopening, hannotation, hroute, hspeech⟩⟩

instance (text : List Char) : Decidable (IsStray text) := decidable_of_iff _ isStray_iff.symm

variable {hero : String} {stray : Row}

namespace IsStray

variable (h : IsStray stray.text)

include h

theorem opensChoice_eq : stray.opensChoice = false := decide_eq_false h.notOpening

theorem spoken?_eq : spoken? stray.text = none := (isStray_iff.1 h).2.2.2

/-- **A stray row is skipped in an intro.** -/
theorem readIntroRow_eq (d : IntroDraft) :
    readIntroRow hero d stray = ⟨d, [⟨stray, .unspokenIntro⟩]⟩ := by
  rw [readIntroRow, annotation?_eq_none h.notAnnotation]
  dsimp only
  rw [h.spoken?_eq]
  rfl

/-- **A stray row is skipped in a choice.** -/
theorem readChoiceRow_eq (d : ChoiceDraft) :
    readChoiceRow hero d stray = ⟨d, [⟨stray, .unrecognized⟩]⟩ := by
  unfold readChoiceRow
  split
  · next hnote => exact absurd (head?_of_tagged hnote) h.notAnnotation
  · next htext => exact absurd (by rw [htext]; rfl) h.notRoute
  · rw [speakChoice, h.spoken?_eq]
    rfl

end IsStray

/-! ## Choices -/

theorem remarksIn_openDraft (row : Row) : RemarksIn [row] (openDraft row).notes := by
  rw [openDraft]
  dsimp only
  split
  · intro r hr
    obtain rfl := List.mem_singleton.1 hr
    exact ⟨List.mem_cons_self, rfl⟩
  · exact fun r hr => absurd hr List.not_mem_nil

/-- A choice with a stray row in it. -/
theorem oneMore_readChoice (hero : String) (h : IsStray stray.text) (b : Block) (rest : List Row) :
    OneMore ⟨stray, .unrecognized⟩ (fun n => n.row ∈ b.opening :: b.body) (fun n => n.row ∈ rest)
      (readChoice hero (b.extend rest)) (readChoice hero (b.extend (stray :: rest))) := by
  have hrows := fun d => (rowwise_readChoiceRows hero).oneMore (isLocal_readChoiceRow hero)
    h.readChoiceRow_eq d b.body rest
  rw [readChoice_eq_openDraft, readChoice_eq_openDraft]
  refine .after (fun n hn => ?_) (.bind ((hrows _).mono (fun n => List.mem_cons_of_mem b.opening)
    fun _ => id) nofun)
  rw [List.mem_singleton.1 (remarksIn_openDraft b.opening n hn).1]
  exact List.mem_cons_self

/-! ## Nodes -/

namespace Parted

variable {rows front rest loose : List Row} {bs bs' : List Block} {b : Block}

/-- Rows behind a choice belong to it up to the next dash. -/
theorem append (h : Parted rows front (bs ++ [b])) (h' : Parted rest loose bs') :
    Parted (rows ++ rest) front (bs ++ b.extend loose :: bs') where
  whole := by
    rw [← h.whole, ← h'.whole]
    simp [Block.extend]
  front := h.front
  opening := by
    have hopening := h.opening
    have hopening' := h'.opening
    simp only [List.forall_mem_append, List.forall_mem_cons] at hopening ⊢
    exact ⟨hopening.1, hopening.2.1, hopening'⟩
  body := by
    have hbody := h.body
    have hbody' := h'.body
    simp only [List.forall_mem_append, List.forall_mem_cons, Block.extend] at hbody ⊢
    exact ⟨hbody.1, ⟨hbody.2.1, h'.front⟩, hbody'⟩

/-- A row that opens nothing is in front of what comes behind it. -/
theorem cons (h : Parted rows front bs) {row : Row} (hrow : row.opensChoice = false) :
    Parted (row :: rows) (row :: front) bs :=
  h.append_front (List.forall_mem_singleton.2 hrow)

theorem front_subset (h : Parted rows front bs) : front ⊆ rows := fun row hrow => by
  rw [← h.whole]
  exact List.mem_append_left _ hrow

theorem block_subset (h : Parted rows front bs) (hb : b ∈ bs) : b.opening :: b.body ⊆ rows :=
  fun row hrow => by
    rw [← h.whole]
    exact List.mem_append_right _ (List.mem_flatMap.2 ⟨b, hb, hrow⟩)

end Parted

/-- What is read behind the leading annotations. -/
def readContents (hero : String) (rows : List Row) : Remarked (IntroDraft × List Choice) := do
  let draft ← readIntroRows hero {} (blocks rows).1
  let choices ← Noted.each (readChoice hero) (blocks rows).2
  return (draft, choices)

theorem readContents_of_parted {rows front : List Row} {bs : List Block}
    (h : Parted rows front bs) : readContents hero rows =
      readIntroRows hero {} front >>= fun draft =>
        Noted.each (readChoice hero) bs >>= fun choices => pure (draft, choices) := by
  rw [readContents, h.blocks_eq]

theorem readNode_eq_readContents (hero : String) (s : Section) :
    readNode hero s = readAnnotations {} s.annotations >>= fun node =>
      readContents hero s.contents >>= fun (draft, choices) =>
        pure { node with intros := draft.blocks, choices } := by
  simp only [readContents, Noted.bind_assoc, Noted.pure_bind]
  rfl

/-- What a stray row behind rows of a section is taken for. -/
def strayFlaw (rows : List Row) : Flaw :=
  if rows.any Row.opensChoice then .unrecognized else .unspokenIntro

theorem Parted.strayFlaw_eq {rows front : List Row} {bs : List Block} (h : Parted rows front bs) :
    strayFlaw rows = if bs = [] then .unspokenIntro else .unrecognized := by
  have hnone : rows.any Row.opensChoice = false ↔ bs = [] := by
    rw [List.any_eq_false, ← List.filter_eq_nil_iff, ← h.openings_eq, List.map_eq_nil_iff]
  by_cases hbs : bs = []
  · rw [strayFlaw, if_pos hbs, hnone.2 hbs]
    rfl
  · rw [strayFlaw, if_neg hbs, if_pos (Bool.of_not_eq_false (mt hnone.1 hbs))]

/-- **A stray row behind the leading annotations** is one of the intro, or one of the choice that
was opened last. -/
theorem oneMore_readContents (hero : String) (h : IsStray stray.text) (rows rest : List Row) :
    OneMore ⟨stray, strayFlaw rows⟩ (fun n => n.row ∈ rows) (fun n => n.row ∈ rest)
      (readContents hero (rows ++ rest)) (readContents hero (rows ++ stray :: rest)) := by
  have hrows := parted_blocks rows
  have hrest := parted_blocks rest
  generalize (blocks rows).1 = front, (blocks rows).2 = bs at hrows
  generalize (blocks rest).1 = loose, (blocks rest).2 = later at hrest
  have hlater : ∀ b ∈ later, ∀ n ∈ (readChoice hero b).notes, n.row ∈ rest := fun b hb n hn =>
    hrest.block_subset hb (remarksIn_readChoice hero b n hn).1
  rw [hrows.strayFlaw_eq]
  rcases List.eq_nil_or_concat bs with rfl | ⟨bs, b, rfl⟩
  · have hfront : ∀ row ∈ rows, row.opensChoice = false := by
      rw [← hrows.whole, List.flatMap_nil, List.append_nil]
      exact hrows.front
    have hintro := (rowwise_readIntroRows hero).oneMore (isLocal_readIntroRow hero)
      h.readIntroRow_eq {} rows loose
    rw [readContents_of_parted (hrest.append_front hfront),
      readContents_of_parted ((hrest.cons h.opensChoice_eq).append_front hfront), if_pos rfl]
    refine (hintro.mono (fun _ => id) fun n hn => hrest.front_subset hn).bind fun n hn => ?_
    rw [Noted.notes_bind, Noted.notes_pure, List.append_nil, Noted.notes_each] at hn
    obtain ⟨b, hb, hn⟩ := List.mem_flatMap.1 hn
    exact hlater b hb n hn
  · rw [List.concat_eq_append] at hrows ⊢
    rw [readContents_of_parted (hrows.append hrest),
      readContents_of_parted (hrows.append (hrest.cons h.opensChoice_eq)), if_neg (by simp)]
    have hchoice := oneMore_readChoice hero h b loose
    refine .after (fun n hn => ?_) (.bind (.each (hchoice.mono (fun n hn => ?_) fun n hn => ?_)
      (fun c hc n hn => ?_) hlater) nofun)
    · exact hrows.front_subset
        ((rowwise_readIntroRows hero).remarksIn (isLocal_readIntroRow hero) _ _ n hn).1
    · exact hrows.block_subset (List.mem_append_right bs List.mem_cons_self) hn
    · exact hrest.front_subset hn
    · exact hrows.block_subset (List.mem_append_left [b] hc) (remarksIn_readChoice hero c n hn).1

/-- Behind a row that is no annotation, rows leave the leading annotations of a section alone. -/
theorem parts_extend {s : Section} {row : Row} (hrow : row ∈ s.body)
    (hnote : row.isAnnotation = false) (rest : List Row) :
    (s.extend rest).annotations = s.annotations ∧
      (s.extend rest).contents = s.contents ++ rest := by
  have hne : s.contents ≠ [] := fun hnone => by
    rw [Section.contents, List.dropWhile_eq_nil_iff] at hnone
    rw [hnone row hrow] at hnote
    cases hnote
  have hhead : ∀ r ∈ (s.contents ++ rest).head?, r.isAnnotation = false := by
    intro r hr
    rw [List.head?_append, List.head?_eq_some_head hne, Option.some_or] at hr
    obtain rfl := Option.some.inj hr
    exact List.head_dropWhile_not Row.isAnnotation hne
  have hbody : s.body = s.annotations ++ s.contents := List.takeWhile_append_dropWhile.symm
  have hnotes : ∀ r ∈ s.annotations, r.isAnnotation = true := fun r => List.mem_takeWhile_imp
  rw [Section.annotations, Section.contents, Section.extend]
  dsimp only
  rw [hbody, List.append_assoc]
  exact takeWhile_annotations hnotes hhead

/-- **A section with a stray row in it**, behind a row that is no annotation. -/
theorem oneMore_readNode (hero : String) (h : IsStray stray.text) {s : Section} {row : Row}
    (hrow : row ∈ s.body) (hnote : row.isAnnotation = false) (rest : List Row) :
    OneMore ⟨stray, strayFlaw s.body⟩ (fun n => n.row ∈ s.body) (fun n => n.row ∈ rest)
      (readNode hero (s.extend rest)) (readNode hero (s.extend (stray :: rest))) := by
  obtain ⟨hannotations, hcontents⟩ := parts_extend hrow hnote rest
  obtain ⟨hannotations', hcontents'⟩ := parts_extend hrow hnote (stray :: rest)
  have hflaw : strayFlaw s.body = strayFlaw s.contents :=
    (parted_body s).strayFlaw_eq.trans (parted_blocks s.contents).strayFlaw_eq.symm
  rw [readNode_eq_readContents, readNode_eq_readContents, hannotations, hannotations', hcontents,
    hcontents', hflaw]
  refine .after (fun n hn => ?_) (.bind ((oneMore_readContents hero h s.contents rest).mono
    (fun n hn => ?_) fun _ => id) nofun)
  · exact List.takeWhile_subset _
      (rowwise_readAnnotations.remarksIn isLocal_annotateRow _ _ n hn).1
  · exact List.dropWhile_subset _ hn

/-! ## Sections -/

theorem readSections_append (hero : String) (g : Graph) (found later : List Section) :
    readSections hero g (found ++ later) =
      readSections hero g found >>= fun g => readSections hero g later := by
  induction found generalizing g with
  | nil => rfl
  | cons s found ih =>
    rw [List.cons_append, readSections, readSections, Noted.bind_assoc, funext ih]

/-- The remark that a section has the name of an earlier one. -/
def repeatedRemark (s : Section) : Remark := ⟨s.heading, .repeatedSection (String.ofList s.name)⟩

theorem readSection_eq_readNode (hero : String) (g : Graph) {s : Section} (h : s.body ≠ []) :
    readSection hero g s = readNode hero s >>= fun node =>
      ⟨g.insert (String.ofList s.name) node,
        if g.contains (String.ofList s.name) then [repeatedRemark s] else []⟩ :=
  readSection_of_filled hero g h

/-- **A section with a stray row in it** is taken in as it is without. -/
theorem oneMore_readSection (hero : String) (h : IsStray stray.text) {s : Section} {row : Row}
    (hrow : row ∈ s.body) (hnote : row.isAnnotation = false) (g : Graph) (rest : List Row) :
    OneMore ⟨stray, strayFlaw s.body⟩ (fun n => n.row ∈ s.body)
      (fun n => n.row ∈ rest ∨ n = repeatedRemark s)
      (readSection hero g (s.extend rest)) (readSection hero g (s.extend (stray :: rest))) := by
  have hnode := oneMore_readNode hero h hrow hnote rest
  rw [readSection_eq_readNode hero g (Section.extend_filled hrow _),
    readSection_eq_readNode hero g (Section.extend_filled hrow _)]
  refine (hnode.mono (fun _ => id) fun _ => .inl).bind fun n hn => ?_
  exact .inr (List.mem_singleton.1 (List.mem_ite_nil_right.1 hn).2)

/-- **Sections with a stray row in one of them** are taken in as they are without. -/
theorem oneMore_readSections (hero : String) (h : IsStray stray.text) {s : Section} {row : Row}
    (hrow : row ∈ s.body) (hnote : row.isAnnotation = false) (g : Graph)
    (found later : List Section) (rest : List Row) :
    OneMore ⟨stray, strayFlaw s.body⟩
      (fun n => n.row ∈ (found ++ [s]).flatMap fun s => s.heading :: s.body)
      (fun n => n.row ∈ rest ++ (later.flatMap fun s => s.heading :: s.body) ∨ n = repeatedRemark s)
      (readSections hero g (found ++ s.extend rest :: later))
      (readSections hero g (found ++ s.extend (stray :: rest) :: later)) := by
  rw [readSections_append, readSections_append, List.flatMap_append]
  refine .after (fun n hn => List.mem_append_left _ (row_mem_of_mem_readSections hn)) ?_
  rw [readSections, readSections]
  refine ((oneMore_readSection hero h hrow hnote _ rest).mono (fun n hn => ?_) fun n hn => ?_).bind
    fun n hn => .inl (List.mem_append_right _ (row_mem_of_mem_readSections hn))
  · simp [hn]
  · exact hn.imp_left (List.mem_append_left _)

namespace Cut

variable {rows loose rest loose' : List Row} {found later : List Section} {s : Section}

/-- Rows behind a section belong to it up to the next heading. -/
theorem append (h : Cut rows loose (found ++ [s])) (h' : Cut rest loose' later) :
    Cut (rows ++ rest) loose (found ++ s.extend loose' :: later) where
  whole := by
    rw [← h.whole, ← h'.whole]
    simp [Section.extend]
  loose := h.loose
  heading := by
    have hheading := h.heading
    have hheading' := h'.heading
    simp only [List.forall_mem_append, List.forall_mem_cons] at hheading ⊢
    exact ⟨hheading.1, hheading.2.1, hheading'⟩
  body := by
    have hbody := h.body
    have hbody' := h'.body
    simp only [List.forall_mem_append, List.forall_mem_cons, Section.extend] at hbody ⊢
    exact ⟨hbody.1, ⟨hbody.2.1, h'.loose⟩, hbody'⟩

/-- A row that is no heading is loose. -/
theorem cons (h : Cut rows loose found) {row : Row} (hrow : ∀ name, ¬ IsHeading row.text name) :
    Cut (row :: rows) (row :: loose) found where
  whole := by rw [List.cons_append, h.whole]
  loose := List.forall_mem_cons.2 ⟨hrow, h.loose⟩
  heading := h.heading
  body := h.body

end Cut

/-- Rows in which some section has rows come to the graph of the sections. -/
theorem Cut.readRows_eq_readSections {rows loose : List Row} {found : List Section} {s : Section}
    (h : Cut rows loose found) (hs : s ∈ found) (hbody : s.body ≠ []) (hero : String) :
    readRows hero rows = Noted.noteAll (loose.map fun row => ⟨row, .outsideSection⟩) >>= fun _ =>
      readSections hero .empty found >>= fun g => pure (.ok g) := by
  have hvalue := h.readRows_eq_ok hero hs hbody
  rw [readRows_of_cut hero h] at hvalue ⊢
  exact congrArg₂ Noted.mk hvalue (by simp)

section

variable {rows loose : List Row} {found : List Section} {s : Section} {row : Row}

/-- Rows behind a section that has some come to a graph. -/
theorem exists_graph_readRows (hero : String) (hcut : Cut rows loose (found ++ [s]))
    (hrow : row ∈ s.body) (rest : List Row) :
    ∃ g, (readRows hero (rows ++ rest)).value = .ok g :=
  ⟨_, (hcut.append (cut_sections rest)).readRows_eq_ok hero
    (List.mem_append_right found List.mem_cons_self) (Section.extend_filled hrow _)⟩

/-- **Rows with a stray row among them** are read as they are without, if the last section in front
of it has a row that is no annotation. -/
theorem oneMore_readRows (hero : String) (h : IsStray stray.text)
    (hcut : Cut rows loose (found ++ [s])) (hrow : row ∈ s.body) (hnote : row.isAnnotation = false)
    (rest : List Row) :
    OneMore ⟨stray, strayFlaw s.body⟩ (fun n => n.row ∈ rows)
      (fun n => n.row ∈ rest ∨ n = repeatedRemark s)
      (readRows hero (rows ++ rest)) (readRows hero (rows ++ stray :: rest)) := by
  have hrest := cut_sections rest
  generalize (sections rest).1 = loose', (sections rest).2 = later at hrest
  have hsections := oneMore_readSections hero h hrow hnote .empty found later loose'
  have hmem (more : List Row) : s.extend more ∈ found ++ s.extend more :: later :=
    List.mem_append_right found List.mem_cons_self
  rw [(hcut.append hrest).readRows_eq_readSections (hmem _) (Section.extend_filled hrow _),
    (hcut.append (hrest.cons h.heading)).readRows_eq_readSections (hmem _)
      (Section.extend_filled hrow _)]
  refine .after (fun n hn => ?_) (.bind (hsections.mono (fun n hn => ?_) fun n hn => ?_) nofun)
  · obtain ⟨row, hloose, rfl⟩ := List.mem_map.1 hn
    rw [← hcut.whole]
    exact List.mem_append_left _ hloose
  · rw [← hcut.whole]
    exact List.mem_append_right _ hn
  · rw [← hrest.whole]
    exact hn

end

end Script

end Colloquy
