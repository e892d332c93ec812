import Colloquy.Proofs.Script.Writer

/-!
# Round trip — a written script reads as the graph

Reading a written script undoes the writing, section by section: no line but a heading is taken for
a heading, no row under a choice for the opening of the next, the annotations end where the intro or
the first choice begins, and each row adds the mark it was written for. Nothing is remarked on the
way. The order of the sections does not matter, as the keys of a graph are distinct.
-/

namespace Colloquy

namespace Script

open Text

/-! ## How lines start -/

theorem NodeMark.head?_line (m : NodeMark) : m.line.toList.head? = some '#' := by
  cases m with
  | isDefault => rfl
  | npcState | named | requires => exact head?_tagLine _ _

/-- A line of an intro starts with a number sign or a word character. -/
theorem IntroMark.head?_line {hero : String} {m : IntroMark} (h : m.Writable hero) {c : Char}
    (hc : isWord c = false) (htag : '#' ≠ c) : m.line.toList.head? ≠ some c := by
  cases m with
  | requires condition =>
    rw [IntroMark.line, head?_tagLine]
    simpa using htag
  | spoken l => exact head?_speechLine h.speaker.isName l.text hc

/-- A line of a choice under its opening starts with a number sign, a word character or the sign of
a route. -/
theorem ChoiceMark.head?_line {hero : String} (hhero : IsSpeaker hero) {m : ChoiceMark}
    (h : m.Writable hero) {c : Char} (hc : isWord c = false) (htag : '#' ≠ c) (hroute : '>' ≠ c) :
    (m.line hero).toList.head? ≠ some c := by
  cases m with
  | requires | sets | adds | removes | named =>
    rw [ChoiceMark.line, head?_tagLine]
    simpa using htag
  | once =>
    have hline : "# once".toList.head? = some '#' := rfl
    rw [ChoiceMark.line, hline]
    simpa using htag
  | saying words => exact head?_speechLine hhero.isName words hc
  | answered l => exact head?_speechLine h.1.speaker.isName l.text hc
  | leadsTo | exits =>
    rw [ChoiceMark.line, head?_routeLine]
    simpa using hroute

/-- What holds of the lines of all marks holds of the texts of all rows. -/
theorem forall_text {μ : Type} {rows : List Row} {marks : List μ} {line : μ → List Char}
    (hrows : rows.map Row.text = marks.map line) {P : List Char → Prop}
    (h : ∀ m ∈ marks, P (line m)) : ∀ row ∈ rows, P row.text := by
  intro row hrow
  have htext : row.text ∈ marks.map line := hrows ▸ List.mem_map_of_mem hrow
  obtain ⟨m, hm, hline⟩ := List.mem_map.1 htext
  exact hline ▸ h m hm

/-! ## Choices -/

/-- **The rows of a choice read as the choice.** -/
theorem readChoice_written {hero : String} (hhero : IsSpeaker hero) {c : Choice}
    (h : WritableChoice hero c) {block : Block}
    (hopening : block.opening.text = (openingLine c.text).toList)
    (hbody : block.body.map Row.text = (choiceMarks c).map fun m => (m.line hero).toList) :
    readChoice hero block = pure c := by
  have htext : trim (block.opening.text.drop 1) = c.text.toList := by
    rw [hopening, toList_openingLine]
    exact (trim_space_cons _).trans h.text.trimmed
  have hrows : readChoiceRows hero { choice := { text := c.text } } block.body =
      pure ((choiceMarks c).foldl ChoiceMark.take { choice := { text := c.text } }) := by
    refine read_marks (rowwise_readChoiceRows hero) ?_ hbody _
    intro m hm d row hrow
    exact readChoiceRow_line hhero (writable_choiceMarks h m hm) d hrow
  have hfinish := finish_foldl_choiceMarks (fun e he => (h.effects e he).1)
    fun lines hlines => (h.npcResponse lines hlines).1
  rw [readChoice, htext, if_neg h.text.filled, String.ofList_toList]
  show (readChoiceRows hero { choice := { text := c.text } } block.body >>= fun draft =>
    pure draft.finish) = _
  rw [hrows, Noted.pure_bind, hfinish]

/-- Rows in front of the first choice are loose. -/
theorem blocks_append_loose {body : List Row} (h : ∀ row ∈ body, row.opensChoice = false)
    (rest : List Row) : blocks (body ++ rest) = (body ++ (blocks rest).1, (blocks rest).2) := by
  induction body with
  | nil => rfl
  | cons row body ih =>
    rw [List.cons_append, blocks_cons_loose (h row List.mem_cons_self),
      ih fun r hr => h r (List.mem_cons_of_mem row hr)]
    rfl

/-- **The rows of choices are cut where they were joined**, and read as the choices. -/
theorem blocks_written {hero : String} (hhero : IsSpeaker hero) {choices : List Choice}
    (h : ∀ c ∈ choices, WritableChoice hero c) {rows : List Row}
    (hrows : rows.map Row.text = (choices.flatMap (choiceLines hero)).map String.toList) :
    (blocks rows).1 = [] ∧ (blocks rows).2.map (readChoice hero) = choices.map pure := by
  induction choices generalizing rows with
  | nil =>
    rw [List.flatMap_nil, List.map_nil, List.map_eq_nil_iff] at hrows
    rw [hrows]
    exact ⟨rfl, rfl⟩
  | cons c choices ih =>
    have hc := h c List.mem_cons_self
    rw [List.flatMap_cons, choiceLines, List.cons_append, List.map_cons, List.map_append,
      List.map_map] at hrows
    -- the rows are an opening, the rows under it, and the rows of the later choices
    obtain ⟨opening, rows, rfl, hopening, hrows⟩ := List.map_eq_cons_iff.1 hrows
    obtain ⟨body, rest, rfl, hbody, hrest⟩ := List.map_eq_append_iff.1 hrows
    obtain ⟨hloose, hread⟩ := ih (fun d hd => h d (List.mem_cons_of_mem c hd)) hrest
    have hopens : opening.opensChoice = true := by
      rw [Row.opensChoice, hopening, head?_openingLine]
      rfl
    have hbodyLoose : ∀ row ∈ body, row.opensChoice = false := by
      refine forall_text (P := fun text => decide (text.head? = some '-') = false) hbody ?_
      intro m hm
      exact decide_eq_false (ChoiceMark.head?_line hhero (writable_choiceMarks hc m hm) (by decide)
        (by decide) (by decide))
    rw [blocks_cons_opening hopens, blocks_append_loose hbodyLoose, hloose, List.append_nil]
    refine ⟨rfl, ?_⟩
    rw [List.map_cons, hread, readChoice_written hhero hc hopening hbody]
    rfl

/-! ## Nodes -/

/-- Leading annotations end where something else begins. -/
theorem takeWhile_annotations {notes rest : List Row} (hnotes : ∀ row ∈ notes, row.isAnnotation)
    (hrest : ∀ row ∈ rest.head?, row.isAnnotation = false) :
    (notes ++ rest).takeWhile Row.isAnnotation = notes ∧
      (notes ++ rest).dropWhile Row.isAnnotation = rest := by
  rw [List.takeWhile_append_of_pos hnotes, List.dropWhile_append_of_pos hnotes]
  cases rest with
  | nil => exact ⟨List.append_nil notes, rfl⟩
  | cons row rest =>
    have hrow : ¬ row.isAnnotation = true := by simp [hrest row rfl]
    rw [List.takeWhile_cons_of_neg hrow, List.dropWhile_cons_of_neg hrow]
    exact ⟨List.append_nil notes, rfl⟩

/-- What follows the annotations of a node does not start with one: it starts with a line of the
unconditional intro block, or with the opening of a choice. -/
theorem head_contents {hero : String} {n : Node} (h : WritableNode hero n) {line : String}
    (hline : line ∈ ((introMarks n.intros).map IntroMark.line ++
      n.choices.flatMap (choiceLines hero)).head?) : line.toList.head? ≠ some '#' := by
  cases hintros : n.intros with
  | nil =>
    cases hchoices : n.choices with
    | nil =>
      rw [hintros, hchoices] at hline
      exact absurd hline (by simp [introMarks])
    | cons c choices =>
      rw [hintros, hchoices] at hline
      obtain rfl : openingLine c.text = line := Option.some.inj hline
      rw [head?_openingLine]
      decide
  | cons first rest =>
    obtain ⟨hcondition, hlines⟩ := h.firstIntro first (by rw [hintros]; rfl)
    obtain ⟨l, lines, hl⟩ := List.exists_cons_of_ne_nil hlines
    have hfirst : first ∈ n.intros := by
      rw [hintros]
      exact List.mem_cons_self
    have hspeaker : Speakable hero l :=
      (h.intros first hfirst).2 l (by rw [hl]; exact List.mem_cons_self)
    rw [hintros, introMarks, List.flatMap_cons, hcondition, hl] at hline
    obtain rfl : speechLine l.name l.text = line := Option.some.inj hline
    exact head?_speechLine hspeaker.speaker.isName l.text (by decide)

/-- **The rows of a node are cut where they were joined**: its annotations, the rows of its intro,
and its choices, which read as they should. -/
theorem parts_written {hero : String} (hhero : IsSpeaker hero) {n : Node}
    (h : WritableNode hero n) {s : Section}
    (hbody : s.body.map Row.text = (nodeLines hero n).map String.toList) :
    s.annotations.map Row.text = (nodeMarks n).map (fun m => m.line.toList) ∧
      s.intro.map Row.text = (introMarks n.intros).map (fun m => m.line.toList) ∧
      s.choices.map (readChoice hero) = n.choices.map pure := by
  rw [nodeLines, List.append_assoc, List.map_append, List.map_map] at hbody
  obtain ⟨notes, contents, hs, hnotes, hcontents⟩ := List.map_eq_append_iff.1 hbody
  have hannotation : ∀ row ∈ notes, row.isAnnotation = true :=
    forall_text (P := fun text => decide (text.head? = some '#') = true) hnotes
      fun m _ => decide_eq_true m.head?_line
  have hfirst : ∀ row ∈ contents.head?, row.isAnnotation = false := by
    intro row hrow
    have htext : row.text ∈ (contents.map Row.text).head? := by
      rw [List.head?_map, hrow]
      rfl
    rw [hcontents, List.head?_map] at htext
    obtain ⟨line, hline, hrowtext⟩ := Option.map_eq_some_iff.1 htext
    rw [Row.isAnnotation, ← hrowtext]
    exact decide_eq_false (head_contents h hline)
  obtain ⟨htake, hdrop⟩ := takeWhile_annotations hannotation hfirst
  rw [List.map_append, List.map_map] at hcontents
  obtain ⟨intro, choices, rfl, hintro, hchoices⟩ := List.map_eq_append_iff.1 hcontents
  obtain ⟨hloose, hread⟩ := blocks_written hhero h.choices hchoices
  have hintroLoose : ∀ row ∈ intro, row.opensChoice = false := by
    refine forall_text (P := fun text => decide (text.head? = some '-') = false) hintro ?_
    intro m hm
    exact decide_eq_false
      (IntroMark.head?_line (writable_introMarks h m hm) (by decide) (by decide))
  have hblocks : blocks s.contents = (intro, (blocks choices).2) := by
    rw [Section.contents, hs, hdrop, blocks_append_loose hintroLoose, hloose, List.append_nil]
  refine ⟨?_, ?_, ?_⟩
  · rw [Section.annotations, hs, htake]
    exact hnotes
  · rw [Section.intro, hblocks]
    exact hintro
  · rw [Section.choices, hblocks]
    exact hread

/-- **The rows of a node read as the node.** -/
theorem readNode_written {hero : String} (hhero : IsSpeaker hero) {n : Node}
    (h : WritableNode hero n) {s : Section}
    (hbody : s.body.map Row.text = (nodeLines hero n).map String.toList) :
    readNode hero s = pure n := by
  obtain ⟨hnotes, hintro, hchoices⟩ := parts_written hhero h hbody
  have hreadNotes : readAnnotations {} s.annotations =
      pure { n with intros := [], choices := [] } := by
    rw [← foldl_nodeMarks n]
    refine read_marks rowwise_readAnnotations ?_ hnotes {}
    intro m hm d row hrow
    exact annotateRow_line (writable_nodeMarks h m hm) d hrow
  have hreadIntro : readIntroRows hero {} s.intro =
      pure ((introMarks n.intros).foldl IntroMark.take {}) := by
    refine read_marks (rowwise_readIntroRows hero) ?_ hintro {}
    intro m hm d row hrow
    exact readIntroRow_line (writable_introMarks h m hm) d hrow
  rw [readNode, hreadNotes, Noted.pure_bind, hreadIntro, Noted.pure_bind,
    Noted.each_eq_pure hchoices, Noted.pure_bind,
    blocks_foldl_introMarks h.firstIntro h.laterIntros]

/-! ## Sections -/

/-- Rows in front of the first heading are loose. -/
theorem sections_append_loose {body : List Row} (h : ∀ row ∈ body, headingName? row.text = none)
    (rest : List Row) :
    sections (body ++ rest) = (body ++ (sections rest).1, (sections rest).2) := by
  induction body with
  | nil => rfl
  | cons row body ih =>
    rw [List.cons_append, sections_cons_loose (h row List.mem_cons_self),
      ih fun r hr => h r (List.mem_cons_of_mem row hr)]
    rfl

/-- No line of a node is a heading. -/
theorem headingName?_nodeLines {hero : String} (hhero : IsSpeaker hero) {n : Node}
    (h : WritableNode hero n) : ∀ line ∈ nodeLines hero n, headingName? line.toList = none := by
  intro line hline
  refine headingName?_eq_none ?_
  simp only [nodeLines, List.mem_append, List.mem_map, List.mem_flatMap, choiceLines,
    List.mem_cons] at hline
  rcases hline with (⟨m, -, rfl⟩ | ⟨m, hm, rfl⟩) | ⟨c, hc, rfl | ⟨m, hm, rfl⟩⟩
  · rw [NodeMark.head?_line]
    decide
  · exact IntroMark.head?_line (writable_introMarks h m hm) (by decide) (by decide)
  · rw [head?_openingLine]
    decide
  · exact ChoiceMark.head?_line hhero (writable_choiceMarks (h.choices c hc) m hm) (by decide)
      (by decide) (by decide)

theorem clean_nodeLines {hero : String} (hhero : IsSpeaker hero) {n : Node}
    (h : WritableNode hero n) : ∀ line ∈ nodeLines hero n, Clean line.toList := by
  intro line hline
  simp only [nodeLines, List.mem_append, List.mem_map, List.mem_flatMap, choiceLines,
    List.mem_cons] at hline
  rcases hline with (⟨m, hm, rfl⟩ | ⟨m, hm, rfl⟩) | ⟨c, hc, rfl | ⟨m, hm, rfl⟩⟩
  · exact NodeMark.clean_line (writable_nodeMarks h m hm)
  · exact IntroMark.clean_line (writable_introMarks h m hm)
  · exact clean_openingLine (h.choices c hc).text
  · exact ChoiceMark.clean_line hhero (writable_choiceMarks (h.choices c hc) m hm)

/-- There is a line under the heading of every node. -/
theorem nodeLines_ne_nil {hero : String} {n : Node} (h : WritableNode hero n) :
    nodeLines hero n ≠ [] := by
  intro hnil
  simp only [nodeLines, nodeMarks, introMarks, List.append_eq_nil_iff, List.map_eq_nil_iff,
    List.flatMap_eq_nil_iff, Option.toList_eq_nil_iff] at hnil
  obtain ⟨⟨⟨⟨⟨hstate, hdefault⟩, hid⟩, hrequires⟩, hintros⟩, hchoices⟩ := hnil
  rcases h.content with hne | hne | hne | hne | hne | hne
  · exact hne hstate
  · rw [hne] at hdefault
    exact absurd hdefault (by simp)
  · exact hne hid
  · exact hne hrequires
  · obtain ⟨first, rest, hcons⟩ := List.exists_cons_of_ne_nil hne
    have hlines := (h.firstIntro first (by rw [hcons]; rfl)).2
    exact hlines (hintros first (by rw [hcons]; exact List.mem_cons_self)).2
  · obtain ⟨c, rest, hcons⟩ := List.exists_cons_of_ne_nil hne
    exact absurd (hchoices c (by rw [hcons]; exact List.mem_cons_self)) (List.cons_ne_nil _ _)

/-- **The section of a node is filed under its key.** -/
theorem readSection_written {hero : String} (hhero : IsSpeaker hero) {key : String} {n : Node}
    (h : WritableNode hero n) {s : Section} (hname : s.name = key.toList)
    (hbody : s.body.map Row.text = (nodeLines hero n).map String.toList) {g : Graph}
    (hnew : g.get? key = none) : readSection hero g s = pure (g.insert key n) := by
  have hfilled : s.body ≠ [] := by
    intro hnil
    rw [hnil, List.map_nil, eq_comm, List.map_eq_nil_iff] at hbody
    exact nodeLines_ne_nil h hbody
  have hcontains : g.contains key = false := by
    rw [TextMap.contains, hnew]
    rfl
  rw [readSection, if_neg hfilled, hname, String.ofList_toList, readNode_written hhero h hbody,
    Noted.pure_bind, hcontains]
  rfl

/-- **Written sections are cut where they were joined**, and filed one after the other. -/
theorem readSections_written {hero : String} (hhero : IsSpeaker hero)
    {entries : List (String × Node)}
    (h : ∀ entry ∈ entries, IsName entry.1.toList ∧ WritableNode hero entry.2)
    (hkeys : entries.Pairwise fun a b => a.1 ≠ b.1) {rows : List Row}
    (hrows : rows.map Row.text =
      (entries.flatMap fun entry => headingLine entry.1 :: nodeLines hero entry.2).map
        String.toList) :
    (sections rows).1 = [] ∧ ((sections rows).2 = [] ↔ entries = []) ∧
      ∀ g : Graph, (∀ entry ∈ entries, g.get? entry.1 = none) →
        readSections hero g (sections rows).2 =
          pure (entries.foldl (fun g entry => g.insert entry.1 entry.2) g) := by
  induction entries generalizing rows with
  | nil =>
    rw [List.flatMap_nil, List.map_nil, List.map_eq_nil_iff] at hrows
    rw [hrows]
    exact ⟨rfl, ⟨fun _ => rfl, fun _ => rfl⟩, fun g _ => rfl⟩
  | cons entry entries ih =>
    obtain ⟨key, n⟩ := entry
    obtain ⟨hname, hnode⟩ := h _ List.mem_cons_self
    rw [List.flatMap_cons, List.cons_append, List.map_cons, List.map_append] at hrows
    -- the rows are a heading, the rows of its node, and the rows of the later sections
    obtain ⟨heading, rows, rfl, hheading, hrows⟩ := List.map_eq_cons_iff.1 hrows
    obtain ⟨body, rest, rfl, hbody, hrest⟩ := List.map_eq_append_iff.1 hrows
    obtain ⟨hloose, -, hread⟩ :=
      ih (fun e he => h e (List.mem_cons_of_mem _ he)) hkeys.of_cons hrest
    have hopens : headingName? heading.text = some key.toList := by
      rw [hheading]
      exact headingName?_headingLine hname
    have hbodyLoose : ∀ row ∈ body, headingName? row.text = none :=
      forall_text (P := fun text => headingName? text = none) hbody
        (headingName?_nodeLines hhero hnode)
    rw [sections_cons_heading hopens, sections_append_loose hbodyLoose, hloose, List.append_nil]
    refine ⟨rfl, by simp, fun g hg => ?_⟩
    have hnew : ∀ e ∈ entries, (g.insert key n).get? e.1 = none := by
      intro e he
      rw [TextMap.get?_insert, if_neg (List.rel_of_pairwise_cons hkeys he)]
      exact hg e (List.mem_cons_of_mem _ he)
    rw [readSections, readSection_written hhero hnode rfl hbody (hg _ List.mem_cons_self),
      Noted.pure_bind, hread _ hnew]
    rfl

/-! ## Scripts -/

/-- Rows all of which stand in sections that read as a graph. -/
theorem readRows_of_sections {hero : String} {rows : List Row} {g : Graph}
    (hloose : (sections rows).1 = [])
    (hread : readSections hero .empty (sections rows).2 = pure g) :
    readRows hero rows = pure (if (sections rows).2 = [] then .error .noSections
      else if g.isEmpty then .error .emptyGraph else .ok g) := by
  rcases hs : sections rows with ⟨loose, found⟩
  rw [hs] at hloose hread
  obtain rfl : loose = [] := hloose
  rw [readRows, hs]
  show (if found = [] then _ else _) = _
  split
  · rfl
  · show (readSections hero .empty found >>= _) = _
    rw [hread, Noted.pure_bind]

/-- The rows of a written script are the lines it was written as. -/
theorem text_ofScript_write {hero : String} (hhero : IsSpeaker hero)
    {entries : List (String × Node)}
    (h : ∀ entry ∈ entries, IsName entry.1.toList ∧ WritableNode hero entry.2) :
    (Row.ofScript (write hero entries).toList).map Row.text =
      (entries.flatMap fun entry => headingLine entry.1 :: nodeLines hero entry.2).map
        String.toList := by
  refine text_ofScript_paragraph fun line hline => ?_
  obtain ⟨entry, hentry, hline⟩ := List.mem_flatMap.1 hline
  obtain ⟨hname, hnode⟩ := h entry hentry
  rcases List.mem_cons.1 hline with rfl | hline
  · exact clean_headingLine hname
  · exact clean_nodeLines hhero hnode line hline

/-- **A written script reads as the graph it was written from, and nothing is remarked.** The
sections may stand in any order. A graph without nodes is written as a script without sections,
which is not a dialogue. -/
theorem read_write {hero : String} (hhero : IsSpeaker hero) {g : Graph} (h : WritableGraph hero g)
    {entries : List (String × Node)} (hentries : entries.Perm g.entries) :
    read hero (write hero entries) =
      pure (if g.isEmpty then .error .noSections else .ok g) := by
  have hwritable : ∀ entry ∈ entries, IsName entry.1.toList ∧ WritableNode hero entry.2 :=
    fun entry hentry => h entry (hentries.mem_iff.1 hentry)
  have hkeys : entries.Pairwise fun a b => a.1 ≠ b.1 :=
    (hentries.pairwise_iff fun {a b} hab => Ne.symm hab).2 g.pairwise_ne
  obtain ⟨hloose, hnil, hread⟩ :=
    readSections_written hhero hwritable hkeys (text_ofScript_write hhero hwritable)
  have hgraph : readSections hero .empty (sections (Row.ofScript (write hero entries).toList)).2 =
      pure g := by
    rw [← TextMap.ofList_eq_of_perm hentries]
    exact hread .empty fun _ _ => rfl
  have hempty : entries = [] ↔ g.isEmpty = true := by
    rw [TextMap.isEmpty, List.isEmpty_iff]
    exact ⟨fun hnone => (hnone ▸ hentries).nil_eq.symm, fun hnone => (hnone ▸ hentries).eq_nil⟩
  rw [read, hhero.lower, readRows_of_sections hloose hgraph]
  cases hg : g.isEmpty with
  | true =>
    rw [if_pos (hnil.2 (hempty.2 hg))]
    rfl
  | false =>
    have hfound : (sections (Row.ofScript (write hero entries).toList)).2 ≠ [] := by
      intro hnone
      rw [hempty.1 (hnil.1 hnone)] at hg
      exact Bool.noConfusion hg
    rw [if_neg hfound]
    rfl

/-- A dialogue in which every kind of line occurs, with texts that look like lines of another
kind. -/
def parlour : Graph :=
  ⟨[("door",
      { npcState := some "wary"
        id := some "At the door: closed"
        entryCondition := some (.all [.asked "tea", .npcState "butler" "awake: barely"])
        choices := [{ text := "- Leave", nextNode := some "> out", exit := true }] }),
    ("start",
      { isDefault := true
        intros :=
          [{ lines := [⟨.npc, "butler", "=== sir ==="⟩, ⟨.hero, "nate", "# tea: please"⟩] },
            { condition := some (.notFlag "late") }]
        choices :=
          [{ text := "Ask: why?"
             heroLine := "- why?"
             npcResponse := some [⟨.npc, "butler", "> because"⟩]
             condition := some (.lacksItem "")
             nextNode := some "door"
             effects := some ⟨["met"], ["cup"], ["hat, coat"], true⟩
             id := some "why" }] })], by decide⟩

theorem isSpeaker_nate : IsSpeaker "nate" := ⟨by decide, by decide +kernel⟩

theorem isSpeaker_butler : IsSpeaker "butler" := ⟨by decide, by decide +kernel⟩

theorem speakable_butler {text : String} (h : Clean text.toList) :
    Speakable "nate" ⟨.npc, "butler", text⟩ :=
  ⟨isSpeaker_butler, h, by simp⟩

theorem writable_parlour : WritableGraph "nate" parlour := by
  have hentry : (Condition.all [.asked "tea", .npcState "butler" "awake: barely"]).Written :=
    ⟨by decide, "asked: tea,, npc_state:butler : awake: barely", by decide, by decide +kernel⟩
  have hlate : (Condition.notFlag "late").Written := ⟨by decide, "! late", by decide, by decide⟩
  have hitem : (Condition.lacksItem "").Written := ⟨by decide, "!has:", by decide, by decide⟩
  intro entry hmem
  rcases List.mem_cons.1 hmem with rfl | hmem
  · refine ⟨by decide, ?_⟩
    exact {
      content := .inl (by decide)
      npcState := by decide
      id := by decide
      entryCondition := by rintro _ ⟨⟩; exact hentry
      firstIntro := by simp
      laterIntros := by simp
      intros := by simp
      choices := by
        intro c hc
        obtain rfl := List.mem_singleton.1 hc
        exact {
          text := by decide
          heroLine := by decide
          npcResponse := by simp
          condition := by simp
          nextNode := by decide
          effects := by simp
          id := by simp } }
  · obtain rfl := List.mem_singleton.1 hmem
    refine ⟨by decide, ?_⟩
    exact {
      content := .inr (.inl rfl)
      npcState := by simp
      id := by simp
      entryCondition := by simp
      firstIntro := by rintro _ ⟨⟩; simp
      laterIntros := by simp
      intros := by
        intro block hblock
        rcases List.mem_cons.1 hblock with rfl | hblock
        · refine ⟨by simp, fun l hl => ?_⟩
          rcases List.mem_cons.1 hl with rfl | hl
          · exact speakable_butler (by decide)
          · obtain rfl := List.mem_singleton.1 hl
            exact ⟨isSpeaker_nate, by decide, by simp⟩
        · obtain rfl := List.mem_singleton.1 hblock
          exact ⟨by rintro _ ⟨⟩; exact hlate, by simp⟩
      choices := by
        intro c hc
        obtain rfl := List.mem_singleton.1 hc
        exact {
          text := by decide
          heroLine := by decide
          npcResponse := by
            rintro _ ⟨⟩
            refine ⟨List.cons_ne_nil _ _, fun l hl => ?_⟩
            obtain rfl := List.mem_singleton.1 hl
            exact ⟨speakable_butler (by decide), rfl⟩
          condition := by rintro _ ⟨⟩; exact hitem
          nextNode := by decide
          effects := by decide
          id := by decide } }

/-- The sections may stand in the other order. -/
theorem read_write_parlour :
    read "nate" (write "nate" parlour.entries.reverse) = pure (.ok parlour) :=
  read_write isSpeaker_nate writable_parlour (List.reverse_perm _)

end Script

end Colloquy
