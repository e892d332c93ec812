import Colloquy.Proofs.Script.Line

/-!
# Marks — what the lines of a section mean

Inside a section a line adds one thing to what is being read: to a node, to its intro, or to a
choice. A mark is such an addition with the line it is written as. One lemma per kind says that the
reader takes a row with this line for this mark and remarks nothing (`annotateRow_line`,
`readIntroRow_line`, `readChoiceRow_line`); rows are then read as the marks taken in one after the
other (`read_marks`), which is the same induction for all three readers of rows (`Rowwise`).
-/

namespace Colloquy

namespace Script

open Text

/-! ## Rows one after the other -/

/-- A reader of rows that takes them in one after the other, each by the same step. -/
structure Rowwise {σ : Type} (step : σ → Row → Remarked σ) (read : σ → List Row → Remarked σ) :
    Prop where
  nil : ∀ s, read s [] = pure s
  cons : ∀ s row rows, read s (row :: rows) = step s row >>= fun t => read t rows

/-- Take an annotation row of a node in. -/
def annotateRow (n : Node) (row : Row) : Remarked Node :=
  match annotation? row.text with
  | some note => annotateNode n row note
  | none => pure n

theorem rowwise_readAnnotations : Rowwise annotateRow readAnnotations where
  nil _ := rfl
  cons n row rows := by
    rw [readAnnotations, annotateRow]
    cases annotation? row.text <;> rfl

theorem rowwise_readIntroRows (hero : String) :
    Rowwise (readIntroRow hero) (readIntroRows hero) := ⟨fun _ => rfl, fun _ _ _ => rfl⟩

theorem rowwise_readChoiceRows (hero : String) :
    Rowwise (readChoiceRow hero) (readChoiceRows hero) := ⟨fun _ => rfl, fun _ _ _ => rfl⟩

/-- **Rows that are read as marks are read as all marks in order.** -/
theorem read_marks {σ μ : Type} {step : σ → Row → Remarked σ} {read : σ → List Row → Remarked σ}
    (h : Rowwise step read) {line : μ → String} {take : σ → μ → σ} {marks : List μ}
    (hstep : ∀ m ∈ marks, ∀ s row, row.text = (line m).toList → step s row = pure (take s m))
    {rows : List Row} (hrows : rows.map Row.text = marks.map fun m => (line m).toList) (s : σ) :
    read s rows = pure (marks.foldl take s) := by
  induction marks generalizing rows s with
  | nil =>
    rw [List.map_nil, List.map_eq_nil_iff] at hrows
    rw [hrows, h.nil]
    rfl
  | cons m marks ih =>
    obtain ⟨row, rest, rfl, hrow, hrest⟩ := List.map_eq_cons_iff.1 hrows
    rw [h.cons, hstep m List.mem_cons_self s row hrow, Noted.pure_bind,
      ih (fun m' hm' => hstep m' (List.mem_cons_of_mem m hm')) hrest]
    rfl

/-- **Marks that each add to a list add all of theirs.** -/
theorem foldl_add {σ μ α : Type} {take : σ → μ → σ} {mark : α → μ}
    (put : σ → List α → σ) (hnil : ∀ s, put s [] = s)
    (hadd : ∀ s xs x, take (put s xs) (mark x) = put s (xs ++ [x]))
    (s : σ) (xs : List α) : (xs.map mark).foldl take s = put s xs := by
  have hfrom (done rest : List α) :
      (rest.map mark).foldl take (put s done) = put s (done ++ rest) := by
    induction rest generalizing done with
    | nil => rw [List.append_nil]; rfl
    | cons x rest ih => rw [List.map_cons, List.foldl_cons, hadd, ih, List.append_assoc]; rfl
  have := hfrom [] xs
  rwa [hnil, List.nil_append] at this

/-! ## Values -/

theorem filled_of_clean {value : String} (h : Clean value.toList) :
    filled (some value.toList) = some value := by
  rw [filled, Option.filter_some, if_pos (by simpa using h.filled), Option.map_some,
    String.ofList_toList]

theorem readCondition_display {c : Condition} (h : c.Written) (row : Row) :
    readCondition row (some c.display.toList) = pure c := by
  rw [readCondition, Option.getD_some, if_neg h.clean.filled, h.read_display]
  rfl

/-! ## Nodes -/

/-- What an annotation adds to a node. -/
inductive NodeMark
  | npcState (state : String)
  | isDefault
  | named (id : String)
  | requires (condition : Condition)

namespace NodeMark

/-- The line of a mark. -/
def line : NodeMark → String
  | npcState state => tagLine "npc_state" state
  | isDefault => "# default"
  | named id => tagLine "id" id
  | requires condition => tagLine "requires" condition.display

/-- The node with a mark taken in. -/
def take (n : Node) : NodeMark → Node
  | npcState state => { n with npcState := some state }
  | isDefault => { n with isDefault := true }
  | named id => { n with id := some id }
  | requires condition => { n with entryCondition := some condition }

/-- What a mark says can be written on a line. -/
def Writable : NodeMark → Prop
  | npcState text | named text => Clean text.toList
  | isDefault => True
  | requires condition => condition.Written

theorem clean_line {m : NodeMark} (h : m.Writable) : Clean m.line.toList := by
  cases m with
  | npcState state => exact clean_tagLine (by decide : IsTag "npc_state") h
  | isDefault => exact (by decide : Clean "# default".toList)
  | named id => exact clean_tagLine (by decide : IsTag "id") h
  | requires c => exact clean_tagLine (by decide : IsTag "requires") (Condition.Written.clean h)

end NodeMark

theorem annotateRow_line {m : NodeMark} (h : m.Writable) (n : Node) {row : Row}
    (hrow : row.text = m.line.toList) : annotateRow n row = pure (m.take n) := by
  cases m with
  | npcState state =>
    rw [annotateRow, hrow, NodeMark.line,
      annotation?_tagLine (by decide : IsTag "npc_state") h]
    simp only [annotateNode, String.ofList_toList, filled_of_clean h]
    rfl
  | isDefault =>
    have hnote : annotation? "# default".toList = some ⟨"default".toList, none⟩ := by decide
    rw [annotateRow, hrow, NodeMark.line, hnote]
    rfl
  | named id =>
    rw [annotateRow, hrow, NodeMark.line,
      annotation?_tagLine (by decide : IsTag "id") h]
    simp only [annotateNode, String.ofList_toList, filled_of_clean h]
    rfl
  | requires c =>
    have hc : c.Written := h
    rw [annotateRow, hrow, NodeMark.line,
      annotation?_tagLine (by decide : IsTag "requires") hc.clean]
    simp only [annotateNode, String.ofList_toList, readCondition_display hc, Noted.pure_bind]
    rfl

/-! ## Intros -/

/-- A speaker as a script writes it: a name in lowercase. -/
structure IsSpeaker (name : String) : Prop where
  isName : IsName name.toList
  lower : lowercase name = name

/-- A line that can be written: someone says something, and the hero is told by the name. -/
structure Speakable (hero : String) (l : Line) : Prop where
  speaker : IsSpeaker l.name
  text : Clean l.text.toList
  isHero : l.speaker = .hero ↔ l.name = hero

/-- What a line adds to an intro. -/
inductive IntroMark
  | requires (condition : Condition)
  | spoken (line : Line)

namespace IntroMark

/-- The line of a mark. -/
def line : IntroMark → String
  | requires condition => tagLine "requires" condition.display
  | spoken l => speechLine l.name l.text

/-- The draft with a mark taken in. -/
def take (d : IntroDraft) : IntroMark → IntroDraft
  | requires condition => { d.close with current := some { condition := some condition } }
  | spoken l => d.say l

/-- What a mark says can be written on a line. -/
def Writable (hero : String) : IntroMark → Prop
  | requires condition => condition.Written
  | spoken l => Speakable hero l

theorem clean_line {hero : String} {m : IntroMark} (h : m.Writable hero) : Clean m.line.toList := by
  cases m with
  | requires c => exact clean_tagLine (by decide : IsTag "requires") (Condition.Written.clean h)
  | spoken l => exact clean_speechLine h.speaker.isName h.text

end IntroMark

namespace Speakable

variable {hero : String} {l : Line}

theorem spoken?_eq (h : Speakable hero l) :
    spoken? (speechLine l.name l.text).toList = some (l.name, l.text) :=
  spoken?_speechLine h.speaker.isName h.speaker.lower h.text

theorem text_ne (h : Speakable hero l) : l.text ≠ "" := by
  intro hnil
  exact h.text.filled (by rw [hnil]; rfl)

/-- The speaker follows from the name. -/
theorem line_eq (h : Speakable hero l) :
    (⟨if l.name = hero then .hero else .npc, l.name, l.text⟩ : Line) = l := by
  obtain ⟨speaker, name, text⟩ := l
  cases speaker with
  | hero => rw [if_pos (h.isHero.1 rfl)]
  | npc => rw [if_neg fun hname => Speaker.noConfusion (h.isHero.2 hname)]

end Speakable

theorem readIntroRow_spoken {hero name words : String} (d : IntroDraft) {row : Row}
    (hnote : annotation? row.text = none) (hspoken : spoken? row.text = some (name, words))
    (hwords : words ≠ "") :
    readIntroRow hero d row =
      pure (d.say ⟨if name = hero then .hero else .npc, name, words⟩) := by
  -- the reader asks for an annotation, then for a speaker without words, then for any speaker
  rw [readIntroRow, hnote, hspoken]
  split
  · rename_i heq
    exact absurd heq (by simp)
  · split
    · rename_i heq
      simp only [Option.some.injEq, Prod.mk.injEq] at heq
      exact absurd heq.2 hwords
    · rename_i heq
      simp only [Option.some.injEq, Prod.mk.injEq] at heq
      rw [heq.1, heq.2]
    · rename_i heq
      exact absurd heq (by simp)

theorem readIntroRow_line {hero : String} {m : IntroMark} (h : m.Writable hero) (d : IntroDraft)
    {row : Row} (hrow : row.text = m.line.toList) : readIntroRow hero d row = pure (m.take d) := by
  cases m with
  | requires c =>
    have hc : c.Written := h
    rw [readIntroRow, hrow, IntroMark.line,
      annotation?_tagLine (by decide : IsTag "requires") hc.clean]
    refine (if_pos rfl).trans ?_
    rw [readCondition_display hc]
    rfl
  | spoken l =>
    have hl : Speakable hero l := h
    have hnote : annotation? (speechLine l.name l.text).toList = none :=
      annotation?_eq_none (head?_speechLine hl.speaker.isName l.text (by decide))
    rw [readIntroRow_spoken d (by rw [hrow]; exact hnote) (by rw [hrow]; exact hl.spoken?_eq)
      hl.text_ne, hl.line_eq]
    rfl

/-! ## Choices -/

/-- What a line adds to a choice. -/
inductive ChoiceMark
  | requires (condition : Condition)
  | sets (flag : String)
  | adds (item : String)
  | removes (item : String)
  | once
  | named (id : String)
  | saying (words : String)
  | answered (line : Line)
  | leadsTo (target : String)
  | exits

namespace ChoiceMark

/-- The line of a mark. -/
def line (hero : String) : ChoiceMark → String
  | requires condition => tagLine "requires" condition.display
  | sets flag => tagLine "set" flag
  | adds item => tagLine "add" item
  | removes item => tagLine "remove" item
  | once => "# once"
  | named id => tagLine "id" id
  | saying words => speechLine hero words
  | answered l => speechLine l.name l.text
  | leadsTo target => routeLine target
  | exits => routeLine Graph.endTarget

/-- The draft with a mark taken in. -/
def take (d : ChoiceDraft) : ChoiceMark → ChoiceDraft
  | requires condition => d.withChoice fun c => { c with condition := some condition }
  | sets flag => d.withEffects fun e => { e with setFlags := e.setFlags ++ [flag] }
  | adds item => d.withEffects fun e => { e with addItems := e.addItems ++ [item] }
  | removes item => d.withEffects fun e => { e with removeItems := e.removeItems ++ [item] }
  | once => d.withEffects fun e => { e with once := true }
  | named id => d.withChoice fun c => { c with id := some id }
  | saying words => d.withChoice fun c => { c with heroLine := words }
  | answered l => { d with reply := d.reply ++ [l] }
  | leadsTo target => d.withChoice fun c => { c with nextNode := some target }
  | exits => d.withChoice fun c => { c with exit := true }

/-- What a mark says can be written on a line. -/
def Writable (hero : String) : ChoiceMark → Prop
  | requires condition => condition.Written
  | sets text | adds text | removes text | named text | saying text => Clean text.toList
  | answered l => Speakable hero l ∧ l.speaker = .npc
  | leadsTo target => Clean target.toList ∧ target ≠ Graph.endTarget
  | once | exits => True

theorem clean_line {hero : String} (hhero : IsSpeaker hero) {m : ChoiceMark}
    (h : m.Writable hero) : Clean (m.line hero).toList := by
  cases m with
  | requires c => exact clean_tagLine (by decide : IsTag "requires") (Condition.Written.clean h)
  | sets flag => exact clean_tagLine (by decide : IsTag "set") h
  | adds item => exact clean_tagLine (by decide : IsTag "add") h
  | removes item => exact clean_tagLine (by decide : IsTag "remove") h
  | once => exact (by decide : Clean "# once".toList)
  | named id => exact clean_tagLine (by decide : IsTag "id") h
  | saying words => exact clean_speechLine hhero.isName h
  | answered l => exact clean_speechLine h.1.speaker.isName h.1.text
  | leadsTo target => exact clean_routeLine h.1
  | exits => exact clean_routeLine (by decide)

end ChoiceMark

/-- An annotation row of a choice with a value. -/
theorem readChoiceRow_tagLine {hero tag value : String} (htag : IsTag tag)
    (hvalue : Clean value.toList) (d : ChoiceDraft) {row : Row}
    (hrow : row.text = (tagLine tag value).toList) :
    readChoiceRow hero d row = annotateChoice d row ⟨tag.toList, some value.toList⟩ := by
  rw [readChoiceRow, hrow, annotation?_tagLine htag hvalue]

theorem readChoiceRow_routeLine {hero target : String} (d : ChoiceDraft) {row : Row}
    (hrow : row.text = (routeLine target).toList) :
    readChoiceRow hero d row = routeChoice d row (' ' :: target.toList) := by
  rw [readChoiceRow, hrow, toList_routeLine]
  rfl

theorem readChoiceRow_speechLine {hero name words : String} (hname : IsName name.toList)
    (d : ChoiceDraft) {row : Row} (hrow : row.text = (speechLine name words).toList) :
    readChoiceRow hero d row = speakChoice hero d row := by
  have hnote : annotation? row.text = none := by
    rw [hrow]
    exact annotation?_eq_none (head?_speechLine hname words (by decide))
  have hroute : row.text.head? ≠ some '>' := by
    rw [hrow]
    exact head?_speechLine hname words (by decide)
  rw [readChoiceRow, hnote]
  split
  · rename_i heq
    exact absurd heq (by simp)
  · rename_i heq
    exact absurd (by rw [heq]; rfl) hroute
  · rfl

theorem routeChoice_of_clean {target : String} (h : Clean target.toList) (d : ChoiceDraft)
    (row : Row) : routeChoice d row (' ' :: target.toList) =
      pure (if target = Graph.endTarget then d.withChoice fun c => { c with exit := true }
        else d.withChoice fun c => { c with nextNode := some target }) := by
  have hne : target ≠ "" := by
    rintro rfl
    exact h.filled rfl
  rw [routeChoice, trim_space_cons, h.trimmed, String.ofList_toList]
  split
  · exact absurd rfl hne
  · split <;> rfl

theorem readChoiceRow_line {hero : String} (hhero : IsSpeaker hero) {m : ChoiceMark}
    (h : m.Writable hero) (d : ChoiceDraft) {row : Row} (hrow : row.text = (m.line hero).toList) :
    readChoiceRow hero d row = pure (m.take d) := by
  cases m with
  | requires c =>
    have hc : c.Written := h
    rw [readChoiceRow_tagLine (by decide : IsTag "requires") hc.clean d hrow]
    simp only [annotateChoice, String.ofList_toList, readCondition_display hc, Noted.pure_bind]
    rfl
  | sets flag =>
    rw [readChoiceRow_tagLine (by decide : IsTag "set") h d hrow]
    simp only [annotateChoice, String.ofList_toList, filled_of_clean h]
    rfl
  | adds item =>
    rw [readChoiceRow_tagLine (by decide : IsTag "add") h d hrow]
    simp only [annotateChoice, String.ofList_toList, filled_of_clean h]
    rfl
  | removes item =>
    rw [readChoiceRow_tagLine (by decide : IsTag "remove") h d hrow]
    simp only [annotateChoice, String.ofList_toList, filled_of_clean h]
    rfl
  | once =>
    have hnote : annotation? "# once".toList = some ⟨"once".toList, none⟩ := by decide
    rw [readChoiceRow, hrow, ChoiceMark.line, hnote]
    rfl
  | named id =>
    rw [readChoiceRow_tagLine (by decide : IsTag "id") h d hrow]
    simp only [annotateChoice, String.ofList_toList, filled_of_clean h]
    rfl
  | saying words =>
    have hwords : Clean words.toList := h
    rw [readChoiceRow_speechLine hhero.isName d hrow, speakChoice, hrow, ChoiceMark.line,
      spoken?_speechLine hhero.isName hhero.lower hwords]
    exact if_pos rfl
  | answered l =>
    obtain ⟨hl, hnpc⟩ := h
    have hname : l.name ≠ hero := by
      intro hname
      rw [hl.isHero.2 hname] at hnpc
      exact Speaker.noConfusion hnpc
    rw [readChoiceRow_speechLine hl.speaker.isName d hrow, speakChoice, hrow, ChoiceMark.line,
      hl.spoken?_eq]
    simp only [if_neg hname, if_neg hl.text_ne, ← hnpc]
    rfl
  | leadsTo target =>
    obtain ⟨hclean, hend⟩ := h
    rw [readChoiceRow_routeLine d hrow, routeChoice_of_clean hclean, if_neg hend]
    rfl
  | exits =>
    rw [readChoiceRow_routeLine d hrow, routeChoice_of_clean (by decide), if_pos rfl]
    rfl

end Script

end Colloquy
