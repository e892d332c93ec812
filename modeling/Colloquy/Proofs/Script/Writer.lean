import Colloquy.Proofs.Script.Mark

/-!
# Writing scripts — a graph as text

A graph is written one section per node: the heading, the annotations of the node, its intro blocks,
and its choices, each with its annotations, its lines and its routes. What stands under the heading
and under the opening of a choice is a list of marks; taking these marks in one after the other
builds the node and the choice they came from (`foldl_nodeMarks`, `blocks_foldl_introMarks`,
`finish_foldl_choiceMarks`). The conditions under which this works are collected in `Node.Writable`:
texts fit on a line, the first intro block is the unconditional one, and what a script cannot
express is absent.
-/

namespace Colloquy

namespace Script

open Text

/-! ## Annotations of a node -/

/-- The annotations of a node. -/
def nodeMarks (n : Node) : List NodeMark :=
  n.npcState.toList.map .npcState ++ (if n.isDefault then [.isDefault] else []) ++
    n.id.toList.map .named ++ n.entryCondition.toList.map .requires

theorem foldl_nodeMarks (n : Node) :
    (nodeMarks n).foldl NodeMark.take {} = { n with intros := [], choices := [] } := by
  obtain ⟨intros, choices, isDefault, npcState, entryCondition, id⟩ := n
  cases isDefault <;> cases npcState <;> cases entryCondition <;> cases id <;> rfl

/-! ## Intros -/

/-- The rows of intro blocks. -/
def introMarks (intros : List IntroBlock) : List IntroMark :=
  intros.flatMap fun block => block.condition.toList.map .requires ++ block.lines.map .spoken

/-- Lines are added to the block that is open. -/
theorem foldl_spoken (complete : List IntroBlock) (block : IntroBlock) (lines : List Line) :
    (lines.map IntroMark.spoken).foldl IntroMark.take ⟨complete, some block⟩ =
      ⟨complete, some { block with lines := block.lines ++ lines }⟩ := by
  induction lines generalizing block with
  | nil => simp
  | cons line lines ih =>
    rw [List.map_cons, List.foldl_cons]
    show (lines.map IntroMark.spoken).foldl IntroMark.take
      ⟨complete, some { block with lines := block.lines ++ [line] }⟩ = _
    rw [ih]
    simp

/-- Conditional blocks are added one after the other. -/
theorem blocks_foldl_conditional {intros : List IntroBlock}
    (h : ∀ block ∈ intros, block.condition ≠ none) (d : IntroDraft) :
    ((introMarks intros).foldl IntroMark.take d).blocks = d.blocks ++ intros := by
  induction intros generalizing d with
  | nil => simp [introMarks]
  | cons block intros ih =>
    obtain ⟨condition, lines⟩ := block
    obtain ⟨c, rfl⟩ := Option.ne_none_iff_exists'.1 (h _ List.mem_cons_self)
    have hopen : (introMarks (⟨some c, lines⟩ :: intros)).foldl IntroMark.take d =
        (introMarks intros).foldl IntroMark.take ⟨d.close.complete, some ⟨some c, lines⟩⟩ := by
      rw [introMarks, List.flatMap_cons, List.foldl_append, List.foldl_append]
      show List.foldl _ ((lines.map IntroMark.spoken).foldl IntroMark.take
        ⟨d.close.complete, some ⟨some c, []⟩⟩) _ = _
      rw [foldl_spoken]
      rfl
    rw [hopen, ih fun b hb => h b (List.mem_cons_of_mem _ hb)]
    simp [IntroDraft.blocks, IntroDraft.close]

/-- **The rows of intro blocks build them**, if the first alone has no condition, and has lines. -/
theorem blocks_foldl_introMarks {intros : List IntroBlock}
    (hfirst : ∀ block ∈ intros.head?, block.condition = none ∧ block.lines ≠ [])
    (hlater : ∀ block ∈ intros.tail, block.condition ≠ none) :
    ((introMarks intros).foldl IntroMark.take {}).blocks = intros := by
  cases intros with
  | nil => rfl
  | cons first rest =>
    obtain ⟨condition, lines⟩ := first
    obtain ⟨rfl, hlines⟩ := hfirst _ rfl
    obtain ⟨line, lines, rfl⟩ := List.exists_cons_of_ne_nil hlines
    have hrest : ∀ block ∈ rest, block.condition ≠ none := hlater
    -- the first line opens the block that has no condition
    have hopen : (introMarks (⟨none, line :: lines⟩ :: rest)).foldl IntroMark.take {} =
        (introMarks rest).foldl IntroMark.take ⟨[], some ⟨none, line :: lines⟩⟩ := by
      rw [introMarks, List.flatMap_cons, List.foldl_append]
      show List.foldl _ ((lines.map IntroMark.spoken).foldl IntroMark.take
        ⟨[], some ⟨none, [line]⟩⟩) _ = _
      rw [foldl_spoken]
      rfl
    rw [hopen, blocks_foldl_conditional hrest]
    rfl

/-! ## Choices -/

/-- The rows of effects. -/
def effectMarks (e : Effects) : List ChoiceMark :=
  e.setFlags.map .sets ++ e.addItems.map .adds ++ e.removeItems.map .removes ++
    if e.once then [.once] else []

/-- The rows of a choice under its opening. -/
def choiceMarks (c : Choice) : List ChoiceMark :=
  c.condition.toList.map .requires ++ effectMarks (c.effects.getD {}) ++
    c.id.toList.map .named ++ (if c.heroLine = "" then [] else [.saying c.heroLine]) ++
    (c.npcResponse.getD []).map .answered ++ c.nextNode.toList.map .leadsTo ++
    if c.exit then [.exits] else []

theorem foldl_sets (d : ChoiceDraft) (flags : List String) :
    (flags.map ChoiceMark.sets).foldl ChoiceMark.take d =
      d.withEffects fun e => { e with setFlags := e.setFlags ++ flags } :=
  foldl_add (fun d flags => d.withEffects fun e => { e with setFlags := e.setFlags ++ flags })
    (by simp [ChoiceDraft.withEffects]) (by simp [ChoiceDraft.withEffects, ChoiceMark.take]) d flags

theorem foldl_adds (d : ChoiceDraft) (items : List String) :
    (items.map ChoiceMark.adds).foldl ChoiceMark.take d =
      d.withEffects fun e => { e with addItems := e.addItems ++ items } :=
  foldl_add (fun d items => d.withEffects fun e => { e with addItems := e.addItems ++ items })
    (by simp [ChoiceDraft.withEffects]) (by simp [ChoiceDraft.withEffects, ChoiceMark.take]) d items

theorem foldl_removes (d : ChoiceDraft) (items : List String) :
    (items.map ChoiceMark.removes).foldl ChoiceMark.take d =
      d.withEffects fun e => { e with removeItems := e.removeItems ++ items } :=
  foldl_add
    (fun d items => d.withEffects fun e => { e with removeItems := e.removeItems ++ items })
    (by simp [ChoiceDraft.withEffects]) (by simp [ChoiceDraft.withEffects, ChoiceMark.take]) d items

theorem foldl_answered (d : ChoiceDraft) (lines : List Line) :
    (lines.map ChoiceMark.answered).foldl ChoiceMark.take d =
      { d with reply := d.reply ++ lines } :=
  foldl_add (fun d lines => { d with reply := d.reply ++ lines }) (by simp)
    (by simp [ChoiceMark.take]) d lines

theorem foldl_effectMarks (c : Choice) (e : Effects) :
    (effectMarks e).foldl ChoiceMark.take { choice := c } = { choice := c, effects := e } := by
  obtain ⟨setFlags, addItems, removeItems, once⟩ := e
  rw [effectMarks, List.foldl_append, List.foldl_append, List.foldl_append, foldl_sets, foldl_adds,
    foldl_removes]
  cases once <;> simp [ChoiceDraft.withEffects, ChoiceMark.take]

/-- The rows of a choice build everything that it is, does and leads to. -/
theorem foldl_choiceMarks (c : Choice) :
    (choiceMarks c).foldl ChoiceMark.take { choice := { text := c.text } } =
      { choice := { c with effects := none, npcResponse := none },
        effects := c.effects.getD {},
        reply := c.npcResponse.getD [] } := by
  have hcondition : (c.condition.toList.map ChoiceMark.requires).foldl ChoiceMark.take
      { choice := { text := c.text } } =
        { choice := { text := c.text, condition := c.condition } } := by
    cases c.condition <;> rfl
  -- the effects and the reply are lists; each other mark is there once or not at all
  rw [choiceMarks]
  simp only [List.foldl_append, hcondition, foldl_effectMarks, foldl_answered]
  obtain ⟨text, heroLine, npcResponse, condition, nextNode, exit, effects, id⟩ := c
  cases id <;> cases nextNode <;> cases exit <;> by_cases hline : heroLine = "" <;>
    simp [hline, ChoiceDraft.withChoice, ChoiceMark.take]

/-- **The rows of a choice build it**, if it has no empty effects and no empty reply. -/
theorem finish_foldl_choiceMarks {c : Choice} (heffects : ∀ e ∈ c.effects, e.isEmpty = false)
    (hreply : ∀ lines ∈ c.npcResponse, lines ≠ []) :
    ((choiceMarks c).foldl ChoiceMark.take { choice := { text := c.text } }).finish = c := by
  rw [foldl_choiceMarks]
  obtain ⟨text, heroLine, npcResponse, condition, nextNode, exit, effects, id⟩ := c
  have hlines : (if npcResponse.getD [] = [] then none else some (npcResponse.getD [])) =
      npcResponse := by
    cases npcResponse with
    | none => rfl
    | some lines => exact if_neg (hreply lines rfl)
  have hdone : (if (effects.getD {}).isEmpty then none else some (effects.getD {})) = effects := by
    cases effects with
    | none => rfl
    | some e => exact if_neg (by rw [Option.getD_some, heffects e rfl]; decide)
  rw [ChoiceDraft.finish]
  simp only [hlines, hdone]

/-! ## What can be written -/

/-- A choice that can be written. -/
structure WritableChoice (hero : String) (c : Choice) : Prop where
  text : Clean c.text.toList
  heroLine : c.heroLine ≠ "" → Clean c.heroLine.toList
  npcResponse : ∀ lines ∈ c.npcResponse,
    lines ≠ [] ∧ ∀ l ∈ lines, Speakable hero l ∧ l.speaker = .npc
  condition : ∀ d ∈ c.condition, d.Written
  nextNode : ∀ target ∈ c.nextNode, Clean target.toList ∧ target ≠ Graph.endTarget
  effects : ∀ e ∈ c.effects, e.isEmpty = false ∧
    ∀ text ∈ e.setFlags ++ e.addItems ++ e.removeItems, Clean text.toList
  id : ∀ id ∈ c.id, Clean id.toList

/-- A node that can be written: there is something under its heading, what is written fits on lines,
and only the first intro block has no condition. -/
structure WritableNode (hero : String) (n : Node) : Prop where
  content : n.npcState ≠ none ∨ n.isDefault = true ∨ n.id ≠ none ∨ n.entryCondition ≠ none ∨
    n.intros ≠ [] ∨ n.choices ≠ []
  npcState : ∀ state ∈ n.npcState, Clean state.toList
  id : ∀ id ∈ n.id, Clean id.toList
  entryCondition : ∀ c ∈ n.entryCondition, c.Written
  firstIntro : ∀ block ∈ n.intros.head?, block.condition = none ∧ block.lines ≠ []
  laterIntros : ∀ block ∈ n.intros.tail, block.condition ≠ none
  intros : ∀ block ∈ n.intros, (∀ c ∈ block.condition, c.Written) ∧
    ∀ l ∈ block.lines, Speakable hero l
  choices : ∀ c ∈ n.choices, WritableChoice hero c

/-- A graph that can be written: its nodes have names for keys and can be written. -/
def WritableGraph (hero : String) (g : Graph) : Prop :=
  ∀ entry ∈ g.entries, IsName entry.1.toList ∧ WritableNode hero entry.2

theorem writable_nodeMarks {hero : String} {n : Node} (h : WritableNode hero n) :
    ∀ m ∈ nodeMarks n, m.Writable := by
  intro m hm
  simp only [nodeMarks, List.mem_append] at hm
  rcases hm with ((hm | hm) | hm) | hm
  · obtain ⟨state, hstate, rfl⟩ := List.mem_map.1 hm
    exact h.npcState state (Option.mem_toList.1 hstate)
  · split at hm
    · rw [List.mem_singleton.1 hm]
      trivial
    · exact absurd hm List.not_mem_nil
  · obtain ⟨id, hid, rfl⟩ := List.mem_map.1 hm
    exact h.id id (Option.mem_toList.1 hid)
  · obtain ⟨c, hc, rfl⟩ := List.mem_map.1 hm
    exact h.entryCondition c (Option.mem_toList.1 hc)

theorem writable_introMarks {hero : String} {n : Node} (h : WritableNode hero n) :
    ∀ m ∈ introMarks n.intros, m.Writable hero := by
  intro m hm
  obtain ⟨block, hblock, hm⟩ := List.mem_flatMap.1 hm
  obtain ⟨hcondition, hlines⟩ := h.intros block hblock
  rcases List.mem_append.1 hm with hm | hm
  · obtain ⟨c, hc, rfl⟩ := List.mem_map.1 hm
    exact hcondition c (Option.mem_toList.1 hc)
  · obtain ⟨l, hl, rfl⟩ := List.mem_map.1 hm
    exact hlines l hl

theorem writable_effectMarks {hero : String} {e : Effects}
    (h : ∀ text ∈ e.setFlags ++ e.addItems ++ e.removeItems, Clean text.toList) :
    ∀ m ∈ effectMarks e, m.Writable hero := by
  intro m hm
  simp only [effectMarks, List.mem_append] at hm
  rcases hm with ((hm | hm) | hm) | hm
  · obtain ⟨flag, hflag, rfl⟩ := List.mem_map.1 hm
    exact h flag (by simp [hflag])
  · obtain ⟨item, hitem, rfl⟩ := List.mem_map.1 hm
    exact h item (by simp [hitem])
  · obtain ⟨item, hitem, rfl⟩ := List.mem_map.1 hm
    exact h item (by simp [hitem])
  · split at hm
    · rw [List.mem_singleton.1 hm]
      trivial
    · exact absurd hm List.not_mem_nil

theorem writable_choiceMarks {hero : String} {c : Choice} (h : WritableChoice hero c) :
    ∀ m ∈ choiceMarks c, m.Writable hero := by
  intro m hm
  simp only [choiceMarks, List.mem_append] at hm
  rcases hm with (((((hm | hm) | hm) | hm) | hm) | hm) | hm
  · obtain ⟨d, hd, rfl⟩ := List.mem_map.1 hm
    exact h.condition d (Option.mem_toList.1 hd)
  · cases heffects : c.effects with
    | none =>
      rw [heffects] at hm
      exact absurd hm List.not_mem_nil
    | some e =>
      rw [heffects] at hm
      exact writable_effectMarks (h.effects e heffects).2 m hm
  · obtain ⟨id, hid, rfl⟩ := List.mem_map.1 hm
    exact h.id id (Option.mem_toList.1 hid)
  · split at hm
    · exact absurd hm List.not_mem_nil
    · next hline =>
      rw [List.mem_singleton.1 hm]
      exact h.heroLine hline
  · obtain ⟨l, hl, rfl⟩ := List.mem_map.1 hm
    cases hreply : c.npcResponse with
    | none =>
      rw [hreply] at hl
      exact absurd hl List.not_mem_nil
    | some lines =>
      rw [hreply] at hl
      exact (h.npcResponse lines hreply).2 l hl
  · obtain ⟨target, htarget, rfl⟩ := List.mem_map.1 hm
    exact h.nextNode target (Option.mem_toList.1 htarget)
  · split at hm
    · rw [List.mem_singleton.1 hm]
      trivial
    · exact absurd hm List.not_mem_nil

/-! ## The text -/

/-- The lines of a choice. -/
def choiceLines (hero : String) (c : Choice) : List String :=
  openingLine c.text :: (choiceMarks c).map (ChoiceMark.line hero)

/-- The lines of a node under its heading. -/
def nodeLines (hero : String) (n : Node) : List String :=
  (nodeMarks n).map NodeMark.line ++ (introMarks n.intros).map IntroMark.line ++
    n.choices.flatMap (choiceLines hero)

/-- **Write a dialogue**, one section per entry, in the order of the entries. -/
def write (hero : String) (entries : List (String × Node)) : String :=
  paragraph (entries.flatMap fun entry => headingLine entry.1 :: nodeLines hero entry.2)

end Script

end Colloquy
