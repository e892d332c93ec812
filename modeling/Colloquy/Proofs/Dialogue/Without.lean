import Colloquy.Conversation.Step
import Colloquy.Proofs.Dialogue.Labels

/-!
# Dialogues without the tests of a label

If a label was never asked about, every test of it comes to the same, and could as well be replaced
by that. `Graph.without` is the dialogue with all tests of a label replaced, wherever they stand and
however deep. In a world in which the label was not asked about it cannot be told from the dialogue
itself: the same lines play, the same choices are offered, and it opens on the same node.
-/

namespace Colloquy

namespace TextMap

variable {α β : Type}

/-- The map with every value changed. -/
def map (f : α → β) (m : TextMap α) : TextMap β :=
  ⟨m.entries.map fun e => (e.1, f e.2), List.pairwise_map.2 m.increasing⟩

theorem lookup_map (f : α → β) (key : String) (l : List (String × α)) :
    lookup key (l.map fun e => (e.1, f e.2)) = (lookup key l).map f := by
  induction l with
  | nil => rfl
  | cons e l ih =>
    simp only [List.map_cons, lookup]
    split
    · rfl
    · exact ih

@[simp] theorem get?_map (f : α → β) (m : TextMap α) (key : String) :
    (m.map f).get? key = (m.get? key).map f := lookup_map f key m.entries

@[simp] theorem contains_map (f : α → β) (m : TextMap α) (key : String) :
    (m.map f).contains key = m.contains key := by
  simp [contains]

end TextMap

/-! ## Conditions -/

namespace Condition

mutual

/-- The condition with every test of a label replaced by what it comes to if nobody asked. -/
def without (label : String) : Condition → Condition
  | .asked other => if other = label then .never else .asked other
  | .notAsked other => if other = label then .always else .notAsked other
  | .all conditions => .all (withoutAll label conditions)
  | c => c

/-- Several conditions with every test of a label replaced. -/
def withoutAll (label : String) : List Condition → List Condition
  | [] => []
  | c :: cs => without label c :: withoutAll label cs

end

variable {label : String} {w : World}

mutual

/-- **Where a label was not asked about, replacing its tests makes no difference.** -/
theorem holds_without (h : w.hasAsked label = false) :
    ∀ c : Condition, (c.without label).holds w = c.holds w
  | .asked other => by
    by_cases hother : other = label
    · simp [without, holds, hother, h]
    · simp [without, hother]
  | .notAsked other => by
    by_cases hother : other = label
    · simp [without, holds, hother, h]
    · simp [without, hother]
  | .all conditions => by
    rw [without, holds, holds, allHold_withoutAll h conditions]
  | .hasItem _ | .lacksItem _ | .npcState _ _ | .visited _ | .flag _ | .notFlag _ | .never
  | .always => by simp only [without]

theorem allHold_withoutAll (h : w.hasAsked label = false) :
    ∀ cs : List Condition, allHold w (withoutAll label cs) = allHold w cs
  | [] => rfl
  | c :: cs => by
    rw [withoutAll, allHold, allHold, holds_without h c, allHold_withoutAll h cs]

end

mutual

/-- **No test of the label is left.** -/
theorem not_asks_without : ∀ c : Condition, ¬ (c.without label).Asks label
  | .asked other => by
    by_cases hother : other = label
    · simp only [without, hother, if_true]
      nofun
    · simp only [without, hother, if_false]
      rintro ⟨⟩
      exact hother rfl
  | .notAsked other => by
    by_cases hother : other = label
    · simp only [without, hother, if_true]
      nofun
    · simp only [without, hother, if_false]
      rintro ⟨⟩
      exact hother rfl
  | .all conditions => by
    rw [without]
    rintro (_ | _ | ⟨hmem, h⟩)
    exact not_asks_of_mem_withoutAll conditions _ hmem h
  | .hasItem _ | .lacksItem _ | .npcState _ _ | .visited _ | .flag _ | .notFlag _ | .never
  | .always => by
    simp only [without]
    nofun

theorem not_asks_of_mem_withoutAll :
    ∀ cs : List Condition, ∀ c ∈ withoutAll label cs, ¬ c.Asks label
  | [] => by simp [withoutAll]
  | c :: cs => by
    rw [withoutAll, List.forall_mem_cons]
    exact ⟨not_asks_without c, not_asks_of_mem_withoutAll cs⟩

end

theorem holdsIfAny_without (h : w.hasAsked label = false) (c : Option Condition) :
    holdsIfAny w (c.map (without label)) = holdsIfAny w c := by
  cases c with
  | none => rfl
  | some c => exact holds_without h c

theorem not_asksIfAny_without (c : Option Condition) :
    ¬ AsksIfAny label (c.map (without label)) := by
  rintro ⟨d, hd, hasks⟩
  obtain ⟨c, -, rfl⟩ := Option.map_eq_some_iff.1 hd
  exact not_asks_without c hasks

end Condition

/-! ## Nodes -/

/-- The lines without the tests of a label. -/
def IntroBlock.without (label : String) (b : IntroBlock) : IntroBlock :=
  { b with condition := b.condition.map (Condition.without label) }

/-- The choice without the tests of a label. -/
def Choice.without (label : String) (c : Choice) : Choice :=
  { c with condition := c.condition.map (Condition.without label) }

namespace Node

/-- The node without the tests of a label. -/
def without (label : String) (n : Node) : Node :=
  { n with
    intros := n.intros.map (IntroBlock.without label)
    choices := n.choices.map (Choice.without label)
    entryCondition := n.entryCondition.map (Condition.without label) }

variable {label : String} {w : World}

theorem introFor_without (h : w.hasAsked label = false) (n : Node) :
    (n.without label).introFor w = (n.introFor w).map (IntroBlock.without label) := by
  have hholds : (fun block : IntroBlock => block.condition.any (Condition.holds w)) ∘
      IntroBlock.without label = fun block => block.condition.any (Condition.holds w) := by
    funext block
    simp only [Function.comp_apply, IntroBlock.without]
    cases block.condition with
    | none => rfl
    | some c => exact Condition.holds_without h c
  have hnone : (fun block : IntroBlock => block.condition.isNone) ∘ IntroBlock.without label =
      fun block => block.condition.isNone := by
    funext block
    simp [IntroBlock.without]
  rw [introFor, without, List.find?_map, List.find?_map, hholds, hnone, ← Option.map_or]
  rfl

theorem visibleChoices_without (h : w.hasAsked label = false) (n : Node) :
    (n.without label).visibleChoices w =
      (n.visibleChoices w).map fun entry => (entry.1, entry.2.without label) := by
  have hnumbered : (n.without label).numbered =
      n.numbered.map fun entry => (entry.1, entry.2.without label) := by
    simp [numbered, without, List.zipIdx_map, Function.comp_def]
  have hvisible (c : Choice) : (c.without label).isVisible w = c.isVisible w :=
    Condition.holdsIfAny_without h c.condition
  rw [visibleChoices, hnumbered, List.filter_map]
  simp only [Function.comp_def, hvisible]
  rfl

theorem mayOpenOn_without (h : w.hasAsked label = false) (n : Node) :
    Graph.mayOpenOn w (n.without label) = Graph.mayOpenOn w n :=
  Condition.holdsIfAny_without h n.entryCondition

end Node

/-! ## Dialogues -/

namespace Graph

/-- The dialogue without the tests of a label. -/
def without (label : String) (g : Graph) : Graph := g.map (Node.without label)

variable {g : Graph} {label : String} {w : World}

/-- **Nothing in it asks about the label.** -/
theorem not_asks_graph_without :
    ¬ (g.without label).AsksInChoice label ∧ ¬ (g.without label).AsksBeside label := by
  constructor
  · rintro ⟨key, n, hn, c, hc, hasks⟩
    rw [without, TextMap.get?_map] at hn
    obtain ⟨n, -, rfl⟩ := Option.map_eq_some_iff.1 hn
    obtain ⟨c, -, rfl⟩ := List.mem_map.1 hc
    exact Condition.not_asksIfAny_without _ hasks
  · rintro ⟨key, n, hn, hasks⟩
    rw [without, TextMap.get?_map] at hn
    obtain ⟨n, -, rfl⟩ := Option.map_eq_some_iff.1 hn
    rcases hasks with ⟨b, hb, hasks⟩ | hasks
    · obtain ⟨b, -, rfl⟩ := List.mem_map.1 hb
      exact Condition.not_asksIfAny_without _ hasks
    · exact Condition.not_asksIfAny_without _ hasks

theorem firstKey?_without {test test' : Node → Bool}
    (htest : ∀ n : Node, test (n.without label) = test' n) :
    (g.without label).firstKey? test = g.firstKey? test' := by
  simp only [firstKey?, without, TextMap.map, List.find?_map, Option.map_map, Function.comp_def,
    htest]

/-- **It opens on the same node.** -/
theorem entryNode_without (h : w.hasAsked label = false) (npc : String) :
    (g.without label).entryNode w npc = g.entryNode w npc := by
  have hfirst (test : Node → Bool) (htest : ∀ n : Node, test (n.without label) = test n) :
      (g.without label).firstKey? (fun n => test n && mayOpenOn w n) =
        g.firstKey? fun n => test n && mayOpenOn w n :=
    firstKey?_without fun n => by rw [htest, Node.mayOpenOn_without h]
  have hstart : (g.without label).contains startNode = g.contains startNode :=
    TextMap.contains_map _ g startNode
  simp only [entryNode, hstart]
  rw [hfirst (fun n => n.isDefault) fun _ => rfl]
  congr 2
  funext state
  exact hfirst (fun n => n.npcState = some state) fun _ => rfl

end Graph

/-! ## Sessions -/

namespace Session

/-- The session about the dialogue without the tests of a label. -/
def without (label : String) (s : Session) : Session := { s with graph := s.graph.without label }

variable {label : String} {w : World}

/-- **The same choices are offered.** -/
theorem menu?_without (h : w.hasAsked label = false) (s : Session) :
    (s.without label).menu? w = s.menu? w := by
  have hgraph : (s.without label).graph.get? (s.without label).node =
      (s.graph.get? s.node).map (Node.without label) := TextMap.get?_map _ s.graph s.node
  rw [menu?, menu?, hgraph, Option.map_map]
  congr 1
  funext node
  simp only [Function.comp_apply, Node.visibleChoices_without h, List.filter_map, List.map_map]
  rfl

end Session

namespace Conversation

/-- **The same lines play.** -/
theorem introLines_without {label : String} {w : World} (h : w.hasAsked label = false) (n : Node) :
    introLines w (n.without label) = introLines w n := by
  rw [introLines, introLines, Node.introFor_without h, Option.map_map]
  rfl

end Conversation

end Colloquy
