import Colloquy.Dialogue.Graph
import Colloquy.Proofs.Text.Clean

/-!
# Well-formed dialogues

A dialogue is plain data and may hold anything, but not everything can be said in a script. In a
well-formed dialogue names are words, what is recorded under a label can be written behind a tag,
a line is not silent, what may be empty is absent instead, and only the first lines of a node are
said on no condition. A condition is one test or several of them, and never nests further. All its
texts are on one line each (`Graph.WellFormed.oneLine`), so a printer may put any of them on a line.
-/

namespace Colloquy

open Text

/-- A list of texts that are on one line each. -/
def OneLine (texts : List String) : Prop := ∀ text ∈ texts, '\n' ∉ text.toList

/-! ## Conditions -/

namespace Condition

/-- A single test of the world. -/
def IsTest : Condition → Prop
  | .all _ => False
  | _ => True

/-- A single test, or at least two tests that do not always hold. -/
inductive Flat : Condition → Prop
  | test {c : Condition} (h : IsTest c) : Flat c
  | all {cs : List Condition} (hseveral : 2 ≤ cs.length)
      (h : ∀ c ∈ cs, IsTest c ∧ c ≠ .always) : Flat (.all cs)

mutual

/-- The texts in a condition, from left to right. -/
def texts : Condition → List String
  | .asked text | .notAsked text | .hasItem text | .lacksItem text | .visited text | .flag text
  | .notFlag text => [text]
  | .npcState npc state => [npc, state]
  | .all conditions => textsOfAll conditions
  | .never | .always => []

/-- The texts in several conditions. -/
def textsOfAll : List Condition → List String
  | [] => []
  | c :: cs => texts c ++ textsOfAll cs

end

theorem textsOfAll_eq (cs : List Condition) : textsOfAll cs = cs.flatMap texts := by
  induction cs with
  | nil => rfl
  | cons c cs ih => rw [textsOfAll, ih, List.flatMap_cons]

/-- A condition that is flat, with texts on one line each. -/
structure WellFormed (c : Condition) : Prop where
  flat : Flat c
  oneLine : OneLine c.texts

end Condition

/-! ## Lines and intros -/

/-- A line that says something, spoken by the hero just if it is under the hero's name. -/
structure Line.WellFormed (hero : String) (l : Line) : Prop where
  name : '\n' ∉ l.name.toList
  text : Clean l.text.toList
  speaker : l.speaker = .hero ↔ l.name = hero

structure IntroBlock.WellFormed (hero : String) (b : IntroBlock) : Prop where
  condition : ∀ c, b.condition = some c → c.WellFormed
  line : ∀ l ∈ b.lines, l.WellFormed hero

/-- Blocks of which only the first can be without a condition, and then it has lines. -/
structure WellFormedIntros (hero : String) (blocks : List IntroBlock) : Prop where
  unconditional : ∀ i b, blocks[i]? = some b → b.condition = none → i = 0 ∧ b.lines ≠ []
  block : ∀ b ∈ blocks, b.WellFormed hero

namespace WellFormedIntros

variable {hero : String} {blocks : List IntroBlock} {b : IntroBlock}

theorem nil : WellFormedIntros hero [] := ⟨fun _ _ => nofun, nofun⟩

/-- Without the last block the others are well-formed. -/
theorem front (h : WellFormedIntros hero (blocks ++ [b])) : WellFormedIntros hero blocks where
  unconditional i b' hb' := by
    have hlt : i < blocks.length := (List.getElem?_eq_some_iff.1 hb').1
    exact h.unconditional i b' (by rw [List.getElem?_append_left hlt, hb'])
  block b' hb' := h.block b' (List.mem_append_left _ hb')

/-- A block can be added if it has a condition, or else lines and no blocks before it. -/
theorem snoc (h : WellFormedIntros hero blocks) (hb : b.WellFormed hero)
    (hfirst : b.condition = none → blocks = [] ∧ b.lines ≠ []) :
    WellFormedIntros hero (blocks ++ [b]) where
  unconditional i b' hb' hnone := by
    rcases Nat.lt_trichotomy i blocks.length with hlt | rfl | hgt
    · rw [List.getElem?_append_left hlt] at hb'
      exact h.unconditional i b' hb' hnone
    · obtain rfl : b = b' := by simpa using hb'
      obtain ⟨rfl, hlines⟩ := hfirst hnone
      exact ⟨rfl, hlines⟩
    · rw [List.getElem?_eq_none (by simp; omega)] at hb'
      cases hb'
  block b' hb' := by
    rcases List.mem_append.1 hb' with hb' | hb'
    · exact h.block b' hb'
    · exact List.mem_singleton.1 hb' ▸ hb

end WellFormedIntros

/-! ## Choices, nodes, dialogues -/

/-- Effects whose flags and items can be written behind a tag. -/
structure Effects.WellFormed (e : Effects) : Prop where
  setFlags : ∀ flag ∈ e.setFlags, Clean flag.toList
  addItems : ∀ item ∈ e.addItems, Clean item.toList
  removeItems : ∀ item ∈ e.removeItems, Clean item.toList

structure Choice.WellFormed (hero : String) (c : Choice) : Prop where
  text : '\n' ∉ c.text.toList
  heroLine : '\n' ∉ c.heroLine.toList
  /-- There is no empty reply, and the hero has no part in it. -/
  npcResponse : ∀ lines, c.npcResponse = some lines →
    lines ≠ [] ∧ ∀ l ∈ lines, l.speaker = .npc ∧ l.WellFormed hero
  condition : ∀ d, c.condition = some d → d.WellFormed
  /-- The route that ends a conversation is not kept as the name of a node. -/
  nextNode : ∀ target, c.nextNode = some target →
    Clean target.toList ∧ target ≠ Graph.endTarget
  effects : ∀ e, c.effects = some e → e.isEmpty = false ∧ e.WellFormed
  id : ∀ id, c.id = some id → Clean id.toList

structure Node.WellFormed (hero : String) (n : Node) : Prop where
  intros : WellFormedIntros hero n.intros
  choice : ∀ c ∈ n.choices, c.WellFormed hero
  npcState : ∀ state, n.npcState = some state → Clean state.toList
  entryCondition : ∀ c, n.entryCondition = some c → c.WellFormed
  id : ∀ id, n.id = some id → Clean id.toList

/-- A dialogue as a script can write it, with this name for the hero. -/
structure Graph.WellFormed (hero : String) (g : Graph) : Prop where
  key : ∀ key n, g.get? key = some n → IsName key.toList
  node : ∀ key n, g.get? key = some n → n.WellFormed hero

/-! ## The texts of a dialogue -/

/-- The texts in a condition that may be absent. -/
def Condition.textsIfAny (c : Option Condition) : List String := c.toList.flatMap texts

def Line.texts (l : Line) : List String := [l.name, l.text]

def IntroBlock.texts (b : IntroBlock) : List String :=
  Condition.textsIfAny b.condition ++ b.lines.flatMap Line.texts

def Effects.texts (e : Effects) : List String := e.setFlags ++ e.addItems ++ e.removeItems

def Choice.texts (c : Choice) : List String :=
  [c.text, c.heroLine] ++ (c.npcResponse.getD []).flatMap Line.texts ++
    Condition.textsIfAny c.condition ++ c.nextNode.toList ++
    c.effects.toList.flatMap Effects.texts ++ c.id.toList

def Node.texts (n : Node) : List String :=
  n.intros.flatMap IntroBlock.texts ++ n.choices.flatMap Choice.texts ++ n.npcState.toList ++
    Condition.textsIfAny n.entryCondition ++ n.id.toList

/-- All texts in a dialogue. -/
def Graph.texts (g : Graph) : List String := g.entries.flatMap fun (key, n) => key :: n.texts

namespace OneLine

variable {α : Type} {texts texts' : List String}

theorem append (h : OneLine texts) (h' : OneLine texts') : OneLine (texts ++ texts') :=
  List.forall_mem_append.2 ⟨h, h'⟩

theorem flatMap {f : α → List String} {as : List α} (h : ∀ a ∈ as, OneLine (f a)) :
    OneLine (as.flatMap f) := List.forall_mem_flatMap.2 h

theorem toList {text : Option String} (h : ∀ t, text = some t → Clean t.toList) :
    OneLine text.toList := fun t ht => (h t (Option.mem_toList.1 ht)).oneLine

theorem of_clean (h : ∀ text ∈ texts, Clean text.toList) : OneLine texts :=
  fun text htext => (h text htext).oneLine

theorem textsIfAny {c : Option Condition} (h : ∀ d, c = some d → d.WellFormed) :
    OneLine (Condition.textsIfAny c) := .flatMap fun d hd => (h d (Option.mem_toList.1 hd)).oneLine

end OneLine

section

variable {hero : String}

theorem Line.WellFormed.oneLine {l : Line} (h : l.WellFormed hero) : OneLine l.texts :=
  List.forall_mem_cons.2 ⟨h.name, List.forall_mem_singleton.2 h.text.oneLine⟩

theorem IntroBlock.WellFormed.oneLine {b : IntroBlock} (h : b.WellFormed hero) : OneLine b.texts :=
  (OneLine.textsIfAny h.condition).append (.flatMap fun l hl => (h.line l hl).oneLine)

theorem Effects.WellFormed.oneLine {e : Effects} (h : e.WellFormed) : OneLine e.texts :=
  ((OneLine.of_clean h.setFlags).append (.of_clean h.addItems)).append (.of_clean h.removeItems)

theorem Choice.WellFormed.oneLine {c : Choice} (h : c.WellFormed hero) : OneLine c.texts := by
  have hspoken : OneLine [c.text, c.heroLine] :=
    List.forall_mem_cons.2 ⟨h.text, List.forall_mem_singleton.2 h.heroLine⟩
  have hreply : OneLine ((c.npcResponse.getD []).flatMap Line.texts) := by
    refine .flatMap fun l hl => ?_
    cases hlines : c.npcResponse with
    | none => rw [hlines] at hl; exact absurd hl List.not_mem_nil
    | some lines =>
      rw [hlines] at hl
      exact ((h.npcResponse lines hlines).2 l hl).2.oneLine
  have htarget : OneLine c.nextNode.toList := .toList fun target ht => (h.nextNode target ht).1
  have heffects : OneLine (c.effects.toList.flatMap Effects.texts) :=
    .flatMap fun e he => (h.effects e (Option.mem_toList.1 he)).2.oneLine
  exact ((((hspoken.append hreply).append (.textsIfAny h.condition)).append htarget).append
    heffects).append (.toList h.id)

theorem Node.WellFormed.oneLine {n : Node} (h : n.WellFormed hero) : OneLine n.texts := by
  have hintros : OneLine (n.intros.flatMap IntroBlock.texts) :=
    .flatMap fun b hb => (h.intros.block b hb).oneLine
  have hchoices : OneLine (n.choices.flatMap Choice.texts) :=
    .flatMap fun c hc => (h.choice c hc).oneLine
  exact (((hintros.append hchoices).append (.toList h.npcState)).append
    (.textsIfAny h.entryCondition)).append (.toList h.id)

/-- **No text of a well-formed dialogue has a line break in it.** -/
theorem Graph.WellFormed.oneLine {g : Graph} (h : g.WellFormed hero) : OneLine g.texts := by
  refine .flatMap fun (key, n) hentry => ?_
  have hn : g.get? key = some n := TextMap.mem_entries.1 hentry
  exact List.forall_mem_cons.2 ⟨(h.key key n hn).clean.oneLine, (h.node key n hn).oneLine⟩

end

end Colloquy
