import Colloquy.Proofs.Dialogue.Review
import Colloquy.Script.Reader
import Mathlib.Control.Monad.Basic

/-!
# Labels that are asked about

A condition may ask about a label at any depth (`Condition.Asks`), and a dialogue has conditions in
three places: at its choices, at the intro blocks of its nodes and at the nodes themselves. A review
looks at the first of the three. It reports a label just if a choice asks about it and no choice
carries it (`unknownLabel_mem_review`), so it misses none that a choice asks about and any that is
only asked about elsewhere (`labels_of_choices_reviewed`, `greeting_unreviewed`).
-/

namespace Colloquy

namespace Condition

/-- A condition asks about a label, itself or in one of its parts. -/
inductive Asks (label : String) : Condition → Prop
  | asked : Asks label (.asked label)
  | notAsked : Asks label (.notAsked label)
  | all {c : Condition} {cs : List Condition} (hmem : c ∈ cs) (h : Asks label c) :
      Asks label (.all cs)

mutual

/-- **The labels of a condition are those it asks about.** -/
theorem mem_labels_iff {label : String} : ∀ {c : Condition}, label ∈ labels c ↔ c.Asks label
  | .asked other => by
    rw [labels, List.mem_singleton]
    exact ⟨fun h => h ▸ .asked, fun h => by cases h; rfl⟩
  | .notAsked other => by
    rw [labels, List.mem_singleton]
    exact ⟨fun h => h ▸ .notAsked, fun h => by cases h; rfl⟩
  | .all conditions => by
    rw [labels, mem_labelsOfAll_iff]
    constructor
    · rintro ⟨c, hc, h⟩
      exact .all hc h
    · rintro (_ | _ | ⟨hc, h⟩)
      exact ⟨_, hc, h⟩
  | .hasItem _ | .lacksItem _ | .npcState _ _ | .visited _ | .flag _ | .notFlag _ | .never
  | .always => by
    simp only [labels]
    exact ⟨fun h => absurd h List.not_mem_nil, nofun⟩

theorem mem_labelsOfAll_iff {label : String} : ∀ {cs : List Condition},
    label ∈ labelsOfAll cs ↔ ∃ c ∈ cs, c.Asks label
  | [] => by simp [labelsOfAll]
  | c :: cs => by simp [labelsOfAll, @mem_labels_iff label c, @mem_labelsOfAll_iff label cs]

end

/-- A condition that may be absent asks about a label. -/
def AsksIfAny (label : String) (c : Option Condition) : Prop := ∃ d, c = some d ∧ d.Asks label

end Condition

namespace Node

/-- A choice of the node asks about a label. -/
def AsksInChoice (n : Node) (label : String) : Prop :=
  ∃ c ∈ n.choices, Condition.AsksIfAny label c.condition

/-- An intro block of the node or the node itself asks about a label. -/
def AsksBeside (n : Node) (label : String) : Prop :=
  (∃ b ∈ n.intros, Condition.AsksIfAny label b.condition) ∨
    Condition.AsksIfAny label n.entryCondition

end Node

namespace Graph

variable {g : Graph} {label : String}

/-- A choice of the dialogue carries a label. -/
def Carries (g : Graph) (label : String) : Prop :=
  ∃ key n, g.get? key = some n ∧ ∃ c ∈ n.choices, c.id = some label

/-- A choice of the dialogue asks about a label. -/
def AsksInChoice (g : Graph) (label : String) : Prop :=
  ∃ key n, g.get? key = some n ∧ n.AsksInChoice label

/-- The dialogue asks about a label where there is no choice: at an intro block or at a node. -/
def AsksBeside (g : Graph) (label : String) : Prop :=
  ∃ key n, g.get? key = some n ∧ n.AsksBeside label

theorem mem_labels : label ∈ g.labels ↔ g.Carries label := by
  simp only [labels, List.mem_flatMap, Prod.exists, TextMap.mem_entries, List.mem_filterMap,
    Carries]

/-- **A label is reported for a choice just if the choice asks about it and no choice carries it.**
A test without a label is none of this. -/
theorem unknownLabel_mem_review {key : String} {index : Nat} :
    .unknownLabel key index label ∈ g.review ↔
      ∃ n c, g.get? key = some n ∧ n.choices[index]? = some c ∧
        Condition.AsksIfAny label c.condition ∧ label ≠ "" ∧ ¬ g.Carries label := by
  have hasks (c : Choice) : label ∈ (c.condition.map Condition.labels).getD [] ↔
      Condition.AsksIfAny label c.condition := by
    unfold Condition.AsksIfAny
    cases c.condition <;> simp [Condition.mem_labels_iff]
  rw [mem_review_iff]
  constructor
  · intro h
    cases h with
    | @unknownLabel _ n _ c _ hn hc htested hne hlabel =>
      exact ⟨n, c, hn, hc, (hasks c).1 htested, hne, fun hcarries => hlabel (mem_labels.2 hcarries)⟩
  · rintro ⟨n, c, hn, hc, hasked, hne, hcarries⟩
    exact .unknownLabel hn hc ((hasks c).2 hasked) hne fun hlabel => hcarries (mem_labels.1 hlabel)

/-- No label is reported just if every label that a choice asks about is carried. -/
theorem no_unknownLabel_iff :
    (∀ key index label, .unknownLabel key index label ∉ g.review) ↔
      ∀ label, label ≠ "" → g.AsksInChoice label → g.Carries label := by
  constructor
  · rintro hclean label hne ⟨key, n, hn, c, hc, hasks⟩
    obtain ⟨index, hindex⟩ := List.mem_iff_getElem?.1 hc
    by_contra hcarries
    exact hclean key index label
      (unknownLabel_mem_review.2 ⟨n, c, hn, hindex, hasks, hne, hcarries⟩)
  · intro hcarried key index label h
    obtain ⟨n, c, hn, hc, hasks, hne, hcarries⟩ := unknownLabel_mem_review.1 h
    exact hcarries (hcarried label hne ⟨key, n, hn, c, List.mem_of_getElem? hc, hasks⟩)

/-- **A review finds the unknown labels that choices ask about, and no others.** A label is reported
for a choice just if the choice asks about it and no choice carries it. So no label is reported just
if every label that a choice asks about is carried by a choice; and then every label that the
dialogue asks about is carried just if those are that it asks about at intro blocks and at nodes,
which a review does not look at. -/
theorem labels_of_choices_reviewed (g : Graph) :
    (∀ key index label, .unknownLabel key index label ∈ g.review ↔
      ∃ n c, g.get? key = some n ∧ n.choices[index]? = some c ∧
        Condition.AsksIfAny label c.condition ∧ label ≠ "" ∧ ¬ g.Carries label) ∧
    ((∀ key index label, .unknownLabel key index label ∉ g.review) ↔
      ∀ label, label ≠ "" → g.AsksInChoice label → g.Carries label) ∧
    ((∀ key index label, .unknownLabel key index label ∉ g.review) →
      ((∀ label, label ≠ "" → g.AsksInChoice label ∨ g.AsksBeside label → g.Carries label) ↔
        ∀ label, label ≠ "" → g.AsksBeside label → g.Carries label)) := by
  refine ⟨fun _ _ _ => unknownLabel_mem_review, no_unknownLabel_iff, fun hclean => ?_⟩
  have hchoices := no_unknownLabel_iff.1 hclean
  constructor
  · exact fun hall label hne hbeside => hall label hne (.inr hbeside)
  · rintro hbeside label hne (hchoice | hother)
    · exact hchoices label hne hchoice
    · exact hbeside label hne hother

/-- A script whose lines ask about one label and whose second node asks about another, neither of
which any choice carries. -/
def greetingScript : String :=
  "=== start ===\nzyx: Hello.\n# requires: asked:ghost\nzyx: You again.\n- Bye\n> END\n" ++
    "=== attic ===\n# requires: night, !asked:attic\n- Leave\n> END\n"

/-- The dialogue of the script. -/
def greeting : Graph :=
  (TextMap.empty.insert "start" {
    intros := [
      { lines := [⟨.npc, "zyx", "Hello."⟩] },
      { condition := some (.asked "ghost"), lines := [⟨.npc, "zyx", "You again."⟩] }]
    choices := [{ text := "Bye", exit := true }] }).insert "attic" {
      entryCondition := some (.all [.flag "night", .notAsked "attic"])
      choices := [{ text := "Leave", exit := true }] }

/-- The script is read without a remark, and a review of its dialogue finds nothing. -/
theorem greeting_unreviewed :
    Script.read "nate" greetingScript = pure (.ok greeting) ∧ greeting.review = [] ∧
      greeting.AsksBeside "ghost" ∧ ¬ greeting.Carries "ghost" ∧
      greeting.AsksBeside "attic" ∧ ¬ greeting.Carries "attic" := by
  have hghost : ¬ greeting.Carries "ghost" := by
    rw [← mem_labels]
    decide
  have hattic : ¬ greeting.Carries "attic" := by
    rw [← mem_labels]
    decide
  have hlines : Condition.AsksIfAny "ghost" (some (.asked "ghost")) := ⟨_, rfl, .asked⟩
  have hentry : Condition.AsksIfAny "attic" (some (.all [.flag "night", .notAsked "attic"])) :=
    ⟨_, rfl, .all (List.mem_cons_of_mem _ (List.mem_singleton_self _)) .notAsked⟩
  exact ⟨by decide +kernel, by decide,
    ⟨"start", _, rfl, .inl ⟨_, List.mem_cons_of_mem _ (List.mem_singleton_self _), hlines⟩⟩, hghost,
    ⟨"attic", _, rfl, .inr hentry⟩, hattic⟩

end Graph

end Colloquy
