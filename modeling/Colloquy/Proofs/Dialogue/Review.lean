import Colloquy.Dialogue.Review
import Colloquy.Proofs.Dialogue.Numbering

/-!
# What a review finds

A review lists its findings node by node and choice by choice. `Finds` says what there is to find,
one constructor for each kind of finding, and `mem_review_iff` that a review finds just this. So for
each kind there is one law that says, without the review, which nodes and choices of the dialogue it
is listed for.
-/

namespace Colloquy

namespace Graph

variable {g : Graph} {key : String}

/-- The findings about nodes are those about the nodes of the dialogue. -/
theorem mem_review {f : Finding} :
    f ∈ g.review ↔ (g.hasEntry = false ∧ f = .noEntry) ∨
      ∃ key n, g.get? key = some n ∧ f ∈ g.reviewNode key n := by
  have hreview : g.review = (if g.hasEntry then [] else [.noEntry]) ++
      g.entries.flatMap fun entry => g.reviewNode entry.1 entry.2 := rfl
  rw [hreview, List.mem_append]
  simp only [List.mem_flatMap, Prod.exists, TextMap.mem_entries]
  cases g.hasEntry <;> simp

theorem mem_reviewNode {n : Node} {f : Finding} :
    f ∈ g.reviewNode key n ↔ (n.choices = [] ∧ f = .deadEnd key) ∨
      ∃ index c, n.choices[index]? = some c ∧
        (f ∈ g.reviewRoute key index c ∨ f ∈ g.reviewLabels key index c) := by
  have hreview : g.reviewNode key n = (if n.choices.isEmpty then [.deadEnd key] else []) ++
      n.numbered.flatMap fun entry =>
        g.reviewRoute key entry.1 entry.2 ++ g.reviewLabels key entry.1 entry.2 := rfl
  rw [hreview, List.mem_append]
  simp only [List.mem_flatMap, Prod.exists, Node.mem_numbered, List.mem_append]
  cases n.choices <;> simp

theorem mem_reviewRoute {index : Nat} {c : Choice} {f : Finding} :
    f ∈ g.reviewRoute key index c ↔ ∃ target, c.exit = false ∧ c.nextNode = some target ∧
      g.get? target = none ∧ f = .unknownRoute key index c.text target := by
  unfold reviewRoute
  cases c.nextNode with
  | none => simp
  | some target =>
    cases c.exit <;> cases hget : g.get? target <;> simp [TextMap.contains, hget]

theorem mem_reviewLabels {index : Nat} {c : Choice} {f : Finding} :
    f ∈ g.reviewLabels key index c ↔ ∃ label, label ∈ (c.condition.map Condition.labels).getD [] ∧
      label ≠ "" ∧ label ∉ g.labels ∧ f = .unknownLabel key index label := by
  simp only [reviewLabels, List.mem_map, List.mem_filter, Bool.and_eq_true, decide_eq_true_eq,
    and_assoc]
  simp only [eq_comm]

/-- What there is to find in a dialogue. -/
inductive Finds (g : Graph) : Finding → Prop
  | noEntry (hentry : g.hasEntry = false) : Finds g .noEntry
  | deadEnd {key : String} {n : Node} (hn : g.get? key = some n) (hempty : n.choices = []) :
      Finds g (.deadEnd key)
  | unknownRoute {key : String} {n : Node} {index : Nat} {c : Choice} {target : String}
      (hn : g.get? key = some n) (hc : n.choices[index]? = some c) (hexit : c.exit = false)
      (hnext : c.nextNode = some target) (hmissing : g.get? target = none) :
      Finds g (.unknownRoute key index c.text target)
  | unknownLabel {key : String} {n : Node} {index : Nat} {c : Choice} {label : String}
      (hn : g.get? key = some n) (hc : n.choices[index]? = some c)
      (htested : label ∈ (c.condition.map Condition.labels).getD []) (hne : label ≠ "")
      (hlabel : label ∉ g.labels) : Finds g (.unknownLabel key index label)

/-- **A review finds what there is to find.** -/
theorem mem_review_iff {f : Finding} : f ∈ g.review ↔ g.Finds f := by
  constructor
  · intro h
    obtain ⟨hentry, rfl⟩ | ⟨key, n, hn, h⟩ := mem_review.1 h
    · exact .noEntry hentry
    obtain ⟨hempty, rfl⟩ | ⟨index, c, hc, h | h⟩ := mem_reviewNode.1 h
    · exact .deadEnd hn hempty
    · obtain ⟨target, hexit, hnext, hmissing, rfl⟩ := mem_reviewRoute.1 h
      exact .unknownRoute hn hc hexit hnext hmissing
    · obtain ⟨label, htested, hne, hlabel, rfl⟩ := mem_reviewLabels.1 h
      exact .unknownLabel hn hc htested hne hlabel
  · intro h
    cases h with
    | noEntry hentry => exact mem_review.2 (.inl ⟨hentry, rfl⟩)
    | deadEnd hn hempty =>
      exact mem_review.2 (.inr ⟨_, _, hn, mem_reviewNode.2 (.inl ⟨hempty, rfl⟩)⟩)
    | @unknownRoute key n index c target hn hc hexit hnext hmissing =>
      have hroute : .unknownRoute key index c.text target ∈ g.reviewRoute key index c :=
        mem_reviewRoute.2 ⟨target, hexit, hnext, hmissing, rfl⟩
      exact mem_review.2 (.inr ⟨key, n, hn, mem_reviewNode.2 (.inr ⟨index, c, hc, .inl hroute⟩)⟩)
    | @unknownLabel key n index c label hn hc htested hne hlabel =>
      have hlabels : .unknownLabel key index label ∈ g.reviewLabels key index c :=
        mem_reviewLabels.2 ⟨label, htested, hne, hlabel, rfl⟩
      exact mem_review.2 (.inr ⟨key, n, hn, mem_reviewNode.2 (.inr ⟨index, c, hc, .inr hlabels⟩)⟩)

/-- **A route is reported just if it would be followed and leads to no node.** -/
theorem unknownRoute_mem_review {index : Nat} {text target : String} :
    .unknownRoute key index text target ∈ g.review ↔
      ∃ n c, g.get? key = some n ∧ n.choices[index]? = some c ∧ c.text = text ∧
        c.exit = false ∧ c.nextNode = some target ∧ g.get? target = none := by
  rw [mem_review_iff]
  constructor
  · intro h
    cases h with
    | unknownRoute hn hc hexit hnext hmissing => exact ⟨_, _, hn, hc, rfl, hexit, hnext, hmissing⟩
  · rintro ⟨n, c, hn, hc, rfl, hexit, hnext, hmissing⟩
    exact .unknownRoute hn hc hexit hnext hmissing

/-- **A node is reported as a dead end just if it has no choices.** -/
theorem deadEnd_mem_review :
    .deadEnd key ∈ g.review ↔ ∃ n, g.get? key = some n ∧ n.choices = [] := by
  rw [mem_review_iff]
  constructor
  · intro h
    cases h with
    | deadEnd hn hempty => exact ⟨_, hn, hempty⟩
  · rintro ⟨n, hn, hempty⟩
    exact .deadEnd hn hempty

end Graph

end Colloquy
