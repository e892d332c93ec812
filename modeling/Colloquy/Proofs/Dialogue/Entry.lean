import Colloquy.Proofs.Dialogue.Review

/-!
# Where a conversation opens

A node is meant for opening on if it is a default node or one for the character's state, and its
entry condition has a say in it; the start node is what is left, and its entry condition has none.
So there is no node to open on just if there is no start node and every node that is meant is closed
(`entryNode_eq_none_iff`). A review knows nothing of worlds: it reports that there is no entry just
if there is neither a start node nor a default node, open or closed (`noEntry_mem_review`).
-/

namespace Colloquy

/-- A node on which conversations with a character are meant to open. -/
def Node.MeantFor (n : Node) (w : World) (npc : String) : Prop :=
  n.isDefault = true ∨ ∃ state, w.npcState npc = some state ∧ n.npcState = some state

/-- A node whose entry condition does not hold. -/
def Node.Closed (n : Node) (w : World) : Prop :=
  ∃ condition, n.entryCondition = some condition ∧ condition.holds w = false

theorem Node.mayOpenOn_eq_false_iff {n : Node} {w : World} :
    Graph.mayOpenOn w n = false ↔ n.Closed w := by
  unfold Graph.mayOpenOn Condition.holdsIfAny Node.Closed
  cases n.entryCondition <;> simp

namespace Graph

variable {g : Graph} {key npc : String} {w : World}

/-! ## The first node that satisfies a test -/

theorem firstKey?_eq_none_iff {test : Node → Bool} :
    g.firstKey? test = none ↔ ∀ key n, g.get? key = some n → test n = false := by
  simp only [firstKey?, Option.map_eq_none_iff, List.find?_eq_none, Prod.forall,
    TextMap.mem_entries, Bool.not_eq_true]

theorem exists_of_firstKey? {test : Node → Bool} (h : g.firstKey? test = some key) :
    ∃ n, g.get? key = some n ∧ test n = true := by
  obtain ⟨⟨key, n⟩, hfind, rfl⟩ := Option.map_eq_some_iff.1 h
  have htest : test n = true := by simpa using List.find?_some hfind
  exact ⟨n, TextMap.mem_entries.1 (List.mem_of_find?_eq_some hfind), htest⟩

theorem contains_of_firstKey? {test : Node → Bool} (h : g.firstKey? test = some key) :
    g.contains key = true := by
  obtain ⟨n, hn, -⟩ := exists_of_firstKey? h
  rw [TextMap.contains, hn]
  rfl

/-- No node that satisfies a test may be opened on just if all that do are closed. -/
theorem firstKey?_mayOpenOn_eq_none_iff {test : Node → Bool} :
    (g.firstKey? fun n => test n && mayOpenOn w n) = none ↔
      ∀ key n, g.get? key = some n → test n = true → n.Closed w := by
  rw [firstKey?_eq_none_iff]
  refine forall_congr' fun key => forall_congr' fun n => forall_congr' fun _ => ?_
  rw [← Node.mayOpenOn_eq_false_iff]
  cases test n <;> simp

/-! ## The node to open on -/

/-- There is no start node, and every node that is meant for opening on is closed. -/
structure Shut (g : Graph) (w : World) (npc : String) : Prop where
  noStart : g.contains startNode = false
  closed : ∀ key n, g.get? key = some n → n.MeantFor w npc → n.Closed w

/-- **The node to open on is a node of the dialogue.** -/
theorem contains_of_entryNode (h : g.entryNode w npc = some key) : g.contains key = true := by
  unfold entryNode at h
  rcases Option.or_eq_some_iff.1 h with hstate | ⟨-, h⟩
  · obtain ⟨state, -, hfirst⟩ := Option.bind_eq_some_iff.1 hstate
    exact contains_of_firstKey? hfirst
  rcases Option.or_eq_some_iff.1 h with hdefault | ⟨-, hstart⟩
  · exact contains_of_firstKey? hdefault
  · obtain ⟨hcontains, hkey⟩ := Option.ite_none_right_eq_some.1 hstart
    rwa [← Option.some.inj hkey]

/-- **There is no node to open on just if the dialogue is shut.** -/
theorem entryNode_eq_none_iff : g.entryNode w npc = none ↔ g.Shut w npc := by
  have hstart : (if g.contains startNode then some startNode else none) = none ↔
      g.contains startNode = false := by simp
  have hstate : ((w.npcState npc).bind fun state =>
      g.firstKey? fun n => n.npcState = some state && mayOpenOn w n) = none ↔
      ∀ state, w.npcState npc = some state →
        ∀ key n, g.get? key = some n → n.npcState = some state → n.Closed w := by
    cases w.npcState npc with
    | none => simp
    | some state => simp [firstKey?_mayOpenOn_eq_none_iff]
  unfold entryNode
  rw [Option.or_eq_none_iff, Option.or_eq_none_iff, hstart, firstKey?_mayOpenOn_eq_none_iff,
    hstate]
  constructor
  · rintro ⟨hstate, hdefault, hstart⟩
    refine ⟨hstart, fun key n hn hmeant => ?_⟩
    rcases hmeant with hmeant | ⟨state, hnpc, hmeant⟩
    · exact hdefault key n hn hmeant
    · exact hstate state hnpc key n hn hmeant
  · rintro ⟨hstart, hclosed⟩
    exact ⟨fun state hnpc key n hn hmeant => hclosed key n hn (.inr ⟨state, hnpc, hmeant⟩),
      fun key n hn hmeant => hclosed key n hn (.inl hmeant), hstart⟩

/-! ## What a review says about it -/

theorem hasEntry_eq_false_iff : g.hasEntry = false ↔
    g.contains startNode = false ∧ ∀ key n, g.get? key = some n → n.isDefault = false := by
  simp only [hasEntry, Bool.or_eq_false_iff, List.any_eq_false, Prod.forall, TextMap.mem_entries,
    Bool.not_eq_true]

/-- **A missing entry is reported just if there is neither a start node nor a default node.** -/
theorem noEntry_mem_review : .noEntry ∈ g.review ↔
    g.contains startNode = false ∧ ∀ key n, g.get? key = some n → n.isDefault = false := by
  rw [← hasEntry_eq_false_iff, mem_review_iff]
  constructor
  · intro h
    cases h with
    | noEntry hentry => exact hentry
  · exact .noEntry

/-- A dialogue that is shut and for which no missing entry is reported has a closed default node. -/
theorem Shut.exists_closed (h : g.Shut w npc) (hreview : .noEntry ∉ g.review) :
    ∃ key n, g.get? key = some n ∧ n.isDefault = true ∧ n.Closed w := by
  rw [noEntry_mem_review] at hreview
  obtain ⟨key, n, hn, hdefault⟩ :
      ∃ key n, g.get? key = some n ∧ n.isDefault = true := by
    simpa [h.noStart] using hreview
  exact ⟨key, n, hn, hdefault, h.closed key n hn (.inl hdefault)⟩

end Graph

end Colloquy
