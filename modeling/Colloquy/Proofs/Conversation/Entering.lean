import Colloquy.Proofs.Conversation.Showing
import Colloquy.Proofs.Dialogue.Entry
import Colloquy.Proofs.Text.ByteOrder

/-!
# Entering — which node a conversation opens on

The node to open on is searched for in three ways, each of which is tried only if the one before it
finds nothing: among the nodes for the state of the character, among the default nodes, and the
start node. The first two pass over closed nodes and take the first one in the order of the bytes;
the third one does not ask whether the start node is closed. `OpensOn` lists these ways, and the
search comes to nothing else (`opensOn_iff`). A conversation that is begun on the node found begins
(`entry_follows_priorities`).
-/

namespace Colloquy

/-- A node on which conversations may open: it has no entry condition, or one that holds. -/
def Node.Open (n : Node) (w : World) : Prop :=
  ∀ condition, n.entryCondition = some condition → condition.holds w = true

/-- A node for the state in which the character is. -/
def Node.ForState (n : Node) (w : World) (npc : String) : Prop :=
  ∃ state, w.npcState npc = some state ∧ n.npcState = some state

theorem Node.mayOpenOn_iff {n : Node} {w : World} : Graph.mayOpenOn w n = true ↔ n.Open w := by
  unfold Graph.mayOpenOn Condition.holdsIfAny Node.Open
  cases n.entryCondition <;> simp

namespace Graph

variable {g : Graph} {kind : Node → Prop} {key other npc : String} {w : World}

/-! ## The first node of a kind -/

/-- The node of a kind that has the least key in the order of the bytes. -/
structure FirstOf (g : Graph) (kind : Node → Prop) (key : String) : Prop where
  found : ∃ n, g.get? key = some n ∧ kind n
  least : ∀ other n, g.get? other = some n → kind n → other ≠ key →
    Text.bytes key < Text.bytes other

/-- No node is of a kind. -/
def NoneOf (g : Graph) (kind : Node → Prop) : Prop := ∀ key n, g.get? key = some n → ¬ kind n

theorem FirstOf.not_noneOf (h : g.FirstOf kind key) : ¬ g.NoneOf kind := by
  obtain ⟨n, hn, hkind⟩ := h.found
  exact fun hnone => hnone key n hn hkind

theorem FirstOf.unique (h : g.FirstOf kind key) (h' : g.FirstOf kind other) : key = other := by
  obtain ⟨n, hn, hkind⟩ := h.found
  obtain ⟨n', hn', hkind'⟩ := h'.found
  refine Decidable.byContradiction fun hne => ?_
  exact List.lt_asymm (h.least other n' hn' hkind' (Ne.symm hne)) (h'.least key n hn hkind hne)

section

variable {test : Node → Bool} (htest : ∀ n, test n = true ↔ kind n)
include htest

theorem firstKey?_eq_none_iff_noneOf : g.firstKey? test = none ↔ g.NoneOf kind := by
  simp only [firstKey?_eq_none_iff, NoneOf, ← htest, Bool.not_eq_true]

/-- **The search finds the first node of the kind that is tested for.** -/
theorem firstOf_of_firstKey? (h : g.firstKey? test = some key) : g.FirstOf kind key := by
  obtain ⟨⟨k, n⟩, hfind, rfl⟩ := Option.map_eq_some_iff.1 h
  obtain ⟨hn, before, behind, hsplit, hbefore⟩ := List.find?_eq_some_iff_append.1 hfind
  have hmem : (k, n) ∈ g.entries := hsplit ▸ List.mem_append_right _ List.mem_cons_self
  refine ⟨⟨n, TextMap.mem_entries.1 hmem, (htest n).1 hn⟩, fun other n' hother hkind hne => ?_⟩
  have hmem' : (other, n') ∈ g.entries := TextMap.mem_entries.2 hother
  rw [hsplit] at hmem'
  rcases List.mem_append.1 hmem' with hfront | hrest
  · -- in front of it nothing passes the test
    have hfails := hbefore _ hfront
    rw [(htest n').2 hkind] at hfails
    cases hfails
  · rcases List.mem_cons.1 hrest with heq | hbehind
    · exact absurd (congrArg Prod.fst heq) hne
    · have hordered := hsplit ▸ g.increasing
      have hafter := (List.pairwise_append.1 hordered).2.1
      exact Text.bytes_lt_bytes_of_lt (List.rel_of_pairwise_cons hafter hbehind)

theorem firstKey?_eq_some_iff_firstOf : g.firstKey? test = some key ↔ g.FirstOf kind key := by
  refine ⟨firstOf_of_firstKey? htest, fun h => ?_⟩
  cases hfirst : g.firstKey? test with
  | none => exact absurd ((firstKey?_eq_none_iff_noneOf htest).1 hfirst) h.not_noneOf
  | some found => rw [(firstOf_of_firstKey? htest hfirst).unique h]

end

/-! ## The node to open on -/

/-- An open node for the state of the character. -/
def OpenForState (w : World) (npc : String) (n : Node) : Prop := n.ForState w npc ∧ n.Open w

/-- An open default node. -/
def OpenByDefault (w : World) (n : Node) : Prop := n.isDefault = true ∧ n.Open w

/-- Where a conversation opens, if anywhere. -/
inductive OpensOn (g : Graph) (w : World) (npc : String) : Option String → Prop where
  /-- On the first open node for the state of the character. -/
  | forState {key : String} (hfirst : g.FirstOf (OpenForState w npc) key) :
      OpensOn g w npc (some key)
  /-- Without one, on the first open default node. -/
  | byDefault {key : String} (hstate : g.NoneOf (OpenForState w npc))
      (hfirst : g.FirstOf (OpenByDefault w) key) : OpensOn g w npc (some key)
  /-- Without either, on the start node, open or closed. -/
  | start (hstate : g.NoneOf (OpenForState w npc)) (hdefault : g.NoneOf (OpenByDefault w))
      (hstart : g.contains startNode = true) : OpensOn g w npc (some startNode)
  /-- Without any of them, nowhere. -/
  | nowhere (hstate : g.NoneOf (OpenForState w npc)) (hdefault : g.NoneOf (OpenByDefault w))
      (hstart : g.contains startNode = false) : OpensOn g w npc none

/-- The search among the nodes for the state of the character. -/
def firstForState? (g : Graph) (w : World) (npc : String) : Option String :=
  (w.npcState npc).bind fun state =>
    g.firstKey? fun n => n.npcState = some state && mayOpenOn w n

/-- The search among the default nodes. -/
def firstByDefault? (g : Graph) (w : World) : Option String :=
  g.firstKey? fun n => n.isDefault && mayOpenOn w n

theorem entryNode_eq (g : Graph) (w : World) (npc : String) :
    g.entryNode w npc = (g.firstForState? w npc).or ((g.firstByDefault? w).or
      (if g.contains startNode then some startNode else none)) := rfl

theorem forState_iff {state : String} (hstate : w.npcState npc = some state) (n : Node) :
    (n.npcState = some state && mayOpenOn w n) = true ↔ OpenForState w npc n := by
  simp [OpenForState, Node.ForState, hstate, Node.mayOpenOn_iff]

theorem byDefault_iff (n : Node) :
    (n.isDefault && mayOpenOn w n) = true ↔ OpenByDefault w n := by
  simp [OpenByDefault, Node.mayOpenOn_iff]

/-- Without a state there is no node for it. -/
theorem noneOf_openForState (hstate : w.npcState npc = none) : g.NoneOf (OpenForState w npc) := by
  rintro key n - ⟨⟨state, hsome, -⟩, -⟩
  cases hstate.symm.trans hsome

theorem firstForState?_eq_none_iff :
    g.firstForState? w npc = none ↔ g.NoneOf (OpenForState w npc) := by
  unfold firstForState?
  cases hstate : w.npcState npc with
  | none => exact iff_of_true rfl (noneOf_openForState hstate)
  | some state => exact firstKey?_eq_none_iff_noneOf (forState_iff hstate)

theorem firstForState?_eq_some_iff :
    g.firstForState? w npc = some key ↔ g.FirstOf (OpenForState w npc) key := by
  unfold firstForState?
  cases hstate : w.npcState npc with
  | none => exact iff_of_false nofun fun h => h.not_noneOf (noneOf_openForState hstate)
  | some state => exact firstKey?_eq_some_iff_firstOf (forState_iff hstate)

/-- **The search for the node to open on comes to what the three ways come to.** -/
theorem opensOn_iff {found : Option String} :
    g.OpensOn w npc found ↔ g.entryNode w npc = found := by
  rw [entryNode_eq]
  constructor
  · intro h
    cases h with
    | forState hfirst => rw [firstForState?_eq_some_iff.2 hfirst, Option.some_or]
    | byDefault hstate hfirst =>
      rw [firstForState?_eq_none_iff.2 hstate, Option.none_or, firstByDefault?,
        (firstKey?_eq_some_iff_firstOf byDefault_iff).2 hfirst, Option.some_or]
    | start hstate hdefault hstart =>
      rw [firstForState?_eq_none_iff.2 hstate, Option.none_or, firstByDefault?,
        (firstKey?_eq_none_iff_noneOf byDefault_iff).2 hdefault, Option.none_or, if_pos hstart]
    | nowhere hstate hdefault hstart =>
      rw [firstForState?_eq_none_iff.2 hstate, Option.none_or, firstByDefault?,
        (firstKey?_eq_none_iff_noneOf byDefault_iff).2 hdefault, Option.none_or, hstart]
      rfl
  · rintro rfl
    cases hstate : g.firstForState? w npc with
    | some key => exact .forState (firstForState?_eq_some_iff.1 hstate)
    | none =>
      have hnone := firstForState?_eq_none_iff.1 hstate
      cases hdefault : g.firstByDefault? w with
      | some key =>
        exact .byDefault hnone ((firstKey?_eq_some_iff_firstOf byDefault_iff).1 hdefault)
      | none =>
        have hnone' := (firstKey?_eq_none_iff_noneOf byDefault_iff).1 hdefault
        cases hstart : g.contains startNode with
        | true => exact .start hnone hnone' hstart
        | false => exact .nowhere hnone hnone' hstart

end Graph

namespace Conversation

variable {c : Conversation} {g : Graph} {key : String}

/-- **A conversation begins on any node of the dialogue**, and tells so before anything else. -/
theorem enterAt_begins (h : Coherent c) (hidle : c.phase = .idle) (npc : String)
    (hnode : g.contains key = true) :
    ∃ c' rest, (c.enterAt npc g key).value = .ok c' ∧
      c'.events = c.events ++ .started npc :: .nodeEntered key :: rest := by
  have hs := h.idle_iff.1 hidle
  obtain ⟨n, -, hready, hm⟩ :=
    h.arrives_of_begun hs hnode (moved_playNext (h.ready_begun hs npc hnode))
  obtain ⟨rest, hrest, -⟩ := shows_of_moved hm hready
  refine ⟨_, rest, value_enterAt h hs hnode, ?_⟩
  rw [hrest]
  simp [arrive, begun]

/-- **Where a conversation opens follows its priorities**, for every dialogue, world and character.
The node to open on is the first open node for the state of the character; without one, the first
open default node; without either, the start node, if there is one, open or closed; and otherwise
there is none. If there is one, an idle conversation begins on it, with whomever it is begun: that
it began and on which node are the first two events that it tells. -/
theorem entry_follows_priorities (g : Graph) (w : World) (npc : String) :
    (∀ found, g.OpensOn w npc found ↔ g.entryNode w npc = found) ∧
    ∀ key, g.entryNode w npc = some key → ∀ c, Reached c → c.phase = .idle → ∀ who,
      ∃ c' rest, (c.enterAt who g key).value = .ok c' ∧
        c'.events = c.events ++ .started who :: .nodeEntered key :: rest :=
  ⟨fun _ => Graph.opensOn_iff, fun _ hkey _ hreached hidle who =>
    enterAt_begins hreached.coherent hidle who (Graph.contains_of_entryNode hkey)⟩

/-- A dialogue with a node for an angry character who was asked to stay, and a default node. -/
def parlour : Graph :=
  let start : Graph := TextMap.empty.insert Graph.startNode { choices := [{ text := "Go" }] }
  let quarrel : Node :=
    { choices := [{ text := "Yield" }], npcState := some "angry",
      entryCondition := some (.asked "stay") }
  let hearth : Node := { choices := [{ text := "Sit" }], isDefault := true }
  (start.insert "quarrel" quarrel).insert "hearth" hearth

/-- The character is angry and was not asked to stay. -/
theorem entry_follows_priorities_parlour :
    let w := World.empty.apply (.setNpcState "zyx" "angry")
    parlour.entryNode w "zyx" = some "hearth" ∧ parlour.OpensOn w "zyx" (some "hearth") ∧
      ∃ c' rest, ((fresh w {}).enterAt "zyx" parlour "hearth").value = .ok c' ∧
        c'.events = .started "zyx" :: .nodeEntered "hearth" :: rest := by
  intro w
  have hentry : parlour.entryNode w "zyx" = some "hearth" := by decide
  obtain ⟨hopens, hbegins⟩ := entry_follows_priorities parlour w "zyx"
  exact ⟨hentry, (hopens _).2 hentry,
    hbegins "hearth" hentry (fresh w {}) ⟨w, {}, [], rfl⟩ rfl "zyx"⟩

end Conversation

end Colloquy
