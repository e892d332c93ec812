import Colloquy.Proofs.Conversation.Credit

/-!
# Refused requests — what does not apply changes nothing

A request that does not apply leaves a conversation exactly as it is, down to the events that were
not taken yet. `Inapplicable` lists these requests with their answers. It is complete where a
request can fail: a conversation begins unless one is running or its first node does not exist, and
a selection is accepted unless no menu is up or the menu is too short
(`inapplicable_changes_nothing`). So what `select` provides for beyond that — a menu without a
session, an item without a choice — never comes up, because the menu of a coherent conversation
lists choices of the current node.
-/

namespace Colloquy

namespace Conversation

variable {c : Conversation}

/-- A request that does not apply, and the answer to it. -/
inductive Inapplicable (c : Conversation) : Request → Answer → Prop where
  /-- Another conversation is running, whatever node is asked for. -/
  | alreadyActive {s : Session} (hs : c.session = some s) (npc : String) (graph : Graph)
      (node : String) : Inapplicable c (.enterAt npc graph node) (.refused (.alreadyActive s.npc))
  /-- There is no such node to begin on. -/
  | unknownEntry (hs : c.session = none) (npc : String) {graph : Graph} {node : String}
      (hnode : graph.contains node = false) :
      Inapplicable c (.enterAt npc graph node) (.refused (.unknownEntryNode node))
  /-- There is nothing to choose. -/
  | ignored (hphase : c.phase ≠ .awaitingChoice) (place : Nat) :
      Inapplicable c (.select place) (.selected .ignored)
  /-- There is no such item in the menu. -/
  | invalidChoice (hphase : c.phase = .awaitingChoice) {place : Nat}
      (hplace : c.menu.length ≤ place) :
      Inapplicable c (.select place) (.refused (.invalidChoice place))
  /-- The line may not be cut short. -/
  | kept (hskip : c.skip.value.1 = false) : Inapplicable c .skip (.skipped false)
  /-- There is no line for the time to pass on. -/
  | silent (hturn : c.turn = none) (dt : Duration) : Inapplicable c (.update dt) .done
  /-- There is nothing to end. -/
  | idle (hs : c.session = none) : Inapplicable c .exit .done

/-! ## Entering -/

theorem value_enterAt_of_active {s : Session} (hs : c.session = some s) (npc : String)
    (graph : Graph) (node : String) :
    (c.enterAt npc graph node).value = .error (.alreadyActive s.npc) := by
  simp [enterAt, hs]

theorem value_enterAt_of_unknown (hs : c.session = none) (npc : String) {graph : Graph}
    {node : String} (hnode : graph.contains node = false) :
    (c.enterAt npc graph node).value = .error (.unknownEntryNode node) := by
  simp [enterAt, hs, hnode]

/-- **A conversation begins if none is running and its first node exists.** -/
theorem enterAt_ok_iff (h : Coherent c) (npc : String) (graph : Graph) (node : String) :
    (∃ c', (c.enterAt npc graph node).value = .ok c') ↔
      c.session = none ∧ graph.contains node = true := by
  cases hs : c.session with
  | some s => simp [value_enterAt_of_active hs]
  | none =>
    cases hnode : graph.contains node with
    | false => simp [value_enterAt_of_unknown hs npc hnode]
    | true => simp [value_enterAt h hs hnode]

/-! ## Selecting -/

theorem value_select_of_not_awaiting (hphase : c.phase ≠ .awaitingChoice) (place : Nat) :
    (c.select place).value = .ok (.ignored, c) := by
  simp [select, hphase]

theorem value_select_of_length_le (hphase : c.phase = .awaitingChoice) {place : Nat}
    (hplace : c.menu.length ≤ place) : (c.select place).value = .error (.invalidChoice place) := by
  simp [select, hphase, List.getElem?_eq_none hplace]

/-- **Every item of a menu that is up stands for a choice of the current node.** -/
theorem Coherent.exists_choice (h : Coherent c) (hphase : c.phase = .awaitingChoice) {place : Nat}
    {item : MenuItem} (hitem : c.menu[place]? = some item) :
    ∃ s node choice, c.session = some s ∧ s.graph.get? s.node = some node ∧
      node.choices[item.index]? = some choice := by
  obtain ⟨s, hs⟩ := Option.isSome_iff_exists.1 (h.awaiting hphase).1
  obtain ⟨node, choice, hnode, hchoice, -⟩ :=
    (h.lists s hs).1.1 item (List.mem_of_getElem? hitem)
  exact ⟨s, node, choice, hs, hnode, hchoice⟩

/-- **A selection is accepted if the menu is up and long enough.** -/
theorem select_accepted_iff (h : Coherent c) (place : Nat) :
    (∃ c', (c.select place).value = .ok (.accepted, c')) ↔
      c.phase = .awaitingChoice ∧ place < c.menu.length := by
  by_cases hphase : c.phase = .awaitingChoice
  · by_cases hplace : place < c.menu.length
    · have hitem : c.menu[place]? = some c.menu[place] := List.getElem?_eq_getElem hplace
      obtain ⟨s, node, choice, hs, hnode, hchoice⟩ := h.exists_choice hphase hitem
      exact iff_of_true ⟨_, value_select hphase hitem hs hnode hchoice⟩ ⟨hphase, hplace⟩
    · rw [value_select_of_length_le hphase (Nat.not_lt.1 hplace)]
      simp [hplace]
  · rw [value_select_of_not_awaiting hphase]
    simp [hphase]

/-! ## What does not apply -/

theorem value_skip_of_kept (hskip : c.skip.value.1 = false) : c.skip.value = (false, c) := by
  unfold skip at hskip ⊢
  split at hskip
  · cases hskip
  · rename_i hcan
    simp [hcan]

/-- **A request that does not apply leaves a conversation as it is.** -/
theorem value_respond_of_inapplicable {request : Request} {answer : Answer}
    (h : Inapplicable c request answer) : (c.respond request).value = (answer, c) := by
  cases h with
  | alreadyActive hs npc graph node =>
    simp [respond, value_enterAt_of_active hs]
  | unknownEntry hs npc hnode =>
    simp [respond, value_enterAt_of_unknown hs npc hnode]
  | ignored hphase place => simp [respond, value_select_of_not_awaiting hphase]
  | invalidChoice hphase hplace => simp [respond, value_select_of_length_le hphase hplace]
  | kept hskip => simp [respond, value_skip_of_kept hskip]
  | silent hturn dt => simp [respond, value_update_of_silent hturn]
  | idle hs => simp [respond, exit, isActive, hs]

/-- **What does not apply changes nothing, and nothing else fails.** Whatever was asked of a fresh
conversation, over whatever dialogues and with whatever done to the world in between: a request that
does not apply is answered so and leaves all of the conversation as it is. Entering fails only
because another conversation is running or for want of the node, a selection only because no menu is
up or the menu is too short. While a menu is up there is always a session, and every item of the
menu stands for a choice of its node, so no selection fails for want of these. -/
theorem inapplicable_changes_nothing (world : World) (pacing : Pacing) (requests : List Request) :
    let c := (fresh world pacing).after requests
    (∀ request answer, Inapplicable c request answer →
      (c.respond request).value = (answer, c)) ∧
    (∀ npc graph node, (∃ c', (c.enterAt npc graph node).value = .ok c') ↔
      c.session = none ∧ graph.contains node = true) ∧
    (∀ npc graph, (∃ c', (c.enter npc graph).value = .ok c') ↔
      c.session = none ∧ graph.contains Graph.startNode = true) ∧
    (∀ place, (∃ c', (c.select place).value = .ok (.accepted, c')) ↔
      c.phase = .awaitingChoice ∧ place < c.menu.length) ∧
    ∀ (place : Nat) (item : MenuItem), c.phase = .awaitingChoice → c.menu[place]? = some item →
      ∃ s node choice, c.session = some s ∧ s.graph.get? s.node = some node ∧
        node.choices[item.index]? = some choice := by
  intro c
  have h : Coherent c := (coherent_fresh world pacing).after requests
  exact ⟨fun _ _ => value_respond_of_inapplicable, enterAt_ok_iff h,
    fun npc graph => enterAt_ok_iff h npc graph Graph.startNode, select_accepted_iff h,
    fun _ _ hphase => h.exists_choice hphase⟩

/-- A dialogue with a line to be heard before anything can be chosen. -/
def porch : Graph :=
  TextMap.empty.insert "start" {
    intros := [{ lines := [⟨.npc, "zyx", "Halt."⟩] }]
    choices := [{ text := "Leave", exit := true }] }

theorem inapplicable_changes_nothing_porch :
    let c := (fresh .empty {}).after [.enterAt "zyx" porch "start"]
    let d := (fresh .empty { skipGuard := .zero }).after [.enterAt "zyx" porch "start", .skip]
    (c.respond (.enterAt "abc" porch "attic")).value = (.refused (.alreadyActive "zyx"), c) ∧
      (c.respond (.select 0)).value = (.selected .ignored, c) ∧
      (c.respond .skip).value = (.skipped false, c) ∧
      (d.respond (.select 1)).value = (.refused (.invalidChoice 1), d) ∧
      ∃ d', (d.select 0).value = .ok (.accepted, d') := by
  intro c d
  obtain ⟨hc, -⟩ := inapplicable_changes_nothing .empty {} [.enterAt "zyx" porch "start"]
  obtain ⟨hd, -, -, haccepted, -⟩ :=
    inapplicable_changes_nothing .empty { skipGuard := .zero } [.enterAt "zyx" porch "start", .skip]
  have hsession : c.session = some { npc := "zyx", graph := porch, node := "start" } := by decide
  have hplaying : c.phase ≠ .awaitingChoice := by decide
  have hawaiting : d.phase = .awaitingChoice := by decide
  have hlength : d.menu.length = 1 := by decide
  exact ⟨hc _ _ (.alreadyActive hsession "abc" porch "attic"), hc _ _ (.ignored hplaying 0),
    hc _ _ (.kept (by decide)), hd _ _ (.invalidChoice hawaiting (Nat.le_of_eq hlength)),
    (haccepted 0).2 ⟨hawaiting, by rw [hlength]; decide⟩⟩

end Conversation

end Colloquy
