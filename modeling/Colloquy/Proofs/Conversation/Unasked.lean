import Colloquy.Proofs.Conversation.Course
import Colloquy.Proofs.Conversation.Credit
import Colloquy.Proofs.Conversation.Spent
import Colloquy.Proofs.Dialogue.Without

/-!
# Unasked labels — tests that come to nothing

A label that no choice of a dialogue carries is never marked as asked in conversations about that
dialogue. So in a run from a world in which it was not asked about, every test of it comes to the
same wherever it is made, and the dialogue may as well be without these tests: the run goes the same
way, step by step (`respond_without`), with the same answers and the same events.
-/

namespace Colloquy

/-- The request with a dialogue to begin on that is without the tests of a label. -/
def Request.without (label : String) : Request → Request
  | .enterAt npc graph node => .enterAt npc (graph.without label) node
  | .select place => .select place
  | .update dt => .update dt
  | .skip => .skip
  | .exit => .exit
  | .drain => .drain
  | .write change => .write change
  | .replace world => .replace world

namespace Session

variable {label : String} {s : Session}

theorem get?_without (s : Session) (label key : String) :
    (s.without label).graph.get? key = (s.graph.get? key).map (Node.without label) :=
  TextMap.get?_map _ s.graph key

theorem Sound.without (h : s.Sound) (label : String) : (s.without label).Sound where
  known := (TextMap.contains_map _ s.graph s.node).trans h.known
  picked := by
    intro key index hused
    obtain ⟨n, hn, hindex⟩ := h.picked key index hused
    refine ⟨n.without label, by rw [get?_without, hn]; rfl, ?_⟩
    simpa [Node.without] using hindex

theorem Lists.without {menu : List MenuItem} (h : s.Lists menu) (label : String) :
    (s.without label).Lists menu := by
  refine ⟨fun item hitem => ?_, h.2⟩
  obtain ⟨n, choice, hn, hchoice, heq⟩ := h.1 item hitem
  refine ⟨n.without label, choice.without label, ?_, by simp [Node.without, hchoice], heq⟩
  rw [get?_without]
  exact congrArg (Option.map (Node.without label)) hn

end Session

namespace Conversation

variable {label : String} {c c' : Conversation} {s : Session} {g : Graph}

/-- The conversation about the dialogue without the tests of a label. -/
def without (label : String) (c : Conversation) : Conversation :=
  { c with session := c.session.map (Session.without label) }

/-! ## Moving on -/

theorem session_without (hs : c.session = some s) (label : String) :
    (c.without label).session = some (s.without label) := by
  rw [without, hs, Option.map_some]

theorem Ready.without (h : Ready c s) (label : String) :
    Ready (c.without label) (s.without label) where
  session := session_without h.session label
  sound := h.sound.without label
  turn := h.turn
  menu := h.menu
  linedUp := h.linedUp
  lists := fun menu hmenu => (h.lists menu hmenu).without label

theorem menuAhead_without (h : c.world.hasAsked label = false) :
    (c.without label).menuAhead = c.menuAhead := by
  have hmenu : ((c.without label).session.bind fun s => s.menu? c.world) =
      c.session.bind fun s => s.menu? c.world := by
    cases hs : c.session with
    | none => simp [without, hs]
    | some s => simp [session_without hs, Session.menu?_without h]
  have hnext : (c.without label).next = c.next := rfl
  unfold menuAhead
  rw [hnext]
  cases c.next with
  | showOptions => exact hmenu
  | offer | enter | exit => rfl

theorem arrive_without (h : c.world.hasAsked label = false) (s : Session) (key : String)
    (n : Node) : (c.without label).arrive (s.without label) key (n.without label) =
      (c.arrive s key n).without label := by
  have hworld : (c.without label).world = c.world := rfl
  have hmenu : ({ s.without label with node := key } : Session).menu? c.world =
      ({ s with node := key } : Session).menu? c.world :=
    Session.menu?_without h { s with node := key }
  simp only [arrive, hworld, introLines_without h, hmenu]
  rfl

/-- **Where a label was not asked about, a move is one without its tests.** -/
theorem Moved.without (hm : Moved c c') (h : c.world.hasAsked label = false) :
    Moved (c.without label) (c'.without label) := by
  induction hm with
  | line hqueue => exact .line hqueue
  | menu hqueue hmenu hne => exact .menu hqueue ((menuAhead_without h).trans hmenu) hne
  | deadEnd hqueue hmenu => exact .deadEnd hqueue ((menuAhead_without h).trans hmenu)
  | arrival hqueue hsession hnext hnode _ ih =>
    have harrival := ih h
    rw [← arrive_without h] at harrival
    exact .arrival hqueue (session_without hsession label) hnext
      (by rw [Session.get?_without, hnode, Option.map_some]) harrival
  | missing hqueue hsession hnext hnode =>
    exact .missing hqueue (session_without hsession label) hnext
      (by rw [Session.get?_without, hnode, Option.map_none])
  | exited hqueue hnext => exact .exited hqueue hnext

/-- So moving on comes to the same. -/
theorem playNext_without (hready : Ready c s) (h : c.world.hasAsked label = false) :
    (c.without label).playNext.value = c.playNext.value.without label :=
  value_of_moved ((moved_playNext hready).without h) (hready.without label)

/-- And so does time that passes. -/
theorem update_without (hc : Coherent c) (h : c.world.hasAsked label = false) (dt : Duration) :
    ((c.without label).update dt).value = (c.update dt).value.without label := by
  induction hpending : c.pending using Nat.strongRecOn generalizing c dt with
  | ind n ih =>
    cases hturn : c.turn with
    | none =>
      rw [value_update_of_silent hturn, value_update_of_silent (c := c.without label) hturn]
    | some turn =>
      by_cases hlasting : turn.timer.elapsed.add dt < turn.timer.duration
      · rw [value_update_of_lasting hturn hlasting,
          value_update_of_lasting (c := c.without label) hturn hlasting]
        rfl
      · have hdone : turn.timer.duration ≤ turn.timer.elapsed.add dt := Nat.not_lt.1 hlasting
        obtain ⟨s, hready⟩ := hc.ready_silenced hturn
        have hm : Moved c.silenced c.silenced.playNext.value := moved_playNext hready
        have hplay : (c.without label).silenced.playNext.value =
            c.silenced.playNext.value.without label := playNext_without hready h
        have hworld : c.silenced.playNext.value.world = c.silenced.world := world_of_moved hm
        rw [value_update_of_done hturn hdone,
          value_update_of_done (c := c.without label) hturn hdone, hplay]
        exact ih _ (hpending ▸ pending_playNext_lt hturn) (coherent_of_moved hm hready)
          (by rw [hworld]; exact h) _ rfl

/-! ## Requests -/

theorem enterAt_without (hc : Coherent c) (h : c.world.hasAsked label = false) (npc : String)
    (graph : Graph) (node : String) :
    ((c.without label).respond (.enterAt npc (graph.without label) node)).value =
      ((c.respond (.enterAt npc graph node)).value.1,
        (c.respond (.enterAt npc graph node)).value.2.without label) := by
  cases hs : c.session with
  | some s => simp [respond, enterAt, hs, session_without hs label, Session.without]
  | none =>
    -- an idle conversation has no dialogue, so there is nothing to replace in it yet
    have hsame : c.without label = c := by
      rw [without, hs, Option.map_none, ← hs]
    have hcontains : (graph.without label).contains node = graph.contains node :=
      TextMap.contains_map _ graph node
    rw [hsame]
    cases hnode : graph.contains node with
    | false => simp [respond, enterAt, hs, hcontains, hnode, hsame]
    | true =>
      have hbegun : c.begun npc (graph.without label) node =
          (c.begun npc graph node).without label := rfl
      simp only [respond, Noted.value_bind, value_enterAt hc hs hnode,
        value_enterAt hc hs (hcontains.trans hnode), hbegun,
        playNext_without (hc.ready_begun hs npc hnode) h]
      rfl

theorem select_without (hc : Coherent c) {place : Nat}
    (h : ∀ p, c.pick? (.select place) = some p → (p.enact c.world).hasAsked label = false) :
    ((c.without label).respond (.select place)).value =
      ((c.respond (.select place)).value.1, (c.respond (.select place)).value.2.without label) := by
  by_cases hphase : c.phase = .awaitingChoice
  · obtain ⟨s, hs⟩ := Option.isSome_iff_exists.1 (hc.awaiting hphase).1
    cases hitem : c.menu[place]? with
    | none => simp [respond, select, without, hphase, hitem]
    | some item =>
      obtain ⟨node, choice, hnode, hchoice, -⟩ :=
        (hc.lists s hs).1.1 item (List.mem_of_getElem? hitem)
      have hnode' : (s.without label).graph.get? (s.without label).node =
          some (node.without label) := by
        rw [Session.get?_without]
        exact congrArg (Option.map (Node.without label)) hnode
      have hchoice' : (node.without label).choices[item.index]? = some (choice.without label) := by
        simp [Node.without, hchoice]
      have hpicked : (c.without label).picked (s.without label) item.index (choice.without label) =
          (c.picked s item.index choice).without label := rfl
      have hunasked : (c.picked s item.index choice).world.hasAsked label = false := by
        have hworld := h ⟨s.npc, s.node, item.index, choice⟩
          (by simp [pick?, hphase, hitem, hs, hnode, hchoice])
        rwa [Pick.enact_eq] at hworld
      have hvalue := value_select (c := c.without label) hphase hitem (session_without hs label)
        hnode' hchoice'
      simp only [respond, Noted.value_bind, hvalue, value_select hphase hitem hs hnode hchoice,
        hpicked, playNext_without (hc.ready_picked hphase hs hnode hchoice) hunasked]
      rfl
  · simp [respond, select, without, hphase]

/-- **A request comes to the same without the tests of a label** that is not asked about, neither
before nor by the request. -/
theorem respond_without (hc : Coherent c) (h : c.world.hasAsked label = false) {request : Request}
    (hpick : ∀ p, c.pick? request = some p → (p.enact c.world).hasAsked label = false)
    (hinside : request.changesWorld = false) :
    ((c.without label).respond (request.without label)).value =
      ((c.respond request).value.1, (c.respond request).value.2.without label) := by
  cases request with
  | enterAt npc graph node => exact enterAt_without hc h npc graph node
  | select place => exact select_without hc hpick
  | update dt =>
    simp only [Request.without, respond, Noted.value_bind, Noted.value_pure, update_without hc h]
  | skip =>
    have hskip : (c.without label).canSkip = c.canSkip := rfl
    cases hturn : c.turn with
    | none =>
      have hcan : c.canSkip = false := by simp [canSkip, hturn]
      simp [Request.without, respond, skip, hskip, hcan]
    | some turn =>
      obtain ⟨s, hready⟩ := hc.ready_silenced hturn
      have hplay : (c.without label).silenced.playNext.value =
          c.silenced.playNext.value.without label := playNext_without hready h
      cases hcan : c.canSkip <;> simp [Request.without, respond, skip, hskip, hcan, hplay]
  | exit =>
    cases hs : c.session <;>
      simp [Request.without, respond, exit, isActive, without, hs, finish, ended]
  | drain => rfl
  | write | replace => cases hinside

/-! ## Runs -/

/-- A label that no choice of the dialogue carries is not asked about by a pick. -/
theorem hasAsked_enact_of_not_carried (habout : About g c) (hcarried : ¬ g.Carries label)
    (h : c.world.hasAsked label = false) {request : Request} {p : Pick}
    (hpick : c.pick? request = some p) : (p.enact c.world).hasAsked label = false := by
  have hactive : c.session.isSome := by
    cases request with
    | select place =>
      cases hs : c.session with
      | some s => rfl
      | none => simp [pick?, hs] at hpick
    | enterAt | update | skip | exit | drain | write | replace => cases hpick
  obtain ⟨s, hs⟩ := Option.isSome_iff_exists.1 hactive
  obtain ⟨-, -, node, hnode, hchoice⟩ := choice_of_pick hpick hs
  have hid : p.choice.id ≠ some label := by
    intro hid
    rw [habout s hs] at hnode
    exact hcarried ⟨p.node, node, hnode, p.choice, List.mem_of_getElem? hchoice, hid⟩
  rw [Pick.hasAsked_enact, h]
  simpa using hid

/-- **A label that nobody carries is not asked about in any run, and its tests do not matter.** -/
theorem run_without (hc : Coherent c) (habout : About g c) (hcarried : ¬ g.Carries label)
    (h : c.world.hasAsked label = false) {requests : List Request} (hkeeps : KeepsTo g c requests)
    (hinside : ∀ request ∈ requests, request.changesWorld = false) :
    (c.after requests).world.hasAsked label = false ∧
      ((c.without label).respondAll (requests.map (Request.without label))).value =
        ((c.respondAll requests).value.1, (c.after requests).without label) := by
  induction requests generalizing c with
  | nil => exact ⟨h, rfl⟩
  | cons request rest ih =>
    have hpick : ∀ p, c.pick? request = some p → (p.enact c.world).hasAsked label = false :=
      fun p => hasAsked_enact_of_not_carried habout hcarried h
    have hfirst := hinside request List.mem_cons_self
    have hworld : (c.respond request).value.2.world.hasAsked label = false := by
      rw [world_of_response (response hc request) hfirst]
      cases hp : c.pick? request with
      | none => exact h
      | some p => exact hpick p hp
    have hstill : About g (c.respond request).value.2 := by
      have hone : KeepsTo g c [request] := KeepsTo.earlier hkeeps
      obtain ⟨news, -, hcourse⟩ : ∃ news, _ ∧ Course g True c news (c.after [request]) :=
        course_after hc hone fun _ => trivial
      exact hcourse.about habout
    obtain ⟨hunasked, hrest⟩ := ih (coherent_respond hc request) hstill hworld
      (hkeeps.later [request]) fun r hr => hinside r (List.mem_cons_of_mem _ hr)
    have hrespond := respond_without hc h hpick hfirst
    refine ⟨hunasked, ?_⟩
    simp only [List.map_cons, respondAll, Noted.value_bind, Noted.value_pure, hrespond, hrest]
    rfl

/-- **A reported label stays unasked, and tests of it come to nothing.** If a review of a dialogue
reports a label, and a run of conversations about that dialogue starts in a world in which the label
was not asked about and nobody changes the world from outside, then it is not asked about after any
of the requests, so the test that it was asked about fails and the test that it was not holds. Every
test that the run makes comes to this: about the dialogue in which these tests are replaced by what
they come to, and in which nothing asks about the label any more, all requests are answered alike,
the same events are told, and the conversation ends up in the same state; and wherever the run
stands, it opens on the same node. -/
theorem reported_labels_stay_unasked {key : String} {index : Nat} {world : World}
    {requests : List Request} (hreported : .unknownLabel key index label ∈ g.review)
    (hunasked : world.hasAsked label = false) (pacing : Pacing)
    (hkeeps : KeepsTo g (fresh world pacing) requests)
    (hinside : ∀ request ∈ requests, request.changesWorld = false) :
    let start := fresh world pacing
    let replaced := requests.map (Request.without label)
    (∀ first later, requests = first ++ later →
      let w := (start.after first).world
      w.hasAsked label = false ∧
      (Condition.asked label).holds w = false ∧ (Condition.notAsked label).holds w = true ∧
      ∀ npc, (g.without label).entryNode w npc = g.entryNode w npc) ∧
    (start.respondAll replaced).value.1 = (start.respondAll requests).value.1 ∧
    start.told replaced = start.told requests ∧
    start.after replaced = (start.after requests).without label ∧
    ¬ (g.without label).AsksInChoice label ∧ ¬ (g.without label).AsksBeside label := by
  intro start replaced
  have hcarried : ¬ g.Carries label := by
    obtain ⟨-, -, -, -, -, -, hcarried⟩ := Graph.unknownLabel_mem_review.1 hreported
    exact hcarried
  have hc : Coherent start := coherent_fresh world pacing
  have habout : About g start := about_fresh g world pacing
  have hrun : (start.respondAll replaced).value =
      ((start.respondAll requests).value.1, (start.after requests).without label) :=
    (run_without hc habout hcarried hunasked hkeeps hinside).2
  refine ⟨?_, by rw [hrun], ?_, by rw [after, hrun], Graph.not_asks_graph_without⟩
  · rintro first later rfl
    have hworld := (run_without hc habout hcarried hunasked hkeeps.earlier
      fun r hr => hinside r (List.mem_append_left later hr)).1
    exact ⟨hworld, by simp [Condition.holds, hworld], by simp [Condition.holds, hworld],
      Graph.entryNode_without hworld⟩
  · rw [told, told, after, hrun]
    rfl

/-- A dialogue with tests of a label that no choice carries. -/
def seance : Graph :=
  TextMap.empty.insert "start" {
    choices := [{ text := "Knock", id := some "door", condition := some (.notAsked "ghost") },
      { text := "Greet", condition := some (.all [.asked "door", .asked "ghost"]) },
      { text := "Leave", exit := true }] }

theorem reported_labels_stay_unasked_seance :
    let requests : List Request := [.enterAt "zyx" seance "start", .select 0]
    let c := (fresh .empty {}).after requests
    let replaced := requests.map (Request.without "ghost")
    let menu : List MenuItem := [⟨0, "Knock", true⟩, ⟨2, "Leave", false⟩]
    .unknownLabel "start" 0 "ghost" ∈ seance.review ∧ KeepsTo seance (fresh .empty {}) requests ∧
      c.world.hasAsked "door" = true ∧ c.world.hasAsked "ghost" = false ∧ c.menu = menu ∧
      ((fresh .empty {}).after replaced).menu = menu := by
  intro requests c replaced menu
  have hreported : .unknownLabel "start" 0 "ghost" ∈ seance.review := by decide
  have hkeeps : KeepsTo seance (fresh .empty {}) requests := by
    refine keepsTo_of_forall fun npc graph node hmem => ?_
    simp only [requests, List.mem_cons, Request.enterAt.injEq, List.not_mem_nil, or_false] at hmem
    rcases hmem with ⟨-, rfl, -⟩ | hselect
    · rfl
    · cases hselect
  have hempty : World.empty.hasAsked "ghost" = false := rfl
  have hmenu : c.menu = menu := by decide
  obtain ⟨hunasked, -, -, hafter, -⟩ :=
    reported_labels_stay_unasked hreported hempty {} hkeeps (by decide)
  have hrun := (hunasked requests [] (List.append_nil _).symm).1
  refine ⟨hreported, hkeeps, by decide, hrun, hmenu, ?_⟩
  rw [hafter]
  exact hmenu

end Conversation

end Colloquy
