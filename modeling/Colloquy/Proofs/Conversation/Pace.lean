import Colloquy.Proofs.Conversation.Credit
import Colloquy.Proofs.Conversation.Effects
import Colloquy.Proofs.Conversation.PlayedOut

/-!
# Pace — the same conversation at any speed

How long lines stay, when they may be cut short and when events are taken are matters of pace. Two
conversations are `Alike` if they differ in nothing else. What comes of moving on does not depend on
pace (`Alike.moved`), so conversations that are alike play out alike, and an interaction that is made
while no line is on screen leaves them alike again (`Alike.respond`). A run in which every
interaction waits for the lines is thus told by its interactions alone (`pacing_independent`):
reading along, skipping and fast-forwarding come to the same conversation.
-/

namespace Colloquy

namespace Request

/-- Whether the request takes part in the conversation, other than by letting time pass. -/
def isInteraction : Request → Bool
  | .enterAt .. | .select _ | .exit => true
  | .update _ | .skip | .drain | .write _ | .replace _ => false

end Request

namespace Conversation

variable {c c' d d' : Conversation} {s : Session} {taken taken' : List Event}

/-- There is one way in which an interaction is answered, since there is one way to move on. -/
theorem Response.unique (hc : Coherent c) {request : Request} {answer answer' : Answer}
    (hrequest : request.isInteraction = true) (h : Response c request answer d)
    (h' : Response c request answer' d') : answer = answer' ∧ d = d' := by
  cases h with
  | began hs hnode hm =>
    cases h' with
    | began _ _ hm' => exact ⟨rfl, hm.unique (hc.ready_begun hs _ hnode) hm'⟩
    | alreadyActive hs' => cases hs.symm.trans hs'
    | unknownEntry _ hnode' => cases hnode.symm.trans hnode'
  | alreadyActive hs =>
    cases h' with
    | alreadyActive hs' =>
      obtain rfl := Option.some.inj (hs.symm.trans hs')
      exact ⟨rfl, rfl⟩
    | began hs' | unknownEntry hs' => cases hs.symm.trans hs'
  | unknownEntry hs hnode =>
    cases h' with
    | began _ hnode' => cases hnode.symm.trans hnode'
    | alreadyActive hs' => cases hs.symm.trans hs'
    | unknownEntry => exact ⟨rfl, rfl⟩
  | picked hphase hitem hs hnode hchoice hm =>
    cases h' with
    | picked _ hitem' hs' hnode' hchoice' hm' =>
      obtain rfl := Option.some.inj (hitem.symm.trans hitem')
      obtain rfl := Option.some.inj (hs.symm.trans hs')
      obtain rfl := Option.some.inj (hnode.symm.trans hnode')
      obtain rfl := Option.some.inj (hchoice.symm.trans hchoice')
      exact ⟨rfl, hm.unique (hc.ready_picked hphase hs hnode hchoice) hm'⟩
    | invalidChoice _ hitem' => cases hitem.symm.trans hitem'
    | ignored hphase' => exact absurd hphase hphase'
  | invalidChoice hphase hitem =>
    cases h' with
    | picked _ hitem' => cases hitem.symm.trans hitem'
    | invalidChoice => exact ⟨rfl, rfl⟩
    | ignored hphase' => exact absurd hphase hphase'
  | ignored hphase =>
    cases h' with
    | picked hphase' | invalidChoice hphase' => exact absurd hphase' hphase
    | ignored => exact ⟨rfl, rfl⟩
  | ended hs =>
    cases h' with
    | ended => exact ⟨rfl, rfl⟩
    | idle hs' => cases hs.symm.trans hs'
  | idle hs =>
    cases h' with
    | ended hs' => cases hs.symm.trans hs'
    | idle => exact ⟨rfl, rfl⟩
  | elapsed | skipped | kept | drained | written | replaced => cases hrequest

/-! ## Conversations that differ in pace -/

/-- Two conversations differ in nothing but pace: in the timing settings, in the time that the line
on screen has been there, and in how many of the events were taken already. -/
structure Alike (taken taken' : List Event) (c c' : Conversation) : Prop where
  world : c'.world = c.world
  hero : c'.pacing.hero = c.pacing.hero
  phase : c'.phase = c.phase
  session : c'.session = c.session
  queue : c'.queue = c.queue
  currentLine : c'.currentLine = c.currentLine
  next : c'.next = c.next
  menu : c'.menu = c.menu
  told : taken' ++ c'.events = taken ++ c.events

namespace Alike

theorem refl (taken : List Event) (c : Conversation) : Alike taken taken c c :=
  ⟨rfl, rfl, rfl, rfl, rfl, rfl, rfl, rfl, rfl⟩

theorem trans {taken₂ : List Event} {c₂ : Conversation} (h : Alike taken taken' c c')
    (h' : Alike taken' taken₂ c' c₂) : Alike taken taken₂ c c₂ :=
  ⟨h'.world.trans h.world, h'.hero.trans h.hero, h'.phase.trans h.phase,
    h'.session.trans h.session, h'.queue.trans h.queue, h'.currentLine.trans h.currentLine,
    h'.next.trans h.next, h'.menu.trans h.menu, h'.told.trans h.told⟩

/-- Either both have a line on screen or neither has. -/
theorem turn_eq_none (h : Alike taken taken' c c') (hturn : c.turn = none) : c'.turn = none := by
  have hline := h.currentLine
  simpa [Conversation.currentLine, hturn] using hline

theorem turn_eq_some (h : Alike taken taken' c c') {turn : Turn} (hturn : c.turn = some turn) :
    ∃ turn', c'.turn = some turn' := by
  have hline := h.currentLine
  rw [Conversation.currentLine, Conversation.currentLine, hturn] at hline
  obtain ⟨turn', hturn', -⟩ := Option.map_eq_some_iff.1 hline
  exact ⟨turn', hturn'⟩

theorem silenced (h : Alike taken taken' c c') : Alike taken taken' c.silenced c'.silenced :=
  ⟨h.world, h.hero, h.phase, h.session, h.queue, rfl, h.next, h.menu, h.told⟩

/-- More events, the same for both. -/
theorem told_append (h : Alike taken taken' c c') (news : List Event) :
    taken' ++ (c'.events ++ news) = taken ++ (c.events ++ news) := by
  rw [← List.append_assoc, h.told, List.append_assoc]

theorem ended (h : Alike taken taken' c c') (reason : EndReason) :
    Alike taken taken' (c.ended reason) (c'.ended reason) := by
  refine ⟨h.world, h.hero, rfl, rfl, rfl, rfl, rfl, rfl, ?_⟩
  simp only [Conversation.ended, h.menu, List.append_assoc]
  exact h.told_append _

theorem menuAhead (h : Alike taken taken' c c') : c'.menuAhead = c.menuAhead := by
  simp only [Conversation.menuAhead, h.next, h.session, h.world]

theorem arrive (h : Alike taken taken' c c') (s : Session) (key : String) (node : Node) :
    Alike taken taken' (c.arrive s key node) (c'.arrive s key node) where
  world := h.world
  hero := h.hero
  phase := h.phase
  session := rfl
  queue := by simp [Conversation.arrive, h.queue, h.world]
  currentLine := h.currentLine
  next := by simp [Conversation.arrive, h.world]
  menu := h.menu
  told := h.told_append _

/-- **Conversations that are alike move on alike.** -/
theorem moved (h : Alike taken taken' c c') (hturn : c.turn = none) (hm : Moved c d) :
    ∃ d', Moved c' d' ∧ Alike taken taken' d d' := by
  have hturn' := h.turn_eq_none hturn
  induction hm generalizing c' with
  | line hqueue =>
    exact ⟨_, .line (h.queue.trans hqueue), h.world, h.hero, rfl, h.session, rfl, rfl, h.next,
      h.menu, h.told_append _⟩
  | menu hqueue hmenu hne =>
    exact ⟨_, .menu (h.queue.trans hqueue) (h.menuAhead.trans hmenu) hne, h.world, h.hero, rfl,
      h.session, h.queue, h.currentLine, rfl, rfl, h.told_append _⟩
  | deadEnd hqueue hmenu =>
    exact ⟨_, .deadEnd (h.queue.trans hqueue) (h.menuAhead.trans hmenu), h.ended _⟩
  | arrival hqueue hsession hnext hnode _ ih =>
    obtain ⟨d', hm', hd⟩ := ih (h.arrive _ _ _) hturn hturn'
    exact ⟨d', .arrival (h.queue.trans hqueue) (h.session.trans hsession) (h.next.trans hnext)
      hnode hm', hd⟩
  | missing hqueue hsession hnext hnode =>
    exact ⟨_, .missing (h.queue.trans hqueue) (h.session.trans hsession) (h.next.trans hnext)
      hnode, h.ended _⟩
  | exited hqueue hnext => exact ⟨_, .exited (h.queue.trans hqueue) (h.next.trans hnext), h.ended _⟩

theorem ready (h : Alike taken taken' c c') (hr : Ready c s) : Ready c' s where
  session := h.session.trans hr.session
  sound := hr.sound
  turn := h.turn_eq_none hr.turn
  menu := h.menu.trans hr.menu
  linedUp := by
    rw [h.queue, h.next]
    exact hr.linedUp
  lists := by
    rw [h.next]
    exact hr.lists

theorem playNext (h : Alike taken taken' c c') (hr : Ready c s) :
    Alike taken taken' c.playNext.value c'.playNext.value := by
  obtain ⟨d', hm', hd⟩ := h.moved hr.turn (moved_playNext hr)
  rw [value_of_moved hm' (h.ready hr)]
  exact hd

/-- **Conversations that are alike play out alike**, however long their lines stay. -/
theorem playedOut (h : Alike taken taken' c c') (hc : Coherent c) :
    Alike taken taken' c.playedOut c'.playedOut := by
  induction hpending : c.pending using Nat.strongRecOn generalizing c c' with
  | ind n ih =>
    cases hturn : c.turn with
    | none =>
      rw [playedOut_of_silent hturn, playedOut_of_silent (h.turn_eq_none hturn)]
      exact h
    | some turn =>
      obtain ⟨turn', hturn'⟩ := h.turn_eq_some hturn
      obtain ⟨s, hready⟩ := hc.ready_silenced hturn
      rw [playedOut_of_turn hturn, playedOut_of_turn hturn']
      exact ih _ (hpending ▸ pending_playNext_lt hturn) (h.silenced.playNext hready)
        (coherent_of_moved (moved_playNext hready) hready) rfl

theorem begun (h : Alike taken taken' c c') (npc : String) (graph : Graph) (node : String) :
    Alike taken taken' (c.begun npc graph node) (c'.begun npc graph node) :=
  ⟨h.world, h.hero, h.phase, rfl, h.queue, h.currentLine, rfl, h.menu, h.told_append _⟩

theorem picked (h : Alike taken taken' c c') (s : Session) (index : Nat) (choice : Choice) :
    Alike taken taken' (c.picked s index choice) (c'.picked s index choice) where
  world := by simp only [Conversation.picked, h.world]
  hero := h.hero
  phase := rfl
  session := rfl
  queue := by simp only [Conversation.picked, h.queue, h.hero]
  currentLine := h.currentLine
  next := rfl
  menu := rfl
  told := h.told_append _

/-- Conversations that are alike can be answered alike. -/
theorem response (h : Alike taken taken' c c') (hturn : c.turn = none) {request : Request}
    (hrequest : request.isInteraction = true) {answer : Answer}
    (hr : Response c request answer d) :
    ∃ d', Response c' request answer d' ∧ Alike taken taken' d d' := by
  cases hr with
  | @began npc graph node _ hs hnode hm =>
    obtain ⟨d', hm', hd⟩ := (h.begun npc graph node).moved hturn hm
    exact ⟨d', .began (h.session.trans hs) hnode hm', hd⟩
  | alreadyActive hs => exact ⟨c', .alreadyActive (h.session.trans hs), h⟩
  | unknownEntry hs hnode => exact ⟨c', .unknownEntry (h.session.trans hs) hnode, h⟩
  | @picked place item s node choice _ hphase hitem hs hnode hchoice hm =>
    obtain ⟨d', hm', hd⟩ := (h.picked s item.index choice).moved hturn hm
    exact ⟨d', .picked (h.phase.trans hphase) (h.menu ▸ hitem) (h.session.trans hs) hnode hchoice
      hm', hd⟩
  | invalidChoice hphase hitem =>
    exact ⟨c', .invalidChoice (h.phase.trans hphase) (h.menu ▸ hitem), h⟩
  | ignored hphase => exact ⟨c', .ignored (h.phase ▸ hphase), h⟩
  | ended hs => exact ⟨_, .ended (h.session.trans hs), h.ended _⟩
  | idle hs => exact ⟨c', .idle (h.session.trans hs), h⟩
  | elapsed | skipped | kept | drained | written | replaced => cases hrequest

/-- **Conversations that are alike are answered alike** when no line is on screen. -/
theorem respond (h : Alike taken taken' c c') (hc : Coherent c) (hc' : Coherent c')
    (hturn : c.turn = none) {request : Request} (hrequest : request.isInteraction = true) :
    (c'.respond request).value.1 = (c.respond request).value.1 ∧
      Alike taken taken' (c.respond request).value.2 (c'.respond request).value.2 := by
  obtain ⟨d', hr', hd⟩ := h.response hturn hrequest (Conversation.response hc request)
  obtain ⟨hanswer, rfl⟩ := (Conversation.response hc' request).unique hc' hrequest hr'
  exact ⟨hanswer, hd⟩

end Alike

/-! ## Runs told by their interactions -/

/-- The interactions among requests. -/
def interactions (requests : List Request) : List Request := requests.filter Request.isInteraction

/-- Every interaction is made while no line is on screen. -/
def Unhurried (c : Conversation) : List Request → Prop
  | [] => True
  | request :: rest => (request.isInteraction = true → c.turn = none) ∧
    (c.respond request).value.2.Unhurried rest

/-- A run that waits for the lines waits for them as far as it goes. -/
theorem Unhurried.of_append {first later : List Request} (h : c.Unhurried (first ++ later)) :
    c.Unhurried first := by
  induction first generalizing c with
  | nil => trivial
  | cons request rest ih => exact ⟨h.1, ih h.2⟩

/-- What the interactions of a run are answered with. -/
def returned (c : Conversation) : List Request → List Answer
  | [] => []
  | request :: rest =>
    (if request.isInteraction then [(c.respond request).value.1] else []) ++
      (c.respond request).value.2.returned rest

/-- The events that are taken in a run. -/
def takenIn (c : Conversation) (requests : List Request) : List Event :=
  (c.respondAll requests).value.1.flatMap Answer.taken

/-- Interactions one after the other, each after the lines have played out, with their answers. -/
def conduct (c : Conversation) : List Request → List Answer × Conversation
  | [] => ([], c.playedOut)
  | request :: rest =>
    let answered := (c.playedOut.respond request).value
    let later := answered.2.conduct rest
    (answered.1 :: later.1, later.2)

/-- What has played out has no line on screen, and its fields agree. -/
theorem silent_playedOut (hc : Coherent c) : c.playedOut.turn = none ∧ Coherent c.playedOut := by
  induction hpending : c.pending using Nat.strongRecOn generalizing c with
  | ind n ih =>
    cases hturn : c.turn with
    | none =>
      rw [playedOut_of_silent hturn]
      exact ⟨hturn, hc⟩
    | some turn =>
      obtain ⟨s, hready⟩ := hc.ready_silenced hturn
      rw [playedOut_of_turn hturn]
      exact ih _ (hpending ▸ pending_playNext_lt hturn)
        (coherent_of_moved (moved_playNext hready) hready) rfl

/-- Only taking the events hands any out. -/
theorem taken_of_response {request : Request} {answer : Answer}
    (hr : Response c request answer d) (hrequest : request ≠ .drain) : answer.taken = [] := by
  cases hr with
  | drained => exact absurd rfl hrequest
  | began | alreadyActive | unknownEntry | picked | invalidChoice | ignored | elapsed | skipped
    | kept | ended | idle | written | replaced => rfl

theorem takenIn_cons (c : Conversation) (request : Request) (rest : List Request) :
    c.takenIn (request :: rest) =
      (c.respond request).value.1.taken ++ (c.respond request).value.2.takenIn rest := by
  simp [takenIn, respondAll]

/-- Taking the events changes nothing but what was taken. -/
theorem Alike.drained (taken : List Event) (c : Conversation) :
    Alike taken (taken ++ c.events) c { c with events := [] } :=
  ⟨rfl, rfl, rfl, rfl, rfl, rfl, rfl, rfl, List.append_nil _⟩

/-- **A run whose interactions wait for the lines is told by its interactions**: it comes to what
they come to one after the other, at any pace, however time is passed and events are taken between
them. -/
theorem alike_conduct (hc : Coherent c) (hc' : Coherent c')
    (h : Alike taken taken' c.playedOut c'.playedOut) {requests : List Request}
    (hinside : ∀ request ∈ requests, request.changesWorld = false)
    (hunhurried : c'.Unhurried requests) (hsilent : (c'.after requests).turn = none) :
    c'.returned requests = (c.conduct (interactions requests)).1 ∧
      Alike taken (taken' ++ c'.takenIn requests) (c.conduct (interactions requests)).2
        (c'.after requests) := by
  induction requests generalizing c c' taken' with
  | nil =>
    rw [playedOut_of_silent (c := c') hsilent] at h
    exact ⟨rfl, by simpa [takenIn, respondAll, interactions, conduct] using h⟩
  | cons request rest ih =>
    have hrest : ∀ r ∈ rest, r.changesWorld = false :=
      fun r hr => hinside r (List.mem_cons_of_mem _ hr)
    have hcoherent := coherent_respond hc' request
    rw [takenIn_cons, after_cons, returned, ← List.append_assoc]
    cases hrequest : request.isInteraction with
    | true =>
      rw [playedOut_of_silent (hunhurried.1 hrequest)] at h
      obtain ⟨hthrough, hplayed⟩ := silent_playedOut hc
      obtain ⟨hanswer, halike⟩ := h.respond hplayed hc' hthrough hrequest
      have hnone : (c'.respond request).value.1.taken = [] :=
        taken_of_response (response hc' request) (by rintro rfl; cases hrequest)
      have hnext := coherent_respond hplayed request
      obtain ⟨hreturned, hlater⟩ := ih hnext hcoherent (halike.playedOut hnext) hrest hunhurried.2
        hsilent
      rw [show interactions (request :: rest) = request :: interactions rest by
        simp [interactions, hrequest], conduct, hnone, List.append_nil, hanswer]
      exact ⟨congrArg _ hreturned, hlater⟩
    | false =>
      rw [show interactions (request :: rest) = interactions rest by
        simp [interactions, hrequest]]
      -- a pause leaves alone where the conversation leads, but for the events that are taken
      have hpause : Alike taken (taken' ++ (c'.respond request).value.1.taken) c.playedOut
          (c'.respond request).value.2.playedOut := by
        cases request with
        | update dt =>
          rw [show (c'.respond (.update dt)).value.2.playedOut = c'.playedOut from
            playedOut_update c' dt]
          simpa [respond, Answer.taken] using h
        | skip =>
          rw [show (c'.respond .skip).value.2.playedOut = c'.playedOut from playedOut_skip c']
          simpa [respond, Answer.taken] using h
        | drain => exact h.trans ((Alike.drained taken' c').playedOut hc')
        | enterAt | select | exit => cases hrequest
        | write | replace => cases hinside _ List.mem_cons_self
      obtain ⟨hreturned, hlater⟩ := ih hc hcoherent hpause hrest hunhurried.2 hsilent
      exact ⟨hreturned, hlater⟩

/-- **The pace of a conversation is no part of it.** Two runs over the same world, with the same
hero and any timing, whose interactions are the same and wait for the lines, agree at every moment
at which they have the same interactions behind them and no line on screen: before each interaction,
and when the lines after the last one are through. However each of them lets time pass, skips, and
takes events, the interactions were answered alike, the same was told, and the world, the phase, the
session with what was picked in it, and the menu are the same. -/
theorem pacing_independent (world : World) {pacing pacing' : Pacing}
    (hhero : pacing'.hero = pacing.hero) {requests requests' : List Request}
    (hinside : ∀ request ∈ requests, request.changesWorld = false)
    (hinside' : ∀ request ∈ requests', request.changesWorld = false)
    (hunhurried : (fresh world pacing).Unhurried requests)
    (hunhurried' : (fresh world pacing').Unhurried requests')
    {first first' : List Request} (hfirst : first <+: requests) (hfirst' : first' <+: requests')
    (hsame : interactions first' = interactions first)
    (hsilent : ((fresh world pacing).after first).turn = none)
    (hsilent' : ((fresh world pacing').after first').turn = none) :
    (fresh world pacing').returned first' = (fresh world pacing).returned first ∧
      (fresh world pacing').told first' = (fresh world pacing).told first ∧
      ((fresh world pacing').after first').world = ((fresh world pacing).after first).world ∧
      ((fresh world pacing').after first').phase = ((fresh world pacing).after first).phase ∧
      ((fresh world pacing').after first').session = ((fresh world pacing).after first).session ∧
      ((fresh world pacing').after first').menu = ((fresh world pacing).after first).menu := by
  obtain ⟨later, rfl⟩ := hfirst
  obtain ⟨later', rfl⟩ := hfirst'
  have hc : Coherent (fresh world pacing) := coherent_fresh world pacing
  have hc' : Coherent (fresh world pacing') := coherent_fresh world pacing'
  have hfresh : Alike [] [] (fresh world pacing) (fresh world pacing') :=
    ⟨rfl, hhero, rfl, rfl, rfl, rfl, rfl, rfl, rfl⟩
  -- both runs come to what their interactions come to in the first of the two conversations
  obtain ⟨hreturned, halike⟩ := alike_conduct hc hc (Alike.refl [] _)
    (fun request hr => hinside request (List.mem_append_left _ hr)) hunhurried.of_append hsilent
  obtain ⟨hreturned', halike'⟩ := alike_conduct hc hc' (hfresh.playedOut hc)
    (fun request hr => hinside' request (List.mem_append_left _ hr)) hunhurried'.of_append hsilent'
  rw [hsame] at hreturned' halike'
  exact ⟨hreturned'.trans hreturned.symm, halike'.told.trans halike.told.symm,
    halike'.world.trans halike.world.symm, halike'.phase.trans halike.phase.symm,
    halike'.session.trans halike.session.symm, halike'.menu.trans halike.menu.symm⟩

/-- A run that skips every line. -/
def skimmed : List Request := [.enterAt "zyx" parting "start", .select 0, .skip, .skip, .skip]

/-- The same run with the lines left to play, in two steps, and the events taken on the way. -/
def perused : List Request :=
  [.enterAt "zyx" parting "start", .drain, .select 0, .update (.ofMillis 1000),
    .update (.ofMillis 5000)]

/-- A line that has just appeared, at the usual pace. -/
def appeared (speaker : Speaker) (name text : String) : Turn :=
  ⟨⟨speaker, name, text⟩, .start (.ofMillis 1500)⟩

/-- The first step is credited to what the hero says, and the second runs through all the lines. -/
theorem silent_perused : ((fresh .empty {}).after perused).turn = none := by
  have hfirst : (((fresh .empty {}).after (perused.take 3)).update (.ofMillis 1000)).value = _ :=
    value_update_of_lasting (show _ = some (appeared .hero "nate" "Why?") by decide) (by decide)
  have hsecond : (fresh .empty {}).after perused =
      ((((fresh .empty {}).after (perused.take 3)).update (.ofMillis 1000)).value.update
        (.ofMillis 5000)).value := rfl
  rw [hsecond, hfirst, value_update_of_done rfl (by decide),
    value_update_of_done (show _ = some (appeared .npc "zyx" "Because.") by decide) (by decide),
    value_update_of_done (show _ = some (appeared .npc "zyx" "Here.") by decide) (by decide),
    value_update_of_silent (by decide)]
  decide

theorem pacing_independent_perused :
    (fresh .empty { skipGuard := .zero }).Unhurried skimmed ∧
      (fresh .empty {}).Unhurried perused ∧ ((fresh .empty {}).after perused).turn = none ∧
      (fresh .empty {}).returned perused = [.done, .selected .accepted] ∧
      (fresh .empty {}).told perused =
        [.started "zyx", .nodeEntered "start", .optionsShown [⟨0, "Ask", false⟩], .optionsHidden,
          .line ⟨.hero, "nate", "Why?"⟩, .line ⟨.npc, "zyx", "Because."⟩, .nodeEntered "cell",
          .line ⟨.npc, "zyx", "Here."⟩, .ended .deadEnd] := by
  have hskimmed : (fresh .empty { skipGuard := .zero }).Unhurried skimmed :=
    ⟨fun _ => rfl, fun _ => by decide, nofun, nofun, nofun, trivial⟩
  have hperused : (fresh .empty {}).Unhurried perused :=
    ⟨fun _ => rfl, nofun, fun _ => by decide, nofun, nofun, trivial⟩
  obtain ⟨hreturned, htold, -⟩ := pacing_independent .empty (by rfl) (by decide) (by decide)
    hskimmed hperused (List.prefix_refl _) (List.prefix_refl _) (by decide) (by decide)
    silent_perused
  refine ⟨hskimmed, hperused, silent_perused, ?_, ?_⟩
  · rw [hreturned]
    decide
  · rw [htold]
    decide

end Conversation

end Colloquy
