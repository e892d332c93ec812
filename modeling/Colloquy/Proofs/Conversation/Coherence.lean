import Colloquy.Proofs.Conversation.Moves

/-!
# Coherence — the fields of a conversation agree

A conversation has nine fields, and between requests they say one thing: it is idle and as good as
new, or a menu is up and nothing else is going on, or a line is on screen and what is queued behind
it fits. `Coherent` is that statement. It holds of a fresh conversation, every move leads to it from
a ready one (`coherent_of_moved`), and so it holds after every request (`coherent_after`), whatever
the dialogue and whatever is done to the world meanwhile. `Response` lists what a request can do to
a coherent conversation: later statements about runs are case analyses over it.
-/

namespace Colloquy

namespace Conversation

/-- The fields of a conversation agree. -/
structure Coherent (c : Conversation) : Prop where
  /-- It is idle just when nobody is talked to. -/
  idle_iff : c.phase = .idle ↔ c.session = none
  /-- When it is idle, nothing but the world, the settings and the events tells it from a fresh
  one. -/
  fresh_of_idle : c.phase = .idle → c = { fresh c.world c.pacing with events := c.events }
  /-- A choice is awaited just when there is something to choose. -/
  awaiting_iff : c.phase = .awaitingChoice ↔ c.menu ≠ []
  /-- While a choice is awaited, somebody is talked to and nothing plays or is to play. -/
  awaiting : c.phase = .awaitingChoice →
    c.session.isSome ∧ c.turn = none ∧ c.queue = [] ∧ c.next = .showOptions
  /-- Otherwise a line is on screen, no menu is up, and the queue and what follows fit the line. -/
  playing : c.phase ≠ .idle → c.phase ≠ .awaitingChoice →
    c.session.isSome ∧ c.turn.isSome ∧ c.menu = [] ∧ Lineup c.phase c.queue c.next
  /-- The current node is one of the dialogue, and so is whatever was picked. -/
  sound : ∀ s, c.session = some s → s.Sound
  /-- The menu that is up and the menu that is to come list choices of the current node. -/
  lists : ∀ s, c.session = some s →
    s.Lists c.menu ∧ ∀ menu, c.next = .offer menu → s.Lists menu

variable {c c' : Conversation} {s : Session}

theorem coherent_fresh (world : World) (pacing : Pacing) : Coherent (fresh world pacing) := by
  constructor <;> simp [fresh]

/-! ## Every move leads to a coherent conversation -/

theorem coherent_ended (c : Conversation) (reason : EndReason) : Coherent (c.ended reason) := by
  constructor <;> simp [ended, fresh]

theorem coherent_shown (h : Ready c s) (hqueue : c.queue = []) {menu : List MenuItem}
    (hne : menu ≠ []) (hlists : s.Lists menu) : Coherent (c.shown menu) where
  idle_iff := by simp [shown, h.session]
  fresh_of_idle := by simp [shown]
  awaiting_iff := by simp [shown, hne]
  awaiting := by simp [shown, h.session, h.turn, hqueue]
  playing := by simp [shown]
  sound := by
    rintro t ht
    obtain rfl : s = t := Option.some.inj (h.session.symm.trans ht)
    exact h.sound
  lists := by
    rintro t ht
    obtain rfl : s = t := Option.some.inj (h.session.symm.trans ht)
    exact ⟨hlists, by simp [shown]⟩

/-- A line plays only in a phase for lines. -/
theorem Lineup.phase_ne {phase : Phase} {queue : List (Phase × Line)} {next : Continuation}
    (h : Lineup phase queue next) : phase ≠ .idle ∧ phase ≠ .awaitingChoice := by
  constructor <;> rintro rfl <;> exact h

theorem coherent_play (h : Ready c s) {phase : Phase} {line : Line} {rest : List (Phase × Line)}
    (hqueue : c.queue = (phase, line) :: rest) : Coherent (c.play phase line rest) := by
  have hlineup : Lineup phase rest c.next := h.linedUp phase line rest hqueue
  obtain ⟨hidle, hawaiting⟩ := Lineup.phase_ne hlineup
  constructor
  · simp [play, h.session, hidle]
  · exact fun hphase => absurd hphase hidle
  · simp [play, h.menu, hawaiting]
  · exact fun hphase => absurd hphase hawaiting
  · exact fun _ _ => ⟨by simp [play, h.session], rfl, h.menu, hlineup⟩
  · rintro t ht
    obtain rfl : s = t := Option.some.inj (h.session.symm.trans ht)
    exact h.sound
  · rintro t ht
    obtain rfl : s = t := Option.some.inj (h.session.symm.trans ht)
    refine ⟨?_, h.lists⟩
    show s.Lists c.menu
    rw [h.menu]
    exact s.lists_nil

/-- The menu that lies ahead lists choices of the current node. -/
theorem Ready.lists_menuAhead (h : Ready c s) {menu : List MenuItem}
    (hmenu : c.menuAhead = some menu) : s.Lists menu := by
  unfold menuAhead at hmenu
  split at hmenu
  · rename_i settled hnext
    obtain rfl := Option.some.inj hmenu
    exact h.lists _ hnext
  · rw [h.session] at hmenu
    exact Session.lists_menu? hmenu
  · cases hmenu
  · cases hmenu

/-- **Every move leads from a ready conversation to a coherent one.** -/
theorem coherent_of_moved (hm : Moved c c') (h : Ready c s) : Coherent c' := by
  -- only an arrival goes on, and it does so from a conversation that is ready again
  induction hm generalizing s with
  | line hqueue => exact coherent_play h hqueue
  | menu hqueue hmenu hne => exact coherent_shown h hqueue hne (h.lists_menuAhead hmenu)
  | deadEnd => exact coherent_ended _ _
  | arrival hqueue hsession _ hnode _ ih =>
    obtain rfl := Option.some.inj (h.session.symm.trans hsession)
    exact ih (h.arrive hqueue hnode)
  | missing => exact coherent_ended _ _
  | exited => exact coherent_ended _ _

/-- A line is on screen only in a phase for lines. -/
theorem Coherent.phase_ne (h : Coherent c) {turn : Turn} (hturn : c.turn = some turn) :
    c.phase ≠ .idle ∧ c.phase ≠ .awaitingChoice := by
  constructor <;> intro hphase
  · rw [h.fresh_of_idle hphase] at hturn
    cases hturn
  · rw [(h.awaiting hphase).2.1] at hturn
    cases hturn

/-- A move stays with the character and the dialogue. -/
theorem same_of_moved (hm : Moved c c') (hs : c.session = some s) {s' : Session}
    (hs' : c'.session = some s') : s'.npc = s.npc ∧ s'.graph = s.graph := by
  induction hm generalizing s with
  | line | menu =>
    obtain rfl : s = s' := Option.some.inj (hs.symm.trans hs')
    exact ⟨rfl, rfl⟩
  | arrival _ hsession _ _ _ ih =>
    obtain rfl := Option.some.inj (hs.symm.trans hsession)
    obtain ⟨hnpc, hgraph⟩ := ih rfl hs'
    exact ⟨hnpc, hgraph⟩
  | deadEnd | missing | exited => cases hs'

/-- A coherent conversation with a line on screen is ready to move on. -/
theorem Coherent.ready_silenced (h : Coherent c) {turn : Turn} (hturn : c.turn = some turn) :
    ∃ s, Ready c.silenced s := by
  obtain ⟨hidle, hawaiting⟩ := h.phase_ne hturn
  obtain ⟨hsession, -, hmenu, hlineup⟩ := h.playing hidle hawaiting
  obtain ⟨s, hs⟩ := Option.isSome_iff_exists.1 hsession
  exact ⟨s, hs, h.sound s hs, rfl, hmenu, hlineup.linedUp, (h.lists s hs).2⟩

/-! ## What a request does -/

/-- The conversation about to go to its first node. -/
def begun (c : Conversation) (npc : String) (graph : Graph) (node : String) : Conversation :=
  { c with
    session := some { npc := npc, graph := graph, node := node }
    next := .enter node
    events := c.events ++ [.started npc] }

/-- The conversation about to play a choice that was picked. -/
def picked (c : Conversation) (s : Session) (index : Nat) (choice : Choice) : Conversation :=
  { c with
    world := c.world.applyAll (choice.writes s.npc s.node index)
    phase := .playingHeroLine
    session := some { s with used := s.used.mark s.node index }
    queue := c.queue ++ choiceLines c.pacing.hero choice
    next := destination choice
    menu := []
    events := c.events ++ [.optionsHidden] }

theorem value_pick (c : Conversation) (s : Session) (index : Nat) (choice : Choice) :
    (c.pick s index choice).value = (c.picked s index choice).playNext.value := by
  simp [pick, picked]

theorem isRoute_destination (choice : Choice) : (destination choice).IsRoute := by
  unfold destination
  split
  · trivial
  · split <;> trivial

/-- The lines of a choice and where it leads fit together. -/
theorem linedUp_choiceLines (hero : String) (choice : Choice) :
    LinedUp (choiceLines hero choice) (destination choice) := by
  have hroute : (destination choice).IsRoute := isRoute_destination choice
  have hreply : ∀ entry ∈ (choice.npcResponse.getD []).map fun line =>
      (Phase.playingNpcResponse, line), entry.1 = .playingNpcResponse := by
    intro entry hentry
    obtain ⟨line, -, rfl⟩ := List.mem_map.1 hentry
    rfl
  rintro phase line rest hlines
  by_cases hhero : choice.heroLine = ""
  · rw [choiceLines, if_pos hhero, List.nil_append] at hlines
    have hlineup : Lineup .playingNpcResponse ((phase, line) :: rest) (destination choice) :=
      ⟨fun entry he => hreply entry (hlines ▸ he), hroute⟩
    exact hlineup.linedUp phase line rest rfl
  · rw [choiceLines, if_neg hhero, List.singleton_append, List.cons.injEq, Prod.mk.injEq] at hlines
    obtain ⟨⟨rfl, -⟩, rfl⟩ := hlines
    exact ⟨hreply, hroute⟩

/-- A conversation that begins is ready: its first node is one of the dialogue. -/
theorem Coherent.ready_begun (h : Coherent c) (hs : c.session = none) (npc : String)
    {graph : Graph} {node : String} (hnode : graph.contains node = true) :
    Ready (c.begun npc graph node) { npc := npc, graph := graph, node := node } := by
  have hfresh := h.fresh_of_idle (h.idle_iff.2 hs)
  have hqueue : c.queue = [] := by rw [hfresh]; rfl
  have hturn : c.turn = none := by rw [hfresh]; rfl
  have hmenu : c.menu = [] := by rw [hfresh]; rfl
  refine ⟨rfl, ⟨hnode, fun key index hused => ?_⟩, hturn, hmenu, ?_, ?_⟩
  · simp [UsedChoices.isUsed] at hused
  · rintro phase line rest hcons
    have hcons' : c.queue = (phase, line) :: rest := hcons
    simp [hqueue] at hcons'
  · rintro menu hnext
    cases hnext

/-- A conversation that begins goes to its first node. -/
theorem Coherent.arrives_of_begun (h : Coherent c) (hs : c.session = none) {npc : String}
    {graph : Graph} {node : String} (hnode : graph.contains node = true)
    (hm : Moved (c.begun npc graph node) c') :
    ∃ n, graph.get? node = some n ∧
      Ready ((c.begun npc graph node).arrive ⟨npc, graph, node, {}⟩ node n)
        ⟨npc, graph, node, {}⟩ ∧
      Moved ((c.begun npc graph node).arrive ⟨npc, graph, node, {}⟩ node n) c' := by
  have hready := h.ready_begun hs npc hnode
  have hqueue : (c.begun npc graph node).queue = [] := by
    rw [h.fresh_of_idle (h.idle_iff.2 hs)]
    rfl
  cases hm with
  | line hcons => cases hqueue.symm.trans hcons
  | menu _ hmenu | deadEnd _ hmenu => cases hmenu
  | @arrival _ _ s key n _ hsession hnext hget hm =>
    cases hsession
    cases hnext
    exact ⟨n, hget, hready.arrive hqueue hget, hm⟩
  | missing _ hsession hnext hget =>
    cases hsession
    cases hnext
    rw [TextMap.contains, hget] at hnode
    cases hnode
  | exited _ hnext => cases hnext

/-- What is used after a pick is the pick or was used before. -/
theorem isUsed_mark {u : UsedChoices} {node key : String} {index i : Nat} :
    (u.mark node index).isUsed key i = true ↔
      (key, i) = (node, index) ∨ u.isUsed key i = true := by
  unfold UsedChoices.mark
  split
  · rename_i hused
    constructor
    · exact Or.inr
    · rintro (heq | hold)
      · obtain ⟨rfl, rfl⟩ := Prod.mk.inj heq
        exact hused
      · exact hold
  · simp [UsedChoices.isUsed]

/-- A conversation whose choice was picked is ready to play it. -/
theorem Coherent.ready_picked (h : Coherent c) (hphase : c.phase = .awaitingChoice)
    (hs : c.session = some s) {node : Node} {index : Nat} {choice : Choice}
    (hnode : s.graph.get? s.node = some node) (hchoice : node.choices[index]? = some choice) :
    Ready (c.picked s index choice) { s with used := s.used.mark s.node index } := by
  obtain ⟨-, hturn, hqueue, -⟩ := h.awaiting hphase
  refine ⟨rfl, ⟨(h.sound s hs).known, fun key i hused => ?_⟩, hturn, rfl, ?_, ?_⟩
  · -- what counts as used now was used before, or it is the choice at hand
    rcases isUsed_mark.1 hused with heq | hold
    · obtain ⟨rfl, rfl⟩ := Prod.mk.inj heq
      exact ⟨node, hnode, (List.getElem?_eq_some_iff.1 hchoice).1⟩
    · exact (h.sound s hs).picked key i hold
  · rw [show (c.picked s index choice).queue = choiceLines c.pacing.hero choice by
      simp [picked, hqueue]]
    exact linedUp_choiceLines _ _
  · rintro menu hnext
    have hroute : (destination choice).IsRoute := isRoute_destination choice
    rw [show destination choice = .offer menu from hnext] at hroute
    exact hroute.elim

/-- Time that passes: a line stays and is credited, or gives way to what comes of moving on. -/
inductive Elapsed : Conversation → Conversation → Prop where
  | still {c : Conversation} (hturn : c.turn = none) : Elapsed c c
  | credited {c : Conversation} {turn : Turn} (hturn : c.turn = some turn) (timer : TurnTimer) :
      Elapsed c { c with turn := some { turn with timer := timer } }
  | moved {c c₁ c' : Conversation} {turn : Turn} (hturn : c.turn = some turn)
      (hm : Moved c.silenced c₁) (h : Elapsed c₁ c') : Elapsed c c'

/-- What comes of a request, one constructor for each way it can go. -/
inductive Response (c : Conversation) : Request → Answer → Conversation → Prop where
  /-- A conversation begins. -/
  | began {npc : String} {graph : Graph} {node : String} {c' : Conversation}
      (hs : c.session = none) (hnode : graph.contains node = true)
      (hm : Moved (c.begun npc graph node) c') : Response c (.enterAt npc graph node) .done c'
  /-- Another conversation is running. -/
  | alreadyActive {npc : String} {graph : Graph} {node : String} {s : Session}
      (hs : c.session = some s) :
      Response c (.enterAt npc graph node) (.refused (.alreadyActive s.npc)) c
  /-- There is no such node to begin on. -/
  | unknownEntry {npc : String} {graph : Graph} {node : String} (hs : c.session = none)
      (hnode : graph.contains node = false) :
      Response c (.enterAt npc graph node) (.refused (.unknownEntryNode node)) c
  /-- A choice is picked. -/
  | picked {place : Nat} {item : MenuItem} {s : Session} {node : Node} {choice : Choice}
      {c' : Conversation} (hphase : c.phase = .awaitingChoice) (hitem : c.menu[place]? = some item)
      (hs : c.session = some s) (hnode : s.graph.get? s.node = some node)
      (hchoice : node.choices[item.index]? = some choice)
      (hm : Moved (c.picked s item.index choice) c') :
      Response c (.select place) (.selected .accepted) c'
  /-- There is no such item in the menu. -/
  | invalidChoice {place : Nat} (hphase : c.phase = .awaitingChoice)
      (hitem : c.menu[place]? = none) :
      Response c (.select place) (.refused (.invalidChoice place)) c
  /-- There is nothing to choose. -/
  | ignored {place : Nat} (hphase : c.phase ≠ .awaitingChoice) :
      Response c (.select place) (.selected .ignored) c
  /-- Time passes. -/
  | elapsed {dt : Duration} {c' : Conversation} (he : Elapsed c c') :
      Response c (.update dt) .done c'
  /-- The line is cut short. -/
  | skipped {turn : Turn} {c' : Conversation} (hturn : c.turn = some turn)
      (hskip : c.canSkip = true) (hm : Moved c.silenced c') : Response c .skip (.skipped true) c'
  /-- The line may not be cut short yet, or there is none. -/
  | kept (hskip : c.canSkip = false) : Response c .skip (.skipped false) c
  /-- The conversation is ended from outside. -/
  | ended {s : Session} (hs : c.session = some s) : Response c .exit .done (c.ended .requested)
  /-- There is nothing to end. -/
  | idle (hs : c.session = none) : Response c .exit .done c
  /-- The events are taken. -/
  | drained : Response c .drain (.events c.events) { c with events := [] }
  /-- The world changes. -/
  | written (change : Write) :
      Response c (.write change) .done { c with world := c.world.apply change }
  /-- The world is another one. -/
  | replaced (world : World) : Response c (.replace world) .done { c with world := world }

/-- Crediting time is moving on, any number of times. -/
theorem elapsed_update (h : Coherent c) (dt : Duration) : Elapsed c (c.update dt).value := by
  fun_induction update c dt with
  | case1 c dt hturn => exact .still hturn
  | case2 c dt turn hturn timer _ => exact .credited hturn timer
  | case3 c dt turn hturn rest _ _ moved later ih =>
    obtain ⟨s, hready⟩ := h.ready_silenced hturn
    have hm : Moved c.silenced c.silenced.playNext.value := moved_playNext hready
    exact .moved hturn hm (ih (coherent_of_moved hm hready))

/-- Beginning is moving on to the first node: a coherent idle conversation has nothing queued and
nothing special to follow. -/
theorem value_enterAt (h : Coherent c) (hs : c.session = none) {npc : String} {graph : Graph}
    {node : String} (hnode : graph.contains node = true) :
    (c.enterAt npc graph node).value = .ok (c.begun npc graph node).playNext.value := by
  have hfresh := h.fresh_of_idle (h.idle_iff.2 hs)
  have hnext : c.next = .showOptions := by rw [hfresh]; rfl
  have hqueue : (c.begun npc graph node).queue = [] := by rw [hfresh]; rfl
  have hplay : (c.begun npc graph node).playNext =
      (c.begun npc graph node).settled.enterNode node := by
    rw [playNext, hqueue]
    rfl
  rw [hplay]
  simp [enterAt, hs, hnode, begun, settled, ← hnext]

/-- Selecting is moving on from the pick. -/
theorem value_select {place : Nat} {item : MenuItem} {node : Node} {choice : Choice}
    (hphase : c.phase = .awaitingChoice) (hitem : c.menu[place]? = some item)
    (hs : c.session = some s) (hnode : s.graph.get? s.node = some node)
    (hchoice : node.choices[item.index]? = some choice) :
    (c.select place).value = .ok (.accepted, (c.picked s item.index choice).playNext.value) := by
  simp [select, hphase, hitem, hs, hnode, hchoice, value_pick]

theorem response_enterAt (h : Coherent c) (npc : String) (graph : Graph) (node : String) :
    Response c (.enterAt npc graph node) (c.respond (.enterAt npc graph node)).value.1
      (c.respond (.enterAt npc graph node)).value.2 := by
  cases hs : c.session with
  | some s =>
    have hvalue : (c.enterAt npc graph node).value = .error (.alreadyActive s.npc) := by
      simp [enterAt, hs]
    simp only [respond, Noted.value_bind, hvalue]
    exact .alreadyActive hs
  | none =>
    cases hnode : graph.contains node with
    | false =>
      have hvalue : (c.enterAt npc graph node).value = .error (.unknownEntryNode node) := by
        simp [enterAt, hs, hnode]
      simp only [respond, Noted.value_bind, hvalue]
      exact .unknownEntry hs hnode
    | true =>
      simp only [respond, Noted.value_bind, value_enterAt h hs hnode]
      exact .began hs hnode (moved_playNext (h.ready_begun hs npc hnode))

theorem response_select (h : Coherent c) (place : Nat) :
    Response c (.select place) (c.respond (.select place)).value.1
      (c.respond (.select place)).value.2 := by
  by_cases hphase : c.phase = .awaitingChoice
  · obtain ⟨s, hs⟩ := Option.isSome_iff_exists.1 (h.awaiting hphase).1
    cases hitem : c.menu[place]? with
    | none =>
      have hvalue : (c.select place).value = .error (.invalidChoice place) := by
        simp [select, hphase, hitem]
      simp only [respond, Noted.value_bind, hvalue]
      exact .invalidChoice hphase hitem
    | some item =>
      obtain ⟨node, choice, hnode, hchoice, -⟩ :=
        (h.lists s hs).1.1 item (List.mem_of_getElem? hitem)
      simp only [respond, Noted.value_bind, value_select hphase hitem hs hnode hchoice]
      exact .picked hphase hitem hs hnode hchoice
        (moved_playNext (h.ready_picked hphase hs hnode hchoice))
  · have hvalue : (c.select place).value = .ok (.ignored, c) := by simp [select, hphase]
    simp only [respond, Noted.value_bind, hvalue]
    exact .ignored hphase

/-- **A request to a coherent conversation is answered in one of these ways.** -/
theorem response (h : Coherent c) (request : Request) :
    Response c request (c.respond request).value.1 (c.respond request).value.2 := by
  cases request with
  | enterAt npc graph node => exact response_enterAt h npc graph node
  | select place => exact response_select h place
  | update dt => exact .elapsed (elapsed_update h dt)
  | skip =>
    cases hskip : c.canSkip with
    | false =>
      have hvalue : c.skip.value = (false, c) := by simp [skip, hskip]
      simp only [respond, Noted.value_bind, hvalue]
      exact .kept hskip
    | true =>
      cases hturn : c.turn with
      | none => simp [canSkip, hturn] at hskip
      | some turn =>
        have hvalue : c.skip.value = (true, c.silenced.playNext.value) := by simp [skip, hskip]
        simp only [respond, Noted.value_bind, hvalue]
        obtain ⟨s, hready⟩ := h.ready_silenced hturn
        exact .skipped hturn hskip (moved_playNext hready)
  | exit =>
    cases hs : c.session with
    | none =>
      have hvalue : c.exit.value = c := by simp [exit, isActive, hs]
      simp only [respond, Noted.value_bind, hvalue]
      exact .idle hs
    | some s =>
      have hvalue : c.exit.value = c.ended .requested := by simp [exit, isActive, hs, finish]
      simp only [respond, Noted.value_bind, hvalue]
      exact .ended hs
  | drain => exact .drained
  | write change => exact .written change
  | replace world => exact .replaced world

/-! ## Every run is coherent -/

theorem coherent_of_elapsed (he : Elapsed c c') (h : Coherent c) : Coherent c' := by
  induction he with
  | still => exact h
  | credited hturn timer =>
    -- with a line on screen a conversation neither is idle nor awaits a choice
    refine ⟨h.idle_iff, fun hphase => ?_, h.awaiting_iff, fun hphase => ?_, ?_, h.sound, h.lists⟩
    · exact absurd hphase (h.phase_ne hturn).1
    · exact absurd hphase (h.phase_ne hturn).2
    · intro hidle hawaiting
      obtain ⟨hsession, -, hmenu, hlineup⟩ := h.playing hidle hawaiting
      exact ⟨hsession, rfl, hmenu, hlineup⟩
  | moved hturn hm _ ih =>
    obtain ⟨s, hready⟩ := h.ready_silenced hturn
    exact ih (coherent_of_moved hm hready)

/-- Neither the world nor the events have a part in coherence. -/
theorem Coherent.congr (h : Coherent c) (world : World) (events : List Event) :
    Coherent { c with world := world, events := events } where
  idle_iff := h.idle_iff
  fresh_of_idle := fun hphase => by
    rw [h.fresh_of_idle hphase]
    rfl
  awaiting_iff := h.awaiting_iff
  awaiting := h.awaiting
  playing := h.playing
  sound := h.sound
  lists := h.lists

theorem coherent_of_response {request : Request} {answer : Answer}
    (hr : Response c request answer c') (h : Coherent c) : Coherent c' := by
  cases hr with
  | began hs hnode hm => exact coherent_of_moved hm (h.ready_begun hs _ hnode)
  | picked hphase _ hs hnode hchoice hm =>
    exact coherent_of_moved hm (h.ready_picked hphase hs hnode hchoice)
  | elapsed he => exact coherent_of_elapsed he h
  | skipped hturn _ hm =>
    obtain ⟨s, hready⟩ := h.ready_silenced hturn
    exact coherent_of_moved hm hready
  | ended => exact coherent_ended _ _
  | drained => exact h.congr c.world []
  | written change => exact h.congr (c.world.apply change) c.events
  | replaced world => exact h.congr world c.events
  | alreadyActive | unknownEntry | invalidChoice | ignored | kept | idle => exact h

theorem coherent_respond (h : Coherent c) (request : Request) :
    Coherent (c.respond request).value.2 := coherent_of_response (response h request) h

/-- A coherent conversation stays coherent. -/
theorem Coherent.after (h : Coherent c) (requests : List Request) :
    Coherent (c.after requests) := by
  induction requests generalizing c with
  | nil => exact h
  | cons request rest ih => exact ih (coherent_respond h request)

/-- A conversation that a run from the beginning comes to. -/
def Reached (c : Conversation) : Prop :=
  ∃ world pacing requests, c = (fresh world pacing).after requests

theorem Reached.coherent (h : Reached c) : Coherent c := by
  obtain ⟨world, pacing, requests, rfl⟩ := h
  exact (coherent_fresh world pacing).after requests

/-- **Every run is coherent**: whatever is asked of a fresh conversation, over whatever dialogues
and with whatever done to the world in between, its fields agree afterwards. -/
theorem coherent_after_fresh (world : World) (pacing : Pacing) (requests : List Request) :
    Coherent ((fresh world pacing).after requests) :=
  (coherent_fresh world pacing).after requests

end Conversation

end Colloquy
