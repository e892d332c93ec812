import Colloquy.Proofs.Conversation.Coherence

/-!
# The protocol of events

Whoever presents a conversation follows its events, and may rely on their order: a menu goes up
only when none is up, comes down once, and nothing is said after the end. `Position.step` is that
order as an automaton. Where the automaton stands after all events of a run is a function of the
phase (`Phase.position`), so nothing but the events is needed to know the phase between requests.
The automaton also refuses an empty menu, and an ending by choice or by a missing node that no
choice led to. That a node that is entered is one of the dialogue is said beside it, since events do
not name the dialogue.
-/

namespace Colloquy

/-- Where the presentation of conversations stands. -/
inductive Position where
  /-- Nobody is talking. -/
  | out
  /-- A conversation began and no node was entered yet. -/
  | opening
  /-- A node was entered. -/
  | talking
  /-- A menu is up. -/
  | menu
  /-- A menu came down. -/
  | picked
  deriving DecidableEq, Repr

namespace Position

/-- Where an event leads, if it may come. -/
def step : Position → Event → Option Position
  | .out, .started _ => some .opening
  | .opening, .nodeEntered _ => some .talking
  | .talking, .line _ => some .talking
  | .talking, .optionsShown items => if items = [] then none else some .menu
  | .talking, .ended reason =>
    if reason = .exited ∨ reason = .missingNode then none else some .out
  | .menu, .optionsHidden => some .picked
  | .picked, .line _ => some .picked
  | .picked, .nodeEntered _ => some .talking
  | .picked, .optionsShown items => if items = [] then none else some .menu
  | .picked, .ended _ => some .out
  | _, _ => none

/-- Where events lead, if they may come in this order. -/
def run (p : Position) : List Event → Option Position
  | [] => some p
  | event :: rest => (p.step event).bind fun q => q.run rest

theorem run_append (p : Position) (first later : List Event) :
    p.run (first ++ later) = (p.run first).bind fun q => q.run later := by
  induction first generalizing p with
  | nil => rfl
  | cons event first ih =>
    simp only [List.cons_append, run, Option.bind_assoc]
    congr 1
    funext q
    exact ih q

end Position

/-- Where the presentation stands in a phase. -/
def Phase.position : Phase → Position
  | .idle => .out
  | .awaitingChoice => .menu
  | .playingIntro => .talking
  | .playingHeroLine | .playingNpcResponse => .picked

/-- Lines that are followed by a settled menu are those of a node. -/
theorem Lineup.position_of_offer {phase : Phase} {queue : List (Phase × Line)}
    {menu : List MenuItem} (h : Lineup phase queue (.offer menu)) : phase.position = .talking := by
  cases phase with
  | playingIntro => rfl
  | playingHeroLine | playingNpcResponse => exact h.2.elim
  | idle | awaitingChoice => exact h.elim

/-- Lines that are followed by a route are those of a choice. -/
theorem Lineup.position_of_isRoute {phase : Phase} {queue : List (Phase × Line)}
    {next : Continuation} (h : Lineup phase queue next) (hroute : next.IsRoute) :
    phase.position = .picked := by
  cases phase with
  | playingIntro =>
    obtain ⟨-, menu, rfl⟩ := h
    exact hroute.elim
  | playingHeroLine | playingNpcResponse => rfl
  | idle | awaitingChoice => exact h.elim

namespace Conversation

variable {c c' : Conversation} {s : Session}

/-- Where the presentation may stand when a conversation is about to move on. -/
inductive Stands (c : Conversation) : Position → Prop where
  /-- The lines are those of a node. -/
  | talking {menu : List MenuItem} (hnext : c.next = .offer menu) : Stands c .talking
  /-- The lines are those of a choice. -/
  | picked (hnext : c.next.IsRoute) : Stands c .picked
  /-- The first node is about to be entered. -/
  | opening {s : Session} {key : String} (hsession : c.session = some s) (hqueue : c.queue = [])
      (hnext : c.next = .enter key) (hknown : s.graph.contains key = true) : Stands c .opening

/-- A line on screen stands where its phase does. -/
theorem Coherent.stands_silenced (h : Coherent c) {turn : Turn} (hturn : c.turn = some turn) :
    Stands c.silenced c.phase.position := by
  obtain ⟨hidle, hawaiting⟩ := h.phase_ne hturn
  obtain ⟨-, -, -, hlineup⟩ := h.playing hidle hawaiting
  have hnext : c.silenced.next = c.next := rfl
  cases hcase : c.next with
  | offer menu =>
    rw [hcase] at hlineup
    rw [hlineup.position_of_offer]
    exact .talking (hnext.trans hcase)
  | showOptions | enter | exit =>
    rw [hcase] at hlineup
    rw [hlineup.position_of_isRoute trivial]
    exact .picked (by rw [hnext, hcase]; trivial)

/-- Events that follow events of a dialogue: they may come in this order, and the nodes they name
are nodes of the dialogue. -/
structure Follows (graph : Graph) (p q : Position) (news : List Event) : Prop where
  run : p.run news = some q
  known : ∀ key, Event.nodeEntered key ∈ news → graph.contains key = true

theorem Follows.nil (graph : Graph) (p : Position) : Follows graph p p [] :=
  ⟨rfl, fun _ h => absurd h List.not_mem_nil⟩

theorem Follows.append {graph : Graph} {p q r : Position} {first later : List Event}
    (h : Follows graph p q first) (h' : Follows graph q r later) :
    Follows graph p r (first ++ later) where
  run := by rw [Position.run_append, h.run, Option.bind_some, h'.run]
  known := by
    intro key hkey
    rcases List.mem_append.1 hkey with hkey | hkey
    · exact h.known key hkey
    · exact h'.known key hkey

/-- One event that enters no node. -/
theorem Follows.single {graph : Graph} {p q : Position} {event : Event}
    (hstep : p.step event = some q) (hnode : ∀ key, event ≠ .nodeEntered key) :
    Follows graph p q [event] where
  run := by rw [Position.run, hstep]; rfl
  known := by
    intro key hkey
    exact absurd (List.mem_singleton.1 hkey).symm (hnode key)

/-- One event that enters a node. -/
theorem Follows.entering {graph : Graph} {p q : Position} {key : String}
    (hstep : p.step (.nodeEntered key) = some q) (hknown : graph.contains key = true) :
    Follows graph p q [.nodeEntered key] where
  run := by rw [Position.run, hstep]; rfl
  known := by
    intro other hother
    obtain rfl : other = key := by simpa using hother
    exact hknown

/-! ## What a move tells -/

/-- A menu that lies ahead lies behind lines of a node or of a choice. -/
theorem Stands.step_of_menuAhead {p : Position} (hp : Stands c p) {menu : List MenuItem}
    (hmenu : c.menuAhead = some menu) :
    (menu ≠ [] → p.step (.optionsShown menu) = some .menu) ∧
      p.step (.ended .deadEnd) = some .out := by
  cases hp with
  | talking | picked => exact ⟨fun hne => by simp [Position.step, hne], rfl⟩
  | opening _ _ hnext => simp [menuAhead, hnext] at hmenu

/-- **What a move tells follows what was told before**, and leads to where the new phase stands. -/
theorem follows_of_moved (hm : Moved c c') (h : Ready c s) {p : Position} (hp : Stands c p) :
    ∃ news, c'.events = c.events ++ news ∧ Follows s.graph p c'.phase.position news := by
  -- a line, a menu or an end is one event; an arrival is one event in front of another move
  induction hm generalizing s p with
  | @line c phase line rest hqueue =>
    have hlineup : Lineup phase rest c.next := h.linedUp phase line rest hqueue
    refine ⟨[.line line], rfl, ?_⟩
    cases hp with
    | talking hnext =>
      have hphase : phase.position = .talking := (hnext ▸ hlineup).position_of_offer
      exact .single (by rw [play, hphase]; rfl) (fun _ => Event.noConfusion)
    | picked hroute =>
      have hphase : phase.position = .picked := hlineup.position_of_isRoute hroute
      exact .single (by rw [play, hphase]; rfl) (fun _ => Event.noConfusion)
    | opening _ hnil =>
      rw [hnil] at hqueue
      cases hqueue
  | menu _ hmenu hne =>
    exact ⟨_, rfl, .single ((hp.step_of_menuAhead hmenu).1 hne) (fun _ => Event.noConfusion)⟩
  | deadEnd _ hmenu =>
    exact ⟨_, h.events_ended _, .single (hp.step_of_menuAhead hmenu).2 (fun _ => Event.noConfusion)⟩
  | @arrival c c' t key node hqueue hsession hnext hnode _ ih =>
    obtain rfl : s = t := Option.some.inj (h.session.symm.trans hsession)
    have hknown : s.graph.contains key = true := by rw [TextMap.contains, hnode]; rfl
    obtain ⟨news, hnews, hfollows⟩ := ih (h.arrive hqueue hnode) (.talking rfl)
    -- entering the node is told first, then what comes of moving on from there
    refine ⟨.nodeEntered key :: news, ?_, ?_⟩
    · rw [hnews]
      simp [Conversation.arrive]
    · have hentering : Follows s.graph p .talking [.nodeEntered key] := by
        cases hp with
        | talking hoffer => simp [hnext] at hoffer
        | picked | opening => exact .entering rfl hknown
      exact hentering.append hfollows
  | @missing c t key _ hsession hnext hnode =>
    obtain rfl : s = t := Option.some.inj (h.session.symm.trans hsession)
    refine ⟨_, h.events_ended _, .single ?_ (fun _ => Event.noConfusion)⟩
    cases hp with
    | talking hoffer => simp [hnext] at hoffer
    | picked => rfl
    | @opening t key' hsession' _ hnext' hknown =>
      obtain rfl : s = t := Option.some.inj (h.session.symm.trans hsession')
      obtain rfl : key = key' := Continuation.enter.inj (hnext.symm.trans hnext')
      simp [TextMap.contains, hnode] at hknown
  | exited _ hnext =>
    refine ⟨_, h.events_ended _, .single ?_ (fun _ => Event.noConfusion)⟩
    cases hp with
    | talking hoffer => simp [hnext] at hoffer
    | picked => rfl
    | opening _ _ henter => simp [hnext] at henter

/-- What a line tells on its way out. -/
theorem Coherent.follows_of_moved (h : Coherent c) {turn : Turn} (hturn : c.turn = some turn)
    (hs : c.session = some s) (hm : Moved c.silenced c') :
    ∃ news, c'.events = c.events ++ news ∧
      Follows s.graph c.phase.position c'.phase.position news := by
  obtain ⟨t, hready⟩ := h.ready_silenced hturn
  obtain rfl : s = t := Option.some.inj (hs.symm.trans hready.session)
  exact Conversation.follows_of_moved hm hready (h.stands_silenced hturn)

/-- What is told while time passes. -/
theorem follows_of_elapsed (he : Elapsed c c') (h : Coherent c) (hs : c.session = some s) :
    ∃ news, c'.events = c.events ++ news ∧
      Follows s.graph c.phase.position c'.phase.position news := by
  induction he generalizing s with
  | still => exact ⟨[], by simp, .nil _ _⟩
  | credited => exact ⟨[], by simp, .nil _ _⟩
  | @moved c c₁ c' turn hturn hm he ih =>
    obtain ⟨t, hready⟩ := h.ready_silenced hturn
    have hcoherent : Coherent c₁ := coherent_of_moved hm hready
    obtain ⟨news, hnews, hfollows⟩ := h.follows_of_moved hturn hs hm
    cases hs₁ : c₁.session with
    | none =>
      -- the conversation is over, so no more time is spent on it
      have hfresh := hcoherent.fresh_of_idle (hcoherent.idle_iff.2 hs₁)
      cases he with
      | still => exact ⟨news, hnews, hfollows⟩
      | credited hturn₁ | moved hturn₁ =>
        rw [hfresh] at hturn₁
        cases hturn₁
    | some s₁ =>
      obtain ⟨later, hlater, hfollows'⟩ := ih hcoherent hs₁
      obtain ⟨-, hgraph⟩ := same_of_moved hm (hs : c.silenced.session = some s) hs₁
      rw [hgraph] at hfollows'
      exact ⟨news ++ later, by rw [hlater, hnews, List.append_assoc], hfollows.append hfollows'⟩

/-! ## What a request tells -/

/-- The dialogue that is talked about while a request is answered. -/
def topic (c : Conversation) (request : Request) : Option Graph :=
  match c.session, request with
  | some s, _ => some s.graph
  | none, .enterAt _ graph _ => some graph
  | none, _ => none

/-- What a request tells: it follows what was told before, it leads to where the new phase stands,
and the nodes it names are nodes of the dialogue that is talked about. -/
structure Tells (c : Conversation) (request : Request) (c' : Conversation) (news : List Event) :
    Prop where
  run : c.phase.position.run news = some c'.phase.position
  known : ∀ key, Event.nodeEntered key ∈ news →
    ∃ graph, c.topic request = some graph ∧ graph.contains key = true

theorem Tells.of_follows {request : Request} {graph : Graph} {news : List Event}
    (htopic : c.topic request = some graph)
    (h : Follows graph c.phase.position c'.phase.position news) : Tells c request c' news :=
  ⟨h.run, fun key hkey => ⟨graph, htopic, h.known key hkey⟩⟩

/-- A request that leaves the phase alone may tell nothing. -/
theorem Tells.nothing {request : Request} (hphase : c'.phase = c.phase) : Tells c request c' [] :=
  ⟨by rw [hphase]; rfl, fun _ hkey => absurd hkey List.not_mem_nil⟩

theorem topic_of_session (hs : c.session = some s) (request : Request) :
    c.topic request = some s.graph := by
  simp [topic, hs]

/-- Ending a conversation from outside takes the menu down first, if it is up. -/
theorem follows_ended (h : Coherent c) (hs : c.session = some s) :
    ∃ news, (c.ended .requested).events = c.events ++ news ∧
      Follows s.graph c.phase.position .out news := by
  have hended : Follows s.graph .picked .out [.ended .requested] :=
    .single rfl (fun _ => Event.noConfusion)
  by_cases hmenu : c.menu = []
  · refine ⟨[.ended .requested], by simp [ended, hmenu], ?_⟩
    have hawaiting : c.phase ≠ .awaitingChoice := fun hphase => h.awaiting_iff.1 hphase hmenu
    have hidle : c.phase ≠ .idle := fun hphase => by simp [h.idle_iff.1 hphase] at hs
    cases hphase : c.phase with
    | idle => exact absurd hphase hidle
    | awaitingChoice => exact absurd hphase hawaiting
    | playingIntro => exact .single rfl (fun _ => Event.noConfusion)
    | playingHeroLine | playingNpcResponse => exact hended
  · refine ⟨[.optionsHidden, .ended .requested], by simp [ended, hmenu], ?_⟩
    rw [h.awaiting_iff.2 hmenu]
    have hhidden : Follows s.graph .menu .picked [.optionsHidden] :=
      .single rfl (fun _ => Event.noConfusion)
    exact hhidden.append hended

/-- **What a request tells follows what was told before.** -/
theorem tells_of_response {request : Request} {answer : Answer}
    (hr : Response c request answer c') (h : Coherent c) :
    ∃ news, answer.taken ++ c'.events = c.events ++ news ∧ Tells c request c' news := by
  cases hr with
  | @began npc graph node _ hs hnode hm =>
    have hready := h.ready_begun hs npc hnode
    have hqueue : (c.begun npc graph node).queue = [] := by
      rw [h.fresh_of_idle (h.idle_iff.2 hs)]
      rfl
    obtain ⟨news, hnews, hfollows⟩ :=
      Conversation.follows_of_moved hm hready (.opening rfl hqueue rfl hnode)
    have hstarted : Follows graph c.phase.position .opening [.started npc] := by
      rw [h.idle_iff.2 hs]
      exact .single rfl (fun _ => Event.noConfusion)
    have htopic : c.topic (.enterAt npc graph node) = some graph := by
      simp [topic, hs]
    refine ⟨.started npc :: news, ?_, .of_follows htopic (hstarted.append hfollows)⟩
    simp [Answer.taken, hnews, begun]
  | @picked place item s node choice _ hphase _ hs hnode hchoice hm =>
    have hready := h.ready_picked hphase hs hnode hchoice
    obtain ⟨news, hnews, hfollows⟩ :=
      Conversation.follows_of_moved hm hready (.picked (isRoute_destination choice))
    have hhidden : Follows s.graph c.phase.position .picked [.optionsHidden] := by
      rw [hphase]
      exact .single rfl (fun _ => Event.noConfusion)
    refine ⟨.optionsHidden :: news, ?_, .of_follows (topic_of_session hs _)
      (hhidden.append hfollows)⟩
    simp [Answer.taken, hnews, Conversation.picked]
  | elapsed he =>
    cases hs : c.session with
    | some s =>
      obtain ⟨news, hnews, hfollows⟩ := follows_of_elapsed he h hs
      exact ⟨news, hnews, .of_follows (topic_of_session hs _) hfollows⟩
    | none =>
      have hturn : c.turn = none := by
        rw [h.fresh_of_idle (h.idle_iff.2 hs)]
        rfl
      cases he with
      | still => exact ⟨[], by simp [Answer.taken], .nothing rfl⟩
      | credited hturn' | moved hturn' => cases hturn.symm.trans hturn'
  | skipped hturn _ hm =>
    obtain ⟨s, hready⟩ := h.ready_silenced hturn
    have hs : c.session = some s := hready.session
    obtain ⟨news, hnews, hfollows⟩ := h.follows_of_moved hturn hs hm
    exact ⟨news, hnews, .of_follows (topic_of_session hs _) hfollows⟩
  | ended hs =>
    obtain ⟨news, hnews, hfollows⟩ := follows_ended h hs
    exact ⟨news, hnews, .of_follows (topic_of_session hs _) hfollows⟩
  | drained => exact ⟨[], by simp [Answer.taken], .nothing rfl⟩
  | alreadyActive | unknownEntry | invalidChoice | ignored | kept | idle | written | replaced =>
    exact ⟨[], by simp [Answer.taken], .nothing rfl⟩

theorem tells_respond (h : Coherent c) (request : Request) :
    ∃ news, (c.respond request).value.1.taken ++ (c.respond request).value.2.events =
      c.events ++ news ∧ Tells c request (c.respond request).value.2 news :=
  tells_of_response (response h request) h

/-! ## Whole runs -/

/-- What a run tells, whether taken on the way or not, comes behind what was told before it. -/
theorem run_told (h : Coherent c) (requests : List Request) :
    ∃ news, c.told requests = c.events ++ news ∧
      c.phase.position.run news = some (c.after requests).phase.position := by
  induction requests generalizing c with
  | nil => exact ⟨[], by simp, rfl⟩
  | cons request rest ih =>
    obtain ⟨first, hfirst, htells⟩ := tells_respond h request
    obtain ⟨later, hlater, hrun⟩ := ih (coherent_respond h request)
    refine ⟨first ++ later, ?_, ?_⟩
    · rw [told_cons, hlater, ← List.append_assoc, hfirst, List.append_assoc]
    · rw [Position.run_append, htells.run, Option.bind_some, after_cons, hrun]

/-- More requests tell what they tell by themselves. -/
theorem told_append (c : Conversation) (first later : List Request) :
    ∃ taken, c.told first = taken ++ (c.after first).events ∧
      c.told (first ++ later) = taken ++ (c.after first).told later := by
  induction first generalizing c with
  | nil => exact ⟨[], rfl, rfl⟩
  | cons request rest ih =>
    obtain ⟨taken, hrest, happend⟩ := ih (c.respond request).value.2
    refine ⟨(c.respond request).value.1.taken ++ taken, ?_, ?_⟩
    · rw [told_cons, hrest, after_cons, List.append_assoc]
    · rw [List.cons_append, told_cons, happend, after_cons, List.append_assoc]

/-- One more request tells what it tells by itself. -/
theorem told_snoc (c : Conversation) (requests : List Request) (request : Request) :
    ∃ taken, c.told requests = taken ++ (c.after requests).events ∧
      c.told (requests ++ [request]) = taken ++
        (((c.after requests).respond request).value.1.taken ++
          ((c.after requests).respond request).value.2.events) := by
  obtain ⟨taken, htold, happend⟩ := c.told_append requests [request]
  exact ⟨taken, htold, by rw [happend, told_cons, told_nil]⟩

/-- **Every run keeps to the protocol.** The automaton accepts all events of a run, however they are
taken, and stands where the phase does; and whatever is asked next, each node that is entered then
is a node of the dialogue that is talked about. -/
theorem told_keeps_protocol (world : World) (pacing : Pacing) (requests : List Request) :
    Position.out.run ((fresh world pacing).told requests) =
        some ((fresh world pacing).after requests).phase.position ∧
      ∀ request, ∃ news,
        (fresh world pacing).told (requests ++ [request]) =
          (fresh world pacing).told requests ++ news ∧
        ∀ key, Event.nodeEntered key ∈ news →
          ∃ graph, ((fresh world pacing).after requests).topic request = some graph ∧
            graph.contains key = true := by
  have hfresh := coherent_fresh world pacing
  constructor
  · obtain ⟨news, htold, hrun⟩ := run_told hfresh requests
    rw [htold]
    exact hrun
  · intro request
    obtain ⟨news, hnews, htells⟩ := tells_respond (hfresh.after requests) request
    -- events that were taken on the way are no longer in the conversation, so both runs are split
    obtain ⟨taken, htold, hsnoc⟩ := told_snoc (fresh world pacing) requests request
    exact ⟨news, by rw [hsnoc, hnews, htold, List.append_assoc], htells.known⟩

end Conversation

end Colloquy
