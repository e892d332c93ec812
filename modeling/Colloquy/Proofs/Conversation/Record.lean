import Colloquy.Proofs.Conversation.Menu

/-!
# Records — conversations that agree with their chronicle

What a conversation keeps for later, the menu behind the lines of a node or the way on from a
choice, can be read off its chronicle. `Recorded` says so of a conversation between two requests and
`Poised` of one that is about to move on; every move and every response keeps it (`recorded_after`).
So whatever a request tells beside lines fits what is due (`Continues.unfolds`).
-/

namespace Colloquy

namespace Conversation

variable {c c' : Conversation} {s t : Session} {h : Chronicle} {last : Option Pick}

/-! ## Conversations that agree with their chronicle -/

/-- A conversation that plays lines agrees with its chronicle: the lines are those of the node that
was entered and the menu behind them is settled, or they are those of the choice that was picked and
lead where it leads, or the first node is about to be entered. -/
inductive Poised (c : Conversation) (s : Session) (h : Chronicle) (last : Option Pick) : Prop where
  | entered {menu : List MenuItem} {w : World} (hnext : c.next = .offer menu)
      (hjuncture : h.juncture = some (.nodeEntered s.node, w)) (hsettles : s.Settles w menu)
  | chosen {p : Pick} {w : World} (hnext : c.next = destination p.choice)
      (hjuncture : h.juncture = some (.optionsHidden, w)) (hlast : last = some p)
      (hnode : p.node = s.node)
  | opening {key npc : String} {w : World} (hnext : c.next = .enter key)
      (hjuncture : h.juncture = some (.started npc, w))

/-- A conversation agrees with its chronicle. -/
structure Recorded (c : Conversation) (h : Chronicle) (last : Option Pick) : Prop where
  /-- The line on screen was told last, and what is to follow was settled as the chronicle says. -/
  playing : ∀ turn, c.turn = some turn → (∃ w, h.getLast? = some (.line turn.line, w)) ∧
    ∃ s, c.session = some s ∧ Poised c s h last
  /-- The menu that is up was told last, and the world that the chronicle names settles it. -/
  awaiting : c.phase = .awaitingChoice → ∃ s before now w, c.session = some s ∧
    h = before ++ [(.optionsShown c.menu, now)] ∧
    Snapshot before last now s.node w ∧ s.Settles w c.menu
  /-- Nothing is due when nobody is talked to. -/
  idle : c.phase = .idle → ∀ s now menu, ¬ Due s h last now menu

/-- A choice leads to the menu of its node just when it neither ends the conversation nor names
another node. -/
theorem destination_eq_showOptions {choice : Choice} :
    destination choice = .showOptions ↔ choice.exit = false ∧ choice.nextNode = none := by
  unfold destination
  cases choice.exit <;> cases choice.nextNode <;> simp

/-- **The menu that lies ahead is the one that the chronicle settles.** -/
theorem Poised.settles (hp : Poised c s h last) (hs : c.session = some s) {menu : List MenuItem}
    (hmenu : c.menuAhead = some menu) :
    ∃ w, Snapshot h last c.world s.node w ∧ s.Settles w menu := by
  cases hp with
  | entered hnext hjuncture hsettles =>
    obtain rfl : _ = menu := by simpa [menuAhead, hnext] using hmenu
    exact ⟨_, .entered hjuncture, hsettles⟩
  | @chosen p _ hnext hjuncture hlast hnode =>
    -- of the ways on from a choice, only staying has a menu ahead
    have hstays : destination p.choice = .showOptions := by
      have hroute := isRoute_destination p.choice
      cases hdest : destination p.choice with
      | showOptions => rfl
      | offer => rw [hdest] at hroute; exact hroute.elim
      | enter | exit => simp [menuAhead, hnext, hdest] at hmenu
    have hmenu? : s.menu? c.world = some menu := by
      simpa [menuAhead, hnext, hstays, hs] using hmenu
    obtain ⟨hexit, hnextNode⟩ := destination_eq_showOptions.1 hstays
    exact ⟨_, hnode ▸ .stayed hjuncture hlast hexit hnextNode, Session.settles_menu? hmenu?⟩
  | opening hnext => simp [menuAhead, hnext] at hmenu

/-- So it is due, also by the session at the outset, from which only the node may differ. -/
theorem Poised.due (hp : Poised c s h last) (hs : c.session = some s)
    (hst : ∀ node, ({ s with node := node } : Session) = { t with node := node })
    {menu : List MenuItem} (hmenu : c.menuAhead = some menu) : Due t h last c.world menu := by
  obtain ⟨w, hsnapshot, hsettles⟩ := hp.settles hs hmenu
  have hs' : ({ s with node := s.node } : Session).Settles w menu := hsettles
  exact ⟨s.node, w, hsnapshot, hst s.node ▸ hs'⟩

/-- No menu is due on the way to a node or to the end. -/
theorem Poised.not_due (hp : Poised c s h last) (hahead : c.menuAhead = none)
    (hnext : c.next ≠ .showOptions) {now : World} {menu : List MenuItem} :
    ¬ Due t h last now menu := by
  cases hp with
  | entered hoffer => simp [menuAhead, hoffer] at hahead
  | @chosen p _ hchosen hjuncture hlast =>
    rintro ⟨node, w, hsnapshot, -⟩
    cases hsnapshot with
    | entered hj => simp [hjuncture] at hj
    | stayed _ hlast' hexit hnextNode =>
      obtain rfl := Option.some.inj (hlast.symm.trans hlast')
      exact hnext (hchosen.trans (destination_eq_showOptions.2 ⟨hexit, hnextNode⟩))
  | opening _ hjuncture => exact Colloquy.not_due (by simp [hjuncture]) (by simp [hjuncture])

/-- So what is told there neither is a menu nor tells that one is missing. -/
theorem Poised.fits (hp : Poised c s h last) (hahead : c.menuAhead = none)
    (hnext : c.next ≠ .showOptions) {event : Event} {now : World}
    (hdeadEnd : event ≠ .ended .deadEnd) (hshown : ∀ menu, event ≠ .optionsShown menu) :
    Fits t h last event now :=
  .of_not_due (fun _ => hp.not_due hahead hnext) hdeadEnd hshown

/-! ## What a request tells -/

/-- Entries that follow a chronicle, each of which fits what is due: lines always do, and an end
from outside may come at any time. -/
inductive Unfolds (s : Session) (last : Option Pick) : Chronicle → Chronicle → Prop where
  | nil {h : Chronicle} : Unfolds s last h []
  | cons {h rest : Chronicle} {event : Event} {now : World}
      (hfits : event.isLine = false → event ≠ .ended .requested → Fits s h last event now)
      (hrest : Unfolds s last (h ++ [(event, now)]) rest) : Unfolds s last h ((event, now) :: rest)

theorem Unfolds.append {first later : Chronicle} (hf : Unfolds s last h first)
    (hl : Unfolds s last (h ++ first) later) : Unfolds s last h (first ++ later) := by
  induction hf with
  | nil => simpa using hl
  | cons hfits _ ih => exact .cons hfits (ih (by simpa using hl))

theorem Unfolds.single {event : Event} {now : World}
    (hfits : event.isLine = false → event ≠ .ended .requested → Fits s h last event now) :
    Unfolds s last h [(event, now)] := .cons hfits .nil

theorem Unfolds.fits {before after : Chronicle} {event : Event} {now : World}
    (hu : Unfolds s last h (before ++ (event, now) :: after)) (hline : event.isLine = false)
    (hrequested : event ≠ .ended .requested) : Fits s (h ++ before) last event now := by
  induction before generalizing h with
  | nil =>
    cases hu with
    | cons hfits _ => simpa using hfits hline hrequested
  | cons entry before ih =>
    cases hu with
    | cons _ hrest => simpa using ih hrest

/-! ## What a move tells -/

theorem Poised.congr (hp : Poised c s h last) (hnext : c'.next = c.next) : Poised c' s h last := by
  cases hp with
  | entered ho hj hsettles => exact .entered (hnext.trans ho) hj hsettles
  | chosen ho hj hlast hnode => exact .chosen (hnext.trans ho) hj hlast hnode
  | opening ho hj => exact .opening (hnext.trans ho) hj

/-- One more line does not change what the chronicle says of the menu to come. -/
theorem Poised.line (hp : Poised c s h last) (line : Line) (w : World) :
    Poised c s (h ++ [(.line line, w)]) last := by
  have hline := Chronicle.juncture_line h line w
  cases hp with
  | entered hnext hj hsettles => exact .entered hnext (hline.trans hj) hsettles
  | chosen hnext hj hlast hnode => exact .chosen hnext (hline.trans hj) hlast hnode
  | opening hnext hj => exact .opening hnext (hline.trans hj)

/-- A conversation that has ended agrees with a chronicle that ends so. -/
theorem recorded_ended (c : Conversation) (reason : EndReason) (w : World) :
    Recorded (c.ended reason) (h ++ [(.ended reason, w)]) last where
  playing := fun _ hturn => by cases hturn
  awaiting := fun hphase => by cases hphase
  idle := fun _ _ _ _ => not_due_snoc rfl (fun _ => Event.noConfusion) Event.noConfusion

/-- **What a move tells fits what is due**, and the conversation agrees with its chronicle again. -/
theorem recorded_of_moved (hm : Moved c c') (hr : Ready c s)
    (hst : ∀ node, ({ s with node := node } : Session) = { t with node := node })
    (hp : Poised c s h last) :
    ∃ news, c'.events = c.events ++ news ∧
      Recorded c' (h ++ Chronicle.within c.world news) last ∧
      Unfolds t last h (Chronicle.within c.world news) := by
  -- a line, a menu or an end is one entry; an arrival is one entry in front of another move
  induction hm generalizing s h with
  | @line c phase line rest hqueue =>
    obtain ⟨hidle, hawaiting⟩ := Lineup.phase_ne (hr.linedUp phase line rest hqueue)
    refine ⟨[.line line], rfl, ⟨?_, fun hphase => absurd hphase hawaiting,
      fun hphase => absurd hphase hidle⟩, .single fun hline => by cases hline⟩
    rintro turn ⟨rfl⟩
    exact ⟨⟨c.world, by simp [Chronicle.within]⟩, s, hr.session, (hp.line line c.world).congr rfl⟩
  | @menu c menu hqueue hmenu hne =>
    obtain ⟨w, hsnapshot, hsettles⟩ := hp.settles hr.session hmenu
    refine ⟨[.optionsShown menu], rfl, ⟨fun turn hturn => ?_, fun _ => ?_, fun hphase => ?_⟩,
      .single fun _ _ => .shown (hp.due hr.session hst hmenu) hne⟩
    · cases hr.turn.symm.trans hturn
    · exact ⟨s, h, c.world, w, hr.session, rfl, hsnapshot, hsettles⟩
    · cases hphase
  | deadEnd _ hmenu =>
    exact ⟨_, hr.events_ended _, recorded_ended _ _ _,
      .single fun _ _ => .deadEnd (hp.due hr.session hst hmenu)⟩
  | @arrival c c' s' key node hqueue hsession hnext hnode _ ih =>
    obtain rfl : s = s' := Option.some.inj (hr.session.symm.trans hsession)
    have hjuncture := Chronicle.juncture_snoc h (.nodeEntered key) rfl c.world
    have hsettles : ({ s with node := key } : Session).Settles c.world
        ((({ s with node := key } : Session).menu? c.world).getD []) := by
      obtain ⟨menu, hmenu⟩ := Option.isSome_iff_exists.1 ((hr.sound.goTo hnode).menu?_isSome c.world)
      rw [hmenu]
      exact Session.settles_menu? hmenu
    obtain ⟨news, hnews, hrecorded, hunfolds⟩ :=
      ih (hr.arrive hqueue hnode) hst (.entered rfl hjuncture hsettles)
    have hworld : (c.arrive s key node).world = c.world := rfl
    rw [hworld] at hrecorded hunfolds
    refine ⟨.nodeEntered key :: news, ?_, ?_, .cons (fun _ _ => ?_) hunfolds⟩
    · rw [hnews]
      simp [Conversation.arrive]
    · simpa [Chronicle.within] using hrecorded
    · exact hp.fits (by simp [menuAhead, hnext]) (by simp [hnext]) Event.noConfusion
        (fun _ => Event.noConfusion)
  | @missing c s' key _ hsession hnext hnode =>
    refine ⟨_, hr.events_ended _, recorded_ended _ _ _, .single fun _ _ => ?_⟩
    exact hp.fits (by simp [menuAhead, hnext]) (by simp [hnext]) (by simp)
      (fun _ => Event.noConfusion)
  | @exited c _ hnext =>
    refine ⟨_, hr.events_ended _, recorded_ended _ _ _, .single fun _ _ => ?_⟩
    exact hp.fits (by simp [menuAhead, hnext]) (by simp [hnext]) (by simp)
      (fun _ => Event.noConfusion)

/-- A move stays with the character, the dialogue and the picks. -/
theorem session_of_moved (hm : Moved c c') (hs : c.session = some s) {s' : Session}
    (hs' : c'.session = some s') (node : String) :
    ({ s' with node := node } : Session) = { s with node := node } := by
  induction hm generalizing s with
  | line | menu =>
    obtain rfl : s = s' := Option.some.inj (hs.symm.trans hs')
    rfl
  | @arrival c c' s₁ key _ _ hsession _ _ _ ih =>
    obtain rfl : s = s₁ := Option.some.inj (hs.symm.trans hsession)
    exact ih (s := { s with node := key }) rfl hs'
  | deadEnd | missing | exited => cases hs'

/-- What is told while time passes fits what is due. -/
theorem recorded_of_elapsed (he : Elapsed c c') (hc : Coherent c) (hr : Recorded c h last)
    (hst : ∀ s, c.session = some s → ∀ node,
      ({ s with node := node } : Session) = { t with node := node }) :
    ∃ news, c'.events = c.events ++ news ∧
      Recorded c' (h ++ Chronicle.within c.world news) last ∧
      Unfolds t last h (Chronicle.within c.world news) := by
  induction he generalizing h with
  | still => exact ⟨[], by simp, by simpa using hr, .nil⟩
  | @credited c turn hturn timer =>
    obtain ⟨hidle, hawaiting⟩ := hc.phase_ne hturn
    refine ⟨[], by simp, ?_, .nil⟩
    rw [Chronicle.within_nil, List.append_nil]
    refine ⟨?_, fun hphase => absurd hphase hawaiting, fun hphase => absurd hphase hidle⟩
    rintro turn' ⟨rfl⟩
    obtain ⟨hlast, s, hs, hp⟩ := hr.playing turn hturn
    exact ⟨hlast, s, hs, hp.congr rfl⟩
  | @moved c c₁ c' turn hturn hm _ ih =>
    obtain ⟨s, hready⟩ := hc.ready_silenced hturn
    obtain ⟨-, s', hs', hp⟩ := hr.playing turn hturn
    obtain rfl : s = s' := Option.some.inj (hready.session.symm.trans hs')
    obtain ⟨first, hfirst, hrecorded, hunfolds⟩ :=
      recorded_of_moved hm hready (hst s hs') (hp.congr rfl)
    have hst₁ : ∀ s₁, c₁.session = some s₁ → ∀ node,
        ({ s₁ with node := node } : Session) = { t with node := node } :=
      fun s₁ hs₁ node => (session_of_moved hm hready.session hs₁ node).trans (hst s hs' node)
    obtain ⟨later, hlater, hrecorded', hunfolds'⟩ :=
      ih (coherent_of_moved hm hready) hrecorded hst₁
    have hworld : c₁.world = c.silenced.world := world_of_moved hm
    have hevents : c.silenced.events = c.events := rfl
    rw [hworld] at hrecorded' hunfolds'
    rw [hevents] at hfirst
    refine ⟨first ++ later, by rw [hlater, hfirst, List.append_assoc], ?_, ?_⟩
    · rw [Chronicle.within_append, ← List.append_assoc]
      exact hrecorded'
    · rw [Chronicle.within_append]
      exact hunfolds.append hunfolds'

/-! ## What a response tells -/

/-- The session in which a request is answered, with the pick that the request makes. -/
def party (c : Conversation) (request : Request) : Option Session :=
  match c.session, request with
  | some s, request => some ((c.pick? request).elim s fun p =>
    { s with used := s.used.mark p.node p.index })
  | none, .enterAt npc graph node => some { npc := npc, graph := graph, node := node }
  | none, _ => none

theorem party_of_session (hs : c.session = some s) {request : Request}
    (hpick : c.pick? request = none) : c.party request = some s := by
  simp [party, hs, hpick]

/-- Neither the world nor the events have a part in agreeing with a chronicle. -/
theorem Recorded.congr (hr : Recorded c h last) (world : World) (events : List Event) :
    Recorded { c with world := world, events := events } h last where
  playing := by
    intro turn hturn
    obtain ⟨hlast, s, hs, hp⟩ := hr.playing turn hturn
    exact ⟨hlast, s, hs, hp.congr rfl⟩
  awaiting := hr.awaiting
  idle := hr.idle

/-- While a menu is up, no other one is due. -/
theorem Recorded.not_due (hr : Recorded c h last) (hphase : c.phase = .awaitingChoice)
    {last' : Option Pick} {now : World} {menu : List MenuItem} : ¬ Due t h last' now menu := by
  obtain ⟨s, before, now', w, -, rfl, -⟩ := hr.awaiting hphase
  exact not_due_snoc rfl (fun _ => Event.noConfusion) Event.noConfusion

/-- What a request tells agrees with the chronicle so far, and the chronicle goes on with it. -/
structure Continues (c c' : Conversation) (request : Request) (answer : Answer) (h : Chronicle)
    (last : Option Pick) (news : List Event) : Prop where
  told : answer.taken ++ c'.events = c.events ++ news
  recorded : Recorded c' (h ++ Chronicle.within c'.world news) ((c.pick? request).or last)
  unfolds : ∀ s, c.party request = some s →
    Unfolds s ((c.pick? request).or last) h (Chronicle.within c'.world news)
  silent : c.party request = none → news = []

/-- A request that tells nothing and picks nothing. -/
theorem Continues.nothing {request : Request} {answer : Answer}
    (htold : answer.taken ++ c'.events = c.events) (hpick : c.pick? request = none)
    (hr : Recorded c' h last) : Continues c c' request answer h last [] where
  told := by rw [htold, List.append_nil]
  recorded := by simpa [hpick] using hr
  unfolds := fun _ _ => .nil
  silent := fun _ => rfl

/-- Time that passes, or a line that is cut short. -/
theorem Continues.passing {request : Request} {answer : Answer} {news : List Event}
    (hanswer : answer.taken = []) (hs : c.session = some s) (hpick : c.pick? request = none)
    (hworld : c'.world = c.world) (hevents : c'.events = c.events ++ news)
    (hr : Recorded c' (h ++ Chronicle.within c.world news) last)
    (hu : Unfolds s last h (Chronicle.within c.world news)) :
    Continues c c' request answer h last news where
  told := by rw [hanswer, hevents, List.nil_append]
  recorded := by simpa [hpick, hworld] using hr
  unfolds := by
    rintro t ht
    obtain rfl : s = t := Option.some.inj ((party_of_session hs hpick).symm.trans ht)
    simpa [hpick, hworld] using hu
  silent := fun hparty => by cases (party_of_session hs hpick).symm.trans hparty

theorem continues_began (hc : Coherent c) (hr : Recorded c h last) (hs : c.session = none)
    {npc : String} {graph : Graph} {node : String} (hnode : graph.contains node = true)
    (hm : Moved (c.begun npc graph node) c') :
    ∃ news, Continues c c' (.enterAt npc graph node) .done h last news := by
  have hidle := hc.idle_iff.2 hs
  have hjuncture := Chronicle.juncture_snoc h (.started npc) rfl c.world
  obtain ⟨news, hnews, hrecorded, hunfolds⟩ := recorded_of_moved hm (hc.ready_begun hs npc hnode)
    (fun _ => rfl) (.opening rfl hjuncture)
  have hworld : c'.world = c.world := (world_of_moved hm : c'.world = (c.begun npc graph node).world)
  have hbegun : (c.begun npc graph node).world = c.world := rfl
  rw [hbegun] at hrecorded hunfolds
  refine ⟨.started npc :: news, ?_, ?_, ?_, ?_⟩
  · simp [Answer.taken, hnews, begun]
  · simpa [Chronicle.within, pick?, hworld] using hrecorded
  · rintro t ht
    obtain rfl : _ = t := by simpa [party, hs] using ht
    rw [hworld]
    exact .cons (fun _ _ => .of_not_due (fun _ => hr.idle hidle _ _ _) Event.noConfusion
      fun _ => Event.noConfusion) hunfolds
  · simp [party, hs]

theorem continues_picked (hc : Coherent c) (hr : Recorded c h last)
    (hphase : c.phase = .awaitingChoice) {place : Nat} {item : MenuItem}
    (hitem : c.menu[place]? = some item) (hs : c.session = some s) {node : Node} {choice : Choice}
    (hnode : s.graph.get? s.node = some node) (hchoice : node.choices[item.index]? = some choice)
    (hm : Moved (c.picked s item.index choice) c') :
    ∃ news, Continues c c' (.select place) (.selected .accepted) h last news := by
  have hpick : c.pick? (.select place) = some ⟨s.npc, s.node, item.index, choice⟩ := by
    simp [pick?, hphase, hitem, hs, hnode, hchoice]
  have hparty : c.party (.select place) =
      some { s with used := s.used.mark s.node item.index } := by
    simp [party, hs, hpick]
  have hworld : c'.world = (c.picked s item.index choice).world := world_of_moved hm
  have hjuncture := Chronicle.juncture_snoc h .optionsHidden rfl c'.world
  obtain ⟨news, hnews, hrecorded, hunfolds⟩ := recorded_of_moved hm
    (hc.ready_picked hphase hs hnode hchoice) (fun _ => rfl)
    (.chosen (p := ⟨s.npc, s.node, item.index, choice⟩) rfl hjuncture rfl rfl)
  rw [← hworld] at hrecorded hunfolds
  refine ⟨.optionsHidden :: news, ?_, ?_, ?_, ?_⟩
  · simp [Answer.taken, hnews, picked]
  · simpa [Chronicle.within, hpick] using hrecorded
  · rintro t ht
    obtain rfl := Option.some.inj (hparty.symm.trans ht)
    rw [hpick]
    exact .cons (fun _ _ => .of_not_due (fun _ => hr.not_due hphase) Event.noConfusion
      fun _ => Event.noConfusion) hunfolds
  · simp [hparty]

theorem continues_ended (hc : Coherent c) (hr : Recorded c h last) (hs : c.session = some s) :
    ∃ news, Continues c (c.ended .requested) .exit .done h last news := by
  have hend : ∀ h : Chronicle, Unfolds s last h [(.ended .requested, c.world)] :=
    fun _ => .single fun _ hrequested => absurd rfl hrequested
  by_cases hmenu : c.menu = []
  · exact ⟨[.ended .requested], .passing rfl hs rfl rfl (by simp [ended, hmenu])
      (recorded_ended _ _ _) (hend h)⟩
  · have hphase := hc.awaiting_iff.2 hmenu
    refine ⟨[.optionsHidden, .ended .requested], .passing rfl hs rfl rfl (by simp [ended, hmenu])
      ?_ (.cons (fun _ _ => ?_) (hend _))⟩
    · rw [show h ++ Chronicle.within c.world [.optionsHidden, .ended .requested] =
        (h ++ [(.optionsHidden, c.world)]) ++ [(.ended .requested, c.world)] by
          simp [Chronicle.within]]
      exact recorded_ended _ _ _
    · exact .of_not_due (fun _ => hr.not_due hphase) Event.noConfusion fun _ => Event.noConfusion

/-- **Whatever a request tells continues the chronicle.** -/
theorem continues_of_response {request : Request} {answer : Answer}
    (hresponse : Response c request answer c') (hc : Coherent c) (hr : Recorded c h last) :
    ∃ news, Continues c c' request answer h last news := by
  cases hresponse with
  | began hs hnode hm => exact continues_began hc hr hs hnode hm
  | picked hphase hitem hs hnode hchoice hm =>
    exact continues_picked hc hr hphase hitem hs hnode hchoice hm
  | elapsed he =>
    cases hs : c.session with
    | some s =>
      obtain ⟨news, hnews, hrecorded, hunfolds⟩ := recorded_of_elapsed (t := s) he hc hr
        fun s' hs' node => by rw [Option.some.inj (hs.symm.trans hs')]
      exact ⟨news, .passing rfl hs rfl (world_of_elapsed he) hnews hrecorded hunfolds⟩
    | none =>
      have hturn : c.turn = none := by
        rw [hc.fresh_of_idle (hc.idle_iff.2 hs)]
        rfl
      cases he with
      | still => exact ⟨[], .nothing rfl rfl hr⟩
      | credited hturn' | moved hturn' => cases hturn.symm.trans hturn'
  | skipped hturn _ hm =>
    obtain ⟨s, hready⟩ := hc.ready_silenced hturn
    obtain ⟨-, s', hs', hp⟩ := hr.playing _ hturn
    obtain rfl : s = s' := Option.some.inj (hready.session.symm.trans hs')
    obtain ⟨news, hnews, hrecorded, hunfolds⟩ :=
      recorded_of_moved hm hready (fun _ => rfl) (hp.congr rfl)
    have hworld : c'.world = c.silenced.world := world_of_moved hm
    exact ⟨news, .passing rfl hs' rfl hworld hnews hrecorded hunfolds⟩
  | ended hs => exact continues_ended hc hr hs
  | drained => exact ⟨[], .nothing (List.append_nil _) rfl (hr.congr c.world [])⟩
  | written change => exact ⟨[], .nothing rfl rfl (hr.congr _ c.events)⟩
  | replaced world => exact ⟨[], .nothing rfl rfl (hr.congr world c.events)⟩
  | invalidChoice hphase hitem => exact ⟨[], .nothing rfl (by simp [pick?, hphase, hitem]) hr⟩
  | ignored hphase => exact ⟨[], .nothing rfl (by simp [pick?, hphase]) hr⟩
  | alreadyActive | unknownEntry | kept | idle => exact ⟨[], .nothing rfl rfl hr⟩

/-- What a request tells is how the chronicle goes on. -/
theorem continues_respond (hc : Coherent c) (hr : Recorded c h last) (request : Request) :
    Continues c (c.respond request).value.2 request (c.respond request).value.1 h last
      (c.news request) := by
  obtain ⟨news, hcontinues⟩ := continues_of_response (response hc request) hc hr
  rw [news_eq hcontinues.told]
  exact hcontinues

/-! ## Whole runs -/

theorem recorded_fresh (world : World) (pacing : Pacing) : Recorded (fresh world pacing) [] none where
  playing := fun _ hturn => by cases hturn
  awaiting := fun hphase => by cases hphase
  idle := fun _ _ _ _ => Colloquy.not_due (by simp [Chronicle.juncture])
    (by simp [Chronicle.juncture])

/-- **A conversation agrees with its chronicle after every run.** -/
theorem recorded_after (hc : Coherent c) (hr : Recorded c h last) (requests : List Request) :
    Recorded (c.after requests) (h ++ c.chronicle requests)
      ((c.picks requests).getLast?.or last) := by
  induction requests generalizing c h last with
  | nil => simpa [chronicle, picks] using hr
  | cons request rest ih =>
    have hrest := ih (coherent_respond hc request) (continues_respond hc hr request).recorded
    rw [after_cons, chronicle, picks, List.getLast?_append, ← List.append_assoc]
    cases hpick : c.pick? request <;> simpa [hpick] using hrest

end Conversation

end Colloquy
