import Colloquy.Proofs.Conversation.Coherence

/-!
# Playing out — what a choice comes to

Between a pick and the next menu nothing is decided any more: the lines are queued, the route is
fixed, and time only says when each of them is told. `playedOut` is where this leads. Crediting time
and cutting lines short leave it alone (`playedOut_after`), so once no line is on screen the
conversation is what it was bound to be, and what was told on the way can be written down from the
choice and the world (`Choice.script`).
-/

namespace Colloquy

namespace Request

/-- Whether a request only lets lines run out or cuts them short. -/
def passesTime : Request → Bool
  | .update _ | .skip => true
  | .enterAt .. | .select _ | .exit | .drain | .write _ | .replace _ => false

end Request

namespace Conversation

variable {c : Conversation} {s : Session}

/-- The conversation when every line before the next menu or the end has played. -/
def playedOut (c : Conversation) : Conversation :=
  match _h : c.turn with
  | none => c
  | some _ => c.silenced.playNext.value.playedOut
termination_by c.pending
decreasing_by exact pending_playNext_lt _h

theorem playedOut_of_silent (h : c.turn = none) : c.playedOut = c := by
  rw [playedOut]
  split
  · rfl
  · rename_i hturn
    cases h.symm.trans hturn

theorem playedOut_of_turn {turn : Turn} (h : c.turn = some turn) :
    c.playedOut = c.silenced.playNext.value.playedOut := by
  rw [playedOut]
  split
  · rename_i hturn
    cases h.symm.trans hturn
  · rfl

/-! ## Time changes nothing about it -/

/-- **Crediting time does not change where it leads.** -/
theorem playedOut_update (c : Conversation) (dt : Duration) :
    (c.update dt).value.playedOut = c.playedOut := by
  fun_induction update c dt with
  | case1 => rfl
  | case2 c dt turn hturn timer _ =>
    -- the timer is not looked at once the line is through
    rw [playedOut_of_turn hturn, Noted.value_pure, playedOut_of_turn rfl]
    rfl
  | case3 c dt turn hturn rest _ _ moved later ih =>
    rw [playedOut_of_turn hturn]
    exact ih

/-- Neither does cutting a line short. -/
theorem playedOut_skip (c : Conversation) : c.skip.value.2.playedOut = c.playedOut := by
  unfold skip
  split
  · rename_i hskip
    cases hturn : c.turn with
    | none => simp [canSkip, hturn] at hskip
    | some turn =>
      rw [playedOut_of_turn hturn]
      rfl
  · rfl

/-- **Where a conversation leads is the same after any time that passes.** -/
theorem playedOut_after {pauses : List Request}
    (hpauses : ∀ request ∈ pauses, request.passesTime = true) :
    (c.after pauses).playedOut = c.playedOut := by
  induction pauses generalizing c with
  | nil => rfl
  | cons request rest ih =>
    have hrest : ∀ r ∈ rest, r.passesTime = true :=
      fun r hr => hpauses r (List.mem_cons_of_mem _ hr)
    have hfirst : (c.respond request).value.2.playedOut = c.playedOut := by
      have hpasses := hpauses request List.mem_cons_self
      cases request with
      | update dt => exact playedOut_update c dt
      | skip => exact playedOut_skip c
      | enterAt | select | exit | drain | write | replace => cases hpasses
    rw [after_cons, ih hrest, hfirst]

/-! ## Where it leads -/

/-- The lines of a queue as they are told. -/
def lineEvents (queue : List (Phase × Line)) : List Event := queue.map fun entry => .line entry.2

/-- A menu as it is told: it goes up, or the conversation ends if there is nothing to choose. -/
def offerEvents (menu : List MenuItem) : List Event :=
  if menu = [] then [.ended .deadEnd] else [.optionsShown menu]

/-- The conversation with its queue played, the last line of it in some phase. -/
def through (c : Conversation) (phase : Phase) : Conversation :=
  { c with
    phase := phase
    queue := []
    turn := none
    events := c.events ++ lineEvents c.queue }

/-- **A queue plays in order**, and nothing but its lines is told on the way. -/
theorem playedOut_playNext (hturn : c.turn = none) :
    ∃ phase, c.playNext.value.playedOut = (c.through phase).playNext.value.playedOut := by
  -- on the queue: a line that played and was silenced is one entry less
  induction hqueue : c.queue generalizing c with
  | nil =>
    refine ⟨c.phase, ?_⟩
    have hthrough : c.through c.phase = c := by
      cases c
      simp_all [through, lineEvents]
    rw [hthrough]
  | cons entry rest ih =>
    obtain ⟨phase, line⟩ := entry
    have hplay : c.playNext.value = c.play phase line rest := by simp [playNext, hqueue]
    obtain ⟨last, hlast⟩ := ih (c := (c.play phase line rest).silenced) rfl rfl
    refine ⟨last, ?_⟩
    rw [hplay, playedOut_of_turn (c := c.play phase line rest) rfl, hlast]
    congr 3
    simp [through, silenced, play, lineEvents, hqueue]

/-- What is told when a menu is offered. -/
theorem events_playedOut_offer (h : Ready c s) (menu : List MenuItem) :
    (c.settled.offer menu).value.playedOut.events = c.events ++ offerEvents menu := by
  rw [value_offer h.session]
  by_cases hmenu : menu = []
  · rw [if_pos hmenu, playedOut_of_silent rfl, h.events_ended, offerEvents, if_pos hmenu]
  · rw [if_neg hmenu, playedOut_of_silent (c := c.shown menu) h.turn, offerEvents, if_neg hmenu]
    rfl

/-- The lines of a node as they are told. -/
theorem lineEvents_introLines (w : World) (node : Node) :
    lineEvents (introLines w node) = ((node.introFor w).elim [] IntroBlock.lines).map .line := by
  rw [lineEvents, ← map_introLines, List.map_map]
  rfl

end Conversation

open Conversation in
/-- What is told when the lines are through and nobody changes the world. -/
def Session.finale (s : Session) (w : World) : Continuation → List Event
  | .showOptions => offerEvents ((s.menu? w).getD [])
  | .offer menu => offerEvents menu
  | .enter key =>
    match s.graph.get? key with
    | some node =>
      .nodeEntered key :: ((node.introFor w).elim [] IntroBlock.lines).map .line ++
        offerEvents ((({ s with node := key } : Session).menu? w).getD [])
    | none => [.ended .missingNode]
  | .exit => [.ended .exited]

namespace Conversation

theorem Ready.through (h : Ready c s) (phase : Phase) : Ready (c.through phase) s where
  session := h.session
  sound := h.sound
  turn := rfl
  menu := h.menu
  linedUp := by
    rintro first line rest hqueue
    cases hqueue
  lists := h.lists

/-- What is told on going to a node of the dialogue. -/
theorem events_playedOut_arrive (h : Ready c s) (hqueue : c.queue = []) {key : String} {node : Node}
    (hnode : s.graph.get? key = some node) :
    (c.arrive s key node).playNext.value.playedOut.events = c.events ++
      (.nodeEntered key :: ((node.introFor c.world).elim [] IntroBlock.lines).map .line ++
        offerEvents ((({ s with node := key } : Session).menu? c.world).getD [])) := by
  have hready := h.arrive hqueue hnode
  obtain ⟨phase, hphase⟩ := playedOut_playNext hready.turn
  have hnext : ((c.arrive s key node).through phase).playNext.value =
      (((c.arrive s key node).through phase).settled.offer
        ((({ s with node := key } : Session).menu? c.world).getD [])).value := rfl
  rw [hphase, hnext, events_playedOut_offer (hready.through phase), ← lineEvents_introLines]
  simp [through, arrive, hqueue]

/-- **What a ready conversation tells when it plays out**: the lines in the queue, and what its
continuation comes to. -/
theorem events_playedOut (h : Ready c s) :
    c.playNext.value.playedOut.events =
      c.events ++ lineEvents c.queue ++ s.finale c.world c.next := by
  obtain ⟨phase, hphase⟩ := playedOut_playNext h.turn
  have hready := h.through phase
  have hevents : (c.through phase).events = c.events ++ lineEvents c.queue := rfl
  rw [hphase, ← hevents]
  have hworld : (c.through phase).world = c.world := rfl
  have hnext : (c.through phase).next = c.next := rfl
  have hproceed : (c.through phase).playNext = (c.through phase).proceed := rfl
  rw [hproceed, proceed, ← hworld, ← hnext]
  split
  · rename_i hshow
    obtain ⟨menu, hmenu⟩ := Option.isSome_iff_exists.1 (h.sound.menu?_isSome c.world)
    have hsettled : ((c.through phase).settled.session.bind fun t =>
        t.menu? (c.through phase).settled.world) = some menu := by
      show (c.session.bind fun t => t.menu? c.world) = some menu
      rw [h.session, Option.bind_some, hmenu]
    rw [showOptions, hsettled, events_playedOut_offer hready, hshow, Session.finale, hworld, hmenu]
    rfl
  · rename_i menu hoffer
    rw [events_playedOut_offer hready, hoffer, Session.finale]
  · rename_i key henter
    rw [henter, Session.finale]
    split
    · rename_i node hnode
      rw [value_enterNode hready.session hnode, events_playedOut_arrive hready rfl hnode]
    · rename_i hnode
      rw [value_enterNode_missing hready.session hnode, playedOut_of_silent rfl,
        hready.events_ended]
  · rename_i hexit
    have hended : ((c.through phase).settled.finish .exited).value =
        (c.through phase).ended .exited := rfl
    rw [hexit, Session.finale, hended, playedOut_of_silent rfl, hready.events_ended]

end Conversation

/-! ## What a choice comes to -/

open Conversation in
/-- Where a choice leads, as it is told: the end, whatever node it names; or the node, its lines and
its menu; or the menu again. -/
def Choice.outcome (choice : Choice) (s : Session) (w : World) : List Event :=
  if choice.exit then [.ended .exited]
  else match choice.nextNode with
    | none => offerEvents ((s.menu? w).getD [])
    | some key =>
      match s.graph.get? key with
      | some node =>
        .nodeEntered key :: ((node.introFor w).elim [] IntroBlock.lines).map .line ++
          offerEvents ((({ s with node := key } : Session).menu? w).getD [])
      | none => [.ended .missingNode]

/-- What picking a choice tells, for the session in which it is picked and the world with its
effects: the menu comes down, the hero speaks if there is something to say, the reply follows, and
then what the choice leads to. -/
def Choice.script (choice : Choice) (hero : String) (s : Session) (w : World) : List Event :=
  .optionsHidden ::
    ((if choice.heroLine = "" then [] else [.line ⟨.hero, hero, choice.heroLine⟩]) ++
      (choice.npcResponse.getD []).map .line ++ choice.outcome s w)

namespace Conversation

theorem finale_destination (choice : Choice) (s : Session) (w : World) :
    s.finale w (destination choice) = choice.outcome s w := by
  unfold destination Choice.outcome
  split
  · rfl
  · split <;> rename_i hnext <;> simp only [hnext] <;> rfl

/-- What is told when a choice that was picked plays out. -/
theorem events_playedOut_picked (h : Coherent c) (hphase : c.phase = .awaitingChoice)
    (hs : c.session = some s) {node : Node} {index : Nat} {choice : Choice}
    (hnode : s.graph.get? s.node = some node) (hchoice : node.choices[index]? = some choice) :
    (c.pick s index choice).value.playedOut.events = c.events ++
      choice.script c.pacing.hero { s with used := s.used.mark s.node index }
        (c.world.applyAll (choice.writes s.npc s.node index)) := by
  obtain ⟨-, -, hqueue, -⟩ := h.awaiting hphase
  have hlines : lineEvents (choiceLines c.pacing.hero choice) =
      (if choice.heroLine = "" then [] else [.line ⟨.hero, c.pacing.hero, choice.heroLine⟩]) ++
        (choice.npcResponse.getD []).map .line := by
    unfold choiceLines lineEvents
    split <;> simp
  rw [value_pick, events_playedOut (h.ready_picked hphase hs hnode hchoice), Choice.script,
    ← finale_destination, ← hlines]
  simp [picked, hqueue]

/-- **A selection plays out as it is written.** In a menu that a run came to, each place stands for
the choice of the current node whose position and text it shows; selecting it picks that choice, and
once time has passed until no line is on screen, the script of the choice was told and nothing
else. -/
theorem select_plays_out (hc : Reached c) (hphase : c.phase = .awaitingChoice) {place : Nat}
    (hplace : place < c.menu.length) :
    ∃ s node choice, c.session = some s ∧ s.graph.get? s.node = some node ∧
      node.choices[c.menu[place].index]? = some choice ∧ choice.text = c.menu[place].text ∧
      (c.respond (.select place)).value =
        (.selected .accepted, (c.pick s c.menu[place].index choice).value) ∧
      ∀ pauses : List Request, (∀ request ∈ pauses, request.passesTime = true) →
        (c.after (.select place :: pauses)).turn = none →
        (c.after (.select place :: pauses)).events = c.events ++
          choice.script c.pacing.hero
            { s with used := s.used.mark s.node c.menu[place].index }
            (c.world.applyAll (choice.writes s.npc s.node c.menu[place].index)) := by
  have h := hc.coherent
  obtain ⟨s, hs⟩ := Option.isSome_iff_exists.1 (h.awaiting hphase).1
  obtain ⟨node, choice, hnode, hchoice, hitem⟩ :=
    (h.lists s hs).1.1 c.menu[place] (List.getElem_mem hplace)
  have hrespond : (c.respond (.select place)).value =
      (.selected .accepted, (c.pick s c.menu[place].index choice).value) := by
    simp [respond, select, hphase, hs, hnode, hchoice, hplace]
  refine ⟨s, node, choice, hs, hnode, hchoice, by rw [hitem]; rfl, hrespond, ?_⟩
  intro pauses hpauses hturn
  -- a silent conversation is played out, and where it leads was settled by the pick
  have hlast : c.after (.select place :: pauses) =
      (c.pick s c.menu[place].index choice).value.playedOut := by
    rw [← playedOut_of_silent hturn, after_cons, hrespond, playedOut_after hpauses]
  rw [hlast, events_playedOut_picked h hphase hs hnode hchoice]

/-- A choice that is spoken, answered, and leads on. -/
def asking : Choice :=
  { text := "Ask", heroLine := "Why?", npcResponse := some [⟨.npc, "zyx", "Because."⟩]
    nextNode := some "cell" }

/-- A dialogue that goes from one choice to a node without any. -/
def parting : Graph :=
  (TextMap.empty.insert "cell" { intros := [{ lines := [⟨.npc, "zyx", "Here."⟩] }] }).insert "start"
    { choices := [asking] }

/-- A conversation in which the choice is offered and lines may be cut short at once. -/
def met : Conversation :=
  (fresh .empty { skipGuard := .zero }).after [.enterAt "zyx" parting "start"]

theorem select_plays_out_asking :
    Reached met ∧ met.phase = .awaitingChoice ∧ 0 < met.menu.length ∧
      (met.after [.select 0, .skip, .skip, .skip]).turn = none ∧
      (met.after [.select 0, .skip, .skip, .skip]).events = met.events ++
        [.optionsHidden, .line ⟨.hero, "nate", "Why?"⟩, .line ⟨.npc, "zyx", "Because."⟩,
          .nodeEntered "cell", .line ⟨.npc, "zyx", "Here."⟩, .ended .deadEnd] := by
  have hreached : Reached met := ⟨_, _, _, rfl⟩
  have hphase : met.phase = .awaitingChoice := by decide
  have hplace : 0 < met.menu.length := by decide
  have hturn : (met.after [.select 0, .skip, .skip, .skip]).turn = none := by decide
  obtain ⟨s, node, choice, hs, hnode, hchoice, -, -, hplays⟩ :=
    select_plays_out hreached hphase hplace
  have hsession : met.session = some { npc := "zyx", graph := parting, node := "start" } := by
    decide
  obtain rfl := Option.some.inj (hsession.symm.trans hs)
  have hstart : parting.get? "start" = some { choices := [asking] } := by decide
  obtain rfl := Option.some.inj (hstart.symm.trans hnode)
  obtain rfl : asking = choice := Option.some.inj hchoice
  refine ⟨hreached, hphase, hplace, hturn, ?_⟩
  rw [hplays [.skip, .skip, .skip] (by decide) hturn]
  congr 1

end Conversation

end Colloquy
