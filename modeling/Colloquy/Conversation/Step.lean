import Colloquy.Conversation.Basic
import Colloquy.Journal

/-!
# How a conversation moves

Lines play in the order in which they are queued. When none is left, what follows is settled by the
continuation: a menu, a node, or the end. The menu after entering a node is settled on entering it,
before its lines play; the menu after a choice that stays is settled when its lines are through.
Effects of a choice happen when it is picked. Entering a node never leads on to another node by
itself, so `update` comes to rest: `pending` counts the lines that can still play before the next
menu, and every line that ends lowers it.
-/

namespace Colloquy

namespace Conversation

/-! ## Ending, offering, playing -/

/-- The conversation without a line on screen. -/
def silenced (c : Conversation) : Conversation := { c with turn := none }

/-- The conversation with nothing special to follow. -/
def settled (c : Conversation) : Conversation := { c with next := .showOptions }

/-- The conversation ended. -/
def ended (c : Conversation) (reason : EndReason) : Conversation :=
  { c with
    phase := .idle
    session := none
    queue := []
    turn := none
    next := .showOptions
    menu := []
    events := c.events ++ (if c.menu = [] then [] else [.optionsHidden]) ++ [.ended reason] }

/-- End the conversation. -/
def finish (c : Conversation) (reason : EndReason) : Logged Conversation :=
  ⟨c.ended reason, c.session.toList.map fun s =>
    ⟨.info, s!"conversation with {s.npc} ended: {reason.word}"⟩⟩

/-- Put a menu up, or end the conversation if there is nothing to choose. -/
def offer (c : Conversation) (menu : List MenuItem) : Logged Conversation :=
  match c.session with
  | none => pure c
  | some s =>
    if menu = [] then do
      Logged.warn s!"node `{s.node}` of {s.npc} has no visible options; ending conversation"
      c.finish .deadEnd
    else
      pure { c with
        phase := .awaitingChoice
        menu := menu
        events := c.events ++ [.optionsShown menu] }

/-- Put a line on screen, with the lines after it. -/
def play (c : Conversation) (phase : Phase) (line : Line) (rest : List (Phase × Line)) :
    Conversation :=
  { c with
    phase := phase
    queue := rest
    turn := some ⟨line, .start (c.pacing.turnDuration line.text)⟩
    events := c.events ++ [.line line] }

/-! ## Moving on -/

/-- The lines that play on entering a node, each with its phase. -/
def introLines (w : World) (node : Node) : List (Phase × Line) :=
  ((node.introFor w).map fun block => block.lines.map fun line => (.playingIntro, line)).getD []

/-- The conversation at a node of its dialogue, whose lines are queued and whose menu is settled. -/
def arrive (c : Conversation) (s : Session) (key : String) (node : Node) : Conversation :=
  let session := { s with node := key }
  { c with
    session := some session
    queue := c.queue ++ introLines c.world node
    next := .offer ((session.menu? c.world).getD [])
    events := c.events ++ [.nodeEntered key] }

/-- Play the first line, or offer a menu if there is no line. -/
def playOrOffer (c : Conversation) (menu : List MenuItem) : Logged Conversation :=
  match c.queue with
  | (phase, line) :: rest => pure (c.play phase line rest)
  | [] => c.settled.offer menu

/-- Go to a node, or end the conversation if it does not exist. -/
def enterNode (c : Conversation) (key : String) : Logged Conversation :=
  match c.session with
  | none => pure c
  | some s =>
    match s.graph.get? key with
    | none => do
      Logged.warn
        s!"dialogue for {s.npc} routes to missing node `{key}`; ending conversation"
      c.finish .missingNode
    | some node => do
      Logged.debug s!"entering node `{key}`"
      let c := c.arrive s key node
      c.playOrOffer ((({ s with node := key } : Session).menu? c.world).getD [])

/-- Offer what the world allows at the current node. -/
def showOptions (c : Conversation) : Logged Conversation :=
  match c.session.bind fun s => s.menu? c.world with
  | some menu => c.offer menu
  | none => c.finish .missingNode

/-- Do what follows when no line is left. -/
def proceed (c : Conversation) : Logged Conversation :=
  match c.next with
  | .showOptions => c.settled.showOptions
  | .offer menu => c.settled.offer menu
  | .enter node => c.settled.enterNode node
  | .exit => c.settled.finish .exited

/-- Play the next line, or do what follows when no line is left. -/
def playNext (c : Conversation) : Logged Conversation :=
  match c.queue with
  | (phase, line) :: rest => pure (c.play phase line rest)
  | [] => c.proceed

/-! ## Lines that can still play -/

/-- How many lines a node that comes next would play. -/
def introAhead (c : Conversation) : Nat :=
  match c.next with
  | .enter key =>
    (c.session.bind fun s => s.graph.get? key).elim 0 fun node => (introLines c.world node).length
  | _ => 0

/-- How many lines can still play before the next menu or the end. -/
def pending (c : Conversation) : Nat :=
  (if c.turn.isSome then 1 else 0) + c.queue.length + c.introAhead

theorem pending_ended (c : Conversation) (reason : EndReason) : (c.ended reason).pending = 0 := by
  simp [pending, ended, introAhead]

theorem pending_finish (c : Conversation) (reason : EndReason) :
    (c.finish reason).value.pending = 0 := pending_ended c reason

/-- A conversation with no line on screen, none queued and nothing special to follow has no line to
come, and neither has it after a menu is offered. -/
theorem pending_offer {c : Conversation} (hturn : c.turn = none) (hqueue : c.queue = [])
    (menu : List MenuItem) : (c.settled.offer menu).value.pending = 0 := by
  unfold offer
  split
  · simp [pending, introAhead, settled, hturn, hqueue]
  · split
    · exact pending_finish _ _
    · simp [pending, introAhead, settled, hturn, hqueue]

theorem pending_play (c : Conversation) (phase : Phase) (line : Line)
    (rest : List (Phase × Line)) :
    (c.play phase line rest).pending = 1 + rest.length + c.introAhead := by
  simp [pending, play, introAhead]

theorem pending_playOrOffer {c : Conversation} (hturn : c.turn = none) (hnext : c.introAhead = 0)
    (menu : List MenuItem) : (c.playOrOffer menu).value.pending ≤ c.queue.length := by
  unfold playOrOffer
  split
  · rename_i phase line rest hqueue
    simp only [Noted.value_pure, pending_play, hnext, hqueue, List.length_cons]
    omega
  · rename_i hqueue
    simp [pending_offer hturn hqueue]

theorem pending_enterNode {c : Conversation} (hturn : c.turn = none) (hqueue : c.queue = [])
    {key : String} (hnext : c.next = .enter key) :
    (c.settled.enterNode key).value.pending ≤ c.introAhead := by
  unfold enterNode
  split
  · simp [pending, introAhead, settled, hturn, hqueue]
  · rename_i s hs
    have hs' : c.session = some s := hs
    split
    · simp [pending_finish]
    · rename_i node hnode
      refine Nat.le_trans (pending_playOrOffer (c := c.settled.arrive s key node) hturn rfl _) ?_
      simp [arrive, introAhead, settled, hqueue, hnext, hs', hnode]

theorem pending_playNext {c : Conversation} (hturn : c.turn = none) :
    c.playNext.value.pending ≤ c.queue.length + c.introAhead := by
  unfold playNext
  split
  · rename_i phase line rest hqueue
    simp only [Noted.value_pure, pending_play, hqueue, List.length_cons]
    omega
  · rename_i hqueue
    unfold proceed
    split
    · unfold showOptions
      split
      · simp [pending_offer hturn hqueue]
      · simp [pending_finish]
    · simp [pending_offer hturn hqueue]
    · rename_i key hnext
      exact Nat.le_trans (pending_enterNode hturn hqueue hnext) (Nat.le_add_left _ _)
    · simp [pending_finish]

/-- **Every line that ends lowers the number of lines to come.** -/
theorem pending_playNext_lt {c : Conversation} {turn : Turn} (hturn : c.turn = some turn) :
    c.silenced.playNext.value.pending < c.pending := by
  have h := pending_playNext (c := c.silenced) rfl
  have hq : c.silenced.queue = c.queue := rfl
  have hi : c.silenced.introAhead = c.introAhead := rfl
  rw [hq, hi] at h
  simp only [pending, hturn, Option.isSome_some, if_true] at h ⊢
  omega

/-! ## Requests -/

/-- Begin a conversation at a node. -/
def enterAt (c : Conversation) (npc : String) (graph : Graph) (node : String) :
    Logged (Except Refusal Conversation) :=
  match c.session with
  | some s => pure (.error (.alreadyActive s.npc))
  | none =>
    if graph.contains node then do
      Logged.info s!"conversation with {npc} started at `{node}`"
      let c := { c with
        session := some { npc := npc, graph := graph, node := node }
        events := c.events ++ [Event.started npc] }
      return .ok (← c.enterNode node)
    else pure (.error (.unknownEntryNode node))

/-- Begin a conversation at the start node. -/
def enter (c : Conversation) (npc : String) (graph : Graph) :
    Logged (Except Refusal Conversation) :=
  c.enterAt npc graph Graph.startNode

/-- End the conversation, if there is one. -/
def exit (c : Conversation) : Logged Conversation :=
  if c.isActive then c.finish .requested else pure c

/-- What a choice has queued: what the hero says, then the reply. -/
def choiceLines (hero : String) (choice : Choice) : List (Phase × Line) :=
  (if choice.heroLine = "" then []
    else [(.playingHeroLine, (⟨.hero, hero, choice.heroLine⟩ : Line))]) ++
    (choice.npcResponse.getD []).map fun line => (.playingNpcResponse, line)

/-- Where a choice leads. Ending the conversation goes before any node. -/
def destination (choice : Choice) : Continuation :=
  if choice.exit then .exit
  else match choice.nextNode with
    | some node => .enter node
    | none => .showOptions

/-- Pick a choice of the current node: the menu comes down, the world changes, its lines play. -/
def pick (c : Conversation) (s : Session) (index : Nat) (choice : Choice) :
    Logged Conversation := do
  Logged.debug s!"picked `{choice.text}` in `{s.node}`"
  let world ← c.world.writeAll (choice.writes s.npc s.node index)
  playNext { c with
    world := world
    phase := .playingHeroLine
    session := some { s with used := s.used.mark s.node index }
    queue := c.queue ++ choiceLines c.pacing.hero choice
    next := destination choice
    menu := []
    events := c.events ++ [.optionsHidden] }

/-- Select an item of the menu by its place in the menu. -/
def select (c : Conversation) (place : Nat) :
    Logged (Except Refusal (Selection × Conversation)) :=
  if c.phase = .awaitingChoice then
    match c.menu[place]?, c.session with
    | none, _ => pure (.error (.invalidChoice place))
    | some _, none => pure (.ok (.ignored, c))
    | some item, some s =>
      match (s.graph.get? s.node).bind fun node => node.choices[item.index]? with
      | none => pure (.error (.invalidChoice place))
      | some choice => do return .ok (.accepted, ← c.pick s item.index choice)
  else do
    Logged.debug s!"selection {place} ignored in state {c.phase.word}"
    return .ok (.ignored, c)

/-- Credit time. A line that runs out gives way to the next, which is credited with what is left. -/
def update (c : Conversation) (dt : Duration) : Logged Conversation :=
  match _h : c.turn with
  | none => pure c
  | some turn =>
    match turn.timer.advance dt with
    | (none, timer) => pure { c with turn := some { turn with timer := timer } }
    | (some rest, _) =>
      let moved := c.silenced.playNext
      let later := moved.value.update rest
      ⟨later.value, moved.notes ++ later.notes⟩
termination_by c.pending
decreasing_by exact pending_playNext_lt _h

/-- Whether the line on screen may be cut short now. -/
def canSkip (c : Conversation) : Bool := c.turn.any fun t => t.timer.hasLasted c.pacing.skipGuard

/-- Cut the line on screen short, if that is allowed now. -/
def skip (c : Conversation) : Logged (Bool × Conversation) :=
  if c.canSkip then do return (true, ← c.silenced.playNext)
  else pure (false, c)

/-- Take the events. -/
def drain (c : Conversation) : List Event × Conversation := (c.events, { c with events := [] })

/-- Change the world from outside. -/
def write (c : Conversation) (change : Write) : Logged Conversation := do
  return { c with world := ← c.world.write change }

/-! ## Playing to the next menu -/

theorem pending_update (c : Conversation) (dt : Duration) :
    (c.update dt).value.pending ≤ c.pending := by
  fun_induction update c dt with
  | case1 c dt _ => exact Nat.le_refl _
  | case2 c dt turn h timer _ => simp [pending, introAhead, h]
  | case3 c dt turn h rest _ _ moved later ih =>
    exact Nat.le_trans ih (Nat.le_of_lt (pending_playNext_lt h))

/-- A line that is credited with the time it has left gives way to the next. -/
theorem pending_update_remaining_lt {c : Conversation} {rest : Duration}
    (h : c.turnRemaining = some rest) : (c.update rest).value.pending < c.pending := by
  obtain ⟨turn, hturn, rfl⟩ := Option.map_eq_some_iff.1 h
  have hdone : turn.timer.duration ≤ turn.timer.elapsed.add turn.timer.remaining := by
    have := turn.timer.duration.le_max
    have := turn.timer.elapsed.le_max
    simp only [Duration.le_iff, Duration.nanos_add, TurnTimer.remaining, Duration.nanos_sub]
    omega
  unfold update
  split
  · simp_all
  · rename_i turn' hturn'
    obtain rfl : turn = turn' := by simpa [hturn] using hturn'
    split
    · rename_i hadv
      simp [TurnTimer.advance, hdone] at hadv
    · exact Nat.lt_of_le_of_lt (pending_update _ _) (pending_playNext_lt hturn)

/-- Let every line run out, until a menu is up or the conversation is over. -/
def fastForward (c : Conversation) : Logged Conversation :=
  match _h : c.turnRemaining with
  | none => pure c
  | some rest =>
    let moved := c.update rest
    let later := moved.value.fastForward
    ⟨later.value, moved.notes ++ later.notes⟩
termination_by c.pending
decreasing_by exact pending_update_remaining_lt _h

end Conversation

end Colloquy
