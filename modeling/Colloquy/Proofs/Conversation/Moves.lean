import Colloquy.Conversation.Run
import Colloquy.Proofs.Dialogue.Numbering

/-!
# Moves — what a conversation can do when a line is through

Every request that moves a conversation on ends in `playNext`, asked of a conversation that is
`Ready`: somebody is talked to, nothing is on screen, and what is queued belongs to one stretch of
lines. `Moved` lists what can come of it, one constructor for each way, and `moved_playNext` says
that there is no other way. A statement about all conversations is then an induction over `Moved`,
and nobody unfolds the moves again. Nothing here speaks of time: `Elapsed` says that crediting time
is moving on, any number of times.
-/

namespace Colloquy

/-- What follows the lines of a choice: anything but a menu that is settled already. -/
def Continuation.IsRoute : Continuation → Prop
  | .offer _ => False
  | .showOptions | .enter _ | .exit => True

/-- The lines that may be queued behind a line of a phase, and what may follow them: behind an intro
line there are intro lines and a settled menu, behind a line of a choice there is the rest of the
reply and a route. -/
def Lineup : Phase → List (Phase × Line) → Continuation → Prop
  | .playingIntro, queue, next =>
    (∀ entry ∈ queue, entry.1 = .playingIntro) ∧ ∃ menu, next = .offer menu
  | .playingHeroLine, queue, next | .playingNpcResponse, queue, next =>
    (∀ entry ∈ queue, entry.1 = .playingNpcResponse) ∧ next.IsRoute
  | .idle, _, _ | .awaitingChoice, _, _ => False

/-- What comes first in a queue and what is behind it belong together. -/
def LinedUp (queue : List (Phase × Line)) (next : Continuation) : Prop :=
  ∀ phase line rest, queue = (phase, line) :: rest → Lineup phase rest next

/-- What is queued behind a line is itself lined up. -/
theorem Lineup.linedUp {phase : Phase} {queue : List (Phase × Line)} {next : Continuation}
    (h : Lineup phase queue next) : LinedUp queue next := by
  rintro first line rest rfl
  have hfirst := List.mem_cons_self (a := (first, line)) (l := rest)
  have hrest : ∀ entry ∈ rest, entry ∈ (first, line) :: rest := fun _ => List.mem_cons_of_mem _
  cases phase with
  | playingIntro =>
    obtain rfl : first = .playingIntro := h.1 _ hfirst
    exact ⟨fun entry he => h.1 entry (hrest entry he), h.2⟩
  | playingHeroLine | playingNpcResponse =>
    obtain rfl : first = .playingNpcResponse := h.1 _ hfirst
    exact ⟨fun entry he => h.1 entry (hrest entry he), h.2⟩
  | idle | awaitingChoice => exact h.elim

/-! ## Sessions -/

namespace Session

/-- A session stands on a node of its dialogue, and what was picked in it are choices of nodes of
that dialogue. -/
structure Sound (s : Session) : Prop where
  known : s.graph.contains s.node = true
  picked : ∀ node index, s.used.isUsed node index = true →
    ∃ n, s.graph.get? node = some n ∧ index < n.choices.length

/-- A menu lists choices of the current node, each as it is offered, in the order of the node. -/
def Lists (s : Session) (menu : List MenuItem) : Prop :=
  (∀ item ∈ menu, ∃ node choice, s.graph.get? s.node = some node ∧
    node.choices[item.index]? = some choice ∧ item = s.item item.index choice) ∧
  menu.Pairwise fun a b => a.index < b.index

theorem lists_nil (s : Session) : s.Lists [] :=
  ⟨fun _ h => absurd h List.not_mem_nil, List.Pairwise.nil⟩

/-- **A menu that the world settles lists choices of the current node.** -/
theorem lists_menu? {s : Session} {w : World} {menu : List MenuItem} (h : s.menu? w = some menu) :
    s.Lists menu := by
  obtain ⟨node, hnode, rfl⟩ := Option.map_eq_some_iff.1 h
  constructor
  · rintro item hitem
    obtain ⟨⟨index, choice⟩, hmem, rfl⟩ := List.mem_map.1 hitem
    have hnumbered : (index, choice) ∈ node.numbered :=
      (List.mem_filter.1 (List.mem_filter.1 hmem).1).1
    exact ⟨node, choice, hnode, Node.mem_numbered.1 hnumbered, rfl⟩
  · rw [List.pairwise_map]
    exact (node.numbered_increasing.filter _).filter _

/-- A session on a node of its dialogue has a menu, possibly an empty one. -/
theorem Sound.menu?_isSome {s : Session} (h : s.Sound) (w : World) : (s.menu? w).isSome := by
  have hknown := h.known
  rw [TextMap.contains] at hknown
  simpa [menu?] using hknown

theorem Sound.lists_getD {s : Session} (h : s.Sound) (w : World) :
    s.Lists ((s.menu? w).getD []) := by
  obtain ⟨menu, hmenu⟩ := Option.isSome_iff_exists.1 (h.menu?_isSome w)
  rw [hmenu]
  exact lists_menu? hmenu

/-- Going to a node of the dialogue keeps a session sound. -/
theorem Sound.goTo {s : Session} (h : s.Sound) {key : String} {node : Node}
    (hnode : s.graph.get? key = some node) : ({ s with node := key } : Session).Sound where
  known := by
    show s.graph.contains key = true
    rw [TextMap.contains, hnode]
    rfl
  picked := h.picked

end Session

namespace Conversation

/-! ## What moving on comes to -/

/-- The conversation with a menu up. -/
def shown (c : Conversation) (menu : List MenuItem) : Conversation :=
  { c with
    phase := .awaitingChoice
    next := .showOptions
    menu := menu
    events := c.events ++ [.optionsShown menu] }

/-- The menu that comes up when no line is left, if it is a menu that comes. -/
def menuAhead (c : Conversation) : Option (List MenuItem) :=
  match c.next with
  | .offer menu => some menu
  | .showOptions => c.session.bind fun s => s.menu? c.world
  | .enter _ | .exit => none

/-- A conversation that can move on: a sound session, nothing on screen, and one stretch of lines
in the queue. -/
structure Ready (c : Conversation) (s : Session) : Prop where
  session : c.session = some s
  sound : s.Sound
  turn : c.turn = none
  menu : c.menu = []
  linedUp : LinedUp c.queue c.next
  lists : ∀ menu, c.next = .offer menu → s.Lists menu

/-- What moving on comes to. A node that is gone to has its own lines, so the way through it is a
move again; its menu is settled by then, and no further node comes. -/
inductive Moved : Conversation → Conversation → Prop where
  /-- The next line plays. -/
  | line {c : Conversation} {phase : Phase} {line : Line} {rest : List (Phase × Line)}
      (hqueue : c.queue = (phase, line) :: rest) : Moved c (c.play phase line rest)
  /-- A menu comes up. -/
  | menu {c : Conversation} {menu : List MenuItem} (hqueue : c.queue = [])
      (hmenu : c.menuAhead = some menu) (hne : menu ≠ []) : Moved c (c.shown menu)
  /-- There is nothing to choose. -/
  | deadEnd {c : Conversation} (hqueue : c.queue = []) (hmenu : c.menuAhead = some []) :
      Moved c (c.ended .deadEnd)
  /-- A node is gone to. -/
  | arrival {c c' : Conversation} {s : Session} {key : String} {node : Node}
      (hqueue : c.queue = []) (hsession : c.session = some s) (hnext : c.next = .enter key)
      (hnode : s.graph.get? key = some node) (h : Moved (c.arrive s key node) c') : Moved c c'
  /-- The node to go to does not exist. -/
  | missing {c : Conversation} {s : Session} {key : String} (hqueue : c.queue = [])
      (hsession : c.session = some s) (hnext : c.next = .enter key)
      (hnode : s.graph.get? key = none) : Moved c (c.ended .missingNode)
  /-- The conversation ends as it was chosen to. -/
  | exited {c : Conversation} (hqueue : c.queue = []) (hnext : c.next = .exit) :
      Moved c (c.ended .exited)

variable {c c' : Conversation} {s : Session}

/-- A ready conversation that ends has no menu to take down. -/
theorem Ready.events_ended (h : Ready c s) (reason : EndReason) :
    (c.ended reason).events = c.events ++ [.ended reason] := by
  simp [ended, h.menu]

/-- Offering a menu puts it up, or ends the conversation if it is empty. -/
theorem value_offer (hs : c.session = some s) (menu : List MenuItem) :
    (c.settled.offer menu).value = if menu = [] then c.ended .deadEnd else c.shown menu := by
  unfold offer
  split
  · rename_i hnone
    exact absurd (hs.symm.trans hnone) (by simp)
  · split <;> rfl

/-- A menu that lies ahead is what comes of offering it. -/
theorem moved_offer (hs : c.session = some s) (hqueue : c.queue = []) {menu : List MenuItem}
    (hmenu : c.menuAhead = some menu) : Moved c (c.settled.offer menu).value := by
  rw [value_offer hs]
  split
  · rename_i hnil
    exact .deadEnd hqueue (hnil ▸ hmenu)
  · rename_i hne
    exact .menu hqueue hmenu hne

/-- The lines that play on entering a node are those of the block that is said. -/
theorem map_introLines (w : World) (node : Node) :
    (introLines w node).map Prod.snd = (node.introFor w).elim [] IntroBlock.lines := by
  unfold introLines
  cases node.introFor w <;> simp [Function.comp_def]

/-- Arriving at a node leaves a conversation ready that was. -/
theorem Ready.arrive {key : String} {node : Node} (h : Ready c s) (hqueue : c.queue = [])
    (hnode : s.graph.get? key = some node) :
    Ready (c.arrive s key node) { s with node := key } where
  session := rfl
  sound := h.sound.goTo hnode
  turn := h.turn
  menu := h.menu
  linedUp := by
    have hintro : ∀ entry ∈ introLines c.world node, entry.1 = .playingIntro := by
      intro entry hentry
      unfold introLines at hentry
      cases hblock : node.introFor c.world with
      | none => simp [hblock] at hentry
      | some block =>
        obtain ⟨line, -, rfl⟩ : ∃ line ∈ block.lines, (Phase.playingIntro, line) = entry := by
          simpa [hblock] using hentry
        rfl
    have hlineup : Lineup .playingIntro (c.arrive s key node).queue (c.arrive s key node).next := by
      refine ⟨fun entry hentry => hintro entry ?_, _, rfl⟩
      simpa [Conversation.arrive, hqueue] using hentry
    exact hlineup.linedUp
  lists := by
    rintro menu hmenu
    obtain rfl := Continuation.offer.inj hmenu
    exact (h.sound.goTo hnode).lists_getD c.world

/-- Playing what is queued on arrival is moving on from there. -/
theorem playOrOffer_eq_playNext {menu : List MenuItem} (hnext : c.next = .offer menu) :
    c.playOrOffer menu = c.playNext := by
  unfold playOrOffer playNext
  split
  · rfl
  · rw [proceed, hnext]

/-- Going to a node of the dialogue is arriving there and moving on. -/
theorem value_enterNode (hs : c.session = some s) {key : String} {node : Node}
    (hnode : s.graph.get? key = some node) :
    (c.settled.enterNode key).value = (c.arrive s key node).playNext.value := by
  unfold enterNode
  split
  · rename_i hnone
    exact absurd (hs.symm.trans hnone) (by simp)
  · rename_i t ht
    obtain rfl : s = t := Option.some.inj (hs.symm.trans ht)
    split
    · rename_i hmissing
      cases hnode.symm.trans hmissing
    · rename_i found hfound
      obtain rfl : node = found := Option.some.inj (hnode.symm.trans hfound)
      rw [← playOrOffer_eq_playNext (c := c.arrive s key node) rfl]
      rfl

/-- Going to a node that does not exist ends the conversation. -/
theorem value_enterNode_missing (hs : c.session = some s) {key : String}
    (hnode : s.graph.get? key = none) :
    (c.settled.enterNode key).value = c.ended .missingNode := by
  unfold enterNode
  split
  · rename_i hnone
    exact absurd (hs.symm.trans hnone) (by simp)
  · rename_i t ht
    obtain rfl : s = t := Option.some.inj (hs.symm.trans ht)
    split
    · rfl
    · rename_i found hfound
      cases hnode.symm.trans hfound

/-- Going to a node is moving on to it. -/
theorem moved_enterNode (hs : c.session = some s) (hqueue : c.queue = []) {key : String}
    (hnext : c.next = .enter key) : Moved c (c.settled.enterNode key).value := by
  cases hnode : s.graph.get? key with
  | none =>
    rw [value_enterNode_missing hs hnode]
    exact .missing hqueue hs hnext hnode
  | some node =>
    rw [value_enterNode hs hnode]
    refine .arrival hqueue hs hnext hnode ?_
    -- on arrival the menu is settled, so moving on from there comes to no further node
    unfold playNext
    split
    · rename_i hlines
      exact .line hlines
    · rename_i hlines
      exact moved_offer rfl hlines rfl

/-- **Moving on comes to one of the moves.** -/
theorem moved_playNext (h : Ready c s) : Moved c c.playNext.value := by
  unfold playNext
  split
  · rename_i hqueue
    exact .line hqueue
  · rename_i hqueue
    unfold proceed
    split
    · rename_i hnext
      obtain ⟨menu, hmenu⟩ := Option.isSome_iff_exists.1 (h.sound.menu?_isSome c.world)
      have hahead : c.menuAhead = some menu := by simp [menuAhead, hnext, h.session, hmenu]
      have hsettled : (c.settled.session.bind fun s => s.menu? c.settled.world) = some menu := by
        simpa [settled, h.session] using hmenu
      unfold showOptions
      rw [hsettled]
      exact moved_offer h.session hqueue hahead
    · rename_i menu hnext
      exact moved_offer h.session hqueue (by simp [menuAhead, hnext])
    · rename_i key hnext
      exact moved_enterNode h.session hqueue hnext
    · rename_i hnext
      exact .exited hqueue hnext

/-- Without a line in the queue, moving on to a menu that lies ahead is offering it. -/
theorem playNext_of_menuAhead (hs : c.session = some s) (hqueue : c.queue = [])
    {menu : List MenuItem} (hmenu : c.menuAhead = some menu) :
    c.playNext.value = if menu = [] then c.ended .deadEnd else c.shown menu := by
  rw [← value_offer hs, playNext, hqueue]
  unfold menuAhead at hmenu
  split at hmenu
  · rename_i hnext
    obtain rfl := Option.some.inj hmenu
    simp only [proceed, hnext]
  · rename_i hnext
    have hsettled : (c.settled.session.bind fun s => s.menu? c.settled.world) = some menu := hmenu
    simp only [proceed, hnext, showOptions, hsettled]
  · cases hmenu
  · cases hmenu

/-- Without a line in the queue, a conversation that is to end ends. -/
theorem playNext_of_exit (hqueue : c.queue = []) (hnext : c.next = .exit) :
    c.playNext.value = c.ended .exited := by
  simp [playNext, hqueue, proceed, hnext, finish, ended, settled]

/-- **A move is what moving on comes to.** -/
theorem value_of_moved (hm : Moved c c') (h : Ready c s) : c.playNext.value = c' := by
  induction hm generalizing s with
  | line hqueue => simp [playNext, hqueue]
  | menu hqueue hmenu hne => rw [playNext_of_menuAhead h.session hqueue hmenu, if_neg hne]
  | deadEnd hqueue hmenu => rw [playNext_of_menuAhead h.session hqueue hmenu, if_pos rfl]
  | arrival hqueue hsession hnext hnode _ ih =>
    obtain rfl := Option.some.inj (h.session.symm.trans hsession)
    rw [← ih (h.arrive hqueue hnode), ← value_enterNode hsession hnode, playNext, hqueue]
    simp only [proceed, hnext]
  | missing hqueue hsession hnext hnode =>
    rw [← value_enterNode_missing hsession hnode, playNext, hqueue]
    simp only [proceed, hnext]
  | exited hqueue hnext => exact playNext_of_exit hqueue hnext

/-- Going to a node at which nothing is said comes to its menu at once. -/
theorem playNext_of_noLines (h : Ready c s) (hqueue : c.queue = []) {key : String}
    {node : Node} (hnext : c.next = .enter key) (hnode : s.graph.get? key = some node)
    (hlines : introLines c.world node = []) {menu : List MenuItem}
    (hmenu : ({ s with node := key } : Session).menu? c.world = some menu) (hne : menu ≠ []) :
    c.playNext.value = (c.arrive s key node).shown menu := by
  have hnone : (c.arrive s key node).queue = [] := by simp [arrive, hqueue, hlines]
  have hahead : (c.arrive s key node).menuAhead = some menu := by simp [menuAhead, arrive, hmenu]
  exact value_of_moved (.arrival hqueue h.session hnext hnode (.menu hnone hahead hne)) h

/-- There is one way to move on. -/
theorem Moved.unique {d : Conversation} (hm : Moved c c') (h : Ready c s) (hm' : Moved c d) :
    c' = d := (value_of_moved hm h).symm.trans (value_of_moved hm' h)

end Conversation

end Colloquy
