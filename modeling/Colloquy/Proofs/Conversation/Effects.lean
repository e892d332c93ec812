import Colloquy.Proofs.Conversation.Coherence
import Colloquy.Proofs.World.Writes

/-!
# Effects — what a run does to the world

A conversation changes the world in one place: where a choice is picked. `picks` reads off a run
which choices were picked and where, and `Pick.enact` says what one of them does, in its order. The
world after a run is the world before it with the picks enacted one after the other
(`world_after`), whatever else was asked and however the conversations ended; what a label, a flag
or an item reads as afterwards follows from the list of picks.
-/

namespace Colloquy

/-- A choice that was picked, and where. -/
structure Pick where
  npc : String
  node : String
  /-- Its position among the choices of the node. -/
  index : Nat
  choice : Choice
  deriving DecidableEq

namespace Pick

/-- The flags that the pick sets, as they are written. -/
def flags (p : Pick) : List String :=
  (if p.choice.isOnce then [p.choice.onceFlag p.npc p.node p.index] else []) ++
    p.choice.effects.elim [] Effects.setFlags

/-- The items that the pick puts in the inventory. -/
def added (p : Pick) : List String := p.choice.effects.elim [] Effects.addItems

/-- The items that the pick takes out of the inventory. -/
def removed (p : Pick) : List String := p.choice.effects.elim [] Effects.removeItems

/-- The world with the pick enacted: its label is marked as asked, its flags are set, that it is
spent before those of its effects, then items are put in the inventory, and then items are taken
out. -/
def enact (p : Pick) (w : World) : World :=
  let asked := p.choice.id.elim w fun id => w.apply (.markAsked id)
  let flagged := p.flags.foldl (fun w flag => w.apply (.setFlag flag (.bool true))) asked
  let stocked := p.added.foldl (fun w item => w.apply (.addItem item)) flagged
  p.removed.foldl (fun w item => w.apply (.removeItem item)) stocked

/-- The pick as a list of changes. -/
def writes (p : Pick) : List Write := p.choice.writes p.npc p.node p.index

theorem writes_eq (p : Pick) :
    p.writes = p.choice.id.toList.map .markAsked ++
      (p.flags.map (fun flag => .setFlag flag (.bool true)) ++
        (p.added.map .addItem ++ p.removed.map .removeItem)) := by
  unfold writes Choice.writes flags added removed
  cases p.choice.effects with
  | none => split <;> simp
  | some e => split <;> simp [Effects.writes]

theorem enact_eq (p : Pick) (w : World) : p.enact w = w.applyAll p.writes := by
  rw [writes_eq, World.applyAll, List.foldl_append, List.foldl_append, List.foldl_append,
    List.foldl_map, List.foldl_map, List.foldl_map, enact]
  cases p.choice.id <;> rfl

/-! ## What one pick leaves in the world -/

variable {p : Pick} {w : World}

theorem visitedRooms_enact : (p.enact w).visitedRooms = w.visitedRooms := by
  rw [enact_eq]
  refine World.applyAll_unchanged World.visitedRooms fun change hmem w => ?_
  cases change with
  | visitRoom => simp [writes_eq] at hmem
  | setFlag | addItem | removeItem | setNpcState | markAsked => rfl

theorem npcStates_enact : (p.enact w).npcStates = w.npcStates := by
  rw [enact_eq]
  refine World.applyAll_unchanged World.npcStates fun change hmem w => ?_
  cases change with
  | setNpcState => simp [writes_eq] at hmem
  | setFlag | addItem | removeItem | visitRoom | markAsked => rfl

theorem hasAsked_enact (label : String) :
    (p.enact w).hasAsked label = (w.hasAsked label || p.choice.id = some label) := by
  rw [enact_eq, World.hasAsked_applyAll]
  simp [writes_eq]

theorem flagAt_enact (key : FlagName) :
    (p.enact w).flagAt key =
      if key ∈ p.flags.map FlagName.read then some (.bool true) else w.flagAt key := by
  have htrue : ∀ name value, .setFlag name value ∈ p.writes → value = .bool true := by
    rintro name value hmem
    obtain ⟨flag, -, -, hvalue⟩ :
        ∃ flag, flag ∈ p.flags ∧ flag = name ∧ FlagValue.bool true = value := by
      simpa [writes_eq] using hmem
    exact hvalue.symm
  have hset : p.writes.filterMap Write.flag? = p.flags.map FlagName.read := by
    have hnone : ∀ texts : List String, texts.filterMap (fun _ => (none : Option FlagName)) = [] :=
      fun _ => List.filterMap_eq_nil_iff.2 fun _ _ => rfl
    simp [writes_eq, List.filterMap_append, List.filterMap_map, Function.comp_def, Write.flag?,
      hnone]
  rw [enact_eq, World.flagAt_applyAll htrue, hset]

/-- An item that a pick puts in and does not take out is there. -/
theorem hasItem_enact_of_added {item : String} (hadded : item ∈ p.added)
    (hkept : item ∉ p.removed) : (p.enact w).hasItem item = true := by
  obtain ⟨first, later, hsplit⟩ := List.append_of_mem hadded
  rw [enact_eq, writes_eq, hsplit, List.map_append, List.map_cons, List.append_assoc,
    List.cons_append]
  simp only [← List.append_assoc]
  exact World.hasItem_applyAll_of_added (by simp [hkept])

/-- **An item that a pick takes out is gone**, whether or not the pick puts it in as well. -/
theorem hasItem_enact_of_removed {item : String} (h : item ∈ p.removed) :
    (p.enact w).hasItem item = false := by
  obtain ⟨first, later, hsplit⟩ := List.append_of_mem h
  rw [enact_eq, writes_eq, hsplit, List.map_append, List.map_cons]
  simp only [← List.append_assoc]
  exact World.hasItem_applyAll_of_removed (by simp)

theorem hasItem_enact_of_absent {item : String} (habsent : w.hasItem item = false)
    (hadded : item ∉ p.added) : (p.enact w).hasItem item = false := by
  rw [enact_eq]
  exact World.hasItem_applyAll_of_absent habsent (by simpa [writes_eq] using hadded)

/-! ## What several picks leave in the world -/

/-- The world with picks enacted, one after the other. -/
def enactAll (w : World) (picks : List Pick) : World := picks.foldl (fun w p => p.enact w) w

variable {picks : List Pick}

/-- What no pick changes, several do not change either. -/
theorem enactAll_unchanged {α : Type} (read : World → α)
    (h : ∀ (p : Pick) w, read (p.enact w) = read w) : read (enactAll w picks) = read w := by
  induction picks generalizing w with
  | nil => rfl
  | cons p rest ih => exact ih.trans (h p w)

theorem hasAsked_enactAll (label : String) :
    (enactAll w picks).hasAsked label =
      (w.hasAsked label || picks.any fun p => p.choice.id = some label) := by
  induction picks generalizing w with
  | nil => simp [enactAll]
  | cons p rest ih =>
    rw [List.any_cons, ← Bool.or_assoc, ← hasAsked_enact]
    exact ih

/-- **A flag that any pick sets is true in the end, and any other is as it was.** -/
theorem flagAt_enactAll (key : FlagName) :
    (enactAll w picks).flagAt key =
      if key ∈ picks.flatMap (fun p => p.flags.map FlagName.read) then some (.bool true)
      else w.flagAt key := by
  induction picks generalizing w with
  | nil => rfl
  | cons p rest ih =>
    refine Eq.trans ih ?_
    rw [flagAt_enact, List.flatMap_cons]
    by_cases hrest : key ∈ rest.flatMap fun p => p.flags.map FlagName.read
    · rw [if_pos hrest, if_pos (List.mem_append_right _ hrest)]
    · rw [if_neg hrest]
      simp only [List.mem_append, hrest, or_false]

/-- An item that no pick puts in without taking it out again stays away. -/
theorem hasItem_enactAll_of_absent {item : String} (habsent : w.hasItem item = false)
    (hkept : ∀ p ∈ picks, item ∈ p.added → item ∈ p.removed) :
    (enactAll w picks).hasItem item = false := by
  induction picks generalizing w with
  | nil => exact habsent
  | cons p rest ih =>
    refine ih (w := p.enact w) ?_ fun q hq => hkept q (List.mem_cons_of_mem _ hq)
    by_cases hadded : item ∈ p.added
    · exact hasItem_enact_of_removed (hkept p List.mem_cons_self hadded)
    · exact hasItem_enact_of_absent habsent hadded

theorem hasItem_enactAll_of_removed {item : String} {first later : List Pick} {p : Pick}
    (hremoved : item ∈ p.removed) (hlater : ∀ q ∈ later, item ∈ q.added → item ∈ q.removed) :
    (enactAll w (first ++ p :: later)).hasItem item = false := by
  rw [enactAll, List.foldl_append]
  exact hasItem_enactAll_of_absent (w := p.enact (enactAll w first))
    (hasItem_enact_of_removed hremoved) hlater

end Pick

/-- Whether a request changes the world from outside. -/
def Request.changesWorld : Request → Bool
  | .write _ | .replace _ => true
  | .enterAt .. | .select _ | .update _ | .skip | .exit | .drain => false

namespace Conversation

variable {c c' : Conversation}

/-! ## Which choices are picked -/

/-- The choice that a request picks: while a menu is up, the one that the selected item stands
for. -/
def pick? (c : Conversation) : Request → Option Pick
  | .select place =>
    if c.phase = .awaitingChoice then do
      let item ← c.menu[place]?
      let s ← c.session
      let node ← s.graph.get? s.node
      let choice ← node.choices[item.index]?
      return ⟨s.npc, s.node, item.index, choice⟩
    else none
  | .enterAt .. | .update _ | .skip | .exit | .drain | .write _ | .replace _ => none

/-- The choices that are picked in a run, in order. -/
def picks (c : Conversation) : List Request → List Pick
  | [] => []
  | request :: rest => (c.pick? request).toList ++ (c.respond request).value.2.picks rest

theorem picks_append (c : Conversation) (first later : List Request) :
    c.picks (first ++ later) = c.picks first ++ (c.after first).picks later := by
  induction first generalizing c with
  | nil => rfl
  | cons request rest ih => rw [List.cons_append, picks, picks, ih, after_cons, List.append_assoc]

/-- **Just the selections that are accepted pick a choice.** -/
theorem accepted_iff_of_response {request : Request} {answer : Answer}
    (hr : Response c request answer c') :
    answer = .selected .accepted ↔ (c.pick? request).isSome := by
  cases hr with
  | picked hphase hitem hs hnode hchoice => simp [pick?, hphase, hitem, hs, hnode, hchoice]
  | invalidChoice hphase hitem => simp [pick?, hphase, hitem]
  | ignored hphase => simp [pick?, hphase]
  | began | alreadyActive | unknownEntry | elapsed | skipped | kept | ended | idle | drained
    | written | replaced => simp [pick?]

/-! ## Nothing but a pick touches the world -/

theorem world_of_moved (hm : Moved c c') : c'.world = c.world := by
  induction hm with
  | line | menu | deadEnd | missing | exited => rfl
  | arrival _ _ _ _ _ ih => exact ih

theorem world_of_elapsed (he : Elapsed c c') : c'.world = c.world := by
  induction he with
  | still | credited => rfl
  | moved _ hm _ ih =>
    have hworld := world_of_moved hm
    exact ih.trans hworld

/-- **A request changes the world by what it picks**, and not at all if it picks nothing. -/
theorem world_of_response {request : Request} {answer : Answer}
    (hr : Response c request answer c') (hinside : request.changesWorld = false) :
    c'.world = (c.pick? request).elim c.world fun p => p.enact c.world := by
  cases hr with
  | picked hphase hitem hs hnode hchoice hm =>
    rw [world_of_moved hm]
    simp [pick?, hphase, hitem, hs, hnode, hchoice, picked, Pick.enact_eq, Pick.writes]
  | began _ _ hm | skipped _ _ hm =>
    have hworld := world_of_moved hm
    exact hworld
  | elapsed he => exact world_of_elapsed he
  | invalidChoice hphase hitem => simp [pick?, hphase, hitem]
  | ignored hphase => simp [pick?, hphase]
  | alreadyActive | unknownEntry | kept | ended | idle | drained => rfl
  | written | replaced => cases hinside

/-- **The world after a run is the world before it with the picks enacted in order.** -/
theorem world_after (h : Coherent c) {requests : List Request}
    (hinside : ∀ request ∈ requests, request.changesWorld = false) :
    (c.after requests).world = Pick.enactAll c.world (c.picks requests) := by
  induction requests generalizing c with
  | nil => rfl
  | cons request rest ih =>
    have hfirst := world_of_response (response h request) (hinside request List.mem_cons_self)
    have hrest := ih (coherent_respond h request)
      fun r hr => hinside r (List.mem_cons_of_mem _ hr)
    rw [after_cons, hrest, picks, hfirst]
    cases c.pick? request <;> rfl

/-- **Only picks change the world, and each by exactly its effects.** Whatever is asked of a fresh
conversation, if nobody changes the world from outside, then the world in the end is the first one
with the picks enacted in the order in which they were accepted. An accepted selection is answered
with all of its effects done, and no other request has any. So rooms and moods never change, labels
are only added, an item that a pick takes out stays away until a pick puts it in for good, and each
flag is true if a pick sets it and as it was at first otherwise. -/
theorem picks_change_world (world : World) (pacing : Pacing) {requests : List Request}
    (hinside : ∀ request ∈ requests, request.changesWorld = false) :
    let c := (fresh world pacing).after requests
    let picks := (fresh world pacing).picks requests
    c.world = picks.foldl (fun w p => p.enact w) world ∧
    (∀ request, request.changesWorld = false →
      ((c.respond request).value.1 = .selected .accepted ↔ (c.pick? request).isSome) ∧
      (c.respond request).value.2.world =
        (c.pick? request).elim c.world fun p => p.enact c.world) ∧
    c.world.visitedRooms = world.visitedRooms ∧
    c.world.npcStates = world.npcStates ∧
    (∀ label, c.world.hasAsked label =
      (world.hasAsked label || picks.any fun p => p.choice.id = some label)) ∧
    (∀ earlier p later item, picks = earlier ++ p :: later → item ∈ p.removed →
      (∀ q ∈ later, item ∈ q.added → item ∈ q.removed) → c.world.hasItem item = false) ∧
    ∀ key, c.world.flagAt key =
      if key ∈ picks.flatMap (fun p => p.flags.map FlagName.read) then some (.bool true)
      else world.flagAt key := by
  intro c picks
  have hfresh := coherent_fresh world pacing
  have hworld : c.world = Pick.enactAll world picks := world_after hfresh hinside
  refine ⟨hworld, fun request hrequest => ?_, ?_, ?_, fun label => ?_, ?_, fun key => ?_⟩
  · have hresponse := response (hfresh.after requests) request
    exact ⟨accepted_iff_of_response hresponse, world_of_response hresponse hrequest⟩
  · rw [hworld, Pick.enactAll_unchanged World.visitedRooms fun _ _ => Pick.visitedRooms_enact]
  · rw [hworld, Pick.enactAll_unchanged World.npcStates fun _ _ => Pick.npcStates_enact]
  · rw [hworld, Pick.hasAsked_enactAll]
  · intro earlier p later item hsplit hremoved hlater
    rw [hworld, hsplit]
    exact Pick.hasItem_enactAll_of_removed hremoved hlater
  · rw [hworld, Pick.flagAt_enactAll]

/-- A choice with every kind of effect, which leads nowhere. Two of its flags are the same one, and
it takes out what it puts in. -/
def borrowing : Choice :=
  { text := "Borrow", id := some "lamp", nextNode := some "nowhere"
    effects := some {
      setFlags := ["lit", " misc.lit "], addItems := ["key"], removeItems := ["key"], once := true } }

/-- A dialogue of one choice. -/
def lending : Graph := TextMap.empty.insert "start" { choices := [borrowing] }

theorem picks_change_world_borrowing :
    let requests : List Request := [.enterAt "zyx" lending "start", .select 0, .exit]
    let c := (fresh .empty {}).after requests
    (∀ request ∈ requests, request.changesWorld = false) ∧
      (fresh .empty {}).picks requests = [⟨"zyx", "start", 0, borrowing⟩] ∧
      c.world.hasAsked "lamp" = true ∧ c.world.hasItem "key" = false ∧
      c.world.flagAt ⟨"misc", "lit"⟩ = some (.bool true) ∧
      c.world.flagAt ⟨"once", "zyx.start.lamp"⟩ = some (.bool true) ∧
      c.world.flagAt ⟨"misc", "lamp"⟩ = none := by
  intro requests c
  have hinside : ∀ request ∈ requests, request.changesWorld = false := by decide
  have hpicks : (fresh .empty {}).picks requests = [⟨"zyx", "start", 0, borrowing⟩] := by decide
  obtain ⟨-, -, -, -, hasked, hgone, hflag⟩ := picks_change_world .empty {} hinside
  rw [hpicks] at hasked hgone hflag
  have hkey : "key" ∈ (⟨"zyx", "start", 0, borrowing⟩ : Pick).removed := by decide
  refine ⟨hinside, hpicks, ?_, ?_, ?_, ?_, ?_⟩
  · rw [hasked]
    decide
  · exact hgone [] _ [] "key" rfl hkey (by simp)
  · rw [hflag]
    decide
  · rw [hflag]
    decide
  · rw [hflag]
    decide

end Conversation

end Colloquy
