import Colloquy.Proofs.Conversation.Spent

/-!
# Used marks — which choices of a menu were picked before

A menu marks the choices that were picked before, and the marks are settled with the menu: on
entering a node, long before the menu goes up, or when the lines of a choice are through. What was
picked is told by the transcript of a run, in which every pick stands in front of the events that it
leads to. `Marked` says that a session agrees with the transcript about where it stands and what was
picked since the conversation began; every move and every response keeps it. So every menu is marked
right (`used_marks_exact`): from settling a menu to its going up only lines are told, and a new
conversation begins without picks.
-/

namespace Colloquy

namespace Transcript

/-- What a run has to tell: a choice was picked, or an event was told. -/
inductive Entry where
  | pick (pick : Pick)
  | event (event : Event)
  deriving DecidableEq

/-- The pick, if it is one. -/
def Entry.pick? : Entry → Option Pick
  | .pick p => some p
  | .event _ => none

/-- The event, if it is one. -/
def Entry.event? : Entry → Option Event
  | .pick _ => none
  | .event e => some e

end Transcript

/-- The picks of a run and its events, each pick in front of the events that it leads to. -/
abbrev Transcript := List Transcript.Entry

namespace Transcript

variable {t : Transcript} {s : Session} {menu : List MenuItem} {node : String} {index : Nat}

/-- There is an entry of one kind with none of another kind behind it. -/
def Since (kind other : Entry → Prop) (t : Transcript) : Prop :=
  ∃ earlier entry later, t = earlier ++ entry :: later ∧ kind entry ∧ ∀ e ∈ later, ¬ other e

/-- A choice of a node was picked since a conversation began. -/
def PickedNow (t : Transcript) (node : String) (index : Nat) : Prop :=
  Since (fun e => ∃ p, e = .pick p ∧ p.node = node ∧ p.index = index)
    (fun e => ∃ npc, e = .event (.started npc)) t

/-- A node is the one that was entered last. -/
def StandsAt (t : Transcript) (node : String) : Prop :=
  Since (· = .event (.nodeEntered node)) (fun e => ∃ other, e = .event (.nodeEntered other)) t

/-- A menu of the node that was entered last marks just the choices of this node that were picked
since the conversation began. -/
def Marks (t : Transcript) (menu : List MenuItem) : Prop :=
  ∃ node, t.StandsAt node ∧ ∀ item ∈ menu, item.used = true ↔ t.PickedNow node item.index

/-- Every menu that goes up is marked as what was told before says. -/
def Faithful (t : Transcript) : Prop :=
  ∀ before menu later, t = before ++ .event (.optionsShown menu) :: later → Marks before menu

/-- A session agrees with a transcript about its node and about what was picked. -/
structure Tracks (t : Transcript) (s : Session) : Prop where
  node : t.StandsAt s.node
  used : ∀ node index, s.used.isUsed node index = true ↔ t.PickedNow node index

/-! ## One more entry -/

/-- An entry of a longer transcript is the last one, or an entry of what comes before it. -/
theorem split_snoc {earlier later : Transcript} {e entry : Entry}
    (h : t ++ [e] = earlier ++ entry :: later) :
    (t = earlier ∧ e = entry) ∨ ∃ between, later = between ++ [e] ∧
      t = earlier ++ entry :: between := by
  rcases List.eq_nil_or_concat later with rfl | ⟨between, last, rfl⟩
  · exact .inl (List.append_singleton_inj.1 h)
  · rw [List.concat_eq_append, ← List.cons_append, ← List.append_assoc] at h
    obtain ⟨rfl, rfl⟩ := List.append_singleton_inj.1 h
    exact .inr ⟨between, List.concat_eq_append, rfl⟩

theorem since_snoc {kind other : Entry → Prop} {e : Entry} :
    Since kind other (t ++ [e]) ↔ kind e ∨ ¬ other e ∧ Since kind other t := by
  constructor
  · rintro ⟨earlier, entry, later, hsplit, hkind, hlater⟩
    obtain ⟨-, rfl⟩ | ⟨between, rfl, rfl⟩ := split_snoc hsplit
    · exact .inl hkind
    · exact .inr ⟨hlater e (by simp), earlier, entry, between, rfl, hkind,
        fun x hx => hlater x (by simp [hx])⟩
  · rintro (hkind | ⟨hother, earlier, entry, later, rfl, hkind, hlater⟩)
    · exact ⟨t, e, [], rfl, hkind, fun _ hx => absurd hx List.not_mem_nil⟩
    · refine ⟨earlier, entry, later ++ [e], by simp, hkind, fun x hx => ?_⟩
      rcases List.mem_append.1 hx with hx | hx
      · exact hlater x hx
      · exact List.mem_singleton.1 hx ▸ hother

theorem pickedNow_pick {p : Pick} : PickedNow (t ++ [.pick p]) node index ↔
    (p.node = node ∧ p.index = index) ∨ t.PickedNow node index := by
  simp [PickedNow, since_snoc]

/-- An event is no pick, and none but the beginning of a conversation makes picks count no more. -/
theorem pickedNow_event {event : Event} (h : ∀ npc, event ≠ .started npc) :
    PickedNow (t ++ [.event event]) node index ↔ t.PickedNow node index := by
  simp [PickedNow, since_snoc, h]

theorem not_pickedNow_started {npc : String} :
    ¬ PickedNow (t ++ [.event (.started npc)]) node index := by
  simp [PickedNow, since_snoc]

theorem standsAt_entered {key : String} : StandsAt (t ++ [.event (.nodeEntered key)]) key :=
  since_snoc.2 (.inl rfl)

/-- What enters no node leaves the node alone. -/
theorem StandsAt.snoc (h : t.StandsAt node) {e : Entry}
    (he : ∀ key, e ≠ .event (.nodeEntered key)) : StandsAt (t ++ [e]) node :=
  since_snoc.2 (.inr ⟨fun ⟨key, hkey⟩ => he key hkey, h⟩)

theorem Faithful.nil : Faithful [] := fun before menu later h => by simp at h

/-- One more entry is faithful if it is no menu, or one that is marked right. -/
theorem Faithful.snoc (h : t.Faithful) {e : Entry}
    (he : ∀ menu, e = .event (.optionsShown menu) → t.Marks menu) : Faithful (t ++ [e]) := by
  intro before menu later hsplit
  obtain ⟨rfl, rfl⟩ | ⟨between, -, rfl⟩ := split_snoc hsplit
  · exact he menu rfl
  · exact h before menu between rfl

theorem Faithful.pick (h : t.Faithful) (p : Pick) : Faithful (t ++ [.pick p]) :=
  h.snoc fun _ heq => by cases heq

theorem Faithful.event (h : t.Faithful) (event : Event)
    (he : ∀ menu, event ≠ .optionsShown menu) : Faithful (t ++ [.event event]) :=
  h.snoc fun menu heq => absurd (Entry.event.inj heq) (he menu)

/-! ## What a session makes of it -/

/-- Going to a node keeps what was picked. -/
theorem tracks_entered
    (hused : ∀ node index, s.used.isUsed node index = true ↔ t.PickedNow node index)
    (key : String) : Tracks (t ++ [.event (.nodeEntered key)]) { s with node := key } where
  node := standsAt_entered
  used _ _ := (hused _ _).trans (pickedNow_event fun _ => Event.noConfusion).symm

namespace Tracks

/-- **A menu that lists choices as the session offers them is marked right.** -/
theorem marks (h : t.Tracks s) (hlists : s.Lists menu) : t.Marks menu := by
  refine ⟨s.node, h.node, fun item hitem => ?_⟩
  obtain ⟨-, choice, -, -, hoffered⟩ := hlists.1 item hitem
  rw [hoffered]
  exact h.used s.node item.index

theorem event (h : t.Tracks s) (event : Event) (hstarted : ∀ npc, event ≠ .started npc)
    (hentered : ∀ key, event ≠ .nodeEntered key) : Tracks (t ++ [.event event]) s where
  node := h.node.snoc fun key heq => hentered key (Entry.event.inj heq)
  used _ _ := (h.used _ _).trans (pickedNow_event hstarted).symm

/-- **Marking a choice of the node is picking it.** -/
theorem pick (h : t.Tracks s) {p : Pick} (hnode : p.node = s.node) :
    Tracks (t ++ [.pick p]) { s with used := s.used.mark s.node p.index } where
  node := h.node.snoc fun _ => Entry.noConfusion
  used node index := by
    refine Conversation.isUsed_mark.trans (Iff.trans ?_ pickedNow_pick.symm)
    rw [Prod.mk.injEq, h.used, hnode, eq_comm (a := node), eq_comm (a := index)]

end Tracks

end Transcript

namespace Conversation

variable {c c' : Conversation} {s : Session} {t : Transcript}

/-! ## Transcripts of runs -/

/-- What a request adds to the transcript. -/
def entries (c : Conversation) (request : Request) : Transcript :=
  (c.pick? request).toList.map .pick ++ (c.news request).map .event

/-- The transcript of a run. -/
def transcript (c : Conversation) : List Request → Transcript
  | [] => []
  | request :: rest => c.entries request ++ (c.respond request).value.2.transcript rest

theorem picks_entries (c : Conversation) (request : Request) :
    (c.entries request).filterMap Transcript.Entry.pick? = (c.pick? request).toList := by
  cases hpick : c.pick? request <;>
    simp [entries, hpick, List.filterMap_map, Function.comp_def, Transcript.Entry.pick?]

theorem events_entries (c : Conversation) (request : Request) :
    (c.entries request).filterMap Transcript.Entry.event? = c.news request := by
  cases hpick : c.pick? request <;>
    simp [entries, hpick, List.filterMap_cons, List.filterMap_map, Function.comp_def,
      Transcript.Entry.event?]

/-- The picks of a transcript are those of the run. -/
theorem picks_transcript (c : Conversation) (requests : List Request) :
    (c.transcript requests).filterMap Transcript.Entry.pick? = c.picks requests := by
  induction requests generalizing c with
  | nil => rfl
  | cons request rest ih => rw [transcript, List.filterMap_append, picks_entries, ih, picks]

/-- The events of a transcript are those that the run tells. -/
theorem told_eq_transcript (h : Coherent c) (requests : List Request) :
    c.told requests =
      c.events ++ (c.transcript requests).filterMap Transcript.Entry.event? := by
  rw [told_eq_chronicle h]
  congr 1
  clear h
  induction requests generalizing c with
  | nil => rfl
  | cons request rest ih =>
    rw [transcript, List.filterMap_append, events_entries, ← ih, chronicle]
    simp [Chronicle.within, Function.comp_def]

/-! ## Conversations that agree with their transcript -/

/-- Every menu of the transcript is marked right, and the session agrees with the transcript. -/
structure Marked (c : Conversation) (t : Transcript) : Prop where
  faithful : t.Faithful
  tracks : ∀ s, c.session = some s → t.Tracks s

theorem marked_ended (c : Conversation) (hf : t.Faithful) (reason : EndReason) :
    Marked (c.ended reason) (t ++ [.event (.ended reason)]) where
  faithful := hf.event _ fun _ => Event.noConfusion
  tracks := fun _ hs => by cases hs

/-- **A move keeps the agreement**: a menu that goes up is marked as the session says. -/
theorem marked_of_moved (hm : Moved c c') (hr : Ready c s) (ht : t.Tracks s) (hf : t.Faithful) :
    ∃ news, c'.events = c.events ++ news ∧ Marked c' (t ++ news.map .event) := by
  -- a line, a menu or an end is one entry; an arrival is one entry in front of another move
  induction hm generalizing s t with
  | @line c phase line rest _ =>
    refine ⟨[.line line], rfl, hf.event _ fun _ => Event.noConfusion, fun s' hs' => ?_⟩
    obtain rfl : s = s' := Option.some.inj (hr.session.symm.trans hs')
    exact ht.event _ (fun _ => Event.noConfusion) fun _ => Event.noConfusion
  | @menu c menu _ hmenu _ =>
    refine ⟨[.optionsShown menu], rfl, hf.snoc fun _ heq => ?_, fun s' hs' => ?_⟩
    · cases heq
      exact ht.marks (hr.lists_menuAhead hmenu)
    · obtain rfl : s = s' := Option.some.inj (hr.session.symm.trans hs')
      exact ht.event _ (fun _ => Event.noConfusion) fun _ => Event.noConfusion
  | @arrival c c' s' key node hqueue hsession _ hnode _ ih =>
    obtain rfl : s = s' := Option.some.inj (hr.session.symm.trans hsession)
    obtain ⟨news, hnews, hmarked⟩ := ih (hr.arrive hqueue hnode)
      (Transcript.tracks_entered ht.used key) (hf.event _ fun _ => Event.noConfusion)
    refine ⟨.nodeEntered key :: news, by simp [hnews, arrive], ?_⟩
    simpa using hmarked
  | deadEnd | missing | exited => exact ⟨_, hr.events_ended _, marked_ended _ hf _⟩

theorem marked_of_elapsed (he : Elapsed c c') (hc : Coherent c) (hm : Marked c t) :
    ∃ news, c'.events = c.events ++ news ∧ Marked c' (t ++ news.map .event) := by
  induction he generalizing t with
  | still => exact ⟨[], by simp, by simpa using hm⟩
  | credited => exact ⟨[], by simp, by simpa using ⟨hm.faithful, hm.tracks⟩⟩
  | @moved c c₁ c' _ hturn hmoved _ ih =>
    obtain ⟨s, hready⟩ := hc.ready_silenced hturn
    obtain ⟨first, hfirst, hmarked⟩ :=
      marked_of_moved hmoved hready (hm.tracks s hready.session) hm.faithful
    obtain ⟨later, hlater, hmarked'⟩ := ih (coherent_of_moved hmoved hready) hmarked
    refine ⟨first ++ later, by rw [hlater, hfirst, List.append_assoc]; rfl, ?_⟩
    rw [List.map_append, ← List.append_assoc]
    exact hmarked'

/-- A conversation that begins has picked nothing. -/
theorem marked_began (hc : Coherent c) (hf : t.Faithful) (hs : c.session = none) {npc : String}
    {graph : Graph} {node : String} (hnode : graph.contains node = true)
    (hm : Moved (c.begun npc graph node) c') :
    ∃ news, c'.events = c.events ++ news ∧ Marked c' (t ++ news.map .event) := by
  obtain ⟨n, -, hready, hm⟩ := hc.arrives_of_begun hs hnode hm
  have hstarted := hf.event (.started npc) fun _ => Event.noConfusion
  have hused : ∀ key index, (({} : UsedChoices).isUsed key index = true ↔
      Transcript.PickedNow (t ++ [.event (.started npc)]) key index) := fun key index =>
    iff_of_false (by simp [UsedChoices.isUsed]) Transcript.not_pickedNow_started
  obtain ⟨news, hnews, hmarked⟩ := marked_of_moved hm hready
    (Transcript.tracks_entered (s := ⟨npc, graph, node, {}⟩) hused node)
    (hstarted.event _ fun _ => Event.noConfusion)
  refine ⟨.started npc :: .nodeEntered node :: news, by simp [hnews, arrive, begun], ?_⟩
  simpa using hmarked

/-- **A response keeps the agreement.** -/
theorem marked_of_response {request : Request} {answer : Answer}
    (hr : Response c request answer c') (hc : Coherent c) (hm : Marked c t) :
    ∃ news, answer.taken ++ c'.events = c.events ++ news ∧
      Marked c' (t ++ ((c.pick? request).toList.map .pick ++ news.map .event)) := by
  cases hr with
  | began hs hnode hmoved =>
    obtain ⟨news, hnews, hmarked⟩ := marked_began hc hm.faithful hs hnode hmoved
    exact ⟨news, hnews, hmarked⟩
  | @picked place item s node choice _ hphase hitem hs hnode hchoice hmoved =>
    have hpick : c.pick? (.select place) = some ⟨s.npc, s.node, item.index, choice⟩ := by
      simp [pick?, hphase, hitem, hs, hnode, hchoice]
    -- the pick stands in front of the menu coming down
    have htracks := (hm.tracks s hs).pick (p := ⟨s.npc, s.node, item.index, choice⟩) rfl
    have hfaithful := hm.faithful.pick ⟨s.npc, s.node, item.index, choice⟩
    obtain ⟨news, hnews, hmarked⟩ :=
      marked_of_moved hmoved (hc.ready_picked hphase hs hnode hchoice)
        (htracks.event .optionsHidden (fun _ => Event.noConfusion) fun _ => Event.noConfusion)
        (hfaithful.event .optionsHidden fun _ => Event.noConfusion)
    refine ⟨.optionsHidden :: news, by simp [Answer.taken, hnews, Conversation.picked], ?_⟩
    simpa [hpick] using hmarked
  | elapsed he => exact marked_of_elapsed he hc hm
  | skipped hturn _ hmoved =>
    obtain ⟨s, hready⟩ := hc.ready_silenced hturn
    obtain ⟨news, hnews, hmarked⟩ :=
      marked_of_moved hmoved hready (hm.tracks s hready.session) hm.faithful
    exact ⟨news, hnews, hmarked⟩
  | ended hs =>
    by_cases hmenu : c.menu = []
    · exact ⟨[.ended .requested], by simp [Answer.taken, Conversation.ended, hmenu],
        marked_ended c hm.faithful _⟩
    · refine ⟨[.optionsHidden, .ended .requested],
        by simp [Answer.taken, Conversation.ended, hmenu], ?_⟩
      have hhidden := hm.faithful.event .optionsHidden fun _ => Event.noConfusion
      simpa [pick?] using marked_ended c hhidden .requested
  | drained => exact ⟨[], by simp [Answer.taken], by simpa [pick?] using ⟨hm.faithful, hm.tracks⟩⟩
  | written | replaced =>
    exact ⟨[], by simp [Answer.taken], by simpa [pick?] using ⟨hm.faithful, hm.tracks⟩⟩
  | invalidChoice hphase hitem =>
    exact ⟨[], by simp [Answer.taken], by simpa [pick?, hphase, hitem] using hm⟩
  | ignored hphase => exact ⟨[], by simp [Answer.taken], by simpa [pick?, hphase] using hm⟩
  | alreadyActive | unknownEntry | kept | idle =>
    exact ⟨[], by simp [Answer.taken], by simpa [pick?] using hm⟩

theorem marked_respond (hc : Coherent c) (hm : Marked c t) (request : Request) :
    Marked (c.respond request).value.2 (t ++ c.entries request) := by
  obtain ⟨news, htold, hmarked⟩ := marked_of_response (response hc request) hc hm
  rw [entries, news_eq htold]
  exact hmarked

/-- **A conversation agrees with its transcript after every run.** -/
theorem marked_after (hc : Coherent c) (hm : Marked c t) (requests : List Request) :
    Marked (c.after requests) (t ++ c.transcript requests) := by
  induction requests generalizing c t with
  | nil => simpa [transcript] using hm
  | cons request rest ih =>
    rw [after_cons, transcript, ← List.append_assoc]
    exact ih (coherent_respond hc request) (marked_respond hc hm request)

/-! ## Marks of menus -/

/-- An item of the menu that is up is marked as the session says. -/
theorem Coherent.used_of_mem_menu (h : Coherent c) {item : MenuItem} (hitem : item ∈ c.menu) :
    ∃ s, c.session = some s ∧ item.used = s.used.isUsed s.node item.index := by
  have hphase := h.awaiting_iff.2 (List.ne_nil_of_mem hitem)
  obtain ⟨s, hs⟩ := Option.isSome_iff_exists.1 (h.awaiting hphase).1
  obtain ⟨-, choice, -, -, hoffered⟩ := (h.lists s hs).1.1 item hitem
  rw [hoffered]
  exact ⟨s, hs, rfl⟩

/-- **A conversation begins without a mark**, whatever was picked in an earlier one. -/
theorem unmarked_of_began (hc : Coherent c) {npc : String} {graph : Graph} {node : String}
    (hr : Response c (.enterAt npc graph node) .done c') :
    (∀ item ∈ c'.menu, item.used = false) ∧
      ∀ used, c'.usedChoices = some used → ∀ key index, used.isUsed key index = false := by
  cases hr with
  | began hs hnode hm =>
    have hready := hc.ready_begun hs npc hnode
    have hnone : ∀ s, c'.session = some s → ∀ key index, s.used.isUsed key index = false := by
      intro s hs' key index
      have hused := congrArg Session.used (session_of_moved hm hready.session hs' node)
      rw [show s.used = {} from hused]
      simp [UsedChoices.isUsed]
    constructor
    · intro item hitem
      obtain ⟨s, hs', hused⟩ := (coherent_of_moved hm hready).used_of_mem_menu hitem
      rw [hused, hnone s hs']
    · intro used hused
      obtain ⟨s, hs', rfl⟩ := Option.map_eq_some_iff.1 hused
      exact hnone s hs'

/-- **Used marks are exact.** The transcript of a run has the events that the run tells and its
picks, and a choice is picked just when a selection is accepted. In every menu that went up on the
way, and in the one that is up, a choice of the node that was entered last is marked if it was
picked since the conversation began, and only then. While a conversation runs, what was picked in it
can be asked for by any node and position, and the same holds of the answer. A conversation begins
without a mark. -/
theorem used_marks_exact (world : World) (pacing : Pacing) (requests : List Request) :
    let c := (fresh world pacing).after requests
    let t := (fresh world pacing).transcript requests
    (t.filterMap Transcript.Entry.event? = (fresh world pacing).told requests ∧
      t.filterMap Transcript.Entry.pick? = (fresh world pacing).picks requests ∧
      ∀ request, (c.respond request).value.1 = .selected .accepted ↔
        (c.pick? request).isSome = true) ∧
    (t.Faithful ∧ (c.phase = .awaitingChoice → t.Marks c.menu)) ∧
    ((c.usedChoices = none ↔ c.phase = .idle) ∧ ∀ used, c.usedChoices = some used →
      ∀ node index, used.isUsed node index = true ↔ t.PickedNow node index) ∧
    ∀ npc graph node, (c.respond (.enterAt npc graph node)).value.1 = .done →
      let begun := (c.respond (.enterAt npc graph node)).value.2
      (∀ item ∈ begun.menu, item.used = false) ∧
        ∀ used, begun.usedChoices = some used → ∀ key index, used.isUsed key index = false := by
  intro c t
  have hfresh := coherent_fresh world pacing
  have hc : Coherent c := hfresh.after requests
  have hm : Marked c t :=
    marked_after (t := []) hfresh ⟨.nil, fun _ hs => by cases hs⟩ requests
  refine ⟨⟨?_, picks_transcript _ requests,
      fun request => accepted_iff_of_response (response hc request)⟩,
    ⟨hm.faithful, fun hphase => ?_⟩, ⟨?_, fun used hused => ?_⟩, fun npc graph node hdone => ?_⟩
  · exact (told_eq_transcript hfresh requests).symm
  · obtain ⟨s, hs⟩ := Option.isSome_iff_exists.1 (hc.awaiting hphase).1
    exact (hm.tracks s hs).marks (hc.lists s hs).1
  · rw [hc.idle_iff, usedChoices, Option.map_eq_none_iff]
  · obtain ⟨s, hs, rfl⟩ := Option.map_eq_some_iff.1 hused
    exact (hm.tracks s hs).used
  · have hr := response hc (.enterAt npc graph node)
    rw [hdone] at hr
    exact unmarked_of_began hc hr

/-- A choice that stays is picked, and the conversation is left and begun again. -/
theorem used_marks_exact_riddle :
    let c := fresh .empty {}
    let asked : List Request := [.enterAt "sphinx" riddle "start", .select 1]
    let again : Request := .enterAt "sphinx" riddle "start"
    (c.after asked).menu = [⟨0, "Ask", false⟩, ⟨1, "Ponder", true⟩, ⟨2, "Leave", false⟩] ∧
      (c.transcript asked).PickedNow "start" 1 ∧ (c.transcript asked).Marks (c.after asked).menu ∧
      ∀ item ∈ ((c.after (asked ++ [.exit])).respond again).value.2.menu, item.used = false := by
  intro c asked again
  obtain ⟨-, ⟨-, hmarks⟩, ⟨-, hused⟩, -⟩ := used_marks_exact .empty {} asked
  have hpicked : (c.after asked).usedChoices = some ⟨[("start", 1)]⟩ := by decide
  have hdone : ((c.after (asked ++ [.exit])).respond again).value.1 = .done := by decide
  obtain ⟨-, -, -, hbegun⟩ := used_marks_exact .empty {} (asked ++ [.exit])
  exact ⟨by decide, (hused _ hpicked "start" 1).1 (by decide), hmarks (by decide),
    (hbegun "sphinx" riddle "start" hdone).1⟩

end Conversation

end Colloquy
