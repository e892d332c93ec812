import Colloquy.Proofs.Conversation.Record

/-!
# Showings — the session in which a menu goes up, and the world that settled it

An event says that a menu went up, but not of which character and at which node. It does not have
to: a menu is the last thing that a request tells, so the conversation that the request leaves
stands where the menu went up and has it up (`shown_respond`). The world in which the menu was
settled may be an older one, but no older than the last pick: it is one that the run went through
since then (`settled_since_pick`).
-/

namespace Colloquy

/-- **A menu has a choice of its node just if the choice is on offer.** -/
theorem Session.Settles.mem_index_iff {s : Session} {w : World} {menu : List MenuItem}
    (h : s.Settles w menu) {node : Node} (hnode : s.graph.get? s.node = some node) {index : Nat}
    {choice : Choice} (hchoice : node.choices[index]? = some choice) :
    (∃ item ∈ menu, item.index = index) ↔ s.Offers w index choice := by
  constructor
  · rintro ⟨item, hitem, rfl⟩
    obtain ⟨node', choice', hnode', hchoice', hoffers, -⟩ := (h.mem_iff item).1 hitem
    obtain rfl : node = node' := Option.some.inj (hnode.symm.trans hnode')
    obtain rfl : choice = choice' := Option.some.inj (hchoice.symm.trans hchoice')
    exact hoffers
  · intro hoffers
    have hitem := (h.mem_iff (s.item index choice)).2
      ⟨node, choice, hnode, hchoice, hoffers, rfl, rfl⟩
    exact ⟨_, hitem, rfl⟩

namespace Conversation

variable {c c' : Conversation} {s : Session}

/-! ## A menu is told last -/

/-- What was told puts a menu up, if at all, that is up in the end. -/
def Shows (c : Conversation) (news : List Event) : Prop :=
  ∀ menu, .optionsShown menu ∈ news → c.phase = .awaitingChoice ∧ c.menu = menu

theorem Shows.of_forall {news : List Event}
    (h : ∀ event ∈ news, ∀ menu, event ≠ .optionsShown menu) : Shows c news :=
  fun menu hmenu => absurd rfl (h _ hmenu menu)

theorem shows_of_moved (hm : Moved c c') (h : Ready c s) :
    ∃ news, c'.events = c.events ++ news ∧ Shows c' news := by
  induction hm generalizing s with
  | line => exact ⟨_, rfl, .of_forall (by simp)⟩
  | @menu c menu =>
    refine ⟨_, rfl, fun other hother => ?_⟩
    obtain rfl : other = menu := by simpa using hother
    exact ⟨rfl, rfl⟩
  | deadEnd | missing | exited => exact ⟨_, h.events_ended _, .of_forall (by simp)⟩
  | @arrival c c' s' key node hqueue hsession _ hnode _ ih =>
    -- the arrival tells of the node and goes on there
    obtain rfl : s = s' := Option.some.inj (h.session.symm.trans hsession)
    obtain ⟨news, hnews, hshows⟩ := ih (h.arrive hqueue hnode)
    refine ⟨.nodeEntered key :: news, ?_, fun menu hmenu => hshows menu (by simpa using hmenu)⟩
    rw [hnews]
    simp [Conversation.arrive]

theorem shows_of_elapsed (he : Elapsed c c') (h : Coherent c) :
    ∃ news, c'.events = c.events ++ news ∧ Shows c' news := by
  induction he with
  | still | credited => exact ⟨[], (List.append_nil _).symm, .of_forall (by simp)⟩
  | @moved c c₁ c' turn hturn hm he ih =>
    obtain ⟨s, hready⟩ := h.ready_silenced hturn
    have hcoherent : Coherent c₁ := coherent_of_moved hm hready
    obtain ⟨first, hfirst, hshows⟩ := shows_of_moved hm hready
    obtain ⟨later, hlater, hshows'⟩ := ih hcoherent
    refine ⟨first ++ later, by rw [hlater, hfirst, List.append_assoc]; rfl, fun menu hmenu => ?_⟩
    rcases List.mem_append.1 hmenu with hmenu | hmenu
    · -- with a menu up nothing is on screen, so time passes without a trace
      obtain ⟨hphase, hup⟩ := hshows menu hmenu
      have hturn₁ : c₁.turn = none := (hcoherent.awaiting hphase).2.1
      cases he with
      | still => exact ⟨hphase, hup⟩
      | credited hturn' | moved hturn' => cases hturn₁.symm.trans hturn'
    · exact hshows' menu hmenu

theorem shows_of_response {request : Request} {answer : Answer} (hr : Response c request answer c')
    (h : Coherent c) : ∃ news, answer.taken ++ c'.events = c.events ++ news ∧ Shows c' news := by
  have hsilent : Shows c' [] := .of_forall (by simp)
  cases hr with
  | @began npc graph node _ hs hnode hm =>
    obtain ⟨news, hnews, hshows⟩ := shows_of_moved hm (h.ready_begun hs npc hnode)
    refine ⟨.started npc :: news, ?_, fun menu hmenu => hshows menu (by simpa using hmenu)⟩
    simp [Answer.taken, hnews, begun]
  | picked hphase _ hs hnode hchoice hm =>
    obtain ⟨news, hnews, hshows⟩ := shows_of_moved hm (h.ready_picked hphase hs hnode hchoice)
    refine ⟨.optionsHidden :: news, ?_, fun menu hmenu => hshows menu (by simpa using hmenu)⟩
    simp [Answer.taken, hnews, picked]
  | elapsed he => exact shows_of_elapsed he h
  | skipped hturn _ hm =>
    obtain ⟨s, hready⟩ := h.ready_silenced hturn
    obtain ⟨news, hnews, hshows⟩ := shows_of_moved hm hready
    exact ⟨news, hnews, hshows⟩
  | ended =>
    refine ⟨(if c.menu = [] then [] else [.optionsHidden]) ++ [.ended .requested], ?_,
      .of_forall ?_⟩
    · simp [Answer.taken, ended]
    · split <;> simp
  | drained => exact ⟨[], rfl, hsilent⟩
  | alreadyActive | unknownEntry | invalidChoice | ignored | kept | idle | written | replaced =>
    exact ⟨[], (List.append_nil _).symm, hsilent⟩

/-- **A menu that a request tells is up when the request is answered.** -/
theorem shown_respond (h : Coherent c) {request : Request} {menu : List MenuItem}
    (hmenu : .optionsShown menu ∈ c.news request) :
    (c.respond request).value.2.phase = .awaitingChoice ∧
      (c.respond request).value.2.menu = menu := by
  obtain ⟨news, htold, hshows⟩ := shows_of_response (response h request) h
  rw [news_eq htold] at hmenu
  exact hshows menu hmenu

/-- **A menu that is told in the course of a run is up where the run has come to by then.** -/
theorem shown_in_run (h : Coherent c) {opening : Request} {later before after : List Request}
    {request : Request} (hsplit : opening :: later = before ++ request :: after)
    {menu : List MenuItem} (hmenu : .optionsShown menu ∈ (c.after before).news request) :
    ∃ between, before ++ [request] = opening :: between ∧ later = between ++ after ∧
      (c.after (opening :: between)).phase = .awaitingChoice ∧
      (c.after (opening :: between)).menu = menu := by
  obtain ⟨between, hbetween, hlater⟩ : ∃ between,
      before ++ [request] = opening :: between ∧ later = between ++ after := by
    rw [List.append_cons] at hsplit
    cases hfront : before ++ [request] with
    | nil => simp at hfront
    | cons first between =>
      rw [hfront, List.cons_append] at hsplit
      obtain ⟨rfl, hlater⟩ := List.cons.inj hsplit
      exact ⟨between, rfl, hlater⟩
  have hanswered : ((c.after before).respond request).value.2 = c.after (opening :: between) := by
    rw [← hbetween, after_append]
    rfl
  have hshown := shown_respond (h.after before) hmenu
  rw [hanswered] at hshown
  exact ⟨between, hbetween, hlater, hshown⟩

/-- A pick takes the menu down before anything else is told. -/
theorem told_of_picked {place : Nat} {answer : Answer} (hr : Response c (.select place) answer c')
    (h : Coherent c) (hpick : (c.pick? (.select place)).isSome) :
    ∃ news, answer.taken ++ c'.events = c.events ++ .optionsHidden :: news := by
  rw [← accepted_iff_of_response hr] at hpick
  cases hr with
  | picked hphase _ hs hnode hchoice hm =>
    obtain ⟨news, hnews, -⟩ := shows_of_moved hm (h.ready_picked hphase hs hnode hchoice)
    exact ⟨news, by simp [Answer.taken, hnews, picked]⟩
  | invalidChoice | ignored => cases hpick

theorem news_of_pick (h : Coherent c) {place : Nat} {p : Pick}
    (hpick : c.pick? (.select place) = some p) :
    ∃ news, c.news (.select place) = .optionsHidden :: news := by
  obtain ⟨news, htold⟩ := told_of_picked (response h _) h (by rw [hpick]; rfl)
  exact ⟨news, news_eq htold⟩

/-! ## A menu is settled by a world of the run -/

/-- **The worlds of a chronicle are those that the run goes through.** -/
theorem world_of_mem_chronicle {requests : List Request} {event : Event} {w : World}
    (h : (event, w) ∈ c.chronicle requests) :
    ∃ front back, requests = front ++ back ∧ front ≠ [] ∧ w = (c.after front).world := by
  induction requests generalizing c with
  | nil => exact absurd h List.not_mem_nil
  | cons request rest ih =>
    rcases List.mem_append.1 h with h | h
    · obtain ⟨_, -, hentry⟩ := List.mem_map.1 h
      obtain ⟨-, rfl⟩ := Prod.mk.inj hentry
      exact ⟨[request], rest, rfl, List.cons_ne_nil _ _, rfl⟩
    · obtain ⟨front, back, rfl, -, hworld⟩ := ih h
      exact ⟨request :: front, back, rfl, List.cons_ne_nil _ _, hworld⟩

end Conversation

theorem Chronicle.juncture_append (h h' : Chronicle) :
    juncture (h ++ h') = (juncture h').or (juncture h) := by
  rw [juncture, List.reverse_append, List.find?_append]
  rfl

/-- The world that settles the next menu is the present one, or one that the chronicle names at its
last juncture. -/
theorem Snapshot.world {h : Chronicle} {last : Option Pick} {now w : World} {node : String}
    (hs : Snapshot h last now node w) : w = now ∨ ∃ event, h.juncture = some (event, w) := by
  cases hs with
  | entered hjuncture => exact .inr ⟨_, hjuncture⟩
  | stayed => exact .inl rfl

theorem Chronicle.mem_of_juncture {h : Chronicle} {entry : Event × World}
    (hj : h.juncture = some entry) : entry ∈ h := List.mem_reverse.1 (List.mem_of_find?_eq_some hj)

/-- Behind an entry that is no line, the last juncture is that entry or a later one. -/
theorem Chronicle.mem_of_juncture_append {h later : Chronicle} {entry last : Event × World}
    (hentry : entry.1.isLine = false) (hj : juncture (h ++ entry :: later) = some last) :
    last ∈ entry :: later := by
  have hfirst : juncture [entry] = some entry := juncture_snoc [] entry.1 hentry entry.2
  have hsince : juncture (entry :: later) = (juncture later).or (some entry) := by
    rw [← hfirst]
    exact juncture_append [entry] later
  rw [juncture_append, hsince] at hj
  cases hlater : juncture later with
  | none =>
    rw [hlater] at hj
    obtain rfl : entry = last := Option.some.inj hj
    exact List.mem_cons_self
  | some found =>
    rw [hlater] at hj
    obtain rfl : found = last := Option.some.inj hj
    exact List.mem_cons_of_mem entry (mem_of_juncture hlater)

/-- If a chronicle ends with a menu going up and some time before a menu came down, then the one
that goes up is settled by a world that is named since. -/
theorem Snapshot.exists_mem_since {h later before : Chronicle} {menu : List MenuItem}
    {last : Option Pick} {past now w : World} {node : String}
    (hends : h ++ (.optionsHidden, past) :: later = before ++ [(.optionsShown menu, now)])
    (hs : Snapshot before last now node w) :
    ∃ event, (event, w) ∈ (Event.optionsHidden, past) :: later := by
  rcases List.eq_nil_or_concat' later with rfl | ⟨between, shown, rfl⟩
  · obtain ⟨-, hlast⟩ := List.append_inj' hends rfl
    cases hlast
  · rw [← List.cons_append, ← List.append_assoc] at hends
    obtain ⟨rfl, hlast⟩ := List.append_inj' hends rfl
    obtain rfl := List.singleton_inj.1 hlast
    rw [← List.cons_append]
    rcases hs.world with rfl | ⟨event, hjuncture⟩
    · exact ⟨_, List.mem_append_right _ List.mem_cons_self⟩
    · exact ⟨event, List.mem_append_left _ (Chronicle.mem_of_juncture_append rfl hjuncture)⟩

namespace Conversation

/-- **The menu that is up after a pick was settled by a world that the run went through since.** -/
theorem settled_since_pick (hc : Coherent c) {h : Chronicle} {last : Option Pick}
    (hr : Recorded c h last) {place : Nat} {p : Pick} (hpick : c.pick? (.select place) = some p)
    {later : List Request} (hphase : (c.after (.select place :: later)).phase = .awaitingChoice) :
    ∃ s front back, (c.after (.select place :: later)).session = some s ∧
      later = front ++ back ∧
      s.Settles (c.after (.select place :: front)).world
        (c.after (.select place :: later)).menu := by
  have hrecorded := recorded_after hc hr (.select place :: later)
  obtain ⟨s, before, now, w, hs, hchronicle, hsnapshot, hsettles⟩ := hrecorded.awaiting hphase
  obtain ⟨w₁, since, hsince⟩ : ∃ w₁ since,
      c.chronicle (.select place :: later) = (.optionsHidden, w₁) :: since := by
    obtain ⟨news, hnews⟩ := news_of_pick hc hpick
    rw [chronicle, hnews]
    exact ⟨_, _, rfl⟩
  rw [hsince] at hchronicle
  obtain ⟨event, hmem⟩ := hsnapshot.exists_mem_since hchronicle
  rw [← hsince] at hmem
  obtain ⟨front, back, hsplit, hne, rfl⟩ := world_of_mem_chronicle hmem
  -- the first request of the run up to there is the pick
  obtain ⟨request, front, rfl⟩ := List.exists_cons_of_ne_nil hne
  obtain ⟨rfl, hlater⟩ := List.cons.inj hsplit
  exact ⟨s, front, back, hs, hlater, hsettles⟩

end Conversation

end Colloquy
