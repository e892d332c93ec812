import Colloquy.Proofs.Conversation.Course
import Colloquy.Proofs.Dialogue.Review

/-!
# Routes — a review against what conversations do

A review looks at a dialogue and says which choices lead to a node that does not exist; a
conversation finds out when it goes there. The two agree (`review_exact_for_routes`): a conversation
ends for want of a node just where a reported choice was picked, and each reported choice and each
reported node ends it, once the lines are through. Both directions are inductions over a `Course`:
whether a missing node lies ahead (`Bound`) is settled by the pick, and what is told from a pick or
an arrival on is its lines and one event that its continuation allows (`plays_of_course`).
-/

namespace Colloquy

/-- Whether an event is a stop on the way: a menu that comes up or a node that is entered. -/
def Event.isStop : Event → Bool
  | .optionsShown _ | .nodeEntered _ => true
  | .started _ | .line _ | .optionsHidden | .ended _ => false

namespace Pick

/-- The lines of the choice: what the hero says, if it is anything, and the reply. -/
def lines (hero : String) (p : Pick) : List Line :=
  (if p.choice.heroLine = "" then [] else [⟨.hero, hero, p.choice.heroLine⟩]) ++
    p.choice.npcResponse.getD []

/-- Whether a review of the dialogue reports that the choice leads to a node that does not exist. -/
def Misrouted (g : Graph) (p : Pick) : Prop :=
  ∃ target, .unknownRoute p.node p.index p.choice.text target ∈ g.review

end Pick

/-- Events that begin with lines and go on as they should: the lines come one after the other, and
an event of a certain kind is the first behind them. It may also be that they are not through yet
and one of them is on screen, or that the conversation was ended from outside before they were. -/
inductive Plays (lines : List Line) (kind : Event → Prop) (leave onScreen : Prop) :
    List Event → Prop where
  /-- The lines are through. -/
  | through {event : Event} (hkind : kind event) (rest : List Event) :
      Plays lines kind leave onScreen (lines.map .line ++ event :: rest)
  /-- A line is on screen. -/
  | underway {spoken : List Line} (hspoken : spoken <+: lines) (honScreen : onScreen) :
      Plays lines kind leave onScreen (spoken.map .line)
  /-- The conversation was ended from outside. -/
  | stopped {spoken : List Line} (hspoken : spoken <+: lines) (hleave : leave)
      (rest : List Event) :
      Plays lines kind leave onScreen (spoken.map .line ++ .ended .requested :: rest)

namespace Plays

variable {lines : List Line} {kind kind' : Event → Prop} {leave onScreen : Prop}
  {news : List Event}

/-- One line more in front. -/
theorem cons (h : Plays lines kind leave onScreen news) (line : Line) :
    Plays (line :: lines) kind leave onScreen (.line line :: news) := by
  have hlonger : ∀ {spoken : List Line}, spoken <+: lines → line :: spoken <+: line :: lines :=
    (List.prefix_cons_inj line).2
  cases h with
  | @through event hkind rest =>
    show Plays _ _ _ _ ((line :: lines).map .line ++ event :: rest)
    exact .through hkind rest
  | @underway spoken hspoken honScreen =>
    show Plays _ _ _ _ ((line :: spoken).map .line)
    exact .underway (hlonger hspoken) honScreen
  | @stopped spoken hspoken hleave rest =>
    show Plays _ _ _ _ ((line :: spoken).map .line ++ .ended .requested :: rest)
    exact .stopped (hlonger hspoken) hleave rest

theorem imp (h : Plays lines kind leave onScreen news) (hkind : ∀ event, kind event → kind' event) :
    Plays lines kind' leave onScreen news := by
  cases h with
  | through hevent rest => exact .through (hkind _ hevent) rest
  | underway hspoken honScreen => exact .underway hspoken honScreen
  | stopped hspoken hleave rest => exact .stopped hspoken hleave rest

end Plays

/-- The events with which a continuation can begin. -/
def Continuation.Allows (g : Graph) : Continuation → Event → Prop
  | .showOptions, event => event = .ended .deadEnd ∨ ∃ menu, event = .optionsShown menu
  | .offer menu, event => event = if menu = [] then .ended .deadEnd else .optionsShown menu
  | .enter key, event =>
    event = if g.contains key then .nodeEntered key else .ended .missingNode
  | .exit, event => event = .ended .exited

namespace Conversation

variable {g : Graph} {leave : Prop} {c c' : Conversation} {s : Session} {news : List Event}

/-! ## What a choice has queued -/

theorem map_choiceLines (hero : String) (p : Pick) :
    (choiceLines hero p.choice).map Prod.snd = p.lines hero := by
  unfold choiceLines Pick.lines
  split <;> simp [Function.comp_def]

/-- A choice leads to a node just if it does not end the conversation and names the node. -/
theorem destination_eq_enter {choice : Choice} {key : String} :
    destination choice = .enter key ↔ choice.exit = false ∧ choice.nextNode = some key := by
  unfold destination
  split
  · rename_i hexit
    simp [hexit]
  · rename_i hexit
    split <;> rename_i hnext <;> simp [hexit, hnext]

/-- A choice of the dialogue is reported just if it leads to a node that does not exist. -/
theorem misrouted_iff {p : Pick} {node : Node} (hnode : g.get? p.node = some node)
    (hchoice : node.choices[p.index]? = some p.choice) :
    p.Misrouted g ↔ ∃ key, destination p.choice = .enter key ∧ g.get? key = none := by
  constructor
  · rintro ⟨target, hmem⟩
    obtain ⟨n, choice, hn, hc, -, hexit, hnext, hmissing⟩ := Graph.unknownRoute_mem_review.1 hmem
    obtain rfl : node = n := Option.some.inj (hnode.symm.trans hn)
    obtain rfl : p.choice = choice := Option.some.inj (hchoice.symm.trans hc)
    exact ⟨target, destination_eq_enter.2 ⟨hexit, hnext⟩, hmissing⟩
  · rintro ⟨key, hdestination, hmissing⟩
    obtain ⟨hexit, hnext⟩ := destination_eq_enter.1 hdestination
    exact ⟨key, Graph.unknownRoute_mem_review.2
      ⟨node, p.choice, hnode, hchoice, rfl, hexit, hnext, hmissing⟩⟩

/-! ## From the end of a conversation back to the review -/

/-- A node that does not exist lies ahead. -/
def Bound (c : Conversation) : Prop :=
  ∃ s key, c.session = some s ∧ c.next = .enter key ∧ s.graph.get? key = none

/-- No such node lies ahead of a conversation that is over. -/
theorem not_bound_ended (reason : EndReason) : ¬ (c.ended reason).Bound := by
  rintro ⟨s, key, hs, -⟩
  cases hs

/-- No such node lies ahead of a conversation that begins. -/
theorem not_bound_begun {npc node : String} (hnode : g.contains node = true) :
    ¬ (c.begun npc g node).Bound := by
  rintro ⟨s, key, hs, hnext, hmissing⟩
  obtain rfl := Option.some.inj hs
  obtain rfl := Continuation.enter.inj hnext
  rw [TextMap.contains, hmissing] at hnode
  cases hnode

/-- **A conversation that ends for want of a node and stops nowhere before was bound for it.** -/
theorem bound_of_course (h : Course g leave c news c') (hmenu : c.menu = [])
    {between rest : List Event} (hnews : news = between ++ .ended .missingNode :: rest)
    (hbetween : ∀ event ∈ between, event.isStop = false) : c.Bound := by
  -- what is told in front of the end is told step by step, and each step but the last leaves open
  -- whether the conversation is bound for the node
  have htail : ∀ {event : Event} {later between : List Event}, event ≠ .ended .missingNode →
      event :: later = between ++ .ended .missingNode :: rest →
      (∀ event ∈ between, event.isStop = false) →
      event.isStop = false ∧ ∃ between', later = between' ++ .ended .missingNode :: rest ∧
        ∀ event ∈ between', event.isStop = false := by
    intro event later between hne hsplit hbetween
    cases between with
    | nil => exact absurd (List.cons.inj hsplit).1 hne
    | cons first between =>
      obtain ⟨rfl, rfl⟩ := List.cons.inj hsplit
      exact ⟨hbetween _ List.mem_cons_self, between, rfl,
        fun e he => hbetween e (List.mem_cons_of_mem _ he)⟩
  induction h generalizing between with
  | done => simp at hnews
  | step hstep _ ih =>
    cases hstep with
    | aside => exact ih hmenu hnews hbetween
    | line =>
      obtain ⟨-, between, hlater, hbetween⟩ := htail (by simp) hnews hbetween
      exact ih hmenu hlater hbetween
    | menu | arrival =>
      obtain ⟨hstop, -⟩ := htail (by simp) hnews hbetween
      cases hstop
    | deadEnd | exited =>
      obtain ⟨-, between, hlater, hbetween⟩ := htail (by simp) hnews hbetween
      exact absurd (ih rfl hlater hbetween) (not_bound_ended _)
    | missing _ hs hnext hnode => exact ⟨_, _, hs, hnext, hnode⟩
    | began _ hnode =>
      obtain ⟨-, between, hlater, hbetween⟩ := htail (by simp) hnews hbetween
      exact absurd (ih hmenu hlater hbetween) (not_bound_begun hnode)
    | picked hup => exact absurd hmenu hup
    | stopped =>
      rw [if_pos hmenu] at hnews
      obtain ⟨-, between, hlater, hbetween⟩ := htail (by simp) hnews hbetween
      exact absurd (ih rfl hlater hbetween) (not_bound_ended _)

/-- If the review reports no route, nothing that happens makes a conversation bound for a node that
does not exist, and none ends for want of a node. -/
theorem Happens.not_bound (h : Happens g leave c news c') (habout : About g c)
    (hclean : ∀ key index text target, .unknownRoute key index text target ∉ g.review)
    (hbound : ¬ c.Bound) : ¬ c'.Bound ∧ .ended .missingNode ∉ news := by
  cases h with
  | aside => exact ⟨hbound, List.not_mem_nil⟩
  | line => exact ⟨hbound, by simp⟩
  | menu | arrival =>
    refine ⟨?_, by simp⟩
    rintro ⟨_, _, -, hnext, -⟩
    cases hnext
  | deadEnd | exited => exact ⟨not_bound_ended _, by simp⟩
  | missing _ hs hnext hnode => exact absurd ⟨_, _, hs, hnext, hnode⟩ hbound
  | began _ hnode => exact ⟨not_bound_begun hnode, by simp⟩
  | @picked s node index choice _ hs hnode hchoice =>
    refine ⟨?_, by simp⟩
    rintro ⟨t, key, ht, hnext, hmissing⟩
    obtain rfl := Option.some.inj ht
    obtain rfl : s.graph = g := habout s hs
    obtain ⟨target, hreported⟩ :=
      (misrouted_iff (p := ⟨s.npc, s.node, index, choice⟩) hnode hchoice).2 ⟨key, hnext, hmissing⟩
    exact hclean _ _ _ _ hreported
  | stopped =>
    refine ⟨not_bound_ended _, ?_⟩
    split <;> simp

theorem not_missing_of_course (h : Course g leave c news c') (habout : About g c)
    (hclean : ∀ key index text target, .unknownRoute key index text target ∉ g.review)
    (hbound : ¬ c.Bound) : .ended .missingNode ∉ news := by
  induction h with
  | done => exact List.not_mem_nil
  | step hstep _ ih =>
    obtain ⟨hnext, hnews⟩ := hstep.not_bound habout hclean hbound
    exact List.not_mem_append hnews (ih (hstep.about habout) hnext)

/-! ## From the review to the end of a conversation -/

/-- A menu that lies ahead is told as the continuation allows. -/
theorem allows_of_menuAhead {menu : List MenuItem} (hmenu : c.menuAhead = some menu) :
    c.next.Allows g (if menu = [] then .ended .deadEnd else .optionsShown menu) := by
  unfold menuAhead at hmenu
  split at hmenu
  · rename_i settled hnext
    obtain rfl := Option.some.inj hmenu
    rw [hnext]
    rfl
  · rename_i hnext
    rw [hnext]
    split
    · exact .inl rfl
    · exact .inr ⟨menu, rfl⟩
  · cases hmenu
  · cases hmenu

/-- **What is told from a stretch of lines on**: the lines, and what the continuation allows. -/
theorem plays_of_course (h : Course g leave c news c') (hs : c.session = some s)
    (habout : About g c) (hmenu : c.menu = []) (hlast : Coherent c') :
    Plays (c.queue.map Prod.snd) (c.next.Allows g) leave (c'.turn.isSome = true) news := by
  induction h generalizing s with
  | @done c =>
    -- somebody is talked to and no menu is up, so a line is on screen
    have hidle : c.phase ≠ .idle := fun hphase => by simp [hlast.idle_iff.1 hphase] at hs
    have hawaiting : c.phase ≠ .awaitingChoice := fun hphase => hlast.awaiting_iff.1 hphase hmenu
    exact .underway (List.nil_prefix) (hlast.playing hidle hawaiting).2.1
  | step hstep _ ih =>
    cases hstep with
    | aside => exact ih hs habout hmenu hlast
    | line hqueue =>
      rw [hqueue]
      exact (ih hs habout hmenu hlast).cons _
    | menu hqueue hahead hne =>
      have hallows := allows_of_menuAhead (g := g) hahead
      rw [if_neg hne] at hallows
      rw [hqueue]
      exact .through hallows _
    | deadEnd hqueue hahead =>
      rw [hqueue]
      exact .through (allows_of_menuAhead (g := g) hahead) _
    | @arrival t key node hqueue _ ht hnext hnode =>
      obtain rfl : t.graph = g := habout t ht
      rw [hqueue, hnext]
      exact .through (by simp [Continuation.Allows, TextMap.contains, hnode]) _
    | @missing t key hqueue ht hnext hnode =>
      obtain rfl : t.graph = g := habout t ht
      rw [hqueue, hnext]
      exact .through (by simp [Continuation.Allows, TextMap.contains, hnode]) _
    | exited hqueue hnext =>
      rw [hqueue, hnext]
      have hallows : Continuation.Allows g .exit (.ended .exited) := rfl
      exact .through hallows _
    | began hnone => simp [hs] at hnone
    | picked hup => exact absurd hmenu hup
    | stopped hleave =>
      rw [if_pos hmenu]
      exact .stopped (List.nil_prefix) hleave _

/-- **What is told from a pick on that is reported**: the lines of the choice, and that there is no
such node. -/
theorem plays_of_misrouted {p : Pick} (hs : c.session = some s) (habout : About g c)
    (hqueue : c.queue = []) (h : Course g leave (c.picked s p.index p.choice) news c')
    (hlast : Coherent c') {key : String} (hdestination : destination p.choice = .enter key)
    (hmissing : g.get? key = none) :
    Plays (p.lines c.pacing.hero) (· = .ended .missingNode) leave (c'.turn.isSome = true) news := by
  have hpicked : About g (c.picked s p.index p.choice) := by
    rintro t ht
    rw [← Option.some.inj ht]
    exact habout s hs
  have hplays := plays_of_course h rfl hpicked rfl hlast
  have hlines : (c.picked s p.index p.choice).queue = choiceLines c.pacing.hero p.choice := by
    simp [picked, hqueue]
  rw [hlines, map_choiceLines] at hplays
  refine hplays.imp fun event hallows => ?_
  have hallows : (Continuation.enter key).Allows g event := hdestination ▸ hallows
  simpa [Continuation.Allows, TextMap.contains, hmissing] using hallows

/-- Nothing else is told where a node is entered. -/
theorem arrived_of_happens {front back : List Event} {key : String}
    (h : Happens g leave c (front ++ .nodeEntered key :: back) c') :
    back = [] ∧ c.queue = [] ∧ c.menu = [] ∧
      ∃ s node, c.session = some s ∧ s.graph.get? key = some node ∧ c' = c.arrive s key node := by
  generalize hnews : front ++ .nodeEntered key :: back = news at h
  have hmem : .nodeEntered key ∈ news := by simp [← hnews]
  cases h with
  | @arrival s key' node hqueue hmenu hs hnext hnode =>
    obtain rfl : key = key' := by simpa using hmem
    obtain ⟨-, hback⟩ | ⟨-, hback⟩ := List.append_eq_singleton_iff.1 hnews
    · exact ⟨(List.cons.inj hback).2, hqueue, hmenu, s, node, hs, hnode, rfl⟩
    · cases hback
  | aside | line | menu | deadEnd | missing | exited | began | picked => simp at hmem
  | stopped => split at hmem <;> simp at hmem

/-- A node without choices settles an empty menu. -/
theorem menu?_of_no_choices {key : String} {node : Node} (hnode : s.graph.get? key = some node)
    (hempty : node.choices = []) (w : World) :
    ({ s with node := key } : Session).menu? w = some [] := by
  simp [Session.menu?, hnode, Node.visibleChoices, Node.numbered, hempty]

/-- **What is told from a node without choices on**: its lines, and that there is nothing to
choose. -/
theorem plays_of_dead_end (h : Course g leave c news c') (habout : About g c) (hlast : Coherent c')
    {key : String} (hreported : .deadEnd key ∈ g.review) {past later : List Event}
    (hnews : news = past ++ .nodeEntered key :: later) :
    ∃ node w, g.get? key = some node ∧
      Plays ((node.introFor w).elim [] IntroBlock.lines) (· = .ended .deadEnd) leave
        (c'.turn.isSome = true) later := by
  obtain ⟨node, hnode, hempty⟩ := Graph.deadEnd_mem_review.1 hreported
  obtain ⟨first, front, back, rest, c₁, c₂, hfirst, hentered, hrest, -, rfl⟩ := h.split hnews
  obtain ⟨rfl, hqueue, hmenu, s, node', hs, hnode', rfl⟩ := arrived_of_happens hentered
  have habout₁ : About g c₁ := hfirst.about habout
  obtain rfl : s.graph = g := habout₁ s hs
  obtain rfl : node = node' := Option.some.inj (hnode.symm.trans hnode')
  have hplays := plays_of_course hrest rfl (hentered.about habout₁) hmenu hlast
  have hlines : (c₁.arrive s key node).queue = introLines c₁.world node := by
    simp [Conversation.arrive, hqueue]
  have hnext : (c₁.arrive s key node).next = .offer [] := by
    simp [Conversation.arrive, menu?_of_no_choices hnode hempty]
  rw [hlines, map_introLines, hnext] at hplays
  exact ⟨node, c₁.world, hnode, hplays⟩

/-- **A review is exact about where conversations end.** In a run whose conversations are all about
one dialogue, whatever the world and whatever is done to it meanwhile:

* if a conversation ends for want of a node after a pick, and stops nowhere in between, then the
  review reports the choice that was picked;
* if it reports a choice that is picked, then behind the lines of the choice the conversation ends
  for want of a node, unless it is ended from outside before they are through or one of them is
  still on screen;
* if it reports no choice, then no conversation ends for want of a node;
* if it reports a node that has no choices, then behind the lines of that node the conversation ends
  because there is nothing to choose. -/
theorem review_exact_for_routes (g : Graph) (world : World) (pacing : Pacing)
    {requests : List Request} (hkeeps : KeepsTo g (fresh world pacing) requests) :
    let start := fresh world pacing
    let onScreen := (start.after requests).turn.isSome = true
    (∀ first place later p, requests = first ++ .select place :: later →
      (start.after first).pick? (.select place) = some p →
      ∃ since, start.told requests = start.told first ++ .optionsHidden :: since ∧
        (∀ between rest, since = between ++ .ended .missingNode :: rest →
          (∀ event ∈ between, event.isStop = false) → p.Misrouted g) ∧
        (p.Misrouted g →
          Plays (p.lines pacing.hero) (· = .ended .missingNode) (.exit ∈ later) onScreen since)) ∧
    ((∀ key index text target, .unknownRoute key index text target ∉ g.review) →
      .ended .missingNode ∉ start.told requests) ∧
    ∀ key, .deadEnd key ∈ g.review →
      ∀ past later, start.told requests = past ++ .nodeEntered key :: later →
        ∃ node w, g.get? key = some node ∧
          Plays ((node.introFor w).elim [] IntroBlock.lines) (· = .ended .deadEnd)
            (.exit ∈ requests) onScreen later := by
  intro start onScreen
  have hfresh : Coherent start := coherent_fresh world pacing
  have habout : About g start := about_fresh g world pacing
  obtain ⟨news, htold, hcourse⟩ := course_after hfresh hkeeps id
  have hlast : Coherent (start.after requests) := hfresh.after requests
  refine ⟨?_, fun hclean => ?_, fun key hreported past later hsplit => ?_⟩
  · rintro first place later p rfl hpick
    obtain ⟨_, -, hfirst⟩ := course_after hfresh hkeeps.earlier id
    obtain ⟨taken, htold₁, htold⟩ := start.told_append first (.select place :: later)
    obtain ⟨s, since, hs, hqueue, -, ⟨node, hget, hchoice⟩, hsince, hcourse⟩ :=
      course_picked (hfresh.after first) hpick (hkeeps.later first) id
    have habout₁ : About g (start.after first) := hfirst.about habout
    obtain rfl : s.graph = g := habout₁ s hs
    have hmisrouted := misrouted_iff hget hchoice
    refine ⟨since, ?_, fun between rest hsplit hbetween => ?_, fun hreported => ?_⟩
    · rw [htold, htold₁, hsince, List.append_assoc]
    · obtain ⟨t, key, ht, hnext, hmissing⟩ := bound_of_course hcourse rfl hsplit hbetween
      obtain rfl := Option.some.inj ht
      exact hmisrouted.2 ⟨key, hnext, hmissing⟩
    · obtain ⟨key, hdestination, hmissing⟩ := hmisrouted.1 hreported
      have hpacing : (start.after first).pacing = pacing := hfirst.pacing_eq
      rw [after_append] at hlast
      have hplays := plays_of_misrouted hs habout₁ hqueue hcourse hlast hdestination hmissing
      rwa [hpacing, ← after_append] at hplays
  · rw [htold]
    exact not_missing_of_course hcourse habout hclean fun ⟨_, _, hs, _⟩ => by cases hs
  · rw [htold] at hsplit
    exact plays_of_dead_end hcourse habout hlast hreported hsplit

/-- A choice that is spoken and leads nowhere. -/
def leaving : Choice := { text := "Leave", heroLine := "Farewell.", nextNode := some "nowhere" }

/-- A dialogue that goes from two choices to a node that does not exist and to one without
choices. -/
def stranding : Graph :=
  (TextMap.empty.insert "cell" { intros := [{ lines := [⟨.npc, "zyx", "Here."⟩] }] }).insert "start"
    { choices := [leaving, { text := "Look", nextNode := some "cell" }] }

/-- A conversation in which lines may be cut short at once. -/
def hasty : Conversation := fresh .empty { skipGuard := .zero }

/-- The choice that leads nowhere is picked, and in another conversation the other one. -/
def wandering : List Request :=
  [.enterAt "zyx" stranding "start", .select 0, .skip,
    .enterAt "zyx" stranding "start", .select 1, .skip]

/-- What a conversation about it tells first. -/
def stranded : List Event :=
  [.started "zyx", .nodeEntered "start", .optionsShown [⟨0, "Leave", false⟩, ⟨1, "Look", false⟩]]

theorem review_exact_for_routes_stranding :
    let p : Pick := ⟨"zyx", "start", 0, leaving⟩
    KeepsTo stranding hasty wandering ∧
      (hasty.after [.enterAt "zyx" stranding "start"]).pick? (.select 0) = some p ∧
      hasty.told wandering =
        stranded ++ [.optionsHidden, .line ⟨.hero, "nate", "Farewell."⟩, .ended .missingNode] ++
          stranded ++ [.optionsHidden, .nodeEntered "cell", .line ⟨.npc, "zyx", "Here."⟩,
            .ended .deadEnd] ∧
      p.Misrouted stranding ∧ .deadEnd "cell" ∈ stranding.review ∧
      ∃ node w, stranding.get? "cell" = some node ∧
        Plays ((node.introFor w).elim [] IntroBlock.lines) (· = .ended .deadEnd)
          (.exit ∈ wandering) ((hasty.after wandering).turn.isSome = true)
          [.line ⟨.npc, "zyx", "Here."⟩, .ended .deadEnd] := by
  intro p
  have hkeeps : KeepsTo stranding hasty wandering :=
    keepsTo_of_forall fun npc graph node hmem => by
      simp only [wandering, List.mem_cons, Request.enterAt.injEq, reduceCtorEq, false_or,
        List.not_mem_nil, or_false, or_self] at hmem
      exact hmem.2.1
  have hpick : (hasty.after [.enterAt "zyx" stranding "start"]).pick? (.select 0) = some p := by
    decide
  have hdead : .deadEnd "cell" ∈ stranding.review := by decide
  have htold : hasty.told wandering =
      stranded ++ [.optionsHidden, .line ⟨.hero, "nate", "Farewell."⟩, .ended .missingNode] ++
        stranded ++ [.optionsHidden, .nodeEntered "cell", .line ⟨.npc, "zyx", "Here."⟩,
          .ended .deadEnd] := by
    decide
  have hopened : hasty.told [.enterAt "zyx" stranding "start"] = stranded := by decide
  obtain ⟨hpicks, -, hends⟩ :=
    review_exact_for_routes stranding .empty { skipGuard := .zero } hkeeps
  obtain ⟨since, hsince, hreported, -⟩ := hpicks [_] 0 _ p rfl hpick
  have hsince : hasty.told wandering = stranded ++ .optionsHidden :: since := hopened ▸ hsince
  refine ⟨hkeeps, hpick, htold, ?_, hdead, ?_⟩
  · have hbehind : since = [.line ⟨.hero, "nate", "Farewell."⟩] ++ .ended .missingNode ::
        (stranded ++ [.optionsHidden, .nodeEntered "cell", .line ⟨.npc, "zyx", "Here."⟩,
          .ended .deadEnd]) := by
      simpa using hsince.symm.trans htold
    exact hreported _ _ hbehind (by simp [Event.isStop])
  · exact hends "cell" hdead (stranded ++ [.optionsHidden, .line ⟨.hero, "nate", "Farewell."⟩,
      .ended .missingNode] ++ stranded ++ [.optionsHidden]) _ (htold.trans rfl)

end Conversation

end Colloquy
