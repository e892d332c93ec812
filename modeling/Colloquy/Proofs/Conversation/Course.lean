import Colloquy.Proofs.Conversation.Effects
import Colloquy.Proofs.Conversation.Protocol

/-!
# Courses — a run as one happening after the other

A request may tell many things at once: a pick takes a menu down, a line goes by, a node is entered,
a menu goes up. `Happens` takes a request apart into steps that tell one thing each, and a `Course`
is a run of such steps with all that is told on the way. Every run of requests is a course
(`course_after`), so what follows an event of a run is found where the event happens
(`Course.split`), and a statement about all runs is an induction over steps that are looked at once.
The steps are those of conversations about one dialogue.
-/

namespace Colloquy

namespace Conversation

/-- One thing that happens to a conversation about the dialogue `g`, and what is told of it. Where
`leave` fails, nobody ends a conversation from outside. -/
inductive Happens (g : Graph) (leave : Prop) : Conversation → List Event → Conversation → Prop where
  /-- Time is credited, a line is over, the world changes, or events are taken. -/
  | aside {c : Conversation} (world : World) (turn : Option Turn) (events : List Event) :
      Happens g leave c [] { c with world := world, turn := turn, events := events }
  /-- A line plays. -/
  | line {c : Conversation} {phase : Phase} {line : Line} {rest : List (Phase × Line)}
      (hqueue : c.queue = (phase, line) :: rest) :
      Happens g leave c [.line line] (c.play phase line rest)
  /-- A menu comes up. -/
  | menu {c : Conversation} {menu : List MenuItem} (hqueue : c.queue = [])
      (hmenu : c.menuAhead = some menu) (hne : menu ≠ []) :
      Happens g leave c [.optionsShown menu] (c.shown menu)
  /-- There is nothing to choose. -/
  | deadEnd {c : Conversation} (hqueue : c.queue = []) (hmenu : c.menuAhead = some []) :
      Happens g leave c [.ended .deadEnd] (c.ended .deadEnd)
  /-- A node is entered. -/
  | arrival {c : Conversation} {s : Session} {key : String} {node : Node} (hqueue : c.queue = [])
      (hmenu : c.menu = []) (hs : c.session = some s) (hnext : c.next = .enter key)
      (hnode : s.graph.get? key = some node) :
      Happens g leave c [.nodeEntered key] (c.arrive s key node)
  /-- The node to go to does not exist. -/
  | missing {c : Conversation} {s : Session} {key : String} (hqueue : c.queue = [])
      (hs : c.session = some s) (hnext : c.next = .enter key) (hnode : s.graph.get? key = none) :
      Happens g leave c [.ended .missingNode] (c.ended .missingNode)
  /-- The conversation ends as it was chosen to. -/
  | exited {c : Conversation} (hqueue : c.queue = []) (hnext : c.next = .exit) :
      Happens g leave c [.ended .exited] (c.ended .exited)
  /-- A conversation begins. -/
  | began {c : Conversation} {npc node : String} (hs : c.session = none)
      (hnode : g.contains node = true) : Happens g leave c [.started npc] (c.begun npc g node)
  /-- A choice of the menu is picked. -/
  | picked {c : Conversation} {s : Session} {node : Node} {index : Nat} {choice : Choice}
      (hmenu : c.menu ≠ []) (hs : c.session = some s) (hnode : s.graph.get? s.node = some node)
      (hchoice : node.choices[index]? = some choice) :
      Happens g leave c [.optionsHidden] (c.picked s index choice)
  /-- The conversation is ended from outside, and its menu comes down if it is up. -/
  | stopped {c : Conversation} {s : Session} (hleave : leave) (hs : c.session = some s) :
      Happens g leave c ((if c.menu = [] then [] else [.optionsHidden]) ++ [.ended .requested])
        (c.ended .requested)

/-- What happens to conversations about a dialogue, one thing after the other, and all that is told
of it. -/
inductive Course (g : Graph) (leave : Prop) : Conversation → List Event → Conversation → Prop where
  | done {c : Conversation} : Course g leave c [] c
  | step {c c₁ c' : Conversation} {news later : List Event} (h : Happens g leave c news c₁)
      (hlater : Course g leave c₁ later c') : Course g leave c (news ++ later) c'

variable {g : Graph} {leave : Prop} {c c' : Conversation} {s : Session} {news : List Event}

/-- Whoever is talked to is talked to about the dialogue. -/
def About (g : Graph) (c : Conversation) : Prop := ∀ s, c.session = some s → s.graph = g

theorem about_fresh (g : Graph) (world : World) (pacing : Pacing) :
    About g (fresh world pacing) := by
  rintro s hs
  cases hs

theorem Happens.about (h : Happens g leave c news c') (habout : About g c) : About g c' := by
  cases h with
  | aside | line | menu => exact habout
  | deadEnd | missing | exited | stopped =>
    rintro s hs
    cases hs
  | began =>
    rintro s hs
    rw [← Option.some.inj hs]
  | arrival _ _ hs | picked _ hs =>
    have hgraph := habout _ hs
    rintro t ht
    rw [← Option.some.inj ht]
    exact hgraph

/-- The settings stay. -/
theorem Happens.pacing_eq (h : Happens g leave c news c') : c'.pacing = c.pacing := by
  cases h <;> rfl

namespace Course

theorem pacing_eq (h : Course g leave c news c') : c'.pacing = c.pacing := by
  induction h with
  | done => rfl
  | step hstep _ ih => rw [ih, hstep.pacing_eq]

theorem single (h : Happens g leave c news c') : Course g leave c news c' := by
  simpa using Course.step h .done

theorem trans {c₁ : Conversation} {later : List Event} (h : Course g leave c news c₁)
    (h' : Course g leave c₁ later c') : Course g leave c (news ++ later) c' := by
  induction h with
  | done => exact h'
  | step hstep _ ih =>
    rw [List.append_assoc]
    exact .step hstep (ih h')

theorem about (h : Course g leave c news c') (habout : About g c) : About g c' := by
  induction h with
  | done => exact habout
  | step hstep _ ih => exact ih (hstep.about habout)

/-- **An event that is told in a course happens in one of its steps.** -/
theorem split {event : Event} {past later : List Event} (h : Course g leave c news c')
    (hnews : news = past ++ event :: later) :
    ∃ first front back rest c₁ c₂, Course g leave c first c₁ ∧
      Happens g leave c₁ (front ++ event :: back) c₂ ∧ Course g leave c₂ rest c' ∧
      past = first ++ front ∧ later = back ++ rest := by
  induction h generalizing past with
  | done => simp at hnews
  | @step c c₁ c' told rest hstep hrest ih =>
    rcases List.append_eq_append_iff.1 hnews with ⟨between, hpast, hbetween⟩ | ⟨back, htold, hback⟩
    · -- the event is told after this step
      obtain ⟨first, front, back, rest', d, d', hfirst, hd, hd', rfl, rfl⟩ := ih hbetween
      refine ⟨told ++ first, front, back, rest', d, d', .step hstep hfirst, hd, hd', ?_, rfl⟩
      rw [hpast, List.append_assoc]
    · cases back with
      | nil =>
        obtain ⟨first, front, back, rest', d, d', hfirst, hd, hd', hnil, rfl⟩ :=
          @ih [] hback.symm
        obtain ⟨rfl, rfl⟩ := List.append_eq_nil_iff.1 hnil.symm
        rw [List.append_nil] at htold
        refine ⟨told ++ [], [], back, rest', d, d', .step hstep hfirst, hd, hd', ?_, rfl⟩
        rw [htold, List.append_nil, List.append_nil]
      | cons head back =>
        obtain ⟨rfl, rfl⟩ := List.cons.inj hback
        subst htold
        exact ⟨[], past, back, rest, c, c₁, .done, hstep, hrest, rfl, rfl⟩

end Course

/-! ## Requests are courses -/

variable (g leave) in
/-- Moving on is a course. -/
theorem course_of_moved (hm : Moved c c') (h : Ready c s) :
    ∃ news, c'.events = c.events ++ news ∧ Course g leave c news c' := by
  induction hm generalizing s with
  | line hqueue => exact ⟨_, rfl, .single (.line hqueue)⟩
  | menu hqueue hmenu hne => exact ⟨_, rfl, .single (.menu hqueue hmenu hne)⟩
  | deadEnd hqueue hmenu => exact ⟨_, h.events_ended _, .single (.deadEnd hqueue hmenu)⟩
  | @arrival c c' s' key node hqueue hsession hnext hnode _ ih =>
    obtain rfl : s = s' := Option.some.inj (h.session.symm.trans hsession)
    obtain ⟨news, hnews, hcourse⟩ := ih (h.arrive hqueue hnode)
    refine ⟨.nodeEntered key :: news, ?_,
      .step (.arrival hqueue h.menu hsession hnext hnode) hcourse⟩
    rw [hnews]
    simp [Conversation.arrive]
  | missing hqueue hsession hnext hnode =>
    exact ⟨_, h.events_ended _, .single (.missing hqueue hsession hnext hnode)⟩
  | exited hqueue hnext => exact ⟨_, h.events_ended _, .single (.exited hqueue hnext)⟩

/-- So is time that passes. -/
theorem course_of_elapsed (he : Elapsed c c') (h : Coherent c) :
    ∃ news, c'.events = c.events ++ news ∧ Course g leave c news c' := by
  induction he with
  | still => exact ⟨[], (List.append_nil _).symm, .done⟩
  | credited => exact ⟨[], (List.append_nil _).symm, .single (.aside _ _ _)⟩
  | @moved c c₁ c' turn hturn hm _ ih =>
    obtain ⟨s, hready⟩ := h.ready_silenced hturn
    obtain ⟨first, hfirst, hcourse⟩ := course_of_moved g leave hm hready
    obtain ⟨later, hlater, hcourse'⟩ := ih (coherent_of_moved hm hready)
    have hsilenced : Happens g leave c [] c.silenced := .aside c.world none c.events
    refine ⟨first ++ later, ?_, by simpa using Course.step hsilenced (hcourse.trans hcourse')⟩
    rw [hlater, hfirst, List.append_assoc]
    rfl

/-- A conversation that the request begins is about the dialogue. -/
def BeginsOn (g : Graph) (request : Request) (answer : Answer) : Prop :=
  ∀ npc graph node, request = .enterAt npc graph node → answer = .done → graph = g

/-- **So is whatever comes of a request**, if the conversation that it may begin is about the
dialogue. -/
theorem course_of_response {request : Request} {answer : Answer}
    (hr : Response c request answer c') (h : Coherent c) (hbegins : BeginsOn g request answer)
    (hleave : request = .exit → leave) :
    ∃ news, answer.taken ++ c'.events = c.events ++ news ∧ Course g leave c news c' := by
  cases hr with
  | @began npc graph node _ hs hnode hm =>
    obtain rfl : graph = g := hbegins npc graph node rfl rfl
    obtain ⟨news, hnews, hcourse⟩ := course_of_moved graph leave hm (h.ready_begun hs npc hnode)
    refine ⟨.started npc :: news, ?_, .step (.began hs hnode) hcourse⟩
    simp [Answer.taken, hnews, begun]
  | picked hphase _ hs hnode hchoice hm =>
    have hmenu := h.awaiting_iff.1 hphase
    have hready := h.ready_picked hphase hs hnode hchoice
    obtain ⟨news, hnews, hcourse⟩ := course_of_moved g leave hm hready
    refine ⟨.optionsHidden :: news, ?_, .step (.picked hmenu hs hnode hchoice) hcourse⟩
    simp [Answer.taken, hnews, picked]
  | elapsed he => exact course_of_elapsed he h
  | skipped hturn _ hm =>
    obtain ⟨s, hready⟩ := h.ready_silenced hturn
    obtain ⟨news, hnews, hcourse⟩ := course_of_moved g leave hm hready
    exact ⟨news, hnews, .step (.aside c.world none c.events) hcourse⟩
  | ended hs =>
    refine ⟨_, ?_, .single (.stopped (hleave rfl) hs)⟩
    simp [Answer.taken, ended]
  | drained => exact ⟨[], rfl, .single (.aside c.world c.turn [])⟩
  | written change =>
    exact ⟨[], (List.append_nil _).symm, .single (.aside (c.world.apply change) c.turn c.events)⟩
  | replaced world =>
    exact ⟨[], (List.append_nil _).symm, .single (.aside world c.turn c.events)⟩
  | alreadyActive | unknownEntry | invalidChoice | ignored | kept | idle =>
    exact ⟨[], (List.append_nil _).symm, .done⟩

/-- Every conversation that begins in a run is about one dialogue. -/
def KeepsTo (g : Graph) (c : Conversation) (requests : List Request) : Prop :=
  ∀ before request after, requests = before ++ request :: after →
    BeginsOn g request ((c.after before).respond request).value.1

theorem keepsTo_of_forall {requests : List Request}
    (h : ∀ npc graph node, .enterAt npc graph node ∈ requests → graph = g) :
    KeepsTo g c requests := by
  rintro before request after rfl npc graph node rfl -
  exact h npc graph node (List.mem_append_right before List.mem_cons_self)

theorem KeepsTo.earlier {first later : List Request} (h : KeepsTo g c (first ++ later)) :
    KeepsTo g c first := by
  rintro before request after rfl
  exact h before request (after ++ later) (by rw [List.append_assoc, List.cons_append])

theorem KeepsTo.later (first : List Request) {later : List Request}
    (h : KeepsTo g c (first ++ later)) :
    KeepsTo g (c.after first) later := by
  rintro before request after rfl
  rw [← after_append]
  exact h (first ++ before) request after (by rw [List.append_assoc])

/-- **Every run of requests is a course.** -/
theorem course_after (h : Coherent c) {requests : List Request} (hkeeps : KeepsTo g c requests)
    (hleave : .exit ∈ requests → leave) :
    ∃ news, c.told requests = c.events ++ news ∧ Course g leave c news (c.after requests) := by
  induction requests generalizing c with
  | nil => exact ⟨[], (List.append_nil _).symm, .done⟩
  | cons request rest ih =>
    obtain ⟨first, hfirst, hcourse⟩ := course_of_response (response h request) h
      (hkeeps [] request rest rfl) fun hexit => hleave (hexit ▸ List.mem_cons_self)
    obtain ⟨later, hlater, hcourse'⟩ := ih (coherent_respond h request)
      (hkeeps.later [request]) fun hexit => hleave (List.mem_cons_of_mem _ hexit)
    refine ⟨first ++ later, ?_, hcourse.trans hcourse'⟩
    rw [told_cons, hlater, ← List.append_assoc, hfirst, List.append_assoc]

/-- What a pick leads to is a course that begins where the choice was picked. -/
theorem course_picked (h : Coherent c) {place : Nat} {p : Pick}
    (hpick : c.pick? (.select place) = some p) {later : List Request}
    (hkeeps : KeepsTo g c (.select place :: later)) (hleave : .exit ∈ later → leave) :
    ∃ s news, c.session = some s ∧ c.queue = [] ∧ p.node = s.node ∧
      (∃ node, s.graph.get? p.node = some node ∧ node.choices[p.index]? = some p.choice) ∧
      c.told (.select place :: later) = c.events ++ .optionsHidden :: news ∧
      Course g leave (c.picked s p.index p.choice) news (c.after (.select place :: later)) := by
  have hresponse := response h (.select place)
  have haccepted := (accepted_iff_of_response hresponse).2 (by rw [hpick]; rfl)
  obtain ⟨rest, hrest, hcourse'⟩ := course_after (coherent_respond h (.select place))
    (hkeeps.later [.select place]) hleave
  generalize hanswer : (c.respond (.select place)).value.1 = answer at hresponse haccepted
  generalize hnext : (c.respond (.select place)).value.2 = c₁ at hresponse hrest hcourse'
  subst haccepted
  cases hresponse with
  | @picked _ item s node choice _ hphase hitem hs hnode hchoice hm =>
    obtain rfl : (⟨s.npc, s.node, item.index, choice⟩ : Pick) = p := by
      simpa [pick?, hphase, hitem, hs, hnode, hchoice] using hpick
    obtain ⟨news, hnews, hcourse⟩ :=
      course_of_moved g leave hm (h.ready_picked hphase hs hnode hchoice)
    refine ⟨s, news ++ rest, hs, (h.awaiting hphase).2.2.1, rfl, ⟨node, hnode, hchoice⟩, ?_, ?_⟩
    · rw [told_cons, hanswer, hnext, hrest, hnews]
      simp [Answer.taken, picked]
    · rw [after_cons, hnext]
      exact hcourse.trans hcourse'

end Conversation

end Colloquy
