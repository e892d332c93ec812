import Colloquy.Proofs.Conversation.Refused

/-!
# The backlog — events that were told before and not taken yet

Events that wait to be taken have no part in what a conversation does: it only adds to them. So it
makes no difference whether they are taken before time passes or after, and letting every line run
out at once tells the same as letting one line run out after the other and taking the events in
between (`value_fastForward_behind`). A conversation that is running ends once, so the ends among the
events that wait, with the one to come, keep their number (`endings_of_moved`).
-/

namespace Colloquy

/-- Whether an event is the end of a conversation. -/
def Event.isEnd : Event → Bool
  | .ended _ => true
  | .started _ | .nodeEntered _ | .line _ | .optionsShown _ | .optionsHidden => false

namespace Conversation

variable {c c' : Conversation} {s : Session} {past : List Event}

/-- The conversation with events that were told before all of its own. -/
def behind (past : List Event) (c : Conversation) : Conversation :=
  { c with events := past ++ c.events }

/-- A conversation is what is left when its events are taken, behind these events. -/
theorem behind_drain (c : Conversation) : c.drain.2.behind c.events = c := by
  simp [behind, drain]

theorem drain_of_nil (hevents : c.events = []) : c.drain.2 = c := by
  rw [drain, ← hevents]

theorem Ready.behind (h : Ready c s) (past : List Event) : Ready (c.behind past) s :=
  ⟨h.session, h.sound, h.turn, h.menu, h.linedUp, h.lists⟩

theorem ended_behind (c : Conversation) (past : List Event) (reason : EndReason) :
    (c.ended reason).behind past = (c.behind past).ended reason := by
  cases hmenu : c.menu <;> simp [behind, ended, hmenu]

/-- **A move adds to the events and does not look at them.** -/
theorem Moved.behind (hm : Moved c c') (past : List Event) :
    Moved (c.behind past) (c'.behind past) := by
  induction hm with
  | @line c phase line rest hqueue =>
    have hplay : (c.play phase line rest).behind past = (c.behind past).play phase line rest := by
      simp [Conversation.behind, play]
    rw [hplay]
    exact .line hqueue
  | @menu c menu hqueue hmenu hne =>
    have hshown : (c.shown menu).behind past = (c.behind past).shown menu := by
      simp [Conversation.behind, shown]
    rw [hshown]
    exact .menu hqueue hmenu hne
  | deadEnd hqueue hmenu =>
    rw [ended_behind]
    exact .deadEnd hqueue hmenu
  | @arrival c c' s key node hqueue hsession hnext hnode _ ih =>
    have harrive : (c.arrive s key node).behind past = (c.behind past).arrive s key node := by
      simp [Conversation.behind, arrive]
    rw [harrive] at ih
    exact .arrival hqueue hsession hnext hnode ih
  | missing hqueue hsession hnext hnode =>
    rw [ended_behind]
    exact .missing hqueue hsession hnext hnode
  | exited hqueue hnext =>
    rw [ended_behind]
    exact .exited hqueue hnext

theorem value_playNext_behind (h : Ready c s) (past : List Event) :
    (c.behind past).playNext.value = c.playNext.value.behind past :=
  value_of_moved ((moved_playNext h).behind past) (h.behind past)

/-- **Crediting time adds to the events and does not look at them.** -/
theorem value_update_behind (hc : Coherent c) (past : List Event) (dt : Duration) :
    ((c.behind past).update dt).value = (c.update dt).value.behind past := by
  induction hpending : c.pending using Nat.strongRecOn generalizing c dt with
  | ind n ih =>
    cases hturn : c.turn with
    | none =>
      have hturn' : (c.behind past).turn = none := hturn
      rw [value_update_of_silent hturn, value_update_of_silent hturn']
    | some turn =>
      have hturn' : (c.behind past).turn = some turn := hturn
      by_cases hdone : turn.timer.duration ≤ turn.timer.elapsed.add dt
      · obtain ⟨s, hready⟩ := hc.ready_silenced hturn
        have hmoved : (c.behind past).silenced.playNext.value =
            c.silenced.playNext.value.behind past := value_playNext_behind hready past
        rw [value_update_of_done hturn hdone, value_update_of_done hturn' hdone, hmoved]
        exact ih _ (hpending ▸ pending_playNext_lt hturn)
          (coherent_of_moved (moved_playNext hready) hready) _ rfl
      · have hlasting : turn.timer.elapsed.add dt < turn.timer.duration := by
          rw [Duration.le_iff] at hdone
          exact Nat.lt_of_not_le hdone
        rw [value_update_of_lasting hturn hlasting, value_update_of_lasting hturn' hlasting]
        rfl

/-! ## Letting every line run out -/

theorem value_fastForward_of_silent (hturn : c.turn = none) : c.fastForward.value = c := by
  rw [fastForward]
  split
  · rfl
  · rename_i hrest
    simp [turnRemaining, hturn] at hrest

theorem value_fastForward_of_remaining {rest : Duration} (h : c.turnRemaining = some rest) :
    c.fastForward.value = (c.update rest).value.fastForward.value := by
  rw [fastForward]
  split
  · rename_i hnone
    cases h.symm.trans hnone
  · rename_i rest' hrest
    obtain rfl := Option.some.inj (h.symm.trans hrest)
    rfl

/-- **Letting every line run out adds to the events and does not look at them.** -/
theorem value_fastForward_behind (hc : Coherent c) (past : List Event) :
    (c.behind past).fastForward.value = c.fastForward.value.behind past := by
  induction hpending : c.pending using Nat.strongRecOn generalizing c with
  | ind n ih =>
    cases hrest : c.turnRemaining with
    | none =>
      have hturn : c.turn = none := by simpa [turnRemaining] using hrest
      have hturn' : (c.behind past).turn = none := hturn
      rw [value_fastForward_of_silent hturn, value_fastForward_of_silent hturn']
    | some rest =>
      have hrest' : (c.behind past).turnRemaining = some rest := hrest
      rw [value_fastForward_of_remaining hrest, value_fastForward_of_remaining hrest',
        value_update_behind hc]
      exact ih _ (hpending ▸ pending_update_remaining_lt hrest)
        (coherent_of_elapsed (elapsed_update hc rest) hc) rfl

/-! ## What ends -/

/-- How many conversations have ended or are to end, as far as it was not taken. -/
def endings (c : Conversation) : Nat :=
  c.events.countP Event.isEnd + if c.session.isSome then 1 else 0

theorem value_exit (hs : c.session = some s) : c.exit.value = c.ended .requested := by
  simp [exit, isActive, finish, hs]

/-- A conversation that is ended will not end again. -/
theorem endings_ended (hs : c.session = some s) (reason : EndReason) :
    (c.ended reason).endings = c.endings := by
  cases hmenu : c.menu <;> simp [endings, ended, hs, hmenu, Event.isEnd]

/-- A move ends a conversation at most once. -/
theorem endings_of_moved (hm : Moved c c') (hs : c.session = some s) :
    c'.endings = c.endings := by
  induction hm generalizing s with
  | line | menu => simp [endings, play, shown, Event.isEnd, hs]
  | deadEnd | missing | exited => exact endings_ended hs _
  | arrival hqueue hsession hnext hnode _ ih =>
    rw [ih rfl]
    simp [endings, arrive, hsession, Event.isEnd]

theorem endings_of_elapsed (he : Elapsed c c') (hc : Coherent c) : c'.endings = c.endings := by
  induction he with
  | still | credited => rfl
  | @moved c c₁ c' turn hturn hm _ ih =>
    obtain ⟨s, hready⟩ := hc.ready_silenced hturn
    have hmoved : c₁.endings = c.silenced.endings := endings_of_moved hm hready.session
    exact (ih (coherent_of_moved hm hready)).trans hmoved

/-- A pick ends a conversation at most once. -/
theorem endings_of_picked {place : Nat} (hc : Coherent c)
    (hselect : (c.select place).value = .ok (.accepted, c')) : c'.endings = c.endings := by
  obtain ⟨hphase, hplace⟩ := (select_accepted_iff hc place).1 ⟨c', hselect⟩
  obtain ⟨s, node, choice, hs, hnode, hchoice⟩ :=
    hc.exists_choice hphase (List.getElem?_eq_getElem hplace)
  have hvalue := value_select hphase (List.getElem?_eq_getElem hplace) hs hnode hchoice
  obtain rfl : (c.picked s c.menu[place].index choice).playNext.value = c' := by
    simpa using hvalue.symm.trans hselect
  have hready := hc.ready_picked hphase hs hnode hchoice
  rw [endings_of_moved (moved_playNext hready) hready.session]
  simp [endings, picked, hs, Event.isEnd]

end Conversation

end Colloquy
