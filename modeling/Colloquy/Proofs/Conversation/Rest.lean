import Colloquy.Proofs.Conversation.Schedule

/-!
# Rest — where an update stops

An update lets lines run out one after the other, each leaving the rest of the time to the next, and
lines that take no time cost none of it: what bounds an update is not the time but the lines that
are there to play. `RunsOut` counts them. The lines that ran out are the first ones of the chain
(`RunsOut.chain_eq`), and a chain reaches to the next menu or the end and no further: a node that is
gone to settles its menu on arrival, so no second one is gone to (`route_of_moved`).
-/

namespace Colloquy

/-- The nodes that are entered among events. -/
def entered : List Event → List String
  | [] => []
  | .nodeEntered node :: rest => node :: entered rest
  | .started _ :: rest | .line _ :: rest | .optionsShown _ :: rest | .optionsHidden :: rest
  | .ended _ :: rest => entered rest

theorem entered_append (first later : List Event) :
    entered (first ++ later) = entered first ++ entered later := by
  fun_induction entered first <;> simp_all [entered]

namespace Conversation

variable {c c' d : Conversation} {dt : Duration} {n m : Nat}

/-! ## Nodes that are gone to -/

/-- The node that is gone to when the lines are through, if one is. -/
def route (c : Conversation) : List String :=
  match c.next with
  | .enter key => [key]
  | .showOptions | .offer _ | .exit => []

theorem length_route_le (c : Conversation) : c.route.length ≤ 1 := by
  unfold route
  split <;> simp

/-- **Moving on enters the node on its route at most**, and has no other route afterwards. -/
theorem route_of_moved (hm : Moved c c') :
    ∃ news, c'.events = c.events ++ news ∧ (entered news ++ c'.route).Sublist c.route := by
  induction hm with
  | line => exact ⟨_, rfl, List.Sublist.refl _⟩
  | menu => exact ⟨_, rfl, List.nil_sublist _⟩
  | deadEnd | missing | exited =>
    refine ⟨_, List.append_assoc _ _ _, ?_⟩
    split <;> exact List.nil_sublist _
  | arrival _ _ hnext _ _ ih =>
    -- what comes after the arrival is a menu, so the rest of the way has no route at all
    obtain ⟨news, hnews, hrest⟩ := ih
    obtain hnone := List.sublist_nil.1 hrest
    refine ⟨.nodeEntered _ :: news, by simpa [arrive] using hnews, ?_⟩
    rw [entered, List.cons_append, hnone, route, hnext]

/-! ## Lines that run out -/

/-- An update in which so many lines run out, one after the other. It stops when nothing is on
screen or when a line is that outlasts the rest of the time. -/
inductive RunsOut : Nat → Conversation → Duration → Conversation → Prop where
  | silent {c : Conversation} {dt : Duration} (hturn : c.turn = none) : RunsOut 0 c dt c
  | lasting {c : Conversation} {dt : Duration} {turn : Turn} (hturn : c.turn = some turn)
      (hlasting : turn.timer.elapsed.add dt < turn.timer.duration) :
      RunsOut 0 c dt { c with turn := some { turn with
        timer := { turn.timer with elapsed := turn.timer.elapsed.add dt } } }
  | next {n : Nat} {c c' : Conversation} {dt : Duration} {turn : Turn} (hturn : c.turn = some turn)
      (hdone : turn.timer.duration ≤ turn.timer.elapsed.add dt)
      (h : RunsOut n c.silenced.playNext.value
        ((turn.timer.elapsed.add dt).sub turn.timer.duration) c') :
      RunsOut (n + 1) c dt c'

namespace RunsOut

/-- An update comes to what is left when its lines have run out. -/
theorem value_update (h : RunsOut n c dt c') : (c.update dt).value = c' := by
  induction h with
  | silent hturn => exact value_update_of_silent hturn _
  | lasting hturn hlasting => exact value_update_of_lasting hturn hlasting
  | next hturn hdone _ ih => rw [value_update_of_done hturn hdone, ih]

/-- There is one number of lines that run out. -/
theorem unique (h : RunsOut n c dt c') (h' : RunsOut m c dt d) : m = n ∧ d = c' := by
  refine ⟨?_, h'.value_update.symm.trans h.value_update⟩
  induction h generalizing m with
  | silent hturn =>
    cases h' with
    | silent => rfl
    | lasting hturn' | next hturn' => cases hturn.symm.trans hturn'
  | lasting hturn hlasting =>
    cases h' with
    | silent => rfl
    | lasting => rfl
    | next hturn' hdone =>
      cases hturn.symm.trans hturn'
      exact absurd hlasting (Nat.not_lt.2 hdone)
  | next hturn hdone _ ih =>
    cases h' with
    | silent hturn' => cases hturn.symm.trans hturn'
    | lasting hturn' hlasting =>
      cases hturn.symm.trans hturn'
      exact absurd hlasting (Nat.not_lt.2 hdone)
    | next hturn' _ h' =>
      cases hturn.symm.trans hturn'
      rw [ih h']

/-- **A line that is left on screen has time left.** -/
theorem remaining_pos (h : RunsOut n c dt c') {rest : Duration}
    (hrest : c'.turnRemaining = some rest) : Duration.zero < rest := by
  induction h with
  | silent hturn => simp [turnRemaining, hturn] at hrest
  | lasting hturn hlasting =>
    obtain rfl := Option.some.inj hrest
    exact Nat.sub_pos_of_lt hlasting
  | next _ _ _ ih => exact ih hrest

/-- **The lines that run out are the first ones of the chain.** -/
theorem chain_eq (h : RunsOut n c dt c') (hc : Coherent c) :
    n ≤ c.chain.length ∧ c'.chain = c.chain.drop n := by
  induction h with
  | silent => exact ⟨Nat.zero_le _, rfl⟩
  | lasting hturn => exact ⟨Nat.zero_le _, by simp [chain, hturn, linesAhead]⟩
  | next hturn _ _ ih =>
    obtain ⟨s, hready⟩ := hc.ready_silenced hturn
    have hm : Moved _ _ := moved_playNext hready
    obtain ⟨hlength, hchain⟩ := ih (coherent_of_moved hm hready)
    rw [chain_of_moved hm rfl] at hlength hchain
    rw [chain_of_turn hturn]
    exact ⟨Nat.succ_le_succ hlength, hchain⟩

/-- **At most one node is entered**: the one on the route. -/
theorem route_sublist (h : RunsOut n c dt c') (hc : Coherent c) :
    ∃ news, c'.events = c.events ++ news ∧ (entered news ++ c'.route).Sublist c.route := by
  induction h with
  | silent | lasting => exact ⟨[], (List.append_nil _).symm, List.Sublist.refl _⟩
  | next hturn _ _ ih =>
    obtain ⟨s, hready⟩ := hc.ready_silenced hturn
    have hm : Moved _ _ := moved_playNext hready
    obtain ⟨first, hfirst, hroute⟩ := route_of_moved hm
    obtain ⟨later, hlater, hrest⟩ := ih (coherent_of_moved hm hready)
    refine ⟨first ++ later, by rw [hlater, hfirst, List.append_assoc]; rfl, ?_⟩
    rw [entered_append, List.append_assoc]
    exact (hrest.append_left _).trans hroute

end RunsOut

/-- **Lines run out one after the other until an update is through.** -/
theorem exists_runsOut (hc : Coherent c) (dt : Duration) :
    ∃ n, RunsOut n c dt (c.update dt).value := by
  induction hchain : c.chain generalizing c dt with
  | nil =>
    have hturn : c.turn = none := by
      cases hturn : c.turn with
      | none => rfl
      | some turn => rw [chain_of_turn hturn] at hchain; cases hchain
    rw [value_update_of_silent hturn]
    exact ⟨0, .silent hturn⟩
  | cons line rest ih =>
    cases hturn : c.turn with
    | none => rw [(hc.silent hturn).2] at hchain; cases hchain
    | some turn =>
      by_cases hdone : turn.timer.duration ≤ turn.timer.elapsed.add dt
      · obtain ⟨s, hready⟩ := hc.ready_silenced hturn
        have hm : Moved c.silenced c.silenced.playNext.value := moved_playNext hready
        have hrest : c.silenced.playNext.value.chain = rest := by
          rw [chain_of_moved hm rfl]
          rw [chain_of_turn hturn] at hchain
          exact (List.cons.inj hchain).2
        obtain ⟨n, h⟩ := ih (coherent_of_moved hm hready)
          ((turn.timer.elapsed.add dt).sub turn.timer.duration) hrest
        rw [value_update_of_done hturn hdone]
        exact ⟨n + 1, .next hturn hdone h⟩
      · have hlasting : turn.timer.elapsed.add dt < turn.timer.duration := Nat.not_le.1 hdone
        rw [value_update_of_lasting hturn hlasting]
        exact ⟨0, .lasting hturn hlasting⟩

theorem length_chain_le (c : Conversation) :
    c.chain.length ≤ 1 + c.queue.length + c.linesAhead.length := by
  rw [chain, List.length_append, List.length_append, List.length_map]
  cases c.turn <;> simp

/-- **An update comes to rest.** Whatever was asked of a fresh conversation, over whatever dialogues
and with whatever settings, also if no line takes any time: by an update of any length a number of
lines run out that is at most one, the lines in the queue, and the lines of the node that is gone to
next, if it exists. At most one node is entered, the one that is gone to next. The update stops
without a line on screen or with one that has time left. -/
theorem update_comes_to_rest (world : World) (pacing : Pacing) (requests : List Request)
    (dt : Duration) :
    let c := (fresh world pacing).after requests
    let c' := (c.update dt).value
    ∃ n news, (∀ m d, RunsOut m c dt d ↔ m = n ∧ d = c') ∧
      n ≤ 1 + c.queue.length + c.linesAhead.length ∧ c'.chain = c.chain.drop n ∧
      c'.events = c.events ++ news ∧ (entered news).Sublist c.route ∧ (entered news).length ≤ 1 ∧
      (c'.turn = none ∨ ∃ rest, c'.turnRemaining = some rest ∧ Duration.zero < rest) := by
  intro c c'
  have hc : Coherent c := (coherent_fresh world pacing).after requests
  obtain ⟨n, h⟩ := exists_runsOut hc dt
  obtain ⟨hlength, hchain⟩ := h.chain_eq hc
  obtain ⟨news, hnews, hroute⟩ := h.route_sublist hc
  have hentered : (entered news).Sublist c.route := (List.sublist_append_left _ _).trans hroute
  refine ⟨n, news, fun m d => ⟨h.unique, ?_⟩, hlength.trans (length_chain_le c), hchain, hnews,
    hentered, hentered.length_le.trans (length_route_le c), ?_⟩
  · rintro ⟨rfl, rfl⟩
    exact h
  · cases hturn : c'.turn with
    | none => exact .inl rfl
    | some turn =>
      have hrest : c'.turnRemaining = some turn.timer.remaining := by simp [turnRemaining, hturn]
      exact .inr ⟨_, hrest, h.remaining_pos hrest⟩

/-- The bound is reached where lines take no time: the line on screen, the one in the queue and the
one at the next node run out together, and then the conversation is over. -/
example :
    let c := (fresh .empty ⟨"nate", .zero, .zero, .zero⟩).after
      [.enterAt "zyx" parting "start", .select 0]
    1 + c.queue.length + c.linesAhead.length = 3 ∧
      ∃ c', RunsOut 3 c .zero c' ∧ c'.phase = .idle :=
  ⟨by decide, _, .next rfl (by decide) (.next rfl (by decide) (.next rfl (by decide)
    (.silent rfl))), by decide⟩

end Conversation

end Colloquy
