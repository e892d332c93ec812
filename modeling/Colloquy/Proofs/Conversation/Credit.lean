import Colloquy.Proofs.Conversation.Coherence

/-!
# Credit — time that passes without a limit

Durations stop at the greatest one, so amounts of time that are credited one after the other cannot
be added up as durations. `elapse` credits a number of nanoseconds, however great. It adds up by its
form (`elapse_add`), and crediting a duration is the same as long as the time of the line on screen
stays within the greatest duration (`value_update`). A sequence of updates is then one `elapse` of
their sum (`after_updates`): how time is cut into updates does not matter.
-/

namespace Colloquy

/-- The nanoseconds of several amounts of time. -/
def Duration.total : List Duration → Nat
  | [] => 0
  | dt :: rest => dt.nanos + total rest

namespace Conversation

variable {c c' : Conversation} {s : Session} {turn : Turn} {dt rest : Duration}

/-! ## One update -/

/-- Without a line on screen, time passes and nothing happens. -/
theorem value_update_of_silent (hturn : c.turn = none) (dt : Duration) :
    (c.update dt).value = c := by
  rw [update]
  split
  · rfl
  · rename_i hturn'
    cases hturn.symm.trans hturn'

/-- A line that does not run out stays, and the time is credited to it. -/
theorem value_update_of_lasting (hturn : c.turn = some turn)
    (hlasting : turn.timer.elapsed.add dt < turn.timer.duration) :
    (c.update dt).value =
      { c with turn := some { turn with
        timer := { turn.timer with elapsed := turn.timer.elapsed.add dt } } } := by
  have hadvance : turn.timer.advance dt =
      (none, { turn.timer with elapsed := turn.timer.elapsed.add dt }) := by
    have hnot : ¬ turn.timer.duration ≤ turn.timer.elapsed.add dt := by
      rw [Duration.le_iff]
      exact Nat.not_le.2 hlasting
    have hle : turn.timer.elapsed.add dt ≤ turn.timer.duration := Nat.le_of_lt hlasting
    simp [TurnTimer.advance, Duration.shorter, hnot, hle]
  rw [update]
  split
  · rename_i hturn'
    cases hturn.symm.trans hturn'
  · rename_i turn' hturn'
    obtain rfl := Option.some.inj (hturn.symm.trans hturn')
    rw [hadvance]
    rfl

/-- A line that runs out gives way, and what comes of moving on is credited with the rest. -/
theorem update_of_done (hturn : c.turn = some turn)
    (hdone : turn.timer.duration ≤ turn.timer.elapsed.add dt) :
    c.update dt = (do
      (← c.silenced.playNext).update ((turn.timer.elapsed.add dt).sub turn.timer.duration)) := by
  have hadvance : (turn.timer.advance dt).1 =
      some ((turn.timer.elapsed.add dt).sub turn.timer.duration) := by
    simp [TurnTimer.advance, hdone]
  rw [update]
  split
  · rename_i hturn'
    cases hturn.symm.trans hturn'
  · rename_i turn' hturn'
    obtain rfl := Option.some.inj (hturn.symm.trans hturn')
    split
    · rename_i hnone
      rw [hnone] at hadvance
      cases hadvance
    · rename_i hsome
      rw [hsome] at hadvance
      cases hadvance
      rfl

theorem value_update_of_done (hturn : c.turn = some turn)
    (hdone : turn.timer.duration ≤ turn.timer.elapsed.add dt) :
    (c.update dt).value = (c.silenced.playNext.value.update
      ((turn.timer.elapsed.add dt).sub turn.timer.duration)).value := by
  rw [update_of_done hturn hdone, Noted.value_bind]

/-! ## Time without a limit -/

/-- The timing of a line with more time credited, which does not run out by it. -/
def lasting (timer : TurnTimer) (time : Nat)
    (h : timer.elapsed.nanos + time < timer.duration.nanos) : TurnTimer :=
  { timer with elapsed :=
    ⟨timer.elapsed.nanos + time, Nat.le_trans (Nat.le_of_lt h) timer.duration.le_max⟩ }

/-- The conversation after so many nanoseconds. -/
def elapse (c : Conversation) (time : Nat) : Conversation :=
  match _h : c.turn with
  | none => c
  | some turn =>
    if h : turn.timer.elapsed.nanos + time < turn.timer.duration.nanos then
      { c with turn := some { turn with timer := lasting turn.timer time h } }
    else
      c.silenced.playNext.value.elapse
        (turn.timer.elapsed.nanos + time - turn.timer.duration.nanos)
termination_by c.pending
decreasing_by exact pending_playNext_lt _h

theorem elapse_of_silent (hturn : c.turn = none) (time : Nat) : c.elapse time = c := by
  rw [elapse]
  split
  · rfl
  · rename_i hturn'
    cases hturn.symm.trans hturn'

theorem elapse_of_lasting (hturn : c.turn = some turn) {time : Nat}
    (h : turn.timer.elapsed.nanos + time < turn.timer.duration.nanos) :
    c.elapse time = { c with turn := some { turn with timer := lasting turn.timer time h } } := by
  rw [elapse]
  split
  · rename_i hturn'
    cases hturn.symm.trans hturn'
  · rename_i turn' hturn'
    obtain rfl := Option.some.inj (hturn.symm.trans hturn')
    rw [dif_pos h]

theorem elapse_of_done (hturn : c.turn = some turn) {time : Nat}
    (h : turn.timer.duration.nanos ≤ turn.timer.elapsed.nanos + time) :
    c.elapse time = c.silenced.playNext.value.elapse
      (turn.timer.elapsed.nanos + time - turn.timer.duration.nanos) := by
  rw [elapse]
  split
  · rename_i hturn'
    cases hturn.symm.trans hturn'
  · rename_i turn' hturn'
    obtain rfl := Option.some.inj (hturn.symm.trans hturn')
    rw [dif_neg (Nat.not_lt.2 h)]

/-- **Time adds up.** -/
theorem elapse_add (c : Conversation) (first later : Nat) :
    (c.elapse first).elapse later = c.elapse (first + later) := by
  fun_induction elapse c first with
  | case1 c first hturn => rw [elapse_of_silent hturn, elapse_of_silent hturn]
  | case2 c first turn hturn hlasting =>
    -- the line that was credited lasts on, or gives way to the same as before
    by_cases h : turn.timer.elapsed.nanos + (first + later) < turn.timer.duration.nanos
    · rw [elapse_of_lasting hturn h, elapse_of_lasting rfl]
      · simp [lasting, Nat.add_assoc]
      · simpa [lasting, Nat.add_assoc] using h
    · have hdone : turn.timer.duration.nanos ≤ turn.timer.elapsed.nanos + (first + later) :=
        Nat.not_lt.1 h
      rw [elapse_of_done hturn hdone, elapse_of_done rfl]
      · simp [lasting, silenced, Nat.add_assoc]
      · simpa [lasting, Nat.add_assoc] using hdone
  | case3 c first turn hturn hdone ih =>
    rw [ih, elapse_of_done hturn (by omega)]
    congr 1
    omega

/-! ## Updates as time that passes -/

/-- A line that has just appeared has its time before it, and the settings stay what they are. -/
theorem started_of_moved (hm : Moved c c') (hsilent : c.turn = none) :
    c'.pacing = c.pacing ∧ ∀ turn, c'.turn = some turn →
      turn.timer = .start (c.pacing.turnDuration turn.line.text) := by
  induction hm with
  | line =>
    refine ⟨rfl, ?_⟩
    rintro turn ⟨rfl⟩
    rfl
  | menu => exact ⟨rfl, fun turn hturn => by cases hsilent.symm.trans hturn⟩
  | arrival _ _ _ _ _ ih => exact ih hsilent
  | deadEnd | missing | exited => exact ⟨rfl, fun turn hturn => by cases hturn⟩

/-- The time of the line on screen, with an amount added, stays within the greatest duration. -/
def Fitting (c : Conversation) (dt : Duration) : Prop :=
  ∀ turn, c.turn = some turn → turn.timer.elapsed.nanos + dt.nanos ≤ maxNanos

/-- **Crediting a duration that fits is letting its time pass.** What is left for the lines after
the first one always fits. -/
theorem value_update (hc : Coherent c) (hfits : c.Fitting dt) :
    (c.update dt).value = c.elapse dt.nanos := by
  induction hpending : c.pending using Nat.strongRecOn generalizing c dt with
  | ind n ih =>
    cases hturn : c.turn with
    | none => rw [value_update_of_silent hturn, elapse_of_silent hturn]
    | some turn =>
      have hadd : (turn.timer.elapsed.add dt).nanos = turn.timer.elapsed.nanos + dt.nanos := by
        rw [Duration.nanos_add, Nat.min_eq_left (hfits turn hturn)]
      by_cases h : turn.timer.elapsed.nanos + dt.nanos < turn.timer.duration.nanos
      · have htimer : { turn.timer with elapsed := turn.timer.elapsed.add dt } =
            lasting turn.timer dt.nanos h := by
          rw [lasting, TurnTimer.mk.injEq]
          exact ⟨rfl, Duration.ext hadd⟩
        rw [value_update_of_lasting hturn (by rwa [Duration.lt_iff, hadd]),
          elapse_of_lasting hturn h, htimer]
      · have hdone : turn.timer.duration.nanos ≤ turn.timer.elapsed.nanos + dt.nanos :=
          Nat.not_lt.1 h
        obtain ⟨s, hready⟩ := hc.ready_silenced hturn
        have hm : Moved c.silenced c.silenced.playNext.value := moved_playNext hready
        have hrest : ((turn.timer.elapsed.add dt).sub turn.timer.duration).nanos =
            turn.timer.elapsed.nanos + dt.nanos - turn.timer.duration.nanos := by
          rw [Duration.nanos_sub, hadd]
        rw [value_update_of_done hturn (by rwa [Duration.le_iff, hadd]),
          elapse_of_done hturn hdone, ← hrest]
        refine ih _ (hpending ▸ pending_playNext_lt hturn) (coherent_of_moved hm hready) ?_ rfl
        -- a line that has just appeared has no time to add to
        intro started hstarted
        rw [(started_of_moved hm rfl).2 started hstarted]
        show 0 + ((turn.timer.elapsed.add dt).sub turn.timer.duration).nanos ≤ maxNanos
        rw [Nat.zero_add]
        exact Duration.le_max _

/-- Every amount fits in its turn. -/
def AllFitting (c : Conversation) : List Duration → Prop
  | [] => True
  | dt :: rest => c.Fitting dt ∧ (c.update dt).value.AllFitting rest

/-- Updates by several amounts, in order. -/
def updates (amounts : List Duration) : List Request := amounts.map .update

/-- **Updates are the time that they add up to**, however it is cut. -/
theorem after_updates (hc : Coherent c) {amounts : List Duration} (hne : amounts ≠ [])
    (hfits : c.AllFitting amounts) :
    c.after (updates amounts) = c.elapse (Duration.total amounts) := by
  induction amounts generalizing c with
  | nil => exact absurd rfl hne
  | cons dt rest ih =>
    have hfirst : (c.respond (.update dt)).value.2 = c.elapse dt.nanos := value_update hc hfits.1
    rw [updates, List.map_cons, after_cons, Duration.total]
    cases rest with
    | nil => exact hfirst
    | cons dt' rest =>
      rw [← elapse_add, ← hfirst]
      exact ih (coherent_respond hc _) (List.cons_ne_nil _ _) hfits.2

end Conversation

end Colloquy
