import Colloquy.Proofs.Time.Words

/-!
# Turns — no time is lost and none is made up

Time is credited to a turn step by step. A step credits all of its time up to the end of the turn
(`nanos_elapsed_advance`), so after any steps the turn has been credited with all of their time, up
to its length (`nanos_elapsed_after`), and never with more. What a step hands back is what it had
beyond the time that remained, unless the sum ran against the greatest duration: then less is handed
back, and never more (`crediting_conserves_time`).
-/

namespace Colloquy

namespace TurnTimer

variable {t : TurnTimer} {dt left : Duration}

/-! ## One step -/

@[simp] theorem duration_advance (t : TurnTimer) (dt : Duration) :
    (t.advance dt).2.duration = t.duration := rfl

@[simp] theorem nanos_remaining (t : TurnTimer) :
    t.remaining.nanos = t.duration.nanos - t.elapsed.nanos := rfl

/-- **A step credits all of its time**, up to the end of the turn. -/
theorem nanos_elapsed_advance (t : TurnTimer) (dt : Duration) :
    (t.advance dt).2.elapsed.nanos = min (t.elapsed.nanos + dt.nanos) t.duration.nanos := by
  have hmax := t.duration.le_max
  show ((t.elapsed.add dt).shorter t.duration).nanos = _
  rw [Duration.nanos_shorter, Duration.nanos_add]
  omega

/-- A turn is over just if the time that remained has been credited. -/
theorem isSome_advance_iff (h : t.elapsed ≤ t.duration) :
    (t.advance dt).1.isSome ↔ t.remaining ≤ dt := by
  have hmax := t.duration.le_max
  rw [Duration.le_iff] at h
  have hover : t.duration ≤ t.elapsed.add dt ↔ t.remaining ≤ dt := by
    rw [Duration.le_iff, Duration.le_iff, Duration.nanos_add, nanos_remaining]
    omega
  rw [← hover]
  exact Option.isSome_ite

/-- What is handed back is what the sum has beyond the length of the turn. -/
theorem nanos_left (h : (t.advance dt).1 = some left) :
    left.nanos + t.duration.nanos = min (t.elapsed.nanos + dt.nanos) maxNanos := by
  obtain ⟨hover, hleft⟩ := Option.ite_none_right_eq_some.1 h
  rw [Duration.le_iff, Duration.nanos_add] at hover
  rw [← Option.some.inj hleft, Duration.nanos_sub, Duration.nanos_add]
  omega

/-! ## Any number of steps -/

/-- The timer after amounts of time were credited, one after the other. -/
def after (t : TurnTimer) : List Duration → TurnTimer
  | [] => t
  | dt :: rest => (t.advance dt).2.after rest

@[simp] theorem duration_after (t : TurnTimer) (dts : List Duration) :
    (t.after dts).duration = t.duration := by
  induction dts generalizing t with
  | nil => rfl
  | cons dt rest ih => rw [after, ih, duration_advance]

/-- **Any steps credit all of their time**, up to the end of the turn. -/
theorem nanos_elapsed_after (h : t.elapsed ≤ t.duration) (dts : List Duration) :
    (t.after dts).elapsed.nanos =
      min (t.elapsed.nanos + (dts.map Duration.nanos).sum) t.duration.nanos := by
  induction dts generalizing t with
  | nil => exact (Nat.min_eq_left h).symm
  | cons dt rest ih =>
    have hstep := nanos_elapsed_advance t dt
    have hle : (t.advance dt).2.elapsed ≤ (t.advance dt).2.duration := by
      rw [Duration.le_iff, hstep]
      exact Nat.min_le_right _ _
    rw [after, ih hle, hstep, duration_advance, List.map_cons, List.sum_cons]
    omega

/-- **Crediting time conserves it, up to the greatest duration.** However a turn has been credited
with time: it is not credited with more than its length; the next step ends it just if the time that
remained is credited, and leaves what remains of that; what is handed back is what the step had
beyond it, or if the sum runs over, what the greatest duration has beyond the turn, which is no
more. None of this has a fault in words. -/
theorem crediting_conserves_time (d : Duration) (earlier : List Duration) (dt : Duration) :
    let t := (start d).after earlier
    let step := t.advance dt
    t.elapsed ≤ d ∧ (step.1.isSome ↔ t.remaining ≤ dt) ∧
      (step.2.remaining.nanos : Int) = max (t.remaining.nanos - dt.nanos) 0 ∧
      (∀ left, step.1 = some left →
        (t.elapsed.nanos + dt.nanos ≤ maxNanos →
          (left.nanos : Int) = dt.nanos - t.remaining.nanos) ∧
        (maxNanos < t.elapsed.nanos + dt.nanos →
          (left.nanos : Int) = maxNanos - d.nanos ∧
            (left.nanos : Int) ≤ dt.nanos - t.remaining.nanos)) ∧
      t.clock.advance dt.parts = .ok (step.1.map Duration.parts, step.2.clock) ∧
      t.clock.remaining = .ok t.remaining.parts := by
  intro t step
  have hstart : (start d).elapsed ≤ (start d).duration := Nat.zero_le _
  have hlength : t.duration = d := duration_after (start d) earlier
  have hle : t.elapsed.nanos ≤ d.nanos := by
    rw [nanos_elapsed_after hstart]
    exact Nat.min_le_right _ _
  have helapsed := nanos_elapsed_advance t dt
  refine ⟨hle, isSome_advance_iff (by rw [hlength]; exact hle), ?_, fun left hleft => ?_,
    advance_clock t dt, remaining_clock t⟩
  · rw [nanos_remaining, nanos_remaining, duration_advance, helapsed, hlength]
    omega
  · have hnanos := nanos_left hleft
    rw [hlength] at hnanos
    rw [nanos_remaining, hlength]
    constructor <;> intro hsum <;> omega

theorem crediting_conserves_time_eternity :
    let t := (start (.ofMillis 1500)).after [.ofMillis 1000, .ofMillis 250]
    let eternity : Duration := ⟨maxNanos, Nat.le_refl _⟩
    (t.elapsed ≤ .ofMillis 1500 ∧ (t.advance (.ofMillis 300)).1 = some (.ofMillis 50) ∧
      ((Duration.ofMillis 50).nanos : Int) = (Duration.ofMillis 300).nanos - t.remaining.nanos) ∧
    (maxNanos < t.elapsed.nanos + eternity.nanos ∧
      ∃ left, (t.advance eternity).1 = some left ∧
        (left.nanos : Int) = maxNanos - (Duration.ofMillis 1500).nanos ∧
          (left.nanos : Int) ≤ eternity.nanos - t.remaining.nanos) := by
  intro t eternity
  have hexact := crediting_conserves_time (.ofMillis 1500) [.ofMillis 1000, .ofMillis 250]
    (.ofMillis 300)
  have hcapped := crediting_conserves_time (.ofMillis 1500) [.ofMillis 1000, .ofMillis 250]
    eternity
  have hover : (t.advance (.ofMillis 300)).1 = some (.ofMillis 50) := by decide
  have hsum : t.elapsed.nanos + (Duration.ofMillis 300).nanos ≤ maxNanos := by decide
  have hfull : maxNanos < t.elapsed.nanos + eternity.nanos := by decide
  have hleft : (t.advance eternity).1 = some (.ofNanos (maxNanos - 1500000000)) := by decide
  exact ⟨⟨hexact.1, hover, (hexact.2.2.2.1 _ hover).1 hsum⟩, hfull, _, hleft,
    (hcapped.2.2.2.1 _ hleft).2 hfull⟩

end TurnTimer

end Colloquy
