import Colloquy.Time.Turn
import Mathlib.Algebra.GroupWithZero.Nat

/-!
# Words — durations as a machine counts them

A machine keeps a duration in two words: the seconds in one of 64 bits and the nanoseconds beyond
them in one of 32. Every operation on words is checked here, and a result that its word cannot hold
is a fault. Sums and differences of durations have no fault (`sum?_parts`, `difference?_parts`):
where the seconds have no result, the sum or the difference has none either, and that is an answer.
So the timing of a line has no fault (`advance_clock`, `remaining_clock`), and it comes to what it
comes to when only nanoseconds are counted.
-/

namespace Colloquy

/-! ## Words -/

/-- Why an operation on words has no result. -/
inductive WordFault where
  /-- The result is too great for its word. -/
  | overflow
  /-- The result is below zero. -/
  | underflow
  deriving DecidableEq, Repr

/-- Where an operation has a result, the next one goes on from it. -/
theorem WordFault.bind_of_ok {α β : Type} {x : Except WordFault α} {v : α} (h : x = .ok v)
    (f : α → Except WordFault β) : (x >>= f) = f v := by
  rw [h]
  rfl

namespace Word

variable {bits a b : Nat}

/-- The sum in a word of so many bits. -/
def plus (bits a b : Nat) : Except WordFault Nat :=
  if a + b < 2 ^ bits then .ok (a + b) else .error .overflow

/-- The difference of two words. -/
def minus (a b : Nat) : Except WordFault Nat := if b ≤ a then .ok (a - b) else .error .underflow

theorem plus_of_lt (h : a + b < 2 ^ bits) : plus bits a b = .ok (a + b) := if_pos h

theorem plus_of_le (h : 2 ^ bits ≤ a + b) : plus bits a b = .error .overflow :=
  if_neg (Nat.not_lt.2 h)

theorem minus_of_le (h : b ≤ a) : minus a b = .ok (a - b) := if_pos h

theorem minus_of_lt (h : a < b) : minus a b = .error .underflow := if_neg (Nat.not_le.2 h)

end Word

/-! ## Durations in words -/

/-- A duration in words. -/
structure Parts where
  /-- The whole seconds, in 64 bits. -/
  seconds : Nat
  /-- The nanoseconds beyond them, in 32 bits and less than a second. -/
  nanos : Nat
  deriving DecidableEq, Repr

namespace Parts

/-- The sum, if there is one: the seconds have to fit, also with the one that the nanoseconds may
make up. -/
def sum? (a b : Parts) : Except WordFault (Option Parts) :=
  match Word.plus 64 a.seconds b.seconds with
  | .error _ => .ok none
  | .ok seconds => do
    let nanos ← Word.plus 32 a.nanos b.nanos
    if nanos < 1000000000 then return some ⟨seconds, nanos⟩
    let nanos ← Word.minus nanos 1000000000
    match Word.plus 64 seconds 1 with
    | .error _ => return none
    | .ok seconds => return some ⟨seconds, nanos⟩

/-- The difference, if there is one: a second may have to be borrowed for the nanoseconds. -/
def difference? (a b : Parts) : Except WordFault (Option Parts) :=
  match Word.minus a.seconds b.seconds with
  | .error _ => .ok none
  | .ok seconds =>
    if b.nanos ≤ a.nanos then do
      let nanos ← Word.minus a.nanos b.nanos
      return some ⟨seconds, nanos⟩
    else match Word.minus seconds 1 with
    | .error _ => .ok none
    | .ok seconds => do
      let raised ← Word.plus 32 a.nanos 1000000000
      let nanos ← Word.minus raised b.nanos
      return some ⟨seconds, nanos⟩

/-- The greatest duration. -/
def greatest : Parts := ⟨2 ^ 64 - 1, 999999999⟩

/-- The sum, or the greatest duration. -/
def sum (a b : Parts) : Except WordFault Parts := return (← a.sum? b).getD greatest

/-- The difference, or no time. -/
def difference (a b : Parts) : Except WordFault Parts := return (← a.difference? b).getD ⟨0, 0⟩

/-- The shorter of two durations: first the seconds are compared, then the nanoseconds. -/
def shorter (a b : Parts) : Parts :=
  if a.seconds < b.seconds ∨ a.seconds = b.seconds ∧ a.nanos ≤ b.nanos then a else b

end Parts

open WordFault (bind_of_ok)

namespace Duration

/-- A duration in words. -/
def parts (d : Duration) : Parts := ⟨d.seconds, d.subsecond⟩

/-- The duration of so many nanoseconds, if there is one. -/
def ofNanos? (n : Nat) : Option Duration := if h : n ≤ maxNanos then some ⟨n, h⟩ else none

variable (a b : Duration)

theorem nanos_parts_lt : a.parts.nanos < 1000000000 := Nat.mod_lt _ (by decide)

theorem nanos_eq : a.nanos = a.parts.seconds * 1000000000 + a.parts.nanos := by
  simp only [parts, seconds, subsecond]
  omega

/-- The words of a duration are those that make it up, if the second one is less than a second. -/
theorem parts_eq {d : Duration} {seconds nanos : Nat} (hlt : nanos < 1000000000)
    (h : d.nanos = seconds * 1000000000 + nanos) : d.parts = ⟨seconds, nanos⟩ := by
  rw [parts, Parts.mk.injEq, Duration.seconds, subsecond]
  omega

/-- Seconds and nanoseconds make up a duration just if the seconds fit in their word. -/
theorem map_parts_ofNanos? {seconds nanos : Nat} (hlt : nanos < 1000000000) :
    (ofNanos? (seconds * 1000000000 + nanos)).map parts =
      if seconds < 2 ^ 64 then some ⟨seconds, nanos⟩ else none := by
  have hfits : seconds * 1000000000 + nanos ≤ maxNanos ↔ seconds < 2 ^ 64 := by
    rw [maxNanos]
    omega
  unfold ofNanos?
  split
  · next hle => rw [if_pos (hfits.1 hle), Option.map_some, parts_eq hlt rfl]
  · next hgt => rw [if_neg (mt hfits.2 hgt), Option.map_none]

theorem parts_ofNanos (n : Nat) :
    (ofNanos n).parts = ((ofNanos? n).map parts).getD Parts.greatest := by
  unfold ofNanos?
  split
  · next hle => exact congrArg parts (Duration.ext (Nat.min_eq_left hle))
  · next hgt =>
    have hgreatest : (ofNanos n).nanos = maxNanos := Nat.min_eq_right (Nat.le_of_not_le hgt)
    exact parts_eq (by decide) hgreatest

/-- **A sum in words has no fault**: it is the sum, if that is a duration, or there is none. -/
theorem sum?_parts : a.parts.sum? b.parts = .ok ((ofNanos? (a.nanos + b.nanos)).map parts) := by
  have hananos := a.nanos_parts_lt
  have hbnanos := b.nanos_parts_lt
  have hword : a.parts.nanos + b.parts.nanos < 2 ^ 32 := by omega
  rw [a.nanos_eq, b.nanos_eq, Parts.sum?]
  by_cases hcarry : a.parts.nanos + b.parts.nanos < 1000000000
  · have hsum : a.parts.seconds * 1000000000 + a.parts.nanos +
        (b.parts.seconds * 1000000000 + b.parts.nanos) =
      (a.parts.seconds + b.parts.seconds) * 1000000000 + (a.parts.nanos + b.parts.nanos) := by omega
    rw [hsum, map_parts_ofNanos? hcarry]
    by_cases hseconds : a.parts.seconds + b.parts.seconds < 2 ^ 64
    · rw [Word.plus_of_lt hseconds, if_pos hseconds]
      exact (bind_of_ok (Word.plus_of_lt hword) _).trans (if_pos hcarry)
    · rw [Word.plus_of_le (Nat.le_of_not_lt hseconds), if_neg hseconds]
  · -- the nanoseconds make up another second
    have hcarried := Word.minus_of_le (Nat.le_of_not_lt hcarry)
    have hsum : a.parts.seconds * 1000000000 + a.parts.nanos +
        (b.parts.seconds * 1000000000 + b.parts.nanos) =
      (a.parts.seconds + b.parts.seconds + 1) * 1000000000 +
        (a.parts.nanos + b.parts.nanos - 1000000000) := by omega
    rw [hsum, map_parts_ofNanos? (by omega)]
    by_cases hseconds : a.parts.seconds + b.parts.seconds < 2 ^ 64
    · simp only [Word.plus_of_lt hseconds]
      rw [bind_of_ok (Word.plus_of_lt hword), if_neg hcarry, bind_of_ok hcarried]
      by_cases hnext : a.parts.seconds + b.parts.seconds + 1 < 2 ^ 64
      · rw [Word.plus_of_lt hnext, if_pos hnext]
        rfl
      · rw [Word.plus_of_le (Nat.le_of_not_lt hnext), if_neg hnext]
        rfl
    · rw [Word.plus_of_le (Nat.le_of_not_lt hseconds), if_neg (by omega)]

/-- **So has a difference in words**: it is the difference, if it is not below zero, or there is
none. -/
theorem difference?_parts :
    a.parts.difference? b.parts = .ok (if b ≤ a then some (a.sub b).parts else none) := by
  have ha := a.nanos_eq
  have hb := b.nanos_eq
  have hananos := a.nanos_parts_lt
  have hbnanos := b.nanos_parts_lt
  rw [Parts.difference?]
  by_cases hseconds : b.parts.seconds ≤ a.parts.seconds
  · rw [Word.minus_of_le hseconds]
    by_cases hnanos : b.parts.nanos ≤ a.parts.nanos
    · have hle : b ≤ a := by rw [le_iff]; omega
      have hsub : (a.sub b).parts =
          ⟨a.parts.seconds - b.parts.seconds, a.parts.nanos - b.parts.nanos⟩ :=
        parts_eq (by omega) (by rw [nanos_sub]; omega)
      rw [if_pos hle, hsub]
      simp only [if_pos hnanos, Word.minus_of_le hnanos]
      rfl
    · -- a second is borrowed, if there is one
      simp only [if_neg hnanos]
      by_cases hborrow : 1 ≤ a.parts.seconds - b.parts.seconds
      · have hle : b ≤ a := by rw [le_iff]; omega
        have hraised : a.parts.nanos + 1000000000 < 2 ^ 32 := by omega
        have hminus : b.parts.nanos ≤ a.parts.nanos + 1000000000 := by omega
        have hsub : (a.sub b).parts = ⟨a.parts.seconds - b.parts.seconds - 1,
            a.parts.nanos + 1000000000 - b.parts.nanos⟩ :=
          parts_eq (by omega) (by rw [nanos_sub]; omega)
        rw [if_pos hle, hsub]
        simp only [Word.minus_of_le hborrow]
        rw [bind_of_ok (Word.plus_of_lt hraised), bind_of_ok (Word.minus_of_le hminus)]
        rfl
      · have hlt : ¬ b ≤ a := by rw [le_iff]; omega
        rw [Word.minus_of_lt (Nat.lt_of_not_le hborrow), if_neg hlt]
  · have hlt : ¬ b ≤ a := by rw [le_iff]; omega
    rw [Word.minus_of_lt (Nat.lt_of_not_le hseconds), if_neg hlt]

/-- A sum in words, or else the greatest duration, is the sum of durations. -/
theorem sum_parts : a.parts.sum b.parts = .ok (a.add b).parts := by
  rw [Parts.sum, bind_of_ok (sum?_parts a b), add, parts_ofNanos]
  rfl

/-- A difference in words, or else no time, is the difference of durations. -/
theorem difference_parts : a.parts.difference b.parts = .ok (a.sub b).parts := by
  rw [Parts.difference, bind_of_ok (difference?_parts a b)]
  split
  · rfl
  · next hlt =>
    rw [le_iff, Nat.not_le] at hlt
    have hzero : (a.sub b).parts = ⟨0, 0⟩ := parts_eq (by decide) (by rw [nanos_sub]; omega)
    rw [hzero]
    rfl

theorem shorter_parts : a.parts.shorter b.parts = (a.shorter b).parts := by
  have ha := a.nanos_eq
  have hb := b.nanos_eq
  have hananos := a.nanos_parts_lt
  have hbnanos := b.nanos_parts_lt
  have hle : (a.parts.seconds < b.parts.seconds ∨
      a.parts.seconds = b.parts.seconds ∧ a.parts.nanos ≤ b.parts.nanos) ↔ a ≤ b := by
    rw [le_iff]
    omega
  simp only [Parts.shorter, shorter, hle]
  split <;> rfl

end Duration

/-! ## Turns in words -/

/-- The timing of a line in words. -/
structure Clock where
  duration : Parts
  elapsed : Parts
  deriving DecidableEq, Repr

namespace Clock

/-- Credit time. What is handed back is the time left over, once the turn is done. -/
def advance (c : Clock) (dt : Parts) : Except WordFault (Option Parts × Clock) := do
  let total ← c.elapsed.sum dt
  let left ← total.difference? c.duration
  return (left, { c with elapsed := total.shorter c.duration })

/-- The time until the turn ends by itself. -/
def remaining (c : Clock) : Except WordFault Parts := c.duration.difference c.elapsed

end Clock

namespace TurnTimer

variable (t : TurnTimer)

/-- The timing of a line in words. -/
def clock : Clock := ⟨t.duration.parts, t.elapsed.parts⟩

/-- **Crediting time in words has no fault**, and it comes to the same. -/
theorem advance_clock (dt : Duration) :
    t.clock.advance dt.parts =
      .ok ((t.advance dt).1.map Duration.parts, (t.advance dt).2.clock) := by
  rw [Clock.advance, clock, bind_of_ok (Duration.sum_parts _ _),
    bind_of_ok (Duration.difference?_parts _ _), Duration.shorter_parts, advance]
  split <;> rfl

/-- **So has the time that remains.** -/
theorem remaining_clock : t.clock.remaining = .ok t.remaining.parts :=
  Duration.difference_parts t.duration t.elapsed

end TurnTimer

end Colloquy
