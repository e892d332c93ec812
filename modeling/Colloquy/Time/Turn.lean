import Colloquy.Time.Duration

/-!
# Turns — how long a line has been on screen

A turn has a length and the time it has been credited with. Crediting time never takes a turn past
its end: what is left over is handed back. Time moves only when it is credited.
-/

namespace Colloquy

/-- The timing of a line on screen. -/
structure TurnTimer where
  /-- How long the line stays. -/
  duration : Duration
  /-- How long it has been there. -/
  elapsed : Duration
  deriving DecidableEq, Repr

namespace TurnTimer

/-- The timing of a line that has just appeared. -/
def start (duration : Duration) : TurnTimer := ⟨duration, .zero⟩

/-- Credit time. What is handed back is the time left over, once the turn is done. -/
def advance (t : TurnTimer) (dt : Duration) : Option Duration × TurnTimer :=
  let total := t.elapsed.add dt
  (if t.duration ≤ total then some (total.sub t.duration) else none,
    { t with elapsed := total.shorter t.duration })

/-- Whether the line has been there for so long. -/
def hasLasted (t : TurnTimer) (guard : Duration) : Bool := guard ≤ t.elapsed

/-- The time until the turn ends by itself. -/
def remaining (t : TurnTimer) : Duration := t.duration.sub t.elapsed

end TurnTimer

end Colloquy
