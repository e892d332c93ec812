import Colloquy.Dialogue.Graph
import Colloquy.Text.Lowercase
import Colloquy.Time.Duration

/-!
# Pacing — how fast a conversation goes

A line stays for a minimum time, or for the time it takes to read if that is longer. The time to
read counts code points, up to the greatest 32-bit number of them.
-/

namespace Colloquy

/-- The settings of a conversation. -/
structure Pacing where
  /-- The name under which the hero speaks. -/
  hero : String := defaultHero
  /-- The shortest time a line stays. -/
  minTurn : Duration := .ofMillis 1500
  /-- The time to read a character. -/
  perChar : Duration := .ofMillis 60
  /-- How long a line must have been there before it can be skipped. -/
  skipGuard : Duration := .ofMillis 250
  deriving DecidableEq, Repr

namespace Pacing

instance : Inhabited Pacing := ⟨{}⟩

/-- The settings with another hero, whose name is taken in lowercase. -/
def withHero (p : Pacing) (hero : String) : Pacing := { p with hero := Text.lowercase hero }

/-- How many characters of a text are counted. -/
def countedChars (text : String) : Nat := min text.length 4294967295

/-- How long a line with a text stays. -/
def turnDuration (p : Pacing) (text : String) : Duration :=
  p.minTurn.longer (p.perChar.times (countedChars text))

end Pacing

end Colloquy
