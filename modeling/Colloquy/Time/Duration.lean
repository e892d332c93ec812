/-!
# Durations — lengths of time up to a maximum

A duration is a number of nanoseconds that fits into a 64-bit count of seconds with nine decimal
places. Sums and multiples stop at the greatest duration instead of running over, and differences
stop at zero.
-/

namespace Colloquy

/-- The nanoseconds in the greatest duration: as many seconds as a 64-bit word can count, and all
but one of the nanoseconds of another second. -/
def maxNanos : Nat := 18446744073709551616 * 1000000000 - 1

/-- A length of time. -/
structure Duration where
  nanos : Nat
  le_max : nanos ≤ maxNanos
  deriving DecidableEq, Repr

namespace Duration

@[ext] theorem ext {a b : Duration} (h : a.nanos = b.nanos) : a = b := by
  cases a
  cases b
  subst h
  rfl

instance : Inhabited Duration := ⟨⟨0, Nat.zero_le _⟩⟩

instance : LE Duration := ⟨fun a b => a.nanos ≤ b.nanos⟩

instance : LT Duration := ⟨fun a b => a.nanos < b.nanos⟩

instance (a b : Duration) : Decidable (a ≤ b) := inferInstanceAs (Decidable (a.nanos ≤ b.nanos))

instance (a b : Duration) : Decidable (a < b) := inferInstanceAs (Decidable (a.nanos < b.nanos))

theorem le_iff {a b : Duration} : a ≤ b ↔ a.nanos ≤ b.nanos := Iff.rfl

theorem lt_iff {a b : Duration} : a < b ↔ a.nanos < b.nanos := Iff.rfl

/-- No time. -/
def zero : Duration := ⟨0, Nat.zero_le _⟩

/-- The duration of so many nanoseconds, or the greatest one if there are too many. -/
def ofNanos (n : Nat) : Duration := ⟨min n maxNanos, Nat.min_le_right _ _⟩

/-- The duration of so many milliseconds. -/
def ofMillis (n : Nat) : Duration := ofNanos (n * 1000000)

/-- The duration of seconds and nanoseconds. -/
def ofParts (seconds nanos : Nat) : Duration := ofNanos (seconds * 1000000000 + nanos)

/-- The whole seconds. -/
def seconds (d : Duration) : Nat := d.nanos / 1000000000

/-- The nanoseconds beyond the whole seconds. -/
def subsecond (d : Duration) : Nat := d.nanos % 1000000000

/-- The sum, or the greatest duration. -/
def add (a b : Duration) : Duration := ofNanos (a.nanos + b.nanos)

/-- So many times a duration, or the greatest one. -/
def times (d : Duration) (n : Nat) : Duration := ofNanos (d.nanos * n)

/-- The difference, or no time. -/
def sub (a b : Duration) : Duration := ⟨a.nanos - b.nanos, Nat.le_trans (Nat.sub_le _ _) a.le_max⟩

/-- The shorter of two durations. -/
def shorter (a b : Duration) : Duration := if a ≤ b then a else b

/-- The longer of two durations. -/
def longer (a b : Duration) : Duration := if a ≤ b then b else a

/-! ## Nanoseconds of the operations -/

@[simp] theorem nanos_ofNanos (n : Nat) : (ofNanos n).nanos = min n maxNanos := rfl

@[simp] theorem nanos_zero : zero.nanos = 0 := rfl

@[simp] theorem nanos_add (a b : Duration) : (a.add b).nanos = min (a.nanos + b.nanos) maxNanos :=
  rfl

@[simp] theorem nanos_times (d : Duration) (n : Nat) :
    (d.times n).nanos = min (d.nanos * n) maxNanos := rfl

@[simp] theorem nanos_sub (a b : Duration) : (a.sub b).nanos = a.nanos - b.nanos := rfl

@[simp] theorem nanos_shorter (a b : Duration) : (a.shorter b).nanos = min a.nanos b.nanos := by
  unfold shorter
  split <;> rename_i h <;> rw [le_iff] at h <;> omega

@[simp] theorem nanos_longer (a b : Duration) : (a.longer b).nanos = max a.nanos b.nanos := by
  unfold longer
  split <;> rename_i h <;> rw [le_iff] at h <;> omega

end Duration

end Colloquy
