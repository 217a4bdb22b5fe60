/-!
# Instants and durations

All timing in the library is on one clock whose readings are handed in by the
host; nothing here asks the operating system what time it is.  An instant is
the number of whole microseconds since time zero and a duration is a number of
microseconds, so that a settle delay is a sum and a pause is a difference.

The clock may run backwards between two readings.  `Instant.since` is therefore
a clipped difference: a reading that lies before the earlier one is no time
after it, not a negative amount.

A clock has a last instant, which depends on the host.  Here an instant is any
number, so that a sum always is one; where it matters that the host's clock
gets as far, a result says which instants it takes the clock to have.
-/

namespace InlineCompletion

/-- A reading of the host's clock: whole microseconds after time zero. -/
abbrev Instant := Nat

/-- A length of time in microseconds. -/
abbrev Duration := Nat

namespace Duration

/-- Whole milliseconds as a duration. -/
def ofMillis (ms : Nat) : Duration := ms * 1000

/-- The whole seconds in a duration. -/
def seconds (d : Duration) : Nat := d / 1000000

/-- What a duration holds beyond its whole seconds, in nanoseconds. -/
def subsecondNanos (d : Duration) : Nat := d % 1000000 * 1000

@[simp] theorem ofMillis_zero : ofMillis 0 = 0 := rfl

theorem ofMillis_add (a b : Nat) : ofMillis (a + b) = ofMillis a + ofMillis b :=
  Nat.add_mul a b 1000

end Duration

/-- The time from `earlier` to `now`, nothing when `now` does not come later. -/
def Instant.since (now earlier : Instant) : Duration := now - earlier

end InlineCompletion
