/-!
# Waiting

The clock has milliseconds, and what is waited for ends on one of them: the first by which
the time that was asked for has passed.  No wait is longer than `longestWait`, however much
time was asked for.

* `wake`: the moment at which a wait ends.
-/

namespace ScriptedChat

/-- Nanoseconds of a millisecond. -/
def nanosPerMilli : Nat := 1000000

namespace Clock

/-- The milliseconds of the longest wait: thirty years of 365 days. -/
def longestWait : Nat := 365 * 30 * 86400000

/-- The moment at which a wait for some nanoseconds ends. -/
def wake (now : Int) (nanos : Nat) : Int :=
  now + (min ((nanos + (nanosPerMilli - 1)) / nanosPerMilli) longestWait : Nat)

theorem le_wake (now : Int) (nanos : Nat) : now ≤ wake now nanos :=
  Int.le_add_of_nonneg_right (Int.natCast_nonneg _)

theorem wake_le (now : Int) (nanos : Nat) : wake now nanos ≤ now + longestWait :=
  Int.add_le_add_left (Int.ofNat_le.mpr (Nat.min_le_right _ _)) now

end Clock
end ScriptedChat
