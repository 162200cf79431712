/-!
# Timers

Whatever takes time here waits for a timer: a call to a directory in memory that is made slow, and an
action that starts later than others.  A timer is not set for any length of time, so a wait may be
over sooner than was asked for.
-/

namespace CallFlow.Timer

/-- The longest wait that a timer is set for: thirty years of 365 days.  No rule of deploys asks for
this limit.  It is what the timers below them take for the far future: a moment that lies further
ahead is moved to the one thirty years ahead. -/
def longestMs : Nat :=
  30 * 365 * 24 * 60 * 60 * 1000

/-- How long a wait lasts that was asked for. -/
def waitMs (askedMs : Nat) : Nat :=
  min askedMs longestMs

/-- What takes no time is not waited for. -/
@[simp]
theorem waitMs_zero : waitMs 0 = 0 :=
  Nat.zero_min _

end CallFlow.Timer
