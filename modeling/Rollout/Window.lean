/-!
# Windows of time

A window is half open: it starts with its first millisecond and ends before its last.  The window
that is always open still ends before the last millisecond that a time can name.
-/

namespace Rollout

/-- The times from `start` up to but not including `stop`, in milliseconds since the epoch. -/
structure Window where
  start : Int64
  stop : Int64
deriving Repr, DecidableEq

namespace Window

/-- The window without bounds. -/
def always : Window := ⟨Int64.minValue, Int64.maxValue⟩

/-- The window with these bounds, open where there is none. -/
def between (start stop : Option Int64) : Window :=
  ⟨start.getD always.start, stop.getD always.stop⟩

/-- Whether a time is in the window. -/
def contains (w : Window) (time : Int64) : Bool := w.start ≤ time && time < w.stop

/-- Whether the window ends before it starts. -/
def isInverted (w : Window) : Bool := w.stop < w.start

end Window

end Rollout
