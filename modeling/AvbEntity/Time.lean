/-!
# Time

Timers compare moments on one clock that only goes forward; nothing else is known of the clock.

## Main definitions

* `Time`: a moment, or a span of time
-/

namespace AvbEntity

/-- A moment on the clock, or a span of time, in milliseconds. -/
abbrev Time := Nat

end AvbEntity
