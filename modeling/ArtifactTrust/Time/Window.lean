import ArtifactTrust.Time.Instant

/-!
# Time windows

A period with inclusive bounds, either of which may be missing.
-/

namespace ArtifactTrust

/-- A period of time. A missing bound leaves that side open. -/
structure TimeWindow where
  start : Option Instant
  finish : Option Instant
  deriving DecidableEq, Repr

namespace TimeWindow

/-- The window without bounds. -/
def always : TimeWindow := ⟨none, none⟩

/-- Whether an instant lies in the window, the bounds included. -/
def contains (w : TimeWindow) (t : Instant) : Bool :=
  w.start.all (fun start => decide (start ≤ t)) && w.finish.all (fun finish => decide (t ≤ finish))

end TimeWindow

end ArtifactTrust
