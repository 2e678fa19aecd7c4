import Narrowing.Run.Calls
/-!
# Callbacks beside a session

A callback need not be code of a session. It may have a memory of its own, which runs of
code leave alone.
-/

namespace Narrowing

/-- **What is done in a session and beside it**, where a memory is kept. -/
abbrev Beside (h : Type) := ExceptT Failure (StateM (Session × h))

namespace Beside

variable {h : Type} {α : Type}

/-- A run of code leaves the memory alone. -/
def ofRun (x : Run α) : Beside h α := fun (s, memory) =>
  let (r, s) := s.run x
  (r, (s, memory))

instance : MonadLift Run (Beside h) := ⟨ofRun⟩

end Beside

end Narrowing
