/-!
# One build at a time

## What is here

* `Gate` — whether a build runs, and whether another one is wanted behind it.
* `Gate.trigger`, `Gate.finish` — what a change and the end of a build mean.
* `Gate.WellFormed` — another build is wanted only while one runs.
-/

set_option autoImplicit false
namespace CommandGrove

/-- The state of the builds. -/
structure Gate where
  /-- A build runs. -/
  building : Bool
  /-- Another build is wanted behind it. -/
  pending : Bool
  deriving DecidableEq, Repr

/-- What a change leads to. -/
inductive Trigger where
  /-- A build has to be started. -/
  | start
  /-- A build runs, and one more will follow it. -/
  | deferred
  deriving DecidableEq, Repr

/-- What the end of a build leads to. -/
inductive Completion where
  /-- Changes came during the build, so another one has to be started. -/
  | again
  | idle
  deriving DecidableEq, Repr

namespace Gate

/-- No build runs. -/
def initial : Gate := ⟨false, false⟩

/-- A change came. -/
def trigger (g : Gate) : Trigger × Gate :=
  if g.building then (.deferred, { g with pending := true })
  else (.start, { g with building := true })

/-- A build ended. -/
def finish (g : Gate) : Completion × Gate :=
  if g.pending then (.again, { g with pending := false }) else (.idle, { g with building := false })

/-- Another build is wanted only while one runs. -/
def WellFormed (g : Gate) : Prop := g.pending = true → g.building = true

end Gate
end CommandGrove
