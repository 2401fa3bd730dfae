import CommandGrove.Watch.Gate
import CommandGrove.Watch.Matcher

/-!
# Rebuilding on changes

Callers announce changes and a single worker builds.  They share a gate and a queue of jobs, and
each does one small step after the other; the steps of different ones may come in any order.

## What is here

* `Worker`, `Controller` — where the worker stands, and the state that all of them share.
* `Step`, `Controller.step?` — the small steps, and when each of them can be done.
* `Controller.settle` — lets everybody go on until the worker waits or builds.
* `Controller.request`, `Controller.release` — a change comes, or the build that runs ends, when
  nobody is between two steps.
* `Controller.batch` — the changes of a batch come.
-/

set_option autoImplicit false
namespace CommandGrove

/-! ## States -/

/-- Where the worker stands. -/
inductive Worker where
  /-- It waits for a job. -/
  | waiting
  /-- It is about to start a build. -/
  | due
  /-- It builds. -/
  | building
  /-- A build ended, and the gate has not been told. -/
  | ended
  deriving DecidableEq, Repr

/-- The state that callers and worker share. -/
structure Controller where
  gate : Gate
  /-- The callers who have to start a build and have not sent a job yet. -/
  unsent : Nat
  /-- The jobs in the queue. -/
  queued : Nat
  worker : Worker
  /-- The builds that were started. -/
  builds : Nat
  deriving DecidableEq, Repr

/-! ## Steps -/

/-- A step of a caller or of the worker. -/
inductive Step where
  /-- A caller announces a change to the gate. -/
  | trigger
  /-- A caller who has to start a build sends a job. -/
  | send
  /-- The worker takes a job. -/
  | receive
  /-- The worker starts a build. -/
  | start
  /-- The build ends, successfully or not. -/
  | stop
  /-- The worker tells the gate that a build ended. -/
  | finish
  deriving DecidableEq, Repr

namespace Controller

/-- Nothing has happened. -/
def initial : Controller := ⟨.initial, 0, 0, .waiting, 0⟩

/-- The state after a step, if the step can be done. -/
def step? (c : Controller) : Step → Option Controller
  | .trigger =>
    let (answer, gate) := c.gate.trigger
    some { c with
      gate := gate
      unsent := match answer with | .start => c.unsent + 1 | .deferred => c.unsent }
  | .send => if c.unsent = 0 then none
    else some { c with unsent := c.unsent - 1, queued := c.queued + 1 }
  | .receive => if c.worker = .waiting ∧ c.queued ≠ 0
    then some { c with queued := c.queued - 1, worker := .due } else none
  | .start => if c.worker = .due
    then some { c with worker := .building, builds := c.builds + 1 } else none
  | .stop => if c.worker = .building then some { c with worker := .ended } else none
  | .finish => if c.worker = .ended then
      let (answer, gate) := c.gate.finish
      some { c with
        gate := gate
        worker := match answer with | .again => .due | .idle => .waiting }
    else none

/-- Does a step if it can be done. -/
def tryStep (c : Controller) (s : Step) : Controller := (c.step? s).getD c

/-- Lets everybody go on until the worker waits or builds: a job is sent and taken, and a build
that is due is started. -/
def settle (c : Controller) : Controller := [.send, .receive, .start].foldl tryStep c

/-! ## Whole moves -/

/-- A change comes: whether it started a build, and the state with it. -/
def request (c : Controller) : Bool × Controller :=
  (c.gate.trigger.1 == .start, (c.tryStep .trigger).settle)

/-- The build that runs ends: what the gate says to it, if one runs, and the state behind. -/
def release (c : Controller) : Option Completion × Controller :=
  if c.worker = .building then
    (some c.gate.finish.1, ([.stop, .finish].foldl tryStep c).settle)
  else (none, c)

/-- A batch of changes, or what went wrong with it. -/
inductive Batch where
  /-- Events with the paths that each one is about. -/
  | events (paths : List (List (List Char)))
  | errors (messages : List String)

/-- The paths of a batch that count. -/
def Batch.changed (b : Batch) (m : Matcher) : List (List Char) :=
  match b with
  | .events paths => m.filter paths.flatten
  | .errors _ => []

/-- A batch comes: it counts as one change if any of its paths counts. -/
def batch (c : Controller) (m : Matcher) (b : Batch) : Bool × Controller :=
  if (b.changed m).isEmpty then (false, c) else (true, c.request.2)

end Controller
end CommandGrove
