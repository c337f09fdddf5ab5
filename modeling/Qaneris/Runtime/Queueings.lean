import Qaneris.Infra.Turns
import Qaneris.Runtime.World

/-!
# How often a run is started

A run is queued when it is created, when its user has answered, and when it is retried. The history
tells how often workers have started it for each of these times.
-/

namespace Runtime

open Infra (Turns.taken Turns.turnsTaken)

/-- The act queues the run. -/
def Queues (runId : String) : Act → Prop
  | .queued id _ => id = runId
  | _ => False

instance (runId : String) : DecidablePred (Queues runId)
  | .queued id _ => inferInstanceAs (Decidable (id = runId))
  | .started _ | .cleared _ | .cancelled _ | .declined _ | .overran _ | .overlooked _
  | .invoked _ _ _ | .prompted _ _ | .answered _ _ | .completed _ | .listed _ =>
    inferInstanceAs (Decidable False)

/-- A worker passes the transition to `CONTEXTUALIZING`. -/
def Starts (runId : String) (act : Act) : Prop := act = .started runId

instance (runId : String) : DecidablePred (Starts runId) :=
  fun act => inferInstanceAs (Decidable (act = _))

/-- How often the run is started in `acts` before it is queued again. -/
def startsBeforeNext (runId : String) (acts : List Act) : Nat :=
  Turns.taken (Queues runId) (Starts runId) acts

/-- The number of retries that were started. -/
def retriesStarted (runId : String) (acts : List Act) : Nat :=
  Turns.turnsTaken (Queues runId) (Starts runId) (fun act => act = .queued runId .retried) acts

end Runtime
