import Qaneris.Scan.Revisions

/-!
# What a scan leaves behind when it stops

A scan writes two stores, one after the other. `Intact` says that neither has changed for a reader;
`Harmless` says which steps the scan may have taken for that.
-/

namespace Scan

open Infra (Program)

/-! ## Published state -/

/-- What the readers of a datasource see is what they saw before. -/
structure Intact (w w' : World) : Prop where
  graph : w'.graph = w.graph
  snapshot : w'.catalog.activeRow = w.catalog.activeRow
  datasets : w'.catalog.datasets = w.catalog.datasets
  relations : w'.catalog.relations = w.catalog.relations
  samples : w'.catalog.samples = w.catalog.samples
  status : w'.catalog.status = w.catalog.status

/-- A ready datasource has an active snapshot and a published graph of one version. -/
def ReadyMatches (w : World) : Prop :=
  w.catalog.status = some .ready → ∃ snapshot graph,
    w.catalog.getActiveSnapshot = some snapshot ∧ w.graph = some graph ∧
      snapshot.version = graph.scanVersion

/-! ## What a scan has done -/

/-- The events between two states. -/
def World.since (w w' : World) : List Event :=
  w'.log.drop w.log.length

/-- Nothing was committed, and no graph was published but the one that was there. -/
def Harmless (w w' : World) : Prop :=
  ∀ e ∈ w.since w', ¬ e.isCommitted ∧ ∀ t graph, e = .published t graph → w.graph = some graph

/-- The scan was committed. -/
def Committed (w w' : World) : Prop :=
  ∃ e ∈ w.since w', e.isCommitted

/-! ## Scans one after the other -/

/-- A scan took some of its steps: it ended, or was killed between two of them. -/
def ScanStops (w w' : World) : Prop :=
  ∃ p p', IsScan p ∧ Program.Reaches (p, w) (p', w')

/-- Scans one after the other, each of which stops in a way that `ok` admits. -/
inductive Scans (ok : World → World → Prop) (w : World) : World → Prop where
  | none : Scans ok w w
  | scan {w' w'' : World} (before : Scans ok w w') (stops : ScanStops w' w'') (h : ok w' w'') :
      Scans ok w w''

end Scan
