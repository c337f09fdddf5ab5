import Qaneris.Scan.Initializer

/-!
# What a published revision identifies

A plan carries the version of the graph it was built from, and is executed only while the published
graph carries the same version. `RevisionsIdentifyContent` is what that check is for; `CommittedBetween`
is the condition on a history of scans under which the check does its work.
-/

namespace Scan

open Infra (Pool)

/-! ## The execution fence -/

/-- `ExecutionRevisionValidator.validate` -/
def validateRevision (planned current : Option Nat) : Except Failure Unit :=
  match planned, current with
  | some planned, some current =>
    if planned ≠ current then
      .error ⟨"ExecutionValidationError",
        "The query plan was built from a stale graph revision: plan=" ++ Nat.repr planned ++
          ", current=" ++ Nat.repr current, true⟩
    else .ok ()
  | _, _ => .error ⟨"ExecutionValidationError",
      "A published graph scan_version is required for execution", true⟩

theorem validateRevision_ok {planned current : Nat}
    (h : validateRevision (some planned) (some current) = .ok ()) : planned = current := by
  by_contra hne
  simp [validateRevision, hne] at h

/-! ## Histories of scans -/

/-- The program is one call of `initialize`. -/
def IsScan (p : Prog InitializationJob) : Prop :=
  ∃ generateDocuments datasourceId policy, p = initialize_ generateDocuments datasourceId policy

/-- A datasource that was never scanned. -/
def World.fresh (row : DatasourceRow) : World :=
  { catalog := { datasource := some { row with status := .created } } }

/-- The scans of a datasource, started, interleaved and killed at any point. -/
abbrev ScansReach (row : DatasourceRow) (pool : Pool World Answer Failure InitializationJob) : Prop :=
  Pool.Reaches IsScan (fun _ _ => False) ⟨[], World.fresh row⟩ pool

def Event.isCommitted : Event → Bool
  | .committed _ _ _ => true
  | _ => false

/-- The scan that had read its version at `readAt` has published this graph. -/
def World.Published (w : World) (readAt : Nat) (graph : ScanGraph) : Prop :=
  .published readAt graph ∈ w.log

/-! ## The property and its condition -/

/-- Equal versions mean equal content, and so an accepted plan was built from the content that is
published now. -/
structure RevisionsIdentifyContent (w : World) : Prop where
  identify : ∀ t₁ g₁ t₂ g₂, w.Published t₁ g₁ → w.Published t₂ g₂ →
    g₁.scanVersion = g₂.scanVersion → g₁.content = g₂.content
  accepted : ∀ t g current, w.Published t g → w.graph = some current →
    validateRevision (some g.scanVersion) (some current.scanVersion) = .ok () →
    g.content = current.content

/-- Of two scans that published different content, some scan was committed after the one had read its
version and before the other did. -/
def CommittedBetween (w : World) : Prop :=
  ∀ t₁ g₁ t₂ g₂, w.Published t₁ g₁ → w.Published t₂ g₂ → t₁ ≤ t₂ → g₁.content ≠ g₂.content →
    ∃ i e, t₁ ≤ i ∧ i < t₂ ∧ w.log[i]? = some e ∧ e.isCommitted

end Scan
