import Qaneris.Scan.Revisions

/-!
# What a ready datasource was scanned through

Scans and changes of the connection run at the same time. A scan opens the stored connection first
and makes the datasource ready last.
-/

namespace Scan

open Infra (Pool)

/-- The program is one call of `initialize` or of `update_secure_datasource`. -/
def IsScanOrUpdate (p : Prog Unit) : Prop :=
  (∃ generateDocuments datasourceId policy,
    p = initialize_ generateDocuments datasourceId policy >>= fun _ => pure ()) ∨
  ∃ candidate, p = updateSecureDatasource candidate >>= fun _ => pure ()

/-- Scans and changes of the connection, started, interleaved and killed at any point. -/
abbrev Between (pool pool' : Pool World Answer Failure Unit) : Prop :=
  Pool.Reaches IsScanOrUpdate (fun _ _ => False) pool pool'

/-- Some scan through this connection committed the snapshot. -/
def World.ScannedThrough (w : World) (snapshot : ScanSnapshot) (opened : StoredConnection) : Prop :=
  ∃ stored, .committed opened stored snapshot ∈ w.log

/-- A ready datasource has an active snapshot; it was committed by a scan through the connection that
is stored now, and by no other. -/
def ReadyAsConfigured (w : World) : Prop :=
  w.catalog.status = some .ready → ∃ row, w.catalog.activeRow = some row ∧
    (∃ opened, w.ScannedThrough row.snapshot opened) ∧
    ∀ opened, w.ScannedThrough row.snapshot opened → w.stored = some opened

/-- So it was in every state on the way to this one. -/
def AlwaysAsConfigured (row : DatasourceRow) (pool : Pool World Answer Failure Unit) : Prop :=
  ∀ mid, Between ⟨[], World.fresh row⟩ mid → Between mid pool → ReadyAsConfigured mid.state

/-- A scan was committed while the connection it had opened was still the stored one. -/
def Event.AsConfigured : Event → Prop
  | .committed opened stored _ => stored = some opened
  | _ => True

instance : DecidablePred Event.AsConfigured
  | .committed opened stored _ => inferInstanceAs (Decidable (stored = some opened))
  | .versionRead | .published _ _ => inferInstanceAs (Decidable True)

/-- Every commit so far was as configured. -/
def CommittedAsConfigured (w : World) : Prop :=
  ∀ e ∈ w.log, e.AsConfigured

end Scan
