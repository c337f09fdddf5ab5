import Qaneris.Scan.Intact
import Qaneris.Scan.Properties.Revisions

/-!
# Failed scans

The graph is replaced before the snapshot is committed, and nothing undoes either. `Stage` lists how
far a scan can have come:

* `scan_intact_iff_harmless` — the published state is intact exactly when the scan stopped before it
  published another graph and before it was committed; and after scans that stop so, or are committed,
  a ready datasource has a snapshot and a graph of one version
* `failed_commit_not_intact` — a scan that ends in `profile_failed` after its publication
-/

namespace Scan

open Infra (Program Pool)
open Infra.Program (Contract)

/-! ## How far a scan has come -/

inductive Stage (w₀ w : World) : Prop where
  | untouched (log : w.log = w₀.log ∨ w.log = w₀.log ++ [.versionRead]) (graph : w.graph = w₀.graph)
      (facts : w.catalog.facts = w₀.catalog.facts)
  | published (t : Nat) (g : ScanGraph) (log : w.log = w₀.log ++ [.versionRead, .published t g])
      (graph : w.graph = some g) (facts : w.catalog.facts = w₀.catalog.facts)
  | committed (t : Nat) (g : ScanGraph) (opened : StoredConnection) (stored : Option StoredConnection)
      (snapshot : ScanSnapshot)
      (log : w.log = w₀.log ++ [.versionRead, .published t g, .committed opened stored snapshot])
      (graph : w.graph = some g)
      (snapshots : w.catalog.snapshots =
        Catalog.deactivate w₀.catalog.snapshots ++ [Catalog.snapshotRow snapshot])
      (free : Catalog.SnapshotFree w₀.catalog.snapshots snapshot)
      (version : snapshot.version = g.scanVersion)

theorem Stage.quiet {w₀ w w' : World} (h : Stage w₀ w) (hq : Quiet w w') : Stage w₀ w' := by
  cases h with
  | untouched log graph facts =>
    exact .untouched (hq.log ▸ log) (hq.graph.trans graph) (hq.facts.trans facts)
  | published t g log graph facts =>
    exact .published t g (hq.log ▸ log) (hq.graph.trans graph) (hq.facts.trans facts)
  | committed t g opened stored snapshot log graph snapshots free version =>
    exact .committed t g opened stored snapshot (hq.log ▸ log) (hq.graph.trans graph)
      ((snapshots_of_facts hq.facts).trans snapshots) free version

/-! ## A scan on its own -/

/-- Nobody else acts; every own step is a step from one stage to the same or the next. -/
def stageContract (w₀ : World) : Contract World Question where
  rely w w' := w' = w
  guar w w' := Stage w₀ w → Stage w₀ w'

/-- The stores are as they were, and the log has these entries more. -/
structure Unchanged (w₀ : World) (events : List Event) (w : World) : Prop where
  log : w.log = w₀.log ++ events
  graph : w.graph = w₀.graph
  facts : w.catalog.facts = w₀.catalog.facts

theorem stable_of_quiet {w₀ : World} {p : World → Prop} (h : ∀ w w', Quiet w w' → p w → p w') :
    Stable (stageContract w₀) p where
  rely := by
    rintro w w' rfl hw
    exact hw
  quiet := h

theorem stable_unchanged (w₀ : World) (events : List Event) :
    Stable (stageContract w₀) (Unchanged w₀ events) :=
  stable_of_quiet fun _ _ hq h =>
    ⟨hq.log ▸ h.log, hq.graph.trans h.graph, hq.facts.trans h.facts⟩

/-- The graph of this version is published, and the catalog is as it was. -/
structure Ahead (w₀ : World) (v : Nat) (w : World) : Prop where
  exists_graph : ∃ t g, w.log = w₀.log ++ [.versionRead, .published t g] ∧ w.graph = some g ∧
    g.scanVersion = v
  facts : w.catalog.facts = w₀.catalog.facts

theorem stable_ahead (w₀ : World) (v : Nat) : Stable (stageContract w₀) (Ahead w₀ v) :=
  stable_of_quiet fun _ _ hq h => by
    obtain ⟨t, g, hlog, hgraph, hv⟩ := h.exists_graph
    exact ⟨⟨t, g, hq.log ▸ hlog, hq.graph.trans hgraph, hv⟩, hq.facts.trans h.facts⟩

theorem lenient_stageContract (w₀ : World) : Lenient (stageContract w₀) where
  may _ _ := trivial
  quiet _ _ hq h := h.quiet hq

def stageHooks (w₀ : World) : Hooks (stageContract w₀) where
  before := Unchanged w₀ []
  looked _ := Unchanged w₀ []
  opened _ := Unchanged w₀ []
  numbered _ _ _ := Unchanged w₀ [.versionRead]
  published _ v := Ahead w₀ v
  before_stable := stable_unchanged w₀ []
  looked_stable _ := stable_unchanged w₀ []
  opened_stable _ := stable_unchanged w₀ []
  numbered_stable _ _ _ := stable_unchanged w₀ [.versionRead]
  published_stable _ v := stable_ahead w₀ v
  look _ _ h _ := h
  open_ _ _ _ h _ := h
  number := by
    intro w o h
    have hlog : w.log ++ [.versionRead] = w₀.log ++ [.versionRead] := by
      rw [h.log, List.append_nil]
    exact ⟨fun _ => .untouched (Or.inr hlog) h.graph h.facts, hlog, h.graph, h.facts⟩
  publish := by
    intro w o t graph h
    have hlog : w.log ++ [.published t graph] = w₀.log ++ [.versionRead, .published t graph] := by
      rw [h.log, List.append_assoc]
      rfl
    exact ⟨fun _ => .published t graph hlog rfl h.facts, ⟨t, graph, hlog, rfl, rfl⟩, h.facts⟩
  commit := by
    intro w w' o snapshot datasets relations samples h hc _
    obtain ⟨t, g, hlog, hgraph, hv⟩ := h.exists_graph
    obtain ⟨row, hrow, hfree, rfl⟩ := commitSnapshot_ok hc
    have hs : w.catalog.snapshots = w₀.catalog.snapshots := snapshots_of_facts h.facts
    refine .committed t g o w.stored snapshot ?_ hgraph ?_ (hs ▸ hfree) hv.symm
    · show w.log ++ _ = _
      rw [hlog, List.append_assoc]
      rfl
    · show Catalog.deactivate w.catalog.snapshots ++ _ = _
      rw [hs]

/-- Wherever a scan stops, it has come to one of the stages. -/
theorem ScanStops.stage {w w' : World} (h : ScanStops w w') : Stage w w' := by
  obtain ⟨p, p', ⟨generateDocuments, datasourceId, policy, rfl⟩, hr⟩ := h
  have hw := initialize_triple (lenient_stageContract w) (stageHooks w) generateDocuments
    datasourceId policy w ⟨(List.append_nil _).symm, rfl, rfl⟩
  have hi : Stage w w := .untouched (Or.inl rfl) rfl rfl
  exact (hr.invariant (fun _ => rfl) (fun _ _ hg => hg) hw hi).2

/-! ## Intact and harmless -/

theorem since_append {w w' : World} {events : List Event} (h : w'.log = w.log ++ events) :
    w.since w' = events := by
  unfold World.since
  rw [h, List.drop_left]

theorem intact_of_facts {w w' : World} (hg : w'.graph = w.graph)
    (hf : w'.catalog.facts = w.catalog.facts) : Intact w w' where
  graph := hg
  snapshot := by
    show w'.catalog.facts.activeRow = w.catalog.facts.activeRow
    rw [hf]
  datasets := by
    show w'.catalog.facts.datasets = w.catalog.facts.datasets
    rw [hf]
  relations := by
    show w'.catalog.facts.relations = w.catalog.facts.relations
    rw [hf]
  samples := by
    show w'.catalog.facts.samples = w.catalog.facts.samples
    rw [hf]
  status := by
    show w'.catalog.facts.status = w.catalog.facts.status
    rw [hf]

/-- The committed row is the active one. -/
theorem activeRow_of_committed {c : Catalog} {rows : List SnapshotRow} {snapshot : ScanSnapshot}
    (h : c.snapshots = Catalog.deactivate rows ++ [Catalog.snapshotRow snapshot]) :
    c.activeRow = some (Catalog.snapshotRow snapshot) := by
  have hnone : (Catalog.deactivate rows).find? SnapshotRow.active = none := by
    rw [List.find?_eq_none]
    intro row hr
    obtain ⟨r, -, rfl⟩ := List.mem_map.mp hr
    simp
  unfold Catalog.activeRow
  rw [h, List.find?_append, hnone]
  rfl

theorem Stage.intact_iff_harmless {w w' : World} (h : Stage w w') : Intact w w' ↔ Harmless w w' := by
  cases h with
  | untouched log graph facts =>
    refine iff_of_true (intact_of_facts graph facts) ?_
    intro e he
    rcases log with log | log
    · rw [since_append (log.trans (List.append_nil _).symm)] at he
      cases he
    · rw [since_append log] at he
      obtain rfl := List.mem_singleton.mp he
      exact ⟨by simp [Event.isCommitted], by simp⟩
  | published t g log graph facts =>
    unfold Harmless
    rw [since_append log]
    constructor
    · intro hi e he
      have hg : w.graph = some g := hi.graph.symm.trans graph
      rcases List.mem_cons.mp he with rfl | he
      · exact ⟨by simp [Event.isCommitted], by simp⟩
      · obtain rfl := List.mem_singleton.mp he
        refine ⟨by simp [Event.isCommitted], ?_⟩
        intro t' g' he'
        obtain ⟨-, rfl⟩ := Event.published.inj he'
        exact hg
    · intro hh
      have hg : w.graph = some g := (hh (.published t g) (by simp)).2 t g rfl
      exact intact_of_facts (graph.trans hg.symm) facts
  | committed t g opened stored snapshot log graph snapshots free version =>
    refine iff_of_false ?_ ?_
    · intro hi
      have ha := hi.snapshot
      rw [activeRow_of_committed snapshots] at ha
      have hm : Catalog.snapshotRow snapshot ∈ w.catalog.snapshots := List.mem_of_find?_eq_some ha.symm
      exact (free _ hm).1 rfl
    · intro hh
      refine (hh (.committed opened stored snapshot) ?_).1 rfl
      rw [since_append log]
      simp

/-! ## Scans one after the other -/

theorem Intact.readyMatches {w w' : World} (h : Intact w w') (hm : ReadyMatches w) :
    ReadyMatches w' := by
  unfold ReadyMatches Catalog.getActiveSnapshot
  rw [h.status, h.snapshot, h.graph]
  exact hm

theorem Stage.readyMatches {w w' : World} (h : Stage w w') (hc : Committed w w') :
    ReadyMatches w' := by
  obtain ⟨e, he, hcom⟩ := hc
  cases h with
  | untouched log graph facts =>
    rcases log with log | log
    · rw [since_append (log.trans (List.append_nil _).symm)] at he
      cases he
    · rw [since_append log] at he
      obtain rfl := List.mem_singleton.mp he
      cases hcom
  | published t g log graph facts =>
    rw [since_append log] at he
    rcases List.mem_cons.mp he with rfl | he
    · cases hcom
    · obtain rfl := List.mem_singleton.mp he
      cases hcom
  | committed t g opened stored snapshot log graph snapshots free version =>
    intro _
    exact ⟨snapshot, g, by rw [Catalog.getActiveSnapshot, activeRow_of_committed snapshots]; rfl,
      graph, version⟩

theorem readyMatches_of_scans {row : DatasourceRow} {w : World}
    (h : Scans (fun w w' => Harmless w w' ∨ Committed w w') (World.fresh row) w) : ReadyMatches w := by
  induction h with
  | none =>
    intro hr
    cases hr
  | scan _ stops hok ih =>
    rcases hok with hh | hc
    · exact (stops.stage.intact_iff_harmless.mpr hh).readyMatches ih
    · exact stops.stage.readyMatches hc

/-- **Wherever a scan stops, the published state is intact exactly when it has published no other
graph and has not been committed.** After scans that stop so, or are committed, a ready datasource has
an active snapshot and a published graph of one version. -/
theorem scan_intact_iff_harmless (w w' : World) (h : ScanStops w w') :
    (Intact w w' ↔ Harmless w w') ∧
      ∀ row, Scans (fun w w' => Harmless w w' ∨ Committed w w') (World.fresh row) w' →
        ReadyMatches w' :=
  ⟨h.stage.intact_iff_harmless, fun _ hs => readyMatches_of_scans hs⟩

/-! ## Two scans that stop -/

/-- A scan of a new datasource that the source answers for `steps` steps. -/
def stopAfter (steps : Nat) : Prog InitializationJob × World :=
  Program.advance (sampleAnswers "a" "orders") steps (sampleScan, World.fresh sampleRow)

theorem stopAfter_stops (steps : Nat) : ScanStops (World.fresh sampleRow) (stopAfter steps).2 :=
  ⟨sampleScan, (stopAfter steps).1, sampleScan_isScan, Program.advance_reaches _ _ _⟩

theorem stopAfter_harmless : Harmless (World.fresh sampleRow) (stopAfter 36).2 := by
  have hlog : (stopAfter 36).2.log = [.versionRead] := by decide
  intro e he
  unfold World.since at he
  rw [hlog] at he
  obtain rfl := List.mem_singleton.mp he
  exact ⟨by simp [Event.isCommitted], by simp⟩

/-- Killed before its publication, a scan leaves everything as it was. -/
theorem unpublished_scan_intact :
    Intact (World.fresh sampleRow) (stopAfter 36).2 ∧ ReadyMatches (stopAfter 36).2 := by
  obtain ⟨hi, hr⟩ := scan_intact_iff_harmless _ _ (stopAfter_stops 36)
  exact ⟨hi.mpr stopAfter_harmless,
    hr sampleRow (.scan .none (stopAfter_stops 36) (Or.inl stopAfter_harmless))⟩

/-- The scan of `orders` that cannot write the catalog after its publication. -/
def lockedScan : Prog InitializationJob × World :=
  Program.advance lockedAnswers 1 (stopAfter 38)

def failedScan : Prog InitializationJob × World :=
  Program.advance (sampleAnswers "a" "orders") 3 lockedScan

theorem failedScan_stops : ScanStops (World.fresh sampleRow) failedScan.2 := by
  have hstop : Program.Reaches (sampleScan, World.fresh sampleRow) (stopAfter 38) :=
    Program.advance_reaches _ _ _
  have hlock : Program.Reaches (stopAfter 38) lockedScan := Program.advance_reaches _ _ _
  have hfail : Program.Reaches lockedScan failedScan := Program.advance_reaches _ _ _
  exact ⟨sampleScan, failedScan.1, sampleScan_isScan, hstop.trans (hlock.trans hfail)⟩

/-- The scan has ended in `profile_failed`, and the graph it published is still there. -/
theorem failed_commit_not_intact :
    ScanStops (World.fresh sampleRow) failedScan.2 ∧
      failedScan.2.catalog.jobs.map InitializationJob.status = [.profileFailed] ∧
      ¬ Intact (World.fresh sampleRow) failedScan.2 := by
  refine ⟨failedScan_stops, by decide, ?_⟩
  intro h
  have hg : failedScan.2.graph = some (sampleGraph "orders") := by decide
  exact absurd (hg.symm.trans h.graph) (by simp [World.fresh])

end Scan
