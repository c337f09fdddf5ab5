import Qaneris.Scan.Configured
import Qaneris.Scan.Properties.Intact

/-!
# Ready means scanned as configured

A scan does not look at the stored connection again when it is committed:

* `readyAsConfigured_iff` — every state up to now was as configured exactly when no scan was committed
  after the connection it had opened was replaced
* `update_during_scan_not_configured` — an update that lands between the two
-/

namespace Scan

open Infra (Pool)
open Infra.Program (Contract)

/-! ## The invariant -/

/-- Committed snapshots have rows, and while every commit was as configured so is the datasource. -/
structure Traced (w : World) : Prop where
  rows : ∀ opened stored snapshot, .committed opened stored snapshot ∈ w.log →
    ∃ row ∈ w.catalog.snapshots, row.id = snapshot.id
  ready : CommittedAsConfigured w → ReadyAsConfigured w

/-- The commits of two logs are the same. -/
def SameCommits (w w' : World) : Prop :=
  ∀ opened stored snapshot,
    Event.committed opened stored snapshot ∈ w'.log ↔ .committed opened stored snapshot ∈ w.log

theorem SameCommits.configured {w w' : World} (h : SameCommits w w') :
    CommittedAsConfigured w' ↔ CommittedAsConfigured w := by
  have himp : ∀ {a b : World}, SameCommits a b → CommittedAsConfigured b → CommittedAsConfigured a := by
    intro a b h hb e he
    cases e with
    | committed opened stored snapshot => exact hb _ ((h _ _ _).mpr he)
    | versionRead => trivial
    | published t graph => trivial
  exact ⟨himp h, himp fun _ _ _ => (h _ _ _).symm⟩

theorem SameCommits.scannedThrough {w w' : World} (h : SameCommits w w') (snapshot : ScanSnapshot)
    (opened : StoredConnection) :
    w'.ScannedThrough snapshot opened ↔ w.ScannedThrough snapshot opened := by
  unfold World.ScannedThrough
  simp only [h _ _ _]

/-- Steps that keep the commits and the catalog, its jobs apart. -/
theorem Traced.of_facts {w w' : World} (h : Traced w) (hc : SameCommits w w')
    (hf : w'.catalog.facts = w.catalog.facts) : Traced w' where
  rows := by
    intro opened stored snapshot hm
    rw [snapshots_of_facts hf]
    exact h.rows opened stored snapshot ((hc _ _ _).mp hm)
  ready := by
    intro hcfg
    have hr := h.ready (hc.configured.mp hcfg)
    have hstatus : w'.catalog.status = w.catalog.status := by
      show w'.catalog.facts.status = w.catalog.facts.status
      rw [hf]
    have hrow : w'.catalog.activeRow = w.catalog.activeRow := by
      show w'.catalog.facts.activeRow = w.catalog.facts.activeRow
      rw [hf]
    have hstored : w'.stored = w.stored := by
      show w'.catalog.facts.datasource.map _ = w.catalog.facts.datasource.map _
      rw [hf]
    unfold ReadyAsConfigured
    simp only [hstatus, hrow, hstored, hc.scannedThrough]
    exact hr

/-- Steps that take the datasource back to `created` and keep the rows of its snapshots. -/
theorem Traced.of_created {w w' : World} (h : Traced w) (hlog : w'.log = w.log)
    (hids : ∀ row ∈ w.catalog.snapshots, ∃ row' ∈ w'.catalog.snapshots, row'.id = row.id)
    (hs : w'.catalog.status = some .created) : Traced w' where
  rows := by
    intro opened stored snapshot hm
    rw [hlog] at hm
    obtain ⟨row, hr, he⟩ := h.rows opened stored snapshot hm
    obtain ⟨row', hr', he'⟩ := hids row hr
    exact ⟨row', hr', he'.trans he⟩
  ready := by
    intro _ hready
    rw [hs] at hready
    cases hready

theorem deactivate_ids (rows : List SnapshotRow) (row : SnapshotRow) (h : row ∈ rows) :
    ∃ row' ∈ Catalog.deactivate rows, row'.id = row.id :=
  ⟨_, List.mem_map_of_mem h, rfl⟩

/-! ## Commits -/

section Commit

variable {w w' : World} {opened : StoredConnection} {snapshot : ScanSnapshot}
  {datasets : List DatasetInfo} {relations : List RelationInfo} {samples : List DatasetSample}

theorem commit_log (hc : commitSnapshot opened snapshot datasets relations samples w = .ok (w', ())) :
    w'.log = w.log ++ [.committed opened w.stored snapshot] := by
  obtain ⟨row, -, -, rfl⟩ := commitSnapshot_ok hc
  rfl

theorem commit_stored
    (hc : commitSnapshot opened snapshot datasets relations samples w = .ok (w', ())) :
    w'.stored = w.stored := by
  obtain ⟨row, hrow, -, rfl⟩ := commitSnapshot_ok hc
  show some row.connection = w.catalog.datasource.map _
  rw [hrow]
  rfl

theorem commit_ready
    (hc : commitSnapshot opened snapshot datasets relations samples w = .ok (w', ())) :
    w'.catalog.status = some .ready ∧
      w'.catalog.activeRow = some (Catalog.snapshotRow snapshot) := by
  obtain ⟨row, hrow, -, rfl⟩ := commitSnapshot_ok hc
  exact ⟨rfl, activeRow_of_committed rfl⟩

/-- The snapshot was committed through the connection this scan had opened, and no other. -/
theorem commit_scannedThrough (h : Traced w)
    (hc : commitSnapshot opened snapshot datasets relations samples w = .ok (w', ()))
    (o : StoredConnection) : w'.ScannedThrough snapshot o ↔ o = opened := by
  have hlog := commit_log hc
  obtain ⟨row, -, hfree, -⟩ := commitSnapshot_ok hc
  unfold World.ScannedThrough
  rw [hlog]
  constructor
  · rintro ⟨stored, hm⟩
    rcases List.mem_append.mp hm with hm | hm
    · obtain ⟨r, hr, he⟩ := h.rows o stored snapshot hm
      exact absurd he (hfree r hr).1
    · obtain ⟨rfl, -⟩ : o = opened ∧ stored = w.stored := by simpa using hm
      rfl
  · rintro rfl
    exact ⟨w.stored, by simp⟩

theorem Traced.commit (h : Traced w)
    (hc : commitSnapshot opened snapshot datasets relations samples w = .ok (w', ())) :
    Traced w' where
  rows := by
    intro o stored s hm
    obtain ⟨row, -, -, rfl⟩ := commitSnapshot_ok hc
    rcases List.mem_append.mp hm with hm | hm
    · obtain ⟨r, hr, he⟩ := h.rows o stored s hm
      obtain ⟨r', hr', he'⟩ := deactivate_ids _ r hr
      exact ⟨r', List.mem_append_left _ hr', he'.trans he⟩
    · obtain ⟨-, -, rfl⟩ : o = opened ∧ stored = w.stored ∧ s = snapshot := by simpa using hm
      exact ⟨Catalog.snapshotRow s, List.mem_append_right _ (List.mem_singleton.mpr rfl), rfl⟩
  ready := by
    intro hcfg _
    have hmatch : w.stored = some opened :=
      hcfg (.committed opened w.stored snapshot) (by rw [commit_log hc]; simp)
    refine ⟨Catalog.snapshotRow snapshot, (commit_ready hc).2,
      ⟨opened, (commit_scannedThrough h hc opened).mpr rfl⟩, ?_⟩
    intro o ho
    rw [(commit_scannedThrough h hc o).mp ho, commit_stored hc]
    exact hmatch

/-- A commit through a connection that is no longer stored leaves a state that is not as configured. -/
theorem commit_not_configured (h : Traced w)
    (hc : commitSnapshot opened snapshot datasets relations samples w = .ok (w', ()))
    (hne : w.stored ≠ some opened) : ¬ ReadyAsConfigured w' := by
  intro hr
  obtain ⟨row, hrow, -, hall⟩ := hr (commit_ready hc).1
  obtain rfl : Catalog.snapshotRow snapshot = row := Option.some.inj ((commit_ready hc).2.symm.trans hrow)
  have hs := hall opened ((commit_scannedThrough h hc opened).mpr rfl)
  exact hne ((commit_stored hc).symm.trans hs)

end Commit

/-! ## Scans and updates keep the invariant -/

/-- The log grows and the invariant is kept; and a step after which the commits are no longer as
configured leaves a state that is not. -/
def tracedContract : Contract World Question where
  rely w w' := w.log <+: w'.log ∧ (Traced w → Traced w')
  guar w w' := w.log <+: w'.log ∧ (Traced w → Traced w' ∧
    (CommittedAsConfigured w → CommittedAsConfigured w' ∨ ¬ ReadyAsConfigured w'))

/-- A step that commits nothing. -/
theorem guar_of_sameCommits {w w' : World} (hl : w.log <+: w'.log) (hc : SameCommits w w')
    (ht : Traced w → Traced w') : tracedContract.guar w w' :=
  ⟨hl, fun h => ⟨ht h, fun hcfg => Or.inl (hc.configured.mpr hcfg)⟩⟩

theorem sameCommits_of_log {w w' : World} (h : w'.log = w.log) : SameCommits w w' := by
  intro opened stored snapshot
  rw [h]

theorem lenient_tracedContract : Lenient tracedContract where
  may _ _ := trivial
  quiet _ _ hq :=
    have hc := sameCommits_of_log hq.log
    guar_of_sameCommits (hq.log ▸ List.prefix_refl _) hc fun h => h.of_facts hc hq.facts

def tracedHooks : Hooks tracedContract where
  before _ := True
  looked _ _ := True
  opened _ _ := True
  numbered _ _ _ _ := True
  published _ _ _ := True
  before_stable := stable_true _
  looked_stable _ := stable_true _
  opened_stable _ := stable_true _
  numbered_stable _ _ _ := stable_true _
  published_stable _ _ := stable_true _
  look _ _ _ _ := trivial
  open_ _ _ _ _ _ := trivial
  number := by
    intro w o _
    have hc : SameCommits w { w with log := w.log ++ [.versionRead] } := by
      intro opened stored snapshot
      simp
    exact ⟨guar_of_sameCommits (List.prefix_append _ _) hc fun h => h.of_facts hc rfl, trivial⟩
  publish := by
    intro w o t graph _
    have hc : SameCommits w
        { w with graph := some graph, log := w.log ++ [.published t graph] } := by
      intro opened stored snapshot
      simp
    exact ⟨guar_of_sameCommits (List.prefix_append _ _) hc fun h => h.of_facts hc rfl, trivial⟩
  commit := by
    intro w w' o snapshot datasets relations samples _ hc
    refine ⟨commit_log hc ▸ List.prefix_append _ _, fun h => ⟨h.commit hc, fun hcfg => ?_⟩⟩
    by_cases hne : w.stored = some o
    · left
      intro e he
      rw [commit_log hc] at he
      rcases List.mem_append.mp he with he | he
      · exact hcfg e he
      · obtain rfl := List.mem_singleton.mp he
        exact hne
    · exact Or.inr (commit_not_configured h hc hne)

theorem guar_delete (w : World) : tracedContract.guar w { w with graph := none } :=
  have hc : SameCommits w { w with graph := none } := sameCommits_of_log rfl
  guar_of_sameCommits (List.prefix_refl _) hc fun h => h.of_facts hc rfl

theorem guar_update {candidate : ConnectionProfile} (w : World) (catalog : Catalog)
    (datasource : Datasource)
    (h : w.catalog.updateSecureDatasource candidate = .ok (catalog, datasource)) :
    tracedContract.guar w { w with catalog } := by
  have hcat : catalog.snapshots = w.catalog.snapshots ∧ catalog.status = some .created := by
    unfold Catalog.updateSecureDatasource at h
    split at h
    · cases h
    · split at h
      · cases h
      · cases h
        exact ⟨rfl, rfl⟩
  refine guar_of_sameCommits (List.prefix_refl _) (sameCommits_of_log rfl) fun ht => ?_
  exact ht.of_created rfl (fun row hr => ⟨row, hcat.1 ▸ hr, rfl⟩) hcat.2

theorem guar_invalidate (w : World) (catalog : Catalog)
    (h : w.catalog.invalidateDatasourceScan = .ok (catalog, ())) :
    tracedContract.guar w { w with catalog } := by
  have hcat : catalog.snapshots = Catalog.deactivate w.catalog.snapshots ∧
      catalog.status = some .created := by
    unfold Catalog.invalidateDatasourceScan at h
    split at h
    · cases h
    · cases h
      exact ⟨rfl, rfl⟩
  refine guar_of_sameCommits (List.prefix_refl _) (sameCommits_of_log rfl) fun ht => ?_
  exact ht.of_created rfl (fun row hr => hcat.1 ▸ deactivate_ids _ row hr) hcat.2

def tracedDiscipline : Pool.Discipline IsScanOrUpdate (fun _ _ : World => False) where
  contract := tracedContract
  inv := Traced
  refl _ := ⟨List.prefix_refl _, id⟩
  trans _ _ _ h h' := ⟨h.1.trans h'.1, h'.2 ∘ h.2⟩
  rely_of_guar _ _ h := ⟨h.1, fun ht => (h.2 ht).1⟩
  rely_of_env _ _ h := h.elim
  keep _ _ h := h.2
  started := by
    rintro p w (⟨generateDocuments, datasourceId, policy, rfl⟩ | ⟨candidate, rfl⟩) _
    · refine Infra.Program.Triple.bind (initialize_triple lenient_tracedContract tracedHooks
        generateDocuments datasourceId policy) (fun _ => ?_) w trivial
      exact Infra.Program.Triple.pure fun _ _ => trivial
    · refine Infra.Program.Triple.bind (updateSecureDatasource_triple lenient_tracedContract candidate
        guar_delete (fun w catalog datasource h => guar_update w catalog datasource h)
        guar_invalidate) (fun _ => ?_) w trivial
      exact Infra.Program.Triple.pure fun _ _ => trivial

theorem traced_fresh (row : DatasourceRow) : Traced (World.fresh row) where
  rows _ _ _ h := absurd h List.not_mem_nil
  ready _ h := by cases h

theorem disciplined_of_between {row : DatasourceRow} {pool : Pool World Answer Failure Unit}
    (h : Between ⟨[], World.fresh row⟩ pool) : Pool.Disciplined tracedDiscipline pool :=
  (Pool.Reaches.disciplined (Pool.disciplined_empty (traced_fresh row)) h).1

/-! ## The main result -/

/-- If some commit was not as configured, so was the state right after it. -/
theorem exists_not_configured {row : DatasourceRow} {pool : Pool World Answer Failure Unit}
    (h : Between ⟨[], World.fresh row⟩ pool) (hc : ¬ CommittedAsConfigured pool.state) :
    ∃ mid, Between ⟨[], World.fresh row⟩ mid ∧ Between mid pool ∧ ¬ ReadyAsConfigured mid.state := by
  induction h with
  | refl => exact absurd (fun _ he => absurd he List.not_mem_nil) hc
  | @tail a b hab hs ih =>
    by_cases ha : CommittedAsConfigured a.state
    · have hd := disciplined_of_between hab
      rcases hd.step_guar hs with he | he | hg
      · rw [he] at hc
        exact absurd ha hc
      · exact he.elim
      · refine ⟨b, hab.tail hs, Relation.ReflTransGen.refl, ?_⟩
        exact ((hg.2 hd.inv).2 ha).resolve_left hc
    · obtain ⟨mid, h₁, h₂, hn⟩ := ih ha
      exact ⟨mid, h₁, h₂.tail hs, hn⟩

/-- **Whatever scans and changes of the connection run, overlap, fail or are killed, the datasource was
as configured in every state so far exactly when no scan was committed after the connection it had
opened was replaced.** -/
theorem readyAsConfigured_iff (row : DatasourceRow) (pool : Pool World Answer Failure Unit)
    (h : Between ⟨[], World.fresh row⟩ pool) :
    AlwaysAsConfigured row pool ↔ CommittedAsConfigured pool.state := by
  constructor
  · intro hall
    by_contra hc
    obtain ⟨mid, h₁, h₂, hn⟩ := exists_not_configured h hc
    exact hn (hall mid h₁ h₂)
  · intro hc mid h₁ h₂
    have hd := disciplined_of_between h₁
    have hlog : mid.state.log <+: pool.state.log := (Pool.Reaches.disciplined hd h₂).2.1
    exact hd.inv.ready fun e he => hc e (hlog.subset he)

/-! ## An update during a scan -/

def scanThread : Prog Unit := sampleScan >>= fun _ => pure ()

def updateThread : Prog Unit := updateSecureDatasource ⟨"sqlite", .str "other"⟩ >>= fun _ => pure ()

theorem start_thread {p : Prog Unit} (h : p = scanThread ∨ p = updateThread) : IsScanOrUpdate p := by
  rcases h with rfl | rfl
  · exact Or.inl ⟨true, "ds_1", {}, rfl⟩
  · exact Or.inr ⟨_, rfl⟩

/-- A scan, and after it a change of the connection. -/
def scanThenUpdate : Pool World Answer Failure Unit :=
  Pool.playAll ⟨[], World.fresh sampleRow⟩
    [.spawn scanThread, .run 0 45 (sampleAnswers "a" "orders"),
     .spawn updateThread, .run 1 30 (sampleAnswers "b" "orders")]

theorem scanThenUpdate_reached : Between ⟨[], World.fresh sampleRow⟩ scanThenUpdate :=
  Pool.playAll_reaches _ _ fun p hp => start_thread (by simpa using hp)

theorem scanThenUpdate_configured : AlwaysAsConfigured sampleRow scanThenUpdate := by
  have hc : ∀ e ∈ scanThenUpdate.state.log, e.AsConfigured := by decide
  exact (readyAsConfigured_iff sampleRow scanThenUpdate scanThenUpdate_reached).mpr hc

/-- A change of the connection that lands after a scan has opened the old one; the scan goes on. -/
def updateDuringScan : Pool World Answer Failure Unit :=
  Pool.playAll ⟨[], World.fresh sampleRow⟩
    [.spawn scanThread, .run 0 11 (sampleAnswers "a" "orders"),
     .spawn updateThread, .run 1 30 (sampleAnswers "b" "orders"),
     .run 0 45 (sampleAnswers "a" "orders")]

/-- The connection that was stored first. -/
def old : StoredConnection := .secure ⟨"sqlite", .null⟩

/-- The connection a committed scan had opened. -/
def openedBy : Event → Option StoredConnection
  | .committed opened _ _ => some opened
  | _ => none

theorem updateDuringScan_reached : Between ⟨[], World.fresh sampleRow⟩ updateDuringScan :=
  Pool.playAll_reaches _ _ fun p hp => start_thread (by simpa using hp)

/-- The datasource is ready, and was scanned through the connection that the update replaced. -/
theorem update_during_scan_not_configured :
    Between ⟨[], World.fresh sampleRow⟩ updateDuringScan ∧
      ¬ ReadyAsConfigured updateDuringScan.state := by
  refine ⟨updateDuringScan_reached, fun h => ?_⟩
  have hready : updateDuringScan.state.catalog.status = some .ready := by decide
  have hstored : updateDuringScan.state.stored = some (.secure ⟨"sqlite", .str "other"⟩) := by
    decide
  have hopened : ∀ e ∈ updateDuringScan.state.log, e.isCommitted → openedBy e = some old := by
    decide
  obtain ⟨row, -, ⟨opened, stored, hm⟩, heq⟩ := h hready
  have hold : opened = old := Option.some.inj (hopened _ hm rfl)
  have hnew := heq opened ⟨stored, hm⟩
  rw [hstored, hold] at hnew
  exact absurd hnew (by decide)

end Scan
