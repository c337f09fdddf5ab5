import Qaneris.Scan.Revisions
import Qaneris.Scan.Properties.Steps

/-!
# Published revisions

A scan reads the next version before it publishes, and the version is taken only when the scan is
committed. So a version counts the commits before it was read:

* `revisionsIdentifyContent_iff` — versions identify content exactly when a commit lies between the
  reads of any two scans that published different content
* `failed_commit_reuses_revision` — a scan whose commit fails, and the scan after it, publish different
  content under one version
-/

namespace Scan

open Infra (Pool)
open Infra.Program (Contract)

/-! ## Counting commits -/

def commits (log : List Event) : Nat := log.countP Event.isCommitted

theorem commits_append (a b : List Event) : commits (a ++ b) = commits a + commits b :=
  List.countP_append

theorem commits_take_le {log : List Event} (s t : Nat) (h : s ≤ t) :
    commits (log.take s) ≤ commits (log.take t) := by
  have hp : (log.take s).Sublist (log.take t) :=
    (List.take_prefix_take_left h).sublist
  exact hp.countP_le

/-- The count grows between two places exactly when a commit lies there. -/
theorem commits_take_lt_iff {log : List Event} {s t : Nat} (h : s ≤ t) :
    commits (log.take s) < commits (log.take t) ↔
      ∃ i e, s ≤ i ∧ i < t ∧ log[i]? = some e ∧ e.isCommitted := by
  induction t, h using Nat.le_induction with
  | base =>
    simp only [lt_self_iff_false, false_iff]
    rintro ⟨i, e, hs, ht, -⟩
    omega
  | succ t h ih =>
    have hle : commits (log.take s) ≤ commits (log.take t) := commits_take_le s t h
    rw [List.take_add_one, commits_append]
    constructor
    · intro hlt
      by_cases hlast : commits (log.take s) < commits (log.take t)
      · obtain ⟨i, e, hs, ht, he⟩ := ih.mp hlast
        exact ⟨i, e, hs, by omega, he⟩
      · have hpos : 0 < commits (log[t]?).toList := by omega
        obtain ⟨e, he, hc⟩ := List.countP_pos_iff.mp hpos
        exact ⟨t, e, h, by omega, Option.mem_toList.mp he, hc⟩
    · rintro ⟨i, e, hs, ht, he, hc⟩
      by_cases hit : i = t
      · subst hit
        have : commits (log[i]?).toList = 1 := by
          rw [he]
          simp [commits, hc]
        omega
      · have := ih.mpr ⟨i, e, hs, by omega, he, hc⟩
        omega

/-! ## The invariant -/

/-- The stored versions are `1, …, n` for the `n` commits so far, every publication carries the
number of commits before its version was read, and the published graph is one of them. -/
structure Numbered (w : World) : Prop where
  versions : w.catalog.snapshots.map SnapshotRow.version = (List.range (commits w.log)).map (· + 1)
  published : ∀ t g, w.Published t g →
    t ≤ w.log.length ∧ g.scanVersion = commits (w.log.take t) + 1
  current : ∀ g, w.graph = some g → ∃ t, w.Published t g

theorem nextSnapshotVersion_of_versions {c : Catalog} {n : Nat}
    (h : c.snapshots.map SnapshotRow.version = (List.range n).map (· + 1)) :
    c.nextSnapshotVersion = n + 1 := by
  have hfold : ∀ n, ((List.range n).map (· + 1)).foldr max 0 = n := by
    intro n
    induction n with
    | zero => rfl
    | succ n ih =>
      rw [List.range_succ, List.map_append, List.foldr_append]
      have hb : ∀ (l : List Nat) (b : Nat), l.foldr max b = max (l.foldr max 0) b := by
        intro l b
        induction l with
        | nil => simp
        | cons x l ihl => simp only [List.foldr_cons, ihl, Nat.max_assoc]
      rw [hb, ih]
      simp
  unfold Catalog.nextSnapshotVersion
  rw [h, hfold]

namespace Numbered

variable {w : World}

/-- A version read now is one more than the commits so far. -/
theorem next (h : Numbered w) : w.catalog.nextSnapshotVersion = commits w.log + 1 :=
  nextSnapshotVersion_of_versions h.versions

theorem quiet {w' : World} (h : Numbered w) (hq : Quiet w w') : Numbered w' where
  versions := by
    rw [snapshots_of_facts hq.facts, hq.log]
    exact h.versions
  published := by
    intro t g hp
    unfold World.Published at hp
    rw [hq.log] at hp ⊢
    exact h.published t g hp
  current := by
    intro g hg
    rw [hq.graph] at hg
    obtain ⟨t, ht⟩ := h.current g hg
    exact ⟨t, by unfold World.Published; rw [hq.log]; exact ht⟩

theorem take_append {t : Nat} {e : Event} (ht : t ≤ w.log.length) :
    (w.log ++ [e]).take t = w.log.take t := by
  rw [List.take_append_of_le_length ht]

theorem readVersion (h : Numbered w) : Numbered { w with log := w.log ++ [.versionRead] } where
  versions := by
    show _ = (List.range (commits (w.log ++ [.versionRead]))).map _
    rw [commits_append]
    exact h.versions
  published := by
    intro t g hp
    rcases List.mem_append.mp hp with hp | hp
    · obtain ⟨ht, hv⟩ := h.published t g hp
      exact ⟨by simp only [List.length_append]; omega, by rw [take_append ht]; exact hv⟩
    · simp at hp
  current := fun g hg =>
    let ⟨t, ht⟩ := h.current g hg
    ⟨t, List.mem_append_left _ ht⟩

theorem publish (h : Numbered w) {t : Nat} {graph : ScanGraph} (ht : t ≤ w.log.length)
    (hv : graph.scanVersion = commits (w.log.take t) + 1) :
    Numbered { w with graph := some graph, log := w.log ++ [.published t graph] } where
  versions := by
    show _ = (List.range (commits (w.log ++ [.published t graph]))).map _
    rw [commits_append]
    exact h.versions
  published := by
    intro s g hp
    rcases List.mem_append.mp hp with hp | hp
    · obtain ⟨hs, hv'⟩ := h.published s g hp
      exact ⟨by simp only [List.length_append]; omega, by rw [take_append hs]; exact hv'⟩
    · obtain ⟨rfl, rfl⟩ : s = t ∧ g = graph := by simpa using hp
      exact ⟨by simp only [List.length_append]; omega, by rw [take_append ht]; exact hv⟩
  current := by
    intro g hg
    obtain rfl := Option.some.inj hg
    exact ⟨t, List.mem_append_right _ (List.mem_singleton.mpr rfl)⟩

end Numbered

/-- What a successful commit does to the rows. -/
theorem commitScanSnapshot_ok {c c' : Catalog} {snapshot : ScanSnapshot}
    {datasets : List DatasetInfo} {relations : List RelationInfo} {samples : List DatasetSample}
    (h : c.commitScanSnapshot snapshot datasets relations samples = .ok (c', ())) :
    ∃ row, c.datasource = some row ∧ Catalog.SnapshotFree c.snapshots snapshot ∧
      c' = { c with
        datasource := some { row with status := .ready }
        datasets, relations, samples
        snapshots := Catalog.deactivate c.snapshots ++ [Catalog.snapshotRow snapshot] } := by
  unfold Catalog.commitScanSnapshot at h
  split at h
  · cases h
  · split at h
    · cases h
    · split at h
      · cases h
      · split at h
        · cases h
        · split at h
          · cases h
          · next hfree =>
            split at h
            · cases h
            · next row hrow =>
              cases h
              exact ⟨row, hrow, not_not.mp hfree, rfl⟩

theorem commitSnapshot_ok {w w' : World} {opened : StoredConnection} {snapshot : ScanSnapshot}
    {datasets : List DatasetInfo} {relations : List RelationInfo} {samples : List DatasetSample}
    (h : commitSnapshot opened snapshot datasets relations samples w = .ok (w', ())) :
    ∃ row, w.catalog.datasource = some row ∧
      Catalog.SnapshotFree w.catalog.snapshots snapshot ∧
      w' = { w with
        catalog := { w.catalog with
          datasource := some { row with status := .ready }
          datasets, relations, samples
          snapshots := Catalog.deactivate w.catalog.snapshots ++ [Catalog.snapshotRow snapshot] }
        log := w.log ++ [.committed opened w.stored snapshot] } := by
  unfold commitSnapshot at h
  cases hc : w.catalog.commitScanSnapshot snapshot datasets relations samples with
  | error e => simp [hc, bind, Except.bind] at h
  | ok x =>
    obtain ⟨c', ⟨⟩⟩ := x
    obtain ⟨row, hrow, hfree, rfl⟩ := commitScanSnapshot_ok hc
    simp only [hc, bind, Except.bind, pure, Except.pure, Except.ok.injEq, Prod.mk.injEq,
      and_true] at h
    exact ⟨row, hrow, hfree, h.symm⟩

theorem deactivate_versions (rows : List SnapshotRow) :
    (Catalog.deactivate rows).map SnapshotRow.version = rows.map SnapshotRow.version := by
  unfold Catalog.deactivate
  rw [List.map_map]
  rfl

/-- A version that was read, and is still free, is the next one. -/
theorem Numbered.commit {w w' : World} (h : Numbered w) {t : Nat} {opened : StoredConnection}
    {snapshot : ScanSnapshot} {datasets : List DatasetInfo} {relations : List RelationInfo}
    {samples : List DatasetSample} (hv : snapshot.version = commits (w.log.take t) + 1)
    (hc : commitSnapshot opened snapshot datasets relations samples w = .ok (w', ())) :
    Numbered w' := by
  obtain ⟨row, hrow, hfree, rfl⟩ := commitSnapshot_ok hc
  have hle : commits (w.log.take t) ≤ commits w.log := (List.take_sublist t w.log).countP_le
  have hnew : snapshot.version = commits w.log + 1 := by
    by_contra hne
    -- otherwise the version is among `1, …, n`, and taken
    have hm : snapshot.version ∈ w.catalog.snapshots.map SnapshotRow.version := by
      rw [h.versions]
      exact List.mem_map.mpr ⟨commits (w.log.take t), List.mem_range.mpr (by omega), hv.symm⟩
    obtain ⟨r, hr, he⟩ := List.mem_map.mp hm
    exact (hfree r hr).2 he
  refine ⟨?_, ?_, ?_⟩
  · show (Catalog.deactivate w.catalog.snapshots ++ [Catalog.snapshotRow snapshot]).map _ =
      (List.range (commits (w.log ++ [.committed opened w.stored snapshot]))).map _
    have hone : commits [Event.committed opened w.stored snapshot] = 1 := rfl
    rw [commits_append, hone, List.range_succ, List.map_append, List.map_append,
      deactivate_versions, h.versions]
    simp [Catalog.snapshotRow, hnew]
  · intro s g hp
    rcases List.mem_append.mp hp with hp | hp
    · obtain ⟨hs, hv'⟩ := h.published s g hp
      exact ⟨by simp only [List.length_append]; omega, by rw [take_append hs]; exact hv'⟩
    · simp at hp
  · intro g hg
    obtain ⟨t, ht⟩ := h.current g hg
    exact ⟨t, List.mem_append_left _ ht⟩

/-! ## Scans keep the invariant -/

/-- The log only grows, and the invariant is kept. -/
def numberedContract : Contract World Question where
  rely w w' := w.log <+: w'.log ∧ (Numbered w → Numbered w')
  guar w w' := w.log <+: w'.log ∧ (Numbered w → Numbered w')

/-- A version that was read when the log had `t` entries. -/
structure ReadAt (v t : Nat) (w : World) : Prop where
  inv : Numbered w
  le : t ≤ w.log.length
  version : v = commits (w.log.take t) + 1

theorem ReadAt.mono {v t : Nat} {w w' : World} (h : ReadAt v t w) (hl : w.log <+: w'.log)
    (hi : Numbered w → Numbered w') : ReadAt v t w' where
  inv := hi h.inv
  le := le_trans h.le hl.length_le
  version := by
    obtain ⟨rest, hr⟩ := hl
    rw [← hr, List.take_append_of_le_length h.le]
    exact h.version

theorem quiet_numberedContract {w w' : World} (hq : Quiet w w') : numberedContract.guar w w' :=
  ⟨hq.log ▸ List.prefix_refl _, fun h => h.quiet hq⟩

theorem lenient_numberedContract : Lenient numberedContract where
  may _ _ := trivial
  quiet _ _ hq := quiet_numberedContract hq

theorem stable_numbered : Stable numberedContract Numbered where
  rely _ _ hr h := hr.2 h
  quiet _ _ hq h := h.quiet hq

theorem stable_readAt (v t : Nat) : Stable numberedContract (ReadAt v t) where
  rely _ _ hr h := h.mono hr.1 hr.2
  quiet _ _ hq h := h.mono (quiet_numberedContract hq).1 (quiet_numberedContract hq).2

def numberedHooks : Hooks numberedContract where
  before := Numbered
  looked _ := Numbered
  opened _ := Numbered
  numbered _ v t := ReadAt v t
  published _ v w := ∃ t, ReadAt v t w
  before_stable := stable_numbered
  looked_stable _ := stable_numbered
  opened_stable _ := stable_numbered
  numbered_stable _ v t := stable_readAt v t
  published_stable _ v :=
    { rely := fun _ _ hr ⟨t, h⟩ => ⟨t, (stable_readAt v t).rely _ _ hr h⟩
      quiet := fun _ _ hq ⟨t, h⟩ => ⟨t, (stable_readAt v t).quiet _ _ hq h⟩ }
  look _ _ h _ := h
  open_ _ _ _ h _ := h
  number := by
    intro w o h
    refine ⟨⟨List.prefix_append _ _, Numbered.readVersion⟩, h.readVersion, ?_, ?_⟩
    · simp
    · rw [Numbered.take_append (le_refl _), List.take_length]
      exact h.next
  publish := by
    intro w o t graph h
    have hp : Numbered { w with graph := some graph, log := w.log ++ [.published t graph] } :=
      h.inv.publish h.le h.version
    refine ⟨⟨List.prefix_append _ _, fun _ => hp⟩, t, hp, ?_, ?_⟩
    · have := h.le
      simp only [List.length_append]
      omega
    · rw [Numbered.take_append h.le]
      exact h.version
  commit := by
    rintro w w' o snapshot datasets relations samples ⟨t, h⟩ hc
    refine ⟨?_, fun _ => h.inv.commit h.version hc⟩
    obtain ⟨row, -, -, rfl⟩ := commitSnapshot_ok hc
    exact List.prefix_append _ _

def numberedDiscipline : Pool.Discipline IsScan (fun _ _ : World => False) where
  contract := numberedContract
  inv := Numbered
  refl _ := ⟨List.prefix_refl _, id⟩
  trans _ _ _ h h' := ⟨h.1.trans h'.1, h'.2 ∘ h.2⟩
  rely_of_guar _ _ h := h
  rely_of_env _ _ h := h.elim
  keep _ _ h := h.2
  started := by
    rintro p w ⟨generateDocuments, datasourceId, policy, rfl⟩ hi
    exact Infra.Program.wp_mono (fun _ _ _ => trivial) (fun _ _ h => h)
      (initialize_triple lenient_numberedContract numberedHooks generateDocuments datasourceId policy
        w hi)

theorem numbered_fresh (row : DatasourceRow) : Numbered (World.fresh row) where
  versions := rfl
  published _ _ h := absurd h List.not_mem_nil
  current _ h := nomatch h

theorem numbered_of_reaches {row : DatasourceRow}
    {pool : Pool World Answer Failure InitializationJob} (h : ScansReach row pool) :
    Numbered pool.state :=
  (Pool.Reaches.disciplined (d := numberedDiscipline)
    (Pool.disciplined_empty (numbered_fresh row)) h).1.inv

/-! ## The main result -/

theorem Numbered.identifies_iff {w : World} (h : Numbered w) :
    RevisionsIdentifyContent w ↔ CommittedBetween w := by
  constructor
  · intro hid t₁ g₁ t₂ g₂ h₁ h₂ hle hne
    rw [← commits_take_lt_iff hle]
    have hmono : commits (w.log.take t₁) ≤ commits (w.log.take t₂) := commits_take_le t₁ t₂ hle
    have hv : g₁.scanVersion ≠ g₂.scanVersion := fun he => hne (hid.identify t₁ g₁ t₂ g₂ h₁ h₂ he)
    rw [(h.published t₁ g₁ h₁).2, (h.published t₂ g₂ h₂).2] at hv
    omega
  · intro hc
    have hid : ∀ t₁ g₁ t₂ g₂, w.Published t₁ g₁ → w.Published t₂ g₂ → t₁ ≤ t₂ →
        g₁.scanVersion = g₂.scanVersion → g₁.content = g₂.content := by
      intro t₁ g₁ t₂ g₂ h₁ h₂ hle hv
      by_contra hne
      have hlt := (commits_take_lt_iff hle).mpr (hc t₁ g₁ t₂ g₂ h₁ h₂ hle hne)
      rw [(h.published t₁ g₁ h₁).2, (h.published t₂ g₂ h₂).2] at hv
      omega
    have hall : ∀ t₁ g₁ t₂ g₂, w.Published t₁ g₁ → w.Published t₂ g₂ →
        g₁.scanVersion = g₂.scanVersion → g₁.content = g₂.content := by
      intro t₁ g₁ t₂ g₂ h₁ h₂ hv
      rcases Nat.le_total t₁ t₂ with hle | hle
      · exact hid t₁ g₁ t₂ g₂ h₁ h₂ hle hv
      · exact (hid t₂ g₂ t₁ g₁ h₂ h₁ hle hv.symm).symm
    refine ⟨hall, ?_⟩
    intro t g current hp hcur hok
    obtain ⟨s, hs⟩ := h.current current hcur
    exact hall t g s current hp hs (validateRevision_ok hok)

/-- **Whatever scans of a datasource run, overlap, fail or are killed, its published versions identify
content exactly when a commit lies between the version reads of any two scans that published
different content.** -/
theorem revisionsIdentifyContent_iff (row : DatasourceRow)
    (pool : Pool World Answer Failure InitializationJob) (h : ScansReach row pool) :
    RevisionsIdentifyContent pool.state ↔ CommittedBetween pool.state :=
  (numbered_of_reaches h).identifies_iff

/-! ## A scan that fails between its publication and its commit -/

def sampleRow : DatasourceRow :=
  { id := "ds_1", name := "sales", kind := .relational, workspaceId := "default"
    connection := .secure ⟨"sqlite", .null⟩ }

/-- A source with one table, all of whose calls succeed. -/
def sampleAnswers (uuid table : String) (q : Question) : Option (Answer q) :=
  some <| match q with
  | .fault => none
  | .clock => (0 : Int)
  | .uuid => uuid
  | .openConnection _ | .createAdapter _ _ | .testConnection | .ensureSchema => .ok ()
  | .scanMetadata => .ok [{ datasourceId := "ds_1", name := table }]
  | .scanRelations => .ok []
  | .scanSamples _ _ => .ok []
  | .scanProfileRecords _ _ => .ok []
  | .buildProfile => .ok (.null, [])
  | .writeDocuments _ => .ok "profile.md"
  | .cleanupSecrets _ _ => ()

def sampleScan : Prog InitializationJob := initialize_ true "ds_1" {}

theorem sampleScan_isScan : IsScan sampleScan := ⟨true, "ds_1", {}, rfl⟩

/-- One scan, to its end. -/
def wholeScan : Pool World Answer Failure InitializationJob :=
  Pool.playAll ⟨[], World.fresh sampleRow⟩ [.spawn sampleScan, .run 0 45 (sampleAnswers "a" "orders")]

theorem wholeScan_reached : ScansReach sampleRow wholeScan :=
  Pool.playAll_reaches _ _ fun p hp => by
    simp only [List.mem_cons, Pool.Choice.spawn.injEq, List.not_mem_nil, or_false, reduceCtorEq] at hp
    exact hp ▸ sampleScan_isScan

/-- The graph of a source with one table. -/
def sampleGraph (table : String) : ScanGraph :=
  let database := NodeId.database "default" "ds_1"
  let object := NodeId.dataObject "ds_1" table
  { workspaceId := "default", datasourceId := "ds_1", scanVersion := 1, scannedAt := 0
    nodes := [
      ⟨database, .database "default" "ds_1" "sales" .relational (some "sqlite") 1 0⟩,
      ⟨object, .dataObject "ds_1" none table table "table" none none⟩]
    edges := [⟨.contains, database, object⟩] }

theorem wholeScan_identifies :
    CommittedBetween wholeScan.state ∧ RevisionsIdentifyContent wholeScan.state := by
  have hc : CommittedBetween wholeScan.state := by
    intro t₁ g₁ t₂ g₂ h₁ h₂ _ hne
    have hlog : ∀ t g, wholeScan.state.Published t g → g = sampleGraph "orders" := by
      intro t g h
      have hall : ∀ e ∈ wholeScan.state.log, ∀ t g, e = .published t g → g = sampleGraph "orders" := by
        intro e he
        have hmem : e = .versionRead ∨ e = .published 0 (sampleGraph "orders") ∨ e.isCommitted := by
          revert e
          decide
        rintro t g rfl
        rcases hmem with h | h | h
        · cases h
        · exact (Event.published.inj h).2
        · cases h
      exact hall _ h t g rfl
    exact absurd (by rw [hlog t₁ g₁ h₁, hlog t₂ g₂ h₂]) hne
  exact ⟨hc, (revisionsIdentifyContent_iff sampleRow wholeScan wholeScan_reached).mpr hc⟩

/-- The catalog cannot be written. -/
def lockedAnswers (q : Question) : Option (Answer q) :=
  match q with
  | .fault => some (some ⟨"OperationalError", "database is locked", false⟩)
  | q => sampleAnswers "a" "orders" q

/-- A scan of `orders` publishes its graph, cannot commit its snapshot, and ends in `profile_failed`;
then `invoices` is scanned and published. -/
def failedCommit : Pool World Answer Failure InitializationJob :=
  Pool.playAll ⟨[], World.fresh sampleRow⟩
    [.spawn sampleScan, .run 0 38 (sampleAnswers "a" "orders"), .run 0 1 lockedAnswers,
     .run 0 3 (sampleAnswers "a" "orders"),
     .spawn sampleScan, .run 1 37 (sampleAnswers "b" "invoices")]

/-- Both graphs carry version 1. -/
theorem failed_commit_reuses_revision :
    ScansReach sampleRow failedCommit ∧ ¬ RevisionsIdentifyContent failedCommit.state := by
  constructor
  · refine Pool.playAll_reaches _ _ fun p hp => ?_
    simp only [List.mem_cons, Pool.Choice.spawn.injEq, List.not_mem_nil, or_false, reduceCtorEq,
      false_or, or_self] at hp
    exact hp ▸ sampleScan_isScan
  · intro h
    have hlog : failedCommit.state.log =
        [.versionRead, .published 0 (sampleGraph "orders"),
         .versionRead, .published 2 (sampleGraph "invoices")] := by decide
    have h₁ : failedCommit.state.Published 0 (sampleGraph "orders") := by
      unfold World.Published
      rw [hlog]
      simp
    have h₂ : failedCommit.state.Published 2 (sampleGraph "invoices") := by
      unfold World.Published
      rw [hlog]
      simp
    exact absurd (h.identify _ _ _ _ h₁ h₂ rfl) (by decide)

end Scan
