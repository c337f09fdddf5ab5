import Mathlib
import Qaneris.Ingestion.Properties.Steps

/-!
# Imports of one key

* `importExcel_does` — one import on its own keeps the catalog and a ready manifest, and what it returns
  stands for an artifact, a ready datasource, its active snapshot and its publication
-/

namespace Ingestion

open Infra (Program)
open Infra.Program (attempt ofExcept)

variable {service : ExcelIngestionService} {workbook : Workbook} {request : ExcelImportRequest}
  {filename : String} {workspaceId : String} {finished : Bool}

/-! ## Reading the chain -/

section Reading

variable {exc : Failure → World → Prop} {pre : World → Prop}

theorem readManifest_does :
    Does service workbook workspaceId exc pre ExcelIngestionService.readManifest
      fun m w => pre w ∧ w.manifest = m := by
  refine Does.bind (Does.ask .fault) fun fault => ?_
  cases fault with
  | some e => exact Does.misread
  | none => exact Does.read

/-- What `_active_snapshot` is to return. -/
def activeOf (w : World) (id : String) : Option Scan.ScanSnapshot :=
  if id ≠ "" ∧ (w.at id).catalog.status = some .ready then (w.at id).catalog.getActiveSnapshot else none

theorem getDatasource_status {c c' : Scan.Catalog} {datasource : Scan.Datasource}
    {connection : Scan.StoredConnection} (h : c.getDatasource = .ok (c', datasource, connection)) :
    c.status = some datasource.status := by
  unfold Scan.Catalog.getDatasource at h
  split at h
  · cases h
  · next row hrow =>
    cases h
    rw [Scan.Catalog.status, hrow]
    rfl

theorem getDatasource_missing {c : Scan.Catalog} {e : Scan.Failure} (h : c.getDatasource = .error e) :
    c.status = none := by
  unfold Scan.Catalog.getDatasource at h
  split at h
  · next hrow =>
    rw [Scan.Catalog.status, hrow]
    rfl
  · cases h

/-- A `KeyError` of `_is_ready` means that there is no such datasource. -/
theorem isReady_does (id : String) :
    Does service workbook workspaceId
      (fun e w => pre w ∧ ∃ f, e = .other f ∧ (f.typeName = "KeyError" → (w.at id).catalog.status = none))
      pre (ExcelIngestionService.isReady id)
      fun ready w => pre w ∧ ready = decide ((w.at id).catalog.status = some .ready) := by
  refine Does.bind (Does.readCall (fun e w hw => ⟨hw, e.error, rfl, fun h => absurd h e.not_key⟩)
    fun e w hw he => ⟨hw, e, rfl, fun _ => ?_⟩) fun datasource => Does.pure ?_
  · exact getDatasource_missing (Infra.map_error he)
  · rintro w ⟨hw, hread⟩
    obtain ⟨⟨c, d, connection⟩, hget, rfl⟩ := Infra.map_ok hread
    refine ⟨hw, ?_⟩
    rw [getDatasource_status hget]
    simp

theorem activeSnapshot_does (hexc : ∀ e w, pre w → exc e w) (id : String) :
    Does service workbook workspaceId exc pre (ExcelIngestionService.activeSnapshot id)
      fun snapshot w => pre w ∧ snapshot = activeOf w id := by
  unfold ExcelIngestionService.activeSnapshot
  split
  · next hid =>
    refine Does.pure fun w hw => ⟨hw, ?_⟩
    rw [activeOf, if_neg (fun h => h.1 hid)]
  · next hid =>
    refine Does.bind (Does.attempt (isReady_does id)) fun r => ?_
    rcases r with e | ready
    · rcases e with ⟨code, message⟩ | f
      · refine Does.throw fun w hw => ?_
        obtain ⟨hpre, g, hg, -⟩ := hw.2 _ rfl
        exact hexc _ w hpre
      · dsimp only
        split
        · next hkey =>
          refine Does.pure fun w hw => ?_
          obtain ⟨hpre, g, hg, hnone⟩ := hw.2 _ rfl
          cases hg
          refine ⟨hpre, ?_⟩
          rw [activeOf, if_neg]
          rintro ⟨-, hs⟩
          rw [hnone hkey] at hs
          cases hs
        · exact Does.throw fun w hw => hexc _ w (hw.2 _ rfl).1
    · dsimp only
      split
      · next hready =>
        have hread : Does service workbook workspaceId exc
            (fun w => pre w ∧ (w.at id).catalog.status = some .ready)
            (readCall fun w => .ok (w.at id).catalog.getActiveSnapshot)
            fun a w => (pre w ∧ (w.at id).catalog.status = some .ready) ∧
              (.ok (w.at id).catalog.getActiveSnapshot : Except Scan.Failure _) = .ok a := by
          refine Does.readCall (fun e w hw => hexc _ w hw.1) ?_
          intro _ _ _ he
          cases he
        refine hread.conseq ?_ ?_ fun _ _ h => h
        · intro w hw
          obtain ⟨hpre, hr⟩ := hw.1 _ rfl
          exact ⟨hpre, of_decide_eq_true (hr ▸ hready)⟩
        · rintro a w ⟨⟨hpre, hs⟩, ha⟩
          refine ⟨hpre, ?_⟩
          rw [activeOf, if_pos ⟨hid, hs⟩]
          exact (Except.ok.inj ha).symm
      · next hready =>
        refine Does.pure fun w hw => ?_
        obtain ⟨hpre, hr⟩ := hw.1 _ rfl
        refine ⟨hpre, ?_⟩
        rw [activeOf, if_neg]
        rintro ⟨-, hs⟩
        exact hready (hr.trans (decide_eq_true hs))

theorem verifyPublication_does (hexc : ∀ e w, pre w → exc e w) (id : String) (version : Nat) :
    Does service workbook workspaceId exc pre (ExcelIngestionService.verifyPublication id version)
      fun _ w => pre w ∧ (w.at id).graph.map (·.scanVersion) = some version := by
  refine Does.bind (Does.ask .graphReader) fun reader => ?_
  cases reader with
  | missing => exact Does.throw (hexc _)
  | unavailable message => exact Does.throw (hexc _)
  | fails e => exact Does.throw (hexc _)
  | reads =>
    refine Does.bind (Does.readCall (fun e => hexc _) fun e w hw _ => hexc _ w hw) fun published => ?_
    split
    · next hp =>
      refine Does.pure fun w hw => ⟨hw.1, ?_⟩
      rw [Except.ok.inj hw.2, hp]
    · exact Does.throw fun w hw => hexc _ w hw.1

end Reading

/-! ## Reusing a finished import -/

/-- A returned result stands for all that a finished import leaves. -/
def Honest (service : ExcelIngestionService) (workbook : Workbook) (workspaceId : String)
    (result : ExcelImportResult) (w : World) : Prop :=
  result.status = .ready ∧ IsReady w ∧
    Complete service workbook workspaceId w result.datasourceId result.snapshotId result.scanVersion

theorem Linked.activeOf {w : World} {id snapshotId : String} {version : Nat}
    (h : Linked service workbook workspaceId w id snapshotId version) :
    ∃ snapshot, activeOf w id = some snapshot ∧ snapshot.version = version := by
  obtain ⟨snapshot, hs, -, hv, -⟩ := h.snapshot
  refine ⟨snapshot, ?_, hv⟩
  rw [Ingestion.activeOf, if_pos ⟨h.named, h.ready⟩, hs]

/-- The result of a truthful record. -/
theorem Truthful.honest {w : World} {m : ExcelManifest} (hm : w.manifest = some m)
    (hs : m.status = .ready) (h : Truthful service workbook request.workspaceId w m) :
    Honest service workbook request.workspaceId (service.result workbook request m) w := by
  obtain ⟨-, -, -, id, snapshotId, version, hid, hsnapshot, hversion, hcomplete⟩ := h
  refine ⟨hs, ⟨m, hm, hs⟩, ?_⟩
  simp only [ExcelIngestionService.result, hid, hsnapshot, hversion, Option.getD_some]
  exact hcomplete

theorem Truthful.reusable {w : World} {m : ExcelManifest} (hs : m.status = .ready)
    (h : Truthful service workbook request.workspaceId w m) :
    service.reusable workbook request m = true := by
  obtain ⟨hsha, hpolicy, hworkspace, id, snapshotId, version, hid, -⟩ := h
  simp [ExcelIngestionService.reusable, hs, hsha, hpolicy, hworkspace, hid]

/-- What is reused is a finished import; nothing is reused only when there is none. -/
theorem reusableImport_does :
    Does service workbook request.workspaceId (fun _ => Sound service workbook request.workspaceId)
      (Sound service workbook request.workspaceId) (service.reusableImport workbook request)
      fun existing w => Sound service workbook request.workspaceId w ∧
        match existing with
        | some result => Honest service workbook request.workspaceId result w
        | none => ¬IsReady w := by
  -- a record that cannot be reused is not ready
  have hnone : ∀ (m : ExcelManifest) (w : World), w.manifest = some m → m.status ≠ .ready →
      ¬IsReady w := by
    rintro m w hm hs ⟨m', hm', hs'⟩
    rw [hm] at hm'
    cases hm'
    exact hs hs'
  refine Does.bind readManifest_does fun m => ?_
  cases m with
  | none =>
    refine Does.pure fun w hw => ⟨hw.1, ?_⟩
    rintro ⟨m, hm, -⟩
    rw [hw.2] at hm
    cases hm
  | some m =>
    dsimp only
    split
    · next hreusable =>
      have hready : m.status = .ready := by
        simp only [ExcelIngestionService.reusable, decide_eq_true_eq] at hreusable
        exact hreusable.1
      refine Does.bind Does.read fun isFile => ?_
      split
      · refine Does.bind (activeSnapshot_does (fun _ w hw => hw.1.1) _) fun snapshot => ?_
        cases snapshot with
        | none =>
          refine Does.pure fun w hw => ⟨hw.1.1.1, ?_⟩
          obtain ⟨⟨⟨hsound, hm⟩, -⟩, hactive⟩ := hw
          obtain ⟨-, -, -, id, snapshotId, version, hid, -, -, hcomplete⟩ := hsound.truthful m hm hready
          obtain ⟨snapshot, hs, -⟩ := hcomplete.toLinked.activeOf
          rw [hid, Option.getD_some, hs] at hactive
          cases hactive
        | some snapshot =>
          dsimp only
          split
          · refine Does.bind (verifyPublication_does (fun _ w hw => hw.1.1.1) _ _) fun _ => ?_
            refine Does.pure fun w hw => ?_
            obtain ⟨⟨⟨⟨hsound, hm⟩, -⟩, -⟩, -⟩ := hw
            exact ⟨hsound, (hsound.truthful m hm hready).honest hm hready⟩
          · next hversion =>
            refine Does.pure fun w hw => ⟨hw.1.1.1, ?_⟩
            obtain ⟨⟨⟨hsound, hm⟩, -⟩, hactive⟩ := hw
            obtain ⟨-, -, -, id, snapshotId, version, hid, -, hv, hcomplete⟩ :=
              hsound.truthful m hm hready
            obtain ⟨snapshot', hs, hv'⟩ := hcomplete.toLinked.activeOf
            rw [hid, Option.getD_some, hs] at hactive
            cases hactive
            exact absurd (hv'.symm ▸ hv) hversion
      · next hfile =>
        refine Does.pure fun w hw => ⟨hw.1.1, ?_⟩
        obtain ⟨⟨hsound, hm⟩, hisFile⟩ := hw
        obtain ⟨-, -, -, id, snapshotId, version, -, -, -, hcomplete⟩ := hsound.truthful m hm hready
        exact absurd (hisFile ▸ hcomplete.artifact) hfile
    · next hreusable =>
      refine Does.pure fun w hw => ⟨hw.1, hnone m w hw.2 fun hs => ?_⟩
      exact hreusable ((hw.1.truthful m hw.2 hs).reusable hs)

/-! ## The artifact and the record of a failure -/

/-- Nothing is lost by forgetting that the artifact is there. -/
theorem Working.weaken {w : World} (h : Working service workbook workspaceId finished w) :
    Working service workbook workspaceId false w :=
  ⟨h.registry, h.unready, nofun⟩

/-- A step that keeps the identities of the datasources and writes no ready manifest. -/
theorem Working.change {finished' : Bool} {w w' : World}
    (h : Working service workbook workspaceId finished w)
    (hd : w'.datasources.map identity = w.datasources.map identity) (hr : ¬IsReady w')
    (ha : finished' = true → w'.sqlite.isSome) : Working service workbook workspaceId finished' w' :=
  ⟨h.registry.congr hd, hr, ha⟩

/-- What is known whenever an import at work raises. -/
def Raised (service : ExcelIngestionService) (workbook : Workbook) (workspaceId : String) :
    Failure → World → Prop :=
  fun _ => Working service workbook workspaceId false

theorem writeSource_does :
    Does service workbook workspaceId (Raised service workbook workspaceId)
      (Working service workbook workspaceId finished) (ExcelIngestionService.writeSource workbook)
      fun _ => Working service workbook workspaceId finished := by
  have hworking : ∀ w, Working service workbook workspaceId finished w →
      Working service workbook workspaceId finished
        (if w.source = some workbook.fileSha256 then w else { w with source := some workbook.fileSha256 }) := by
    intro w hw
    split
    · exact hw
    · exact hw.change rfl hw.unready hw.artifact
  refine Does.write (fun w => ?_) (fun w hm hw => ⟨hw.kept hm (hworking w hw), hworking w hw⟩)
    fun _ _ hw => hw.weaken
  split <;> rfl

/-- The artifact is the finished one, or is written now. -/
theorem materialize_does (plan : WorkbookPlan) :
    Does service workbook workspaceId (Raised service workbook workspaceId)
      (Working service workbook workspaceId false) (ExcelIngestionService.materialize plan)
      fun _ => Working service workbook workspaceId true := by
  unfold ExcelIngestionService.materialize
  have hread : Does service workbook workspaceId (Raised service workbook workspaceId)
      (Working service workbook workspaceId false) (ExcelIngestionService.isFinalized plan.tableNames)
      fun isFinalized w => Working service workbook workspaceId false w ∧
        (isFinalized = true → w.sqlite.isSome) := by
    refine Does.bind (Does.ask .integrity) fun intact => ?_
    refine Does.read.conseq (fun _ hw => hw) ?_ fun _ _ hw => hw
    rintro isFinalized w ⟨hw, rfl⟩
    refine ⟨hw, fun hfinal => ?_⟩
    exact Option.isSome_of_any (Bool.and_eq_true_iff.mp hfinal).2
  refine Does.bind hread fun isFinalized => ?_
  split
  · next hfinal =>
    exact Does.pure fun w hw => hw.1.change rfl hw.1.unready fun _ => hw.2 hfinal
  · refine Does.bind ((Does.ask .materialize).conseq (fun w hw => hw.1) (fun _ _ hw => hw) fun _ _ hw => hw)
      fun written => ?_
    refine Does.bind (Does.ofExcept (fun _ _ _ hw => hw) fun _ _ hw => hw) fun _ => ?_
    refine Does.atomic ?_ ?_ (fun _ _ _ he => nomatch he)
    · rintro w _ _ ⟨⟩ hm
      exact hm
    · rintro w _ _ hm hw ⟨⟩
      have hw' : Working service workbook workspaceId true { w with sqlite := some plan.tableNames } :=
        hw.change rfl hw.unready fun _ => rfl
      exact ⟨hw.kept hm hw', hw'⟩

/-- A failed record is not a ready one. -/
theorem recordFailure_does (createdAt : Scan.Instant) (plan : Option WorkbookPlan)
    (chain : Option ExcelIngestionService.Chain) (code : ExcelErrorCode) :
    Does service workbook workspaceId (Raised service workbook workspaceId)
      (Working service workbook workspaceId false)
      (service.recordFailure workbook request filename createdAt plan chain code)
      fun _ => Working service workbook workspaceId false := by
  refine Does.bind Does.read fun written => ?_
  refine Does.bind (Does.ask .fault) fun fault => ?_
  cases fault with
  | some e => exact Does.pure fun w hw => hw.1
  | none =>
    refine Does.atomic ?_ ?_ (fun _ _ _ he => nomatch he)
    · rintro w _ _ ⟨⟩ hm
      exact hm
    · rintro w _ _ hm ⟨hw, -⟩ ⟨⟩
      have hfailed : ∀ m : ExcelManifest, m.status = .failed →
          Working service workbook workspaceId false { w with manifest := some m } := by
        intro m hfailed
        refine hw.change rfl ?_ nofun
        rintro ⟨m', hm', hs⟩
        cases hm'
        rw [hfailed] at hs
        cases hs
      exact ⟨hw.kept hm (hfailed _ rfl), hfailed _ rfl⟩

theorem recording_does {α : Type} {p : Prog α} {pre : World → Prop} {post : α → World → Prop}
    (createdAt : Scan.Instant) (plan : Option WorkbookPlan) (chain : Option ExcelIngestionService.Chain)
    (h : Does service workbook workspaceId (Raised service workbook workspaceId) pre p post) :
    Does service workbook workspaceId (Raised service workbook workspaceId) pre
      (service.recording workbook request filename createdAt plan chain p) post := by
  refine Does.bind (Does.attempt h) fun r => ?_
  rcases r with e | a
  · rcases e with ⟨code, message⟩ | e
    · refine Does.bind ((recordFailure_does createdAt plan chain code).conseq ?_ (fun _ _ hw => hw)
        fun _ _ hw => hw) fun _ => Does.throw fun _ hw => hw
      exact fun w hw => hw.2 _ rfl
    · exact Does.throw fun w hw => hw.2 _ rfl
  · exact Does.pure fun w hw => hw.1 a rfl

/-! ## The datasource of the key -/

section Chain

variable {exc : Failure → World → Prop} {pre : World → Prop}

/-- The stored profile of a datasource that is on file. -/
theorem getConnectionProfile_identity {d : Scan.World} {profile : Option Scan.ConnectionProfile}
    (h : d.catalog.getConnectionProfile.map (·.2) = .ok profile) :
    ∃ row, identity d = some row ∧ row.2.2.profile = profile := by
  obtain ⟨⟨c, p⟩, hp, rfl⟩ := Infra.map_ok h
  unfold Scan.Catalog.getConnectionProfile at hp
  split at hp
  · cases hp
  · next row hrow =>
    cases hp
    exact ⟨(row.id, row.workspaceId, row.connection), by rw [identity, hrow]; rfl, rfl⟩

/-- The datasource with this identifier points at the file. -/
def Points (service : ExcelIngestionService) (target id : String) (w : World) : Prop :=
  ∃ row, identity (w.at id) = some row ∧ service.pointsAt target row.2.2.profile = true

/-- The first of the listed datasources that points at the file, or none of them does. -/
theorem findDatasource_does (hexc : ∀ e w, pre w → exc e w) (target : String)
    (datasources : List Scan.Datasource) :
    Does service workbook workspaceId exc pre (service.findDatasource target datasources)
      fun found w => pre w ∧ match found with
        | none => ∀ d ∈ datasources, d.driver = some "sqlite" → ¬Points service target d.id w
        | some id => ∃ d ∈ datasources, d.id = id ∧ d.driver = some "sqlite" ∧ Points service target id w := by
  induction datasources generalizing pre with
  | nil => exact Does.pure fun w hw => ⟨hw, fun d hd => absurd hd List.not_mem_nil⟩
  | cons datasource datasources ih =>
    unfold ExcelIngestionService.findDatasource
    split
    · next hdriver =>
      refine Does.bind (Does.readCall (fun e => hexc _) fun e w hw _ => hexc _ w hw) fun profile => ?_
      split
      · next hpoints =>
        refine Does.pure fun w hw => ⟨hw.1, datasource, List.mem_cons_self, rfl, hdriver, ?_⟩
        obtain ⟨row, hrow, rfl⟩ := getConnectionProfile_identity hw.2
        exact ⟨row, hrow, hpoints⟩
      · next hpoints =>
        refine (ih fun e w hw => hexc e w hw.1).conseq (fun _ hw => hw) ?_ fun _ _ hw => hw
        rintro found w ⟨⟨hpre, hread⟩, hfound⟩
        refine ⟨hpre, ?_⟩
        cases found with
        | none =>
          intro d hd hsqlite
          rcases List.mem_cons.mp hd with rfl | hd
          · rintro ⟨row, hrow, hp⟩
            obtain ⟨row', hrow', rfl⟩ := getConnectionProfile_identity hread
            rw [hrow] at hrow'
            cases hrow'
            exact hpoints hp
          · exact hfound d hd hsqlite
        | some id =>
          obtain ⟨d, hd, h⟩ := hfound
          exact ⟨d, List.mem_cons_of_mem _ hd, h⟩
    · next hdriver =>
      refine (ih hexc).conseq (fun _ hw => hw) ?_ fun _ _ hw => hw
      rintro found w ⟨hpre, hfound⟩
      refine ⟨hpre, ?_⟩
      cases found with
      | none =>
        intro d hd hsqlite
        rcases List.mem_cons.mp hd with rfl | hd
        · exact absurd hsqlite hdriver
        · exact hfound d hd hsqlite
      | some id =>
        obtain ⟨d, hd, h⟩ := hfound
        exact ⟨d, List.mem_cons_of_mem _ hd, h⟩

/-- The rows of a listing are those of the workspace. -/
theorem listed_iff {d : Scan.World} {datasource : Scan.Datasource} :
    ExcelIngestionService.listed workspaceId d = some datasource →
      ∃ row, identity d = some row ∧ row.1 = datasource.id ∧ row.2.1 = workspaceId ∧
        row.2.2.driver = datasource.driver := by
  intro h
  unfold ExcelIngestionService.listed Scan.Catalog.getDatasource at h
  cases hrow : d.catalog.datasource with
  | none => rw [hrow] at h; cases h
  | some row =>
    rw [hrow] at h
    dsimp only at h
    split at h
    · next hw =>
      cases h
      exact ⟨(row.id, row.workspaceId, row.connection), by rw [identity, hrow]; rfl, rfl, hw, rfl⟩
    · cases h

theorem Managed.listed {d : Scan.World} (h : Managed service workbook workspaceId d) :
    ∃ datasource, ExcelIngestionService.listed workspaceId d = some datasource ∧
      datasource.driver = some "sqlite" ∧ idOf d = some datasource.id := by
  obtain ⟨row, hrow, hworkspace, hdriver, -⟩ := h
  unfold identity at hrow
  obtain ⟨stored, hstored, rfl⟩ := Option.map_eq_some_iff.mp hrow
  refine ⟨⟨stored.id, stored.name, stored.kind, stored.workspaceId, stored.connection.driver, stored.status⟩,
    ?_, hdriver, by rw [idOf, hstored]; rfl⟩
  unfold ExcelIngestionService.listed Scan.Catalog.getDatasource
  rw [hstored]
  exact if_pos hworkspace

/-- A listing that finds nothing tells that the key has no datasource; one that finds something tells
which it is. -/
theorem existingDatasourceId_does :
    Does service workbook request.workspaceId (Raised service workbook request.workspaceId)
      (Working service workbook request.workspaceId finished)
      (service.existingDatasourceId workbook request)
      fun found w => Working service workbook request.workspaceId finished w ∧ match found with
        | none => managedCount service workbook request.workspaceId w = 0
        | some id => Managed service workbook request.workspaceId (w.at id) := by
  refine Does.bind (Does.ask .fault) fun fault => ?_
  cases fault with
  | some e => exact Does.misread
  | none =>
    refine Does.bind Does.read fun datasources => ?_
    refine (findDatasource_does (fun _ w hw => hw.1.weaken) _ datasources).conseq (fun _ hw => hw) ?_
      fun _ _ hw => hw
    rintro found w ⟨⟨hw, rfl⟩, hfound⟩
    refine ⟨hw, ?_⟩
    cases found with
    | none =>
      refine List.countP_eq_zero.mpr fun d hd hmanaged => ?_
      rw [decide_eq_true_eq] at hmanaged
      obtain ⟨datasource, hlisted, hsqlite, hid⟩ := hmanaged.listed
      refine hfound datasource (List.mem_filterMap.mpr ⟨d, hd, hlisted⟩) hsqlite ?_
      obtain ⟨row, hrow, -, -, hpoints⟩ := hmanaged
      exact ⟨row, (at_of_mem hw.registry.ids hd hid).symm ▸ hrow, hpoints⟩
    | some id =>
      obtain ⟨datasource, hmem, rfl, hsqlite, row, hrow, hpoints⟩ := hfound
      obtain ⟨d, hd, hlisted⟩ := List.mem_filterMap.mp hmem
      obtain ⟨row', hrow', hid, hworkspace, hdriver⟩ := listed_iff hlisted
      have hat : w.at datasource.id = d :=
        at_of_mem hw.registry.ids hd (by rw [idOf_identity, hrow', Option.map_some, hid])
      rw [hat] at hrow
      show Managed service workbook request.workspaceId (w.at datasource.id)
      rw [hat]
      cases hrow.symm.trans hrow'
      exact ⟨row, hrow, hworkspace, hdriver.trans hsqlite, hpoints⟩

/-- The new row stands for the only datasource of the key. -/
theorem insertDatasource_does (id name : String) :
    Does service workbook request.workspaceId (Raised service workbook request.workspaceId)
      (fun w => Working service workbook request.workspaceId finished w ∧
        managedCount service workbook request.workspaceId w = 0)
      (storeCall (ExcelIngestionService.insertDatasource id name request.workspaceId
        (ExcelIngestionService.sqliteProfile (service.sqlitePath workbook request.workspaceId))))
      fun _ w => Working service workbook request.workspaceId finished w ∧
        Managed service workbook request.workspaceId (w.at id) := by
  have hinsert : ∀ w w' a, ExcelIngestionService.insertDatasource id name request.workspaceId
      (ExcelIngestionService.sqliteProfile (service.sqlitePath workbook request.workspaceId)) w
        = .ok (w', a) →
      (∀ d ∈ w.datasources, idOf d ≠ some id) ∧ ∃ d, w' = { w with datasources := w.datasources ++ [d] } ∧
        idOf d = some id ∧ Managed service workbook request.workspaceId d := by
    intro w w' a h
    unfold ExcelIngestionService.insertDatasource at h
    split at h
    · cases h
    · next hfree =>
      split at h
      · cases h
      · cases h
        refine ⟨fun d hd hid => hfree (List.any_eq_true.mpr ⟨d, hd, hasId_iff.mpr hid⟩), _, rfl, rfl, ?_⟩
        refine ⟨_, rfl, rfl, rfl, ?_⟩
        show service.pointsAt _ (some (ExcelIngestionService.sqliteProfile _)) = true
        have hpath : service.sqlitePath workbook request.workspaceId ≠ "" := by
          intro hempty
          have hlength := congrArg String.length hempty
          rw [ExcelIngestionService.sqlitePath, String.length_append] at hlength
          have htail : "/data.sqlite3".length = 13 := by decide
          rw [htail, String.length_empty] at hlength
          omega
        simp [ExcelIngestionService.pointsAt, ExcelIngestionService.endpointPath,
          ExcelIngestionService.sqliteProfile, Infra.Json.get?, List.lookup, hpath]
  refine Does.storeCall ?_ ?_ (fun _ _ hw => hw.1.weaken) fun _ _ hw _ => hw.1.weaken
  · intro w w' a h hm
    obtain ⟨-, d, rfl, -⟩ := hinsert w w' a h
    exact hm
  · rintro w w' a hm ⟨hw, hnone⟩ h
    obtain ⟨hfree, d, rfl, hid, hmanaged⟩ := hinsert w w' a h
    have hids : ((w.datasources ++ [d]).map idOf).Nodup := by
      rw [List.map_append, List.nodup_append]
      refine ⟨hw.registry.ids, by simp, fun i hi j hj => ?_⟩
      obtain ⟨x, hx, rfl⟩ := List.mem_map.mp hi
      rw [List.map_singleton, List.mem_singleton] at hj
      rw [hj, hid]
      exact hfree x hx
    have hw' : Working service workbook request.workspaceId finished
        { w with datasources := w.datasources ++ [d] } := by
      refine ⟨⟨hids, ?_⟩, hw.unready, hw.artifact⟩
      rw [managedCount, List.countP_append, show w.datasources.countP _ = 0 from hnone, Nat.zero_add]
      exact List.countP_le_length
    refine ⟨hw.kept hm hw', hw', ?_⟩
    rw [at_of_mem hids (List.mem_append_right _ List.mem_cons_self) hid]
    exact hmanaged

theorem createDatasource_does :
    Does service workbook request.workspaceId (Raised service workbook request.workspaceId)
      (fun w => Working service workbook request.workspaceId finished w ∧
        managedCount service workbook request.workspaceId w = 0)
      (service.createDatasource workbook request filename)
      fun id w => Working service workbook request.workspaceId finished w ∧
        Managed service workbook request.workspaceId (w.at id) := by
  have hcreate : ∀ name, Does service workbook request.workspaceId (Raised service workbook request.workspaceId)
      (fun w => Working service workbook request.workspaceId finished w ∧
        managedCount service workbook request.workspaceId w = 0)
      (ExcelIngestionService.createSecureDatasource name request.workspaceId
        (ExcelIngestionService.sqliteProfile (service.sqlitePath workbook request.workspaceId)))
      fun id w => Working service workbook request.workspaceId finished w ∧
        Managed service workbook request.workspaceId (w.at id) := by
    intro name
    refine Does.bind (Does.ask _) fun tested => ?_
    refine Does.bind (Does.ofExcept (fun _ _ _ hw => hw) fun _ _ hw => hw.1.weaken) fun _ => ?_
    refine Does.bind (Does.ask .uuid) fun uuid => ?_
    exact Does.bind (insertDatasource_does _ _) fun _ => Does.pure fun _ hw => hw
  refine Does.bind (Does.attempt (hcreate _)) fun r => ?_
  rcases r with e | id
  · rcases e with ⟨code, message⟩ | e
    · exact Does.throw fun w hw => hw.2 _ rfl
    · exact Does.throw fun w hw => hw.2 (.other e) rfl
  · exact Does.pure fun w hw => hw.1 id rfl

/-- A scan keeps what the key is about: it changes the rows of its datasource, and not its identity. -/
theorem initializeDatasource_does (id : String) :
    Does service workbook workspaceId (Raised service workbook workspaceId)
      (fun w => Working service workbook workspaceId finished w ∧
        Managed service workbook workspaceId (w.at id))
      (service.initializeDatasource id)
      fun _ w => Working service workbook workspaceId finished w ∧
        Managed service workbook workspaceId (w.at id) := by
  intro w hw
  have hwithin : Program.Within
      (fun w w' => ∃ d, identity d = identity (World.at w id) ∧ w' = World.put id w d)
      (service.initializeDatasource id) :=
    (initialize_identity service.generateDocuments id {}).embed
  refine Program.wp_mono (fun _ _ h => h) (fun _ _ h hm => (h hm).1.weaken)
    (hwithin.keeps_where (fun _ _ => trivial) ?_ ?_ hw)
  · rintro w _ rfl h
    exact h
  · rintro w _ ⟨d, hd, rfl⟩ h
    have hnext : w.misread = false → Working service workbook workspaceId finished (w.put id d) ∧
        Managed service workbook workspaceId ((w.put id d).at id) := by
      intro hm
      obtain ⟨hworking, hmanaged⟩ := h hm
      refine ⟨hworking.change (put_identities hd) hworking.unready hworking.artifact, ?_⟩
      exact (Managed.congr service workbook workspaceId (put_at_identity hd)).mpr hmanaged
    exact ⟨fun hm => (h hm).1.kept hm (hnext hm).1, hnext⟩

/-- The datasource of the key has been chosen, old or new. -/
theorem chooseDatasource_does (retry : Bool) :
    Does service workbook request.workspaceId (Raised service workbook request.workspaceId)
      (Working service workbook request.workspaceId finished)
      (service.chooseDatasource workbook request filename retry)
      fun chosen w => Working service workbook request.workspaceId finished w ∧
        Managed service workbook request.workspaceId (w.at chosen.1) := by
  refine Does.bind existingDatasourceId_does fun found => ?_
  cases found with
  | none => exact Does.bind createDatasource_does fun id => Does.pure fun _ hw => hw
  | some id =>
    dsimp only
    split
    · exact Does.pure fun _ hw => hw
    · exact Does.bind (activeSnapshot_does (fun _ _ hw => hw.1.weaken) id) fun _ =>
        Does.pure fun _ hw => hw.1

theorem initializeOrFail_does (id : String) :
    Does service workbook workspaceId (Raised service workbook workspaceId)
      (fun w => Working service workbook workspaceId finished w ∧
        Managed service workbook workspaceId (w.at id))
      (service.initializeOrFail id)
      fun _ w => Working service workbook workspaceId finished w ∧
        Managed service workbook workspaceId (w.at id) := by
  refine Does.bind (initializeDatasource_does id) fun job => ?_
  split
  · exact Does.throw fun _ hw => hw.1.weaken
  · exact Does.pure fun _ hw => hw

/-- What the import goes on with: a ready datasource of the key with its active snapshot. -/
theorem ensureScan_does (retry : Bool) :
    Does service workbook request.workspaceId (Raised service workbook request.workspaceId)
      (Working service workbook request.workspaceId finished)
      (service.ensureScan workbook request filename retry)
      fun chain w => Working service workbook request.workspaceId finished w ∧
        Linked service workbook request.workspaceId w chain.datasourceId chain.snapshotId
          chain.scanVersion := by
  refine Does.bind (chooseDatasource_does retry) fun chosen => ?_
  obtain ⟨id, shouldInitialize⟩ := chosen
  dsimp only
  split
  on_goal 1 => refine Does.bind (initializeOrFail_does id) fun _ => ?_
  all_goals
    refine Does.bind (activeSnapshot_does (fun _ _ hw => hw.1.weaken) id) fun snapshot => ?_
    cases snapshot with
    | none => exact Does.throw fun _ hw => hw.1.1.weaken
    | some snapshot =>
      dsimp only
      split
      · exact Does.throw fun _ hw => hw.1.1.weaken
      · next hstatus =>
        refine Does.bind ((isReady_does id).conseq (fun _ hw => hw) (fun _ _ hw => hw)
          fun _ _ hw => hw.1.1.1.weaken) fun ready => ?_
        split
        · next hready =>
          refine Does.pure fun w hw => ?_
          obtain ⟨⟨⟨hw, hmanaged⟩, hactive⟩, hr⟩ := hw
          unfold activeOf at hactive
          split at hactive
          · next hknown =>
            refine ⟨hw, hknown.1, hmanaged, of_decide_eq_true (hr ▸ hready), snapshot, hactive.symm, rfl,
              rfl, Decidable.of_not_not hstatus⟩
          · cases hactive
        · exact Does.throw fun _ hw => hw.1.1.1.weaken


end Chain

/-! ## One import on its own -/

/-- The ready manifest is written when everything it stands for is there. -/
theorem Working.finish {w : World} {createdAt : Scan.Instant} {plan : Option WorkbookPlan}
    {sqlitePath : Option String} {chain : ExcelIngestionService.Chain}
    (hw : Working service workbook request.workspaceId true w)
    (hlinked : Linked service workbook request.workspaceId w chain.datasourceId chain.snapshotId
      chain.scanVersion)
    (hpublished : (w.at chain.datasourceId).graph.map (·.scanVersion) = some chain.scanVersion) :
    let ready := service.manifest workbook request filename .ready createdAt plan sqlitePath (some chain) none
    Sound service workbook request.workspaceId { w with manifest := some ready } ∧
      Honest service workbook request.workspaceId (service.result workbook request ready)
        { w with manifest := some ready } := by
  intro ready
  have hcomplete : Complete service workbook request.workspaceId { w with manifest := some ready }
      chain.datasourceId chain.snapshotId chain.scanVersion :=
    ⟨⟨hlinked.named, hlinked.managed, hlinked.ready, hlinked.snapshot⟩, hw.artifact rfl, hpublished⟩
  have htruthful : Truthful service workbook request.workspaceId { w with manifest := some ready } ready :=
    ⟨rfl, rfl, rfl, _, _, _, rfl, rfl, rfl, hcomplete⟩
  refine ⟨⟨Registry.congr (show _ = w.datasources.map identity from rfl) hw.registry, fun m hm _ => ?_⟩,
    htruthful.honest rfl rfl⟩
  cases hm
  exact htruthful

/-- An import from scratch ends with a ready manifest that tells the truth. -/
theorem importFresh_does :
    Does service workbook request.workspaceId (Raised service workbook request.workspaceId)
      (Working service workbook request.workspaceId false)
      (service.importFresh workbook request filename)
      fun result w => Sound service workbook request.workspaceId w ∧
        Honest service workbook request.workspaceId result w := by
  refine Does.bind (Does.ofExcept (fun _ _ _ hw => hw) fun _ _ hw => hw) fun _ => ?_
  refine Does.bind (readManifest_does.conseq (fun _ hw => hw) (fun _ _ hw => hw.1) fun _ _ hw => hw)
    fun previous => ?_
  refine Does.bind (Does.ask .clock) fun now => ?_
  have hprepare : Does service workbook request.workspaceId (Raised service workbook request.workspaceId)
      (Working service workbook request.workspaceId false) (write fun w => w)
      fun _ => Working service workbook request.workspaceId false :=
    Does.write (fun _ => rfl) (fun _ hm hw => ⟨Kept.refl hm, hw⟩) fun _ _ hw => hw
  refine Does.bind hprepare fun _ => ?_
  refine Does.bind writeSource_does fun _ => ?_
  refine Does.bind (recording_does _ _ _ (Does.ofExcept (fun _ _ _ hw => hw) fun _ _ hw => hw))
    fun plan => ?_
  refine Does.bind (recording_does _ _ _ (materialize_does plan)) fun _ => ?_
  refine Does.bind (recording_does _ _ _ (ensureScan_does _)) fun chain => ?_
  refine Does.bind (recording_does _ _ _ (verifyPublication_does (fun _ _ hw => hw.1.weaken) _ _))
    fun _ => ?_
  refine Does.bind (Does.write (fun _ => rfl) (fun w hm hw => ?_) fun _ _ hw => hw.1.1.weaken) fun _ =>
    Does.pure fun _ hw => hw
  obtain ⟨⟨hw, hlinked⟩, hpublished⟩ := hw
  refine ⟨⟨hm, fun _ => ?_, fun hr => absurd hr hw.unready⟩, ?_⟩
  · exact (hw.finish hlinked hpublished).1
  · exact hw.finish hlinked hpublished

/-- One import on its own: it keeps what holds between steps, and its result is honest. -/
theorem importExcel_does :
    Does service workbook request.workspaceId (fun _ => Sound service workbook request.workspaceId)
      (Sound service workbook request.workspaceId) (service.importExcel workbook request filename)
      fun result w => Sound service workbook request.workspaceId w ∧
        Honest service workbook request.workspaceId result w := by
  refine Does.bind (Does.ask .fault) fun fault => ?_
  cases fault with
  | some e => exact Does.throw fun _ hw => hw
  | none =>
    refine Does.bind reusableImport_does fun existing => ?_
    cases existing with
    | some result => exact Does.pure fun _ hw => hw
    | none =>
      exact importFresh_does.conseq (fun _ hw => ⟨hw.1.registry, hw.2, nofun⟩) (fun _ _ hw => hw)
        fun _ _ hw => hw.sound

end Ingestion
