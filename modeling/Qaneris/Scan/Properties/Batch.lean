import Qaneris.Scan.Batch

/-!
# What a batch scan keeps

A member that fails is reported and the batch goes on, unless listing the datasources raises while the
failure is handled. The handler looks the datasource of a failed member up by its name; where the
member's own was never stored, one of that name that it finds is another's.
-/

namespace Scan

open Infra

namespace MultiDatabaseScanRunner

variable {t : ReportTexts} {index : Nat} {request : ScanRequest} {answers : Answers}
  {rows rows' : List CreatedRow} {m : ScanRunMember} {datasourceId : Option String}

/-! ## What is promised -/

/-- The graph that was read has one node of the datasource, in the revision of the snapshot, and as much
as was scanned. -/
structure GraphMatches (snapshot : ScanSnapshot) (found : Found) (graph : Graph.GraphStructure) :
    Prop where
  node : ∃ node, SnapshotGraphValidator.nodes snapshot graph = [node] ∧
    node.scanVersion = some (snapshot.version : Int)
  objects : graph.dataObjects.length = found.datasets.length
  fields : graph.fields.length = (found.datasets.map fun item => item.fields.length).sum
  relationships : graph.relationships.length = found.relations.length
  complete : graph.truncated = false

/-- The datasource was saved for this member and was ready, and the graph matched its active snapshot. -/
def Verified (answers : Answers) (m : ScanRunMember) : Prop :=
  (∃ id, answers.creating = .stored id none ∧ m.datasourceId = some id) ∧
    answers.status = .ok .ready ∧ ∃ found, find answers = .ok found ∧
    answers.snapshot = .ok (some found.snapshot) ∧ m.snapshotId = some found.snapshot.id ∧
    found.snapshot.active = true ∧ found.snapshot.status = .ready ∧
    found.snapshot.documentStatus = .ready ∧
    ∃ workspaceId graph, answers.workspace = .ok workspaceId ∧
      answers.structure_ (SnapshotGraphValidator.request workspaceId
        (SnapshotGraphValidator.expected found.snapshot found.datasets found.relations)
        found.snapshot) = .ok graph ∧
      GraphMatches found.snapshot found graph

/-- The member is that of the request. -/
def Identified (request : ScanRequest) (m : ScanRunMember) : Prop :=
  m.name = request.name ∧ m.driver = request.driver ∧ m.kind = request.kind ∧
    m.workspaceId = request.workspaceId

/-- The datasource was created by the request of this place in the batch. -/
def Owned (rows : List CreatedRow) (index : Nat) (id : String) : Prop :=
  ∃ row ∈ rows, row.id = id ∧ row.owner = some index

/-- **A batch scan keeps every member.** -/
structure KeepsEvery (items : List (ScanRequest × Answers)) (rows : List CreatedRow)
    (report : ScanRunReport) : Prop where
  completed : report.run.completedAt.isSome ∧
    (report.run.status = .passed ∨ report.run.status = .failed)
  members : List.Forall₂ (fun item m => Identified item.1 m) items report.datasources
  statuses : ∀ m ∈ report.datasources, m.status = .passed ∨ m.status = .failed
  counts : report.summary = summary report.datasources items.length
  passed : report.run.status = .passed ↔ ∀ m ∈ report.datasources, m.status = .passed
  verified : List.Forall₂ (fun item m => m.status = .passed → Verified item.2 m) items
    report.datasources
  attributed : ∀ index m, report.datasources[index]? = some m → ∀ id ∈ m.datasourceId,
    Owned rows index id

/-! ## When it does -/

/-- The datasource of the request is stored. -/
def Stores (creating : Creating) (rows : List CreatedRow) : Prop :=
  ∃ id e, creating = .stored id e ∧ ∀ row ∈ rows, row.id ≠ id

/-- A call after the datasource was saved raises, or it does not find what it should. -/
def FindFails (answers : Answers) : Prop :=
  (∃ e, answers.scanned = .error e) ∨ answers.status ≠ .ok .ready ∨
    (∃ e, answers.snapshot = .error e) ∨ answers.snapshot = .ok none ∨
    (∃ e, answers.datasets = .error e) ∨ ∃ e, answers.relations = .error e

/-- A call of the scan of this member raises. -/
def Fails (answers : Answers) (rows : List CreatedRow) : Prop :=
  ¬ Stores answers.creating rows ∨ (∃ id e, answers.creating = .stored id (some e)) ∨
    FindFails answers

/-- Where the scan of a tested member fails, listing the datasources does not raise, and its own
datasource is stored or not just one of its name is there. -/
def Traceable (request : ScanRequest) (answers : Answers) (rows : List CreatedRow) : Prop :=
  answers.connection = .ok () → Fails answers rows →
    answers.listing = .ok () ∧
      (Stores answers.creating rows ∨ (named request rows).length ≠ 1)

/-- The rows after a member. -/
def rowsAfter (index : Nat) (request : ScanRequest) (answers : Answers) (rows : List CreatedRow) :
    List CreatedRow :=
  if answers.connection = .ok () then (create index request answers.creating rows).1 else rows

/-- So it is with every member, in the catalog that it finds. -/
def AllTraceable : Nat → List (ScanRequest × Answers) → List CreatedRow → Prop
  | _, [], _ => True
  | index, (request, answers) :: items, rows =>
    Traceable request answers rows ∧ AllTraceable (index + 1) items (rowsAfter index request answers rows)

/-! ## One member -/

/-- The member of the request of this place, and the rows after it. -/
def memberOf (t : ReportTexts) (index : Nat) (request : ScanRequest) (answers : Answers)
    (rows : List CreatedRow) : List CreatedRow × Except Failure ScanRunMember :=
  if (testConnection t request answers).status ≠ .passed then
    (rows, .ok (blockedMember request (testConnection t request answers)
      (testConnection t request answers).error))
  else scanOne t index request answers rows

theorem testConnection_passed : (testConnection t request answers).status = .passed ↔
    answers.connection = .ok () := by
  unfold testConnection
  cases answers.connection with
  | ok a => simp
  | error e => simp

/-- What saving a datasource does. -/
theorem create_cases (index : Nat) (request : ScanRequest) (creating : Creating)
    (rows : List CreatedRow) :
    (¬ Stores creating rows ∧ ∃ e, create index request creating rows = (rows, .error e)) ∨
    ∃ id e, creating = .stored id e ∧ (∀ row ∈ rows, row.id ≠ id) ∧
      create index request creating rows =
        (rows ++ [⟨id, request.name, request.workspaceId, some index⟩], e.elim (.ok id) .error) := by
  cases creating with
  | refused e =>
    refine .inl ⟨?_, e, rfl⟩
    rintro ⟨id, e', heq, -⟩
    cases heq
  | stored id e =>
    by_cases hexists : ∃ row ∈ rows, row.id = id
    · refine .inl ⟨?_, _, if_pos hexists⟩
      rintro ⟨id', e', heq, hfresh⟩
      obtain ⟨rfl, rfl⟩ := Creating.stored.inj heq
      obtain ⟨row, hrow, hid⟩ := hexists
      exact hfresh row hrow hid
    · refine .inr ⟨id, e, rfl, fun row hrow hid => hexists ⟨row, hrow, hid⟩, ?_⟩
      cases e with
      | none => exact if_neg hexists
      | some e => exact if_neg hexists

theorem find_ok_iff : (∃ found, find answers = .ok found) ↔ ¬ FindFails answers := by
  unfold find FindFails
  cases hscanned : answers.scanned with
  | error e => simp [bind, Except.bind]
  | ok a =>
    cases hstatus : answers.status with
    | error e => simp [bind, Except.bind]
    | ok status =>
      cases status with
      | created => simp [bind, Except.bind]
      | ready =>
        cases hsnapshot : answers.snapshot with
        | error e => simp [bind, Except.bind]
        | ok snapshot =>
          cases snapshot with
          | none => simp [bind, Except.bind]
          | some snapshot =>
            cases hdatasets : answers.datasets with
            | error e => simp [bind, Except.bind]
            | ok datasets =>
              cases hrelations : answers.relations with
              | error e => simp [bind, Except.bind]
              | ok relations => simp [bind, Except.bind, pure, Except.pure]

theorem find_found {found : Found} (h : find answers = .ok found) : answers.status = .ok .ready ∧
    answers.snapshot = .ok (some found.snapshot) := by
  unfold find at h
  obtain ⟨_, -, h⟩ := bind_ok h
  obtain ⟨status, hstatus, h⟩ := bind_ok h
  split at h
  · cases h
  · next hready =>
    obtain ⟨snapshot, hsnapshot, h⟩ := bind_ok h
    split at h
    · cases h
    · obtain ⟨datasets, -, h⟩ := bind_ok h
      obtain ⟨relations, -, h⟩ := bind_ok h
      obtain rfl := Except.ok.inj h
      rw [not_not.mp hready] at hstatus
      exact ⟨hstatus, hsnapshot⟩

/-- The datasource that the handler attributes to a failed member. -/
def attributed (request : ScanRequest) (rows : List CreatedRow) (datasourceId : Option String) :
    Option String :=
  match named request rows with
  | [row] => some row.id
  | _ => datasourceId

/-- A failed member is reported exactly when listing does not raise. -/
theorem failedMember_ok {e : Failure} :
    failedMember t request answers rows datasourceId e = .ok m ↔
      answers.listing = .ok () ∧ m = { freshMember request with
        datasourceId := attributed request rows datasourceId
        error := some (t.safeError e) } := by
  unfold failedMember
  cases answers.listing with
  | error e' => simp [bind, Except.bind]
  | ok a =>
    constructor
    · intro h
      exact ⟨rfl, (Except.ok.inj h).symm⟩
    · rintro ⟨-, rfl⟩
      rfl

/-- Where the member's own datasource is listed, a sole one of its name is that one. -/
theorem attributed_own {row : CreatedRow} {id : String} (hmem : row ∈ rows)
    (hname : row.name = request.name) (hworkspace : row.workspaceId = request.workspaceId)
    (h : id ∈ attributed request rows datasourceId) : id = row.id ∨ datasourceId = some id := by
  have hnamed : row ∈ named request rows :=
    List.mem_filter.mpr ⟨hmem, decide_eq_true ⟨hworkspace, hname⟩⟩
  unfold attributed at h
  split at h
  · next other hother =>
    rw [hother, List.mem_singleton] at hnamed
    rw [hnamed]
    exact .inl (Option.some.inj h).symm
  · exact .inr h

/-- Where nothing is known of the member, another's datasource is taken for its own exactly when one of
its name is there. -/
theorem attributed_none : (∃ id, id ∈ attributed request rows none) ↔
    (named request rows).length = 1 := by
  unfold attributed
  split
  · next row hrow => simp [hrow]
  · next hnot =>
    constructor
    · rintro ⟨id, hid⟩
      cases hid
    · intro hlength
      obtain ⟨row, hrow⟩ := List.length_eq_one_iff.mp hlength
      exact absurd hrow (hnot row)

theorem mem_named_of_attributed {id : String} (h : id ∈ attributed request rows none) :
    ∃ row ∈ rows, row.id = id := by
  unfold attributed at h
  split at h
  · next row hrow =>
    have hmem : row ∈ named request rows := by rw [hrow]; exact List.mem_singleton.mpr rfl
    exact ⟨row, (List.mem_filter.mp hmem).1, Option.some.inj h⟩
  · cases h

theorem memberOf_of_untested (h : answers.connection ≠ .ok ()) :
    memberOf t index request answers rows = (rows, .ok (blockedMember request
      (testConnection t request answers) (testConnection t request answers).error)) :=
  if_pos fun hpassed => h (testConnection_passed.mp hpassed)

theorem memberOf_of_tested (h : answers.connection = .ok ()) :
    memberOf t index request answers rows = scanOne t index request answers rows :=
  if_neg (not_not.mpr (testConnection_passed.mpr h))

theorem memberOf_rows :
    (memberOf t index request answers rows).1 = rowsAfter index request answers rows := by
  unfold rowsAfter
  by_cases htested : answers.connection = .ok ()
  · rw [memberOf_of_tested htested, if_pos htested]
    rfl
  · rw [memberOf_of_untested htested, if_neg htested]

/-- A member adds at most its own datasource. -/
theorem rowsAfter_cases (index : Nat) (request : ScanRequest) (answers : Answers)
    (rows : List CreatedRow) : rowsAfter index request answers rows = rows ∨
      ∃ row, row.owner = some index ∧ rowsAfter index request answers rows = rows ++ [row] := by
  unfold rowsAfter
  split
  · obtain ⟨-, e, hcreate⟩ | ⟨id, e, -, -, hcreate⟩ :=
      create_cases index request answers.creating rows
    · exact .inl (by rw [hcreate])
    · exact .inr ⟨_, rfl, by rw [hcreate]⟩
  · exact .inl rfl

theorem scanOne_of_unstored (t : ReportTexts) (index : Nat) (request : ScanRequest)
    (h : ¬ Stores answers.creating rows) :
    ∃ e, scanOne t index request answers rows =
      (rows, failedMember t request answers rows none e) := by
  obtain ⟨-, e, hcreate⟩ | ⟨id, e, hcreating, hfresh, -⟩ :=
    create_cases index request answers.creating rows
  · refine ⟨e, ?_⟩
    unfold scanOne
    rw [hcreate]
  · exact absurd ⟨id, e, hcreating, hfresh⟩ h

/-- A member whose datasource is stored fails, or it is saved and scanned. -/
theorem scanOne_of_stored (t : ReportTexts) (index : Nat) (request : ScanRequest) {id : String}
    {e : Option Failure} (hcreating : answers.creating = .stored id e) (hfresh : ∀ row ∈ rows, row.id ≠ id) :
    (Fails answers rows ∧ ∃ datasourceId e', (datasourceId = none ∨ datasourceId = some id) ∧
      scanOne t index request answers rows =
        (rows ++ [⟨id, request.name, request.workspaceId, some index⟩],
          failedMember t request answers
            (rows ++ [⟨id, request.name, request.workspaceId, some index⟩]) datasourceId e')) ∨
    ¬ Fails answers rows ∧ e = none ∧ ∃ found, find answers = .ok found ∧
      scanOne t index request answers rows =
        (rows ++ [⟨id, request.name, request.workspaceId, some index⟩],
          .ok (scannedMember t request answers id found)) := by
  have hstores : Stores answers.creating rows := ⟨id, e, hcreating, hfresh⟩
  obtain ⟨hunstored, -⟩ | ⟨id', e', hcreating', -, hcreate⟩ :=
    create_cases index request answers.creating rows
  · exact absurd hstores hunstored
  obtain ⟨rfl, rfl⟩ := Creating.stored.inj (hcreating.symm.trans hcreating')
  unfold scanOne
  rw [hcreate]
  cases e with
  | some e => exact .inl ⟨.inr (.inl ⟨id, e, hcreating⟩), none, e, .inl rfl, rfl⟩
  | none =>
    by_cases hfind : FindFails answers
    · cases hfound : find answers with
      | error e' => exact .inl ⟨.inr (.inr hfind), some id, e', .inr rfl, rfl⟩
      | ok found => exact absurd hfind (find_ok_iff.mp ⟨found, hfound⟩)
    · obtain ⟨found, hfound⟩ := find_ok_iff.mpr hfind
      refine .inr ⟨?_, rfl, found, hfound, by simp only [Option.elim_none, hfound]⟩
      rintro (hunstored | ⟨id', e', hraises⟩ | hfails)
      · exact hunstored hstores
      · rw [hcreating] at hraises
        cases hraises
      · exact hfind hfails

/-- **A member is reported with its own datasource, or with none, exactly when it is traceable.** -/
theorem memberOf_owned_iff (howners : ∀ row ∈ rows, row.owner ≠ some index) :
    (∃ m, (memberOf t index request answers rows).2 = .ok m ∧
      ∀ id ∈ m.datasourceId, Owned (memberOf t index request answers rows).1 index id) ↔
      Traceable request answers rows := by
  by_cases htested : answers.connection = .ok ()
  · rw [memberOf_of_tested htested]
    by_cases hstores : Stores answers.creating rows
    · obtain ⟨id, e, hcreating, hfresh⟩ := id hstores
      set own : CreatedRow := ⟨id, request.name, request.workspaceId, some index⟩ with hown
      have hmem : own ∈ rows ++ [own] := List.mem_append_right _ (List.mem_singleton.mpr rfl)
      have howned : Owned (rows ++ [own]) index id := ⟨own, hmem, rfl, rfl⟩
      obtain ⟨hfails, datasourceId, e', hid, hscan⟩ | ⟨hfails, -, found, -, hscan⟩ :=
        scanOne_of_stored t index request hcreating hfresh
      · rw [hscan]
        constructor
        · rintro ⟨m, hm, -⟩ - -
          exact ⟨(failedMember_ok.mp hm).1, .inl hstores⟩
        · intro htraceable
          refine ⟨_, failedMember_ok.mpr ⟨(htraceable htested hfails).1, rfl⟩, fun id' hid' => ?_⟩
          obtain rfl | hsome := attributed_own hmem rfl rfl hid'
          · exact howned
          · rcases hid with rfl | rfl
            · cases hsome
            · obtain rfl := Option.some.inj hsome
              exact howned
      · rw [hscan]
        constructor
        · intro _ _ hfails'
          exact absurd hfails' hfails
        · intro _
          refine ⟨_, rfl, fun id' hid' => ?_⟩
          obtain rfl := Option.some.inj hid'
          exact howned
    · obtain ⟨e, hscan⟩ := scanOne_of_unstored t index request hstores
      rw [hscan]
      constructor
      · rintro ⟨m, hm, howned⟩ - -
        obtain ⟨hlisting, rfl⟩ := failedMember_ok.mp hm
        refine ⟨hlisting, .inr fun hlength => ?_⟩
        obtain ⟨id, hid⟩ := attributed_none.mpr hlength
        obtain ⟨row, hrow, -, howner⟩ := howned id hid
        exact howners row hrow howner
      · intro htraceable
        obtain ⟨hlisting, hstored | hlength⟩ := htraceable htested (.inl hstores)
        · exact absurd hstored hstores
        · refine ⟨_, failedMember_ok.mpr ⟨hlisting, rfl⟩, fun id hid => ?_⟩
          exact absurd (attributed_none.mp ⟨id, hid⟩) hlength
  · rw [memberOf_of_untested htested]
    constructor
    · intro _ htested'
      exact absurd htested' htested
    · intro _
      refine ⟨_, rfl, fun id hid => ?_⟩
      cases hid

/-! ## Graph validation -/

theorem nodes_sole {snapshot : ScanSnapshot} {graph : Graph.GraphStructure}
    (h : (SnapshotGraphValidator.nodes snapshot graph).length = 1)
    (hversion : (SnapshotGraphValidator.actual snapshot graph).scanVersion =
      some (snapshot.version : Int)) :
    ∃ node, SnapshotGraphValidator.nodes snapshot graph = [node] ∧
      node.scanVersion = some (snapshot.version : Int) := by
  obtain ⟨node, hnode⟩ := List.length_eq_one_iff.mp h
  simp only [SnapshotGraphValidator.actual, hnode] at hversion
  exact ⟨node, hnode, hversion⟩

/-- A validation passes only where the graph was read and every check of it holds. -/
theorem validate_passed {found : Found}
    (h : (SnapshotGraphValidator.validate t answers found.snapshot found.datasets
      found.relations).status = .passed) :
    found.snapshot.active = true ∧ found.snapshot.status = .ready ∧
      ∃ workspaceId graph, answers.workspace = .ok workspaceId ∧
        answers.structure_ (SnapshotGraphValidator.request workspaceId
          (SnapshotGraphValidator.expected found.snapshot found.datasets found.relations)
          found.snapshot) = .ok graph ∧
        GraphMatches found.snapshot found graph := by
  unfold SnapshotGraphValidator.validate at h
  dsimp only at h
  split at h
  · next graph hgraph =>
    obtain ⟨workspaceId, hworkspace, hstructure⟩ := bind_ok hgraph
    have hall : (SnapshotGraphValidator.checks found.snapshot (SnapshotGraphValidator.expected
        found.snapshot found.datasets found.relations) graph).all (·.2) = true := by
      by_contra hnot
      rw [if_neg hnot] at h
      cases h
    simp only [SnapshotGraphValidator.checks, List.all_cons, List.all_nil, Bool.and_true,
      Bool.and_eq_true, decide_eq_true_eq, Bool.not_eq_true'] at hall
    obtain ⟨hnode, -, hversion, hobjects, hfields, hrelationships, ⟨⟨hactive, hready⟩, -⟩,
      htruncated⟩ := hall
    exact ⟨hactive, hready, workspaceId, graph, hworkspace, hstructure,
      ⟨nodes_sole hnode hversion, hobjects, hfields, hrelationships, htruncated⟩⟩
  · cases h

/-- A scanned member passes only where it was verified. -/
theorem scannedMember_verified {id : String} {found : Found}
    (hcreating : answers.creating = .stored id none) (hfound : find answers = .ok found)
    (h : (scannedMember t request answers id found).status = .passed) :
    Verified answers (scannedMember t request answers id found) := by
  have hpassed : (SnapshotGraphValidator.validate t answers found.snapshot found.datasets
      found.relations).status = .passed ∧ found.snapshot.documentStatus = .ready := by
    by_contra hnot
    simp only [scannedMember, if_neg hnot] at h
    cases h
  obtain ⟨hactive, hready, hgraph⟩ := validate_passed hpassed.1
  obtain ⟨hstatus, hsnapshot⟩ := find_found hfound
  exact ⟨⟨id, hcreating, rfl⟩, hstatus, found, hfound, hsnapshot, rfl, hactive, hready, hpassed.2,
    hgraph⟩

/-- What is reported of a member. -/
theorem memberOf_reports (h : (memberOf t index request answers rows).2 = .ok m) :
    Identified request m ∧ (m.status = .passed ∨ m.status = .failed) ∧
      (m.status = .passed → Verified answers m) := by
  have hhandled : ∀ {rows : List CreatedRow} {datasourceId : Option String} {e : Failure},
      failedMember t request answers rows datasourceId e = .ok m →
      Identified request m ∧ (m.status = .passed ∨ m.status = .failed) ∧
        (m.status = .passed → Verified answers m) := by
    intro rows datasourceId e hm
    obtain ⟨-, rfl⟩ := failedMember_ok.mp hm
    exact ⟨⟨rfl, rfl, rfl, rfl⟩, .inr rfl, fun hpassed => by cases hpassed⟩
  by_cases htested : answers.connection = .ok ()
  · rw [memberOf_of_tested htested] at h
    by_cases hstores : Stores answers.creating rows
    · obtain ⟨id, e, hcreating, hfresh⟩ := hstores
      obtain ⟨-, datasourceId, e', -, hscan⟩ | ⟨-, rfl, found, hfound, hscan⟩ :=
        scanOne_of_stored t index request hcreating hfresh
      · rw [hscan] at h
        exact hhandled h
      · rw [hscan] at h
        obtain rfl := Except.ok.inj h
        refine ⟨⟨rfl, rfl, rfl, rfl⟩, ?_, scannedMember_verified hcreating hfound⟩
        unfold scannedMember
        dsimp only
        split
        · exact .inl rfl
        · exact .inr rfl
    · obtain ⟨e, hscan⟩ := scanOne_of_unstored t index request hstores
      rw [hscan] at h
      exact hhandled h
  · rw [memberOf_of_untested htested] at h
    obtain rfl := Except.ok.inj h
    exact ⟨⟨rfl, rfl, rfl, rfl⟩, .inr rfl, fun hpassed => by cases hpassed⟩

/-! ## The loop -/

variable {items : List (ScanRequest × Answers)} {ms : List ScanRunMember} {report report' : ScanRunReport}

/-- The members that the loop reports, from this place of the batch on, and the rows it leaves. -/
inductive Scanned (t : ReportTexts) : Nat → List (ScanRequest × Answers) → List CreatedRow →
    List ScanRunMember → List CreatedRow → Prop
  | nil (index : Nat) (rows : List CreatedRow) : Scanned t index [] rows [] rows
  | cons {index : Nat} {request : ScanRequest} {answers : Answers}
      {items : List (ScanRequest × Answers)} {rows rows' : List CreatedRow} {m : ScanRunMember}
      {ms : List ScanRunMember} (head : (memberOf t index request answers rows).2 = .ok m)
      (tail : Scanned t (index + 1) items (rowsAfter index request answers rows) ms rows') :
      Scanned t index ((request, answers) :: items) rows (m :: ms) rows'

theorem scanAll_cons : scanAll t ((request, answers) :: items) report rows =
    match (memberOf t report.datasources.length request answers rows).2 with
    | .error e => (rowsAfter report.datasources.length request answers rows, .error e)
    | .ok m => scanAll t items (refresh (append report m))
        (rowsAfter report.datasources.length request answers rows) := by
  rw [← memberOf_rows (t := t)]
  rfl

/-- The loop reports the members it scanned, after those that were there. -/
theorem scanAll_scanned (items : List (ScanRequest × Answers)) (report : ScanRunReport)
    (rows : List CreatedRow) (h : scanAll t items report rows = (rows', .ok report')) :
    ∃ ms, Scanned t report.datasources.length items rows ms rows' ∧
      report'.datasources = report.datasources ++ ms ∧ report'.run = report.run ∧
      report'.summary.configuredDatasources = report.summary.configuredDatasources := by
  induction items generalizing report rows with
  | nil =>
    obtain ⟨rfl, hreport⟩ := Prod.mk.inj h
    obtain rfl := Except.ok.inj hreport
    exact ⟨[], .nil _ _, (List.append_nil _).symm, rfl, rfl⟩
  | cons item items ih =>
    obtain ⟨request, answers⟩ := item
    rw [scanAll_cons] at h
    cases hm : (memberOf t report.datasources.length request answers rows).2 with
    | error e =>
      rw [hm] at h
      cases h
    | ok m =>
      rw [hm] at h
      obtain ⟨ms, hscanned, hdatasources, hrun, hconfigured⟩ := ih (refresh (append report m)) _ h
      have hlength : (refresh (append report m)).datasources.length = report.datasources.length + 1 :=
        List.length_append
      rw [hlength] at hscanned
      refine ⟨m :: ms, .cons hm hscanned, ?_, hrun, hconfigured⟩
      rw [hdatasources]
      exact List.append_assoc report.datasources [m] ms

theorem Scanned.unique {ms' : List ScanRunMember} {rows'' : List CreatedRow}
    (h : Scanned t index items rows ms rows') (h' : Scanned t index items rows ms' rows'') :
    ms = ms' ∧ rows' = rows'' := by
  induction h generalizing ms' with
  | nil index rows =>
    cases h'
    exact ⟨rfl, rfl⟩
  | cons head tail ih =>
    cases h' with
    | cons head' tail' =>
      obtain ⟨rfl, rfl⟩ := ih tail'
      exact ⟨by rw [Except.ok.inj (head.symm.trans head')], rfl⟩

/-- The members that can be scanned are what the loop reports. -/
theorem Scanned.scanAll (h : Scanned t index items rows ms rows') (report : ScanRunReport)
    (hindex : report.datasources.length = index) :
    ∃ report', scanAll t items report rows = (rows', .ok report') := by
  induction h generalizing report with
  | nil index rows => exact ⟨report, rfl⟩
  | @cons index request answers items rows rows' m ms head tail ih =>
    rw [scanAll_cons, hindex, head]
    have hlength : (refresh (append report m)).datasources.length = index + 1 := by
      rw [← hindex]
      exact List.length_append
    exact ih _ hlength

/-- The datasource of every member, when set, is its own. -/
def Attributed (rows : List CreatedRow) : Nat → List ScanRunMember → Prop
  | _, [] => True
  | index, m :: ms => (∀ id ∈ m.datasourceId, Owned rows index id) ∧ Attributed rows (index + 1) ms

theorem attributed_iff : Attributed rows index ms ↔
    ∀ i m, ms[i]? = some m → ∀ id ∈ m.datasourceId, Owned rows (index + i) id := by
  induction ms generalizing index with
  | nil => exact ⟨fun _ _ _ hm => (by cases hm), fun _ => trivial⟩
  | cons m ms ih =>
    constructor
    · rintro ⟨hm, hms⟩ (- | i) m' hm'
      · obtain rfl := Option.some.inj hm'
        exact hm
      · rw [show index + (i + 1) = index + 1 + i by omega]
        exact ih.mp hms i m' hm'
    · intro h
      refine ⟨h 0 m rfl, ih.mpr fun i m' hm' => ?_⟩
      rw [show index + 1 + i = index + (i + 1) by omega]
      exact h (i + 1) m' hm'

/-- The rows that the rest of the batch adds are not of a member before it. -/
theorem Scanned.owned_iff (h : Scanned t index items rows ms rows') {k : Nat} (hk : k < index)
    {id : String} : Owned rows' k id ↔ Owned rows k id := by
  induction h with
  | nil index rows => exact Iff.rfl
  | @cons index request answers items rows rows' m ms head tail ih =>
    rw [ih (by omega)]
    obtain hrows | ⟨row, howner, hrows⟩ := rowsAfter_cases index request answers rows
    · rw [hrows]
    · rw [hrows]
      constructor
      · rintro ⟨row', hrow', hid, howner'⟩
        obtain hrow' | hrow' := List.mem_append.mp hrow'
        · exact ⟨row', hrow', hid, howner'⟩
        · rw [List.mem_singleton.mp hrow', howner] at howner'
          obtain rfl := Option.some.inj howner'
          omega
      · rintro ⟨row', hrow', hid, howner'⟩
        exact ⟨row', List.mem_append_left _ hrow', hid, howner'⟩

/-- **The loop reports every member, each with its own datasource or none, exactly when every member is
traceable.** The rows before it are not of the members to come. -/
theorem scanned_attributed_iff (howners : ∀ row ∈ rows, ∀ k ∈ row.owner, k < index) :
    (∃ ms rows', Scanned t index items rows ms rows' ∧ Attributed rows' index ms) ↔
      AllTraceable index items rows := by
  induction items generalizing index rows with
  | nil => exact ⟨fun _ => trivial, fun _ => ⟨[], rows, .nil _ _, trivial⟩⟩
  | cons item items ih =>
    obtain ⟨request, answers⟩ := item
    have hnot : ∀ row ∈ rows, row.owner ≠ some index := by
      intro row hrow howner
      exact absurd (howners row hrow index howner) (lt_irrefl _)
    have howners' : ∀ row ∈ rowsAfter index request answers rows, ∀ k ∈ row.owner, k < index + 1 := by
      intro row hrow k hk
      obtain hrows | ⟨own, howner, hrows⟩ := rowsAfter_cases index request answers rows
      · rw [hrows] at hrow
        have := howners row hrow k hk
        omega
      · rw [hrows] at hrow
        obtain hrow | hrow := List.mem_append.mp hrow
        · have := howners row hrow k hk
          omega
        · rw [List.mem_singleton.mp hrow, howner] at hk
          obtain rfl := Option.some.inj hk
          omega
    have htail := ih howners'
    rw [AllTraceable, ← memberOf_owned_iff (t := t) hnot, ← htail, memberOf_rows]
    constructor
    · rintro ⟨_, rows', hscanned, hattributed⟩
      cases hscanned with
      | cons head tail =>
        refine ⟨⟨_, head, fun id hid => ?_⟩, _, rows', tail, hattributed.2⟩
        exact (tail.owned_iff (Nat.lt_succ_self _)).mp (hattributed.1 id hid)
    · rintro ⟨⟨m, head, howned⟩, ms, rows', tail, hattributed⟩
      refine ⟨m :: ms, rows', .cons head tail, fun id hid => ?_, hattributed⟩
      exact (tail.owned_iff (Nat.lt_succ_self _)).mpr (howned id hid)

theorem Scanned.members (h : Scanned t index items rows ms rows') :
    List.Forall₂ (fun item m => Identified item.1 m ∧ (m.status = .passed ∨ m.status = .failed) ∧
      (m.status = .passed → Verified item.2 m)) items ms := by
  induction h with
  | nil index rows => exact .nil
  | cons head tail ih => exact .cons (memberOf_reports head) ih

/-! ## The batch -/

theorem workspaceId_ok {workspace : String} (hitems : items ≠ [])
    (h : ∀ item ∈ items, item.1.workspaceId = workspace) :
    workspaceId (items.map Prod.fst) = .ok workspace := by
  cases items with
  | nil => exact absurd rfl hitems
  | cons item items =>
    obtain ⟨hhead, htail⟩ := List.forall_mem_cons.mp h
    have hall : ∀ other ∈ items.map Prod.fst, other.workspaceId = item.1.workspaceId := by
      intro other hother
      obtain ⟨item', hitem', rfl⟩ := List.mem_map.mp hother
      rw [htail item' hitem', hhead]
    rw [List.map_cons, workspaceId, if_pos hall, hhead]

/-- A completed report keeps every member where its members do. -/
theorem complete_keeps {now : Instant}
    (hmembers : List.Forall₂ (fun item m => Identified item.1 m ∧
      (m.status = .passed ∨ m.status = .failed) ∧ (m.status = .passed → Verified item.2 m)) items
      report.datasources)
    (hconfigured : report.summary.configuredDatasources = items.length) :
    KeepsEvery items rows (complete now report) ↔ Attributed rows 0 report.datasources := by
  have hlength : report.datasources.length = items.length := hmembers.length_eq.symm
  have hsummary : (complete now report).summary = summary report.datasources items.length := by
    rw [← hconfigured]
    rfl
  have hstatus : (complete now report).run.status =
      if report.datasources.countP (·.status = .passed) = items.length then .passed else .failed := by
    rw [← hconfigured]
    rfl
  constructor
  · intro h
    exact attributed_iff.mpr fun i m hm id hid => by
      rw [Nat.zero_add]
      exact h.attributed i m hm id hid
  · intro hattributed
    refine ⟨⟨rfl, ?_⟩, hmembers.imp fun _ _ h => h.1, ?_, hsummary, ?_, hmembers.imp fun _ _ h => h.2.2,
      fun i m hm id hid => ?_⟩
    · rw [hstatus]
      split
      · exact .inl rfl
      · exact .inr rfl
    · intro m hm
      obtain ⟨item, -, h⟩ := exists_of_forall₂ (List.Forall₂.flip (R := flip _) hmembers) hm
      exact h.2.1
    · have hcount : report.datasources.countP (·.status = .passed) = report.datasources.length ↔
          ∀ m ∈ (complete now report).datasources, m.status = .passed := by
        simp [List.countP_eq_length, complete, refresh]
      rw [hstatus, ← hlength, ← hcount]
      split
      · next hall => exact ⟨fun _ => hall, fun _ => rfl⟩
      · next hall => exact ⟨fun h => (by cases h), fun h => absurd h hall⟩
    · have := attributed_iff.mp hattributed i m hm id hid
      rwa [Nat.zero_add] at this

/-- **A batch scan keeps every member exactly when every member is traceable,** or the service could not
be built. -/
theorem scan_keeps_iff {info : RunInfo} {opened : Except Failure Unit} {workspace : String}
    (hitems : items ≠ []) (hworkspace : ∀ item ∈ items, item.1.workspaceId = workspace)
    (hexisting : ∀ row ∈ rows, row.owner = none) :
    (∃ report, (scan t info opened items rows).2 = .ok report ∧
      KeepsEvery items (scan t info opened items rows).1 report) ↔
      (opened = .ok () → AllTraceable 0 items rows) := by
  unfold scan
  rw [workspaceId_ok hitems hworkspace]
  cases opened with
  | error e =>
    -- nothing was scanned, and every member is blocked
    refine iff_of_true ⟨_, rfl, (complete_keeps ?_ rfl).mpr (attributed_iff.mpr ?_)⟩ fun h => by cases h
    · refine List.forall₂_map_right_iff.mpr (List.forall₂_same.mpr fun item _ => ?_)
      exact ⟨⟨rfl, rfl, rfl, rfl⟩, .inr rfl, fun hpassed => by cases hpassed⟩
    · intro i m hm id hid
      obtain ⟨item, -, rfl⟩ := List.mem_map.mp (List.mem_of_getElem? hm)
      cases hid
  | ok opened =>
    have howners : ∀ row ∈ rows, ∀ k ∈ row.owner, k < 0 := by
      intro row hrow k hk
      rw [hexisting row hrow] at hk
      cases hk
    rw [forall_prop_of_true rfl, ← scanned_attributed_iff (t := t) howners]
    dsimp only
    constructor
    · rintro ⟨report, hreport, hkeeps⟩
      obtain ⟨report', hreport', rfl⟩ := map_ok hreport
      obtain ⟨ms, hscanned, hdatasources, -, hconfigured⟩ := scanAll_scanned items _ _ (Prod.ext rfl hreport')
      rw [begin_, List.nil_append] at hdatasources
      subst hdatasources
      exact ⟨_, _, hscanned, (complete_keeps hscanned.members hconfigured).mp hkeeps⟩
    · rintro ⟨ms, rows', hscanned, hattributed⟩
      obtain ⟨report', hreport'⟩ := hscanned.scanAll (begin_ info workspace items.length) rfl
      obtain ⟨ms', hscanned', hdatasources, -, hconfigured⟩ := scanAll_scanned items _ _ hreport'
      obtain ⟨rfl, -⟩ := hscanned.unique hscanned'
      rw [begin_, List.nil_append] at hdatasources
      subst hdatasources
      rw [hreport']
      exact ⟨_, rfl, (complete_keeps hscanned.members hconfigured).mpr hattributed⟩

/-- What the calls answer where a request passes its test and cannot be saved. -/
def unsaved (listing : Except Failure Unit) : Answers where
  connection := .ok ()
  creating := .refused (.runtimeError "the catalog is locked")
  scanned := .ok ()
  status := .ok .created
  snapshot := .ok none
  datasets := .ok []
  relations := .ok []
  workspace := .ok "main"
  structure_ := fun _ => .ok {}
  listing := listing

/-- Errors by their messages. -/
def plainTexts : ReportTexts where
  safeError := (·.message)
  safeErrorOf := fun _ e => e.message
  documentPath := (· ++ "/database_profile.md")

def sales : ScanRequest := ⟨"sales", "postgresql", "relational", "main"⟩

def nightly : RunInfo := ⟨"run-1", 0, 60, "datasources.json"⟩

/-- A request that could not be saved in an empty catalog is reported as failed, with no datasource. -/
theorem unsaved_is_kept : ∃ report,
    (scan plainTexts nightly (.ok ()) [(sales, unsaved (.ok ()))] []).2 = .ok report ∧
      KeepsEvery [(sales, unsaved (.ok ()))]
        (scan plainTexts nightly (.ok ()) [(sales, unsaved (.ok ()))] []).1 report :=
  (scan_keeps_iff (List.cons_ne_nil _ _) (List.forall_mem_singleton.mpr rfl) (by simp)).mpr fun _ =>
    ⟨fun _ _ => ⟨rfl, .inr (by decide)⟩, trivial⟩

/-- Where the catalog holds a datasource of its name, that one is reported as its own; and where listing
them raises, the batch does. -/
theorem unsaved_takes_anothers :
    (¬ ∃ report, (scan plainTexts nightly (.ok ()) [(sales, unsaved (.ok ()))]
        [⟨"ds-1", "sales", "main", none⟩]).2 = .ok report ∧
      KeepsEvery [(sales, unsaved (.ok ()))] (scan plainTexts nightly (.ok ())
        [(sales, unsaved (.ok ()))] [⟨"ds-1", "sales", "main", none⟩]).1 report) ∧
    (scan plainTexts nightly (.ok ()) [(sales, unsaved (.error (.runtimeError "the catalog is locked")))]
      []).2 = .error (.runtimeError "the catalog is locked") := by
  refine ⟨?_, rfl⟩
  rintro ⟨report, hreport, hkeeps⟩
  obtain rfl := Except.ok.inj hreport
  obtain ⟨row, hrow, -, howner⟩ := hkeeps.attributed 0 _ rfl "ds-1" rfl
  rw [List.mem_singleton.mp hrow] at howner
  cases howner

end MultiDatabaseScanRunner

end Scan
