import Qaneris.Ingestion.Properties.Excel
import Qaneris.Scan.Properties.Revisions

/-!
# Imports of one key, one after the other

Any number of imports of the same bytes under one workspace and one policy, each killed at any point. Until
the manifest is ready, one begins when the others have ended; nothing is misread. Nothing locks the
manifest or the key in the catalog, so imports that overlap earlier do not keep what these do.

* `Turns.invariant` — what holds of such imports at any moment
* `imports_in_turn` — one datasource, honest results, and a ready manifest that stays
* `overlapping_imports` — two imports that overlap create two datasources, and the second one writes its
  failure over the ready manifest of the first
-/

namespace Ingestion

open Infra (Pool Program)

variable (service : ExcelIngestionService) (workbook : Workbook) (workspaceId : String)

abbrev Imports := Pool World Answer Failure ExcelImportResult

/-- The program is an import of the key, of a file with any name and under any name of the datasource. -/
def IsImport (p : Prog ExcelImportResult) : Prop :=
  ∃ request filename, request.workspaceId = workspaceId ∧ p = service.importExcel workbook request filename

/-- Imports of the key, started, interleaved and killed at any point. -/
abbrev Reached (a b : Imports) : Prop :=
  Pool.Reaches (IsImport service workbook workspaceId) (fun _ _ => False) a b

/-- A step of such imports where none begins before the manifest is ready or the others have ended, and
nothing is misread. -/
def InTurn (a b : Imports) : Prop :=
  Pool.Step (IsImport service workbook workspaceId) (fun _ _ => False) a b ∧
    (a.threads.length < b.threads.length → IsReady a.state ∨ ∀ p ∈ a.threads, p.Ended) ∧
    b.state.misread = false

abbrev ReachedInTurn (a b : Imports) : Prop :=
  Relation.ReflTransGen (InTurn service workbook workspaceId) a b

/-- Nothing of the key exists yet. -/
structure Untouched (w : World) : Prop where
  ids : (w.datasources.map idOf).Nodup
  none_ : managedCount service workbook workspaceId w = 0
  manifest : w.manifest = none
  misread : w.misread = false

/-- What one import promises. -/
def Promised (p : Prog ExcelImportResult) (w : World) : Prop :=
  p.wp (alone service workbook workspaceId)
    (fun result => When fun w => Sound service workbook workspaceId w ∧
      Honest service workbook workspaceId result w)
    (fun _ => When (Sound service workbook workspaceId)) w

/-- Each import keeps its promise, and one is at work at most until the manifest is ready. -/
structure Turns (pool : Imports) : Prop where
  misread : pool.state.misread = false
  sound : Sound service workbook workspaceId pool.state
  promised : ∀ p ∈ pool.threads, Promised service workbook workspaceId p pool.state
  single : IsReady pool.state ∨ pool.threads.Pairwise fun p q => p.Ended ∨ q.Ended

variable {service workbook workspaceId}

/-- What an import that has ended promises outlasts the steps of another one. -/
theorem Promised.of_ended {p : Prog ExcelImportResult} {w w' : World} (hp : p.Ended)
    (h : Promised service workbook workspaceId p w) (hk : Kept service workbook workspaceId w w') :
    Promised service workbook workspaceId p w' := by
  cases p with
  | ret result =>
    intro _
    obtain ⟨hsound, hhonest⟩ := h hk.misread
    -- a result means that the manifest is ready, so nothing has changed
    rw [hk.ready hhonest.2.1]
    exact ⟨hsound, hhonest⟩
  | throw e => exact fun _ => hk.sound (h hk.misread)
  | step f k => cases hp
  | call q k => cases hp

/-- The other imports have ended while one is at work. -/
theorem others_ended {ts : List (Prog ExcelImportResult)}
    (h : ts.Pairwise fun p q => p.Ended ∨ q.Ended) {i j : Nat} {p q : Prog ExcelImportResult}
    (hi : ts[i]? = some p) (hj : ts[j]? = some q) (hp : ¬p.Ended) (hne : j ≠ i) : q.Ended := by
  obtain ⟨hilt, rfl⟩ := List.getElem?_eq_some_iff.mp hi
  obtain ⟨hjlt, rfl⟩ := List.getElem?_eq_some_iff.mp hj
  have hall := List.pairwise_iff_getElem.mp h
  rcases Nat.lt_or_gt_of_ne hne with hlt | hlt
  · exact (hall j i hjlt hilt hlt).resolve_right hp
  · exact (hall i j hilt hjlt hlt).resolve_left hp

theorem Promised.step {p p' : Prog ExcelImportResult} {w w' : World}
    (h : Promised service workbook workspaceId p w) (hs : Program.Step (p, w) (p', w'))
    (hm : w'.misread = false) :
    Promised service workbook workspaceId p' w' ∧
      (w.misread = false → Kept service workbook workspaceId w w') := by
  cases hs with
  | step =>
    obtain ⟨hg, hk⟩ := h w rfl
    exact ⟨hk, fun _ => hg hm⟩
  | call r => exact ⟨(h w rfl).2 r, fun hw => Kept.refl hw⟩

/-- One import at work stays the only one. -/
theorem pairwise_set {ts : List (Prog ExcelImportResult)}
    (h : ts.Pairwise fun p q => p.Ended ∨ q.Ended) {i : Nat} {p p' : Prog ExcelImportResult}
    (hi : ts[i]? = some p) (hp : ¬p.Ended) : (ts.set i p').Pairwise fun p q => p.Ended ∨ q.Ended := by
  rw [List.pairwise_iff_getElem]
  intro a b ha hb hlt
  rw [List.length_set] at ha hb
  have hget : ∀ k (hk : k < ts.length), k ≠ i → ts[k].Ended := fun k hk hne =>
    others_ended h hi (List.getElem?_eq_getElem hk) hp hne
  by_cases ha' : a = i
  · right
    have hb' : b ≠ i := by omega
    rw [List.getElem_set_ne (Ne.symm hb')]
    exact hget b hb hb'
  · left
    rw [List.getElem_set_ne (Ne.symm ha')]
    exact hget a ha ha'

theorem Turns.spawn {ts : List (Prog ExcelImportResult)} {w : World} {p : Prog ExcelImportResult}
    (h : Turns service workbook workspaceId ⟨ts, w⟩) (hp : IsImport service workbook workspaceId p)
    (hturn : IsReady w ∨ ∀ q ∈ ts, q.Ended) : Turns service workbook workspaceId ⟨ts ++ [p], w⟩ := by
  obtain ⟨request, filename, rfl, rfl⟩ := hp
  refine ⟨h.misread, h.sound, fun q hq => ?_, ?_⟩
  · rcases List.mem_append.mp hq with hq | hq
    · exact h.promised q hq
    · rw [List.mem_singleton.mp hq]
      exact importExcel_does w fun _ => h.sound
  · rcases hturn with hready | hended
    · exact Or.inl hready
    · refine h.single.imp_right fun hsingle => ?_
      refine List.pairwise_append.mpr ⟨hsingle, List.pairwise_singleton _ _, fun q hq r _ => ?_⟩
      exact Or.inl (hended q hq)

theorem Turns.run {ts : List (Prog ExcelImportResult)} {w w' : World} {p p' : Prog ExcelImportResult}
    {i : Nat} (h : Turns service workbook workspaceId ⟨ts, w⟩) (hi : ts[i]? = some p)
    (hp : Program.Step (p, w) (p', w')) (hm : w'.misread = false) :
    Turns service workbook workspaceId ⟨ts.set i p', w'⟩ ∧ (IsReady w → w' = w) := by
  have hat : ¬p.Ended := by
    cases hp <;> exact id
  obtain ⟨hpromised, hkept⟩ := (h.promised p (List.mem_of_getElem? hi)).step hp hm
  have hkept := hkept h.misread
  refine ⟨⟨hm, hkept.sound h.sound, fun q hq => ?_, ?_⟩, hkept.ready⟩
  · obtain ⟨j, hj⟩ := List.getElem?_of_mem hq
    by_cases hne : j = i
    · subst hne
      obtain ⟨hlt, -⟩ := List.getElem?_eq_some_iff.mp hi
      rw [List.getElem?_set_self hlt] at hj
      exact Option.some.inj hj ▸ hpromised
    · rw [List.getElem?_set_ne (Ne.symm hne)] at hj
      have hq := h.promised q (List.mem_of_getElem? hj)
      rcases h.single with hready | hsingle
      · -- nothing has changed under a ready manifest
        rw [hkept.ready hready]
        exact hq
      · exact hq.of_ended (others_ended hsingle hi hj hat hne) hkept
  · rcases h.single with hready | hsingle
    · left
      rw [hkept.ready hready]
      exact hready
    · exact Or.inr (pairwise_set hsingle hi hat)

theorem Turns.step {pool pool' : Imports} (h : Turns service workbook workspaceId pool)
    (hs : InTurn service workbook workspaceId pool pool') :
    Turns service workbook workspaceId pool' ∧
      (IsReady pool.state → pool'.state = pool.state) := by
  obtain ⟨hs, hturn, hm⟩ := hs
  cases hs with
  | spawn hp => exact ⟨h.spawn hp (hturn (by simp)), fun _ => rfl⟩
  | run i hi hp => exact h.run hi hp hm
  | @kill ts s i =>
    refine ⟨⟨hm, h.sound, fun q hq => h.promised q (List.mem_of_mem_eraseIdx hq), ?_⟩, fun _ => rfl⟩
    exact h.single.imp_right fun hsingle => hsingle.sublist (List.eraseIdx_sublist ts i)
  | env he => exact he.elim

theorem Turns.invariant {pool pool' : Imports} (h : Turns service workbook workspaceId pool)
    (hr : ReachedInTurn service workbook workspaceId pool pool') :
    Turns service workbook workspaceId pool' ∧ (IsReady pool.state → pool'.state = pool.state) := by
  induction hr with
  | refl => exact ⟨h, fun _ => rfl⟩
  | tail _ hs ih =>
    obtain ⟨hturns, hfrozen⟩ := ih
    obtain ⟨hturns', hnext⟩ := hturns.step hs
    refine ⟨hturns', fun hready => ?_⟩
    rw [← hfrozen hready]
    exact hnext (hfrozen hready ▸ hready)

/-- **Imports that take turns.** From a catalog without a datasource of the key, through any number of
imports each of which may be killed anywhere, as long as none begins before the manifest is ready or the
others have ended, and nothing is misread: the key has one datasource at most; every result that has been returned is ready and
stands for an artifact, a ready datasource of the key, its active snapshot and its publication at the
version of the snapshot; and a ready manifest is never written again. -/
theorem imports_in_turn {w : World} {pool pool' : Imports}
    (hw : Untouched service workbook workspaceId w)
    (hr : ReachedInTurn service workbook workspaceId ⟨[], w⟩ pool)
    (hr' : ReachedInTurn service workbook workspaceId pool pool') :
    managedCount service workbook workspaceId pool.state ≤ 1 ∧
      (∀ p ∈ pool.threads, ∀ result, p.result = some result →
        result.status = .ready ∧ Complete service workbook workspaceId pool.state result.datasourceId
          result.snapshotId result.scanVersion) ∧
      (IsReady pool.state → pool'.state.manifest = pool.state.manifest) := by
  have hstart : Turns service workbook workspaceId ⟨[], w⟩ :=
    { misread := hw.misread
      sound := ⟨⟨hw.ids, hw.none_.trans_le (Nat.zero_le 1)⟩, fun m hm => by rw [hw.manifest] at hm; cases hm⟩
      promised := fun p hp => absurd hp List.not_mem_nil
      single := Or.inr List.Pairwise.nil }
  obtain ⟨hturns, -⟩ := hstart.invariant hr
  obtain ⟨-, hfrozen⟩ := hturns.invariant hr'
  refine ⟨hturns.sound.registry.one, fun p hp result hresult => ?_, fun hready => by rw [hfrozen hready]⟩
  obtain rfl := Program.eq_ret_of_result hresult
  obtain ⟨-, hstatus, -, hcomplete⟩ := hturns.promised _ hp hturns.misread
  exact ⟨hstatus, hcomplete⟩

/-! ## Two imports of one workbook -/

section Sample

def sampleService : ExcelIngestionService where
  workspaceDigest workspaceId := workspaceId
  policyVersion := "excel-policy-v1"
  policyDigest := "policy"
  policyKey := "v1"
  root := "/data"
  resolve path := path
  clip name := name
  safeError e := e.message
  generateDocuments := false

def sampleWorkbook : Workbook where
  fileSha256 := "8d969eef6ecad3c2"
  fileSize := 4096
  readContainer _ := .ok ()
  validate := .ok
    { sheets := [{ originalName := "Orders", tableName := "orders", rowCount := 1, columns := [] }] }

/-- An import of the workbook from a file with this name. -/
def sampleImport (filename : String) : Prog ExcelImportResult :=
  sampleService.importExcel sampleWorkbook { filePath := filename } filename

theorem sampleImport_isImport (filename : String) :
    IsImport sampleService sampleWorkbook "default" (sampleImport filename) :=
  ⟨_, _, rfl, rfl⟩

/-- All that is asked succeeds. -/
def importAnswers (uuid : String) (q : Question) : Option (Answer q) :=
  match q with
  | .fault => some none
  | .clock => some (0 : Int)
  | .uuid => some uuid
  | .integrity => some true
  | .materialize => some (.ok ())
  | .testConnection _ => some (.ok ())
  | .graphReader => some .reads
  | .scan q => Scan.sampleAnswers uuid "orders" q

/-- The same, but the scan cannot open its source. -/
def unreachableAnswers (uuid : String) (q : Question) : Option (Answer q) :=
  match q with
  | .scan .testConnection => some (.error ⟨"OperationalError", "unable to open database file", false⟩)
  | q => importAnswers uuid q

theorem untouched_empty : Untouched sampleService sampleWorkbook "default" {} where
  ids := List.nodup_nil
  none_ := rfl
  manifest := rfl
  misread := rfl

/-- The steps of an import that runs alone, as long as nothing is misread. -/
theorem inTurn_advance (answers : (q : Question) → Option (Answer q)) (steps : Nat)
    (p : Prog ExcelImportResult) (w : World)
    (h : ∀ k ≤ steps, (Program.advance answers k (p, w)).2.misread = false) :
    ReachedInTurn service workbook workspaceId ⟨[p], w⟩
      ⟨[(Program.advance answers steps (p, w)).1], (Program.advance answers steps (p, w)).2⟩ := by
  induction steps generalizing p w with
  | zero => exact Relation.ReflTransGen.refl
  | succ steps ih =>
    have hrest := ih (Program.next answers (p, w)).1 (Program.next answers (p, w)).2 fun k hk =>
      h (k + 1) (by omega)
    rcases Program.next_step answers (p, w) with he | hs
    · unfold Program.advance
      rw [he] at hrest ⊢
      exact hrest
    · have hm : (Program.next answers (p, w)).2.misread = false := h 1 (by omega)
      exact Relation.ReflTransGen.head
        ⟨Pool.Step.run 0 rfl hs, fun hlt => absurd hlt (by simp), hm⟩ hrest

/-- The first import of the workbook, to its end. -/
def firstImport : Prog ExcelImportResult × World :=
  Program.advance (importAnswers "1") 75 (sampleImport "report.xlsx", {})

theorem firstImport_reached :
    ReachedInTurn sampleService sampleWorkbook "default" ⟨[], {}⟩ ⟨[firstImport.1], firstImport.2⟩ := by
  have hspawn : InTurn sampleService sampleWorkbook "default" ⟨[], {}⟩
      ⟨[sampleImport "report.xlsx"], {}⟩ := by
    refine ⟨?_, fun _ => Or.inr fun p hp => absurd hp List.not_mem_nil, rfl⟩
    show Pool.Step _ _ _ ⟨[] ++ [sampleImport "report.xlsx"], ({} : World)⟩
    exact Pool.Step.spawn (sampleImport_isImport "report.xlsx")
  exact Relation.ReflTransGen.head hspawn (inTurn_advance _ _ _ _ (by decide))

/-- The import has returned, so the artifact and the chain behind its result are all there. -/
theorem firstImport_complete :
    ∃ result, firstImport.1.result = some result ∧ result.datasourceId = "ds_1" ∧
      Complete sampleService sampleWorkbook "default" firstImport.2 result.datasourceId
        result.snapshotId result.scanVersion := by
  have hresult : firstImport.1.result.any (fun result => result.datasourceId = "ds_1") = true := by
    decide
  obtain ⟨result, hr, hid⟩ := (Option.any_eq_true _ _).mp hresult
  have hall := (imports_in_turn untouched_empty firstImport_reached Relation.ReflTransGen.refl).2.1
  exact ⟨result, hr, of_decide_eq_true hid, (hall _ (List.mem_singleton.mpr rfl) result hr).2⟩

/-- Both imports list the catalog before either has stored a datasource; then the first one goes on to
its end. -/
def overlapping : Imports :=
  Pool.playAll ⟨[], {}⟩
    [.spawn (sampleImport "report.xlsx"), .spawn (sampleImport "copy.xlsx"),
     .run 0 15 (importAnswers "1"), .run 1 15 (importAnswers "2"), .run 0 60 (importAnswers "1")]

/-- Then the second one, whose scan cannot open its source. -/
def overtaken : Imports := overlapping.playAll [.run 1 60 (unreachableAnswers "2")]

/-- Two datasources are stored for one key, and the ready manifest becomes a failed one. -/
theorem overlapping_imports :
    Untouched sampleService sampleWorkbook "default" {} ∧
      Reached sampleService sampleWorkbook "default" ⟨[], {}⟩ overlapping ∧
      Reached sampleService sampleWorkbook "default" overlapping overtaken ∧
      managedCount sampleService sampleWorkbook "default" overtaken.state = 2 ∧
      overlapping.state.manifest.map (·.status) = some .ready ∧
      overtaken.state.manifest.map (·.status) = some .failed ∧
      overtaken.state.misread = false := by
  refine ⟨untouched_empty, ?_, ?_, by decide +kernel, by decide +kernel, by decide +kernel,
    by decide +kernel⟩
  · refine Pool.playAll_reaches _ _ fun p hp => ?_
    simp only [List.mem_cons, Pool.Choice.spawn.injEq, List.not_mem_nil, or_false, reduceCtorEq] at hp
    rcases hp with rfl | rfl
    · exact sampleImport_isImport "report.xlsx"
    · exact sampleImport_isImport "copy.xlsx"
  · refine Pool.playAll_reaches _ _ fun p hp => ?_
    simp only [List.mem_cons, List.not_mem_nil, or_false, reduceCtorEq] at hp

end Sample

end Ingestion
