import Qaneris.Infra.Except
import Qaneris.Ingestion.Excel
import Qaneris.Scan.Properties.Steps

/-!
# What the steps of an import keep

An import on its own, in a directory and a catalog that only imports of the same key change. As long as
nothing has been misread, two things hold between any two steps: the catalog has one datasource for the
key at most, and a ready manifest tells the truth. A ready manifest stops all further changes.
-/

namespace Ingestion

open Infra (Program Transaction)
open Infra.Program (Contract attempt ofExcept solo Within)

/-! ## The catalog -/

/-- What a scan never writes of a datasource. -/
def identity (d : Scan.World) : Option (String × String × Scan.StoredConnection) :=
  d.catalog.datasource.map fun row => (row.id, row.workspaceId, row.connection)

def idOf (d : Scan.World) : Option String := d.catalog.datasource.map (·.id)

theorem hasId_iff {id : String} {d : Scan.World} : hasId id d = true ↔ idOf d = some id := by
  unfold hasId idOf
  cases d.catalog.datasource <;> simp

theorem idOf_identity (d : Scan.World) : idOf d = (identity d).map (·.1) := by
  unfold idOf identity
  cases d.catalog.datasource <;> rfl

theorem hasId_congr {id : String} {d d' : Scan.World} (h : identity d' = identity d) :
    hasId id d' = hasId id d := by
  rw [Bool.eq_iff_iff, hasId_iff, hasId_iff, idOf_identity, idOf_identity, h]

/-! ## One datasource of the catalog -/

/-- A datasource of the catalog is found by its identifier. -/
theorem at_of_mem {w : World} {d : Scan.World} {id : String} (hids : (w.datasources.map idOf).Nodup)
    (hd : d ∈ w.datasources) (hid : idOf d = some id) : w.at id = d := by
  have hfind : w.datasources.find? (hasId id) = some d := by
    generalize w.datasources = ds at hids hd
    induction ds with
    | nil => cases hd
    | cons x xs ih =>
      rw [List.map_cons, List.nodup_cons] at hids
      rw [List.find?_cons]
      rcases List.mem_cons.mp hd with rfl | hd
      · rw [hasId_iff.mpr hid]
      · have hx : hasId id x = false := by
          rw [Bool.eq_false_iff, Ne, hasId_iff]
          intro hx
          exact hids.1 (List.mem_map.mpr ⟨d, hd, hid.trans hx.symm⟩)
        rw [hx]
        exact ih hids.2 hd
  rw [World.at, hfind, Option.getD_some]

/-- A change that keeps the identity of one datasource keeps that of all. -/
theorem put_identities {w : World} {id : String} {d : Scan.World} (h : identity d = identity (w.at id)) :
    (w.put id d).datasources.map identity = w.datasources.map identity := by
  show (updateAt id (fun _ => d) w.datasources).map identity = _
  unfold World.at at h
  generalize w.datasources = ds at h
  induction ds with
  | nil => rfl
  | cons x xs ih =>
    rw [List.find?_cons] at h
    unfold updateAt
    cases hx : hasId id x with
    | true =>
      rw [hx] at h
      rw [if_pos rfl, List.map_cons, List.map_cons, h]
      rfl
    | false =>
      rw [hx] at h
      rw [if_neg (by decide), List.map_cons, List.map_cons, ih h]

theorem put_at_identity {w : World} {id : String} {d : Scan.World} (h : identity d = identity (w.at id)) :
    identity ((w.put id d).at id) = identity (w.at id) := by
  show identity (((updateAt id (fun _ => d) w.datasources).find? (hasId id)).getD _) = _
  unfold World.at at h ⊢
  generalize w.datasources = ds at h
  induction ds with
  | nil => rfl
  | cons x xs ih =>
    rw [List.find?_cons] at h ⊢
    unfold updateAt
    cases hx : hasId id x with
    | true =>
      rw [hx] at h
      have hd : hasId id d = true := (hasId_congr h).trans hx
      rw [if_pos rfl, List.find?_cons, hd]
      exact h
    | false =>
      rw [hx] at h
      rw [if_neg (by decide), List.find?_cons, hx]
      exact ih h

/-- A commit changes the status of the row alone. -/
theorem commit_identity {d d' : Scan.World} {opened : Scan.StoredConnection} {snapshot : Scan.ScanSnapshot}
    {datasets : List Scan.DatasetInfo} {relations : List Scan.RelationInfo}
    {samples : List Scan.DatasetSample}
    (h : Scan.commitSnapshot opened snapshot datasets relations samples d = .ok (d', ())) :
    identity d' = identity d := by
  unfold Scan.commitSnapshot at h
  obtain ⟨⟨catalog, _⟩, hc, h⟩ := Infra.bind_ok h
  cases h
  unfold Scan.Catalog.commitScanSnapshot at hc
  show catalog.datasource.map _ = d.catalog.datasource.map _
  split at hc
  · cases hc
  split at hc
  · cases hc
  split at hc
  · cases hc
  split at hc
  · cases hc
  split at hc
  · cases hc
  split at hc
  · cases hc
  · next row hrow =>
    cases hc
    rw [hrow]
    rfl

/-- No step of a scan touches what identifies the datasource. -/
theorem initialize_identity (generateDocuments : Bool) (id : String) (policy : Scan.ScanPolicy) :
    Within (fun d d' => identity d' = identity d) (Scan.initialize_ generateDocuments id policy) := by
  let c : Contract Scan.World Scan.Question :=
    { rely := fun _ _ => True, guar := fun d d' => identity d' = identity d }
  have hquiet : ∀ d d', Scan.Quiet d d' → c.guar d d' := by
    intro d d' h
    show d'.catalog.facts.datasource.map _ = d.catalog.facts.datasource.map _
    rw [h.facts]
  let hooks : Scan.Hooks c :=
    { before := fun _ => True, looked := fun _ _ => True, opened := fun _ _ => True
      numbered := fun _ _ _ _ => True, published := fun _ _ _ => True
      before_stable := Scan.stable_true c
      looked_stable := fun _ => Scan.stable_true c
      opened_stable := fun _ => Scan.stable_true c
      numbered_stable := fun _ _ _ => Scan.stable_true c
      published_stable := fun _ _ => Scan.stable_true c
      look := fun _ _ _ _ => trivial
      open_ := fun _ _ _ _ _ => trivial
      number := fun _ _ _ => ⟨rfl, trivial⟩
      publish := fun _ _ _ _ _ => ⟨rfl, trivial⟩
      commit := fun d d' o snapshot datasets relations samples _ h => commit_identity h }
  have h := Scan.initialize_triple ⟨fun _ _ => trivial, hquiet⟩ hooks generateDocuments id policy
  exact Program.within_of_wp (fun _ _ => trivial) (h { catalog := { datasource := none } } trivial)

section Key

variable (service : ExcelIngestionService) (workbook : Workbook) (workspaceId : String)

/-- The datasource is one of the workspace on the managed file of the key. -/
def Managed (d : Scan.World) : Prop :=
  ∃ row, identity d = some row ∧ row.2.1 = workspaceId ∧ row.2.2.driver = some "sqlite" ∧
    service.pointsAt (service.resolve (service.sqlitePath workbook workspaceId)) row.2.2.profile

instance : DecidablePred (Managed service workbook workspaceId) := fun d =>
  match h : identity d with
  | none => isFalse fun ⟨_, hrow, _⟩ => by simp [h] at hrow
  | some row =>
    decidable_of_iff (row.2.1 = workspaceId ∧ row.2.2.driver = some "sqlite" ∧
      service.pointsAt (service.resolve (service.sqlitePath workbook workspaceId)) row.2.2.profile)
      ⟨fun hp => ⟨row, h, hp⟩, fun ⟨row', hrow, hp⟩ => by
        rw [h] at hrow
        cases hrow
        exact hp⟩

theorem Managed.congr {d d' : Scan.World} (h : identity d' = identity d) :
    Managed service workbook workspaceId d' ↔ Managed service workbook workspaceId d := by
  rw [Managed, Managed, h]

/-- The datasources of the key. -/
def managedCount (w : World) : Nat := w.datasources.countP (Managed service workbook workspaceId ·)

/-- Identifiers are unique, and the key has one datasource at most. -/
structure Registry (w : World) : Prop where
  ids : (w.datasources.map idOf).Nodup
  one : managedCount service workbook workspaceId w ≤ 1

variable {service workbook workspaceId} in
theorem Registry.congr {w w' : World} (h : w'.datasources.map identity = w.datasources.map identity)
    (hw : Registry service workbook workspaceId w) : Registry service workbook workspaceId w' := by
  have hids : ∀ ds : List Scan.World, ds.map idOf = (ds.map identity).map (Option.map (·.1)) := by
    intro ds
    rw [List.map_map]
    exact List.map_congr_left fun d _ => idOf_identity d
  have hcount : ∀ ds ds' : List Scan.World, ds'.map identity = ds.map identity →
      ds'.countP (Managed service workbook workspaceId ·) = ds.countP (Managed service workbook workspaceId ·) := by
    intro ds
    induction ds with
    | nil =>
      intro ds' h
      rw [List.map_eq_nil_iff.mp h]
    | cons d ds ih =>
      intro ds' h
      obtain ⟨d', rest, rfl, hd, hrest⟩ := List.map_eq_cons_iff.mp h
      rw [List.countP_cons, List.countP_cons, ih rest hrest]
      simp only [decide_eq_true_eq, Managed.congr service workbook workspaceId hd]
  exact ⟨by rw [hids, h, ← hids]; exact hw.ids, (hcount _ _ h).trans_le hw.one⟩

/-! ## Ready manifests -/

def IsReady (w : World) : Prop := ∃ m, w.manifest = some m ∧ m.status = .ready

/-- The datasource is the one of the key; it is ready, and this is its active snapshot. -/
structure Linked (w : World) (id snapshotId : String) (version : Nat) : Prop where
  named : id ≠ ""
  managed : Managed service workbook workspaceId (w.at id)
  ready : (w.at id).catalog.status = some .ready
  snapshot : ∃ snapshot, (w.at id).catalog.getActiveSnapshot = some snapshot ∧ snapshot.id = snapshotId ∧
    snapshot.version = version ∧ snapshot.status = .ready

/-- Everything that a finished import stands for is there. -/
structure Complete (w : World) (id snapshotId : String) (version : Nat) : Prop
    extends Linked service workbook workspaceId w id snapshotId version where
  artifact : w.sqlite.isSome
  published : (w.at id).graph.map (·.scanVersion) = some version

/-- The record of a finished import tells the truth. -/
def Truthful (w : World) (m : ExcelManifest) : Prop :=
  m.fileSha256 = workbook.fileSha256 ∧ m.policyVersion = service.policyVersion ∧
    m.workspaceId = workspaceId ∧ ∃ id snapshotId version, m.datasourceId = some id ∧
      m.snapshotId = some snapshotId ∧ m.scanVersion = some version ∧
      Complete service workbook workspaceId w id snapshotId version

/-- What holds between any two steps of an import. -/
structure Sound (w : World) : Prop where
  registry : Registry service workbook workspaceId w
  truthful : ∀ m, w.manifest = some m → m.status = .ready → Truthful service workbook workspaceId w m

/-- An import is at work: there is no ready manifest. `finished` tells that the artifact is there. -/
structure Working (finished : Bool) (w : World) : Prop where
  registry : Registry service workbook workspaceId w
  unready : ¬IsReady w
  artifact : finished = true → w.sqlite.isSome

variable {service workbook workspaceId}

theorem Working.sound {finished : Bool} {w : World} (h : Working service workbook workspaceId finished w) :
    Sound service workbook workspaceId w :=
  ⟨h.registry, fun m hm hs => absurd ⟨m, hm, hs⟩ h.unready⟩

/-! ## Steps -/

/-- The fact is known unless something has been misread. -/
def When (P : World → Prop) (w : World) : Prop := w.misread = false → P w

variable (service workbook workspaceId)

/-- A step keeps what holds between steps, and nothing changes once the manifest is ready. -/
structure Kept (w w' : World) : Prop where
  misread : w.misread = false
  sound : Sound service workbook workspaceId w → Sound service workbook workspaceId w'
  ready : IsReady w → w' = w

/-- An import on its own. -/
def alone : Contract World Question :=
  solo fun w w' => w'.misread = false → Kept service workbook workspaceId w w'

/-- From a state with `pre` the program keeps the contract, ends with `post`, and raises with `exc`. -/
def Does {α : Type} (exc : Failure → World → Prop) (pre : World → Prop) (p : Prog α)
    (post : α → World → Prop) : Prop :=
  ∀ w, When pre w → p.wp (alone service workbook workspaceId) (fun a => When (post a))
    (fun e => When (exc e)) w

variable {service workbook workspaceId}

theorem Kept.refl {w : World} (h : w.misread = false) : Kept service workbook workspaceId w w :=
  ⟨h, fun hs => hs, fun _ => rfl⟩

/-- While an import is at work any step to another such state is allowed. -/
theorem Working.kept {finished finished' : Bool} {w w' : World} (hm : w.misread = false)
    (h : Working service workbook workspaceId finished w)
    (h' : Working service workbook workspaceId finished' w') : Kept service workbook workspaceId w w' :=
  ⟨hm, fun _ => h'.sound, fun hr => absurd hr h.unready⟩

namespace Does

variable {α β : Type} {exc : Failure → World → Prop} {pre : World → Prop}

theorem conseq {p : Prog α} {post post' : α → World → Prop} {pre' : World → Prop}
    {exc' : Failure → World → Prop} (h : Does service workbook workspaceId exc' pre' p post)
    (hpre : ∀ w, pre w → pre' w) (hpost : ∀ a w, post a w → post' a w)
    (hexc : ∀ e w, exc' e w → exc e w) : Does service workbook workspaceId exc pre p post' :=
  fun w hw => Program.wp_mono (fun a _ h hm => hpost a _ (h hm)) (fun e _ h hm => hexc e _ (h hm))
    (h w fun hm => hpre w (hw hm))

protected theorem pure {a : α} {post : α → World → Prop} (h : ∀ w, pre w → post a w) :
    Does service workbook workspaceId exc pre (pure a) post :=
  fun w hw hm => h w (hw hm)

theorem throw {e : Failure} {post : α → World → Prop} (h : ∀ w, pre w → exc e w) :
    Does service workbook workspaceId exc pre (.throw e) post :=
  fun w hw hm => h w (hw hm)

theorem ofExcept {x : Except Failure α} {post : α → World → Prop}
    (h : ∀ a w, x = .ok a → pre w → post a w) (hexc : ∀ e w, pre w → exc e w) :
    Does service workbook workspaceId exc pre (ofExcept x) post :=
  fun w hw => Program.wp_ofExcept (fun a hx hm => h a w hx (hw hm)) fun e _ hm => hexc e w (hw hm)

theorem bind {p : Prog β} {f : β → Prog α} {mid : β → World → Prop} {post : α → World → Prop}
    (hp : Does service workbook workspaceId exc pre p mid)
    (hf : ∀ b, Does service workbook workspaceId exc (mid b) (f b) post) :
    Does service workbook workspaceId exc pre (p >>= f) post :=
  fun w hw => Program.wp_bind (Program.wp_mono (fun b w' h => hf b w' h) (fun _ _ h => h) (hp w hw))

/-- What a handler knows. -/
theorem attempt {p : Prog α} {post : α → World → Prop} {exc' : Failure → World → Prop}
    (hp : Does service workbook workspaceId exc' pre p post) :
    Does service workbook workspaceId exc pre (attempt p) fun r w =>
      (∀ a, r = .ok a → post a w) ∧ ∀ e, r = .error e → exc' e w :=
  fun w hw => Program.wp_attempt (Program.wp_mono
    (fun _ _ h hm => ⟨fun _ ha => Except.ok.inj ha ▸ h hm, nofun⟩)
    (fun _ _ h hm => ⟨nofun, fun _ he => Except.error.inj he ▸ h hm⟩) (hp w hw))

/-- A question changes nothing. -/
theorem ask (q : Question) : Does service workbook workspaceId exc pre (ask q) fun _ => pre := by
  rintro w hw _ rfl
  exact ⟨trivial, fun _ => hw⟩

/-- A transaction of the store. -/
theorem atomic {tx : Transaction World Failure α} {post : α → World → Prop}
    (hmisread : ∀ w w' a, tx w = .ok (w', a) → w'.misread = false → w.misread = false)
    (h : ∀ w w' a, w.misread = false → pre w → tx w = .ok (w', a) →
      Kept service workbook workspaceId w w' ∧ post a w')
    (hexc : ∀ e w, pre w → tx w = .error e → exc e w) :
    Does service workbook workspaceId exc pre (Program.atomic tx) post := by
  intro w hw
  refine Program.wp_atomic (fun w hm => Kept.refl hm) ?_ ?_
  · rintro _ w' a rfl htx
    refine ⟨fun hm => ?_, fun hm => ?_⟩
    · exact (h _ w' a (hmisread _ _ _ htx hm) (hw (hmisread _ _ _ htx hm)) htx).1
    · exact (h _ w' a (hmisread _ _ _ htx hm) (hw (hmisread _ _ _ htx hm)) htx).2
  · rintro _ e rfl htx hm
    exact hexc e _ (hw hm) htx

/-- A step that only reads. -/
theorem read {f : World → α} :
    Does service workbook workspaceId exc pre (Program.atomic fun w => .ok (w, f w))
      fun a w => pre w ∧ f w = a := by
  refine atomic ?_ ?_ (fun _ _ _ he => nomatch he)
  · rintro w _ _ ⟨⟩ hm
    exact hm
  · rintro w _ _ hm hw ⟨⟩
    exact ⟨Kept.refl hm, hw, rfl⟩

/-- Once something has been misread, nothing is said any more. -/
theorem misread {a : α} {post : α → World → Prop} :
    Does service workbook workspaceId exc pre
      (do
        Program.atomic fun w => .ok ({ w with misread := true }, ())
        return a) post := by
  rintro w hw _ rfl
  refine ⟨fun hm => ?_, fun hm => ?_⟩ <;> cases hm

/-- An access to a store fails by itself, or is its transaction. -/
theorem storeCall {tx : Transaction World Scan.Failure α} {post : α → World → Prop}
    (hmisread : ∀ w w' a, tx w = .ok (w', a) → w'.misread = false → w.misread = false)
    (h : ∀ w w' a, w.misread = false → pre w → tx w = .ok (w', a) →
      Kept service workbook workspaceId w w' ∧ post a w')
    (hfault : ∀ (e : StoreFailure) w, pre w → exc (.other e.error) w)
    (hexc : ∀ e w, pre w → tx w = .error e → exc (.other e) w) :
    Does service workbook workspaceId exc pre (storeCall tx) post := by
  have hok : ∀ w w' a, (tx w).mapError Failure.other = .ok (w', a) → tx w = .ok (w', a) := by
    intro w w' a htx
    cases hx : tx w with
    | error e => rw [hx] at htx; cases htx
    | ok x => rw [hx] at htx; exact congrArg Except.ok (Except.ok.inj htx)
  refine bind (ask .fault) fun fault => ?_
  cases fault with
  | some e => exact throw (hfault e)
  | none =>
    refine atomic (fun w w' a htx => hmisread w w' a (hok w w' a htx))
      (fun w w' a hm hw htx => h w w' a hm hw (hok w w' a htx)) fun e w hw htx => ?_
    cases hx : tx w with
    | ok x => rw [hx] at htx; cases htx
    | error e' =>
      rw [hx] at htx
      cases htx
      exact hexc e' w hw hx

theorem readCall {f : World → Except Scan.Failure α}
    (hfault : ∀ (e : StoreFailure) w, pre w → exc (.other e.error) w)
    (hexc : ∀ e w, pre w → f w = .error e → exc (.other e) w) :
    Does service workbook workspaceId exc pre (readCall f) fun a w => pre w ∧ f w = .ok a := by
  have hread : ∀ w w' a, (f w).map (fun a => (w, a)) = .ok (w', a) → w' = w ∧ f w = .ok a := by
    intro w w' a htx
    obtain ⟨b, hb, he⟩ := Infra.map_ok htx
    cases he
    exact ⟨rfl, hb⟩
  refine storeCall ?_ ?_ hfault fun e w hw htx => hexc e w hw (Infra.map_error htx)
  · intro w w' a htx hm
    exact (hread w w' a htx).1 ▸ hm
  · intro w w' a hm hw htx
    obtain ⟨rfl, hf⟩ := hread w w' a htx
    exact ⟨Kept.refl hm, hw, hf⟩

/-- A step that always takes effect, unless the access fails by itself. -/
theorem write {f : World → World} {post : Unit → World → Prop}
    (hmisread : ∀ w, (f w).misread = w.misread)
    (h : ∀ w, w.misread = false → pre w → Kept service workbook workspaceId w (f w) ∧ post () (f w))
    (hfault : ∀ (e : StoreFailure) w, pre w → exc (.other e.error) w) :
    Does service workbook workspaceId exc pre (write f) post := by
  refine storeCall ?_ ?_ hfault (fun _ _ _ he => nomatch he)
  · rintro w _ _ ⟨⟩ hm
    exact (hmisread w).symm.trans hm
  · rintro w _ _ hm hw ⟨⟩
    exact h w hm hw

end Does

end Key

end Ingestion
