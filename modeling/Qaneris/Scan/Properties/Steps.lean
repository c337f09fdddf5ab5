import Qaneris.Scan.Initializer

/-!
# What a scan does to the stores

A scan moves its job from one status to the next many times, and only four of its steps matter to
anything else: it looks up the connection, chooses its version, publishes its graph, and commits its
snapshot. `Hooks` names what is known between them, and `run_triple` turns four facts about these
steps into a fact about the whole scan.
-/

namespace Scan

open Infra (Transaction commit)
open Infra.Program (Contract Triple)

/-! ## Quiet steps -/

/-- The catalog without its jobs. -/
def Catalog.facts (c : Catalog) : Catalog := { c with jobs := [] }

/-- Nothing but a job has changed. -/
structure Quiet (w w' : World) : Prop where
  graph : w'.graph = w.graph
  log : w'.log = w.log
  facts : w'.catalog.facts = w.catalog.facts

theorem Quiet.refl (w : World) : Quiet w w := ⟨rfl, rfl, rfl⟩

theorem snapshots_of_facts {c c' : Catalog} (h : c'.facts = c.facts) :
    c'.snapshots = c.snapshots := by
  show c'.facts.snapshots = c.facts.snapshots
  rw [h]

theorem createInitializationJob_facts {c c' : Catalog} {id datasourceId : String}
    {policy : ScanPolicy} {now : Instant} {job : InitializationJob}
    (h : c.createInitializationJob id datasourceId policy now = .ok (c', job)) :
    c'.facts = c.facts := by
  unfold Catalog.createInitializationJob at h
  split at h
  · cases h
  · split at h
    · cases h
    · cases h
      rfl

theorem updateInitializationJob_facts {c c' : Catalog} {jobId : String} {status : ScanStatus}
    {now : Instant} {snapshotId errorCode : Option String} {job : InitializationJob}
    (h : c.updateInitializationJob jobId status now snapshotId errorCode = .ok (c', job)) :
    c'.facts = c.facts := by
  unfold Catalog.updateInitializationJob at h
  split at h
  · cases h
  · split at h
    · cases h
    · cases h
      rfl

/-- Reading the datasource changes nothing. -/
theorem getDatasource_ok {c c' : Catalog} {datasource : Datasource} {connection : StoredConnection}
    (h : c.getDatasource = .ok (c', datasource, connection)) :
    c' = c ∧ c.datasource.map DatasourceRow.connection = some connection := by
  unfold Catalog.getDatasource at h
  split at h
  · cases h
  · next row hrow =>
    cases h
    exact ⟨rfl, by rw [hrow]; rfl⟩

theorem getConnectionProfile_ok {c c' : Catalog} {profile : Option ConnectionProfile}
    (h : c.getConnectionProfile = .ok (c', profile)) :
    c' = c ∧ ∃ connection, c.datasource.map DatasourceRow.connection = some connection ∧
      profile = connection.profile := by
  unfold Catalog.getConnectionProfile at h
  split at h
  · cases h
  · next row hrow =>
    cases h
    exact ⟨rfl, row.connection, by rw [hrow]; rfl, rfl⟩

theorem onCatalog_ok {α : Type} {tx : Catalog → Except Failure (Catalog × α)} {w w' : World} {a : α}
    (h : onCatalog tx w = .ok (w', a)) :
    ∃ catalog, tx w.catalog = .ok (catalog, a) ∧ w' = { w with catalog } := by
  unfold onCatalog at h
  cases htx : tx w.catalog with
  | error e => simp [htx, bind, Except.bind] at h
  | ok x =>
    obtain ⟨catalog, b⟩ := x
    simp only [htx, bind, Except.bind, pure, Except.pure, Except.ok.injEq, Prod.mk.injEq] at h
    obtain ⟨rfl, rfl⟩ := h
    exact ⟨catalog, rfl, rfl⟩

/-! ## Contracts -/

/-- Any question may be asked, and a quiet step is always within the contract. -/
structure Lenient (c : Contract World Question) : Prop where
  may : ∀ q w, c.may q w
  quiet : ∀ w w', Quiet w w' → c.guar w w'

/-- The others, and quiet steps, leave the assertion true. -/
structure Stable (c : Contract World Question) (p : World → Prop) : Prop where
  rely : ∀ w w', c.rely w w' → p w → p w'
  quiet : ∀ w w', Quiet w w' → p w → p w'

theorem stable_true (c : Contract World Question) : Stable c fun _ => True :=
  ⟨fun _ _ _ _ => trivial, fun _ _ _ _ => trivial⟩

section Rules

variable {c : Contract World Question} {α : Type} {pre : World → Prop}

theorem ask_triple (hl : Lenient c) (hs : Stable c pre) (q : Question) :
    Triple c pre (ask q) fun _ => pre :=
  Triple.ask (fun _ _ _ _ => hl.may _ _) fun w w' _ hw hr => hs.rely w w' hr hw

theorem askOk_triple (hl : Lenient c) (hs : Stable c pre) (q : Question)
    (h : Answer q = Except Failure α) : Triple c pre (askOk q h) fun _ => pre :=
  Triple.bind (ask_triple hl hs q) fun _ => Triple.ofExcept fun _ _ _ hw => hw

/-- A call to a store fails, or is one transaction. -/
theorem storeCall_triple {tx : Transaction World Failure α} {post : α → World → Prop}
    (hl : Lenient c) (hs : Stable c pre)
    (h : ∀ w w' a, pre w → tx w = .ok (w', a) → c.guar w w' ∧ post a w') :
    Triple c pre (storeCall tx) post := by
  refine Triple.bind (ask_triple hl hs .fault) ?_
  intro fault
  cases fault with
  | some e => exact Triple.throw
  | none =>
    refine Triple.atomic (fun w => hl.quiet w w (Quiet.refl w)) ?_
    intro w w' w'' a hw hr htx
    exact h w' w'' a (hs.rely w w' hr hw) htx

theorem catalogCall_triple {tx : Catalog → Except Failure (Catalog × α)} {post : α → World → Prop}
    (hl : Lenient c) (hs : Stable c pre)
    (h : ∀ w catalog a, pre w → tx w.catalog = .ok (catalog, a) →
      c.guar w { w with catalog } ∧ post a { w with catalog }) :
    Triple c pre (catalogCall tx) post := by
  refine storeCall_triple hl hs ?_
  intro w w' a hw htx
  obtain ⟨catalog, hc, rfl⟩ := onCatalog_ok htx
  exact h w catalog a hw hc

theorem updateJob_triple (hl : Lenient c) (hs : Stable c pre) (job : InitializationJob)
    (status : ScanStatus) (snapshotId : Option String) (error : Option Failure) :
    Triple c pre (updateJob job status snapshotId error) fun _ => pre := by
  refine Triple.bind (ask_triple hl hs .clock) fun now => catalogCall_triple hl hs ?_
  intro w catalog a hw htx
  have hq : Quiet w { w with catalog } := ⟨rfl, rfl, updateInitializationJob_facts htx⟩
  exact ⟨hl.quiet _ _ hq, hs.quiet _ _ hq hw⟩

theorem verify_triple (hl : Lenient c) (hs : Stable c pre) (job : InitializationJob) :
    Triple c pre (verify job) fun _ => pre := by
  unfold verify
  refine Triple.bind (updateJob_triple hl hs _ _ _ _) fun _ => ?_
  refine Triple.bind (askOk_triple hl hs _ _) fun _ => ?_
  refine Triple.bind (updateJob_triple hl hs _ _ _ _) fun _ => ?_
  exact Triple.pure fun _ h => h

theorem scan_triple (hl : Lenient c) (hs : Stable c pre) (job : InitializationJob) :
    Triple c pre (scan job) fun _ => pre := by
  unfold scan
  refine Triple.bind (updateJob_triple hl hs _ _ _ _) fun _ => ?_
  refine Triple.bind (askOk_triple hl hs _ _) fun datasets => ?_
  refine Triple.bind (askOk_triple hl hs _ _) fun relations => ?_
  refine Triple.bind (askOk_triple hl hs _ _) fun previews => ?_
  refine Triple.bind (askOk_triple hl hs _ _) fun records => ?_
  exact Triple.pure fun _ h => h

/-- Writing the documents leaves the version of the snapshot alone. -/
theorem documented_triple (hl : Lenient c) (hs : Stable c pre) (generateDocuments : Bool)
    (snapshot : ScanSnapshot) :
    Triple c pre (documented generateDocuments snapshot) fun s w =>
      pre w ∧ s.version = snapshot.version := by
  unfold documented
  split
  · unfold writeProfileDocuments
    refine Triple.bind (ask_triple hl hs (.writeDocuments snapshot)) ?_
    intro written
    cases written with
    | ok path => exact Triple.pure fun _ h => ⟨h, rfl⟩
    | error e => exact Triple.pure fun _ h => ⟨h, rfl⟩
  · exact Triple.pure fun _ h => ⟨h, rfl⟩

end Rules

/-! ## The four steps that matter -/

/-- What is known of the stores between the steps of a scan, and what the steps make of it. -/
structure Hooks (c : Contract World Question) where
  before : World → Prop
  looked : StoredConnection → World → Prop
  opened : StoredConnection → World → Prop
  numbered : StoredConnection → Nat → Nat → World → Prop
  published : StoredConnection → Nat → World → Prop
  before_stable : Stable c before
  looked_stable : ∀ o, Stable c (looked o)
  opened_stable : ∀ o, Stable c (opened o)
  numbered_stable : ∀ o v t, Stable c (numbered o v t)
  published_stable : ∀ o v, Stable c (published o v)
  look : ∀ w o, before w → w.stored = some o → looked o w
  open_ : ∀ w o o', looked o w → w.stored = some o' →
    opened ((o'.profile.map StoredConnection.secure).getD o) w
  number : ∀ w o, opened o w →
    c.guar w { w with log := w.log ++ [.versionRead] } ∧
      numbered o w.catalog.nextSnapshotVersion w.log.length
        { w with log := w.log ++ [.versionRead] }
  publish : ∀ w o t graph, numbered o graph.scanVersion t w →
    c.guar w { w with graph := some graph, log := w.log ++ [.published t graph] } ∧
      published o graph.scanVersion
        { w with graph := some graph, log := w.log ++ [.published t graph] }
  commit : ∀ w w' o snapshot datasets relations samples, published o snapshot.version w →
    commitSnapshot o snapshot datasets relations samples w = .ok (w', ()) → c.guar w w'

section Scan

variable {c : Contract World Question} (hl : Lenient c) (h : Hooks c)
include hl

theorem openConnection_triple : Triple c h.before openConnection h.opened := by
  unfold openConnection
  refine Triple.bind (m := fun x => h.looked x.2) (catalogCall_triple hl h.before_stable ?_) ?_
  · intro w catalog a hw htx
    obtain ⟨rfl, ho⟩ := getDatasource_ok htx
    exact ⟨hl.quiet _ _ (Quiet.refl w), h.look w a.2 hw ho⟩
  · rintro ⟨datasource, legacy⟩
    refine Triple.bind
      (m := fun profile => h.opened ((profile.map StoredConnection.secure).getD legacy))
      (catalogCall_triple hl (h.looked_stable legacy) ?_) fun profile => ?_
    · intro w catalog profile hw htx
      obtain ⟨rfl, o, ho, rfl⟩ := getConnectionProfile_ok htx
      exact ⟨hl.quiet _ _ (Quiet.refl w), h.open_ w legacy o hw ho⟩
    · refine Triple.bind (askOk_triple hl (h.opened_stable _) _ _) fun _ => ?_
      exact Triple.pure fun _ hw => hw

theorem readVersion_triple (o : StoredConnection) :
    Triple c (h.opened o) (storeCall readVersion) fun x => h.numbered o x.1 x.2 := by
  refine storeCall_triple hl (h.opened_stable o) ?_
  intro w w' a hw htx
  cases htx
  exact h.number w o hw

theorem replaceDatasourceGraph_triple (o : StoredConnection) {v t : Nat} {graph : ScanGraph}
    (hv : graph.scanVersion = v) :
    Triple c (h.numbered o v t) (storeCall (replaceDatasourceGraph t graph)) fun _ =>
      h.published o v := by
  subst hv
  refine storeCall_triple hl (h.numbered_stable o _ t) ?_
  intro w w' a hw htx
  cases htx
  exact h.publish w o t graph hw

theorem commitSnapshot_triple (o : StoredConnection) {v : Nat} {snapshot : ScanSnapshot}
    (hv : snapshot.version = v) (datasets : List DatasetInfo) (relations : List RelationInfo)
    (samples : List DatasetSample) :
    Triple c (h.published o v) (storeCall (commitSnapshot o snapshot datasets relations samples))
      fun _ _ => True := by
  subst hv
  refine storeCall_triple hl (h.published_stable o _) ?_
  intro w w' a hw htx
  exact ⟨h.commit w w' o snapshot datasets relations samples hw htx, trivial⟩

theorem publish_triple (generateDocuments : Bool) (job : InitializationJob) (datasource : Datasource)
    (o : StoredConnection) (scanned : Scanned) :
    Triple c (h.opened o) (publish generateDocuments job datasource o scanned) fun _ _ => True := by
  have hs := h.opened_stable o
  unfold publish
  refine Triple.bind (updateJob_triple hl hs _ _ _ _) fun _ => ?_
  refine Triple.bind (askOk_triple hl hs _ _) fun x => ?_
  obtain ⟨profile, relationships⟩ := x
  refine Triple.bind (ask_triple hl hs _) fun now => ?_
  refine Triple.bind (ask_triple hl hs _) fun uuid => ?_
  refine Triple.bind (readVersion_triple hl h o) fun x => ?_
  obtain ⟨v, t⟩ := x
  have hs := h.numbered_stable o v t
  -- the graph carries the version that was read
  refine Triple.bind (m := fun graph w => h.numbered o v t w ∧ graph.scanVersion = v)
    (Triple.ofExcept fun graph w hb hw => ⟨hw, build_scanVersion hb⟩) fun graph => ?_
  intro w hw
  obtain ⟨hw, hv⟩ := hw
  revert w
  refine Triple.bind (m := fun _ => h.numbered o v t) (Triple.ofExcept fun _ _ _ hw => hw)
    fun _ => ?_
  refine Triple.bind (askOk_triple hl hs _ _) fun _ => ?_
  refine Triple.bind (replaceDatasourceGraph_triple hl h o hv) fun _ => ?_
  have hs := h.published_stable o v
  refine Triple.bind (documented_triple hl hs _ _) fun snapshot => ?_
  intro w hw
  obtain ⟨hw, hv⟩ := hw
  revert w
  refine Triple.bind (commitSnapshot_triple hl h o hv _ _ _) fun _ => ?_
  exact updateJob_triple hl (stable_true c) _ _ _ _

/-- A whole scan keeps the contract. -/
theorem run_triple (generateDocuments : Bool) (job : InitializationJob) :
    Triple c h.before (run generateDocuments job) fun _ _ => True := by
  have failed : ∀ (status : ScanStatus) (e : Failure),
      Triple c (fun _ => True) (updateJob job status none (some e)) fun _ _ => True :=
    fun status e => updateJob_triple hl (stable_true c) _ _ _ _
  unfold run
  refine Triple.bind (m := fun _ => h.before) (catalogCall_triple hl h.before_stable ?_) fun x => ?_
  · intro w catalog a hw htx
    obtain ⟨rfl, -⟩ := getDatasource_ok htx
    exact ⟨hl.quiet _ _ (Quiet.refl w), hw⟩
  obtain ⟨datasource, -⟩ := x
  refine Triple.bind (openConnection_triple hl h) fun o => ?_
  have hs := h.opened_stable o
  refine Triple.bind (askOk_triple hl hs _ _) fun _ => ?_
  refine Triple.bind (m := fun r w => r.isOk → h.opened o w)
    (Triple.attempt ((verify_triple hl hs job).conseq (fun _ hw => hw) fun _ _ hw _ => hw)
      fun _ _ hf => nomatch hf) fun r => ?_
  cases r with
  | error e => exact (failed _ e).conseq (fun _ _ => trivial) fun _ _ _ => trivial
  | ok _ =>
    refine Triple.bind (m := fun r w => r.isOk → h.opened o w)
      (Triple.attempt ((scan_triple hl hs job).conseq (fun _ hw => hw rfl) fun _ _ hw _ => hw)
        fun _ _ hf => nomatch hf) fun r => ?_
    cases r with
    | error e => exact (failed _ e).conseq (fun _ _ => trivial) fun _ _ _ => trivial
    | ok scanned =>
      refine Triple.bind (m := fun _ _ => True)
        (Triple.attempt ((publish_triple hl h generateDocuments job datasource o scanned).conseq
          (fun _ hw => hw rfl) fun _ _ hw => hw) fun _ _ => trivial) fun r => ?_
      cases r with
      | error e => exact failed _ e
      | ok job' => exact Triple.pure fun _ _ => trivial

/-- `initialize` creates a job and runs it. -/
theorem initialize_triple (generateDocuments : Bool) (datasourceId : String) (policy : ScanPolicy) :
    Triple c h.before (initialize_ generateDocuments datasourceId policy) fun _ _ => True := by
  unfold initialize_
  refine Triple.bind (ask_triple hl h.before_stable _) fun now => ?_
  refine Triple.bind (ask_triple hl h.before_stable _) fun uuid => ?_
  refine Triple.bind (m := fun _ => h.before) (catalogCall_triple hl h.before_stable ?_)
    fun job => run_triple hl h generateDocuments job
  intro w catalog a hw htx
  have hq : Quiet w { w with catalog } := ⟨rfl, rfl, createInitializationJob_facts htx⟩
  exact ⟨hl.quiet _ _ hq, h.before_stable.quiet _ _ hq hw⟩

end Scan

/-! ## Changing the connection -/

section Update

variable {c : Contract World Question} {α : Type} {pre : World → Prop}

theorem reraise_triple {p : Prog α} {post : α → World → Prop} (f : Failure → Failure)
    (h : Triple c pre p post) : Triple c pre (reraise f p) post := by
  unfold reraise
  refine Triple.bind (m := fun r w => ∀ a, r = .ok a → post a w)
    (Triple.attempt (h.conseq (fun _ hw => hw) fun a w hw b hb => Except.ok.inj hb ▸ hw)
      fun _ _ _ hf => nomatch hf) fun r => ?_
  cases r with
  | error e => exact Triple.throw
  | ok a => exact Triple.pure fun _ hw => hw a rfl

/-- A change of the connection keeps a contract that its three writes keep. -/
theorem updateSecureDatasource_triple (hl : Lenient c) (candidate : ConnectionProfile)
    (delete : ∀ w, c.guar w { w with graph := none })
    (update : ∀ w catalog datasource,
      w.catalog.updateSecureDatasource candidate = .ok (catalog, datasource) →
        c.guar w { w with catalog })
    (invalidate : ∀ w catalog, w.catalog.invalidateDatasourceScan = .ok (catalog, ()) →
      c.guar w { w with catalog }) :
    Triple c (fun _ => True) (updateSecureDatasource candidate) fun _ _ => True := by
  have hs := stable_true c
  have hread : ∀ w : World, c.guar w w := fun w => hl.quiet w w (Quiet.refl w)
  unfold updateSecureDatasource
  refine Triple.bind (m := fun _ _ => True) (reraise_triple _ ?_) fun datasource => ?_
  · refine Triple.bind (m := fun _ _ => True) (catalogCall_triple hl hs ?_) fun x => ?_
    · intro w catalog a _ htx
      obtain ⟨rfl, -⟩ := getDatasource_ok htx
      exact ⟨hread w, trivial⟩
    · exact Triple.pure fun _ _ => trivial
  refine Triple.bind (m := fun _ _ => True) (catalogCall_triple hl hs ?_) fun previous => ?_
  · intro w catalog a _ htx
    obtain ⟨rfl, -⟩ := getConnectionProfile_ok htx
    exact ⟨hread w, trivial⟩
  cases previous with
  | none => exact Triple.throw
  | some previous =>
    refine Triple.bind (m := fun _ _ => True) (reraise_triple _ ?_) fun _ => ?_
    · refine Triple.bind (askOk_triple hl hs _ _) fun _ => ?_
      refine Triple.bind (askOk_triple hl hs _ _) fun _ => ?_
      exact askOk_triple hl hs _ _
    refine Triple.bind (m := fun _ _ => True) (reraise_triple _ (storeCall_triple hl hs ?_)) fun _ => ?_
    · intro w w' a _ htx
      cases htx
      exact ⟨delete w, trivial⟩
    refine Triple.bind (m := fun _ _ => True) (reraise_triple _ ?_) fun updated => ?_
    · refine Triple.bind (m := fun _ _ => True) (catalogCall_triple hl hs ?_) fun _ => ?_
      · exact fun w catalog a _ htx => ⟨update w catalog a htx, trivial⟩
      refine Triple.bind (m := fun _ _ => True) (catalogCall_triple hl hs ?_) fun _ => ?_
      · exact fun w catalog _ _ htx => ⟨invalidate w catalog htx, trivial⟩
      exact Triple.pure fun _ _ => trivial
    refine Triple.bind (ask_triple hl hs _) fun _ => ?_
    exact Triple.pure fun _ _ => trivial

end Update

end Scan
