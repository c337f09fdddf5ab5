import Qaneris.Federation.Mappings
import Qaneris.Infra.Ensemble

/-!
# What becomes of a join mapping

* `mappings_governed` — along every run of the calls: a mapping is never lost and never becomes another
  one, a rejected one stays rejected, and what a confirmed one says of its sides was so at some moment
* `executable_answers` — what each outcome of `executable` says of the moments of its call, whatever the
  other calls and the scans do meanwhile
-/

namespace Federation.JoinMappingGovernance

open Infra (Chronicle Ensemble Pool Program)
open Infra.Chronicle (Always Continues)
open Infra.Program (wp)

/-! ## What a row may become -/

/-- What no call changes: the mapping without its status and its confirmation. -/
def identity (m : JoinMapping) : JoinMapping :=
  { m with
    left := unscanned m.left, right := unscanned m.right, status := .candidate
    confirmedBy := none, confirmedAt := none, updatedAt := 0 }

theorem mappingId_of_identity {m m' : JoinMapping} (h : identity m' = identity m) :
    m'.mappingId = m.mappingId := by
  have hid := congrArg JoinMapping.mappingId h
  exact hid

theorem workspaceId_of_identity {m m' : JoinMapping} (h : identity m' = identity m) :
    m'.workspaceId = m.workspaceId := by
  have hworkspace := congrArg JoinMapping.workspaceId h
  exact hworkspace

/-- What one call may do to the status. -/
inductive StatusStep : JoinMappingStatus → JoinMappingStatus → Prop where
  | confirm : StatusStep .candidate .confirmed
  | confirmAgain : StatusStep .stale .confirmed
  | expire : StatusStep .confirmed .stale
  | reject (status : JoinMappingStatus) : StatusStep status .rejected

abbrev StatusPath : JoinMappingStatus → JoinMappingStatus → Prop := Relation.ReflTransGen StatusStep

theorem StatusPath.rejected {status : JoinMappingStatus} (h : StatusPath .rejected status) :
    status = .rejected := by
  induction h with
  | refl => rfl
  | tail _ hs ih =>
    subst ih
    cases hs
    rfl

/-- No call makes a candidate of a mapping that was one no longer. -/
theorem StatusPath.of_candidate {status : JoinMappingStatus} (h : StatusPath status .candidate) :
    status = .candidate := by
  rcases Relation.ReflTransGen.cases_tail h with heq | ⟨_, _, hs⟩
  · exact heq.symm
  · cases hs

/-- `row'` is what has become of `row`. -/
structure Succeeds (row row' : MappingRow) : Prop where
  mappingId : row'.mappingId = row.mappingId
  workspaceId : row'.workspaceId = row.workspaceId
  identity : identity row'.state = identity row.state
  status : StatusPath row.state.status row'.state.status
  revision : row.revision ≤ row'.revision
  unchanged : row'.revision = row.revision → row' = row

theorem Succeeds.refl (row : MappingRow) : Succeeds row row :=
  ⟨rfl, rfl, rfl, .refl, Nat.le_refl _, fun _ => rfl⟩

theorem Succeeds.trans {row₁ row₂ row₃ : MappingRow} (h : Succeeds row₁ row₂) (h' : Succeeds row₂ row₃) :
    Succeeds row₁ row₃ where
  mappingId := h'.mappingId.trans h.mappingId
  workspaceId := h'.workspaceId.trans h.workspaceId
  identity := h'.identity.trans h.identity
  status := Relation.ReflTransGen.trans h.status h'.status
  revision := h.revision.trans h'.revision
  unchanged := by
    intro heq
    have h₁ := h.revision
    have h₂ := h'.revision
    obtain rfl := h'.unchanged (by omega)
    exact h.unchanged heq

/-- Every row of the earlier moment is still there, as what has become of it. -/
def Inherits (earlier later : Moment) : Prop :=
  ∀ row ∈ earlier.store.mappings, ∃ row' ∈ later.store.mappings, Succeeds row row'

theorem Inherits.refl (moment : Moment) : Inherits moment moment :=
  fun row hrow => ⟨row, hrow, .refl row⟩

theorem Inherits.trans {a b c : Moment} (h : Inherits a b) (h' : Inherits b c) : Inherits a c := by
  intro row hrow
  obtain ⟨row', hrow', hs⟩ := h row hrow
  obtain ⟨row'', hrow'', hs'⟩ := h' row' hrow'
  exact ⟨row'', hrow'', hs.trans hs'⟩

/-! ## What a row says -/

/-- The side names a version that was the active one, of a datasource that was ready and with a field that
was published in that version, each at one of the moments. -/
def Certified (moments : List Moment) (workspaceId : String) (side : MappingSide) : Prop :=
  ∃ version, side.scanVersion = some version ∧
    (∃ x ∈ moments, isReady x.published workspaceId side) ∧
    (∃ x ∈ moments, x.published.active side.datasourceId = some version) ∧
    ∃ x ∈ moments,
      checkStructure (x.published.structureOf workspaceId side.datasourceId) side version = .ok ()

theorem Certified.mono {moments moments' : List Moment} {workspaceId : String} {side : MappingSide}
    (hsub : moments ⊆ moments') (h : Certified moments workspaceId side) :
    Certified moments' workspaceId side := by
  obtain ⟨version, hversion, ⟨x, hx, hready⟩, ⟨y, hy, hactive⟩, z, hz, hcheck⟩ := h
  exact ⟨version, hversion, ⟨x, hsub hx, hready⟩, ⟨y, hsub hy, hactive⟩, z, hsub hz, hcheck⟩

/-- The state of a mapping is one that the governance gives. -/
structure Governed (moments : List Moment) (m : JoinMapping) : Prop where
  distinct : m.left.datasourceId ≠ m.right.datasourceId
  candidate : m.status = .candidate →
    m.confirmedBy = none ∧ m.confirmedAt = none ∧ ∀ side ∈ m.sides, side.scanVersion = none
  confirmed : m.status = .confirmed ∨ m.status = .stale →
    (∀ side ∈ m.sides, Certified moments m.workspaceId side) ∧
      (∃ label, ¬ Infra.isBlank label ∧
        m.confirmedBy = some (String.ofList (Infra.strip label.toList))) ∧ m.confirmedAt ≠ none

theorem Governed.mono {moments moments' : List Moment} {m : JoinMapping} (hsub : moments ⊆ moments')
    (h : Governed moments m) : Governed moments' m where
  distinct := h.distinct
  candidate := h.candidate
  confirmed := fun hstatus =>
    have hc := h.confirmed hstatus
    ⟨fun side hside => (hc.1 side hside).mono hsub, hc.2⟩

theorem Governed.updated {moments : List Moment} {m : JoinMapping} (h : Governed moments m)
    (now : Instant) : Governed moments { m with updatedAt := now } :=
  ⟨h.distinct, h.candidate, h.confirmed⟩

/-- What holds of a moment, given the moments before it. -/
structure Kept (moment : Moment) (past : List Moment) : Prop where
  unique : (moment.store.mappings.map (·.mappingId)).Nodup
  keyed : ∀ row ∈ moment.store.mappings,
    row.state.mappingId = row.mappingId ∧ row.state.workspaceId = row.workspaceId
  governed : ∀ row ∈ moment.store.mappings, Governed (moment :: past) row.state
  inherited : ∀ earlier ∈ past, Inherits earlier moment

def Sound (w : World) : Prop := w.Always Kept

/-- What the calls and everything else do to the world. -/
def Evolves (w w' : World) : Prop := Continues w w' ∧ (Sound w → Sound w')

theorem Evolves.refl (w : World) : Evolves w w := ⟨.refl w, id⟩

theorem Evolves.trans {w₁ w₂ w₃ : World} (h : Evolves w₁ w₂) (h' : Evolves w₂ w₃) : Evolves w₁ w₃ :=
  ⟨h.1.trans h'.1, fun hs => h'.2 (h.2 hs)⟩

/-- A new moment that inherits from the present one inherits from all. -/
theorem Sound.goOn {w : World} {moment : Moment} (h : Sound w)
    (hunique : (moment.store.mappings.map (·.mappingId)).Nodup)
    (hkeyed : ∀ row ∈ moment.store.mappings,
      row.state.mappingId = row.mappingId ∧ row.state.workspaceId = row.workspaceId)
    (hgoverned : ∀ row ∈ moment.store.mappings, Governed (moment :: w.moments) row.state)
    (hinherits : Inherits w.now moment) : Sound (w.goOn moment) := by
  refine Always.goOn h ⟨hunique, hkeyed, hgoverned, ?_⟩
  intro earlier hearlier
  rcases List.mem_cons.mp hearlier with rfl | hpast
  · exact hinherits
  · exact (h.now.inherited earlier hpast).trans hinherits

/-- What was governed is governed at the next moment too. -/
theorem Sound.governed_now {w : World} {moment : Moment} (h : Sound w) {row : MappingRow}
    (hrow : row ∈ w.now.store.mappings) : Governed (moment :: w.moments) row.state :=
  (h.now.governed row hrow).mono (List.subset_cons_self _ _)

theorem evolves_elsewhere {w w' : World} (h : Elsewhere w w') : Evolves w w' := by
  obtain ⟨moment, hsame, rfl⟩ := h
  refine ⟨Chronicle.continues_goOn w moment, fun hs => hs.goOn ?_ ?_ ?_ ?_⟩
  · rw [hsame]
    exact hs.now.unique
  · rw [hsame]
    exact hs.now.keyed
  · rw [hsame]
    exact fun row hrow => hs.governed_now hrow
  · intro row hrow
    exact ⟨row, hsame ▸ hrow, .refl row⟩

/-! ## The transactions -/

theorem mapping_ok {s : Store} {mappingId : String} {m : JoinMapping} (h : s.mapping mappingId = .ok m) :
    ∃ row ∈ s.mappings, row.mappingId = mappingId ∧ row.state = m := by
  unfold Store.mapping at h
  cases hf : s.mappings.find? fun row => row.mappingId = mappingId with
  | none => simp [hf] at h
  | some row =>
    simp only [hf, Except.ok.injEq] at h
    exact ⟨row, List.mem_of_find?_eq_some hf, by simpa using List.find?_some hf, h⟩

theorem mapping_of_mem {s : Store} (hunique : (s.mappings.map (·.mappingId)).Nodup) {row : MappingRow}
    (hrow : row ∈ s.mappings) : s.mapping row.mappingId = .ok row.state := by
  unfold Store.mapping
  cases hf : s.mappings.find? fun r => r.mappingId = row.mappingId with
  | none =>
    have hnone := List.find?_eq_none.mp hf row hrow
    simp at hnone
  | some row' =>
    have hid : row'.mappingId = row.mappingId := by simpa using List.find?_some hf
    rw [List.inj_on_of_nodup_map hunique (List.mem_of_find?_eq_some hf) hrow hid]

theorem putMapping_ok {s s' : Store} {now : Instant} {m : JoinMapping} {expected : JoinMappingStatus}
    {u : Unit} (h : s.putMapping now m expected = .ok (s', u)) :
    ∃ current, s.mapping m.mappingId = .ok current ∧ current.status = expected ∧
      s' = { s with mappings := s.mappings.map (Store.rewriteRow now m) } := by
  unfold Store.putMapping at h
  cases hm : s.mapping m.mappingId with
  | error e => simp [hm] at h
  | ok current =>
    simp only [hm] at h
    split at h
    · cases h
    · next hstatus =>
      cases h
      exact ⟨current, rfl, not_not.mp hstatus, rfl⟩

theorem addMapping_ok {s s' : Store} {m m' : JoinMapping} (h : s.addMapping m = .ok (s', m')) :
    m.status = .candidate ∧ (∀ row ∈ s.mappings, row.mappingId ≠ m.mappingId) ∧
      s' = { s with mappings := s.mappings ++ [{
        mappingId := m.mappingId, workspaceId := m.workspaceId, state := m }] } ∧ m' = m := by
  unfold Store.addMapping at h
  split at h
  · cases h
  · next hstatus =>
    split at h
    · cases h
    · next hfresh =>
      cases h
      exact ⟨not_not.mp hstatus, fun row hrow heq => hfresh (List.any_eq_true.mpr ⟨row, hrow, by simp [heq]⟩),
        rfl, rfl⟩

/-- The mapping was read at one of the moments. -/
def Held (w : World) (m : JoinMapping) : Prop := ∃ x ∈ w.moments, x.store.mapping m.mappingId = .ok m

theorem Held.mono {w w' : World} {m : JoinMapping} (h : Held w m) (hc : Continues w w') : Held w' m := by
  obtain ⟨x, hx, hm⟩ := h
  exact ⟨x, hc.mem hx, hm⟩

/-- What has become by now of a mapping that was read. -/
theorem Sound.current {w : World} {m : JoinMapping} (hs : Sound w) (h : Held w m) :
    ∃ row ∈ w.now.store.mappings, row.mappingId = m.mappingId ∧ identity row.state = identity m ∧
      StatusPath m.status row.state.status := by
  obtain ⟨x, hx, hm⟩ := h
  obtain ⟨row, hrow, hid, rfl⟩ := mapping_ok hm
  have hinherits : Inherits x w.now := by
    rcases List.mem_cons.mp hx with rfl | hpast
    · exact .refl _
    · exact hs.now.inherited x hpast
  obtain ⟨row', hrow', hsucc⟩ := hinherits row hrow
  exact ⟨row', hrow', hsucc.mappingId.trans hid, hsucc.identity, hsucc.status⟩

theorem rewriteRow_mappingId (now : Instant) (m : JoinMapping) (row : MappingRow) :
    (Store.rewriteRow now m row).mappingId = row.mappingId := by
  unfold Store.rewriteRow
  split <;> rfl

/-- What a mapping is rewritten as, when its status is still the one it was read with. -/
theorem evolves_put {w : World} {m m' : JoinMapping} {now : Instant} {s : Store} {u : Unit}
    (hheld : Held w m) (hidentity : identity m' = identity m) (hpath : StatusPath m.status m'.status)
    (hgoverned : Sound w → Governed w.moments m')
    (htx : w.now.store.putMapping now m' m.status = .ok (s, u)) :
    Evolves w (w.goOn { w.now with store := s }) := by
  refine ⟨Chronicle.continues_goOn _ _, fun hs => ?_⟩
  obtain ⟨current, hcurrent, hstatus, rfl⟩ := putMapping_ok htx
  have hid := mappingId_of_identity hidentity
  have hworkspace := workspaceId_of_identity hidentity
  -- the row that is rewritten has the identity of what was read, and its status
  have hrewritten : ∀ row ∈ w.now.store.mappings, row.mappingId = m'.mappingId →
      identity row.state = identity m ∧ row.state.status = m.status := by
    intro row hrow hrowid
    obtain ⟨row', hrow', hid', hidentity', -⟩ := hs.current hheld
    obtain rfl := List.inj_on_of_nodup_map hs.now.unique hrow' hrow (hid'.trans (hid.symm.trans hrowid.symm))
    have hread := mapping_of_mem hs.now.unique hrow
    rw [hrowid, hcurrent] at hread
    cases hread
    exact ⟨hidentity', hstatus⟩
  refine hs.goOn ?_ ?_ ?_ ?_
  · have hmap : (w.now.store.mappings.map (Store.rewriteRow now m')).map (·.mappingId) =
        w.now.store.mappings.map (·.mappingId) := by
      simp [Function.comp_def, rewriteRow_mappingId]
    rw [hmap]
    exact hs.now.unique
  · intro row' hrow'
    obtain ⟨row, hrow, rfl⟩ := List.mem_map.mp hrow'
    have hkeyed := hs.now.keyed row hrow
    unfold Store.rewriteRow
    split
    · next hrowid =>
      have hsame := workspaceId_of_identity (hrewritten row hrow hrowid).1
      exact ⟨hrowid.symm, hworkspace.trans (hsame.symm.trans hkeyed.2)⟩
    · exact hkeyed
  · intro row' hrow'
    obtain ⟨row, hrow, rfl⟩ := List.mem_map.mp hrow'
    unfold Store.rewriteRow
    split
    · exact ((hgoverned hs).updated now).mono (List.subset_cons_self _ _)
    · exact hs.governed_now hrow
  · intro row hrow
    refine ⟨_, List.mem_map_of_mem hrow, ?_⟩
    unfold Store.rewriteRow
    split
    · next hrowid =>
      obtain ⟨hidentity', hstatus'⟩ := hrewritten row hrow hrowid
      refine ⟨rfl, rfl, hidentity.trans hidentity'.symm, ?_, Nat.le_succ _, ?_⟩
      · show StatusPath row.state.status m'.status
        rw [hstatus']
        exact hpath
      · exact fun heq => absurd heq (Nat.succ_ne_self _)
    · exact .refl row

theorem evolves_add {w : World} {m m' : JoinMapping} {s : Store}
    (hgoverned : Governed w.moments m) (htx : w.now.store.addMapping m = .ok (s, m')) :
    Evolves w (w.goOn { w.now with store := s }) := by
  refine ⟨Chronicle.continues_goOn _ _, fun hs => ?_⟩
  obtain ⟨-, hfresh, rfl, -⟩ := addMapping_ok htx
  refine hs.goOn ?_ ?_ ?_ ?_
  · rw [List.map_append, List.nodup_append]
    refine ⟨hs.now.unique, by simp, ?_⟩
    intro a ha b hb
    obtain ⟨row, hrow, rfl⟩ := List.mem_map.mp ha
    obtain rfl : b = m.mappingId := by simpa using hb
    exact hfresh row hrow
  · intro row hrow
    rcases List.mem_append.mp hrow with hold | hnew
    · exact hs.now.keyed row hold
    · obtain rfl := List.mem_singleton.mp hnew
      exact ⟨rfl, rfl⟩
  · intro row hrow
    rcases List.mem_append.mp hrow with hold | hnew
    · exact hs.governed_now hold
    · obtain rfl := List.mem_singleton.mp hnew
      exact hgoverned.mono (List.subset_cons_self _ _)
  · exact fun row hrow => ⟨row, List.mem_append_left _ hrow, .refl row⟩

theorem Sound.governed_of_held {w : World} {m : JoinMapping} (hs : Sound w) (h : Held w m) :
    Governed w.moments m := by
  obtain ⟨x, hx, hm⟩ := h
  obtain ⟨row, hrow, -, rfl⟩ := mapping_ok hm
  obtain ⟨past, hsuffix, hkept⟩ := Always.of_mem hs hx
  exact (hkept.governed row hrow).mono hsuffix.subset

/-- A mapping that was read can be read at any later moment. -/
theorem Sound.mapping_held {w : World} {m : JoinMapping} (hs : Sound w) (h : Held w m) :
    ∃ current, w.now.store.mapping m.mappingId = .ok current := by
  obtain ⟨row, hrow, hid, -⟩ := hs.current h
  exact ⟨row.state, hid ▸ mapping_of_mem hs.now.unique hrow⟩

theorem putMapping_mapping {s s' : Store} {now : Instant} {m : JoinMapping}
    {expected : JoinMappingStatus} {u : Unit} (h : s.putMapping now m expected = .ok (s', u)) :
    s'.mapping m.mappingId = .ok { m with updatedAt := now } := by
  obtain ⟨current, hcurrent, -, rfl⟩ := putMapping_ok h
  obtain ⟨row, hrow, hid, -⟩ := mapping_ok hcurrent
  unfold Store.mapping
  simp only [List.find?_map]
  cases hf : s.mappings.find? ((fun row => decide (row.mappingId = m.mappingId)) ∘ Store.rewriteRow now m) with
  | none =>
    have hnone := List.find?_eq_none.mp hf row hrow
    simp [rewriteRow_mappingId, hid] at hnone
  | some found =>
    have hfound : found.mappingId = m.mappingId := by
      simpa [rewriteRow_mappingId] using List.find?_some hf
    simp [Store.rewriteRow, hfound]

/-! ## Rules for the calls to the stores -/

/-- Everyone does what `Evolves` says. -/
def calls : Program.Contract World Question where
  rely := Evolves
  guar := Evolves

section Rules

variable {α : Type} {post : α → World → Prop} {exc : Raised → World → Prop} {w : World}

theorem wp_ask {q : Question} {post : Answer q → World → Prop}
    (h : ∀ r w', Evolves w w' → post r w') : wp calls post exc (ask q) w :=
  fun w' hw' => ⟨trivial, fun r => h r w' hw'⟩

theorem wp_readCall {read : Moment → Except Failure α}
    (haccess : ∀ message w', Evolves w w' → exc (.access message) w')
    (herror : ∀ e w', Evolves w w' → read w'.now = .error e → exc (.failure e) w')
    (hok : ∀ a w', Evolves w w' → read w'.now = .ok a → post a w') :
    wp calls post exc (readCall read) w := by
  refine Program.wp_bind (wp_ask fun fault w' hw' => ?_)
  cases fault with
  | some message => exact haccess message w' hw'
  | none =>
    refine Program.wp_atomic Evolves.refl ?_ ?_
    · intro w₁ w₂ a hw₁ htx
      cases hread : read w₁.now with
      | error e => simp [hread] at htx
      | ok b =>
        simp only [hread, Except.ok.injEq, Prod.mk.injEq] at htx
        obtain ⟨rfl, rfl⟩ := htx
        exact ⟨.refl _, hok _ _ (hw'.trans hw₁) hread⟩
    · intro w₁ e hw₁ htx
      cases hread : read w₁.now with
      | error e' =>
        simp only [hread, Except.error.injEq] at htx
        subst htx
        exact herror e' w₁ (hw'.trans hw₁) hread
      | ok b => simp [hread] at htx

theorem wp_storeCall {tx : Infra.Transaction Store Failure α}
    (haccess : ∀ message w', Evolves w w' → exc (.access message) w')
    (herror : ∀ e w', Evolves w w' → tx w'.now.store = .error e → exc (.failure e) w')
    (hok : ∀ s a w', Evolves w w' → tx w'.now.store = .ok (s, a) →
      Evolves w' (w'.goOn { w'.now with store := s }) ∧
        post a (w'.goOn { w'.now with store := s })) :
    wp calls post exc (storeCall tx) w := by
  refine Program.wp_bind (wp_ask fun fault w' hw' => ?_)
  cases fault with
  | some message => exact haccess message w' hw'
  | none =>
    refine Program.wp_atomic Evolves.refl ?_ ?_
    · intro w₁ w₂ a hw₁ htx
      unfold transact at htx
      cases hrun : tx w₁.now.store with
      | error e => simp [hrun] at htx
      | ok x =>
        obtain ⟨s, b⟩ := x
        simp only [hrun, Except.ok.injEq, Prod.mk.injEq] at htx
        obtain ⟨rfl, rfl⟩ := htx
        exact hok s b w₁ (hw'.trans hw₁) hrun
    · intro w₁ e hw₁ htx
      unfold transact at htx
      cases hrun : tx w₁.now.store with
      | error e' =>
        simp only [hrun, Except.error.injEq] at htx
        subst htx
        exact herror e' w₁ (hw'.trans hw₁) hrun
      | ok x => simp [hrun] at htx

/-- What a mapping that was read becomes, as long as its status is the one it was read with. -/
structure Becomes (w : World) (m m' : JoinMapping) : Prop where
  held : Held w m
  identity : identity m' = identity m
  status : StatusPath m.status m'.status
  governed : ∀ w', Evolves w w' → Sound w' → Governed w'.moments m'

theorem wp_saveMapping {post : JoinMapping → World → Prop} {m m' : JoinMapping} (h : Becomes w m m')
    (haccess : ∀ message w', Evolves w w' → exc (.access message) w')
    (herror : ∀ e now w', Evolves w w' → w'.now.store.putMapping now m' m.status = .error e →
      exc (.failure e) w')
    (hlost : ∀ e w', Evolves w w' → w'.now.store.mapping m'.mappingId = .error e → exc (.failure e) w')
    (hok : ∀ a s now w₁ w₂, Evolves w w₁ → w₁.now.store.putMapping now m' m.status = .ok (s, ()) →
      Evolves (w₁.goOn { w₁.now with store := s }) w₂ → post a w₂) :
    wp calls post exc (saveMapping m' m.status) w := by
  refine Program.wp_bind (wp_ask fun now w₀ hw₀ => ?_)
  refine Program.wp_bind (wp_storeCall ?_ ?_ ?_)
  · exact fun message w₁ hw₁ => haccess message w₁ (hw₀.trans hw₁)
  · exact fun e w₁ hw₁ htx => herror e now w₁ (hw₀.trans hw₁) htx
  intro s u w₁ hw₁ htx
  have hevolves := hw₀.trans hw₁
  have hput : Evolves w₁ (w₁.goOn { w₁.now with store := s }) :=
    evolves_put (h.held.mono hevolves.1) h.identity h.status (h.governed w₁ hevolves) htx
  refine ⟨hput, wp_readCall ?_ ?_ ?_⟩
  · exact fun message w₂ hw₂ => haccess message w₂ ((hevolves.trans hput).trans hw₂)
  · exact fun e w₂ hw₂ hread => hlost e w₂ ((hevolves.trans hput).trans hw₂) hread
  · exact fun a w₂ hw₂ _ => hok a s now w₁ w₂ hevolves htx hw₂

end Rules

/-! ## The calls -/

section Calls

variable {w : World} {post : JoinMapping → World → Prop}

/-- Nothing is said of how a call fails. -/
abbrev anyhow : Raised → World → Prop := fun _ _ => True

theorem held_of_read {m : JoinMapping} {mappingId : String} (h : w.now.store.mapping mappingId = .ok m)
    (hs : Sound w) : Held w m ∧ m.mappingId = mappingId := by
  obtain ⟨row, hrow, hid, rfl⟩ := mapping_ok h
  have hkey : row.state.mappingId = mappingId := (hs.now.keyed row hrow).1.trans hid
  exact ⟨⟨w.now, w.now_mem, by rw [hkey]; exact h⟩, hkey⟩

theorem wp_versionAndField {post : Int → World → Prop} {workspaceId : String} {side : MappingSide}
    (h : ∀ version w', Evolves w w' →
      Certified w'.moments workspaceId { side with scanVersion := some version } → post version w') :
    wp calls post anyhow (versionAndField workspaceId side) w := by
  refine Program.wp_bind (wp_readCall (fun _ _ _ => trivial) (fun _ _ _ _ => trivial) ?_)
  intro ready w₁ hw₁ hready
  split
  · trivial
  next hr =>
  refine Program.wp_bind (wp_readCall (fun _ _ _ => trivial) (fun _ _ _ _ => trivial) ?_)
  intro version w₂ hw₂ hversion
  cases version with
  | none => trivial
  | some version =>
    refine Program.wp_bind (wp_readCall (fun _ _ _ => trivial) (fun _ _ _ _ => trivial) ?_)
    intro u w₃ hw₃ hcheck
    refine h version w₃ ((hw₁.trans hw₂).trans hw₃) ⟨version, rfl, ?_, ?_, ?_⟩
    · refine ⟨w₁.now, (hw₂.trans hw₃).1.mem w₁.now_mem, ?_⟩
      exact (Except.ok.inj hready).trans (not_not.mp hr)
    · exact ⟨w₂.now, hw₃.1.mem w₂.now_mem, Except.ok.inj hversion⟩
    · exact ⟨w₃.now, w₃.now_mem, hcheck⟩

theorem becomes_confirmed {m : JoinMapping} {left right : Int} {label : String} {now : Instant}
    (hs : Sound w) (hheld : Held w m) (hstatus : m.status = .candidate ∨ m.status = .stale)
    (hlabel : ¬ Infra.isBlank label)
    (hleft : Certified w.moments m.workspaceId { m.left with scanVersion := some left })
    (hright : Certified w.moments m.workspaceId { m.right with scanVersion := some right }) :
    Becomes w m (confirmed m left right label now) where
  held := hheld
  identity := rfl
  status := by
    rcases hstatus with heq | heq
    · exact heq ▸ .single .confirm
    · exact heq ▸ .single .confirmAgain
  governed := by
    intro w' hw' _
    refine ⟨(hs.governed_of_held hheld).distinct, fun h => (by cases h), fun _ => ⟨?_, ?_, ?_⟩⟩
    · intro side hside
      rcases List.mem_pair.mp hside with rfl | rfl
      · exact hleft.mono fun _ hx => hw'.1.mem hx
      · exact hright.mono fun _ hx => hw'.1.mem hx
    · exact ⟨label, hlabel, rfl⟩
    · exact Option.some_ne_none _

theorem becomes_rejected {m : JoinMapping} (hs : Sound w) (hheld : Held w m) :
    Becomes w m { m with status := .rejected } where
  held := hheld
  identity := rfl
  status := .single (.reject _)
  governed := fun _ _ _ =>
    ⟨(hs.governed_of_held hheld).distinct, fun h => (by cases h), fun h => (by rcases h with h | h <;> cases h)⟩

theorem becomes_stale {m : JoinMapping} (hheld : Held w m) (hstatus : m.status = .confirmed) :
    Becomes w m { m with status := .stale } where
  held := hheld
  identity := rfl
  status := hstatus ▸ .single .expire
  governed := by
    intro w' hw' hs
    have hg := hs.governed_of_held (hheld.mono hw'.1)
    exact ⟨hg.distinct, fun h => (by cases h), fun _ => hg.confirmed (Or.inl hstatus)⟩

/-- A mapping that `create` makes. -/
theorem candidate_governed {fields : MappingFields} {mappingId : String} {createdAt updatedAt : Instant}
    {m : JoinMapping} (moments : List Moment) (h : candidate fields mappingId createdAt updatedAt = some m)
    (hdistinct : m.left.datasourceId ≠ m.right.datasourceId) : Governed moments m := by
  unfold candidate at h
  split at h
  · cases h
  · split at h
    · cases h
      refine ⟨hdistinct, fun _ => ⟨rfl, rfl, ?_⟩, fun h => (by rcases h with h | h <;> cases h)⟩
      intro side hside
      rcases List.mem_pair.mp hside with rfl | rfl <;> rfl
    · cases h

theorem wp_create (fields : MappingFields) : wp calls (fun _ _ => True) anyhow (create fields) w := by
  refine Program.wp_bind (wp_ask fun mappingId w₁ _ => ?_)
  refine Program.wp_bind (wp_ask fun createdAt w₂ _ => ?_)
  refine Program.wp_bind (wp_ask fun updatedAt w₃ _ => ?_)
  split
  · trivial
  next m hm =>
  split
  · trivial
  next hdistinct =>
  refine wp_storeCall (fun _ _ _ => trivial) (fun _ _ _ _ => trivial) ?_
  exact fun s a w₄ _ htx => ⟨evolves_add (candidate_governed _ hm hdistinct) htx, trivial⟩

theorem wp_confirm (mappingId label : String) (hs : Sound w) :
    wp calls (fun _ _ => True) anyhow (confirm mappingId label) w := by
  refine Program.wp_bind (wp_readCall (fun _ _ _ => trivial) (fun _ _ _ _ => trivial) ?_)
  intro m w₁ hw₁ hread
  split
  · trivial
  next hstatus =>
  split
  · trivial
  next hlabel =>
  refine Program.wp_bind (wp_versionAndField fun left w₂ hw₂ hleft => ?_)
  refine Program.wp_bind (wp_versionAndField fun right w₃ hw₃ hright => ?_)
  refine Program.wp_bind (wp_ask fun now w₄ hw₄ => ?_)
  have hlater := (hw₂.trans hw₃).trans hw₄
  have hheld := (held_of_read hread (hw₁.2 hs)).1.mono hlater.1
  have hstatus' : m.status = .candidate ∨ m.status = .stale := by
    simpa [or_iff_not_imp_left] using hstatus
  have hbecomes : Becomes w₄ m (confirmed m left right label now) := becomes_confirmed
    (hlater.2 (hw₁.2 hs)) hheld hstatus' hlabel
    (hleft.mono fun _ hx => (hw₃.trans hw₄).1.mem hx) (hright.mono fun _ hx => hw₄.1.mem hx)
  exact wp_saveMapping hbecomes (fun _ _ _ => trivial) (fun _ _ _ _ _ => trivial)
    (fun _ _ _ _ => trivial) fun _ _ _ _ _ _ _ _ => trivial

theorem wp_reject (mappingId : String) (hs : Sound w) :
    wp calls (fun _ _ => True) anyhow (reject mappingId) w := by
  refine Program.wp_bind (wp_readCall (fun _ _ _ => trivial) (fun _ _ _ _ => trivial) ?_)
  intro m w₁ hw₁ hread
  have hbecomes := becomes_rejected (hw₁.2 hs) (held_of_read hread (hw₁.2 hs)).1
  exact wp_saveMapping hbecomes (fun _ _ _ => trivial) (fun _ _ _ _ _ => trivial)
    (fun _ _ _ _ => trivial) fun _ _ _ _ _ _ _ _ => trivial

/-! ### The answer of `executable` -/

/-- What an outcome of `executable` says. The moments are numbered; the call began at the moment `start`. -/
inductive Outcome (start : Nat) (mappingId workspaceId : String) (sources : List String) (w : World) :
    Except Raised JoinMapping → Prop where
  /-- The mapping was confirmed when it was read; then its left version was the active one, and then its
  right version. -/
  | usable {m : JoinMapping} {i j k : Nat} (workspace : m.workspaceId = workspaceId)
      (status : m.status = .confirmed)
      (same : sameSet [m.left.datasourceId, m.right.datasourceId] sources)
      (read : w.Seen start (fun x => x.store.mapping mappingId = .ok m) i)
      (left : w.Seen i (fun x => m.left.IsActive x.published.active) j)
      (right : w.Seen j (fun x => m.right.IsActive x.published.active) k) :
      Outcome start mappingId workspaceId sources w (.ok m)
  | unconfirmed {i : Nat}
      (read : w.Seen start (fun x => ∀ m, x.store.mapping mappingId = .ok m →
        m.workspaceId ≠ workspaceId ∨ m.status ≠ .confirmed) i) :
      Outcome start mappingId workspaceId sources w (.error (.failure (.blocked "unconfirmed_mapping")))
  | mismatch {m : JoinMapping} {i : Nat}
      (read : w.Seen start (fun x => x.store.mapping mappingId = .ok m) i)
      (differ : ¬ sameSet [m.left.datasourceId, m.right.datasourceId] sources) :
      Outcome start mappingId workspaceId sources w
        (.error (.failure (.blocked "join_mapping_source_mismatch")))
  /-- A version was not the active one, and the call made the mapping stale, which was confirmed at the
  moment before. -/
  | stale {m : JoinMapping} {side : MappingSide} {now : Instant} {i j k : Nat} (mem : side ∈ m.sides)
      (read : w.Seen start (fun x => x.store.mapping mappingId = .ok m) i)
      (status : m.status = .confirmed)
      (inactive : w.Seen i (fun x => ¬ side.IsActive x.published.active) j)
      (before : w.Seen j (fun x => ∃ current, x.store.mapping mappingId = .ok current ∧
        current.status = .confirmed) k)
      (after : w.Seen (k + 1) (fun x => x.store.mapping mappingId =
        .ok { m with status := .stale, updatedAt := now }) (k + 1)) :
      Outcome start mappingId workspaceId sources w (.error (.failure (.blocked "stale_join_mapping")))
  /-- A version was not the active one, and the mapping was confirmed no longer. -/
  | conflict {m : JoinMapping} {side : MappingSide} {i j k : Nat} (mem : side ∈ m.sides)
      (read : w.Seen start (fun x => x.store.mapping mappingId = .ok m) i)
      (status : m.status = .confirmed)
      (inactive : w.Seen i (fun x => ¬ side.IsActive x.published.active) j)
      (changed : w.Seen j (fun x => ∃ current, x.store.mapping mappingId = .ok current ∧
        current.status ≠ .confirmed) k) :
      Outcome start mappingId workspaceId sources w
        (.error (.failure (.valueError "join mapping state conflict")))
  | access (message : String) :
      Outcome start mappingId workspaceId sources w (.error (.access message))

theorem Outcome.mono {start : Nat} {mappingId workspaceId : String} {sources : List String}
    {w' : World} {r : Except Raised JoinMapping} (h : Outcome start mappingId workspaceId sources w r)
    (hc : Continues w w') : Outcome start mappingId workspaceId sources w' r := by
  cases h with
  | usable workspace status same read left right =>
    exact .usable workspace status same (read.mono hc) (left.mono hc) (right.mono hc)
  | unconfirmed read => exact .unconfirmed (read.mono hc)
  | mismatch read differ => exact .mismatch (read.mono hc) differ
  | stale mem read status inactive before after =>
    exact .stale mem (read.mono hc) status (inactive.mono hc) (before.mono hc) (after.mono hc)
  | conflict mem read status inactive changed =>
    exact .conflict mem (read.mono hc) status (inactive.mono hc) (changed.mono hc)
  | access message => exact .access message

theorem putMapping_error {s : Store} {now : Instant} {m : JoinMapping} {expected : JoinMappingStatus}
    {e : Failure} (h : s.putMapping now m expected = .error e) :
    s.mapping m.mappingId = .error e ∨ ∃ current, s.mapping m.mappingId = .ok current ∧
      current.status ≠ expected ∧ e = .valueError "join mapping state conflict" := by
  unfold Store.putMapping at h
  cases hm : s.mapping m.mappingId with
  | error e' =>
    simp only [hm, Except.error.injEq] at h
    exact Or.inl (h ▸ rfl)
  | ok current =>
    simp only [hm] at h
    split at h
    · next hstatus => exact Or.inr ⟨current, rfl, hstatus, (Except.error.inj h).symm⟩
    · cases h

theorem not_isActive_iff {versions : ActiveVersions} {side : MappingSide} :
    ¬ side.IsActive versions ↔
      versions side.datasourceId = none ∨ versions side.datasourceId ≠ side.scanVersion := by
  unfold MappingSide.IsActive
  tauto

/-- One round of the loop of `executable`. -/
theorem wp_checkActive_cons {start i : Nat} {mappingId workspaceId : String} {sources : List String}
    {m : JoinMapping} {side : MappingSide} {sides : List MappingSide} (hside : side ∈ m.sides)
    (hs : Sound w) (hheld : Held w m) (hid : m.mappingId = mappingId) (hstatus : m.status = .confirmed)
    (hread : w.Seen start (fun x => x.store.mapping mappingId = .ok m) i)
    (hnext : ∀ w', Evolves w w' → side.IsActive w'.now.published.active →
      wp calls post (fun r w => Outcome start mappingId workspaceId sources w (.error r))
        (checkActive m sides) w') :
    wp calls post (fun r w => Outcome start mappingId workspaceId sources w (.error r))
      (checkActive m (side :: sides)) w := by
  refine Program.wp_bind (wp_readCall ?_ ?_ ?_)
  · exact fun message w₁ _ => .access message
  · exact fun e w₁ _ hread => nomatch hread
  intro version w₁ hw₁ hversion
  cases hversion
  split
  case isFalse hactive =>
    exact hnext w₁ hw₁ (by_contra fun hnot => hactive (not_isActive_iff.mp hnot))
  case isTrue hinactive =>
  have hinactive' : w₁.Seen i (fun x => ¬ side.IsActive x.published.active) w₁.present :=
    Chronicle.seen_present ((hread.mono hw₁.1).le_present) (not_isActive_iff.mpr hinactive)
  -- a mapping that was read is never gone
  have hthere : ∀ w', Evolves w₁ w' → ∃ current, w'.now.store.mapping m.mappingId = .ok current :=
    fun w' hw' => (hw'.2 (hw₁.2 hs)).mapping_held (hheld.mono (hw₁.trans hw').1)
  have hsave : wp calls
      (fun _ w => Outcome start mappingId workspaceId sources w
        (.error (.failure (.blocked "stale_join_mapping"))))
      (fun r w => Outcome start mappingId workspaceId sources w (.error r))
      (saveMapping { m with status := .stale } m.status) w₁ := by
    refine wp_saveMapping (becomes_stale (hheld.mono hw₁.1) hstatus) ?_ ?_ ?_ ?_
    · exact fun message w₂ _ => .access message
    · intro e now w₂ hw₂ htx
      obtain ⟨current, hcurrent⟩ := hthere w₂ hw₂
      rcases putMapping_error htx with hnone | ⟨current', hcurrent', hchanged, rfl⟩
      · exact nomatch hcurrent.symm.trans hnone
      · rw [hstatus] at hchanged
        exact .conflict hside (hread.mono (hw₁.trans hw₂).1) hstatus (hinactive'.mono hw₂.1)
          (Chronicle.seen_present hw₂.1.present_le ⟨current', hid ▸ hcurrent', hchanged⟩)
    · intro e w₂ hw₂ hnone
      obtain ⟨current, hcurrent⟩ := hthere w₂ hw₂
      exact nomatch hcurrent.symm.trans hnone
    · intro a s now w₂ w₃ hw₂ htx hw₃
      obtain ⟨current, hcurrent, hconfirmed, -⟩ := putMapping_ok htx
      have hlater : Continues w₂ w₃ := (Chronicle.continues_goOn w₂ _).trans hw₃.1
      have hbefore : w₂.Seen w₁.present (fun x => ∃ current, x.store.mapping mappingId = .ok current ∧
          current.status = .confirmed) w₂.present :=
        Chronicle.seen_present hw₂.1.present_le ⟨current, hid ▸ hcurrent, hconfirmed.trans hstatus⟩
      have hafter : (w₂.goOn { w₂.now with store := s }).Seen (w₂.present + 1)
          (fun x => x.store.mapping mappingId = .ok { m with status := .stale, updatedAt := now })
          (w₂.present + 1) :=
        Chronicle.seen_present (Nat.le_refl _) (hid ▸ putMapping_mapping htx)
      exact .stale hside (hread.mono ((hw₁.trans hw₂).1.trans hlater)) hstatus
        (hinactive'.mono (hw₂.1.trans hlater)) (hbefore.mono hlater) (hafter.mono hw₃.1)
  rw [hstatus] at hsave
  exact Program.wp_bind hsave

theorem wp_executable (mappingId workspaceId : String) (sources : List String) (hs : Sound w) :
    wp calls (fun m w' => Outcome w.present mappingId workspaceId sources w' (.ok m))
      (fun r w' => Outcome w.present mappingId workspaceId sources w' (.error r))
      (executable mappingId workspaceId sources) w := by
  refine Program.wp_bind (Program.wp_attempt (wp_readCall ?_ ?_ ?_))
  · exact fun message w₁ _ => .access message
  · intro e w₁ hw₁ hnone
    dsimp only
    split
    · refine .unconfirmed (Chronicle.seen_present hw₁.1.present_le fun m hm => ?_)
      exact nomatch hnone.symm.trans hm
    · next hother =>
      -- reading a mapping fails with its key only
      unfold Store.mapping at hnone
      split at hnone
      · cases hnone
      · cases hnone
        exact absurd rfl hother
  intro m w₁ hw₁ hread
  obtain ⟨hheld, hid⟩ := held_of_read hread (hw₁.2 hs)
  have hseen : w₁.Seen w.present (fun x => x.store.mapping mappingId = .ok m) w₁.present :=
    Chronicle.seen_present hw₁.1.present_le hread
  dsimp only
  split
  · next hrefused =>
    refine .unconfirmed (Chronicle.seen_present hw₁.1.present_le fun m' hm' => ?_)
    cases hread.symm.trans hm'
    exact hrefused
  next hconfirmed =>
  push Not at hconfirmed
  split
  · next hdiffer => exact .mismatch hseen hdiffer
  next hsame =>
  refine wp_checkActive_cons (by simp [JoinMapping.sides]) (hw₁.2 hs) hheld hid hconfirmed.2 hseen ?_
  intro w₂ hw₂ hleft
  refine wp_checkActive_cons (by simp [JoinMapping.sides]) (hw₂.2 (hw₁.2 hs)) (hheld.mono hw₂.1) hid
    hconfirmed.2 (hseen.mono hw₂.1) ?_
  intro w₃ hw₃ hright
  have hleft' : w₂.Seen w₁.present (fun x => m.left.IsActive x.published.active) w₂.present :=
    Chronicle.seen_present hw₂.1.present_le hleft
  exact .usable hconfirmed.1 hconfirmed.2 (not_not.mp hsame) (hseen.mono (hw₂.trans hw₃).1)
    (hleft'.mono hw₃.1) (Chronicle.seen_present hw₃.1.present_le hright)

end Calls

/-! ## Runs -/

/-- Every call keeps to `Evolves`. -/
theorem wp_call (call : Call) {w : World} (hs : Sound w) :
    wp calls (fun _ _ => True) anyhow call.program w := by
  cases call with
  | create fields => exact wp_create fields
  | confirm mappingId label => exact wp_confirm mappingId label hs
  | reject mappingId => exact wp_reject mappingId hs
  | executable mappingId workspaceId sources =>
    exact Program.wp_mono (fun _ _ _ => trivial) (fun _ _ _ => trivial)
      (wp_executable mappingId workspaceId sources hs)

/-- Any number of calls, among scans and whatever else the calls allow for. -/
def discipline (env : World → World → Prop) (henv : ∀ w w', env w w' → Evolves w w') :
    Pool.Discipline IsCall env where
  contract := calls
  inv := Sound
  refl := .refl
  trans := fun _ _ _ h h' => h.trans h'
  rely_of_guar := fun _ _ h => h
  rely_of_env := henv
  keep := fun _ _ h hs => h.2 hs
  started := by
    rintro p w ⟨call, rfl⟩ hs
    exact wp_call call hs

theorem sound_begun {moment : Moment} (h : moment.store.mappings = []) : Sound ⟨moment, []⟩ := by
  refine Chronicle.always_begun ⟨?_, ?_, ?_, fun _ he => nomatch he⟩ <;> rw [h] <;> simp

/-- What the calls have made of the mappings, when there were none at first. -/
theorem reaches_disciplined {moment : Moment} {pool : Pool World Answer Raised JoinMapping}
    (hempty : moment.store.mappings = []) (hr : Pool.Reaches IsCall Elsewhere ⟨[], ⟨moment, []⟩⟩ pool) :
    Pool.Disciplined (discipline Elsewhere fun _ _ => evolves_elsewhere) pool :=
  (Pool.Reaches.disciplined (Pool.disciplined_empty (sound_begun hempty)) hr).1

/-- **However the calls interleave with each other and with new scans, and wherever they are killed, every
mapping stays, as what the governance may make of it: it keeps its identity, a rejected one stays rejected,
and a confirmed or stale one names versions that were active and published when it says so.** -/
theorem mappings_governed {moment : Moment} {pool : Pool World Answer Raised JoinMapping}
    (hempty : moment.store.mappings = []) (hr : Pool.Reaches IsCall Elsewhere ⟨[], ⟨moment, []⟩⟩ pool) :
    (∀ i j a b, i < j → pool.state.moment i = some a → pool.state.moment j = some b →
      ∀ row ∈ a.store.mappings, ∃ row' ∈ b.store.mappings, Succeeds row row' ∧
        (row.state.status = .rejected → row'.state.status = .rejected)) ∧
    ∀ i a, pool.state.moment i = some a →
      ∀ row ∈ a.store.mappings, Governed (a :: pool.state.before i) row.state := by
  have hs : Sound pool.state := (reaches_disciplined hempty hr).inv
  refine ⟨fun i j a b hij ha hb row hrow => ?_, fun i a ha => (Always.moment hs ha).governed⟩
  have hinherits : Always (fun x past => ∀ y ∈ past, Inherits y x) pool.state :=
    fun x past hsuffix => (hs x past hsuffix).inherited
  obtain ⟨row', hrow', hsucc⟩ := hinherits.between hij ha hb row hrow
  exact ⟨row', hrow', hsucc, fun hrejected => StatusPath.rejected (hrejected ▸ hsucc.status)⟩

/-! ### A run -/

/-- Two datasources that are ready and published, each with one field. -/
def samplePublished : Published where
  sources := [{ id := "a", workspaceId := "w", ready := true }, { id := "b", workspaceId := "w", ready := true }]
  active := fun datasourceId => if datasourceId = "a" then some 1 else some 2
  structureOf := fun _ datasourceId => {
    datasources := [{
      nodeId := "n", datasourceId, workspaceId := "w", name := datasourceId
      scanVersion := if datasourceId = "a" then some 1 else some 2 }]
    dataObjects := [{ nodeId := "o", datasourceId, name := "orders" }]
    fields := [{
      nodeId := "f", objectId := "o", datasourceId, objectName := "orders", name := "id", path := "id" }] }

def sampleSide (datasourceId : String) : MappingSide :=
  { datasourceId, dataObjectId := "o", fieldPath := "id", grain := "order" }

def sampleCreate : Call := .create {
  workspaceId := "w", businessKey := "order", left := sampleSide "a", right := sampleSide "b"
  cardinality := "ONE_TO_ONE", nullPolicy := "DROP" }

def sampleConfirm : Call := .confirm "m" " auditor "

/-- Nothing fails. -/
def sampleAnswers : (q : Question) → Option (Answer q)
  | .fault => some none
  | .clock => some (7 : Int)
  | .uuid => some "m"

def sampleMoment : Moment := { store := {}, published := samplePublished }

/-- A mapping is created and confirmed. -/
def sampleConfirmed : Pool World Answer Raised JoinMapping :=
  Pool.playAll ⟨[], ⟨sampleMoment, []⟩⟩
    [.spawn sampleCreate.program, .run 0 20 sampleAnswers,
      .spawn sampleConfirm.program, .run 1 40 sampleAnswers]

theorem sampleConfirmed_reached :
    Pool.Reaches IsCall Elsewhere ⟨[], ⟨sampleMoment, []⟩⟩ sampleConfirmed := by
  refine Pool.playAll_reaches _ _ fun p hp => ?_
  simp only [List.mem_cons, Pool.Choice.spawn.injEq, List.not_mem_nil, or_false, reduceCtorEq,
    false_or] at hp
  rcases hp with rfl | rfl
  · exact ⟨sampleCreate, rfl⟩
  · exact ⟨sampleConfirm, rfl⟩

theorem mappings_governed_sample : ∃ a row, sampleConfirmed.state.moment 2 = some a ∧
    row ∈ a.store.mappings ∧ row.state.status = .confirmed ∧ row.state.confirmedBy = some "auditor" ∧
      Governed (a :: sampleConfirmed.state.before 2) row.state :=
  ⟨_, _, rfl, List.mem_cons_self, rfl, rfl,
    (mappings_governed rfl sampleConfirmed_reached).2 2 _ rfl _ List.mem_cons_self⟩

/-- **Whatever other calls and scans do while `executable` runs, its outcome was right at moments of the
call.** -/
theorem executable_answers {moment : Moment} {pool : Pool World Answer Raised JoinMapping}
    (hempty : moment.store.mappings = []) (hr : Pool.Reaches IsCall Elsewhere ⟨[], ⟨moment, []⟩⟩ pool)
    (mappingId workspaceId : String) (sources : List String)
    {e : Ensemble World Answer Raised JoinMapping JoinMapping}
    (he : Ensemble.Reaches IsCall Elsewhere ⟨executable mappingId workspaceId sources, pool⟩ e) :
    (∀ m, e.main.result = some m →
      Outcome pool.state.present mappingId workspaceId sources e.state (.ok m)) ∧
    ∀ r, e.main.failure = some r →
      Outcome pool.state.present mappingId workspaceId sources e.state (.error r) := by
  have hd := reaches_disciplined hempty hr
  let agreement : Ensemble.Agreement calls IsCall Elsewhere := {
    pool := discipline _ fun _ _ h => h.elim evolves_elsewhere id
    refl := .refl
    trans := fun _ _ _ h h' => h.trans h'
    rely_of_env := fun _ _ => evolves_elsewhere
    rely_of_pool := fun _ _ h => h }
  have hagreed : Ensemble.Agreed agreement
      (fun m w => Outcome pool.state.present mappingId workspaceId sources w (.ok m))
      (fun r w => Outcome pool.state.present mappingId workspaceId sources w (.error r))
      ⟨executable mappingId workspaceId sources, pool⟩ :=
    ⟨wp_executable mappingId workspaceId sources hd.inv, ⟨hd.inv, hd.threads⟩⟩
  have hstable : ∀ (x : Except Raised JoinMapping) (w w' : World), Evolves w w' →
      Outcome pool.state.present mappingId workspaceId sources w x →
      Outcome pool.state.present mappingId workspaceId sources w' x :=
    fun _ _ _ h ho => ho.mono h.1
  have hwp := Ensemble.Reaches.wp agreement (fun m => hstable (.ok m)) (fun r => hstable (.error r))
    he hagreed
  constructor
  · intro m hm
    rw [Program.eq_ret_of_result hm] at hwp
    exact hwp
  · intro r hr
    rw [Program.eq_throw_of_failure hr] at hwp
    exact hwp

/-- The mapping is used. -/
def sampleUsed : Ensemble World Answer Raised JoinMapping JoinMapping :=
  Ensemble.playAll ⟨executable "m" "w" ["b", "a"], sampleConfirmed⟩ [.main 20 sampleAnswers]

theorem sampleUsed_reached :
    Ensemble.Reaches IsCall Elsewhere ⟨executable "m" "w" ["b", "a"], sampleConfirmed⟩ sampleUsed :=
  Ensemble.playAll_reaches _ _ fun p hp => by simp at hp

theorem executable_answers_sample : ∃ m, sampleUsed.main.result = some m ∧
    Outcome 2 "m" "w" ["b", "a"] sampleUsed.state (.ok m) :=
  ⟨_, rfl, (executable_answers rfl sampleConfirmed_reached "m" "w" ["b", "a"] sampleUsed_reached).1 _ rfl⟩

end Federation.JoinMappingGovernance
