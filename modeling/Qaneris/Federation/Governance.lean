import Qaneris.Federation.Repository

/-!
# Governed join mappings

Whether a mapping may be used to join two sources now. The active snapshot of a datasource belongs
to the catalog, so its version is an argument.
-/

namespace Federation

/-- The version of the active snapshot of each datasource. -/
abbrev ActiveVersions := String → Option Int

def JoinMapping.sides (m : JoinMapping) : List MappingSide :=
  [m.left, m.right]

/-- `set(a) == set(b)` -/
def sameSet (a b : List String) : Bool :=
  a.all b.contains && b.all a.contains

def MappingSide.IsActive (versions : ActiveVersions) (side : MappingSide) : Prop :=
  versions side.datasourceId ≠ none ∧ versions side.datasourceId = side.scanVersion

instance (versions : ActiveVersions) (side : MappingSide) : Decidable (side.IsActive versions) :=
  inferInstanceAs (Decidable (_ ∧ _))

/-- `JoinMappingGovernance.executable`. A side whose scan is no longer the active one makes the
mapping stale before the call fails. -/
def executable (versions : ActiveVersions) (now : Instant) (s : Store) (mappingId workspaceId : String)
    (sources : List String) : Store × Except Failure JoinMapping :=
  match s.mapping mappingId with
  | .error _ => (s, .error (.blocked "unconfirmed_mapping"))
  | .ok m =>
    if m.workspaceId ≠ workspaceId ∨ m.status ≠ .confirmed then
      (s, .error (.blocked "unconfirmed_mapping"))
    else if ¬ sameSet [m.left.datasourceId, m.right.datasourceId] sources then
      (s, .error (.blocked "join_mapping_source_mismatch"))
    else if ∀ side ∈ m.sides, side.IsActive versions then (s, .ok m)
    else
      match s.saveMapping now { m with status := .stale } .confirmed with
      | .error e => (s, .error e)
      | .ok (s', _) => (s', .error (.blocked "stale_join_mapping"))

/-- Nothing but a mapping row changes. -/
theorem saveMapping_tasks {s s' : Store} {now : Instant} {m m' : JoinMapping}
    {expected : JoinMappingStatus} (h : s.saveMapping now m expected = .ok (s', m')) :
    s'.plans = s.plans ∧ s'.tasks = s.tasks := by
  unfold Store.saveMapping at h
  cases hm : s.mapping m.mappingId with
  | error e => simp [hm, bind, Except.bind] at h
  | ok current =>
    simp only [hm, bind, Except.bind] at h
    split at h
    · cases h
    · split at h
      · cases h
      · cases h
        exact ⟨rfl, rfl⟩

theorem executable_tasks (versions : ActiveVersions) (now : Instant) (s : Store)
    (mappingId workspaceId : String) (sources : List String) :
    (executable versions now s mappingId workspaceId sources).1.plans = s.plans ∧
      (executable versions now s mappingId workspaceId sources).1.tasks = s.tasks := by
  unfold executable
  repeat' split
  all_goals first
    | exact ⟨rfl, rfl⟩
    | next h => exact saveMapping_tasks h

end Federation
