import Qaneris.Connections.Service

/-!
# Secrets that profiles name

* `step_effect` — what one call does to the two stores
* `linked_of_apart` — no profile names a missing secret while deletions and saves keep apart
-/

namespace Connections

/-! ## Keeping apart -/

/-- The secrets that the operation has found to exist, for a profile that it has not stored yet. -/
def Task.vouched : Task → List String
  | .materialize _ resolved _ => managedIds resolved
  | .testConnection aim => aim.candidate.managedSecretIds
  | .insertDatasource request => request.connectionProfile.managedSecretIds
  | .dropOldGraph _ _ candidate | .saveProfile _ _ candidate => candidate.managedSecretIds
  | _ => []

/-- The secret that the operation has found to be named nowhere, and has not deleted yet. -/
def Task.condemned : Task → Option String
  | .deleteSecret .delete secret _ => some secret
  | _ => none

/-- The profile that the next call stores. -/
def Task.saved : Task → Option ConnectionProfile
  | .insertDatasource request => some request.connectionProfile
  | .saveProfile _ _ candidate => some candidate
  | _ => none

/-- A profile is stored when none of its secrets is condemned, and a secret is deleted when no operation
has vouched for it. -/
structure Apart (ts : List Task) (t : Task) : Prop where
  saved : ∀ profile ∈ t.saved, ∀ secret ∈ profile.managedSecretIds, ∀ t' ∈ ts,
    t'.condemned ≠ some secret
  deleted : ∀ secret ∈ t.condemned, ∀ t' ∈ ts, secret ∉ t'.vouched

instance (ts : List Task) (t : Task) : Decidable (Apart ts t) :=
  decidable_of_iff ((∀ profile ∈ t.saved, ∀ secret ∈ profile.managedSecretIds, ∀ t' ∈ ts,
      t'.condemned ≠ some secret) ∧ ∀ secret ∈ t.condemned, ∀ t' ∈ ts, secret ∉ t'.vouched)
    ⟨fun h => ⟨h.1, h.2⟩, fun h => ⟨h.saved, h.deleted⟩⟩

/-! ## One call -/

section Effect

variable {w w' : World} {t t' : Task}

/-- The references of the candidate are the resolved ones and the pending ones. -/
def Task.Formed : Task → Prop
  | .materialize aim resolved pending => resolved ++ pending = aim.candidate.references
  | _ => True

/-- What a call does to the two stores. -/
inductive Effect (w : World) (t : Task) : World → Task → Prop where
  /-- Nothing; the operation may vouch for a secret that exists, or condemn one that is not named. -/
  | read {t' : Task} (hvouched : ∀ secret ∈ t'.vouched, secret ∈ t.vouched ∨ secret ∈ w.secrets)
      (hcondemned : ∀ secret ∈ t'.condemned, ∀ profile ∈ w.profiles,
        secret ∉ profile.managedSecretIds) : Effect w t w t'
  /-- A vouched profile is stored, and others may be dropped. -/
  | saved {w' : World} {t' : Task} {profile : ConnectionProfile} (hsaved : t.saved = some profile)
      (hsecrets : w'.secrets = w.secrets)
      (hprofiles : ∀ p ∈ w'.profiles, p ∈ w.profiles ∨ p = profile)
      (hvouched : ∀ secret ∈ profile.managedSecretIds, secret ∈ t.vouched)
      (hnext : t'.vouched = [] ∧ t'.condemned = none) : Effect w t w' t'
  /-- Profiles are dropped. -/
  | dropped {w' : World} {t' : Task} (hsecrets : w'.secrets = w.secrets)
      (hprofiles : ∀ p ∈ w'.profiles, p ∈ w.profiles)
      (hnext : t'.vouched = [] ∧ t'.condemned = none) : Effect w t w' t'
  /-- A condemned secret is deleted. -/
  | deleted {w' : World} {t' : Task} {secret : String} (hcondemned : t.condemned = some secret)
      (hsecrets : w'.secrets = w.secrets.filter (· ≠ secret)) (hrows : w'.rows = w.rows)
      (hnext : t'.vouched = [] ∧ t'.condemned = none) : Effect w t w' t'

theorem Effect.idle (h : t'.vouched = [] ∧ t'.condemned = none) : Effect w t w t' := by
  refine .read (fun secret hs => ?_) fun secret hs => ?_
  · rw [h.1] at hs
    cases hs
  · rw [h.2] at hs
    cases hs

theorem afterDeletion_idle (loop : Option (List String)) (outcome : Option Failure) :
    (afterDeletion loop outcome).vouched = [] ∧ (afterDeletion loop outcome).condemned = none := by
  cases loop with
  | some pending => exact ⟨rfl, rfl⟩
  | none =>
    cases outcome with
    | some e => exact ⟨rfl, rfl⟩
    | none => exact ⟨rfl, rfl⟩

/-- A secret that is counted nowhere is named by no stored profile. -/
theorem not_named_of_count {secret : String} (h : w.countManagedSecretReferences secret = .ok 0) :
    ∀ profile ∈ w.profiles, secret ∉ profile.managedSecretIds := by
  rw [World.countManagedSecretReferences] at h
  split at h
  · cases h
  · have hsum := Except.ok.inj h
    intro profile hprofile hmem
    rw [List.sum_eq_zero_iff_forall_eq_nat] at hsum
    have hzero := hsum _ (List.mem_map_of_mem hprofile)
    rw [List.length_eq_zero_iff, List.filter_eq_nil_iff] at hzero
    obtain ⟨reference, href, rfl⟩ := List.mem_map.mp (List.mem_eraseDups.mp hmem)
    exact absurd (by simp) (hzero reference href)

theorem mem_profiles {profile : ConnectionProfile} :
    profile ∈ w.profiles ↔ ∃ row ∈ w.rows, row.connection = .secure profile := by
  rw [World.profiles, List.mem_filterMap]
  refine exists_congr fun row => and_congr_right fun _ => ?_
  cases row.connection with
  | secure p => exact ⟨fun h => congrArg _ (Option.some.inj h), fun h => congrArg _ h⟩
  | legacy => exact ⟨nofun, nofun⟩
  | unreadable => exact ⟨nofun, nofun⟩

theorem createSecureDatasource_ok {datasourceId : String} {request : SecureDatasourceCreate}
    (h : w.createSecureDatasource datasourceId request = .ok w') :
    w'.secrets = w.secrets ∧
      ∀ p ∈ w'.profiles, p ∈ w.profiles ∨ p = request.connectionProfile := by
  rw [World.createSecureDatasource] at h
  split at h
  · cases h
  · cases h
    refine ⟨rfl, fun p hp => ?_⟩
    obtain ⟨row, hrow, hconnection⟩ := mem_profiles.mp hp
    rcases List.mem_append.mp hrow with hrow | hrow
    · exact .inl (mem_profiles.mpr ⟨row, hrow, hconnection⟩)
    · obtain rfl := List.mem_singleton.mp hrow
      exact .inr (StoredConnection.secure.inj hconnection).symm

/-- A change of one row changes the profiles by what it makes of that row. -/
theorem profiles_change {datasourceId : String} {f : Row → Row} {p : ConnectionProfile}
    (hp : p ∈ (w.change datasourceId f).profiles) :
    p ∈ w.profiles ∨ ∃ row ∈ w.rows, (f row).connection = .secure p := by
  obtain ⟨row', hrow', hconnection⟩ := mem_profiles.mp hp
  obtain ⟨row, hrow, rfl⟩ := List.mem_map.mp hrow'
  split at hconnection
  · exact .inr ⟨row, hrow, hconnection⟩
  · exact .inl (mem_profiles.mpr ⟨row, hrow, hconnection⟩)

theorem updateSecureDatasource_ok {datasourceId : String} {candidate : ConnectionProfile}
    (h : w.updateSecureDatasource datasourceId candidate = .ok w') :
    w'.secrets = w.secrets ∧ ∀ p ∈ w'.profiles, p ∈ w.profiles ∨ p = candidate := by
  rw [World.updateSecureDatasource] at h
  split at h
  · cases h
  split at h
  · cases h
  · cases h
    refine ⟨rfl, fun p hp => (profiles_change hp).imp id ?_⟩
    rintro ⟨row, -, hconnection⟩
    exact (StoredConnection.secure.inj hconnection).symm

theorem invalidateDatasourceScan_ok {datasourceId : String}
    (h : w.invalidateDatasourceScan datasourceId = .ok w') :
    w'.secrets = w.secrets ∧ ∀ p ∈ w'.profiles, p ∈ w.profiles := by
  rw [World.invalidateDatasourceScan] at h
  split at h
  · cases h
    refine ⟨rfl, fun p hp => ?_⟩
    rcases profiles_change hp with hp | ⟨row, hrow, hconnection⟩
    · exact hp
    · exact mem_profiles.mpr ⟨row, hrow, hconnection⟩
  · cases h

theorem deleteDatasource_ok {datasourceId : String} (h : w.deleteDatasource datasourceId = .ok w') :
    w'.secrets = w.secrets ∧ ∀ p ∈ w'.profiles, p ∈ w.profiles := by
  rw [World.deleteDatasource] at h
  split at h
  · cases h
    refine ⟨rfl, fun p hp => ?_⟩
    obtain ⟨row, hrow, hconnection⟩ := mem_profiles.mp hp
    exact mem_profiles.mpr ⟨row, (List.mem_filter.mp hrow).1, hconnection⟩
  · cases h

theorem deleteSecret_ok {secret : String} (h : w.deleteSecret secret = .ok w') :
    w' = { w with secrets := w.secrets.filter (· ≠ secret) } := by
  rw [World.deleteSecret] at h
  split at h
  · exact (Except.ok.inj h).symm
  · cases h

theorem deletionStep_effect {secret : String} {loop : Option (List String)} {stage : Deletion}
    (h : deletionStep w secret loop stage = (w', t')) :
    Effect w (.deleteSecret stage secret loop) w' t' := by
  cases stage with
  | exists_ =>
    rw [deletionStep] at h
    split at h
    · cases h
      exact .idle ⟨rfl, rfl⟩
    · cases h
      exact .idle (afterDeletion_idle _ _)
  | count =>
    rw [deletionStep] at h
    split at h
    · cases h
      exact .idle (afterDeletion_idle _ _)
    · next hcount =>
      cases h
      refine .read (fun s hs => absurd hs List.not_mem_nil) fun s hs => ?_
      obtain rfl := Option.some.inj hs
      exact not_named_of_count hcount
    · cases h
      exact .idle (afterDeletion_idle _ _)
  | delete =>
    rw [deletionStep] at h
    split at h
    · cases h
      exact .idle (afterDeletion_idle _ _)
    · next hdelete =>
      cases h
      have hw := deleteSecret_ok hdelete
      subst hw
      exact .deleted rfl rfl rfl (afterDeletion_idle _ _)

end Effect

/-! ## One call of an operation -/

section Step

variable {safeError : Failure → String} {w w' : World} {t t' : Task}

theorem managedIds_append (a b : List SecretReference) :
    managedIds (a ++ b) = managedIds a ++ managedIds b := by
  rw [managedIds, List.filter_append, List.map_append]
  rfl

theorem returned_effect {uuid : String} (hformed : t.Formed)
    (h : t.returned safeError uuid w = some (w', t')) : Effect w t w' t' := by
  cases t with
  | resolveUpdated datasourceId candidate =>
    rw [Task.returned] at h
    split at h
    · cases h; exact .idle ⟨rfl, rfl⟩
    · cases h; exact .idle ⟨rfl, rfl⟩
  | readPrevious datasourceId candidate =>
    rw [Task.returned] at h
    split at h
    · cases h; exact .idle ⟨rfl, rfl⟩
    · cases h; exact .idle ⟨rfl, rfl⟩
    · cases h; exact .idle ⟨rfl, rfl⟩
  | materialize aim resolved pending =>
    cases pending with
    | nil =>
      cases h
      have hall : resolved ++ [] = aim.candidate.references := hformed
      rw [List.append_nil] at hall
      refine .read (fun secret hs => .inl ?_) nofun
      rw [hall]
      exact mem_managedSecretIds.mp hs
    | cons reference pending =>
      rw [Task.returned] at h
      split at h
      · next hmanaged =>
        split at h
        · cases h; exact .idle ⟨rfl, rfl⟩
        · next hresolve =>
          cases h
          refine .read (fun secret hs => ?_) nofun
          rw [Task.vouched, managedIds_append, List.mem_append] at hs
          refine hs.imp id fun hs => ?_
          obtain rfl : secret = reference.identifier := by simpa [managedIds, hmanaged] using hs
          rw [World.resolve] at hresolve
          split at hresolve
          · next hexists =>
            rw [World.secretExists, Bool.and_eq_true] at hexists
            exact of_decide_eq_true hexists.2
          · cases hresolve
      · next hother =>
        cases h
        refine .read (fun secret hs => .inl ?_) nofun
        rw [Task.vouched, managedIds_append] at hs
        have hnone : managedIds [reference] = [] := by simp [managedIds, hother]
        rwa [hnone, List.append_nil] at hs
  | testConnection aim =>
    cases aim with
    | create request => cases h; exact .read (fun secret hs => .inl hs) nofun
    | update datasourceId previous candidate =>
      cases h; exact .read (fun secret hs => .inl hs) nofun
  | insertDatasource request =>
    rw [Task.returned] at h
    split at h
    · cases h; exact .idle ⟨rfl, rfl⟩
    · next hok =>
      cases h
      obtain ⟨hsecrets, hprofiles⟩ := createSecureDatasource_ok hok
      exact .saved rfl hsecrets hprofiles (fun secret hs => hs) ⟨rfl, rfl⟩
  | dropOldGraph datasourceId previous candidate =>
    cases h; exact .read (fun secret hs => .inl hs) nofun
  | saveProfile datasourceId previous candidate =>
    rw [Task.returned] at h
    split at h
    · cases h; exact .idle ⟨rfl, rfl⟩
    · next hok =>
      cases h
      obtain ⟨hsecrets, hprofiles⟩ := updateSecureDatasource_ok hok
      exact .saved rfl hsecrets hprofiles (fun secret hs => hs) ⟨rfl, rfl⟩
  | invalidateScan datasourceId previous candidate =>
    rw [Task.returned] at h
    split at h
    · cases h; exact .idle ⟨rfl, rfl⟩
    · next hok =>
      cases h
      obtain ⟨hsecrets, hprofiles⟩ := invalidateDatasourceScan_ok hok
      exact .dropped hsecrets hprofiles ⟨rfl, rfl⟩
  | resolveDeleted datasourceId =>
    rw [Task.returned] at h
    split at h
    · cases h; exact .idle ⟨rfl, rfl⟩
    · cases h; exact .idle ⟨rfl, rfl⟩
  | readDeleted datasourceId =>
    rw [Task.returned] at h
    split at h
    · cases h; exact .idle ⟨rfl, rfl⟩
    · cases h; exact .idle ⟨rfl, rfl⟩
  | dropGraph datasourceId profile => cases h; exact .idle ⟨rfl, rfl⟩
  | deleteRow datasourceId profile =>
    rw [Task.returned] at h
    split at h
    · cases h; exact .idle ⟨rfl, rfl⟩
    · next hok =>
      obtain ⟨hsecrets, hprofiles⟩ := deleteDatasource_ok hok
      split at h
      · cases h; exact .dropped hsecrets hprofiles ⟨rfl, rfl⟩
      · cases h; exact .dropped hsecrets hprofiles ⟨rfl, rfl⟩
  | cleanup pending =>
    cases pending with
    | nil => cases h; exact .idle ⟨rfl, rfl⟩
    | cons secret pending =>
      rw [Task.returned] at h
      split at h
      · cases h; exact .idle ⟨rfl, rfl⟩
      · cases h; exact .idle ⟨rfl, rfl⟩
  | deleteSecret stage secret loop => exact deletionStep_effect (Option.some.inj h)
  | done => cases h
  | failed e => cases h

theorem raised_idle {e : Failure} (h : t.raised safeError e = some t') :
    t'.vouched = [] ∧ t'.condemned = none := by
  cases t with
  | deleteSecret stage secret loop =>
    cases h
    exact afterDeletion_idle _ _
  | cleanup pending =>
    cases pending with
    | nil => cases h
    | cons secret pending => cases h; exact ⟨rfl, rfl⟩
  | done => cases h
  | failed e' => cases h
  | _ => cases h; exact ⟨rfl, rfl⟩

/-- **What one call does to the two stores.** -/
theorem step_effect {reply : Reply} (hformed : t.Formed)
    (h : t.step safeError w reply = some (w', t')) : Effect w t w' t' := by
  cases reply with
  | returns uuid => exact returned_effect hformed h
  | raises e =>
    obtain ⟨next, hnext, heq⟩ := Option.map_eq_some_iff.mp h
    cases heq
    exact .idle (raised_idle hnext)

theorem formed_afterDeletion (loop : Option (List String)) (outcome : Option Failure) :
    (afterDeletion loop outcome).Formed := by
  cases loop with
  | some pending => trivial
  | none =>
    cases outcome with
    | some e => trivial
    | none => trivial

theorem deletionStep_formed {secret : String} {loop : Option (List String)} (stage : Deletion) :
    (deletionStep w secret loop stage).2.Formed := by
  cases stage with
  | exists_ =>
    rw [deletionStep]
    split
    · trivial
    · exact formed_afterDeletion _ _
  | count =>
    rw [deletionStep]
    split
    · exact formed_afterDeletion _ _
    · trivial
    · exact formed_afterDeletion _ _
  | delete =>
    rw [deletionStep]
    split
    · exact formed_afterDeletion _ _
    · exact formed_afterDeletion _ _

theorem step_formed {reply : Reply} (hformed : t.Formed)
    (h : t.step safeError w reply = some (w', t')) : t'.Formed := by
  cases reply with
  | raises e =>
    obtain ⟨next, hnext, heq⟩ := Option.map_eq_some_iff.mp h
    cases heq
    cases t with
    | deleteSecret stage secret loop =>
      cases hnext
      exact formed_afterDeletion _ _
    | cleanup pending =>
      cases pending with
      | nil => cases hnext
      | cons secret pending => cases hnext; trivial
    | done => cases hnext
    | failed e' => cases hnext
    | _ => cases hnext; trivial
  | returns uuid =>
    have h : t.returned safeError uuid w = some (w', t') := h
    cases t with
    | materialize aim resolved pending =>
      cases pending with
      | nil => cases h; trivial
      | cons reference pending =>
        have hnext : (resolved ++ [reference]) ++ pending = aim.candidate.references := by
          rw [List.append_assoc]
          exact hformed
        rw [Task.returned] at h
        split at h
        · split at h
          · cases h; trivial
          · cases h; exact hnext
        · cases h; exact hnext
    | readPrevious datasourceId candidate =>
      rw [Task.returned] at h
      split at h
      · cases h; trivial
      · cases h; trivial
      · cases h; exact List.nil_append _
    | testConnection aim =>
      cases aim with
      | create request => cases h; trivial
      | update datasourceId previous candidate => cases h; trivial
    | cleanup pending =>
      cases pending with
      | nil => cases h; trivial
      | cons secret pending =>
        rw [Task.returned] at h
        split at h
        · cases h; trivial
        · cases h; trivial
    | deleteSecret stage secret loop =>
      have hformed : (deletionStep w secret loop stage).2.Formed := deletionStep_formed stage
      rw [Option.some.inj h] at hformed
      exact hformed
    | deleteRow datasourceId profile =>
      rw [Task.returned] at h
      split at h
      · cases h; trivial
      · split at h
        · cases h; trivial
        · cases h; trivial
    | dropOldGraph | dropGraph => cases h; trivial
    | done => cases h
    | failed e => cases h
    | resolveUpdated | insertDatasource | saveProfile | invalidateScan | resolveDeleted | readDeleted =>
      rw [Task.returned] at h
      split at h
      · cases h; trivial
      · cases h; trivial

end Step

/-! ## Runs -/

section Runs

variable {safeError : Failure → String}

/-- What holds while deletions and saves keep apart. -/
structure System.Sound (sys : System) : Prop where
  linked : sys.world.Linked
  formed : ∀ t ∈ sys.tasks, t.Formed
  /-- A vouched secret is still there. -/
  vouched : ∀ t ∈ sys.tasks, ∀ secret ∈ t.vouched, secret ∈ sys.world.secrets
  /-- A condemned secret is still named nowhere. -/
  condemned : ∀ t ∈ sys.tasks, ∀ secret ∈ t.condemned, ∀ profile ∈ sys.world.profiles,
    secret ∉ profile.managedSecretIds

theorem Task.Begins.idle {t : Task} (h : t.Begins) :
    t.Formed ∧ t.vouched = [] ∧ t.condemned = none := by
  cases h with
  | create request => exact ⟨List.nil_append _, rfl, rfl⟩
  | update datasourceId candidate => exact ⟨trivial, rfl, rfl⟩
  | delete datasourceId => exact ⟨trivial, rfl, rfl⟩
  | deleteSecret secret => exact ⟨trivial, rfl, rfl⟩

theorem System.Sound.call {w w' : World} {ts : List Task} {t t' : Task} {i : Nat}
    (hs : System.Sound ⟨w, ts⟩) (hi : ts[i]? = some t) (hformed : t'.Formed) (hapart : Apart ts t)
    (heffect : Effect w t w' t') : System.Sound ⟨w', ts.set i t'⟩ := by
  have ht : t ∈ ts := List.mem_of_getElem? hi
  have hformed' : ∀ u ∈ ts.set i t', u.Formed := by
    intro u hu
    rcases List.mem_or_eq_of_mem_set hu with hu | rfl
    · exact hs.formed u hu
    · exact hformed
  cases heffect with
  | read hvouched hcondemned =>
    refine ⟨hs.linked, hformed', fun u hu secret hsecret => ?_, fun u hu secret hsecret => ?_⟩
    · rcases List.mem_or_eq_of_mem_set hu with hu | rfl
      · exact hs.vouched u hu secret hsecret
      · exact (hvouched secret hsecret).elim (hs.vouched t ht secret) id
    · rcases List.mem_or_eq_of_mem_set hu with hu | rfl
      · exact hs.condemned u hu secret hsecret
      · exact hcondemned secret hsecret
  | @saved _ _ profile hsaved hsecrets hprofiles hvouched hnext =>
    refine ⟨fun p hp secret hsecret => ?_, hformed', fun u hu secret hsecret => ?_,
      fun u hu secret hsecret p hp => ?_⟩
    · -- The new profile names what the operation has vouched for.
      show secret ∈ w'.secrets
      rw [hsecrets]
      rcases hprofiles p hp with hp | rfl
      · exact hs.linked p hp secret hsecret
      · exact hs.vouched t ht secret (hvouched secret hsecret)
    · show secret ∈ w'.secrets
      rw [hsecrets]
      rcases List.mem_or_eq_of_mem_set hu with hu | rfl
      · exact hs.vouched u hu secret hsecret
      · rw [hnext.1] at hsecret
        cases hsecret
    · rcases List.mem_or_eq_of_mem_set hu with hu | rfl
      · rcases hprofiles p hp with hp | rfl
        · exact hs.condemned u hu secret hsecret p hp
        · exact fun hmem => hapart.saved p hsaved secret hmem u hu hsecret
      · rw [hnext.2] at hsecret
        cases hsecret
  | dropped hsecrets hprofiles hnext =>
    refine ⟨fun p hp secret hsecret => ?_, hformed', fun u hu secret hsecret => ?_,
      fun u hu secret hsecret p hp => ?_⟩
    · show secret ∈ w'.secrets
      rw [hsecrets]
      exact hs.linked p (hprofiles p hp) secret hsecret
    · show secret ∈ w'.secrets
      rw [hsecrets]
      rcases List.mem_or_eq_of_mem_set hu with hu | rfl
      · exact hs.vouched u hu secret hsecret
      · rw [hnext.1] at hsecret
        cases hsecret
    · rcases List.mem_or_eq_of_mem_set hu with hu | rfl
      · exact hs.condemned u hu secret hsecret p (hprofiles p hp)
      · rw [hnext.2] at hsecret
        cases hsecret
  | @deleted _ _ removed hcondemned hsecrets hrows hnext =>
    have hprofiles : w'.profiles = w.profiles := by rw [World.profiles, hrows, World.profiles]
    refine ⟨fun p hp secret hsecret => ?_, hformed', fun u hu secret hsecret => ?_,
      fun u hu secret hsecret p hp => ?_⟩
    · -- No stored profile names the secret that is deleted.
      show secret ∈ w'.secrets
      have hp : p ∈ w.profiles := hprofiles ▸ hp
      rw [hsecrets, List.mem_filter, decide_eq_true_eq]
      refine ⟨hs.linked p hp secret hsecret, ?_⟩
      rintro rfl
      exact hs.condemned t ht secret hcondemned p hp hsecret
    · -- No operation has vouched for it.
      show secret ∈ w'.secrets
      rcases List.mem_or_eq_of_mem_set hu with hu | rfl
      · rw [hsecrets, List.mem_filter, decide_eq_true_eq]
        refine ⟨hs.vouched u hu secret hsecret, ?_⟩
        rintro rfl
        exact hapart.deleted secret hcondemned u hu hsecret
      · rw [hnext.1] at hsecret
        cases hsecret
    · rcases List.mem_or_eq_of_mem_set hu with hu | rfl
      · exact hs.condemned u hu secret hsecret p (hprofiles ▸ hp)
      · rw [hnext.2] at hsecret
        cases hsecret

theorem System.Sound.step {sys sys' : System} (hs : sys.Sound)
    (h : System.Step safeError Apart sys sys') : sys'.Sound := by
  cases h with
  | @begin w ts t hbegins =>
    obtain ⟨hformed, hvouched, hcondemned⟩ := hbegins.idle
    refine ⟨hs.linked, fun u hu => ?_, fun u hu secret hsecret => ?_, fun u hu secret hsecret => ?_⟩
    · rcases List.mem_append.mp hu with hu | hu
      · exact hs.formed u hu
      · obtain rfl := List.mem_singleton.mp hu
        exact hformed
    · rcases List.mem_append.mp hu with hu | hu
      · exact hs.vouched u hu secret hsecret
      · obtain rfl := List.mem_singleton.mp hu
        rw [hvouched] at hsecret
        cases hsecret
    · rcases List.mem_append.mp hu with hu | hu
      · exact hs.condemned u hu secret hsecret
      · obtain rfl := List.mem_singleton.mp hu
        rw [hcondemned] at hsecret
        cases hsecret
  | @call w w' ts t t' i reply hi hapart hstep =>
    have hformed := hs.formed t (List.mem_of_getElem? hi)
    exact hs.call hi (step_formed hformed hstep) hapart (step_effect hformed hstep)
  | @createSecret w ts secret h =>
    exact ⟨fun p hp s hs' => List.mem_append_left _ (hs.linked p hp s hs'), hs.formed,
      fun u hu s hs' => List.mem_append_left _ (hs.vouched u hu s hs'), hs.condemned⟩

/-- **While deletions and saves keep apart, no stored profile names a secret that is not stored.** -/
theorem linked_of_apart {w : World} {sys : System} (hw : w.Linked)
    (h : System.Reaches safeError Apart ⟨w, []⟩ sys) : sys.world.Linked := by
  suffices hsound : sys.Sound from hsound.linked
  induction h with
  | refl =>
    exact ⟨hw, fun t ht => absurd ht List.not_mem_nil, fun t ht => absurd ht List.not_mem_nil,
      fun t ht => absurd ht List.not_mem_nil⟩
  | tail _ hstep ih => exact ih.step hstep

theorem play_step {allowed : List Task → Task → Prop} [∀ ts t, Decidable (allowed ts t)]
    {sys sys' : System} {move : Move} (h : sys.play safeError allowed move = some sys') :
    System.Step safeError allowed sys sys' := by
  obtain ⟨w, ts⟩ := sys
  cases move with
  | create request =>
    simp only [System.play, Option.some.injEq] at h
    subst h
    exact .begin (.create request)
  | update datasourceId candidate =>
    simp only [System.play, Option.some.injEq] at h
    subst h
    exact .begin (.update datasourceId candidate)
  | delete datasourceId =>
    simp only [System.play, Option.some.injEq] at h
    subst h
    exact .begin (.delete datasourceId)
  | deleteSecret secret =>
    simp only [System.play, Option.some.injEq] at h
    subst h
    exact .begin (.deleteSecret secret)
  | call i reply =>
    simp only [System.play] at h
    split at h
    · cases h
    split at h
    · next hi hallowed =>
      obtain ⟨⟨w', t'⟩, hstep, rfl⟩ := Option.map_eq_some_iff.mp h
      exact .call i reply hi hallowed hstep
    · cases h
  | createSecret secret =>
    simp only [System.play] at h
    split at h
    · next hid =>
      obtain rfl := Option.some.inj h
      exact .createSecret secret hid
    · cases h

theorem playAll_reaches {allowed : List Task → Task → Prop} [∀ ts t, Decidable (allowed ts t)]
    {sys sys' : System} {moves : List Move}
    (h : moves.foldlM (System.play safeError allowed) sys = some sys') :
    System.Reaches safeError allowed sys sys' := by
  induction moves generalizing sys with
  | nil => cases h; exact .refl
  | cons move moves ih =>
    rw [List.foldlM_cons] at h
    obtain ⟨next, hnext, h⟩ := Option.bind_eq_some_iff.mp h
    exact .head (play_step hnext) (ih h)

end Runs

/-! ## Two runs -/

section Samples

def sampleSecret : String := "sec_0123456789abcdef0123456789abcdef"

def sampleRequest : SecureDatasourceCreate :=
  { name := "sales", kind := "relational",
    connectionProfile :=
      { driver := "postgresql", endpoint := { hosts := [{ host := "db.internal" }] },
        authentication := { password := some ⟨.managed, sampleSecret⟩ } } }

def returnsAt (i : Nat) : Move := .call i (.returns "0123456789abcdef")

def sampleRow : Row :=
  { id := "ds_0123456789ab", name := "sales", kind := "relational", workspaceId := "default",
    connection := .secure sampleRequest.connectionProfile }

/-- The datasource is saved before its secret is counted. -/
def savedFirst : List Move :=
  [.createSecret sampleSecret, .create sampleRequest, returnsAt 0, returnsAt 0, returnsAt 0, returnsAt 0,
    .deleteSecret sampleSecret, returnsAt 1, returnsAt 1]

def refused : Failure := .secretInUse
  "managed secret sec_0123456789abcdef0123456789abcdef is still referenced by 1 connection profile"

theorem savedFirst_linked : World.Linked ⟨[sampleSecret], [sampleRow]⟩ := by
  have hplay : savedFirst.foldlM (System.play (fun _ => "") Apart) ⟨⟨[], []⟩, []⟩ =
      some ⟨⟨[sampleSecret], [sampleRow]⟩, [.done, .failed refused]⟩ := by decide
  exact linked_of_apart (by decide) (playAll_reaches hplay)

/-- The secret is counted before the datasource is saved, and deleted after. -/
def countedFirst : List Move :=
  [.createSecret sampleSecret, .create sampleRequest, returnsAt 0, returnsAt 0, returnsAt 0,
    .deleteSecret sampleSecret, returnsAt 1, returnsAt 1, returnsAt 0, returnsAt 1]

theorem countedFirst_dangles :
    ¬∀ (safeError : Failure → String) (w : World) (sys : System), w.Linked →
      System.Reaches safeError (fun _ _ => True) ⟨w, []⟩ sys → sys.world.Linked := by
  intro h
  have hplay : countedFirst.foldlM (System.play (fun _ => "") fun _ _ => True) ⟨⟨[], []⟩, []⟩ =
      some ⟨⟨[], [sampleRow]⟩, [.done, .done]⟩ := by decide
  exact absurd (h _ _ _ (by decide) (playAll_reaches hplay)) (by decide)

end Samples

end Connections
