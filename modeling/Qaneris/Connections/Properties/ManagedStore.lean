import Mathlib.Data.List.TakeWhile
import Qaneris.Connections.ManagedStore
import Qaneris.Infra.Except

/-!
# The managed store fails closed

* `exists_created_of_resolve` — what is resolved was created under the identifier, whatever the files say
* `resolve_closed_iff` — a text that was created, or one of two errors, if and only if the document can be read
* `resolve_of_kept` — a document that nobody has touched is resolved
-/

namespace Connections.ManagedCredentialStore

open Infra

variable {store : ManagedCredentialStore} {w w' : SecretWorld} {secretId : String} {kind : ManagedSecretKind}
  {plaintext text : String} {metadata : List (String × Json)} {draw : Draw} {actions : List Action}

/-! ## The associated data -/

theorem not_mem_of_isSecretId (h : isSecretId secretId) : '|' ∉ secretId.toList := by
  unfold isSecretId at h
  split at h
  · next rest heq =>
    dsimp only at h
    rw [decide_eq_true_eq] at h
    obtain ⟨hlength, hrest⟩ := h
    generalize hp : (fun c => decide (('0' ≤ c ∧ c ≤ '9') ∨ ('a' ≤ c ∧ c ≤ 'f'))) = p at hlength
    have htake : rest.take 32 = rest.takeWhile p := by
      have hpre := List.takeWhile_prefix p (l := rest)
      rw [List.prefix_iff_eq_take.mp hpre, hlength]
    rw [heq]
    intro hmem
    simp only [List.mem_cons] at hmem
    rcases hmem with hc | hc | hc | hc | hmem
    · exact absurd hc (by decide)
    · exact absurd hc (by decide)
    · exact absurd hc (by decide)
    · exact absurd hc (by decide)
    · rw [← List.take_append_drop 32 rest, List.mem_append, htake] at hmem
      rcases hmem with hmem | hmem
      · have hdigit := List.mem_takeWhile_imp hmem
        rw [← hp] at hdigit
        exact absurd hdigit (by decide)
      · rcases hrest with hrest | hrest
        · rw [hrest] at hmem
          cases hmem
        · rw [hrest] at hmem
          exact absurd (List.mem_singleton.mp hmem) (by decide)
  · cases h

/-- What stands in front of the first bar. -/
theorem eq_of_bar {a b x y : String} (ha : '|' ∉ a.toList) (hb : '|' ∉ b.toList)
    (h : a ++ ("|" ++ x) = b ++ ("|" ++ y)) : a = b := by
  have hcut : ∀ front rest : List Char, '|' ∉ front → (front ++ '|' :: rest).takeWhile (· ≠ '|') = front := by
    intro front rest hfront
    have hall : ∀ c ∈ front, decide (c ≠ '|') = true := by
      intro c hc
      refine decide_eq_true fun heq => hfront ?_
      rwa [← heq]
    rw [List.takeWhile_append_of_pos hall, List.takeWhile_cons_of_neg (by simp), List.append_nil]
  have hlist : a.toList ++ '|' :: x.toList = b.toList ++ '|' :: y.toList := by
    have hchars := congrArg String.toList h
    rw [String.toList_append, String.toList_append, String.toList_append, String.toList_append] at hchars
    exact hchars
  have hfronts := congrArg (List.takeWhile (· ≠ '|')) hlist
  rw [hcut _ _ ha, hcut _ _ hb] at hfronts
  exact String.toList_inj.mp hfronts

/-- The identifier is read off the associated data. -/
theorem aad_inj {secretId' : String} {kind' : ManagedSecretKind} (h : isSecretId secretId)
    (h' : isSecretId secretId') (heq : aad secretId kind = aad secretId' kind') : secretId = secretId' := by
  unfold aad at heq
  rw [String.append_assoc, String.append_assoc, String.append_assoc, String.append_assoc] at heq
  exact eq_of_bar (not_mem_of_isSecretId h) (not_mem_of_isSecretId h') ((String.append_right_inj _).mp heq)

/-! ## What was encrypted -/

/-- Every encryption is that of a text that was created, under the data of its identifier. -/
structure Honest (store : ManagedCredentialStore) (w : SecretWorld) : Prop where
  encrypted : ∀ s ∈ w.log, s.ciphertext = store.aead.encrypt s.nonce s.plaintext s.data
  created : ∀ s ∈ w.log, ∃ id kind text, isSecretId id = true ∧ (id, text) ∈ w.created ∧ s.data = aad id kind ∧
    s.plaintext = utf8Encode text.toList

theorem create_ok (h : store.create w kind plaintext metadata draw = .ok w') :
    ∃ ciphertext, ciphertext = store.aead.encrypt draw.nonce (utf8Encode plaintext.toList) (aad draw.id kind) ∧
      fits store.maxDepth (.obj (document kind metadata draw ciphertext)) = true ∧
      w' = { files := fun id => if id = draw.id then some (.json (.obj (document kind metadata draw ciphertext))) else w.files id
             log := w.log ++ [⟨draw.nonce, aad draw.id kind, utf8Encode plaintext.toList, ciphertext⟩]
             created := w.created ++ [(draw.id, plaintext)] } := by
  unfold create at h
  split at h
  · cases h
  · dsimp only at h
    split at h
    · next hfits => exact ⟨_, rfl, hfits, (Except.ok.inj h).symm⟩
    · cases h

theorem Honest.create (hw : Honest store w) (h : store.create w kind plaintext metadata draw = .ok w') :
    Honest store w' := by
  obtain ⟨ciphertext, hciphertext, -, rfl⟩ := create_ok h
  constructor
  · intro s hs
    rcases List.mem_append.mp hs with hs | hs
    · exact hw.encrypted s hs
    · rw [List.mem_singleton.mp hs]
      exact hciphertext
  · intro s hs
    rcases List.mem_append.mp hs with hs | hs
    · obtain ⟨id, kind, text, hid, hmem, hdata, hplaintext⟩ := hw.created s hs
      exact ⟨id, kind, text, hid, List.mem_append_left _ hmem, hdata, hplaintext⟩
    · rw [List.mem_singleton.mp hs]
      exact ⟨draw.id, kind, plaintext, draw.id_form, List.mem_append_right _ List.mem_cons_self, rfl, rfl⟩

theorem next_create (h : store.create w kind plaintext metadata draw = .ok w') :
    store.next w (.create kind plaintext metadata draw) = w' := by
  change (store.create w kind plaintext metadata draw).toOption.getD w = w'
  rw [h]
  rfl

theorem next_refused {e : SecretError} (h : store.create w kind plaintext metadata draw = .error e) :
    store.next w (.create kind plaintext metadata draw) = w := by
  change (store.create w kind plaintext metadata draw).toOption.getD w = w
  rw [h]
  rfl

variable (store w) in
/-- A deletion leaves everything but the file. -/
theorem next_delete (secretId : String) : store.next w (.delete secretId) = w ∨
    store.next w (.delete secretId) = { w with files := fun id => if id = secretId then none else w.files id } := by
  change (delete w secretId).toOption.getD w = w ∨ (delete w secretId).toOption.getD w = _
  unfold delete
  split
  · exact .inr rfl
  · exact .inl rfl

theorem Honest.next (hw : Honest store w) (action : Action) : Honest store (store.next w action) := by
  cases action with
  | create kind plaintext metadata draw =>
    cases hcreate : store.create w kind plaintext metadata draw with
    | error => rwa [next_refused hcreate]
    | ok w' => exact next_create hcreate ▸ hw.create hcreate
  | delete secretId =>
    rcases next_delete store w secretId with h | h <;> rw [h]
    · exact hw
    · exact ⟨hw.encrypted, hw.created⟩
  | tamper files => exact ⟨hw.encrypted, hw.created⟩

theorem honest_foldl (hw : Honest store w) (actions : List Action) : Honest store (actions.foldl store.next w) := by
  induction actions generalizing w with
  | nil => exact hw
  | cons action actions ih => exact ih (hw.next action)

variable (store) in
theorem honest_after (actions : List Action) : Honest store (store.after actions) :=
  honest_foldl ⟨fun _ h => absurd h List.not_mem_nil, fun _ h => absurd h List.not_mem_nil⟩ actions

variable (store) in
/-- Each identifier that was created was drawn, in the same order. -/
theorem created_sublist (actions : List Action) :
    ((store.after actions).created.map Prod.fst).Sublist (actions.filterMap Action.drawn) := by
  have hall : ∀ w : SecretWorld, ((actions.foldl store.next w).created.map Prod.fst).Sublist
      (w.created.map Prod.fst ++ actions.filterMap Action.drawn) := by
    induction actions with
    | nil =>
      intro w
      exact List.append_nil _ ▸ List.Sublist.refl _
    | cons action actions ih =>
      intro w
      refine (ih (store.next w action)).trans ?_
      cases action with
      | create kind plaintext metadata draw =>
        cases hcreate : store.create w kind plaintext metadata draw with
        | error =>
          rw [next_refused hcreate]
          exact List.Sublist.append_left (List.sublist_cons_self _ _) _
        | ok w' =>
          obtain ⟨ciphertext, -, -, rfl⟩ := create_ok hcreate
          rw [next_create hcreate]
          simp only [List.map_append, List.map_cons, List.map_nil, List.append_assoc, List.singleton_append]
          exact List.Sublist.refl _
      | delete secretId =>
        rcases next_delete store w secretId with h | h <;> rw [h]
        · exact List.Sublist.refl _
        · exact List.Sublist.refl _
      | tamper files => exact List.Sublist.refl _
  exact hall {}

/-! ## What is resolved -/

theorem decodeText_encode (text : String) : decodeText (utf8Encode text.toList) = .ok text := by
  unfold decodeText
  rw [decodeBytes_encode]
  dsimp only
  rw [String.ofList_toList]

/-- What is resolved was created under the identifier, whatever the files say. -/
theorem exists_created_of_resolve (hw : Honest store w) (hid : isSecretId secretId)
    (h : store.resolve w secretId = .ok text) : (secretId, text) ∈ w.created := by
  obtain ⟨fields, -, hkind⟩ := bind_ok h
  obtain ⟨kind, -, hciphertext⟩ := bind_ok hkind
  obtain ⟨ciphertext, -, hnonce⟩ := bind_ok hciphertext
  obtain ⟨nonce, -, htext⟩ := bind_ok hnonce
  cases hdecrypt : Aead.decrypt w.log nonce ciphertext (aad secretId kind) with
  | none =>
    rw [hdecrypt] at htext
    cases htext
  | some plaintext =>
    rw [hdecrypt] at htext
    obtain ⟨s, hs, -, -, hdata, rfl⟩ := Aead.exists_of_decrypt hdecrypt
    obtain ⟨id, kind', text', hid', hmem, hdata', hplaintext⟩ := hw.created s hs
    obtain rfl := aad_inj hid' hid (hdata'.symm.trans hdata)
    change decodeText s.plaintext = _ at htext
    rw [hplaintext, decodeText_encode] at htext
    exact Except.ok.inj htext ▸ hmem

theorem readDocument_error {e : SecretError} (h : store.readDocument w secretId = .error e)
    (hfits : ∀ value, w.files secretId = some (.json value) → fits store.maxDepth value = true) :
    e = .notFound ∨ e = .integrity := by
  unfold readDocument at h
  split at h
  · split at h
    · exact .inl (Except.error.inj h).symm
    · exact .inr (Except.error.inj h).symm
    · exact .inr (Except.error.inj h).symm
    · next value hfile =>
      rw [loads, if_pos (hfits value hfile)] at h
      cases value with
      | obj fields =>
        change (if _ then _ else _) = _ at h
        split at h
        · exact .inr (Except.error.inj h).symm
        · split at h
          · exact .inr (Except.error.inj h).symm
          · split at h
            · exact .inr (Except.error.inj h).symm
            · cases h
      | null | bool | int | real | str | arr => exact .inr (Except.error.inj h).symm
  · exact .inl (Except.error.inj h).symm

theorem documentKind_error {fields : List (String × Json)} {e : SecretError} (h : documentKind fields = .error e) :
    e = .integrity := by
  unfold documentKind at h
  split at h
  · cases h
  · exact (Except.error.inj h).symm

theorem decodeField_error {value : Option Json} {expected : Option Nat} {e : SecretError}
    (h : decodeField value expected = .error e) : e = .integrity := by
  unfold decodeField at h
  split at h
  · split at h
    · exact (Except.error.inj h).symm
    · split at h
      · exact (Except.error.inj h).symm
      · split at h
        · exact (Except.error.inj h).symm
        · cases h
  · exact (Except.error.inj h).symm

/-- Nothing but the two errors is raised for a document that can be read. -/
theorem resolve_error (hw : Honest store w) {e : SecretError} (h : store.resolve w secretId = .error e)
    (hfits : ∀ value, w.files secretId = some (.json value) → fits store.maxDepth value = true) :
    e = .notFound ∨ e = .integrity := by
  rcases bind_error h with hread | ⟨fields, -, hrest⟩
  · exact readDocument_error hread hfits
  rcases bind_error hrest with hkind | ⟨kind, -, hrest⟩
  · exact .inr (documentKind_error hkind)
  rcases bind_error hrest with hciphertext | ⟨ciphertext, -, hrest⟩
  · exact .inr (decodeField_error hciphertext)
  rcases bind_error hrest with hnonce | ⟨nonce, -, hrest⟩
  · exact .inr (decodeField_error hnonce)
  cases hdecrypt : Aead.decrypt w.log nonce ciphertext (aad secretId kind) with
  | none =>
    rw [hdecrypt] at hrest
    exact .inr (Except.error.inj hrest).symm
  | some plaintext =>
    rw [hdecrypt] at hrest
    obtain ⟨s, hs, -, -, -, rfl⟩ := Aead.exists_of_decrypt hdecrypt
    obtain ⟨_, _, text, -, -, -, hplaintext⟩ := hw.created s hs
    change decodeText s.plaintext = _ at hrest
    rw [hplaintext, decodeText_encode] at hrest
    cases hrest

/-- A document that cannot be read raises neither of the two errors. -/
theorem resolve_unreadable (hid : isSecretId secretId) {value : Json}
    (hfile : w.files secretId = some (.json value)) (hfits : fits store.maxDepth value = false) :
    store.resolve w secretId = .error .other := by
  have hread : store.readDocument w secretId = .error .other := by
    simp only [readDocument, hid, if_true, hfile, loads, hfits, Bool.false_eq_true, if_false]
    rfl
  unfold resolve
  rw [hread]
  rfl

/-- A text that was created under the identifier, and no other one, or one of two errors. -/
def Closed (store : ManagedCredentialStore) (w : SecretWorld) (secretId : String) : Prop :=
  (∃ text, store.resolve w secretId = .ok text ∧ ∀ text', (secretId, text') ∈ w.created ↔ text' = text) ∨
    store.resolve w secretId = .error .notFound ∨ store.resolve w secretId = .error .integrity

theorem resolve_closed_iff (hfresh : Fresh actions) (hid : isSecretId secretId) :
    Closed store (store.after actions) secretId ↔
      ∀ value, (store.after actions).files secretId = some (.json value) → fits store.maxDepth value = true := by
  have hw := honest_after store actions
  constructor
  · intro h value hfile
    by_contra hfits
    have hother := resolve_unreadable hid hfile (Bool.of_not_eq_true hfits)
    rcases h with ⟨text, h, -⟩ | h | h <;> rw [hother] at h <;> cases h
  · intro hfits
    cases hresolve : store.resolve (store.after actions) secretId with
    | ok text =>
      have hmem := exists_created_of_resolve hw hid hresolve
      have hnodup := (created_sublist store actions).nodup hfresh
      refine .inl ⟨text, hresolve, fun text' => ⟨fun hmem' => ?_, fun heq => heq ▸ hmem⟩⟩
      exact (Prod.mk.inj (List.inj_on_of_nodup_map hnodup hmem' hmem rfl)).2
    | error e =>
      rcases resolve_error hw hresolve hfits with rfl | rfl
      · exact .inr (.inl hresolve)
      · exact .inr (.inr hresolve)

/-! ## A document that nobody has touched -/

theorem decodeField_encode {bytes : List UInt8} (hne : bytes ≠ []) {expected : Option Nat}
    (h : expected.any (· ≠ bytes.length) = false) :
    decodeField (some (.str (String.ofList (Base64.encode bytes)))) expected = .ok bytes := by
  simp only [decodeField, String.toList_ofList, Base64.decode_encode, h, hne, if_false, Bool.false_eq_true]

theorem ofValue_value (kind : ManagedSecretKind) : ManagedSecretKind.ofValue? (some (.str kind.value)) = some kind := by
  cases kind <;> decide

theorem member_document (kind : ManagedSecretKind) (metadata : List (String × Json)) (draw : Draw)
    (ciphertext : List UInt8) :
    member (document kind metadata draw ciphertext) "version" = some (.int 1) ∧
      member (document kind metadata draw ciphertext) "algorithm" = some (.str "AES-256-GCM") ∧
      member (document kind metadata draw ciphertext) "id" = some (.str draw.id) ∧
      member (document kind metadata draw ciphertext) "kind" = some (.str kind.value) ∧
      member (document kind metadata draw ciphertext) "ciphertext" =
        some (.str (String.ofList (Base64.encode ciphertext))) ∧
      member (document kind metadata draw ciphertext) "nonce" =
        some (.str (String.ofList (Base64.encode draw.nonce))) :=
  ⟨rfl, rfl, rfl, rfl, rfl, rfl⟩

/-- The document of a secret is resolved as its text. -/
theorem resolve_document (hw : Honest store w) (hid : isSecretId draw.id) {ciphertext : List UInt8}
    (hfits : fits store.maxDepth (.obj (document kind metadata draw ciphertext)) = true)
    (hfile : w.files draw.id = some (.json (.obj (document kind metadata draw ciphertext))))
    (hlog : ⟨draw.nonce, aad draw.id kind, utf8Encode plaintext.toList, ciphertext⟩ ∈ w.log) :
    store.resolve w draw.id = .ok plaintext := by
  have hciphertext : ciphertext ≠ [] := by
    intro hempty
    have hlength := store.aead.length_encrypt draw.nonce (utf8Encode plaintext.toList) (aad draw.id kind)
    rw [← hw.encrypted _ hlog] at hlength
    have htag := store.aead.tag_pos
    change ciphertext.length = _ at hlength
    rw [hempty, List.length_nil] at hlength
    omega
  have hnonce : draw.nonce ≠ [] := by
    intro hempty
    have hlength := draw.nonce_length
    rw [hempty] at hlength
    cases hlength
  obtain ⟨hversion, halgorithm, hname, hkind, hcipher, hdrawn⟩ := member_document kind metadata draw ciphertext
  have hread : store.readDocument w draw.id = .ok (document kind metadata draw ciphertext) := by
    simp only [readDocument, hid, if_true, hfile, loads, hfits, bind, Except.bind, hversion, halgorithm, hname,
      isVersion, ne_eq, not_true_eq_false, if_false, decide_true, Bool.not_true, Bool.false_eq_true]
  have hdecrypt : Aead.decrypt w.log draw.nonce ciphertext (aad draw.id kind) = some (utf8Encode plaintext.toList) :=
    Aead.decrypt_encrypt store.aead hw.encrypted hlog
  have hfirst : decodeField (some (.str (String.ofList (Base64.encode ciphertext)))) none = .ok ciphertext :=
    decodeField_encode hciphertext rfl
  have hsecond : decodeField (some (.str (String.ofList (Base64.encode draw.nonce)))) (some 12) = .ok draw.nonce :=
    decodeField_encode hnonce (by simp [draw.nonce_length])
  simp only [resolve, hread, bind, Except.bind, documentKind, hkind, ofValue_value, hcipher, hdrawn, hfirst, hsecond,
    hdecrypt, decodeText_encode]

/-- The action leaves the file of the secret as it is. -/
def Action.keeps (secretId : String) : Action → Bool
  | .create _ _ _ draw => draw.id ≠ secretId
  | .delete id => id ≠ secretId
  | .tamper _ => false

variable (store w) in
theorem next_keeps {action : Action} (h : action.keeps secretId) :
    (store.next w action).files secretId = w.files secretId ∧ w.log ⊆ (store.next w action).log := by
  cases action with
  | create kind plaintext metadata draw =>
    have hne : secretId ≠ draw.id := fun heq => of_decide_eq_true h heq.symm
    cases hcreate : store.create w kind plaintext metadata draw with
    | error =>
      rw [next_refused hcreate]
      exact ⟨rfl, List.Subset.refl _⟩
    | ok w' =>
      obtain ⟨ciphertext, -, -, rfl⟩ := create_ok hcreate
      rw [next_create hcreate]
      exact ⟨if_neg hne, List.subset_append_left _ _⟩
  | delete id =>
    have hne : secretId ≠ id := fun heq => of_decide_eq_true h heq.symm
    rcases next_delete store w id with hnext | hnext <;> rw [hnext]
    · exact ⟨rfl, List.Subset.refl _⟩
    · exact ⟨if_neg hne, List.Subset.refl _⟩
  | tamper files => cases h

variable (store w) in
theorem foldl_keeps (h : ∀ action ∈ actions, action.keeps secretId) :
    (actions.foldl store.next w).files secretId = w.files secretId ∧ w.log ⊆ (actions.foldl store.next w).log := by
  induction actions generalizing w with
  | nil => exact ⟨rfl, List.Subset.refl _⟩
  | cons action actions ih =>
    obtain ⟨hfile, hlog⟩ := next_keeps store w (h action List.mem_cons_self)
    obtain ⟨hfiles, hlogs⟩ := ih (store.next w action) fun action hmem => h action (List.mem_cons_of_mem _ hmem)
    exact ⟨hfiles.trans hfile, List.Subset.trans hlog hlogs⟩

/-- A secret that is created is resolved as long as nobody touches its file. -/
theorem resolve_of_kept {before later : List Action}
    (hcreate : store.create (store.after before) kind plaintext metadata draw = .ok w')
    (hkept : ∀ action ∈ later, action.keeps draw.id) :
    store.resolve (store.after (before ++ .create kind plaintext metadata draw :: later)) draw.id = .ok plaintext := by
  have hafter : store.after (before ++ .create kind plaintext metadata draw :: later) = later.foldl store.next w' := by
    rw [after, List.foldl_append, List.foldl_cons]
    exact congrArg (fun w => later.foldl store.next w) (next_create hcreate)
  obtain ⟨hfile, hlog⟩ := foldl_keeps store w' hkept
  have hw := honest_after store (before ++ .create kind plaintext metadata draw :: later)
  obtain ⟨ciphertext, -, hfits, rfl⟩ := create_ok hcreate
  rw [hafter] at hw ⊢
  refine resolve_document hw draw.id_form hfits (hfile.trans (if_pos rfl)) (hlog ?_)
  exact List.mem_append_right _ List.mem_cons_self

/-- After any calls, and whatever was put into the directory, a well-formed identifier is resolved as the text that
was created under it, or one of two errors is raised, if and only if its document can be read; and a secret that was
created is resolved as long as nobody touches its file. -/
theorem managed_store_fails_closed (store : ManagedCredentialStore) (actions : List Action)
    (hfresh : Fresh actions) :
    (∀ secretId, isSecretId secretId → (Closed store (store.after actions) secretId ↔
      ∀ value, (store.after actions).files secretId = some (.json value) → fits store.maxDepth value = true)) ∧
    ∀ before kind plaintext metadata draw later w', actions = before ++ .create kind plaintext metadata draw :: later →
      store.create (store.after before) kind plaintext metadata draw = .ok w' →
      (∀ action ∈ later, action.keeps draw.id) →
      store.resolve (store.after actions) draw.id = .ok plaintext := by
  refine ⟨fun secretId hid => resolve_closed_iff hfresh hid, ?_⟩
  rintro before kind plaintext metadata draw later w' rfl hcreate hkept
  exact resolve_of_kept hcreate hkept

/-! ## A document with a number that is too long -/

section Sample

/-- The text itself and a tag that is the same for all. -/
def plainAead : Aead String where
  encrypt _ plaintext _ := plaintext ++ List.replicate 16 0
  tagLength := 16
  tag_pos := by decide
  length_encrypt _ plaintext _ := by rw [List.length_append, List.length_replicate]
  encrypt_inj _ _ _ _ h := List.append_cancel_right h

def sampleStore : ManagedCredentialStore := ⟨plainAead, 100⟩

def sampleDraw : Draw where
  id := "sec_00112233445566778899aabbccddeeff"
  id_form := by decide
  nonce := List.replicate 12 0
  nonce_length := rfl
  createdAt := "2026-01-01T00:00:00+00:00"

theorem created_secret_resolved :
    Closed sampleStore (sampleStore.after [.create .password "hunter2" [] sampleDraw]) sampleDraw.id ∧
    sampleStore.resolve (sampleStore.after [.create .password "hunter2" [] sampleDraw]) sampleDraw.id =
      .ok "hunter2" := by
  obtain ⟨hclosed, hkept⟩ := managed_store_fails_closed sampleStore [.create .password "hunter2" [] sampleDraw]
    (by decide)
  obtain ⟨w, hw, -⟩ := ok_of_any (p := fun _ => true)
    (x := sampleStore.create (sampleStore.after []) .password "hunter2" [] sampleDraw) (by decide)
  have hresolve := hkept [] .password "hunter2" [] sampleDraw [] w rfl hw fun _ h => absurd h List.not_mem_nil
  refine ⟨(hclosed _ sampleDraw.id_form).mpr fun value hfile => ?_, hresolve⟩
  by_contra hfits
  rw [resolve_unreadable sampleDraw.id_form hfile (Bool.of_not_eq_true hfits)] at hresolve
  cases hresolve

theorem fits_long {n : Nat} (h : ¬n.repr.length ≤ 4300) (depth : Nat) (ciphertext : List UInt8) :
    fits depth (.obj (document .password [("size", .int n)] sampleDraw ciphertext)) = false := by
  have hsize : ∀ depth, fits depth (.obj [("size", .int n)]) = false := by
    intro depth
    simp only [fits, fieldsFit, Int.natAbs_natCast, h, decide_false, Bool.false_and, Bool.and_false]
  simp only [document, fits, fieldsFit, Bool.true_and]
  have hmetadata := hsize (depth - 1)
  simp only [fits, fieldsFit] at hmetadata
  rw [hmetadata]
  simp only [Bool.false_and, Bool.and_false]

/-- A number of 4301 digits in the metadata of a document raises a `ValueError` that is not expected. -/
theorem long_number_raises : ∃ files,
    Fresh [.create .password "hunter2" [] sampleDraw, .tamper files] ∧
    ¬Closed sampleStore (sampleStore.after [.create .password "hunter2" [] sampleDraw, .tamper files])
      sampleDraw.id := by
  have hlong : ¬(Nat.repr (10 ^ 4300)).length ≤ 4300 := by
    rw [Nat.length_repr_le_iff (by decide)]
    exact Nat.lt_irrefl _
  have hfits := fits_long hlong sampleStore.maxDepth []
  refine ⟨fun _ => some (.json (.obj (document .password [("size", .int (10 ^ 4300 : Nat))] sampleDraw []))),
    by decide, ?_⟩
  have hother : sampleStore.resolve (sampleStore.after [.create .password "hunter2" [] sampleDraw,
      .tamper fun _ => some (.json (.obj (document .password [("size", .int (10 ^ 4300 : Nat))] sampleDraw [])))])
      sampleDraw.id = .error .other := resolve_unreadable sampleDraw.id_form rfl hfits
  rintro (⟨text, h, -⟩ | h | h) <;> rw [hother] at h <;> cases h

end Sample

end Connections.ManagedCredentialStore
