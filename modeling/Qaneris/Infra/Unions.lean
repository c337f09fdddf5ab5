import Mathlib.Data.List.Lex
import Qaneris.Infra.Sorting

/-!
# Unions of records with an identity

Records are merged by their identity, the first one of each identity being kept, and sorted by a key.
Where records of one identity are equal and the key tells identities apart, the result depends on which
records there are and on nothing else: every law of the union follows from `canonical_congr`.
-/

namespace Infra

variable {α ι κ : Type} [DecidableEq ι]

/-- One record after the other; a record whose identity is there already is dropped. -/
def addAbsent (identity : α → ι) (seen : List α) (item : α) : List α :=
  if seen.any fun other => identity other = identity item then seen else seen ++ [item]

/-- The first record of each identity. -/
def firstOfEach (identity : α → ι) (items : List α) : List α :=
  items.foldl (addAbsent identity) []

/-- Records of one identity are equal. -/
def Identified (identity : α → ι) (items : List α) : Prop :=
  ∀ a ∈ items, ∀ b ∈ items, identity a = identity b → a = b

variable {identity : α → ι} {items others : List α}

theorem Identified.mono (h : Identified identity items) (hsub : ∀ a ∈ others, a ∈ items) :
    Identified identity others :=
  fun a ha b hb => h a (hsub a ha) b (hsub b hb)

theorem nodup_addAbsent {seen : List α} (item : α) (h : (seen.map identity).Nodup) :
    ((addAbsent identity seen item).map identity).Nodup := by
  unfold addAbsent
  split
  · exact h
  · rename_i hnew
    rw [List.map_append, List.nodup_append]
    refine ⟨h, List.nodup_singleton _, ?_⟩
    intro i hi j hj
    obtain ⟨other, hother, rfl⟩ := List.mem_map.mp hi
    obtain rfl := List.mem_singleton.mp hj
    intro heq
    refine hnew (List.any_eq_true.mpr ⟨other, hother, ?_⟩)
    rw [decide_eq_true_eq]
    exact heq

/-- **No identity is there twice**, whatever the records are. -/
theorem nodup_firstOfEach (identity : α → ι) (items : List α) :
    ((firstOfEach identity items).map identity).Nodup := by
  have hrun : ∀ (items seen : List α), (seen.map identity).Nodup →
      ((items.foldl (addAbsent identity) seen).map identity).Nodup := by
    intro items
    induction items with
    | nil =>
      intro seen hseen
      exact hseen
    | cons item items ih =>
      intro seen hseen
      exact ih _ (nodup_addAbsent item hseen)
  exact hrun items [] List.nodup_nil

theorem mem_addAbsent {seen : List α} {item a : α} (h : Identified identity (item :: seen)) :
    a ∈ addAbsent identity seen item ↔ a ∈ seen ∨ a = item := by
  unfold addAbsent
  split
  · rename_i hthere
    obtain ⟨other, hother, heq⟩ := List.any_eq_true.mp hthere
    rw [decide_eq_true_eq] at heq
    obtain rfl := h other (List.mem_cons_of_mem _ hother) item List.mem_cons_self heq
    constructor
    · exact .inl
    · rintro (ha | rfl)
      · exact ha
      · exact hother
  · rw [List.mem_append, List.mem_singleton]

/-- **Nothing is lost** where records of one identity are equal. -/
theorem mem_firstOfEach (h : Identified identity items) {a : α} :
    a ∈ firstOfEach identity items ↔ a ∈ items := by
  have hrun : ∀ (rest seen : List α), Identified identity (rest ++ seen) →
      (a ∈ rest.foldl (addAbsent identity) seen ↔ a ∈ rest ∨ a ∈ seen) := by
    intro rest
    induction rest with
    | nil =>
      intro seen _
      simp
    | cons item rest ih =>
      intro seen hseen
      have hstep : ∀ {b : α}, b ∈ addAbsent identity seen item ↔ b ∈ seen ∨ b = item := by
        intro b
        refine mem_addAbsent (hseen.mono ?_)
        intro b hb
        rcases List.mem_cons.mp hb with rfl | hb
        · exact List.mem_cons_self
        · exact List.mem_append_right _ hb
      have hnext : Identified identity (rest ++ addAbsent identity seen item) := by
        refine hseen.mono ?_
        intro b hb
        rcases List.mem_append.mp hb with hb | hb
        · exact List.mem_cons_of_mem _ (List.mem_append_left _ hb)
        · rcases hstep.mp hb with hb | rfl
          · exact List.mem_append_right _ hb
          · exact List.mem_cons_self
      rw [List.foldl_cons, ih _ hnext, hstep, List.mem_cons]
      constructor
      · rintro (hb | hb | rfl)
        · exact .inl (.inr hb)
        · exact .inr hb
        · exact .inl (.inl rfl)
      · rintro ((rfl | hb) | hb)
        · exact .inr (.inr rfl)
        · exact .inl hb
        · exact .inr (.inl hb)
  unfold firstOfEach
  rw [hrun items [] (by rwa [List.append_nil])]
  simp

section Canonical

variable [LinearOrder κ]

def sortedBy (key : α → κ) (items : List α) : List α :=
  items.insertionSort fun a b => key a ≤ key b

theorem mem_sortedBy {key : α → κ} {a : α} : a ∈ sortedBy key items ↔ a ∈ items :=
  (List.perm_insertionSort _ items).mem_iff

theorem pairwise_sortedBy (key : α → κ) (items : List α) :
    (sortedBy key items).Pairwise fun a b => key a ≤ key b :=
  pairwise_of_byKey fun _ _ _ _ => Iff.rfl

/-- The first record of each identity, sorted. -/
def canonical (identity : α → ι) (key : α → κ) (items : List α) : List α :=
  sortedBy key (firstOfEach identity items)

variable {key : α → κ}

theorem mem_canonical (h : Identified identity items) {a : α} :
    a ∈ canonical identity key items ↔ a ∈ items :=
  mem_sortedBy.trans (mem_firstOfEach h)

theorem nodup_canonical (identity : α → ι) (key : α → κ) (items : List α) :
    ((canonical identity key items).map identity).Nodup :=
  ((List.perm_insertionSort _ _).map identity).nodup_iff.mpr (nodup_firstOfEach identity items)

/-- **The result depends on which records there are** and on nothing else. -/
theorem canonical_congr (key : α → κ) (others : List α) (h : Identified identity items)
    (hkey : ∀ a b, key a = key b → identity a = identity b) (hmem : ∀ a, a ∈ items ↔ a ∈ others) :
    canonical identity key items = canonical identity key others := by
  have h' : Identified identity others := h.mono fun a ha => (hmem a).mpr ha
  have hby : ByKey key (fun a b => key a ≤ key b) (firstOfEach identity items) := fun _ _ _ _ => Iff.rfl
  refine insertionSort_eq_of_perm hby ?_ ?_
  · intro a ha b hb heq
    exact h a ((mem_firstOfEach h).mp ha) b ((mem_firstOfEach h).mp hb) (hkey a b heq)
  · refine (List.perm_ext_iff_of_nodup ?_ ?_).mpr ?_
    · exact (nodup_firstOfEach identity items).of_map
    · exact (nodup_firstOfEach identity others).of_map
    · intro a
      rw [mem_firstOfEach h, mem_firstOfEach h', hmem]

end Canonical

end Infra
