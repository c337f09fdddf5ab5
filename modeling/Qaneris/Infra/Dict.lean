import Mathlib.Data.List.Nodup

/-!
# Dictionaries with text keys

A dictionary is its items in the order of insertion. Setting a key keeps its place. What a sequence of
assignments leaves under a key is the last value assigned to it, and what was there before where there
is none.
-/

namespace Infra

/-- The keys are distinct where the dictionary comes from `set`. -/
abbrev Dict (β : Type) := List (String × β)

namespace Dict

variable {β : Type}

def get? (d : Dict β) (key : String) : Option β := d.lookup key

/-- `d[key] = value` -/
def set : (d : Dict β) → (key : String) → (value : β) → Dict β
  | [], key, value => [(key, value)]
  | (k, v) :: d, key, value =>
    if k = key then (k, value) :: d else (k, v) :: set d key value

/-- `d.update(items)`, or one assignment after the other. -/
def update (d : Dict β) (items : List (String × β)) : Dict β :=
  items.foldl (fun d item => d.set item.1 item.2) d

def keys (d : Dict β) : List String := d.map Prod.fst

/-- `d.pop(key)`, without its value. -/
def pop (d : Dict β) (key : String) : Dict β := d.filter fun item => item.1 ≠ key

/-! ## Reading what was set -/

@[simp] theorem get?_nil (key : String) : get? ([] : Dict β) key = none := rfl

theorem get?_cons (k : String) (v : β) (d : Dict β) (key : String) :
    get? ((k, v) :: d) key = if key = k then some v else get? d key := by
  unfold get?
  rw [List.lookup_cons]
  by_cases h : key = k
  · simp [h]
  · rw [if_neg h, beq_false_of_ne h]

theorem get?_set (d : Dict β) (key : String) (value : β) (other : String) :
    (d.set key value).get? other = if other = key then some value else d.get? other := by
  induction d with
  | nil =>
    rw [set, get?_cons]
  | cons item d ih =>
    obtain ⟨k, v⟩ := item
    rw [set]
    by_cases hk : k = key
    · subst hk
      rw [if_pos rfl, get?_cons, get?_cons]
      by_cases ho : other = k
      · simp [ho]
      · simp [ho]
    · rw [if_neg hk, get?_cons, get?_cons, ih]
      by_cases ho : other = k
      · subst ho
        simp [hk]
      · simp [ho]

theorem get?_pop (d : Dict β) (key other : String) :
    (d.pop key).get? other = if other = key then none else d.get? other := by
  induction d with
  | nil => simp [pop]
  | cons item d ih =>
    obtain ⟨k, v⟩ := item
    have hcons : pop ((k, v) :: d) key = if k = key then pop d key else (k, v) :: pop d key := by
      by_cases hk : k = key <;> simp [pop, hk]
    rw [hcons]
    by_cases hk : k = key
    · rw [if_pos hk, ih, get?_cons]
      by_cases ho : other = key
      · rw [if_pos ho, if_pos ho]
      · rw [if_neg ho, if_neg ho, if_neg (fun heq => ho (heq.trans hk))]
    · rw [if_neg hk, get?_cons, get?_cons, ih]
      by_cases ho : other = key
      · rw [if_neg (fun heq => hk (heq.symm.trans ho)), if_pos ho, if_pos ho]
      · rw [if_neg ho, if_neg ho]

theorem length_pop {d : Dict β} {key : String} {value : β} (h : d.get? key = some value) :
    (d.pop key).length < d.length := by
  obtain ⟨before, after, rfl, -⟩ := List.lookup_eq_some_iff.mp h
  refine List.length_filter_lt_length_iff_exists.mpr ⟨(key, value), ?_, by simp⟩
  exact List.mem_append_right _ List.mem_cons_self

@[simp] theorem update_nil (d : Dict β) : d.update [] = d := rfl

theorem update_cons (d : Dict β) (item : String × β) (items : List (String × β)) :
    d.update (item :: items) = (d.set item.1 item.2).update items := rfl

/-- **The last assignment wins**, and a key without one keeps what it had. -/
theorem get?_update (items : List (String × β)) (d : Dict β) (key : String) :
    (d.update items).get? key = (get? items.reverse key).or (d.get? key) := by
  induction items generalizing d with
  | nil => rfl
  | cons item items ih =>
    have hlast : get? (item :: items).reverse key
        = (get? items.reverse key).or (if key = item.1 then some item.2 else none) := by
      unfold get?
      rw [List.reverse_cons, List.lookup_append]
      congr 1
      exact get?_cons item.1 item.2 [] key
    rw [update_cons, ih, get?_set, hlast, Option.or_assoc]
    by_cases hk : key = item.1
    · simp [hk]
    · simp [hk]

theorem get?_eq_none {d : Dict β} {key : String} : d.get? key = none ↔ key ∉ d.keys := by
  induction d with
  | nil => simp [keys]
  | cons item d ih =>
    obtain ⟨k, v⟩ := item
    rw [get?_cons, keys, List.map_cons, List.mem_cons, not_or]
    by_cases hk : key = k
    · simp [hk]
    · rw [if_neg hk, ih]
      exact ⟨fun h => ⟨hk, h⟩, fun h => h.2⟩

/-- A key that is assigned no longer depends on the dictionary. -/
theorem get?_update_of_mem {items : List (String × β)} {key : String} (h : key ∈ keys items)
    (d d' : Dict β) : (d.update items).get? key = (d'.update items).get? key := by
  have hsome : (get? items.reverse key).isSome := by
    rw [Option.isSome_iff_ne_none, ne_eq, get?_eq_none, not_not]
    simpa [keys] using h
  obtain ⟨v, hv⟩ := Option.isSome_iff_exists.mp hsome
  rw [get?_update, get?_update, hv]
  rfl

theorem get?_update_of_not_mem {items : List (String × β)} {key : String} (h : key ∉ keys items)
    (d : Dict β) : (d.update items).get? key = d.get? key := by
  have hnone : get? items.reverse key = none := by
    rw [get?_eq_none]
    simpa [keys] using h
  rw [get?_update, hnone]
  rfl

theorem update_append (d : Dict β) (a b : List (String × β)) :
    d.update (a ++ b) = (d.update a).update b :=
  List.foldl_append

/-! ## Keys -/

theorem keys_set (d : Dict β) (key : String) (value : β) :
    (d.set key value).keys = if key ∈ d.keys then d.keys else d.keys ++ [key] := by
  induction d with
  | nil => rfl
  | cons item d ih =>
    obtain ⟨k, v⟩ := item
    unfold keys at ih ⊢
    rw [set]
    by_cases hk : k = key
    · simp [hk]
    · rw [if_neg hk, List.map_cons, List.map_cons, ih]
      by_cases hmem : key ∈ d.map Prod.fst
      · simp [hmem]
      · rw [if_neg hmem, if_neg]
        · rfl
        · rw [List.mem_cons]
          rintro (he | hm)
          · exact hk he.symm
          · exact hmem hm

/-- A new key comes last. -/
theorem set_of_not_mem {d : Dict β} {key : String} (value : β) (h : key ∉ d.keys) :
    d.set key value = d ++ [(key, value)] := by
  induction d with
  | nil => rfl
  | cons item d ih =>
    obtain ⟨k, v⟩ := item
    obtain ⟨hne, hrest⟩ := not_or.mp (fun hmem => h (List.mem_cons.mpr hmem))
    rw [set, if_neg fun heq => hne heq.symm, ih hrest]
    rfl

theorem nodup_keys_set {d : Dict β} (h : d.keys.Nodup) (key : String) (value : β) :
    (d.set key value).keys.Nodup := by
  rw [keys_set]
  split
  · exact h
  · next hmem =>
    refine List.nodup_append.mpr ⟨h, List.nodup_singleton _, ?_⟩
    intro k hk other hother he
    rw [List.mem_singleton.mp hother] at he
    exact hmem (he ▸ hk)

theorem nodup_keys_update {d : Dict β} (h : d.keys.Nodup) (items : List (String × β)) :
    (d.update items).keys.Nodup := by
  induction items generalizing d with
  | nil => exact h
  | cons item items ih =>
    rw [update_cons]
    exact ih (nodup_keys_set h item.1 item.2)

/-- Assignments to new and distinct keys add them in their order. -/
theorem keys_update_of_nodup {d : Dict β} {items : List (String × β)}
    (h : (d.keys ++ items.map Prod.fst).Nodup) : (d.update items).keys = d.keys ++ items.map Prod.fst := by
  induction items generalizing d with
  | nil => simp
  | cons item items ih =>
    have hnew : item.1 ∉ d.keys := fun hmem =>
      (List.nodup_append.mp h).2.2 item.1 hmem item.1 List.mem_cons_self rfl
    have hkeys : (d.set item.1 item.2).keys = d.keys ++ [item.1] := by
      rw [keys_set, if_neg hnew]
    rw [update_cons, ih, hkeys, List.append_assoc]
    · rfl
    · rw [hkeys, List.append_assoc]
      exact h

/-- Each item of a list whose keys are distinct is in its dictionary. -/
theorem get?_update_nil {items : List (String × β)} (h : (items.map Prod.fst).Nodup) {key : String}
    {value : β} (hmem : (key, value) ∈ items) : (update [] items).get? key = some value := by
  have hlookup : ∀ {l : List (String × β)}, (l.map Prod.fst).Nodup → (key, value) ∈ l →
      get? l key = some value := by
    intro l
    induction l with
    | nil => exact fun _ hm => absurd hm List.not_mem_nil
    | cons item l ih =>
      obtain ⟨k, v⟩ := item
      intro hnodup hm
      obtain ⟨hnew, hnodup⟩ := List.nodup_cons.mp hnodup
      rw [get?_cons]
      rcases List.mem_cons.mp hm with heq | hrest
      · obtain ⟨rfl, rfl⟩ := Prod.mk.inj heq
        exact if_pos rfl
      · rw [if_neg, ih hnodup hrest]
        rintro rfl
        exact hnew (List.mem_map.mpr ⟨_, hrest, rfl⟩)
  rw [get?_update, get?_nil, Option.or_none]
  refine hlookup ?_ (List.mem_reverse.mpr hmem)
  rw [List.map_reverse]
  exact List.nodup_reverse.mpr h

/-- A dictionary of a list has one entry for each item exactly when the keys are distinct. -/
theorem keys_update_nil_iff {items : List (String × β)} :
    (update [] items).keys = items.map Prod.fst ↔ (items.map Prod.fst).Nodup := by
  constructor
  · intro h
    have hempty : (keys ([] : Dict β)).Nodup := List.nodup_nil
    rw [← h]
    exact nodup_keys_update hempty items
  · intro h
    exact keys_update_of_nodup h

/-- What is under a key is the item with the key. -/
theorem get?_eq_some_iff {d : Dict β} (h : d.keys.Nodup) {key : String} {value : β} :
    d.get? key = some value ↔ (key, value) ∈ d := by
  induction d with
  | nil => simp
  | cons item d ih =>
    obtain ⟨k, v⟩ := item
    obtain ⟨hnew, hnodup⟩ := List.nodup_cons.mp h
    rw [get?_cons, List.mem_cons, Prod.mk.injEq]
    by_cases hk : key = k
    · subst hk
      have hnot : (key, value) ∉ d := fun hmem => hnew (List.mem_map.mpr ⟨_, hmem, rfl⟩)
      simp [hnot, eq_comm]
    · rw [if_neg hk, ih hnodup]
      simp [hk]

/-- Two dictionaries with the same keys in one order are equal when they agree under each of them. -/
theorem ext_of_keys {d d' : Dict β} (hkeys : d.keys = d'.keys) (hnodup : d.keys.Nodup)
    (hget : ∀ key ∈ d.keys, d.get? key = d'.get? key) : d = d' := by
  induction d generalizing d' with
  | nil => exact (List.map_eq_nil_iff.mp hkeys.symm).symm
  | cons item d ih =>
    obtain ⟨k, v⟩ := item
    cases d' with
    | nil => simp [keys] at hkeys
    | cons item' d' =>
      obtain ⟨k', v'⟩ := item'
      simp only [keys, List.map_cons, List.cons.injEq] at hkeys
      obtain ⟨rfl, hkeys⟩ := hkeys
      obtain ⟨hnew, hnodup⟩ := List.nodup_cons.mp hnodup
      have hv := hget k List.mem_cons_self
      rw [get?_cons, get?_cons, if_pos rfl, if_pos rfl] at hv
      cases hv
      refine congrArg _ (ih hkeys hnodup fun key hkey => ?_)
      have hne : key ≠ k := fun heq => hnew (heq ▸ hkey)
      have hrest := hget key (List.mem_cons_of_mem _ hkey)
      rwa [get?_cons, get?_cons, if_neg hne, if_neg hne] at hrest

end Dict

end Infra
