import Mathlib.Data.List.Dedup
import Mathlib.Data.String.Basic
import Qaneris.Infra.Dict
import Qaneris.Infra.Unions

/-!
# Alignment

Several dictionaries are laid side by side: one row for each key that any of them has, in the order of the
keys, and in it what each of them has under the key.

* `mem_align` — which rows there are
* `align_column` — a column without its gaps is the dictionary that it comes from
-/

namespace Infra

variable {β : Type} {ds : List (Dict β)}

/-- The keys of all the dictionaries, each once and sorted. -/
def allKeys (ds : List (Dict β)) : List String := sortedBy id (ds.flatMap Dict.keys).dedup

def align (ds : List (Dict β)) : List (String × List (Option β)) :=
  (allKeys ds).map fun key => (key, ds.map fun d => d.get? key)

theorem mem_allKeys {key : String} : key ∈ allKeys ds ↔ ∃ d ∈ ds, key ∈ d.keys := by
  simp [allKeys, mem_sortedBy]

theorem nodup_allKeys (ds : List (Dict β)) : (allKeys ds).Nodup :=
  (List.perm_insertionSort _ _).nodup_iff.mpr (List.nodup_dedup _)

theorem pairwise_allKeys (ds : List (Dict β)) : (allKeys ds).Pairwise (· < ·) := by
  have hle : (allKeys ds).Pairwise (· ≤ ·) := pairwise_sortedBy id _
  refine (hle.and (nodup_allKeys ds)).imp ?_
  rintro a b ⟨hab, hne⟩
  exact lt_of_le_of_ne hab hne

/-- A list of keys in their order is known by its members. -/
theorem eq_of_pairwise_lt {keys keys' : List String} (h : keys.Pairwise (· < ·))
    (h' : keys'.Pairwise (· < ·)) (hmem : ∀ key, key ∈ keys ↔ key ∈ keys') : keys = keys' := by
  refine List.Perm.eq_of_pairwise (fun a b _ _ hab hba => absurd hab (lt_asymm hba)) h h' ?_
  exact (List.perm_ext_iff_of_nodup (h.imp ne_of_lt) (h'.imp ne_of_lt)).mpr hmem

theorem mem_align {key : String} {cells : List (Option β)} :
    (key, cells) ∈ align ds ↔ (∃ d ∈ ds, key ∈ d.keys) ∧ cells = ds.map fun d => d.get? key := by
  simp only [align, List.mem_map, Prod.mk.injEq, ← mem_allKeys]
  constructor
  · rintro ⟨k, hk, rfl, rfl⟩
    exact ⟨hk, rfl⟩
  · rintro ⟨hk, rfl⟩
    exact ⟨key, hk, rfl, rfl⟩

/-- **What a column has, its gaps apart, is the dictionary that it comes from**, sorted by its keys. -/
theorem align_column {i : Nat} {d : Dict β} (hd : ds[i]? = some d) (hkeys : d.keys.Nodup) :
    ((align ds).filterMap fun row => (row.2[i]?.join).map fun value => (row.1, value)).Perm d := by
  have hcolumn : ((align ds).filterMap fun row => (row.2[i]?.join).map fun value => (row.1, value)) =
      (allKeys ds).filterMap fun key => (d.get? key).map fun value => (key, value) := by
    simp [align, List.filterMap_map, hd]
  rw [hcolumn]
  refine (List.perm_ext_iff_of_nodup ?_ hkeys.of_map).mpr fun item => ?_
  · refine (nodup_allKeys ds).filterMap fun key key' item hitem hitem' => ?_
    simp only [Option.mem_def, Option.map_eq_some_iff] at hitem hitem'
    obtain ⟨value, -, rfl⟩ := hitem
    obtain ⟨value', -, heq⟩ := hitem'
    exact (congrArg Prod.fst heq).symm
  · obtain ⟨key, value⟩ := item
    have hmem : (key, value) ∈ d → key ∈ allKeys ds := fun h =>
      mem_allKeys.mpr ⟨d, List.mem_of_getElem? hd, List.mem_map.mpr ⟨_, h, rfl⟩⟩
    simp only [List.mem_filterMap, Option.map_eq_some_iff, Prod.mk.injEq]
    constructor
    · rintro ⟨k, -, v, hv, rfl, rfl⟩
      exact (Dict.get?_eq_some_iff hkeys).mp hv
    · exact fun h => ⟨key, hmem h, value, (Dict.get?_eq_some_iff hkeys).mpr h, rfl, rfl⟩

/-- Rows that are known by their keys. -/
theorem eq_map_of_keys {ρ : Type} {rows : List ρ} {keys : List String} {key : ρ → Option String}
    {f : String → ρ} (hkeys : rows.map key = keys.map some)
    (hrow : ∀ row ∈ rows, ∀ k, key row = some k → row = f k) : rows = keys.map f := by
  induction keys generalizing rows with
  | nil => exact List.map_eq_nil_iff.mp hkeys
  | cons k keys ih =>
    cases rows with
    | nil => simp at hkeys
    | cons row rows =>
      simp only [List.map_cons, List.cons.injEq] at hkeys
      rw [List.map_cons, ← hrow row List.mem_cons_self k hkeys.1,
        ← ih hkeys.2 fun r hr => hrow r (List.mem_cons_of_mem _ hr)]

end Infra
