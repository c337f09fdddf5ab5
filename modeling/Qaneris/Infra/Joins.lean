import Mathlib.Data.List.Nodup
import Mathlib.Data.List.Flatten
import Mathlib.Tactic.Common

/-!
# Joins

Rows of two sides are joined by a key. An index of the rows of one side finds those of a key, and a count
of the keys tells whether one is repeated.

* `rowsAt_indexBy` — an index finds the rows of a key, in their order
* `exists_repeated_iff` — a key is counted more than once if and only if the keys are not distinct
* `leftJoin_perm` — the left join is the inner join and the rows without a partner
-/

namespace Infra

variable {α β γ κ : Type} [DecidableEq κ]

/-! ## The joins -/

section Joins

variable (keyLeft : α → κ) (keyRight : β → κ)

/-- The rows that have the key of the row. -/
def partners (right : List β) (row : α) : List β := right.filter fun other => keyRight other = keyLeft row

def innerJoin (left : List α) (right : List β) : List (α × β) :=
  left.flatMap fun row => (partners keyLeft keyRight right row).map fun other => (row, other)

/-- The rows that have no partner. -/
def antiJoin (left : List α) (right : List β) : List α :=
  left.filter fun row => partners keyLeft keyRight right row = []

/-- Every row with each of its partners, or with none. -/
def leftJoin (left : List α) (right : List β) : List (α × Option β) :=
  left.flatMap fun row =>
    if partners keyLeft keyRight right row = [] then [(row, none)]
    else (partners keyLeft keyRight right row).map fun other => (row, some other)

variable {keyLeft keyRight} {left : List α} {right : List β}

theorem mem_innerJoin {row : α} {other : β} : (row, other) ∈ innerJoin keyLeft keyRight left right ↔
    row ∈ left ∧ other ∈ right ∧ keyRight other = keyLeft row := by
  unfold innerJoin partners
  rw [List.mem_flatMap]
  constructor
  · rintro ⟨row', hrow, hmem⟩
    obtain ⟨other', hother, heq⟩ := List.mem_map.mp hmem
    obtain ⟨rfl, rfl⟩ := Prod.mk.inj heq
    obtain ⟨hmem, hkey⟩ := List.mem_filter.mp hother
    exact ⟨hrow, hmem, of_decide_eq_true hkey⟩
  · rintro ⟨hrow, hother, hkey⟩
    exact ⟨row, hrow, List.mem_map.mpr ⟨other, List.mem_filter.mpr ⟨hother, decide_eq_true hkey⟩, rfl⟩⟩

variable (keyLeft keyRight left right) in
/-- The left join is the inner join, and the rows without a partner. -/
theorem leftJoin_perm : (leftJoin keyLeft keyRight left right).Perm
    ((innerJoin keyLeft keyRight left right).map (fun pair => (pair.1, some pair.2)) ++
      (antiJoin keyLeft keyRight left right).map fun row => (row, none)) := by
  induction left with
  | nil => exact List.Perm.refl _
  | cons row left ih =>
    unfold leftJoin innerJoin antiJoin at ih ⊢
    rw [List.flatMap_cons, List.flatMap_cons, List.filter_cons]
    by_cases hnone : partners keyLeft keyRight right row = []
    · rw [if_pos hnone, hnone, if_pos (decide_eq_true rfl), List.map_nil, List.nil_append, List.map_cons]
      exact (ih.cons _).trans List.perm_middle.symm
    · rw [if_neg hnone, if_neg (by simpa using hnone), List.map_append, List.map_map, List.append_assoc]
      exact List.Perm.append_left _ ih

end Joins

/-! ## The index of a side -/

section Index

/-- `index.setdefault(key, []).append(row)` -/
def insertAt (index : List (κ × List β)) (key : κ) (row : β) : List (κ × List β) :=
  match index with
  | [] => [(key, [row])]
  | (k, rows) :: index =>
    if k = key then (k, rows ++ [row]) :: index else (k, rows) :: insertAt index key row

/-- The rows by their keys. -/
def indexBy (key : β → κ) (rows : List β) : List (κ × List β) :=
  rows.foldl (fun index row => insertAt index (key row) row) []

/-- `index.get(key, [])` -/
def rowsAt (index : List (κ × List β)) (key : κ) : List β :=
  ((index.find? fun entry => entry.1 = key).map Prod.snd).getD []

variable {key : β → κ}

theorem rowsAt_insertAt (index : List (κ × List β)) (k k' : κ) (row : β) :
    rowsAt (insertAt index k row) k' = if k = k' then rowsAt index k' ++ [row] else rowsAt index k' := by
  induction index with
  | nil =>
    by_cases h : k = k'
    · simp [insertAt, rowsAt, h]
    · simp [insertAt, rowsAt, h]
  | cons entry index ih =>
    obtain ⟨k₀, rows⟩ := entry
    rw [insertAt]
    by_cases hk : k₀ = k
    · subst hk
      by_cases h : k₀ = k'
      · simp [rowsAt, h]
      · simp [rowsAt, h]
    · rw [if_neg hk]
      by_cases h : k₀ = k'
      · subst h
        simp [rowsAt, Ne.symm hk]
      · have hskip : ∀ index : List (κ × List β), rowsAt ((k₀, rows) :: index) k' = rowsAt index k' := by
          intro index
          simp [rowsAt, h]
        rw [hskip, hskip, ih]

theorem rowsAt_foldl (rows : List β) (index : List (κ × List β)) (k : κ) :
    rowsAt (rows.foldl (fun index row => insertAt index (key row) row) index) k =
      rowsAt index k ++ rows.filter fun row => key row = k := by
  induction rows generalizing index with
  | nil => simp
  | cons row rows ih =>
    rw [List.foldl_cons, ih, rowsAt_insertAt, List.filter_cons]
    by_cases h : key row = k
    · simp [h]
    · simp [h]

/-- An index finds the rows of a key, in their order. -/
theorem rowsAt_indexBy (rows : List β) (k : κ) :
    rowsAt (indexBy key rows) k = rows.filter fun row => key row = k := rowsAt_foldl rows [] k

end Index

/-! ## Counts -/

section Counts

/-- `counts[key] += 1` -/
def countAt (counts : List (κ × Nat)) (key : κ) : List (κ × Nat) :=
  match counts with
  | [] => [(key, 1)]
  | (k, n) :: counts => if k = key then (k, n + 1) :: counts else (k, n) :: countAt counts key

/-- `Counter(keys)` -/
def countsOf (keys : List κ) : List (κ × Nat) := keys.foldl countAt []

/-- `counts[key]` -/
def countIn (counts : List (κ × Nat)) (key : κ) : Nat :=
  ((counts.find? fun entry => entry.1 = key).map Prod.snd).getD 0

theorem countIn_countAt (counts : List (κ × Nat)) (key k : κ) :
    countIn (countAt counts key) k = countIn counts k + if key = k then 1 else 0 := by
  induction counts with
  | nil =>
    by_cases h : key = k
    · simp [countAt, countIn, h]
    · simp [countAt, countIn, h]
  | cons entry counts ih =>
    obtain ⟨k₀, n⟩ := entry
    rw [countAt]
    by_cases hk : k₀ = key
    · subst hk
      by_cases h : k₀ = k
      · simp [countIn, h]
      · simp [countIn, h]
    · rw [if_neg hk]
      by_cases h : k₀ = k
      · subst h
        simp [countIn, Ne.symm hk]
      · have hskip : ∀ counts : List (κ × Nat), countIn ((k₀, n) :: counts) k = countIn counts k := by
          intro counts
          simp [countIn, h]
        rw [hskip, hskip, ih]

theorem countIn_foldl (keys : List κ) (counts : List (κ × Nat)) (k : κ) :
    countIn (keys.foldl countAt counts) k = countIn counts k + keys.count k := by
  induction keys generalizing counts with
  | nil => simp
  | cons key keys ih =>
    rw [List.foldl_cons, ih, countIn_countAt, List.count_cons, Nat.add_assoc, Nat.add_comm (keys.count k)]
    simp only [beq_iff_eq]

theorem mem_names_countAt {counts : List (κ × Nat)} {key k : κ} :
    k ∈ (countAt counts key).map Prod.fst ↔ k = key ∨ k ∈ counts.map Prod.fst := by
  induction counts with
  | nil => simp [countAt]
  | cons entry counts ih =>
    obtain ⟨k₀, n⟩ := entry
    rw [countAt]
    by_cases h : k₀ = key
    · subst h
      simp
    · rw [if_neg h, List.map_cons, List.mem_cons, ih, List.map_cons, List.mem_cons]
      exact or_left_comm

theorem nodup_countAt {counts : List (κ × Nat)} (h : (counts.map Prod.fst).Nodup) (key : κ) :
    ((countAt counts key).map Prod.fst).Nodup := by
  induction counts with
  | nil => simp [countAt]
  | cons entry counts ih =>
    obtain ⟨k₀, n⟩ := entry
    obtain ⟨hnot, hrest⟩ := List.nodup_cons.mp h
    rw [countAt]
    by_cases hk : k₀ = key
    · rw [if_pos hk]
      exact h
    · rw [if_neg hk, List.map_cons, List.nodup_cons]
      refine ⟨fun hmem => ?_, ih hrest⟩
      rcases mem_names_countAt.mp hmem with heq | hmem
      · exact hk heq
      · exact hnot hmem

theorem nodup_countsOf (keys : List κ) : ((countsOf keys).map Prod.fst).Nodup := by
  have hfold : ∀ counts : List (κ × Nat), (counts.map Prod.fst).Nodup →
      ((keys.foldl countAt counts).map Prod.fst).Nodup := by
    induction keys with
    | nil => exact fun _ h => h
    | cons key keys ih => exact fun counts h => ih _ (nodup_countAt h key)
  exact hfold [] List.nodup_nil

theorem countIn_of_mem {counts : List (κ × Nat)} (h : (counts.map Prod.fst).Nodup) {entry : κ × Nat}
    (hentry : entry ∈ counts) : countIn counts entry.1 = entry.2 := by
  induction counts with
  | nil => exact absurd hentry List.not_mem_nil
  | cons first counts ih =>
    obtain ⟨hnot, hrest⟩ := List.nodup_cons.mp h
    rcases List.mem_cons.mp hentry with rfl | hmem
    · simp [countIn]
    · have hne : first.1 ≠ entry.1 := fun heq => hnot (heq ▸ List.mem_map_of_mem hmem)
      rw [← ih hrest hmem]
      simp [countIn, hne]

theorem exists_mem_of_countIn {counts : List (κ × Nat)} {k : κ} (h : 0 < countIn counts k) :
    ∃ entry ∈ counts, entry.2 = countIn counts k := by
  unfold countIn at h ⊢
  cases hfind : counts.find? fun entry => entry.1 = k with
  | none =>
    rw [hfind] at h
    exact absurd h (Nat.lt_irrefl 0)
  | some entry => exact ⟨entry, List.mem_of_find?_eq_some hfind, rfl⟩

/-- A key is counted more than once if and only if the keys are not distinct. -/
theorem exists_repeated_iff (keys : List κ) : (∃ entry ∈ countsOf keys, 1 < entry.2) ↔ ¬keys.Nodup := by
  have hcount : ∀ k, countIn (countsOf keys) k = keys.count k := by
    intro k
    rw [countsOf, countIn_foldl]
    exact Nat.zero_add _
  rw [List.nodup_iff_count_le_one]
  simp only [not_forall, Nat.not_le]
  constructor
  · rintro ⟨entry, hentry, hlt⟩
    rw [← countIn_of_mem (nodup_countsOf keys) hentry, hcount] at hlt
    exact ⟨entry.1, hlt⟩
  · rintro ⟨k, hlt⟩
    rw [← hcount] at hlt
    obtain ⟨entry, hentry, heq⟩ := exists_mem_of_countIn (Nat.lt_trans Nat.zero_lt_one hlt)
    exact ⟨entry, hentry, heq ▸ hlt⟩

end Counts

end Infra
