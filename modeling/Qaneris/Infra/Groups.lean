import Mathlib.Data.List.Basic

/-!
# Grouping by a key

A list is cut into groups of one key each. The groups stand in the order in which their keys occur last,
and every group keeps the order of the list.
-/

namespace Infra

variable {α β γ δ : Type} [DecidableEq β] [DecidableEq γ]

/-- One element for each key, the last of it. -/
def representatives (key : α → β) : List α → List α
  | [] => []
  | x :: xs =>
    if xs.any fun y => key y = key x then representatives key xs else x :: representatives key xs

def groupsBy (key : α → β) (xs : List α) : List (List α) :=
  (representatives key xs).map fun r => xs.filter fun x => key x = key r

variable {key : α → β} {key' : α → γ} {xs : List α}

theorem representatives_sublist : (representatives key xs).Sublist xs := by
  induction xs with
  | nil => exact List.Sublist.refl []
  | cons x xs ih =>
    unfold representatives
    split
    · exact ih.cons x
    · exact ih.cons_cons x

theorem exists_representative {x : α} (h : x ∈ xs) : ∃ r ∈ representatives key xs, key r = key x := by
  induction xs generalizing x with
  | nil => cases h
  | cons y xs ih =>
    unfold representatives
    split
    · next hany =>
      rcases List.mem_cons.mp h with rfl | hx
      · -- a later element has the key
        obtain ⟨z, hz, hkey⟩ := List.any_eq_true.mp hany
        obtain ⟨r, hr, hr'⟩ := ih hz
        exact ⟨r, hr, hr'.trans (of_decide_eq_true hkey)⟩
      · exact ih hx
    · rcases List.mem_cons.mp h with rfl | hx
      · exact ⟨x, List.mem_cons_self, rfl⟩
      · obtain ⟨r, hr, hkey⟩ := ih hx
        exact ⟨r, List.mem_cons_of_mem _ hr, hkey⟩

/-- The groups are what shares the key of an element. -/
theorem mem_groupsBy {group : List α} :
    group ∈ groupsBy key xs ↔ ∃ x ∈ xs, group = xs.filter fun y => key y = key x := by
  unfold groupsBy
  rw [List.mem_map]
  constructor
  · rintro ⟨r, hr, rfl⟩
    exact ⟨r, representatives_sublist.subset hr, rfl⟩
  · rintro ⟨x, hx, rfl⟩
    have hrep : ∃ r ∈ representatives key xs, key r = key x := exists_representative hx
    obtain ⟨r, hr, hkey⟩ := hrep
    exact ⟨r, hr, by rw [hkey]⟩

theorem ne_nil_of_mem_groupsBy {group : List α} (h : group ∈ groupsBy key xs) : group ≠ [] := by
  obtain ⟨x, hx, rfl⟩ := mem_groupsBy.mp h
  exact List.ne_nil_of_mem (List.mem_filter.mpr ⟨hx, by simp⟩)

/-- Keys that tell the same elements apart make the same groups. -/
theorem groupsBy_congr (h : ∀ x ∈ xs, ∀ y ∈ xs, key x = key y ↔ key' x = key' y) :
    groupsBy key xs = groupsBy key' xs := by
  have hreps : ∀ ys, ys.Sublist xs → representatives key ys = representatives key' ys := by
    intro ys hys
    induction ys with
    | nil => rfl
    | cons y ys ih =>
      have hrest := (List.sublist_cons_self y ys).trans hys
      have hany : (ys.any fun z => key z = key y) = ys.any fun z => key' z = key' y := by
        rw [Bool.eq_iff_iff, List.any_eq_true, List.any_eq_true]
        refine exists_congr fun z => and_congr_right fun hz => ?_
        rw [decide_eq_true_iff, decide_eq_true_iff]
        exact h z (hrest.subset hz) y (hys.subset List.mem_cons_self)
      unfold representatives
      rw [hany, ih hrest]
  unfold groupsBy
  rw [hreps xs (List.Sublist.refl xs)]
  refine List.map_congr_left fun r hr => List.filter_congr fun x hx => ?_
  rw [decide_eq_decide]
  exact h x hx r (representatives_sublist.subset hr)

theorem groupsBy_map {f : δ → α} {ds : List δ} :
    groupsBy key (ds.map f) = (groupsBy (fun d => key (f d)) ds).map (List.map f) := by
  have hreps : representatives key (ds.map f) = (representatives (fun d => key (f d)) ds).map f := by
    induction ds with
    | nil => rfl
    | cons d ds ih =>
      have hany : ((ds.map f).any fun y => key y = key (f d)) = ds.any fun y => key (f y) = key (f d) :=
        List.any_map
      rw [List.map_cons, representatives, representatives, hany, ih]
      split
      · rfl
      · rfl
  unfold groupsBy
  rw [hreps, List.map_map, List.map_map]
  exact List.map_congr_left fun r _ => List.filter_map

/-- Elements of one key are one group. -/
theorem groupsBy_of_const (h : ∀ x ∈ xs, ∀ y ∈ xs, key x = key y) (hne : xs ≠ []) :
    groupsBy key xs = [xs] := by
  have hone : ∀ ys : List α, ys ≠ [] → ∃ r, representatives (fun _ => ()) ys = [r] := by
    intro ys hys
    induction ys with
    | nil => exact absurd rfl hys
    | cons y ys ih =>
      cases ys with
      | nil => exact ⟨y, rfl⟩
      | cons z ys =>
        obtain ⟨r, hr⟩ := ih (List.cons_ne_nil z ys)
        exact ⟨r, by rw [← hr]; rfl⟩
  obtain ⟨r, hr⟩ := hone xs hne
  have hunit : groupsBy key xs = groupsBy (fun _ => ()) xs :=
    groupsBy_congr fun x hx y hy => iff_of_true (h x hx y hy) rfl
  rw [hunit, groupsBy, hr, List.map_singleton]
  simp

end Infra
