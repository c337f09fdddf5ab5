import Mathlib.Data.List.Basic
import Mathlib.Data.List.Infix

/-!
# Reading a stream through overlapping windows

A stream is read chunk by chunk and looked at in windows: a chunk with the end of the window before
it. What is short enough to lie in the overlap, or lies in one chunk, is in some window as a whole;
`mem_windows_iff` and `infix_window_iff` say exactly what is.
-/

namespace Infra

universe u

variable {α : Type u}

/-- `l[-n:]` -/
def lastN (n : Nat) (l : List α) : List α := l.drop (l.length - n)

theorem lastN_append (n : Nat) (a b : List α) : lastN n (lastN n a ++ b) = lastN n (a ++ b) := by
  set k := a.length - n with hk
  have hlength : (lastN n a).length = a.length - k := List.length_drop
  have htake : (a.take k).length = k := by
    rw [List.length_take]
    omega
  have hsplit : a ++ b = a.take k ++ (lastN n a ++ b) := by
    rw [← List.append_assoc]
    exact congrArg (· ++ b) (List.take_append_drop k a).symm
  have hdrop : (a ++ b).length - n = k + ((lastN n a ++ b).length - n) := by
    simp only [List.length_append, hlength]
    omega
  have hskip : (a.take k ++ (lastN n a ++ b)).drop (k + ((lastN n a ++ b).length - n)) =
      (lastN n a ++ b).drop ((lastN n a ++ b).length - n) := by
    rw [@List.drop_append _ (a.take k), htake, Nat.add_sub_cancel_left,
      List.drop_eq_nil_of_le (by omega), List.nil_append]
  show (lastN n a ++ b).drop ((lastN n a ++ b).length - n) = (a ++ b).drop ((a ++ b).length - n)
  rw [← hskip, ← hdrop, ← hsplit]

/-- The windows of what is left of a stream, `tail` being the end of the window before. -/
def windowsFrom (size overlap : Nat) : Nat → List α → List α → List (List α)
  | 0, _, _ => []
  | fuel + 1, tail, handle =>
    if handle.isEmpty then []
    else
      let window := tail ++ handle.take size
      window :: windowsFrom size overlap fuel (lastN overlap window) (handle.drop size)

def windows (size overlap : Nat) (text : List α) : List (List α) :=
  windowsFrom size overlap text.length [] text

/-- The window that ends the chunk at `k`: the chunk and `overlap` characters before it. -/
def windowAt (size overlap : Nat) (text : List α) (k : Nat) : List α :=
  (text.take (k * size + size)).drop (k * size - overlap)

variable {size overlap : Nat}

theorem mem_windowsFrom (hsize : 0 < size) {text window : List α} :
    ∀ (fuel j : Nat), (text.drop (j * size)).length ≤ fuel →
      (window ∈ windowsFrom size overlap fuel (lastN overlap (text.take (j * size)))
          (text.drop (j * size)) ↔
        ∃ k, j ≤ k ∧ k * size < text.length ∧ window = windowAt size overlap text k) := by
  have hnone : ∀ {j : Nat}, text.drop (j * size) = [] →
      ¬ ∃ k, j ≤ k ∧ k * size < text.length ∧ window = windowAt size overlap text k := by
    rintro j hnil ⟨k, hjk, hk, -⟩
    have hend : text.length ≤ j * size := List.drop_eq_nil_iff.mp hnil
    have hmul : j * size ≤ k * size := Nat.mul_le_mul_right _ hjk
    omega
  intro fuel
  induction fuel with
  | zero =>
    intro j hfuel
    have hnil : text.drop (j * size) = [] := List.eq_nil_of_length_eq_zero (Nat.le_zero.mp hfuel)
    exact iff_of_false List.not_mem_nil (hnone hnil)
  | succ fuel ih =>
    intro j hfuel
    by_cases hnil : text.drop (j * size) = []
    · rw [hnil]
      exact iff_of_false List.not_mem_nil (hnone hnil)
    have hinside : j * size < text.length := by
      by_contra h
      exact hnil (List.drop_eq_nil_iff.mpr (by omega))
    have hlength : (text.take (j * size)).length = j * size := by
      rw [List.length_take]
      omega
    have htake : text.take (j * size + size) =
        text.take (j * size) ++ (text.drop (j * size)).take size := List.take_add
    have hwindow : lastN overlap (text.take (j * size)) ++ (text.drop (j * size)).take size =
        windowAt size overlap text j := by
      unfold windowAt lastN
      rw [htake, List.drop_append_of_le_length (by omega), hlength]
    have hnext : (j + 1) * size = j * size + size := Nat.succ_mul j size
    have htail : lastN overlap (windowAt size overlap text j) =
        lastN overlap (text.take ((j + 1) * size)) := by
      rw [← hwindow, lastN_append, ← htake, hnext]
    have hrest : (text.drop (j * size)).drop size = text.drop ((j + 1) * size) := by
      rw [List.drop_drop, hnext]
    have hfuel' : (text.drop ((j + 1) * size)).length ≤ fuel := by
      rw [List.length_drop] at hfuel ⊢
      omega
    have hempty : (text.drop (j * size)).isEmpty = false := by
      rw [List.isEmpty_eq_false_iff]
      exact hnil
    unfold windowsFrom
    simp only [hempty, Bool.false_eq_true, if_false]
    rw [hwindow, htail, hrest, List.mem_cons, ih (j + 1) hfuel']
    constructor
    · rintro (rfl | ⟨k, hjk, hk, rfl⟩)
      · exact ⟨j, Nat.le_refl j, hinside, rfl⟩
      · exact ⟨k, by omega, hk, rfl⟩
    · rintro ⟨k, hjk, hk, rfl⟩
      rcases Nat.eq_or_lt_of_le hjk with rfl | hlt
      · exact .inl rfl
      · exact .inr ⟨k, hlt, hk, rfl⟩

theorem mem_windows_iff (hsize : 0 < size) {text window : List α} :
    window ∈ windows size overlap text ↔
      ∃ k, k * size < text.length ∧ window = windowAt size overlap text k := by
  have h := @mem_windowsFrom _ size overlap hsize text window
    text.length 0 (by rw [Nat.zero_mul, List.drop_zero])
  simp only [Nat.zero_mul, List.drop_zero, List.take_zero, Nat.zero_le, true_and] at h
  have hnil : lastN overlap ([] : List α) = [] := List.drop_nil
  rwa [hnil] at h

/-- The chunk that holds the last of `length` characters from `start` on begins no more than
`overlap` characters after `start`. -/
def WithinWindow (size overlap start length : Nat) : Prop :=
  (start + length - 1) / size * size ≤ start + overlap

instance (size overlap start length : Nat) : Decidable (WithinWindow size overlap start length) :=
  inferInstanceAs (Decidable (_ ≤ _))

/-- What is no longer than the overlap always fits. -/
theorem withinWindow_of_le {start length : Nat} (h : length ≤ overlap + 1) :
    WithinWindow size overlap start length := by
  have := Nat.div_mul_le_self (start + length - 1) size
  unfold WithinWindow
  omega

/-- **What is in a window is what fits.** -/
theorem infix_window_iff (hsize : 0 < size) {text w : List α} (hw : w ≠ []) :
    (∃ window ∈ windows size overlap text, w <:+: window) ↔
      ∃ before after, text = before ++ w ++ after ∧ WithinWindow size overlap before.length w.length := by
  have hpos : 0 < w.length := List.length_pos_of_ne_nil hw
  constructor
  · rintro ⟨window, hwindow, p, q, hpq⟩
    obtain ⟨k, hk, rfl⟩ := (mem_windows_iff hsize).mp hwindow
    unfold windowAt at hpq
    refine ⟨text.take (k * size - overlap) ++ p, q ++ text.drop (k * size + size), ?_, ?_⟩
    · have hle : k * size - overlap ≤ k * size + size := by omega
      calc text = text.take (k * size + size) ++ text.drop (k * size + size) :=
            (List.take_append_drop _ _).symm
        _ = (text.take (k * size + size)).take (k * size - overlap) ++
              (text.take (k * size + size)).drop (k * size - overlap) ++
              text.drop (k * size + size) :=
            congrArg (· ++ _) (List.take_append_drop _ _).symm
        _ = text.take (k * size - overlap) ++ (p ++ w ++ q) ++ text.drop (k * size + size) := by
            rw [hpq, List.take_take, Nat.min_eq_left hle]
        _ = text.take (k * size - overlap) ++ p ++ w ++ (q ++ text.drop (k * size + size)) := by
            simp only [List.append_assoc]
    · have hlength := congrArg List.length hpq
      simp only [List.length_append, List.length_drop, List.length_take] at hlength
      unfold WithinWindow
      simp only [List.length_append, List.length_take]
      have hdiv : (min (k * size - overlap) text.length + p.length + w.length - 1) / size ≤ k := by
        refine Nat.le_of_lt_succ ((Nat.div_lt_iff_lt_mul hsize).mpr ?_)
        rw [Nat.succ_mul]
        omega
      have hmul := Nat.mul_le_mul_right size hdiv
      omega
  · rintro ⟨before, after, rfl, hwithin⟩
    unfold WithinWindow at hwithin
    set k := (before.length + w.length - 1) / size with hk
    have hlow : k * size ≤ before.length + w.length - 1 := Nat.div_mul_le_self _ _
    have hhigh : before.length + w.length - 1 < k * size + size := by
      have := Nat.lt_div_mul_add hsize (a := before.length + w.length - 1)
      omega
    refine ⟨windowAt size overlap (before ++ w ++ after) k, (mem_windows_iff hsize).mpr
      ⟨k, ?_, rfl⟩, before.drop (k * size - overlap),
      after.take (k * size + size - (before.length + w.length)), ?_⟩
    · simp only [List.length_append]
      omega
    · unfold windowAt
      have hall : (before ++ w).take (k * size + size) = before ++ w := by
        refine List.take_of_length_le ?_
        rw [List.length_append]
        omega
      rw [List.take_append, hall, List.length_append, List.append_assoc before,
        List.drop_append_of_le_length (by omega), List.append_assoc]

end Infra
