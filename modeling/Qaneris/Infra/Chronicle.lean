import Mathlib.Data.List.Infix

/-!
# Chronicles

A state that remembers the states before it. No program reads what has passed; it is there to say that
something was so at one moment and not at another.

* `Continues` — a chronicle that has gone on from another one
* `Seen` — something that was so at a moment of a given number
* `Always` — what holds of every moment, given those before it
* `Always.between` — what holds between two moments, the earlier one first
-/

namespace Infra

/-- The present moment, and those that have passed, the latest first. -/
structure Chronicle (μ : Type) where
  now : μ
  past : List μ := []
  deriving Repr

namespace Chronicle

variable {μ : Type} {c d e : Chronicle μ} {m : μ}

def moments (c : Chronicle μ) : List μ := c.now :: c.past

def goOn (c : Chronicle μ) (m : μ) : Chronicle μ := ⟨m, c.moments⟩

/-- The number of the present moment; the first one has the number 0. -/
def present (c : Chronicle μ) : Nat := c.past.length

/-- The moment with this number. -/
def moment (c : Chronicle μ) (n : Nat) : Option μ := c.moments.reverse[n]?

/-- The moments before the one with this number, the latest first. -/
def before (c : Chronicle μ) (n : Nat) : List μ := (c.moments.reverse.take n).reverse

@[simp]
theorem goOn_now (c : Chronicle μ) (m : μ) : (c.goOn m).now = m := rfl

@[simp]
theorem moments_goOn (c : Chronicle μ) (m : μ) : (c.goOn m).moments = m :: c.moments := rfl

@[simp]
theorem present_goOn (c : Chronicle μ) (m : μ) : (c.goOn m).present = c.present + 1 := rfl

@[simp]
theorem moment_present (c : Chronicle μ) : c.moment c.present = some c.now := by
  simp [moment, moments, present]

theorem now_mem (c : Chronicle μ) : c.now ∈ c.moments := by simp [moments]

/-! ## Going on -/

/-- `d` has gone on from `c`. -/
def Continues (c d : Chronicle μ) : Prop := c.moments <:+ d.moments

theorem Continues.refl (c : Chronicle μ) : Continues c c := List.suffix_refl _

theorem Continues.trans (h : Continues c d) (h' : Continues d e) : Continues c e :=
  List.IsSuffix.trans h h'

theorem continues_goOn (c : Chronicle μ) (m : μ) : Continues c (c.goOn m) := List.suffix_cons _ _

theorem Continues.mem (h : Continues c d) (hm : m ∈ c.moments) : m ∈ d.moments := h.subset hm

theorem Continues.present_le (h : Continues c d) : c.present ≤ d.present := by
  have hlen := List.IsSuffix.length_le h
  simpa [moments, present] using hlen

/-- What has passed does not change. -/
theorem Continues.moment (h : Continues c d) {n : Nat} (hn : c.moment n = some m) :
    d.moment n = some m := by
  obtain ⟨later, hd⟩ := h
  have hlt : n < c.moments.reverse.length := (List.getElem?_eq_some_iff.mp hn).1
  unfold Chronicle.moment at hn ⊢
  rw [← hd, List.reverse_append, List.getElem?_append_left hlt, hn]

/-- The moment with the number `n` is not before the one with the number `start`, and it has `P`. -/
structure Seen (c : Chronicle μ) (start : Nat) (P : μ → Prop) (n : Nat) : Prop where
  since : start ≤ n
  holds : ∃ m, c.moment n = some m ∧ P m

theorem Seen.mono {start n : Nat} {P : μ → Prop} (h : c.Seen start P n) (hc : Continues c d) :
    d.Seen start P n := by
  obtain ⟨m, hm, hp⟩ := h.holds
  exact ⟨h.since, m, hc.moment hm, hp⟩

theorem seen_present {start : Nat} {P : μ → Prop} (hstart : start ≤ c.present) (h : P c.now) :
    c.Seen start P c.present :=
  ⟨hstart, c.now, moment_present c, h⟩

theorem Seen.le_present {start n : Nat} {P : μ → Prop} (h : c.Seen start P n) : n ≤ c.present := by
  obtain ⟨m, hm, -⟩ := h.holds
  have hlt := (List.getElem?_eq_some_iff.mp hm).1
  simp only [List.length_reverse, moments, List.length_cons] at hlt
  simpa [present] using Nat.le_of_lt_succ hlt

/-! ## What always holds -/

/-- `P` holds of every moment, given the moments before it. -/
def Always (P : μ → List μ → Prop) (c : Chronicle μ) : Prop :=
  ∀ m past, m :: past <:+ c.moments → P m past

section Always

variable {P Q : μ → List μ → Prop}

theorem always_begun (h : P m []) : Always P ⟨m, []⟩ := by
  intro a past hs
  rcases List.suffix_cons_iff.mp hs with heq | hs
  · obtain ⟨rfl, rfl⟩ := List.cons.inj heq
    exact h
  · cases List.suffix_nil.mp hs

theorem Always.goOn (h : Always P c) (hm : P m c.moments) : Always P (c.goOn m) := by
  intro a past hs
  rcases List.suffix_cons_iff.mp hs with heq | hs
  · obtain ⟨rfl, rfl⟩ := List.cons.inj heq
    exact hm
  · exact h a past hs

theorem Always.now (h : Always P c) : P c.now c.past := h _ _ (List.suffix_refl _)

theorem Always.of_mem (h : Always P c) (hm : m ∈ c.moments) :
    ∃ past, m :: past <:+ c.moments ∧ P m past := by
  obtain ⟨later, past, heq⟩ := List.append_of_mem hm
  have hs : m :: past <:+ c.moments := ⟨later, heq.symm⟩
  exact ⟨past, hs, h m past hs⟩

/-- A moment with those before it, as a part of the chronicle. -/
theorem suffix_of_moment {n : Nat} (h : c.moment n = some m) :
    m :: c.before n <:+ c.moments := by
  obtain ⟨hlt, hget⟩ := List.getElem?_eq_some_iff.mp h
  have hsplit : c.moments.reverse = c.moments.reverse.take n ++ m :: c.moments.reverse.drop (n + 1) := by
    rw [← hget, List.getElem_cons_drop, List.take_append_drop]
  have hrev := congrArg List.reverse hsplit
  rw [List.reverse_reverse, List.reverse_append, List.reverse_cons, List.append_assoc,
    List.singleton_append] at hrev
  exact ⟨_, hrev.symm⟩

theorem moment_mem {n : Nat} (h : c.moment n = some m) : m ∈ c.moments :=
  (suffix_of_moment h).subset List.mem_cons_self

theorem Always.moment (h : Always P c) {n : Nat} (hm : c.moment n = some m) :
    P m (c.before n) :=
  h _ _ (suffix_of_moment hm)

/-- What each moment has to do with every earlier one holds between any two of them. -/
theorem Always.between {R : μ → μ → Prop} (h : Always (fun m past => ∀ a ∈ past, R a m) c)
    {i j : Nat} {a b : μ} (hij : i < j) (ha : c.moment i = some a) (hb : c.moment j = some b) :
    R a b := by
  refine h.moment hb a ?_
  rw [before, List.mem_reverse]
  obtain ⟨hlt, hget⟩ := List.getElem?_eq_some_iff.mp ha
  exact List.mem_take_iff_getElem.mpr ⟨i, by omega, hget⟩

end Always

end Chronicle

end Infra
