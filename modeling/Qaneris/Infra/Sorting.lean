import Mathlib.Data.List.Sort
import Mathlib.Data.Prod.Lex
import Qaneris.Infra.Except

/-!
# Sorting by a key

A list whose relation compares keys of a linear order is sorted by these keys, and the same way whatever
its order was.
-/

namespace Infra

variable {α κ : Type} [LinearOrder κ] {r r' : α → α → Prop} [DecidableRel r] [DecidableRel r']
  {key : α → κ} {l l' : List α}

theorem insertionSort_congr (h : ∀ a ∈ l, ∀ b ∈ l, r a b ↔ r' a b) :
    l.insertionSort r = l.insertionSort r' := by
  have hinsert : ∀ {a : α} {bs : List α}, (∀ b ∈ bs, r a b ↔ r' a b) →
      bs.orderedInsert r a = bs.orderedInsert r' a := by
    intro a bs hbs
    induction bs with
    | nil => rfl
    | cons b bs ih =>
      rw [List.orderedInsert, List.orderedInsert, ih fun c hc => hbs c (List.mem_cons_of_mem _ hc)]
      simp only [hbs b List.mem_cons_self]
  induction l with
  | nil => rfl
  | cons a l ih =>
    rw [List.insertionSort_cons, List.insertionSort_cons,
      ih fun b hb c hc => h b (List.mem_cons_of_mem _ hb) c (List.mem_cons_of_mem _ hc)]
    refine hinsert fun b hb => h a List.mem_cons_self b (List.mem_cons_of_mem _ ?_)
    exact (List.perm_insertionSort _ l).mem_iff.mp hb

/-- The relation compares the keys of the elements. -/
def ByKey (key : α → κ) (r : α → α → Prop) (l : List α) : Prop :=
  ∀ a ∈ l, ∀ b ∈ l, r a b ↔ key a ≤ key b

theorem pairwise_of_byKey (h : ByKey key r l) :
    (l.insertionSort r).Pairwise fun a b => key a ≤ key b := by
  have htotal : Std.Total fun a b : α => key a ≤ key b := ⟨fun a b => le_total (key a) (key b)⟩
  have htrans : IsTrans α fun a b => key a ≤ key b := ⟨fun _ _ _ => le_trans⟩
  rw [insertionSort_congr h]
  exact List.pairwise_insertionSort _ l

/-- The order that a list had before makes no difference. -/
theorem insertionSort_eq_of_perm (h : ByKey key r l) (hkey : ∀ a ∈ l, ∀ b ∈ l, key a = key b → a = b)
    (hperm : l.Perm l') : l.insertionSort r = l'.insertionSort r := by
  have h' : ByKey key r l' := fun a ha b hb => h a (hperm.mem_iff.mpr ha) b (hperm.mem_iff.mpr hb)
  refine List.Perm.eq_of_pairwise (fun a b ha hb hab hba => ?_) (pairwise_of_byKey h) (pairwise_of_byKey h') ?_
  · refine hkey a ?_ b ?_ (le_antisymm hab hba)
    · exact (List.perm_insertionSort _ l).mem_iff.mp ha
    · exact hperm.mem_iff.mpr ((List.perm_insertionSort _ l').mem_iff.mp hb)
  · exact ((List.perm_insertionSort _ l).trans hperm).trans (List.perm_insertionSort _ l').symm

/-- A sorted list fails at the least of its elements that fail. -/
theorem mapM_error_of_pairwise {ε β : Type} {f : α → Except ε β} {e : ε}
    (hkey : ∀ a b : α, key a = key b → a = b) (hl : l.Pairwise fun a b => key a ≤ key b) :
    l.mapM f = .error e ↔
      ∃ a ∈ l, f a = .error e ∧ ∀ b ∈ l, (∃ e', f b = .error e') → key a ≤ key b := by
  have hfirst : ∀ {e'}, l.mapM f = .error e' →
      ∃ a ∈ l, f a = .error e' ∧ ∀ b ∈ l, (∃ e', f b = .error e') → key a ≤ key b := by
    intro e' h
    obtain ⟨before, a, after, rfl, herror, hbefore⟩ := mapM_error_iff.mp h
    refine ⟨a, by simp, herror, fun b hb hfails => ?_⟩
    obtain ⟨e'', he''⟩ := hfails
    rcases List.mem_append.mp hb with hb | hb
    · obtain ⟨c, hc⟩ := hbefore b hb
      rw [hc] at he''
      cases he''
    · rcases List.mem_cons.mp hb with rfl | hb
      · exact le_refl _
      · exact List.rel_of_pairwise_cons (List.pairwise_append.mp hl).2.1 hb
  constructor
  · exact hfirst
  · rintro ⟨a, ha, herror, hleast⟩
    cases hall : l.mapM f with
    | ok bs =>
      obtain ⟨b, -, hb⟩ := exists_of_forall₂ (forall₂_of_mapM hall) ha
      rw [herror] at hb
      cases hb
    | error e' =>
      obtain ⟨a', ha', herror', hleast'⟩ := hfirst hall
      obtain rfl := hkey a a' (le_antisymm (hleast a' ha' ⟨e', herror'⟩) (hleast' a ha ⟨e, herror⟩))
      exact congrArg Except.error (Except.error.inj (herror'.symm.trans herror))

end Infra
