import Mathlib.Tactic.TypeStar

/-!
# Computations that may raise

A computation works on a state and ends with a value or raises. What it did to the state before it
raised stays done, so a handler goes on from there.
-/

namespace Infra

abbrev Raising (σ ε α : Type) := ExceptT ε (StateM σ) α

/-- A value that may be an error, which is raised. -/
def raising {σ ε α : Type} (x : Except ε α) : Raising σ ε α := ExceptT.mk (pure x)

namespace Raising

variable {σ ε α β : Type} {pre : σ → Prop} {post : α → σ → Prop} {exc : ε → σ → Prop}

/-- From a state with `pre`, the computation ends with a value and a state with `post`, or raises in a
state with `exc`. -/
def Triple (pre : σ → Prop) (m : Raising σ ε α) (post : α → σ → Prop) (exc : ε → σ → Prop) : Prop :=
  ∀ s, pre s →
    match m.run.run s with
    | (.ok a, s') => post a s'
    | (.error e, s') => exc e s'

namespace Triple

theorem conseq {m : Raising σ ε α} {pre' : σ → Prop} {exc' : ε → σ → Prop}
    (h : Triple pre' m post exc') (hpre : ∀ s, pre s → pre' s) (hexc : ∀ e s, exc' e s → exc e s) :
    Triple pre m post exc := by
  intro s hs
  have hm := h s (hpre s hs)
  cases hr : m.run.run s with
  | mk outcome s' =>
    rw [hr] at hm
    cases outcome with
    | ok a => exact hm
    | error e => exact hexc e s' hm

/-- `q` is what holds between the two computations. -/
theorem bind {m : Raising σ ε β} {f : β → Raising σ ε α} {q : β → σ → Prop}
    (hm : Triple pre m q exc) (hf : ∀ b, Triple (q b) (f b) post exc) :
    Triple pre (m >>= f) post exc := by
  intro s hs
  have h := hm s hs
  rw [ExceptT.run_bind, StateT.run_bind]
  cases hr : m.run.run s with
  | mk outcome s' =>
    rw [hr] at h
    cases outcome with
    | ok b => exact hf b s' h
    | error e => exact h

protected theorem pure {a : α} (h : ∀ s, pre s → post a s) : Triple pre (pure a : Raising σ ε α) post exc :=
  fun s hs => h s hs

theorem raising {x : Except ε α} (h : ∀ a s, x = .ok a → pre s → post a s)
    (he : ∀ e s, x = .error e → pre s → exc e s) : Triple pre (raising x) post exc := by
  intro s hs
  cases x with
  | ok a => exact h a s rfl hs
  | error e => exact he e s rfl hs

theorem modify {f : σ → σ} {post : PUnit → σ → Prop} (h : ∀ s, pre s → post ⟨⟩ (f s)) :
    Triple pre (modify f : Raising σ ε PUnit) post exc :=
  fun s hs => h s hs

/-- The handler goes on from the state in which the exception was raised. -/
theorem tryCatch {m : Raising σ ε α} {handler : ε → Raising σ ε α} {mid : ε → σ → Prop}
    (hm : Triple pre m post mid) (hh : ∀ e, Triple (mid e) (handler e) post exc) :
    Triple pre (tryCatch m handler) post exc := by
  intro s hs
  have h := hm s hs
  rw [ExceptT.run_tryCatch, StateT.run_bind]
  cases hr : m.run.run s with
  | mk outcome s' =>
    rw [hr] at h
    cases outcome with
    | ok a => exact h
    | error e => exact hh e s' h

end Triple

end Raising

end Infra
