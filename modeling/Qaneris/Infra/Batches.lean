import Qaneris.Infra.Except

/-!
# Handling items in batches

Items are gathered, and handled together when there are enough of them; what is left is handled at the end.

* `foldBatched_eq` — the state and its errors are those of handling the items one by one
-/

namespace Infra

/-- The error of a fold is one of its steps. -/
theorem foldlM_error {ε σ α : Type} {P : ε → Prop} {f : σ → α → Except ε σ} {as : List α}
    (hf : ∀ a ∈ as, ∀ state e, f state a = .error e → P e) {state : σ} {e : ε}
    (h : as.foldlM f state = .error e) : P e := by
  induction as generalizing state with
  | nil => cases h
  | cons a as ih =>
    rw [List.foldlM_cons] at h
    rcases bind_error h with h | ⟨state', -, h⟩
    · exact hf a List.mem_cons_self state e h
    · exact ih (fun b hb => hf b (List.mem_cons_of_mem _ hb)) h

/-- The state, the items that are gathered, and how many have been handled. -/
structure Batched (σ α : Type) where
  state : σ
  pending : List α := []
  done : Nat := 0

namespace Batched

variable {ε σ α : Type} (f : σ → α → Except ε σ) (size : Nat)

/-- Handles the items that are gathered. -/
def flush (b : Batched σ α) : Except ε (Batched σ α) := do
  let state ← b.pending.foldlM f b.state
  return { state, done := b.done + b.pending.length }

/-- One more item. -/
def add (b : Batched σ α) (a : α) : Except ε (Batched σ α) :=
  let b := { b with pending := b.pending ++ [a] }
  if size ≤ b.pending.length then b.flush f else .ok b

/-- What is left is handled. -/
def finish (b : Batched σ α) : Except ε (σ × Nat) := do
  let b ← if b.pending.isEmpty then .ok b else b.flush f
  return (b.state, b.done)

variable {f size} in
theorem flush_error {P : ε → Prop} (hf : ∀ state a e, f state a = .error e → P e) {b : Batched σ α} {e : ε}
    (h : b.flush f = .error e) : P e := by
  rcases bind_error h with h | ⟨state, -, h⟩
  · exact foldlM_error (fun a _ state e => hf state a e) h
  · cases h

variable {f size} in
theorem add_error {P : ε → Prop} (hf : ∀ state a e, f state a = .error e → P e) {b : Batched σ α} {a : α} {e : ε}
    (h : b.add f size a = .error e) : P e := by
  unfold add at h
  dsimp only at h
  split at h
  · exact flush_error hf h
  · cases h

theorem finish_eq (b : Batched σ α) :
    b.finish f = (b.pending.foldlM f b.state).map fun state => (state, b.done + b.pending.length) := by
  obtain ⟨state, pending, done⟩ := b
  cases pending with
  | nil => rfl
  | cons a rest =>
    simp only [finish, flush, List.isEmpty_cons, Bool.false_eq_true, if_false, bind, Except.bind]
    cases (a :: rest).foldlM f state <;> rfl

variable {f size} in
theorem finish_error {P : ε → Prop} (hf : ∀ state a e, f state a = .error e → P e) {b : Batched σ α} {e : ε}
    (h : b.finish f = .error e) : P e := by
  rw [finish_eq] at h
  exact foldlM_error (fun a _ state e => hf state a e) (map_error h)

theorem foldlM_add_finish (as : List α) (b : Batched σ α) :
    (as.foldlM (add f size) b >>= fun b => b.finish f) =
      ((b.pending ++ as).foldlM f b.state).map fun state => (state, b.done + b.pending.length + as.length) := by
  induction as generalizing b with
  | nil =>
    show finish f b = _
    rw [finish_eq, List.append_nil]
    rfl
  | cons a as ih =>
    have hsplit : (b.pending ++ a :: as).foldlM f b.state =
        (b.pending ++ [a]).foldlM f b.state >>= fun state => as.foldlM f state := by
      rw [← List.foldlM_append, List.append_assoc, List.singleton_append]
    have hcount : b.done + (b.pending ++ [a]).length + as.length =
        b.done + b.pending.length + (a :: as).length := by
      simp only [List.length_append, List.length_cons, List.length_nil]
      omega
    rw [List.foldlM_cons, bind_assoc]
    simp only [add]
    split
    · -- The batch is full, so that the rest begins with an empty one.
      simp only [flush, bind_assoc, pure_bind, ih, List.nil_append, List.length_nil, Nat.add_zero, hsplit,
        hcount]
      simp only [bind, Except.bind]
      cases (b.pending ++ [a]).foldlM f b.state <;> rfl
    · show ((as.foldlM (add f size) _) >>= fun b => b.finish f) = _
      rw [ih, List.append_assoc, List.singleton_append]
      simp [Nat.add_assoc, Nat.add_comm 1]

/-- **Batches are no more than their items.** The state, its errors and the count are those of handling the
items one by one. -/
theorem foldBatched_eq (as : List α) (state : σ) :
    (as.foldlM (add f size) { state } >>= fun b => b.finish f) =
      (as.foldlM f state).map fun state => (state, as.length) := by
  rw [foldlM_add_finish]
  simp

end Batched

end Infra
