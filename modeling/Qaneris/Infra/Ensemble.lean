import Qaneris.Infra.Program

/-!
# One program among others

A program that is followed to its end while a pool of others works on the same state.

* `Ensemble.Reaches.wp` — the program still has what its weakest precondition promises, when what the
  others do is what it relies on, and what it does is something that the others allow for
-/

namespace Infra

/-- The program, and the pool with the state they share. -/
structure Ensemble (σ : Type) {Q : Type} (R : Q → Type) (ε α β : Type) where
  main : Program σ R ε α
  others : Pool σ R ε β

namespace Ensemble

variable {σ Q : Type} {R : Q → Type} {ε α β : Type}

def state (e : Ensemble σ R ε α β) : σ := e.others.state

/-- The program takes a step, or something happens in the pool. -/
inductive Step (start : Program σ R ε β → Prop) (env : σ → σ → Prop) :
    Ensemble σ R ε α β → Ensemble σ R ε α β → Prop where
  | main {p p' : Program σ R ε α} {ts : List (Program σ R ε β)} {s s' : σ}
      (h : Program.Step (p, s) (p', s')) : Step start env ⟨p, ⟨ts, s⟩⟩ ⟨p', ⟨ts, s'⟩⟩
  | others {p : Program σ R ε α} {pool pool' : Pool σ R ε β} (h : Pool.Step start env pool pool') :
      Step start env ⟨p, pool⟩ ⟨p, pool'⟩

abbrev Reaches (start : Program σ R ε β → Prop) (env : σ → σ → Prop) :
    Ensemble σ R ε α β → Ensemble σ R ε α β → Prop :=
  Relation.ReflTransGen (Step start env)

/-! ## What the program is promised -/

/-- What the two sides expect of each other. -/
structure Agreement (c : Program.Contract σ Q) (start : Program σ R ε β → Prop) (env : σ → σ → Prop)
    where
  pool : Pool.Discipline start fun s s' => env s s' ∨ c.guar s s'
  refl : ∀ s, c.rely s s
  trans : ∀ a b d, c.rely a b → c.rely b d → c.rely a d
  rely_of_env : ∀ s s', env s s' → c.rely s s'
  rely_of_pool : ∀ s s', pool.contract.guar s s' → c.rely s s'

section Promise

variable {c : Program.Contract σ Q} {start : Program σ R ε β → Prop} {env : σ → σ → Prop}
  {post : α → σ → Prop} {exc : ε → σ → Prop}

/-- What happens in a disciplined pool is what the program relies on. -/
theorem Agreement.rely (a : Agreement c start env) {pool pool' : Pool σ R ε β}
    (h : Pool.Disciplined a.pool pool) (hs : Pool.Step start env pool pool') :
    c.rely pool.state pool'.state := by
  cases hs with
  | spawn hp => exact a.refl _
  | kill i => exact a.refl _
  | env he => exact a.rely_of_env _ _ he
  | @run ts s s' p p' i hi hp =>
    have hw := h.threads p (List.mem_of_getElem? hi)
    cases hp with
    | step => exact a.rely_of_pool _ _ (hw s (a.pool.refl s)).1
    | call r => exact a.refl _

theorem poolStep_mono {env' : σ → σ → Prop} (henv : ∀ s s', env s s' → env' s s')
    {pool pool' : Pool σ R ε β} (hs : Pool.Step start env pool pool') :
    Pool.Step start env' pool pool' := by
  cases hs with
  | spawn hp => exact .spawn hp
  | run i hi hp => exact .run i hi hp
  | kill i => exact .kill i
  | env he => exact .env (henv _ _ he)

/-- The program keeps its promise, and so do the others. -/
structure Agreed (a : Agreement c start env) (post : α → σ → Prop) (exc : ε → σ → Prop)
    (e : Ensemble σ R ε α β) : Prop where
  main : e.main.wp c post exc e.state
  others : Pool.Disciplined a.pool e.others

theorem Agreed.step {a : Agreement c start env} {e e' : Ensemble σ R ε α β}
    (hpost : ∀ x s s', c.rely s s' → post x s → post x s')
    (hexc : ∀ x s s', c.rely s s' → exc x s → exc x s') (h : Agreed a post exc e)
    (hs : Step start env e e') : Agreed a post exc e' := by
  cases hs with
  | @main p p' ts s s' hp =>
    have hw : p.wp c post exc s := h.main
    cases hp with
    | @step f k s =>
      obtain ⟨hg, hk⟩ := hw s (a.refl s)
      exact ⟨hk, h.others.of_rely (a.pool.rely_of_env _ _ (Or.inr hg))⟩
    | call r => exact ⟨(hw s (a.refl s)).2 r, h.others⟩
  | @others p pool pool' hp =>
    exact ⟨Program.wp_rely a.trans hpost hexc (a.rely h.others hp) h.main,
      (h.others.step (poolStep_mono (fun _ _ he => Or.inl he) hp)).1⟩

/-- **However the others interleave with it, the program ends as promised.** -/
theorem Reaches.wp (a : Agreement c start env) {e e' : Ensemble σ R ε α β}
    (hpost : ∀ x s s', c.rely s s' → post x s → post x s')
    (hexc : ∀ x s s', c.rely s s' → exc x s → exc x s') (hr : Reaches start env e e')
    (h : Agreed a post exc e) : e'.main.wp c post exc e'.state := by
  suffices hall : Agreed a post exc e' from hall.main
  induction hr with
  | refl => exact h
  | tail _ hs ih => exact ih.step hpost hexc hs

/-- **What the program and the others leave true is true wherever they stop.** -/
theorem Reaches.invariant (a : Agreement c start env) {inv : σ → Prop} {e e' : Ensemble σ R ε α β}
    (hrely : ∀ s s', c.rely s s' → inv s → inv s') (hguar : ∀ s s', c.guar s s' → inv s → inv s')
    (hr : Reaches start env e e') (h : Agreed a (fun _ _ => True) (fun _ _ => True) e)
    (hi : inv e.state) : inv e'.state := by
  suffices hall : Agreed a (fun _ _ => True) (fun _ _ => True) e' ∧ inv e'.state from hall.2
  induction hr with
  | refl => exact ⟨h, hi⟩
  | @tail e₁ e₂ _ hs ih =>
    obtain ⟨hagreed, hinv⟩ := ih
    refine ⟨hagreed.step (fun _ _ _ _ h => h) (fun _ _ _ _ h => h) hs, ?_⟩
    cases hs with
    | @main p p' ts s s' hp =>
      have hw : p.wp c (fun _ _ => True) (fun _ _ => True) s := hagreed.main
      cases hp with
      | step => exact hguar _ _ (hw s (a.refl s)).1 hinv
      | call r => exact hinv
    | others hp => exact hrely _ _ (a.rely hagreed.others hp) hinv

end Promise

/-! ## Playing a schedule -/

/-- What happens next: some steps of the program, or something in the pool. -/
inductive Turn (σ : Type) {Q : Type} (R : Q → Type) (ε β : Type) where
  | main (steps : Nat) (answers : (q : Q) → Option (R q))
  | others (choice : Pool.Choice σ R ε β)

def play (e : Ensemble σ R ε α β) : Turn σ R ε β → Ensemble σ R ε α β
  | .main steps answers =>
    let c := Program.advance answers steps (e.main, e.state)
    ⟨c.1, ⟨e.others.threads, c.2⟩⟩
  | .others choice => ⟨e.main, e.others.play choice⟩

def playAll (e : Ensemble σ R ε α β) (turns : List (Turn σ R ε β)) : Ensemble σ R ε α β :=
  turns.foldl play e

theorem reaches_of_program {start : Program σ R ε β → Prop} {env : σ → σ → Prop}
    {ts : List (Program σ R ε β)} {a b : Program σ R ε α × σ} (h : Program.Reaches a b) :
    Reaches start env ⟨a.1, ⟨ts, a.2⟩⟩ ⟨b.1, ⟨ts, b.2⟩⟩ := by
  induction h with
  | refl => exact Relation.ReflTransGen.refl
  | @tail b d _ hs ih => exact ih.tail (Step.main hs)

theorem reaches_of_pool {start : Program σ R ε β → Prop} {env : σ → σ → Prop} {p : Program σ R ε α}
    {pool pool' : Pool σ R ε β} (h : Pool.Reaches start env pool pool') :
    Reaches start env ⟨p, pool⟩ ⟨p, pool'⟩ := by
  induction h with
  | refl => exact Relation.ReflTransGen.refl
  | tail _ hs ih => exact ih.tail (Step.others hs)

theorem playAll_reaches {start : Program σ R ε β → Prop} {env : σ → σ → Prop}
    (turns : List (Turn σ R ε β)) (e : Ensemble σ R ε α β)
    (h : ∀ p, Turn.others (.spawn p) ∈ turns → start p) :
    Reaches start env e (e.playAll turns) := by
  induction turns generalizing e with
  | nil => exact Relation.ReflTransGen.refl
  | cons turn turns ih =>
    refine Relation.ReflTransGen.trans ?_ (ih (e.play turn) fun p hp => h p (by simp [hp]))
    cases turn with
    | main steps answers =>
      obtain ⟨p, ⟨ts, s⟩⟩ := e
      exact reaches_of_program (Program.advance_reaches answers steps (p, s))
    | others choice =>
      refine reaches_of_pool (Pool.playAll_reaches [choice] e.others ?_)
      intro p hp
      obtain rfl := List.mem_singleton.mp hp
      exact h p (by simp)

end Ensemble

end Infra
