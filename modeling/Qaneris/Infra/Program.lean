import Mathlib.Logic.Relation

/-!
# Programs over a shared store

A program runs against a state that others change as well. It is a tree: it ends, fails, takes one
indivisible step, or asks something outside, and goes on with the answer. Between two of its nodes
anything may happen that the others are allowed to do.

* `Program.wp` — what holds when a program ends, whatever the others do within `rely`
* `Pool` — several programs at once, started, interleaved and killed at any point
* `Pool.Reaches.invariant` — what every program keeps holds in every state that is reached
-/

namespace Infra

/-! ## Transactions -/

section Transaction

variable {σ ε α : Type}

/-- One transaction: it returns the new state and an answer, or fails and is rolled back. -/
abbrev Transaction (σ ε α : Type) := σ → Except ε (σ × α)

/-- The state after a transaction, with its answer. -/
def commit (tx : Transaction σ ε α) (s : σ) : σ × Except ε α :=
  match tx s with
  | .ok (s', a) => (s', .ok a)
  | .error e => (s, .error e)

theorem commit_ok {tx : Transaction σ ε α} {s s' : σ} {a : α} (h : tx s = .ok (s', a)) :
    commit tx s = (s', .ok a) := by
  simp [commit, h]

theorem commit_error {tx : Transaction σ ε α} {s : σ} {e : ε} (h : tx s = .error e) :
    commit tx s = (s, .error e) := by
  simp [commit, h]

end Transaction

/-! ## Programs -/

/-- `R q` is the type of the answers to the question `q`. -/
inductive Program (σ : Type) {Q : Type} (R : Q → Type) (ε α : Type) : Type where
  | ret (a : α)
  | throw (e : ε)
  | step (f : σ → σ) (k : σ → Program σ R ε α)
  | call (q : Q) (k : R q → Program σ R ε α)

namespace Program

variable {σ Q : Type} {R : Q → Type} {ε α β : Type}

def bind : Program σ R ε α → (α → Program σ R ε β) → Program σ R ε β
  | .ret a, g => g a
  | .throw e, _ => .throw e
  | .step f k, g => .step f fun s => bind (k s) g
  | .call q k, g => .call q fun r => bind (k r) g

instance : Monad (Program σ R ε) where
  pure := .ret
  bind := bind

/-- `try … except`: the outcome of the program as a value. -/
def attempt : Program σ R ε α → Program σ R ε (Except ε α)
  | .ret a => .ret (.ok a)
  | .throw e => .ret (.error e)
  | .step f k => .step f fun s => attempt (k s)
  | .call q k => .call q fun r => attempt (k r)

def ofExcept : Except ε α → Program σ R ε α
  | .ok a => .ret a
  | .error e => .throw e

def ask (q : Q) : Program σ R ε (R q) :=
  .call q .ret

/-- One transaction as one indivisible step. -/
def atomic (tx : Transaction σ ε α) : Program σ R ε α :=
  .step (fun s => (commit tx s).1) fun s => ofExcept (commit tx s).2

/-- The program has ended or failed. -/
def Ended : Program σ R ε α → Prop
  | .ret _ | .throw _ => True
  | .step _ _ | .call _ _ => False

instance (p : Program σ R ε α) : Decidable p.Ended :=
  match p with
  | .ret _ | .throw _ => .isTrue trivial
  | .step _ _ | .call _ _ => .isFalse id

/-- What a program that has ended well returns. -/
def result : Program σ R ε α → Option α
  | .ret a => some a
  | .throw _ | .step _ _ | .call _ _ => none

/-- What a program that has failed raises. -/
def failure : Program σ R ε α → Option ε
  | .throw e => some e
  | .ret _ | .step _ _ | .call _ _ => none

theorem eq_ret_of_result {p : Program σ R ε α} {a : α} (h : p.result = some a) : p = .ret a := by
  cases p with
  | ret a' => rw [Option.some.inj h]
  | throw e => cases h
  | step f k => cases h
  | call q k => cases h

theorem eq_throw_of_failure {p : Program σ R ε α} {e : ε} (h : p.failure = some e) :
    p = .throw e := by
  cases p with
  | throw e' => rw [Option.some.inj h]
  | ret a => cases h
  | step f k => cases h
  | call q k => cases h

/-! ## One step -/

/-- The program takes its own next step. -/
inductive Step : Program σ R ε α × σ → Program σ R ε α × σ → Prop where
  | step {f : σ → σ} {k : σ → Program σ R ε α} {s : σ} : Step (.step f k, s) (k s, f s)
  | call {q : Q} {k : R q → Program σ R ε α} {s : σ} (r : R q) : Step (.call q k, s) (k r, s)

/-- The next step, with the answers of `answers`; a question without an answer is waited for. -/
def next (answers : (q : Q) → Option (R q)) : Program σ R ε α × σ → Program σ R ε α × σ
  | (.step f k, s) => (k s, f s)
  | (.call q k, s) =>
    match answers q with
    | some r => (k r, s)
    | none => (.call q k, s)
  | c => c

theorem next_step (answers : (q : Q) → Option (R q)) (c : Program σ R ε α × σ) :
    next answers c = c ∨ Step c (next answers c) := by
  rcases c with ⟨p, s⟩
  cases p with
  | ret a => exact Or.inl rfl
  | throw e => exact Or.inl rfl
  | step f k => exact Or.inr Step.step
  | call q k =>
    cases ha : answers q with
    | some r =>
      have hn : next answers (.call q k, s) = (k r, s) := by simp only [next, ha]
      exact Or.inr (hn ▸ Step.call r)
    | none => exact Or.inl (by simp only [next, ha])

/-! ## Weakest preconditions -/

/-- What a program relies on and what it keeps: the steps of the others, its own steps, and what
holds whenever it asks a question. -/
structure Contract (σ Q : Type) where
  rely : σ → σ → Prop
  guar : σ → σ → Prop
  may : Q → σ → Prop := fun _ _ => True

/-- The program keeps the contract, and ends with `post` or fails with `exc`, whatever the others do
before each of its steps. -/
def wp (c : Contract σ Q) (post : α → σ → Prop) (exc : ε → σ → Prop) :
    Program σ R ε α → σ → Prop
  | .ret a, s => post a s
  | .throw e, s => exc e s
  | .step f k, s => ∀ s', c.rely s s' → c.guar s' (f s') ∧ wp c post exc (k s') (f s')
  | .call q k, s => ∀ s', c.rely s s' → c.may q s' ∧ ∀ r, wp c post exc (k r) s'

section Rules

variable {c : Contract σ Q} {post : α → σ → Prop} {exc : ε → σ → Prop} {s : σ}

theorem wp_ret {a : α} (h : post a s) : wp c post exc (.ret a : Program σ R ε α) s := h

theorem wp_pure {a : α} (h : post a s) : wp c post exc (pure a : Program σ R ε α) s := h

theorem wp_throw {e : ε} (h : exc e s) : wp c post exc (.throw e : Program σ R ε α) s := h

theorem wp_mono {post' : α → σ → Prop} {exc' : ε → σ → Prop} {p : Program σ R ε α}
    (hp : ∀ a s, post a s → post' a s) (he : ∀ e s, exc e s → exc' e s) (h : wp c post exc p s) :
    wp c post' exc' p s := by
  induction p generalizing s with
  | ret a => exact hp a s h
  | throw e => exact he e s h
  | step f k ih => exact fun s' hr => ⟨(h s' hr).1, ih s' (h s' hr).2⟩
  | call q k ih => exact fun s' hr => ⟨(h s' hr).1, fun r => ih r ((h s' hr).2 r)⟩

/-- Less may happen around the program, and it may do more. -/
theorem wp_contract {c' : Contract σ Q} {p : Program σ R ε α}
    (hrely : ∀ s s', c'.rely s s' → c.rely s s') (hguar : ∀ s s', c.guar s s' → c'.guar s s')
    (hmay : ∀ q s, c.may q s → c'.may q s) (h : wp c post exc p s) : wp c' post exc p s := by
  induction p generalizing s with
  | ret a => exact h
  | throw e => exact h
  | step f k ih =>
    intro s' hr
    obtain ⟨hg, hk⟩ := h s' (hrely s s' hr)
    exact ⟨hguar _ _ hg, ih s' hk⟩
  | call q k ih =>
    intro s' hr
    obtain ⟨hm, hk⟩ := h s' (hrely s s' hr)
    exact ⟨hmay q s' hm, fun r => ih r (hk r)⟩

/-- A program that ends well goes on with the next one. -/
theorem wp_bind {post' : β → σ → Prop} {p : Program σ R ε α} {g : α → Program σ R ε β}
    (h : wp c (fun a => wp c post' exc (g a)) exc p s) : wp c post' exc (p >>= g) s := by
  change wp c post' exc (bind p g) s
  induction p generalizing s with
  | ret a => exact h
  | throw e => exact h
  | step f k ih => exact fun s' hr => ⟨(h s' hr).1, ih s' (h s' hr).2⟩
  | call q k ih => exact fun s' hr => ⟨(h s' hr).1, fun r => ih r ((h s' hr).2 r)⟩

/-- Both outcomes of a guarded program go on as values. -/
theorem wp_attempt {post' : Except ε α → σ → Prop} {p : Program σ R ε α}
    (h : wp c (fun a => post' (.ok a)) (fun e => post' (.error e)) p s) :
    wp c post' exc (attempt p) s := by
  induction p generalizing s with
  | ret a => exact h
  | throw e => exact h
  | step f k ih => exact fun s' hr => ⟨(h s' hr).1, ih s' (h s' hr).2⟩
  | call q k ih => exact fun s' hr => ⟨(h s' hr).1, fun r => ih r ((h s' hr).2 r)⟩

theorem wp_ofExcept {x : Except ε α} (hok : ∀ a, x = .ok a → post a s)
    (herr : ∀ e, x = .error e → exc e s) : wp c post exc (ofExcept x : Program σ R ε α) s := by
  cases x with
  | ok a => exact hok a rfl
  | error e => exact herr e rfl

theorem wp_ask {q : Q} {post : R q → σ → Prop}
    (h : ∀ s', c.rely s s' → c.may q s' ∧ ∀ r, post r s') :
    wp c post exc (ask q : Program σ R ε (R q)) s := h

/-- A transaction either takes effect or leaves the state alone. -/
theorem wp_atomic {tx : Transaction σ ε α} (hrefl : ∀ s, c.guar s s)
    (hok : ∀ s' s'' a, c.rely s s' → tx s' = .ok (s'', a) → c.guar s' s'' ∧ post a s'')
    (herr : ∀ s' e, c.rely s s' → tx s' = .error e → exc e s') :
    wp c post exc (atomic tx : Program σ R ε α) s := by
  intro s' hr
  cases htx : tx s' with
  | ok x =>
    obtain ⟨s'', a⟩ := x
    show c.guar s' (commit tx s').1 ∧ wp c post exc (ofExcept (commit tx s').2) (commit tx s').1
    rw [commit_ok htx]
    exact hok s' s'' a hr htx
  | error e =>
    show c.guar s' (commit tx s').1 ∧ wp c post exc (ofExcept (commit tx s').2) (commit tx s').1
    rw [commit_error htx]
    exact ⟨hrefl s', herr s' e hr htx⟩

/-- What holds of a program still holds after the others have acted. -/
theorem wp_rely {p : Program σ R ε α} (htrans : ∀ a b d, c.rely a b → c.rely b d → c.rely a d)
    (hpost : ∀ a s s', c.rely s s' → post a s → post a s')
    (hexc : ∀ e s s', c.rely s s' → exc e s → exc e s') {s' : σ} (hr : c.rely s s')
    (h : wp c post exc p s) : wp c post exc p s' := by
  cases p with
  | ret a => exact hpost a s s' hr h
  | throw e => exact hexc e s s' hr h
  | step f k => exact fun s'' hr' => h s'' (htrans _ _ _ hr hr')
  | call q k => exact fun s'' hr' => h s'' (htrans _ _ _ hr hr')

end Rules

theorem wp_ended {c : Contract σ Q} {inv : σ → Prop} {p : Program σ R ε α} {s : σ}
    (h : wp c (fun _ => inv) (fun _ => inv) p s) (hp : p.Ended) : inv s := by
  cases p with
  | ret a => exact h
  | throw e => exact h
  | step f k => cases hp
  | call q k => cases hp

/-- An invariant of every step, the program's own and the others', holds however it ends. -/
theorem wp_keep {c : Contract σ Q} {post : α → σ → Prop} {exc : ε → σ → Prop} {inv : σ → Prop}
    {p : Program σ R ε α} {s : σ} (hrely : ∀ s s', c.rely s s' → inv s → inv s')
    (hguar : ∀ s s', c.guar s s' → inv s → inv s') (h : wp c post exc p s) (hs : inv s) :
    wp c (fun a s => post a s ∧ inv s) (fun e s => exc e s ∧ inv s) p s := by
  induction p generalizing s with
  | ret a => exact ⟨h, hs⟩
  | throw e => exact ⟨h, hs⟩
  | step f k ih =>
    intro s' hr
    obtain ⟨hg, hk⟩ := h s' hr
    exact ⟨hg, ih s' hk (hguar _ _ hg (hrely _ _ hr hs))⟩
  | call q k ih =>
    intro s' hr
    obtain ⟨hm, hk⟩ := h s' hr
    exact ⟨hm, fun r => ih r (hk r) (hrely _ _ hr hs)⟩

/-! ## Triples -/

/-- From a state with `pre` the program keeps the contract and ends with `post`. Nothing is said of
the state in which it fails, beyond what the contract says. -/
def Triple (c : Contract σ Q) (pre : σ → Prop) (p : Program σ R ε α) (post : α → σ → Prop) : Prop :=
  ∀ s, pre s → p.wp c post (fun _ _ => True) s

namespace Triple

variable {c : Contract σ Q} {pre pre' : σ → Prop} {p : Program σ R ε α} {post post' : α → σ → Prop}

theorem conseq (h : Triple c pre p post) (hpre : ∀ s, pre' s → pre s)
    (hpost : ∀ a s, post a s → post' a s) : Triple c pre' p post' :=
  fun s hs => wp_mono hpost (fun _ _ h => h) (h s (hpre s hs))

theorem pure {a : α} (h : ∀ s, pre s → post a s) :
    Triple c pre (pure a : Program σ R ε α) post := h

theorem throw {e : ε} : Triple c pre (.throw e : Program σ R ε α) post := fun _ _ => trivial

/-- A fact that does not depend on the state. -/
theorem assuming {fact : Prop} (h : fact → Triple c pre p post) :
    Triple c (fun s => pre s ∧ fact) p post :=
  fun s hs => h hs.2 s hs.1

/-- A fact that the precondition tells. -/
theorem knowing {fact : Prop} (hfact : ∀ s, pre s → fact) (h : fact → Triple c pre p post) :
    Triple c pre p post :=
  fun s hs => h (hfact s hs) s hs

/-- `m` is what holds between the two programs. -/
theorem bind {g : α → Program σ R ε β} {m : α → σ → Prop} {post' : β → σ → Prop}
    (hp : Triple c pre p m) (hg : ∀ a, Triple c (m a) (g a) post') :
    Triple c pre (p >>= g) post' :=
  fun s hs => wp_bind (wp_mono (fun a s' h => hg a s' h) (fun _ _ _ => trivial) (hp s hs))

/-- What neither the program nor the others make false is still true afterwards. -/
theorem frame {inv : σ → Prop} (h : Triple c pre p post)
    (hrely : ∀ s s', c.rely s s' → inv s → inv s') (hguar : ∀ s s', c.guar s s' → inv s → inv s') :
    Triple c (fun s => pre s ∧ inv s) p fun a s => post a s ∧ inv s :=
  fun s hs => wp_mono (fun _ _ h => h) (fun _ _ _ => trivial)
    (wp_keep hrely hguar (h s hs.1) hs.2)

theorem attempt {post : Except ε α → σ → Prop} (h : Triple c pre p fun a => post (.ok a))
    (he : ∀ e s, post (.error e) s) : Triple c pre p.attempt post :=
  fun s hs => wp_attempt (wp_mono (fun _ _ h => h) (fun e s _ => he e s) (h s hs))

theorem ofExcept {x : Except ε α} (h : ∀ a s, x = .ok a → pre s → post a s) :
    Triple c pre (ofExcept x : Program σ R ε α) post :=
  fun s hs => wp_ofExcept (fun a hx => h a s hx hs) fun _ _ => trivial

theorem ask {q : Q} {post : R q → σ → Prop} (hmay : ∀ s s', pre s → c.rely s s' → c.may q s')
    (h : ∀ s s' r, pre s → c.rely s s' → post r s') :
    Triple c pre (ask q : Program σ R ε (R q)) post :=
  fun s hs => wp_ask fun s' hr => ⟨hmay s s' hs hr, fun r => h s s' r hs hr⟩

theorem atomic {tx : Transaction σ ε α} (hrefl : ∀ s, c.guar s s)
    (h : ∀ s s' s'' a, pre s → c.rely s s' → tx s' = .ok (s'', a) → c.guar s' s'' ∧ post a s'') :
    Triple c pre (atomic tx : Program σ R ε α) post :=
  fun s hs => wp_atomic hrefl (fun s' s'' a hr htx => h s s' s'' a hs hr htx) fun _ _ _ _ => trivial

end Triple

/-! ## Steps of one kind -/

/-- Every step the program can take, from whatever state, is within `g`. -/
def Within (g : σ → σ → Prop) : Program σ R ε α → Prop
  | .ret _ | .throw _ => True
  | .step f k => ∀ s, g s (f s) ∧ Within g (k s)
  | .call _ k => ∀ r, Within g (k r)

section Within

variable {g : σ → σ → Prop}

@[simp]
theorem within_pure {a : α} : Within g (pure a : Program σ R ε α) := trivial

@[simp]
theorem within_throw {e : ε} : Within g (.throw e : Program σ R ε α) := trivial

theorem within_ask {q : Q} : Within g (ask q : Program σ R ε (R q)) := fun _ => trivial

theorem within_ofExcept {x : Except ε α} : Within g (ofExcept x : Program σ R ε α) := by
  cases x <;> trivial

theorem within_atomic {tx : Transaction σ ε α} (hrefl : ∀ s, g s s)
    (h : ∀ s s' a, tx s = .ok (s', a) → g s s') : Within g (atomic tx : Program σ R ε α) := by
  intro s
  refine ⟨?_, within_ofExcept⟩
  show g s (commit tx s).1
  cases htx : tx s with
  | ok x =>
    rw [commit_ok htx]
    exact h s x.1 x.2 htx
  | error e =>
    rw [commit_error htx]
    exact hrefl s

theorem Within.mono {g' : σ → σ → Prop} {p : Program σ R ε α} (hp : Within g p)
    (h : ∀ s s', g s s' → g' s s') : Within g' p := by
  induction p with
  | ret a => trivial
  | throw e => trivial
  | step f c ih => exact fun s => ⟨h _ _ (hp s).1, ih s (hp s).2⟩
  | call q c ih => exact fun r => ih r (hp r)

theorem Within.bind {p : Program σ R ε α} {k : α → Program σ R ε β} (hp : Within g p)
    (hk : ∀ a, Within g (k a)) : Within g (p >>= k) := by
  change Within g (Program.bind p k)
  induction p with
  | ret a => exact hk a
  | throw e => trivial
  | step f c ih => exact fun s => ⟨(hp s).1, ih s (hp s).2⟩
  | call q c ih => exact fun r => ih r (hp r)

theorem Within.map {p : Program σ R ε α} {f : α → β} (hp : Within g p) : Within g (f <$> p) :=
  hp.bind fun _ => within_pure

theorem Within.attempt {p : Program σ R ε α} (hp : Within g p) : Within g (attempt p) := by
  induction p with
  | ret a => trivial
  | throw e => trivial
  | step f c ih => exact fun s => ⟨(hp s).1, ih s (hp s).2⟩
  | call q c ih => exact fun r => ih r (hp r)

/-- What the steps of the program and of the others leave true is true however it ends; a step has to be
within the contract only where it is. -/
theorem Within.keeps_where {c : Contract σ Q} {p : Program σ R ε α} {inv : σ → Prop} {s : σ}
    (hp : Within g p) (hmay : ∀ q s, c.may q s) (hrely : ∀ s s', c.rely s s' → inv s → inv s')
    (hkeep : ∀ s s', g s s' → inv s → c.guar s s' ∧ inv s') (hs : inv s) :
    p.wp c (fun _ => inv) (fun _ => inv) s := by
  induction p generalizing s with
  | ret a => exact hs
  | throw e => exact hs
  | step f k ih =>
    intro s' hr
    obtain ⟨hg, hk⟩ := hp s'
    obtain ⟨hguar, hi⟩ := hkeep _ _ hg (hrely _ _ hr hs)
    exact ⟨hguar, ih s' hk hi⟩
  | call q k ih => exact fun s' hr => ⟨hmay q s', fun r => ih r (hp r) (hrely _ _ hr hs)⟩

theorem Within.keeps {c : Contract σ Q} {p : Program σ R ε α} {inv : σ → Prop} {s : σ}
    (hp : Within g p) (hguar : ∀ s s', g s s' → c.guar s s') (hmay : ∀ q s, c.may q s)
    (hrely : ∀ s s', c.rely s s' → inv s → inv s') (hkeep : ∀ s s', g s s' → inv s → inv s')
    (hs : inv s) : p.wp c (fun _ => inv) (fun _ => inv) s :=
  hp.keeps_where hmay hrely (fun _ _ hg hi => ⟨hguar _ _ hg, hkeep _ _ hg hi⟩) hs

theorem Within.triple {c : Contract σ Q} {p : Program σ R ε α} {inv : σ → Prop} (hp : Within g p)
    (hguar : ∀ s s', g s s' → c.guar s s') (hmay : ∀ q s, c.may q s)
    (hrely : ∀ s s', c.rely s s' → inv s → inv s') (hkeep : ∀ s s', g s s' → inv s → inv s') :
    Triple c inv p fun _ => inv :=
  fun _ hs => wp_mono (fun _ _ h => h) (fun _ _ _ => trivial)
    (hp.keeps hguar hmay hrely hkeep hs)

/-- A program that keeps a contract also keeps what all its steps are within. -/
theorem Within.wp_and {c : Contract σ Q} {post : α → σ → Prop} {exc : ε → σ → Prop}
    {p : Program σ R ε α} {s : σ} (hp : Within g p) (h : p.wp c post exc s) :
    p.wp { c with guar := fun s s' => c.guar s s' ∧ g s s' } post exc s := by
  induction p generalizing s with
  | ret a => exact h
  | throw e => exact h
  | step f k ih =>
    intro s' hr
    obtain ⟨hc, hk⟩ := h s' hr
    exact ⟨⟨hc, (hp s').1⟩, ih s' (hp s').2 hk⟩
  | call q k ih =>
    intro s' hr
    obtain ⟨hm, hk⟩ := h s' hr
    exact ⟨hm, fun r => ih r (hp r) (hk r)⟩

/-- The least that can be said of a program within its contract. -/
theorem Within.wp {c : Contract σ Q} {p : Program σ R ε α} (hp : Within c.guar p)
    (hmay : ∀ q s, c.may q s) (s : σ) : p.wp c (fun _ _ => True) (fun _ _ => True) s :=
  hp.keeps (fun _ _ h => h) hmay (fun _ _ _ _ => trivial) (fun _ _ _ _ => trivial) trivial

end Within

/-! ## A program on a part of the state -/

section Embed

variable {τ Q' : Type} {R' : Q' → Type} {ε' : Type}

/-- The program works on what `view` shows of a larger state; its questions are some of those that may be
asked there, and its failures are named anew. -/
def embed (view : τ → σ) (put : τ → σ → τ) (question : Q → Q') (answer : ∀ q, R' (question q) → R q)
    (failure : ε → ε') : Program σ R ε α → Program τ R' ε' α
  | .ret a => .ret a
  | .throw e => .throw (failure e)
  | .step f k =>
    .step (fun t => put t (f (view t))) fun t => embed view put question answer failure (k (view t))
  | .call q k => .call (question q) fun r => embed view put question answer failure (k (answer q r))

/-- Its steps are those of the program, on the part of the state that it sees. -/
theorem Within.embed {g : σ → σ → Prop} {view : τ → σ} {put : τ → σ → τ} {question : Q → Q'}
    {answer : ∀ q, R' (question q) → R q} {failure : ε → ε'} {p : Program σ R ε α} (hp : Within g p) :
    Within (fun t t' => ∃ s, g (view t) s ∧ t' = put t s)
      (embed view put question answer failure p) := by
  induction p with
  | ret a => trivial
  | throw e => trivial
  | step f k ih => exact fun t => ⟨⟨f (view t), (hp (view t)).1, rfl⟩, ih _ (hp (view t)).2⟩
  | call q k ih => exact fun r => ih _ (hp (answer q r))

end Embed

/-- What a program keeps whatever the others do, every step of it is within. -/
theorem within_of_wp {c : Contract σ Q} {post : α → σ → Prop} {exc : ε → σ → Prop}
    {p : Program σ R ε α} {s : σ} (hrely : ∀ s s', c.rely s s') (h : p.wp c post exc s) :
    Within c.guar p := by
  induction p generalizing s with
  | ret a => trivial
  | throw e => trivial
  | step f k ih => exact fun s' => ⟨(h s' (hrely s s')).1, ih s' (h s' (hrely s s')).2⟩
  | call q k ih => exact fun r => ih r ((h s (hrely s s)).2 r)

/-! ## A program on its own -/

/-- The program takes any number of steps, and nobody else takes any. -/
abbrev Reaches : Program σ R ε α × σ → Program σ R ε α × σ → Prop :=
  Relation.ReflTransGen Step

/-- `steps` steps, with the answers of `answers`. -/
def advance (answers : (q : Q) → Option (R q)) : (steps : Nat) → Program σ R ε α × σ → Program σ R ε α × σ
  | 0, c => c
  | steps + 1, c => advance answers steps (next answers c)

theorem advance_reaches (answers : (q : Q) → Option (R q)) (steps : Nat) (c : Program σ R ε α × σ) :
    Reaches c (advance answers steps c) := by
  induction steps generalizing c with
  | zero => exact Relation.ReflTransGen.refl
  | succ steps ih =>
    rcases next_step answers c with he | hs
    · unfold advance
      rw [he]
      exact ih c
    · exact Relation.ReflTransGen.head hs (ih _)

/-- Wherever a program stops, what its steps keep holds. -/
theorem Reaches.invariant {c : Contract σ Q} {post : α → σ → Prop} {exc : ε → σ → Prop}
    {inv : σ → Prop} (hrefl : ∀ s, c.rely s s) (hkeep : ∀ s s', c.guar s s' → inv s → inv s')
    {a b : Program σ R ε α × σ} (hr : Reaches a b) (hw : a.1.wp c post exc a.2) (hi : inv a.2) :
    b.1.wp c post exc b.2 ∧ inv b.2 := by
  induction hr with
  | refl => exact ⟨hw, hi⟩
  | tail _ hs ih =>
    obtain ⟨hw', hi'⟩ := ih
    cases hs with
    | step => exact ⟨(hw' _ (hrefl _)).2, hkeep _ _ (hw' _ (hrefl _)).1 hi'⟩
    | call r => exact ⟨(hw' _ (hrefl _)).2 r, hi'⟩

theorem Reaches.ended {a b : Program σ R ε α × σ} {x : α} (hr : Reaches a b)
    (h : b.1.result = some x) : Reaches a (.ret x, b.2) := by
  obtain ⟨p, s⟩ := b
  obtain rfl := eq_ret_of_result h
  exact hr

theorem Reaches.failed {a b : Program σ R ε α × σ} {e : ε} (hr : Reaches a b)
    (h : b.1.failure = some e) : Reaches a (.throw e, b.2) := by
  obtain ⟨p, s⟩ := b
  obtain rfl := eq_throw_of_failure h
  exact hr

/-- Nobody else acts, and each step of the program is within `g`. -/
def solo (g : σ → σ → Prop) : Contract σ Q where
  rely s s' := s' = s
  guar := g

theorem Reaches.solo {g : σ → σ → Prop} {post : α → σ → Prop} {exc : ε → σ → Prop}
    {p : Program σ R ε α} {s : σ} {c : Program σ R ε α × σ} (hr : Reaches (p, s) c)
    (h : p.wp (solo g) post exc s) : c.1.wp (solo g) post exc c.2 :=
  have htrivial : ∀ s s', g s s' → (fun _ : σ => True) s → (fun _ : σ => True) s' :=
    fun _ _ _ _ => trivial
  (hr.invariant (fun _ => rfl) htrivial h trivial).1

end Program

/-! ## Pools of programs -/

/-- The programs that are running, and the state they share. -/
structure Pool (σ : Type) {Q : Type} (R : Q → Type) (ε α : Type) where
  threads : List (Program σ R ε α)
  state : σ

namespace Pool

variable {σ Q : Type} {R : Q → Type} {ε α : Type}

/-- A program of `start` begins, one of the running programs takes a step, one is killed, or
something outside changes the state. -/
inductive Step (start : Program σ R ε α → Prop) (env : σ → σ → Prop) :
    Pool σ R ε α → Pool σ R ε α → Prop where
  | spawn {ts : List (Program σ R ε α)} {s : σ} {p : Program σ R ε α} (h : start p) :
      Step start env ⟨ts, s⟩ ⟨ts ++ [p], s⟩
  | run {ts : List (Program σ R ε α)} {s s' : σ} {p p' : Program σ R ε α} (i : Nat)
      (hi : ts[i]? = some p) (h : Program.Step (p, s) (p', s')) :
      Step start env ⟨ts, s⟩ ⟨ts.set i p', s'⟩
  | kill {ts : List (Program σ R ε α)} {s : σ} (i : Nat) : Step start env ⟨ts, s⟩ ⟨ts.eraseIdx i, s⟩
  | env {ts : List (Program σ R ε α)} {s s' : σ} (h : env s s') : Step start env ⟨ts, s⟩ ⟨ts, s'⟩

abbrev Reaches (start : Program σ R ε α → Prop) (env : σ → σ → Prop) :
    Pool σ R ε α → Pool σ R ε α → Prop :=
  Relation.ReflTransGen (Step start env)

/-- What the programs of a pool rely on and keep, and what is invariant under it. -/
structure Discipline (start : Program σ R ε α → Prop) (env : σ → σ → Prop) where
  contract : Program.Contract σ Q
  inv : σ → Prop
  refl : ∀ s, contract.rely s s
  trans : ∀ a b d, contract.rely a b → contract.rely b d → contract.rely a d
  rely_of_guar : ∀ s s', contract.guar s s' → contract.rely s s'
  rely_of_env : ∀ s s', env s s' → contract.rely s s'
  keep : ∀ s s', contract.rely s s' → inv s → inv s'
  started : ∀ p s, start p → inv s → p.wp contract (fun _ _ => True) (fun _ _ => True) s

/-- The invariant holds and every running program keeps its contract. -/
structure Disciplined {start : Program σ R ε α → Prop} {env : σ → σ → Prop}
    (d : Discipline start env) (pool : Pool σ R ε α) : Prop where
  inv : d.inv pool.state
  threads : ∀ p ∈ pool.threads,
    p.wp d.contract (fun _ _ => True) (fun _ _ => True) pool.state

section Invariant

variable {start : Program σ R ε α → Prop} {env : σ → σ → Prop} {d : Discipline start env}

theorem Disciplined.of_rely {ts : List (Program σ R ε α)} {s s' : σ} (h : Disciplined d ⟨ts, s⟩)
    (hr : d.contract.rely s s') : Disciplined d ⟨ts, s'⟩ where
  inv := d.keep s s' hr h.inv
  threads := fun p hp =>
    Program.wp_rely d.trans (fun _ _ _ _ h => h) (fun _ _ _ _ h => h) hr (h.threads p hp)

/-- A program that keeps its contract takes a step within it. -/
theorem wp_step {p p' : Program σ R ε α} {s s' : σ} (h : Program.Step (p, s) (p', s'))
    (hw : p.wp d.contract (fun _ _ => True) (fun _ _ => True) s) :
    d.contract.rely s s' ∧ p'.wp d.contract (fun _ _ => True) (fun _ _ => True) s' := by
  cases h with
  | step => exact ⟨d.rely_of_guar _ _ (hw s (d.refl s)).1, (hw s (d.refl s)).2⟩
  | call r => exact ⟨d.refl s, (hw s (d.refl s)).2 r⟩

theorem Disciplined.step {pool pool' : Pool σ R ε α} (h : Disciplined d pool)
    (hs : Step start env pool pool') :
    Disciplined d pool' ∧ d.contract.rely pool.state pool'.state := by
  cases hs with
  | @spawn ts s p hp =>
    refine ⟨⟨h.inv, ?_⟩, d.refl s⟩
    intro q hq
    rcases List.mem_append.mp hq with hq | hq
    · exact h.threads q hq
    · obtain rfl := List.mem_singleton.mp hq
      exact d.started q s hp h.inv
  | @run ts s s' p p' i hi hp =>
    obtain ⟨hr, hw⟩ := wp_step hp (h.threads p (List.mem_of_getElem? hi))
    have h' : Disciplined d ⟨ts, s'⟩ := h.of_rely hr
    refine ⟨⟨h'.inv, ?_⟩, hr⟩
    intro q hq
    rcases List.mem_or_eq_of_mem_set hq with hq | rfl
    · exact h'.threads q hq
    · exact hw
  | @kill ts s i =>
    exact ⟨⟨h.inv, fun q hq => h.threads q (List.mem_of_mem_eraseIdx hq)⟩, d.refl s⟩
  | @env ts s s' he => exact ⟨h.of_rely (d.rely_of_env s s' he), d.rely_of_env s s' he⟩

/-- A step of a disciplined pool leaves the state alone, comes from outside, or is within the
contract. -/
theorem Disciplined.step_guar {pool pool' : Pool σ R ε α} (h : Disciplined d pool)
    (hs : Step start env pool pool') :
    pool'.state = pool.state ∨ env pool.state pool'.state ∨
      d.contract.guar pool.state pool'.state := by
  cases hs with
  | spawn hp => exact Or.inl rfl
  | kill i => exact Or.inl rfl
  | env he => exact Or.inr (Or.inl he)
  | @run ts s s' p p' i hi hp =>
    have hw := h.threads p (List.mem_of_getElem? hi)
    cases hp with
    | step => exact Or.inr (Or.inr (hw s (d.refl s)).1)
    | call r => exact Or.inl rfl

/-- **What every program keeps holds in every state a pool reaches.** -/
theorem Reaches.disciplined {pool pool' : Pool σ R ε α} (h : Disciplined d pool)
    (hr : Reaches start env pool pool') :
    Disciplined d pool' ∧ d.contract.rely pool.state pool'.state := by
  induction hr with
  | refl => exact ⟨h, d.refl _⟩
  | tail _ hs ih =>
    obtain ⟨hd, hrel⟩ := ih
    obtain ⟨hd', hrel'⟩ := hd.step hs
    exact ⟨hd', d.trans _ _ _ hrel hrel'⟩

theorem disciplined_empty {s : σ} (h : d.inv s) : Disciplined d ⟨[], s⟩ :=
  ⟨h, fun _ hp => absurd hp List.not_mem_nil⟩

end Invariant

/-! ## Playing a schedule -/

/-- What happens next: a program begins, or one takes a number of steps with these answers, or one
is killed. -/
inductive Choice (σ : Type) {Q : Type} (R : Q → Type) (ε α : Type) where
  | spawn (p : Program σ R ε α)
  | run (i steps : Nat) (answers : (q : Q) → Option (R q))
  | kill (i : Nat)

/-- `steps` steps of program `i`. -/
def runThread (pool : Pool σ R ε α) (i steps : Nat) (answers : (q : Q) → Option (R q)) : Pool σ R ε α :=
  match pool.threads[i]? with
  | none => pool
  | some p =>
    let c := Program.advance answers steps (p, pool.state)
    ⟨pool.threads.set i c.1, c.2⟩

def play (pool : Pool σ R ε α) : Choice σ R ε α → Pool σ R ε α
  | .spawn p => ⟨pool.threads ++ [p], pool.state⟩
  | .run i steps answers => runThread pool i steps answers
  | .kill i => ⟨pool.threads.eraseIdx i, pool.state⟩

def playAll (pool : Pool σ R ε α) (choices : List (Choice σ R ε α)) : Pool σ R ε α :=
  choices.foldl play pool

/-- What a program does on its own it can do in a pool. -/
theorem reaches_of_program {start : Program σ R ε α → Prop} {env : σ → σ → Prop}
    {ts : List (Program σ R ε α)} {i : Nat} {a b : Program σ R ε α × σ} (hi : ts[i]? = some a.1)
    (h : Program.Reaches a b) : Reaches start env ⟨ts, a.2⟩ ⟨ts.set i b.1, b.2⟩ := by
  obtain ⟨hlt, hget⟩ := List.getElem?_eq_some_iff.mp hi
  induction h with
  | refl =>
    have hset : ts.set i a.1 = ts := by
      rw [← hget]
      exact List.set_getElem_self hlt
    rw [hset]
  | @tail b d _ hs ih =>
    refine ih.tail ?_
    have hb : (ts.set i b.1)[i]? = some b.1 := by rw [List.getElem?_set_self hlt]
    have hstep : Step start env ⟨ts.set i b.1, b.2⟩ ⟨(ts.set i b.1).set i d.1, d.2⟩ :=
      Step.run i hb hs
    rwa [List.set_set] at hstep

theorem runThread_reaches {start : Program σ R ε α → Prop} {env : σ → σ → Prop}
    (pool : Pool σ R ε α) (i steps : Nat) (answers : (q : Q) → Option (R q)) :
    Reaches start env pool (runThread pool i steps answers) := by
  unfold runThread
  split
  · exact Relation.ReflTransGen.refl
  · next p hp => exact reaches_of_program hp (Program.advance_reaches answers steps (p, pool.state))

/-- One step of one program is a step of the pool, unless the program has ended or waits. -/
theorem play_run_one {start : Program σ R ε α → Prop} {env : σ → σ → Prop} (pool : Pool σ R ε α)
    (i : Nat) (answers : (q : Q) → Option (R q))
    (h : (pool.play (.run i 1 answers)).state ≠ pool.state) :
    Step start env pool (pool.play (.run i 1 answers)) := by
  obtain ⟨ts, s⟩ := pool
  cases hi : ts[i]? with
  | none =>
    have hplay : play ⟨ts, s⟩ (.run i 1 answers) = ⟨ts, s⟩ := by simp only [play, runThread, hi]
    exact absurd (by rw [hplay]) h
  | some p =>
    have hplay : play ⟨ts, s⟩ (.run i 1 answers) =
        ⟨ts.set i (Program.next answers (p, s)).1, (Program.next answers (p, s)).2⟩ := by
      simp only [play, runThread, hi, Program.advance]
    rw [hplay] at h ⊢
    rcases Program.next_step answers (p, s) with he | hs
    · exact absurd (by rw [he]) h
    · exact Step.run i hi hs

theorem playAll_reaches {start : Program σ R ε α → Prop} {env : σ → σ → Prop}
    (choices : List (Choice σ R ε α)) (pool : Pool σ R ε α)
    (h : ∀ p, Choice.spawn p ∈ choices → start p) :
    Reaches start env pool (pool.playAll choices) := by
  induction choices generalizing pool with
  | nil => exact Relation.ReflTransGen.refl
  | cons choice choices ih =>
    refine Relation.ReflTransGen.trans ?_ (ih (pool.play choice) fun p hp => h p (by simp [hp]))
    cases choice with
    | spawn p => exact Relation.ReflTransGen.single (Step.spawn (h p (by simp)))
    | run i steps answers => exact runThread_reaches pool i steps answers
    | kill i => exact Relation.ReflTransGen.single (Step.kill i)

end Pool

end Infra
