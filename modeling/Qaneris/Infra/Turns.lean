import Mathlib.Data.List.Infix

/-!
# Turns in a history

A history is a list of acts, the latest last. Some of them open a turn, and others take the turn that
was opened last.

* `AtMostOnce` — no turn is taken twice
* `Open`, `Closed` — the latest turn is still to be taken, or has been
-/

namespace Infra.Turns

variable {α : Type} (opens takes : α → Prop)

/-! ## The latest turn -/

/-- The act neither opens nor takes a turn. -/
def Neutral (act : α) : Prop := ¬ opens act ∧ ¬ takes act

/-- `act` has opened the latest turn, which is still to be taken. -/
def Open (act : α) (acts : List α) : Prop :=
  opens act ∧ ∃ before after, acts = before ++ act :: after ∧ ∀ a ∈ after, Neutral opens takes a

/-- The latest turn has been taken. -/
def Closed (acts : List α) : Prop :=
  ∃ before act after, acts = before ++ act :: after ∧ takes act ∧
    ∀ a ∈ after, Neutral opens takes a

variable {opens takes}

theorem open_concat {acts : List α} {act : α} (h : opens act) :
    Open opens takes act (acts ++ [act]) :=
  ⟨h, acts, [], rfl, by simp⟩

theorem closed_concat {acts : List α} {act : α} (h : takes act) :
    Closed opens takes (acts ++ [act]) :=
  ⟨acts, act, [], rfl, h, by simp⟩

theorem Open.concat {acts : List α} {act a : α} (h : Open opens takes act acts)
    (ha : Neutral opens takes a) : Open opens takes act (acts ++ [a]) := by
  obtain ⟨hopens, before, after, rfl, hafter⟩ := h
  refine ⟨hopens, before, after ++ [a], by simp, ?_⟩
  intro b hb
  rcases List.mem_append.mp hb with hb | hb
  · exact hafter b hb
  · obtain rfl := List.mem_singleton.mp hb
    exact ha

theorem Closed.concat {acts : List α} {a : α} (h : Closed opens takes acts)
    (ha : Neutral opens takes a) : Closed opens takes (acts ++ [a]) := by
  obtain ⟨before, act, after, rfl, htakes, hafter⟩ := h
  refine ⟨before, act, after ++ [a], by simp, htakes, ?_⟩
  intro b hb
  rcases List.mem_append.mp hb with hb | hb
  · exact hafter b hb
  · obtain rfl := List.mem_singleton.mp hb
    exact ha

/-- What every act of a kind keeps is kept by any number of them. -/
theorem append_induction {kept : List α → Prop} {kind : α → Prop} {acts more : List α}
    (h : ∀ acts a, kind a → kept acts → kept (acts ++ [a])) (hmore : ∀ a ∈ more, kind a)
    (hacts : kept acts) : kept (acts ++ more) := by
  induction more generalizing acts with
  | nil => rwa [List.append_nil]
  | cons a more ih =>
    rw [List.append_cons]
    exact ih (fun b hb => hmore b (List.mem_cons_of_mem _ hb))
      (h acts a (hmore a List.mem_cons_self) hacts)

/-- After the act that opened the latest turn, nothing opens or takes one. -/
theorem Open.neutral_of_suffix {acts after : List α} {act a : α} (h : Open opens takes act acts)
    (ha : opens a) (hs : a :: after <:+ acts) (hnot : ∀ b ∈ after, ¬ opens b) :
    ∀ b ∈ after, Neutral opens takes b := by
  obtain ⟨hopens, before, rest, rfl, hrest⟩ := h
  have hs' : act :: rest <:+ before ++ act :: rest := List.suffix_append _ _
  rcases List.suffix_or_suffix_of_suffix hs hs' with hle | hle
  · rcases List.suffix_cons_iff.mp hle with he | hle
    · obtain ⟨-, rfl⟩ := List.cons.inj he
      exact hrest
    · exact absurd ha (hrest a (hle.subset List.mem_cons_self)).1
  · rcases List.suffix_cons_iff.mp hle with he | hle
    · obtain ⟨-, rfl⟩ := List.cons.inj he
      exact hrest
    · exact absurd hopens (hnot act (hle.subset List.mem_cons_self))

/-! ## Counting -/

section Counting

variable (opens takes) [DecidablePred opens] [DecidablePred takes]

/-- How often a turn is taken that was opened right before `acts`. -/
def taken (acts : List α) : Nat :=
  (acts.takeWhile fun act => ¬ opens act).countP fun act => takes act

/-- Every turn is taken at most once. -/
def AtMostOnce (acts : List α) : Prop :=
  ∀ act after, opens act → act :: after <:+ acts → taken opens takes after ≤ 1

/-- The number of turns that are opened by an act with `p` and taken. -/
def turnsTaken (p : α → Prop) [DecidablePred p] : List α → Nat
  | [] => 0
  | act :: acts => (if p act ∧ taken opens takes acts ≠ 0 then 1 else 0) + turnsTaken p acts

variable {opens takes}

/-- Once another turn is opened, what follows does not count. -/
theorem taken_append_of_opened {acts : List α} (more : List α) (h : ∃ act ∈ acts, opens act) :
    taken opens takes (acts ++ more) = taken opens takes acts := by
  obtain ⟨act, hmem, hopens⟩ := h
  unfold taken
  induction acts with
  | nil => cases hmem
  | cons a acts ih =>
    by_cases ha : opens a
    · simp [ha]
    · have hmem' : act ∈ acts := by
        rcases List.mem_cons.mp hmem with rfl | hmem
        · exact absurd hopens ha
        · exact hmem
      simp only [List.cons_append, List.takeWhile_cons, ha, not_false_eq_true, decide_true,
        ↓reduceIte, List.countP_cons, ih hmem']

theorem taken_append_of_unopened {acts : List α} (more : List α) (h : ∀ act ∈ acts, ¬ opens act) :
    taken opens takes (acts ++ more) =
      (acts.countP fun act => takes act) + taken opens takes more := by
  unfold taken
  rw [List.takeWhile_append_of_pos, List.countP_append]
  intro act hmem
  simpa using h act hmem

theorem taken_of_neutral {acts : List α} (h : ∀ act ∈ acts, Neutral opens takes act) :
    taken opens takes acts = 0 := by
  have hnil : taken opens takes (acts ++ []) =
      (acts.countP fun act => takes act) + taken opens takes [] :=
    taken_append_of_unopened [] fun act hmem => (h act hmem).1
  rw [List.append_nil] at hnil
  rw [hnil, List.countP_eq_zero.mpr]
  · rfl
  · intro act hmem
    simpa using (h act hmem).2

/-- An act that takes no turn takes none from the turns before it. -/
theorem taken_concat_of_not_takes {acts : List α} {act : α} (h : ¬ takes act) :
    taken opens takes (acts ++ [act]) = taken opens takes acts := by
  by_cases hopened : ∃ a ∈ acts, opens a
  · exact taken_append_of_opened [act] hopened
  · push Not at hopened
    have hnil : taken opens takes (acts ++ []) =
        (acts.countP fun act => takes act) + taken opens takes [] :=
      taken_append_of_unopened [] hopened
    rw [List.append_nil] at hnil
    rw [taken_append_of_unopened [act] hopened, hnil]
    by_cases ha : opens act <;> simp [taken, ha, h]

/-! ## Turns taken at most once -/

theorem atMostOnce_nil : AtMostOnce opens takes [] := by
  intro act after _ h
  cases List.suffix_nil.mp h

/-- The turns of a longer history. -/
theorem AtMostOnce.of_concat {acts : List α} {last : α}
    (h : ∀ act after, opens act → act :: after <:+ acts →
      taken opens takes (after ++ [last]) ≤ 1) : AtMostOnce opens takes (acts ++ [last]) := by
  intro act after hopens hs
  rcases List.suffix_concat_iff.mp hs with hnil | ⟨init, heq, hinit⟩
  · cases hnil
  · cases init with
    | nil =>
      obtain ⟨-, rfl⟩ := List.cons.inj heq
      exact Nat.zero_le 1
    | cons b init =>
      rw [List.cons_append] at heq
      obtain ⟨rfl, rfl⟩ := List.cons.inj heq
      exact h act init hopens hinit

theorem AtMostOnce.concat {acts : List α} {last : α} (h : AtMostOnce opens takes acts)
    (hlast : ¬ takes last) : AtMostOnce opens takes (acts ++ [last]) := by
  refine .of_concat fun act after hopens hs => ?_
  rw [taken_concat_of_not_takes hlast]
  exact h act after hopens hs

/-- **A turn that is still to be taken may be taken.** -/
theorem AtMostOnce.take {acts : List α} {act last : α} (h : AtMostOnce opens takes acts)
    (ho : Open opens takes act acts) : AtMostOnce opens takes (acts ++ [last]) := by
  refine .of_concat fun a after ha hs => ?_
  by_cases hopened : ∃ b ∈ after, opens b
  · rw [taken_append_of_opened [last] hopened]
    exact h a after ha hs
  · push Not at hopened
    have hneutral := ho.neutral_of_suffix ha hs hopened
    have hcount : (after.countP fun act => takes act) = 0 :=
      List.countP_eq_zero.mpr fun b hb => by simpa using (hneutral b hb).2
    rw [taken_append_of_unopened [last] hopened, hcount, Nat.zero_add]
    exact (List.countP_le_length).trans (List.takeWhile_prefix _).length_le

/-! ## Turns of a kind -/

variable {p : α → Prop} [DecidablePred p]

theorem turnsTaken_concat {acts : List α} {last : α} (hlast : ¬ takes last) :
    turnsTaken opens takes p (acts ++ [last]) = turnsTaken opens takes p acts := by
  induction acts with
  | nil => simp [turnsTaken, taken]
  | cons act acts ih =>
    rw [List.cons_append, turnsTaken, turnsTaken, ih, taken_concat_of_not_takes hlast]

theorem turnsTaken_neutral {acts : List α} (hp : ∀ act, p act → opens act)
    (h : ∀ act ∈ acts, Neutral opens takes act) : turnsTaken opens takes p acts = 0 := by
  induction acts with
  | nil => rfl
  | cons act acts ih =>
    have hact : ¬ p act := fun hact => (h act List.mem_cons_self).1 (hp act hact)
    rw [turnsTaken, if_neg (fun hboth => hact hboth.1), ih fun a ha => h a (List.mem_cons_of_mem _ ha)]

/-- **Taking the open turn counts it, if it is of the kind.** -/
theorem turnsTaken_take {acts : List α} {act last : α} (hp : ∀ act, p act → opens act)
    (ho : Open opens takes act acts) (hlast : takes last) (hnot : ¬ opens last) :
    turnsTaken opens takes p (acts ++ [last]) =
      turnsTaken opens takes p acts + if p act then 1 else 0 := by
  obtain ⟨hopens, before, after, rfl, hafter⟩ := ho
  have hlate : taken opens takes (after ++ [last]) = 1 := by
    rw [taken_append_of_unopened [last] fun b hb => (hafter b hb).1, List.countP_eq_zero.mpr
      fun b hb => by simpa using (hafter b hb).2]
    simp [taken, hnot, hlast]
  have hrest : turnsTaken opens takes p (after ++ [last]) = 0 := by
    have hlast' : ¬ p last := fun h => hnot (hp last h)
    clear hlate
    induction after with
    | nil => simp [turnsTaken, hlast']
    | cons a after ih =>
      have ha : ¬ p a := fun ha => (hafter a List.mem_cons_self).1 (hp a ha)
      rw [List.cons_append, turnsTaken, if_neg (fun hboth => ha hboth.1),
        ih fun b hb => hafter b (List.mem_cons_of_mem _ hb)]
  induction before with
  | nil =>
    rw [List.nil_append, List.cons_append, turnsTaken, turnsTaken, hrest, hlate,
      turnsTaken_neutral hp hafter, taken_of_neutral hafter]
    simp
  | cons b before ih =>
    rw [List.cons_append, List.cons_append, turnsTaken, turnsTaken, ih,
      taken_append_of_opened [last] ⟨act, by simp, hopens⟩, Nat.add_assoc]

end Counting

end Infra.Turns
