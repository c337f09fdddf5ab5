import Mathlib.Data.List.Forall2

/-!
# Computations that may fail

How a chain of binds and a list handled one by one come to their result or to their error.
-/

namespace Infra

variable {ε α β : Type}

theorem bind_ok {x : Except ε α} {f : α → Except ε β} {b : β} (h : x >>= f = .ok b) :
    ∃ a, x = .ok a ∧ f a = .ok b := by
  cases x with
  | error e => cases h
  | ok a => exact ⟨a, rfl, h⟩

theorem bind_error {x : Except ε α} {f : α → Except ε β} {e : ε} (h : x >>= f = .error e) :
    x = .error e ∨ ∃ a, x = .ok a ∧ f a = .error e := by
  cases x with
  | error e' =>
    cases h
    exact .inl rfl
  | ok a => exact .inr ⟨a, rfl, h⟩

theorem map_ok {x : Except ε α} {f : α → β} {b : β} (h : x.map f = .ok b) :
    ∃ a, x = .ok a ∧ f a = b := by
  cases x with
  | error e => cases h
  | ok a =>
    cases h
    exact ⟨a, rfl, rfl⟩

/-- A computation whose result has been checked. -/
theorem ok_of_any {x : Except ε α} {p : α → Bool} (h : x.toOption.any p = true) :
    ∃ a, x = .ok a ∧ p a = true := by
  cases x with
  | error e => cases h
  | ok a => exact ⟨a, rfl, h⟩

theorem exists_bind_ok {x : Except ε α} {f : α → Except ε β} :
    (∃ b, x >>= f = .ok b) ↔ ∃ a, x = .ok a ∧ ∃ b, f a = .ok b := by
  constructor
  · rintro ⟨b, h⟩
    obtain ⟨a, ha, h⟩ := bind_ok h
    exact ⟨a, ha, b, h⟩
  · rintro ⟨a, rfl, b, h⟩
    exact ⟨b, h⟩

theorem bind_ok_iff {x : Except ε α} {f : α → Except ε β} {b : β} :
    x >>= f = .ok b ↔ ∃ a, x = .ok a ∧ f a = .ok b := by
  constructor
  · exact bind_ok
  · rintro ⟨a, rfl, h⟩
    exact h

theorem map_error {x : Except ε α} {f : α → β} {e : ε} (h : x.map f = .error e) : x = .error e := by
  cases x with
  | error e' =>
    cases h
    rfl
  | ok a => cases h

/-- Two checks in a row. -/
theorem check_bind_ok {x y : Except ε Unit} :
    (x >>= fun _ => y) = .ok () ↔ x = .ok () ∧ y = .ok () := by
  cases x with
  | error e => simp [bind, Except.bind]
  | ok u => simp [bind, Except.bind]

/-- A check of each item of a list. -/
theorem forM_ok {f : α → Except ε Unit} {as : List α} : as.forM f = .ok () ↔ ∀ a ∈ as, f a = .ok () := by
  induction as with
  | nil => simp [pure, Except.pure]
  | cons a as ih =>
    show (f a >>= fun _ => as.forM f) = .ok () ↔ _
    rw [check_bind_ok, ih, List.forall_mem_cons]

/-- A list is handled when each of its items is. -/
theorem mapM_ok {f : α → Except ε β} {as : List α} (h : ∀ a ∈ as, ∃ b, f a = .ok b) :
    ∃ bs, as.mapM f = .ok bs := by
  induction as with
  | nil => exact ⟨[], rfl⟩
  | cons a as ih =>
    obtain ⟨b, hb⟩ := h a List.mem_cons_self
    obtain ⟨bs, hbs⟩ := ih fun a' ha' => h a' (List.mem_cons_of_mem _ ha')
    refine ⟨b :: bs, ?_⟩
    rw [List.mapM_cons, hb]
    show (List.mapM f as >>= fun bs => pure (b :: bs)) = _
    rw [hbs]
    rfl

/-- Every item of a list is handled, in its order. -/
theorem forall₂_of_mapM {f : α → Except ε β} {as : List α} {bs : List β} (h : as.mapM f = .ok bs) :
    List.Forall₂ (fun a b => f a = .ok b) as bs := by
  induction as generalizing bs with
  | nil =>
    obtain rfl : [] = bs := by simpa [pure, Except.pure] using h
    exact .nil
  | cons a as ih =>
    rw [List.mapM_cons] at h
    obtain ⟨b, hb, h⟩ := bind_ok h
    obtain ⟨rest, hrest, h⟩ := bind_ok h
    obtain rfl : b :: rest = bs := by simpa [pure, Except.pure] using h
    exact .cons hb (ih hrest)

theorem mapM_ok_iff_forall₂ {f : α → Except ε β} {as : List α} {bs : List β} :
    as.mapM f = .ok bs ↔ List.Forall₂ (fun a b => f a = .ok b) as bs := by
  constructor
  · exact forall₂_of_mapM
  · intro h
    induction h with
    | nil => rfl
    | cons hab _ ih =>
      rw [List.mapM_cons, hab, ih]
      rfl

/-- The error of a list is that of one of its items. -/
theorem exists_of_mapM_error {f : α → Except ε β} {as : List α} {e : ε} (h : as.mapM f = .error e) :
    ∃ a ∈ as, f a = .error e := by
  induction as with
  | nil => cases h
  | cons a as ih =>
    rw [List.mapM_cons] at h
    rcases bind_error h with h | ⟨b, -, h⟩
    · exact ⟨a, List.mem_cons_self, h⟩
    rcases bind_error h with h | ⟨bs, -, h⟩
    · obtain ⟨a', ha', h⟩ := ih h
      exact ⟨a', List.mem_cons_of_mem _ ha', h⟩
    · cases h

/-- The error of a list is that of its first item that has one. -/
theorem mapM_error_iff {f : α → Except ε β} {as : List α} {e : ε} : as.mapM f = .error e ↔
    ∃ before a after, as = before ++ a :: after ∧ f a = .error e ∧ ∀ a' ∈ before, ∃ b, f a' = .ok b := by
  induction as with
  | nil =>
    constructor
    · rintro ⟨⟩
    · rintro ⟨before, a, after, hnil, -⟩
      cases before <;> cases hnil
  | cons a as ih =>
    rw [List.mapM_cons]
    constructor
    · intro h
      rcases bind_error h with h | ⟨b, hb, h⟩
      · exact ⟨[], a, as, rfl, h, nofun⟩
      rcases bind_error h with h | ⟨bs, -, h⟩
      · obtain ⟨before, a', after, rfl, herror, hbefore⟩ := ih.mp h
        exact ⟨a :: before, a', after, rfl, herror, List.forall_mem_cons.mpr ⟨⟨b, hb⟩, hbefore⟩⟩
      · cases h
    · rintro ⟨before, a', after, hsplit, herror, hbefore⟩
      cases before with
      | nil =>
        obtain ⟨rfl, rfl⟩ := List.cons.inj hsplit
        rw [herror]
        rfl
      | cons a'' before =>
        obtain ⟨rfl, rfl⟩ := List.cons.inj hsplit
        obtain ⟨b, hb⟩ := hbefore a List.mem_cons_self
        have hrest : (before ++ a' :: after).mapM f = .error e :=
          ih.mpr ⟨before, a', after, rfl, herror, fun c hc => hbefore c (List.mem_cons_of_mem _ hc)⟩
        rw [hb]
        show (List.mapM f (before ++ a' :: after) >>= fun bs => pure (b :: bs)) = _
        rw [hrest]
        rfl

/-- A member of one of two related lists has a partner in the other. -/
theorem exists_of_forall₂ {R : α → β → Prop} {as : List α} {bs : List β} (h : List.Forall₂ R as bs)
    {a : α} (ha : a ∈ as) : ∃ b ∈ bs, R a b := by
  induction h with
  | nil => cases ha
  | @cons x y xs ys hxy _ ih =>
    rcases List.mem_cons.mp ha with rfl | ha
    · exact ⟨y, List.mem_cons_self, hxy⟩
    · obtain ⟨b, hb, hab⟩ := ih ha
      exact ⟨b, List.mem_cons_of_mem _ hb, hab⟩

/-- A function that is one of its argument where it does not fail. -/
theorem mapM_ok_iff {f : α → Except ε β} {p : α → Prop} {g : α → β} (h : ∀ a b, f a = .ok b ↔ p a ∧ b = g a)
    {as : List α} {bs : List β} : as.mapM f = .ok bs ↔ (∀ a ∈ as, p a) ∧ bs = as.map g := by
  constructor
  · intro hmap
    have hall := forall₂_of_mapM hmap
    refine ⟨fun a ha => ?_, ?_⟩
    · obtain ⟨b, -, hb⟩ := exists_of_forall₂ hall ha
      exact ((h a b).mp hb).1
    · clear hmap
      induction hall with
      | nil => rfl
      | cons hab _ ih => rw [List.map_cons, ← ih, ((h _ _).mp hab).2]
  · rintro ⟨hall, rfl⟩
    obtain ⟨bs, hbs⟩ := mapM_ok fun a ha => ⟨g a, (h a (g a)).mpr ⟨hall a ha, rfl⟩⟩
    have hforall := forall₂_of_mapM hbs
    have heq : bs = as.map g := by
      clear hbs hall
      induction hforall with
      | nil => rfl
      | cons hab _ ih => rw [List.map_cons, ← ih, ((h _ _).mp hab).2]
    rw [hbs, heq]

/-- A list is handled when each of its items is. -/
theorem exists_mapM_ok {f : α → Except ε β} {as : List α} :
    (∃ bs, as.mapM f = .ok bs) ↔ ∀ a ∈ as, ∃ b, f a = .ok b := by
  constructor
  · rintro ⟨bs, h⟩ a ha
    obtain ⟨b, -, hb⟩ := exists_of_forall₂ (forall₂_of_mapM h) ha
    exact ⟨b, hb⟩
  · exact mapM_ok

/-- A fold that looks at the items alone to refuse ends when it refuses none of them. -/
theorem exists_foldlM_ok {f : β → α → Except ε β} {p : α → Prop} (hf : ∀ b a, (∃ b', f b a = .ok b') ↔ p a)
    {as : List α} {b : β} : (∃ b', as.foldlM f b = .ok b') ↔ ∀ a ∈ as, p a := by
  induction as generalizing b with
  | nil => exact iff_of_true ⟨b, rfl⟩ nofun
  | cons a as ih =>
    rw [List.foldlM_cons, exists_bind_ok, List.forall_mem_cons, ← hf b a]
    constructor
    · rintro ⟨b', hb', h⟩
      exact ⟨⟨b', hb'⟩, ih.mp h⟩
    · rintro ⟨⟨b', hb'⟩, h⟩
      exact ⟨b', hb', ih.mpr h⟩

end Infra
