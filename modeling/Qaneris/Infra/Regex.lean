import Mathlib.Data.List.Basic

/-!
# Regular expressions that backtrack

An expression is run at a place of a text and lists every place where it can end, the preferred one
first: a repetition prefers to go on, an alternative prefers its left side. The first of them is the
match. An assertion looks at the characters on both sides and reads nothing.

What an expression reads is described apart from where it is run by its language, `Lang`.
-/

namespace Infra

universe u

inductive Regex (α : Type u) where
  | empty
  | one (p : α → Bool)
  | seq (r s : Regex α)
  | alt (r s : Regex α)
  | star (r : Regex α)
  | group (n : Nat) (r : Regex α)
  /-- A condition on the character before and the character after this place. -/
  | assert (holds : Option α → Option α → Bool)

/-- A place in a text: what lies before it, the nearest character first, what comes after it, and
the groups read on the way, the latest first. -/
structure Cursor (α : Type u) where
  before : List α
  after : List α
  groups : List (Nat × List α) := []

namespace Cursor

variable {α : Type u}

/-- The text between two places. -/
def read (c e : Cursor α) : List α := c.after.take (c.after.length - e.after.length)

/-- The place `w` further on. -/
def skip (c : Cursor α) (w rest : List α) : Cursor α :=
  { before := w.reverse ++ c.before, after := rest, groups := c.groups }

@[simp] theorem skip_before (c : Cursor α) (w rest : List α) :
    (c.skip w rest).before = w.reverse ++ c.before := rfl

@[simp] theorem skip_after (c : Cursor α) (w rest : List α) : (c.skip w rest).after = rest := rfl

@[simp] theorem skip_groups (c : Cursor α) (w rest : List α) :
    (c.skip w rest).groups = c.groups := rfl

@[simp] theorem skip_skip (c : Cursor α) (v w rest more : List α) :
    (c.skip v rest).skip w more = c.skip (v ++ w) more := by
  simp only [skip, List.reverse_append, List.append_assoc]

/-- `w` is what was read from one place to the other. -/
def Reads (c e : Cursor α) (w : List α) : Prop :=
  c.after = w ++ e.after ∧ e.before = w.reverse ++ c.before

theorem Reads.refl (c : Cursor α) : c.Reads c [] := ⟨rfl, rfl⟩

theorem Reads.trans {c d e : Cursor α} {v w : List α} (h : c.Reads d v) (k : d.Reads e w) :
    c.Reads e (v ++ w) := by
  obtain ⟨hafter, hbefore⟩ := h
  obtain ⟨kafter, kbefore⟩ := k
  constructor
  · rw [hafter, kafter, List.append_assoc]
  · rw [kbefore, hbefore, List.reverse_append, List.append_assoc]

theorem Reads.read_eq {c e : Cursor α} {w : List α} (h : c.Reads e w) : c.read e = w := by
  unfold read
  rw [h.1, List.length_append, Nat.add_sub_cancel, List.take_left]

end Cursor

namespace Regex

variable {α : Type u}

/-- What a repetition reaches. A round that reads nothing ends it. -/
def many (step : Cursor α → List (Cursor α)) : Nat → Cursor α → List (Cursor α)
  | 0, c => [c]
  | fuel + 1, c =>
    ((step c).filter fun e => e.after.length < c.after.length).flatMap (many step fuel) ++ [c]

/-- Where a match that starts at `c` can end, the preferred place first. -/
def ends : Regex α → Cursor α → List (Cursor α)
  | .empty, c => [c]
  | .one p, c =>
    match c.after with
    | [] => []
    | x :: rest => if p x then [c.skip [x] rest] else []
  | .seq r s, c => (r.ends c).flatMap s.ends
  | .alt r s, c => r.ends c ++ s.ends c
  | .star r, c => many r.ends c.after.length c
  | .group n r, c => (r.ends c).map fun e => { e with groups := (n, c.read e) :: e.groups }
  | .assert holds, c => if holds c.before.head? c.after.head? then [c] else []

section Ends

variable {p : α → Bool} {r s : Regex α} {c : Cursor α}

theorem ends_one_nil (h : c.after = []) : (one p).ends c = [] := by
  obtain ⟨before, after, groups⟩ := c
  obtain rfl : after = [] := h
  rfl

theorem ends_one_cons {x : α} {rest : List α} (h : c.after = x :: rest) :
    (one p).ends c = if p x then [c.skip [x] rest] else [] := by
  obtain ⟨before, after, groups⟩ := c
  obtain rfl : after = x :: rest := h
  rfl

theorem ends_seq : (seq r s).ends c = (r.ends c).flatMap s.ends := rfl

theorem ends_alt : (alt r s).ends c = r.ends c ++ s.ends c := rfl

theorem ends_star : (star r).ends c = many r.ends c.after.length c := rfl

theorem ends_group {n : Nat} : (group n r).ends c =
    (r.ends c).map fun e => { e with groups := (n, c.read e) :: e.groups } := rfl

theorem ends_assert {holds : Option α → Option α → Bool} : (assert holds).ends c =
    if holds c.before.head? c.after.head? then [c] else [] := rfl

end Ends

def plus (r : Regex α) : Regex α := .seq r (.star r)

def opt (r : Regex α) : Regex α := .alt r .empty

/-- `r{n}` -/
def times (r : Regex α) : Nat → Regex α
  | 0 => .empty
  | n + 1 => .seq r (times r n)

/-- The characters of a text, one after another. -/
def lit [DecidableEq α] : List α → Regex α
  | [] => .empty
  | x :: rest => .seq (.one (· == x)) (lit rest)

/-- `(?<![p])` -/
def notBehind (p : α → Bool) : Regex α := .assert fun b _ => !b.any p

/-- `(?![p])` -/
def notAhead (p : α → Bool) : Regex α := .assert fun _ a => !a.any p

/-- A text that was read, and the groups in it. -/
structure Match (α : Type u) where
  text : List α
  groups : List (Nat × List α)
  deriving DecidableEq, Repr

/-- `match.group(n)` -/
def Match.group (m : Match α) (n : Nat) : List α := (m.groups.lookup n).getD []

/-- The matches from `c` on, each of them starting where the one before it ended or later. The
expressions here read no empty text, and a place where one would is passed over. -/
def matchesFrom (r : Regex α) : Nat → Cursor α → List (Match α)
  | 0, _ => []
  | fuel + 1, c =>
    match (r.ends c).head? with
    | some e =>
      if e.after.length < c.after.length then
        ⟨c.read e, e.groups⟩ :: matchesFrom r fuel { e with groups := [] }
      else
        match c.after with
        | [] => []
        | x :: rest => matchesFrom r fuel (c.skip [x] rest)
    | none =>
      match c.after with
      | [] => []
      | x :: rest => matchesFrom r fuel (c.skip [x] rest)

/-- `finditer` -/
def finditer (r : Regex α) (text : List α) : List (Match α) :=
  r.matchesFrom (text.length + 1) { before := [], after := text }

/-! ## What an expression reads -/

/-- The texts of an expression, wherever it is run. -/
def Lang : Regex α → List α → Prop
  | .empty, w => w = []
  | .one p, w => ∃ x, p x = true ∧ w = [x]
  | .seq r s, w => ∃ u v, r.Lang u ∧ s.Lang v ∧ w = u ++ v
  | .alt r s, w => r.Lang w ∨ s.Lang w
  | .star r, w => ∃ ws : List (List α), (∀ u ∈ ws, r.Lang u) ∧ w = ws.flatten
  | .group _ r, w => r.Lang w
  | .assert _, w => w = []

theorem reads_many {step : Cursor α → List (Cursor α)} {L : List α → Prop}
    (hstep : ∀ c, ∀ e ∈ step c, ∃ w, L w ∧ c.Reads e w) :
    ∀ (fuel : Nat) (c e : Cursor α), e ∈ many step fuel c →
      ∃ ws : List (List α), (∀ u ∈ ws, L u) ∧ c.Reads e ws.flatten := by
  intro fuel
  induction fuel with
  | zero =>
    intro c e he
    obtain rfl : e = c := List.mem_singleton.mp he
    exact ⟨[], by simp, .refl _⟩
  | succ fuel ih =>
    intro c e he
    rcases List.mem_append.mp he with he | he
    · obtain ⟨d, hd, he⟩ := List.mem_flatMap.mp he
      obtain ⟨w, hw, hreads⟩ := hstep c d (List.mem_filter.mp hd).1
      obtain ⟨ws, hws, hrest⟩ := ih d e he
      refine ⟨w :: ws, ?_, hreads.trans hrest⟩
      intro u hu
      rcases List.mem_cons.mp hu with rfl | hu
      · exact hw
      · exact hws u hu
    · obtain rfl : e = c := List.mem_singleton.mp he
      exact ⟨[], by simp, .refl _⟩

/-- **A match reads a text of the expression**, whatever stands around it. -/
theorem reads_ends (r : Regex α) : ∀ c, ∀ e ∈ r.ends c, ∃ w, r.Lang w ∧ c.Reads e w := by
  induction r with
  | empty =>
    intro c e he
    obtain rfl : e = c := List.mem_singleton.mp he
    exact ⟨[], rfl, .refl _⟩
  | one p =>
    intro c e he
    cases hafter : c.after with
    | nil =>
      rw [ends_one_nil hafter] at he
      exact absurd he List.not_mem_nil
    | cons x rest =>
      rw [ends_one_cons hafter] at he
      split at he
      · rename_i hp
        obtain rfl : e = c.skip [x] rest := List.mem_singleton.mp he
        exact ⟨[x], ⟨x, hp, rfl⟩, hafter, rfl⟩
      · exact absurd he List.not_mem_nil
  | seq r s ihr ihs =>
    intro c e he
    obtain ⟨d, hd, he⟩ := List.mem_flatMap.mp he
    obtain ⟨u, hu, hcd⟩ := ihr c d hd
    obtain ⟨v, hv, hde⟩ := ihs d e he
    exact ⟨u ++ v, ⟨u, v, hu, hv, rfl⟩, hcd.trans hde⟩
  | alt r s ihr ihs =>
    intro c e he
    rcases List.mem_append.mp he with he | he
    · obtain ⟨w, hw, hreads⟩ := ihr c e he
      exact ⟨w, .inl hw, hreads⟩
    · obtain ⟨w, hw, hreads⟩ := ihs c e he
      exact ⟨w, .inr hw, hreads⟩
  | star r ih =>
    intro c e he
    obtain ⟨ws, hws, hreads⟩ := reads_many ih _ c e he
    exact ⟨ws.flatten, ⟨ws, hws, rfl⟩, hreads⟩
  | group n r ih =>
    intro c e he
    obtain ⟨d, hd, rfl⟩ := List.mem_map.mp he
    obtain ⟨w, hw, hreads⟩ := ih c d hd
    exact ⟨w, hw, hreads⟩
  | assert holds =>
    intro c e he
    rw [ends_assert] at he
    split at he
    · obtain rfl : e = c := List.mem_singleton.mp he
      exact ⟨[], rfl, .refl _⟩
    · exact absurd he List.not_mem_nil

/-- **Every match of a text is a text of the expression.** -/
theorem lang_of_mem_matchesFrom (r : Regex α) :
    ∀ (fuel : Nat) (c : Cursor α) (m : Match α), m ∈ r.matchesFrom fuel c → r.Lang m.text := by
  intro fuel
  induction fuel with
  | zero =>
    intro c m hm
    exact absurd hm List.not_mem_nil
  | succ fuel ih =>
    intro c m hm
    unfold matchesFrom at hm
    split at hm
    · rename_i e he
      split at hm
      · rcases List.mem_cons.mp hm with rfl | hm
        · obtain ⟨w, hw, hreads⟩ := reads_ends r c e (List.mem_of_mem_head? he)
          show r.Lang (c.read e)
          rwa [hreads.read_eq]
        · exact ih _ m hm
      · split at hm
        · exact absurd hm List.not_mem_nil
        · exact ih _ m hm
    · split at hm
      · exact absurd hm List.not_mem_nil
      · exact ih _ m hm

theorem lang_of_mem_finditer {r : Regex α} {text : List α} {m : Match α}
    (h : m ∈ r.finditer text) : r.Lang m.text :=
  lang_of_mem_matchesFrom r _ _ m h

theorem lang_lit [DecidableEq α] {text w : List α} : (lit text).Lang w ↔ w = text := by
  induction text generalizing w with
  | nil => exact Iff.rfl
  | cons x rest ih =>
    constructor
    · rintro ⟨_, v, ⟨y, hy, rfl⟩, hv, rfl⟩
      obtain rfl : y = x := by simpa only [beq_iff_eq] using hy
      rw [ih.mp hv, List.singleton_append]
    · rintro rfl
      exact ⟨[x], rest, ⟨x, by simp, rfl⟩, ih.mpr rfl, rfl⟩

theorem lang_star_one {p : α → Bool} {w : List α} (h : (star (one p)).Lang w) :
    ∀ x ∈ w, p x = true := by
  obtain ⟨ws, hws, rfl⟩ := h
  intro x hx
  obtain ⟨u, hu, hxu⟩ := List.mem_flatten.mp hx
  obtain ⟨y, hy, rfl⟩ := hws u hu
  rwa [List.mem_singleton.mp hxu]

theorem lang_plus_one {p : α → Bool} {w : List α} (h : (plus (one p)).Lang w) :
    w ≠ [] ∧ ∀ x ∈ w, p x = true := by
  obtain ⟨u, v, ⟨x, hx, rfl⟩, hv, rfl⟩ := h
  refine ⟨by simp, ?_⟩
  intro y hy
  rcases List.mem_cons.mp hy with rfl | hy
  · exact hx
  · exact lang_star_one hv y hy

/-! ## The preferred match -/

/-- Where the match that starts at `c` ends. -/
def first (r : Regex α) (c : Cursor α) : Option (Cursor α) := (r.ends c).head?

theorem first_eq (r : Regex α) (c : Cursor α) : r.first c = (r.ends c).head? := rfl

theorem ends_eq_nil_iff {r : Regex α} {c : Cursor α} : r.ends c = [] ↔ r.first c = none := by
  rw [first_eq, List.head?_eq_none_iff]

theorem first_empty (c : Cursor α) : (empty : Regex α).first c = some c := rfl

theorem first_one {p : α → Bool} {c : Cursor α} {x : α} {rest : List α}
    (hafter : c.after = x :: rest) (hx : p x = true) :
    (one p).first c = some (c.skip [x] rest) := by
  rw [first_eq, ends_one_cons hafter, if_pos hx, List.head?_cons]

theorem first_one_none {p : α → Bool} {c : Cursor α}
    (h : ∀ x, c.after.head? = some x → p x = false) : (one p).first c = none := by
  cases hafter : c.after with
  | nil => rw [first_eq, ends_one_nil hafter, List.head?_nil]
  | cons x rest =>
    have hx : p x = false := h x (by rw [hafter, List.head?_cons])
    rw [first_eq, ends_one_cons hafter, hx, if_neg Bool.false_ne_true, List.head?_nil]

/-- When the preferred part leads on, the whole prefers it too. -/
theorem first_seq {r s : Regex α} {c d : Cursor α} (hr : r.first c = some d)
    (hs : s.first d ≠ none) : (seq r s).first c = s.first d := by
  obtain ⟨rest, hends⟩ : ∃ rest, r.ends c = d :: rest := by
    rw [first_eq] at hr
    exact List.head?_eq_some_iff.mp hr
  obtain ⟨e, he⟩ := Option.ne_none_iff_exists'.mp hs
  rw [first_eq] at he
  rw [first_eq, first_eq, ends_seq, hends, List.flatMap_cons, List.head?_append, he, Option.some_or]

theorem first_seq_some {r s : Regex α} {c d e : Cursor α} (hr : r.first c = some d)
    (hs : s.first d = some e) : (seq r s).first c = some e := by
  rw [first_seq hr (by rw [hs]; exact Option.some_ne_none _), hs]

/-- Nothing matches where no text of the expression stands. -/
theorem first_none_of_lang {r : Regex α} {c : Cursor α} (h : ∀ w, r.Lang w → ¬ w <+: c.after) :
    r.first c = none := by
  by_contra hne
  obtain ⟨e, he⟩ := Option.ne_none_iff_exists'.mp hne
  obtain ⟨w, hw, hreads⟩ := reads_ends r c e (List.mem_of_mem_head? he)
  exact h w hw ⟨e.after, hreads.1.symm⟩

theorem first_seq_none {r s : Regex α} {c : Cursor α} (hr : r.first c = none) :
    (seq r s).first c = none := by
  rw [← ends_eq_nil_iff] at hr
  rw [first_eq, ends_seq, hr, List.flatMap_nil, List.head?_nil]

theorem first_seq_single {r s : Regex α} {c d : Cursor α} (hr : r.ends c = [d]) :
    (seq r s).first c = s.first d := by
  rw [first_eq, ends_seq, hr, List.flatMap_cons, List.flatMap_nil, List.append_nil, first_eq]

theorem first_alt {r s : Regex α} {c e : Cursor α} (hr : r.first c = some e) :
    (alt r s).first c = some e := by
  rw [first_eq] at hr
  rw [first_eq, ends_alt, List.head?_append, hr, Option.some_or]

theorem first_alt_of_none {r s : Regex α} {c : Cursor α} (hr : r.first c = none) :
    (alt r s).first c = s.first c := by
  rw [first_eq] at hr
  rw [first_eq, ends_alt, List.head?_append, hr, Option.none_or, first_eq]

theorem first_opt {r : Regex α} {c e : Cursor α} (hr : r.first c = some e) :
    (opt r).first c = some e := first_alt hr

theorem first_opt_of_none {r : Regex α} {c : Cursor α} (hr : r.first c = none) :
    (opt r).first c = some c := first_alt_of_none hr

theorem ends_opt_of_none {r : Regex α} {c : Cursor α} (hr : r.first c = none) :
    (opt r).ends c = [c] := by
  rw [← ends_eq_nil_iff] at hr
  show r.ends c ++ [c] = [c]
  rw [hr, List.nil_append]

theorem first_star_of_none {r : Regex α} {c : Cursor α} (hr : r.first c = none) :
    (star r).first c = some c := by
  rw [← ends_eq_nil_iff] at hr
  rw [first_eq, ends_star]
  cases c.after.length with
  | zero => rfl
  | succ n => simp only [many, hr, List.filter_nil, List.flatMap_nil, List.nil_append,
      List.head?_cons]

theorem first_group {n : Nat} {r : Regex α} {c e : Cursor α} (hr : r.first c = some e) :
    (group n r).first c = some { e with groups := (n, c.read e) :: e.groups } := by
  rw [first_eq] at hr
  rw [first_eq, ends_group, List.head?_map, hr, Option.map_some]

theorem first_lit [DecidableEq α] (text : List α) :
    ∀ {c : Cursor α} (rest : List α), c.after = text ++ rest →
      (lit text).first c = some (c.skip text rest) := by
  induction text with
  | nil =>
    intro c rest hafter
    have hc : c.skip [] rest = c := by
      cases c
      simp only [List.nil_append] at hafter
      rw [hafter]
      rfl
    rw [hc]
    rfl
  | cons x text ih =>
    intro c rest hafter
    have hone : (one (· == x)).first c = some (c.skip [x] (text ++ rest)) :=
      first_one hafter (by simp)
    rw [lit, first_seq_some hone (ih rest rfl), Cursor.skip_skip, List.singleton_append]

theorem first_assert {holds : Option α → Option α → Bool} {c : Cursor α}
    (h : holds c.before.head? c.after.head? = true) : (assert holds).first c = some c := by
  rw [first_eq, ends_assert, if_pos h, List.head?_cons]

theorem first_assert_none {holds : Option α → Option α → Bool} {c : Cursor α}
    (h : holds c.before.head? c.after.head? = false) : (assert holds).first c = none := by
  rw [first_eq, ends_assert, h, if_neg Bool.false_ne_true, List.head?_nil]

theorem ends_assert_cases (holds : Option α → Option α → Bool) (c : Cursor α) :
    (assert holds).ends c = [c] ∨ (assert holds).ends c = [] := by
  rw [ends_assert]
  split
  · exact .inl rfl
  · exact .inr rfl

/-- A repeated class takes everything of the class that follows. -/
theorem first_many_one {p : α → Bool} :
    ∀ (fuel : Nat) (w rest : List α) (c : Cursor α), c.after = w ++ rest → (∀ x ∈ w, p x = true) →
      (∀ x, rest.head? = some x → p x = false) → w.length ≤ fuel →
      (many (one p).ends fuel c).head? = some (c.skip w rest) := by
  intro fuel
  induction fuel with
  | zero =>
    intro w rest c hafter _ _ hfuel
    obtain rfl : w = [] := List.eq_nil_of_length_eq_zero (Nat.le_zero.mp hfuel)
    have hc : c.skip [] rest = c := by
      cases c
      simp only [List.nil_append] at hafter
      rw [hafter]
      rfl
    rw [hc]
    rfl
  | succ fuel ih =>
    intro w rest c hafter hw hrest hfuel
    cases w with
    | nil =>
      have hnone : (one p).ends c = [] := by
        rw [ends_eq_nil_iff]
        refine first_one_none fun x hx => hrest x ?_
        rwa [hafter, List.nil_append] at hx
      have hc : c.skip [] rest = c := by
        cases c
        simp only [List.nil_append] at hafter
        rw [hafter]
        rfl
      rw [hc]
      simp only [many, hnone, List.filter_nil, List.flatMap_nil, List.nil_append, List.head?_cons]
    | cons x w =>
      have hends : (one p).ends c = [c.skip [x] (w ++ rest)] := by
        rw [ends_one_cons hafter, if_pos (hw x List.mem_cons_self)]
        rfl
      have hless : (w ++ rest).length < c.after.length := by
        rw [hafter, List.cons_append, List.length_cons]
        omega
      have hrec := ih w rest (c.skip [x] (w ++ rest)) rfl
        (fun y hy => hw y (List.mem_cons_of_mem _ hy)) hrest
        (by rw [List.length_cons] at hfuel; omega)
      simp only [many, hends, List.filter_cons, Cursor.skip_after, hless, decide_true, if_true,
        List.filter_nil, List.flatMap_cons, List.flatMap_nil, List.append_nil, List.head?_append,
        hrec, Option.some_or]
      rw [Cursor.skip_skip, List.singleton_append]

theorem first_star_one {p : α → Bool} {c : Cursor α} {w rest : List α}
    (hafter : c.after = w ++ rest) (hw : ∀ x ∈ w, p x = true)
    (hrest : ∀ x, rest.head? = some x → p x = false) :
    (star (one p)).first c = some (c.skip w rest) := by
  refine first_many_one _ w rest c hafter hw hrest ?_
  rw [hafter, List.length_append]
  omega

theorem first_plus_one {p : α → Bool} {c : Cursor α} {w rest : List α} (hne : w ≠ [])
    (hafter : c.after = w ++ rest) (hw : ∀ x ∈ w, p x = true)
    (hrest : ∀ x, rest.head? = some x → p x = false) :
    (plus (one p)).first c = some (c.skip w rest) := by
  obtain ⟨x, w, rfl⟩ := List.exists_cons_of_ne_nil hne
  have hstar : (star (one p)).first (c.skip [x] (w ++ rest)) =
      some ((c.skip [x] (w ++ rest)).skip w rest) :=
    first_star_one rfl (fun y hy => hw y (List.mem_cons_of_mem _ hy)) hrest
  have hone : (one p).first c = some (c.skip [x] (w ++ rest)) :=
    first_one hafter (hw x List.mem_cons_self)
  rw [plus, first_seq_some hone hstar, Cursor.skip_skip, List.singleton_append]

theorem first_plus_one_none {p : α → Bool} {c : Cursor α}
    (h : ∀ x, c.after.head? = some x → p x = false) : (plus (one p)).first c = none :=
  first_seq_none (first_one_none h)

/-! ## The matches of a text, one after another -/

/-- The matches from a place on. -/
def matchesAt (r : Regex α) (c : Cursor α) : List (Match α) := r.matchesFrom (c.after.length + 1) c

theorem finditer_eq (r : Regex α) (text : List α) :
    r.finditer text = r.matchesAt { before := [], after := text } := rfl

/-- More fuel than there are characters changes nothing. -/
theorem matchesFrom_fuel (r : Regex α) :
    ∀ (fuel more : Nat) (c : Cursor α), c.after.length < fuel → c.after.length < more →
      r.matchesFrom fuel c = r.matchesFrom more c := by
  intro fuel
  induction fuel with
  | zero =>
    intro more c hfuel
    omega
  | succ fuel ih =>
    intro more c hfuel hmore
    obtain ⟨more, rfl⟩ : ∃ n, more = n + 1 := ⟨more - 1, by omega⟩
    have hskip : (match c.after with
          | [] => []
          | x :: rest => r.matchesFrom fuel (c.skip [x] rest)) =
        (match c.after with
          | [] => []
          | x :: rest => r.matchesFrom more (c.skip [x] rest)) := by
      cases hafter : c.after with
      | nil => rfl
      | cons x rest =>
        rw [hafter, List.length_cons] at hfuel hmore
        exact ih more _ (by simp only [Cursor.skip_after]; omega)
          (by simp only [Cursor.skip_after]; omega)
    unfold matchesFrom
    cases (r.ends c).head? with
    | none => exact hskip
    | some e =>
      by_cases hless : e.after.length < c.after.length
      · simp only [hless, if_true]
        rw [ih more _ (by simp only; omega) (by simp only; omega)]
      · simp only [hless, if_false]
        exact hskip

theorem matchesAt_of_first {r : Regex α} {c e : Cursor α} (h : r.first c = some e)
    (hless : e.after.length < c.after.length) :
    r.matchesAt c = ⟨c.read e, e.groups⟩ :: r.matchesAt { e with groups := [] } := by
  rw [first_eq] at h
  unfold matchesAt
  rw [matchesFrom, h]
  simp only [hless, if_true]
  have hfuel := matchesFrom_fuel r c.after.length (e.after.length + 1) { e with groups := [] } hless
    (Nat.lt_succ_self _)
  rw [hfuel]

theorem matchesAt_of_none {r : Regex α} {c : Cursor α} {x : α} {rest : List α}
    (h : r.first c = none) (hafter : c.after = x :: rest) :
    r.matchesAt c = r.matchesAt (c.skip [x] rest) := by
  rw [first_eq] at h
  unfold matchesAt
  rw [matchesFrom, h, hafter]
  rfl

theorem matchesAt_nil {r : Regex α} {c : Cursor α} (hafter : c.after = []) : r.matchesAt c = [] := by
  unfold matchesAt matchesFrom
  split
  · rename_i e _
    have hless : ¬ e.after.length < c.after.length := by
      rw [hafter, List.length_nil]
      omega
    rw [if_neg hless]
    simp only [hafter]
  · simp only [hafter]

/-! ## Expressions whose texts do not overlap -/

/-- Every text starts with the mark and has it nowhere else. -/
def Headed (r : Regex α) (mark : α) : Prop := ∀ w, r.Lang w → ∃ v, w = mark :: v ∧ mark ∉ v

theorem Headed.less {r : Regex α} {mark : α} (h : r.Headed mark) {c e : Cursor α}
    (he : r.first c = some e) :
    ∃ v, c.Reads e (mark :: v) ∧ mark ∉ v ∧ e.after.length < c.after.length := by
  obtain ⟨w, hw, hreads⟩ := reads_ends r c e (List.mem_of_mem_head? he)
  obtain ⟨v, rfl, hv⟩ := h w hw
  refine ⟨v, hreads, hv, ?_⟩
  rw [hreads.1, List.length_append, List.length_cons]
  omega

theorem eq_of_reads_nil {c d : Cursor α} (h : c.Reads d []) (hc : c.groups = [])
    (hd : d.groups = []) : c = d := by
  obtain ⟨hafter, hbefore⟩ := h
  cases c
  cases d
  simp only [List.nil_append, List.reverse_nil] at hafter hbefore hc hd
  rw [hafter, hbefore, hc, hd]

/-- A match of the remaining text, at some place of it. -/
def MatchesLater (r : Regex α) (c : Cursor α) (m : Match α) : Prop :=
  ∃ u d e, c.Reads d u ∧ d.groups = [] ∧ r.first d = some e ∧ m = ⟨d.read e, e.groups⟩

theorem matchesLater_of_mem {r : Regex α} {mark : α} (h : r.Headed mark) {m : Match α} :
    ∀ (n : Nat) (c : Cursor α), c.after.length = n → c.groups = [] → m ∈ r.matchesAt c →
      r.MatchesLater c m := by
  intro n
  induction n using Nat.strongRecOn with
  | ind n ih =>
    intro c hn hgroups hm
    cases hfirst : r.first c with
    | some e =>
      obtain ⟨v, hreads, -, hless⟩ := h.less hfirst
      rw [matchesAt_of_first hfirst hless] at hm
      rcases List.mem_cons.mp hm with rfl | hm
      · exact ⟨[], c, e, .refl c, hgroups, hfirst, rfl⟩
      · obtain ⟨u, d, e', hd, hdgroups, hfirst', rfl⟩ :=
          ih e.after.length (hn ▸ hless) { e with groups := [] } rfl rfl hm
        have hskip : c.Reads { e with groups := [] } (mark :: v) := hreads
        exact ⟨mark :: v ++ u, d, e', hskip.trans hd, hdgroups, hfirst', rfl⟩
    | none =>
      cases hafter : c.after with
      | nil =>
        rw [matchesAt_nil hafter] at hm
        exact absurd hm List.not_mem_nil
      | cons x rest =>
        rw [matchesAt_of_none hfirst hafter] at hm
        have hless : rest.length < n := by
          rw [← hn, hafter, List.length_cons]
          omega
        obtain ⟨u, d, e, hd, hdgroups, hfirst', rfl⟩ := ih _ hless (c.skip [x] rest) rfl hgroups hm
        have hskip : c.Reads (c.skip [x] rest) [x] := ⟨hafter, rfl⟩
        exact ⟨[x] ++ u, d, e, hskip.trans hd, hdgroups, hfirst', rfl⟩

theorem mem_of_matchesLater {r : Regex α} {mark : α} (h : r.Headed mark) {m : Match α} :
    ∀ (n : Nat) (c : Cursor α), c.after.length = n → c.groups = [] → r.MatchesLater c m →
      m ∈ r.matchesAt c := by
  intro n
  induction n using Nat.strongRecOn with
  | ind n ih =>
    intro c hn hgroups hm
    obtain ⟨u, d, e, hd, hdgroups, hfirst, rfl⟩ := hm
    cases u with
    | nil =>
      obtain rfl := eq_of_reads_nil hd hgroups hdgroups
      obtain ⟨_, _, _, hless⟩ := h.less hfirst
      rw [matchesAt_of_first hfirst hless]
      exact List.mem_cons_self
    | cons x u =>
      cases hc : r.first c with
      | none =>
        have hafter : c.after = x :: (u ++ d.after) := hd.1
        rw [matchesAt_of_none hc hafter]
        have hless : (u ++ d.after).length < n := by
          rw [← hn, hafter, List.length_cons]
          omega
        refine ih _ hless (c.skip [x] (u ++ d.after)) rfl hgroups
          ⟨u, d, e, ⟨rfl, ?_⟩, hdgroups, hfirst, rfl⟩
        rw [hd.2, Cursor.skip_before, List.reverse_cons, List.append_assoc, List.reverse_singleton]
      | some b =>
        obtain ⟨v, hreads, hv, hless⟩ := h.less hc
        obtain ⟨z, hz, _, _⟩ := h.less hfirst
        rw [matchesAt_of_first hc hless]
        refine List.mem_cons_of_mem _ ?_
        -- The later match starts with the mark, which the earlier one has only in front.
        have hsplit : x :: u ++ d.after = mark :: v ++ b.after := by rw [← hd.1, hreads.1]
        obtain ⟨y, hy, hrest⟩ : ∃ y, x :: u = mark :: v ++ y ∧ b.after = y ++ d.after := by
          rcases List.append_eq_append_iff.mp hsplit with ⟨y, hy, hrest⟩ | ⟨y, hy, hrest⟩
          · cases y with
            | nil =>
              rw [List.append_nil] at hy
              exact ⟨[], by rw [List.append_nil, hy], by rw [List.nil_append, hrest]; rfl⟩
            | cons a y =>
              exfalso
              rw [hz.1] at hrest
              obtain ⟨rfl, -⟩ := List.cons.inj hrest
              rw [List.cons_append] at hy
              obtain ⟨-, rfl⟩ := List.cons.inj hy
              exact hv (List.mem_append_right _ List.mem_cons_self)
          · exact ⟨y, hy, hrest⟩
        refine ih b.after.length (hn ▸ hless) { b with groups := [] } rfl rfl
          ⟨y, d, e, ⟨hrest, ?_⟩, hdgroups, hfirst, rfl⟩
        rw [hd.2, hy, List.reverse_append, List.append_assoc, ← hreads.2]

/-- **Texts that do not overlap are all found**: a match is one at any place of the text. -/
theorem mem_finditer_iff {r : Regex α} {mark : α} (h : r.Headed mark) {text : List α}
    {m : Match α} :
    m ∈ r.finditer text ↔ r.MatchesLater { before := [], after := text } m := by
  rw [finditer_eq]
  exact ⟨matchesLater_of_mem h _ _ rfl rfl, mem_of_matchesLater h _ _ rfl rfl⟩

/-- The texts of an expression with what its groups hold, whatever stands around them. -/
structure Recognises (r : Regex α) (Shape : List α → List (Nat × List α) → Prop) : Prop where
  shape : ∀ w, r.Lang w → ∃ gs, Shape w gs
  first : ∀ w gs, Shape w gs → ∀ before rest, r.first { before, after := w ++ rest } =
    some { before := w.reverse ++ before, after := rest, groups := gs }

/-- **The matches of a text are the texts of the expression that stand in it.** -/
theorem Recognises.mem_finditer_iff {r : Regex α} {Shape : List α → List (Nat × List α) → Prop}
    (hr : r.Recognises Shape) {mark : α} (h : r.Headed mark) {text : List α} {m : Match α} :
    m ∈ r.finditer text ↔ Shape m.text m.groups ∧ m.text <:+: text := by
  rw [Regex.mem_finditer_iff h]
  constructor
  · rintro ⟨u, d, e, hd, hgroups, hfirst, rfl⟩
    obtain ⟨w, hw, hreads⟩ := reads_ends r d e (List.mem_of_mem_head? hfirst)
    obtain ⟨gs, hshape⟩ := hr.shape w hw
    have hfirst' := hr.first w gs hshape d.before e.after
    have hd' : d = { before := d.before, after := w ++ e.after } := by
      rw [← hreads.1, ← hgroups]
    rw [← hd', hfirst] at hfirst'
    have hgs : e.groups = gs := congrArg Cursor.groups (Option.some.inj hfirst')
    rw [hreads.read_eq, hgs]
    refine ⟨hshape, u, e.after, ?_⟩
    have htext : text = u ++ d.after := hd.1
    rw [htext, hreads.1, List.append_assoc]
  · rintro ⟨hshape, p, q, hpq⟩
    have hfirst := hr.first m.text m.groups hshape p.reverse q
    refine ⟨p, _, _, ⟨?_, ?_⟩, rfl, hfirst, ?_⟩
    · show text = p ++ (m.text ++ q)
      rw [← hpq, List.append_assoc]
    · show p.reverse = p.reverse ++ []
      rw [List.append_nil]
    · have hread : Cursor.read { before := p.reverse, after := m.text ++ q }
          { before := m.text.reverse ++ p.reverse, after := q, groups := m.groups } = m.text :=
        Cursor.Reads.read_eq ⟨rfl, rfl⟩
      rw [hread]

end Regex

end Infra
