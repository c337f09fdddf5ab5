import Mathlib.Data.List.Infix
import Mathlib.Tactic.Common

/-!
# Patterns

The patterns of `LIKE`, with the escape character of a dialect or without one, and regular expressions
without operators.

* `like_infix_iff` — a text between two `%` is searched for as it stands if and only if it has no
  wildcard and no escape character
* `literalOf_reEscape` — an escaped text is a regular expression for that text
-/

namespace Infra

/-! ## `LIKE` -/

/-- What a part of a pattern matches: a character, any character, or any text. -/
inductive PatternToken where
  | char (c : Char)
  | one
  | many
  deriving DecidableEq, Repr

/-- A character that is not escaped. -/
def PatternToken.of (c : Char) : PatternToken :=
  if c = '%' then .many else if c = '_' then .one else .char c

/-- The character after an escape character stands for itself. -/
def patternTokens (escape : Option Char) : List Char → List PatternToken
  | [] => []
  | [c] => [.of c]
  | c :: c' :: pattern =>
    if escape = some c then .char c' :: patternTokens escape pattern
    else .of c :: patternTokens escape (c' :: pattern)

def matchTokens : List PatternToken → List Char → Bool
  | [], text => text.isEmpty
  | .char _ :: _, [] => false
  | .char c :: ts, c' :: text => c = c' && matchTokens ts text
  | .one :: _, [] => false
  | .one :: ts, _ :: text => matchTokens ts text
  | .many :: ts, text => text.tails.any fun rest => matchTokens ts rest

/-- No character of the text means anything in a pattern. -/
def Literal (escape : Option Char) (text : List Char) : Prop :=
  ∀ c ∈ text, c ≠ '%' ∧ c ≠ '_' ∧ escape ≠ some c

instance (escape : Option Char) (text : List Char) : Decidable (Literal escape text) :=
  List.decidableBAll _ text

section Like

variable {escape : Option Char}

theorem PatternToken.of_char {c : Char} (hmany : c ≠ '%') (hone : c ≠ '_') : of c = .char c := by
  rw [of, if_neg hmany, if_neg hone]

theorem patternTokens_cons_cons (c c' : Char) (pattern : List Char) :
    patternTokens escape (c :: c' :: pattern) =
      if escape = some c then .char c' :: patternTokens escape pattern
      else .of c :: patternTokens escape (c' :: pattern) := rfl

theorem matchTokens_many {ts : List PatternToken} {text : List Char} :
    matchTokens (.many :: ts) text ↔ ∃ rest, rest <:+ text ∧ matchTokens ts rest := by
  simp [matchTokens, List.any_eq_true]

/-- A text with anything after it. -/
theorem matchTokens_chars (v text : List Char) :
    matchTokens (v.map .char ++ [.many]) text ↔ v <+: text := by
  induction v generalizing text with
  | nil =>
    simp only [List.map_nil, List.nil_append, List.nil_prefix, iff_true, matchTokens_many]
    exact ⟨[], List.nil_suffix, rfl⟩
  | cons c v ih =>
    cases text with
    | nil => simp [matchTokens]
    | cons c' text =>
      rw [List.map_cons, List.cons_append, matchTokens, Bool.and_eq_true, decide_eq_true_eq, ih,
        List.cons_prefix_cons]

theorem patternTokens_literal {v : List Char} (h : Literal escape v) :
    patternTokens escape (v ++ ['%']) = v.map .char ++ [.many] := by
  induction v with
  | nil => rfl
  | cons c v ih =>
    obtain ⟨hmany, hone, hescape⟩ := h c List.mem_cons_self
    have htail := ih fun c' hc' => h c' (List.mem_cons_of_mem _ hc')
    have hcons : patternTokens escape (c :: (v ++ ['%'])) =
        .of c :: patternTokens escape (v ++ ['%']) := by
      cases v with
      | nil => rw [List.nil_append, patternTokens_cons_cons, if_neg hescape]
      | cons c' v => rw [List.cons_append, patternTokens_cons_cons, if_neg hescape]
    rw [List.cons_append, hcons, htail, PatternToken.of_char hmany hone]
    rfl

/-! ### A text that a pattern matches -/

def PatternToken.sample : PatternToken → List Char
  | .char c => [c]
  | .one => ['a']
  | .many => []

theorem matchTokens_sample (ts : List PatternToken) :
    matchTokens ts (ts.flatMap PatternToken.sample) := by
  induction ts with
  | nil => rfl
  | cons token ts ih =>
    cases token with
    | char c => simpa [PatternToken.sample, matchTokens] using ih
    | one => simpa [PatternToken.sample, matchTokens] using ih
    | many => exact matchTokens_many.mpr ⟨_, List.suffix_rfl, ih⟩

/-- What a character that is not escaped adds to the sample. -/
theorem sample_of (c : Char) :
    ((PatternToken.of c).sample = [c] ∧ c ≠ '%' ∧ c ≠ '_') ∨
      (PatternToken.of c).sample = [] ∨ (c = '_' ∧ (PatternToken.of c).sample = ['a']) := by
  by_cases hmany : c = '%'
  · subst hmany
    exact .inr (.inl rfl)
  · by_cases hone : c = '_'
    · subst hone
      exact .inr (.inr ⟨rfl, rfl⟩)
    · rw [PatternToken.of_char hmany hone]
      exact .inl ⟨rfl, hmany, hone⟩

/-- The sample of a text with anything after it is no longer than the text, and it is another text
unless the text is literal. -/
theorem sample_short (hescape : escape ≠ some '%') (v : List Char) :
    ((patternTokens escape (v ++ ['%'])).flatMap PatternToken.sample).length ≤ v.length ∧
      ((patternTokens escape (v ++ ['%'])).flatMap PatternToken.sample = v → Literal escape v) := by
  -- a character that is not escaped, before a text with a short sample
  have hstep : ∀ (c : Char) (v sample : List Char), escape ≠ some c →
      (sample.length ≤ v.length ∧ (sample = v → Literal escape v)) →
      ((PatternToken.of c).sample ++ sample).length ≤ (c :: v).length ∧
        ((PatternToken.of c).sample ++ sample = c :: v → Literal escape (c :: v)) := by
    intro c v sample hc ⟨hlength, hliteral⟩
    rcases sample_of c with ⟨hof, hmany, hone⟩ | hof | ⟨rfl, hof⟩
    · rw [hof, List.singleton_append]
      refine ⟨Nat.succ_le_succ hlength, fun heq => ?_⟩
      obtain rfl := (List.cons.inj heq).2
      intro c' hc'
      rcases List.mem_cons.mp hc' with rfl | hmem
      · exact ⟨hmany, hone, hc⟩
      · exact hliteral rfl c' hmem
    · rw [hof, List.nil_append]
      refine ⟨Nat.le_succ_of_le hlength, fun heq => ?_⟩
      rw [heq, List.length_cons] at hlength
      omega
    · rw [hof, List.singleton_append]
      refine ⟨Nat.succ_le_succ hlength, fun heq => ?_⟩
      exact absurd (List.cons.inj heq).1 (by decide)
  match v with
  | [] => exact ⟨Nat.le_refl 0, fun _ _ hc => absurd hc List.not_mem_nil⟩
  | [c] =>
    by_cases hc : escape = some c
    · -- the escape character makes a literal of the wildcard after it
      have htokens : patternTokens escape ([c] ++ ['%']) = [.char '%'] := by
        rw [List.singleton_append, patternTokens_cons_cons, if_pos hc]
        rfl
      rw [htokens]
      refine ⟨Nat.le_refl 1, fun heq => ?_⟩
      obtain rfl : '%' = c := (List.cons.inj heq).1
      exact absurd hc hescape
    · rw [List.singleton_append, patternTokens_cons_cons, if_neg hc, List.flatMap_cons]
      exact hstep c [] _ hc (sample_short hescape [])
  | c :: c' :: v =>
    by_cases hc : escape = some c
    · rw [List.cons_append, List.cons_append, patternTokens_cons_cons, if_pos hc, List.flatMap_cons,
        PatternToken.sample, List.singleton_append]
      have hlength := (sample_short hescape v).1
      refine ⟨by rw [List.length_cons, List.length_cons, List.length_cons]; omega, fun heq => ?_⟩
      have htail := congrArg List.length (List.cons.inj heq).2
      rw [List.length_cons] at htail
      omega
    · rw [List.cons_append, List.cons_append, patternTokens_cons_cons, if_neg hc, List.flatMap_cons]
      exact hstep c (c' :: v) _ hc (sample_short hescape (c' :: v))

theorem patternTokens_many (hescape : escape ≠ some '%') (v : List Char) :
    patternTokens escape ('%' :: (v ++ ['%'])) = .many :: patternTokens escape (v ++ ['%']) := by
  cases v with
  | nil =>
    rw [List.nil_append, patternTokens_cons_cons, if_neg hescape]
    rfl
  | cons c v =>
    rw [List.cons_append, patternTokens_cons_cons, if_neg hescape]
    rfl

/-- **A text between two `%` is searched for as it stands if and only if it is literal.** -/
theorem like_infix_iff (hescape : escape ≠ some '%') (v : List Char) :
    (∀ text, matchTokens (patternTokens escape ('%' :: (v ++ ['%']))) text ↔ v <:+: text) ↔
      Literal escape v := by
  rw [patternTokens_many hescape]
  constructor
  · intro h
    obtain ⟨hlength, hliteral⟩ := sample_short hescape v
    have hinfix := (h _).mp (matchTokens_many.mpr
      ⟨_, List.suffix_rfl, matchTokens_sample (patternTokens escape (v ++ ['%']))⟩)
    exact hliteral (List.IsInfix.eq_of_length_le hinfix hlength).symm
  · intro h text
    rw [patternTokens_literal h, matchTokens_many, List.infix_iff_prefix_suffix]
    constructor
    · rintro ⟨rest, hrest, hmatch⟩
      exact ⟨rest, (matchTokens_chars v rest).mp hmatch, hrest⟩
    · rintro ⟨rest, hv, hrest⟩
      exact ⟨rest, hrest, (matchTokens_chars v rest).mpr hv⟩

end Like

/-! ## Regular expressions -/

/-- The characters that `re.escape` puts a backslash before. -/
def escapedChars : List Char :=
  ['(', ')', '[', ']', '{', '}', '?', '*', '+', '-', '|', '^', '$', '\\', '.', '&', '~', '#', ' ',
    '\t', '\n', '\r', Char.ofNat 0x0B, Char.ofNat 0x0C]

/-- `re.escape` -/
def reEscape (text : List Char) : List Char :=
  text.flatMap fun c => if c ∈ escapedChars then ['\\', c] else [c]

/-- The characters that mean something in a regular expression. -/
def operatorChars : List Char := ['\\', '^', '$', '.', '[', '|', '(', ')', '?', '*', '+', '{']

/-- The text that a regular expression without operators stands for. A backslash makes a literal of a
character that is no letter and no digit. -/
def literalOf : List Char → Option (List Char)
  | [] => some []
  | [c] => if c ∈ operatorChars then none else some [c]
  | c :: c' :: pattern =>
    if c = '\\' then
      if c'.isAlphanum then none else (literalOf pattern).map (c' :: ·)
    else if c ∈ operatorChars then none
    else (literalOf (c' :: pattern)).map (c :: ·)

theorem literalOf_cons {c : Char} (h : c ∉ operatorChars) (pattern : List Char) :
    literalOf (c :: pattern) = (literalOf pattern).map (c :: ·) := by
  cases pattern with
  | nil => simp [literalOf, h]
  | cons c' pattern =>
    have hc : c ≠ '\\' := by
      rintro rfl
      exact h (by decide)
    rw [literalOf, if_neg hc, if_neg h]

/-- **An escaped text is a regular expression for that text.** -/
theorem literalOf_reEscape (text : List Char) : literalOf (reEscape text) = some text := by
  have hescaped : ∀ c ∈ escapedChars, c.isAlphanum = false := by
    have hall : escapedChars.all (fun c => !c.isAlphanum) = true := by decide
    exact fun c hc => by simpa using List.all_eq_true.mp hall c hc
  have hoperators : ∀ c ∈ operatorChars, c ∈ escapedChars := by
    have hall : operatorChars.all (escapedChars.contains ·) = true := by decide
    exact fun c hc => by simpa using List.all_eq_true.mp hall c hc
  induction text with
  | nil => rfl
  | cons c text ih =>
    rw [reEscape, List.flatMap_cons]
    rw [reEscape] at ih
    by_cases hc : c ∈ escapedChars
    · rw [if_pos hc, List.cons_append, List.singleton_append, literalOf, if_pos rfl,
        hescaped c hc, if_neg Bool.false_ne_true, ih]
      rfl
    · rw [if_neg hc, List.singleton_append, literalOf_cons fun h => hc (hoperators c h), ih]
      rfl

/-- What a search for a regular expression without operators finds. -/
def regexFinds (pattern text : List Char) : Option Bool :=
  (literalOf pattern).map fun literal => literal <:+: text

end Infra
