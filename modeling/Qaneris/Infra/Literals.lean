import Qaneris.Infra.Tokens
import Qaneris.Infra.Url

/-!
# Quoted texts

How a language reads a text in quotes: whether a quote written twice stands for one, and what a
backslash takes with it.

* `read_quote_iff` — a text whose quotes are written twice is read back exactly when it is plain
* `Lexes` — one rule for each thing that stands in a clause
-/

namespace Infra

/-! ## Escapes -/

/-- A character that is given by its number: the mark, then so many digits. -/
structure Coded where
  mark : List Char
  base : Nat
  digits : Nat

/-- The character that is given, and the text after it. -/
def Coded.read (k : Coded) (text : List Char) : Option (List Char × List Char) :=
  let digits := (text.drop k.mark.length).take k.digits
  if k.mark.isPrefixOf text ∧ digits.length = k.digits ∧
      digits.all fun c => (Url.hexValue c).any (· < k.base) then
    let number := digits.foldl (fun n c => n * k.base + (Url.hexValue c).getD 0) 0
    some ([Char.ofNat number], text.drop (k.mark.length + k.digits))
  else none

/-- What a backslash takes with it in a text that the quote `q` ends. -/
structure Escapes (q : Char) where
  /-- The backslash stays before these. -/
  kept : List Char := []
  single : List (Char × Char)
  coded : List Coded := []
  /-- Any other character stands for itself. -/
  others : Bool
  kept_quote : q ∉ kept := by decide
  kept_backslash : '\\' ∉ kept := by decide
  coded_digits : ∀ k ∈ coded, 0 < k.digits := by decide
  coded_quote : ∀ k ∈ coded, q ∉ k.mark := by decide
  quote_digit : Url.hexValue q = none := by decide

/-- What stands after the backslash stands for this, and the text after it. -/
def Escapes.read {q : Char} (e : Escapes q) : List Char → Option (List Char × List Char)
  | [] => none
  | c :: text =>
    if c ∈ e.kept then some (['\\', c], text)
    else
      match e.single.lookup c with
      | some d => some ([d], text)
      | none =>
        match e.coded.findSome? fun k => k.read (c :: text) with
        | some r => some r
        | none => if e.others then some ([c], text) else none

section Escapes

variable {q : Char}

theorem Coded.read_some {k : Coded} {text denoted rest : List Char}
    (h : k.read text = some (denoted, rest)) :
    ∃ digits, text = k.mark ++ digits ++ rest ∧ digits.length = k.digits ∧
      (∀ c ∈ digits, (Url.hexValue c).isSome) ∧ denoted.length = 1 := by
  unfold Coded.read at h
  simp only at h
  split at h
  · next hread =>
    obtain ⟨hmark, hlength, hdigits⟩ := hread
    obtain ⟨after, rfl⟩ := List.isPrefixOf_iff_prefix.mp hmark
    obtain ⟨rfl, rfl⟩ := Prod.mk.inj (Option.some.inj h)
    rw [List.drop_left] at hlength hdigits
    refine ⟨after.take k.digits, ?_, hlength, ?_, rfl⟩
    · rw [List.drop_append, List.drop_of_length_le (by omega), List.nil_append,
        Nat.add_sub_cancel_left, List.append_assoc, List.take_append_drop]
    · intro c hc
      have hvalue := List.all_eq_true.mp hdigits c hc
      cases hhex : Url.hexValue c with
      | none => simp [hhex] at hvalue
      | some n => rfl
  · cases h

/-- **What an escape takes.** It is one quote or has none, and stands for no more than it is long. -/
theorem Escapes.read_some {e : Escapes q} {text denoted rest : List Char}
    (h : e.read text = some (denoted, rest)) :
    ∃ used, text = used ++ rest ∧ used ≠ [] ∧ (used = [q] ∨ q ∉ used) ∧
      ((∃ c ∈ e.kept, used = [c] ∧ denoted = ['\\', c]) ∨ denoted.length ≤ used.length) := by
  have hone : ∀ c : Char, ([c] = [q] ∨ q ∉ [c]) := by
    intro c
    by_cases hc : c = q
    · exact .inl (by rw [hc])
    · exact .inr fun hq => hc (List.mem_singleton.mp hq).symm
  cases text with
  | nil => cases h
  | cons c text =>
    simp only [Escapes.read] at h
    split at h
    · next hkept =>
      obtain ⟨rfl, rfl⟩ := Prod.mk.inj (Option.some.inj h)
      exact ⟨[c], rfl, by simp, hone c, .inl ⟨c, hkept, rfl, rfl⟩⟩
    · split at h
      · obtain ⟨rfl, rfl⟩ := Prod.mk.inj (Option.some.inj h)
        exact ⟨[c], rfl, by simp, hone c, .inr (by simp)⟩
      · split at h
        · next r hcoded =>
          obtain rfl := Option.some.inj h
          obtain ⟨k, hk, hread⟩ := List.exists_of_findSome?_eq_some hcoded
          obtain ⟨digits, htext, hlength, hdigits, hdenoted⟩ := Coded.read_some hread
          have hpos := e.coded_digits k hk
          refine ⟨k.mark ++ digits, htext, ?_, .inr ?_, .inr ?_⟩
          · intro hnil
            rw [List.append_eq_nil_iff] at hnil
            rw [hnil.2] at hlength
            simp at hlength
            omega
          · intro hq
            rcases List.mem_append.mp hq with hq | hq
            · exact e.coded_quote k hk hq
            · have hvalue := hdigits q hq
              rw [e.quote_digit] at hvalue
              cases hvalue
          · rw [hdenoted, List.length_append]
            omega
        · split at h
          · obtain ⟨rfl, rfl⟩ := Prod.mk.inj (Option.some.inj h)
            exact ⟨[c], rfl, by simp, hone c, .inr (by simp)⟩
          · cases h

theorem Escapes.read_kept {e : Escapes q} {c : Char} (h : c ∈ e.kept) (text : List Char) :
    e.read (c :: text) = some (['\\', c], text) := by
  simp [Escapes.read, h]

end Escapes

/-! ## Quoted texts -/

/-- How a text is read that the quote `q` ends. -/
structure Quoting (q : Char) where
  /-- A quote written twice stands for one. -/
  doubled : Bool := true
  escapes : Option (Escapes q) := none

namespace Quoting

variable {q : Char} (rules : Quoting q)

/-- The text up to the quote that ends it, and what is left. -/
def bodyFrom : Nat → List Char → Option (List Char × List Char)
  | 0, _ | _ + 1, [] => none
  | n + 1, c :: text =>
    if c = q then
      if rules.doubled ∧ text.head? = some q then
        (bodyFrom n text.tail).map fun r => (q :: r.1, r.2)
      else some ([], text)
    else
      match if c = '\\' then rules.escapes else none with
      | some e => do
        let (denoted, rest) ← e.read text
        let (body, rest) ← bodyFrom n rest
        return (denoted ++ body, rest)
      | none => (bodyFrom n text).map fun r => (c :: r.1, r.2)

/-- Reads what follows the opening quote. -/
def read (text : List Char) : Option (List Char × List Char) := rules.bodyFrom (text.length + 1) text

/-- A text that is in quotes what it is without: no quote unless it may be written twice, and no
backslash that takes something with it. -/
def Plain : List Char → Prop
  | [] => True
  | c :: text =>
    (if c = q then rules.doubled = true
      else c = '\\' → ∀ e ∈ rules.escapes, ∃ d ∈ text.head?, d ∈ e.kept) ∧ Plain text

instance decidablePlain : (text : List Char) → Decidable (rules.Plain text)
  | [] => .isTrue trivial
  | c :: text =>
    haveI := decidablePlain text
    haveI : Decidable (∀ e ∈ rules.escapes, ∃ d ∈ text.head?, d ∈ e.kept) :=
      match rules.escapes, text.head? with
      | none, _ => .isTrue fun e he => absurd he (by simp)
      | some e, none => .isFalse fun h => by simpa using h e rfl
      | some e, some d => decidable_of_iff (d ∈ e.kept) (by simp)
    inferInstanceAs (Decidable (_ ∧ _))

variable {rules}

/-- Without escapes every text is plain. -/
theorem plain_of_escapes_none (hdoubled : rules.doubled = true) (hescapes : rules.escapes = none)
    (text : List Char) : rules.Plain text := by
  induction text with
  | nil => trivial
  | cons c text ih =>
    refine ⟨?_, ih⟩
    split
    · exact hdoubled
    · intro _ e he
      rw [hescapes] at he
      cases he

/-- A text without backslashes is plain. -/
theorem plain_of_not_mem (hdoubled : rules.doubled = true) {text : List Char} (h : '\\' ∉ text) :
    rules.Plain text := by
  induction text with
  | nil => trivial
  | cons c text ih =>
    obtain ⟨hc, htext⟩ := not_or.mp (mt List.mem_cons.mpr h)
    refine ⟨?_, ih htext⟩
    split
    · exact hdoubled
    · exact fun heq => absurd heq.symm hc

/-! ### What is plain is read -/

theorem bodyFrom_quote {n : Nat} {text : List Char} (h : text.head? ≠ some q) :
    rules.bodyFrom (n + 1) (q :: text) = some ([], text) := by
  rw [bodyFrom, if_pos rfl, if_neg (fun hboth => h hboth.2)]

theorem bodyFrom_doubled (h : rules.doubled = true) (n : Nat) (text : List Char) :
    rules.bodyFrom (n + 1) (q :: q :: text) =
      (rules.bodyFrom n text).map fun r => (q :: r.1, r.2) := by
  rw [bodyFrom, if_pos rfl, if_pos ⟨h, rfl⟩]
  rfl

theorem bodyFrom_char {c : Char} (hq : c ≠ q) (hescapes : c = '\\' → rules.escapes = none) (n : Nat)
    (text : List Char) :
    rules.bodyFrom (n + 1) (c :: text) = (rules.bodyFrom n text).map fun r => (c :: r.1, r.2) := by
  rw [bodyFrom, if_neg hq]
  by_cases hc : c = '\\'
  · rw [if_pos hc, hescapes hc]
  · rw [if_neg hc]

theorem bodyFrom_escape {e : Escapes q} (hq : '\\' ≠ q) (hescapes : rules.escapes = some e) (n : Nat)
    (text : List Char) :
    rules.bodyFrom (n + 1) ('\\' :: text) = (do
      let (denoted, rest) ← e.read text
      let (body, rest) ← rules.bodyFrom n rest
      return (denoted ++ body, rest)) := by
  rw [bodyFrom, if_neg hq, if_pos rfl, hescapes]

theorem bodyFrom_plain {text rest : List Char} (h : rules.Plain text) (hrest : rest.head? ≠ some q)
    {n : Nat} (hn : (double q text).length < n) :
    rules.bodyFrom n (double q text ++ q :: rest) = some (text, rest) := by
  induction hlength : text.length using Nat.strong_induction_on generalizing text n with
  | _ length ih =>
  obtain ⟨n, rfl⟩ : ∃ m, n = m + 1 := ⟨n - 1, by omega⟩
  cases text with
  | nil => exact bodyFrom_quote hrest
  | cons c text =>
    simp only [List.length_cons] at hlength
    obtain ⟨hc, htail⟩ := h
    by_cases hq : c = q
    · subst hq
      rw [if_pos rfl] at hc
      rw [double_cons, if_pos rfl, List.append_assoc, List.cons_append, List.cons_append,
        List.nil_append, bodyFrom_doubled hc]
      rw [double_cons, if_pos rfl, List.length_append] at hn
      simp only [List.length_cons, List.length_nil] at hn
      rw [ih text.length (by omega) htail (by omega) rfl]
      rfl
    · rw [if_neg hq] at hc
      rw [double_cons, if_neg hq, List.append_assoc, List.cons_append, List.nil_append]
      rw [double_cons, if_neg hq, List.length_append] at hn
      simp only [List.length_cons, List.length_nil] at hn
      cases hescapes : if c = '\\' then rules.escapes else none with
      | none =>
        have hnone : c = '\\' → rules.escapes = none := by
          intro hslash
          rwa [if_pos hslash] at hescapes
        rw [bodyFrom_char hq hnone, ih text.length (by omega) htail (by omega) rfl]
        rfl
      | some e =>
        split at hescapes
        · next hslash =>
          subst hslash
          obtain ⟨d, hd, hkept⟩ := hc rfl e (by rw [hescapes]; rfl)
          obtain ⟨text, rfl⟩ : ∃ tail, text = d :: tail := by
            cases text with
            | nil => cases hd
            | cons a tail => exact ⟨tail, by rw [Option.some.inj hd]⟩
          have hdq : d ≠ q := fun heq => e.kept_quote (heq ▸ hkept)
          rw [double_cons, if_neg hdq, List.append_assoc, List.cons_append, List.nil_append,
            bodyFrom_escape hq hescapes, Escapes.read_kept hkept]
          rw [double_cons, if_neg hdq, List.length_append] at hn
          simp only [List.length_cons, List.length_nil] at hn hlength
          show (do
            let r ← rules.bodyFrom n (double q text ++ q :: rest)
            return ('\\' :: d :: r.1, r.2)) = _
          rw [ih text.length (by omega) htail.2 (by omega) rfl]
          rfl
        · cases hescapes

/-! ### What is read is plain -/

theorem bodyFrom_half {text body rest : List Char} {n : Nat}
    (h : rules.bodyFrom n (q :: (double q text ++ [q])) = some (body, rest)) : rest ≠ [] := by
  induction text generalizing n body with
  | nil =>
    cases n with
    | zero => cases h
    | succ n =>
      rw [double_nil, List.nil_append, bodyFrom, if_pos rfl] at h
      split at h
      · rw [List.tail_cons] at h
        cases n with
        | zero => cases h
        | succ n => cases h
      · obtain ⟨-, rfl⟩ := Prod.mk.inj (Option.some.inj h)
        simp
  | cons c text ih =>
    cases n with
    | zero => cases h
    | succ n =>
      rw [bodyFrom, if_pos rfl] at h
      split at h
      · next hboth =>
        by_cases hq : c = q
        · subst hq
          rw [double_cons, if_pos rfl, List.append_assoc, List.cons_append, List.cons_append,
            List.nil_append, List.tail_cons] at h
          obtain ⟨r, hr, heq⟩ := Option.map_eq_some_iff.mp h
          obtain ⟨-, rfl⟩ := Prod.mk.inj heq
          exact ih hr
        · have hhead := hboth.2
          rw [double_cons, if_neg hq] at hhead
          exact absurd (Option.some.inj hhead) hq
      · obtain ⟨-, rfl⟩ := Prod.mk.inj (Option.some.inj h)
        simp

theorem double_split {used text rest : List Char} (hused : q ∉ used)
    (h : used ++ rest = double q text ++ [q]) :
    ∃ after, text = used ++ after ∧ rest = double q after ++ [q] := by
  induction used generalizing text with
  | nil => exact ⟨text, rfl, h⟩
  | cons u used ih =>
    obtain ⟨hu, hused⟩ := not_or.mp (mt List.mem_cons.mpr hused)
    cases text with
    | nil => exact absurd (List.cons.inj h).1.symm hu
    | cons c text =>
      rw [double_cons] at h
      split at h
      · exact absurd (List.cons.inj h).1.symm hu
      · obtain ⟨rfl, htail⟩ := List.cons.inj h
        obtain ⟨after, rfl, hrest⟩ := ih hused htail
        exact ⟨after, rfl, hrest⟩

/-- A text that is read without a rest has lost characters, or was plain. -/
theorem shorter_or_plain {n : Nat} {text body : List Char}
    (h : rules.bodyFrom n (double q text ++ [q]) = some (body, [])) :
    body.length < text.length ∨ body.length = text.length ∧ rules.Plain text := by
  induction n generalizing text body with
  | zero => cases h
  | succ n ih =>
    cases text with
    | nil =>
      rw [double_nil, List.nil_append, bodyFrom_quote (by simp)] at h
      obtain ⟨rfl, -⟩ := Prod.mk.inj (Option.some.inj h)
      exact .inr ⟨rfl, trivial⟩
    | cons c text =>
      -- One character was read as it stands.
      have hchar : ∀ {r : List Char × List Char},
          rules.bodyFrom n (double q text ++ [q]) = some r → (c :: r.1, r.2) = (body, []) →
          (if c = q then rules.doubled = true
            else c = '\\' → ∀ e ∈ rules.escapes, ∃ d ∈ text.head?, d ∈ e.kept) →
          body.length < (c :: text).length ∨
            body.length = (c :: text).length ∧ rules.Plain (c :: text) := by
        rintro ⟨tail, rest⟩ hr heq hc
        obtain ⟨rfl, rfl⟩ := Prod.mk.inj heq
        simp only [List.length_cons]
        rcases ih hr with hshort | ⟨hlength, hplain⟩
        · exact .inl (by omega)
        · exact .inr ⟨by omega, hc, hplain⟩
      by_cases hq : c = q
      · subst hq
        rw [double_cons, if_pos rfl, List.append_assoc, List.cons_append, List.cons_append,
          List.nil_append] at h
        by_cases hdoubled : rules.doubled = true
        · rw [bodyFrom_doubled hdoubled] at h
          obtain ⟨r, hr, heq⟩ := Option.map_eq_some_iff.mp h
          exact hchar hr heq (by rw [if_pos rfl]; exact hdoubled)
        · rw [bodyFrom, if_pos rfl, if_neg (fun hboth => hdoubled hboth.1)] at h
          cases h
      · rw [double_cons, if_neg hq, List.append_assoc, List.cons_append, List.nil_append] at h
        cases hescapes : if c = '\\' then rules.escapes else none with
        | none =>
          have hnone : c = '\\' → rules.escapes = none := by
            intro hslash
            rwa [if_pos hslash] at hescapes
          rw [bodyFrom_char hq hnone] at h
          obtain ⟨r, hr, heq⟩ := Option.map_eq_some_iff.mp h
          refine hchar hr heq ?_
          rw [if_neg hq]
          intro hslash e he
          rw [hnone hslash] at he
          cases he
        | some e =>
          split at hescapes
          · next hslash =>
            subst hslash
            rw [bodyFrom_escape hq hescapes] at h
            obtain ⟨⟨denoted, rest⟩, hread, h⟩ := Option.bind_eq_some_iff.mp h
            obtain ⟨⟨tail, rest'⟩, hr, heq⟩ := Option.bind_eq_some_iff.mp h
            obtain ⟨rfl, rfl⟩ := Prod.mk.inj (Option.some.inj heq)
            obtain ⟨used, htext, hne, hquote, hdenoted⟩ := Escapes.read_some hread
            rcases hquote with rfl | hquote
            · -- The escape took a quote, so what is left is off by one.
              rw [List.singleton_append] at htext
              cases text with
              | nil =>
                obtain ⟨-, rfl⟩ := List.cons.inj htext
                cases n with
                | zero => cases hr
                | succ n => cases hr
              | cons c text =>
                rw [double_cons] at htext
                split at htext
                · obtain ⟨-, rfl⟩ := List.cons.inj htext
                  exact absurd rfl (bodyFrom_half hr)
                · next hc => exact absurd (List.cons.inj htext).1 hc
            · obtain ⟨after, rfl, rfl⟩ := double_split hquote htext.symm
              have hpos : 0 < used.length := List.length_pos_iff.mpr hne
              simp only [List.length_cons, List.length_append]
              rcases hdenoted with ⟨d, hkept, rfl, rfl⟩ | hdenoted
              · simp only [List.length_cons, List.length_nil]
                rcases ih hr with hshort | ⟨hlength, hplain⟩
                · exact .inl (by omega)
                · have hdq : d ≠ q := fun heq => e.kept_quote (heq ▸ hkept)
                  have hds : d ≠ '\\' := fun heq => e.kept_backslash (heq ▸ hkept)
                  refine .inr ⟨by omega, ?_, ?_, hplain⟩
                  · rw [if_neg hq]
                    intro _ e' he'
                    rw [hescapes] at he'
                    obtain rfl := Option.some.inj he'
                    exact ⟨d, rfl, hkept⟩
                  · rw [if_neg hdq]
                    exact fun heq => absurd heq hds
              · have hle : tail.length ≤ after.length := by
                  rcases ih hr with hshort | ⟨hlength, -⟩
                  · exact hshort.le
                  · exact hlength.le
                exact .inl (by omega)
          · cases hescapes

theorem bodyFrom_suffix {n : Nat} {text body rest : List Char}
    (h : rules.bodyFrom n text = some (body, rest)) : rest <:+ text := by
  induction n generalizing text body with
  | zero => cases h
  | succ n ih =>
    cases text with
    | nil => cases h
    | cons c text =>
      rw [bodyFrom] at h
      split at h
      · split at h
        · obtain ⟨r, hr, heq⟩ := Option.map_eq_some_iff.mp h
          obtain ⟨-, rfl⟩ := Prod.mk.inj heq
          exact (ih hr).trans ((List.tail_suffix text).trans (List.suffix_cons c text))
        · obtain ⟨-, rfl⟩ := Prod.mk.inj (Option.some.inj h)
          exact List.suffix_cons c _
      · split at h
        · obtain ⟨⟨denoted, after⟩, hread, h⟩ := Option.bind_eq_some_iff.mp h
          obtain ⟨⟨tail, rest'⟩, hr, heq⟩ := Option.bind_eq_some_iff.mp h
          obtain ⟨-, rfl⟩ := Prod.mk.inj (Option.some.inj heq)
          obtain ⟨used, rfl, -⟩ := Escapes.read_some hread
          exact (ih hr).trans ((List.suffix_append used after).trans (List.suffix_cons c _))
        · obtain ⟨r, hr, heq⟩ := Option.map_eq_some_iff.mp h
          obtain ⟨-, rfl⟩ := Prod.mk.inj heq
          exact (ih hr).trans (List.suffix_cons c text)

/-- **A text is read back exactly when it is plain.** -/
theorem read_quote_iff {text : List Char} :
    rules.read (double q text ++ [q]) = some (text, []) ↔ rules.Plain text := by
  constructor
  · intro h
    rcases shorter_or_plain h with hshort | ⟨-, hplain⟩
    · omega
    · exact hplain
  · intro h
    exact bodyFrom_plain h (by simp) (by rw [List.length_append]; omega)

theorem read_plain {text rest : List Char} (h : rules.Plain text) (hrest : rest.head? ≠ some q) :
    rules.read (double q text ++ q :: rest) = some (text, rest) :=
  bodyFrom_plain h hrest (by rw [List.length_append]; omega)

end Quoting

/-! ## Clauses -/

/-- What stands in a clause. -/
inductive Lexeme where
  | text (chars : List Char)
  | name (chars : List Char)
  | word (chars : List Char)
  | mark (c : Char)
  deriving DecidableEq, Repr

/-- How a language tells these apart. -/
structure Lexis where
  /-- Opens a text and ends it. -/
  quote : Char
  texts : Quoting quote
  openName : Char
  closeName : Char
  marks : List Char
  openName_quote : openName ≠ quote := by decide
  /-- What stands between words opens and ends nothing. -/
  between : ∀ c ∈ ' ' :: marks, c ≠ quote ∧ c ≠ openName ∧ c ≠ closeName := by simp
  blank_marks : ' ' ∉ marks := by decide

namespace Lexis

variable (x : Lexis)

/-- A quote inside a name is written twice. -/
def names : Quoting x.closeName := {}

def isWord (c : Char) : Bool := c ≠ x.quote && c ≠ x.openName && c ≠ ' ' && c ∉ x.marks

def lexFrom : Nat → List Char → Option (List Lexeme)
  | 0, _ => none
  | _ + 1, [] => some []
  | n + 1, c :: text =>
    if c = x.quote then do
      let (chars, rest) ← x.texts.read text
      (lexFrom n rest).map (.text chars :: ·)
    else if c = x.openName then do
      let (chars, rest) ← x.names.read text
      (lexFrom n rest).map (.name chars :: ·)
    else if c = ' ' then lexFrom n text
    else if c ∈ x.marks then (lexFrom n text).map (.mark c :: ·)
    else
      (lexFrom n (text.dropWhile x.isWord)).map (.word (c :: text.takeWhile x.isWord) :: ·)

/-- What stands in the text; `none` when something in quotes does not end. -/
def lex (text : List Char) : Option (List Lexeme) := x.lexFrom (text.length + 1) text

/-- The text reads as these. -/
def Lexes (text : List Char) (items : List Lexeme) : Prop :=
  ∀ n, text.length < n → x.lexFrom n text = some items

variable {x} {text : List Char} {items : List Lexeme}

theorem Lexes.lex_eq (h : x.Lexes text items) : x.lex text = some items := h _ (Nat.lt_succ_self _)

theorem lexes_nil : x.Lexes [] [] := by
  intro n hn
  obtain ⟨n, rfl⟩ : ∃ m, n = m + 1 := ⟨n - 1, by omega⟩
  rfl

/-- A blank stands for nothing. -/
theorem Lexes.blank (h : x.Lexes text items) : x.Lexes (' ' :: text) items := by
  obtain ⟨hquote, hname, -⟩ := x.between ' ' List.mem_cons_self
  intro n hn
  rw [List.length_cons] at hn
  obtain ⟨n, rfl⟩ : ∃ m, n = m + 1 := ⟨n - 1, by omega⟩
  rw [lexFrom, if_neg hquote, if_neg hname, if_pos rfl]
  exact h n (by omega)

theorem Lexes.mark (h : x.Lexes text items) {c : Char} (hc : c ∈ x.marks) :
    x.Lexes (c :: text) (.mark c :: items) := by
  obtain ⟨hquote, hname, -⟩ := x.between c (List.mem_cons_of_mem _ hc)
  have hblank : c ≠ ' ' := fun heq => x.blank_marks (heq ▸ hc)
  intro n hn
  rw [List.length_cons] at hn
  obtain ⟨n, rfl⟩ : ∃ m, n = m + 1 := ⟨n - 1, by omega⟩
  rw [lexFrom, if_neg hquote, if_neg hname, if_neg hblank, if_pos hc, h n (by omega)]
  rfl

/-- A word goes on until something else begins. -/
theorem Lexes.word (h : x.Lexes text items) {chars : List Char} (hne : chars ≠ [])
    (hchars : ∀ c ∈ chars, x.isWord c) (hnext : text.head?.all (fun c => !x.isWord c)) :
    x.Lexes (chars ++ text) (.word chars :: items) := by
  intro n hn
  obtain ⟨c, chars, rfl⟩ := List.exists_cons_of_ne_nil hne
  rw [List.length_append, List.length_cons] at hn
  obtain ⟨n, rfl⟩ : ∃ m, n = m + 1 := ⟨n - 1, by omega⟩
  have hc := hchars c List.mem_cons_self
  simp only [isWord, Bool.and_eq_true, decide_eq_true_eq] at hc
  obtain ⟨⟨⟨hquote, hname⟩, hblank⟩, hmark⟩ := hc
  have htail : ∀ d ∈ chars, x.isWord d := fun d hd => hchars d (List.mem_cons_of_mem _ hd)
  have htake : text.takeWhile x.isWord = [] := by
    cases text with
    | nil => rfl
    | cons d text => rw [List.takeWhile_cons_of_neg (by simpa using hnext)]
  have hdrop : text.dropWhile x.isWord = text := by
    cases text with
    | nil => rfl
    | cons d text => rw [List.dropWhile_cons_of_neg (by simpa using hnext)]
  rw [List.cons_append, lexFrom, if_neg hquote, if_neg hname, if_neg hblank, if_neg hmark,
    List.takeWhile_append_of_pos htail, List.dropWhile_append_of_pos htail, htake, hdrop,
    List.append_nil, h n (by omega)]
  rfl

/-- A plain text in quotes is one text. -/
theorem Lexes.quoted (h : x.Lexes text items) {chars : List Char} (hplain : x.texts.Plain chars)
    (hnext : text.head? ≠ some x.quote) :
    x.Lexes (Infra.quote x.quote chars ++ text) (.text chars :: items) := by
  intro n hn
  simp only [Infra.quote, List.cons_append, List.append_assoc, List.nil_append, List.length_cons,
    List.length_append] at hn ⊢
  obtain ⟨n, rfl⟩ : ∃ m, n = m + 1 := ⟨n - 1, by omega⟩
  rw [lexFrom, if_pos rfl, Quoting.read_plain hplain hnext]
  show (x.lexFrom n text).map (Lexeme.text chars :: ·) = _
  rw [h n (by omega)]
  rfl

theorem plain_name (chars : List Char) : x.names.Plain chars :=
  Quoting.plain_of_escapes_none rfl rfl chars

/-- A name in quotes is one name. -/
theorem Lexes.name (h : x.Lexes text items) (chars : List Char)
    (hnext : text.head? ≠ some x.closeName) :
    x.Lexes (x.openName :: (double x.closeName chars ++ x.closeName :: text))
      (.name chars :: items) := by
  intro n hn
  simp only [List.length_cons, List.length_append] at hn
  obtain ⟨n, rfl⟩ : ∃ m, n = m + 1 := ⟨n - 1, by omega⟩
  rw [lexFrom, if_neg x.openName_quote, if_pos rfl, Quoting.read_plain (plain_name chars) hnext]
  show (x.lexFrom n text).map (Lexeme.name chars :: ·) = _
  rw [h n (by omega)]
  rfl

/-- Only blanks read as nothing. -/
theorem blank_of_lexFrom {n : Nat} (h : x.lexFrom n text = some []) : ∀ c ∈ text, c = ' ' := by
  induction n generalizing text with
  | zero => cases h
  | succ n ih =>
    cases text with
    | nil => simp
    | cons c text =>
      rw [lexFrom] at h
      split at h
      · obtain ⟨r, -, h⟩ := Option.bind_eq_some_iff.mp h
        obtain ⟨items, -, heq⟩ := Option.map_eq_some_iff.mp h
        cases heq
      · split at h
        · obtain ⟨r, -, h⟩ := Option.bind_eq_some_iff.mp h
          obtain ⟨items, -, heq⟩ := Option.map_eq_some_iff.mp h
          cases heq
        · split at h
          · next hblank =>
            intro d hd
            rcases List.mem_cons.mp hd with rfl | hd
            · exact hblank
            · exact ih h d hd
          · split at h
            · obtain ⟨items, -, heq⟩ := Option.map_eq_some_iff.mp h
              cases heq
            · obtain ⟨items, -, heq⟩ := Option.map_eq_some_iff.mp h
              cases heq

/-- **A text in quotes reads as that text exactly when it is plain.** -/
theorem lex_quote_iff {chars : List Char} :
    x.lex (Infra.quote x.quote chars) = some [.text chars] ↔ x.texts.Plain chars := by
  constructor
  · intro h
    unfold lex at h
    rw [Infra.quote, lexFrom, if_pos rfl] at h
    obtain ⟨⟨body, rest⟩, hread, h⟩ := Option.bind_eq_some_iff.mp h
    obtain ⟨items, hitems, heq⟩ := Option.map_eq_some_iff.mp h
    obtain ⟨hbody, rfl⟩ := List.cons.inj heq
    obtain rfl := Lexeme.text.inj hbody
    obtain rfl : rest = [] := by
      -- What is left ends with the quote that ends the whole.
      by_contra hne
      obtain ⟨before, hsuffix⟩ := Quoting.bodyFrom_suffix hread
      have hlast := congrArg List.getLast? hsuffix
      rw [List.getLast?_append_of_ne_nil _ hne, List.getLast?_concat] at hlast
      have hblank := blank_of_lexFrom hitems _ (List.mem_of_getLast? hlast)
      exact (x.between ' ' List.mem_cons_self).1 hblank.symm
    exact Quoting.read_quote_iff.mp hread
  · intro h
    have hlexes := (lexes_nil (x := x)).quoted h (by simp)
    rw [List.append_nil] at hlexes
    exact hlexes.lex_eq

/-! ### What stands between blanks and marks -/

/-- The text begins with a blank or a mark, when it has a beginning. -/
def Ends (x : Lexis) (text : List Char) : Prop := ∀ c ∈ text.head?, c ∈ ' ' :: x.marks

/-- The chunk reads as these wherever it ends. -/
def Reads (x : Lexis) (chunk : List Char) (items : List Lexeme) : Prop :=
  ∀ text rest, x.Ends text → x.Lexes text rest → x.Lexes (chunk ++ text) (items ++ rest)

theorem ends_nil : x.Ends [] := by
  intro c hc
  cases hc

theorem ends_blank : x.Ends (' ' :: text) := by
  intro c hc
  obtain rfl := Option.some.inj hc
  exact List.mem_cons_self

theorem ends_mark {c : Char} (h : c ∈ x.marks) : x.Ends (c :: text) := by
  intro d hd
  obtain rfl := Option.some.inj hd
  exact List.mem_cons_of_mem _ h

theorem Ends.ne_quote (h : x.Ends text) : text.head? ≠ some x.quote :=
  fun hq => (x.between _ (h _ hq)).1 rfl

theorem Ends.ne_closeName (h : x.Ends text) : text.head? ≠ some x.closeName :=
  fun hq => (x.between _ (h _ hq)).2.2 rfl

theorem Ends.not_word (h : x.Ends text) : text.head?.all (fun c => !x.isWord c) := by
  cases text with
  | nil => rfl
  | cons c text =>
    have hc := h c rfl
    rcases List.mem_cons.mp hc with rfl | hmark
    · simp [isWord]
    · simp [isWord, hmark]

theorem Reads.lexes {chunk : List Char} (h : x.Reads chunk items) : x.Lexes chunk items := by
  have hlexes := h [] [] ends_nil lexes_nil
  rwa [List.append_nil, List.append_nil] at hlexes

theorem reads_word {chars : List Char} (hne : chars ≠ []) (h : ∀ c ∈ chars, x.isWord c) :
    x.Reads chars [.word chars] :=
  fun _ _ hends hlexes => hlexes.word hne h hends.not_word

theorem reads_quoted {chars : List Char} (h : x.texts.Plain chars) :
    x.Reads (Infra.quote x.quote chars) [.text chars] :=
  fun _ _ hends hlexes => hlexes.quoted h hends.ne_quote

theorem reads_name (chars : List Char) :
    x.Reads (x.openName :: (double x.closeName chars ++ [x.closeName])) [.name chars] := by
  intro text rest hends hlexes
  have hname := hlexes.name chars hends.ne_closeName
  simpa using hname

variable {a b : List Char} {as bs : List Lexeme}

/-- A word right before a name. -/
theorem Reads.after_word (hb : x.Reads b bs) (hhead : b.head? = some x.openName) {chars : List Char}
    (hne : chars ≠ []) (h : ∀ c ∈ chars, x.isWord c) : x.Reads (chars ++ b) (.word chars :: bs) := by
  intro text rest hends hlexes
  have hnext : (b ++ text).head?.all (fun c => !x.isWord c) := by
    rw [List.head?_append, hhead]
    simp [isWord]
  rw [List.append_assoc, List.cons_append]
  exact (hb _ _ hends hlexes).word hne h hnext

/-- A name right before something else. -/
theorem Reads.after_name (hb : x.Reads b bs) {c : Char} (hhead : b.head? = some c)
    (hc : c ≠ x.closeName) (chars : List Char) :
    x.Reads (x.openName :: (double x.closeName chars ++ x.closeName :: b)) (.name chars :: bs) := by
  intro text rest hends hlexes
  have hnext : (b ++ text).head? ≠ some x.closeName := by
    rw [List.head?_append, hhead]
    exact fun heq => hc (Option.some.inj heq)
  have hname := (hb _ _ hends hlexes).name chars hnext
  simpa using hname

theorem Reads.blank (ha : x.Reads a as) (hb : x.Reads b bs) :
    x.Reads (a ++ ' ' :: b) (as ++ bs) := by
  intro text rest hends hlexes
  rw [List.append_assoc, List.append_assoc, List.cons_append]
  exact ha _ _ ends_blank (hb _ _ hends hlexes).blank

/-- A comma and a blank. -/
theorem Reads.mark_blank (ha : x.Reads a as) {c : Char} (hc : c ∈ x.marks) (hb : x.Reads b bs) :
    x.Reads (a ++ c :: ' ' :: b) (as ++ .mark c :: bs) := by
  intro text rest hends hlexes
  rw [List.append_assoc, List.append_assoc, List.cons_append, List.cons_append, List.cons_append]
  exact ha _ _ (ends_mark hc) ((hb _ _ hends hlexes).blank.mark hc)

/-- Parentheses. -/
theorem Reads.enclosed (ha : x.Reads a as) {c d : Char} (hc : c ∈ x.marks) (hd : d ∈ x.marks) :
    x.Reads (c :: (a ++ [d])) (.mark c :: (as ++ [.mark d])) := by
  intro text rest hends hlexes
  have hlast : x.Lexes (d :: text) (.mark d :: rest) := hlexes.mark hd
  have hinner := (ha _ _ (ends_mark hd) hlast).mark hc
  simpa using hinner

end Lexis

end Infra
