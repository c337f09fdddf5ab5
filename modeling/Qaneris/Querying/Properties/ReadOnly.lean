import Mathlib.Data.List.TakeWhile
import Qaneris.Infra.Tokens
import Qaneris.Querying.ReadOnly

/-!
# What the gate sees of a text that is made of tokens

* `strip_render` — the quoted names are blanked, and all else is left
* `mentions_blanked` — no forbidden operation is found where no word is one
-/

namespace Querying

open Infra (Token render)

/-! ## Blanking -/

section Strip

/-- What follows a place does not depend on what stands before it. -/
theorem scan_before (region : Region) (before before' text : List Char) :
    Infra.scan stripStep region before text = Infra.scan stripStep region before' text := by
  induction text generalizing region before before' with
  | nil => rfl
  | cons c after ih =>
    rw [Infra.scan_cons, Infra.scan_cons]
    exact congrArg _ (ih _ _ _)

def stripFrom (region : Region) (text : List Char) : List Char := Infra.scan stripStep region [] text

theorem stripFrom_cons (region : Region) (c : Char) (after : List Char) :
    stripFrom region (c :: after) =
      (stripStep region [] c after).1 :: stripFrom (stripStep region [] c after).2 after := by
  rw [stripFrom, Infra.scan_cons, scan_before _ _ []]
  rfl

/-- A character that opens nothing. -/
def Inert (c : Char) : Prop := c ≠ '/' ∧ c ≠ '-' ∧ isQuote c = false ∧ c ≠ '['

instance (c : Char) : Decidable (Inert c) := inferInstanceAs (Decidable (_ ∧ _))

theorem Inert.of_isWord {c : Char} (h : Infra.isWord c = true) : Inert c := by
  refine ⟨?_, ?_, ?_, ?_⟩
  · rintro rfl
    exact absurd h (by decide)
  · rintro rfl
    exact absurd h (by decide)
  · simp only [isQuote, Bool.or_eq_false_iff, decide_eq_false_iff_not]
    refine ⟨⟨?_, ?_⟩, ?_⟩ <;> rintro rfl <;> exact absurd h (by decide)
  · rintro rfl
    exact absurd h (by decide)

theorem strip_inert {chunk : List Char} (h : ∀ c ∈ chunk, Inert c) (rest : List Char) :
    stripFrom .code (chunk ++ rest) = chunk ++ stripFrom .code rest := by
  induction chunk with
  | nil => rfl
  | cons c chunk ih =>
    obtain ⟨hslash, hdash, hquote, hbracket⟩ := h c List.mem_cons_self
    have hstep : stripStep .code [] c (chunk ++ rest) = (c, .code) := by
      simp [stripStep, hslash, hdash, hquote, hbracket]
    rw [List.cons_append, stripFrom_cons, hstep, ih fun d hd => h d (List.mem_cons_of_mem _ hd)]
    rfl

/-- A quoted name is blanked up to the quote that ends it. -/
theorem strip_quoted {q : Char} (text : List Char) {rest : List Char} (hrest : rest.head? ≠ some q) :
    stripFrom (.quoted q) (Infra.double q text ++ q :: rest) =
      (Infra.double q text).map blank ++ blank q :: stripFrom .code rest := by
  induction text with
  | nil =>
    have hstep : stripStep (.quoted q) [] q rest = (blank q, .code) := by simp [stripStep, hrest]
    rw [Infra.double_nil, List.nil_append, stripFrom_cons, hstep]
    rfl
  | cons c text ih =>
    by_cases hc : c = q
    · subst hc
      have hfirst : stripStep (.quoted c) [] c (c :: (Infra.double c text ++ c :: rest)) =
          (blank c, .second (.quoted c)) := by simp [stripStep]
      rw [Infra.double_cons, if_pos rfl, List.append_assoc, List.cons_append, List.cons_append,
        List.nil_append, stripFrom_cons, hfirst, stripFrom_cons]
      simp only [stripStep]
      rw [ih]
      rfl
    · have hstep : stripStep (.quoted q) [] c (Infra.double q text ++ q :: rest) =
          (blank c, .quoted q) := by simp [stripStep, hc]
      rw [Infra.double_cons, if_neg hc, List.append_assoc, List.cons_append, List.nil_append,
        stripFrom_cons, hstep, ih]
      rfl

/-- What is left of a token. -/
def blankToken (q : Char) : Token → List Char
  | .quoted text => (Infra.quote q text).map blank
  | t => t.text q

def blanked (q : Char) (ts : List Token) : List Char := ts.flatMap (blankToken q)

/-- The first character of a text is the first of its first token. -/
theorem head_render {q : Char} {ts : List Token} (hword : Infra.isWord q = false)
    (hclean : Infra.Clean Infra.isWord q ts) (hfirst : ∀ text, ts.head? ≠ some (.quoted text)) :
    (render q ts).head? ≠ some q := by
  cases ts with
  | nil => simp
  | cons t ts =>
    have hfits := hclean.fits t List.mem_cons_self
    cases t with
    | quoted text => exact absurd rfl (hfirst text)
    | mark c =>
      intro h
      exact hfits.2 (by simpa [Token.text] using h)
    | word chars =>
      obtain ⟨c, cs, rfl⟩ := List.exists_cons_of_ne_nil hfits.1
      intro h
      obtain rfl : c = q := by simpa [Token.text] using h
      rw [hfits.2 c List.mem_cons_self] at hword
      cases hword

/-- **Of a text that is made of tokens, the quoted names are blanked and all else is left.** -/
theorem strip_render {q : Char} {ts : List Token} (hq : isQuote q = true)
    (hword : Infra.isWord q = false) (hclean : Infra.Clean Infra.isWord q ts)
    (hmarks : ∀ c, .mark c ∈ ts → Inert c) : stripForSafety (render q ts) = blanked q ts := by
  show stripFrom .code (render q ts) = blanked q ts
  induction ts with
  | nil => rfl
  | cons t ts ih =>
    have hrest := ih hclean.tail fun c hc => hmarks c (List.mem_cons_of_mem _ hc)
    rw [Infra.render_cons, blanked, List.flatMap_cons]
    cases t with
    | word chars =>
      have hfits := hclean.fits _ List.mem_cons_self
      rw [Token.text, strip_inert fun c hc => .of_isWord (hfits.2 c hc), hrest]
      rfl
    | mark c =>
      have hinert := hmarks c List.mem_cons_self
      rw [Token.text, strip_inert (by simpa using hinert), hrest]
      rfl
    | quoted text =>
      have hfirst : ∀ text', ts.head? ≠ some (.quoted text') := by
        intro text' h
        have hapart := hclean.apart
        cases ts with
        | nil => cases h
        | cons t' ts =>
          obtain rfl : t' = .quoted text' := Option.some.inj h
          exact (List.isChain_cons_cons.mp hapart).1
      have hhead := head_render hword hclean.tail hfirst
      have hopen : stripStep .code [] q (Infra.double q text ++ q :: render q ts) =
          (blank q, .quoted q) := by
        have hslash : q ≠ '/' := by rintro rfl; cases hq
        have hdash : q ≠ '-' := by rintro rfl; cases hq
        simp [stripStep, hslash, hdash, hq]
      have htext : (Token.quoted text).text q ++ render q ts =
          q :: (Infra.double q text ++ q :: render q ts) := by
        simp [Token.text, Infra.quote]
      rw [htext, stripFrom_cons, hopen, strip_quoted text hhead, hrest]
      simp [blankToken, Infra.quote, blanked]

end Strip

/-! ## Looking for operations -/

section Search

variable {words : List String}

/-- Words of small letters. -/
def Lowercase (words : List String) : Prop :=
  ∀ word ∈ words, word.toList ≠ [] ∧ ∀ c ∈ word.toList, Infra.isAsciiLower c

instance (words : List String) : Decidable (Lowercase words) :=
  haveI (word : String) : Decidable (∀ c ∈ word.toList, Infra.isAsciiLower c) :=
    List.decidableBAll _ word.toList
  inferInstanceAs (Decidable (∀ word ∈ words, _))

theorem isWord_of_isAsciiLower {c : Char} (h : Infra.isAsciiLower c = true) :
    Infra.isWord c = true := by
  have hlt : c.toNat < 0x80 := by
    simp only [Infra.isAsciiLower, Bool.and_eq_true, decide_eq_true_eq] at h
    have hz : c.toNat ≤ 'z'.toNat := h.2
    exact Nat.lt_of_le_of_lt hz (by decide)
  simp [Infra.isWord, Infra.isAlnum, hlt, h]

/-- What matches a small letter is a character of a word. -/
theorem isWord_of_ignoreCaseEq {p c : Char} (hp : Infra.isAsciiLower p = true)
    (h : Infra.ignoreCaseEq p c = true) : Infra.isWord c = true := by
  have hfar : ∀ n, c.toNat = n → 0x80 ≤ n →
      (Infra.alnumRanges.any fun r => r.1 ≤ n && n ≤ r.2) = true → Infra.isWord c = true := by
    rintro n rfl hn hrange
    have hlt : ¬c.toNat < 0x80 := by omega
    simp only [Infra.isWord, Infra.isAlnum, hlt, if_false, hrange, Bool.or_true]
  simp only [Infra.ignoreCaseEq, Bool.or_eq_true, beq_iff_eq, Bool.and_eq_true] at h
  rcases h with (rfl | ⟨hupper, -⟩) | h
  · exact isWord_of_isAsciiLower hp
  · have hlt : c.toNat < 0x80 := by
      simp only [Infra.isAsciiUpper, Bool.and_eq_true, decide_eq_true_eq] at hupper
      have hz : c.toNat ≤ 'Z'.toNat := hupper.2
      exact Nat.lt_of_le_of_lt hz (by decide)
    simp [Infra.isWord, Infra.isAlnum, hlt, hupper]
  · split at h
    · simp only [Bool.or_eq_true, beq_iff_eq] at h
      rcases h with h | h
      · exact hfar _ h (by decide) (by decide)
      · exact hfar _ h (by decide) (by decide)
    · exact hfar _ (beq_iff_eq.mp h) (by decide) (by decide +kernel)
    · exact hfar _ (beq_iff_eq.mp h) (by decide) (by decide)
    · cases h

/-- A word is not found at a character that is of no word. -/
theorem wordAt_mark {word : String} {before : Option Char} {c : Char} {rest : List Char}
    (hword : word.toList ≠ [] ∧ ∀ c ∈ word.toList, Infra.isAsciiLower c)
    (hc : Infra.isWord c = false) : Infra.wordAt word.toList before (c :: rest) = false := by
  obtain ⟨p, ps, hps⟩ := List.exists_cons_of_ne_nil hword.1
  have hp : Infra.ignoreCaseEq p c = false := by
    rw [Bool.eq_false_iff]
    intro h
    have hlower := hword.2 p (by rw [hps]; exact List.mem_cons_self)
    rw [isWord_of_ignoreCaseEq hlower h] at hc
    cases hc
  simp [Infra.wordAt, hps, Infra.dropWord, hp]

/-- A word is not found where another one goes on. -/
theorem wordAt_inside {word : List Char} {b c : Char} {rest : List Char} (hb : Infra.isWord b = true)
    (hc : Infra.isWord c = true) : Infra.wordAt word (some b) (c :: rest) = false := by
  simp [Infra.wordAt, Infra.wordBoundary, hb, hc]

/-- At the beginning of a run of word characters, only the whole run is found. -/
theorem dropWord_run {word run rest : List Char} (hne : word ≠ [])
    (hlower : ∀ c ∈ word, Infra.isAsciiLower c) (hrun : ∀ c ∈ run, Infra.isWord c)
    (hrest : rest.head?.any Infra.isWord = false) {left : List Char}
    (h : Infra.dropWord word (run ++ rest) = some left)
    (hboundary : Infra.wordBoundary word.getLast? left.head? = true) :
    Infra.dropWord word run = some [] := by
  have hlast : word.getLast?.any Infra.isWord = true := by
    rw [List.getLast?_eq_some_getLast hne]
    exact isWord_of_isAsciiLower (hlower _ (List.getLast_mem hne))
  have hleft : left.head?.any Infra.isWord = false := by
    simp only [Infra.wordBoundary, hlast] at hboundary
    simpa using hboundary
  clear hboundary hlast
  induction word generalizing run with
  | nil => exact absurd rfl hne
  | cons p ps ih =>
    cases run with
    | nil =>
      cases rest with
      | nil => cases h
      | cons c rest =>
        rw [List.nil_append, Infra.dropWord] at h
        split at h
        · next hp =>
          have hc := isWord_of_ignoreCaseEq (hlower p List.mem_cons_self) hp
          simp [hc] at hrest
        · cases h
    | cons c run =>
      rw [List.cons_append, Infra.dropWord] at h
      rw [Infra.dropWord]
      split at h
      · next hp =>
        rw [if_pos hp]
        cases ps with
        | nil =>
          obtain rfl := Option.some.inj h
          cases run with
          | nil => rfl
          | cons d run =>
            have hd := hrun d (by simp)
            simp [hd] at hleft
        | cons p' ps =>
          exact ih (List.cons_ne_nil _ _) (fun d hd => hlower d (List.mem_cons_of_mem _ hd))
            (fun d hd => hrun d (List.mem_cons_of_mem _ hd)) h
      · cases h

/-- No word of the list is found in the text. -/
def Silent (words : List String) (before : Option Char) (text : List Char) : Prop :=
  Infra.searchFrom (fun before text => words.any fun word => Infra.wordAt word.toList before text)
    before text = false

theorem silent_cons {before : Option Char} {c : Char} {text : List Char} :
    Silent words before (c :: text) ↔
      (∀ word ∈ words, Infra.wordAt word.toList before (c :: text) = false) ∧
        Silent words (some c) text := by
  simp [Silent, Infra.searchFrom]

theorem silent_nil {before : Option Char} (hwords : Lowercase words) : Silent words before [] := by
  simp only [Silent, Infra.searchFrom, List.any_eq_false]
  intro word hword
  obtain ⟨p, ps, hps⟩ := List.exists_cons_of_ne_nil (hwords word hword).1
  simp [Infra.wordAt, hps, Infra.dropWord]

/-- Characters that are of no word are passed over. -/
theorem silent_marks (hwords : Lowercase words) {chunk text : List Char} {before : Option Char}
    (hchunk : ∀ c ∈ chunk, Infra.isWord c = false) (hne : chunk ≠ [])
    (htext : ∀ c, Infra.isWord c = false → Silent words (some c) text) :
    Silent words before (chunk ++ text) := by
  induction chunk generalizing before with
  | nil => exact absurd rfl hne
  | cons c chunk ih =>
    have hc := hchunk c List.mem_cons_self
    rw [List.cons_append, silent_cons]
    refine ⟨fun word hword => wordAt_mark (hwords word hword) hc, ?_⟩
    cases chunk with
    | nil => exact htext c hc
    | cons d chunk => exact ih (fun e he => hchunk e (List.mem_cons_of_mem _ he)) (List.cons_ne_nil _ _)

/-- The rest of a word is passed over. -/
theorem silent_inside {run text : List Char} {b : Char} (hb : Infra.isWord b = true)
    (hrun : ∀ c ∈ run, Infra.isWord c) (htext : ∀ c, Infra.isWord c → Silent words (some c) text) :
    Silent words (some b) (run ++ text) := by
  induction run generalizing b with
  | nil => exact htext b hb
  | cons c run ih =>
    have hc := hrun c List.mem_cons_self
    rw [List.cons_append, silent_cons]
    exact ⟨fun word _ => wordAt_inside hb hc, ih hc fun d hd => hrun d (List.mem_cons_of_mem _ hd)⟩

/-- A word that is none of the list is passed over. -/
theorem silent_word (hwords : Lowercase words) {run text : List Char} {before : Option Char}
    (hne : run ≠ []) (hrun : ∀ c ∈ run, Infra.isWord c)
    (hallowed : ∀ word ∈ words, Infra.dropWord word.toList run ≠ some [])
    (hhead : text.head?.any Infra.isWord = false)
    (htext : ∀ c, Infra.isWord c → Silent words (some c) text) : Silent words before (run ++ text) := by
  obtain ⟨c, cs, rfl⟩ := List.exists_cons_of_ne_nil hne
  have hc := hrun c List.mem_cons_self
  rw [List.cons_append, silent_cons]
  refine ⟨fun word hword => ?_, silent_inside hc (fun d hd => hrun d (List.mem_cons_of_mem _ hd)) htext⟩
  have hlower := hwords word hword
  rw [Infra.wordAt, Bool.and_eq_false_iff]
  refine .inr ?_
  split
  · next left hdrop =>
    rw [Bool.eq_false_iff]
    intro hboundary
    exact hallowed word hword (dropWord_run hlower.1 hlower.2 hrun hhead hdrop hboundary)
  · rfl

theorem isWord_blank (c : Char) : Infra.isWord (blank c) = false := by
  rw [blank]
  split
  · next h =>
    subst h
    decide
  · decide

/-- A text is read up to its end without finding a word of the list. -/
theorem silent_blanked (hwords : Lowercase words) {q : Char} {ts : List Token}
    (hclean : Infra.Clean Infra.isWord q ts)
    (hallowed : ∀ run, .word run ∈ ts → ∀ word ∈ words, Infra.dropWord word.toList run ≠ some [])
    {before : Option Char} (hbefore : before.any Infra.isWord → ∀ run, ts.head? ≠ some (.word run)) :
    Silent words before (blanked q ts) := by
  induction ts generalizing before with
  | nil => exact silent_nil hwords
  | cons t ts ih =>
    have hrest : ∀ b : Option Char, (b.any Infra.isWord → ∀ run, ts.head? ≠ some (.word run)) →
        Silent words b (blanked q ts) := fun _ hb =>
      ih hclean.tail (fun run hrun => hallowed run (List.mem_cons_of_mem _ hrun)) hb
    have hfits := hclean.fits t List.mem_cons_self
    rw [blanked, List.flatMap_cons]
    cases t with
    | mark c =>
      have hc : ∀ d ∈ [c], Infra.isWord d = false := by
        intro d hd
        obtain rfl := List.mem_singleton.mp hd
        exact hfits.1
      exact silent_marks hwords hc (List.cons_ne_nil _ _) fun d hd => hrest _ (by simp [hd])
    | quoted text =>
      have hblank : ∀ d ∈ (Infra.quote q text).map blank, Infra.isWord d = false := by
        intro d hd
        obtain ⟨e, -, rfl⟩ := List.mem_map.mp hd
        exact isWord_blank e
      exact silent_marks hwords hblank (by simp [blankToken, Infra.quote]) fun d hd => hrest _ (by simp [hd])
    | word run =>
      have hnext : ∀ run', ts.head? ≠ some (.word run') := by
        intro run' h
        have hapart := hclean.apart
        cases ts with
        | nil => cases h
        | cons t' ts =>
          obtain rfl : t' = .word run' := Option.some.inj h
          exact (List.isChain_cons_cons.mp hapart).1
      have hhead : (blanked q ts).head?.any Infra.isWord = false := by
        cases ts with
        | nil => rfl
        | cons t' ts =>
          have hfits' := hclean.fits t' (by simp)
          cases t' with
          | word run' => exact absurd rfl (hnext run')
          | mark c => simpa [blanked, blankToken, Token.text] using hfits'.1
          | quoted text => simp [blanked, blankToken, Infra.quote, isWord_blank]
      exact silent_word hwords hfits.1 hfits.2 (hallowed run List.mem_cons_self) hhead
        fun c _ => hrest _ fun _ => hnext

end Search

/-! ## Passing the gate -/

section Gate

theorem dropWhile_eq_self {α : Type} {p : α → Bool} {as : List α} (h : ∀ a ∈ as.head?, p a = false) :
    as.dropWhile p = as := by
  cases as with
  | nil => rfl
  | cons a as => rw [List.dropWhile_cons_of_neg (by simp [h a rfl])]

theorem rstrip_eq_self {text : List Char} (h : ∀ c ∈ text.getLast?, Infra.isSpace c = false) :
    rstrip text = text := by
  rw [rstrip, dropWhile_eq_self (by simpa using h), List.reverse_reverse]

theorem strip_eq_self {text : List Char} (hhead : ∀ c ∈ text.head?, Infra.isSpace c = false)
    (hlast : ∀ c ∈ text.getLast?, Infra.isSpace c = false) : Infra.strip text = text := by
  rw [Infra.strip, dropWhile_eq_self hhead, dropWhile_eq_self (by simpa using hlast),
    List.reverse_reverse]

theorem stripTrailingSemicolon_eq_self {text : List Char}
    (hlast : ∀ c ∈ text.getLast?, Infra.isSpace c = false ∧ c ≠ ';') :
    stripTrailingSemicolon text = text := by
  rw [stripTrailingSemicolon]
  simp only [rstrip_eq_self fun c hc => (hlast c hc).1]
  exact if_neg fun h => (hlast ';' h).2 rfl

variable {q : Char} {ts : List Token}

theorem semicolon_not_mem (hclean : Infra.Clean Infra.isWord q ts)
    (hmarks : ∀ c, .mark c ∈ ts → Inert c ∧ c ≠ ';') : ';' ∉ blanked q ts := by
  intro hmem
  obtain ⟨t, ht, hmem⟩ := List.mem_flatMap.mp hmem
  cases t with
  | word chars => exact absurd ((hclean.fits _ ht).2 _ hmem) (by decide)
  | mark c =>
    obtain rfl := List.mem_singleton.mp hmem
    exact (hmarks _ ht).2 rfl
  | quoted text =>
    obtain ⟨c, -, hc⟩ := List.mem_map.mp hmem
    rw [blank] at hc
    split at hc
    · next h =>
      subst h
      exact absurd hc (by decide)
    · exact absurd hc (by decide)

/-- **A statement that is made of tokens passes the gate** when it begins with `SELECT` and no word of
it is an operation. -/
theorem gate_accepts {query : String} (hquery : query.toList = render q ts)
    (hq : isQuote q = true) (hword : Infra.isWord q = false)
    (hclean : Infra.Clean Infra.isWord q ts) (hmarks : ∀ c, .mark c ∈ ts → Inert c ∧ c ≠ ';')
    (hallowed : ∀ run, .word run ∈ ts →
      ∀ operation ∈ forbiddenOperations, Infra.dropWord operation.toList run ≠ some [])
    {rest : List Token} (hselect : ts = .word "SELECT".toList :: .mark ' ' :: rest)
    (hlast : ∀ c ∈ (render q ts).getLast?, Infra.isSpace c = false ∧ c ≠ ';') :
    validateReadOnlyQuery query = .ok () := by
  have hstripped : stripForSafety (render q ts) = blanked q ts :=
    strip_render hq hword hclean fun c hc => (hmarks c hc).1
  have htext : render q ts = "SELECT ".toList ++ render q rest := by
    rw [hselect]
    rfl
  have hblanked : blanked q ts = "SELECT ".toList ++ blanked q rest := by
    rw [hselect]
    rfl
  have hcleaned : Infra.strip (render q ts) = render q ts := by
    refine strip_eq_self (fun c hc => ?_) fun c hc => (hlast c hc).1
    rw [htext] at hc
    obtain rfl : 'S' = c := Option.some.inj hc
    decide
  have hcount : (blanked q ts).count ';' = 0 := List.count_eq_zero.mpr (semicolon_not_mem hclean hmarks)
  have hsilent : mentionsOneOf forbiddenOperations (blanked q ts) = false :=
    silent_blanked (by decide) hclean hallowed nofun
  have hne : render q ts ≠ [] := by
    rw [htext]
    exact List.cons_ne_nil _ _
  have hhead : ∀ c ∈ (blanked q ts).head?, Infra.isSpace c = false := by
    intro c hc
    rw [hblanked] at hc
    obtain rfl : 'S' = c := Option.some.inj hc
    decide
  have hlead : startsWithOneOf forbiddenOperations ((blanked q ts).dropWhile Infra.isSpace) = false := by
    rw [dropWhile_eq_self hhead, hblanked]
    rfl
  have hstart : startsWithOneOf ["select", "with"] (blanked q ts) = true := by
    rw [hblanked]
    rfl
  have hsome : Infra.strip (blanked q ts) ≠ [] := by
    rw [Infra.strip, dropWhile_eq_self hhead, hblanked]
    intro h
    rw [List.reverse_eq_nil_iff, List.dropWhile_eq_nil_iff] at h
    have hmem : 'S' ∈ ("SELECT ".toList ++ blanked q rest).reverse :=
      List.mem_reverse.mpr (List.mem_append_left _ (by decide))
    exact absurd (h 'S' hmem) (by decide)
  simp only [validateReadOnlyQuery, hquery, hcleaned, stripTrailingSemicolon_eq_self hlast, hstripped,
    hcount, hsilent, hlead, hstart, if_neg hne, if_neg hsome]
  simp

end Gate

end Querying
