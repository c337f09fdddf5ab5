import Mathlib
import Qaneris.Querying.Dialects
import Qaneris.Querying.Properties.ReadOnly

/-!
# What the gate promises of the drivers

* `code_eq_strip` — a plain text is read by the driver as the gate reads it
* `accepted_readsOnly` — of a plain text that the gate accepts, only `INTO` can write
-/

namespace Querying

open Infra (isSpace isWord)

/-! ## Reading alike -/

section Alike

variable {d : Driver}

/-- Where the gate is when the driver is at the place. -/
def Place.region : Place → Option Region
  | .code _ | .parameter _ | .colon _ => some .code
  | .block depth => some (.block depth)
  | .line => some .line
  | .quoted q _ | .escaped q => some (.quoted q)
  | .bracket => some .bracket
  | .skip 1 next => next.region.map .second
  | .suffix | .dollar _ | .skip _ _ => none

/-- The gate is where the driver is. -/
def Beside (r : Reading) (region : Region) : Prop := r.place.region = some region ∧ r.executing = false

theorem isQuote_of_quotes {c : Char} (h : d.quotes c = true) : isQuote c = true := by
  simp only [Driver.quotes, Bool.or_eq_true, Bool.and_eq_true, decide_eq_true_eq] at h
  simp only [isQuote, Bool.or_eq_true, decide_eq_true_eq]
  rcases h with h | h
  · exact .inl h
  · exact .inr h.1

/-- A character of the code that the gate reads as the driver does. -/
theorem beside_readCode {before word : List Char} {c : Char} {after : List Char}
    (h : PlainCode d before word c after) :
    (d.readCode false word c after).1 = (stripStep .code before c after).1 ∧
      Beside (d.readCode false word c after).2 (stripStep .code before c after).2 := by
  rw [Driver.readCode, stripStep]
  by_cases hblock : c = '/' ∧ after.head? = some '*'
  · have hplain : ¬(d = .mysql ∧ after.tail.head? = some '!') := fun hm =>
      h.executable hblock.1 hblock.2 hm.1 hm.2
    rw [if_pos hblock, if_pos hblock, if_neg hplain]
    exact ⟨rfl, rfl, rfl⟩
  rw [if_neg hblock, if_neg hblock, if_neg (by simp)]
  by_cases hline : c = '-' ∧ after.head? = some '-'
  · rw [if_pos hline, if_pos ⟨hline.1, hline.2, h.dashes hline.1 hline.2⟩]
    exact ⟨rfl, rfl, rfl⟩
  rw [if_neg hline, if_neg fun hd => hline ⟨hd.1, hd.2.1⟩, if_neg fun hd => h.hash hd.1 hd.2]
  by_cases hquote : isQuote c = true
  · rw [if_pos hquote, if_pos (h.quotes hquote)]
    exact ⟨rfl, rfl, rfl⟩
  rw [if_neg hquote, if_neg fun hd => hquote (isQuote_of_quotes hd)]
  by_cases hbracket : c = '['
  · rw [if_pos hbracket, if_pos ⟨hbracket, h.bracket hbracket⟩]
    exact ⟨rfl, rfl, rfl⟩
  rw [if_neg hbracket, if_neg fun hd => hbracket hd.1]
  split
  · exact ⟨rfl, rfl, rfl⟩
  split
  · next hdollar =>
    rw [h.dollar hdollar.1 hdollar.2.1 hdollar.2.2]
    exact ⟨rfl, rfl, rfl⟩
  · exact ⟨rfl, rfl, rfl⟩

/-- A letter, a digit or a sign of identifiers opens nothing. -/
theorem stripStep_of_isIdent {before : List Char} {c : Char} {after : List Char}
    (h : isIdent c = true) : stripStep .code before c after = (c, .code) := by
  have hslash : c ≠ '/' := by rintro rfl; exact absurd h (by decide)
  have hdash : c ≠ '-' := by rintro rfl; exact absurd h (by decide)
  have hbracket : c ≠ '[' := by rintro rfl; exact absurd h (by decide)
  have hquote : isQuote c = false := by
    simp only [isQuote, Bool.or_eq_false_iff, decide_eq_false_iff_not]
    refine ⟨⟨?_, ?_⟩, ?_⟩ <;> rintro rfl <;> exact absurd h (by decide)
  simp [stripStep, hslash, hdash, hbracket, hquote]

/-- A character that the gate reads as the driver does. -/
theorem beside_read {r : Reading} {region : Region} {before : List Char} {c : Char}
    {after : List Char} (hr : Beside r region) (hplain : d.plainAt r before c after = true) :
    (d.read r before c after).1 = (stripStep region before c after).1 ∧
      Beside (d.read r before c after).2 (stripStep region before c after).2 := by
  obtain ⟨place, executing⟩ := r
  obtain ⟨hregion, rfl⟩ : place.region = some region ∧ executing = false := hr
  cases place with
  | code word =>
    obtain rfl := Option.some.inj hregion
    exact beside_readCode (of_decide_eq_true hplain)
  | parameter named =>
    obtain rfl := Option.some.inj hregion
    obtain ⟨hcode, hsuffix⟩ := of_decide_eq_true hplain
    simp only [Driver.read]
    by_cases hident : isIdent c = true
    · rw [if_pos hident, stripStep_of_isIdent hident]
      exact ⟨rfl, rfl, rfl⟩
    rw [if_neg hident, if_neg hsuffix]
    by_cases hcolon : c = ':' ∧ after.head? = some ':'
    · rw [if_pos hcolon, hcolon.1]
      exact ⟨rfl, rfl, rfl⟩
    rw [if_neg hcolon]
    exact beside_readCode hcode
  | colon named =>
    obtain rfl := Option.some.inj hregion
    obtain rfl : c = ':' := of_decide_eq_true hplain
    exact ⟨rfl, rfl, rfl⟩
  | suffix | dollar tag => cases hregion
  | block depth =>
    obtain rfl := Option.some.inj hregion
    have hnests : c = '/' → after.head? = some '*' → d = .postgresql := of_decide_eq_true hplain
    simp only [Driver.read, stripStep]
    by_cases hopen : c = '/' ∧ after.head? = some '*'
    · rw [if_pos hopen, if_pos ⟨hopen.1, hopen.2, hnests hopen.1 hopen.2⟩]
      exact ⟨rfl, rfl, rfl⟩
    rw [if_neg hopen, if_neg fun h => hopen ⟨h.1, h.2.1⟩]
    split
    · by_cases hdepth : depth = 1
      · rw [if_pos hdepth, if_pos hdepth]
        exact ⟨rfl, rfl, rfl⟩
      · rw [if_neg hdepth, if_neg hdepth]
        exact ⟨rfl, rfl, rfl⟩
    · exact ⟨rfl, rfl, rfl⟩
  | line =>
    obtain rfl := Option.some.inj hregion
    have hends : d.endsLine c after = true ↔ c = '\n' := by
      refine ⟨of_decide_eq_true hplain, ?_⟩
      rintro rfl
      rfl
    simp only [Driver.read, stripStep]
    by_cases hc : c = '\n'
    · rw [if_pos (hends.mpr hc), if_pos hc]
      exact ⟨trivial, rfl, rfl⟩
    · rw [if_neg (mt hends.mp hc), if_neg hc]
      exact ⟨trivial, rfl, rfl⟩
  | quoted q escaping =>
    obtain rfl := Option.some.inj hregion
    simp only [Driver.read, stripStep]
    by_cases hc : c = q
    · rw [if_pos hc, if_pos hc]
      split
      · exact ⟨rfl, rfl, rfl⟩
      · exact ⟨rfl, rfl, rfl⟩
    · rw [if_neg hc, if_neg hc]
      refine ⟨rfl, ?_, rfl⟩
      show (if escaping ∧ c = '\\' then Place.escaped q else .quoted q escaping).region = _
      split
      · rfl
      · rfl
  | escaped q =>
    obtain rfl := Option.some.inj hregion
    have hc : c ≠ q := of_decide_eq_true hplain
    simp only [Driver.read, stripStep, if_neg hc]
    exact ⟨trivial, rfl, rfl⟩
  | bracket =>
    obtain rfl := Option.some.inj hregion
    simp only [Driver.read, stripStep]
    split
    · exact ⟨trivial, rfl, rfl⟩
    · exact ⟨trivial, rfl, rfl⟩
  | skip more next =>
    cases more with
    | zero => cases hregion
    | succ more =>
      cases more with
      | zero =>
        obtain ⟨next', hnext, rfl⟩ := Option.map_eq_some_iff.mp hregion
        exact ⟨rfl, hnext, rfl⟩
      | succ more => cases hregion

/-- **A plain text is read by the driver as the gate reads it.** -/
theorem code_eq_strip {text : List Char} (h : d.Plain text = true) : d.code text = stripForSafety text :=
  Infra.scan_eq_of_simulates (m := d.read) (R := Beside)
    (fun _ _ _ _ _ hr hplain => beside_read hr hplain) ⟨rfl, rfl⟩ h

end Alike

/-! ## The characters that are left -/

section Regular

variable {d : Driver}

/-- The expressions of the gate and the driver agree on each character. -/
def Regular (d : Driver) : Option Char → List Char → Prop
  | _, [] => True
  | before, c :: text => Agrees d before c ∧ Regular d (some c) text

theorem agrees_blank (before : Option Char) (c : Char) : Agrees d before (blank c) := by
  have h : blank c = '\n' ∨ blank c = ' ' := by
    rw [blank]
    split
    · next hc => exact .inl hc
    · exact .inr rfl
  rcases h with h | h
  · rw [h]
    exact ⟨fun _ => by simp [Driver.isBlank], by decide, fun _ hident => absurd hident (by decide)⟩
  · rw [h]
    exact ⟨fun _ => by simp [Driver.isBlank], by decide, fun _ hident => absurd hident (by decide)⟩

theorem readCode_output {executing : Bool} {word : List Char} {c : Char} {after : List Char} :
    (d.readCode executing word c after).1 = blank c ∨ (d.readCode executing word c after).1 = c := by
  rw [Driver.readCode]
  repeat' split
  all_goals first | exact .inl rfl | exact .inr rfl

/-- A character is blanked, or it is left and agreed on. -/
theorem read_output {r : Reading} {before : List Char} {c : Char} {after : List Char}
    (h : d.plainAt r before c after = true) :
    (d.read r before c after).1 = blank c ∨
      (d.read r before c after).1 = c ∧ Agrees d before.head? c := by
  obtain ⟨place, executing⟩ := r
  cases place with
  | code word =>
    have hcode : PlainCode d before word c after := of_decide_eq_true h
    exact (readCode_output (d := d)).imp id fun hout => ⟨hout, hcode.agrees⟩
  | parameter named =>
    have hcode : PlainCode d before [] c after := (of_decide_eq_true h).1
    simp only [Driver.read]
    split
    · exact .inr ⟨rfl, hcode.agrees⟩
    split
    · exact .inl rfl
    split
    · exact .inr ⟨rfl, hcode.agrees⟩
    · exact (readCode_output (d := d)).imp id fun hout => ⟨hout, hcode.agrees⟩
  | colon named =>
    obtain rfl : c = ':' := of_decide_eq_true h
    exact .inr ⟨rfl, fun hspace => absurd hspace (by decide), by decide,
      fun _ hident => absurd hident (by decide)⟩
  | block depth =>
    simp only [Driver.read]
    split
    · exact .inl rfl
    split
    · exact .inl rfl
    · exact .inl rfl
  | quoted q escaping =>
    simp only [Driver.read]
    split
    · split
      · exact .inl rfl
      · exact .inl rfl
    · exact .inl rfl
  | dollar tag =>
    simp only [Driver.read]
    split
    · exact .inl rfl
    · exact .inl rfl
  | suffix | line | escaped q | bracket | skip more next => exact .inl rfl

/-- What stands before a character that is left was left as well, if it is of a word. -/
theorem regular_scan {r : Reading} {before text : List Char} {left : Option Char}
    (hleft : left.any isWord → before.head?.any isWord)
    (h : Infra.Fine d.read d.plainAt r before text = true) :
    Regular d left (Infra.scan d.read r before text) := by
  induction text generalizing r before left with
  | nil => trivial
  | cons c after ih =>
    rw [Infra.Fine, Bool.and_eq_true] at h
    rw [Infra.scan_cons]
    rcases read_output h.1 with hout | ⟨hout, hagrees⟩
    · rw [hout]
      refine ⟨agrees_blank left c, ih (fun hword => ?_) h.2⟩
      rw [Option.any_some, isWord_blank] at hword
      cases hword
    · rw [hout]
      exact ⟨⟨hagrees.blank, hagrees.letter, fun hword => hagrees.boundary (hleft hword)⟩,
        ih (fun hword => hword) h.2⟩

theorem regular_code {text : List Char} (h : d.Plain text = true) : Regular d none (d.code text) :=
  regular_scan nofun h

theorem Regular.append_right {before : Option Char} {a b : List Char} (h : Regular d before (a ++ b)) :
    ∃ before', Regular d before' b := by
  induction a generalizing before with
  | nil => exact ⟨before, h⟩
  | cons c a ih => exact ih h.2

theorem Regular.isBlank {before : Option Char} {text : List Char} (h : Regular d before text) :
    ∀ c ∈ text, isSpace c → d.isBlank c := by
  induction text generalizing before with
  | nil => exact nofun
  | cons a text ih =>
    intro c hc
    rcases List.mem_cons.mp hc with rfl | hc
    · exact h.1.blank
    · exact ih h.2 c hc

end Regular

/-! ## Keywords -/

section Keywords

variable {d : Driver}

theorem isIdent_of_isWord {c : Char} (h : isWord c = true) : isIdent c = true := by
  simp only [isWord, Infra.isAlnum, Bool.or_eq_true, beq_iff_eq] at h
  simp only [isIdent, Bool.or_eq_true, decide_eq_true_eq]
  rcases h with h | h
  · simp [h]
  · split at h
    · simp only [Bool.or_eq_true] at h
      rcases h with (h | h) | h
      · simp [h]
      · simp [h]
      · simp [h]
    · next hlt => exact .inl (.inl (.inl (.inl (.inl (by omega)))))

/-- A letter that is read as the small letter matches it when case is ignored. -/
theorem ignoreCaseEq_of_toLower {p c : Char} (h : c.toLower = p) : Infra.ignoreCaseEq p c = true := by
  have hcases : c = p ∨ Infra.isAsciiUpper c = true := by
    rw [Char.toLower] at h
    split at h
    · next hupper =>
      refine .inr ?_
      simp only [Infra.isAsciiUpper, Bool.and_eq_true, decide_eq_true_eq]
      exact hupper
    · exact .inl h
  rcases hcases with rfl | hupper
  · simp [Infra.ignoreCaseEq]
  · simp [Infra.ignoreCaseEq, hupper, h]

theorem toLower_of_ignoreCaseEq {p c : Char} (hp : Infra.isAsciiLower p = true)
    (hc : c.toNat ∉ [0x130, 0x131, 0x17F, 0x212A]) (h : Infra.ignoreCaseEq p c = true) :
    c.toLower = p := by
  simp only [Infra.ignoreCaseEq, Bool.or_eq_true, beq_iff_eq, Bool.and_eq_true] at h
  rcases h with (rfl | h) | h
  · simp only [Infra.isAsciiLower, Bool.and_eq_true, decide_eq_true_eq] at hp
    have hlow : 'a'.toNat ≤ c.toNat := hp.1
    rw [Char.toLower, dif_neg]
    rintro ⟨-, hle⟩
    have hhigh : c.toNat ≤ 'Z'.toNat := hle
    exact absurd (Nat.le_trans hlow hhigh) (by decide)
  · exact h.2
  · simp only [List.mem_cons, List.not_mem_nil, or_false, not_or] at hc
    split at h
    · simp only [Bool.or_eq_true, beq_iff_eq] at h
      rcases h with h | h
      · exact absurd h hc.1
      · exact absurd h hc.2.1
    · exact absurd (beq_iff_eq.mp h) hc.2.2.2
    · exact absurd (beq_iff_eq.mp h) hc.2.2.1
    · cases h

theorem dropWord_of_dropKeyword {keyword text rest : List Char}
    (h : dropKeyword keyword text = some rest) : Infra.dropWord keyword text = some rest := by
  induction keyword generalizing text with
  | nil => exact h
  | cons p keyword ih =>
    cases text with
    | nil => cases h
    | cons c text =>
      rw [dropKeyword] at h
      split at h
      · next hc =>
        rw [Infra.dropWord, if_pos (ignoreCaseEq_of_toLower hc)]
        exact ih h
      · cases h

/-- A text begins with a character of a word where a word is found. -/
theorem head_of_dropWord {word text rest : List Char} (hne : word ≠ [])
    (hlower : ∀ c ∈ word, Infra.isAsciiLower c) (h : Infra.dropWord word text = some rest) :
    ∃ c text', text = c :: text' ∧ isWord c = true := by
  obtain ⟨p, ps, rfl⟩ := List.exists_cons_of_ne_nil hne
  cases text with
  | nil => cases h
  | cons c text =>
    rw [Infra.dropWord] at h
    split at h
    · next hc => exact ⟨c, text, rfl, isWord_of_ignoreCaseEq (hlower p List.mem_cons_self) hc⟩
    · cases h

/-- A keyword that a driver reads is found by the gate. -/
theorem wordAt_of_keywordAt {keyword : List Char} {before : Option Char} {text : List Char}
    (hne : keyword ≠ []) (hlower : ∀ c ∈ keyword, Infra.isAsciiLower c)
    (h : keywordAt keyword before text = true) : Infra.wordAt keyword before text = true := by
  rw [keywordAt, Bool.and_eq_true, Bool.not_eq_true'] at h
  obtain ⟨hbefore, h⟩ := h
  have hword : ∀ o : Option Char, o.any isIdent = false → o.any isWord = false := by
    intro o ho
    cases o with
    | none => rfl
    | some c =>
      rw [Option.any_some, Bool.eq_false_iff] at ho ⊢
      exact mt isIdent_of_isWord ho
  split at h
  · next rest hdrop =>
    have hrest : rest.head?.any isWord = false := hword _ (by simpa using h)
    have hfound := dropWord_of_dropKeyword hdrop
    have hhead : text.head?.any isWord = true := by
      obtain ⟨c, text', rfl, hc⟩ := head_of_dropWord hne hlower hfound
      exact hc
    have hlast : keyword.getLast?.any isWord = true := by
      rw [List.getLast?_eq_some_getLast hne]
      exact isWord_of_isAsciiLower (hlower _ (List.getLast_mem hne))
    rw [Infra.wordAt, hfound]
    simp [Infra.wordBoundary, hword before hbefore, hhead, hlast, hrest]
  · cases h

theorem searchFrom_eq_false {found found' : Option Char → List Char → Bool}
    (himp : ∀ before text, found' before text = true → found before text = true)
    {before : Option Char} {text : List Char} (h : Infra.searchFrom found before text = false) :
    Infra.searchFrom found' before text = false := by
  have hfalse : ∀ before text, found before text = false → found' before text = false := by
    intro before text hfound
    rw [Bool.eq_false_iff] at hfound ⊢
    exact mt (himp before text) hfound
  induction text generalizing before with
  | nil => exact hfalse _ _ h
  | cons c text ih =>
    rw [Infra.searchFrom, Bool.or_eq_false_iff] at h ⊢
    exact ⟨hfalse _ _ h.1, ih h.2⟩

/-- A driver reads none of the keywords that the gate does not find. -/
theorem readsOneOf_of_silent {keywords : List String} (hkeywords : Lowercase keywords)
    {text : List Char} (h : Silent keywords none text) : readsOneOf keywords text = false := by
  refine searchFrom_eq_false (fun before text hread => ?_) h
  obtain ⟨keyword, hmem, hat⟩ := List.any_eq_true.mp hread
  have hlower := hkeywords keyword hmem
  exact List.any_eq_true.mpr ⟨keyword, hmem, wordAt_of_keywordAt hlower.1 hlower.2 hat⟩

/-- A word that ends for the gate ends for the driver. -/
theorem Regular.head {text : List Char} {c : Char} (h : Regular d (some c) text)
    (hc : isWord c = true) (htext : text.head?.any isWord = false) : text.head?.any isIdent = false := by
  cases text with
  | nil => rfl
  | cons e text =>
    rw [List.head?_cons, Option.any_some] at htext ⊢
    rw [Bool.eq_false_iff]
    intro hident
    rw [h.1.boundary hc hident] at htext
    cases htext

/-- The keyword that the gate finds at the beginning of the text is read there. -/
theorem Regular.dropKeyword {keyword text rest : List Char} {before : Option Char}
    (h : Regular d before text) (hne : keyword ≠ []) (hlower : ∀ c ∈ keyword, Infra.isAsciiLower c)
    (hfound : Infra.dropWord keyword text = some rest) :
    Querying.dropKeyword keyword text = some rest ∧
      ∃ c, isWord c = true ∧ Regular d (some c) rest := by
  induction keyword generalizing text before with
  | nil => exact absurd rfl hne
  | cons p keyword ih =>
    have hp := hlower p List.mem_cons_self
    cases text with
    | nil => cases hfound
    | cons c text =>
      rw [Infra.dropWord] at hfound
      split at hfound
      · next hc =>
        rw [Querying.dropKeyword, if_pos (toLower_of_ignoreCaseEq hp h.1.letter hc)]
        by_cases hkeyword : keyword = []
        · subst hkeyword
          obtain rfl := Option.some.inj hfound
          exact ⟨rfl, c, isWord_of_ignoreCaseEq hp hc, h.2⟩
        · exact ih h.2 hkeyword (fun e he => hlower e (List.mem_cons_of_mem _ he)) hfound
      · cases hfound

end Keywords

/-! ## The ends of a text -/

section Ends

theorem rstrip_split (text : List Char) :
    ∃ tail, text = rstrip text ++ tail ∧ ∀ c ∈ tail, isSpace c := by
  refine ⟨(text.reverse.takeWhile isSpace).reverse, ?_, fun c hc => ?_⟩
  · rw [rstrip, ← List.reverse_append, List.takeWhile_append_dropWhile, List.reverse_reverse]
  · exact List.mem_takeWhile_imp (List.mem_reverse.mp hc)

theorem strip_split (text : List Char) :
    ∃ lead tail, text = lead ++ (Infra.strip text ++ tail) ∧ (∀ c ∈ lead, isSpace c) ∧
      ∀ c ∈ tail, isSpace c := by
  obtain ⟨tail, htail, hspace⟩ := rstrip_split (text.dropWhile isSpace)
  refine ⟨text.takeWhile isSpace, tail, ?_, fun c hc => List.mem_takeWhile_imp hc, hspace⟩
  calc text
      = text.takeWhile isSpace ++ text.dropWhile isSpace := List.takeWhile_append_dropWhile.symm
    _ = text.takeWhile isSpace ++ (Infra.strip text ++ tail) := congrArg _ htail

theorem stripTrailingSemicolon_split (text : List Char) :
    ∃ tail, text = stripTrailingSemicolon text ++ tail ∧ ∀ c ∈ tail, isSpace c ∨ c = ';' := by
  obtain ⟨tail, htail, hspace⟩ := rstrip_split text
  simp only [stripTrailingSemicolon]
  split
  · next hlast =>
    obtain ⟨tail', htail', hspace'⟩ := rstrip_split (rstrip text).dropLast
    refine ⟨tail' ++ ';' :: tail, ?_, fun c hc => ?_⟩
    · calc text
          = rstrip text ++ tail := htail
        _ = (rstrip text).dropLast ++ ';' :: tail := by
          obtain ⟨head, hhead⟩ := List.getLast?_eq_some_iff.mp hlast
          rw [hhead, List.dropLast_concat, List.append_assoc]
          rfl
        _ = (rstrip (rstrip text).dropLast ++ tail') ++ ';' :: tail := by rw [← htail']
        _ = rstrip (rstrip text).dropLast ++ (tail' ++ ';' :: tail) := List.append_assoc _ _ _
    · rcases List.mem_append.mp hc with hc | hc
      · exact .inl (hspace' c hc)
      · rcases List.mem_cons.mp hc with rfl | hc
        · exact .inr rfl
        · exact .inl (hspace c hc)
  · exact ⟨tail, htail, fun c hc => .inl (hspace c hc)⟩

theorem inert_of_isSpace {c : Char} (h : isSpace c = true) : Inert c := by
  refine ⟨?_, ?_, ?_, ?_⟩
  · rintro rfl
    exact absurd h (by decide)
  · rintro rfl
    exact absurd h (by decide)
  · simp only [isQuote, Bool.or_eq_false_iff, decide_eq_false_iff_not]
    refine ⟨⟨?_, ?_⟩, ?_⟩ <;> rintro rfl <;> exact absurd h (by decide)
  · rintro rfl
    exact absurd h (by decide)

/-- The gate writes each character as it is, or blanks it. -/
theorem stripStep_output (region : Region) (before : List Char) (c : Char) (after : List Char) :
    (stripStep region before c after).1 = blank c ∨ (stripStep region before c after).1 = c := by
  cases region with
  | code =>
    simp only [stripStep]
    repeat' split
    all_goals first | exact .inl rfl | exact .inr rfl
  | block depth =>
    simp only [stripStep]
    repeat' split
    all_goals exact .inl rfl
  | quoted q =>
    simp only [stripStep]
    repeat' split
    all_goals exact .inl rfl
  | line | bracket | second next => exact .inl rfl

theorem isWord_eq_false_of_isSpace {c : Char} (h : isSpace c = true) : isWord c = false := by
  have hunder : c ≠ '_' := by rintro rfl; exact absurd h (by decide)
  have hfar : ∀ n ∈ [0x85, 0xA0, 0x1680, 0x2000, 0x2001, 0x2002, 0x2003, 0x2004, 0x2005, 0x2006,
      0x2007, 0x2008, 0x2009, 0x200A, 0x2028, 0x2029, 0x202F, 0x205F, 0x3000],
      ¬n < 0x80 ∧ (Infra.alnumRanges.any fun r => r.1 ≤ n && n ≤ r.2) = false := by decide +kernel
  have hcases : c.toNat ≤ 0x20 ∨ c.toNat ∈ [0x85, 0xA0, 0x1680, 0x2000, 0x2001, 0x2002, 0x2003, 0x2004,
      0x2005, 0x2006, 0x2007, 0x2008, 0x2009, 0x200A, 0x2028, 0x2029, 0x202F, 0x205F, 0x3000] := by
    simp only [isSpace, Bool.or_eq_true, Bool.and_eq_true, decide_eq_true_eq, beq_iff_eq] at h
    simp only [List.mem_cons, List.not_mem_nil, or_false]
    omega
  rw [isWord, Bool.or_eq_false_iff, Infra.isAlnum]
  refine ⟨beq_eq_false_iff_ne.mpr hunder, ?_⟩
  rcases hcases with hlow | hhigh
  · rw [if_pos (by omega)]
    simp only [Infra.isAsciiLower, Infra.isAsciiUpper, Infra.isAsciiDigit, Bool.or_eq_false_iff,
      Bool.and_eq_false_imp, decide_eq_true_eq, decide_eq_false_iff_not]
    have hbelow : ∀ d : Char, 0x20 < d.toNat → ¬d ≤ c := by
      intro d hd hle
      have hle' : d.toNat ≤ c.toNat := hle
      omega
    exact ⟨⟨fun hle => absurd hle (hbelow 'a' (by decide)), fun hle => absurd hle (hbelow 'A' (by decide))⟩,
      fun hle => absurd hle (hbelow '0' (by decide))⟩
  · rw [if_neg (hfar _ hhigh).1]
    exact (hfar _ hhigh).2

theorem isWord_eq_false_of_end {c : Char} (h : isSpace c = true ∨ c = ';') : isWord c = false := by
  rcases h with h | rfl
  · exact isWord_eq_false_of_isSpace h
  · decide

/-- The gate looks no further than one character ahead. -/
theorem stripStep_head {region : Region} {before : List Char} {c e : Char} {after after' : List Char} :
    stripStep region before c (e :: after) = stripStep region before c (e :: after') := by
  cases region with
  | code | block depth | line | quoted q | bracket | second next => rfl

/-- A quoted region is opened by a quote. -/
def Region.Sound : Region → Prop
  | .quoted q => isQuote q = true
  | .second next => next.Sound
  | .code | .block _ | .line | .bracket => True

theorem sound_stripStep {region : Region} (h : region.Sound) (before : List Char) (c : Char)
    (after : List Char) : (stripStep region before c after).2.Sound := by
  cases region with
  | code =>
    simp only [stripStep]
    split
    · trivial
    split
    · trivial
    split
    · next hquote => exact hquote
    split
    · trivial
    · trivial
  | block depth =>
    simp only [stripStep]
    split
    · trivial
    split
    · show (if depth = 1 then Region.code else .block (depth - 1)).Sound
      split
      · trivial
      · trivial
    · trivial
  | line =>
    show (if c = '\n' then Region.code else .line).Sound
    split
    · trivial
    · trivial
  | quoted q =>
    simp only [stripStep]
    split
    · split
      · exact h
      · trivial
    · exact h
  | bracket =>
    show (if c = ']' then Region.code else .bracket).Sound
    split
    · trivial
    · trivial
  | second next => exact h

/-- The gate looks one character ahead, and it looks for no white space and for no semicolon. -/
theorem stripStep_end {region : Region} (hregion : region.Sound) {before : List Char} {c : Char}
    {tail : List Char} (htail : ∀ e ∈ tail, isSpace e = true ∨ e = ';') :
    stripStep region before c tail = stripStep region before c [] := by
  have hne : ∀ m : Char, isSpace m = false → m ≠ ';' → tail.head? ≠ some m := by
    intro m hspace hsemicolon hhead
    rcases htail m (List.mem_of_mem_head? hhead) with h | h
    · rw [hspace] at h
      cases h
    · exact hsemicolon h
  have hstar : tail.head? ≠ some '*' := hne '*' (by decide) (by decide)
  have hslash : tail.head? ≠ some '/' := hne '/' (by decide) (by decide)
  have hdash : tail.head? ≠ some '-' := hne '-' (by decide) (by decide)
  cases region with
  | code | block depth => simp [stripStep, hstar, hslash, hdash]
  | quoted q =>
    have hq : tail.head? ≠ some q := by
      have hquote : isQuote q = true := hregion
      simp only [isQuote, Bool.or_eq_true, decide_eq_true_eq] at hquote
      rcases hquote with (rfl | rfl) | rfl
      · exact hne _ (by decide) (by decide)
      · exact hne _ (by decide) (by decide)
      · exact hne _ (by decide) (by decide)
    simp [stripStep, hq]
  | line | bracket | second next => rfl

theorem not_word_stripFrom {region : Region} {tail : List Char}
    (htail : ∀ c ∈ tail, isSpace c = true ∨ c = ';') :
    ∀ c ∈ stripFrom region tail, isWord c = false := by
  induction tail generalizing region with
  | nil => exact nofun
  | cons e tail ih =>
    intro c hc
    rw [stripFrom_cons] at hc
    rcases List.mem_cons.mp hc with rfl | hc
    · rcases stripStep_output region [] e tail with h | h
      · rw [h]
        exact isWord_blank e
      · rw [h]
        exact isWord_eq_false_of_end (htail e List.mem_cons_self)
    · exact ih (fun c hc => htail c (List.mem_cons_of_mem _ hc)) c hc

/-- What stands at the end of the text does not change how the rest is read. -/
theorem stripFrom_append {region : Region} (hregion : region.Sound) (core : List Char)
    {tail : List Char} (htail : ∀ c ∈ tail, isSpace c = true ∨ c = ';') :
    ∃ rest, stripFrom region (core ++ tail) = stripFrom region core ++ rest ∧
      ∀ c ∈ rest, isWord c = false := by
  induction core generalizing region with
  | nil => exact ⟨stripFrom region tail, rfl, not_word_stripFrom htail⟩
  | cons c core ih =>
    have hstep : stripStep region [] c (core ++ tail) = stripStep region [] c core := by
      cases core with
      | nil => exact stripStep_end hregion htail
      | cons e core => rw [List.cons_append]; exact stripStep_head
    obtain ⟨rest, hrest, hword⟩ := ih (sound_stripStep hregion [] c core)
    refine ⟨rest, ?_, hword⟩
    rw [List.cons_append, stripFrom_cons, stripFrom_cons, hstep, hrest]
    rfl

end Ends

/-! ## What the gate promises -/

section Promise

variable {d : Driver} {words : List String}

theorem dropWord_append {word text tail : List Char} (hlower : ∀ c ∈ word, Infra.isAsciiLower c)
    (htail : ∀ c ∈ tail, isWord c = false) :
    Infra.dropWord word (text ++ tail) = (Infra.dropWord word text).map (· ++ tail) := by
  induction word generalizing text with
  | nil => rfl
  | cons p word ih =>
    cases text with
    | nil =>
      cases tail with
      | nil => rfl
      | cons c tail =>
        have hc : ¬Infra.ignoreCaseEq p c = true := by
          intro hc
          have hword := isWord_of_ignoreCaseEq (hlower p List.mem_cons_self) hc
          rw [htail c List.mem_cons_self] at hword
          cases hword
        simp [Infra.dropWord, hc]
    | cons c text =>
      rw [List.cons_append, Infra.dropWord, Infra.dropWord]
      split
      · exact ih fun e he => hlower e (List.mem_cons_of_mem _ he)
      · rfl

theorem head_append {text tail : List Char} (htail : ∀ c ∈ tail, isWord c = false) :
    (text ++ tail).head?.any isWord = text.head?.any isWord := by
  cases text with
  | nil =>
    cases tail with
    | nil => rfl
    | cons c tail => exact htail c List.mem_cons_self
  | cons c text => rfl

/-- No word is found in what follows a text when it has no character of a word. -/
theorem silent_append (hwords : Lowercase words) {before : Option Char} {text tail : List Char}
    (htail : ∀ c ∈ tail, isWord c = false) (h : Silent words before text) :
    Silent words before (text ++ tail) := by
  have hat : ∀ before text, ∀ word ∈ words,
      Infra.wordAt word.toList before (text ++ tail) = Infra.wordAt word.toList before text := by
    intro before text word hword
    have hlower := (hwords word hword).2
    rw [Infra.wordAt, Infra.wordAt, dropWord_append hlower htail, Infra.wordBoundary,
      Infra.wordBoundary, head_append htail]
    cases Infra.dropWord word.toList text with
    | none => rfl
    | some rest => simp only [Option.map_some, Infra.wordBoundary, head_append htail]
  induction text generalizing before with
  | nil =>
    cases tail with
    | nil => exact h
    | cons c tail =>
      have hmarks : Silent words before (c :: tail ++ []) :=
        silent_marks hwords htail (List.cons_ne_nil _ _) fun _ _ => silent_nil hwords
      rw [List.append_nil] at hmarks
      exact hmarks
  | cons c text ih =>
    rw [silent_cons] at h
    rw [List.cons_append, silent_cons]
    refine ⟨fun word hword => ?_, ih h.2⟩
    rw [← List.cons_append, hat _ _ word hword]
    exact h.1 word hword

theorem silent_before (hwords : Lowercase words) {before before' : Option Char} {text : List Char}
    (hbefore : before.any isWord = before'.any isWord) (h : Silent words before text) :
    Silent words before' text := by
  cases text with
  | nil => exact silent_nil hwords
  | cons c text =>
    rw [silent_cons] at h ⊢
    refine ⟨fun word hword => ?_, h.2⟩
    have hat := h.1 word hword
    rw [Infra.wordAt, Infra.wordBoundary] at hat ⊢
    rw [← hbefore]
    exact hat

/-- What the gate has found out about a text that it accepts. -/
theorem accepted {query : String} (h : validateReadOnlyQuery query = .ok ()) :
    ((stripForSafety query.toList).count ';' = 0 ∨ (stripForSafety query.toList).count ';' = 1 ∧
        (rstrip (stripForSafety query.toList)).getLast? = some ';') ∧
      ∃ lead core rest, stripForSafety query.toList = lead ++ (core ++ rest) ∧
        (∀ c ∈ lead, isSpace c) ∧ (∀ c ∈ rest, isWord c = false) ∧
        startsWithOneOf ["select", "with"] core = true ∧ Silent forbiddenOperations none core := by
  rw [validateReadOnlyQuery] at h
  split at h
  · cases h
  split at h
  · cases h
  next hcount =>
  split at h
  · cases h
  split at h
  · cases h
  split at h
  · cases h
  split at h
  · cases h
  next hstart =>
  split at h
  · cases h
  next hsilent =>
  obtain ⟨lead, tail, htext, hlead, htail⟩ := strip_split query.toList
  obtain ⟨tail', hcleaned, htail'⟩ := stripTrailingSemicolon_split (Infra.strip query.toList)
  have hend : ∀ c ∈ tail' ++ tail, isSpace c = true ∨ c = ';' := by
    intro c hc
    rcases List.mem_append.mp hc with hc | hc
    · exact htail' c hc
    · exact .inl (htail c hc)
  have hcode : Region.code.Sound := trivial
  obtain ⟨rest, hrest, hword⟩ :=
    stripFrom_append hcode (stripTrailingSemicolon (Infra.strip query.toList)) hend
  refine ⟨not_not.mp hcount, lead, _, rest, ?_, hlead, hword, not_not.mp hstart, ?_⟩
  · have hinert : ∀ c ∈ lead, Inert c := fun c hc => inert_of_isSpace (hlead c hc)
    calc stripForSafety query.toList
        = stripFrom .code (lead ++ (Infra.strip query.toList ++ tail)) := congrArg _ htext
      _ = lead ++ stripFrom .code (Infra.strip query.toList ++ tail) := strip_inert hinert _
      _ = lead ++ stripFrom .code (stripTrailingSemicolon (Infra.strip query.toList) ++ (tail' ++ tail)) := by
        rw [← List.append_assoc, ← hcleaned]
      _ = lead ++ (stripFrom .code (stripTrailingSemicolon (Infra.strip query.toList)) ++ rest) := by
        rw [hrest]
  · exact Bool.eq_false_iff.mpr hsilent

theorem isWord_eq_false_of_isBlank {c : Char} (h : d.isBlank c = true) : isWord c = false := by
  simp only [Driver.isBlank, Bool.or_eq_true, Bool.and_eq_true, decide_eq_true_eq] at h
  rcases h with ((((rfl | rfl) | rfl) | rfl) | rfl) | ⟨rfl, -⟩ <;> decide

/-- **A text that the gate accepts, and that the driver reads as the gate does, is one statement that
only reads if and only if it has no `INTO`.** -/
theorem accepted_readsOnly (d : Driver) (query : String) (haccepted : validateReadOnlyQuery query = .ok ())
    (hplain : d.Plain query.toList = true) :
    ReadsOnly d query.toList ↔ readsOneOf ["into"] (d.code query.toList) = false := by
  refine ⟨ReadsOnly.intoNothing, fun hinto => ?_⟩
  obtain ⟨hcount, lead, core, rest, hsplit, hlead, hrest, hstart, hsilent⟩ := accepted haccepted
  have hregular := regular_code hplain
  rw [← code_eq_strip hplain] at hcount hsplit
  have hblank := hregular.isBlank
  constructor
  · -- What follows the only semicolon is white space for the gate.
    intro before after hcode
    have hone : (d.code query.toList).count ';' = 1 ∧
        (rstrip (d.code query.toList)).getLast? = some ';' := by
      refine hcount.resolve_left fun hzero => ?_
      rw [hcode, List.count_append, List.count_cons_self] at hzero
      omega
    obtain ⟨tail, htail, hspace⟩ := rstrip_split (d.code query.toList)
    obtain ⟨head, hhead⟩ := List.getLast?_eq_some_iff.mp hone.2
    have hsame : before ++ ';' :: after = head ++ ';' :: tail := by
      rw [← hcode, htail, hhead, List.append_assoc]
      rfl
    have hcounts : before.count ';' = 0 ∧ after.count ';' = 0 := by
      have hcount := hone.1
      rw [hcode, List.count_append, List.count_cons_self] at hcount
      omega
    have hafter : after = tail :=
      ((List.append_cons_inj_of_notMem (List.count_eq_zero.mp hcounts.1)
        (List.count_eq_zero.mp hcounts.2)).mp hsame).2.2
    intro c hc
    refine hblank c ?_ (hspace c (hafter ▸ hc))
    rw [hcode]
    exact List.mem_append_right _ (List.mem_cons_of_mem _ hc)
  · -- Nothing but white space stands before the word that the gate has found.
    obtain ⟨keyword, hkeyword, hfound⟩ := List.any_eq_true.mp hstart
    have hlower : Lowercase ["select", "with"] := by decide
    obtain ⟨hne, hletters⟩ := hlower keyword hkeyword
    refine ⟨keyword, hkeyword, ?_⟩
    split at hfound
    · next left hdrop =>
      obtain ⟨before, hcore⟩ : ∃ before, Regular d before (core ++ rest) :=
        (hsplit ▸ hregular : Regular d none (lead ++ (core ++ rest))).append_right
      have hdrop' : Infra.dropWord keyword.toList (core ++ rest) = some (left ++ rest) := by
        rw [dropWord_append hletters hrest, hdrop]
        rfl
      obtain ⟨hread, e, he, hleft⟩ := hcore.dropKeyword hne hletters hdrop'
      have htrim : (d.code query.toList).dropWhile d.isBlank = core ++ rest := by
        obtain ⟨a, text, htext, ha⟩ := head_of_dropWord hne hletters hdrop'
        have hlead' : ∀ c ∈ lead, d.isBlank c = true := fun c hc =>
          hblank c (hsplit ▸ List.mem_append_left _ hc) (hlead c hc)
        rw [hsplit, List.dropWhile_append_of_pos hlead', dropWhile_eq_self]
        intro b hb
        rw [htext] at hb
        obtain rfl := Option.some.inj hb
        rw [Bool.eq_false_iff]
        intro hblank
        rw [isWord_eq_false_of_isBlank hblank] at ha
        cases ha
      have hlast : keyword.toList.getLast?.any isWord = true := by
        rw [List.getLast?_eq_some_getLast hne]
        exact isWord_of_isAsciiLower (hletters _ (List.getLast_mem hne))
      have hafter : (left ++ rest).head?.any isWord = false := by
        rw [Infra.wordBoundary, hlast] at hfound
        rw [head_append hrest]
        simpa using hfound
      have hend := hleft.head he hafter
      rw [htrim, keywordAt, hread]
      show (true && !(left ++ rest).head?.any isIdent) = true
      rw [hend]
      rfl
    · cases hfound
  · refine readsOneOf_of_silent (by decide) ?_
    rw [hsplit]
    have hcore : ∀ before : Option Char, before.any isWord = false →
        Silent forbiddenOperations before (core ++ rest) := fun before hbefore =>
      by
      have hnone : (none : Option Char).any isWord = before.any isWord := hbefore.symm
      exact silent_append (by decide) hrest (silent_before (by decide) hnone hsilent)
    by_cases hlead' : lead = []
    · subst hlead'
      exact hcore none rfl
    · exact silent_marks (by decide) (fun c hc => isWord_eq_false_of_isSpace (hlead c hc)) hlead'
        fun c hc => hcore (some c) hc
  · exact hinto

/-- A text with a comment, a quoted name and a literal that hold operations. -/
def commentedQuery : String := "SELECT \"delete\", 'drop; it''s' FROM t -- insert\nWHERE a = 1 /* alter */ ;"

theorem commented_readsOnly : ReadsOnly .sqlite commentedQuery.toList :=
  (accepted_readsOnly .sqlite commentedQuery (by decide) (by decide)).mpr
    (by decide)

/-- A comment that does not nest, a bracket that is no quote, a quote after a backslash, and `INTO`. -/
theorem accepted_writes :
    (validateReadOnlyQuery "SELECT 1 /* /* */; DELETE FROM t -- */ */" = .ok () ∧
      ¬ReadsOnly .sqlite "SELECT 1 /* /* */; DELETE FROM t -- */ */".toList) ∧
    (validateReadOnlyQuery "SELECT a[1; DELETE FROM t; --]" = .ok () ∧
      ¬ReadsOnly .postgresql "SELECT a[1; DELETE FROM t; --]".toList) ∧
    (validateReadOnlyQuery "SELECT '\\''; DELETE FROM t -- '" = .ok () ∧
      ¬ReadsOnly .mysql "SELECT '\\''; DELETE FROM t -- '".toList) ∧
    (validateReadOnlyQuery "SELECT * INTO t FROM u" = .ok () ∧
      ¬ReadsOnly .postgresql "SELECT * INTO t FROM u".toList) :=
  ⟨⟨by decide, fun h => absurd h.writesNothing (by decide)⟩,
    ⟨by decide, fun h => absurd h.writesNothing (by decide)⟩,
    ⟨by decide, fun h => absurd h.writesNothing (by decide)⟩,
    ⟨by decide, fun h => absurd h.intoNothing (by decide)⟩⟩

end Promise

end Querying
