import Qaneris.Answering.Composer

/-!
# The numbers of an answer

A run is a maximal sequence of decimal digits once the commas that separate thousands are gone. The
guard compares tokens, and a token is cut by an expression that reads nothing beside an ASCII letter:
a run with a unit after it is in no token.

* An answer is read when each of its runs is in one of its tokens.
* Evidence is whole when each run of its tokens is one of its own runs.

`guard_supports` shows that these two are exactly what the guard needs.
-/

namespace Answering

open Infra

/-! ## Runs of digits -/

/-- A comma after a digit separates thousands when exactly three digits follow. -/
def joinThousands (afterDigit : Bool) : List Char → List Char
  | [] => []
  | c :: rest =>
    if c == ',' && afterDigit && (rest.takeWhile isDecimal).length == 3 then
      joinThousands false rest
    else c :: joinThousands (isDecimal c) rest

def digitRuns (text : List Char) : List (List Char) :=
  ((joinThousands false text).splitOnP fun c => !isDecimal c).filter (!·.isEmpty)

mutual

/-- The texts in a value: its strings, its keys and its numbers as they are written. -/
def textsOf (reprFloat : Rat → List Char) : Json → List (List Char)
  | .null => []
  | .bool _ => []
  | .int n => [(toString n).toList]
  | .real q => [reprFloat q]
  | .str s => [s.toList]
  | .arr items => textsOfItems reprFloat items
  | .obj fields => textsOfFields reprFloat fields

def textsOfItems (reprFloat : Rat → List Char) : List Json → List (List Char)
  | [] => []
  | item :: items => textsOf reprFloat item ++ textsOfItems reprFloat items

def textsOfFields (reprFloat : Rat → List Char) : List (String × Json) → List (List Char)
  | [] => []
  | (key, value) :: fields =>
    key.toList :: (textsOf reprFloat value ++ textsOfFields reprFloat fields)

end

/-- The runs of a question and of a projection. -/
def evidenceRuns (reprFloat : Rat → List Char) (question : String) (projection : Json) :
    List (List Char) :=
  digitRuns question.toList ++ (textsOf reprFloat projection).flatMap digitRuns

/-- An answer the guard lets through has only runs of the evidence. -/
def Supports (reprFloat : Rat → List Char) (question : String) (projection : Json)
    (answer : String) : Prop :=
  (NumberEvidenceGuard.of reprFloat [.str question, projection]).allows answer = true →
    ∀ r ∈ digitRuns answer.toList, r ∈ evidenceRuns reprFloat question projection

/-- Every run is in a token. -/
def Read (answer : String) : Prop :=
  ∀ r ∈ digitRuns answer.toList, ∃ t ∈ numberTokens answer.toList, r ∈ digitRuns t

/-- No token is cut out of a longer run. -/
def Whole (reprFloat : Rat → List Char) (question : String) (projection : Json) : Prop :=
  ∀ t ∈ (NumberEvidenceGuard.of reprFloat [.str question, projection]).allowed,
    ∀ r ∈ digitRuns t, r ∈ evidenceRuns reprFloat question projection

theorem allows_iff {guard : NumberEvidenceGuard} {answer : String} :
    guard.allows answer = true ↔ ∀ t ∈ numberTokens answer.toList, t ∈ guard.allowed := by
  simp only [NumberEvidenceGuard.allows, List.all_eq_true, List.contains_iff_mem]

/-! ## The shape of a token -/

/-- A sign, digits, a fraction and a percent sign, of which only the digits must be there. -/
structure IsToken (sign digits fraction percent : List Char) : Prop where
  sign : sign = [] ∨ ∃ c, isSign c = true ∧ sign = [c]
  digits : digits ≠ [] ∧ ∀ c ∈ digits, isDecimal c = true
  fraction : fraction = [] ∨
    ∃ ds, ds ≠ [] ∧ (∀ c ∈ ds, isDecimal c = true) ∧ fraction = '.' :: ds
  percent : percent = [] ∨ percent = ['%']

def Token (t : List Char) : Prop :=
  ∃ sign digits fraction percent,
    IsToken sign digits fraction percent ∧ t = sign ++ (digits ++ (fraction ++ percent))

theorem isSign_ne {c : Char} (h : isSign c = true) : c = '-' ∨ c = '+' := by
  simpa only [isSign, Bool.or_eq_true, beq_iff_eq] using h

theorem ne_of_isDecimal {c d : Char} (h : isDecimal c = true) (hd : isDecimal d = false) :
    c ≠ d := by
  rintro rfl
  rw [h] at hd
  exact absurd hd (by decide)

theorem filter_comma_of_decimal {w : List Char} (h : ∀ c ∈ w, isDecimal c = true) :
    w.filter (· != ',') = w := by
  rw [List.filter_eq_self]
  intro c hc
  rw [bne_iff_ne]
  exact ne_of_isDecimal (h c hc) (by decide)

theorem lang_times_decimal {n : Nat} {w : List Char}
    (h : (Regex.times (.one isDecimal) n).Lang w) : ∀ c ∈ w, isDecimal c = true := by
  induction n generalizing w with
  | zero =>
    intro c hc
    rw [show w = [] from h] at hc
    exact absurd hc List.not_mem_nil
  | succ n ih =>
    obtain ⟨u, v, ⟨x, hx, rfl⟩, hv, rfl⟩ := h
    intro c hc
    rcases List.mem_cons.mp hc with rfl | hc
    · exact hx
    · exact ih hv c hc

/-- Without its commas a list of groups is a list of digits. -/
theorem filter_comma_groups {ws : List (List Char)}
    (h : ∀ u ∈ ws, (Regex.seq (.one (· == ',')) (.times (.one isDecimal) 3)).Lang u) :
    ∀ c ∈ ws.flatten.filter (· != ','), isDecimal c = true := by
  intro c hc
  obtain ⟨hmem, hne⟩ := List.mem_filter.mp hc
  obtain ⟨u, hu, hcu⟩ := List.mem_flatten.mp hmem
  obtain ⟨v, w, ⟨x, hx, rfl⟩, hw, rfl⟩ := h u hu
  rcases List.mem_cons.mp hcu with rfl | hcw
  · simp only [beq_iff_eq] at hx
    rw [hx] at hne
    exact absurd hne (by decide)
  · exact lang_times_decimal hw c hcw

theorem token_of_lang {w : List Char} (h : number.Lang w) : Token (w.filter (· != ',')) := by
  obtain ⟨_, _, rfl, ⟨sign, _, hsign, ⟨first, _, hfirst, ⟨_, _, ⟨groups, hgroups, rfl⟩,
    ⟨fraction, _, hfraction, ⟨percent, _, hpercent, rfl, rfl⟩, rfl⟩, rfl⟩, rfl⟩, rfl⟩, rfl⟩ := h
  have hdigits := Regex.lang_plus_one hfirst
  refine ⟨sign, first ++ groups.flatten.filter (· != ','), fraction, percent, ⟨?_, ⟨?_, ?_⟩, ?_, ?_⟩,
    ?_⟩
  · rcases hsign with ⟨c, hc, rfl⟩ | rfl
    · exact .inr ⟨c, hc, rfl⟩
    · exact .inl rfl
  · intro hnil
    exact hdigits.1 (List.append_eq_nil_iff.mp hnil).1
  · intro c hc
    rcases List.mem_append.mp hc with hc | hc
    · exact hdigits.2 c hc
    · exact filter_comma_groups hgroups c hc
  · rcases hfraction with ⟨_, ds, ⟨dot, hdot, rfl⟩, hds, rfl⟩ | rfl
    · obtain rfl : dot = '.' := by simpa only [beq_iff_eq] using hdot
      have := Regex.lang_plus_one hds
      exact .inr ⟨ds, this.1, this.2, rfl⟩
    · exact .inl rfl
  · rcases hpercent with ⟨c, hc, rfl⟩ | rfl
    · obtain rfl : c = '%' := by simpa only [beq_iff_eq] using hc
      exact .inr rfl
    · exact .inl rfl
  · have hs : sign.filter (· != ',') = sign := by
      rcases hsign with ⟨c, hc, rfl⟩ | rfl
      · rcases isSign_ne hc with rfl | rfl <;> rfl
      · rfl
    have hf : fraction.filter (· != ',') = fraction := by
      rcases hfraction with ⟨_, ds, ⟨dot, hdot, rfl⟩, hds, rfl⟩ | rfl
      · obtain rfl : dot = '.' := by simpa only [beq_iff_eq] using hdot
        have hkeep := filter_comma_of_decimal (Regex.lang_plus_one hds).2
        show '.' :: ds.filter (· != ',') = '.' :: ds
        rw [hkeep]
      · rfl
    have hp : percent.filter (· != ',') = percent := by
      rcases hpercent with ⟨c, hc, rfl⟩ | rfl
      · obtain rfl : c = '%' := by simpa only [beq_iff_eq] using hc
        rfl
      · rfl
    simp only [List.nil_append, List.append_nil, List.filter_append, hs, hf, hp,
      filter_comma_of_decimal hdigits.2, List.append_assoc]

/-- **A token is a signed number with an optional fraction**, whatever text it was cut from. -/
theorem token_of_mem {t value : List Char} (h : t ∈ numberTokens value) : Token t := by
  obtain ⟨m, hm, rfl⟩ := List.mem_map.mp h
  exact token_of_lang (Regex.lang_of_mem_finditer hm)

/-! ## A token that stands alone is read again -/

/-- What may follow a token that stands alone: nothing, a blank or a quotation mark. -/
def Stops (rest : List Char) : Prop := ∀ x, rest.head? = some x → x = ' ' ∨ x = '"'

theorem stops_nil : Stops [] := by
  intro x hx
  exact absurd hx (by simp)

theorem isDecimal_of_sign {c : Char} (h : isSign c = true) : isDecimal c = false := by
  rcases isSign_ne h with rfl | rfl
  · decide
  · decide

theorem head_percent {percent rest : List Char} (hp : percent = [] ∨ percent = ['%'])
    (hrest : Stops rest) :
    ∀ x, (percent ++ rest).head? = some x → x = '%' ∨ x = ' ' ∨ x = '"' := by
  intro x hx
  rcases hp with rfl | rfl
  · exact .inr (hrest x hx)
  · exact .inl (Option.some.inj hx).symm

theorem head_fraction {fraction tail : List Char}
    (hf : fraction = [] ∨ ∃ ds, ds ≠ [] ∧ (∀ c ∈ ds, isDecimal c = true) ∧ fraction = '.' :: ds)
    (htail : ∀ x, tail.head? = some x → x = '%' ∨ x = ' ' ∨ x = '"') :
    ∀ x, (fraction ++ tail).head? = some x → x = '.' ∨ x = '%' ∨ x = ' ' ∨ x = '"' := by
  intro x hx
  rcases hf with rfl | ⟨ds, -, -, rfl⟩
  · exact .inr (htail x hx)
  · exact .inl (Option.some.inj hx).symm

theorem isDecimal_of_head {x : Char} (h : x = '.' ∨ x = '%' ∨ x = ' ' ∨ x = '"') :
    isDecimal x = false := by
  rcases h with rfl | rfl | rfl | rfl <;> decide

/-- **The expression reads a token that stands alone from its first to its last character.** -/
theorem first_number {t rest : List Char} (before : List Char) (ht : Token t)
    (hbefore : ∀ x, before.head? = some x → isAsciiAlnum x = false) (hrest : Stops rest) :
    number.first { before, after := t ++ rest } =
      some (Cursor.skip { before, after := t ++ rest } t rest) := by
  obtain ⟨sign, digits, fraction, percent, ⟨hsign, ⟨hne, hdigits⟩, hfraction, hpercent⟩, rfl⟩ := ht
  have htail := head_percent hpercent hrest
  have hmid := head_fraction hfraction htail
  set c : Cursor Char :=
    { before, after := sign ++ (digits ++ (fraction ++ percent)) ++ rest } with hc
  have hbehind : (Regex.notBehind isAsciiAlnum).first c = some c := by
    refine Regex.first_assert ?_
    show (!before.head?.any isAsciiAlnum) = true
    cases hb : before.head? with
    | none => rfl
    | some x => rw [Option.any_some, hbefore x hb, Bool.not_false]
  have hopt : (Regex.opt (.one isSign)).first c =
      some (c.skip sign (digits ++ (fraction ++ (percent ++ rest)))) := by
    rcases hsign with rfl | ⟨s, hs, rfl⟩
    · have hnone : (Regex.one isSign).first c = none := by
        refine Regex.first_one_none ?_
        intro x hx
        obtain ⟨d, ds, rfl⟩ := List.exists_cons_of_ne_nil hne
        obtain rfl : d = x := Option.some.inj hx
        by_contra h
        have hd := hdigits d List.mem_cons_self
        rw [isDecimal_of_sign (Bool.not_eq_false _ ▸ h)] at hd
        exact absurd hd (by decide)
      rw [Regex.first_opt_of_none hnone, hc]
      simp only [Cursor.skip, List.nil_append, List.reverse_nil, List.append_assoc]
    · refine Regex.first_opt (Regex.first_one ?_ hs)
      rw [hc]
      simp only [List.cons_append, List.nil_append, List.append_assoc]
  have hplus : (Regex.plus (.one isDecimal)).first
        (c.skip sign (digits ++ (fraction ++ (percent ++ rest)))) =
      some (c.skip (sign ++ digits) (fraction ++ (percent ++ rest))) := by
    rw [Regex.first_plus_one hne rfl hdigits fun x hx => isDecimal_of_head (hmid x hx),
      Cursor.skip_skip]
  have hgroups : (Regex.star (.seq (.one (· == ',')) (.times (.one isDecimal) 3))).first
        (c.skip (sign ++ digits) (fraction ++ (percent ++ rest))) =
      some (c.skip (sign ++ digits) (fraction ++ (percent ++ rest))) := by
    refine Regex.first_star_of_none (Regex.first_seq_none (Regex.first_one_none ?_))
    intro x hx
    rcases hmid x hx with rfl | rfl | rfl | rfl <;> decide
  have hopt' : (Regex.opt (.seq (.one (· == '.')) (.plus (.one isDecimal)))).first
        (c.skip (sign ++ digits) (fraction ++ (percent ++ rest))) =
      some (c.skip (sign ++ digits ++ fraction) (percent ++ rest)) := by
    rcases hfraction with rfl | ⟨ds, hds, hall, rfl⟩
    · rw [List.append_nil]
      refine Regex.first_opt_of_none (Regex.first_seq_none (Regex.first_one_none ?_))
      intro x hx
      rcases htail x hx with rfl | rfl | rfl <;> decide
    · refine Regex.first_opt (Regex.first_seq_some (Regex.first_one rfl (by decide)) ?_)
      rw [Regex.first_plus_one hds rfl hall fun x hx => isDecimal_of_head (.inr (htail x hx)),
        Cursor.skip_skip, Cursor.skip_skip]
      simp only [List.append_assoc, List.singleton_append]
  have hopt'' : (Regex.opt (.one (· == '%'))).first
        (c.skip (sign ++ digits ++ fraction) (percent ++ rest)) =
      some (c.skip (sign ++ (digits ++ (fraction ++ percent))) rest) := by
    rcases hpercent with rfl | rfl
    · rw [List.append_nil, ← List.append_assoc]
      refine Regex.first_opt_of_none (Regex.first_one_none ?_)
      intro x hx
      rcases hrest x hx with rfl | rfl <;> decide
    · have hone := Regex.first_one (p := (· == '%'))
        (c := c.skip (sign ++ digits ++ fraction) (['%'] ++ rest)) rfl (by decide)
      rw [Regex.first_opt hone, Cursor.skip_skip, List.append_assoc, List.append_assoc]
      rfl
  have hahead : (Regex.notAhead isAsciiAlnum).first
        (c.skip (sign ++ (digits ++ (fraction ++ percent))) rest) =
      some (c.skip (sign ++ (digits ++ (fraction ++ percent))) rest) := by
    refine Regex.first_assert ?_
    show (!rest.head?.any isAsciiAlnum) = true
    cases hr : rest.head? with
    | none => rfl
    | some x => rcases hrest x hr with rfl | rfl <;> decide
  exact Regex.first_seq_some hbehind <| Regex.first_seq_some hopt <|
    Regex.first_seq_some hplus <| Regex.first_seq_some hgroups <|
    Regex.first_seq_some hopt' <| Regex.first_seq_some hopt'' hahead

/-- Nothing is read where neither a sign nor a digit comes next. -/
theorem first_number_none {c : Cursor Char}
    (h : ∀ x, c.after.head? = some x → isSign x = false ∧ isDecimal x = false) :
    number.first c = none := by
  have hsign : (Regex.opt (.one isSign)).ends c = [c] :=
    Regex.ends_opt_of_none (Regex.first_one_none fun x hx => (h x hx).1)
  have hplus : (Regex.plus (.one isDecimal)).first c = none :=
    Regex.first_plus_one_none fun x hx => (h x hx).2
  unfold number
  rcases Regex.ends_assert_cases (fun b _ => !b.any isAsciiAlnum) c with hbehind | hbehind
  · rw [Regex.notBehind, Regex.first_seq_single hbehind, Regex.first_seq_single hsign]
    exact Regex.first_seq_none hplus
  · exact Regex.first_seq_none (Regex.ends_eq_nil_iff.mp hbehind)

theorem token_ne_nil {t : List Char} (ht : Token t) : t ≠ [] := by
  obtain ⟨sign, digits, fraction, percent, hparts, rfl⟩ := ht
  intro hnil
  exact hparts.digits.1 (List.append_eq_nil_iff.mp (List.append_eq_nil_iff.mp hnil).2).1

theorem not_comma_of_token {t : List Char} (ht : Token t) : ∀ c ∈ t, c ≠ ',' := by
  obtain ⟨sign, digits, fraction, percent, ⟨hsign, ⟨-, hdigits⟩, hfraction, hpercent⟩, rfl⟩ := ht
  intro c hc
  rcases List.mem_append.mp hc with hc | hc
  · rcases hsign with rfl | ⟨s, hs, rfl⟩
    · exact absurd hc List.not_mem_nil
    · rcases isSign_ne hs with rfl | rfl
      · rw [List.mem_singleton.mp hc]
        decide
      · rw [List.mem_singleton.mp hc]
        decide
  rcases List.mem_append.mp hc with hc | hc
  · exact ne_of_isDecimal (hdigits c hc) (by decide)
  rcases List.mem_append.mp hc with hc | hc
  · rcases hfraction with rfl | ⟨ds, -, hds, rfl⟩
    · exact absurd hc List.not_mem_nil
    · rcases List.mem_cons.mp hc with rfl | hc
      · decide
      · exact ne_of_isDecimal (hds c hc) (by decide)
  · rcases hpercent with rfl | rfl
    · exact absurd hc List.not_mem_nil
    · rw [List.mem_singleton.mp hc]
      decide

/-- Tokens, a blank before each. -/
def spaced (ts : List (List Char)) : List Char := ts.flatMap fun t => ' ' :: t

theorem stops_spaced (ts : List (List Char)) {back : List Char} (h : Stops back) :
    Stops (spaced ts ++ back) := by
  intro x hx
  cases ts with
  | nil => exact h x hx
  | cons t ts => exact .inl (Option.some.inj hx).symm

/-- **Spaced tokens are read one after another**, and nothing else is. -/
theorem matchesAt_spaced {back : List Char} (hback : Stops back)
    (hnone : ∀ before : List Char, number.matchesAt { before, after := back } = []) :
    ∀ (ts : List (List Char)), (∀ t ∈ ts, Token t) → ∀ before : List Char,
      (number.matchesAt { before, after := spaced ts ++ back }).map (·.text) = ts := by
  intro ts
  induction ts with
  | nil =>
    intro _ before
    show (number.matchesAt { before, after := back }).map (·.text) = []
    rw [hnone]
    rfl
  | cons t ts ih =>
    intro hts before
    have ht := hts t List.mem_cons_self
    have hafter : spaced (t :: ts) ++ back = ' ' :: (t ++ (spaced ts ++ back)) := by
      simp only [spaced, List.flatMap_cons, List.cons_append, List.append_assoc]
    have hblank : number.first { before, after := ' ' :: (t ++ (spaced ts ++ back)) } = none := by
      refine first_number_none ?_
      intro x hx
      obtain rfl : ' ' = x := Option.some.inj hx
      decide
    have htoken := first_number (' ' :: before) ht
      (fun x hx => by obtain rfl : ' ' = x := Option.some.inj hx; decide)
      (stops_spaced ts hback)
    have hless : (spaced ts ++ back).length < (t ++ (spaced ts ++ back)).length := by
      have := List.length_pos_of_ne_nil (token_ne_nil ht)
      rw [@List.length_append _ t]
      omega
    rw [hafter, Regex.matchesAt_of_none hblank rfl]
    show (number.matchesAt { before := ' ' :: before, after := t ++ (spaced ts ++ back) }).map
      (·.text) = t :: ts
    rw [Regex.matchesAt_of_first htoken hless, List.map_cons]
    have hread : Cursor.read { before := ' ' :: before, after := t ++ (spaced ts ++ back) }
        (Cursor.skip { before := ' ' :: before, after := t ++ (spaced ts ++ back) } t
          (spaced ts ++ back)) = t :=
      Cursor.Reads.read_eq ⟨rfl, rfl⟩
    rw [hread]
    exact congrArg _ (ih (fun u hu => hts u (List.mem_cons_of_mem _ hu)) _)

/-- Matches whose texts are tokens are their own tokens: there is no comma to drop. -/
theorem tokens_of_texts {ms : List (Regex.Match Char)} {ts : List (List Char)}
    (hms : ms.map (·.text) = ts) (h : ∀ t ∈ ts, Token t) :
    ms.map (fun m => m.text.filter (· != ',')) = ts := by
  calc ms.map (fun m => m.text.filter (· != ','))
      = ts.map (·.filter (· != ',')) := by rw [← hms, List.map_map]; rfl
    _ = ts.map id := by
        refine List.map_congr_left ?_
        intro t ht
        show t.filter (· != ',') = t
        rw [List.filter_eq_self]
        intro c hc
        rw [bne_iff_ne]
        exact not_comma_of_token (h t ht) c hc
    _ = ts := List.map_id ts

theorem numberTokens_spaced {ts : List (List Char)} (h : ∀ t ∈ ts, Token t) :
    numberTokens (spaced ts) = ts := by
  have hread := matchesAt_spaced stops_nil (fun _ => Regex.matchesAt_nil rfl) ts h []
  rw [List.append_nil] at hread
  exact tokens_of_texts hread h

theorem first_number_quote (before rest : List Char) :
    number.first { before, after := '"' :: rest } = none := by
  refine first_number_none ?_
  intro x hx
  obtain rfl : '"' = x := Option.some.inj hx
  decide

theorem numberTokens_quoted {ts : List (List Char)} (h : ∀ t ∈ ts, Token t) :
    numberTokens ('"' :: (spaced ts ++ ['"'])) = ts := by
  have hstops : Stops ['"'] := by
    intro x hx
    exact .inr (Option.some.inj hx).symm
  have hend : ∀ before : List Char, number.matchesAt { before, after := ['"'] } = [] := by
    intro before
    rw [Regex.matchesAt_of_none (first_number_quote before []) rfl]
    exact Regex.matchesAt_nil rfl
  have hread := matchesAt_spaced hstops hend ts h ['"']
  refine tokens_of_texts ?_ h
  rw [Regex.finditer_eq, Regex.matchesAt_of_none (first_number_quote [] _) rfl]
  exact hread

/-! ## The text of a token needs no escape -/

theorem escapeChar_of_isDecimal {c : Char} (h : isDecimal c = true) : Json.escapeChar c = [c] := by
  have hlow : 0x30 ≤ c.toNat := by
    obtain ⟨z, hz, hc⟩ := List.any_eq_true.mp h
    have hmin : ∀ z ∈ decimalZeros, 0x30 ≤ z := by decide
    simp only [Bool.and_eq_true, decide_eq_true_eq] at hc
    exact Nat.le_trans (hmin z hz) hc.1
  have hq : c ≠ '"' := ne_of_isDecimal h (by decide)
  have hb : c ≠ '\\' := ne_of_isDecimal h (by decide)
  have hn : c ≠ '\n' := ne_of_isDecimal h (by decide)
  have hr : c ≠ '\r' := ne_of_isDecimal h (by decide)
  have ht : c ≠ '\t' := ne_of_isDecimal h (by decide)
  unfold Json.escapeChar
  rw [if_neg hq, if_neg hb, if_neg hn, if_neg hr, if_neg ht, if_neg (by omega), if_neg (by omega),
    if_neg (by omega)]

theorem escapeChar_of_mem_token {t : List Char} (ht : Token t) :
    ∀ c ∈ t, Json.escapeChar c = [c] := by
  obtain ⟨sign, digits, fraction, percent, ⟨hsign, ⟨-, hdigits⟩, hfraction, hpercent⟩, rfl⟩ := ht
  intro c hc
  rcases List.mem_append.mp hc with hc | hc
  · rcases hsign with rfl | ⟨s, hs, rfl⟩
    · exact absurd hc List.not_mem_nil
    · rcases isSign_ne hs with rfl | rfl
      · rw [List.mem_singleton.mp hc]
        decide
      · rw [List.mem_singleton.mp hc]
        decide
  rcases List.mem_append.mp hc with hc | hc
  · exact escapeChar_of_isDecimal (hdigits c hc)
  rcases List.mem_append.mp hc with hc | hc
  · rcases hfraction with rfl | ⟨ds, -, hds, rfl⟩
    · exact absurd hc List.not_mem_nil
    · rcases List.mem_cons.mp hc with rfl | hc
      · decide
      · exact escapeChar_of_isDecimal (hds c hc)
  · rcases hpercent with rfl | rfl
    · exact absurd hc List.not_mem_nil
    · rw [List.mem_singleton.mp hc]
      decide

theorem quote_spaced {ts : List (List Char)} (h : ∀ t ∈ ts, Token t) :
    Json.quote (String.ofList (spaced ts)) = '"' :: (spaced ts ++ ['"']) := by
  have hescape : (spaced ts).flatMap Json.escapeChar = (spaced ts).flatMap fun c => [c] := by
    refine List.flatMap_congr ?_
    intro c hc
    obtain ⟨t, ht, hct⟩ := List.mem_flatMap.mp hc
    rcases List.mem_cons.mp hct with rfl | hct
    · decide
    · exact escapeChar_of_mem_token (h t ht) c hct
  unfold Json.quote
  rw [String.toList_ofList, hescape, List.flatMap_singleton']

/-! ## The runs of spaced tokens -/

theorem takeWhile_blank (a b : List Char) :
    (a ++ ' ' :: b).takeWhile isDecimal = a.takeWhile isDecimal := by
  induction a with
  | nil => rfl
  | cons c a ih => simp only [List.cons_append, List.takeWhile_cons, ih]

theorem joinThousands_blank (b : List Char) :
    ∀ (a : List Char) (d : Bool),
      joinThousands d (a ++ ' ' :: b) = joinThousands d a ++ ' ' :: joinThousands false b := by
  intro a
  induction a with
  | nil =>
    intro d
    rfl
  | cons c a ih =>
    intro d
    simp only [List.cons_append, joinThousands, takeWhile_blank]
    split
    · exact ih false
    · rw [ih, List.cons_append]

/-- A blank ends a run. -/
theorem digitRuns_blank (a b : List Char) :
    digitRuns (a ++ ' ' :: b) = digitRuns a ++ digitRuns b := by
  unfold digitRuns
  rw [joinThousands_blank, List.splitOnP_append_cons _ _ (by decide), List.filter_append]

theorem digitRuns_spaced (ts : List (List Char)) :
    ∀ a : List Char, digitRuns (a ++ spaced ts) = digitRuns a ++ ts.flatMap digitRuns := by
  induction ts with
  | nil =>
    intro a
    simp only [spaced, List.flatMap_nil, List.append_nil]
  | cons t ts ih =>
    intro a
    have hafter : a ++ spaced (t :: ts) = a ++ ' ' :: (t ++ spaced ts) := by
      simp only [spaced, List.flatMap_cons, List.cons_append]
    rw [hafter, digitRuns_blank, ih, List.flatMap_cons]

theorem mem_digitRuns_spaced {ts : List (List Char)} {r : List Char} :
    r ∈ digitRuns (spaced ts) ↔ ∃ t ∈ ts, r ∈ digitRuns t := by
  have h := digitRuns_spaced ts []
  rw [List.nil_append] at h
  rw [h, List.mem_append, List.mem_flatMap]
  exact or_iff_right List.not_mem_nil

/-! ## What the guard needs -/

variable (reprFloat : Rat → List Char)

/-- The tokens of a question made of spaced tokens. -/
theorem allowed_spaced {ts : List (List Char)} (h : ∀ t ∈ ts, Token t) :
    (NumberEvidenceGuard.of reprFloat [.str (String.ofList (spaced ts)), .null]).allowed = ts := by
  have hnull : numberTokens "null".toList = [] := by decide
  simp only [NumberEvidenceGuard.of, List.flatMap_cons, List.flatMap_nil, Json.dumps]
  rw [quote_spaced h, numberTokens_quoted h, hnull, List.append_nil, List.append_nil]

variable {reprFloat}

theorem supports_of_whole {question : String} {projection : Json} {answer : String}
    (hwhole : Whole reprFloat question projection) (hread : Read answer) :
    Supports reprFloat question projection answer := by
  intro hallows r hr
  obtain ⟨t, ht, hrt⟩ := hread r hr
  exact hwhole t (allows_iff.mp hallows t ht) r hrt

theorem token_of_mem_allowed {question : String} {projection : Json} {t : List Char}
    (h : t ∈ (NumberEvidenceGuard.of reprFloat [.str question, projection]).allowed) : Token t := by
  obtain ⟨item, -, ht⟩ := List.mem_flatMap.mp h
  exact token_of_mem ht

/-- A token of the evidence is an answer of its own. -/
theorem whole_of_supports {question : String} {projection : Json}
    (h : ∀ answer, Read answer → Supports reprFloat question projection answer) :
    Whole reprFloat question projection := by
  intro t ht r hr
  have htoken : ∀ u ∈ [t], Token u := by
    intro u hu
    rw [List.mem_singleton.mp hu]
    exact token_of_mem_allowed ht
  have htokens : numberTokens (String.ofList (spaced [t])).toList = [t] := by
    rw [String.toList_ofList, numberTokens_spaced htoken]
  have hread : Read (String.ofList (spaced [t])) := by
    intro s hs
    rw [String.toList_ofList] at hs
    rw [htokens]
    exact mem_digitRuns_spaced.mp hs
  refine h _ hread (allows_iff.mpr ?_) r ?_
  · intro u hu
    rw [htokens] at hu
    rwa [List.mem_singleton.mp hu]
  · rw [String.toList_ofList]
    exact mem_digitRuns_spaced.mpr ⟨t, List.mem_singleton_self t, hr⟩

/-- The tokens of an answer are evidence of their own. -/
theorem read_of_supports {answer : String}
    (h : ∀ question projection, Whole reprFloat question projection →
      Supports reprFloat question projection answer) : Read answer := by
  intro r hr
  set ts := numberTokens answer.toList with hts
  have htoken : ∀ t ∈ ts, Token t := fun t ht => token_of_mem ht
  have hallowed := allowed_spaced reprFloat htoken
  have hruns : ∀ s, s ∈ evidenceRuns reprFloat (String.ofList (spaced ts)) .null ↔
      ∃ t ∈ ts, s ∈ digitRuns t := by
    intro s
    unfold evidenceRuns textsOf
    rw [String.toList_ofList, List.flatMap_nil, List.append_nil]
    exact mem_digitRuns_spaced
  have hwhole : Whole reprFloat (String.ofList (spaced ts)) .null := by
    intro t ht s hs
    rw [hallowed] at ht
    exact (hruns s).mpr ⟨t, ht, hs⟩
  have hallows : (NumberEvidenceGuard.of reprFloat
      [.str (String.ofList (spaced ts)), .null]).allows answer = true := by
    rw [allows_iff, hallowed]
    exact fun t ht => ht
  exact (hruns r).mp (h _ _ hwhole hallows r hr)

/-- **A text of the model that is kept has passed the guard** over the question and the projection
the model was given, and says so when the result is cut off. -/
theorem allows_of_model {composer : AnswerComposer} {question : String} {result : Result}
    {summary : Json} {fallback text : String}
    (h : composer.compose question result summary fallback = ⟨text, .model⟩) :
    (NumberEvidenceGuard.of composer.reprFloat [.str (composer.safeText question),
        composer.projection result summary]).allows text = true ∧
      (result.truncated = true → ∃ term ∈ ["截断", "部分", "上限"],
        AnswerComposer.contains text.toList term.toList = true) := by
  have hne : ∀ {t : String}, (⟨t, .deterministicFallback⟩ : AnswerComposition) ≠ ⟨text, .model⟩ :=
    fun h => Source.noConfusion (congrArg AnswerComposition.source h)
  unfold AnswerComposer.compose at h
  split at h
  · exact absurd h hne
  simp only at h
  split at h
  · exact absurd h hne
  split at h
  · exact absurd h hne
  split at h
  · exact absurd h hne
  · rename_i hallows
    split at h
    · exact absurd h hne
    · rename_i hlimit
      obtain rfl := congrArg AnswerComposition.text h
      refine ⟨by simpa using hallows, ?_⟩
      intro htruncated
      rw [htruncated, Bool.true_and, Bool.not_eq_true', Bool.not_eq_false] at hlimit
      exact List.any_eq_true.mp hlimit

end Answering
