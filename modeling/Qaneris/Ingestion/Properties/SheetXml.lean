import Qaneris.Ingestion.SheetXml

/-!
# What the expressions over the raw XML see

A reference is seen when it is the first attribute of its tag, stands in double quotes with no white
space around the equals sign, its qualifier is made of word characters, and all of it up to the
closing quote lies in one window. The facts are exactly the greatest row and column that are seen.
-/

namespace Ingestion

open Infra

/-! ## Classes of bytes -/

theorem isSpaceByte_iff {b : UInt8} :
    isSpaceByte b = true ↔ b.toNat = 32 ∨ 9 ≤ b.toNat ∧ b.toNat ≤ 13 := by
  simp [isSpaceByte, UInt8.le_iff_toNat_le, ← UInt8.toNat_inj]

theorem isDigitByte_iff {b : UInt8} : isDigitByte b = true ↔ 48 ≤ b.toNat ∧ b.toNat ≤ 57 := by
  simp [isDigitByte, UInt8.le_iff_toNat_le]

theorem isLetterByte_iff {b : UInt8} :
    isLetterByte b = true ↔
      65 ≤ b.toNat ∧ b.toNat ≤ 90 ∨ 97 ≤ b.toNat ∧ b.toNat ≤ 122 := by
  simp [isLetterByte, UInt8.le_iff_toNat_le]

theorem isWordByte_iff {b : UInt8} :
    isWordByte b = true ↔ 48 ≤ b.toNat ∧ b.toNat ≤ 57 ∨
      (65 ≤ b.toNat ∧ b.toNat ≤ 90 ∨ 97 ≤ b.toNat ∧ b.toNat ≤ 122) ∨ b.toNat = 95 := by
  simp [isWordByte, isDigitByte_iff, isLetterByte_iff, ← UInt8.toNat_inj, or_assoc]

theorem toNat_ne {b c : UInt8} (h : b.toNat ≠ c.toNat) : b ≠ c := by
  rintro rfl
  exact h rfl

theorem not_word_of_space {b : UInt8} (h : isSpaceByte b = true) :
    isWordByte b = false ∧ b ≠ 0x3A := by
  rw [isSpaceByte_iff] at h
  refine ⟨?_, toNat_ne ?_⟩
  · rw [← Bool.not_eq_true, isWordByte_iff]
    omega
  · show b.toNat ≠ 58
    omega

theorem not_digit_of_letter {b : UInt8} (h : isDigitByte b = true) : isLetterByte b = false := by
  rw [isDigitByte_iff] at h
  rw [← Bool.not_eq_true, isLetterByte_iff]
  omega

/-! ## The texts of the expressions -/

def openingBytes (qualifier : Option (List UInt8)) (name : List UInt8) : List UInt8 :=
  0x3C :: (qualifier.elim [] (· ++ [0x3A]) ++ name)

/-- `<name` or `<qualifier:name`, the qualifier of word characters. -/
def IsOpening (name w : List UInt8) : Prop :=
  ∃ qualifier : Option (List UInt8),
    (∀ q ∈ qualifier, q ≠ [] ∧ ∀ b ∈ q, isWordByte b = true) ∧ w = openingBytes qualifier name

/-- `<name r="value"` -/
def IsReference (name value w : List UInt8) : Prop :=
  ∃ front space, IsOpening name front ∧ space ≠ [] ∧ (∀ b ∈ space, isSpaceByte b = true) ∧
    w = front ++ (space ++ (ascii "r=\"" ++ (value ++ ascii "\"")))

def IsDigits (w : List UInt8) : Prop := w ≠ [] ∧ ∀ b ∈ w, isDigitByte b = true

def IsLetters (w : List UInt8) : Prop := w ≠ [] ∧ ∀ b ∈ w, isLetterByte b = true

def RowText (w : List UInt8) (gs : List (Nat × List UInt8)) : Prop :=
  ∃ digits, IsDigits digits ∧ IsReference (ascii "row") digits w ∧ gs = [(1, digits)]

def CellText (w : List UInt8) (gs : List (Nat × List UInt8)) : Prop :=
  ∃ letters digits, IsLetters letters ∧ IsDigits digits ∧
    IsReference (ascii "c") (letters ++ digits) w ∧ gs = [(2, digits), (1, letters)]

/-- `<mergeCell` and the end of the name. -/
def MergeText (w : List UInt8) (gs : List (Nat × List UInt8)) : Prop :=
  ∃ front stop, IsOpening (ascii "mergeCell") front ∧
    (isSpaceByte stop || stop == 0x2F || stop == 0x3E) = true ∧ w = front ++ [stop] ∧ gs = []

theorem lang_opened {name w : List UInt8} (h : (opened name).Lang w) : IsOpening name w := by
  obtain ⟨_, _, hlt, ⟨q, n, hq, hn, rfl⟩, rfl⟩ := h
  rw [Regex.lang_lit] at hlt hn
  obtain rfl := hlt
  obtain rfl := hn
  rcases hq with ⟨word, colon, hword, hcolon, rfl⟩ | rfl
  · rw [Regex.lang_lit] at hcolon
    obtain rfl := hcolon
    refine ⟨some word, ?_, rfl⟩
    intro q hq
    obtain rfl := Option.some.inj hq
    exact Regex.lang_plus_one hword
  · exact ⟨none, fun q hq => absurd hq (by simp), rfl⟩

theorem lang_reference {name w : List UInt8} {value : Regex UInt8}
    (h : (reference name value).Lang w) : ∃ v, value.Lang v ∧ IsReference name v w := by
  obtain ⟨front, _, hfront, ⟨space, _, hspace, ⟨r, _, hr, ⟨v, q, hv, hq, rfl⟩, rfl⟩, rfl⟩, rfl⟩ := h
  rw [Regex.lang_lit] at hr hq
  obtain rfl := hr
  obtain rfl := hq
  obtain ⟨hne, hall⟩ := Regex.lang_plus_one hspace
  exact ⟨v, hv, front, space, lang_opened hfront, hne, hall, rfl⟩

/-! ## A text is read wherever it stands -/

/-- Two splits of a text behind the longest part of a class are the same. -/
theorem eq_of_split {α : Type} {p : α → Bool} {u v rest more : List α} {x : α}
    (hu : ∀ b ∈ u, p b = true) (hv : ∀ b ∈ v, p b = true) (hx : p x = false)
    (hrest : ∀ b, rest.head? = some b → p b = false) (h : u ++ x :: more = v ++ rest) :
    u = v ∧ rest = x :: more := by
  have htake := congrArg (List.takeWhile p) h
  have hstop : rest.takeWhile p = [] := by
    cases rest with
    | nil => rfl
    | cons b rest => rw [List.takeWhile_cons_of_neg (by rw [hrest b rfl]; decide)]
  rw [List.takeWhile_append_of_pos hu, List.takeWhile_append_of_pos hv,
    List.takeWhile_cons_of_neg (by rw [hx]; decide), hstop, List.append_nil, List.append_nil] at htake
  subst htake
  exact ⟨rfl, (List.append_cancel_left h).symm⟩

theorem first_opened {name w : List UInt8} (before rest : List UInt8)
    (hname : ∀ b ∈ name, isWordByte b = true) (hw : IsOpening name w)
    (hrest : ∀ b, rest.head? = some b → isWordByte b = false ∧ b ≠ 0x3A) :
    (opened name).first { before, after := w ++ rest } =
      some (Cursor.skip { before, after := w ++ rest } w rest) := by
  obtain ⟨qualifier, hq, rfl⟩ := hw
  set c : Cursor UInt8 := { before, after := openingBytes qualifier name ++ rest } with hc
  cases qualifier with
  | none =>
    have hlt : (Regex.lit (ascii "<")).first c = some (c.skip (ascii "<") (name ++ rest)) :=
      Regex.first_lit _ _ rfl
    have hopt : (Regex.opt (.seq (.plus (.one isWordByte)) (.lit (ascii ":")))).first
        (c.skip (ascii "<") (name ++ rest)) = some (c.skip (ascii "<") (name ++ rest)) := by
      refine Regex.first_opt_of_none (Regex.first_none_of_lang ?_)
      rintro _ ⟨word, colon, hword, hcolon, rfl⟩ ⟨more, hmore⟩
      rw [Regex.lang_lit] at hcolon
      obtain rfl := hcolon
      rw [List.append_assoc] at hmore
      have hstop : ∀ b, rest.head? = some b → isWordByte b = false := fun b hb => (hrest b hb).1
      obtain ⟨-, hsplit⟩ := eq_of_split (Regex.lang_plus_one hword).2 hname (by decide) hstop hmore
      exact (hrest 0x3A (by rw [hsplit]; rfl)).2 rfl
    have hlit : (Regex.lit name).first (c.skip (ascii "<") (name ++ rest)) =
        some ((c.skip (ascii "<") (name ++ rest)).skip name rest) := Regex.first_lit _ _ rfl
    rw [Cursor.skip_skip] at hlit
    exact Regex.first_seq_some hlt (Regex.first_seq_some hopt hlit)
  | some q =>
    obtain ⟨hne, hword⟩ := hq q rfl
    have hlt : (Regex.lit (ascii "<")).first c =
        some (c.skip (ascii "<") (q ++ (ascii ":" ++ (name ++ rest)))) := by
      refine Regex.first_lit _ _ ?_
      rw [hc]
      simp only [openingBytes, Option.elim_some, List.append_assoc, List.cons_append]
      rfl
    have hplus := Regex.first_plus_one (p := isWordByte)
      (c := c.skip (ascii "<") (q ++ (ascii ":" ++ (name ++ rest)))) hne rfl hword
      (fun b hb => by obtain rfl := Option.some.inj hb; decide)
    have hcolon := Regex.first_lit (ascii ":") (name ++ rest)
      (c := (c.skip (ascii "<") (q ++ (ascii ":" ++ (name ++ rest)))).skip q
        (ascii ":" ++ (name ++ rest))) rfl
    have hopt := Regex.first_opt (Regex.first_seq_some hplus hcolon)
    rw [Cursor.skip_skip, Cursor.skip_skip] at hopt
    have hlit := Regex.first_lit name rest
      (c := c.skip (ascii "<" ++ q ++ ascii ":") (name ++ rest)) rfl
    rw [Cursor.skip_skip] at hlit
    have hfirst := Regex.first_seq_some hlt (Regex.first_seq_some hopt hlit)
    have hfront : ascii "<" ++ q ++ ascii ":" ++ name = openingBytes (some q) name := by
      simp only [openingBytes, Option.elim_some, List.append_assoc]
      rfl
    rw [hfront] at hfirst
    exact hfirst

theorem ascii_quote : ascii "\"" = [0x22] := rfl

theorem first_reference {name v w : List UInt8} {value : Regex UInt8}
    {gs : List (Nat × List UInt8)} (hname : ∀ b ∈ name, isWordByte b = true)
    (hw : IsReference name v w)
    (hvalue : ∀ before rest, value.first { before, after := v ++ (ascii "\"" ++ rest) } =
      some { before := v.reverse ++ before, after := ascii "\"" ++ rest, groups := gs }) :
    ∀ before rest, (reference name value).first { before, after := w ++ rest } =
      some { before := w.reverse ++ before, after := rest, groups := gs } := by
  intro before rest
  obtain ⟨front, space, hfront, hne, hspace, rfl⟩ := hw
  set tail := ascii "r=\"" ++ (v ++ (ascii "\"" ++ rest)) with htail
  have hafter : front ++ (space ++ (ascii "r=\"" ++ (v ++ ascii "\""))) ++ rest =
      front ++ (space ++ tail) := by
    simp only [htail, List.append_assoc]
  rw [hafter]
  set c : Cursor UInt8 := { before, after := front ++ (space ++ tail) } with hc
  have hopened : (opened name).first c = some (c.skip front (space ++ tail)) := by
    refine first_opened _ _ hname hfront ?_
    intro b hb
    obtain ⟨a, space, rfl⟩ := List.exists_cons_of_ne_nil hne
    obtain rfl := Option.some.inj hb
    exact not_word_of_space (hspace _ List.mem_cons_self)
  have hplus : (Regex.plus (.one isSpaceByte)).first (c.skip front (space ++ tail)) =
      some (c.skip (front ++ space) tail) := by
    rw [Regex.first_plus_one hne rfl hspace
      (fun b hb => by obtain rfl := Option.some.inj hb; decide), Cursor.skip_skip]
  have hr : (Regex.lit (ascii "r=\"")).first (c.skip (front ++ space) tail) =
      some (c.skip (front ++ space ++ ascii "r=\"") (v ++ (ascii "\"" ++ rest))) := by
    rw [Regex.first_lit _ (v ++ (ascii "\"" ++ rest)) rfl, Cursor.skip_skip]
  have hv := hvalue (c.skip (front ++ space ++ ascii "r=\"") (v ++ (ascii "\"" ++ rest))).before rest
  have hq := Regex.first_lit (ascii "\"") rest
    (c := { before := v.reverse ++ (c.skip (front ++ space ++ ascii "r=\"")
      (v ++ (ascii "\"" ++ rest))).before, after := ascii "\"" ++ rest, groups := gs }) rfl
  refine (Regex.first_seq_some hopened <| Regex.first_seq_some hplus <| Regex.first_seq_some hr <|
    Regex.first_seq_some hv hq).trans ?_
  simp only [Cursor.skip, List.reverse_append, List.append_assoc, hc]

theorem first_digits {n : Nat} {digits : List UInt8} (gs : List (Nat × List UInt8))
    (h : IsDigits digits) (before rest : List UInt8) :
    (Regex.group n (.plus (.one isDigitByte))).first
        { before, after := digits ++ (ascii "\"" ++ rest), groups := gs } =
      some { before := digits.reverse ++ before, after := ascii "\"" ++ rest,
             groups := (n, digits) :: gs } := by
  have hplus := Regex.first_plus_one (p := isDigitByte)
    (c := { before, after := digits ++ (ascii "\"" ++ rest), groups := gs }) h.1 rfl h.2
    (fun b hb => by obtain rfl := Option.some.inj hb; decide)
  rw [Regex.first_group hplus, Cursor.Reads.read_eq ⟨rfl, rfl⟩]
  rfl

theorem first_letters {n : Nat} {letters digits : List UInt8} (hl : IsLetters letters)
    (hd : IsDigits digits) (before rest : List UInt8) :
    (Regex.group n (.plus (.one isLetterByte))).first
        { before, after := letters ++ (digits ++ rest) } =
      some { before := letters.reverse ++ before, after := digits ++ rest,
             groups := [(n, letters)] } := by
  have hplus := Regex.first_plus_one (p := isLetterByte)
    (c := { before, after := letters ++ (digits ++ rest) }) hl.1 rfl hl.2 (fun b hb => by
      obtain ⟨d, ds, rfl⟩ := List.exists_cons_of_ne_nil hd.1
      obtain rfl := Option.some.inj hb
      exact not_digit_of_letter (hd.2 _ List.mem_cons_self))
  rw [Regex.first_group hplus, Cursor.Reads.read_eq ⟨rfl, rfl⟩]
  rfl

theorem rowReference_recognises : rowReference.Recognises RowText where
  shape w hw := by
    obtain ⟨v, hv, href⟩ := lang_reference hw
    exact ⟨[(1, v)], v, Regex.lang_plus_one hv, href, rfl⟩
  first w gs hshape := by
    obtain ⟨digits, hdigits, href, rfl⟩ := hshape
    exact first_reference (List.all_eq_true.mp (by decide)) href fun before rest => first_digits _ hdigits before rest

theorem cellReference_recognises : cellReference.Recognises CellText where
  shape w hw := by
    obtain ⟨_, ⟨letters, digits, hl, hd, rfl⟩, href⟩ := lang_reference hw
    exact ⟨[(2, digits), (1, letters)], letters, digits, Regex.lang_plus_one hl,
      Regex.lang_plus_one hd, href, rfl⟩
  first w gs hshape := by
    obtain ⟨letters, digits, hl, hd, href, rfl⟩ := hshape
    refine first_reference (List.all_eq_true.mp (by decide)) href fun before rest => ?_
    have hfirst := Regex.first_seq_some
      (first_letters (n := 1) hl hd before (ascii "\"" ++ rest))
      (first_digits (n := 2) [(1, letters)] hd (letters.reverse ++ before) rest)
    rw [List.append_assoc, List.reverse_append, List.append_assoc]
    exact hfirst

theorem mergeElement_recognises : mergeElement.Recognises MergeText where
  shape w hw := by
    obtain ⟨front, _, hfront, ⟨stop, hstop, rfl⟩, rfl⟩ := hw
    exact ⟨[], front, stop, lang_opened hfront, hstop, rfl, rfl⟩
  first w gs hshape := by
    obtain ⟨front, stop, hfront, hstop, rfl, rfl⟩ := hshape
    intro before rest
    have hnot : isWordByte stop = false ∧ stop ≠ 0x3A := by
      simp only [Bool.or_eq_true, beq_iff_eq] at hstop
      rcases hstop with (hstop | rfl) | rfl
      · exact not_word_of_space hstop
      · decide
      · decide
    have hopened := first_opened before ([stop] ++ rest) (List.all_eq_true.mp (by decide)) hfront
      (fun b hb => by obtain rfl := Option.some.inj hb; exact hnot)
    have hone := Regex.first_one (p := fun b => isSpaceByte b || b == 0x2F || b == 0x3E)
      (c := Cursor.skip { before, after := front ++ ([stop] ++ rest) } front ([stop] ++ rest))
      rfl hstop
    rw [List.append_assoc]
    refine (Regex.first_seq_some hopened hone).trans ?_
    rw [Cursor.skip_skip, List.reverse_append]
    simp [Cursor.skip]

/-! ## No text of the expressions holds another -/

theorem isOpening_tail {name w : List UInt8} (hname : ∀ b ∈ name, isWordByte b = true)
    (h : IsOpening name w) : ∃ v, w = 0x3C :: v ∧ ∀ b ∈ v, b ≠ 0x3C := by
  have hword : ∀ {b : UInt8}, isWordByte b = true → b ≠ 0x3C := by
    intro b hb
    rw [isWordByte_iff] at hb
    exact toNat_ne (by show b.toNat ≠ 60; omega)
  obtain ⟨qualifier, hq, rfl⟩ := h
  refine ⟨_, rfl, ?_⟩
  intro b hb
  rcases List.mem_append.mp hb with hb | hb
  · cases qualifier with
    | none => exact absurd hb List.not_mem_nil
    | some q =>
      rcases List.mem_append.mp hb with hb | hb
      · exact hword ((hq q rfl).2 b hb)
      · rw [List.mem_singleton.mp hb]
        decide
  · exact hword (hname b hb)

theorem isReference_tail {name v w : List UInt8} (hname : ∀ b ∈ name, isWordByte b = true)
    (hv : ∀ b ∈ v, b ≠ 0x3C) (h : IsReference name v w) :
    ∃ u, w = 0x3C :: u ∧ 0x3C ∉ u := by
  obtain ⟨front, space, hfront, -, hspace, rfl⟩ := h
  obtain ⟨u, rfl, hu⟩ := isOpening_tail hname hfront
  refine ⟨_, rfl, ?_⟩
  intro hmem
  rcases List.mem_append.mp hmem with hmem | hmem
  · exact hu _ hmem rfl
  rcases List.mem_append.mp hmem with hmem | hmem
  · exact absurd (hspace _ hmem) (by decide)
  rcases List.mem_append.mp hmem with hmem | hmem
  · exact absurd hmem (by decide)
  rcases List.mem_append.mp hmem with hmem | hmem
  · exact hv _ hmem rfl
  · exact absurd hmem (by decide)

theorem ne_mark_of_digit {b : UInt8} (h : isDigitByte b = true) : b ≠ 0x3C := by
  rw [isDigitByte_iff] at h
  exact toNat_ne (by show b.toNat ≠ 60; omega)

theorem ne_mark_of_letter {b : UInt8} (h : isLetterByte b = true) : b ≠ 0x3C := by
  rw [isLetterByte_iff] at h
  exact toNat_ne (by show b.toNat ≠ 60; omega)

theorem rowReference_headed : rowReference.Headed 0x3C := by
  intro w hw
  obtain ⟨_, digits, hdigits, href, -⟩ := rowReference_recognises.shape w hw
  exact isReference_tail (List.all_eq_true.mp (by decide)) (fun b hb => ne_mark_of_digit (hdigits.2 b hb)) href

theorem cellReference_headed : cellReference.Headed 0x3C := by
  intro w hw
  obtain ⟨_, letters, digits, hletters, hdigits, href, -⟩ := cellReference_recognises.shape w hw
  refine isReference_tail (List.all_eq_true.mp (by decide)) (fun b hb => ?_) href
  rcases List.mem_append.mp hb with hb | hb
  · exact ne_mark_of_letter (hletters.2 b hb)
  · exact ne_mark_of_digit (hdigits.2 b hb)

theorem mergeElement_headed : mergeElement.Headed 0x3C := by
  intro w hw
  obtain ⟨_, front, stop, hfront, hstop, rfl, -⟩ := mergeElement_recognises.shape w hw
  obtain ⟨u, rfl, hu⟩ := isOpening_tail (List.all_eq_true.mp (by decide)) hfront
  refine ⟨u ++ [stop], rfl, ?_⟩
  intro hmem
  rcases List.mem_append.mp hmem with hmem | hmem
  · exact hu _ hmem rfl
  · rw [← List.mem_singleton.mp hmem] at hstop
    exact absurd hstop (by decide)

/-! ## What is seen -/

/-- The text stands in the bytes and lies in one window. -/
def Seen (bytes w : List UInt8) : Prop :=
  ∃ before after, bytes = before ++ w ++ after ∧
    WithinWindow xmlChunkBytes xmlChunkOverlap before.length w.length

def SeenRow (bytes digits : List UInt8) : Prop :=
  ∃ w, IsDigits digits ∧ IsReference (ascii "row") digits w ∧ Seen bytes w

def SeenCell (bytes letters digits : List UInt8) : Prop :=
  ∃ w, IsLetters letters ∧ IsDigits digits ∧ IsReference (ascii "c") (letters ++ digits) w ∧
    Seen bytes w

def SeenMerge (bytes : List UInt8) : Prop := ∃ w, MergeText w [] ∧ Seen bytes w

/-- **A match in some window is a text that is seen.** -/
theorem matches_iff {r : Regex UInt8} {Shape : List UInt8 → List (Nat × List UInt8) → Prop}
    (hr : r.Recognises Shape) (hheaded : r.Headed 0x3C) (bytes : List UInt8)
    {Q : List (Nat × List UInt8) → Prop} :
    (∃ window ∈ windows xmlChunkBytes xmlChunkOverlap bytes, ∃ m ∈ r.finditer window, Q m.groups) ↔
      ∃ w gs, Shape w gs ∧ Seen bytes w ∧ Q gs := by
  have hne : ∀ {w : List UInt8} {gs : List (Nat × List UInt8)}, Shape w gs → w ≠ [] := by
    rintro w gs hshape rfl
    obtain ⟨v, hv, -, -⟩ := hheaded.less (hr.first [] gs hshape [] [])
    have hlength := congrArg List.length hv.1
    simp only [List.length_append, List.length_nil, List.length_cons] at hlength
    omega
  constructor
  · rintro ⟨window, hwindow, m, hm, hq⟩
    obtain ⟨hshape, hinfix⟩ := (hr.mem_finditer_iff hheaded).mp hm
    exact ⟨m.text, m.groups, hshape,
      (infix_window_iff (by decide) (hne hshape)).mp ⟨window, hwindow, hinfix⟩, hq⟩
  · rintro ⟨w, gs, hshape, hseen, hq⟩
    obtain ⟨window, hwindow, hinfix⟩ := (infix_window_iff (by decide) (hne hshape)).mpr hseen
    exact ⟨window, hwindow, ⟨w, gs⟩, (hr.mem_finditer_iff hheaded).mpr ⟨hshape, hinfix⟩, hq⟩

theorem rowMatches_iff (bytes : List UInt8) {Q : List UInt8 → Prop} :
    (∃ window ∈ windows xmlChunkBytes xmlChunkOverlap bytes,
        ∃ m ∈ rowReference.finditer window, Q (m.group 1)) ↔
      ∃ digits, SeenRow bytes digits ∧ Q digits := by
  have h := matches_iff rowReference_recognises rowReference_headed bytes
    (Q := fun gs => Q ((gs.lookup 1).getD []))
  refine h.trans ?_
  constructor
  · rintro ⟨w, _, ⟨digits, hdigits, href, rfl⟩, hseen, hq⟩
    exact ⟨digits, ⟨w, hdigits, href, hseen⟩, hq⟩
  · rintro ⟨digits, ⟨w, hdigits, href, hseen⟩, hq⟩
    exact ⟨w, _, ⟨digits, hdigits, href, rfl⟩, hseen, hq⟩

theorem cellMatches_iff (bytes : List UInt8) {Q : List UInt8 → List UInt8 → Prop} :
    (∃ window ∈ windows xmlChunkBytes xmlChunkOverlap bytes,
        ∃ m ∈ cellReference.finditer window, Q (m.group 1) (m.group 2)) ↔
      ∃ letters digits, SeenCell bytes letters digits ∧ Q letters digits := by
  have h := matches_iff cellReference_recognises cellReference_headed bytes
    (Q := fun gs => Q ((gs.lookup 1).getD []) ((gs.lookup 2).getD []))
  refine h.trans ?_
  constructor
  · rintro ⟨w, _, ⟨letters, digits, hletters, hdigits, href, rfl⟩, hseen, hq⟩
    exact ⟨letters, digits, ⟨w, hletters, hdigits, href, hseen⟩, hq⟩
  · rintro ⟨letters, digits, ⟨w, hletters, hdigits, href, hseen⟩, hq⟩
    exact ⟨w, _, ⟨letters, digits, hletters, hdigits, href, rfl⟩, hseen, hq⟩

theorem hasMerge_iff {bytes : List UInt8} :
    (∃ window ∈ windows xmlChunkBytes xmlChunkOverlap bytes, hasMerge window = true) ↔
      SeenMerge bytes := by
  have h := matches_iff mergeElement_recognises mergeElement_headed bytes
    (Q := fun _ => True)
  simp only [and_true] at h
  have hmerge : ∀ window, hasMerge window = true ↔ ∃ m, m ∈ mergeElement.finditer window := by
    intro window
    unfold hasMerge
    rw [Bool.not_eq_true', List.isEmpty_eq_false_iff_exists_mem]
  simp only [hmerge]
  refine h.trans ?_
  constructor
  · rintro ⟨w, _, ⟨front, stop, hfront, hstop, hw, rfl⟩, hseen⟩
    exact ⟨w, ⟨front, stop, hfront, hstop, hw, rfl⟩, hseen⟩
  · rintro ⟨w, hshape, hseen⟩
    exact ⟨w, [], hshape, hseen⟩

/-! ## The facts -/

section Folds

variable {σ β : Type}

/-- A fold that stops at the first item that is not good. -/
theorem foldlM_guarded {step : σ → β → Option σ} {good : β → Prop} [DecidablePred good]
    {add : σ → β → σ} (h : ∀ s x, step s x = if good x then some (add s x) else none) :
    ∀ (l : List β) (s : σ),
      l.foldlM step s = if ∀ x ∈ l, good x then some (l.foldl add s) else none := by
  intro l
  induction l with
  | nil =>
    intro s
    simp
  | cons x l ih =>
    intro s
    rw [List.foldlM_cons, h]
    by_cases hx : good x
    · simp only [hx, if_true, Option.bind_eq_bind, Option.bind_some, ih, List.forall_mem_cons,
        true_and, List.foldl_cons]
    · simp [hx]

/-- What holds after a fold held before it or comes from an item. -/
theorem foldl_holds_iff (add : σ → β → σ) {P : σ → Prop} {Q : β → Prop}
    (h : ∀ s x, P (add s x) ↔ P s ∨ Q x) :
    ∀ (l : List β) (s : σ), P (l.foldl add s) ↔ P s ∨ ∃ x ∈ l, Q x := by
  intro l
  induction l with
  | nil =>
    intro s
    simp
  | cons x l ih =>
    intro s
    rw [List.foldl_cons, ih, h, or_assoc, List.exists_mem_cons_iff]

end Folds

def isShort (digits : List UInt8) : Prop := digits.length ≤ maxDigits

instance : DecidablePred isShort := fun _ => inferInstanceAs (Decidable (_ ≤ _))

def withRow (facts : SheetXmlFacts) (m : Regex.Match UInt8) : SheetXmlFacts :=
  { facts with rowExtent := max facts.rowExtent (numberOf (m.group 1)) }

def withCell (facts : SheetXmlFacts) (m : Regex.Match UInt8) : SheetXmlFacts :=
  { facts with columnExtent := max facts.columnExtent (columnIndex (m.group 1)),
               rowExtent := max facts.rowExtent (numberOf (m.group 2)) }

def withWindow (facts : SheetXmlFacts) (window : List UInt8) : SheetXmlFacts :=
  (cellReference.finditer window).foldl withCell <|
  (rowReference.finditer window).foldl withRow
    { facts with hasMergedRange := facts.hasMergedRange || hasMerge window }

/-- Every number of the window is one that `int` reads. -/
def GoodWindow (window : List UInt8) : Prop :=
  (∀ m ∈ rowReference.finditer window, isShort (m.group 1)) ∧
    ∀ m ∈ cellReference.finditer window, isShort (m.group 2)

instance : DecidablePred GoodWindow := fun _ => inferInstanceAs (Decidable (_ ∧ _))

theorem int?_eq (digits : List UInt8) :
    int? digits = if isShort digits then some (numberOf digits) else none := rfl

theorem addRow_eq (facts : SheetXmlFacts) (m : Regex.Match UInt8) :
    addRow facts m = if isShort (m.group 1) then some (withRow facts m) else none := by
  unfold addRow
  rw [int?_eq]
  split
  · rfl
  · rfl

theorem addCell_eq (facts : SheetXmlFacts) (m : Regex.Match UInt8) :
    addCell facts m = if isShort (m.group 2) then some (withCell facts m) else none := by
  unfold addCell
  rw [int?_eq]
  split
  · rfl
  · rfl

theorem addWindow_eq (facts : SheetXmlFacts) (window : List UInt8) :
    addWindow facts window = if GoodWindow window then some (withWindow facts window) else none := by
  unfold addWindow
  simp only [foldlM_guarded addRow_eq, foldlM_guarded addCell_eq]
  by_cases hgood : GoodWindow window
  · rw [if_pos hgood]
    simp only [if_pos hgood.1, if_pos hgood.2, Option.bind_eq_bind, Option.bind_some]
    rfl
  · rw [if_neg hgood]
    by_cases hrows : ∀ m ∈ rowReference.finditer window, isShort (m.group 1)
    · have hcells : ¬ ∀ m ∈ cellReference.finditer window, isShort (m.group 2) :=
        fun h => hgood ⟨hrows, h⟩
      simp only [if_pos hrows, if_neg hcells, Option.bind_eq_bind, Option.bind_some]
    · simp only [if_neg hrows, Option.bind_eq_bind, Option.bind_none]

theorem sheetXmlFacts_eq (bytes : List UInt8) :
    sheetXmlFacts (some bytes) =
      if ∀ window ∈ windows xmlChunkBytes xmlChunkOverlap bytes, GoodWindow window then
        some ((windows xmlChunkBytes xmlChunkOverlap bytes).foldl withWindow {})
      else none :=
  foldlM_guarded addWindow_eq _ _

theorem le_rowExtent_withWindow {n : Nat} (facts : SheetXmlFacts) (window : List UInt8) :
    n ≤ (withWindow facts window).rowExtent ↔ n ≤ facts.rowExtent ∨
      ((∃ m ∈ rowReference.finditer window, n ≤ numberOf (m.group 1)) ∨
        ∃ m ∈ cellReference.finditer window, n ≤ numberOf (m.group 2)) := by
  have hrow := foldl_holds_iff withRow (P := fun facts : SheetXmlFacts => n ≤ facts.rowExtent)
    (Q := fun m => n ≤ numberOf (m.group 1)) (fun facts m => by simp only [withRow]; omega)
  have hcell := foldl_holds_iff withCell
    (P := fun facts : SheetXmlFacts => n ≤ facts.rowExtent)
    (Q := fun m => n ≤ numberOf (m.group 2)) (fun facts m => by simp only [withCell]; omega)
  rw [← or_assoc]
  exact (hcell _ _).trans (or_congr (hrow _ _) Iff.rfl)

theorem le_columnExtent_withWindow {n : Nat} (facts : SheetXmlFacts) (window : List UInt8) :
    n ≤ (withWindow facts window).columnExtent ↔ n ≤ facts.columnExtent ∨
      ∃ m ∈ cellReference.finditer window, n ≤ columnIndex (m.group 1) := by
  have hrow := foldl_holds_iff withRow
    (P := fun facts : SheetXmlFacts => n ≤ facts.columnExtent) (Q := fun _ => False)
    (fun facts m => by simp only [withRow, or_false])
  have hcell := foldl_holds_iff withCell
    (P := fun facts : SheetXmlFacts => n ≤ facts.columnExtent)
    (Q := fun m => n ≤ columnIndex (m.group 1)) (fun facts m => by simp only [withCell]; omega)
  refine (hcell _ _).trans (or_congr ((hrow _ _).trans ?_) Iff.rfl)
  simp

theorem hasMergedRange_withWindow (facts : SheetXmlFacts) (window : List UInt8) :
    (withWindow facts window).hasMergedRange = true ↔
      facts.hasMergedRange = true ∨ hasMerge window = true := by
  have hrow := foldl_holds_iff withRow
    (P := fun facts : SheetXmlFacts => facts.hasMergedRange = true) (Q := fun _ => False)
    (fun facts m => by simp only [withRow, or_false])
  have hcell := foldl_holds_iff withCell
    (P := fun facts : SheetXmlFacts => facts.hasMergedRange = true) (Q := fun _ => False)
    (fun facts m => by simp only [withCell, or_false])
  refine (hcell _ _).trans ((or_congr (hrow _ _) Iff.rfl).trans ?_)
  simp

/-- A row number that is seen, in a row or in a cell. -/
def SeenRowNumber (bytes digits : List UInt8) : Prop :=
  SeenRow bytes digits ∨ ∃ letters, SeenCell bytes letters digits

theorem goodWindows_iff (bytes : List UInt8) :
    (∀ window ∈ windows xmlChunkBytes xmlChunkOverlap bytes, GoodWindow window) ↔
      ∀ digits, SeenRowNumber bytes digits → isShort digits := by
  have hrows := rowMatches_iff bytes (Q := fun digits => ¬ isShort digits)
  have hcells := cellMatches_iff bytes (Q := fun _ digits => ¬ isShort digits)
  constructor
  · intro h digits hseen
    by_contra hlong
    rcases hseen with hseen | ⟨letters, hseen⟩
    · obtain ⟨window, hwindow, m, hm, hq⟩ := hrows.mpr ⟨digits, hseen, hlong⟩
      exact hq ((h window hwindow).1 m hm)
    · obtain ⟨window, hwindow, m, hm, hq⟩ := hcells.mpr ⟨letters, digits, hseen, hlong⟩
      exact hq ((h window hwindow).2 m hm)
  · intro h window hwindow
    constructor
    · intro m hm
      by_contra hlong
      obtain ⟨digits, hseen, hlong⟩ := hrows.mp ⟨window, hwindow, m, hm, hlong⟩
      exact hlong (h digits (.inl hseen))
    · intro m hm
      by_contra hlong
      obtain ⟨letters, digits, hseen, hlong⟩ := hcells.mp ⟨window, hwindow, m, hm, hlong⟩
      exact hlong (h digits (.inr ⟨letters, hseen⟩))

/-- **What the facts are.** They are computed when every number that is seen is short enough, and
they are the greatest numbers that are seen. -/
theorem sheetXmlFacts_spec (bytes : List UInt8) :
    ((∃ facts, sheetXmlFacts (some bytes) = some facts) ↔
      ∀ digits, SeenRowNumber bytes digits → isShort digits) ∧
    ∀ facts, sheetXmlFacts (some bytes) = some facts →
      (∀ n, n ≤ facts.rowExtent ↔
        n = 0 ∨ ∃ digits, SeenRowNumber bytes digits ∧ n ≤ numberOf digits) ∧
      (∀ n, n ≤ facts.columnExtent ↔
        n = 0 ∨ ∃ letters digits, SeenCell bytes letters digits ∧ n ≤ columnIndex letters) ∧
      (facts.hasMergedRange = true ↔ SeenMerge bytes) := by
  rw [sheetXmlFacts_eq, ← goodWindows_iff]
  constructor
  · constructor
    · rintro ⟨facts, h⟩
      by_contra hbad
      rw [if_neg hbad] at h
      exact absurd h (by simp)
    · intro h
      exact ⟨_, if_pos h⟩
  · intro facts h
    obtain rfl : (windows xmlChunkBytes xmlChunkOverlap bytes).foldl withWindow {} = facts := by
      split at h
      · exact Option.some.inj h
      · exact absurd h (by simp)
    refine ⟨?_, ?_, ?_⟩
    · intro n
      have hfold := foldl_holds_iff withWindow (P := fun facts : SheetXmlFacts => n ≤ facts.rowExtent)
        (le_rowExtent_withWindow (n := n)) (windows xmlChunkBytes xmlChunkOverlap bytes) {}
      have hrows := rowMatches_iff bytes (Q := fun digits => n ≤ numberOf digits)
      have hcells := cellMatches_iff bytes (Q := fun _ digits => n ≤ numberOf digits)
      refine hfold.trans (or_congr Nat.le_zero ?_)
      constructor
      · rintro ⟨window, hwindow, hm | hm⟩
        · obtain ⟨digits, hseen, hn⟩ := hrows.mp ⟨window, hwindow, hm⟩
          exact ⟨digits, .inl hseen, hn⟩
        · obtain ⟨letters, digits, hseen, hn⟩ := hcells.mp ⟨window, hwindow, hm⟩
          exact ⟨digits, .inr ⟨letters, hseen⟩, hn⟩
      · rintro ⟨digits, hseen | ⟨letters, hseen⟩, hn⟩
        · obtain ⟨window, hwindow, hm⟩ := hrows.mpr ⟨digits, hseen, hn⟩
          exact ⟨window, hwindow, .inl hm⟩
        · obtain ⟨window, hwindow, hm⟩ := hcells.mpr ⟨letters, digits, hseen, hn⟩
          exact ⟨window, hwindow, .inr hm⟩
    · intro n
      have hfold := foldl_holds_iff withWindow (P := fun facts : SheetXmlFacts => n ≤ facts.columnExtent)
        (le_columnExtent_withWindow (n := n)) (windows xmlChunkBytes xmlChunkOverlap bytes) {}
      exact hfold.trans (or_congr Nat.le_zero
        (cellMatches_iff _ (Q := fun letters _ => n ≤ columnIndex letters)))
    · have hfold := foldl_holds_iff withWindow (P := fun facts : SheetXmlFacts => facts.hasMergedRange = true)
        hasMergedRange_withWindow (windows xmlChunkBytes xmlChunkOverlap bytes) {}
      refine hfold.trans ?_
      rw [hasMerge_iff]
      simp

/-! ## What is hidden -/

/-- No row, no column and no merged range of the worksheet is beyond the facts. -/
structure Covers (facts : SheetXmlFacts) (sheet : Worksheet) : Prop where
  rows : ∀ n ∈ sheet.rows, n ≤ facts.rowExtent
  columns : ∀ cell ∈ sheet.cells, cell.1 ≤ facts.columnExtent ∧ cell.2 ≤ facts.rowExtent
  merged : sheet.merged = true → facts.hasMergedRange = true

/-- Every number that is seen can be read, and for each row, each column and a merged cell something
is seen that reaches as far. -/
structure Visible (bytes : List UInt8) (sheet : Worksheet) : Prop where
  short : ∀ digits, SeenRowNumber bytes digits → isShort digits
  rows : ∀ n ∈ sheet.rows, n = 0 ∨ ∃ digits, SeenRowNumber bytes digits ∧ n ≤ numberOf digits
  columns : ∀ cell ∈ sheet.cells,
    (cell.1 = 0 ∨ ∃ letters digits, SeenCell bytes letters digits ∧ cell.1 ≤ columnIndex letters) ∧
      (cell.2 = 0 ∨ ∃ digits, SeenRowNumber bytes digits ∧ cell.2 ≤ numberOf digits)
  merged : sheet.merged = true → SeenMerge bytes

/-- **The facts of a worksheet cover it exactly when it is visible**, under any encoding. -/
theorem covers_iff (encode : Char → List UInt8) (sheet : Worksheet) :
    (∃ facts, sheetXmlFacts (some (sheet.bytes encode)) = some facts ∧ Covers facts sheet) ↔
      Visible (sheet.bytes encode) sheet := by
  obtain ⟨hok, hfacts⟩ := sheetXmlFacts_spec (sheet.bytes encode)
  constructor
  · rintro ⟨facts, h, hcovers⟩
    obtain ⟨hrow, hcolumn, hmerge⟩ := hfacts facts h
    exact
      { short := hok.mp ⟨facts, h⟩
        rows := fun n hn => (hrow n).mp (hcovers.rows n hn)
        columns := fun cell hcell =>
          ⟨(hcolumn _).mp (hcovers.columns cell hcell).1, (hrow _).mp (hcovers.columns cell hcell).2⟩
        merged := fun hm => hmerge.mp (hcovers.merged hm) }
  · intro hvisible
    obtain ⟨facts, h⟩ := hok.mpr hvisible.short
    obtain ⟨hrow, hcolumn, hmerge⟩ := hfacts facts h
    exact ⟨facts, h,
      { rows := fun n hn => (hrow n).mpr (hvisible.rows n hn)
        columns := fun cell hcell =>
          ⟨(hcolumn _).mpr (hvisible.columns cell hcell).1,
            (hrow _).mpr (hvisible.columns cell hcell).2⟩
        merged := fun hm => hmerge.mpr (hvisible.merged hm) }⟩

/-- `<worksheet><sheetData><row r='7'/></sheetData></worksheet>` -/
def singleQuoted : Worksheet where
  pieces :=
    [.start { name := "worksheet".toList },
     .start { name := "sheetData".toList },
     .start { name := "row".toList, closed := true,
              attributes := [{ space := [' '], name := ['r'], quotes := .single,
                               value := [.plain '7'] }] },
     .other "</sheetData></worksheet>".toList]

def asciiOf (c : Char) : List UInt8 := [c.toNat.toUInt8]

/-- A row whose reference stands in single quotes is not seen. -/
theorem single_quoted_row_hidden :
    ¬ ∃ facts, sheetXmlFacts (some (singleQuoted.bytes asciiOf)) = some facts ∧
      Covers facts singleQuoted := by
  rintro ⟨facts, hfacts, hcovers⟩
  have hread : sheetXmlFacts (some (singleQuoted.bytes asciiOf)) = some {} := by decide
  have hrow : 7 ∈ singleQuoted.rows := by decide
  rw [hread] at hfacts
  obtain rfl := Option.some.inj hfacts
  exact absurd (hcovers.rows 7 hrow) (by decide)

end Ingestion
