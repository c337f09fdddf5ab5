/-!
# Lines and blocks of a text

A line break is `\r?\n`, and a block ends at the first blank line, `\r?\n\r?\n`. What is cut off
the front of a text is cut off in the same way when more text follows it.
-/

namespace Infra

/-! ## Cutting -/

/-- What follows a line break `\r?\n` that the text starts with. -/
def dropBreak : List Char → Option (List Char)
  | '\n' :: rest => some rest
  | '\r' :: '\n' :: rest => some rest
  | _ => none

/-- What follows a blank line `\r?\n\r?\n` that the text starts with. -/
def dropBlank (text : List Char) : Option (List Char) := (dropBreak text).bind dropBreak

/-- The text up to its first blank line, and what follows that blank line. -/
def splitBlank : List Char → Option (List Char × List Char)
  | [] => none
  | c :: text =>
    match dropBlank (c :: text) with
    | some rest => some ([], rest)
    | none => (splitBlank text).map fun cut => (c :: cut.1, cut.2)

/-- `text.split(/\r?\n/)` -/
def splitLines : List Char → List (List Char)
  | [] => [[]]
  | '\n' :: text => [] :: splitLines text
  | '\r' :: '\n' :: text => [] :: splitLines text
  | c :: text =>
    match splitLines text with
    | [] => [[c]]
    | line :: lines => (c :: line) :: lines

/-- Lines with `\n` between them. -/
def joinLines : List (List Char) → List Char
  | [] => []
  | [line] => line
  | line :: lines => line ++ '\n' :: joinLines lines

attribute [local simp] dropBreak dropBlank splitLines

/-! ## More text behind -/

theorem dropBreak_append {text rest : List Char} (more : List Char)
    (h : dropBreak text = some rest) : dropBreak (text ++ more) = some (rest ++ more) := by
  unfold dropBreak at h
  split at h
  · cases h
    rfl
  · cases h
    rfl
  · cases h

theorem dropBlank_append {text rest : List Char} (more : List Char)
    (h : dropBlank text = some rest) : dropBlank (text ++ more) = some (rest ++ more) := by
  unfold dropBlank at h ⊢
  obtain ⟨mid, hmid, hrest⟩ := Option.bind_eq_some_iff.mp h
  rw [dropBreak_append more hmid]
  exact dropBreak_append more hrest

theorem dropBreak_length {text rest : List Char} (h : dropBreak text = some rest) :
    rest.length < text.length := by
  unfold dropBreak at h
  split at h
  · cases h
    simp
  · cases h
    simp only [List.length_cons]
    omega
  · cases h

theorem dropBlank_length {text rest : List Char} (h : dropBlank text = some rest) :
    rest.length < text.length := by
  obtain ⟨mid, hmid, hrest⟩ := Option.bind_eq_some_iff.mp h
  exact Nat.lt_trans (dropBreak_length hrest) (dropBreak_length hmid)

theorem splitBlank_length : ∀ {text block rest : List Char}, splitBlank text = some (block, rest) →
    rest.length < text.length
  | [], _, _, h => by cases h
  | c :: text, block, rest, h => by
    rw [splitBlank] at h
    cases hd : dropBlank (c :: text) with
    | some after =>
      rw [hd] at h
      cases h
      exact dropBlank_length hd
    | none =>
      rw [hd] at h
      obtain ⟨cut, hcut, he⟩ := Option.map_eq_some_iff.mp h
      cases he
      have := splitBlank_length hcut
      simp only [List.length_cons]
      omega

/-- A text with a blank line in it starts with a line break or does not, whatever follows it. -/
theorem dropBreak_none_append {text block rest : List Char} (more : List Char)
    (h : dropBreak text = none) (hs : splitBlank text = some (block, rest)) :
    dropBreak (text ++ more) = none := by
  match text, h, hs with
  | [], _, hs => cases hs
  | [c], h, hs =>
    -- a single `\r` could become a break, but it holds no blank line
    by_cases hr : c = '\r'
    · subst hr
      cases hs
    · by_cases hn : c = '\n'
      · subst hn
        cases h
      · simp [hn, hr]
  | c :: d :: t, h, _ =>
    by_cases hn : c = '\n'
    · subst hn
      cases h
    · by_cases hr : c = '\r'
      · subst hr
        by_cases hd : d = '\n'
        · subst hd
          cases h
        · simp [hd]
      · simp [hn, hr]

theorem dropBlank_none_append {c : Char} {text block rest : List Char} (more : List Char)
    (h : dropBlank (c :: text) = none) (hs : splitBlank text = some (block, rest)) :
    dropBlank (c :: (text ++ more)) = none := by
  by_cases hn : c = '\n'
  · subst hn
    exact dropBreak_none_append more h hs
  · by_cases hr : c = '\r'
    · subst hr
      match text, h, hs with
      | [], _, hs => cases hs
      | d :: t, h, hs =>
        by_cases hd : d = '\n'
        · -- `\r\n`: the blank line of the text starts behind its `\n`
          subst hd
          have hnone : dropBlank ('\n' :: t) = none := h
          rw [splitBlank, hnone] at hs
          obtain ⟨cut, hcut, -⟩ := Option.map_eq_some_iff.mp hs
          exact dropBreak_none_append more h hcut
        · simp [hd]
    · simp [hn, hr]

/-- A blank line found in a text is the first one of every longer text. -/
theorem splitBlank_append : ∀ {text block rest : List Char} (more : List Char),
    splitBlank text = some (block, rest) →
    splitBlank (text ++ more) = some (block, rest ++ more)
  | [], _, _, _, h => by cases h
  | c :: text, block, rest, more, h => by
    rw [splitBlank] at h
    rw [List.cons_append, splitBlank]
    cases hd : dropBlank (c :: text) with
    | some after =>
      rw [hd] at h
      cases h
      rw [← List.cons_append, dropBlank_append more hd]
    | none =>
      rw [hd] at h
      obtain ⟨cut, hcut, he⟩ := Option.map_eq_some_iff.mp h
      cases he
      rw [dropBlank_none_append more hd hcut, splitBlank_append more hcut]
      rfl

/-! ## Texts of one line -/

/-- The text holds neither of the characters a line break is made of. -/
def OneLine (text : List Char) : Prop := ∀ c ∈ text, c ≠ '\n' ∧ c ≠ '\r'

namespace OneLine

theorem nil : OneLine [] := fun _ h => absurd h List.not_mem_nil

theorem cons {c : Char} {text : List Char} (hn : c ≠ '\n') (hr : c ≠ '\r') (h : OneLine text) :
    OneLine (c :: text) := by
  intro d hd
  rcases List.mem_cons.mp hd with rfl | hd
  · exact ⟨hn, hr⟩
  · exact h d hd

theorem append {a b : List Char} (ha : OneLine a) (hb : OneLine b) : OneLine (a ++ b) := by
  intro c hc
  rcases List.mem_append.mp hc with hc | hc
  · exact ha c hc
  · exact hb c hc

theorem head {c : Char} {text : List Char} (h : OneLine (c :: text)) : c ≠ '\n' ∧ c ≠ '\r' :=
  h c List.mem_cons_self

theorem tail {c : Char} {text : List Char} (h : OneLine (c :: text)) : OneLine text :=
  fun d hd => h d (List.mem_cons_of_mem c hd)

/-- A text that computes, checked character by character. -/
theorem of_all {text : List Char} (h : text.all (fun c => c != '\n' && c != '\r') = true) :
    OneLine text := by
  intro c hc
  have := List.all_eq_true.mp h c hc
  simpa using this

end OneLine

theorem dropBlank_oneLine {c : Char} {text : List Char} (h : OneLine [c]) :
    dropBlank (c :: text) = none := by
  simp [h.head.1, h.head.2]

/-- A text of one line is passed over in the search for a blank line. -/
theorem splitBlank_oneLine : ∀ {line : List Char} (text : List Char), OneLine line →
    splitBlank (line ++ text) = (splitBlank text).map fun cut => (line ++ cut.1, cut.2)
  | [], text, _ => by simp
  | c :: line, text, h => by
    rw [List.cons_append, splitBlank, dropBlank_oneLine (.cons h.head.1 h.head.2 .nil)]
    rw [splitBlank_oneLine text h.tail]
    simp [Option.map_map, Function.comp_def]

/-- So is a single line break. -/
theorem splitBlank_break {c : Char} {text : List Char} (h : OneLine [c]) :
    splitBlank ('\n' :: c :: text)
      = (splitBlank (c :: text)).map fun cut => ('\n' :: cut.1, cut.2) := by
  have hnone : dropBlank ('\n' :: c :: text) = none := by
    simp [h.head.1, h.head.2]
  rw [splitBlank, hnone]

theorem splitBlank_blank (rest : List Char) : splitBlank ('\n' :: '\n' :: rest) = some ([], rest) :=
  rfl

theorem splitLines_oneLine_cons : ∀ {line : List Char} (text : List Char), OneLine line →
    splitLines (line ++ '\n' :: text) = line :: splitLines text
  | [], _, _ => rfl
  | c :: line, text, h => by
    have ih := splitLines_oneLine_cons text h.tail
    rw [List.cons_append, splitLines, ih]
    · exact fun hc => h.head.1 hc
    · exact fun _ hc _ => h.head.2 hc

theorem splitLines_oneLine : ∀ {line : List Char}, OneLine line → splitLines line = [line]
  | [], _ => rfl
  | c :: line, h => by
    rw [splitLines, splitLines_oneLine h.tail]
    · exact fun hc => h.head.1 hc
    · exact fun _ hc _ => h.head.2 hc

/-! ## Blocks -/

/-- The lines of a block: none is empty and none holds a break. -/
def IsBlock (lines : List (List Char)) : Prop := ∀ line ∈ lines, line ≠ [] ∧ OneLine line

theorem IsBlock.tail {line : List Char} {lines : List (List Char)} (h : IsBlock (line :: lines)) :
    IsBlock lines := fun l hl => h l (List.mem_cons_of_mem line hl)

/-- **A block is cut off at the blank line behind it.** -/
theorem splitBlank_joinLines : ∀ {lines : List (List Char)} (rest : List Char), IsBlock lines →
    splitBlank (joinLines lines ++ '\n' :: '\n' :: rest) = some (joinLines lines, rest)
  | [], rest, _ => by simp [joinLines, splitBlank_blank]
  | [line], rest, h => by
    have hline := h line List.mem_cons_self
    rw [joinLines, splitBlank_oneLine _ hline.2, splitBlank_blank]
    simp
  | line :: next :: lines, rest, h => by
    have hline := h line List.mem_cons_self
    have ih := splitBlank_joinLines rest h.tail
    -- the next line is not empty, so the break before it is not blank
    obtain ⟨c, text, hnext⟩ : ∃ c text, joinLines (next :: lines) ++ '\n' :: '\n' :: rest = c :: text
        ∧ OneLine [c] := by
      have hn := h next (by simp)
      cases next with
      | nil => exact absurd rfl hn.1
      | cons c next =>
        cases lines with
        | nil => exact ⟨c, _, rfl, .cons hn.2.head.1 hn.2.head.2 .nil⟩
        | cons _ _ => exact ⟨c, _, rfl, .cons hn.2.head.1 hn.2.head.2 .nil⟩
    rw [joinLines, List.append_assoc, splitBlank_oneLine _ hline.2, List.cons_append, hnext.1,
      splitBlank_break hnext.2, ← hnext.1, ih]
    · simp
    · simp

/-- The lines of a block are what joining put together. -/
theorem splitLines_joinLines : ∀ {lines : List (List Char)}, lines ≠ [] → IsBlock lines →
    splitLines (joinLines lines) = lines
  | [], h, _ => absurd rfl h
  | [line], _, h => splitLines_oneLine (h line List.mem_cons_self).2
  | line :: next :: lines, _, h => by
    rw [joinLines, splitLines_oneLine_cons _ (h line List.mem_cons_self).2,
      splitLines_joinLines (by simp) h.tail]
    simp

end Infra
