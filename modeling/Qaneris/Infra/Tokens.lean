import Mathlib.Data.List.Chain

/-!
# Words, quoted names and marks

A text that is made of words, of names in quotes and of single characters. A quote inside a quoted name
is written twice. What counts as a character of a word, and which character is the quote, are
parameters.

* `lex_render` — a text is split again into the tokens it was made of
-/

namespace Infra

inductive Token where
  | word (chars : List Char)
  | quoted (text : List Char)
  | mark (c : Char)
  deriving DecidableEq, Repr

/-! ## Writing -/

/-- `text.replace(q, q * 2)` -/
def double (q : Char) (text : List Char) : List Char :=
  text.flatMap fun c => if c = q then [q, q] else [c]

/-- The text in quotes. -/
def quote (q : Char) (text : List Char) : List Char :=
  q :: (double q text ++ [q])

def Token.text (q : Char) : Token → List Char
  | .word chars => chars
  | .quoted text => quote q text
  | .mark c => [c]

def render (q : Char) (tokens : List Token) : List Char :=
  tokens.flatMap (Token.text q)

section Render

variable {q : Char}

@[simp] theorem double_nil : double q [] = [] := rfl

@[simp]
theorem double_cons (c : Char) (text : List Char) :
    double q (c :: text) = (if c = q then [q, q] else [c]) ++ double q text :=
  List.flatMap_cons

@[simp] theorem render_nil : render q [] = [] := rfl

@[simp]
theorem render_cons (t : Token) (ts : List Token) : render q (t :: ts) = t.text q ++ render q ts :=
  List.flatMap_cons

@[simp]
theorem render_append (a b : List Token) : render q (a ++ b) = render q a ++ render q b :=
  List.flatMap_append

/-- A text without quotes is written as it is. -/
theorem double_of_not_mem {text : List Char} (h : q ∉ text) : double q text = text := by
  induction text with
  | nil => rfl
  | cons c text ih =>
    rw [List.mem_cons, not_or] at h
    rw [double_cons, if_neg (Ne.symm h.1), ih h.2]
    rfl

end Render

/-! ## Reading -/

namespace Lexer

/-- What the lexer is in the middle of. `closing` has read a quote that may be the first of two. -/
inductive State where
  | idle
  | word (read : List Char)
  | quoted (read : List Char)
  | closing (read : List Char)

/-- The token that ends here, if one does; `none` inside a quoted name. -/
def State.flush : State → Option (List Token)
  | .idle => some []
  | .word read => some [.word read]
  | .quoted _ => none
  | .closing read => some [.quoted read]

variable (isWord : Char → Bool) (q : Char)

/-- The first character of a token. -/
def enter (c : Char) : List Token × State :=
  if c = q then ([], .quoted [])
  else if isWord c then ([], .word [c])
  else ([.mark c], .idle)

/-- One character: the tokens that are done, and what comes next. -/
def step (c : Char) : State → List Token × State
  | .idle => enter isWord q c
  | .word read =>
    if isWord c then ([], .word (read ++ [c]))
    else (.word read :: (enter isWord q c).1, (enter isWord q c).2)
  | .quoted read => if c = q then ([], .closing read) else ([], .quoted (read ++ [c]))
  | .closing read =>
    if c = q then ([], .quoted (read ++ [q]))
    else (.quoted read :: (enter isWord q c).1, (enter isWord q c).2)

def lexFrom : State → List Char → Option (List Token)
  | state, [] => state.flush
  | state, c :: text =>
    (lexFrom (step isWord q c state).2 text).map fun tokens => (step isWord q c state).1 ++ tokens

end Lexer

/-- The tokens of a text; `none` when a quoted name does not end. -/
def lex (isWord : Char → Bool) (q : Char) (text : List Char) : Option (List Token) :=
  Lexer.lexFrom isWord q .idle text

/-! ## Reading what was written -/

section RoundTrip

variable (isWord : Char → Bool) (q : Char)

/-- The token can be told from what stands around it. -/
def Token.Fits : Token → Prop
  | .word chars => chars ≠ [] ∧ ∀ c ∈ chars, isWord c
  | .quoted _ => True
  | .mark c => isWord c = false ∧ c ≠ q

/-- Two words, or two quoted names, are one when nothing stands between them. -/
def Token.Apart : Token → Token → Prop
  | .word _, .word _ => False
  | .quoted _, .quoted _ => False
  | _, _ => True

instance (t : Token) : Decidable (t.Fits isWord q) :=
  match t with
  | .word chars =>
    haveI : Decidable (∀ c ∈ chars, isWord c) := List.decidableBAll _ chars
    inferInstanceAs (Decidable (_ ∧ _))
  | .quoted _ => inferInstanceAs (Decidable True)
  | .mark _ => inferInstanceAs (Decidable (_ ∧ _))

instance (a b : Token) : Decidable (a.Apart b) :=
  match a, b with
  | .word _, .word _ | .quoted _, .quoted _ => inferInstanceAs (Decidable False)
  | .word _, .quoted _ | .word _, .mark _ | .quoted _, .word _ | .quoted _, .mark _ | .mark _, _ =>
    inferInstanceAs (Decidable True)

/-- The tokens can be told apart when they are written one after another. -/
structure Clean (ts : List Token) : Prop where
  fits : ∀ t ∈ ts, t.Fits isWord q
  apart : ts.IsChain Token.Apart

instance (ts : List Token) : Decidable (Clean isWord q ts) :=
  decidable_of_iff ((∀ t ∈ ts, t.Fits isWord q) ∧ ts.IsChain Token.Apart)
    ⟨fun h => ⟨h.1, h.2⟩, fun h => ⟨h.fits, h.apart⟩⟩

def Token.isMark : Token → Bool
  | .mark _ => true
  | _ => false

variable {isWord q}

theorem Token.apart_of_isMark {a b : Token} (h : a.isMark ∨ b.isMark) : a.Apart b := by
  cases a <;> cases b <;> simp_all [Token.Apart, Token.isMark]

theorem Clean.nil : Clean isWord q [] := ⟨fun _ h => absurd h List.not_mem_nil, .nil⟩

theorem Clean.tail {t : Token} {ts : List Token} (h : Clean isWord q (t :: ts)) :
    Clean isWord q ts :=
  ⟨fun t ht => h.fits t (List.mem_cons_of_mem _ ht), h.apart.tail⟩

/-- A mark on either side of the seam keeps two texts apart. -/
theorem Clean.append {a b : List Token} (ha : Clean isWord q a) (hb : Clean isWord q b)
    (h : a.getLast?.all Token.isMark ∨ b.head?.all Token.isMark) : Clean isWord q (a ++ b) := by
  constructor
  · intro t ht
    rcases List.mem_append.mp ht with ht | ht
    · exact ha.fits t ht
    · exact hb.fits t ht
  · refine List.isChain_append.mpr ⟨ha.apart, hb.apart, fun x hx y hy => ?_⟩
    rw [Option.mem_def] at hx hy
    rw [hx, hy] at h
    exact Token.apart_of_isMark (by simpa using h)

/-- Two texts with a third between them that begins and ends with a mark. -/
theorem Clean.glue {a sep b : List Token} (ha : Clean isWord q a) (hsep : Clean isWord q sep)
    (hb : Clean isWord q b) (hhead : sep.head?.any Token.isMark) (hlast : sep.getLast?.any Token.isMark) :
    Clean isWord q (a ++ (sep ++ b)) := by
  have hne : sep ≠ [] := by
    rintro rfl
    simp at hhead
  refine ha.append (hsep.append hb (.inl ?_)) (.inr ?_)
  · cases h : sep.getLast? <;> simp_all
  · obtain ⟨t, ts, rfl⟩ := List.exists_cons_of_ne_nil hne
    simpa using hhead

open Lexer

theorem lexFrom_word {cs : List Char} (h : ∀ c ∈ cs, isWord c) (read rest : List Char) :
    lexFrom isWord q (.word read) (cs ++ rest) = lexFrom isWord q (.word (read ++ cs)) rest := by
  induction cs generalizing read with
  | nil => rw [List.append_nil, List.nil_append]
  | cons c cs ih =>
    have hc : isWord c = true := h c List.mem_cons_self
    have hstep : step isWord q c (.word read) = ([], .word (read ++ [c])) := by simp [step, hc]
    rw [List.cons_append, lexFrom, hstep, ih (fun d hd => h d (List.mem_cons_of_mem _ hd)),
      List.append_assoc]
    simp

/-- A quoted name is read up to the quote that ends it. -/
theorem lexFrom_quoted (text read rest : List Char) :
    lexFrom isWord q (.quoted read) (double q text ++ q :: rest) =
      lexFrom isWord q (.closing (read ++ text)) rest := by
  induction text generalizing read with
  | nil => simp [lexFrom, step]
  | cons c text ih =>
    by_cases hc : c = q
    · subst hc
      have hfirst : step isWord c c (.quoted read) = ([], .closing read) := by simp [step]
      have hsecond : step isWord c c (.closing read) = ([], .quoted (read ++ [c])) := by simp [step]
      rw [double_cons, if_pos rfl, List.append_assoc, List.cons_append, List.cons_append,
        List.nil_append, lexFrom, hfirst, lexFrom, hsecond, ih]
      simp
    · have hstep : step isWord q c (.quoted read) = ([], .quoted (read ++ [c])) := by simp [step, hc]
      rw [double_cons, if_neg hc, List.append_assoc, List.cons_append, List.nil_append, lexFrom,
        hstep, ih]
      simp

/-- What a mark leaves to the tokens after it. -/
theorem lexFrom_mark {c : Char} {state : State} {pending : List Token} (hw : isWord c = false)
    (hq : c ≠ q) (hflush : state.flush = some pending) (text : List Char) :
    lexFrom isWord q state (c :: text) =
      (lexFrom isWord q .idle text).map fun tokens => pending ++ .mark c :: tokens := by
  have henter : enter isWord q c = ([.mark c], .idle) := by simp [enter, hw, hq]
  cases state with
  | idle =>
    obtain rfl := Option.some.inj hflush
    simp [lexFrom, step, henter]
  | word read =>
    obtain rfl := Option.some.inj hflush
    simp [lexFrom, step, hw, henter]
  | quoted read => cases hflush
  | closing read =>
    obtain rfl := Option.some.inj hflush
    simp [lexFrom, step, hq, henter]

/-- The tokens of a text after those that are pending. -/
theorem lexFrom_render {ts : List Token} (hword : isWord q = false)
    (hfits : ∀ t ∈ ts, t.Fits isWord q) (state : State) (pending : List Token)
    (hflush : state.flush = some pending) (hapart : (pending ++ ts).IsChain Token.Apart) :
    lexFrom isWord q state (render q ts) = some (pending ++ ts) := by
  induction ts generalizing state pending with
  | nil => simpa [lexFrom] using hflush
  | cons t ts ih =>
    have hrest : ∀ t ∈ ts, t.Fits isWord q := fun t ht => hfits t (List.mem_cons_of_mem _ ht)
    have htail : (t :: ts).IsChain Token.Apart := hapart.right_of_append
    have hfit := hfits t List.mem_cons_self
    cases t with
    | mark c =>
      rw [render_cons]
      show lexFrom isWord q state (c :: render q ts) = _
      rw [lexFrom_mark hfit.1 hfit.2 hflush, ih hrest .idle [] rfl htail.tail]
      simp
    | word chars =>
      obtain ⟨c, cs, rfl⟩ := List.exists_cons_of_ne_nil hfit.1
      have hc : isWord c = true := hfit.2 c List.mem_cons_self
      have hcs : ∀ d ∈ cs, isWord d := fun d hd => hfit.2 d (List.mem_cons_of_mem _ hd)
      have hq : c ≠ q := by
        rintro rfl
        rw [hc] at hword
        cases hword
      have henter : enter isWord q c = ([], .word [c]) := by simp [enter, hc, hq]
      have hnext := ih hrest (.word (c :: cs)) [.word (c :: cs)] rfl htail
      rw [render_cons]
      show lexFrom isWord q state (c :: (cs ++ render q ts)) = _
      cases state with
      | idle =>
        obtain rfl := Option.some.inj hflush
        simp [lexFrom, step, henter, lexFrom_word hcs, hnext]
      | word read =>
        obtain rfl := Option.some.inj hflush
        exact absurd (List.isChain_cons_cons.mp hapart).1 (by simp [Token.Apart])
      | quoted read => cases hflush
      | closing read =>
        obtain rfl := Option.some.inj hflush
        simp [lexFrom, step, henter, hq, lexFrom_word hcs, hnext]
    | quoted text =>
      have henter : enter isWord q q = ([], .quoted []) := by simp [enter]
      have hnext := ih hrest (.closing text) [.quoted text] rfl htail
      have htext : (Token.quoted text).text q ++ render q ts =
          q :: (double q text ++ q :: render q ts) := by
        simp [Token.text, quote]
      rw [render_cons, htext]
      cases state with
      | idle =>
        obtain rfl := Option.some.inj hflush
        simp [lexFrom, step, henter, lexFrom_quoted, hnext]
      | word read =>
        obtain rfl := Option.some.inj hflush
        simp [lexFrom, step, henter, hword, lexFrom_quoted, hnext]
      | quoted read => cases hflush
      | closing read =>
        obtain rfl := Option.some.inj hflush
        exact absurd (List.isChain_cons_cons.mp hapart).1 (by simp [Token.Apart])

/-- **A text is split again into the tokens it was made of.** -/
theorem lex_render {ts : List Token} (hword : isWord q = false) (h : Clean isWord q ts) :
    lex isWord q (render q ts) = some ts :=
  lexFrom_render hword h.fits .idle [] rfl h.apart

end RoundTrip

end Infra
