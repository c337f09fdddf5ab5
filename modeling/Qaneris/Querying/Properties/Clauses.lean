import Qaneris.Infra.Unicode
import Qaneris.Querying.Clauses

/-!
# What a target reads in a clause

Every literal doubles its quotes, and nothing is done about a backslash. So a clause is what it is meant
to be where no value has a backslash that its target takes for an escape.
-/

namespace Querying

open Contracts Infra

namespace QueryGenerator

variable {t : Texts} {target : ClauseTarget}

/-! ## Words -/

/-- A character that begins and ends nothing in any of the targets. -/
def wordChar (c : Char) : Bool := c ∉ ['\'', '"', '`', '[', ' ', '(', ')', ',']

theorem isWord_of_wordChar {c : Char} (h : wordChar c) : target.lexis.isWord c := by
  simp only [wordChar, List.mem_cons, List.not_mem_nil, or_false, not_or, decide_eq_true_eq] at h
  obtain ⟨hquote, hdouble, hback, hbracket, hblank, hopen, hclose, hcomma⟩ := h
  cases target with
  | cypher dataObject => simp [ClauseTarget.lexis, Lexis.isWord, *]
  | sql driver objects => cases driver <;> simp [ClauseTarget.lexis, Lexis.isWord, SqlDriver.quote, *]

theorem reads_wordChars {chars : List Char} (hne : chars ≠ []) (h : ∀ c ∈ chars, wordChar c) :
    target.lexis.Reads chars [.word chars] :=
  Lexis.reads_word hne fun c hc => isWord_of_wordChar (h c hc)

/-- The text of a number. -/
def IsNumber (text : List Char) : Prop :=
  text ≠ [] ∧ ∀ c ∈ text, isAsciiDigit c ∨ isAsciiLower c ∨ c ∈ ['+', '-', '.']

/-- What Python writes of numbers is digits, signs, points and lowercase letters. -/
structure NumberTexts (t : Texts) : Prop where
  int : ∀ n, IsNumber (t.str (.int n)).toList
  real : ∀ q, IsNumber (t.str (.real q)).toList

theorem IsNumber.wordChar {text : List Char} (h : IsNumber text) : ∀ c ∈ text, wordChar c := by
  intro c hc
  have hnumber := h.2 c hc
  rw [QueryGenerator.wordChar, decide_eq_true_eq]
  intro hmem
  simp only [List.mem_cons, List.not_mem_nil, or_false] at hmem
  rcases hmem with rfl | rfl | rfl | rfl | rfl | rfl | rfl | rfl <;> exact absurd hnumber (by decide)

/-! ## Literals -/

/-- The text of the value, if it is written as one, is in quotes what it is without. -/
def PlainValue (t : Texts) (target : ClauseTarget) (value : Value) : Prop :=
  ∀ text, denoted t value = .text text → target.strings.Plain text

/-- A literal is a word, or a text in quotes. -/
theorem literal_cases (hnumbers : NumberTexts t) (value : Value) :
    (∃ word, denoted t value = .word word ∧ literal t value = word ∧ word ≠ [] ∧
      ∀ c ∈ word, wordChar c) ∨
    ∃ text, denoted t value = .text text ∧ literal t value = Infra.quote '\'' text := by
  cases value with
  | null => exact .inl ⟨_, rfl, rfl, by decide, List.all_eq_true.mp (by decide)⟩
  | bool b => cases b <;> exact .inl ⟨_, rfl, rfl, by decide, List.all_eq_true.mp (by decide)⟩
  | int n => exact .inl ⟨_, rfl, rfl, (hnumbers.int n).1, (hnumbers.int n).wordChar⟩
  | real q => exact .inl ⟨_, rfl, rfl, (hnumbers.real q).1, (hnumbers.real q).wordChar⟩
  | str s => exact .inr ⟨_, rfl, rfl⟩
  | moment m => exact .inr ⟨_, rfl, rfl⟩
  | list items => exact .inr ⟨_, rfl, rfl⟩
  | tuple items => exact .inr ⟨_, rfl, rfl⟩
  | dict fields => exact .inr ⟨_, rfl, rfl⟩

theorem reads_quote {text : List Char} (h : target.strings.Plain text) :
    target.lexis.Reads (Infra.quote '\'' text) [.text text] := by
  cases target with
  | sql driver objects => exact Lexis.reads_quoted h
  | cypher dataObject => exact Lexis.reads_quoted h

theorem literal_reads (hnumbers : NumberTexts t) {value : Value} (h : PlainValue t target value) :
    target.lexis.Reads (literal t value) [denoted t value] := by
  rcases literal_cases hnumbers value with ⟨word, hdenoted, hliteral, hne, hword⟩ |
    ⟨text, hdenoted, hliteral⟩
  · rw [hdenoted, hliteral]
    exact reads_wordChars hne hword
  · rw [hdenoted, hliteral]
    exact reads_quote (h text hdenoted)

/-- **A literal reads as its value exactly when the value is plain.** -/
theorem literal_lex_iff (hnumbers : NumberTexts t) {value : Value} :
    target.lexis.lex (literal t value) = some [denoted t value] ↔ PlainValue t target value := by
  constructor
  · intro h text hdenoted
    rcases literal_cases hnumbers value with ⟨word, hword, -⟩ | ⟨text', htext, hliteral⟩
    · rw [hword] at hdenoted
      cases hdenoted
    · rw [htext] at hdenoted
      obtain rfl := Lexeme.text.inj hdenoted
      rw [htext, hliteral] at h
      cases target with
      | sql driver objects => exact Lexis.lex_quote_iff.mp h
      | cypher dataObject => exact Lexis.lex_quote_iff.mp h
  · intro h
    exact (literal_reads hnumbers h).lexes.lex_eq

/-! ## Fields -/

theorem namesOf_reads (driver : SqlDriver) (objects : List DataObjectProfile)
    (parts : List (List Char)) (hne : parts ≠ []) :
    (ClauseTarget.sql driver objects).lexis.Reads
      (['.'].intercalate (parts.map fun part =>
        driver.quote :: (double (closing driver.quote) part ++ [closing driver.quote])))
      ((parts.map Lexeme.name).intersperse (.word ['.'])) ∧
    (['.'].intercalate (parts.map fun part =>
        driver.quote :: (double (closing driver.quote) part ++ [closing driver.quote]))).head? =
      some driver.quote := by
  have hdot : '.' ≠ closing driver.quote := by cases driver <;> decide
  have hword : ∀ c ∈ ['.'], (ClauseTarget.sql driver objects).lexis.isWord c :=
    fun c hc => isWord_of_wordChar (List.all_eq_true.mp (by decide : ['.'].all wordChar) c hc)
  induction parts with
  | nil => exact absurd rfl hne
  | cons part parts ih =>
    cases parts with
    | nil =>
      rw [List.map_cons, List.map_nil, List.intercalate_singleton, List.map_cons, List.map_nil,
        List.intersperse_singleton]
      exact ⟨Lexis.reads_name part, rfl⟩
    | cons next parts =>
      obtain ⟨hreads, hhead⟩ := ih (by simp)
      have hafter := (hreads.after_word hhead (by simp) hword).after_name rfl hdot part
      refine ⟨?_, by rw [List.map_cons, List.map_cons, List.intercalate_cons_cons]; rfl⟩
      have hchunk : ['.'].intercalate ((part :: next :: parts).map fun part =>
          driver.quote :: (double (closing driver.quote) part ++ [closing driver.quote])) =
        driver.quote :: (double (closing driver.quote) part ++ closing driver.quote ::
          (['.'] ++ ['.'].intercalate ((next :: parts).map fun part =>
            driver.quote :: (double (closing driver.quote) part ++ [closing driver.quote])))) := by
        rw [List.map_cons, List.map_cons, List.intercalate_cons_cons]
        simp
      rw [hchunk]
      exact hafter

theorem wordChar_of_digits (n : Nat) : ∀ c ∈ (toString n).toList, wordChar c := by
  intro c hc
  have hdigit : c.isDigit = true := by
    rw [Nat.toString_eq_repr, Nat.toList_repr] at hc
    exact Nat.isDigit_of_mem_toDigits (by decide) (by decide) hc
  rw [wordChar, decide_eq_true_eq]
  intro hmem
  simp only [List.mem_cons, List.not_mem_nil, or_false] at hmem
  rcases hmem with rfl | rfl | rfl | rfl | rfl | rfl | rfl | rfl <;> exact absurd hdigit (by decide)

/-- The alias of an object is empty or a `t` and digits. -/
theorem aliases_get {driver : SqlDriver} {objects : List DataObjectProfile} {id alias_ : String}
    (h : (aliases driver objects).get? id = some alias_) :
    alias_ = "" ∨ ∃ n : Nat, alias_ = "t" ++ toString n := by
  rw [aliases, Dict.get?_update, Dict.get?_nil, Option.or_none, Dict.get?,
    List.lookup_eq_some_iff] at h
  obtain ⟨before, after, hsplit, -⟩ := h
  have hmem : (id, alias_) ∈ (objects.zipIdx.map fun item =>
      (item.1.id, if driver.useAliases then "t" ++ toString item.2 else "")) := by
    rw [← List.mem_reverse, hsplit]
    exact List.mem_append_right _ List.mem_cons_self
  obtain ⟨item, -, heq⟩ := List.mem_map.mp hmem
  obtain ⟨-, rfl⟩ := Prod.mk.inj heq
  split
  · exact .inr ⟨item.2, rfl⟩
  · exact .inl rfl

/-- The word before a name: `t0.`, or `n.` in Cypher. -/
def IsQualifier (word : List Char) : Prop :=
  ∃ c ∈ ['t', 'n'], ∃ digits, word = c :: (digits ++ ['.']) ∧ ∀ d ∈ digits, wordChar d

theorem IsQualifier.wordChar {word : List Char} (h : IsQualifier word) : ∀ c ∈ word, wordChar c := by
  obtain ⟨c, hc, digits, rfl, hdigits⟩ := h
  intro d hd
  rcases List.mem_cons.mp hd with rfl | hd
  · exact List.all_eq_true.mp (by decide : ['t', 'n'].all QueryGenerator.wordChar) d hc
  · rcases List.mem_append.mp hd with hd | hd
    · exact hdigits d hd
    · obtain rfl := List.mem_singleton.mp hd
      decide

theorem isQualifier_alias {alias_ : String} (h : alias_ = "" ∨ ∃ n : Nat, alias_ = "t" ++ toString n)
    (hne : alias_ ≠ "") : IsQualifier (alias_.toList ++ ['.']) := by
  rcases h with rfl | ⟨n, rfl⟩
  · exact absurd rfl hne
  · refine ⟨'t', by simp, (toString n).toList, ?_, wordChar_of_digits n⟩
    rw [String.toList_append]
    rfl

theorem sqlField_reads {driver : SqlDriver} {objects : List DataObjectProfile} {reference : String}
    {text : List Char}
    (h : sqlField reference (aliases driver objects) driver.quote = .ok text) :
    (ClauseTarget.sql driver objects).lexis.Reads text
      ((ClauseTarget.sql driver objects).fieldOf reference) := by
  unfold sqlField at h
  split at h
  · next objectId field hsplit =>
    split at h
    · next alias_ halias =>
      obtain rfl := Except.ok.inj h
      obtain ⟨hreads, hhead⟩ := namesOf_reads driver objects (field.splitOn '.')
        (List.splitOn_ne_nil '.' field)
      unfold ClauseTarget.fieldOf
      simp only [hsplit, halias]
      by_cases hempty : alias_ = ""
      · rw [if_pos hempty, if_pos hempty]
        exact hreads
      · rw [if_neg hempty, if_neg hempty]
        have hqualifier := isQualifier_alias (aliases_get halias) hempty
        exact hreads.after_word hhead (by simp) fun c hc =>
          isWord_of_wordChar (hqualifier.wordChar c hc)
    · cases h
  · cases h

/-! ## Comparisons -/

/-- What stands after the operator. -/
def rightOf (operator : List Char) (operands : List Lexeme) : List Lexeme :=
  if operator = "IN".toList then .mark '(' :: (operands.intersperse (.mark ',') ++ [.mark ')'])
  else if operator = "BETWEEN".toList then operands.intersperse (.word "AND".toList)
  else operands

/-- The comparison as it stands in a clause. -/
def Comparison.items (c : Comparison) : List Lexeme :=
  c.field ++ .word c.operator :: rightOf c.operator c.operands

/-- A comparison that can be told from what follows it. -/
structure Comparison.Formed (c : Comparison) : Prop where
  field : ∀ item ∈ c.field, isComparator item = false
  operator : isComparator (.word c.operator)
  operands : ∀ item ∈ c.operands, isOperand item
  count : if c.operator = "IN".toList then c.operands ≠ []
    else if c.operator = "BETWEEN".toList then c.operands.length = 2
    else c.operands.length = 1

theorem readOperands_list {operands : List Lexeme} (hne : operands ≠ [])
    (h : ∀ item ∈ operands, isOperand item) (rest : List Lexeme) :
    readOperands (operands.intersperse (.mark ',') ++ .mark ')' :: rest) = some (operands, rest) := by
  induction operands with
  | nil => exact absurd rfl hne
  | cons value operands ih =>
    have hvalue := h value List.mem_cons_self
    cases operands with
    | nil =>
      rw [List.intersperse_singleton, List.singleton_append, readOperands, if_pos hvalue]
    | cons next operands =>
      have hrest := ih (by simp) fun item hitem => h item (List.mem_cons_of_mem _ hitem)
      rw [List.intersperse_cons_cons, List.cons_append, List.cons_append, readOperands,
        if_pos hvalue, hrest]
      rfl

theorem readRight_items {c : Comparison} (h : c.Formed) (rest : List Lexeme) :
    readRight c.operator (rightOf c.operator c.operands ++ rest) = some (c.operands, rest) := by
  have hcount := h.count
  unfold readRight rightOf
  split at hcount
  · next hin =>
    rw [if_pos hin, if_pos hin, List.cons_append, List.append_assoc]
    exact readOperands_list hcount h.operands rest
  · next hin =>
    rw [if_neg hin, if_neg hin]
    split at hcount
    · next hbetween =>
      obtain ⟨low, high, heq⟩ := List.length_eq_two.mp hcount
      have hlow := h.operands low (by simp [heq])
      have hhigh := h.operands high (by simp [heq])
      rw [if_pos hbetween, if_pos hbetween, heq]
      show (if isOperand low ∧ _ ∧ isOperand high then _ else _) = _
      rw [if_pos ⟨hlow, rfl, hhigh⟩]
      rfl
    · next hbetween =>
      obtain ⟨value, heq⟩ := List.length_eq_one_iff.mp hcount
      have hvalue := h.operands value (by simp [heq])
      rw [if_neg hbetween, if_neg hbetween, heq]
      show (if isOperand value then _ else _) = _
      rw [if_pos hvalue]
      rfl

theorem readComparison_items {c : Comparison} (h : c.Formed) (rest : List Lexeme) :
    readComparison (c.items ++ rest) = some (c, rest) := by
  have hfield : ∀ item ∈ c.field, (!isComparator item) = true := by
    intro item hitem
    rw [h.field item hitem]
    rfl
  have hdrop : ((.word c.operator :: rightOf c.operator c.operands) ++ rest).dropWhile
      (fun item => !isComparator item) = .word c.operator :: (rightOf c.operator c.operands ++ rest) := by
    rw [List.cons_append, List.dropWhile_cons, h.operator]
    rfl
  have htake : ((.word c.operator :: rightOf c.operator c.operands) ++ rest).takeWhile
      (fun item => !isComparator item) = [] := by
    rw [List.cons_append, List.takeWhile_cons, h.operator]
    rfl
  unfold readComparison Comparison.items
  rw [List.append_assoc, List.dropWhile_append_of_pos hfield, List.takeWhile_append_of_pos hfield,
    hdrop, htake, List.append_nil]
  dsimp only
  rw [readRight_items h rest]
  rfl

/-- Comparisons with `AND` between them. -/
def joinedItems : List Comparison → List Lexeme
  | [] => []
  | [c] => c.items
  | c :: cs => c.items ++ .word "AND".toList :: joinedItems cs

theorem readComparisons_joined {cs : List Comparison} (hne : cs ≠ []) (h : ∀ c ∈ cs, c.Formed)
    {n : Nat} (hn : (joinedItems cs).length ≤ n) :
    readComparisons n (joinedItems cs) = some cs := by
  induction cs generalizing n with
  | nil => exact absurd rfl hne
  | cons c cs ih =>
    have hc := h c List.mem_cons_self
    have hpos : 0 < c.items.length := by
      rw [Comparison.items, List.length_append, List.length_cons]
      omega
    cases cs with
    | nil =>
      obtain ⟨n, rfl⟩ : ∃ m, n = m + 1 := ⟨n - 1, by simp [joinedItems] at hn; omega⟩
      have hread := readComparison_items hc []
      rw [List.append_nil] at hread
      rw [joinedItems, readComparisons, hread]
      rfl
    | cons next cs =>
      simp only [joinedItems, List.length_append, List.length_cons] at hn
      obtain ⟨n, rfl⟩ : ∃ m, n = m + 1 := ⟨n - 1, by omega⟩
      have hrest : readComparisons n (joinedItems (next :: cs)) = some (next :: cs) :=
        ih (by simp) (fun d hd => h d (List.mem_cons_of_mem _ hd)) (by omega)
      rw [joinedItems, readComparisons, readComparison_items hc]
      · show (readComparisons n (joinedItems (next :: cs))).map (c :: ·) = _
        rw [hrest]
        rfl
      · simp

/-! ## Predicates -/

theorem isOperand_denoted (value : Value) : isOperand (denoted t value) = true := by
  cases value <;> rfl

theorem not_comparator_of_qualifier {word : List Char} (h : IsQualifier word) :
    isComparator (.word word) = false := by
  obtain ⟨c, hc, digits, rfl, -⟩ := h
  simp only [List.mem_cons, List.not_mem_nil, or_false] at hc
  rcases hc with rfl | rfl <;> simp [isComparator]

theorem mem_of_mem_intersperse {α : Type} {a sep : α} {items : List α}
    (h : a ∈ items.intersperse sep) : a = sep ∨ a ∈ items := by
  induction items with
  | nil => exact absurd h List.not_mem_nil
  | cons item items ih =>
    cases items with
    | nil => exact .inr h
    | cons next items =>
      rw [List.intersperse_cons_cons] at h
      rcases List.mem_cons.mp h with rfl | h
      · exact .inr List.mem_cons_self
      · rcases List.mem_cons.mp h with rfl | h
        · exact .inl rfl
        · exact (ih h).imp id (List.mem_cons_of_mem _)

theorem not_comparator_of_namesOf {field : List Char} : ∀ item ∈ namesOf field,
    isComparator item = false := by
  intro item hitem
  unfold namesOf at hitem
  rcases mem_of_mem_intersperse hitem with rfl | hname
  · decide
  · obtain ⟨part, -, rfl⟩ := List.mem_map.mp hname
    rfl

theorem not_comparator_of_field (target : ClauseTarget) (reference : String) :
    ∀ item ∈ target.fieldOf reference, isComparator item = false := by
  intro item hitem
  cases target with
  | cypher dataObject =>
    simp only [ClauseTarget.fieldOf, List.mem_cons, List.not_mem_nil, or_false] at hitem
    rcases hitem with rfl | rfl
    · decide
    · rfl
  | sql driver objects =>
    unfold ClauseTarget.fieldOf at hitem
    simp only at hitem
    split at hitem
    · split at hitem
      · next alias_ halias =>
        rcases List.mem_append.mp hitem with hitem | hitem
        · split at hitem
          · exact absurd hitem List.not_mem_nil
          · next hne =>
            obtain rfl := List.mem_singleton.mp hitem
            exact not_comparator_of_qualifier (isQualifier_alias (aliases_get halias) hne)
        · exact not_comparator_of_namesOf item hitem
      · exact not_comparator_of_namesOf item hitem
    · exact absurd hitem List.not_mem_nil

/-- The operators that have one operand after them. -/
def simpleOperators : List (List Char) :=
  ["=".toList, "!=".toList, "<>".toList, ">".toList, ">=".toList, "<".toList, "<=".toList,
    "LIKE".toList, "CONTAINS".toList]

theorem simple_operator {word : List Char} (h : word ∈ simpleOperators) :
    (word ≠ [] ∧ ∀ c ∈ word, wordChar c) ∧ isComparator (.word word) ∧ word ≠ "IN".toList ∧
      word ≠ "BETWEEN".toList := by
  have hall : simpleOperators.all (fun word => word ≠ [] ∧ word.all wordChar ∧
      isComparator (.word word) ∧ word ≠ "IN".toList ∧ word ≠ "BETWEEN".toList) := by decide
  obtain ⟨hne, hchars, hrest⟩ := of_decide_eq_true (List.all_eq_true.mp hall word h)
  exact ⟨⟨hne, List.all_eq_true.mp hchars⟩, hrest⟩

theorem sqlOperator_simple {operator : FilterOperator} (hin : operator ≠ .in_)
    (hbetween : operator ≠ .between) : sqlOperator operator ∈ simpleOperators := by
  cases operator with
  | in_ => exact absurd rfl hin
  | between => exact absurd rfl hbetween
  | _ => decide

theorem cypherOperator_simple {operator : FilterOperator} {word : List Char}
    (h : cypherOperator operator = some word) : word ∈ simpleOperators := by
  cases operator with
  | in_ | between => cases h
  | _ =>
    obtain rfl := Option.some.inj h
    decide

/-- Field, operator and one operand. -/
theorem reads_simple (hnumbers : NumberTexts t) {expression operator : List Char} {c : Comparison}
    {value : Value} (hoperator : operator ∈ simpleOperators)
    (hexpression : target.lexis.Reads expression c.field) (hword : c.operator = operator)
    (hoperands : c.operands = [denoted t value])
    (hfield : ∀ item ∈ c.field, isComparator item = false) (hvalue : PlainValue t target value) :
    target.lexis.Reads (expression ++ " ".toList ++ operator ++ " ".toList ++ literal t value)
      c.items ∧ c.Formed := by
  obtain ⟨⟨hne, hchars⟩, hcomparator, hin, hbetween⟩ := simple_operator hoperator
  obtain ⟨field, word, operands⟩ := c
  obtain rfl : word = operator := hword
  obtain rfl : operands = [denoted t value] := hoperands
  constructor
  · rw [Comparison.items, rightOf, if_neg hin, if_neg hbetween]
    have hchunk := hexpression.blank
      ((reads_wordChars hne hchars).blank (literal_reads hnumbers hvalue))
    simpa using hchunk
  · refine ⟨hfield, hcomparator, ?_, ?_⟩
    · intro item hitem
      obtain rfl := List.mem_singleton.mp hitem
      exact isOperand_denoted value
    · rw [if_neg hin, if_neg hbetween]
      rfl

/-- Operands with commas between them. -/
theorem reads_list (hnumbers : NumberTexts t) (hcomma : ',' ∈ target.lexis.marks)
    {values : List Value} (hne : values ≠ []) (h : ∀ v ∈ values, PlainValue t target v) :
    target.lexis.Reads (", ".toList.intercalate (values.map (literal t)))
      ((values.map (denoted t)).intersperse (.mark ',')) := by
  induction values with
  | nil => exact absurd rfl hne
  | cons value values ih =>
    have hvalue := literal_reads hnumbers (h value List.mem_cons_self)
    cases values with
    | nil => simpa using hvalue
    | cons next values =>
      have hrest := ih (by simp) fun v hv => h v (List.mem_cons_of_mem _ hv)
      have hchunk := hvalue.mark_blank hcomma hrest
      rw [List.map_cons, List.map_cons, List.intercalate_cons_cons]
      simpa using hchunk

theorem sqlPredicate_reads (hnumbers : NumberTexts t) {driver : SqlDriver}
    {objects : List DataObjectProfile} {item : FilterSpec} {text : List Char}
    (h : sqlPredicate t item (aliases driver objects) driver.quote = .ok text)
    (hplain : ∀ v ∈ (ClauseTarget.sql driver objects).operands t item,
      PlainValue t (.sql driver objects) v) :
    (ClauseTarget.sql driver objects).lexis.Reads text
        ((ClauseTarget.sql driver objects).comparison t item).items ∧
      ((ClauseTarget.sql driver objects).comparison t item).Formed := by
  have hfields := not_comparator_of_field (.sql driver objects) item.field
  have hoperands : ∀ v ∈ ((ClauseTarget.sql driver objects).operands t item).map (denoted t),
      isOperand v := by
    intro v hv
    obtain ⟨value, -, rfl⟩ := List.mem_map.mp hv
    exact isOperand_denoted value
  obtain ⟨field, operator, value⟩ := item
  unfold sqlPredicate at h
  obtain ⟨expression, hexpression, h⟩ := bind_ok h
  have hfield := sqlField_reads hexpression
  cases operator with
  | in_ =>
    simp only at h
    split at h
    · next first values hitems =>
      obtain rfl := Except.ok.inj h
      have hvalues : (ClauseTarget.sql driver objects).operands t ⟨field, .in_, value⟩ =
          first :: values := by simp [ClauseTarget.operands, hitems]
      have hcomma : ',' ∈ (ClauseTarget.sql driver objects).lexis.marks := by
        simp [ClauseTarget.lexis]
      have hlist := reads_list hnumbers hcomma (List.cons_ne_nil first values)
        (by rw [← hvalues]; exact hplain)
      have hword : (ClauseTarget.sql driver objects).lexis.Reads "IN".toList [.word "IN".toList] :=
        reads_wordChars (by decide) (List.all_eq_true.mp (by decide))
      have hchunk := hfield.blank (hword.blank (hlist.enclosed (c := '(') (d := ')')
        (by simp [ClauseTarget.lexis]) (by simp [ClauseTarget.lexis])))
      have htext : expression ++ " IN (".toList ++
            ", ".toList.intercalate ((first :: values).map (literal t)) ++ ")".toList =
          expression ++ ' ' :: ("IN".toList ++ ' ' :: '(' ::
            (", ".toList.intercalate ((first :: values).map (literal t)) ++ [')'])) := by simp
      constructor
      · rw [htext, Comparison.items, ClauseTarget.comparison, hvalues]
        exact hchunk
      · refine ⟨hfields, (by decide : isComparator (.word "IN".toList)), hoperands, ?_⟩
        rw [ClauseTarget.comparison, hvalues]
        show if "IN".toList = "IN".toList then _ else _
        rw [if_pos rfl]
        exact List.cons_ne_nil _ _
    · cases h
  | between =>
    simp only at h
    split at h
    · next low high hitems =>
      obtain rfl := Except.ok.inj h
      have hvalues : (ClauseTarget.sql driver objects).operands t ⟨field, .between, value⟩ =
          [low, high] := by simp [ClauseTarget.operands, hitems]
      have hlow := literal_reads hnumbers (hplain low (by simp [hvalues]))
      have hhigh := literal_reads hnumbers (hplain high (by simp [hvalues]))
      have hword : (ClauseTarget.sql driver objects).lexis.Reads "BETWEEN".toList
          [.word "BETWEEN".toList] := reads_wordChars (by decide) (List.all_eq_true.mp (by decide))
      have hand : (ClauseTarget.sql driver objects).lexis.Reads "AND".toList [.word "AND".toList] :=
        reads_wordChars (by decide) (List.all_eq_true.mp (by decide))
      have hchunk := hfield.blank (hword.blank (hlow.blank (hand.blank hhigh)))
      have htext : expression ++ " BETWEEN ".toList ++ literal t low ++ " AND ".toList ++
            literal t high =
          expression ++ ' ' :: ("BETWEEN".toList ++ ' ' :: (literal t low ++ ' ' ::
            ("AND".toList ++ ' ' :: literal t high))) := by simp
      constructor
      · rw [htext, Comparison.items, ClauseTarget.comparison, hvalues]
        exact hchunk
      · refine ⟨hfields, (by decide : isComparator (.word "BETWEEN".toList)), hoperands, ?_⟩
        rw [ClauseTarget.comparison, hvalues]
        show if "BETWEEN".toList = "IN".toList then _ else
          if "BETWEEN".toList = "BETWEEN".toList then _ else _
        rw [if_neg (by decide), if_pos rfl]
        rfl
    · cases h
  | contains =>
    obtain rfl := Except.ok.inj h
    have hchunk := reads_simple
      (c := (ClauseTarget.sql driver objects).comparison t ⟨field, .contains, value⟩) hnumbers
      (by decide : "LIKE".toList ∈ simpleOperators) hfield rfl rfl hfields
      (hplain (likePattern t value) (by simp [ClauseTarget.operands]))
    have htext : expression ++ " LIKE ".toList ++ literal t (likePattern t value) =
        expression ++ " ".toList ++ "LIKE".toList ++ " ".toList ++
          literal t (likePattern t value) := by simp
    rw [htext]
    exact hchunk
  | _ =>
    obtain rfl := Except.ok.inj h
    exact reads_simple hnumbers (sqlOperator_simple nofun nofun) hfield rfl rfl hfields
      (hplain _ (by simp [ClauseTarget.operands]))

theorem cypherPredicate_reads (hnumbers : NumberTexts t) {dataObject : DataObjectProfile}
    {item : FilterSpec} {text : List Char} (h : cypherPredicate t item dataObject = .ok text)
    (hplain : ∀ v ∈ (ClauseTarget.cypher dataObject).operands t item,
      PlainValue t (.cypher dataObject) v) :
    (ClauseTarget.cypher dataObject).lexis.Reads text
        ((ClauseTarget.cypher dataObject).comparison t item).items ∧
      ((ClauseTarget.cypher dataObject).comparison t item).Formed := by
  have hfields := not_comparator_of_field (.cypher dataObject) item.field
  unfold cypherPredicate at h
  split at h
  · cases h
  · next operator hoperator =>
    obtain ⟨field, hnative, h⟩ := bind_ok h
    obtain rfl := Except.ok.inj h
    have hpath : field = pathOf item.field := by
      unfold nativeField at hnative
      unfold pathOf
      split at hnative
      · split at hnative
        · exact (Except.ok.inj hnative).symm
        · cases hnative
      · exact (Except.ok.inj hnative).symm
    subst hpath
    have hname : (ClauseTarget.cypher dataObject).lexis.Reads
        ('`' :: (double '`' (pathOf item.field).toList ++ ['`']))
        [.name (pathOf item.field).toList] := Lexis.reads_name _
    have hfield : (ClauseTarget.cypher dataObject).lexis.Reads
        ("n.".toList ++ '`' :: (double '`' (pathOf item.field).toList ++ ['`']))
        ((ClauseTarget.cypher dataObject).fieldOf item.field) :=
      hname.after_word rfl (by decide) fun c hc =>
        isWord_of_wordChar (List.all_eq_true.mp (by decide : "n.".toList.all wordChar) c hc)
    have hsimple := cypherOperator_simple hoperator
    have hword : ((ClauseTarget.cypher dataObject).comparison t item).operator = operator := by
      show (cypherOperator item.operator).getD [] = operator
      rw [hoperator]
      rfl
    have hoperands : (ClauseTarget.cypher dataObject).operands t item = [item.value] := by
      simp [ClauseTarget.operands]
    have hchunk := reads_simple hnumbers hsimple hfield hword
      (by rw [ClauseTarget.comparison, hoperands]; rfl) hfields
      (hplain item.value (by rw [hoperands]; exact List.mem_singleton.mpr rfl))
    have htext : "n.`".toList ++ double '`' (pathOf item.field).toList ++ "` ".toList ++ operator ++
          " ".toList ++ literal t item.value =
        ("n.".toList ++ '`' :: (double '`' (pathOf item.field).toList ++ ['`'])) ++ " ".toList ++
          operator ++ " ".toList ++ literal t item.value := by simp
    rw [htext]
    exact hchunk

/-- **A predicate reads as the comparison its filter asks for.** -/
theorem predicate_reads (hnumbers : NumberTexts t) {item : FilterSpec} {text : List Char}
    (h : target.predicate t item = .ok text)
    (hplain : ∀ v ∈ target.operands t item, PlainValue t target v) :
    target.lexis.Reads text (target.comparison t item).items ∧ (target.comparison t item).Formed := by
  cases target with
  | sql driver objects => exact sqlPredicate_reads hnumbers h hplain
  | cypher dataObject => exact cypherPredicate_reads hnumbers h hplain

/-- The bounds of the time range read as they are meant to. -/
theorem timePredicates_reads (hnumbers : NumberTexts t) {plan : QueryPlan} {texts : List (List Char)}
    (h : target.timePredicates t plan = .ok texts)
    (hplain : ∀ bound ∈ target.timeBounds plan, PlainValue t target bound.2) :
    List.Forall₂ (fun text c => target.lexis.Reads text c.items ∧ c.Formed) texts
      (target.timeComparisons t plan) := by
  cases target with
  | cypher dataObject =>
    obtain rfl := Except.ok.inj h
    exact .nil
  | sql driver objects =>
    have h : sqlTimePredicates t plan (aliases driver objects) driver.quote = .ok texts := h
    unfold sqlTimePredicates at h
    split at h
    · next range reference hrange hreference =>
      obtain ⟨field, hfield, h⟩ := bind_ok h
      obtain rfl := Except.ok.inj h
      have hbounds : (ClauseTarget.sql driver objects).timeBounds plan =
          (range.start.map fun m => (">=".toList, Value.moment m)).toList ++
            (range.stop.map fun m => ("<=".toList, Value.moment m)).toList := by
        simp [ClauseTarget.timeBounds, hrange, hreference]
      rw [hbounds] at hplain
      have hreads := sqlField_reads hfield
      have hfields := not_comparator_of_field (.sql driver objects) reference
      have hone : ∀ {word : List Char} {m : Moment}, word ∈ simpleOperators →
          PlainValue t (.sql driver objects) (.moment m) →
          (ClauseTarget.sql driver objects).lexis.Reads
              (field ++ " ".toList ++ word ++ " ".toList ++ literal t (.moment m))
              (Comparison.items ⟨(ClauseTarget.sql driver objects).fieldOf reference, word,
                [denoted t (.moment m)]⟩) ∧
            (Comparison.Formed ⟨(ClauseTarget.sql driver objects).fieldOf reference, word,
              [denoted t (.moment m)]⟩) :=
        fun hword hvalue => reads_simple hnumbers hword hreads rfl rfl hfields hvalue
      unfold ClauseTarget.timeComparisons
      rw [hbounds, hreference, List.map_append]
      refine List.rel_append ?_ ?_
      · cases hstart : range.start with
        | none => exact .nil
        | some m =>
          have hvalue : PlainValue t (.sql driver objects) (.moment m) :=
            hplain (">=".toList, .moment m) (by rw [hstart]; exact List.mem_cons_self)
          have hread := hone (by decide : ">=".toList ∈ simpleOperators) hvalue
          refine .cons ?_ .nil
          simpa using hread
      · cases hstop : range.stop with
        | none => exact .nil
        | some m =>
          have hvalue : PlainValue t (.sql driver objects) (.moment m) :=
            hplain ("<=".toList, .moment m)
              (List.mem_append_right _ (by rw [hstop]; exact List.mem_cons_self))
          have hread := hone (by decide : "<=".toList ∈ simpleOperators) hvalue
          refine .cons ?_ .nil
          simpa using hread
    · next hnone =>
      obtain rfl := Except.ok.inj h
      have hbounds : (ClauseTarget.sql driver objects).timeBounds plan = [] := by
        simp only [ClauseTarget.timeBounds]
      rw [ClauseTarget.timeComparisons, hbounds]
      exact .nil

/-! ## The clause -/

/-- The comparisons a plan asks for: one for each filter, then the bounds of the time range. -/
def comparisons (t : Texts) (target : ClauseTarget) (plan : QueryPlan) : List Comparison :=
  plan.filters.map (target.comparison t) ++ target.timeComparisons t plan

theorem joined_reads {texts : List (List Char)} {cs : List Comparison} (hne : cs ≠ [])
    (h : List.Forall₂ (fun text c => target.lexis.Reads text c.items ∧ c.Formed) texts cs) :
    target.lexis.Reads (" AND ".toList.intercalate texts) (joinedItems cs) := by
  induction h with
  | nil => exact absurd rfl hne
  | cons hc htail ih =>
    cases htail with
    | nil =>
      rw [List.intercalate_singleton]
      exact hc.1
    | cons hnext htail =>
      have hand : target.lexis.Reads "AND".toList [.word "AND".toList] :=
        reads_wordChars (by decide) (List.all_eq_true.mp (by decide))
      have hchunk := hc.1.blank (hand.blank (ih (by simp)))
      rw [List.intercalate_cons_cons]
      simpa [joinedItems] using hchunk

theorem formed_of_reads {texts : List (List Char)} {cs : List Comparison}
    (h : List.Forall₂ (fun text c => target.lexis.Reads text c.items ∧ c.Formed) texts cs) :
    ∀ c ∈ cs, c.Formed := by
  intro c hc
  obtain ⟨text, -, -, hformed⟩ := exists_of_forall₂ h.flip hc
  exact hformed

theorem predicates_read (hnumbers : NumberTexts t) {items : List FilterSpec}
    {texts : List (List Char)} (h : items.mapM (target.predicate t) = .ok texts)
    (hplain : ∀ item ∈ items, ∀ v ∈ target.operands t item, PlainValue t target v) :
    List.Forall₂ (fun text c => target.lexis.Reads text c.items ∧ c.Formed) texts
      (items.map (target.comparison t)) := by
  induction items generalizing texts with
  | nil =>
    cases h
    exact .nil
  | cons item items ih =>
    rw [List.mapM_cons] at h
    obtain ⟨text, htext, h⟩ := bind_ok h
    obtain ⟨rest, hrest, h⟩ := bind_ok h
    obtain rfl := Except.ok.inj h
    refine .cons (predicate_reads hnumbers htext (hplain item List.mem_cons_self)) ?_
    exact ih hrest fun item hitem => hplain item (List.mem_cons_of_mem _ hitem)

/-- Where all values are plain, the clause reads as it is meant to. -/
theorem readWhere_of_plain (hnumbers : NumberTexts t) {plan : QueryPlan} {clause : List Char}
    (h : whereClause t target plan = .ok clause)
    (hplain : ∀ v ∈ target.written t plan, PlainValue t target v) :
    target.readWhere clause = some (comparisons t target plan) := by
  unfold whereClause at h
  obtain ⟨filters, hfilters, h⟩ := bind_ok h
  obtain ⟨times, htimes, h⟩ := bind_ok h
  have hfilterReads := predicates_read hnumbers hfilters fun item hitem v hv =>
    hplain v (List.mem_append_left _ (List.mem_flatMap.mpr ⟨item, hitem, hv⟩))
  have htimeReads := timePredicates_reads hnumbers htimes fun bound hbound =>
    hplain bound.2 (List.mem_append_right _ (List.mem_map_of_mem hbound))
  have hall : List.Forall₂ (fun text c => target.lexis.Reads text c.items ∧ c.Formed)
      (filters ++ times) (comparisons t target plan) := List.rel_append hfilterReads htimeReads
  unfold ClauseTarget.readWhere
  by_cases hempty : filters ++ times = []
  · rw [if_pos hempty] at h
    obtain rfl := Except.ok.inj h
    rw [hempty] at hall
    cases hc : comparisons t target plan with
    | nil => rfl
    | cons c cs =>
      rw [hc] at hall
      cases hall
  · rw [if_neg hempty] at h
    obtain rfl := Except.ok.inj h
    have hne : comparisons t target plan ≠ [] := by
      intro hnil
      rw [hnil] at hall
      exact hempty (List.forall₂_nil_right_iff.mp hall)
    have hwhere : target.lexis.Reads "WHERE".toList [.word "WHERE".toList] :=
      reads_wordChars (by decide) (List.all_eq_true.mp (by decide))
    have hlexes := (hwhere.blank (joined_reads hne hall)).lexes.blank
    have hlex : target.lexis.lex (" WHERE ".toList ++ " AND ".toList.intercalate (filters ++ times)) =
        some (.word "WHERE".toList :: joinedItems (comparisons t target plan)) := by
      simpa using hlexes.lex_eq
    rw [hlex]
    show (readComparisons _ (joinedItems (comparisons t target plan))) = _
    exact readComparisons_joined hne (formed_of_reads hall) (Nat.le_succ _)

/-- What the generated clause promises: every literal is one literal that denotes its value, and there
is one comparison for each filter. -/
structure Faithful (t : Texts) (target : ClauseTarget) (plan : QueryPlan) (clause : List Char) :
    Prop where
  literals : ∀ v ∈ target.written t plan, target.lexis.lex (literal t v) = some [denoted t v]
  clause : target.readWhere clause = some (comparisons t target plan)

/-- **A clause is what it is meant to be exactly when its values are plain**: where the target takes
backslashes for escapes, each backslash in a value stands before a character that it does not change. -/
theorem whereClause_faithful_iff (t : Texts) (target : ClauseTarget) (plan : QueryPlan)
    {clause : List Char} (hnumbers : NumberTexts t) (h : whereClause t target plan = .ok clause) :
    Faithful t target plan clause ↔ ∀ v ∈ target.written t plan, PlainValue t target v := by
  constructor
  · intro hfaithful v hv
    exact (literal_lex_iff hnumbers).mp (hfaithful.literals v hv)
  · intro hplain
    exact ⟨fun v hv => (literal_lex_iff hnumbers).mpr (hplain v hv),
      readWhere_of_plain hnumbers h hplain⟩

/-- For a driver that takes no backslash for an escape every clause is what it is meant to be. -/
theorem faithful_of_standard {driver : SqlDriver} (hdriver : driverEscapes driver = none)
    {objects : List DataObjectProfile} {plan : QueryPlan} {clause : List Char}
    (hnumbers : NumberTexts t) (h : whereClause t (.sql driver objects) plan = .ok clause) :
    Faithful t (.sql driver objects) plan clause := by
  have hplain : ∀ v, PlainValue t (.sql driver objects) v :=
    fun v text _ => Quoting.plain_of_escapes_none rfl hdriver text
  exact ⟨fun v _ => (literal_lex_iff hnumbers).mpr (hplain v),
    readWhere_of_plain hnumbers h fun v _ => hplain v⟩

/-- Values without backslashes are safe for every target. -/
theorem faithful_of_no_backslash {plan : QueryPlan} {clause : List Char} (hnumbers : NumberTexts t)
    (h : whereClause t target plan = .ok clause)
    (hvalues : ∀ v ∈ target.written t plan, ∀ text, denoted t v = .text text → '\\' ∉ text) :
    Faithful t target plan clause := by
  have hdoubled : target.strings.doubled = true := by cases target <;> rfl
  have hplain : ∀ v ∈ target.written t plan, PlainValue t target v :=
    fun v hv text htext => Quoting.plain_of_not_mem hdoubled (hvalues v hv text htext)
  exact ⟨fun v hv => (literal_lex_iff hnumbers).mpr (hplain v hv),
    readWhere_of_plain hnumbers h hplain⟩

/-! ## One filter on a name -/

def customers : DataObjectProfile := { id := "customers", name := "customers" }

/-- `name = value` -/
def namePlan (value : String) : QueryPlan where
  id := "plan_1"
  datasourceId := "d1"
  queryLanguage := .sql
  dataObjectIds := ["customers"]
  filters := [⟨"customers::name", .equals, .str value⟩]
  expectedResultType := .tabular
  dataObjectIds_length := by decide
  limit_range := by decide
  time_together := Contracts.TimeRange.none_together

def clauseTexts : Texts where
  str
    | .str s => s
    | .int n => toString n
    | _ => "0"
  isoformat m := toString m.day
  escape := id
  dumps _ := ""
  repr _ := ""
  reprLanguage _ := ""

theorem isNumber_nat (n : Nat) : IsNumber (toString n).toList := by
  rw [Nat.toString_eq_repr, Nat.toList_repr]
  refine ⟨Nat.toDigits_ne_nil, fun c hc => .inl ?_⟩
  have hdigit : c.isDigit = true := Nat.isDigit_of_mem_toDigits (by decide) (by decide) hc
  simpa [Char.isDigit, isAsciiDigit, Char.le_def] using hdigit

theorem clauseTexts_numbers : NumberTexts clauseTexts where
  int n := by
    cases n with
    | ofNat n => exact isNumber_nat n
    | negSucc n =>
      have htext : (clauseTexts.str (.int (Int.negSucc n))).toList =
          '-' :: (toString (n + 1)).toList := by
        show ("-" ++ toString (n + 1)).toList = _
        simp
      rw [htext]
      refine ⟨by simp, fun c hc => ?_⟩
      rcases List.mem_cons.mp hc with rfl | hc
      · exact .inr (.inr (by simp))
      · exact (isNumber_nat (n + 1)).2 c hc
  real _ := isNumber_nat 0

/-- A quote in the name is no quote of the clause. -/
theorem quoted_name_faithful :
    Faithful clauseTexts (.sql .mysql [customers]) (namePlan "O'Brien")
      " WHERE t0.`name` = 'O''Brien'".toList :=
  (whereClause_faithful_iff clauseTexts (.sql .mysql [customers]) (namePlan "O'Brien")
    clauseTexts_numbers (by decide)).mpr fun v hv text htext => by
      obtain rfl := List.mem_singleton.mp hv
      obtain rfl := Lexeme.text.inj htext
      decide

/-- A name that ends with a backslash takes the quote that should end its literal. -/
theorem backslash_takes_the_quote :
    ∃ clause, whereClause clauseTexts (.sql .mysql [customers]) (namePlan "\\") = .ok clause ∧
      ¬ Faithful clauseTexts (.sql .mysql [customers]) (namePlan "\\") clause := by
  refine ⟨" WHERE t0.`name` = '\\'".toList, by decide, fun h => ?_⟩
  have hliteral := h.literals (.str "\\") List.mem_cons_self
  have hunread : (ClauseTarget.sql .mysql [customers]).lexis.lex (literal clauseTexts (.str "\\")) =
      none := by decide
  rw [hunread] at hliteral
  cases hliteral

end QueryGenerator

end Querying
