import Qaneris.Querying.ReadOnly
import Qaneris.Querying.Template

/-!
# Writing a statement and reading it back

* `parse_cells` — the template reads a statement out of its cells
* `decode_command` — and out of the text of the command, with the values as parameters
-/

namespace Querying

open Contracts
open Infra (Token)

/-! ## Cells -/

section Cells

variable {ν : Type}

def tokens (ts : List Token) : List (Cell ν) := ts.map .token

def ColumnName.cells (c : ColumnName) : List (Cell ν) :=
  tokens [.word c.alias_, .mark '.', .quoted c.path.toList]

def TableName.cells (table : TableName) : List (Cell ν) :=
  match table.space with
  | some space => tokens [.quoted space.toList, .mark '.', .quoted table.name.toList]
  | none => tokens [.quoted table.name.toList]

def argumentCells : Option ColumnName → List (Cell ν)
  | none => tokens [.mark '*']
  | some c => c.cells

def Item.cells : Item ColumnName → List (Cell ν)
  | .column c => c.cells
  | .aggregate function argument alias_ =>
    tokens [.word (aggregateName function).toList, .mark '('] ++
      (argumentCells argument ++
        (tokens (.mark ')' :: spaced "AS") ++ tokens [.quoted alias_.toList]))

def Comparison.symbol : Comparison → List Token
  | .eq => [.mark ' ', .mark '=', .mark ' ']
  | .ne => [.mark ' ', .mark '!', .mark '=', .mark ' ']
  | .gt => [.mark ' ', .mark '>', .mark ' ']
  | .ge => [.mark ' ', .mark '>', .mark '=', .mark ' ']
  | .lt => [.mark ' ', .mark '<', .mark ' ']
  | .le => [.mark ' ', .mark '<', .mark '=', .mark ' ']

/-- The items, with `separator` between them. -/
def joined (separator : List Token) (items : List (List (Cell ν))) : List (Cell ν) :=
  (tokens separator).intercalate items

def Test.cells : Test ν → List (Cell ν)
  | .isNull => tokens (spaced "IS" ++ [.word "NULL".toList])
  | .isNotNull => tokens (spaced "IS" ++ (.word "NOT".toList :: .mark ' ' :: [.word "NULL".toList]))
  | .compare op v => tokens op.symbol ++ [.value v]
  | .between low high => tokens (spaced "BETWEEN") ++ (.value low :: (tokens (spaced "AND") ++ [.value high]))
  | .isIn values =>
    tokens (spaced "IN" ++ [.mark '(']) ++
      (joined comma (values.map fun v => [.value v]) ++ tokens [.mark ')'])
  | .like v => tokens (spaced "LIKE") ++ [.value v]

def Predicate.cells (p : Predicate ColumnName ν) : List (Cell ν) :=
  p.column.cells ++ p.test.cells

def Target.cells : Target ColumnName → List (Cell ν)
  | .column c => c.cells
  | .alias_ name => tokens [.quoted name.toList]

def Ordering.cells (o : Ordering ColumnName) : List (Cell ν) :=
  o.target.cells ++ tokens [.mark ' ', .word (if o.descending then "DESC" else "ASC").toList]

def joinCells : Option (List Char × Join ColumnName) → List (Cell ν)
  | none => []
  | some (alias_, join) =>
    tokens (spaced "JOIN") ++ (join.table.cells ++ (tokens (spaced "AS") ++
      (tokens [.word alias_] ++ (tokens (spaced "ON") ++ (join.left.cells ++
        (tokens [.mark ' ', .mark '=', .mark ' '] ++ join.right.cells))))))

/-- A clause that is missing when it has no items. -/
def clauseCells (keyword separator : List Token) (items : List (List (Cell ν))) : List (Cell ν) :=
  if items = [] then [] else tokens keyword ++ joined separator items

def Written.join (w : Written ν) : Option (List Char × Join ColumnName) :=
  match w.joinAlias, w.statement.join with
  | some alias_, some join => some (alias_, join)
  | _, _ => none

/-! Each of these is a clause with all that follows it. -/

section Clauses

variable (s : Statement ColumnName ν)

def Statement.limitCells : List (Cell ν) := tokens (spaced "LIMIT") ++ [.value s.limit]

def Statement.orderCells : List (Cell ν) :=
  clauseCells (spacedBy "ORDER") comma (s.orderBy.map Ordering.cells) ++ s.limitCells

def Statement.groupCells : List (Cell ν) :=
  clauseCells (spacedBy "GROUP") comma (s.groupBy.map ColumnName.cells) ++ s.orderCells

def Statement.whereCells : List (Cell ν) :=
  clauseCells (spaced "WHERE") (spaced "AND") (s.predicates.map Predicate.cells) ++ s.groupCells

end Clauses

def Written.cells (w : Written ν) : List (Cell ν) :=
  tokens [.word "SELECT".toList, .mark ' '] ++
    (joined comma (w.statement.items.map Item.cells) ++
      (tokens (spaced "FROM") ++ (w.statement.table.cells ++ (tokens (spaced "AS") ++
        (tokens [.word w.baseAlias] ++ (joinCells w.join ++ w.statement.whereCells))))))

/-- What the template cannot say is not written. -/
structure Written.Fits (w : Written ν) : Prop where
  items : w.statement.items ≠ []
  join : w.joinAlias.isSome = w.statement.join.isSome
  isIn : ∀ p ∈ w.statement.predicates, p.test ≠ .isIn []

end Cells

/-! ## Reading a statement -/

section Parse

variable {ν α : Type}

@[simp] theorem tokens_nil : (tokens [] : List (Cell ν)) = [] := rfl

@[simp]
theorem tokens_cons (t : Token) (ts : List Token) :
    (tokens (t :: ts) : List (Cell ν)) = .token t :: tokens ts := rfl

@[simp]
theorem tokens_append (a b : List Token) :
    (tokens (a ++ b) : List (Cell ν)) = tokens a ++ tokens b :=
  List.map_append

@[simp]
theorem expect_tokens (ts : List Token) (rest : List (Cell ν)) :
    expect ts (tokens ts ++ rest) = some rest := by
  induction ts with
  | nil => rfl
  | cons t ts ih => rw [tokens_cons, List.cons_append, expect, if_pos rfl, ih]

/-- The parser takes the cells for `x`, whatever follows them. -/
def Reads (p : Parser ν α) (cells : List (Cell ν)) (x : α) : Prop :=
  ∀ rest, p (cells ++ rest) = some (x, rest)

@[simp]
theorem joined_cons_cons (separator : List Token) (x y : List (Cell ν)) (xs : List (List (Cell ν))) :
    joined separator (x :: y :: xs) = x ++ (tokens separator ++ joined separator (y :: xs)) := by
  simp [joined, List.intercalate_cons_cons]

@[simp]
theorem joined_singleton (separator : List Token) (x : List (Cell ν)) :
    joined separator [x] = x := by
  simp [joined]

/-- Items are read up to the first place where no separator follows. -/
theorem parseMany_joined {p : Parser ν α} {write : α → List (Cell ν)} {separator : List Token}
    {x : α} {xs : List α} {rest : List (Cell ν)} (hp : ∀ y ∈ x :: xs, Reads p (write y) y)
    (hrest : expect separator rest = none) {fuel : Nat} (hfuel : xs.length < fuel) :
    parseMany p separator fuel (joined separator ((x :: xs).map write) ++ rest) =
      some (x :: xs, rest) := by
  induction xs generalizing x fuel with
  | nil =>
    obtain ⟨fuel, rfl⟩ : ∃ n, fuel = n + 1 := ⟨fuel - 1, by omega⟩
    have hx := hp x List.mem_cons_self rest
    simp [parseMany, hx, hrest]
  | cons y ys ih =>
    obtain ⟨fuel, rfl⟩ : ∃ n, fuel = n + 1 := ⟨fuel - 1, by omega⟩
    have hlen : ys.length < fuel := by simpa using hfuel
    have htail := ih (fun z hz => hp z (List.mem_cons_of_mem _ hz)) hlen
    have hx := hp x List.mem_cons_self
      (tokens separator ++ joined separator ((y :: ys).map write) ++ rest)
    rw [List.map_cons, List.map_cons, joined_cons_cons, ← List.map_cons, List.append_assoc, parseMany,
      hx, List.append_assoc]
    simp only [Option.bind_eq_bind, Option.bind_some, expect_tokens]
    rw [htail]
    rfl

/-- There are no more items than cells. -/
theorem length_le_joined {write : α → List (Cell ν)} (hwrite : ∀ x, write x ≠ [])
    (separator : List Token) (xs : List α) :
    xs.length ≤ (joined separator (xs.map write)).length := by
  induction xs with
  | nil => simp
  | cons x xs ih =>
    have hx : 0 < (write x).length := List.length_pos_iff.mpr (hwrite x)
    cases xs with
    | nil => simpa using Nat.succ_le_of_lt hx
    | cons y ys =>
      rw [List.map_cons, List.map_cons, joined_cons_cons, ← List.map_cons]
      simp only [List.length_append, List.length_cons] at *
      omega

/-- A list of items between two texts of the template. -/
theorem parseMany_cells {p : Parser ν α} {write : α → List (Cell ν)} {separator : List Token}
    {xs : List α} {rest : List (Cell ν)} (hxs : xs ≠ []) (hwrite : ∀ x, write x ≠ [])
    (hp : ∀ x ∈ xs, Reads p (write x) x) (hrest : expect separator rest = none) :
    parseMany p separator (joined separator (xs.map write) ++ rest).length
      (joined separator (xs.map write) ++ rest) = some (xs, rest) := by
  obtain ⟨x, xs, rfl⟩ := List.exists_cons_of_ne_nil hxs
  have hlen := length_le_joined hwrite separator (x :: xs)
  refine parseMany_joined hp hrest ?_
  rw [List.length_cons] at hlen
  rw [List.length_append]
  omega

theorem reads_column (c : ColumnName) : Reads (ν := ν) parseColumn c.cells c := by
  intro rest
  simp [ColumnName.cells, parseColumn, String.ofList_toList]

theorem parseTable_cells (table : TableName) (rest : List (Cell ν)) :
    parseTable (table.cells ++ .token (.mark ' ') :: rest) =
      some (table, .token (.mark ' ') :: rest) := by
  obtain ⟨space, name⟩ := table
  cases space <;> simp [TableName.cells, parseTable, String.ofList_toList]

theorem reads_argument (argument : Option ColumnName) :
    Reads (ν := ν) parseArgument (argumentCells argument) argument := by
  intro rest
  cases argument with
  | none => rfl
  | some c =>
    have hc := reads_column c rest
    simp only [ColumnName.cells, tokens_cons, tokens_nil, List.cons_append, List.nil_append] at hc
    simp [argumentCells, ColumnName.cells, parseArgument, hc]

theorem find_aggregateName (f : AggregateFunction) :
    aggregateFunctions.find? (fun g => (aggregateName g).toList = (aggregateName f).toList) =
      some f := by
  cases f <;> decide

theorem reads_item (item : Item ColumnName) : Reads (ν := ν) parseItem item.cells item := by
  intro rest
  cases item with
  | column c =>
    have hc := reads_column c rest
    simp only [ColumnName.cells, tokens_cons, tokens_nil, List.cons_append, List.nil_append] at hc
    simp [Item.cells, ColumnName.cells, parseItem, hc]
  | aggregate function argument alias_ =>
    have harg := reads_argument argument
      (tokens (.mark ')' :: spaced "AS") ++ (tokens [.quoted alias_.toList] ++ rest))
    have hfind := find_aggregateName function
    simp only [Item.cells, tokens_cons, tokens_nil, List.cons_append, List.nil_append,
      List.append_assoc, parseItem, hfind, Option.bind_eq_bind, Option.bind_some] at harg ⊢
    rw [harg]
    simp [expect, spaced, parseName, String.ofList_toList]

theorem reads_test (test : Test ν) (h : test ≠ .isIn []) : Reads parseTest test.cells test := by
  intro rest
  cases test with
  | isNull => simp [Test.cells, parseTest, expect, spaced]
  | isNotNull => simp [Test.cells, parseTest, expect, spaced]
  | compare op v =>
    cases op <;>
      simp [Test.cells, parseTest, expect, spaced, Comparison.symbol, parseComparison, comparisons,
        parseValue]
  | between low high => simp [Test.cells, parseTest, expect, spaced, parseBetween, parseValue]
  | isIn values =>
    have hvalues : values ≠ [] := by
      rintro rfl
      exact h rfl
    have hrest : expect comma (.token (.mark ')') :: rest) = none := rfl
    let write : ν → List (Cell ν) := fun v => [.value v]
    have hreads : ∀ v ∈ values, Reads parseValue (write v) v := fun _ _ _ => rfl
    have hmany := parseMany_cells hvalues (fun _ => List.cons_ne_nil _ _) hreads hrest
    have hin : parseIn (joined comma (values.map fun v => [.value v]) ++ .token (.mark ')') :: rest) =
        some (.isIn values, rest) := by
      rw [parseIn, hmany]
      simp [expect]
    simp [Test.cells, parseTest, expect, spaced, hin]
  | like v => simp [Test.cells, parseTest, expect, spaced, parseValue]

theorem reads_predicate (p : Predicate ColumnName ν) (h : p.test ≠ .isIn []) :
    Reads parsePredicate p.cells p := by
  intro rest
  rw [Predicate.cells, List.append_assoc, parsePredicate, reads_column]
  simp only [Option.bind_eq_bind, Option.bind_some]
  rw [reads_test p.test h]
  rfl

theorem reads_target (target : Target ColumnName) :
    Reads (ν := ν) parseTarget target.cells target := by
  intro rest
  cases target with
  | column c =>
    have hc := reads_column c rest
    simp only [ColumnName.cells, tokens_cons, tokens_nil, List.cons_append, List.nil_append] at hc
    simp [Target.cells, ColumnName.cells, parseTarget, hc]
  | alias_ name => simp [Target.cells, parseTarget, String.ofList_toList]

theorem reads_ordering (o : Ordering ColumnName) :
    Reads (ν := ν) parseOrdering o.cells o := by
  intro rest
  obtain ⟨target, descending⟩ := o
  rw [Ordering.cells, List.append_assoc, parseOrdering, reads_target]
  cases descending <;> simp [expect]

/-- A text that neither the clause nor what follows it begins with. -/
theorem expect_clause {ts keyword separator : List Token} {items : List (List (Cell ν))}
    {rest : List (Cell ν)} (hkeyword : ∀ more : List (Cell ν), expect ts (tokens keyword ++ more) = none)
    (hrest : expect ts rest = none) :
    expect ts (clauseCells keyword separator items ++ rest) = none := by
  rw [clauseCells]
  split
  · rw [List.nil_append, hrest]
  · rw [List.append_assoc, hkeyword]

theorem parseClause_cells {p : Parser ν α} {write : α → List (Cell ν)}
    {keyword separator : List Token} {xs : List α} {rest : List (Cell ν)}
    (hwrite : ∀ x, write x ≠ []) (hp : ∀ x ∈ xs, Reads p (write x) x)
    (hkeyword : expect keyword rest = none) (hrest : expect separator rest = none) :
    parseClause keyword p separator (clauseCells keyword separator (xs.map write) ++ rest) =
      some (xs, rest) := by
  cases xs with
  | nil => simp [clauseCells, parseClause, hkeyword]
  | cons x xs =>
    have hmany := parseMany_cells (List.cons_ne_nil x xs) hwrite hp hrest
    have hcells : clauseCells keyword separator ((x :: xs).map write) ++ rest =
        tokens keyword ++ (joined separator ((x :: xs).map write) ++ rest) := by
      simp [clauseCells]
    rw [hcells, parseClause, expect_tokens]
    exact hmany

theorem parseJoin_cells (join : Option (List Char × Join ColumnName)) {rest : List (Cell ν)}
    (hrest : expect (spaced "JOIN") rest = none) :
    parseJoin (joinCells join ++ rest) = some (join, rest) := by
  cases join with
  | none => simp [joinCells, parseJoin, hrest]
  | some pair =>
    obtain ⟨alias_, table, left, right⟩ := pair
    have htable := parseTable_cells table (tokens [.word "AS".toList, .mark ' '] ++
      (tokens [.word alias_] ++ (tokens (spaced "ON") ++ (left.cells ++
        (tokens [.mark ' ', .mark '=', .mark ' '] ++ (right.cells ++ rest))))))
    have hleft := reads_column left (tokens [.mark ' ', .mark '=', .mark ' '] ++ (right.cells ++ rest))
    have hright := reads_column right rest
    simp only [joinCells, List.append_assoc, parseJoin, expect_tokens, Option.bind_eq_bind]
    simp only [spaced, tokens_cons, tokens_nil, List.cons_append, List.nil_append] at htable hleft ⊢
    rw [htable]
    simp [expect, parseAlias, hleft, hright]

theorem ColumnName.cells_ne_nil (c : ColumnName) : (c.cells : List (Cell ν)) ≠ [] :=
  List.cons_ne_nil _ _

theorem Item.cells_ne_nil (item : Item ColumnName) : (item.cells : List (Cell ν)) ≠ [] := by
  cases item <;> simp [Item.cells, ColumnName.cells_ne_nil]

theorem Predicate.cells_ne_nil (p : Predicate ColumnName ν) : p.cells ≠ [] := by
  simp [Predicate.cells, ColumnName.cells_ne_nil]

theorem Ordering.cells_ne_nil (o : Ordering ColumnName) : (o.cells : List (Cell ν)) ≠ [] := by
  simp [Ordering.cells]

section Statement

variable (s : Statement ColumnName ν)

theorem parse_orderCells :
    parseClause (spacedBy "ORDER") parseOrdering comma s.orderCells =
      some (s.orderBy, s.limitCells) :=
  parseClause_cells Ordering.cells_ne_nil (fun o _ => reads_ordering o) rfl rfl

theorem parse_groupCells :
    parseClause (spacedBy "GROUP") parseColumn comma s.groupCells = some (s.groupBy, s.orderCells) :=
  parseClause_cells ColumnName.cells_ne_nil (fun c _ => reads_column c)
    (expect_clause (fun _ => rfl) rfl) (expect_clause (fun _ => rfl) rfl)

/-- A text that neither of the clauses after the predicates begins with. -/
theorem expect_groupCells {ts : List Token}
    (hgroup : ∀ more : List (Cell ν), expect ts (tokens (spacedBy "GROUP") ++ more) = none)
    (horder : ∀ more : List (Cell ν), expect ts (tokens (spacedBy "ORDER") ++ more) = none)
    (hlimit : ∀ more : List (Cell ν), expect ts (tokens (spaced "LIMIT") ++ more) = none) :
    expect ts s.groupCells = none :=
  expect_clause hgroup (expect_clause horder (hlimit _))

theorem parse_whereCells (h : ∀ p ∈ s.predicates, p.test ≠ .isIn []) :
    parseClause (spaced "WHERE") parsePredicate (spaced "AND") s.whereCells =
      some (s.predicates, s.groupCells) :=
  parseClause_cells Predicate.cells_ne_nil (fun p hp => reads_predicate p (h p hp))
    (expect_groupCells s (fun _ => rfl) (fun _ => rfl) fun _ => rfl)
    (expect_groupCells s (fun _ => rfl) (fun _ => rfl) fun _ => rfl)

theorem parse_joinCells (join : Option (List Char × Join ColumnName)) :
    parseJoin (joinCells join ++ s.whereCells) = some (join, s.whereCells) :=
  parseJoin_cells join (expect_clause (fun _ => rfl)
    (expect_groupCells s (fun _ => rfl) (fun _ => rfl) fun _ => rfl))

end Statement

theorem Written.Fits.join_eq {w : Written ν} (h : w.Fits) :
    w.joinAlias = w.join.map Prod.fst ∧ w.statement.join = w.join.map Prod.snd := by
  have hjoin := h.join
  rw [Written.join]
  cases halias : w.joinAlias with
  | none =>
    rw [halias] at hjoin
    cases hs : w.statement.join with
    | none => exact ⟨rfl, rfl⟩
    | some join => simp [hs] at hjoin
  | some alias_ =>
    rw [halias] at hjoin
    cases hs : w.statement.join with
    | none => simp [hs] at hjoin
    | some join => exact ⟨rfl, rfl⟩

/-- **The template reads a statement out of its cells.** -/
theorem parse_cells {w : Written ν} (h : w.Fits) : parse w.cells = some w := by
  have hfrom : expect comma (tokens (spaced "FROM") ++ (w.statement.table.cells ++
      (tokens (spaced "AS") ++ (tokens [.word w.baseAlias] ++
        (joinCells w.join ++ w.statement.whereCells))))) = none := rfl
  have hmany := parseMany_cells h.items (Item.cells_ne_nil (ν := ν))
    (fun item _ => reads_item item) hfrom
  have htable : parseTable (w.statement.table.cells ++ (tokens (spaced "AS") ++
      (tokens [.word w.baseAlias] ++ (joinCells w.join ++ w.statement.whereCells)))) =
      some (w.statement.table, tokens (spaced "AS") ++
        (tokens [.word w.baseAlias] ++ (joinCells w.join ++ w.statement.whereCells))) :=
    parseTable_cells w.statement.table _
  have halias : parseAlias (tokens [.word w.baseAlias] ++ (joinCells w.join ++ w.statement.whereCells)) =
      some (w.baseAlias, joinCells w.join ++ w.statement.whereCells) := rfl
  unfold parse Written.cells
  rw [expect_tokens]
  dsimp only [Option.bind_eq_bind, Option.bind_some]
  rw [hmany]
  dsimp only [Option.bind_some]
  rw [expect_tokens]
  dsimp only [Option.bind_some]
  rw [htable]
  dsimp only [Option.bind_some]
  rw [expect_tokens]
  dsimp only [Option.bind_some]
  rw [halias]
  dsimp only [Option.bind_some]
  rw [parse_joinCells]
  dsimp only [Option.bind_some]
  rw [parse_whereCells w.statement h.isIn]
  dsimp only [Option.bind_some]
  rw [parse_groupCells]
  dsimp only [Option.bind_some]
  rw [parse_orderCells]
  dsimp only [Option.bind_some]
  rw [Statement.limitCells, expect_tokens, ← h.join_eq.1, ← h.join_eq.2]
  rfl

end Parse

/-! ## Telling the cells apart -/

section Told

variable {ν : Type}

def Cell.tokens (d : Driver) : Cell ν → List Token
  | .token t => [t]
  | .value _ => d.placeholderTokens

/-- The tokens of the command: each value is a placeholder. -/
def unbind (d : Driver) (cells : List (Cell ν)) : List Token := cells.flatMap (Cell.tokens d)

def Cell.value? : Cell ν → Option ν
  | .token _ => none
  | .value v => some v

/-- The values in the order of their placeholders. -/
def values (cells : List (Cell ν)) : List ν := cells.filterMap Cell.value?

section Simp

variable (d : Driver)

@[simp] theorem unbind_nil : unbind d ([] : List (Cell ν)) = [] := rfl

@[simp]
theorem unbind_append (a b : List (Cell ν)) : unbind d (a ++ b) = unbind d a ++ unbind d b :=
  List.flatMap_append

@[simp]
theorem unbind_token_cons (t : Token) (cells : List (Cell ν)) :
    unbind d (.token t :: cells) = t :: unbind d cells := rfl

@[simp]
theorem unbind_value_cons (v : ν) (cells : List (Cell ν)) :
    unbind d (.value v :: cells) = d.placeholderTokens ++ unbind d cells := rfl

@[simp]
theorem unbind_tokens (ts : List Token) : unbind d (tokens ts : List (Cell ν)) = ts := by
  induction ts with
  | nil => rfl
  | cons t ts ih => rw [tokens_cons, unbind_token_cons, ih]

@[simp] theorem values_nil : values ([] : List (Cell ν)) = [] := rfl

@[simp]
theorem values_append (a b : List (Cell ν)) : values (a ++ b) = values a ++ values b :=
  List.filterMap_append

@[simp]
theorem values_value_cons (v : ν) (cells : List (Cell ν)) :
    values (.value v :: cells) = v :: values cells := rfl

@[simp]
theorem values_tokens (ts : List Token) : values (tokens ts : List (Cell ν)) = [] := by
  induction ts with
  | nil => rfl
  | cons t ts ih => exact ih

end Simp

/-- A word that may stand in a command: none of the operations that the gate forbids. -/
structure IsWord (chars : List Char) : Prop where
  ne_nil : chars ≠ []
  isWord : ∀ c ∈ chars, Infra.isWord c
  allowed : ∀ operation ∈ forbiddenOperations, Infra.dropWord operation.toList chars ≠ some []

instance (chars : List Char) : Decidable (IsWord chars) :=
  haveI : Decidable (∀ c ∈ chars, Infra.isWord c) := List.decidableBAll _ chars
  decidable_of_iff (chars ≠ [] ∧ (∀ c ∈ chars, Infra.isWord c) ∧
      ∀ operation ∈ forbiddenOperations, Infra.dropWord operation.toList chars ≠ some [])
    ⟨fun h => ⟨h.1, h.2.1, h.2.2⟩, fun h => ⟨h.ne_nil, h.isWord, h.allowed⟩⟩

/-- The marks of the template. -/
def templateMarks : List Char := [' ', '.', ',', '(', ')', '*', '=', '!', '<', '>']

/-- A token of the template, or a quoted name. -/
def Plain : Token → Prop
  | .word chars => IsWord chars
  | .quoted _ => True
  | .mark c => c ∈ templateMarks

instance (t : Token) : Decidable (Plain t) :=
  match t with
  | .word chars => inferInstanceAs (Decidable (IsWord chars))
  | .quoted _ => inferInstanceAs (Decidable True)
  | .mark c => inferInstanceAs (Decidable (c ∈ templateMarks))

/-- It is no part of a placeholder. -/
theorem Plain.ne_placeholder {t : Token} (h : Plain t) : t ≠ .mark '?' ∧ t ≠ .mark '%' := by
  constructor <;> rintro rfl <;> exact absurd h (by decide)

/-- The cells can be told apart in the text of a command, and all but the values are of the template. -/
structure Told (d : Driver) (cells : List (Cell ν)) : Prop where
  clean : Infra.Clean Infra.isWord d.quote (unbind d cells)
  plain : ∀ t, .token t ∈ cells → Plain t

/-- A text of the template that stands between two others. -/
structure Separator (d : Driver) (ts : List Token) : Prop where
  clean : Infra.Clean Infra.isWord d.quote ts
  plain : ∀ t ∈ ts, Plain t
  head : ts.head?.any Token.isMark
  last : ts.getLast?.any Token.isMark

variable {d : Driver}

theorem mem_tokens {t : Token} {ts : List Token} :
    (.token t : Cell ν) ∈ tokens ts ↔ t ∈ ts := by
  simp [tokens]

theorem Told.nil : Told d ([] : List (Cell ν)) := ⟨.nil, fun _ h => absurd h List.not_mem_nil⟩

theorem told_tokens {ts : List Token} (hclean : Infra.Clean Infra.isWord d.quote ts)
    (hplain : ∀ t ∈ ts, Plain t) : Told d (tokens ts : List (Cell ν)) :=
  ⟨by rwa [unbind_tokens], fun t ht => hplain t (mem_tokens.mp ht)⟩

theorem told_value (v : ν) : Told d [.value v] := by
  refine ⟨?_, fun t ht => absurd ht (by simp)⟩
  rw [unbind_value_cons, unbind_nil, List.append_nil]
  cases d <;> decide

theorem Separator.told {ts : List Token} (h : Separator d ts) : Told d (tokens ts : List (Cell ν)) :=
  told_tokens h.clean h.plain

theorem Told.glue {a b : List (Cell ν)} {ts : List Token} (ha : Told d a) (hts : Separator d ts)
    (hb : Told d b) : Told d (a ++ (tokens ts ++ b)) := by
  constructor
  · rw [unbind_append, unbind_append, unbind_tokens]
    exact ha.clean.glue hts.clean hb.clean hts.head hts.last
  · intro t ht
    rcases List.mem_append.mp ht with ht | ht
    · exact ha.plain t ht
    · rcases List.mem_append.mp ht with ht | ht
      · exact hts.plain t (mem_tokens.mp ht)
      · exact hb.plain t ht

theorem Told.after {b : List (Cell ν)} {ts : List Token} (hts : Separator d ts) (hb : Told d b) :
    Told d (tokens ts ++ b) := by
  simpa using Told.nil.glue hts hb

theorem told_joined {ts : List Token} {items : List (List (Cell ν))} (hts : Separator d ts)
    (h : ∀ x ∈ items, Told d x) : Told d (joined ts items) := by
  induction items with
  | nil => exact .nil
  | cons x xs ih =>
    have hx := h x List.mem_cons_self
    have hxs := fun y hy => h y (List.mem_cons_of_mem _ hy)
    cases xs with
    | nil => rwa [joined_singleton]
    | cons y ys =>
      rw [joined_cons_cons]
      exact hx.glue hts (ih hxs)

/-- The cells may follow any others. -/
def Follows (d : Driver) (cells : List (Cell ν)) : Prop :=
  ∀ before, Told d before → Told d (before ++ cells)

theorem Follows.nil : Follows d ([] : List (Cell ν)) := fun before h => by rwa [List.append_nil]

theorem Follows.append {a b : List (Cell ν)} (ha : Follows d a) (hb : Follows d b) :
    Follows d (a ++ b) := by
  intro before h
  rw [← List.append_assoc]
  exact hb _ (ha before h)

theorem Separator.follows {ts : List Token} {cells : List (Cell ν)} (hts : Separator d ts)
    (h : Told d cells) : Follows d (tokens ts ++ cells) :=
  fun _ hbefore => hbefore.glue hts h

theorem Separator.follows_self {ts : List Token} (hts : Separator d ts) :
    Follows d (tokens ts : List (Cell ν)) := by
  simpa using hts.follows (ν := ν) .nil

/-! ### The parts of a statement -/

section Separators

theorem separator_blank : Separator d [.mark ' '] := by
  constructor <;> cases d <;> decide

theorem separator_comma : Separator d comma := by
  constructor <;> cases d <;> decide

theorem separator_opening : Separator d [.mark '('] := by
  constructor <;> cases d <;> decide

theorem separator_closing : Separator d [.mark ')'] := by
  constructor <;> cases d <;> decide

theorem separator_dot : Separator d [.mark '.'] := by
  constructor <;> cases d <;> decide

theorem separator_symbol (op : Comparison) : Separator d op.symbol := by
  constructor <;> cases d <;> cases op <;> decide

theorem fits_blank : (Token.mark ' ').Fits Infra.isWord d.quote := by
  cases d <;> decide

theorem separator_spaced {word : String} (h : IsWord word.toList) : Separator d (spaced word) where
  clean := by
    refine ⟨fun t ht => ?_, by simp [spaced, Token.Apart]⟩
    simp only [spaced, List.mem_cons, List.not_mem_nil, or_false] at ht
    rcases ht with rfl | rfl | rfl
    · exact fits_blank
    · exact ⟨h.ne_nil, h.isWord⟩
    · exact fits_blank
  plain := by
    intro t ht
    simp only [spaced, List.mem_cons, List.not_mem_nil, or_false] at ht
    rcases ht with rfl | rfl | rfl
    · exact List.mem_cons_self
    · exact h
    · exact List.mem_cons_self
  head := rfl
  last := rfl

theorem separator_group : Separator d (spacedBy "GROUP") := by
  constructor <;> cases d <;> decide

theorem separator_order : Separator d (spacedBy "ORDER") := by
  constructor <;> cases d <;> decide

theorem separator_in : Separator d (spaced "IN" ++ [.mark '(']) := by
  constructor <;> cases d <;> decide

theorem separator_as : Separator d (.mark ')' :: spaced "AS") := by
  constructor <;> cases d <;> decide

theorem separator_not : Separator d (spaced "IS" ++ [.word "NOT".toList, .mark ' ']) := by
  constructor <;> cases d <;> decide

end Separators

theorem told_word {chars : List Char} (h : IsWord chars) :
    Told d (tokens [.word chars] : List (Cell ν)) := by
  refine told_tokens ⟨fun t ht => ?_, .singleton _⟩ fun t ht => ?_
  · obtain rfl := List.mem_singleton.mp ht
    exact ⟨h.ne_nil, h.isWord⟩
  · obtain rfl := List.mem_singleton.mp ht
    exact h

theorem told_quoted (text : List Char) : Told d (tokens [.quoted text] : List (Cell ν)) := by
  refine told_tokens ⟨fun t ht => ?_, .singleton _⟩ fun t ht => ?_
  · obtain rfl := List.mem_singleton.mp ht
    trivial
  · obtain rfl := List.mem_singleton.mp ht
    trivial

theorem told_column {c : ColumnName} (h : IsWord c.alias_) : Told d (c.cells : List (Cell ν)) :=
  (told_word h).glue separator_dot (told_quoted _)

theorem told_table (table : TableName) : Told d (table.cells : List (Cell ν)) := by
  rw [TableName.cells]
  cases table.space with
  | none => exact told_quoted _
  | some space => exact (told_quoted _).glue separator_dot (told_quoted _)

theorem isWord_aggregateName (f : AggregateFunction) : IsWord (aggregateName f).toList := by
  cases f <;> decide

theorem told_argument {argument : Option ColumnName} (h : ∀ c ∈ argument, IsWord c.alias_) :
    Told d (argumentCells argument : List (Cell ν)) := by
  cases argument with
  | none => exact told_tokens (by cases d <;> decide) (by decide)
  | some c => exact told_column (h c rfl)

theorem told_item {item : Item ColumnName} (h : ∀ c ∈ item.columns, IsWord c.alias_) :
    Told d (item.cells : List (Cell ν)) := by
  cases item with
  | column c => exact told_column (h c (List.mem_singleton_self c))
  | aggregate function argument alias_ =>
    have harg := told_argument (d := d) (ν := ν) fun c hc => h c (Option.mem_toList.mpr hc)
    exact (told_word (isWord_aggregateName function)).glue separator_opening
      (harg.glue separator_as (told_quoted _))

theorem told_values (vs : List ν) : Told d (joined comma (vs.map fun v => [.value v])) := by
  refine told_joined separator_comma fun x hx => ?_
  obtain ⟨v, -, rfl⟩ := List.mem_map.mp hx
  exact told_value v

theorem follows_test (test : Test ν) : Follows d test.cells := by
  have hnull : Told d (tokens [.word "NULL".toList] : List (Cell ν)) :=
    told_word (by decide)
  cases test with
  | isNull => exact (separator_spaced (by decide)).follows hnull
  | isNotNull => exact separator_not.follows hnull
  | compare op v => exact (separator_symbol op).follows (told_value v)
  | between low high =>
    exact (separator_spaced (by decide)).follows
      ((told_value low).glue (separator_spaced (by decide)) (told_value high))
  | isIn vs =>
    exact separator_in.follows (separator_closing.follows_self _ (told_values vs))
  | like v => exact (separator_spaced (by decide)).follows (told_value v)

theorem told_predicate {p : Predicate ColumnName ν} (h : IsWord p.column.alias_) :
    Told d p.cells :=
  follows_test p.test _ (told_column h)

theorem told_ordering {o : Ordering ColumnName} (h : ∀ c ∈ o.target.columns, IsWord c.alias_) :
    Told d (o.cells : List (Cell ν)) := by
  obtain ⟨target, descending⟩ := o
  have htarget : Told d (target.cells : List (Cell ν)) := by
    cases target with
    | column c => exact told_column (h c (List.mem_singleton_self c))
    | alias_ name => exact told_quoted _
  have hword : IsWord (if descending then "DESC" else "ASC").toList := by
    cases descending <;> decide
  exact htarget.glue separator_blank (told_word hword)

theorem follows_clause {keyword separator : List Token} {items : List (List (Cell ν))}
    (hkeyword : Separator d keyword) (hseparator : Separator d separator)
    (h : ∀ x ∈ items, Told d x) : Follows d (clauseCells keyword separator items) := by
  rw [clauseCells]
  split
  · exact .nil
  · exact hkeyword.follows (told_joined hseparator h)

/-- The aliases of a statement are words. -/
structure Written.Named (w : Written ν) : Prop where
  base : IsWord w.baseAlias
  join : ∀ a ∈ w.joinAlias, IsWord a
  columns : ∀ c ∈ w.statement.columns, IsWord c.alias_

theorem follows_join {join : Option (List Char × Join ColumnName)}
    (halias : ∀ j ∈ join, IsWord j.1) (hcolumns : ∀ j ∈ join, ∀ c ∈ j.2.columns, IsWord c.alias_) :
    Follows d (joinCells join : List (Cell ν)) := by
  cases join with
  | none => exact .nil
  | some pair =>
    obtain ⟨alias_, table, left, right⟩ := pair
    have hleft := hcolumns _ rfl left (by simp [Join.columns])
    have hright := hcolumns _ rfl right (by simp [Join.columns])
    exact (separator_spaced (by decide)).follows
      ((told_table table).glue (separator_spaced (by decide))
        ((told_word (halias _ rfl)).glue (separator_spaced (by decide))
          ((told_column hleft).glue (separator_symbol .eq) (told_column hright))))

theorem follows_whereCells {s : Statement ColumnName ν} (h : ∀ c ∈ s.columns, IsWord c.alias_) :
    Follows d s.whereCells := by
  simp only [Statement.columns, List.mem_append, List.mem_flatMap, List.mem_map] at h
  refine .append (follows_clause (separator_spaced (by decide))
    (separator_spaced (by decide)) ?_) (.append (follows_clause separator_group
    separator_comma ?_) (.append (follows_clause separator_order separator_comma ?_)
    ((separator_spaced (by decide)).follows (told_value s.limit))))
  · intro x hx
    obtain ⟨p, hp, rfl⟩ := List.mem_map.mp hx
    exact told_predicate (h _ (.inr (.inr (.inl ⟨p, hp, rfl⟩))))
  · intro x hx
    obtain ⟨c, hc, rfl⟩ := List.mem_map.mp hx
    exact told_column (h c (.inr (.inr (.inr (.inl hc)))))
  · intro x hx
    obtain ⟨o, ho, rfl⟩ := List.mem_map.mp hx
    exact told_ordering fun c hc => h c (.inr (.inr (.inr (.inr ⟨o, ho, hc⟩))))

theorem mem_join {w : Written ν} {j : List Char × Join ColumnName} (h : j ∈ w.join) :
    j.1 ∈ w.joinAlias ∧ j.2 ∈ w.statement.join := by
  rw [Written.join] at h
  split at h
  · next alias_ join halias hjoin =>
    obtain rfl := Option.some.inj h
    exact ⟨halias, hjoin⟩
  · cases h

/-- The tokens of a statement can be told apart in its text. -/
theorem told_cells {w : Written ν} (h : w.Named) : Told d w.cells := by
  have hitems : ∀ x ∈ w.statement.items.map Item.cells, Told d (x : List (Cell ν)) := by
    intro x hx
    obtain ⟨item, hitem, rfl⟩ := List.mem_map.mp hx
    exact told_item fun c hc => h.columns c
      (List.mem_append_left _ (List.mem_flatMap.mpr ⟨item, hitem, hc⟩))
  have hjoin : Follows d (joinCells w.join : List (Cell ν)) :=
    follows_join (fun j hj => h.join _ (mem_join hj).1) fun j hj c hc => h.columns c
      (List.mem_append_right _ (List.mem_append_left _
        (List.mem_flatMap.mpr ⟨j.2, Option.mem_toList.mpr (mem_join hj).2, hc⟩)))
  have hselect : Told d (tokens [.word "SELECT".toList] : List (Cell ν)) :=
    told_word (by decide)
  exact hselect.glue separator_blank ((told_joined separator_comma hitems).glue
    (separator_spaced (by decide)) ((told_table _).glue
      (separator_spaced (by decide))
      ((hjoin.append (follows_whereCells h.columns)) _ (told_word h.base))))

end Told

/-! ## Reading a command -/

section Decode

variable {ν : Type} {d : Driver}

/-- A cell without its value. -/
def Cell.hole : Cell ν → Cell Unit
  | .token t => .token t
  | .value _ => .value ()

/-- A token that is no placeholder is left as it is. -/
theorem holes_cons {t : Token} (h : t ≠ .mark '?' ∧ t ≠ .mark '%') (ts : List Token) :
    holes d (t :: ts) = .token t :: holes d ts := by
  cases d with
  | sqlite => simp [holes, h.1]
  | postgresql | mysql =>
    rw [holes]
    · rintro - hmark -
      exact h.2 hmark
    · exact fun hd => nomatch hd

theorem holes_placeholder (d : Driver) (ts : List Token) :
    holes d (d.placeholderTokens ++ ts) = .value () :: holes d ts := by
  cases d with
  | sqlite => simp [Driver.placeholderTokens, holes]
  | postgresql | mysql => rfl

theorem holes_unbind {cells : List (Cell ν)}
    (h : ∀ t, .token t ∈ cells → Plain t) :
    holes d (unbind d cells) = cells.map Cell.hole := by
  induction cells with
  | nil => cases d <;> rfl
  | cons cell cells ih =>
    have hcells := ih fun t ht => h t (List.mem_cons_of_mem _ ht)
    cases cell with
    | token t =>
      rw [unbind_token_cons, holes_cons (h t List.mem_cons_self).ne_placeholder, hcells]
      rfl
    | value v =>
      rw [unbind_value_cons, holes_placeholder, hcells]
      rfl

theorem fill_hole (cells : List (Cell ν)) : fill (cells.map Cell.hole) (values cells) = some cells := by
  induction cells with
  | nil => rfl
  | cons cell cells ih =>
    cases cell with
    | token t =>
      have hvalues : values (.token t :: cells) = values cells := rfl
      rw [List.map_cons, hvalues, Cell.hole, fill, ih]
      rfl
    | value v =>
      rw [List.map_cons, values_value_cons, Cell.hole, fill, ih]
      rfl

theorem isWord_quote (d : Driver) : Infra.isWord d.quote = false := by
  cases d <;> decide

/-- **A command and its parameters say the statement that they were written for.** -/
theorem decode_command {w : Written ν} (hfits : w.Fits) (hnamed : w.Named) {command : String}
    (hcommand : command.toList = Infra.render d.quote (unbind d w.cells)) :
    decode d command (values w.cells) = w.resolve := by
  have htold := told_cells (d := d) hnamed
  rw [decode, hcommand, Infra.lex_render (isWord_quote d) htold.clean]
  simp only [Option.bind_eq_bind, Option.bind_some]
  rw [holes_unbind htold.plain, fill_hole]
  simp only [Option.bind_some]
  rw [parse_cells hfits]
  rfl

/-! ### The values of a statement -/

def Test.values : Test ν → List ν
  | .isNull | .isNotNull => []
  | .compare _ v | .like v => [v]
  | .between low high => [low, high]
  | .isIn vs => vs

theorem values_joined (separator : List Token) (items : List (List (Cell ν))) :
    values (joined separator items) = items.flatMap values := by
  induction items with
  | nil => rfl
  | cons x xs ih =>
    cases xs with
    | nil => simp
    | cons y ys =>
      rw [joined_cons_cons, values_append, values_append, values_tokens, List.nil_append, ih]
      rfl

theorem values_clause (keyword separator : List Token) (items : List (List (Cell ν))) :
    values (clauseCells keyword separator items) = items.flatMap values := by
  rw [clauseCells]
  split
  · next h => rw [h, values_nil, List.flatMap_nil]
  · rw [values_append, values_tokens, values_joined, List.nil_append]

theorem values_column (c : ColumnName) : values (c.cells : List (Cell ν)) = [] := rfl

theorem values_table (table : TableName) : values (table.cells : List (Cell ν)) = [] := by
  rw [TableName.cells]
  cases table.space <;> rfl

theorem values_item (item : Item ColumnName) : values (item.cells : List (Cell ν)) = [] := by
  cases item with
  | column c => rfl
  | aggregate function argument alias_ => cases argument <;> rfl

theorem values_test (test : Test ν) : values test.cells = test.values := by
  cases test with
  | isNull | isNotNull | like => rfl
  | compare op v => simp [Test.cells, Test.values]
  | between low high =>
    simp only [Test.cells, values_append, values_tokens, values_value_cons, values_nil,
      List.nil_append]
    rfl
  | isIn vs =>
    have hvs : (vs.map fun v => [Cell.value v]).flatMap values = vs := by
      induction vs with
      | nil => rfl
      | cons v vs ih => simpa using ih
    simp only [Test.cells, values_append, values_tokens, values_joined, hvs, Test.values,
      List.nil_append, List.append_nil]

theorem values_predicate (p : Predicate ColumnName ν) : values p.cells = p.test.values := by
  rw [Predicate.cells, values_append, values_column, values_test, List.nil_append]

theorem values_ordering (o : Ordering ColumnName) : values (o.cells : List (Cell ν)) = [] := by
  obtain ⟨target, descending⟩ := o
  cases target <;> rfl

theorem values_join (join : Option (List Char × Join ColumnName)) :
    values (joinCells join : List (Cell ν)) = [] := by
  cases join with
  | none => rfl
  | some pair =>
    simp only [joinCells, values_append, values_tokens, values_table, values_column,
      List.nil_append]

theorem flatMap_eq_nil {α β : Type} {f : α → List β} (h : ∀ a, f a = []) (as : List α) :
    as.flatMap f = [] :=
  List.flatMap_eq_nil_iff.mpr fun a _ => h a

/-- The values of a statement in the order in which it is written. -/
theorem values_cells (w : Written ν) :
    values w.cells = w.statement.predicates.flatMap (fun p => p.test.values) ++ [w.statement.limit] := by
  have hitems : (w.statement.items.map Item.cells).flatMap (values (ν := ν)) = [] := by
    rw [List.flatMap_map]
    exact flatMap_eq_nil values_item _
  have hgroup : (w.statement.groupBy.map ColumnName.cells).flatMap (values (ν := ν)) = [] := by
    rw [List.flatMap_map]
    exact flatMap_eq_nil values_column _
  have horder : (w.statement.orderBy.map Ordering.cells).flatMap (values (ν := ν)) = [] := by
    rw [List.flatMap_map]
    exact flatMap_eq_nil values_ordering _
  have hwhere : (w.statement.predicates.map Predicate.cells).flatMap values =
      w.statement.predicates.flatMap fun p => p.test.values := by
    rw [List.flatMap_map]
    exact List.flatMap_congr fun p _ => values_predicate p
  simp only [Written.cells, Statement.whereCells, Statement.groupCells, Statement.orderCells,
    Statement.limitCells, values_append, values_tokens, values_joined, values_table, values_join,
    values_clause, hitems, hgroup, horder, hwhere, List.nil_append]
  rfl

end Decode

end Querying
