import Qaneris.Ingestion.Materializer
import Qaneris.Ingestion.Properties.Validator

/-!
# What the database holds

* `statements_read` — the statements are read as what they are written for, whatever the names are
* `materialized_iff` — a validated workbook becomes a database just when SQLite takes its names and its numbers,
  and then the database holds the cells
-/

namespace Ingestion

namespace Materializer

open Infra (Batched Lexis Lexeme quote)
open Validator (ColumnPlan ExcelIngestionError Raised RowStream Texts)

/-! ## The texts of the statements -/

/-- A name that can be quoted. -/
def Quotable (name : String) : Prop := name ≠ "" ∧ '\x00' ∉ name.toList

theorem quoteIdentifier_ok_iff {name : String} {text : List Char} :
    quoteIdentifier name = .ok text ↔ Quotable name ∧ text = quote '"' name.toList := by
  unfold quoteIdentifier Quotable
  split
  · next h => simp [h]
  · next hne =>
    split
    · next h => simp [h]
    · next h => simp [hne, h, eq_comm]

theorem isWord_of_upper {c : Char} (h : c.isUpper = true) : sqliteLexis.isWord c = true := by
  have hne : ∀ d : Char, d.isUpper = false → c ≠ d := fun d hd heq => by
    rw [heq, hd] at h
    cases h
  simp [Lexis.isWord, sqliteLexis, hne]

theorem reads_upper {word : String} (hne : word.toList ≠ []) (h : word.toList.all Char.isUpper = true) :
    sqliteLexis.Reads word.toList [.word word.toList] :=
  Lexis.reads_word hne fun c hc => isWord_of_upper (List.all_eq_true.mp h c hc)

theorem reads_type (type : ColumnType) : sqliteLexis.Reads type.value.toList [.word type.value.toList] := by
  cases type <;> exact reads_upper (by decide) (by decide)

theorem reads_quote (name : String) : sqliteLexis.Reads (quote '"' name.toList) [.name name.toList] :=
  Lexis.reads_name name.toList

/-- Items with a comma between them. -/
def separated (items : List (List Lexeme)) : List Lexeme := [Lexeme.mark ','].intercalate items

theorem reads_joined {items : List (List Char)} {lexemes : List (List Lexeme)}
    (h : List.Forall₂ sqliteLexis.Reads items lexemes) (hne : items ≠ []) :
    sqliteLexis.Reads (joined items) (separated lexemes) := by
  induction h with
  | nil => exact absurd rfl hne
  | @cons a as items lexemes ha hrest ih =>
    cases hrest with
    | nil =>
      simpa [joined, separated] using ha
    | @cons b bs items lexemes hb hrest =>
      have hall := ih (by simp)
      simp only [joined, separated, List.intercalate_cons_cons] at hall ⊢
      have hmark : ',' ∈ sqliteLexis.marks := by simp [sqliteLexis]
      simpa using ha.mark_blank hmark hall

theorem reads_list {items : List (List Char)} {lexemes : List (List Lexeme)}
    (h : List.Forall₂ sqliteLexis.Reads items lexemes) (hne : items ≠ []) :
    sqliteLexis.Reads ('(' :: (joined items ++ [')'])) (.mark '(' :: (separated lexemes ++ [.mark ')'])) :=
  (reads_joined h hne).enclosed (by simp [sqliteLexis]) (by simp [sqliteLexis])

theorem readDefinitions_separated {columns : List (String × String)} (hne : columns ≠ []) :
    readDefinitions (separated (columns.map fun column => [.name column.1.toList, .word column.2.toList]) ++
      [.mark ')']) = some columns := by
  induction columns with
  | nil => exact absurd rfl hne
  | cons column columns ih =>
    cases columns with
    | nil => simp [separated, readDefinitions]
    | cons other columns =>
      have hrest := ih (by simp)
      simp only [separated, List.map_cons, List.intercalate_cons_cons] at hrest ⊢
      simp only [List.cons_append, List.nil_append, readDefinitions]
      rw [hrest]
      simp

theorem readNames_separated {names : List String} (hne : names ≠ []) (rest : List Lexeme) :
    readNames (separated (names.map fun name => [.name name.toList]) ++ .mark ')' :: rest) =
      some (names, rest) := by
  induction names with
  | nil => exact absurd rfl hne
  | cons name names ih =>
    cases names with
    | nil => simp [separated, readNames]
    | cons other names =>
      have hrest := ih (by simp)
      simp only [separated, List.map_cons, List.intercalate_cons_cons] at hrest ⊢
      simp only [List.cons_append, List.nil_append, readNames]
      rw [hrest]
      simp

theorem readPlaceholders_separated {α : Type} {items : List α} (hne : items ≠ []) :
    readPlaceholders (separated (items.map fun _ => [.mark '?']) ++ [.mark ')']) = some items.length := by
  induction items with
  | nil => exact absurd rfl hne
  | cons item items ih =>
    cases items with
    | nil => simp [separated, readPlaceholders]
    | cons other items =>
      have hrest := ih (by simp)
      simp only [separated, List.map_cons, List.intercalate_cons_cons] at hrest ⊢
      simp only [List.cons_append, List.nil_append, readPlaceholders]
      rw [hrest]
      simp

/-- The columns of the table as SQLite declares them. -/
def definitions (columns : List ColumnPlan) : List (String × String) :=
  columns.map fun column => (column.columnName, column.inferredType.value)

theorem createTableSql_ok {table : TableWrite} (hne : table.columns ≠ []) {text : List Char}
    (h : createTableSql table = .ok text) :
    readStatement text = some (.createTable table.tableName (definitions table.columns)) := by
  obtain ⟨columns, hcolumns, h⟩ := Infra.bind_ok h
  obtain ⟨name, hname, h⟩ := Infra.bind_ok h
  obtain rfl := Except.ok.inj h
  obtain ⟨-, rfl⟩ := quoteIdentifier_ok_iff.mp hname
  have hitems : List.Forall₂ sqliteLexis.Reads columns
      ((definitions table.columns).map fun column => [.name column.1.toList, .word column.2.toList]) := by
    unfold definitions
    rw [List.map_map, List.forall₂_map_right_iff]
    refine (Infra.forall₂_of_mapM hcolumns).flip.imp fun text column htext => ?_
    obtain ⟨quoted, hquoted, htext⟩ := Infra.bind_ok htext
    obtain rfl := Except.ok.inj htext
    obtain ⟨-, rfl⟩ := quoteIdentifier_ok_iff.mp hquoted
    exact (reads_quote _).blank (reads_type _)
  have hcolumnsne : columns ≠ [] := by
    rintro rfl
    exact hne (by simpa [definitions] using hitems.length_eq.symm)
  have hcreate : sqliteLexis.Reads "CREATE".toList [.word "CREATE".toList] := reads_upper (by decide) (by decide)
  have htable : sqliteLexis.Reads "TABLE".toList [.word "TABLE".toList] := reads_upper (by decide) (by decide)
  have hreads := (hcreate.blank (htable.blank ((reads_quote table.tableName).blank (reads_list hitems hcolumnsne))))
  have hparse : parseStatement ([.word "CREATE".toList] ++ ([.word "TABLE".toList] ++
      ([.name table.tableName.toList] ++ .mark '(' :: (separated ((definitions table.columns).map
        fun column => [.name column.1.toList, .word column.2.toList]) ++ [.mark ')'])))) =
      some (.createTable table.tableName (definitions table.columns)) := by
    show (readDefinitions _).map _ = _
    rw [readDefinitions_separated (by simpa [definitions] using hne)]
    simp
  have hlex := hreads.lexes.lex_eq
  unfold readStatement
  have htext : "CREATE TABLE ".toList ++ (quote '"' table.tableName.toList ++ ' ' :: '(' :: (joined columns ++ [')'])) =
      "CREATE".toList ++ ' ' :: ("TABLE".toList ++ ' ' :: (quote '"' table.tableName.toList ++ ' ' ::
        '(' :: (joined columns ++ [')']))) := rfl
  rw [htext, hlex]
  exact hparse

theorem insertSql_ok {table : TableWrite} (hne : table.columns ≠ []) {text : List Char}
    (h : insertSql table = .ok text) :
    readStatement text = some (.insert table.tableName (table.columns.map (·.columnName))
      table.columns.length) := by
  obtain ⟨names, hnames, h⟩ := Infra.bind_ok h
  obtain ⟨name, hname, h⟩ := Infra.bind_ok h
  obtain rfl := Except.ok.inj h
  obtain ⟨-, rfl⟩ := quoteIdentifier_ok_iff.mp hname
  have hitems : List.Forall₂ sqliteLexis.Reads names
      ((table.columns.map (·.columnName)).map fun name => [.name name.toList]) := by
    rw [List.map_map, List.forall₂_map_right_iff]
    refine (Infra.forall₂_of_mapM hnames).flip.imp fun text column htext => ?_
    obtain ⟨-, rfl⟩ := quoteIdentifier_ok_iff.mp htext
    exact reads_quote _
  have hnamesne : names ≠ [] := by
    rintro rfl
    exact hne (by simpa using hitems.length_eq.symm)
  have hmarks : List.Forall₂ sqliteLexis.Reads (table.columns.map fun _ => ['?'])
      (table.columns.map fun _ => [.mark '?']) := by
    rw [List.forall₂_map_left_iff, List.forall₂_map_right_iff, List.forall₂_same]
    exact fun _ _ _ _ _ hlexes => hlexes.mark (by simp [sqliteLexis])
  have hinsert : sqliteLexis.Reads "INSERT".toList [.word "INSERT".toList] := reads_upper (by decide) (by decide)
  have hinto : sqliteLexis.Reads "INTO".toList [.word "INTO".toList] := reads_upper (by decide) (by decide)
  have hvalues : sqliteLexis.Reads "VALUES".toList [.word "VALUES".toList] := reads_upper (by decide) (by decide)
  have hreads := hinsert.blank (hinto.blank ((reads_quote table.tableName).blank
    ((reads_list hitems hnamesne).blank (hvalues.blank (reads_list hmarks (by simpa using hne))))))
  have hlex := hreads.lexes.lex_eq
  unfold readStatement
  have htext : "INSERT INTO ".toList ++ (quote '"' table.tableName.toList ++ ' ' :: '(' :: (joined names ++
      ')' :: (" VALUES (".toList ++ (joined (table.columns.map fun _ => ['?']) ++ [')'])))) =
      "INSERT".toList ++ ' ' :: ("INTO".toList ++ ' ' :: (quote '"' table.tableName.toList ++ ' ' ::
        (('(' :: (joined names ++ [')'])) ++ ' ' :: ("VALUES".toList ++ ' ' ::
          '(' :: (joined (table.columns.map fun _ => ['?']) ++ [')']))))) := by
    simp
  rw [htext, hlex, Option.bind_some]
  simp only [List.cons_append, List.nil_append, List.append_assoc]
  show ((readNames _).bind fun r => (readValues r.2).map fun n =>
    Statement.insert (String.ofList table.tableName.toList) r.1 n) = _
  rw [readNames_separated (by simpa using hne), Option.bind_some]
  show ((readPlaceholders _).map fun n =>
    Statement.insert (String.ofList table.tableName.toList) (table.columns.map (·.columnName)) n) = _
  rw [readPlaceholders_separated hne]
  simp

/-- The names of the table can be quoted. -/
def NamesQuotable (table : TableWrite) : Prop :=
  Quotable table.tableName ∧ ∀ column ∈ table.columns, Quotable column.columnName

theorem exists_quoteIdentifier {name : String} : (∃ text, quoteIdentifier name = .ok text) ↔ Quotable name := by
  simp [quoteIdentifier_ok_iff]

theorem exists_createTableSql {table : TableWrite} :
    (∃ text, createTableSql table = .ok text) ↔ NamesQuotable table := by
  unfold createTableSql NamesQuotable
  rw [Infra.exists_bind_ok]
  have hcolumn : ∀ column : ColumnPlan, (∃ text, (do
      return (← quoteIdentifier column.columnName) ++ ' ' :: column.inferredType.value.toList :
        Except Raised (List Char)) = .ok text) ↔ Quotable column.columnName := by
    intro column
    rw [Infra.exists_bind_ok, ← exists_quoteIdentifier]
    simp [pure, Except.pure]
  simp only [← hcolumn]
  rw [← Infra.exists_mapM_ok]
  constructor
  · rintro ⟨columns, hcols, text, h⟩
    obtain ⟨name, hquoted, -⟩ := Infra.bind_ok h
    exact ⟨(quoteIdentifier_ok_iff.mp hquoted).1, columns, hcols⟩
  · rintro ⟨hquotable, columns, hcols⟩
    exact ⟨columns, hcols, _, by rw [quoteIdentifier_ok_iff.mpr ⟨hquotable, rfl⟩]; rfl⟩

theorem exists_insertSql {table : TableWrite} : (∃ text, insertSql table = .ok text) ↔ NamesQuotable table := by
  unfold insertSql NamesQuotable
  rw [Infra.exists_bind_ok]
  simp only [← exists_quoteIdentifier]
  rw [← Infra.exists_mapM_ok]
  constructor
  · rintro ⟨columns, hcols, text, h⟩
    obtain ⟨name, hquoted, -⟩ := Infra.bind_ok h
    exact ⟨⟨name, hquoted⟩, columns, hcols⟩
  · rintro ⟨⟨name, hquoted⟩, columns, hcols⟩
    exact ⟨columns, hcols, _, by rw [hquoted]; rfl⟩

/-- **The statements are read as what they are written for.** Whatever characters the names have, the text of
`CREATE TABLE` names this table, these columns and these types, and that of `INSERT` this table, these columns
and one parameter for each; there are texts unless a name is empty or has a NUL. -/
theorem statements_read {table : TableWrite} (hne : table.columns ≠ []) :
    (∀ text, createTableSql table = .ok text →
        readStatement text = some (.createTable table.tableName (definitions table.columns))) ∧
      (∀ text, insertSql table = .ok text → readStatement text =
        some (.insert table.tableName (table.columns.map (·.columnName)) table.columns.length)) ∧
      ((∃ text, createTableSql table = .ok text) ↔ NamesQuotable table) ∧
      ((∃ text, insertSql table = .ok text) ↔ NamesQuotable table) :=
  ⟨fun _ h => createTableSql_ok hne h, fun _ h => insertSql_ok hne h, exists_createTableSql, exists_insertSql⟩

def sampleColumn (name : String) (type : ColumnType) : ColumnPlan :=
  { sourceHeader := name, columnName := name, inferredType := type, nullable := false, allNull := false }

/-- The names have a quote, a comma and a parenthesis. -/
theorem statements_read_sample :
    readStatement "CREATE TABLE \"a\"\" INT)\" (\"b, c\" REAL)".toList =
      some (.createTable "a\" INT)" [("b, c", "REAL")]) :=
  (@statements_read ⟨"a\" INT)", [sampleColumn "b, c" .real], 0, {}⟩ (by simp)).1 _ rfl

/-! ## Rows of a table -/

section Rows

variable {sqlite : Sqlite}

theorem find?_zip {names : List String} {values : List SqlValue} (h : (names.map folded).Nodup)
    (hlength : values.length = names.length) {i : Nat} {name : String} {value : SqlValue}
    (hname : names[i]? = some name) (hvalue : values[i]? = some value) :
    ((names.zip values).find? fun item => folded item.1 = folded name) = some (name, value) := by
  induction names generalizing values i with
  | nil => simp at hname
  | cons first names ih =>
    cases values with
    | nil => simp at hlength
    | cons v values =>
      obtain ⟨hnot, hnodup⟩ := List.nodup_cons.mp h
      cases i with
      | zero =>
        simp only [List.getElem?_cons_zero, Option.some.injEq] at hname hvalue
        subst hname hvalue
        simp
      | succ i =>
        simp only [List.getElem?_cons_succ] at hname hvalue
        have hne : folded first ≠ folded name := fun heq =>
          hnot (heq ▸ List.mem_map_of_mem (List.mem_of_getElem? hname))
        rw [List.zip_cons_cons, List.find?_cons_of_neg (by simpa using hne)]
        exact ih hnodup (by simpa using hlength) hname hvalue

/-- What the columns hold of the values of a row. -/
def storedRow (sqlite : Sqlite) (columns : List (String × String)) (values : List SqlValue) : List SqlValue :=
  List.zipWith (fun column value => sqlite.stored column.2 value) columns values

theorem rowOf_own {table : SqlTable} {values : List SqlValue}
    (h : (table.columns.map fun column => folded column.1).Nodup)
    (hlength : values.length = table.columns.length) :
    rowOf sqlite table (table.columns.map Prod.fst) values = storedRow sqlite table.columns values := by
  have hnodup : ((table.columns.map Prod.fst).map folded).Nodup := by simpa [Function.comp_def] using h
  refine List.ext_getElem? fun i => ?_
  unfold rowOf storedRow
  rw [List.getElem?_map, List.getElem?_zipWith]
  cases hcolumn : table.columns[i]? with
  | none => rfl
  | some column =>
    have hi := (List.getElem?_eq_some_iff.mp hcolumn).1
    have hvalue := List.getElem?_eq_getElem (hlength ▸ hi : i < values.length)
    have hname : (table.columns.map Prod.fst)[i]? = some column.1 := by simp [hcolumn]
    rw [hvalue, Option.map_some, find?_zip hnodup (by simpa using hlength) hname hvalue]

/-- A row that can be inserted in a table with so many columns. -/
def Insertable (width : Nat) (values : List SqlValue) : Prop :=
  values.length = width ∧ values.all bindable = true

variable {before : Database} {name : String} {columns : List (String × String)}

/-- One row goes to the table that was created last. -/
theorem insertRow_iff (hnew : folded name ∉ before.map fun table => folded table.name)
    (hnodup : (columns.map fun column => folded column.1).Nodup) {rows : List (List SqlValue)}
    {values : List SqlValue} {db : Database} :
    Database.insertRow sqlite (before ++ [⟨name, columns, rows⟩]) name (columns.map Prod.fst) columns.length values =
        .ok db ↔
      Insertable columns.length values ∧ db = before ++ [⟨name, columns, rows ++ [storedRow sqlite columns values]⟩] := by
  have hothers : ∀ table ∈ before, folded table.name ≠ folded name := fun table htable heq =>
    hnew (heq ▸ List.mem_map_of_mem htable)
  have hfind : (before ++ [(⟨name, columns, rows⟩ : SqlTable)]).find? (fun table => folded table.name = folded name) =
      some ⟨name, columns, rows⟩ := by
    rw [List.find?_append, List.find?_eq_none.mpr fun table htable => by simpa using hothers table htable]
    simp
  have hcolumns : ¬ (((columns.map Prod.fst).any fun column =>
      folded column ∉ columns.map fun c => folded c.1) = true ∨ columns.length ≠ (columns.map Prod.fst).length) := by
    rintro (hany | hne)
    · obtain ⟨name, hmem, hnot⟩ := List.any_eq_true.mp hany
      obtain ⟨column, hcolumn, rfl⟩ := List.mem_map.mp hmem
      exact of_decide_eq_true hnot (List.mem_map_of_mem hcolumn)
    · exact hne (by simp)
  have hbefore : (before.map fun other =>
      if folded other.name = folded name then { other with rows := other.rows ++ [storedRow sqlite columns values] }
      else other) = before :=
    (List.map_congr_left fun table htable => if_neg (hothers table htable)).trans (List.map_id before)
  unfold Database.insertRow Insertable
  rw [hfind]
  dsimp only
  rw [if_neg hcolumns]
  by_cases hlength : values.length = columns.length
  · rw [if_neg (not_not.mpr hlength)]
    by_cases hbind : values.all bindable = true
    · rw [if_neg (not_not.mpr hbind), rowOf_own hnodup hlength, List.map_append, hbefore]
      simp [hlength, hbind, eq_comm]
    · rw [if_pos hbind]
      exact iff_of_false nofun fun h => hbind h.1.2
  · rw [if_pos hlength]
    exact iff_of_false nofun fun h => hlength h.1.1

/-- All the rows go there, in their order. -/
theorem insertRows_iff (hnew : folded name ∉ before.map fun table => folded table.name)
    (hnodup : (columns.map fun column => folded column.1).Nodup) {text : List Char}
    (htext : readStatement text = some (.insert name (columns.map Prod.fst) columns.length))
    {news rows : List (List SqlValue)} {db : Database} :
    news.foldlM (executeRow sqlite text) (before ++ [⟨name, columns, rows⟩]) = .ok db ↔
      (∀ values ∈ news, Insertable columns.length values) ∧
        db = before ++ [⟨name, columns, rows ++ news.map (storedRow sqlite columns)⟩] := by
  induction news generalizing rows with
  | nil => simp [pure, Except.pure, eq_comm]
  | cons values news ih =>
    have hrow : ∀ {db : Database}, executeRow sqlite text (before ++ [⟨name, columns, rows⟩]) values = .ok db ↔
        Insertable columns.length values ∧
          db = before ++ [⟨name, columns, rows ++ [storedRow sqlite columns values]⟩] := by
      intro db
      unfold executeRow
      rw [htext]
      exact insertRow_iff hnew hnodup
    rw [List.foldlM_cons, Infra.bind_ok_iff]
    simp only [hrow]
    rw [List.forall_mem_cons]
    constructor
    · rintro ⟨_, ⟨hfirst, rfl⟩, hrest⟩
      obtain ⟨hall, rfl⟩ := ih.mp hrest
      exact ⟨⟨hfirst, hall⟩, by simp⟩
    · rintro ⟨⟨hfirst, hall⟩, rfl⟩
      exact ⟨_, ⟨hfirst, rfl⟩, ih.mpr ⟨hall, by simp⟩⟩

end Rows

/-! ## Tables -/

section Tables

variable {sqlite : Sqlite}

/-- The table that is written. -/
def tableOf (sqlite : Sqlite) (table : TableWrite) : SqlTable where
  name := table.tableName
  columns := definitions table.columns
  rows := table.rows.rows.map (storedRow sqlite (definitions table.columns))

/-- A table that has columns, with names that SQLite can read and tell apart. -/
structure WellNamed (table : TableWrite) : Prop where
  someColumn : table.columns ≠ []
  quotable : NamesQuotable table
  distinct : (table.columns.map fun column => folded column.columnName).Nodup

/-- SQLite takes the table and all its rows, and their number is the one that was counted. -/
structure Writable (sqlite : Sqlite) (table : TableWrite) : Prop where
  unreserved : reserved table.tableName = false
  narrow : table.columns.length ≤ sqlite.maxColumns
  streamed : table.rows.raised = none
  rows : ∀ values ∈ table.rows.rows, Insertable table.columns.length values
  counted : table.rows.rows.length = table.rowCount

theorem insertRows_ok_iff {table : TableWrite} (hnamed : WellNamed table) {before db : Database} {count : Nat}
    (hnew : folded table.tableName ∉ before.map fun table => folded table.name) :
    insertRows sqlite (before ++ [⟨table.tableName, definitions table.columns, []⟩]) table = .ok (db, count) ↔
      table.rows.raised = none ∧ (∀ values ∈ table.rows.rows, Insertable table.columns.length values) ∧
        db = before ++ [tableOf sqlite table] ∧ count = table.rows.rows.length := by
  obtain ⟨text, htext⟩ := exists_insertSql.mpr hnamed.quotable
  have hread := insertSql_ok hnamed.someColumn htext
  have hdefined : (definitions table.columns).length = table.columns.length := by simp [definitions]
  have hnames : table.columns.map (·.columnName) = (definitions table.columns).map Prod.fst := by
    simp [definitions]
  have hdistinct : ((definitions table.columns).map fun column => folded column.1).Nodup := by
    simpa [definitions, Function.comp_def] using hnamed.distinct
  rw [hnames, ← hdefined] at hread
  unfold insertRows
  simp only [htext, bind, Except.bind]
  cases hraised : table.rows.raised with
  | some e =>
    simp only [reduceCtorEq, false_and, iff_false]
    cases table.rows.rows.foldlM (Batched.add (executeRow sqlite text) insertBatch) _ <;> simp
  | none =>
    have hbatched := Batched.foldBatched_eq (executeRow sqlite text) insertBatch table.rows.rows
      (before ++ [⟨table.tableName, definitions table.columns, []⟩])
    simp only [bind, Except.bind] at hbatched
    simp only [hbatched]
    have hrows : ∀ {db' : Database}, table.rows.rows.foldlM (executeRow sqlite text)
        (before ++ [⟨table.tableName, definitions table.columns, []⟩]) = .ok db' ↔
          (∀ values ∈ table.rows.rows, Insertable (definitions table.columns).length values) ∧
            db' = before ++ [⟨table.tableName, definitions table.columns,
              [] ++ table.rows.rows.map (storedRow sqlite (definitions table.columns))⟩] :=
      insertRows_iff hnew hdistinct hread
    constructor
    · intro h
      obtain ⟨db', hdb, heq⟩ := Infra.map_ok h
      obtain ⟨rfl, rfl⟩ := Prod.mk.inj heq
      obtain ⟨hall, rfl⟩ := hrows.mp hdb
      exact ⟨trivial, hdefined ▸ hall, rfl, rfl⟩
    · rintro ⟨-, hall, rfl, rfl⟩
      rw [hrows.mpr ⟨hdefined ▸ hall, rfl⟩]
      rfl

theorem create_ok_iff {table : TableWrite} (hnamed : WellNamed table) {before db : Database}
    (hnew : folded table.tableName ∉ before.map fun table => folded table.name) :
    before.create sqlite table.tableName (definitions table.columns) = .ok db ↔
      reserved table.tableName = false ∧ table.columns.length ≤ sqlite.maxColumns ∧
        db = before ++ [⟨table.tableName, definitions table.columns, []⟩] := by
  have hdefined : (definitions table.columns).length = table.columns.length := by simp [definitions]
  have hdistinct : ((definitions table.columns).map fun column => folded column.1).Nodup := by
    simpa [definitions, Function.comp_def] using hnamed.distinct
  unfold Database.create
  simp only [hnew, hdistinct, not_true_eq_false, false_or, hdefined]
  split
  · next h =>
    refine iff_of_false nofun fun hok => ?_
    rcases h with hreserved | hwide
    · rw [hok.1] at hreserved
      cases hreserved
    · omega
  · next h =>
    obtain ⟨hreserved, hwide⟩ := not_or.mp h
    simp [hreserved, not_lt.mp hwide, eq_comm]

/-- One table. -/
theorem writeTable_ok_iff {table : TableWrite} (hnamed : WellNamed table) {before db : Database}
    (hnew : folded table.tableName ∉ before.map fun table => folded table.name) :
    writeTable sqlite before table = .ok db ↔
      Writable sqlite table ∧ db = before ++ [tableOf sqlite table] := by
  obtain ⟨text, htext⟩ := exists_createTableSql.mpr hnamed.quotable
  have hexecute : ∀ {db : Database}, execute sqlite before text = .ok db ↔ reserved table.tableName = false ∧
      table.columns.length ≤ sqlite.maxColumns ∧
        db = before ++ [⟨table.tableName, definitions table.columns, []⟩] := by
    intro db
    unfold execute
    rw [createTableSql_ok hnamed.someColumn htext]
    exact create_ok_iff hnamed hnew
  unfold writeTable
  rw [Infra.bind_ok_iff]
  constructor
  · rintro ⟨_, htext', h⟩
    obtain rfl := Except.ok.inj (htext.symm.trans htext')
    obtain ⟨_, hcreated, h⟩ := Infra.bind_ok h
    obtain ⟨hreserved, hnarrow, rfl⟩ := hexecute.mp hcreated
    obtain ⟨⟨db', count⟩, hinserted, h⟩ := Infra.bind_ok h
    obtain ⟨hraised, hrows, rfl, rfl⟩ := (insertRows_ok_iff hnamed hnew).mp hinserted
    dsimp only at h
    split at h
    · cases h
    · next hcount =>
      exact ⟨⟨hreserved, hnarrow, hraised, hrows, not_not.mp hcount⟩, (Except.ok.inj h).symm⟩
  · rintro ⟨h, rfl⟩
    refine ⟨text, htext, ?_⟩
    simp only [hexecute.mpr ⟨h.unreserved, h.narrow, rfl⟩, bind, Except.bind,
      (insertRows_ok_iff hnamed hnew).mpr ⟨h.streamed, h.rows, rfl, rfl⟩, h.counted, ne_eq, not_true_eq_false,
      if_false]
    rfl

/-- The tables of one transaction. -/
theorem writeTables_ok_iff {tables : List TableWrite} (hnamed : ∀ table ∈ tables, WellNamed table)
    {before db : Database}
    (hdistinct : (before.map (fun table => folded table.name) ++
      tables.map fun table => folded table.tableName).Nodup) :
    tables.foldlM (writeTable sqlite) before = .ok db ↔
      (∀ table ∈ tables, Writable sqlite table) ∧ db = before ++ tables.map (tableOf sqlite) := by
  induction tables generalizing before with
  | nil => simp [pure, Except.pure, eq_comm]
  | cons table tables ih =>
    have hnew : folded table.tableName ∉ before.map fun table => folded table.name := fun hmem =>
      (List.nodup_append.mp hdistinct).2.2 _ hmem _ (by simp) rfl
    have hrest : ((before ++ [tableOf sqlite table]).map (fun table => folded table.name) ++
        tables.map fun table => folded table.tableName).Nodup := by
      simpa [tableOf] using hdistinct
    have hnamed' : ∀ table ∈ tables, WellNamed table := fun other hother =>
      hnamed other (List.mem_cons_of_mem _ hother)
    rw [List.foldlM_cons, Infra.bind_ok_iff, List.forall_mem_cons]
    simp only [writeTable_ok_iff (hnamed table List.mem_cons_self) hnew]
    constructor
    · rintro ⟨_, ⟨hfirst, rfl⟩, h⟩
      obtain ⟨hall, rfl⟩ := (ih hnamed' hrest).mp h
      exact ⟨⟨hfirst, hall⟩, by simp⟩
    · rintro ⟨⟨hfirst, hall⟩, rfl⟩
      exact ⟨_, ⟨hfirst, rfl⟩, (ih hnamed' hrest).mpr ⟨hall, by simp⟩⟩

end Tables

/-! ## A validated workbook -/

section Workbook

variable {t : Texts} {policy : Validator.ExcelIngestionPolicy} {sqlite : Sqlite}

/-- The number of the cell can be stored in a column of this type. -/
def Storable (t : CellTexts) (type : ColumnType) (value : CellValue) : Prop :=
  Fits t type value ∧ ∀ n, type = .integer → value = .int n → -2 ^ 63 ≤ n ∧ n < 2 ^ 63

/-- SQLite can hold the table of these rows of data. -/
structure TableStorable (t : Texts) (sqlite : Sqlite) (sheet : Validator.SheetPlan)
    (data : List (List Validator.RawCell)) : Prop where
  unreserved : reserved sheet.tableName = false
  narrow : sheet.columns.length ≤ sqlite.maxColumns
  cells : ∀ row ∈ data, ∀ i column cell, sheet.columns[i]? = some column →
    Validator.cellAt row (i + 1) = some cell → Storable t.toCellTexts column.inferredType cell.value

/-- A value that stands for a cell is held as it is. -/
theorem stored_of_reads {column : ColumnPlan} {cell : Option Validator.StoredCell} {value : SqlValue}
    (h : Validator.Reads t policy column.inferredType cell value) :
    sqlite.stored column.inferredType.value value = value := by
  cases cell with
  | none =>
    rw [show value = .null from h]
    exact sqlite.stored_null _
  | some cell =>
    obtain ⟨-, kind, read, -, hread, -⟩ := h
    cases htype : column.inferredType <;> rw [htype] at hread <;> cases value <;> try cases hread
    · exact sqlite.stored_integer _ (by simp [ColumnType.value]) _
    · exact sqlite.stored_integer _ (by simp [ColumnType.value]) _
    · exact sqlite.stored_real _
    · next s =>
      refine sqlite.stored_date _ (by simp [ColumnType.value]) s ?_
      cases hday : Infra.readDay s.toList with
      | none => simp [readValue, readText, hday] at hread
      | some r => rfl
    · next s =>
      refine sqlite.stored_date _ (by simp [ColumnType.value]) s ?_
      cases hday : Infra.readDay s.toList with
      | none => simp [readValue, readText, Infra.readDateTime, hday] at hread
      | some r => rfl
    · exact sqlite.stored_text _

/-- Only an integer in a column of integers may be too large for SQLite. -/
theorem bindable_of_reads {type : ColumnType} {cell : Option Validator.StoredCell} {value : SqlValue}
    (h : Validator.Reads t policy type cell value) : bindable value = true ↔
      ∀ stored ∈ cell, ∀ n, type = .integer → stored.value = .int n → -2 ^ 63 ≤ n ∧ n < 2 ^ 63 := by
  cases cell with
  | none =>
    rw [show value = .null from h]
    exact iff_of_true rfl (by simp)
  | some cell =>
    obtain ⟨-, kind, read, -, hread, hdenotes⟩ := h
    by_cases htype : type = .integer
    · subst htype
      cases value <;> try cases hread
      next n =>
      have hvalue : cell.value = .int n := by
        generalize cell.value = v at hdenotes ⊢
        cases hdenotes
        rfl
      simp [bindable, hvalue]
    · have hvalue : bindable value = true := by
        cases type <;> cases value <;> try cases hread
        · next n =>
          simp only [readValue] at hread
          split at hread
          · next hone =>
            rw [hone]
            rfl
          · split at hread
            · next hzero =>
              rw [hzero]
              rfl
            · cases hread
        · exact absurd rfl htype
        all_goals rfl
      exact iff_of_true hvalue fun _ _ _ heq => absurd heq htype

/-- A table of the database has the cells of its sheet: one column for each of the plan, one row for each row of
data, and in it what stands for each cell. -/
structure Holds (t : Texts) (policy : Validator.ExcelIngestionPolicy) (sheet : Validator.SheetPlan)
    (data : List (List Validator.RawCell)) (table : SqlTable) : Prop where
  name : table.name = sheet.tableName
  columns : table.columns = definitions sheet.columns
  rows : List.Forall₂ (Validator.RowReads t policy sheet.columns) data table.rows

theorem storedRow_of_reads {columns : List ColumnPlan} {row : List Validator.RawCell} {values : List SqlValue}
    (h : Validator.RowReads t policy columns row values) :
    storedRow sqlite (definitions columns) values = values := by
  refine List.ext_getElem? fun i => ?_
  unfold storedRow definitions
  rw [List.getElem?_zipWith, List.getElem?_map]
  cases hcolumn : columns[i]? with
  | none =>
    have hle := List.getElem?_eq_none_iff.mp hcolumn
    exact (List.getElem?_eq_none_iff.mpr (h.1 ▸ hle)).symm
  | some column =>
    obtain ⟨value, hvalue, hreads⟩ := h.2 i column hcolumn
    rw [hvalue]
    exact congrArg some (stored_of_reads hreads)

theorem insertable_of_reads {columns : List ColumnPlan} {row : List Validator.RawCell} {values : List SqlValue}
    (h : Validator.RowReads t policy columns row values) : Insertable columns.length values ↔
      ∀ i column cell, columns[i]? = some column → Validator.cellAt row (i + 1) = some cell →
        ∀ n, column.inferredType = .integer → cell.value = .int n → -2 ^ 63 ≤ n ∧ n < 2 ^ 63 := by
  unfold Insertable
  rw [List.all_eq_true]
  constructor
  · rintro ⟨-, hall⟩ i column cell hcolumn hcell
    obtain ⟨value, hvalue, hreads⟩ := h.2 i column hcolumn
    exact (bindable_of_reads hreads).mp (hall value (List.mem_of_getElem? hvalue)) cell hcell
  · refine fun hcells => ⟨h.1, fun value hmem => ?_⟩
    obtain ⟨i, hi, rfl⟩ := List.getElem_of_mem hmem
    have hcolumn := List.getElem?_eq_getElem (h.1 ▸ hi)
    obtain ⟨value, hvalue, hreads⟩ := h.2 i _ hcolumn
    rw [List.getElem?_eq_getElem hi, Option.some.injEq] at hvalue
    rw [hvalue]
    exact (bindable_of_reads hreads).mpr fun cell hcell => hcells i _ cell hcolumn hcell

/-- What is written for one table of the plan. -/
def writeOf (t : Texts) (plan : Validator.WorkbookPlan) (sheet : Validator.SheetPlan) : TableWrite where
  tableName := sheet.tableName
  columns := sheet.columns
  rowCount := sheet.rowCount
  rows := Validator.iterTableRows t plan sheet

theorem tableWrites_eq (plan : Validator.WorkbookPlan) : tableWrites t plan = plan.sheets.map (writeOf t plan) := rfl

/-- One table of the plan. -/
theorem writable_iff {facts : SheetXmlFacts} {plan : Validator.WorkbookPlan} {sheet : Validator.SheetPlan}
    {source : String × Validator.Worksheet} (h : Validator.Agreement t policy facts plan sheet source) :
    Writable sqlite (writeOf t plan sheet) ↔ TableStorable t sqlite sheet (Validator.dataOf source.2 facts sheet) := by
  constructor
  · intro hw
    have hrows := h.rows hw.streamed
    refine ⟨hw.unreserved, hw.narrow, fun row hrow i column cell hcolumn hcell => ⟨?_, ?_⟩⟩
    · exact h.streamed.mp hw.streamed row hrow i column cell hcolumn hcell
    · obtain ⟨values, hvalues, hreads⟩ := Infra.exists_of_forall₂ hrows hrow
      exact (insertable_of_reads hreads).mp (hw.rows values hvalues) i column cell hcolumn hcell
  · intro hs
    have hstreamed := h.streamed.mpr fun row hrow i column cell hcolumn hcell =>
      (hs.cells row hrow i column cell hcolumn hcell).1
    have hrows := h.rows hstreamed
    refine ⟨hs.unreserved, hs.narrow, hstreamed, fun values hvalues => ?_, ?_⟩
    · obtain ⟨row, hrow, hreads⟩ := Infra.exists_of_forall₂ hrows.flip hvalues
      exact (insertable_of_reads hreads).mpr fun i column cell hcolumn hcell =>
        (hs.cells row hrow i column cell hcolumn hcell).2
    · exact hrows.length_eq.symm.trans h.rowCount.symm

theorem holds_tableOf {facts : SheetXmlFacts} {plan : Validator.WorkbookPlan} {sheet : Validator.SheetPlan}
    {source : String × Validator.Worksheet} (h : Validator.Agreement t policy facts plan sheet source)
    (hstreamed : (Validator.iterTableRows t plan sheet).raised = none) :
    Holds t policy sheet (Validator.dataOf source.2 facts sheet)
      (tableOf sqlite (writeOf t plan sheet)) where
  name := rfl
  columns := rfl
  rows := by
    unfold tableOf writeOf
    rw [List.forall₂_map_right_iff]
    exact (h.rows hstreamed).imp fun row values hreads => by rwa [storedRow_of_reads hreads]

end Workbook

/-! ## What is raised -/

section Raised

variable {sqlite : Sqlite} {integrity : Database → List String}

/-- The error is reported as one of the materialization. -/
def Reported (e : Raised) : Prop := ∀ reported, e = .excel reported → reported.code = .materializationFailed

theorem reported_other (typeName : String) : Reported (.other typeName) := nofun

theorem create_reported {db : Database} {name : String} {columns : List (String × String)} {e : Raised}
    (h : db.create sqlite name columns = .error e) : Reported e := by
  unfold Database.create at h
  split at h
  · cases h
    exact reported_other _
  · cases h

theorem insertRow_reported {db : Database} {name : String} {columns : List String} {parameters : Nat}
    {values : List SqlValue} {e : Raised}
    (h : db.insertRow sqlite name columns parameters values = .error e) : Reported e := by
  unfold Database.insertRow at h
  split at h
  · cases h
    exact reported_other _
  · split at h
    · cases h
      exact reported_other _
    · split at h
      · cases h
        exact reported_other _
      · split at h
        · cases h
          exact reported_other _
        · cases h

theorem execute_reported {db : Database} {text : List Char} {e : Raised}
    (h : execute sqlite db text = .error e) : Reported e := by
  unfold execute at h
  split at h
  · exact create_reported h
  · cases h
    exact reported_other _
  · cases h
    exact reported_other _

theorem executeRow_reported {text : List Char} {db : Database} {values : List SqlValue} {e : Raised}
    (h : executeRow sqlite text db values = .error e) : Reported e := by
  unfold executeRow at h
  split at h
  · exact insertRow_reported h
  · cases h
    exact reported_other _
  · cases h
    exact reported_other _

theorem insertRows_reported {table : TableWrite} (hquotable : NamesQuotable table) {db : Database} {e : Raised}
    (h : insertRows sqlite db table = .error e) : Reported e := by
  obtain ⟨text, htext⟩ := exists_insertSql.mpr hquotable
  unfold insertRows at h
  rw [htext] at h
  rcases Infra.bind_error h with h | ⟨text, heq, h⟩
  · cases h
  cases heq
  rcases Infra.bind_error h with h | ⟨batched, -, h⟩
  · refine Infra.foldlM_error (fun values _ b e hadd => ?_) h
    exact Batched.add_error (fun _ _ _ hrow => executeRow_reported hrow) hadd
  · split at h
    · cases h
      exact reported_other _
    · exact Batched.finish_error (fun _ _ _ hrow => executeRow_reported hrow) h

theorem writeTable_reported {table : TableWrite} (hquotable : NamesQuotable table) {db : Database} {e : Raised}
    (h : writeTable sqlite db table = .error e) : Reported e := by
  obtain ⟨text, htext⟩ := exists_createTableSql.mpr hquotable
  unfold writeTable at h
  rw [htext] at h
  rcases Infra.bind_error h with h | ⟨text, heq, h⟩
  · cases h
  cases heq
  rcases Infra.bind_error h with h | ⟨created, -, h⟩
  · exact execute_reported h
  rcases Infra.bind_error h with h | ⟨⟨written, count⟩, -, h⟩
  · exact insertRows_reported hquotable h
  dsimp only at h
  split at h
  · cases h
    rintro _ ⟨⟩
    rfl
  · cases h

/-- A write ends without a database just when a table cannot be written, or when what is written is damaged. -/
theorem materialize_eq {tables : List TableWrite} (hnamed : ∀ table ∈ tables, WellNamed table)
    (hdistinct : (tables.map fun table => folded table.tableName).Nodup) (before : Option Database) :
    ((∀ table ∈ tables, Writable sqlite table) →
        materialize sqlite integrity tables before =
          if integrity (tables.map (tableOf sqlite)) = ["ok"] then (some (tables.map (tableOf sqlite)), .ok ())
          else (before, .error {
            code := .integrityCheckFailed
            message := "SQLite integrity_check 未通过：" ++
              "/".intercalate (integrity (tables.map (tableOf sqlite))) })) ∧
      (¬ (∀ table ∈ tables, Writable sqlite table) →
        ∃ e, materialize sqlite integrity tables before = (before, .error e) ∧ e.code = .materializationFailed) := by
  have hok : ∀ {db : Database}, tables.foldlM (writeTable sqlite) [] = .ok db ↔
      (∀ table ∈ tables, Writable sqlite table) ∧ db = [] ++ tables.map (tableOf sqlite) :=
    writeTables_ok_iff hnamed (by simpa using hdistinct)
  unfold materialize write
  constructor
  · intro hall
    rw [hok.mpr ⟨hall, rfl⟩]
    simp only [List.nil_append, bind, Except.bind]
    by_cases hintact : integrity (tables.map (tableOf sqlite)) = ["ok"]
    · rw [if_pos hintact, if_neg (not_not.mpr hintact)]
      rfl
    · rw [if_neg hintact, if_pos hintact]
  · intro hnot
    cases hwrite : tables.foldlM (writeTable sqlite) [] with
    | ok db => exact absurd (hok.mp hwrite).1 hnot
    | error e =>
      have hreported : Reported e := by
        refine Infra.foldlM_error (fun table htable db e herror => ?_) hwrite
        exact writeTable_reported (hnamed table htable).quotable herror
      cases e with
      | excel e => exact ⟨e, rfl, hreported e rfl⟩
      | other typeName => exact ⟨_, rfl, rfl⟩

end Raised

/-! ## A validated workbook becomes a database -/

section Workbook

variable {t : Texts} {policy : Validator.ExcelIngestionPolicy} {sqlite : Sqlite}

/-- Names that differ even where case is ignored are told apart by SQLite. -/
theorem nodup_folded {α : Type} {f : α → String} {as : List α}
    (hfold : ∀ a b, folded a = folded b → t.casefold a = t.casefold b)
    (h : (as.map fun a => t.casefold (f a)).Nodup) : (as.map fun a => folded (f a)).Nodup := by
  rw [List.Nodup, List.pairwise_map] at h ⊢
  exact h.imp fun hne heq => hne (hfold _ _ heq)

theorem wellNamed_of (hfold : ∀ a b, folded a = folded b → t.casefold a = t.casefold b) {plan : Validator.WorkbookPlan}
    {sheet : Validator.SheetPlan} (h : Validator.WellFormedTable t policy sheet) :
    WellNamed (writeOf t plan sheet) where
  someColumn := h.someColumn
  quotable := ⟨h.tableName, fun column hcolumn => ⟨(h.columnNames column hcolumn).1, (h.columnNames column hcolumn).2.1⟩⟩
  distinct := nodup_folded hfold h.distinct

/-- **A validated workbook becomes the database of its cells, or nothing changes.** The database is written just
when SQLite takes the names of the tables and the number of columns, the numbers fit their columns, and integers
are of 64 bits. It is then the tables of the plan, each with the cells of its sheet, unless it is found to be
damaged; and it is what `is_finalized` looks for. Otherwise the file is as it was. -/
theorem materialized_iff (hfloat : t.Faithful)
    (hfold : ∀ a b, folded a = folded b → t.casefold a = t.casefold b) {workbook : Validator.Workbook}
    {facts : String → SheetXmlFacts} {plan : Validator.WorkbookPlan}
    (h : Validator.validateWorkbook t policy workbook facts = .ok plan) (integrity : Database → List String)
    (before : Option Database) :
    ∃ kept : List (String × Validator.Worksheet), kept.Sublist workbook.named ∧
      kept.map Prod.fst = plan.sheets.map (·.originalName) ∧
      ((∀ item ∈ plan.sheets.zip kept,
          TableStorable t sqlite item.1 (Validator.dataOf item.2.2 (facts item.2.1) item.1)) →
        ∃ db, List.Forall₂ (fun item table =>
              Holds t policy item.1 (Validator.dataOf item.2.2 (facts item.2.1) item.1) table)
            (plan.sheets.zip kept) db ∧
          (integrity db = ["ok"] →
            materialize sqlite integrity (tableWrites t plan) before = (some db, .ok ()) ∧
              isFinalized integrity (some db) (plan.sheets.map (·.tableName)) = true) ∧
          (integrity db ≠ ["ok"] → ∃ e, e.code = .integrityCheckFailed ∧
            materialize sqlite integrity (tableWrites t plan) before = (before, .error e))) ∧
      (¬ (∀ item ∈ plan.sheets.zip kept,
          TableStorable t sqlite item.1 (Validator.dataOf item.2.2 (facts item.2.1) item.1)) →
        ∃ e, e.code = .materializationFailed ∧
          materialize sqlite integrity (tableWrites t plan) before = (before, .error e)) := by
  obtain ⟨kept, hsub, hkept, -, -, hdistinct⟩ := Validator.validated_sheets hfloat h
  refine ⟨kept, hsub, (Validator.forall₂_map_eq hkept fun _ _ hsheet => hsheet.1.name).symm, ?_⟩
  have hnames : (tableWrites t plan).map (fun table => folded table.tableName) =
      plan.sheets.map fun sheet => folded sheet.tableName := by
    simp [tableWrites]
  have hnamed : ∀ table ∈ tableWrites t plan, WellNamed table := by
    intro table htable
    obtain ⟨sheet, hsheet, rfl⟩ := List.mem_map.mp htable
    obtain ⟨source, -, -, hwell⟩ := Infra.exists_of_forall₂ hkept hsheet
    exact wellNamed_of hfold hwell
  -- Every table goes with the sheet it comes from.
  have hpairs : ∀ item ∈ plan.sheets.zip kept, Validator.Agreement t policy (facts item.2.1) plan item.1 item.2 :=
    fun item hitem => (List.forall₂_zip hkept hitem).1
  have hfirst : (plan.sheets.zip kept).map Prod.fst = plan.sheets :=
    List.map_fst_zip hkept.length_eq.le
  have htables : tableWrites t plan = (plan.sheets.zip kept).map fun item => writeOf t plan item.1 := by
    conv_lhs => rw [tableWrites_eq, ← hfirst, List.map_map]
    rfl
  have hwritable : (∀ table ∈ tableWrites t plan, Writable sqlite table) ↔ ∀ item ∈ plan.sheets.zip kept,
      TableStorable t sqlite item.1 (Validator.dataOf item.2.2 (facts item.2.1) item.1) := by
    rw [htables, List.forall_mem_map]
    exact forall₂_congr fun item hitem => writable_iff (hpairs item hitem)
  obtain ⟨hwritten, hrefused⟩ := @materialize_eq sqlite integrity _ hnamed
    (hnames ▸ nodup_folded hfold hdistinct) before
  refine ⟨fun hall => ?_, fun hnot => ?_⟩
  · have hwrites := hwritable.mpr hall
    refine ⟨(tableWrites t plan).map (tableOf sqlite), ?_, fun hintact => ⟨?_, ?_⟩, fun hdamaged => ?_⟩
    · rw [htables, List.map_map, List.forall₂_map_right_iff, List.forall₂_same]
      intro item hitem
      have hwrite : writeOf t plan item.1 ∈ tableWrites t plan := htables ▸ List.mem_map_of_mem hitem
      exact holds_tableOf (hpairs item hitem) (hwrites _ hwrite).streamed
    · rw [hwritten hwrites, if_pos hintact]
    · have hall : ((tableWrites t plan).map (tableOf sqlite)).map (·.name) = plan.sheets.map (·.tableName) := by
        simp [tableWrites, tableOf]
      unfold isFinalized
      simp only [hintact, decide_true, Bool.true_and, Bool.and_eq_true, List.all_eq_true, decide_eq_true_eq, hall,
        imp_self, implies_true, and_true]
      exact fun table htable => hall ▸ List.mem_map_of_mem htable
    · exact ⟨_, rfl, by rw [hwritten hwrites, if_neg hdamaged]⟩
  · obtain ⟨e, heq, hcode⟩ := hrefused (mt hwritable.mp hnot)
    exact ⟨e, hcode, heq⟩

end Workbook

/-! ### The workbook with a gap -/

theorem real_kept (x : Double) : SqlValue.real x = .real x := rfl

theorem text_kept (s : String) : SqlValue.text s = .text s := rfl

def sampleSqlite : Sqlite where
  maxColumns := 2000
  stored := fun _ value => value
  stored_null _ := rfl
  stored_integer _ _ _ := rfl
  stored_real := real_kept
  stored_text := text_kept
  stored_date _ _ _ _ := rfl

theorem folded_casefold (a b : String) (h : folded a = folded b) :
    Validator.sampleTexts.casefold a = Validator.sampleTexts.casefold b := congrArg String.ofList h

theorem sample_materialized :
    materialize sampleSqlite (fun _ => ["ok"]) (tableWrites Validator.sampleTexts Validator.samplePlan) none =
      (some [{ name := "S", columns := [("n", "INTEGER"), ("t", "BOOLEAN")],
               rows := [[.integer 1, .integer 1], [.integer 2, .null]] }], .ok ()) := by
  rfl

theorem materialized_iff_sample : ∃ (kept : List (String × Validator.Worksheet)) (db : Database),
    kept.map Prod.fst = ["S"] ∧
      List.Forall₂ (fun item table => Holds Validator.sampleTexts {} item.1
        (Validator.dataOf item.2.2 { rowExtent := 0 } item.1) table) ([Validator.sampleSheet].zip kept) db := by
  obtain ⟨kept, -, hnames, hwritten, hrefused⟩ := materialized_iff sampleCellTexts_faithful folded_casefold
    Validator.sampleWorkbook_validated (fun _ => ["ok"]) none
  by_cases hall : ∀ item ∈ Validator.samplePlan.sheets.zip kept, TableStorable Validator.sampleTexts sampleSqlite
      item.1 (Validator.dataOf item.2.2 { rowExtent := 0 } item.1)
  · obtain ⟨db, hdb, -⟩ := hwritten hall
    exact ⟨kept, db, hnames, hdb⟩
  · obtain ⟨e, -, herror⟩ := hrefused hall
    exact nomatch sample_materialized.symm.trans herror

end Materializer

end Ingestion
