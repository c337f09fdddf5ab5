import Qaneris.Ingestion.Properties.CellTypes
import Qaneris.Ingestion.Validator

/-!
# What a validated workbook is

* `validated_wellFormed` — the tables and the columns of a plan have names that SQLite can tell apart, and
  everything is within the limits
* `validated_agrees` — the rows that are read again are the rows that were counted, and they fit the columns
-/

namespace Ingestion

namespace Validator

variable {t : Texts} {policy : ExcelIngestionPolicy} {sheetName : String}

/-! ## The cells of a row -/

/-- The cell of a row in a column, if it is not empty. -/
def cellAt (row : List RawCell) (column : Nat) : Option StoredCell :=
  (storedCells row).find? fun cell => cell.column = column

theorem storedCell_column {raw : RawCell} {position : Nat} {cell : StoredCell}
    (h : storedCell raw position = some cell) : cell.column = position := by
  unfold storedCell at h
  obtain ⟨value, -, rfl⟩ := Option.map_eq_some_iff.mp h
  rfl

theorem mem_storedCells {row : List RawCell} {cell : StoredCell} : cell ∈ storedCells row ↔
    ∃ (i : Nat) (raw : RawCell), row[i]? = some raw ∧ storedCell raw (i + 1) = some cell := by
  unfold storedCells
  rw [List.mem_filterMap]
  constructor
  · rintro ⟨⟨raw, position⟩, hmem, hcell⟩
    obtain ⟨hle, hget⟩ := List.mk_mem_zipIdx_iff_le_and_getElem?_sub.mp hmem
    exact ⟨position - 1, raw, hget, by rwa [Nat.sub_add_cancel hle]⟩
  · rintro ⟨i, raw, hget, hcell⟩
    refine ⟨(raw, i + 1), List.mk_mem_zipIdx_iff_le_and_getElem?_sub.mpr ⟨by omega, ?_⟩, hcell⟩
    rwa [Nat.add_sub_cancel]

/-- A row has one cell in a column. -/
theorem cellAt_eq (row : List RawCell) (i : Nat) :
    cellAt row (i + 1) = row[i]?.bind fun raw => storedCell raw (i + 1) := by
  unfold cellAt
  cases hfind : (storedCells row).find? fun cell => cell.column = i + 1 with
  | none =>
    rw [List.find?_eq_none] at hfind
    symm
    rw [Option.bind_eq_none_iff]
    intro raw hraw
    by_contra hsome
    obtain ⟨cell, hcell⟩ := Option.ne_none_iff_exists'.mp hsome
    exact hfind cell (mem_storedCells.mpr ⟨i, raw, hraw, hcell⟩) (by simpa using storedCell_column hcell)
  | some cell =>
    obtain ⟨j, raw, hget, hcell⟩ := mem_storedCells.mp (List.mem_of_find?_eq_some hfind)
    have hcolumn : cell.column = i + 1 := by simpa using List.find?_some hfind
    rw [storedCell_column hcell] at hcolumn
    obtain rfl : j = i := by omega
    rw [hget]
    exact hcell.symm

theorem cellAt_of_mem {row : List RawCell} {cell : StoredCell} (h : cell ∈ storedCells row) :
    cellAt row cell.column = some cell := by
  obtain ⟨i, raw, hget, hcell⟩ := mem_storedCells.mp h
  rw [storedCell_column hcell, cellAt_eq, hget]
  exact hcell

theorem cellAt_mem {row : List RawCell} {column : Nat} {cell : StoredCell} (h : cellAt row column = some cell) :
    cell ∈ storedCells row ∧ cell.column = column :=
  ⟨List.mem_of_find?_eq_some h, by simpa using List.find?_some h⟩

/-- The cell can be a cell of data, and is of this kind. -/
structure Typed (policy : ExcelIngestionPolicy) (cell : StoredCell) (kind : CellKind) : Prop where
  representable : cell.dataType ∈ representableCellTypes
  short : longerThan policy.maxTextLength cell.value = false
  classified : classifyCell (some cell.value) cell.numberFormat = .ok kind

theorem classifyStored_ok_iff {cell : StoredCell} {rowIndex : Nat} {kind : CellKind} :
    classifyStored t policy sheetName cell rowIndex = .ok kind ↔ Typed policy cell kind := by
  unfold classifyStored
  dsimp only
  split
  · next h => exact iff_of_false nofun fun htyped => h htyped.representable
  · next hrepresentable =>
    split
    · next h => exact iff_of_false nofun fun htyped => by simp [htyped.short] at h
    · next hshort =>
      have hmap : ∀ {x : Except String CellKind} {f : String → ExcelIngestionError},
          x.mapError f = .ok kind ↔ x = .ok kind := by
        intro x f
        cases x <;> simp [Except.mapError]
      rw [hmap]
      exact ⟨fun h => ⟨by simpa using hrepresentable, by simpa using hshort, h⟩, fun h => h.classified⟩

/-! ## A row of data -/

section Columns

variable {rowIndex : Nat} {row : List RawCell}

theorem kindsOf_append (s : Scanned) (column c : Nat) (kind : CellKind) :
    Scanned.kindsOf { s with kinds := s.kinds ++ [(column, kind)] } c =
      s.kindsOf c ++ (if column = c then [kind] else []) := by
  unfold Scanned.kindsOf
  by_cases h : column = c <;> simp [h]

/-- What the loop over these columns of a row has done. -/
structure ColumnsScanned (policy : ExcelIngestionPolicy) (row : List RawCell) (columns : List Nat)
    (s s' : Scanned) : Prop where
  frame : s' = { s with kinds := s'.kinds, nullColumns := s'.nullColumns }
  kinds : ∀ c ∈ columns, ∃ kinds, s'.kindsOf c = s.kindsOf c ++ kinds ∧
    List.Forall₂ (Typed policy) (cellAt row c).toList kinds
  others : ∀ c, c ∉ columns → s'.kindsOf c = s.kindsOf c
  nulls : ∀ c, c ∈ s'.nullColumns ↔ c ∈ s.nullColumns ∨ (c ∈ columns ∧ cellAt row c = none)

theorem scanColumn_ok {column : Nat} {s s' : Scanned}
    (h : scanColumn t policy sheetName rowIndex (storedCells row) s column = .ok s') :
    ColumnsScanned policy row [column] s s' := by
  unfold scanColumn at h
  split at h
  · next hnone =>
    have hcell : cellAt row column = none := hnone
    cases h
    refine ⟨rfl, fun c hc => ⟨[], by simp [Scanned.kindsOf], ?_⟩, fun _ _ => rfl, fun c => ?_⟩
    · rw [List.mem_singleton.mp hc, hcell]
      exact .nil
    · constructor
      · intro hmem
        rcases List.mem_append.mp hmem with hmem | hmem
        · exact .inl hmem
        · exact .inr ⟨hmem, by rw [List.mem_singleton.mp hmem, hcell]⟩
      · rintro (hmem | ⟨hmem, -⟩)
        · exact List.mem_append_left _ hmem
        · exact List.mem_append_right _ hmem
  · next cell hsome =>
    have hcell : cellAt row column = some cell := hsome
    obtain ⟨kind, hkind, h⟩ := Infra.bind_ok h
    cases h
    refine ⟨rfl, fun c hc => ⟨[kind], ?_, ?_⟩, fun c hc => ?_, fun c => ?_⟩
    · rw [kindsOf_append, if_pos (List.mem_singleton.mp hc).symm]
    · rw [List.mem_singleton.mp hc, hcell]
      exact .cons (classifyStored_ok_iff.mp hkind) .nil
    · rw [kindsOf_append, if_neg fun heq => hc (List.mem_singleton.mpr heq.symm), List.append_nil]
    · constructor
      · exact .inl
      · rintro (hmem | ⟨hmem, hnone⟩)
        · exact hmem
        · rw [List.mem_singleton.mp hmem, hcell] at hnone
          cases hnone

theorem ColumnsScanned.trans {column : Nat} {columns : List Nat} {s s₁ s' : Scanned}
    (hnot : column ∉ columns) (hfirst : ColumnsScanned policy row [column] s s₁)
    (hrest : ColumnsScanned policy row columns s₁ s') : ColumnsScanned policy row (column :: columns) s s' := by
  refine ⟨?_, fun c hc => ?_, fun c hc => ?_, fun c => ?_⟩
  · rw [hrest.frame, hfirst.frame]
  · rcases List.mem_cons.mp hc with rfl | hc
    · obtain ⟨kinds, heq, htyped⟩ := hfirst.kinds c (List.mem_singleton.mpr rfl)
      exact ⟨kinds, by rw [hrest.others c hnot, heq], htyped⟩
    · obtain ⟨kinds, heq, htyped⟩ := hrest.kinds c hc
      have hne : c ∉ [column] := fun hmem => hnot (List.mem_singleton.mp hmem ▸ hc)
      exact ⟨kinds, by rw [heq, hfirst.others c hne], htyped⟩
  · obtain ⟨hne, hrestc⟩ := not_or.mp (mt List.mem_cons.mpr hc)
    rw [hrest.others c hrestc, hfirst.others c (mt List.mem_singleton.mp hne)]
  · rw [hrest.nulls, hfirst.nulls, List.mem_singleton, List.mem_cons]
    tauto

/-- The loop over the columns of a row. -/
theorem scanColumns_ok {columns : List Nat} (hnodup : columns.Nodup) {s s' : Scanned}
    (h : columns.foldlM (scanColumn t policy sheetName rowIndex (storedCells row)) s = .ok s') :
    ColumnsScanned policy row columns s s' := by
  induction columns generalizing s with
  | nil =>
    cases h
    exact ⟨rfl, nofun, fun _ _ => rfl, fun c => by simp⟩
  | cons column columns ih =>
    rw [List.foldlM_cons] at h
    obtain ⟨s₁, hfirst, hrest⟩ := Infra.bind_ok h
    obtain ⟨hnot, hnodup⟩ := List.nodup_cons.mp hnodup
    exact (scanColumn_ok hfirst).trans hnot (ih hnodup hrest)

end Columns

/-! ## The rows of data -/

/-- Some cell of the row is not empty. -/
def HasContent (row : List RawCell) : Prop := storedCells row ≠ []

instance : DecidablePred HasContent := fun row => inferInstanceAs (Decidable (storedCells row ≠ []))

/-- The columns of a header of this width. -/
def columnsTo (width : Nat) : List Nat := List.range' 1 width

theorem mem_columnsTo {width c : Nat} : c ∈ columnsTo width ↔ 1 ≤ c ∧ c ≤ width := by
  simp only [columnsTo, List.mem_range'_1]
  omega

/-- What the loop over these rows of data has done. -/
structure DataScanned (policy : ExcelIngestionPolicy) (rows : List (List RawCell)) (s s' : Scanned) :
    Prop where
  header : s'.header = s.header
  headerError : s'.headerError = none
  width : s'.width = s.width
  hasContent : s'.hasContent = true ↔ rows ≠ [] ∨ s.hasContent = true
  dataRows : s'.dataRows = s.dataRows + rows.length
  dataCells : s'.dataCells = s.dataCells + (rows.map fun row => (storedCells row).length).sum
  kinds : ∀ c ∈ columnsTo s.width, ∃ kinds, s'.kindsOf c = s.kindsOf c ++ kinds ∧
    List.Forall₂ (Typed policy) (rows.filterMap fun row => cellAt row c) kinds
  nulls : ∀ c ∈ columnsTo s.width,
    (c ∈ s'.nullColumns ↔ c ∈ s.nullColumns ∨ ∃ row ∈ rows, cellAt row c = none)
  shape : s'.shapeError = none → s.shapeError = none ∧
    ∀ row ∈ rows, ∀ cell ∈ storedCells row, cell.column ≤ s.width
  noFormula : ∀ row ∈ rows, ∀ cell ∈ storedCells row, cell.dataType ≠ "f"

theorem DataScanned.refl {s : Scanned} (h : s.headerError = none) : DataScanned policy [] s s where
  header := rfl
  headerError := h
  width := rfl
  hasContent := by simp
  dataRows := rfl
  dataCells := rfl
  kinds _ _ := ⟨[], by simp, .nil⟩
  nulls _ _ := by simp
  shape h := ⟨h, nofun⟩
  noFormula := nofun

theorem DataScanned.cons {row : List RawCell} {rows : List (List RawCell)} {s s₁ s' : Scanned}
    (hfirst : DataScanned policy [row] s s₁) (hrest : DataScanned policy rows s₁ s') :
    DataScanned policy (row :: rows) s s' where
  header := hrest.header.trans hfirst.header
  headerError := hrest.headerError
  width := hrest.width.trans hfirst.width
  hasContent := by simp [hrest.hasContent, hfirst.hasContent]
  dataRows := by
    have h₁ := hfirst.dataRows
    have h₂ := hrest.dataRows
    simp only [List.length_cons, List.length_nil] at h₁ ⊢
    omega
  dataCells := by
    have h₁ := hfirst.dataCells
    have h₂ := hrest.dataCells
    simp only [List.map_cons, List.map_nil, List.sum_cons, List.sum_nil] at h₁ ⊢
    omega
  kinds c hc := by
    obtain ⟨kinds₁, heq₁, htyped₁⟩ := hfirst.kinds c hc
    obtain ⟨kinds₂, heq₂, htyped₂⟩ := hrest.kinds c (by rwa [hfirst.width])
    refine ⟨kinds₁ ++ kinds₂, by rw [heq₂, heq₁, List.append_assoc], ?_⟩
    have hsplit : (row :: rows).filterMap (fun row => cellAt row c) =
        [row].filterMap (fun row => cellAt row c) ++ rows.filterMap fun row => cellAt row c := by
      rw [← List.filterMap_append]
      rfl
    rw [hsplit]
    exact List.rel_append htyped₁ htyped₂
  nulls c hc := by
    rw [hrest.nulls c (by rwa [hfirst.width]), hfirst.nulls c hc]
    simp [or_assoc]
  shape h := by
    obtain ⟨hshape, hrows⟩ := hrest.shape h
    obtain ⟨hshape, hrow⟩ := hfirst.shape hshape
    rw [hfirst.width] at hrows
    exact ⟨hshape, List.forall_mem_cons.mpr ⟨hrow row (by simp), hrows⟩⟩
  noFormula := List.forall_mem_cons.mpr ⟨hfirst.noFormula row (by simp), hrest.noFormula⟩

theorem shapeAfter_eq_none {rowIndex : Nat} {cells : List StoredCell} {s : Scanned}
    (h : shapeAfter t sheetName rowIndex cells s = none) :
    s.shapeError = none ∧ ∀ cell ∈ cells, cell.column ≤ s.width := by
  unfold shapeAfter at h
  split at h
  · cases h
  · next hnot =>
    refine ⟨h, fun cell hcell => ?_⟩
    by_contra hbeyond
    have hfound : (cells.find? fun cell => decide (s.width < cell.column)).isSome :=
      List.find?_isSome.mpr ⟨cell, hcell, by simpa using hbeyond⟩
    obtain ⟨beyond, hbeyond⟩ := Option.isSome_iff_exists.mp hfound
    exact hnot beyond h hbeyond

/-- One row of data without a formula. -/
theorem scanData_ok {row : List RawCell} {rowIndex : Nat} {s s' : Scanned} (hheader : s.headerError = none)
    (hcontent : s.hasContent = true) (hformula : ∀ cell ∈ storedCells row, cell.dataType ≠ "f")
    (h : scanData t policy sheetName rowIndex (storedCells row) s = .ok s') :
    DataScanned policy [row] s s' := by
  unfold scanData at h
  simp only [hheader, Option.isSome_none, Bool.false_eq_true, if_false] at h
  have hcolumns := scanColumns_ok List.nodup_range' h
  have hframe := hcolumns.frame
  refine ⟨?_, ?_, ?_, ?_, ?_, ?_, fun c hc => ?_, fun c hc => ?_, fun hnone => ?_, ?_⟩
  · rw [hframe]
  · rw [hframe]
  · rw [hframe]
  · rw [hframe]
    simp [hcontent]
  · rw [hframe]
    rfl
  · rw [hframe]
    simp
  · obtain ⟨kinds, hk, htyped⟩ := hcolumns.kinds c hc
    refine ⟨kinds, hk, ?_⟩
    cases hcell : cellAt row c <;> simpa [hcell] using htyped
  · have hmem : c ∈ List.range' 1 s.width := hc
    rw [hcolumns.nulls c]
    simp only [hmem, true_and, List.mem_singleton, exists_eq_left]
  · rw [hframe] at hnone
    obtain ⟨hsame, hcells⟩ := shapeAfter_eq_none hnone
    exact ⟨hsame, by simpa using hcells⟩
  · simpa using hformula

/-- The loop from row 2 on, when it comes to its end. -/
theorem scanRows_ok {rows : List (List RawCell)} {rowIndex : Nat} (hindex : 2 ≤ rowIndex) {s s' : Scanned}
    (hheader : s.headerError = none) (h : scanRows t policy sheetName rowIndex rows s = .ok s')
    (hformula : s'.formula = none) : DataScanned policy (rows.filter fun row => HasContent row) s s' := by
  induction rows generalizing rowIndex s with
  | nil =>
    cases h
    exact .refl hheader
  | cons row rows ih =>
    obtain ⟨s₁, hrow, hrest⟩ := Infra.bind_ok h
    have hnone : s₁.formula = none := by
      by_contra hsome
      rw [if_pos (Option.isSome_iff_ne_none.mpr hsome)] at hrest
      cases hrest
      exact hsome hformula
    rw [if_neg (by simp [hnone])] at hrest
    unfold scanRow at hrow
    dsimp only at hrow
    split at hrow
    · next hempty =>
      cases hrow
      rw [List.filter_cons_of_neg (by simp [HasContent, hempty])]
      exact ih (by omega) hheader hrest
    · next hcontent =>
      rw [List.filter_cons_of_pos (by simp [HasContent, hcontent])]
      split at hrow
      · cases hrow
        cases hnone
      · next hfind =>
        rw [if_neg (by omega)] at hrow
        have hcells : ∀ cell ∈ storedCells row, cell.dataType ≠ "f" := by
          intro cell hcell
          simpa using List.find?_eq_none.mp hfind cell hcell
        have hdata : scanData t policy sheetName rowIndex (storedCells row) { s with hasContent := true } =
            .ok s₁ := by
          revert hrow
          cases scanData t policy sheetName rowIndex (storedCells row) { s with hasContent := true } <;>
            simp [Except.mapError]
        have hfirst := scanData_ok (s := { s with hasContent := true }) hheader rfl hcells hdata
        have hsame : DataScanned policy [row] s s₁ :=
          { hfirst with hasContent := by simp [hfirst.hasContent] }
        exact hsame.cons (ih (by omega) hsame.headerError hrest)

/-! ## The header -/

/-- What a header cell becomes. -/
structure IsHeader (t : Texts) (policy : ExcelIngestionPolicy) (cell : StoredCell) (column : HeaderColumn) :
    Prop where
  position : column.column = cell.column
  representable : cell.dataType ∈ representableCellTypes
  source : ∃ kind, classifyCell (some cell.value) cell.numberFormat = .ok kind ∧
    canonicalText t.toCellTexts cell.value kind = .ok column.source
  name : column.name = strip (t.nfkc column.source)
  nonempty : column.name ≠ ""
  noNul : '\x00' ∉ column.name.toList
  short : column.name.length ≤ policy.maxColumnNameLength

theorem parseHeaderCell_ok {cell : StoredCell} {seen : List (String × Nat)} {column : HeaderColumn}
    {key : String} (h : parseHeaderCell t policy sheetName cell seen = .ok (column, key)) :
    IsHeader t policy cell column ∧ key = t.casefold column.name ∧ key ∉ seen.map Prod.fst := by
  unfold parseHeaderCell at h
  dsimp only at h
  split at h
  · cases h
  next hrepresentable =>
  split at h
  · cases h
  next kind hkind =>
  split at h
  · cases h
  · cases h
  next source hsource =>
  split at h
  · cases h
  next hempty =>
  split at h
  · cases h
  next hnul =>
  split at h
  · cases h
  next hlong =>
  split at h
  · cases h
  next hseen =>
  cases h
  refine ⟨⟨rfl, by simpa using hrepresentable, ⟨kind, hkind, hsource⟩, rfl, hempty, hnul, by simpa using hlong⟩,
    rfl, fun hmem => ?_⟩
  obtain ⟨item, hitem, hkey⟩ := List.mem_map.mp hmem
  have hnone := List.lookup_eq_none_iff.mp hseen item hitem
  simp [hkey] at hnone

theorem parseHeaderCells_ok {cells : List StoredCell} {seen : List (String × Nat)}
    {columns : List HeaderColumn} (hseen : (seen.map Prod.fst).Nodup)
    (h : parseHeaderCells t policy sheetName seen cells = .ok columns) :
    List.Forall₂ (IsHeader t policy) cells columns ∧
      (seen.map Prod.fst ++ columns.map fun column => t.casefold column.name).Nodup := by
  induction cells generalizing seen columns with
  | nil =>
    cases h
    exact ⟨.nil, by simpa using hseen⟩
  | cons cell cells ih =>
    obtain ⟨⟨column, key⟩, hfirst, h⟩ := Infra.bind_ok h
    obtain ⟨rest, hrest, h⟩ := Infra.bind_ok h
    cases h
    obtain ⟨hheader, rfl, hnew⟩ := parseHeaderCell_ok hfirst
    have hseen' : ((seen ++ [(t.casefold column.name, cell.column)]).map Prod.fst).Nodup := by
      rw [List.map_append]
      exact List.nodup_append.mpr ⟨hseen, List.nodup_singleton _, by
        intro a ha b hb heq
        rw [List.mem_singleton.mp hb] at heq
        exact hnew (by rwa [heq] at ha)⟩
    obtain ⟨hall, hnodup⟩ := ih hseen' hrest
    exact ⟨.cons hheader hall, by simpa using hnodup⟩

/-- The row is a header of these columns: each of its cells is one, and no column has no cell. -/
structure Header (t : Texts) (policy : ExcelIngestionPolicy) (row : List RawCell) (header : List HeaderColumn) :
    Prop where
  columns : header.map (·.column) = columnsTo header.length
  each : ∀ column ∈ header, ∃ cell, cellAt row column.column = some cell ∧ IsHeader t policy cell column
  all : ∀ cell ∈ storedCells row, cell.column ≤ header.length
  distinct : (header.map fun column => t.casefold column.name).Nodup

theorem le_foldl_max (values : List Nat) (start : Nat) :
    start ≤ values.foldl max start ∧ ∀ n ∈ values, n ≤ values.foldl max start := by
  induction values generalizing start with
  | nil => simp
  | cons n values ih =>
    obtain ⟨hstart, hall⟩ := ih (max start n)
    rw [List.foldl_cons]
    exact ⟨by omega, List.forall_mem_cons.mpr ⟨by omega, hall⟩⟩

theorem parseHeader_ok {row : List RawCell} {header : List HeaderColumn}
    (h : parseHeader t policy (storedCells row) (((storedCells row).map (·.column)).foldl max 0) sheetName =
      .ok header) :
    Header t policy row header ∧ header.length = ((storedCells row).map (·.column)).foldl max 0 := by
  set width := ((storedCells row).map (·.column)).foldl max 0 with hwidth
  unfold parseHeader at h
  dsimp only at h
  split at h
  · cases h
  next hpresent =>
  obtain ⟨hall, hdistinct⟩ := @parseHeaderCells_ok t policy sheetName _ [] _ List.nodup_nil h
  -- Each column of the header has a cell, so the cells are those of the columns in their order.
  have hsome : ∀ c ∈ columnsTo width, ∃ cell, cellAt row c = some cell := by
    intro c hc
    have := List.find?_eq_none.mp hpresent c hc
    exact Option.ne_none_iff_exists'.mp (by simpa [cellAt] using this)
  have hcolumns : ((columnsTo width).filterMap fun c => cellAt row c).map (·.column) = columnsTo width := by
    clear hall h hpresent
    revert hsome
    generalize columnsTo width = columns
    intro hsome
    induction columns with
    | nil => rfl
    | cons c columns ih =>
      obtain ⟨cell, hcell⟩ := hsome c List.mem_cons_self
      rw [List.filterMap_cons_some hcell, List.map_cons, (cellAt_mem hcell).2,
        ih fun c hc => hsome c (List.mem_cons_of_mem _ hc)]
  have hsame : header.map (·.column) = columnsTo width := by
    rw [← hcolumns]
    have hforall : List.Forall₂ (IsHeader t policy) ((columnsTo width).filterMap fun c => cellAt row c) header :=
      hall
    clear hall h hdistinct hcolumns
    revert hforall
    generalize (columnsTo width).filterMap (fun c => cellAt row c) = cells
    intro hforall
    induction hforall with
    | nil => rfl
    | cons hheader _ ih => rw [List.map_cons, List.map_cons, ih, hheader.position]
  have hlength : header.length = width := by
    have := congrArg List.length hsame
    simpa [columnsTo] using this
  refine ⟨⟨by rw [hlength, hsame], fun column hcolumn => ?_, fun cell hcell => ?_, by simpa using hdistinct⟩,
    hlength⟩
  · obtain ⟨cell, hcell, hheader⟩ := Infra.exists_of_forall₂ hall.flip hcolumn
    obtain ⟨c, -, hc⟩ := List.mem_filterMap.mp hcell
    have hat : cellAt row c = some cell := hc
    exact ⟨cell, by rw [hheader.position, (cellAt_mem hat).2, hat], hheader⟩
  · rw [hlength]
    exact (le_foldl_max _ 0).2 _ (List.mem_map_of_mem hcell)

/-! ## A sheet -/

/-- The variables of the loop after this header. -/
def afterHeader (header : List HeaderColumn) : Scanned :=
  { header, width := header.length, hasContent := true }

/-- The rows of data within the extent. -/
def dataRowsOf (worksheet : Worksheet) (rowExtent columnExtent : Nat) : List (List RawCell) :=
  (worksheet.iterRows 2 rowExtent columnExtent).filter fun row => HasContent row

theorem iterRows_tail (worksheet : Worksheet) (rowExtent columnExtent : Nat) :
    (worksheet.iterRows 1 rowExtent columnExtent).tail = worksheet.iterRows 2 rowExtent columnExtent := by
  unfold Worksheet.iterRows
  rw [← List.map_tail, List.tail_drop]

theorem scanRow_headerError {rowIndex : Nat} (hindex : 2 ≤ rowIndex) {row : List RawCell} {s s' : Scanned}
    {e : ExcelIngestionError} (hheader : s.headerError = some e)
    (h : scanRow t policy sheetName rowIndex row s = .ok s') : s'.headerError = some e := by
  unfold scanRow at h
  dsimp only at h
  split at h
  · cases h
    exact hheader
  · split at h
    · cases h
      exact hheader
    · rw [if_neg (by omega)] at h
      simp only [scanData, hheader, Option.isSome_some, if_true] at h
      cases h
      rfl

/-- An error of the header stays. -/
theorem scanRows_headerError {rows : List (List RawCell)} {rowIndex : Nat} (hindex : 2 ≤ rowIndex)
    {s s' : Scanned} {e : ExcelIngestionError} (hheader : s.headerError = some e)
    (h : scanRows t policy sheetName rowIndex rows s = .ok s') : s'.headerError = some e := by
  induction rows generalizing rowIndex s with
  | nil =>
    cases h
    exact hheader
  | cons row rows ih =>
    obtain ⟨s₁, hrow, hrest⟩ := Infra.bind_ok h
    have hkept := scanRow_headerError hindex hheader hrow
    split at hrest
    · cases hrest
      exact hkept
    · exact ih (by omega) hkept hrest

/-- The loop over all the rows, when it comes to its end without an error. -/
theorem scanRows_first {rows : List (List RawCell)} {s : Scanned}
    (h : scanRows t policy sheetName 1 rows {} = .ok s) (hformula : s.formula = none)
    (hcontent : s.hasContent = true) (hheader : s.headerError = none) (hshape : s.shapeError = none) :
    ∃ first rest header, rows = first :: rest ∧ HasContent first ∧ Header t policy first header ∧
      (∀ cell ∈ storedCells first, cell.dataType ≠ "f") ∧
      DataScanned policy (rest.filter fun row => HasContent row) (afterHeader header) s := by
  cases rows with
  | nil =>
    cases h
    cases hcontent
  | cons first rest =>
    obtain ⟨s₁, hrow, hrest⟩ := Infra.bind_ok h
    have hnone : s₁.formula = none := by
      by_contra hsome
      rw [if_pos (Option.isSome_iff_ne_none.mpr hsome)] at hrest
      cases hrest
      exact hsome hformula
    rw [if_neg (by simp [hnone])] at hrest
    unfold scanRow at hrow
    dsimp only at hrow
    split at hrow
    · -- An empty first row has no columns, so that no cell of the others is within them.
      cases hrow
      have hdata := scanRows_ok (by omega) rfl hrest hformula
      have hempty : (rest.filter fun row => HasContent row) = [] := by
        refine List.eq_nil_iff_forall_not_mem.mpr fun row hmem => ?_
        have hrowcontent : HasContent row := by simpa using (List.mem_filter.mp hmem).2
        obtain ⟨cell, hcell⟩ := List.exists_mem_of_ne_nil _ hrowcontent
        have hle := (hdata.shape hshape).2 row hmem cell hcell
        obtain ⟨i, raw, -, hstored⟩ := mem_storedCells.mp hcell
        have := storedCell_column hstored
        simp only [nonpos_iff_eq_zero] at hle
        omega
      rcases hdata.hasContent.mp hcontent with hsome | hsome
      · exact absurd hempty hsome
      · cases hsome
    · next hfirst =>
      split at hrow
      · cases hrow
        cases hnone
      next hfind =>
      rw [if_pos rfl] at hrow
      unfold scanHeader at hrow
      dsimp only at hrow
      split at hrow
      · next header hparse =>
        cases hrow
        obtain ⟨hheads, hlength⟩ := parseHeader_ok hparse
        refine ⟨first, rest, header, rfl, hfirst, hheads, fun cell hcell => ?_, ?_⟩
        · simpa using List.find?_eq_none.mp hfind cell hcell
        · have hdata := scanRows_ok (by omega) rfl hrest hformula
          rw [← hlength] at hdata
          exact hdata
      · next e hparse =>
        -- An error of the header stays.
        cases hrow
        rw [scanRows_headerError (by omega) rfl hrest] at hheader
        cases hheader
      · cases hrow

/-- The column of the plan that comes of this header and these rows of data. -/
structure ColumnOf (policy : ExcelIngestionPolicy) (data : List (List RawCell)) (head : HeaderColumn)
    (column : ColumnPlan) : Prop where
  sourceHeader : column.sourceHeader = head.source
  columnName : column.columnName = head.name
  typed : ∃ kinds, List.Forall₂ (Typed policy) (data.filterMap fun row => cellAt row head.column) kinds ∧
    column.inferredType = inferColumnType kinds
  nullable : column.nullable = true ↔ ∃ row ∈ data, cellAt row head.column = none
  allNull : column.allNull = true ↔ ∀ row ∈ data, cellAt row head.column = none

/-- The column that the declared or the referenced extent ends at. -/
def columnExtentOf (worksheet : Worksheet) (facts : SheetXmlFacts) : Nat :=
  extent facts.columnExtent worksheet.maxColumn

/-- The rows of data of a sheet. -/
def dataOf (worksheet : Worksheet) (facts : SheetXmlFacts) (plan : SheetPlan) : List (List RawCell) :=
  dataRowsOf worksheet plan.rowExtent (columnExtentOf worksheet facts)

/-- The sheet is accepted as this plan, with this header. -/
structure Accepted (t : Texts) (policy : ExcelIngestionPolicy) (worksheet : Worksheet) (facts : SheetXmlFacts)
    (sheetName : String) (plan : SheetPlan) (header : List HeaderColumn) : Prop where
  originalName : plan.originalName = sheetName
  rowExtent : plan.rowExtent = extent facts.rowExtent worksheet.maxRow
  rowLimit : plan.rowExtent ≤ policy.maxRowsPerSheet
  columnLimit : columnExtentOf worksheet facts ≤ policy.maxColumnsPerSheet
  merged : facts.hasMergedRange = false
  firstRow : ∃ first, (worksheet.iterRows 1 plan.rowExtent (columnExtentOf worksheet facts)).head? = some first ∧
    HasContent first ∧ Header t policy first header
  columns : List.Forall₂ (ColumnOf policy (dataOf worksheet facts plan)) header plan.columns
  columnExtent : plan.columnExtent = header.length
  rowCount : plan.rowCount = (dataOf worksheet facts plan).length
  within : ∀ row ∈ dataOf worksheet facts plan, ∀ cell ∈ storedCells row, cell.column ≤ plan.columnExtent
  tableName : plan.tableName = strip (t.nfkc sheetName)
  nonempty : plan.tableName ≠ ""
  noNul : '\x00' ∉ plan.tableName.toList

/-- How many cells of data there are in a sheet. -/
def dataCellsOf (worksheet : Worksheet) (facts : SheetXmlFacts) (plan : SheetPlan) : Nat :=
  ((dataOf worksheet facts plan).map fun row => (storedCells row).length).sum

theorem tableName_ok {names names' : List String} {name : String}
    (h : tableName t sheetName names = .ok (name, names')) :
    name = strip (t.nfkc sheetName) ∧ name ≠ "" ∧ '\x00' ∉ name.toList ∧ t.casefold name ∉ names ∧
      names' = names ++ [t.casefold name] := by
  unfold tableName at h
  dsimp only at h
  split at h
  · cases h
  next hempty =>
  split at h
  · cases h
  next hnul =>
  split at h
  · cases h
  next hnew =>
  cases h
  exact ⟨rfl, hempty, hnul, hnew, rfl⟩

theorem columns_of_scanned {header : List HeaderColumn} {data : List (List RawCell)} {s : Scanned}
    (hcolumns : header.map (·.column) = columnsTo header.length)
    (h : DataScanned policy data (afterHeader header) s) :
    List.Forall₂ (ColumnOf policy data) header s.columns := by
  unfold Scanned.columns
  rw [h.header]
  show List.Forall₂ _ header (header.map _)
  rw [List.forall₂_map_right_iff, List.forall₂_same]
  intro head hhead
  have hcolumn : head.column ∈ columnsTo header.length := by
    rw [← hcolumns]
    exact List.mem_map_of_mem hhead
  obtain ⟨kinds, hkinds, htyped⟩ := h.kinds head.column hcolumn
  have hkinds : s.kindsOf head.column = kinds := hkinds
  have hnulls := h.nulls head.column hcolumn
  have hnil : head.column ∉ (afterHeader header).nullColumns := by simp [afterHeader]
  refine ⟨rfl, rfl, ⟨kinds, htyped, by rw [hkinds]⟩, ?_, ?_⟩
  · simp only [decide_eq_true_eq, hnulls, hnil, false_or]
  · rw [decide_eq_true_eq, hkinds, ← List.length_eq_zero_iff, ← htyped.length_eq, List.length_eq_zero_iff,
      List.filterMap_eq_nil_iff]

/-- What is returned with the plan of a sheet. -/
theorem scanSheet_some {worksheet : Worksheet} {facts : SheetXmlFacts} {names : List String}
    {result : SheetResult} {plan : SheetPlan}
    (h : scanSheet t policy worksheet sheetName facts names = .ok result) (hplan : result.plan = some plan) :
    (∃ header, Accepted t policy worksheet facts sheetName plan header) ∧
      result.dataCells = dataCellsOf worksheet facts plan ∧ result.warnings = [] ∧
      t.casefold plan.tableName ∉ names ∧ result.tableNames = names ++ [t.casefold plan.tableName] := by
  unfold scanSheet at h
  dsimp only at h
  split at h
  · cases h
  next hrows =>
  split at h
  · cases h
  next hcolumns =>
  split at h
  · cases h
    cases hplan
  obtain ⟨s, hscan, h⟩ := Infra.bind_ok h
  have hfinish : finishScan t sheetName facts (extent facts.rowExtent worksheet.maxRow) names s = .ok result := by
    revert h
    cases finishScan t sheetName facts (extent facts.rowExtent worksheet.maxRow) names s <;>
      simp [Except.mapError]
  unfold finishScan at hfinish
  split at hfinish
  · cases hfinish
  next hformula =>
  split at hfinish
  · cases hfinish
    cases hplan
  next hcontent =>
  split at hfinish
  · cases hfinish
  next hmerged =>
  split at hfinish
  · cases hfinish
  next hheader =>
  split at hfinish
  · cases hfinish
  next hshape =>
  obtain ⟨⟨name, names'⟩, hname, hfinish⟩ := Infra.bind_ok hfinish
  cases hfinish
  cases hplan
  have hnone : ∀ {α : Type} {x : Option α}, (∀ a, x = some a → False) → x = none := by
    intro α x hx
    cases x with
    | none => rfl
    | some a => exact (hx a rfl).elim
  obtain ⟨first, rest, header, hfirst, hfirstcontent, hheads, -, hdata⟩ :=
    scanRows_first hscan (hnone hformula) (by simpa using hcontent) (hnone hheader) (hnone hshape)
  have hrest : rest = worksheet.iterRows 2 (extent facts.rowExtent worksheet.maxRow)
      (columnExtentOf worksheet facts) := by
    rw [← iterRows_tail, columnExtentOf, hfirst]
    rfl
  rw [hrest] at hdata
  obtain ⟨hnormal, hnonempty, hnul, hnew, rfl⟩ := tableName_ok hname
  refine ⟨⟨header, ?_⟩, ?_, rfl, hnew, rfl⟩
  · exact {
      originalName := rfl
      rowExtent := rfl
      rowLimit := not_lt.mp hrows
      columnLimit := not_lt.mp hcolumns
      merged := by simpa using hmerged
      firstRow := ⟨first, by rw [columnExtentOf, hfirst]; rfl, hfirstcontent, hheads⟩
      columns := columns_of_scanned hheads.columns hdata
      columnExtent := hdata.width
      rowCount := by
        have hrows := hdata.dataRows
        rw [show (afterHeader header).dataRows = 0 from rfl, Nat.zero_add] at hrows
        exact hrows
      within := by
        intro row hrow cell hcell
        have := (hdata.shape (hnone hshape)).2 row hrow cell hcell
        rw [hdata.width]
        exact this
      tableName := hnormal
      nonempty := hnonempty
      noNul := hnul }
  · have hcells := hdata.dataCells
    rw [show (afterHeader header).dataCells = 0 from rfl, Nat.zero_add] at hcells
    exact hcells

/-- The sheet has no cell within its extent. -/
def Blank (worksheet : Worksheet) (facts : SheetXmlFacts) : Prop :=
  ∀ row ∈ worksheet.iterRows 1 (extent facts.rowExtent worksheet.maxRow) (columnExtentOf worksheet facts),
    ¬ HasContent row

theorem scanData_hasContent {rowIndex : Nat} {row : List RawCell} {s s' : Scanned}
    (h : scanData t policy sheetName rowIndex (storedCells row) s = .ok s') :
    s'.hasContent = s.hasContent := by
  unfold scanData at h
  dsimp only at h
  split at h
  · cases h
    rfl
  · rw [(scanColumns_ok List.nodup_range' h).frame]

theorem scanRow_hasContent {rowIndex : Nat} {row : List RawCell} {s s' : Scanned}
    (h : scanRow t policy sheetName rowIndex row s = .ok s') (hsome : HasContent row ∨ s.hasContent = true) :
    s'.hasContent = true := by
  unfold scanRow at h
  dsimp only at h
  split at h
  · next hempty =>
    cases h
    exact hsome.resolve_left fun hcontent => hcontent hempty
  · split at h
    · cases h
      rfl
    · split at h
      · unfold scanHeader at h
        dsimp only at h
        split at h <;> cases h <;> rfl
      · cases hdata : scanData t policy sheetName rowIndex (storedCells row) { s with hasContent := true } with
        | error e =>
          rw [hdata] at h
          cases h
        | ok s₁ =>
          rw [hdata] at h
          cases h
          exact scanData_hasContent hdata

theorem scanRows_blank {rows : List (List RawCell)} {rowIndex : Nat} {s s' : Scanned}
    (h : scanRows t policy sheetName rowIndex rows s = .ok s') (hformula : s'.formula = none)
    (hblank : s'.hasContent = false) : s.hasContent = false ∧ ∀ row ∈ rows, ¬ HasContent row := by
  induction rows generalizing rowIndex s with
  | nil =>
    cases h
    exact ⟨hblank, nofun⟩
  | cons row rows ih =>
    obtain ⟨s₁, hrow, hrest⟩ := Infra.bind_ok h
    split at hrest
    · next hsome =>
      cases hrest
      simp [hformula] at hsome
    · obtain ⟨hbefore, hrows⟩ := ih hrest
      have hnot : ¬ (HasContent row ∨ s.hasContent = true) := fun hsome => by
        rw [scanRow_hasContent hrow hsome] at hbefore
        cases hbefore
      obtain ⟨hrowblank, hs⟩ := not_or.mp hnot
      exact ⟨by simpa using hs, List.forall_mem_cons.mpr ⟨hrowblank, hrows⟩⟩

theorem not_hasContent_nil : ¬ HasContent [] := fun h => h rfl

/-- What is returned without a plan. -/
theorem scanSheet_none {worksheet : Worksheet} {facts : SheetXmlFacts} {names : List String}
    {result : SheetResult} (h : scanSheet t policy worksheet sheetName facts names = .ok result)
    (hplan : result.plan = none) :
    Blank worksheet facts ∧ result.warnings = [skippedEmpty sheetName] ∧ result.tableNames = names := by
  unfold scanSheet at h
  dsimp only at h
  split at h
  · cases h
  split at h
  · cases h
  split at h
  · next hempty =>
    cases h
    refine ⟨fun row hrow => ?_, rfl, rfl⟩
    rcases hempty with hrows | hcolumns
    · simp [hrows, Worksheet.iterRows] at hrow
    · simp only [columnExtentOf, hcolumns, Worksheet.iterRows, List.range_zero, List.map_nil,
        List.mem_map] at hrow
      obtain ⟨_, -, rfl⟩ := hrow
      exact not_hasContent_nil
  obtain ⟨s, hscan, h⟩ := Infra.bind_ok h
  have hfinish : finishScan t sheetName facts (extent facts.rowExtent worksheet.maxRow) names s = .ok result := by
    revert h
    cases finishScan t sheetName facts (extent facts.rowExtent worksheet.maxRow) names s <;>
      simp [Except.mapError]
  unfold finishScan at hfinish
  split at hfinish
  · cases hfinish
  next hformula =>
  split at hfinish
  · next hcontent =>
    cases hfinish
    have hnone : s.formula = none := by
      cases hsome : s.formula with
      | none => rfl
      | some a => exact (hformula a hsome).elim
    exact ⟨(scanRows_blank hscan hnone hcontent).2, rfl, rfl⟩
  split at hfinish
  · cases hfinish
  split at hfinish
  · cases hfinish
  split at hfinish
  · cases hfinish
  obtain ⟨_, -, hfinish⟩ := Infra.bind_ok hfinish
  cases hfinish
  cases hplan

theorem validateSheet_ok {worksheet : Worksheet} {facts : SheetXmlFacts} {names : List String}
    {result : SheetResult} (h : validateSheet t policy worksheet sheetName facts names = .ok result) :
    scanSheet t policy worksheet sheetName facts names = .ok result := by
  unfold validateSheet at h
  split at h
  · next hscan =>
    cases h
    exact hscan
  · cases h
  · cases h

/-! ## The workbook -/

/-- The sheet is imported as this plan. -/
def Imported (t : Texts) (policy : ExcelIngestionPolicy) (facts : String → SheetXmlFacts) (plan : SheetPlan)
    (sheet : String × Worksheet) : Prop :=
  sheet.2.sheetState = "visible" ∧
    ∃ header, Accepted t policy sheet.2 (facts sheet.1) sheet.1 plan header

/-- The sheet is left out, and a warning says so: it is not visible, or it is blank. -/
def Skipped (facts : String → SheetXmlFacts) (warnings : List String) (sheet : String × Worksheet) : Prop :=
  (sheet.2.sheetState ≠ "visible" ∧
      "跳过非可见工作表“" ++ sheet.1 ++ "”（state=" ++ sheet.2.sheetState ++ "）" ∈ warnings) ∨
    Blank sheet.2 (facts sheet.1) ∧ skippedEmpty sheet.1 ∈ warnings

theorem Skipped.mono {facts : String → SheetXmlFacts} {warnings more : List String}
    {sheet : String × Worksheet} (h : Skipped facts warnings sheet) : Skipped facts (warnings ++ more) sheet := by
  rcases h with ⟨hstate, hwarning⟩ | ⟨hblank, hwarning⟩
  · exact .inl ⟨hstate, List.mem_append_left _ hwarning⟩
  · exact .inr ⟨hblank, List.mem_append_left _ hwarning⟩

/-- What the loop has done with these sheets. -/
structure WorkbookScanned (t : Texts) (policy : ExcelIngestionPolicy) (facts : String → SheetXmlFacts)
    (sheets : List (String × Worksheet)) (v : Validated) : Prop where
  imported : ∃ kept : List (String × Worksheet), kept.Sublist sheets ∧
    List.Forall₂ (Imported t policy facts) v.sheets kept ∧
    (∀ sheet ∈ sheets, sheet ∈ kept ∨ Skipped facts v.warnings sheet) ∧
    v.dataCells = ((v.sheets.zip kept).map fun item =>
      dataCellsOf item.2.2 (facts item.2.1) item.1).sum
  tableNames : v.tableNames = v.sheets.map fun plan => t.casefold plan.tableName
  distinct : v.tableNames.Nodup
  cells : v.dataCells ≤ policy.maxTotalDataCells

theorem WorkbookScanned.next {facts : String → SheetXmlFacts} {sheets : List (String × Worksheet)}
    {sheet : String × Worksheet} {v v' : Validated} (hv : WorkbookScanned t policy facts sheets v)
    (h : validateNext t policy facts v sheet = .ok v') :
    WorkbookScanned t policy facts (sheets ++ [sheet]) v' := by
  obtain ⟨kept, hsub, hkept, hall, hcells⟩ := hv.imported
  unfold validateNext at h
  split at h
  · next hstate =>
    cases h
    refine ⟨⟨kept, hsub.trans (List.sublist_append_left _ _), hkept, fun other hother => ?_, hcells⟩,
      hv.tableNames, hv.distinct, hv.cells⟩
    rcases List.mem_append.mp hother with hother | hother
    · exact (hall other hother).imp_right Skipped.mono
    · rw [List.mem_singleton.mp hother]
      exact .inr (.inl ⟨hstate, List.mem_append_right _ List.mem_cons_self⟩)
  next hvisible =>
  obtain ⟨result, hresult, h⟩ := Infra.bind_ok h
  have hscan := validateSheet_ok hresult
  dsimp only at h
  split at h
  · next hplan =>
    cases h
    obtain ⟨hblank, hwarnings, hnames⟩ := scanSheet_none hscan hplan
    refine ⟨⟨kept, hsub.trans (List.sublist_append_left _ _), hkept, fun other hother => ?_, hcells⟩, ?_, ?_,
      hv.cells⟩
    · rcases List.mem_append.mp hother with hother | hother
      · exact (hall other hother).imp_right Skipped.mono
      · rw [List.mem_singleton.mp hother]
        refine .inr (.inr ⟨hblank, List.mem_append_right _ ?_⟩)
        rw [hwarnings]
        exact List.mem_cons_self
    · exact hnames.trans hv.tableNames
    · show result.tableNames.Nodup
      rw [hnames]
      exact hv.distinct
  next plan hplan =>
  split at h
  · cases h
  next hlimit =>
  cases h
  obtain ⟨haccepted, hcount, hwarnings, hnew, hnames⟩ := scanSheet_some hscan hplan
  refine ⟨⟨kept ++ [sheet], hsub.append (List.Sublist.refl _), ?_, fun other hother => ?_, ?_⟩, ?_, ?_,
    not_lt.mp hlimit⟩
  · exact List.rel_append hkept (.cons ⟨not_not.mp hvisible, haccepted⟩ .nil)
  · rcases List.mem_append.mp hother with hother | hother
    · exact (hall other hother).imp (List.mem_append_left _) Skipped.mono
    · exact .inl (List.mem_append_right _ hother)
  · rw [List.zip_append hkept.length_eq]
    simp [hcells, hcount]
  · show result.tableNames = _
    rw [hnames, hv.tableNames, List.map_append]
    rfl
  · show result.tableNames.Nodup
    rw [hnames]
    exact List.nodup_append.mpr ⟨hv.distinct, List.nodup_singleton _, by
      intro a ha b hb heq
      rw [List.mem_singleton.mp hb] at heq
      exact hnew (by rwa [heq] at ha)⟩

theorem workbookScanned {facts : String → SheetXmlFacts} {sheets : List (String × Worksheet)} {v : Validated}
    (h : sheets.foldlM (validateNext t policy facts) {} = .ok v) : WorkbookScanned t policy facts sheets v := by
  induction sheets using List.reverseRecOn generalizing v with
  | nil =>
    cases h
    exact ⟨⟨[], .slnil, .nil, nofun, rfl⟩, rfl, List.nodup_nil, Nat.zero_le _⟩
  | append_singleton sheets sheet ih =>
    rw [List.foldlM_append] at h
    obtain ⟨v₁, hfirst, hlast⟩ := Infra.bind_ok h
    have hnext : validateNext t policy facts v₁ sheet = .ok v := by
      simpa [List.foldlM] using hlast
    exact (ih hfirst).next hnext

theorem validateWorkbook_ok {workbook : Workbook} {facts : String → SheetXmlFacts} {plan : WorkbookPlan}
    (h : validateWorkbook t policy workbook facts = .ok plan) :
    plan.workbook = workbook ∧ plan.sheets ≠ [] ∧
      (workbook.named.filter fun sheet => sheet.2.sheetState = "visible").length ≤ policy.maxVisibleSheets ∧
      ∃ v, v.sheets = plan.sheets ∧ v.warnings = plan.warnings ∧
        WorkbookScanned t policy facts workbook.named v := by
  unfold validateWorkbook at h
  dsimp only at h
  split at h
  · cases h
  next hvisible =>
  obtain ⟨v, hscan, h⟩ := Infra.bind_ok h
  split at h
  · cases h
  next hsome =>
  cases h
  exact ⟨rfl, hsome, not_lt.mp hvisible, v, rfl, rfl, workbookScanned hscan⟩

/-! ## Names and limits -/

/-- The plan of a table that SQLite can hold. -/
structure WellFormedTable (t : Texts) (policy : ExcelIngestionPolicy) (sheet : SheetPlan) : Prop where
  tableName : sheet.tableName ≠ "" ∧ '\x00' ∉ sheet.tableName.toList
  columnNames : ∀ column ∈ sheet.columns, column.columnName ≠ "" ∧ '\x00' ∉ column.columnName.toList ∧
    column.columnName.length ≤ policy.maxColumnNameLength
  distinct : (sheet.columns.map fun column => t.casefold column.columnName).Nodup
  someColumn : sheet.columns ≠ []
  columns : sheet.columns.length ≤ policy.maxColumnsPerSheet
  rows : sheet.rowCount < sheet.rowExtent ∧ sheet.rowExtent ≤ policy.maxRowsPerSheet

theorem length_of_mem_iterRows {worksheet : Worksheet} {minRow maxRow maxCol : Nat} {row : List RawCell}
    (h : row ∈ worksheet.iterRows minRow maxRow maxCol) : row.length = maxCol := by
  obtain ⟨_, -, rfl⟩ := List.mem_map.mp h
  simp

theorem le_length_of_cellAt {row : List RawCell} {column : Nat} {cell : StoredCell}
    (h : cellAt row column = some cell) : 0 < column ∧ column ≤ row.length := by
  obtain ⟨hmem, rfl⟩ := cellAt_mem h
  obtain ⟨i, raw, hget, hcell⟩ := mem_storedCells.mp hmem
  have hlt := (List.getElem?_eq_some_iff.mp hget).1
  rw [storedCell_column hcell]
  omega

/-- The last column of a header has a cell, so that it is within the row. -/
theorem Header.length_le {row : List RawCell} {header : List HeaderColumn} (h : Header t policy row header) :
    header.length ≤ row.length := by
  rcases Nat.eq_zero_or_pos header.length with hzero | hpos
  · omega
  have hmem : header.length ∈ header.map (·.column) := by
    rw [h.columns, mem_columnsTo]
    omega
  obtain ⟨column, hcolumn, heq⟩ := List.mem_map.mp hmem
  obtain ⟨cell, hcell, -⟩ := h.each column hcolumn
  rw [← heq]
  exact (le_length_of_cellAt hcell).2

/-- What the columns of the plan share with those of the header. -/
theorem forall₂_map_eq {α β γ : Type} {R : α → β → Prop} {f : α → γ} {g : β → γ} {as : List α} {bs : List β}
    (h : List.Forall₂ R as bs) (heq : ∀ a b, R a b → f a = g b) : as.map f = bs.map g := by
  induction h with
  | nil => rfl
  | cons hab _ ih => rw [List.map_cons, List.map_cons, heq _ _ hab, ih]

theorem Accepted.wellFormed {worksheet : Worksheet} {facts : SheetXmlFacts} {plan : SheetPlan}
    {header : List HeaderColumn} (h : Accepted t policy worksheet facts sheetName plan header) :
    WellFormedTable t policy plan := by
  obtain ⟨first, hfirst, hcontent, hheader⟩ := h.firstRow
  have hmem := List.mem_of_head? hfirst
  have hlength := length_of_mem_iterRows hmem
  have hcolumns := h.columns.length_eq
  have hsome : 0 < header.length := by
    obtain ⟨cell, hcell⟩ := List.exists_mem_of_ne_nil _ hcontent
    have hle := hheader.all cell hcell
    have hpos := (le_length_of_cellAt (cellAt_of_mem hcell)).1
    omega
  have hlast : header.length ≤ columnExtentOf worksheet facts := hlength ▸ hheader.length_le
  refine ⟨⟨h.nonempty, h.noNul⟩, fun column hcolumn => ?_, ?_, ?_, ?_, ?_, h.rowLimit⟩
  · obtain ⟨head, hhead, hof⟩ := Infra.exists_of_forall₂ h.columns.flip hcolumn
    obtain ⟨cell, -, his⟩ := hheader.each head hhead
    rw [hof.columnName]
    exact ⟨his.nonempty, his.noNul, his.short⟩
  · have hkeys : header.map (fun column => t.casefold column.name) =
        plan.columns.map fun column => t.casefold column.columnName :=
      forall₂_map_eq h.columns fun head column hof => by rw [hof.columnName]
    rw [← hkeys]
    exact hheader.distinct
  · intro hnil
    rw [hnil] at hcolumns
    simp only [List.length_nil] at hcolumns
    omega
  · have := h.columnLimit
    omega
  · have hdata : plan.rowCount ≤ (worksheet.iterRows 2 plan.rowExtent (columnExtentOf worksheet facts)).length := by
      rw [h.rowCount]
      exact List.length_filter_le _ _
    have hrows : (worksheet.iterRows 1 plan.rowExtent (columnExtentOf worksheet facts)).length ≠ 0 := by
      intro hzero
      rw [List.length_eq_zero_iff] at hzero
      rw [hzero] at hmem
      cases hmem
    simp only [Worksheet.iterRows, List.length_map, List.length_drop, List.length_take] at hdata hrows
    omega

/-- **The plan of a validated workbook is one of a database.** Its tables, and the columns of each of them, have
names that are not empty, have no NUL, and differ even where case is ignored; and everything is within the
limits of the policy. -/
theorem validated_wellFormed {workbook : Workbook} {facts : String → SheetXmlFacts} {plan : WorkbookPlan}
    (h : validateWorkbook t policy workbook facts = .ok plan) :
    plan.sheets ≠ [] ∧ plan.sheets.length ≤ policy.maxVisibleSheets ∧
      (plan.sheets.map fun sheet => t.casefold sheet.tableName).Nodup ∧
      ∀ sheet ∈ plan.sheets, WellFormedTable t policy sheet := by
  obtain ⟨-, hsome, hvisible, v, hsheets, -, hv⟩ := validateWorkbook_ok h
  obtain ⟨kept, hsub, hkept, -, -⟩ := hv.imported
  rw [hsheets] at hkept
  refine ⟨hsome, ?_, ?_, fun sheet hsheet => ?_⟩
  · have hfilter : kept.Sublist (workbook.named.filter fun sheet => sheet.2.sheetState = "visible") := by
      have hall : kept.filter (fun sheet => decide (sheet.2.sheetState = "visible")) = kept := by
        refine List.filter_eq_self.mpr fun sheet hsheet => ?_
        obtain ⟨_, -, himported⟩ := Infra.exists_of_forall₂ hkept.flip hsheet
        simpa using himported.1
      rw [← hall]
      exact hsub.filter _
    rw [hkept.length_eq]
    exact hfilter.length_le.trans hvisible
  · rw [← hsheets, ← hv.tableNames]
    exact hv.distinct
  · obtain ⟨source, -, himported⟩ := Infra.exists_of_forall₂ hkept hsheet
    obtain ⟨header, haccepted⟩ := himported.2
    exact haccepted.wellFormed

/-! ## The rows that are read again -/

/-- A worksheet row with this many cells. -/
def padded (width : Nat) (row : List RawCell) : List RawCell := (List.range width).map fun i => row.getD i {}

theorem padded_getElem? (width : Nat) (row : List RawCell) (i : Nat) :
    (padded width row)[i]? = if i < width then some (row.getD i {}) else none := by
  unfold padded
  by_cases h : i < width <;> simp [h]

theorem cellAt_padded (width : Nat) (row : List RawCell) (i : Nat) :
    cellAt (padded width row) (i + 1) = if i < width then storedCell (row.getD i {}) (i + 1) else none := by
  rw [cellAt_eq, padded_getElem?]
  split <;> rfl

/-- The numbers of the row are not too large for the columns. -/
def RowFits (t : Texts) (columns : List ColumnPlan) (row : List RawCell) : Prop :=
  ∀ i column cell, columns[i]? = some column → cellAt row (i + 1) = some cell →
    Fits t.toCellTexts column.inferredType cell.value

/-- The value stands for the cell: NULL for an empty one, and for another its value. -/
def Reads (t : Texts) (policy : ExcelIngestionPolicy) (type : ColumnType) (cell : Option StoredCell)
    (value : SqlValue) : Prop :=
  match cell with
  | none => value = .null
  | some cell => value ≠ .null ∧ ∃ kind read, Typed policy cell kind ∧
      readValue t.toCellTexts kind type value = some read ∧ Denotes read cell.value

/-- The values are those of the row, one for each column. -/
def RowReads (t : Texts) (policy : ExcelIngestionPolicy) (columns : List ColumnPlan) (row : List RawCell)
    (values : List SqlValue) : Prop :=
  values.length = columns.length ∧ ∀ i column, columns[i]? = some column →
    ∃ value, values[i]? = some value ∧ Reads t policy column.inferredType (cellAt row (i + 1)) value

/-- Each cell of the row is of a kind that its column holds. -/
def RowTyped (policy : ExcelIngestionPolicy) (columns : List ColumnPlan) (row : List RawCell) : Prop :=
  ∀ i column cell, columns[i]? = some column → cellAt row (i + 1) = some cell →
    ∃ kind asked, Typed policy cell kind ∧ kindType kind = some asked ∧ asked ≤ column.inferredType

section Rows

variable {columns : List ColumnPlan} {width : Nat} {row : List RawCell}

/-- The value of one cell of the row. -/
theorem cellValue_spec (hfloat : t.Faithful) (hwidth : columns.length ≤ width)
    (htyped : RowTyped policy columns (padded width row)) {i : Nat} {column : ColumnPlan}
    (hcolumn : columns[i]? = some column) :
    ((∃ value, cellValue t columns (row.getD i {}) i = .ok value) ↔
        ∀ cell, cellAt (padded width row) (i + 1) = some cell →
          Fits t.toCellTexts column.inferredType cell.value) ∧
      ∀ value, cellValue t columns (row.getD i {}) i = .ok value →
        Reads t policy column.inferredType (cellAt (padded width row) (i + 1)) value := by
  have hi : i < width := (List.getElem?_eq_some_iff.mp hcolumn).1.trans_le hwidth
  have htyped := htyped i column
  unfold cellValue
  rw [cellAt_padded, if_pos hi] at htyped ⊢
  rw [hcolumn]
  generalize row.getD i {} = raw at htyped ⊢
  unfold storedCell at htyped ⊢
  cases hvalue : raw.value with
  | none =>
    refine ⟨iff_of_true ⟨.null, rfl⟩ (by simp), fun value h => ?_⟩
    cases h
    rfl
  | some stored =>
    rw [hvalue] at htyped
    obtain ⟨kind, asked, hkind, hasked, hle⟩ := htyped _ hcolumn rfl
    have hspec := coerceValue_faithful hfloat hkind.classified hasked hle
    refine ⟨?_, fun value h => ?_⟩
    · simpa [coerceCell] using hspec.1
    · obtain ⟨hne, read, hread, hdenotes⟩ := hspec.2 value h
      exact ⟨hne, kind, read, hkind, hread, hdenotes⟩

theorem mem_zipIdx_padded {n : Nat} {item : RawCell × Nat} :
    item ∈ (padded n row).zipIdx ↔ item.2 < n ∧ item.1 = row.getD item.2 {} := by
  rw [List.mem_zipIdx_iff_getElem?, padded_getElem?]
  split
  · next h => simp [h, eq_comm]
  · next h => simp [h]

/-- The values of one row. -/
theorem rowValues_spec (hfloat : t.Faithful) (hwidth : columns.length ≤ width)
    (htyped : RowTyped policy columns (padded width row)) :
    ((∃ values, rowValues t columns (padded columns.length row) = .ok values) ↔
        RowFits t columns (padded width row)) ∧
      ∀ values, rowValues t columns (padded columns.length row) = .ok values →
        RowReads t policy columns (padded width row) values := by
  unfold rowValues
  rw [Infra.exists_mapM_ok]
  refine ⟨⟨fun h i column cell hcolumn hat => ?_, fun h item hitem => ?_⟩, fun values h => ?_⟩
  · have hi := (List.getElem?_eq_some_iff.mp hcolumn).1
    exact (cellValue_spec hfloat hwidth htyped hcolumn).1.mp
      (h (row.getD i {}, i) (mem_zipIdx_padded.mpr ⟨hi, rfl⟩)) cell hat
  · obtain ⟨hi, heq⟩ := mem_zipIdx_padded.mp hitem
    have hcolumn := List.getElem?_eq_getElem hi
    rw [heq]
    exact (cellValue_spec hfloat hwidth htyped hcolumn).1.mpr fun cell hat => h _ _ cell hcolumn hat
  · have hall := Infra.forall₂_of_mapM h
    have hlength : columns.length = values.length := by
      have := hall.length_eq
      simpa [padded] using this
    refine ⟨hlength.symm, fun i column hcolumn => ?_⟩
    have hi := (List.getElem?_eq_some_iff.mp hcolumn).1
    have hitem : i < (padded columns.length row).zipIdx.length := by simpa [padded] using hi
    have hvalue := hall.get hitem (hlength ▸ hi)
    simp only [List.get_eq_getElem, List.getElem_zipIdx, padded, List.getElem_map, List.getElem_range,
      Nat.zero_add] at hvalue
    exact ⟨_, List.getElem?_eq_getElem (hlength ▸ hi), (cellValue_spec hfloat hwidth htyped hcolumn).2 _ hvalue⟩

/-- A row is skipped when it is read again just where it was skipped when it was counted. -/
theorem allNull_iff
    (hwithin : ∀ cell ∈ storedCells (padded width row), cell.column ≤ columns.length) {values : List SqlValue}
    (hreads : RowReads t policy columns (padded width row) values) :
    values.all (· = .null) = true ↔ ¬ HasContent (padded width row) := by
  rw [List.all_eq_true]
  constructor
  · intro hnull hcontent
    obtain ⟨cell, hcell⟩ := List.exists_mem_of_ne_nil _ hcontent
    have hat := cellAt_of_mem hcell
    have hpos := (le_length_of_cellAt hat).1
    obtain ⟨i, hi⟩ : ∃ i, cell.column = i + 1 := ⟨cell.column - 1, by omega⟩
    have hlt : i < columns.length := by
      have := hwithin cell hcell
      omega
    obtain ⟨value, hvalue, hread⟩ := hreads.2 i _ (List.getElem?_eq_getElem hlt)
    rw [← hi, hat] at hread
    exact hread.1 (by simpa using hnull value (List.mem_of_getElem? hvalue))
  · intro hblank value hmem
    obtain ⟨i, hi, rfl⟩ := List.getElem_of_mem hmem
    have hcolumn := List.getElem?_eq_getElem (hreads.1 ▸ hi)
    obtain ⟨value, hvalue, hread⟩ := hreads.2 i _ hcolumn
    have hnone : cellAt (padded width row) (i + 1) = none := by
      have hempty : storedCells (padded width row) = [] := not_not.mp hblank
      simp [cellAt, hempty]
    rw [hnone] at hread
    rw [List.getElem?_eq_getElem hi, Option.some.injEq] at hvalue
    rw [hvalue, decide_eq_true_eq]
    exact hread

/-- The rows that are read again. -/
theorem streamRows_spec (hfloat : t.Faithful) (hwidth : columns.length ≤ width) {rows : List (List RawCell)}
    (htyped : ∀ row ∈ rows, RowTyped policy columns (padded width row))
    (hwithin : ∀ row ∈ rows, ∀ cell ∈ storedCells (padded width row), cell.column ≤ columns.length) :
    ((streamRows t columns (rows.map (padded columns.length))).raised = none ↔
        ∀ row ∈ (rows.map (padded width)).filter (fun row => HasContent row), RowFits t columns row) ∧
      ((streamRows t columns (rows.map (padded columns.length))).raised = none →
        List.Forall₂ (RowReads t policy columns) ((rows.map (padded width)).filter fun row => HasContent row)
          (streamRows t columns (rows.map (padded columns.length))).rows) := by
  induction rows with
  | nil => exact ⟨iff_of_true rfl nofun, fun _ => .nil⟩
  | cons row rows ih =>
    obtain ⟨hfit, hread⟩ := rowValues_spec hfloat hwidth (htyped row List.mem_cons_self)
    have ih := ih (fun row hrow => htyped row (List.mem_cons_of_mem _ hrow))
      fun row hrow => hwithin row (List.mem_cons_of_mem _ hrow)
    rw [List.map_cons, List.map_cons, streamRows]
    cases hvalues : rowValues t columns (padded columns.length row) with
    | error e =>
      -- What cannot be written is a cell.
      have hnot : ¬ RowFits t columns (padded width row) := fun h => by
        obtain ⟨values, hok⟩ := hfit.mpr h
        rw [hok] at hvalues
        cases hvalues
      have hcontent : HasContent (padded width row) := by
        by_contra hblank
        refine hnot fun i column cell _ hat => ?_
        exact absurd (cellAt_mem hat).1 (by rw [not_not.mp hblank]; exact List.not_mem_nil)
      rw [List.filter_cons_of_pos (by simpa using hcontent)]
      exact ⟨iff_of_false nofun fun h => hnot (h _ List.mem_cons_self), nofun⟩
    | ok values =>
      have hreads := hread values hvalues
      have hfits := hfit.mp ⟨values, hvalues⟩
      have hskip := allNull_iff (hwithin row List.mem_cons_self) hreads
      dsimp only
      split
      · next hnull =>
        rw [List.filter_cons_of_neg (by simpa using hskip.mp hnull)]
        exact ih
      · next hnull =>
        have hcontent : HasContent (padded width row) := not_not.mp (mt hskip.mpr hnull)
        rw [List.filter_cons_of_pos (by simpa using hcontent)]
        exact ⟨by rw [List.forall_mem_cons, ← ih.1]; exact ⟨fun h => ⟨hfits, h⟩, fun h => h.2⟩,
          fun h => .cons hreads (ih.2 h)⟩

end Rows

/-! ## The two readings agree -/

/-- What is said of a column of the plan, from the rows of data. -/
structure ColumnAgrees (policy : ExcelIngestionPolicy) (data : List (List RawCell)) (i : Nat)
    (column : ColumnPlan) : Prop where
  inferredType : ∃ kinds, List.Forall₂ (Typed policy) (data.filterMap fun row => cellAt row (i + 1)) kinds ∧
    column.inferredType = inferColumnType kinds
  nullable : column.nullable = true ↔ ∃ row ∈ data, cellAt row (i + 1) = none
  allNull : column.allNull = true ↔ ∀ row ∈ data, cellAt row (i + 1) = none

/-- The plan of a sheet, and the rows that are streamed by it, are those of the sheet. -/
structure Agreement (t : Texts) (policy : ExcelIngestionPolicy) (facts : SheetXmlFacts) (plan : WorkbookPlan)
    (sheet : SheetPlan) (source : String × Worksheet) : Prop where
  visible : source.2.sheetState = "visible"
  name : sheet.originalName = source.1
  rowExtent : sheet.rowExtent = extent facts.rowExtent source.2.maxRow
  rowCount : sheet.rowCount = (dataOf source.2 facts sheet).length
  /-- No cell of data stands beyond the columns. -/
  within : ∀ row ∈ dataOf source.2 facts sheet, ∀ cell ∈ storedCells row, cell.column ≤ sheet.columns.length
  columns : ∀ i column, sheet.columns[i]? = some column → ColumnAgrees policy (dataOf source.2 facts sheet) i column
  /-- The stream ends without an error just when the numbers fit. -/
  streamed : (iterTableRows t plan sheet).raised = none ↔
    ∀ row ∈ dataOf source.2 facts sheet, RowFits t sheet.columns row
  rows : (iterTableRows t plan sheet).raised = none →
    List.Forall₂ (RowReads t policy sheet.columns) (dataOf source.2 facts sheet) (iterTableRows t plan sheet).rows

theorem ColumnAgrees.typed {data : List (List RawCell)} {i : Nat} {column : ColumnPlan}
    (h : ColumnAgrees policy data i column) {row : List RawCell} (hrow : row ∈ data) {cell : StoredCell}
    (hcell : cellAt row (i + 1) = some cell) :
    ∃ kind asked, Typed policy cell kind ∧ kindType kind = some asked ∧ asked ≤ column.inferredType := by
  obtain ⟨kinds, htyped, htype⟩ := h.inferredType
  obtain ⟨kind, hkind, hof⟩ := Infra.exists_of_forall₂ htyped (List.mem_filterMap.mpr ⟨row, hrow, hcell⟩)
  obtain ⟨asked, hasked⟩ := kindType_of_classify hof.classified
  exact ⟨kind, asked, hof, hasked, htype ▸ le_inferColumnType hkind hasked⟩

theorem Accepted.columnAgrees {worksheet : Worksheet} {facts : SheetXmlFacts} {plan : SheetPlan}
    {header : List HeaderColumn} (h : Accepted t policy worksheet facts sheetName plan header) {i : Nat}
    {column : ColumnPlan} (hcolumn : plan.columns[i]? = some column) :
    ColumnAgrees policy (dataOf worksheet facts plan) i column := by
  obtain ⟨first, -, -, hheader⟩ := h.firstRow
  obtain ⟨hi, rfl⟩ := List.getElem?_eq_some_iff.mp hcolumn
  have hi' : i < header.length := h.columns.length_eq ▸ hi
  have hof := h.columns.get hi' hi
  -- The columns of a header are numbered from one.
  have hposition : (header.get ⟨i, hi'⟩).column = i + 1 := by
    have hget : (header.map (·.column))[i]? = some (i + 1) := by
      rw [hheader.columns, columnsTo, List.getElem?_range' hi']
      simp [Nat.add_comm]
    rw [List.getElem?_map, List.getElem?_eq_getElem hi'] at hget
    exact Option.some.inj hget
  have htyped := hof.typed
  have hnullable := hof.nullable
  have hallNull := hof.allNull
  rw [hposition] at htyped hnullable hallNull
  exact ⟨htyped, hnullable, hallNull⟩

theorem dataOf_eq (worksheet : Worksheet) (facts : SheetXmlFacts) (plan : SheetPlan) :
    dataOf worksheet facts plan =
      (((worksheet.rows.take plan.rowExtent).drop 1).map (padded (columnExtentOf worksheet facts))).filter
        fun row => HasContent row := rfl

theorem Accepted.agreement (hfloat : t.Faithful) {plan : WorkbookPlan} {source : String × Worksheet}
    (hsource : plan.workbook.get? source.1 = some source.2) {facts : SheetXmlFacts} {sheet : SheetPlan}
    {header : List HeaderColumn} (hvisible : source.2.sheetState = "visible")
    (h : Accepted t policy source.2 facts source.1 sheet header) :
    Agreement t policy facts plan sheet source := by
  have hlength : sheet.columnExtent = sheet.columns.length := by
    rw [h.columnExtent, h.columns.length_eq]
  have hstream : iterTableRows t plan sheet =
      streamRows t sheet.columns (((source.2.rows.take sheet.rowExtent).drop 1).map (padded sheet.columns.length)) := by
    unfold iterTableRows
    rw [h.originalName, hsource, hlength]
    rfl
  have hwidth : sheet.columns.length ≤ columnExtentOf source.2 facts := by
    obtain ⟨first, hfirst, -, hheader⟩ := h.firstRow
    rw [← h.columns.length_eq, ← length_of_mem_iterRows (List.mem_of_head? hfirst)]
    exact hheader.length_le
  -- A row without content has no cells, so only the rows of data matter.
  have hdata : ∀ row ∈ (source.2.rows.take sheet.rowExtent).drop 1, ∀ cell,
      cell ∈ storedCells (padded (columnExtentOf source.2 facts) row) →
      padded (columnExtentOf source.2 facts) row ∈ dataOf source.2 facts sheet := by
    intro row hrow cell hcell
    rw [dataOf_eq]
    exact List.mem_filter.mpr ⟨List.mem_map_of_mem hrow, decide_eq_true (show HasContent _ from List.ne_nil_of_mem hcell)⟩
  have hspec := @streamRows_spec t policy _ _ hfloat hwidth ((source.2.rows.take sheet.rowExtent).drop 1)
    (fun row hrow i column cell hcolumn hcell =>
      (h.columnAgrees hcolumn).typed (hdata row hrow cell (cellAt_mem hcell).1) hcell)
    fun row hrow cell hcell => hlength ▸ h.within _ (hdata row hrow cell hcell) cell hcell
  rw [← hstream, ← dataOf_eq] at hspec
  exact {
    visible := hvisible
    name := h.originalName
    rowExtent := h.rowExtent
    rowCount := h.rowCount
    within := fun row hrow cell hcell => hlength ▸ h.within row hrow cell hcell
    columns := fun i column hcolumn => h.columnAgrees hcolumn
    streamed := hspec.1
    rows := hspec.2 }

theorem get?_of_mem_named {workbook : Workbook} {source : String × Worksheet} (h : source ∈ workbook.named) :
    workbook.get? source.1 = some source.2 := by
  obtain ⟨name, -, hname⟩ := List.mem_filterMap.mp h
  obtain ⟨worksheet, hget, rfl⟩ := Option.map_eq_some_iff.mp hname
  exact hget

/-- The tables of the plan, and the sheets that they come from. -/
theorem validated_sheets (hfloat : t.Faithful) {workbook : Workbook} {facts : String → SheetXmlFacts}
    {plan : WorkbookPlan} (h : validateWorkbook t policy workbook facts = .ok plan) :
    ∃ kept : List (String × Worksheet), kept.Sublist workbook.named ∧
      List.Forall₂ (fun sheet source => Agreement t policy (facts source.1) plan sheet source ∧
        WellFormedTable t policy sheet) plan.sheets kept ∧
      (∀ source ∈ workbook.named, source ∈ kept ∨ Skipped facts plan.warnings source) ∧
      ((plan.sheets.zip kept).map fun item => dataCellsOf item.2.2 (facts item.2.1) item.1).sum ≤
        policy.maxTotalDataCells ∧
      (plan.sheets.map fun sheet => t.casefold sheet.tableName).Nodup := by
  obtain ⟨hworkbook, -, -, v, hsheets, hwarnings, hv⟩ := validateWorkbook_ok h
  obtain ⟨kept, hsub, hkept, hall, hcells⟩ := hv.imported
  have hdistinct := hv.distinct
  rw [hv.tableNames, hsheets] at hdistinct
  rw [hsheets] at hkept hcells
  rw [hwarnings] at hall
  refine ⟨kept, hsub, ?_, hall, hcells ▸ hv.cells, hdistinct⟩
  have hnamed : ∀ source ∈ kept, source ∈ workbook.named := fun source hsource => hsub.subset hsource
  refine ((List.forall₂_and_left _ _).mpr ⟨hnamed, hkept.flip⟩).flip.imp ?_
  rintro sheet source ⟨hsource, hvisible, header, haccepted⟩
  exact ⟨haccepted.agreement hfloat (hworkbook ▸ get?_of_mem_named hsource) hvisible, haccepted.wellFormed⟩

/-- **The two readings of a workbook agree.** The tables of the plan are sheets of the workbook, in their order,
and every other sheet is left out with a warning: it is not visible, or it is blank. What is said of a table
is so of the rows of data of its sheet, and the rows that are streamed are these, value by value, with NULL just
for the empty cells; the stream fails just when a number does not fit its column. -/
theorem validated_agrees (hfloat : t.Faithful) {workbook : Workbook} {facts : String → SheetXmlFacts}
    {plan : WorkbookPlan} (h : validateWorkbook t policy workbook facts = .ok plan) :
    ∃ kept : List (String × Worksheet), kept.Sublist workbook.named ∧
      List.Forall₂ (fun sheet source => Agreement t policy (facts source.1) plan sheet source) plan.sheets kept ∧
      (∀ source ∈ workbook.named, source ∈ kept ∨ Skipped facts plan.warnings source) ∧
      ((plan.sheets.zip kept).map fun item => dataCellsOf item.2.2 (facts item.2.1) item.1).sum ≤
        policy.maxTotalDataCells := by
  obtain ⟨kept, hsub, hkept, hall, hcells, -⟩ := validated_sheets hfloat h
  exact ⟨kept, hsub, hkept.imp fun _ _ hsheet => hsheet.1, hall, hcells⟩

/-! ### A sheet with a gap, and one that is hidden -/

noncomputable def sampleTexts : Texts where
  toCellTexts := sampleCellTexts
  nfkc := id
  casefold s := String.ofList (s.toList.map Char.toLower)
  columnLetter n := String.ofList [Char.ofNat (64 + n)]

def sampleWorksheet : Worksheet where
  maxRow := some 4
  maxColumn := some 2
  rows := [
    [{ value := some (.str "n"), dataType := some "s" }, { value := some (.str "t"), dataType := some "s" }],
    [{ value := some (.int 1) }, { value := some (.bool true), dataType := some "b" }],
    [],
    [{ value := some (.int 2) }]]

def sampleWorkbook : Workbook where
  sheets := [("S", sampleWorksheet), ("H", { sheetState := "hidden", rows := [] })]

def sampleSheet : SheetPlan where
  originalName := "S"
  tableName := "S"
  columns := [
    { sourceHeader := "n", columnName := "n", inferredType := .integer, nullable := false, allNull := false },
    { sourceHeader := "t", columnName := "t", inferredType := .boolean, nullable := true, allNull := false }]
  rowCount := 2
  rowExtent := 4
  columnExtent := 2

def samplePlan : WorkbookPlan where
  workbook := sampleWorkbook
  sheets := [sampleSheet]
  warnings := ["跳过非可见工作表“H”（state=hidden）"]

theorem sampleWorkbook_validated :
    validateWorkbook sampleTexts {} sampleWorkbook (fun _ => { rowExtent := 0 }) = .ok samplePlan := by
  rfl

theorem validated_wellFormed_sample : WellFormedTable sampleTexts {} sampleSheet :=
  (validated_wellFormed sampleWorkbook_validated).2.2.2 _ List.mem_cons_self

theorem validated_agrees_sample : ∃ kept : List (String × Worksheet),
    List.Forall₂ (fun sheet source => Agreement sampleTexts {} { rowExtent := 0 } samplePlan sheet source)
      [sampleSheet] kept :=
  have ⟨kept, _, h, _⟩ := validated_agrees sampleCellTexts_faithful sampleWorkbook_validated
  ⟨kept, h⟩

end Validator

end Ingestion
