import Qaneris.Federation.Properties.Scalars
import Qaneris.Federation.Series

/-!
# What the other merges return

* `timeseries_iff` — series are aligned on the texts of their times: one row for each text, in their order,
  with the value of each source under its own label and null where it has none
* `union_iff` — tables of one shape are put together as they are
* `merge_iff` — what goes in and what comes out is within the limits, and only a join returns more rows
  than went in
-/

namespace Federation.ControlledMerger

open Contracts (AskPlan)
open Infra (Dict align allKeys)

/-! ## The points of a source -/

/-- The row gives the point. -/
def IsPoint (isDate : String → Bool) (axis metric : String) (row : Dict Cell) (point : String × Cell) :
    Prop :=
  timeKey isDate (cellOf row axis) = .ok point.1 ∧ point.2 = cellOf row metric

/-- The response has these points: it was made with a confirmed time field, each row has a time, no time is
repeated, and there is one column beside the time. -/
inductive Points (isDate : String → Bool) (response : SourceResponse) : Dict Cell → Prop where
  | empty {plan : Contracts.GroundedQueryPlan} {field : Contracts.GroundedFieldRef} {table : Table}
      (hplan : response.plan = some (.grounded plan)) (hfield : plan.timeField = some field)
      (hresult : response.result = some table) (hrows : table.rows = []) : Points isDate response []
  | rows {plan : Contracts.GroundedQueryPlan} {field : Contracts.GroundedFieldRef} {table : Table}
      {axis metric : String} {points : Dict Cell}
      (hplan : response.plan = some (.grounded plan)) (hfield : plan.timeField = some field)
      (hresult : response.result = some table) (hrows : table.rows ≠ [])
      (haxis : column table.rows field.fieldPath = .ok axis)
      (hmetric : table.columns.filter (· ≠ axis) = [metric])
      (hpoints : List.Forall₂ (IsPoint isDate axis metric) table.rows points)
      (hdistinct : points.keys.Nodup) : Points isDate response points

theorem Points.nodup {isDate : String → Bool} {response : SourceResponse} {points : Dict Cell}
    (h : Points isDate response points) : points.keys.Nodup := by
  cases h with
  | empty => exact List.nodup_nil
  | rows _ _ _ _ _ _ _ hdistinct => exact hdistinct

section Series

variable {isDate : String → Bool}

theorem addPoint_ok_iff {axis metric : String} {values values' : Dict Cell} {row : Dict Cell} :
    addPoint isDate axis metric values row = .ok values' ↔
      ∃ point, IsPoint isDate axis metric row point ∧ point.1 ∉ values.keys ∧
        values' = values ++ [point] := by
  unfold addPoint IsPoint
  cases hkey : timeKey isDate (cellOf row axis) with
  | error e => simp [bind, Except.bind]
  | ok key =>
    simp only [bind, Except.bind]
    by_cases hmem : key ∈ values.keys
    · simp only [hmem, if_true, reduceCtorEq, false_iff]
      rintro ⟨point, ⟨heq, -⟩, hnot, -⟩
      exact hnot (Except.ok.inj heq ▸ hmem)
    · rw [if_neg hmem, Dict.set_of_not_mem _ hmem]
      constructor
      · intro h
        exact ⟨(key, cellOf row metric), ⟨rfl, rfl⟩, hmem, (Except.ok.inj h).symm⟩
      · rintro ⟨⟨k, v⟩, ⟨heq, rfl⟩, -, rfl⟩
        obtain rfl : key = k := Except.ok.inj heq
        rfl

theorem nodup_keys_nil : (Dict.keys ([] : Dict Cell)).Nodup := List.nodup_nil

theorem foldlM_addPoint_iff {axis metric : String} {rows : List (Dict Cell)} {values values' : Dict Cell}
    (h : values.keys.Nodup) : rows.foldlM (addPoint isDate axis metric) values = .ok values' ↔
      ∃ points, List.Forall₂ (IsPoint isDate axis metric) rows points ∧
        (values.keys ++ Dict.keys points).Nodup ∧ values' = values ++ points := by
  induction rows generalizing values with
  | nil =>
    constructor
    · intro hfold
      exact ⟨[], .nil, by simpa [Dict.keys] using h, by simpa [pure, Except.pure, eq_comm] using hfold⟩
    · rintro ⟨points, hpoints, -, rfl⟩
      cases hpoints
      simp [pure, Except.pure]
  | cons row rows ih =>
    rw [List.foldlM_cons, Infra.bind_ok_iff]
    constructor
    · rintro ⟨next, hnext, hrest⟩
      obtain ⟨point, hpoint, hnew, rfl⟩ := addPoint_ok_iff.mp hnext
      have hnodup : (Dict.keys (values ++ [point])).Nodup := by
        simp only [Dict.keys, List.map_append, List.map_cons, List.map_nil] at hnew ⊢
        exact List.nodup_append.mpr ⟨h, List.nodup_singleton _, by
          intro a ha b hb heq
          rw [List.mem_singleton.mp hb] at heq
          exact hnew (heq ▸ ha)⟩
      obtain ⟨points, hpoints, hdistinct, rfl⟩ := (ih hnodup).mp hrest
      refine ⟨point :: points, .cons hpoint hpoints, ?_, by simp⟩
      simpa [Dict.keys] using hdistinct
    · rintro ⟨points, hpoints, hdistinct, rfl⟩
      cases hpoints with
      | @cons _ point _ points hpoint hpoints =>
      have hnew : point.1 ∉ values.keys := fun hmem =>
        (List.nodup_append.mp hdistinct).2.2 _ hmem _ (by simp [Dict.keys]) rfl
      have hsplit : (Dict.keys (values ++ [point]) ++ Dict.keys points).Nodup := by
        simpa [Dict.keys] using hdistinct
      refine ⟨_, addPoint_ok_iff.mpr ⟨point, hpoint, hnew, rfl⟩, ?_⟩
      exact (ih (List.nodup_append.mp hsplit).1).mpr ⟨points, hpoints, hsplit, by simp⟩

/-- The series of a response is its points, in the order of its rows. -/
theorem seriesOf_ok_iff {response : SourceResponse} {points : Dict Cell} :
    seriesOf isDate response = .ok points ↔ Points isDate response points := by
  constructor
  · intro h
    unfold seriesOf at h
    split at h
    case h_2 => cases h
    case h_1 plan hplan =>
    split at h
    case h_1 => cases h
    case h_2 field hfield =>
    obtain ⟨table, htable, h⟩ := Infra.bind_ok h
    obtain ⟨axis, haxis, h⟩ := Infra.bind_ok h
    have hresult : response.result = some table := by
      unfold tableOf at htable
      split at htable
      · cases htable
      · next hsome => rw [hsome, Except.ok.inj htable]
    split at h
    · next hrows =>
      cases h
      exact .empty hplan hfield hresult hrows
    · next hrows =>
      split at h
      · next metric hmetric =>
        obtain ⟨points, hpoints, hdistinct, rfl⟩ := (foldlM_addPoint_iff nodup_keys_nil).mp h
        exact .rows hplan hfield hresult hrows haxis hmetric hpoints hdistinct
      · cases h
  · intro h
    cases h with
    | empty hplan hfield hresult hrows =>
      simp [seriesOf, hplan, hfield, tableOf, hresult, column, hrows, bind, Except.bind, pure,
        Except.pure]
    | rows hplan hfield hresult hrows haxis hmetric hpoints hdistinct =>
      have hfold := (foldlM_addPoint_iff nodup_keys_nil).mpr ⟨points, hpoints, hdistinct, rfl⟩
      simp only [seriesOf, hplan, hfield, tableOf, hresult, haxis, bind, Except.bind, if_neg hrows,
        hmetric]
      exact hfold

/-! ## The aligned table -/

/-- The labels of this many sources. -/
def valueLabels (sources : Nat) : List String := (List.range sources).map valueLabel

theorem nodup_valueLabels (sources : Nat) : (valueLabels sources).Nodup :=
  List.nodup_range.map fun _ _ h => scalarLabel_inj h

theorem valueLabel_ne_time (index : Nat) : valueLabel index ≠ "time_key" := by
  intro h
  have hhead : (valueLabel index).toList.head? = some 's' := by simp [valueLabel, scalarLabel]
  rw [h] at hhead
  exact absurd hhead (by decide)

theorem nodup_columns (sources : Nat) : ("time_key" :: valueLabels sources).Nodup := by
  refine List.nodup_cons.mpr ⟨?_, nodup_valueLabels sources⟩
  intro hmem
  obtain ⟨index, -, heq⟩ := List.mem_map.mp hmem
  exact valueLabel_ne_time index heq

/-- The items that `alignedRow` adds to the time. -/
def valueItems (cells : List (Option Cell)) : Dict Cell :=
  cells.zipIdx.map fun cell => (valueLabel cell.2, cell.1.getD .null)

theorem keys_valueItems (cells : List (Option Cell)) :
    (valueItems cells).map Prod.fst = valueLabels cells.length := by
  have hsnd : (valueItems cells).map Prod.fst = (cells.zipIdx.map Prod.snd).map valueLabel := by
    rw [valueItems, List.map_map, List.map_map]
    rfl
  rw [hsnd, List.zipIdx_map_snd, valueLabels, List.range_eq_range']

theorem keys_alignedRow (row : String × List (Option Cell)) :
    (alignedRow row).keys = "time_key" :: valueLabels row.2.length := by
  have hkeys : Dict.keys [("time_key", Cell.str row.1)] ++ (valueItems row.2).map Prod.fst =
      "time_key" :: valueLabels row.2.length := by
    rw [keys_valueItems]
    rfl
  rw [← hkeys]
  exact Dict.keys_update_of_nodup (hkeys ▸ nodup_columns row.2.length)

/-- The time of a row of the result. -/
def timeOf (row : Dict Cell) : Option String :=
  match row.get? "time_key" with
  | some (.str key) => some key
  | _ => none

theorem timeOf_eq_some_iff {row : Dict Cell} {key : String} :
    timeOf row = some key ↔ row.get? "time_key" = some (.str key) := by
  unfold timeOf
  split
  · next h => simp [h]
  · next h => simpa using h key

theorem timeOf_alignedRow (row : String × List (Option Cell)) : timeOf (alignedRow row) = some row.1 := by
  rw [timeOf_eq_some_iff]
  have hnot : "time_key" ∉ Dict.keys (valueItems row.2) := by
    intro hmem
    rw [Dict.keys, keys_valueItems] at hmem
    obtain ⟨index, -, heq⟩ := List.mem_map.mp hmem
    exact valueLabel_ne_time index heq
  have hget := Dict.get?_update_of_not_mem hnot [("time_key", Cell.str row.1)]
  rw [alignedRow, ← valueItems, hget]
  rfl

theorem alignedRow_value {key : String} {cells : List (Option Cell)} {index : Nat} {cell : Option Cell}
    (h : cells[index]? = some cell) :
    (alignedRow (key, cells)).get? (valueLabel index) = some (cell.getD .null) := by
  have hitem : (valueLabel index, cell.getD .null) ∈ valueItems cells := by
    refine List.mem_map.mpr ⟨(cell, index), ?_, rfl⟩
    exact List.mem_zipIdx_iff_getElem?.mpr h
  have hmem : valueLabel index ∈ Dict.keys (valueItems cells) := List.mem_map.mpr ⟨_, hitem, rfl⟩
  have hnodup : ((valueItems cells).map Prod.fst).Nodup := by
    rw [keys_valueItems]
    exact nodup_valueLabels cells.length
  rw [alignedRow, ← valueItems, Dict.get?_update_of_mem hmem _ [], Dict.get?_update_nil hnodup hitem]

/-- The full outer alignment of the sources. -/
structure IsAlignment (sources : List (Dict Cell)) (merged : Merged) : Prop where
  columns : merged.columns = "time_key" :: valueLabels sources.length
  rowCount : merged.rowCount = merged.rows.length
  operation : merged.operation = .alignTimeSeries
  warnings : merged.warnings = []
  shape : ∀ row ∈ merged.rows, row.keys = merged.columns
  /-- The times are texts, each one greater than the one before. -/
  times : ∃ keys : List String, keys.Pairwise (· < ·) ∧ merged.rows.map timeOf = keys.map some
  /-- There is a row for each time that any source has, and for no other. -/
  present : ∀ key, (∃ row ∈ merged.rows, timeOf row = some key) ↔ ∃ source ∈ sources, key ∈ source.keys
  /-- A row has what each source has at its time, and null where it has nothing. -/
  cells : ∀ row ∈ merged.rows, ∀ key, timeOf row = some key → ∀ i source, sources[i]? = some source →
    row.get? (valueLabel i) = some ((source.get? key).getD .null)

def alignedTable (sources : List (Dict Cell)) : Merged where
  columns := "time_key" :: valueLabels sources.length
  rows := (align sources).map alignedRow
  rowCount := ((align sources).map alignedRow).length
  operation := .alignTimeSeries

theorem alignedTable_time {sources : List (Dict Cell)} {row : Dict Cell} {key : String}
    (hrow : row ∈ (alignedTable sources).rows) (hkey : timeOf row = some key) :
    (∃ source ∈ sources, key ∈ source.keys) ∧
      row = alignedRow (key, sources.map fun source => source.get? key) := by
  obtain ⟨⟨k, cells⟩, hmem, rfl⟩ := List.mem_map.mp hrow
  rw [timeOf_alignedRow, Option.some.injEq] at hkey
  obtain rfl := hkey
  obtain ⟨hpresent, rfl⟩ := Infra.mem_align.mp hmem
  exact ⟨hpresent, rfl⟩

theorem isAlignment_alignedTable (sources : List (Dict Cell)) :
    IsAlignment sources (alignedTable sources) where
  columns := rfl
  rowCount := rfl
  operation := rfl
  warnings := rfl
  shape := by
    intro row hrow
    obtain ⟨⟨key, cells⟩, hmem, rfl⟩ := List.mem_map.mp hrow
    obtain ⟨-, rfl⟩ := Infra.mem_align.mp hmem
    rw [keys_alignedRow, List.length_map]
    rfl
  times := by
    refine ⟨allKeys sources, Infra.pairwise_allKeys sources, ?_⟩
    simp [alignedTable, align, timeOf_alignedRow]
  present := by
    intro key
    constructor
    · rintro ⟨row, hrow, hkey⟩
      exact (alignedTable_time hrow hkey).1
    · intro hpresent
      exact ⟨_, List.mem_map_of_mem (Infra.mem_align.mpr ⟨hpresent, rfl⟩), timeOf_alignedRow _⟩
  cells := by
    intro row hrow key hkey i source hsource
    rw [(alignedTable_time hrow hkey).2]
    exact alignedRow_value (by simp [hsource])

/-- A row of an alignment is known by its time. -/
theorem IsAlignment.row_eq {sources : List (Dict Cell)} {merged : Merged} (h : IsAlignment sources merged)
    {row : Dict Cell} {key : String} (hrow : row ∈ merged.rows) (hkey : timeOf row = some key) :
    row = alignedRow (key, sources.map fun source => source.get? key) := by
  have hshape : row.keys = "time_key" :: valueLabels sources.length := (h.shape row hrow).trans h.columns
  refine Dict.ext_of_keys ?_ ?_ fun column hcolumn => ?_
  · rw [hshape, keys_alignedRow, List.length_map]
  · rw [hshape]
    exact nodup_columns _
  · rw [hshape] at hcolumn
    rcases List.mem_cons.mp hcolumn with rfl | hlabel
    · have htime := timeOf_alignedRow (key, sources.map fun source => source.get? key)
      rw [timeOf_eq_some_iff.mp hkey, timeOf_eq_some_iff.mp htime]
    · obtain ⟨i, hi, rfl⟩ := List.mem_map.mp hlabel
      have hi : i < sources.length := List.mem_range.mp hi
      rw [h.cells row hrow key hkey i sources[i] (List.getElem?_eq_getElem hi)]
      exact (alignedRow_value (by simp [hi])).symm

/-- There is one such table. -/
theorem IsAlignment.unique {sources : List (Dict Cell)} {a b : Merged} (ha : IsAlignment sources a)
    (hb : IsAlignment sources b) : a = b := by
  obtain ⟨keys, hkeys, htimes⟩ := ha.times
  obtain ⟨keys', hkeys', htimes'⟩ := hb.times
  have hmem : ∀ {m : Merged} {ks : List String}, m.rows.map timeOf = ks.map some →
      ∀ key, key ∈ ks ↔ ∃ row ∈ m.rows, timeOf row = some key := by
    intro m ks heq key
    have hiff : some key ∈ m.rows.map timeOf ↔ some key ∈ ks.map some := by rw [heq]
    simpa using hiff.symm
  obtain rfl : keys = keys' := Infra.eq_of_pairwise_lt hkeys hkeys' fun key =>
    (hmem htimes key).trans ((ha.present key).trans ((hb.present key).symm.trans (hmem htimes' key).symm))
  have hrows : a.rows = b.rows :=
    (Infra.eq_map_of_keys htimes fun _ hrow _ hkey => ha.row_eq hrow hkey).trans
      (Infra.eq_map_of_keys htimes' fun _ hrow _ hkey => hb.row_eq hrow hkey).symm
  have hcolumns := ha.columns.trans hb.columns.symm
  have hcount : a.rowCount = b.rowCount := by rw [ha.rowCount, hb.rowCount, hrows]
  have hoperation := ha.operation.trans hb.operation.symm
  have hwarnings := ha.warnings.trans hb.warnings.symm
  cases a
  cases b
  simp_all only

theorem timeseries_ok_iff {inputs : List SourceResponse} {merged : Merged} :
    timeseries isDate inputs = .ok merged ↔
      ∃ sources, List.Forall₂ (Points isDate) inputs sources ∧ merged = alignedTable sources := by
  have hpoints : ∀ {sources}, inputs.mapM (seriesOf isDate) = .ok sources ↔
      List.Forall₂ (Points isDate) inputs sources := by
    simp only [Infra.mapM_ok_iff_forall₂, seriesOf_ok_iff, implies_true]
  unfold timeseries
  rw [Infra.bind_ok_iff]
  refine exists_congr fun sources => ?_
  rw [hpoints]
  refine and_congr_right fun hsources => ?_
  rw [hsources.length_eq]
  exact ⟨fun h => (Except.ok.inj h).symm, fun h => congrArg Except.ok h.symm⟩

/-- **Series are aligned on the texts of their times.** The merge returns when every response has points,
and then the full outer alignment of them. -/
theorem timeseries_iff {inputs : List SourceResponse} {merged : Merged} :
    timeseries isDate inputs = .ok merged ↔
      ∃ sources, List.Forall₂ (Points isDate) inputs sources ∧ IsAlignment sources merged := by
  rw [timeseries_ok_iff]
  refine exists_congr fun sources => and_congr_right fun _ => ?_
  constructor
  · rintro rfl
    exact isAlignment_alignedTable sources
  · exact fun h => h.unique (isAlignment_alignedTable sources)

/-- The time and the value of a row under a label, where there is a value. -/
def pointAt (i : Nat) (row : Dict Cell) : Option (String × Cell) :=
  (timeOf row).bind fun key => (row.get? (valueLabel i)).bind fun cell =>
    if cell = .null then none else some (key, cell)

/-- A source whose values are not null is read back from its column. -/
theorem IsAlignment.column_perm {sources : List (Dict Cell)} {merged : Merged}
    (h : IsAlignment sources merged) {i : Nat} {source : Dict Cell} (hsource : sources[i]? = some source)
    (hkeys : source.keys.Nodup) (hvalues : ∀ point ∈ source, point.2 ≠ .null) :
    (merged.rows.filterMap (pointAt i)).Perm source := by
  obtain rfl := (isAlignment_alignedTable sources).unique h
  have hrows : (alignedTable sources).rows.filterMap (pointAt i) =
      (align sources).filterMap fun row => (row.2[i]?.join).map fun value => (row.1, value) := by
    rw [alignedTable, List.filterMap_map]
    refine List.filterMap_congr fun row hrow => ?_
    obtain ⟨key, cells⟩ := row
    obtain ⟨-, rfl⟩ := Infra.mem_align.mp hrow
    have hcell : (sources.map fun source => source.get? key)[i]? = some (source.get? key) := by
      simp [hsource]
    simp only [Function.comp_apply, pointAt, timeOf_alignedRow, Option.bind_some,
      alignedRow_value hcell, hcell, Option.join_some]
    cases hget : source.get? key with
    | none => rfl
    | some value =>
      have hne : value ≠ .null := hvalues (key, value) ((Dict.get?_eq_some_iff hkeys).mp hget)
      simp [hne]
  rw [hrows]
  exact Infra.align_column hsource hkeys

end Series

/-! ## Unions -/

theorem length_le_one_iff {α : Type} {l : List α} (h : l.Nodup) :
    l.length ≤ 1 ↔ ∀ a ∈ l, ∀ b ∈ l, a = b := by
  match l, h with
  | [], _ => simp
  | [_], _ => simp
  | a :: b :: rest, h =>
    have hne : a ≠ b := fun heq => by simp [heq] at h
    refine iff_of_false (by simp) fun hall => hne ?_
    exact hall a (by simp) b (by simp)

theorem not_mixed_iff {kinds : List String} : ¬ mixed kinds ↔
    (∀ a ∈ kinds, ∀ b ∈ kinds, a = b) ∨ ∀ a ∈ kinds, a ∈ ["int", "float", "Decimal"] := by
  have hlength := length_le_one_iff (List.nodup_dedup kinds)
  simp only [List.mem_dedup] at hlength
  rw [← hlength, mixed, Bool.and_eq_true, not_and_or, Bool.not_eq_true', Bool.not_eq_false,
    List.all_eq_true, decide_eq_true_eq, Nat.not_lt]
  simp only [decide_eq_true_eq]

theorem mapM_tableOf_iff {inputs : List SourceResponse} {tables : List Table} :
    inputs.mapM tableOf = .ok tables ↔ inputs.map (·.result) = tables.map some := by
  have hone : ∀ (response : SourceResponse) (table : Table),
      tableOf response = .ok table ↔ response.result = some table := by
    intro response table
    unfold tableOf
    cases response.result <;> simp
  rw [Infra.mapM_ok_iff_forall₂, ← List.forall₂_eq_eq_eq, List.forall₂_map_left_iff,
    List.forall₂_map_right_iff]
  simp only [hone]

/-- The tables have one set of columns, their rows have these columns, and what stands in a column is of
one type or consists of numbers. -/
structure Uniform (first : Table) (rest : List Table) : Prop where
  columns : ∀ table ∈ rest, sameSet table.columns first.columns
  rows : ∀ row ∈ (first :: rest).flatMap Table.rows, sameSet row.keys first.columns
  values : ∀ column ∈ first.columns, ∀ types, kinds column ((first :: rest).flatMap Table.rows) = types →
    (∀ a ∈ types, ∀ b ∈ types, a = b) ∨ ∀ a ∈ types, a ∈ ["int", "float", "Decimal"]

theorem sameSet_refl (names : List String) : sameSet names names := by simp [sameSet]

def unionTable (first : Table) (rest : List Table) : Merged where
  columns := first.columns
  rows := (first :: rest).flatMap Table.rows
  rowCount := ((first :: rest).flatMap Table.rows).length
  operation := .unionRows

theorem filterMap_result {inputs : List SourceResponse} {tables : List Table}
    (h : inputs.map (·.result) = tables.map some) : inputs.filterMap SourceResponse.result = tables := by
  have hmap : inputs.filterMap SourceResponse.result =
      (inputs.map (·.result)).filterMap id := by simp [List.filterMap_map]
  rw [hmap, h]
  simp [List.filterMap_map]

theorem uniform_of_union {inputs : List SourceResponse} {merged : Merged} (h : union inputs = .ok merged) :
    ∃ first rest, inputs.map (·.result) = (first :: rest).map some ∧ Uniform first rest ∧
      merged = unionTable first rest := by
  unfold union at h
  split at h
  · cases h
  next first rest hfirst =>
  split at h
  · cases h
  next hcolumns =>
  obtain ⟨tables, htables, h⟩ := Infra.bind_ok h
  have hall := mapM_tableOf_iff.mp htables
  obtain rfl : tables = first :: rest := (filterMap_result hall).symm.trans hfirst
  dsimp only at h
  split at h
  · cases h
  next hrows =>
  split at h
  · cases h
  next hvalues =>
  refine ⟨first, rest, hall, ⟨?_, ?_, ?_⟩, (Except.ok.inj h).symm⟩
  · simpa [sameSet_refl] using hcolumns
  · exact fun row hrow => by_contra fun hdiffers =>
      hrows (List.any_eq_true.mpr ⟨row, hrow, decide_eq_true hdiffers⟩)
  · rintro column hcolumn _ rfl
    refine not_mixed_iff.mp fun hmixed => hvalues (List.any_eq_true.mpr ⟨column, hcolumn, hmixed⟩)

section Limits

variable {t : Texts} {scope : ExecutionScope}

/-- How many rows there are in the tables. -/
def rowsIn (tables : List Table) : Nat := (tables.map fun table => table.rows.length).sum

/-- What goes into a merge is within its limits: the rows of each source, and all rows and bytes. -/
structure Bounded (t : Texts) (scope : ExecutionScope) (tables : List Table) : Prop where
  each : ∀ table ∈ tables, (table.rows.length : Int) ≤ scope.maxRowsPerSource
  rows : tables ≠ [] → (rowsIn tables : Int) ≤ scope.maxTotalRows
  bytes : ∃ sizes, List.Forall₂ (fun table size => t.jsonSize table.rows = .ok size) tables sizes ∧
    (tables ≠ [] → (sizes.sum : Int) ≤ scope.maxIntermediateBytes)

theorem checkInput_ok_iff {sofar sofar' : Nat × Nat} {answer : SourceAnswer} :
    checkInput t scope sofar answer = .ok sofar' ↔
      ∃ table size, answer.result = some table ∧ t.jsonSize table.rows = .ok size ∧
        (table.rows.length : Int) ≤ scope.maxRowsPerSource ∧
        ((sofar.1 + table.rows.length : Nat) : Int) ≤ scope.maxTotalRows ∧
        ((sofar.2 + size : Nat) : Int) ≤ scope.maxIntermediateBytes ∧
        sofar' = (sofar.1 + table.rows.length, sofar.2 + size) := by
  unfold checkInput tableOf
  cases hresult : answer.result with
  | none => simp [bind, Except.bind]
  | some table =>
    simp only [bind, Except.bind]
    by_cases hrows : scope.maxRowsPerSource < table.rows.length ∨
        scope.maxTotalRows < (sofar.1 + table.rows.length : Nat)
    · rw [if_pos hrows]
      refine iff_of_false (by simp) ?_
      rintro ⟨_, _, heq, _, hle, hle', _, _⟩
      cases heq
      omega
    rw [if_neg hrows]
    push Not at hrows
    cases hsize : t.jsonSize table.rows with
    | error e =>
      refine iff_of_false (by simp) ?_
      rintro ⟨_, _, heq, hok, _⟩
      cases heq
      rw [hsize] at hok
      cases hok
    | ok size =>
      dsimp only
      by_cases hbytes : scope.maxIntermediateBytes < (sofar.2 + size : Nat)
      · rw [if_pos hbytes]
        refine iff_of_false (by simp) ?_
        rintro ⟨_, _, heq, hok, _, _, hle, _⟩
        cases heq
        rw [hsize] at hok
        cases hok
        omega
      · rw [if_neg hbytes]
        constructor
        · intro h
          exact ⟨table, size, rfl, hsize, hrows.1, hrows.2, not_lt.mp hbytes, (Except.ok.inj h).symm⟩
        · rintro ⟨_, _, heq, hok, _, _, _, rfl⟩
          cases heq
          rw [hsize] at hok
          cases hok
          rfl

/-- The loop over the inputs, from the rows and the bytes so far. -/
theorem foldlM_checkInput_iff {inputs : List SourceAnswer} {sofar sofar' : Nat × Nat} :
    inputs.foldlM (checkInput t scope) sofar = .ok sofar' ↔
      ∃ tables sizes, inputs.map (·.result) = tables.map some ∧
        List.Forall₂ (fun table size => t.jsonSize table.rows = .ok size) tables sizes ∧
        (∀ table ∈ tables, (table.rows.length : Int) ≤ scope.maxRowsPerSource) ∧
        (tables ≠ [] → ((sofar.1 + rowsIn tables : Nat) : Int) ≤ scope.maxTotalRows) ∧
        (tables ≠ [] → ((sofar.2 + sizes.sum : Nat) : Int) ≤ scope.maxIntermediateBytes) ∧
        sofar' = (sofar.1 + rowsIn tables, sofar.2 + sizes.sum) := by
  induction inputs generalizing sofar with
  | nil =>
    constructor
    · intro h
      obtain rfl : sofar = sofar' := Except.ok.inj h
      exact ⟨[], [], rfl, .nil, nofun, nofun, nofun, rfl⟩
    · rintro ⟨tables, sizes, hresults, hsizes, -, -, -, rfl⟩
      obtain rfl : tables = [] := by simpa using hresults.symm
      cases hsizes
      rfl
  | cons answer inputs ih =>
    rw [List.foldlM_cons, Infra.bind_ok_iff]
    constructor
    · rintro ⟨next, hnext, hrest⟩
      obtain ⟨table, size, hresult, hsize, heach, hrows, hbytes, rfl⟩ := checkInput_ok_iff.mp hnext
      obtain ⟨tables, sizes, hresults, hsizes, hall, hrows', hbytes', rfl⟩ := ih.mp hrest
      refine ⟨table :: tables, size :: sizes, by simp [hresult, hresults], .cons hsize hsizes, ?_, ?_, ?_, ?_⟩
      · exact List.forall_mem_cons.mpr ⟨heach, hall⟩
      · intro _
        cases tables with
        | nil => simpa [rowsIn] using hrows
        | cons => simpa [rowsIn, Nat.add_assoc] using hrows' (List.cons_ne_nil _ _)
      · intro _
        cases hsizes with
        | nil => simpa using hbytes
        | cons => simpa [Nat.add_assoc] using hbytes' (List.cons_ne_nil _ _)
      · simp [rowsIn, Nat.add_assoc]
    · rintro ⟨tables, sizes, hresults, hsizes, hall, hrows, hbytes, rfl⟩
      cases hsizes with
      | nil => simp at hresults
      | @cons table size tables sizes hsize hsizes =>
      simp only [List.map_cons, List.cons.injEq] at hresults
      have hrows := hrows (List.cons_ne_nil _ _)
      have hbytes := hbytes (List.cons_ne_nil _ _)
      simp only [rowsIn, List.map_cons, List.sum_cons] at hrows hbytes
      refine ⟨(sofar.1 + table.rows.length, sofar.2 + size), checkInput_ok_iff.mpr ⟨table, size,
        hresults.1, hsize, hall table List.mem_cons_self, by omega, by omega, rfl⟩, ih.mpr ?_⟩
      refine ⟨tables, sizes, hresults.2, hsizes, fun table h => hall table (List.mem_cons_of_mem _ h),
        fun _ => ?_, fun _ => ?_, ?_⟩
      · simp only [rowsIn]
        omega
      · omega
      · simp [rowsIn, Nat.add_assoc]

/-! ## The whole merge -/

theorem tableOf_ok {response : SourceResponse} {table table' : Table}
    (hresult : response.result = some table) (h : tableOf response = .ok table') : table' = table := by
  simp only [tableOf, hresult, Except.ok.injEq] at h
  exact h.symm

theorem Points.length_eq {isDate : String → Bool} {response : SourceResponse} {points : Dict Cell}
    {table : Table} (h : Points isDate response points) (hresult : response.result = some table) :
    points.length = table.rows.length := by
  cases h with
  | empty _ _ hresult' hrows =>
    obtain rfl := Option.some.inj (hresult.symm.trans hresult')
    simp [hrows]
  | rows _ _ hresult' _ _ _ hpoints _ =>
    obtain rfl := Option.some.inj (hresult.symm.trans hresult')
    exact hpoints.length_eq.symm

/-- Single values come from tables with one row. -/
theorem scalars_rows {plan : MergePlan} {inputs : List SourceResponse} {tables : List Table}
    {result : Merged} (hresults : inputs.map (·.result) = tables.map some) (hne : inputs ≠ [])
    (h : scalars t.floats plan inputs = .ok result) :
    result.rowCount = result.rows.length ∧ result.rowCount ≤ rowsIn tables := by
  obtain ⟨items, hitems, h⟩ := Infra.bind_ok h
  have hone : result.rowCount = 1 ∧ result.rows.length = 1 := by
    dsimp only at h
    split at h
    · cases h
      exact ⟨rfl, rfl⟩
    · obtain ⟨number, -, h⟩ := Infra.bind_ok h
      cases h
      exact ⟨rfl, rfl⟩
  refine ⟨hone.1.trans hone.2.symm, ?_⟩
  rw [hone.1]
  cases inputs with
  | nil => exact absurd rfl hne
  | cons response inputs =>
    cases tables with
    | nil => simp at hresults
    | cons table tables =>
      simp only [List.map_cons, List.cons.injEq] at hresults
      obtain ⟨item, -, hitem⟩ := Infra.exists_of_forall₂ (Infra.forall₂_of_mapM hitems)
        (a := (response, 0)) (by simp [List.zipIdx_cons])
      obtain ⟨table', htable, hitem⟩ := Infra.bind_ok hitem
      obtain rfl := tableOf_ok hresults.1 htable
      have hlength : table'.rows.length = 1 := by
        split at hitem
        · next hrows => rw [hrows]; rfl
        · cases hitem
      simp [rowsIn, hlength]

theorem length_allKeys_le (sources : List (Dict Cell)) :
    (allKeys sources).length ≤ (sources.map List.length).sum := by
  have hperm : (allKeys sources).length = (sources.flatMap Dict.keys).dedup.length :=
    (List.perm_insertionSort _ _).length_eq
  have hsum : (sources.flatMap Dict.keys).length = (sources.map List.length).sum := by
    simp [List.length_flatMap, Dict.keys]
  rw [hperm, ← hsum]
  exact (List.dedup_sublist _).length_le

/-- Only a join returns more rows than went in. -/
theorem operate_rows {plan : MergePlan} {mapping : Option JoinMapping} {inputs : List SourceResponse}
    {tables : List Table} {result : Merged} (hresults : inputs.map (·.result) = tables.map some)
    (hne : inputs ≠ []) (hop : plan.operation ≠ .keyedJoin) (h : operate t plan mapping inputs = .ok result) :
    result.rowCount ≤ rowsIn tables := by
  unfold operate at h
  split at h
  · exact (scalars_rows hresults hne h).2
  · exact (scalars_rows hresults hne h).2
  · obtain ⟨first, rest, hall, -, rfl⟩ := uniform_of_union h
    obtain rfl : tables = first :: rest :=
      List.map_injective_iff.mpr (Option.some_injective _) (hresults.symm.trans hall)
    exact le_of_eq (by simp [unionTable, rowsIn, List.length_flatMap])
  · obtain ⟨sources, hpoints, rfl⟩ := timeseries_ok_iff.mp h
    have hlengths : sources.map List.length = tables.map fun table => table.rows.length := by
      clear h hne
      induction hpoints generalizing tables with
      | nil => cases tables <;> simp_all
      | cons hfirst _ ih =>
        cases tables with
        | nil => simp at hresults
        | cons table tables =>
          simp only [List.map_cons, List.cons.injEq] at hresults
          rw [List.map_cons, List.map_cons, hfirst.length_eq hresults.1, ih hresults.2]
    have hcount : (alignedTable sources).rowCount = (allKeys sources).length := by
      simp [alignedTable, align]
    rw [hcount, rowsIn, ← hlengths]
    exact length_allKeys_le sources
  · exact absurd ‹_› hop
  · exact absurd ‹_› hop

theorem answerOf_ok_iff {responses : Dict SourceAnswer} {taskId : String} {answer : SourceAnswer} :
    answerOf responses taskId = .ok answer ↔ responses.get? taskId = some answer := by
  unfold answerOf
  cases responses.get? taskId <;> simp

/-- The flag of a result that is there. -/
theorem any_truncated {inputs : List SourceAnswer} {tables : List Table}
    (h : inputs.map (·.result) = tables.map some) :
    (inputs.any fun answer => answer.result.isSome && answer.truncated) =
      inputs.any fun answer => answer.truncated := by
  induction inputs generalizing tables with
  | nil => rfl
  | cons answer inputs ih =>
    cases tables with
    | nil => simp at h
    | cons table tables =>
      simp only [List.map_cons, List.cons.injEq] at h
      simp [h.1, ih h.2]

theorem mergeInputs_ok_iff {plan : MergePlan} {mapping : Option JoinMapping} {inputs : List SourceAnswer}
    {answer : MergedAnswer} : mergeInputs t scope plan mapping inputs = .ok answer ↔
      ∃ tables result size, inputs.map (·.result) = tables.map some ∧ Bounded t scope tables ∧
        operate t plan mapping (inputs.map SourceAnswer.toSourceResponse) = .ok result ∧
        (result.rowCount : Int) ≤ scope.maxTotalRows ∧ t.jsonSize result.rows = .ok size ∧
        (size : Int) ≤ scope.maxIntermediateBytes ∧
        answer = {
          result with
          operation := plan.operation, truncated := inputs.any fun input => input.truncated } := by
  unfold mergeInputs
  constructor
  · intro h
    obtain ⟨sofar, hsofar, h⟩ := Infra.bind_ok h
    obtain ⟨tables, sizes, hresults, hsizes, heach, hrows, hbytes, -⟩ := foldlM_checkInput_iff.mp hsofar
    obtain ⟨result, hresult, h⟩ := Infra.bind_ok h
    split at h
    · cases h
    next hcount =>
    obtain ⟨size, hsize, h⟩ := Infra.bind_ok h
    split at h
    · cases h
    next hfits =>
    refine ⟨tables, result, size, hresults, ⟨heach, ?_, sizes, hsizes, ?_⟩, hresult, not_lt.mp hcount,
      hsize, not_lt.mp hfits, ?_⟩
    · simpa using hrows
    · simpa using hbytes
    · rw [← any_truncated hresults]
      exact (Except.ok.inj h).symm
  · rintro ⟨tables, result, size, hresults, hbounded, hresult, hcount, hsize, hfits, rfl⟩
    obtain ⟨sizes, hsizes, hbytes⟩ := hbounded.bytes
    have hfold : inputs.foldlM (checkInput t scope) (0, 0) = .ok (0 + rowsIn tables, 0 + sizes.sum) :=
      foldlM_checkInput_iff.mpr ⟨tables, sizes, hresults, hsizes, hbounded.each,
        by simpa using hbounded.rows, by simpa using hbytes, rfl⟩
    simp only [hfold, hresult, hsize, bind, Except.bind, if_neg (not_lt.mpr hcount),
      if_neg (not_lt.mpr hfits), any_truncated hresults]
    rfl

/-- **What a merge returns, and when.** In time and with all its responses there, it returns what its
operation makes of them when what goes in is within the limits, and the bytes that come out are; of the rows
that come out, only those of a join have to be counted. -/
theorem merge_iff {now : Instant} {plan : MergePlan} {responses : Dict SourceAnswer}
    {mapping : Option JoinMapping} {answer : MergedAnswer} (hne : plan.inputTaskIds ≠ []) :
    merge t now plan responses scope mapping = .ok answer ↔
      now < scope.deadline ∧ ∃ inputs tables result size,
        List.Forall₂ (fun taskId input => responses.get? taskId = some input) plan.inputTaskIds inputs ∧
        inputs.map (·.result) = tables.map some ∧ Bounded t scope tables ∧
        operate t plan mapping (inputs.map SourceAnswer.toSourceResponse) = .ok result ∧
        (plan.operation = .keyedJoin → (result.rowCount : Int) ≤ scope.maxTotalRows) ∧
        t.jsonSize result.rows = .ok size ∧ (size : Int) ≤ scope.maxIntermediateBytes ∧
        answer = {
          result with
          operation := plan.operation, truncated := inputs.any fun input => input.truncated } := by
  have hanswers : ∀ {inputs : List SourceAnswer}, plan.inputTaskIds.mapM (answerOf responses) = .ok inputs ↔
      List.Forall₂ (fun taskId input => responses.get? taskId = some input) plan.inputTaskIds inputs := by
    simp only [Infra.mapM_ok_iff_forall₂, answerOf_ok_iff, implies_true]
  have hraised : ∀ {x : Except MergeError MergedAnswer},
      x.mapError MergeRaised.error = .ok answer ↔ x = .ok answer := by
    intro x
    cases x <;> simp [Except.mapError]
  unfold merge
  by_cases hlate : scope.deadline ≤ now
  · rw [if_pos hlate]
    exact iff_of_false (by simp) fun h => absurd h.1 (not_lt.mpr hlate)
  rw [if_neg hlate, Infra.bind_ok_iff]
  simp only [hanswers, hraised, mergeInputs_ok_iff, not_le.mp hlate, true_and]
  constructor
  · rintro ⟨inputs, hinputs, tables, result, size, hresults, hbounded, hresult, hcount, hrest⟩
    exact ⟨inputs, tables, result, size, hinputs, hresults, hbounded, hresult, fun _ => hcount, hrest⟩
  · rintro ⟨inputs, tables, result, size, hinputs, hresults, hbounded, hresult, hcount, hrest⟩
    refine ⟨inputs, hinputs, tables, result, size, hresults, hbounded, hresult, ?_, hrest⟩
    by_cases hop : plan.operation = .keyedJoin
    · exact hcount hop
    have hsome : inputs ≠ [] := by
      rintro rfl
      exact hne (List.forall₂_nil_right_iff.mp hinputs)
    have htables : tables ≠ [] := by
      rintro rfl
      exact hsome (List.map_eq_nil_iff.mp hresults)
    have hle : result.rowCount ≤ rowsIn tables := by
      refine operate_rows ?_ (by simpa using hsome) hop hresult
      rw [List.map_map]
      exact hresults
    have := hbounded.rows htables
    omega

end Limits

/-! ### One source -/

/-- A text that starts as a date does is one, and each row counts as a byte. -/
def sampleTexts : Texts where
  floats := { written := id, ofNumber := fun q => .finite q }
  isDate := fun text => (Infra.readDate text.toList).isSome
  jsonSize := fun rows => .ok rows.length

def sampleTable : Table := { columns := ["n"], rows := [[("n", .int 1)], [("n", .float (.finite 2))]] }

def sampleScope : ExecutionScope where
  workspaceId := "w"
  allowedDatasourceIds := ["a"]
  maxSources := 2
  maxRowsPerSource := 2
  maxTotalRows := 2
  maxIntermediateBytes := 2
  deadline := 1

/-- An integer and a float stand in one column. -/
theorem merge_iff_sample : merge sampleTexts 0 { operation := .unionRows, inputTaskIds := ["t"] }
    [("t", { result := some sampleTable, truncated := true })] sampleScope none =
      .ok { unionTable sampleTable [] with operation := .unionRows, truncated := true } := by
  refine (merge_iff (by decide)).mpr ⟨by decide, [{ result := some sampleTable, truncated := true }],
    [sampleTable], unionTable sampleTable [], 2, .cons rfl .nil, rfl, ⟨by decide, by decide, [2], ?_, by decide⟩,
    rfl, nofun, rfl, by decide, rfl⟩
  exact .cons rfl .nil

end Federation.ControlledMerger
