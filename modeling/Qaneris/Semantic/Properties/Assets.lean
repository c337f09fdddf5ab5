import Mathlib.Tactic.Common
import Qaneris.Semantic.Assets

/-!
# What becomes of assets when the registry is opened

* `migration_keeps_iff` — for which kills a legacy table is moved without loss
-/

namespace Semantic

/-! ## Inserting -/

section Insert

variable {table : AssetTable} {row : AssetRow}

theorem keyOf_workspace (h : table.primaryKey = workspaceKey) (row : AssetRow) :
    table.keyOf row = [row.workspaceId, row.assetId] := by
  rw [AssetTable.keyOf, h]
  rfl

/-- Rows of distinct assets are all inserted. -/
theorem foldl_insertOrIgnore {rows : List AssetRow} (h : table.primaryKey = workspaceKey)
    (hkeys : ((table.rows ++ rows).map AssetRow.assetId).Nodup) :
    rows.foldl AssetTable.insertOrIgnore table = { table with rows := table.rows ++ rows } := by
  induction rows generalizing table with
  | nil => rw [List.append_nil]; rfl
  | cons row rows ih =>
    have hnew : ∀ other ∈ table.rows, table.keyOf other ≠ table.keyOf row := by
      intro other hother heq
      rw [keyOf_workspace h, keyOf_workspace h] at heq
      rw [List.map_append, List.nodup_append] at hkeys
      exact hkeys.2.2 other.assetId (List.mem_map_of_mem hother) row.assetId
        (by simp) (List.cons.inj (List.cons.inj heq).2).1
    have hinsert : table.insertOrIgnore row = { table with rows := table.rows ++ [row] } := by
      rw [AssetTable.insertOrIgnore, if_neg]
      simpa using hnew
    rw [List.foldl_cons, hinsert, ih]
    · simp
    · exact h
    · simpa using hkeys

end Insert

/-! ## Opening -/

section Opening

variable {db : Database} {table : AssetTable}

/-- The registry has a table with the key of a workspace. -/
def Migrated (db : Database) (table : AssetTable) : Prop :=
  db.asset = some table ∧ table.primaryKey = workspaceKey

/-- The table that is there before any row is saved. -/
def emptyTable : AssetTable := { primaryKey := workspaceKey, rows := [] }

theorem execute_cons {statement : Statement} {statements : List Statement} {db' : Database}
    (h : statement db = some db') : execute db (statement :: statements) = execute db' statements := by
  rw [execute, h]

theorem createTable_some (h : db.asset = some table) : createTable db = some db := by
  rw [createTable, h]

theorem createTable_none (h : db.asset = none) :
    createTable db = some { db with asset := some emptyTable } := by
  rw [createTable, h]
  rfl

theorem createIndex_some (h : db.asset = some table) :
    ∃ index, createIndex db = some { db with index } := by
  obtain ⟨asset, legacy, index⟩ := db
  obtain rfl : asset = some table := h
  cases index with
  | none => exact ⟨some .asset, rfl⟩
  | some name => exact ⟨some name, rfl⟩

/-- The index alone. -/
theorem execute_createIndex (h : db.asset = some table) (n : Nat) :
    (execute db ([createIndex].take n)).1.asset = some table ∧
      (execute db ([createIndex].take n)).2 = true := by
  cases n with
  | zero => exact ⟨h, rfl⟩
  | succ n =>
    obtain ⟨index, hindex⟩ := createIndex_some h
    rw [List.take_succ_cons, List.take_nil, execute_cons hindex]
    exact ⟨h, rfl⟩

/-- The schema leaves a table as it is, wherever it is stopped. -/
theorem execute_schema (h : db.asset = some table) (n : Nat) :
    (execute db (schema.take n)).1.asset = some table ∧ (execute db (schema.take n)).2 = true := by
  cases n with
  | zero => exact ⟨h, rfl⟩
  | succ n =>
    rw [schema, List.take_succ_cons, execute_cons (createTable_some h)]
    exact execute_createIndex h n

/-! ### A registry with its table -/

theorem initializeTables_migrated (h : Migrated db table) : initializeTables db = schema := by
  have hkey : primaryKeyColumns db = workspaceKey := by
    rw [primaryKeyColumns, h.1]
    exact h.2
  rw [initializeTables, migrate, if_pos (.inr hkey), List.nil_append]

theorem killed_migrated (h : Migrated db table) (n : Nat) : Migrated (killed db n) table := by
  rw [killed, initializeTables_migrated h]
  exact ⟨(execute_schema h.1 n).1, h.2⟩

theorem opened_migrated (h : Migrated db table) :
    Migrated (opened db).1 table ∧ (opened db).2 = true := by
  rw [opened, initializeTables_migrated h]
  exact ⟨⟨(execute_schema h.1 2).1, h.2⟩, (execute_schema h.1 2).2⟩

/-! ### A registry without a table -/

theorem initializeTables_none (h : db.asset = none) : initializeTables db = schema := by
  have hkey : primaryKeyColumns db = [] := by rw [primaryKeyColumns, h]
  rw [initializeTables, migrate, if_pos (.inl hkey), List.nil_append]

theorem killed_none (h : db.asset = none) (n : Nat) :
    (killed db n).asset = none ∨ Migrated (killed db n) emptyTable := by
  rw [killed, initializeTables_none h]
  cases n with
  | zero => exact .inl h
  | succ n =>
    right
    have hempty : ({ db with asset := some emptyTable } : Database).asset = some emptyTable := rfl
    rw [schema, List.take_succ_cons, execute_cons (createTable_none h)]
    exact ⟨(execute_createIndex hempty n).1, rfl⟩

theorem opened_none (h : db.asset = none) :
    Migrated (opened db).1 emptyTable ∧ (opened db).2 = true := by
  have hempty : ({ db with asset := some emptyTable } : Database).asset = some emptyTable := rfl
  have hindex := execute_createIndex hempty 1
  rw [opened, initializeTables_none h, schema, execute_cons (createTable_none h)]
  exact ⟨⟨hindex.1, rfl⟩, hindex.2⟩

/-! ### A registry with a legacy table -/

/-- The table is keyed by `asset_id` alone. -/
structure Legacy (db : Database) (table : AssetTable) : Prop where
  asset : db.asset = some table
  key : table.primaryKey = [.assetId]
  unique : (table.rows.map AssetRow.assetId).Nodup

/-- The table with the key of a workspace and the same rows. -/
def moved (table : AssetTable) : AssetTable := { primaryKey := workspaceKey, rows := table.rows }

theorem initializeTables_legacy (h : Legacy db table) :
    initializeTables db =
      [dropLegacy, renameTable, dropIndex, createTable, createIndex, copyRows] ++ schema := by
  have hkey : primaryKeyColumns db = [.assetId] := by
    rw [primaryKeyColumns, h.asset]
    exact h.key
  rw [initializeTables, migrate, if_neg]
  · rfl
  · rw [hkey]
    decide

theorem moved_asset (table : AssetTable) (index : Option TableName) :
    (⟨some (moved table), none, index⟩ : Database).asset = some (moved table) := rfl

/-- What a move of the table has done after each of its statements. -/
theorem execute_move (h : Legacy db table) :
    ∃ i₁ i₂, dropLegacy db = some ⟨some table, none, i₁⟩ ∧
      renameTable ⟨some table, none, i₁⟩ = some ⟨none, some table, i₂⟩ ∧
      dropIndex ⟨none, some table, i₂⟩ = some ⟨none, some table, none⟩ ∧
      createTable ⟨none, some table, none⟩ = some ⟨some emptyTable, some table, none⟩ ∧
      createIndex ⟨some emptyTable, some table, none⟩ =
        some ⟨some emptyTable, some table, some .asset⟩ ∧
      copyRows ⟨some emptyTable, some table, some .asset⟩ =
        some ⟨some (moved table), none, some .asset⟩ := by
  have hcopy : table.rows.foldl AssetTable.insertOrIgnore emptyTable = moved table :=
    foldl_insertOrIgnore rfl h.unique
  refine ⟨if db.index = some .legacy then none else db.index, _, ?_, rfl, rfl, rfl, rfl, ?_⟩
  · rw [dropLegacy, h.asset]
  · rw [copyRows]
    dsimp only
    rw [hcopy]
    rfl

/-- The stages of a move: nothing is moved, the rows are out of reach, and everything is moved. -/
theorem killed_legacy (h : Legacy db table) (n : Nat) :
    (n < 2 ∧ Legacy (killed db n) table) ∨
      (2 ≤ n ∧ n < 6 ∧ ((killed db n).asset = none ∨ Migrated (killed db n) emptyTable)) ∨
      (6 ≤ n ∧ Migrated (killed db n) (moved table)) := by
  obtain ⟨i₁, i₂, h₁, h₂, h₃, h₄, h₅, h₆⟩ := execute_move h
  rw [killed, initializeTables_legacy h]
  match n with
  | 0 => exact .inl ⟨by decide, h⟩
  | 1 =>
    refine .inl ⟨by decide, ?_⟩
    simp only [List.cons_append, List.take_succ_cons, List.take_zero, execute_cons h₁]
    exact ⟨rfl, h.key, h.unique⟩
  | 2 =>
    refine .inr (.inl ⟨by decide, by decide, .inl ?_⟩)
    simp only [List.cons_append, List.take_succ_cons, List.take_zero, execute_cons h₁,
      execute_cons h₂]
    rfl
  | 3 =>
    refine .inr (.inl ⟨by decide, by decide, .inl ?_⟩)
    simp only [List.cons_append, List.take_succ_cons, List.take_zero, execute_cons h₁,
      execute_cons h₂, execute_cons h₃]
    rfl
  | 4 =>
    refine .inr (.inl ⟨by decide, by decide, .inr ?_⟩)
    simp only [List.cons_append, List.take_succ_cons, List.take_zero, execute_cons h₁,
      execute_cons h₂, execute_cons h₃, execute_cons h₄]
    exact ⟨rfl, rfl⟩
  | 5 =>
    refine .inr (.inl ⟨by decide, by decide, .inr ?_⟩)
    simp only [List.cons_append, List.take_succ_cons, List.take_zero, execute_cons h₁,
      execute_cons h₂, execute_cons h₃, execute_cons h₄, execute_cons h₅]
    exact ⟨rfl, rfl⟩
  | n + 6 =>
    refine .inr (.inr ⟨by omega, ?_⟩)
    simp only [List.cons_append, List.nil_append, List.take_succ_cons, execute_cons h₁,
      execute_cons h₂, execute_cons h₃, execute_cons h₄, execute_cons h₅, execute_cons h₆]
    exact ⟨(execute_schema (moved_asset table (some .asset)) n).1, rfl⟩

theorem opened_legacy (h : Legacy db table) :
    Migrated (opened db).1 (moved table) ∧ (opened db).2 = true := by
  obtain ⟨i₁, i₂, h₁, h₂, h₃, h₄, h₅, h₆⟩ := execute_move h
  rw [opened, initializeTables_legacy h]
  simp only [List.cons_append, List.nil_append, execute_cons h₁, execute_cons h₂, execute_cons h₃,
    execute_cons h₄, execute_cons h₅, execute_cons h₆]
  have hschema := execute_schema (moved_asset table (some .asset)) 2
  exact ⟨⟨hschema.1, rfl⟩, hschema.2⟩

/-! ### Any number of kills -/

/-- The rows are out of reach: there is no table, or an empty one. -/
def Stranded (db : Database) : Prop := db.asset = none ∨ Migrated db emptyTable

theorem killed_stranded (h : Stranded db) (n : Nat) : Stranded (killed db n) := by
  rcases h with h | h
  · exact killed_none h n
  · exact .inr (killed_migrated h n)

theorem opened_stranded (h : Stranded db) :
    Migrated (opened db).1 emptyTable ∧ (opened db).2 = true := by
  rcases h with h | h
  · exact opened_none h
  · exact opened_migrated h

theorem foldl_migrated (h : Migrated db table) (kills : List Nat) :
    Migrated (kills.foldl killed db) table := by
  induction kills generalizing db with
  | nil => exact h
  | cons n kills ih => exact ih (killed_migrated h n)

theorem foldl_stranded (h : Stranded db) (kills : List Nat) :
    Stranded (kills.foldl killed db) := by
  induction kills generalizing db with
  | nil => exact h
  | cons n kills ih => exact ih (killed_stranded h n)

/-- No opening is killed between the renaming of the legacy table and the copying of its rows: the first
that is killed after the renaming is killed after the copying. -/
def Spared (kills : List Nat) : Prop := ∀ n ∈ kills.find? (2 ≤ ·), 6 ≤ n

instance (kills : List Nat) : Decidable (Spared kills) := inferInstanceAs (Decidable (∀ _ ∈ _, _))

/-- What the next opening finds after the kills. -/
theorem foldl_legacy (h : Legacy db table) (kills : List Nat) :
    (Spared kills ∧ (Legacy (kills.foldl killed db) table ∨
        Migrated (kills.foldl killed db) (moved table))) ∨
      (¬ Spared kills ∧ Stranded (kills.foldl killed db)) := by
  induction kills generalizing db with
  | nil => exact .inl ⟨nofun, .inl h⟩
  | cons n kills ih =>
    rcases killed_legacy h n with ⟨hn, hlegacy⟩ | ⟨hn, hn', hstranded⟩ | ⟨hn, hmoved⟩
    · have hfind : (n :: kills).find? (2 ≤ ·) = kills.find? (2 ≤ ·) := by
        rw [List.find?_cons_of_neg]
        simpa using hn
      rw [Spared, hfind, ← Spared]
      exact ih hlegacy
    · have hfind : (n :: kills).find? (2 ≤ ·) = some n := by
        rw [List.find?_cons_of_pos]
        simpa using hn
      refine .inr ⟨fun hspared => ?_, foldl_stranded hstranded kills⟩
      have hle := hspared n hfind
      omega
    · have hfind : (n :: kills).find? (2 ≤ ·) = some n := by
        rw [List.find?_cons_of_pos]
        simpa using (show 2 ≤ n by omega)
      refine .inl ⟨fun m hm => ?_, .inr (foldl_migrated hmoved kills)⟩
      rw [hfind] at hm
      obtain rfl := Option.some.inj hm
      exact hn

end Opening

/-! ## Reading -/

section Reading

variable {db : Database} {table : AssetTable} {row : AssetRow}

/-- The row is there, and `get` and `list` find its content. -/
structure Readable (db : Database) (row : AssetRow) : Prop where
  stored : ∃ table, db.asset = some table ∧ row ∈ table.rows
  get : getAsset db row.workspaceId row.assetId = some row.assetJson
  list : row.assetJson ∈ listAssets db row.workspaceId

/-- The row that `get` looks for. -/
def rowOf (table : AssetTable) (workspaceId assetId : String) : Option AssetRow :=
  table.rows.find? fun row => row.workspaceId = workspaceId ∧ row.assetId = assetId

theorem readable_of_rowOf (h : db.asset = some table)
    (hrow : rowOf table row.workspaceId row.assetId = some row) : Readable db row := by
  have hmem := List.mem_of_find?_eq_some hrow
  refine ⟨⟨table, h, hmem⟩, ?_, ?_⟩
  · rw [getAsset, h, Option.bind_some]
    rw [rowOf] at hrow
    rw [hrow]
    rfl
  · rw [listAssets, h]
    refine List.mem_map_of_mem (List.mem_mergeSort.mpr ?_)
    rw [List.mem_filter]
    exact ⟨hmem, by simp⟩

theorem rowOf_unique (hunique : (table.rows.map AssetRow.assetId).Nodup) (h : row ∈ table.rows) :
    rowOf table row.workspaceId row.assetId = some row := by
  cases hfind : rowOf table row.workspaceId row.assetId with
  | none =>
    have hnone := List.find?_eq_none.mp hfind row h
    simp at hnone
  | some other =>
    have hkey := List.find?_some hfind
    simp only [decide_eq_true_eq] at hkey
    rw [Option.some_inj]
    exact List.inj_on_of_nodup_map hunique (List.mem_of_find?_eq_some hfind) h hkey.2

theorem not_readable_empty (h : Migrated db emptyTable) : ¬ Readable db row := by
  rintro ⟨⟨table, htable, hmem⟩, -, -⟩
  rw [h.1] at htable
  obtain rfl := Option.some.inj htable
  exact absurd hmem List.not_mem_nil

end Reading

/-! ## Saving -/

section Saving

variable {db : Database} {table : AssetTable} {row : AssetRow}

/-- Rows of one key are rows of one asset of a workspace. -/
theorem keyOf_eq_iff (h : table.primaryKey = workspaceKey) {a b : AssetRow} :
    table.keyOf a = table.keyOf b ↔ a.workspaceId = b.workspaceId ∧ a.assetId = b.assetId := by
  rw [keyOf_workspace h, keyOf_workspace h]
  simp

theorem rowOf_upsert (h : table.primaryKey = workspaceKey) (row : AssetRow) :
    rowOf (table.upsert row) row.workspaceId row.assetId = some row := by
  rw [rowOf, AssetTable.upsert]
  split
  · next hany =>
    obtain ⟨other, hother, hkey⟩ := List.any_eq_true.mp hany
    dsimp only
    rw [List.find?_map]
    cases hfind : table.rows.find? ((fun other => decide (other.workspaceId = row.workspaceId ∧
        other.assetId = row.assetId)) ∘ fun other =>
          if table.keyOf other = table.keyOf row then row else other) with
    | none =>
      have hnone := List.find?_eq_none.mp hfind other hother
      rw [decide_eq_true_eq] at hkey
      simp [hkey] at hnone
    | some found =>
      have hfound := List.find?_some hfind
      by_cases hsame : table.keyOf found = table.keyOf row
      · rw [Option.map_some, if_pos hsame]
      · rw [Function.comp_apply, if_neg hsame, decide_eq_true_eq] at hfound
        exact absurd ((keyOf_eq_iff h).mpr hfound) hsame
  · next hany =>
    have hnone : table.rows.find? (fun other => decide (other.workspaceId = row.workspaceId ∧
        other.assetId = row.assetId)) = none := by
      rw [List.find?_eq_none]
      intro other hother hkey
      rw [decide_eq_true_eq] at hkey
      exact hany (List.any_eq_true.mpr ⟨other, hother, decide_eq_true ((keyOf_eq_iff h).mpr hkey)⟩)
    dsimp only
    rw [List.find?_append, hnone, Option.none_or]
    simp

/-- A row of another key is where it was. -/
theorem rowOf_upsert_ne {workspaceId assetId : String} (h : table.primaryKey = workspaceKey)
    (hne : ¬ (row.workspaceId = workspaceId ∧ row.assetId = assetId)) :
    rowOf (table.upsert row) workspaceId assetId = rowOf table workspaceId assetId := by
  rw [rowOf, rowOf, AssetTable.upsert]
  split
  · dsimp only
    rw [List.find?_map]
    have hpred : (fun other : AssetRow => decide (other.workspaceId = workspaceId ∧
        other.assetId = assetId)) ∘ (fun other =>
          if table.keyOf other = table.keyOf row then row else other) =
        fun other => decide (other.workspaceId = workspaceId ∧ other.assetId = assetId) := by
      funext other
      rw [Function.comp_apply]
      split
      · next hsame =>
        obtain ⟨hworkspace, hasset⟩ := (keyOf_eq_iff h).mp hsame
        rw [hworkspace, hasset]
      · rfl
    rw [hpred]
    cases hfind : table.rows.find? (fun other => decide (other.workspaceId = workspaceId ∧
        other.assetId = assetId)) with
    | none => rfl
    | some found =>
      have hfound := List.find?_some hfind
      rw [decide_eq_true_eq] at hfound
      rw [Option.map_some, if_neg]
      intro hsame
      obtain ⟨hworkspace, hasset⟩ := (keyOf_eq_iff h).mp hsame
      exact hne ⟨hworkspace ▸ hfound.1, hasset ▸ hfound.2⟩
  · dsimp only
    rw [List.find?_append]
    have hnone : [row].find? (fun other => decide (other.workspaceId = workspaceId ∧
        other.assetId = assetId)) = none := by
      simpa using hne
    rw [hnone, Option.or_none]

/-- What may happen to a registry that has been opened. -/
inductive RegistryEvent where
  | save (asset : SemanticAsset)
  | killed (statements : Nat)
  | opened

/-- A save that raises leaves the registry as it is. -/
def RegistryEvent.apply (db : Database) : RegistryEvent → Database
  | .save asset =>
    match Semantic.save db asset with
    | .ok db => db
    | .error _ => db
  | .killed statements => Semantic.killed db statements
  | .opened => (Semantic.opened db).1

theorem save_ok {asset : SemanticAsset} {saved : Database} (h : Migrated db table)
    (hsave : save db asset = .ok saved) : Migrated saved (table.upsert asset.row) := by
  rw [save, h.1] at hsave
  cases hvalid : validateTrustedGovernance asset with
  | error e =>
    rw [hvalid] at hsave
    cases hsave
  | ok u =>
    rw [hvalid] at hsave
    dsimp only [Except.bind, bind] at hsave
    rw [if_pos h.2] at hsave
    obtain rfl := Except.ok.inj hsave
    refine ⟨rfl, ?_⟩
    rw [AssetTable.upsert]
    split <;> exact h.2

/-- What happens to a registry leaves every row but the one that is saved. -/
theorem apply_migrated (h : Migrated db table) (event : RegistryEvent) :
    ∃ table', Migrated (event.apply db) table' ∧ ∀ workspaceId assetId,
      (∀ asset, event = .save asset → ¬ (asset.workspaceId = workspaceId ∧ asset.assetId = assetId)) →
      rowOf table' workspaceId assetId = rowOf table workspaceId assetId := by
  cases event with
  | killed statements => exact ⟨table, killed_migrated h statements, fun _ _ _ => rfl⟩
  | opened => exact ⟨table, (opened_migrated h).1, fun _ _ _ => rfl⟩
  | save asset =>
    cases hsave : save db asset with
    | error e =>
      refine ⟨table, ?_, fun _ _ _ => rfl⟩
      rw [RegistryEvent.apply, hsave]
      exact h
    | ok saved =>
      refine ⟨table.upsert asset.row, ?_, fun workspaceId assetId hother => ?_⟩
      · rw [RegistryEvent.apply, hsave]
        exact save_ok h hsave
      · exact rowOf_upsert_ne h.2 (hother asset rfl)

theorem foldl_apply_migrated (h : Migrated db table) (events : List RegistryEvent) :
    ∃ table', Migrated (events.foldl RegistryEvent.apply db) table' ∧ ∀ workspaceId assetId,
      (∀ asset, .save asset ∈ events →
        ¬ (asset.workspaceId = workspaceId ∧ asset.assetId = assetId)) →
      rowOf table' workspaceId assetId = rowOf table workspaceId assetId := by
  induction events generalizing db table with
  | nil => exact ⟨table, h, fun _ _ _ => rfl⟩
  | cons event events ih =>
    obtain ⟨next, hnext, hfirst⟩ := apply_migrated h event
    obtain ⟨last, hlast, hrest⟩ := ih hnext
    refine ⟨last, hlast, fun workspaceId assetId hother => ?_⟩
    rw [hrest workspaceId assetId fun asset hasset => hother asset (List.mem_cons_of_mem _ hasset),
      hfirst workspaceId assetId]
    rintro asset rfl
    exact hother asset List.mem_cons_self

/-- **What is saved stays as it is**, however often the registry is opened and killed, until it is saved
again. -/
theorem readable_saved {asset : SemanticAsset} {saved : Database} (h : Migrated db table)
    (hsave : save db asset = .ok saved) (events : List RegistryEvent)
    (hother : ∀ other, .save other ∈ events →
      ¬ (other.workspaceId = asset.workspaceId ∧ other.assetId = asset.assetId)) :
    Readable (events.foldl RegistryEvent.apply saved) asset.row := by
  have hsaved := save_ok h hsave
  obtain ⟨table', hmigrated, hrows⟩ := foldl_apply_migrated hsaved events
  refine readable_of_rowOf hmigrated.1 ?_
  have hrow := hrows asset.workspaceId asset.assetId hother
  exact hrow.trans (rowOf_upsert h.2 asset.row)

/-- **Opening the registry until it succeeds loses no legacy row, and no later opening overwrites what is
saved, if and only if there is no legacy row or no opening is killed between the renaming of the table
and the copying of its rows.** -/
theorem migration_keeps_iff (h : Legacy db table) (kills : List Nat) :
    ((opened (kills.foldl killed db)).2 = true ∧
      (∀ row ∈ table.rows, Readable (opened (kills.foldl killed db)).1 row) ∧
      ∀ (before after : List RegistryEvent) (asset : SemanticAsset) (saved : Database),
        save (before.foldl RegistryEvent.apply (opened (kills.foldl killed db)).1) asset = .ok saved →
        (∀ other, .save other ∈ after →
          ¬ (other.workspaceId = asset.workspaceId ∧ other.assetId = asset.assetId)) →
        Readable (after.foldl RegistryEvent.apply saved) asset.row) ↔
      table.rows = [] ∨ Spared kills := by
  have hlater : ∀ {table' : AssetTable}, Migrated (opened (kills.foldl killed db)).1 table' →
      ∀ (before after : List RegistryEvent) (asset : SemanticAsset) (saved : Database),
        save (before.foldl RegistryEvent.apply (opened (kills.foldl killed db)).1) asset = .ok saved →
        (∀ other, .save other ∈ after →
          ¬ (other.workspaceId = asset.workspaceId ∧ other.assetId = asset.assetId)) →
        Readable (after.foldl RegistryEvent.apply saved) asset.row := by
    intro table' hmigrated before after asset saved hsave hother
    obtain ⟨table'', hbefore, -⟩ := foldl_apply_migrated hmigrated before
    exact readable_saved hbefore hsave after hother
  rcases foldl_legacy h kills with ⟨hspared, hstate⟩ | ⟨hnot, hstranded⟩
  · -- every row is in the moved table
    have hopened : Migrated (opened (kills.foldl killed db)).1 (moved table) ∧
        (opened (kills.foldl killed db)).2 = true := by
      rcases hstate with hlegacy | hmoved
      · exact opened_legacy hlegacy
      · exact opened_migrated hmoved
    refine iff_of_true ⟨hopened.2, fun row hrow => ?_, hlater hopened.1⟩ (.inr hspared)
    have hmem : row ∈ (moved table).rows := hrow
    exact readable_of_rowOf hopened.1.1 (rowOf_unique h.unique hmem)
  · obtain ⟨hempty, hsuccess⟩ := opened_stranded hstranded
    constructor
    · rintro ⟨-, hreadable, -⟩
      left
      rw [List.eq_nil_iff_forall_not_mem]
      exact fun row hrow => not_readable_empty hempty (hreadable row hrow)
    · rintro (hrows | hspared)
      · refine ⟨hsuccess, fun row hrow => ?_, hlater hempty⟩
        rw [hrows] at hrow
        cases hrow
      · exact absurd hspared hnot

end Saving

/-! ## A legacy table of one row -/

section Sample

def revenueRow : AssetRow where
  assetId := "revenue"
  workspaceId := "default"
  kind := "metric"
  name := "Revenue"
  status := "approved"
  assetJson := "\x7b\"asset_id\":\"revenue\"\x7d"
  updatedAt := "2024-01-31T00:00:00+00:00"

def legacyTable : AssetTable := { primaryKey := [.assetId], rows := [revenueRow] }

def legacyDatabase : Database := { asset := some legacyTable, legacy := none, index := some .asset }

theorem legacyDatabase_legacy : Legacy legacyDatabase legacyTable := ⟨rfl, rfl, by decide⟩

/-- Two openings that are killed, before the renaming and after the copying. -/
theorem migration_keeps_sample :
    Readable (opened ([1, 7].foldl killed legacyDatabase)).1 revenueRow :=
  ((migration_keeps_iff legacyDatabase_legacy [1, 7]).mpr (.inr (by decide))).2.1 revenueRow
    List.mem_cons_self

/-- An opening that is killed right after the renaming: the next one finds no table to move, and makes an
empty one beside the rows. -/
theorem renamed_row_lost :
    (opened ([2].foldl killed legacyDatabase)).2 = true ∧
      (opened ([2].foldl killed legacyDatabase)).1.legacy = some legacyTable ∧
      ¬ Readable (opened ([2].foldl killed legacyDatabase)).1 revenueRow := by
  refine ⟨by decide, by decide, fun h => ?_⟩
  have hget : getAsset (opened ([2].foldl killed legacyDatabase)).1 revenueRow.workspaceId
      revenueRow.assetId = none := by
    decide
  rw [h.get] at hget
  cases hget

end Sample

end Semantic
