import Qaneris.Federation.Merger

/-!
# What a keyed join returns

* `join_relational` — a join fails as its mapping says, and otherwise returns the rows of the inner, left or
  anti join of the rows that have a key
-/

namespace Federation.ControlledMerger

open Infra (Dict partners innerJoin leftJoin antiJoin)

/-! ## The relational definition -/

namespace JoinInputs

variable (ins : JoinInputs)

def leftRows : List (Dict Cell) := keyedRows ins.leftKey ins.left.rows

def rightRows : List (Dict Cell) := keyedRows ins.rightKey ins.right.rows

/-- A row of one of the sides has no key. -/
def HasNull : Prop := (∃ row ∈ ins.left.rows, cellOf row ins.leftKey = .null) ∨
  ∃ row ∈ ins.right.rows, cellOf row ins.rightKey = .null

instance : Decidable ins.HasNull := inferInstanceAs (Decidable (_ ∨ _))

/-- The keys that are there have a hash. -/
def Hashable : Prop := (∀ row ∈ ins.leftRows, rowKey ins.leftKey row ≠ none) ∧
  ∀ row ∈ ins.rightRows, rowKey ins.rightKey row ≠ none

instance : Decidable ins.Hashable := inferInstanceAs (Decidable (_ ∧ _))

/-- A side that is declared unique repeats a key. -/
def Repeats (cardinality : Cardinality) : Prop :=
  (leftUnique cardinality ∧ ¬(ins.leftRows.map (rowKey ins.leftKey)).Nodup) ∨
    (rightUnique cardinality ∧ ¬(ins.rightRows.map (rowKey ins.rightKey)).Nodup)

instance (cardinality : Cardinality) : Decidable (ins.Repeats cardinality) :=
  inferInstanceAs (Decidable (_ ∨ _))

/-- The rows of the join of a mode. -/
def relational : JoinMode → List (Dict Cell)
  | .inner => (innerJoin (rowKey ins.leftKey) (rowKey ins.rightKey) ins.leftRows ins.rightRows).map
      fun pair => joined ins pair.1 (some pair.2)
  | .left => (leftJoin (rowKey ins.leftKey) (rowKey ins.rightKey) ins.leftRows ins.rightRows).map
      fun pair => joined ins pair.1 pair.2
  | .anti => (antiJoin (rowKey ins.leftKey) (rowKey ins.rightKey) ins.leftRows ins.rightRows).map
      (leftPart ins)

/-- A row of the left side, with nulls for the right side. -/
def padded (row : Dict Cell) : Dict Cell := row.update (rightPart ins none)

/-- The warnings about the rows that have no key. -/
def nullWarnings : List String :=
  (if nullRows ins.leftKey ins.left.rows = [] then []
    else ["left_null_keys_dropped:" ++ toString (nullRows ins.leftKey ins.left.rows).length]) ++
  if nullRows ins.rightKey ins.right.rows = [] then []
    else ["right_null_keys_dropped:" ++ toString (nullRows ins.rightKey ins.right.rows).length]

end JoinInputs

variable {ins : JoinInputs} {inputs : List SourceResponse} {plan : MergePlan} {mapping : JoinMapping}
  {mode : JoinMode} {key : String} {rows : List (Dict Cell)}

theorem nullRows_ne_nil_iff : nullRows key rows ≠ [] ↔ ∃ row ∈ rows, cellOf row key = .null := by
  rw [nullRows, Ne, List.filter_eq_nil_iff]
  push Not
  simp only [decide_eq_true_eq]

theorem hasNull_iff : ins.HasNull ↔
    nullRows ins.leftKey ins.left.rows ≠ [] ∨ nullRows ins.rightKey ins.right.rows ≠ [] := by
  rw [nullRows_ne_nil_iff, nullRows_ne_nil_iff, JoinInputs.HasNull]

/-- What a row of the left side contributes to the join of a mode. -/
theorem flatMap_joinRow (mode : JoinMode) :
    (ins.leftRows.flatMap fun row =>
      joinRow ins (some mode) row (partners (rowKey ins.leftKey) (rowKey ins.rightKey) ins.rightRows row)) =
      ins.relational mode := by
  cases mode with
  | inner =>
    unfold JoinInputs.relational innerJoin
    rw [List.map_flatMap]
    refine List.flatMap_congr fun row _ => ?_
    simp [joinRow]
  | left =>
    unfold JoinInputs.relational leftJoin
    rw [List.map_flatMap]
    refine List.flatMap_congr fun row _ => ?_
    by_cases h : partners (rowKey ins.leftKey) (rowKey ins.rightKey) ins.rightRows row = []
    · simp [joinRow, h]
    · simp [joinRow, h]
  | anti =>
    unfold JoinInputs.relational antiJoin
    induction ins.leftRows with
    | nil => rfl
    | cons row rows ih =>
      rw [List.flatMap_cons, ih, List.filter_cons]
      by_cases h : partners (rowKey ins.leftKey) (rowKey ins.rightKey) ins.rightRows row = []
      · simp [joinRow, h]
      · simp [joinRow, h]

/-! ## The checks -/

/-- The warning of a side. -/
def sideWarnings (side key : String) (rows : List (Dict Cell)) : List String :=
  if nullRows key rows = [] then []
  else [side ++ "_null_keys_dropped:" ++ toString (nullRows key rows).length]

theorem prepare_reject {side : String} (h : nullRows key rows ≠ []) :
    prepare .reject side key rows = .error (.failure "join_null_key") := if_pos ⟨h, rfl⟩

theorem prepare_ok {policy : NullPolicy} {side : String} (h : ¬(nullRows key rows ≠ [] ∧ policy = .reject)) :
    prepare policy side key rows = .ok (keyedRows key rows, sideWarnings side key rows) := if_neg h

theorem requireHashes_eq : requireHashes key rows =
    if ∀ row ∈ rows, rowKey key row ≠ none then .ok () else .error .invalid := by
  unfold requireHashes
  by_cases h : ∀ row ∈ rows, rowKey key row ≠ none
  · rw [if_pos h, if_neg]
    rw [List.any_eq_true]
    rintro ⟨row, hrow, hnone⟩
    exact h row hrow (of_decide_eq_true hnone)
  · rw [if_neg h, if_pos]
    push Not at h
    obtain ⟨row, hrow, hnone⟩ := h
    exact List.any_eq_true.mpr ⟨row, hrow, decide_eq_true hnone⟩

theorem requireUnique_eq (unique : Bool) : requireUnique unique key rows =
    if unique ∧ ¬(rows.map (rowKey key)).Nodup then .error (.failure "join_cardinality_violation")
    else .ok () := by
  unfold requireUnique
  refine if_congr (and_congr_right fun _ => ?_) rfl rfl
  rw [← Infra.exists_repeated_iff, List.any_eq_true]
  simp only [decide_eq_true_eq]

/-- How a join ends, by what its inputs are. -/
theorem join_eq (hin : joinInputs inputs mapping = .ok ins) (hmode : plan.joinMode = some mode) :
    join inputs plan mapping =
      if ins.HasNull ∧ mapping.nullPolicy = .reject then .error (.failure "join_null_key")
      else if ¬ins.Hashable then .error .invalid
      else if ins.Repeats mapping.cardinality then .error (.failure "join_cardinality_violation")
      else .ok {
        columns := ins.left.columns.map ("left_" ++ ·) ++
          if mode = .anti then [] else ins.right.columns.map ("right_" ++ ·)
        rows := ins.relational mode, rowCount := (ins.relational mode).length, operation := .keyedJoin
        warnings := ins.nullWarnings } := by
  have hindex : ∀ row, Infra.rowsAt (Infra.indexBy (rowKey ins.rightKey) ins.rightRows) (rowKey ins.leftKey row) =
      partners (rowKey ins.leftKey) (rowKey ins.rightKey) ins.rightRows row :=
    fun row => Infra.rowsAt_indexBy _ _
  by_cases hnull : ins.HasNull ∧ mapping.nullPolicy = .reject
  · obtain ⟨hside, hpolicy⟩ := hnull
    rw [if_pos ⟨hside, hpolicy⟩, join, hin, hpolicy]
    by_cases hleft : nullRows ins.leftKey ins.left.rows = []
    · have hright := (hasNull_iff.mp hside).resolve_left (absurd hleft)
      have hprepared : prepare .reject "left" ins.leftKey ins.left.rows = _ :=
        prepare_ok fun h => h.1 hleft
      simp only [bind, Except.bind, hprepared, prepare_reject hright]
    · simp only [bind, Except.bind, prepare_reject hleft]
  · have hleft : ¬(nullRows ins.leftKey ins.left.rows ≠ [] ∧ mapping.nullPolicy = .reject) :=
      fun h => hnull ⟨hasNull_iff.mpr (.inl h.1), h.2⟩
    have hright : ¬(nullRows ins.rightKey ins.right.rows ≠ [] ∧ mapping.nullPolicy = .reject) :=
      fun h => hnull ⟨hasNull_iff.mpr (.inr h.1), h.2⟩
    rw [if_neg hnull, join, hin]
    simp only [bind, Except.bind, prepare_ok hleft, prepare_ok hright, requireHashes_eq, requireUnique_eq]
    by_cases hl : ∀ row ∈ keyedRows ins.leftKey ins.left.rows, rowKey ins.leftKey row ≠ none
    · by_cases hr : ∀ row ∈ keyedRows ins.rightKey ins.right.rows, rowKey ins.rightKey row ≠ none
      · rw [if_neg (not_not.mpr ⟨hl, hr⟩), if_pos hl, if_pos hr]
        by_cases hul : leftUnique mapping.cardinality ∧
            ¬((keyedRows ins.leftKey ins.left.rows).map (rowKey ins.leftKey)).Nodup
        · have hrepeats : ins.Repeats mapping.cardinality := .inl hul
          rw [if_pos hrepeats, if_pos hul]
        · rw [if_neg hul]
          by_cases hur : rightUnique mapping.cardinality ∧
              ¬((keyedRows ins.rightKey ins.right.rows).map (rowKey ins.rightKey)).Nodup
          · have hrepeats : ins.Repeats mapping.cardinality := .inr hur
            rw [if_pos hrepeats, if_pos hur]
          · have hrows : ((keyedRows ins.leftKey ins.left.rows).flatMap fun row => joinRow ins (some mode) row
                (Infra.rowsAt (Infra.indexBy (rowKey ins.rightKey) (keyedRows ins.rightKey ins.right.rows))
                  (rowKey ins.leftKey row))) = ins.relational mode := by
              rw [← flatMap_joinRow]
              exact List.flatMap_congr fun row _ => congrArg _ (hindex row)
            have hrepeats : ¬ins.Repeats mapping.cardinality := not_or.mpr ⟨hul, hur⟩
            rw [if_neg hur, if_neg hrepeats]
            simp only [hmode, hrows, Option.some.injEq]
            rfl
      · rw [if_pos fun h : ins.Hashable => hr h.2, if_pos hl, if_neg hr]
    · rw [if_pos fun h : ins.Hashable => hl h.1, if_neg hl]

/-- The left join is the inner join, and the padded rows of the anti join. -/
theorem relational_left_perm : (ins.relational .left).Perm
    (ins.relational .inner ++ (ins.relational .anti).map ins.padded) := by
  have hperm := (Infra.leftJoin_perm (rowKey ins.leftKey) (rowKey ins.rightKey) ins.leftRows
    ins.rightRows).map fun pair => joined ins pair.1 pair.2
  rw [List.map_append, List.map_map, List.map_map] at hperm
  unfold JoinInputs.relational
  rw [List.map_map]
  exact hperm

section Customers

/-- A plan that reads the customer of each row of an object. -/
def customerPlan (datasourceId objectId : String) (hd : 1 ≤ datasourceId.length) (ho : 1 ≤ objectId.length) :
    Contracts.GroundedQueryPlan where
  planId := "plan"
  workspaceId := "w"
  datasourceId := datasourceId
  dataObjectIds := [objectId]
  selectedFields := [{ datasourceId := datasourceId, dataObjectId := objectId, fieldPath := "t.customer"
                       datasourceId_length := hd, dataObjectId_length := ho, fieldPath_length := by decide }]
  expectedResultType := .tabular
  planId_length := by decide
  dataObjectIds_length := Nat.le_refl 1
  limit_range := by decide
  time_together := rfl
  output := .inr (List.cons_ne_nil _ _)
  dataObjectIds_unique := List.nodup_singleton _
  join_required := fun h => absurd h (Nat.lt_irrefl 1)
  groupBy_selected := fun _ h => absurd h List.not_mem_nil
  dataObjects_keys := fun _ h => absurd h List.not_mem_nil

def customerResponse (datasourceId objectId : String) (hd : 1 ≤ datasourceId.length)
    (ho : 1 ≤ objectId.length) (keys : List Cell) : SourceResponse where
  plan := some (.grounded (customerPlan datasourceId objectId hd ho))
  result := some { columns := ["customer"], rows := keys.map fun key => [("customer", key)] }

def customerMapping : JoinMapping where
  mappingId := "m"
  workspaceId := "w"
  businessKey := "customer"
  left := { datasourceId := "crm", dataObjectId := "people", fieldPath := "t.customer", grain := "row" }
  right := { datasourceId := "shop", dataObjectId := "orders", fieldPath := "t.customer", grain := "row" }
  cardinality := .oneToMany
  nullPolicy := .drop
  createdAt := 0
  updatedAt := 0

end Customers

end Federation.ControlledMerger
