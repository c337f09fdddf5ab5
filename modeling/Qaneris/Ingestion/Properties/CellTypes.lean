import Mathlib.Data.List.Induction
import Mathlib.Data.Rat.Encodable
import Mathlib.Order.Bounds.Basic
import Qaneris.Infra.Except
import Qaneris.Infra.JsonText
import Qaneris.Ingestion.CellTypes

/-!
# What a column type holds

* `inferColumnType_iff` — the type of a column is the least one that holds each of its kinds
* `coerceCell_iff` — a cell is converted to the type of its column except where its number is too large, and
  it is read back from what was written
-/

namespace Ingestion

open Infra (CalendarDay TimeOfDay midnight isoTime isoDateTime readDay readDateTime readTime readInt)

/-! ## The order of the types -/

namespace ColumnType

/-- A column of the second type holds what one of the first does. -/
def le : ColumnType → ColumnType → Bool
  | _, .text | .integer, .real | .date, .datetime => true
  | a, b => a = b

/-- The type that two types are widened to. -/
def join (a b : ColumnType) : ColumnType := if a.le b then b else if b.le a then a else .text

instance : PartialOrder ColumnType where
  le a b := a.le b = true
  le_refl a := by cases a <;> rfl
  le_trans a b c hab hbc := by cases a <;> cases b <;> cases c <;> simp_all [le]
  le_antisymm a b hab hba := by cases a <;> cases b <;> simp_all [le]

theorem le_iff {a b : ColumnType} : a ≤ b ↔ a.le b = true := Iff.rfl

theorem le_text (a : ColumnType) : a ≤ .text := by cases a <;> rfl

theorem eq_text_of_not_le {a b c : ColumnType} (hac : a ≤ c) (hbc : b ≤ c) (hab : ¬ a ≤ b) (hba : ¬ b ≤ a) :
    c = .text := by
  rw [le_iff] at hac hbc hab hba
  cases c <;> cases a <;> cases b <;> simp_all [le]

instance : SemilatticeSup ColumnType where
  sup := join
  le_sup_left a b := by
    show a ≤ join a b
    unfold join
    split
    · assumption
    · split
      · exact le_refl a
      · exact le_text a
  le_sup_right a b := by
    show b ≤ join a b
    unfold join
    split
    · exact le_refl b
    · split
      · assumption
      · exact le_text b
  sup_le a b c hac hbc := by
    show join a b ≤ c
    unfold join
    split
    · exact hbc
    · split
      · exact hac
      · rw [eq_text_of_not_le hac hbc ‹_› ‹_›]

end ColumnType

/-- Types are widened to the least one that holds both. -/
theorem widen_some (a b : ColumnType) : widen (some a) (some b) = some (a ⊔ b) := by
  cases a <;> cases b <;> rfl

theorem widen_none (a : Option ColumnType) : widen a none = a := by cases a <;> rfl

/-! ## The type of a column -/

/-- The types that the kinds of a column ask for. -/
def askedTypes (kinds : List CellKind) : Set ColumnType := {type | ∃ kind ∈ kinds, kindType kind = some type}

theorem askedTypes_append (kinds : List CellKind) (kind : CellKind) :
    askedTypes (kinds ++ [kind]) = askedTypes kinds ∪ {type | kindType kind = some type} := by
  ext type
  simp [askedTypes, or_and_right, exists_or]

/-- The result of widening these types: nothing, or the least type above them. -/
def Widened (types : Set ColumnType) : Option ColumnType → Prop
  | none => types = ∅
  | some type => types.Nonempty ∧ IsLUB types type

theorem Widened.step {types : Set ColumnType} {result : Option ColumnType} (h : Widened types result)
    (kind : CellKind) : Widened (types ∪ {type | kindType kind = some type}) (widen result (kindType kind)) := by
  cases hasked : kindType kind with
  | none => simpa [widen_none] using h
  | some asked =>
    have hone : {type | some asked = some type} = {asked} := by
      ext type
      simp [eq_comm]
    rw [hone]
    cases result with
    | none =>
      have hempty : types = ∅ := h
      rw [hempty, Set.empty_union]
      exact ⟨Set.singleton_nonempty asked, isLUB_singleton⟩
    | some type =>
      rw [widen_some]
      exact ⟨h.1.inl, h.2.union isLUB_singleton⟩

theorem widened_foldl (kinds : List CellKind) :
    Widened (askedTypes kinds) (kinds.foldl (fun result kind => widen result (kindType kind)) none) := by
  induction kinds using List.reverseRecOn with
  | nil => simp [askedTypes, Widened]
  | append_singleton kinds kind ih =>
    rw [askedTypes_append, List.foldl_append]
    exact ih.step kind

theorem le_inferColumnType {kinds : List CellKind} {kind : CellKind} {asked : ColumnType} (h : kind ∈ kinds)
    (hasked : kindType kind = some asked) : asked ≤ inferColumnType kinds := by
  have hwidened := widened_foldl kinds
  unfold inferColumnType
  cases hfold : kinds.foldl (fun result kind => widen result (kindType kind)) none with
  | none => exact ColumnType.le_text asked
  | some found =>
    rw [hfold] at hwidened
    exact hwidened.2.1 ⟨kind, h, hasked⟩

/-- **The type of a column is the least one that holds each of its kinds**, and TEXT where there is none. So it
depends neither on the order of the rows nor on how often a kind comes. -/
theorem inferColumnType_iff {kinds : List CellKind} {type : ColumnType} : inferColumnType kinds = type ↔
    IsLUB (askedTypes kinds) type ∨ (∀ kind ∈ kinds, kind = .null) ∧ type = .text := by
  have hnull : askedTypes kinds = ∅ ↔ ∀ kind ∈ kinds, kind = .null := by
    rw [Set.eq_empty_iff_forall_notMem]
    constructor
    · intro h kind hkind
      by_contra hne
      obtain ⟨asked, hasked⟩ : ∃ asked, kindType kind = some asked := by
        cases kind <;> simp_all [kindType]
      exact h asked ⟨kind, hkind, hasked⟩
    · rintro h asked ⟨kind, hkind, hasked⟩
      rw [h kind hkind] at hasked
      cases hasked
  have hwidened := widened_foldl kinds
  unfold inferColumnType
  cases hfold : kinds.foldl (fun result kind => widen result (kindType kind)) none with
  | none =>
    rw [hfold] at hwidened
    have hempty : askedTypes kinds = ∅ := hwidened
    have hlub : ¬ IsLUB (askedTypes kinds) type := by
      rw [hempty, isLUB_empty_iff]
      intro hbot
      have hboolean := hbot .boolean
      have hinteger := hbot .integer
      rw [ColumnType.le_iff] at hboolean hinteger
      cases type <;> simp_all [ColumnType.le]
    have hall := hnull.mp hempty
    simp only [hlub, false_or, Option.getD_none]
    exact ⟨fun h => ⟨hall, h.symm⟩, fun h => h.2.symm⟩
  | some found =>
    rw [hfold] at hwidened
    have hsome : ¬ ∀ kind ∈ kinds, kind = .null := fun h => hwidened.1.ne_empty (hnull.mpr h)
    simp only [hsome, false_and, or_false, Option.getD_some]
    constructor
    · rintro rfl
      exact hwidened.2
    · exact fun h => hwidened.2.unique h

/-! ## Cells -/

/-- The number of the cell is not too large for a column of this type. -/
def Fits (t : CellTexts) : ColumnType → CellValue → Prop
  | .real, .int n => |binary64.round n| < 2 ^ 1024
  | .text, .int n => (toString n.natAbs).length ≤ t.maxStrDigits
  | _, _ => True

/-- What a text stands for that a cell of this kind was written as. -/
def readText (t : CellTexts) : CellKind → String → Option CellValue
  | .null, _ => none
  | .boolean, s => if s = "true" then some (.bool true) else if s = "false" then some (.bool false) else none
  | .integer, s => some (.int (readInt s.toList))
  | .real, s =>
    match t.floatOf s with
    | some (.real x) => some (.float x)
    | _ => none
  | .date, s => (readDay s.toList).map fun r => .date r.1
  | .datetime, s => (readDateTime s.toList).map fun r => .datetime r.1.1 r.1.2
  | .time, s => (readTime s.toList).map fun r => .time r.1
  | .text, s => some (.str s)

/-- What a value in a column of this type stands for; in a column of texts, by the kind of its cell. -/
def readValue (t : CellTexts) (kind : CellKind) : ColumnType → SqlValue → Option CellValue
  | .boolean, .integer n => if n = 1 then some (.bool true) else if n = 0 then some (.bool false) else none
  | .integer, .integer n => some (.int n)
  | .real, .real x => some (.float x)
  | .date, .text s => readText t .date s
  | .datetime, .text s => readText t .datetime s
  | .text, .text s => readText t kind s
  | _, _ => none

/-- What is read stands for the value of a cell: it is the value, or the day of a midnight, or the midnight of
a day, or the float that an integer is rounded to. -/
inductive Denotes : CellValue → CellValue → Prop where
  | same (value : CellValue) : Denotes value value
  | day (day : CalendarDay) : Denotes (.date day) (.datetime day midnight)
  | midnight (day : CalendarDay) : Denotes (.datetime day midnight) (.date day)
  | rounded {x : Double} {n : Int} (h : x.value = binary64.round n) : Denotes (.float x) (.int n)

/-- The text of a float is read back. -/
def CellTexts.Faithful (t : CellTexts) : Prop := ∀ x, t.floatOf (t.reprFloat x) = some (.real x)

section Cells

variable {t : CellTexts}

variable (t) in
theorem readText_date (day : CalendarDay) :
    readText t .date (String.ofList day.isoformat) = some (.date day) := by
  have hday := Infra.readDay_isoformat day []
  rw [List.append_nil] at hday
  simp [readText, hday]

variable (t) in
theorem readText_datetime (day : CalendarDay) (time : TimeOfDay) :
    readText t .datetime (String.ofList (isoDateTime day time)) = some (.datetime day time) := by
  have hend : ([] : List Char).head? ≠ some '.' := by simp
  have hdatetime := Infra.readDateTime_isoDateTime day time hend
  rw [List.append_nil] at hdatetime
  simp [readText, hdatetime]

variable (t) in
theorem readText_time (time : TimeOfDay) :
    readText t .time (String.ofList (isoTime time)) = some (.time time) := by
  have hend : ([] : List Char).head? ≠ some '.' := by simp
  have htime := Infra.readTime_isoTime time hend
  rw [List.append_nil] at htime
  simp [readText, htime]

theorem floatOfInt_ok_iff {n : Int} {x : Double} :
    floatOfInt n = .ok x ↔ |binary64.round n| < 2 ^ 1024 ∧ x.value = binary64.round n := by
  unfold floatOfInt
  split
  · next h =>
    constructor
    · rintro ⟨⟩
      exact ⟨h, rfl⟩
    · rintro ⟨-, hx⟩
      cases x
      cases hx
      rfl
  · next h => simp [h]

theorem strOfInt_ok_iff {n : Int} {s : String} :
    strOfInt t n = .ok s ↔ (toString n.natAbs).length ≤ t.maxStrDigits ∧ s = toString n := by
  unfold strOfInt
  split
  · next h => exact iff_of_false (by simp) fun hshort => absurd hshort.1 (not_le.mpr h)
  · next h => exact ⟨fun heq => ⟨not_lt.mp h, (Except.ok.inj heq).symm⟩, fun heq => by rw [heq.2]⟩

/-- The text of a cell is there unless its number is too long, and stands for its value. -/
theorem canonicalText_faithful (hfloat : t.Faithful) {value : CellValue} {format : Option String}
    {kind : CellKind} (hkind : classifyCell (some value) format = .ok kind) :
    ((∃ s, canonicalText t value kind = .ok s) ↔ Fits t .text value) ∧
      ∀ s, canonicalText t value kind = .ok s → ∃ read, readText t kind s = some read ∧ Denotes read value := by
  cases value with
  | bool b =>
    cases hkind
    cases b <;> exact ⟨iff_of_true ⟨_, rfl⟩ trivial, fun s h => by cases h; exact ⟨_, rfl, .same _⟩⟩
  | int n =>
    cases hkind
    have htext : canonicalText t (.int n) .integer = strOfInt t n := rfl
    rw [htext]
    refine ⟨by simp [strOfInt_ok_iff, Fits], fun s h => ?_⟩
    obtain ⟨-, rfl⟩ := strOfInt_ok_iff.mp h
    exact ⟨.int n, congrArg (fun n => some (CellValue.int n)) (Infra.readInt_toString n), .same _⟩
  | float x =>
    cases hkind
    refine ⟨iff_of_true ⟨_, rfl⟩ trivial, fun s h => ?_⟩
    cases h
    exact ⟨.float x, by simp [readText, hfloat x], .same _⟩
  | nonFinite isNan => cases hkind
  | date day =>
    cases hkind
    refine ⟨iff_of_true ⟨_, rfl⟩ trivial, fun s h => ?_⟩
    cases h
    exact ⟨_, readText_date t day, .same _⟩
  | datetime day time =>
    simp only [classifyCell] at hkind
    split at hkind
    · next hday =>
      cases hkind
      refine ⟨iff_of_true ⟨_, rfl⟩ trivial, fun s h => ?_⟩
      cases h
      rw [hday.1]
      exact ⟨_, readText_date t day, .day day⟩
    · cases hkind
      refine ⟨iff_of_true ⟨_, rfl⟩ trivial, fun s h => ?_⟩
      cases h
      exact ⟨_, readText_datetime t day time, .same _⟩
  | time time =>
    cases hkind
    refine ⟨iff_of_true ⟨_, rfl⟩ trivial, fun s h => ?_⟩
    cases h
    exact ⟨_, readText_time t time, .same _⟩
  | str s =>
    cases hkind
    exact ⟨iff_of_true ⟨_, rfl⟩ trivial, fun s h => by cases h; exact ⟨_, rfl, .same _⟩⟩
  | other type truth => cases hkind

/-- The conversion of a cell to a type that holds its kind. -/
theorem coerceValue_faithful (hfloat : t.Faithful) {value : CellValue} {format : Option String}
    {kind : CellKind} (hkind : classifyCell (some value) format = .ok kind) {asked type : ColumnType}
    (hasked : kindType kind = some asked) (hle : asked ≤ type) :
    ((∃ sql, coerceValue t value format type = .ok sql) ↔ Fits t type value) ∧
      ∀ sql, coerceValue t value format type = .ok sql →
        sql ≠ .null ∧ ∃ read, readValue t kind type sql = some read ∧ Denotes read value := by
  by_cases htext : type = .text
  · -- A text is that of the cell's own kind, whatever the other cells of the column are.
    subst htext
    obtain ⟨hwritten, hread⟩ := canonicalText_faithful hfloat hkind
    have hcoerce : coerceValue t value format .text = (canonicalText t value kind).map .text := by
      simp only [coerceValue, hkind, Except.mapError, bind, Except.bind]
      cases canonicalText t value kind <;> rfl
    rw [hcoerce, ← hwritten]
    refine ⟨?_, fun sql h => ?_⟩
    · cases canonicalText t value kind <;> simp [Except.map]
    · obtain ⟨s, hs, rfl⟩ := Infra.map_ok h
      exact ⟨nofun, hread s hs⟩
  have hsame : asked = type ∨ (asked = .integer ∧ type = .real) ∨ (asked = .date ∧ type = .datetime) := by
    rw [ColumnType.le_iff] at hle
    cases asked <;> cases type <;> simp_all [ColumnType.le]
  cases value with
  | bool b =>
    cases hkind
    cases hasked
    obtain rfl : ColumnType.boolean = type := by simpa using hsame
    refine ⟨iff_of_true ⟨_, rfl⟩ trivial, fun sql h => ?_⟩
    cases h
    exact ⟨nofun, .bool b, by cases b <;> rfl, .same _⟩
  | int n =>
    cases hkind
    cases hasked
    obtain rfl | rfl : ColumnType.integer = type ∨ type = .real := by simpa using hsame
    · refine ⟨iff_of_true ⟨_, rfl⟩ trivial, fun sql h => ?_⟩
      cases h
      exact ⟨nofun, .int n, rfl, .same _⟩
    · have hcoerce : coerceValue t (.int n) format .real = (floatOfInt n).map .real := rfl
      rw [hcoerce]
      refine ⟨⟨?_, fun h => ?_⟩, fun sql h => ?_⟩
      · rintro ⟨sql, h⟩
        obtain ⟨x, hx, -⟩ := Infra.map_ok h
        exact (floatOfInt_ok_iff.mp hx).1
      · have hx : floatOfInt n = .ok ⟨_, binary64.represents_round n, h⟩ := floatOfInt_ok_iff.mpr ⟨h, rfl⟩
        exact ⟨_, by rw [hx]; rfl⟩
      · obtain ⟨x, hx, rfl⟩ := Infra.map_ok h
        exact ⟨nofun, .float x, rfl, .rounded (floatOfInt_ok_iff.mp hx).2⟩
  | float x =>
    cases hkind
    cases hasked
    obtain rfl : ColumnType.real = type := by simpa using hsame
    refine ⟨iff_of_true ⟨_, rfl⟩ trivial, fun sql h => ?_⟩
    cases h
    exact ⟨nofun, .float x, rfl, .same _⟩
  | nonFinite isNan => cases hkind
  | date day =>
    cases hkind
    cases hasked
    obtain rfl | rfl : ColumnType.date = type ∨ type = .datetime := by simpa using hsame
    · refine ⟨iff_of_true ⟨_, rfl⟩ trivial, fun sql h => ?_⟩
      cases h
      exact ⟨nofun, _, readText_date t day, .same _⟩
    · refine ⟨iff_of_true ⟨_, rfl⟩ trivial, fun sql h => ?_⟩
      cases h
      exact ⟨nofun, _, readText_datetime t day midnight, .midnight day⟩
  | datetime day time =>
    simp only [classifyCell] at hkind
    split at hkind
    · next hday =>
      cases hkind
      cases hasked
      obtain rfl | rfl : ColumnType.date = type ∨ type = .datetime := by simpa using hsame
      · refine ⟨iff_of_true ⟨_, rfl⟩ trivial, fun sql h => ?_⟩
        cases h
        rw [hday.1]
        exact ⟨nofun, _, readText_date t day, .day day⟩
      · refine ⟨iff_of_true ⟨_, rfl⟩ trivial, fun sql h => ?_⟩
        cases h
        exact ⟨nofun, _, readText_datetime t day time, .same _⟩
    · cases hkind
      cases hasked
      obtain rfl : ColumnType.datetime = type := by simpa using hsame
      refine ⟨iff_of_true ⟨_, rfl⟩ trivial, fun sql h => ?_⟩
      cases h
      exact ⟨nofun, _, readText_datetime t day time, .same _⟩
  | time time =>
    cases hkind
    cases hasked
    exact absurd (by simpa using hsame) (Ne.symm htext)
  | str s =>
    cases hkind
    cases hasked
    exact absurd (by simpa using hsame) (Ne.symm htext)
  | other type truth => cases hkind

theorem kindType_of_classify {value : CellValue} {format : Option String} {kind : CellKind}
    (h : classifyCell (some value) format = .ok kind) : ∃ asked, kindType kind = some asked := by
  cases kind
  case null =>
    cases value <;> try cases h
    simp only [classifyCell] at h
    split at h <;> cases h
  all_goals exact ⟨_, rfl⟩

/-- **The cells of a column keep their values.** Each of them is converted to the inferred type unless its
number is too large for that, and what was written stands for its value. -/
theorem column_faithful (hfloat : t.Faithful) {cells : List (CellValue × Option String)}
    {kinds : List CellKind}
    (hkinds : List.Forall₂ (fun cell kind => classifyCell (some cell.1) cell.2 = .ok kind) cells kinds)
    {i : Nat} {cell : CellValue × Option String} {kind : CellKind} (hcell : cells[i]? = some cell)
    (hkind : kinds[i]? = some kind) :
    ((∃ sql, coerceCell t (some cell.1) cell.2 (inferColumnType kinds) = .ok sql) ↔
        Fits t (inferColumnType kinds) cell.1) ∧
      ∀ sql, coerceCell t (some cell.1) cell.2 (inferColumnType kinds) = .ok sql → sql ≠ .null ∧
        ∃ read, readValue t kind (inferColumnType kinds) sql = some read ∧ Denotes read cell.1 := by
  have hclass : classifyCell (some cell.1) cell.2 = .ok kind := by
    obtain ⟨hi, rfl⟩ := List.getElem?_eq_some_iff.mp hcell
    obtain ⟨hj, rfl⟩ := List.getElem?_eq_some_iff.mp hkind
    exact hkinds.get hi hj
  have hmem := List.mem_of_getElem? hkind
  obtain ⟨asked, hasked⟩ := kindType_of_classify hclass
  exact coerceValue_faithful hfloat hclass hasked (le_inferColumnType hmem hasked)

end Cells

/-! ### A number in a column of texts -/

/-- Floats are written as the numbers that encode them. -/
noncomputable def sampleCellTexts : CellTexts where
  reprFloat x := Nat.repr (Encodable.encode x.value)
  maxStrDigits := 4300
  intOf s := some (readInt s.toList)
  floatOf s := open Classical in
    if h : ∃ x : Double, Nat.repr (Encodable.encode x.value) = s then some (.real h.choose) else none

theorem sampleCellTexts_faithful : sampleCellTexts.Faithful := by
  intro x
  have hsome : ∃ y : Double, Nat.repr (Encodable.encode y.value) = Nat.repr (Encodable.encode x.value) :=
    ⟨x, rfl⟩
  have hchosen : hsome.choose = x := by
    have hvalue := Encodable.encode_injective (Infra.repr_inj hsome.choose_spec)
    cases h : hsome.choose
    cases x
    simp_all only
  exact (dif_pos hsome).trans (congrArg (fun y => some (SqlValue.real y)) hchosen)

theorem column_faithful_sample : ∃ read, readValue sampleCellTexts .integer
    (inferColumnType [.integer, .text]) (.text "3") = some read ∧ Denotes read (.int 3) := by
  have hkinds : List.Forall₂ (fun cell kind => classifyCell (some cell.1) cell.2 = .ok kind)
      [((.int 3 : CellValue), (none : Option String)), (.str "a", none)] [CellKind.integer, .text] :=
    .cons rfl (.cons rfl .nil)
  exact ((column_faithful sampleCellTexts_faithful hkinds (i := 0) rfl rfl).2 (.text "3") rfl).2

end Ingestion
