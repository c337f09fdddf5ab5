import Qaneris.Querying.Properties.Filters

/-!
# What a time range selects

* `whole_days_iff` — for which timestamps the conditions of a time range mean whole days
-/

namespace Querying

open Contracts
open Infra (Truth bind_ok)

/-- A day that Python knows, and a time of it. -/
structure Proper (m : Moment) : Prop where
  first : 0 < m.day
  last : m.day ≤ Infra.maxOrdinal
  time : ∀ time ∈ m.time, 0 ≤ time ∧ time < 86400000000

structure IsDate (m : Moment) : Prop extends Proper m where
  date : m.time = none

/-- The driver takes the timestamp to come after its day: SQLite because its text is longer, the others
unless it is midnight. -/
def Late (d : Driver) (m : Moment) : Prop :=
  match d with
  | .sqlite => m.time ≠ none
  | .postgresql | .mysql => m.time.getD 0 ≠ 0

instance (d : Driver) (m : Moment) : Decidable (Late d m) := by
  cases d <;> exact inferInstanceAs (Decidable (_ ≠ _))

section Moments

variable {t : Texts} {d : Driver} {m bound : Moment}

theorem isoMoment_date (h : bound.time = none) : isoMoment bound = Infra.isoDate bound.day.toNat := by
  rw [isoMoment, h, List.append_nil]

theorem readMoment_date (h : IsDate bound) : readMoment (isoMoment bound) = some bound := by
  have hfirst := h.first
  have hlast := h.last
  have hread := Infra.readDate_isoDate (n := bound.day.toNat) (by omega) (by omega) []
  rw [List.append_nil] at hread
  rw [isoMoment_date h.date, readMoment, hread]
  simp only [Option.bind_eq_bind, Option.bind_some, if_true]
  obtain ⟨day, time⟩ := bound
  obtain rfl : time = none := h.date
  rw [Int.toNat_of_nonneg (Int.le_of_lt hfirst)]
  rfl

theorem Proper.time_getD (h : Proper m) : 0 ≤ m.time.getD 0 ∧ m.time.getD 0 < 86400000000 := by
  cases htime : m.time with
  | none => exact ⟨Int.le_refl 0, by decide⟩
  | some time => exact h.time time htime

theorem compare_toNat {a b : Int} (ha : 0 < a) (hb : 0 < b) :
    compare a.toNat b.toNat = compare a b := by
  rcases Int.lt_trichotomy a b with h | rfl | h
  · rw [Int.compare_eq_lt.mpr h, Infra.compare_lt (by omega)]
  · rw [Int.compare_eq_eq.mpr rfl, Infra.compare_self]
  · rw [Int.compare_eq_gt.mpr h, Infra.compare_gt (by omega)]

/-- How SQLite compares a moment with a date. -/
theorem compareText_date (hm : Proper m) (hb : IsDate bound) :
    Infra.compareText (isoMoment m) (isoMoment bound) =
      (compare m.day bound.day).then (if m.time = none then .eq else .gt) := by
  have hm₁ := hm.first
  have hm₂ := hm.last
  have hb₁ := hb.first
  have hb₂ := hb.last
  rw [isoMoment_date hb.date, isoMoment, ← List.append_nil (Infra.isoDate bound.day.toNat),
    Infra.compareText_isoDate (by omega) (by omega) (by omega) (by omega), compare_toNat hm₁ hb₁]
  cases m.time with
  | none => rfl
  | some time => rfl

/-- How the other drivers compare a moment with a date. -/
theorem instant_date (hb : IsDate bound) : instant bound = bound.day * 86400000000 := by
  rw [instant, hb.date]
  exact Int.add_zero _

/-- How a driver compares a moment with the text of a date. -/
theorem order_date (hm : Proper m) (hb : IsDate bound) :
    ∃ o, d.collation.order (some (.moment m)) (.str (t.standard.isoformat bound)) = some o ∧
      (o ≠ .lt ↔ bound.day ≤ m.day) ∧
      (o ≠ .gt ↔ m.day < bound.day ∨ (m.day = bound.day ∧ ¬ Late d m)) := by
  have htext : (t.standard.isoformat bound).toList = isoMoment bound := String.toList_ofList
  have horder : d.collation.order (some (.moment m)) (.str (t.standard.isoformat bound)) =
      d.compareMoment m (isoMoment bound) := by
    rw [← htext]
    rfl
  rw [horder]
  cases d with
  | sqlite =>
    refine ⟨_, rfl, ?_⟩
    rw [compareText_date hm hb]
    rcases Int.lt_trichotomy m.day bound.day with h | h | h
    · rw [Int.compare_eq_lt.mpr h]
      exact ⟨by simp [Ordering.then]; omega, by simp [Ordering.then, h]⟩
    · rw [Int.compare_eq_eq.mpr h]
      cases htime : m.time <;> simp [Ordering.then, Late, h, htime]
    · rw [Int.compare_eq_gt.mpr h]
      exact ⟨by simp [Ordering.then]; omega, by simp [Ordering.then]; omega⟩
  | postgresql | mysql =>
    have htime := hm.time_getD
    refine ⟨_, by rw [Driver.compareMoment, readMoment_date hb, Option.map_some], ?_⟩
    rw [Int.compare_ne_lt, Int.compare_ne_gt, instant_date hb, instant, Late]
    omega

theorem compare_ge (hm : Proper m) (hb : IsDate bound) :
    compareTruth d.collation (some (.moment m)) .ge (.str (t.standard.isoformat bound)) = some true ↔
      bound.day ≤ m.day := by
  obtain ⟨o, ho, hge, -⟩ := order_date (t := t) (d := d) hm hb
  rw [compareTruth_iff, ho, ← hge]
  simp [Comparison.holds]

theorem compare_le (hm : Proper m) (hb : IsDate bound) :
    compareTruth d.collation (some (.moment m)) .le (.str (t.standard.isoformat bound)) = some true ↔
      m.day < bound.day ∨ (m.day = bound.day ∧ ¬ Late d m) := by
  obtain ⟨o, ho, -, hle⟩ := order_date (t := t) (d := d) hm hb
  rw [compareTruth_iff, ho, ← hle]
  simp [Comparison.holds]

/-! ### MongoDB -/

theorem mongo_order_moment (m m' : Moment) :
    Mongo.collation.order (some (.moment m)) (.moment m') =
      some (compare (Mongo.millis m) (Mongo.millis m')) := rfl

theorem timeValue_ne_null (b : Moment) (stop : Bool) : MongoCompiler.timeValue b stop ≠ .null :=
  nofun

/-- The first millisecond of a day. -/
theorem ordered_ge (hm : Proper m) (hb : IsDate bound) :
    Mongo.ordered (some (.moment m)) .ge (MongoCompiler.timeValue bound false) ↔
      bound.day ≤ m.day := by
  have htime := hm.time_getD
  have hbound : MongoCompiler.timeValue bound false = .moment ⟨bound.day, some 0⟩ := by
    rw [MongoCompiler.timeValue, hb.date]
    rfl
  rw [hbound, Mongo.ordered, mongo_order_moment, Option.any_some, Comparison.holds,
    decide_eq_true_eq, Int.compare_ne_lt, Mongo.millis, Mongo.millis, instant, instant,
    Option.getD_some]
  dsimp only
  omega

/-- The last millisecond of a day. -/
theorem ordered_le (hm : Proper m) (hb : IsDate bound) :
    Mongo.ordered (some (.moment m)) .le (MongoCompiler.timeValue bound true) ↔
      m.day ≤ bound.day := by
  have htime := hm.time_getD
  have hbound : MongoCompiler.timeValue bound true = .moment ⟨bound.day, some 86399999999⟩ := by
    rw [MongoCompiler.timeValue, hb.date]
    rfl
  rw [hbound, Mongo.ordered, mongo_order_moment, Option.any_some, Comparison.holds,
    decide_eq_true_eq, Int.compare_ne_gt, Mongo.millis, Mongo.millis, instant, instant,
    Option.getD_some]
  dsimp only
  omega

end Moments

/-! ## The conditions of a time range -/

section Range

variable {t : Texts} {d : Driver} {plan : GroundedQueryPlan} {ref : GroundedFieldRef}
  {range : TimeRange} {m : Moment} {record : Record}

/-- The SQL compiler takes the time range, and a `WHERE` of its conditions keeps the record. -/
def sqlSelectsTime (t : Texts) (d : Driver) (plan : GroundedQueryPlan) (record : Record) : Bool :=
  (SQLCompiler.timeConditions t d plan).toOption.any fun conditions =>
    whereTruth d record conditions = some (some true)

/-- The filter that the MongoDB compiler makes of the time range matches the record. -/
def mongoSelectsTime (plan : GroundedQueryPlan) (record : Record) : Bool :=
  Mongo.filterHolds record (MongoCompiler.matchOf (MongoCompiler.timeClauses plan)) = some true

/-- The day of the moment is one of the range. -/
def InRange (range : TimeRange) (m : Moment) : Prop :=
  (∀ start ∈ range.start, start.day ≤ m.day) ∧ ∀ stop ∈ range.stop, m.day ≤ stop.day

instance (range : TimeRange) (m : Moment) : Decidable (InRange range m) :=
  inferInstanceAs (Decidable (_ ∧ _))

/-- A range between dates. -/
def Dates (range : TimeRange) : Prop :=
  (∀ start ∈ range.start, IsDate start) ∧ ∀ stop ∈ range.stop, IsDate stop

theorem forall_mem_toList {α β : Type} {f : α → β} {P : β → Prop} (o : Option α) :
    (∀ b ∈ (o.map f).toList, P b) ↔ ∀ a ∈ o, P (f a) := by
  cases o <;> simp

theorem timeConditions_taken (hfield : plan.timeField = some ref)
    (hrange : plan.timeRange = some range) (hobject : ref.dataObjectId ∈ plan.dataObjectIds) :
    ∃ conditions, SQLCompiler.timeConditions t d plan = .ok conditions := by
  rw [SQLCompiler.timeConditions, hfield, hrange]
  dsimp only
  rw [SQLCompiler.field, if_pos hobject]
  exact ⟨_, rfl⟩

theorem sqlSelectsTime_iff (hfield : plan.timeField = some ref) (hrange : plan.timeRange = some range)
    (hobject : ref.dataObjectId ∈ plan.dataObjectIds) (hdates : Dates range) (hm : Proper m)
    (hrecord : record ref.fieldPath = some (.moment m)) :
    sqlSelectsTime t.standard d plan record ↔
      (∀ start ∈ range.start, start.day ≤ m.day) ∧
        ∀ stop ∈ range.stop, m.day < stop.day ∨ (m.day = stop.day ∧ ¬ Late d m) := by
  obtain ⟨conditions, hconditions⟩ := timeConditions_taken (t := t.standard) (d := d) hfield hrange
    hobject
  have hsays := (timeConditions_ok hconditions).2
  have hpredicates : timePredicates t.standard plan (nameOf plan) =
      (range.start.map fun m => ⟨refOf (nameOf plan) ref,
        .compare .ge (.str (t.standard.isoformat m))⟩).toList ++
      (range.stop.map fun m => ⟨refOf (nameOf plan) ref,
        .compare .le (.str (t.standard.isoformat m))⟩).toList := by
    rw [timePredicates, hfield, hrange]
  rw [hpredicates] at hsays
  have hname : IsWord (refOf (nameOf plan) ref).alias_ := isWord_aliasOf ref.dataObjectId
  have hwhere := whereTruth_eq_true hsays (by
    simp only [List.forall_mem_append, forall_mem_toList]
    exact ⟨fun _ _ => hname, fun _ _ => hname⟩) record
  simp only [List.forall_mem_append, forall_mem_toList] at hwhere
  have hselects : sqlSelectsTime t.standard d plan record ↔
      whereTruth d record conditions = some (some true) := by
    rw [sqlSelectsTime, hconditions]
    simp [Except.toOption]
  rw [hselects, hwhere]
  refine and_congr (forall₂_congr fun start hstart => ?_) (forall₂_congr fun stop hstop => ?_)
  · have hpath : (refOf (nameOf plan) ref).path = ref.fieldPath := rfl
    rw [hpath, hrecord]
    exact compare_ge hm (hdates.1 start hstart)
  · have hpath : (refOf (nameOf plan) ref).path = ref.fieldPath := rfl
    rw [hpath, hrecord]
    exact compare_le hm (hdates.2 stop hstop)

theorem mongoSelectsTime_iff (hfield : plan.timeField = some ref)
    (hrange : plan.timeRange = some range) (hdates : Dates range) (hm : Proper m)
    (hrecord : record ref.fieldPath = some (.moment m)) :
    mongoSelectsTime plan record ↔ InRange range m := by
  have hge : ∀ start ∈ range.start, Mongo.operatorHolds (record ref.fieldPath)
      ("$gte", MongoCompiler.timeValue start false) = some (decide (start.day ≤ m.day)) := by
    intro start hstart
    rw [hrecord, Mongo.operatorHolds_gte, equals_or_ordered (timeValue_ne_null _ _) rfl, Option.some_inj,
      Bool.eq_iff_iff, decide_eq_true_eq]
    exact ordered_ge hm (hdates.1 start hstart)
  have hle : ∀ stop ∈ range.stop, Mongo.operatorHolds (record ref.fieldPath)
      ("$lte", MongoCompiler.timeValue stop true) = some (decide (m.day ≤ stop.day)) := by
    intro stop hstop
    rw [hrecord, Mongo.operatorHolds_lte, equals_or_ordered (timeValue_ne_null _ _) rfl, Option.some_inj,
      Bool.eq_iff_iff, decide_eq_true_eq]
    exact ordered_le hm (hdates.2 stop hstop)
  rw [mongoSelectsTime, decide_eq_true_eq, InRange]
  cases hstart : range.start with
  | none =>
    cases hstop : range.stop with
    | none =>
      have hclauses : MongoCompiler.timeClauses plan = [] := by
        simp [MongoCompiler.timeClauses, hfield, hrange, hstart, hstop]
      rw [hclauses]
      simp [MongoCompiler.matchOf, Mongo.filterHolds, Mongo.documentHolds]
    | some stop =>
      have hclauses : MongoCompiler.timeClauses plan =
          [[(ref.fieldPath, .dict [("$lte", MongoCompiler.timeValue stop true)])]] := by
        simp [MongoCompiler.timeClauses, hfield, hrange, hstart, hstop]
      rw [hclauses, Mongo.filterHolds_clause, Mongo.documentHolds_operator, hle stop hstop]
      simp
  | some start =>
    cases hstop : range.stop with
    | none =>
      have hclauses : MongoCompiler.timeClauses plan =
          [[(ref.fieldPath, .dict [("$gte", MongoCompiler.timeValue start false)])]] := by
        simp [MongoCompiler.timeClauses, hfield, hrange, hstart, hstop]
      rw [hclauses, Mongo.filterHolds_clause, Mongo.documentHolds_operator, hge start hstart]
      simp
    | some stop =>
      have hclauses : MongoCompiler.timeClauses plan =
          [[(ref.fieldPath, .dict [("$gte", MongoCompiler.timeValue start false),
            ("$lte", MongoCompiler.timeValue stop true)])]] := by
        simp [MongoCompiler.timeClauses, hfield, hrange, hstart, hstop]
      rw [hclauses, Mongo.filterHolds_clause, Mongo.documentHolds_operators, hge start hstart,
        hle stop hstop]
      simp

/-- **The conditions of a time range mean whole days, in SQL and in MongoDB, if and only if the
timestamp does not come after the last day that it is on.** -/
theorem whole_days_iff (hfield : plan.timeField = some ref) (hrange : plan.timeRange = some range)
    (hobject : ref.dataObjectId ∈ plan.dataObjectIds) (hdates : Dates range) (hm : Proper m)
    (hrecord : record ref.fieldPath = some (.moment m)) :
    ((sqlSelectsTime t.standard d plan record ↔ InRange range m) ∧
        (mongoSelectsTime plan record ↔ sqlSelectsTime t.standard d plan record)) ↔
      ∀ stop ∈ range.stop, m.day = stop.day → ¬ Late d m := by
  rw [mongoSelectsTime_iff hfield hrange hdates hm hrecord,
    sqlSelectsTime_iff hfield hrange hobject hdates hm hrecord, InRange]
  constructor
  · rintro ⟨h, -⟩ stop hstop hday
    -- the range begins before it ends
    have hstart : ∀ start ∈ range.start, start.day ≤ m.day := fun start hmem =>
      hday ▸ range.ordered start hmem stop hstop
    have hstops : ∀ stop' ∈ range.stop, m.day ≤ stop'.day := by
      intro stop' hstop'
      obtain rfl := Option.mem_unique hstop hstop'
      omega
    rcases (h.mpr ⟨hstart, hstops⟩).2 stop hstop with hlt | ⟨-, hlate⟩
    · omega
    · exact hlate
  · intro h
    have hiff : (∀ stop ∈ range.stop, m.day < stop.day ∨ (m.day = stop.day ∧ ¬ Late d m)) ↔
        ∀ stop ∈ range.stop, m.day ≤ stop.day := by
      refine forall₂_congr fun stop hstop => ?_
      have hlate := h stop hstop
      constructor
      · rintro (hlt | ⟨heq, -⟩) <;> omega
      · intro hle
        by_cases heq : m.day = stop.day
        · exact .inr ⟨heq, hlate heq⟩
        · exact .inl (by omega)
    rw [hiff]
    exact ⟨Iff.rfl, Iff.rfl⟩

/-- 1 to 31 January 2024. -/
def january : TimeRange where
  start := some { day := 738886 }
  stop := some { day := 738916 }
  ordered := by decide

def placedRef : GroundedFieldRef := sampleRef "orders" "placed_at" Contracts.length_orders (by decide)

def januaryPlan : GroundedQueryPlan :=
  { fieldPlan "placed_at" (by decide) with
    timeRange := some january, timeField := some placedRef, time_together := rfl }

theorem january_dates : Dates january := by
  constructor <;> rintro m hm <;> obtain rfl := Option.some.inj hm <;>
    exact ⟨⟨by decide, by decide, by simp⟩, rfl⟩

/-- Noon of a day of January. -/
def noon (day : Int) : Moment := { day, time := some 43200000000 }

/-- Noon of 30 January. -/
theorem whole_days_sample :
    let record : Record := fun _ => some (.moment (noon 738915))
    (sqlSelectsTime sampleTexts.standard .sqlite januaryPlan record ↔ InRange january (noon 738915)) ∧
      (mongoSelectsTime januaryPlan record ↔
        sqlSelectsTime sampleTexts.standard .sqlite januaryPlan record) :=
  Iff.mpr (whole_days_iff (show januaryPlan.timeField = some placedRef from rfl) rfl (by decide)
    january_dates ⟨by decide, by decide, by decide⟩ rfl) (by decide)

/-- Noon of 31 January is in the range; no driver selects it, and MongoDB does. -/
theorem last_noon_lost :
    let record : Record := fun _ => some (.moment (noon 738916))
    InRange january (noon 738916) ∧
      ¬ sqlSelectsTime sampleTexts.standard .sqlite januaryPlan record ∧
      ¬ sqlSelectsTime sampleTexts.standard .postgresql januaryPlan record ∧
      mongoSelectsTime januaryPlan record := by
  decide

end Range

end Querying
