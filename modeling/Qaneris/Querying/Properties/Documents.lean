import Qaneris.Querying.Documents

/-!
# What a document filter matches

A filter document is a conjunction over its fields, so it is as good as the assignments it was made of:
a field that is assigned twice keeps its last predicate only.
-/

namespace Querying

open Contracts Infra

namespace QueryGenerator

variable {t : Texts} {target : DocumentTarget} {plan : QueryPlan}

/-! ## Assignments -/

/-- The assignments of a plan, in their order. -/
def assignments (t : Texts) (target : DocumentTarget) (plan : QueryPlan) :
    Except Failure (List (String × Value)) := do
  let entries ← plan.filters.mapM (target.assignment t)
  let times ← target.timeAssignment t plan
  return entries ++ times

theorem foldlM_assignments (items : List FilterSpec) (filters : Dict Value) :
    items.foldlM (fun (filters : Dict Value) item => do
        let (field, predicate) ← target.assignment t item
        return filters.set field predicate) filters =
      (items.mapM (target.assignment t)).map filters.update := by
  induction items generalizing filters with
  | nil => rfl
  | cons item items ih =>
    rw [List.foldlM_cons, List.mapM_cons]
    cases h : target.assignment t item with
    | error e => rfl
    | ok entry =>
      have hset : ∀ filters : Dict Value, items.foldlM (fun (filters : Dict Value) item => do
          let (field, predicate) ← target.assignment t item
          return filters.set field predicate) filters =
        (items.mapM (target.assignment t)).map filters.update := ih
      show items.foldlM _ (filters.set entry.1 entry.2) = _
      rw [hset]
      cases items.mapM (target.assignment t) with
      | error e => rfl
      | ok entries => rfl

/-- **The filter document is what the assignments leave.** -/
theorem documentFilter_eq :
    documentFilter t target plan = (assignments t target plan).map (Dict.update []) := by
  unfold documentFilter assignments
  rw [foldlM_assignments]
  cases plan.filters.mapM (target.assignment t) with
  | error e => rfl
  | ok entries =>
    show (target.timeAssignment t plan >>= fun times => pure ((Dict.update [] entries).update times)) =
      (target.timeAssignment t plan >>= fun times => pure (entries ++ times)).map (Dict.update [])
    cases target.timeAssignment t plan with
    | error e => rfl
    | ok times => exact congrArg Except.ok (Dict.update_append [] entries times).symm

theorem documentFilter_ok {filter : Dict Value} :
    documentFilter t target plan = .ok filter ↔
      ∃ entries, assignments t target plan = .ok entries ∧ filter = Dict.update [] entries := by
  rw [documentFilter_eq]
  constructor
  · intro h
    obtain ⟨entries, hentries, rfl⟩ := map_ok h
    exact ⟨entries, hentries, rfl⟩
  · rintro ⟨entries, hentries, rfl⟩
    rw [hentries]
    rfl

/-- The last assignment to its field. -/
def Final (entries : List (String × Value)) (e : String × Value) : Prop :=
  ∃ before after, entries = before ++ e :: after ∧ ∀ q ∈ after, q.1 ≠ e.1

/-- An assignment whose field is assigned again. -/
def Overwritten (entries : List (String × Value)) (e : String × Value) : Prop :=
  ∃ before after, entries = before ++ e :: after ∧ ∃ q ∈ after, q.1 = e.1

theorem final_or_overwritten {entries : List (String × Value)} {e : String × Value}
    (h : e ∈ entries) : Final entries e ∨ Overwritten entries e := by
  obtain ⟨before, after, rfl⟩ := List.append_of_mem h
  by_cases hagain : ∃ q ∈ after, q.1 = e.1
  · exact .inr ⟨before, after, rfl, hagain⟩
  · exact .inl ⟨before, after, rfl, fun q hq heq => hagain ⟨q, hq, heq⟩⟩

theorem mem_of_final {entries : List (String × Value)} {e : String × Value}
    (h : Final entries e) : e ∈ entries := by
  obtain ⟨before, after, rfl, -⟩ := h
  exact List.mem_append_right _ List.mem_cons_self

theorem mem_of_overwritten {entries : List (String × Value)} {e : String × Value}
    (h : Overwritten entries e) : e ∈ entries := by
  obtain ⟨before, after, rfl, -⟩ := h
  exact List.mem_append_right _ List.mem_cons_self

theorem mem_dict_iff {d : Dict Value} (h : d.keys.Nodup) {e : String × Value} :
    e ∈ d ↔ d.get? e.1 = some e.2 := by
  induction d with
  | nil => simp
  | cons item d ih =>
    obtain ⟨k, v⟩ := item
    obtain ⟨hk, hd⟩ := List.nodup_cons.mp h
    rw [Dict.get?_cons, List.mem_cons, ih hd]
    by_cases heq : e.1 = k
    · rw [if_pos heq]
      constructor
      · rintro (rfl | hget)
        · rfl
        · refine absurd ?_ hk
          rw [← heq]
          by_contra hnot
          rw [Dict.get?_eq_none.mpr hnot] at hget
          cases hget
      · intro hv
        exact .inl (Prod.ext heq (Option.some.inj hv).symm)
    · rw [if_neg heq]
      constructor
      · rintro (rfl | hget)
        · exact absurd rfl heq
        · exact hget
      · exact .inr

theorem nodup_update (entries : List (String × Value)) : (Dict.update [] entries).keys.Nodup := by
  have hempty : (Dict.keys ([] : Dict Value)).Nodup := List.nodup_nil
  exact Dict.nodup_keys_update hempty entries

/-- **What the document keeps are the last assignments.** -/
theorem mem_update_iff {entries : List (String × Value)} {e : String × Value} :
    e ∈ Dict.update [] entries ↔ Final entries e := by
  rw [mem_dict_iff (nodup_update entries), Dict.get?_update, Dict.get?_nil, Option.or_none, Dict.get?,
    List.lookup_eq_some_iff]
  constructor
  · rintro ⟨after, before, hreverse, hafter⟩
    refine ⟨before.reverse, after.reverse, ?_, ?_⟩
    · have hentries := congrArg List.reverse hreverse
      rw [List.reverse_reverse] at hentries
      rw [hentries]
      simp
    · intro q hq heq
      have := hafter q (List.mem_reverse.mp hq)
      rw [heq] at this
      simp at this
  · rintro ⟨before, after, rfl, hafter⟩
    refine ⟨after.reverse, before.reverse, by simp, ?_⟩
    intro q hq
    rw [bne_iff_ne]
    exact fun heq => hafter q (List.mem_reverse.mp hq) heq.symm

/-! ## Matching -/

section Matching

variable {Doc : Type} (holds : Doc → String → Value → Prop)

/-- A document matches a filter when the predicate of each field holds of it. -/
def Matches (filter : Dict Value) (d : Doc) : Prop := ∀ e ∈ filter, holds d e.1 e.2

/-- The filter of the plan matches what the filters of its parts all match. -/
def Conjoins (t : Texts) (target : DocumentTarget) (plan : QueryPlan) : Prop :=
  ∀ filter, documentFilter t target plan = .ok filter → ∀ d,
    Matches holds filter d ↔
      (∀ item ∈ plan.filters, ∀ one, documentFilter t target (plan.only item) = .ok one →
        Matches holds one d) ∧
      ∀ one, documentFilter t target plan.onlyTime = .ok one → Matches holds one d

variable {holds}

theorem documentFilter_only {item : FilterSpec} {one : Dict Value} :
    documentFilter t target (plan.only item) = .ok one ↔
      ∃ e, target.assignment t item = .ok e ∧ one = [e] := by
  have hassign : assignments t target (plan.only item) =
      (target.assignment t item).map fun e => [e] := by
    unfold assignments DocumentTarget.timeAssignment QueryPlan.only
    simp only [List.mapM_cons, List.mapM_nil]
    cases target.assignment t item with
    | error e => rfl
    | ok e => rfl
  rw [documentFilter_ok, hassign]
  constructor
  · rintro ⟨entries, hentries, rfl⟩
    obtain ⟨e, he, rfl⟩ := map_ok hentries
    exact ⟨e, he, rfl⟩
  · rintro ⟨e, he, rfl⟩
    exact ⟨[e], by rw [he]; rfl, rfl⟩

theorem timeAssignment_length {times : List (String × Value)}
    (h : target.timeAssignment t plan = .ok times) : times = [] ∨ ∃ e, times = [e] := by
  unfold DocumentTarget.timeAssignment at h
  split at h
  · obtain ⟨field, -, hpure⟩ := bind_ok h
    cases hpure
    exact .inr ⟨_, rfl⟩
  · cases h
    exact .inl rfl

theorem documentFilter_onlyTime {one : Dict Value} :
    documentFilter t target plan.onlyTime = .ok one ↔ target.timeAssignment t plan = .ok one := by
  have hassign : assignments t target plan.onlyTime = target.timeAssignment t plan := by
    show (target.timeAssignment t plan >>= fun times => pure ([] ++ times)) = _
    cases target.timeAssignment t plan with
    | error e => rfl
    | ok times => rfl
  rw [documentFilter_ok, hassign]
  constructor
  · rintro ⟨entries, hentries, rfl⟩
    rcases timeAssignment_length hentries with rfl | ⟨e, rfl⟩
    · exact hentries
    · exact hentries
  · intro h
    refine ⟨one, h, ?_⟩
    rcases timeAssignment_length h with rfl | ⟨e, rfl⟩
    · rfl
    · rfl

/-- **The parts of a plan match together what its assignments all hold of.** -/
theorem parts_iff {entries : List (String × Value)}
    (h : assignments t target plan = .ok entries) (d : Doc) :
    ((∀ item ∈ plan.filters, ∀ one, documentFilter t target (plan.only item) = .ok one →
        Matches holds one d) ∧
      ∀ one, documentFilter t target plan.onlyTime = .ok one → Matches holds one d) ↔
      ∀ e ∈ entries, holds d e.1 e.2 := by
  unfold assignments at h
  obtain ⟨filters, hfilters, h⟩ := bind_ok h
  obtain ⟨times, htimes, h⟩ := bind_ok h
  obtain rfl : filters ++ times = entries := Except.ok.inj h
  have hall := forall₂_of_mapM hfilters
  simp only [documentFilter_only, documentFilter_onlyTime]
  constructor
  · rintro ⟨hitems, htime⟩ e he
    rcases List.mem_append.mp he with he | he
    · obtain ⟨item, hitem, hassign⟩ := exists_of_forall₂ (List.Forall₂.flip hall) he
      exact hitems item hitem [e] ⟨e, hassign, rfl⟩ e List.mem_cons_self
    · exact htime times htimes e he
  · intro hentries
    constructor
    · rintro item hitem one ⟨e, hassign, rfl⟩ e' he'
      obtain ⟨e'', he'', hassign''⟩ := exists_of_forall₂ hall hitem
      rw [hassign''] at hassign
      obtain rfl := Except.ok.inj hassign
      obtain rfl := List.mem_singleton.mp he'
      exact hentries _ (List.mem_append_left _ he'')
    · intro one hone e he
      rw [htimes] at hone
      obtain rfl := Except.ok.inj hone
      exact hentries e (List.mem_append_right _ he)

/-- What the last assignments let through passes the ones they overwrote. -/
def Implied (holds : Doc → String → Value → Prop) (entries : List (String × Value)) : Prop :=
  ∀ d, (∀ e, Final entries e → holds d e.1 e.2) → ∀ e, Overwritten entries e → holds d e.1 e.2

theorem conjoins_iff : Conjoins holds t target plan ↔
    ∀ entries, assignments t target plan = .ok entries → Implied holds entries := by
  have hmatches : ∀ {entries : List (String × Value)} {d : Doc},
      Matches holds (Dict.update [] entries) d ↔ ∀ e, Final entries e → holds d e.1 e.2 := by
    intro entries d
    unfold Matches
    simp only [mem_update_iff]
  constructor
  · intro h entries hentries d hfinal e he
    have hparts := (h _ (documentFilter_ok.mpr ⟨entries, hentries, rfl⟩) d).mp (hmatches.mpr hfinal)
    exact (parts_iff hentries d).mp hparts e (mem_of_overwritten he)
  · intro h filter hfilter d
    obtain ⟨entries, hentries, rfl⟩ := documentFilter_ok.mp hfilter
    rw [hmatches, parts_iff hentries d]
    constructor
    · intro hfinal e he
      rcases final_or_overwritten he with he | he
      · exact hfinal e he
      · exact h entries hentries d hfinal e he
    · intro hall e he
      exact hall e (mem_of_final he)

end Matching

/-- **The filter is the conjunction of its parts exactly when the last predicate of each field implies
the ones it overwrote**; and it is one whatever the predicates mean exactly when no field is assigned
two different predicates. -/
theorem documentFilter_conjoins (t : Texts) (target : DocumentTarget) (plan : QueryPlan) :
    (∀ (Doc : Type) (holds : Doc → String → Value → Prop), Conjoins holds t target plan ↔
      ∀ entries, assignments t target plan = .ok entries → Implied holds entries) ∧
    ((∀ (Doc : Type) (holds : Doc → String → Value → Prop), Conjoins holds t target plan) ↔
      ∀ entries, assignments t target plan = .ok entries →
        ∀ e ∈ entries, ∀ e' ∈ entries, e.1 = e'.1 → e.2 = e'.2) := by
  refine ⟨fun Doc holds => conjoins_iff, ?_⟩
  simp only [conjoins_iff]
  constructor
  · intro h entries hentries e he e' he' hfield
    -- A document that holds just the last assignments.
    have himplied := h Unit (fun _ field value => (field, value) ∈ Dict.update [] entries)
      entries hentries ()
    have hlast : ∀ q ∈ entries, Dict.get? (Dict.update [] entries) q.1 = some q.2 := by
      intro q hq
      have hmem : q ∈ Dict.update [] entries := by
        rcases final_or_overwritten hq with hq | hq
        · exact mem_update_iff.mpr hq
        · exact himplied (fun f hf => mem_update_iff.mpr hf) q hq
      exact (mem_dict_iff (nodup_update entries)).mp hmem
    have hsame := hlast e he
    rw [hfield, hlast e' he'] at hsame
    exact (Option.some.inj hsame).symm
  · intro h Doc holds entries hentries d hfinal e he
    obtain ⟨before, after, hsplit, q, hq, hfield⟩ := he
    have hmem : e ∈ entries := by
      rw [hsplit]
      exact List.mem_append_right _ List.mem_cons_self
    have hkey : e.1 ∈ (Dict.update [] entries).keys := by
      by_contra hnot
      have hget := Dict.get?_eq_none.mpr hnot
      rw [Dict.get?_update, Dict.get?_nil, Option.or_none, Dict.get?_eq_none] at hget
      exact hget (List.mem_map.mpr ⟨e, List.mem_reverse.mpr hmem, rfl⟩)
    obtain ⟨last, hlast, hlastfield⟩ := List.mem_map.mp hkey
    have hfin := mem_update_iff.mp hlast
    rw [← h entries hentries last (mem_of_final hfin) e hmem hlastfield, ← hlastfield]
    exact hfinal last hfin

/-! ## Two filters of one field -/

/-- `amount > 5` and `amount < 10` -/
def amountPlan : QueryPlan where
  id := "plan_1"
  datasourceId := "d1"
  queryLanguage := .couchdbMango
  dataObjectIds := ["orders"]
  filters := [⟨"orders::amount", .greaterThan, .int 5⟩, ⟨"orders::amount", .lessThan, .int 10⟩]
  expectedResultType := .document
  dataObjectIds_length := Contracts.oneId_length "orders"
  limit_range := Contracts.defaultMaxRows_range
  time_together := Contracts.TimeRange.none_together

/-- What `$gt` and `$lt` mean of an amount. -/
def amountHolds (amount : Int) (_ : String) : Value → Prop
  | .dict [("$gt", .int n)] => n < amount
  | .dict [("$lt", .int n)] => amount < n
  | _ => True

def amountTexts : Texts where
  str
    | .str s => s
    | _ => ""
  isoformat m := toString m.day
  escape := id
  dumps _ := ""
  repr _ := ""
  reprLanguage _ := ""

/-- The second filter of a field takes the place of the first: an amount of 1 is let through. -/
theorem second_filter_replaces_first : ¬ Conjoins amountHolds amountTexts .couchdb amountPlan := by
  intro h
  have hfilter : documentFilter amountTexts .couchdb amountPlan =
      .ok [("amount", .dict [("$lt", .int 10)])] := by decide
  have hmatches : Matches amountHolds [("amount", .dict [("$lt", .int 10)])] 1 := by
    intro e he
    obtain rfl := List.mem_singleton.mp he
    show (1 : Int) < 10
    decide
  obtain ⟨hparts, -⟩ := (h _ hfilter 1).mp hmatches
  have hfirst : documentFilter amountTexts .couchdb
      (amountPlan.only ⟨"orders::amount", .greaterThan, .int 5⟩) =
      .ok [("amount", .dict [("$gt", .int 5)])] := by decide
  have hheld : (5 : Int) < 1 :=
    hparts _ List.mem_cons_self _ hfirst ("amount", .dict [("$gt", .int 5)]) List.mem_cons_self
  exact absurd hheld (by decide)

end QueryGenerator

end Querying
