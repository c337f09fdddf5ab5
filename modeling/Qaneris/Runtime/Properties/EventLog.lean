import Mathlib.Data.List.Infix
import Qaneris.Runtime.EventLog

/-!
# The numbers of the events

Whatever writers interleave, the events of a run are numbered 1, 2, 3, … in the order of their commits:
the number that a writer has read stays the next one while it holds the write lock.

* `EventLog.Ok.write` — every step of every writer keeps the log in order
* `Store.eventsAfter_eq`, `Store.lastEvent_some` — what the queries return on a log in order
-/

namespace Runtime

/-! ## Lists numbered from a start on -/

section Numbered

variable {α : Type} {f : α → Nat}

/-- The `i`-th element has the number `start + i`. -/
def NumberedFrom (f : α → Nat) (start : Nat) (l : List α) : Prop :=
  l.map f = List.range' start l.length

theorem NumberedFrom.cons {start : Nat} {a : α} {l : List α} :
    NumberedFrom f start (a :: l) ↔ f a = start ∧ NumberedFrom f (start + 1) l := by
  unfold NumberedFrom
  rw [List.map_cons, List.length_cons, List.range'_succ, List.cons.injEq]

theorem NumberedFrom.concat {start : Nat} {l : List α} {a : α} (h : NumberedFrom f start l)
    (ha : f a = start + l.length) : NumberedFrom f start (l ++ [a]) := by
  unfold NumberedFrom at h ⊢
  rw [List.map_append, h, List.length_append, List.length_singleton, List.range'_1_concat]
  simp [ha]

theorem NumberedFrom.filter_lt : ∀ {l : List α} {start : Nat} (n : Nat), NumberedFrom f start l →
    (l.filter fun a => n < f a) = l.drop (n + 1 - start)
  | [], _, _, _ => by simp
  | a :: l, start, n, h => by
    obtain ⟨ha, hl⟩ := NumberedFrom.cons.mp h
    have ih := filter_lt n hl
    by_cases hn : n < start
    · rw [List.filter_cons_of_pos (by simpa [ha] using hn), ih]
      rw [show n + 1 - (start + 1) = 0 by omega, show n + 1 - start = 0 by omega]
      rfl
    · rw [List.filter_cons_of_neg (by simpa [ha] using hn), ih]
      rw [show n + 1 - start = (n + 1 - (start + 1)) + 1 by omega]
      rfl

theorem NumberedFrom.filter_le : ∀ {l : List α} {start : Nat} (n : Nat), NumberedFrom f start l →
    (l.filter fun a => f a ≤ n) = l.take (n + 1 - start)
  | [], _, _, _ => by simp
  | a :: l, start, n, h => by
    obtain ⟨ha, hl⟩ := NumberedFrom.cons.mp h
    have ih := filter_le n hl
    by_cases hn : start ≤ n
    · rw [List.filter_cons_of_pos (by simpa [ha] using hn), ih]
      rw [show n + 1 - start = (n + 1 - (start + 1)) + 1 by omega]
      rfl
    · rw [List.filter_cons_of_neg (by simpa [ha] using hn), ih]
      rw [show n + 1 - (start + 1) = 0 by omega, show n + 1 - start = 0 by omega]
      rfl

theorem NumberedFrom.le_of_mem {l : List α} {start : Nat} {a : α} (h : NumberedFrom f start l)
    (ha : a ∈ l) : start ≤ f a ∧ f a < start + l.length := by
  have hmem : f a ∈ l.map f := List.mem_map.mpr ⟨a, ha, rfl⟩
  rw [h] at hmem
  exact List.mem_range'_1.mp hmem

/-- The number of the element at a place. -/
theorem NumberedFrom.getElem? {l : List α} {start i : Nat} {a : α} (h : NumberedFrom f start l)
    (ha : l[i]? = some a) : f a = start + i := by
  have hmap : (l.map f)[i]? = some (f a) := by rw [List.getElem?_map, ha, Option.map_some]
  rw [h] at hmap
  obtain ⟨hlt, he⟩ := List.getElem?_eq_some_iff.mp hmap
  rw [List.getElem_range'] at he
  omega

theorem NumberedFrom.pairwise_le {l : List α} {start : Nat} (h : NumberedFrom f start l) :
    l.Pairwise fun a b => f a ≤ f b := by
  have hrange : (l.map f).Pairwise (· ≤ ·) := by
    rw [h]
    exact List.pairwise_le_range' 1
  exact List.pairwise_map.mp hrange

theorem foldl_max_range' : ∀ n, (List.range' 1 n).foldl max 0 = n
  | 0 => rfl
  | n + 1 => by
    rw [List.range'_1_concat, List.foldl_append, foldl_max_range' n]
    simp only [List.foldl_cons, List.foldl_nil]
    omega

end Numbered

/-! ## The queries on a log in order -/

namespace Store

/-- The events of a run in the order of their commits. -/
def eventsOf (s : Store) (runId : String) : List RunEvent :=
  s.events.filter fun e => e.runId = runId

/-- The events of a run with `after < sequence ≤ upTo`. -/
def eventsBetween (s : Store) (runId : String) (after upTo : Nat) : List RunEvent :=
  (s.eventsOf runId).filter fun e => after < e.sequence ∧ e.sequence ≤ upTo

/-- The events of every run have the sequences 1 to n, without a gap. -/
def Numbered (s : Store) : Prop :=
  ∀ runId, NumberedFrom RunEvent.sequence 1 (s.eventsOf runId)

variable {s : Store} {runId : String}

theorem Numbered.nextSequence_eq (h : s.Numbered) (runId : String) :
    s.nextSequence runId = (s.eventsOf runId).length + 1 := by
  have hmap := h runId
  unfold NumberedFrom eventsOf at hmap
  rw [nextSequence, hmap, foldl_max_range', eventsOf]

theorem Numbered.eventsAfter_eq (h : s.Numbered) (runId : String) (n : Nat) :
    s.eventsAfter runId n = (s.eventsOf runId).drop n := by
  have hfilter : (s.events.filter fun e => e.runId = runId ∧ n < e.sequence)
      = (s.eventsOf runId).drop n := by
    have := (h runId).filter_lt n
    rw [Nat.add_sub_cancel] at this
    rw [← this, eventsOf, List.filter_filter]
    congr 1
    funext e
    simp [Bool.and_comm]
  have hsorted : ((s.eventsOf runId).drop n).Pairwise fun a b => a.sequence ≤ b.sequence :=
    (h runId).pairwise_le.sublist (List.drop_sublist _ _)
  rw [eventsAfter, hfilter, List.Pairwise.insertionSort_eq hsorted]

theorem Numbered.eventsBetween_eq (h : s.Numbered) (runId : String) (after upTo : Nat) :
    s.eventsBetween runId after upTo = ((s.eventsOf runId).take upTo).drop after := by
  have htake := (h runId).filter_le upTo
  rw [Nat.add_sub_cancel] at htake
  have hnum : NumberedFrom RunEvent.sequence 1 ((s.eventsOf runId).take upTo) := by
    unfold NumberedFrom
    rw [List.map_take, h runId, List.length_take]
    by_cases hle : upTo ≤ (s.eventsOf runId).length
    · rw [List.take_range'_of_length_ge hle, Nat.min_eq_left hle]
    · rw [List.take_range'_of_length_le (by omega), Nat.min_eq_right (by omega)]
  have hdrop := hnum.filter_lt after
  rw [Nat.add_sub_cancel] at hdrop
  rw [← hdrop, ← htake, List.filter_filter, eventsBetween]
  congr 1
  funext e
  simp

/-- The last event is the one with the highest number. -/
theorem Numbered.lastEvent_some (h : s.Numbered) {e : RunEvent} (he : s.lastEvent runId = some e) :
    e ∈ s.eventsOf runId ∧ e.sequence = (s.eventsOf runId).length := by
  have hperm := List.perm_insertionSort (fun a b : RunEvent => b.sequence ≤ a.sequence)
    (s.eventsOf runId)
  have hsorted := List.pairwise_insertionSort (fun a b : RunEvent => b.sequence ≤ a.sequence)
    (s.eventsOf runId)
  have hhead : ((s.eventsOf runId).insertionSort fun a b => b.sequence ≤ a.sequence).head? = some e :=
    he
  obtain ⟨rest, hl⟩ := List.head?_eq_some_iff.mp hhead
  rw [hl] at hperm hsorted
  have hmem : e ∈ s.eventsOf runId := hperm.mem_iff.mp List.mem_cons_self
  have hbound := (h runId).le_of_mem hmem
  -- no event of the run comes after it, the one with the number `length` in particular
  have hmax : ∀ a ∈ s.eventsOf runId, a.sequence ≤ e.sequence := by
    intro a ha
    rcases List.mem_cons.mp (hperm.mem_iff.mpr ha) with rfl | hrest
    · exact Nat.le_refl _
    · exact List.rel_of_pairwise_cons hsorted hrest
  obtain ⟨a, ha⟩ : ∃ a, (s.eventsOf runId)[(s.eventsOf runId).length - 1]? = some a := by
    have hpos := List.length_pos_of_mem hmem
    exact ⟨_, List.getElem?_eq_getElem (by omega)⟩
  have hnum := (h runId).getElem? ha
  have hle := hmax a (List.mem_of_getElem? ha)
  exact ⟨hmem, by omega⟩

end Store

/-! ## Writers -/

namespace EventLog

/-- Only the holder of the lock is in a transaction, and the number it has read is still the next. -/
structure Ok (log : EventLog) : Prop where
  numbered : log.store.Numbered
  locked : ∀ w, log.writers w ≠ .idle → log.holder = some w
  next : ∀ w call n, log.writers w = .numbered call n → n = log.store.nextSequence call.runId
  row : ∀ w e, log.writers w = .inserted e → e.sequence = log.store.nextSequence e.runId

/-- The events of a run only get more at the end. -/
def Grows (log log' : EventLog) : Prop :=
  ∀ runId, log.store.eventsOf runId <+: log'.store.eventsOf runId

variable {log log' : EventLog} {w : Nat}

/-- A step of the holder within its transaction. -/
theorem Ok.setWriter (h : log.Ok) {writer : Writer} (hw : log.writers w ≠ .idle)
    (hnext : ∀ call n, writer = .numbered call n → n = log.store.nextSequence call.runId)
    (hrow : ∀ e, writer = .inserted e → e.sequence = log.store.nextSequence e.runId) :
    (log.setWriter w writer).Ok where
  numbered := h.numbered
  locked v hv := by
    by_cases hvw : v = w
    · exact hvw ▸ h.locked w hw
    · exact h.locked v (by simpa [EventLog.setWriter, hvw] using hv)
  next v call n hv := by
    by_cases hvw : v = w
    · exact hnext call n (by simpa [EventLog.setWriter, hvw] using hv)
    · exact h.next v call n (by simpa [EventLog.setWriter, hvw] using hv)
  row v e hv := by
    by_cases hvw : v = w
    · exact hrow e (by simpa [EventLog.setWriter, hvw] using hv)
    · exact h.row v e (by simpa [EventLog.setWriter, hvw] using hv)

/-- No other writer is in a transaction while `w` holds the lock. -/
theorem Ok.idle (h : log.Ok) (hw : log.holder = some w) {v : Nat} (hvw : v ≠ w) :
    log.writers v = .idle := by
  by_contra hv
  have := h.locked v hv
  rw [hw] at this
  exact hvw (Option.some.inj this).symm

/-- The end of a transaction, when the events in `store` are in order. -/
theorem Ok.release (h : log.Ok) (hw : log.holder = some w) {store : Store} (hs : store.Numbered) :
    EventLog.Ok { log.setWriter w .idle with store, holder := none } := by
  have hidle : ∀ v, (log.setWriter w .idle).writers v = .idle := by
    intro v
    by_cases hvw : v = w
    · simp [EventLog.setWriter, hvw]
    · simpa [EventLog.setWriter, hvw] using h.idle hw hvw
  refine ⟨hs, fun v hv => absurd (hidle v) hv, fun v call n hv => ?_, fun v e hv => ?_⟩
  · exact absurd ((hidle v).symm.trans hv) nofun
  · exact absurd ((hidle v).symm.trans hv) nofun

/-- The row that is inserted is never refused: no event has its number yet. -/
theorem Ok.not_conflicts (h : log.Ok) {call : Append} {n : Nat}
    (hw : log.writers w = .numbered call n) : conflicts log.store (call.event n) = false := by
  have hn := h.next w call n hw
  rw [conflicts, List.any_eq_false]
  intro e he hboth
  obtain ⟨hid, hseq⟩ : e.runId = call.runId ∧ e.sequence = n := of_decide_eq_true hboth
  have hlt := Store.lt_nextSequence he
  rw [hid] at hlt
  omega

theorem eventsOf_concat (s : Store) (e : RunEvent) (runId : String) :
    Store.eventsOf { s with events := s.events ++ [e] } runId
      = s.eventsOf runId ++ if e.runId = runId then [e] else [] := by
  unfold Store.eventsOf
  rw [List.filter_append]
  by_cases hid : e.runId = runId
  · simp [hid]
  · simp [hid]

theorem numbered_concat {s : Store} (h : s.Numbered) {e : RunEvent}
    (he : e.sequence = s.nextSequence e.runId) :
    Store.Numbered { s with events := s.events ++ [e] } := by
  intro runId
  rw [eventsOf_concat]
  by_cases hid : e.runId = runId
  · rw [if_pos hid]
    refine (h runId).concat ?_
    rw [he, h.nextSequence_eq, hid]
    omega
  · rw [if_neg hid, List.append_nil]
    exact h runId

/-- **Every step of every writer keeps the log in order**, and takes no event away. -/
theorem Ok.write (h : log.Ok) {step : WriteStep} (hs : log.write w step = some log') :
    log'.Ok ∧ log.Grows log' := by
  cases step with
  | begin call =>
    rw [EventLog.write] at hs
    obtain ⟨⟨hfree, hidle⟩, he⟩ := Option.ite_none_right_eq_some.mp hs
    cases he
    refine ⟨⟨h.numbered, ?_, ?_, ?_⟩, fun _ => List.prefix_rfl⟩
    · intro v hv
      by_cases hvw : v = w
      · exact congrArg some hvw.symm
      · have := h.locked v (by simpa [EventLog.setWriter, hvw] using hv)
        rw [hfree] at this
        cases this
    · intro v c n hv
      by_cases hvw : v = w
      · simp [EventLog.setWriter, hvw] at hv
      · exact h.next v c n (by simpa [EventLog.setWriter, hvw] using hv)
    · intro v e hv
      by_cases hvw : v = w
      · simp [EventLog.setWriter, hvw] at hv
      · exact h.row v e (by simpa [EventLog.setWriter, hvw] using hv)
  | number =>
    rw [EventLog.write] at hs
    cases hw : log.writers w with
    | begun call =>
      rw [hw] at hs
      cases hs
      refine ⟨h.setWriter (by simp [hw]) ?_ (by simp), fun _ => List.prefix_rfl⟩
      intro c n hc
      cases hc
      rfl
    | idle | numbered | inserted =>
      rw [hw] at hs
      cases hs
  | insert =>
    rw [EventLog.write] at hs
    cases hw : log.writers w with
    | numbered call n =>
      rw [hw] at hs
      simp only [h.not_conflicts hw] at hs
      cases hs
      refine ⟨h.setWriter (by simp [hw]) (by simp) ?_, fun _ => List.prefix_rfl⟩
      intro e he
      cases he
      exact h.next w call n hw
    | idle | begun | inserted =>
      rw [hw] at hs
      cases hs
  | commit =>
    rw [EventLog.write] at hs
    cases hw : log.writers w with
    | inserted e =>
      rw [hw] at hs
      cases hs
      refine ⟨h.release (h.locked w (by simp [hw])) (numbered_concat h.numbered (h.row w e hw)), ?_⟩
      intro runId
      show log.store.eventsOf runId
        <+: Store.eventsOf { log.store with events := log.store.events ++ [e] } runId
      rw [eventsOf_concat]
      exact List.prefix_append _ _
    | idle | begun | numbered =>
      rw [hw] at hs
      cases hs
  | rollback =>
    rw [EventLog.write] at hs
    obtain ⟨hw, he⟩ := Option.ite_none_right_eq_some.mp hs
    cases he
    exact ⟨h.release hw h.numbered, fun _ => List.prefix_rfl⟩

/-- Nothing has been written. -/
theorem ok_initial (runs : List Run) : EventLog.Ok { store := { runs } } where
  numbered _ := rfl
  locked _ h := absurd rfl h
  next _ _ _ h := by cases h
  row _ _ h := by cases h

/-- The rows of the runs do not matter. -/
theorem Ok.update (h : log.Ok) (runs : List Run) :
    EventLog.Ok { log with store := { log.store with runs } } :=
  ⟨h.numbered, h.locked, h.next, h.row⟩

end EventLog

end Runtime
