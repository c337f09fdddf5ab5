import Qaneris.Interfaces.Stream
import Qaneris.Runtime.Properties.EventLog

/-!
# What a client of the stream receives

A connection delivers the events behind the cursor it began with, in order and each once. A client that
asks for the stream from the start and comes back with the id of its last event goes on where it was.
A client that asks for the events after a later one begins there again: the header counts only when
`after_sequence` is zero.

* `Connection.Ok.serve`, `Client.Ok` — what one step of the generator and of the client keeps
* `System.run_received` — what holds after every run
-/

namespace Interfaces

open Runtime (EventLog Run RunEvent RunEventType RunStatus Store NumberedFrom)

/-! ## One connection -/

/-- What the generator has read and not yielded. -/
def Connection.pending (c : Connection) : List RunEvent :=
  match c.phase with
  | .yielding events => events
  | _ => []

/-- What the generator has yielded. -/
def Connection.yielded (c : Connection) : List RunEvent := c.delivered ++ c.transit

/-- The event announces that the run has settled. -/
def Settles (type : RunEventType) : Prop := ∃ status, terminalEvent status = some type

namespace Connection

/-- The connection is a window on the log. `early` is set where it began within the log. -/
structure Ok (early : Prop) (log : List RunEvent) (c : Connection) : Prop where
  window : c.yielded ++ c.pending <+: log.drop c.start
  cursor : c.cursor = c.start + c.yielded.length
  start_le : early → c.start ≤ log.length
  checking : ∀ type, c.phase = .checking type → Settles type
  ended : ∀ e, c.phase = .ended (.terminal e) → e ∈ log ∧ Settles e.eventType ∧
    c.yielded.length = e.sequence - c.start ∧ (early → c.start ≤ e.sequence)

variable {early : Prop} {log log' : List RunEvent} {c : Connection}

theorem Ok.grows (h : c.Ok early log) (hg : log <+: log') : c.Ok early log' where
  window := h.window.trans (hg.drop c.start)
  cursor := h.cursor
  start_le he := Nat.le_trans (h.start_le he) hg.length_le
  checking := h.checking
  ended e he := by
    obtain ⟨hmem, hrest⟩ := h.ended e he
    exact ⟨hg.subset hmem, hrest⟩

/-- A phase in which nothing is pending and nothing has been decided. -/
theorem Ok.move (h : c.Ok early log) {phase : Phase} (hp : ∀ events, phase ≠ .yielding events)
    (hc : ∀ type, phase = .checking type → Settles type)
    (he : ∀ e, phase ≠ .ended (.terminal e)) (seen : Option Nat) :
    Connection.Ok early log { c with phase, terminalSeenAt := seen } where
  window := by
    have hnil : Connection.pending { c with phase, terminalSeenAt := seen } = [] := by
      unfold pending
      cases phase with
      | yielding events => exact absurd rfl (hp events)
      | _ => rfl
    rw [hnil, List.append_nil]
    exact (List.prefix_append _ _).trans h.window
  cursor := h.cursor
  start_le := h.start_le
  checking := hc
  ended e hend := absurd hend (he e)

theorem Ok.yielded_within (h : c.Ok early log) : c.yielded <+: log.drop c.start :=
  (List.prefix_append _ _).trans h.window

theorem Ok.delivered_within (h : c.Ok early log) : c.delivered <+: log.drop c.start :=
  (List.prefix_append _ _).trans h.yielded_within

/-- A new connection. -/
theorem ok_new {start : Nat} (h : early → start ≤ log.length) :
    Connection.Ok early log { cursor := start, start } where
  window := List.nil_prefix
  cursor := rfl
  start_le := h
  checking _ hp := by cases hp
  ended _ hp := by cases hp

/-- The poll: the events behind the cursor are the rest of the window. -/
theorem Ok.poll (h : c.Ok early log) :
    Connection.Ok early log { c with phase := .yielding (log.drop c.cursor) } where
  window := by
    show c.yielded ++ log.drop c.cursor <+: log.drop c.start
    obtain ⟨rest, hrest⟩ := h.yielded_within
    have hdrop : log.drop c.cursor = rest := by
      rw [h.cursor, ← List.drop_drop, ← hrest, List.drop_left]
    rw [hdrop, hrest]
  cursor := h.cursor
  start_le := h.start_le
  checking _ hp := by cases hp
  ended _ hp := by cases hp

/-- The yield: the cursor is the number of the event, which is the next one of the window. -/
theorem Ok.yield (h : c.Ok early log) (hn : NumberedFrom RunEvent.sequence 1 log) {e : RunEvent}
    {events : List RunEvent} (hp : c.phase = .yielding (e :: events)) :
    Connection.Ok early log { c with
      cursor := e.sequence
      transit := c.transit ++ [e]
      phase := .yielding events } where
  window := by
    have hw := h.window
    rw [pending, hp] at hw
    show (c.delivered ++ (c.transit ++ [e])) ++ events <+: log.drop c.start
    simpa [yielded] using hw
  cursor := by
    show e.sequence = c.start + (c.delivered ++ (c.transit ++ [e])).length
    obtain ⟨rest, hrest⟩ := h.window
    rw [pending, hp] at hrest
    have hget : log[c.start + c.yielded.length]? = some e := by
      rw [← List.getElem?_drop, ← hrest, List.append_assoc]
      rw [List.getElem?_append_right (Nat.le_refl _), Nat.sub_self]
      rfl
    have hseq := hn.getElem? hget
    simp only [yielded, List.length_append, List.length_singleton] at hseq ⊢
    omega
  start_le := h.start_le
  checking _ hend := by cases hend
  ended _ hend := by cases hend

/-- The event at which the generator ends is the last of the log and within the window. -/
theorem Ok.finish (h : c.Ok early log) {e : RunEvent} (hmem : e ∈ log)
    (hlast : e.sequence = log.length) (hs : Settles e.eventType) (hle : e.sequence ≤ c.cursor) :
    Connection.Ok early log { c with phase := .ended (.terminal e) } where
  window := by
    show c.yielded ++ [] <+: log.drop c.start
    rw [List.append_nil]
    exact h.yielded_within
  cursor := h.cursor
  start_le := h.start_le
  checking _ hp := by cases hp
  ended e' he := by
    cases he
    have hlen := h.yielded_within.length_le
    rw [List.length_drop] at hlen
    have hcursor := h.cursor
    refine ⟨hmem, hs, ?_, fun he => ?_⟩
    · show c.yielded.length = e.sequence - c.start
      omega
    · rw [hlast]
      exact h.start_le he

/-- **A step of the generator keeps its window.** -/
theorem Ok.serve {store : Store} {runId : String} (h : c.Ok early (store.eventsOf runId))
    (hn : store.Numbered) (monotonic : Nat) :
    (c.serve runId store monotonic).Ok early (store.eventsOf runId) := by
  unfold Connection.serve
  cases hp : c.phase with
  | polling =>
    simp only [hn.eventsAfter_eq]
    exact h.poll
  | yielding events =>
    cases events with
    | nil => exact h.move (by simp) (by simp) (by simp) _
    | cons e events => exact h.yield (hn runId) hp
  | reading =>
    cases store.get runId with
    | error _ => exact h.move (by simp) (by simp) (by simp) _
    | ok run =>
      by_cases hq : isQueued run = true
      · simp only [hq, if_true]
        exact h.move (by simp) (by simp) (by simp) _
      · cases ht : terminalEvent run.status with
        | none =>
          simp only [hq, ht]
          exact h.move (by simp) (by simp) (by simp) _
        | some type =>
          simp only [hq, ht]
          refine h.move (by simp) ?_ (by simp) _
          intro t htype
          cases htype
          exact ⟨run.status, ht⟩
  | checking type =>
    cases hl : store.lastEvent runId with
    | none => exact h.move (by simp) (by simp) (by simp) _
    | some last =>
      by_cases hend : last.eventType = type ∧ last.sequence ≤ c.cursor
      · simp only [hend, and_self, if_true]
        obtain ⟨hmem, hlast⟩ := hn.lastEvent_some hl
        exact h.finish hmem hlast (hend.1 ▸ h.checking type hp) hend.2
      · simp only [hend, if_false]
        exact h.move (by simp) (by simp) (by simp) _
  | expiring =>
    by_cases hexp : terminalPatience < monotonic - c.terminalSeenAt.getD monotonic
    · simp only [hexp, if_true]
      exact h.move (by simp) (by simp) (by simp) _
    · simp only [hexp, if_false]
      exact h.move (by simp) (by simp) (by simp) _
  | ended how =>
    simp only []
    exact h

theorem serve_start (c : Connection) (runId : String) (store : Store) (monotonic : Nat) :
    (c.serve runId store monotonic).start = c.start := by
  unfold serve
  repeat' split
  all_goals rfl

/-- A frame comes through. -/
theorem Ok.deliver (h : c.Ok early log) {e : RunEvent} {transit : List RunEvent}
    (ht : c.transit = e :: transit) :
    Connection.Ok early log { c with transit, delivered := c.delivered ++ [e] } := by
  have hy : Connection.yielded { c with transit, delivered := c.delivered ++ [e] } = c.yielded := by
    simp [yielded, ht]
  refine ⟨?_, ?_, h.start_le, h.checking, ?_⟩
  · rw [hy]
    exact h.window
  · rw [hy]
    exact h.cursor
  · rw [hy]
    exact h.ended

end Connection

/-! ## The client -/

/-- What came through the connections that are over. -/
def Client.earlier (client : Client) : List RunEvent := client.past.flatMap Session.delivered

/-- Every session is a window on the log; from the start of the log the sessions join up, and from a
later event each of them begins there. -/
structure Client.Ok (log : List RunEvent) (client : Client) : Prop where
  past : ∀ session ∈ client.past, session.delivered <+: log.drop session.start
  connection : ∀ c, client.connection = some c → c.Ok (client.afterSequence = 0) log
  again : client.afterSequence ≠ 0 →
    ∀ session ∈ client.sessions, session.start = client.afterSequence
  earlier : client.afterSequence = 0 → client.earlier <+: log
  onward : client.afterSequence = 0 →
    ∀ c, client.connection = some c → c.start = client.earlier.length
  finished : ∀ e, client.finished = some (.terminal e) → client.connection = none ∧ e ∈ log ∧
    Settles e.eventType ∧ (client.afterSequence = 0 → client.earlier.length = e.sequence) ∧
    ∃ session, client.past.getLast? = some session ∧
      session.delivered.length = e.sequence - session.start

namespace Client

variable {log log' : List RunEvent} {client : Client}

theorem received_eq (client : Client) : client.received
    = client.earlier ++ client.connection.toList.flatMap Connection.delivered := by
  unfold received sessions earlier
  rw [List.flatMap_append, List.flatMap_map]

theorem mem_sessions {client : Client} {session : Session} : session ∈ client.sessions ↔
    session ∈ client.past ∨ ∃ c, client.connection = some c ∧ session = ⟨c.start, c.delivered⟩ := by
  unfold sessions
  rw [List.mem_append, List.mem_map]
  constructor
  · rintro (h | ⟨c, hc, rfl⟩)
    · exact Or.inl h
    · exact Or.inr ⟨c, Option.mem_toList.mp hc, rfl⟩
  · rintro (h | ⟨c, hc, rfl⟩)
    · exact Or.inl h
    · exact Or.inr ⟨c, Option.mem_toList.mpr hc, rfl⟩

theorem ok_initial (runId : String) (afterSequence : Nat) :
    Client.Ok [] { runId, afterSequence } where
  past _ h := absurd h List.not_mem_nil
  connection _ h := by cases h
  again _ _ h := absurd h List.not_mem_nil
  earlier _ := List.nil_prefix
  onward _ _ h := by cases h
  finished _ h := by cases h

theorem Ok.grows (h : client.Ok log) (hg : log <+: log') : client.Ok log' where
  past session hs := (h.past session hs).trans (hg.drop _)
  connection c hc := (h.connection c hc).grows hg
  again := h.again
  earlier ha := (h.earlier ha).trans hg
  onward := h.onward
  finished e he := by
    obtain ⟨hc, hmem, hrest⟩ := h.finished e he
    exact ⟨hc, hg.subset hmem, hrest⟩

/-- What has been received from the start of the log on is a beginning of it. -/
theorem Ok.received_within (h : client.Ok log) (ha : client.afterSequence = 0) :
    client.received <+: log := by
  rw [received_eq]
  cases hc : client.connection with
  | none => simpa using h.earlier ha
  | some c =>
    obtain ⟨rest, hrest⟩ := h.earlier ha
    have hd := (h.connection c hc).delivered_within
    rw [h.onward ha c hc, ← hrest, List.drop_left] at hd
    rw [← hrest]
    simpa using (List.prefix_append_right_inj client.earlier).mpr hd

/-- The connection goes on to `c`. -/
theorem Ok.setConnection (h : client.Ok log) {c c' : Connection} (hc : client.connection = some c)
    (hstart : c'.start = c.start) (hok : c'.Ok (client.afterSequence = 0) log) :
    Client.Ok log { client with connection := some c' } where
  past := h.past
  connection d hd := by
    cases hd
    exact hok
  again ha session hs := by
    rcases mem_sessions.mp hs with hs | ⟨d, hd, rfl⟩
    · exact h.again ha session (mem_sessions.mpr (Or.inl hs))
    · cases hd
      rw [hstart]
      exact h.again ha ⟨c.start, c.delivered⟩ (mem_sessions.mpr (Or.inr ⟨c, hc, rfl⟩))
  earlier := h.earlier
  onward ha d hd := by
    cases hd
    rw [hstart]
    exact h.onward ha c hc
  finished e he := by
    have hnone := (h.finished e he).1
    rw [hc] at hnone
    cases hnone

theorem earlier_concat (client : Client) (session : Session) :
    Client.earlier { client with past := client.past ++ [session] }
      = client.earlier ++ session.delivered := by
  simp [earlier]

/-- The connection is over, and the stream has not ended at an event. -/
theorem Ok.close (h : client.Ok log) {c : Connection} (hc : client.connection = some c)
    {finished : Option End} (hf : ∀ e, finished = some (.terminal e) →
      c.phase = .ended (.terminal e) ∧ c.transit = []) :
    Client.Ok log { client with
      past := client.past ++ [⟨c.start, c.delivered⟩], connection := none, finished } where
  past session hs := by
    rcases List.mem_append.mp hs with hs | hs
    · exact h.past session hs
    · obtain rfl := List.mem_singleton.mp hs
      exact (h.connection c hc).delivered_within
  connection d hd := by cases hd
  again ha session hs := by
    rcases mem_sessions.mp hs with hs | ⟨d, hd, -⟩
    · rcases List.mem_append.mp hs with hs | hs
      · exact h.again ha session (mem_sessions.mpr (Or.inl hs))
      · obtain rfl := List.mem_singleton.mp hs
        exact h.again ha _ (mem_sessions.mpr (Or.inr ⟨c, hc, rfl⟩))
    · cases hd
  earlier ha := by
    have hreceived := h.received_within ha
    rw [received_eq, hc] at hreceived
    rw [Client.earlier, List.flatMap_append]
    simpa [Client.earlier] using hreceived
  onward _ d hd := by cases hd
  finished e he := by
    obtain ⟨hphase, htransit⟩ := hf e he
    obtain ⟨hmem, hs, hlen, hearly⟩ := (h.connection c hc).ended e hphase
    have hy : c.yielded = c.delivered := by simp [Connection.yielded, htransit]
    rw [hy] at hlen
    refine ⟨rfl, hmem, hs, fun ha => ?_, ⟨c.start, c.delivered⟩, by simp, hlen⟩
    have hle := hearly ha
    have hon := h.onward ha c hc
    show (List.flatMap Session.delivered (client.past ++ [⟨c.start, c.delivered⟩])).length
      = e.sequence
    rw [List.flatMap_append, List.length_append]
    have hlen' : (client.past.flatMap Session.delivered).length = c.start := hon.symm
    rw [hlen']
    simp only [List.flatMap_cons, List.flatMap_nil, List.append_nil]
    omega

end Client

/-! ## The system -/

theorem toString_ne_empty (n : Nat) : toString n ≠ "" := by
  intro h
  have hlist := congrArg String.toList h
  rw [Nat.toString_eq_repr, Nat.toList_repr] at hlist
  exact Nat.toDigits_ne_nil hlist

section System

variable {int : String → Option Int} {s s' : System}

structure System.Ok (s : System) : Prop where
  log : s.log.Ok
  client : s.client.Ok (s.log.store.eventsOf s.client.runId)

/-- A step leaves the URL of the client alone. -/
def System.SameUrl (s s' : System) : Prop :=
  s'.client.runId = s.client.runId ∧ s'.client.afterSequence = s.client.afterSequence

/-- The header of a client that has received a beginning of the log leads on to its end. -/
theorem startCursor_received (hint : ∀ n : Nat, int (toString n) = some (n : Int)) {log : List RunEvent}
    (hn : NumberedFrom RunEvent.sequence 1 log) {client : Client} (ha : client.afterSequence = 0)
    (hr : client.received <+: log) :
    startCursor int client.afterSequence client.lastEventId = client.received.length := by
  unfold Client.lastEventId
  cases hl : client.received.getLast? with
  | none =>
    rw [List.getLast?_eq_none_iff.mp hl, ha]
    rfl
  | some e =>
    have hpos : client.received.length ≠ 0 := by
      intro h0
      rw [List.length_eq_zero_iff.mp h0] at hl
      cases hl
    have hget : log[client.received.length - 1]? = some e := by
      obtain ⟨rest, hrest⟩ := hr
      rw [← hrest, List.getElem?_append_left (by omega), ← List.getLast?_eq_getElem?, hl]
    have hseq := hn.getElem? hget
    simp only [Option.map_some, startCursor, ha, ne_eq, toString_ne_empty, not_false_eq_true,
      and_self, if_true, hint, Option.getD_some, Int.toNat_natCast]
    omega

theorem startCursor_pos {client : Client} (ha : client.afterSequence ≠ 0) (header : Option String) :
    startCursor int client.afterSequence header = client.afterSequence := by
  unfold startCursor
  cases header with
  | none => rfl
  | some text => simp [ha]

theorem System.onConnection_some {f : Connection → Option Client} (h : s.onConnection f = some s') :
    ∃ c client, s.client.connection = some c ∧ f c = some client ∧ s' = { s with client } := by
  unfold onConnection at h
  cases hc : s.client.connection with
  | none =>
    rw [hc] at h
    cases h
  | some c =>
    rw [hc] at h
    obtain ⟨client, hf, rfl⟩ := Option.map_eq_some_iff.mp h
    exact ⟨c, client, rfl, hf, rfl⟩

/-- A new connection of a client that has none. -/
theorem Client.Ok.connect (hint : ∀ n : Nat, int (toString n) = some (n : Int)) {log : List RunEvent}
    (hn : NumberedFrom RunEvent.sequence 1 log) {client : Client} (h : client.Ok log)
    (hc : client.connection = none) (hf : client.finished = none) :
    Client.Ok log { client with connection := some {
      cursor := startCursor int client.afterSequence client.lastEventId
      start := startCursor int client.afterSequence client.lastEventId } } := by
  have hreceived : client.received = client.earlier := by
    rw [Client.received_eq, hc]
    simp
  -- from the start of the log on, the new connection begins behind what has been received
  have hon : client.afterSequence = 0 →
      startCursor int client.afterSequence client.lastEventId = client.earlier.length := by
    intro ha
    rw [startCursor_received hint hn ha (h.received_within ha), hreceived]
  constructor
  · exact h.past
  · intro c hcon
    cases hcon
    refine Connection.ok_new fun ha => ?_
    rw [hon ha]
    exact (h.earlier ha).length_le
  · intro ha session hs
    rcases Client.mem_sessions.mp hs with hs | ⟨c, hcon, rfl⟩
    · exact h.again ha session (Client.mem_sessions.mpr (Or.inl hs))
    · cases hcon
      exact startCursor_pos ha _
  · exact h.earlier
  · intro ha c hcon
    cases hcon
    exact hon ha
  · intro e he
    rw [show client.finished = some (.terminal e) from he] at hf
    cases hf

/-- **Every step keeps the system in order.** -/
theorem System.Ok.act (hint : ∀ n : Nat, int (toString n) = some (n : Int)) (h : s.Ok) {a : Act}
    (ha : s.act int a = some s') : s'.Ok ∧ s.SameUrl s' := by
  have hnum := h.log.numbered s.client.runId
  cases a with
  | write w step =>
    obtain ⟨log, hw, rfl⟩ := Option.map_eq_some_iff.mp ha
    obtain ⟨hok, hgrows⟩ := h.log.write hw
    exact ⟨⟨hok, h.client.grows (hgrows _)⟩, rfl, rfl⟩
  | update runs =>
    cases ha
    exact ⟨⟨h.log.update runs, h.client⟩, rfl, rfl⟩
  | tick elapsed =>
    cases ha
    exact ⟨⟨h.log, h.client⟩, rfl, rfl⟩
  | connect =>
    rw [System.act] at ha
    obtain ⟨⟨hc, hf⟩, he⟩ := Option.ite_none_right_eq_some.mp ha
    cases he
    exact ⟨⟨h.log, h.client.connect hint hnum hc hf⟩, rfl, rfl⟩
  | serve =>
    obtain ⟨c, client, hc, hf, rfl⟩ := onConnection_some ha
    cases hf
    have hok := (h.client.connection c hc).serve h.log.numbered s.monotonic
    refine ⟨⟨h.log, h.client.setConnection hc ?_ hok⟩, rfl, rfl⟩
    exact Connection.serve_start c _ _ _
  | deliver =>
    obtain ⟨c, client, hc, hf, rfl⟩ := onConnection_some ha
    cases ht : c.transit with
    | nil =>
      rw [ht] at hf
      cases hf
    | cons e transit =>
      rw [ht] at hf
      cases hf
      exact ⟨⟨h.log, h.client.setConnection hc rfl ((h.client.connection c hc).deliver ht)⟩, rfl, rfl⟩
  | disconnect =>
    obtain ⟨c, client, hc, hf, rfl⟩ := onConnection_some ha
    cases hf
    refine ⟨⟨h.log, h.client.close hc fun e he => ?_⟩, rfl, rfl⟩
    rw [(h.client.finished e he).1] at hc
    cases hc
  | finish =>
    obtain ⟨c, client, hc, hf, rfl⟩ := onConnection_some ha
    split at hf
    · rename_i event hphase htransit
      cases hf
      refine ⟨⟨h.log, h.client.close hc fun e he => ?_⟩, rfl, rfl⟩
      cases he
      exact ⟨hphase, htransit⟩
    · cases hf
      exact ⟨⟨h.log, h.client.close hc nofun⟩, rfl, rfl⟩
    · cases hf

theorem System.Ok.run (hint : ∀ n : Nat, int (toString n) = some (n : Int)) : ∀ {acts : List Act}
    {s s' : System}, s.Ok → s.run int acts = some s' → s'.Ok ∧ s.SameUrl s'
  | [], _, _, h, hrun => by
    cases hrun
    exact ⟨h, rfl, rfl⟩
  | a :: acts, s, s', h, hrun => by
    obtain ⟨mid, hact, hrest⟩ := Option.bind_eq_some_iff.mp hrun
    obtain ⟨hmid, hurl⟩ := h.act hint hact
    obtain ⟨hok, hurl'⟩ := hmid.run hint hrest
    exact ⟨hok, hurl'.1.trans hurl.1, hurl'.2.trans hurl.2⟩

theorem System.ok_initial (runId : String) (afterSequence : Nat) (runs : List Run) :
    (System.initial runId afterSequence runs).Ok :=
  ⟨EventLog.ok_initial runs, Client.ok_initial runId afterSequence⟩

/-- A window on a log in order, by the numbers of its events. -/
theorem eventsBetween_of_window {store : Store} (hn : store.Numbered) {runId : String} {start : Nat}
    {window : List RunEvent} (h : window <+: (store.eventsOf runId).drop start) {upTo : Nat}
    (hu : window.length = upTo - start) : window = store.eventsBetween runId start upTo := by
  rw [hn.eventsBetween_eq, List.drop_take, ← hu]
  exact List.prefix_iff_eq_take.mp h

/-- **What a client receives**, over every interleaving of writers, status changes, time and
disconnects. The events of every run are numbered 1, 2, 3, … in the order of their commits. Each
connection delivers the events behind its cursor, in order and each once. From the start of the log on
the connections join up, so nothing is lost or repeated; behind a later event each of them begins at
that event again. A stream that ends at an event has delivered everything up to it. -/
theorem System.run_received (hint : ∀ n : Nat, int (toString n) = some (n : Int)) {runId : String} {a : Nat}
    {runs : List Run} {acts : List Act}
    (h : (System.initial runId a runs).run int acts = some s) :
    (∀ id, (s.log.store.eventsOf id).map RunEvent.sequence
      = List.range' 1 (s.log.store.eventsOf id).length) ∧
    (∀ session ∈ s.client.sessions, (a ≠ 0 → session.start = a) ∧
      ∃ upTo, session.delivered = s.log.store.eventsBetween runId session.start upTo) ∧
    (a = 0 → ∃ upTo, s.client.received = s.log.store.eventsBetween runId 0 upTo) ∧
    ∀ e, s.client.finished = some (.terminal e) →
      e ∈ s.log.store.eventsOf runId ∧ Settles e.eventType ∧
      (a = 0 → s.client.received = s.log.store.eventsBetween runId 0 e.sequence) ∧
      ∃ last, s.client.sessions.getLast? = some last ∧
        last.delivered = s.log.store.eventsBetween runId last.start e.sequence := by
  obtain ⟨hok, hid, hafter⟩ := (System.ok_initial runId a runs).run hint h
  have hid' : s.client.runId = runId := hid
  have hafter' : s.client.afterSequence = a := hafter
  have hclient := hok.client
  rw [hid'] at hclient
  have hn := hok.log.numbered
  -- what came through a connection is a window on the log
  have hwindow : ∀ session ∈ s.client.sessions,
      session.delivered <+: (s.log.store.eventsOf runId).drop session.start := by
    intro session hs
    rcases Client.mem_sessions.mp hs with hs | ⟨c, hc, rfl⟩
    · exact hclient.past session hs
    · exact (hclient.connection c hc).delivered_within
  have hreceived : a = 0 → s.client.received <+: (s.log.store.eventsOf runId).drop 0 :=
    fun ha => hclient.received_within (hafter'.trans ha)
  refine ⟨fun id => hn id, fun session hs => ⟨fun ha => ?_, ?_⟩, fun ha => ?_, fun e he => ?_⟩
  · rw [← hafter']
    exact hclient.again (hafter' ▸ ha) session hs
  · exact ⟨session.start + session.delivered.length,
      eventsBetween_of_window hn (hwindow session hs) (by omega)⟩
  · exact ⟨s.client.received.length, eventsBetween_of_window hn (hreceived ha) (by omega)⟩
  · obtain ⟨hnone, hmem, hsettles, hearlier, last, hlast, hlen⟩ := hclient.finished e he
    have hsessions : s.client.sessions = s.client.past := by
      simp [Client.sessions, hnone]
    refine ⟨hmem, hsettles, fun ha => ?_, last, hsessions ▸ hlast, ?_⟩
    · have hre : s.client.received = s.client.earlier := by
        rw [Client.received_eq, hnone]
        simp
      refine eventsBetween_of_window hn (hreceived ha) ?_
      rw [hre, hearlier (hafter'.trans ha)]
      rfl
    · exact eventsBetween_of_window hn
        (hwindow last (hsessions ▸ List.mem_of_getLast? hlast)) hlen

/-! ### Three runs of the system -/

/-- `int` on a text of digits. -/
def decimal (text : String) : Option Int :=
  if text ≠ "" ∧ text.toList.all Char.isDigit then some (Nat.ofDigitChars 10 text.toList 0) else none

theorem decimal_toString (n : Nat) : decimal (toString n) = some (n : Int) := by
  have hdigits : (toString n).toList.all Char.isDigit = true := by
    rw [List.all_eq_true, Nat.toString_eq_repr, Nat.toList_repr]
    exact fun c hc => Nat.isDigit_of_mem_toDigits (by decide) (by decide) hc
  rw [decimal, if_pos ⟨toString_ne_empty n, hdigits⟩]
  rw [Nat.toString_eq_repr, Nat.toList_repr, Nat.ofDigitChars_ten_toDigits]

def completedRun : Run where
  runId := "run-1"
  conversationId := "conversation-1"
  userMessageId := "message-1"
  workspaceId := "default"
  status := .completed
  currentStage := "completed"
  createdAt := 0
  updatedAt := 0

/-- One `append_event` without interruption. -/
def appending (type : RunEventType) : List Act :=
  [.write 0 (.begin { runId := "run-1", eventType := type, occurredAt := 0 }), .write 0 .number,
    .write 0 .insert, .write 0 .commit]

/-- A connection that breaks after the first frame. -/
def brokenOff : List Act := [.connect, .serve, .serve, .deliver, .disconnect]

/-- Two events, a connection that breaks, the last event, and a connection that ends there. `rest` is
how many events the second connection reads. -/
def reconnecting (rest : Nat) : List Act :=
  appending .runStarted ++ appending .contextReady ++ brokenOff ++ appending .runCompleted ++
    .connect :: .serve :: (List.replicate rest .serve ++ [.serve, .serve, .serve] ++
      List.replicate rest .deliver ++ [.finish])

/-- A status that is settled before its event is written: the client waits for six seconds. -/
def expiring : List Act :=
  appending .runStarted ++ [.connect, .serve, .serve, .serve, .serve, .serve, .tick (6 * 10 ^ 9),
    .serve, .deliver, .finish] ++ appending .runCompleted

/-- From the start of the log on, the second connection goes on behind the first. -/
theorem reconnecting_received :
    ∃ s, (System.initial "run-1" 0 [completedRun]).run decimal (reconnecting 2) = some s ∧
      s.client.received.map RunEvent.sequence = [1, 2, 3] ∧
      ∃ upTo, s.client.received = s.log.store.eventsBetween "run-1" 0 upTo := by
  have hrun : ((System.initial "run-1" 0 [completedRun]).run decimal (reconnecting 2)).any
      (fun s => s.client.received.map RunEvent.sequence = [1, 2, 3]) = true := by
    decide
  obtain ⟨s, hs, hreceived⟩ := (Option.any_eq_true _ _).mp hrun
  exact ⟨s, hs, of_decide_eq_true hreceived, (System.run_received decimal_toString hs).2.2.1 rfl⟩

/-- The stream has ended at an event, and everything behind `after` up to it came through once. -/
def ReceivedOnce (runId : String) (after : Nat) (s : System) : Prop :=
  ∃ e, s.client.finished = some (.terminal e) ∧
    s.client.received = s.log.store.eventsBetween runId after e.sequence

/-- **Behind a later event, a client that comes back receives events twice**: the header is not looked
at. And a stream may end by its time limit, before the event that announces the status. -/
theorem reconnecting_repeats :
    (∃ s, (System.initial "run-1" 1 [completedRun]).run decimal (reconnecting 2) = some s ∧
      s.client.finished.isSome ∧ s.client.received.map RunEvent.sequence = [2, 2, 3] ∧
      ¬ReceivedOnce "run-1" 1 s) ∧
    ∃ s, (System.initial "run-1" 0 [completedRun]).run decimal expiring = some s ∧
      s.client.finished = some .expired ∧
      (s.log.store.eventsOf "run-1").map RunEvent.eventType = [.runStarted, .runCompleted] ∧
      s.client.received.map RunEvent.sequence = [1] ∧ ¬ReceivedOnce "run-1" 0 s := by
  constructor
  · have hrun : ((System.initial "run-1" 1 [completedRun]).run decimal (reconnecting 2)).any
        (fun s => s.client.finished.isSome ∧ s.client.received.map RunEvent.sequence = [2, 2, 3] ∧
          (s.log.store.eventsOf "run-1").map RunEvent.sequence = [1, 2, 3]) = true := by
      decide
    obtain ⟨s, hs, hp⟩ := (Option.any_eq_true _ _).mp hrun
    obtain ⟨hfinished, hreceived, hlog⟩ := of_decide_eq_true hp
    refine ⟨s, hs, hfinished, hreceived, ?_⟩
    rintro ⟨e, -, he⟩
    -- the log has one event with the number 2
    have hsub : (s.client.received.map RunEvent.sequence).Sublist [1, 2, 3] := by
      rw [he, ← hlog]
      exact List.filter_sublist.map _
    rw [hreceived] at hsub
    exact absurd hsub (by decide)
  · have hrun : ((System.initial "run-1" 0 [completedRun]).run decimal expiring).any
        (fun s => s.client.finished = some .expired ∧
          (s.log.store.eventsOf "run-1").map RunEvent.eventType = [.runStarted, .runCompleted] ∧
          s.client.received.map RunEvent.sequence = [1]) = true := by
      decide
    obtain ⟨s, hs, hp⟩ := (Option.any_eq_true _ _).mp hrun
    obtain ⟨hfinished, hlog, hreceived⟩ := of_decide_eq_true hp
    refine ⟨s, hs, hfinished, hlog, hreceived, ?_⟩
    rintro ⟨e, he, -⟩
    rw [hfinished] at he
    cases he

end System

end Interfaces
