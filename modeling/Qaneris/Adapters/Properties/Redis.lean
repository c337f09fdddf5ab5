import Qaneris.Adapters.Redis
import Qaneris.Infra.Except
import Qaneris.Querying.Redis

/-!
# What the Redis adapter returns

* `collection_truncation_iff` — the rows of a collection are a prefix of it, and a cut is reported unless the
  limit of the plan made it
* `scan_exact_iff` — the keys of a kind are listed, each once if and only if the scan returns each of them once
-/

namespace Adapters.RedisAdapter

open Contracts (Command GroundedQueryPlan NativeQuery Row Value)
open Infra (Json bind_ok)
open Querying

/-! ## The keys of a kind -/

section Scan

variable {type : String → String} {kind : String} {bound maximum : Nat} {keys : List String}
  {page : Page} {pages : List Page} {s : Scanned}

/-- The keys of the kind, as often as they are returned. -/
def matching (type : String → String) (kind : String) (keys : List String) : List String :=
  keys.filter fun key => type key = kind

/-- What the loop over the keys of a page has read. -/
structure Inspected (type : String → String) (kind : String) (bound maximum : Nat) (keys : List String)
    (s s' : Scanned) (read rest : List String) : Prop where
  split : keys = read ++ rest
  rows : s'.rows = s.rows ++ matching type kind read
  inspections : s'.inspections = s.inspections + read.length
  pages : s'.pages = s.pages
  cursor : s'.cursor = s.cursor
  overflow : s'.overflow = if bound ≤ s'.rows.length then decide (rest ≠ []) else s.overflow
  le : s'.rows.length ≤ bound
  stopped : rest ≠ [] → bound ≤ s'.rows.length ∨ maximum ≤ s'.inspections
  full : bound ≤ s'.rows.length → ∃ key, read.getLast? = some key ∧ type key = kind

/-- The variables after one key. -/
def inspected (type : String → String) (kind : String) (s : Scanned) (key : String) : Scanned :=
  { s with rows := s.rows ++ matching type kind [key], inspections := s.inspections + 1 }

theorem matching_cons (key : String) (keys : List String) :
    matching type kind (key :: keys) = matching type kind [key] ++ matching type kind keys :=
  List.filter_append [key] keys

theorem inspectKeys_cons (key : String) (h : s.rows.length < bound) :
    inspectKeys type kind bound maximum (key :: keys) s =
      if bound ≤ (inspected type kind s key).rows.length then
        { inspected type kind s key with overflow := keys ≠ [] }
      else if maximum ≤ s.inspections + 1 then inspected type kind s key
      else inspectKeys type kind bound maximum keys (inspected type kind s key) := by
  rw [inspectKeys]
  by_cases hkind : type key = kind
  · have hmatch : matching type kind [key] = [key] := by simp [matching, hkind]
    simp only [inspected, hmatch, hkind, if_true]
  · have hmatch : matching type kind [key] = [] := by simp [matching, hkind]
    have hlt : ¬bound ≤ (inspected type kind s key).rows.length := by
      simp only [inspected, hmatch, List.append_nil]
      exact Nat.not_le.mpr h
    rw [if_neg hlt]
    simp only [inspected, hmatch, hkind, if_false, List.append_nil]

theorem Inspected.cons {s' : Scanned} {key : String} {read rest : List String}
    (h : Inspected type kind bound maximum keys (inspected type kind s key) s' read rest) :
    Inspected type kind bound maximum (key :: keys) s s' (key :: read) rest where
  split := congrArg _ h.split
  rows := by
    rw [h.rows, matching_cons key read]
    exact List.append_assoc _ _ _
  inspections := by
    rw [h.inspections, List.length_cons]
    simp only [inspected]
    omega
  pages := h.pages
  cursor := h.cursor
  overflow := h.overflow
  le := h.le
  stopped := h.stopped
  full hle := by
    obtain ⟨last, hlast, hkind⟩ := h.full hle
    refine ⟨last, ?_, hkind⟩
    rw [List.getLast?_cons, hlast]
    rfl

variable (type kind maximum keys) in
theorem exists_inspected (h : s.rows.length < bound) : ∃ read rest,
    Inspected type kind bound maximum keys s (inspectKeys type kind bound maximum keys s) read rest := by
  induction keys generalizing s with
  | nil =>
    refine ⟨[], [], rfl, (List.append_nil _).symm, rfl, rfl, rfl, ?_, Nat.le_of_lt h, fun hne => absurd rfl hne,
      fun hle => absurd h (Nat.not_lt.mpr hle)⟩
    exact (if_neg (Nat.not_le.mpr h)).symm
  | cons key keys ih =>
    rw [inspectKeys_cons key h]
    by_cases hfull : bound ≤ (inspected type kind s key).rows.length
    · rw [if_pos hfull]
      have hkind : type key = kind := by
        by_contra hne
        have hmatch : matching type kind [key] = [] := by simp [matching, hne]
        simp only [inspected, hmatch, List.append_nil] at hfull
        omega
      have hlength : (matching type kind [key]).length ≤ 1 := List.length_filter_le _ _
      refine ⟨[key], keys, rfl, rfl, rfl, rfl, rfl, (if_pos hfull).symm, ?_, fun _ => .inl hfull,
        fun _ => ⟨key, rfl, hkind⟩⟩
      simp only [inspected, List.length_append]
      omega
    · rw [if_neg hfull]
      by_cases hmax : maximum ≤ s.inspections + 1
      · rw [if_pos hmax]
        exact ⟨[key], keys, rfl, rfl, rfl, rfl, rfl, (if_neg hfull).symm, Nat.le_of_lt (Nat.lt_of_not_le hfull),
          fun _ => .inr hmax, fun hle => absurd hle hfull⟩
      · rw [if_neg hmax]
        obtain ⟨read, rest, hread⟩ := ih (Nat.lt_of_not_le hfull)
        exact ⟨key :: read, rest, hread.cons⟩

/-! ### The pages -/

/-- The cursor is zero at the end, and only there. -/
def Ends : List Page → Prop
  | [] => False
  | page :: pages => if pages = [] then page.cursor = 0 else page.cursor ≠ 0 ∧ Ends pages

def keysOf (pages : List Page) : List String := pages.flatMap Page.keys

/-- The scan is reported as cut. -/
def Cut (maximum : Nat) (s : Scanned) : Prop :=
  s.overflow ∨ s.cursor ≠ 0 ∨ maximum ≤ s.inspections ∨ maximum ≤ s.pages

/-- The pages fit into the bounds: where as many keys as are wanted are found, the last of them is the last
key of all. -/
def Fits (type : String → String) (kind : String) (bound maximum : Nat) (s : Scanned) (pages : List Page) : Prop :=
  s.pages + pages.length < maximum ∧ s.inspections + (keysOf pages).length < maximum ∧
    (s.rows.length + (matching type kind (keysOf pages)).length < bound ∨
      s.rows.length + (matching type kind (keysOf pages)).length = bound ∧
        ∃ page key, pages.getLast? = some page ∧ page.keys.getLast? = some key ∧ type key = kind)

theorem matching_append (a b : List String) :
    matching type kind (a ++ b) = matching type kind a ++ matching type kind b := List.filter_append a b

theorem length_pos_of_last {key : String} (h : keys.getLast? = some key) (hkind : type key = kind) :
    0 < (matching type kind keys).length := by
  refine List.length_pos_of_mem (a := key) (List.mem_filter.mpr ⟨?_, decide_eq_true hkind⟩)
  exact List.mem_of_getLast? h

theorem keysOf_cons (page : Page) (pages : List Page) : keysOf (page :: pages) = page.keys ++ keysOf pages :=
  List.flatMap_cons

/-- The keys of a kind end with the last key, when it is of the kind. -/
theorem matching_pos_of_last {init rest : List String} (hrest : rest ≠ []) {key : String}
    (hlast : (init ++ rest).getLast? = some key) (hkind : type key = kind) :
    0 < (matching type kind rest).length := by
  rw [List.getLast?_append_of_ne_nil _ hrest] at hlast
  exact length_pos_of_last hlast hkind

/-- The state after the last page. -/
theorem fits_last {s' : Scanned} {read rest : List String} (hover : s.overflow = false)
    (h : Inspected type kind bound maximum page.keys
      { s with pages := s.pages + 1, cursor := page.cursor } s' read rest)
    (hcursor : page.cursor = 0) : (¬Cut maximum s' ↔ Fits type kind bound maximum s [page]) ∧
      (¬Cut maximum s' → s'.rows = s.rows ++ matching type kind (keysOf [page])) := by
  have hkeys : keysOf [page] = read ++ rest := by rw [keysOf_cons, h.split]; exact List.append_nil _
  have hrows : s'.rows = s.rows ++ matching type kind read := h.rows
  have hlength : s'.rows.length = s.rows.length + (matching type kind read).length := by
    rw [hrows, List.length_append]
  have hinspections : s'.inspections = s.inspections + read.length := h.inspections
  have hpages : s'.pages = s.pages + 1 := h.pages
  have hzero : s'.cursor = 0 := h.cursor.trans hcursor
  have hle := h.le
  by_cases hrest : rest = []
  · subst hrest
    have hflag : s'.overflow = false := by
      rw [h.overflow]
      by_cases hfull : bound ≤ s'.rows.length
      · rw [if_pos hfull]
        rfl
      · rw [if_neg hfull]
        exact hover
    rw [List.append_nil] at hkeys
    refine ⟨?_, fun _ => hkeys ▸ hrows⟩
    unfold Cut Fits
    rw [hflag, hzero, hkeys]
    constructor
    · intro hcut
      refine ⟨by simp only [List.length_singleton]; omega, by omega, ?_⟩
      by_cases hfull : bound ≤ s'.rows.length
      · obtain ⟨key, hlast, hkind⟩ := h.full hfull
        refine .inr ⟨by omega, page, key, rfl, ?_, hkind⟩
        rw [h.split, List.append_nil]
        exact hlast
      · exact .inl (by omega)
    · rintro ⟨hp, hi, -⟩
      simp only [List.length_singleton] at hp
      simp only [Bool.false_eq_true, ne_eq, not_true_eq_false, false_or, not_or]
      omega
  · have hstopped := h.stopped hrest
    have hcut : Cut maximum s' := by
      rcases hstopped with hfull | hmax
      · refine .inl ?_
        rw [h.overflow, if_pos hfull]
        exact decide_eq_true hrest
      · exact .inr (.inr (.inl hmax))
    refine ⟨iff_of_false (not_not.mpr hcut) ?_, fun hn => absurd hcut hn⟩
    rintro ⟨-, hi, hcount⟩
    rw [hkeys, List.length_append] at hi
    rw [hkeys, matching_append, List.length_append] at hcount
    rcases hstopped with hfull | hmax
    · rcases hcount with hlt | ⟨heq, page', key, hpage, hlast, hkind⟩
      · omega
      · obtain rfl := Option.some.inj hpage
        change page.keys.getLast? = some key at hlast
        rw [h.split] at hlast
        have hpos := matching_pos_of_last hrest hlast hkind
        omega
    · omega

/-- A page that is not the last one, and has all the keys that are wanted. -/
theorem not_fits_full {s' : Scanned} {read rest : List String}
    (h : Inspected type kind bound maximum page.keys
      { s with pages := s.pages + 1, cursor := page.cursor } s' read rest)
    (hfull : bound ≤ s'.rows.length) (hpages : pages ≠ []) :
    ¬Fits type kind bound maximum s (page :: pages) := by
  have hlength : s'.rows.length = s.rows.length + (matching type kind read).length := by
    rw [h.rows, List.length_append]
  rintro ⟨-, -, hcount⟩
  rw [keysOf_cons, h.split, matching_append, matching_append, List.length_append, List.length_append] at hcount
  rcases hcount with hlt | ⟨heq, last, key, hlast, hkey, hkind⟩
  · omega
  · rw [List.getLast?_cons, List.getLast?_eq_some_getLast hpages] at hlast
    obtain rfl := Option.some.inj hlast
    have hmem : key ∈ keysOf pages :=
      List.mem_flatMap.mpr ⟨_, List.getLast_mem hpages, List.mem_of_getLast? hkey⟩
    have hpos : 0 < (matching type kind (keysOf pages)).length :=
      List.length_pos_of_mem (List.mem_filter.mpr ⟨hmem, decide_eq_true hkind⟩)
    omega

/-- A page that is not the last one, and has been read as a whole. -/
theorem fits_cons {s' : Scanned} {read : List String}
    (h : Inspected type kind bound maximum page.keys
      { s with pages := s.pages + 1, cursor := page.cursor } s' read [])
    (hpages : pages ≠ []) : Fits type kind bound maximum s' pages ↔
      Fits type kind bound maximum s (page :: pages) := by
  have hkeys : page.keys = read := h.split.trans (List.append_nil _)
  have hlength : s'.rows.length = s.rows.length + (matching type kind read).length := by
    rw [h.rows, List.length_append]
  have hinspections : s'.inspections = s.inspections + read.length := h.inspections
  have hcount : s'.pages = s.pages + 1 := h.pages
  have hlast : (page :: pages).getLast? = pages.getLast? := by
    rw [List.getLast?_cons, List.getLast?_eq_some_getLast hpages]
    rfl
  unfold Fits
  rw [keysOf_cons, hkeys, matching_append, List.length_append, List.length_append, hlast, hlength,
    hinspections, hcount, List.length_cons]
  refine and_congr (by omega) (and_congr (by omega) (or_congr (by omega) (and_congr_left fun _ => by omega)))

variable (type kind maximum) in
theorem scanPages_spec (hpages : Ends pages) (hs : s.rows.length < bound) (hover : s.overflow = false) :
    ∃ s', scanPages type kind bound maximum pages s = some s' ∧ s'.rows.length ≤ bound ∧
      (¬Cut maximum s' ↔ Fits type kind bound maximum s pages) ∧
      (¬Cut maximum s' → s'.rows = s.rows ++ matching type kind (keysOf pages)) := by
  induction pages generalizing s with
  | nil => exact hpages.elim
  | cons page pages ih =>
    rw [scanPages]
    by_cases hgo : s.inspections < maximum ∧ s.pages < maximum
    · rw [if_pos hgo]
      obtain ⟨read, rest, h⟩ := exists_inspected type kind maximum page.keys
        (show ({ s with pages := s.pages + 1, cursor := page.cursor } : Scanned).rows.length < bound from hs)
      generalize hs₁ : inspectKeys type kind bound maximum page.keys
        { s with pages := s.pages + 1, cursor := page.cursor } = s₁ at h
      have hcursor : s₁.cursor = page.cursor := h.cursor
      by_cases hnil : pages = []
      · subst hnil
        have hzero : page.cursor = 0 := (if_pos rfl).mp hpages
        obtain ⟨hfits, hrows⟩ := fits_last hover h hzero
        exact ⟨s₁, if_pos (.inr (hcursor.trans hzero)), h.le, hfits, hrows⟩
      · obtain ⟨hne, hends⟩ : page.cursor ≠ 0 ∧ Ends pages := (if_neg hnil).mp hpages
        by_cases hfull : bound ≤ s₁.rows.length
        · have hcut : Cut maximum s₁ := .inr (.inl (hcursor ▸ hne))
          exact ⟨s₁, if_pos (.inl hfull), h.le, iff_of_false (not_not.mpr hcut) (not_fits_full h hfull hnil),
            fun hn => absurd hcut hn⟩
        · have hflag : s₁.overflow = false := by
            rw [h.overflow, if_neg hfull]
            exact hover
          obtain ⟨s', hscan, hle, hfits, hrows⟩ := ih hends (Nat.lt_of_not_le hfull) hflag
          have hgoing : ¬(bound ≤ s₁.rows.length ∨ s₁.cursor = 0) :=
            not_or.mpr ⟨hfull, fun hzero => hne (hcursor.symm.trans hzero)⟩
          refine ⟨s', (if_neg hgoing).trans hscan, hle, ?_⟩
          by_cases hrest : rest = []
          · subst hrest
            refine ⟨hfits.trans (fits_cons h hnil), fun hn => ?_⟩
            rw [hrows hn, h.rows, keysOf_cons, matching_append, h.split, List.append_nil, List.append_assoc]
          · have hmax := (h.stopped hrest).resolve_left hfull
            have hinspections : s₁.inspections = s.inspections + read.length := h.inspections
            have hcut : Cut maximum s' := by
              by_contra hn
              have hi := (hfits.mp hn).2.1
              omega
            refine ⟨iff_of_false (not_not.mpr hcut) ?_, fun hn => absurd hcut hn⟩
            rintro ⟨-, hi, -⟩
            rw [keysOf_cons, h.split, List.length_append, List.length_append] at hi
            omega
    · refine ⟨s, if_neg hgo, Nat.le_of_lt hs, ?_⟩
      have hcut : Cut maximum s := .inr (.inr (by omega))
      refine ⟨iff_of_false (not_not.mpr hcut) ?_, fun h => absurd hcut h⟩
      rintro ⟨hp, hi, -⟩
      omega

end Scan

/-- The replies of a scan: the cursor is zero at the end, and every key that is stored is returned. -/
structure Client.Scans (client : Client) : Prop where
  ends : Ends client.pages
  complete : ∀ key, key ∈ keysOf client.pages ↔ client.stored key ≠ none

/-- The rows are those of the keys of the kind, each once. -/
def ListsExactly (client : Client) (kind : String) (rows : List Row) : Prop :=
  ∃ keys : List String, rows = keys.map keyRow ∧ keys.Nodup ∧ ∀ key, key ∈ keys ↔ client.type key = kind

/-- A formal `SCAN`. -/
def scanDocument (kind : String) (limit : Int) : List (String × Value) :=
  [("command", .str "SCAN"), ("args", .list []), ("kind", .str kind), ("limit", .int limit)]

theorem type_of_none {client : Client} {key kind : String} (h : client.stored key = none)
    (hkind : kind ∈ ["string", "hash", "list", "set", "zset"]) : client.type key ≠ kind := by
  rw [Client.type, h]
  rintro rfl
  exact absurd hkind (by decide)

theorem executeNative_scan {client : Client} {kind : String} {limit maxRows : Int}
    (hkind : kind ∈ ["string", "hash", "list", "set", "zset"]) (hlimit : 1 ≤ limit ∧ limit ≤ 1000)
    (hmax : 1 ≤ maxRows) : executeNative client (.document (scanDocument kind limit)) [] maxRows =
      .ok (scanKeys client kind limit.toNat maxRows.toNat) := by
  have hshape : hasShape (scanDocument kind limit) ["command", "args", "kind", "limit"] = true := rfl
  have hop : (scanDocument kind limit).lookup "command" = some (.str "SCAN") := rfl
  have hargs : (scanDocument kind limit).lookup "args" = some (.list []) := rfl
  have hkindAt : (scanDocument kind limit).lookup "kind" = some (.str kind) := rfl
  have hlimitAt : ((scanDocument kind limit).lookup "limit").bind intOf = some limit := rfl
  have hread : "SCAN" ∈ readCommands := by decide
  unfold executeNative
  dsimp only
  rw [if_neg (not_or.mpr ⟨fun h => h rfl, Int.not_lt.mpr hmax⟩), hop, hargs]
  dsimp only
  rw [if_neg (not_not.mpr hread), if_pos rfl, scanCommand,
    if_neg (not_or.mpr ⟨not_not.mpr hshape, fun h => h rfl⟩), hkindAt, hlimitAt]
  exact if_pos ⟨hkind, hlimit⟩

section Scans

/-- One text is stored, and returned by each of the replies. -/
def repeatingClient (pages : List Page) : Client where
  stored key := if key = "a" then some (.string "1") else none
  pages := pages
  reply _ _ := .error .refused

theorem repeatingClient_scans {pages : List Page} (hends : Ends pages)
    (hkeys : ∀ key ∈ keysOf pages, key = "a") (hmem : "a" ∈ keysOf pages) : (repeatingClient pages).Scans where
  ends := hends
  complete key := by
    by_cases h : key = "a"
    · subst h
      exact iff_of_true hmem (Option.some_ne_none _)
    · refine iff_of_false (fun hkey => h (hkeys key hkey)) (not_not.mpr ?_)
      exact if_neg h

end Scans

/-! ## Collections -/

section Collections

variable {t : Querying.Texts} {plan : GroundedQueryPlan} {q : NativeQuery} {command : List (String × Value)}
  {op : String} {client : Client} {maxRows : Int}

/-- The commands that read a whole collection. -/
def collectionReads : List String := ["LRANGE", "ZRANGE", "SMEMBERS", "HGETALL"]

/-- The commands that the limit of the plan is an argument of. -/
def IsRange (op : String) : Prop := op = "LRANGE" ∨ op = "ZRANGE"

instance (op : String) : Decidable (IsRange op) := inferInstanceAs (Decidable (_ ∨ _))

/-- The rows of the whole collection that a command reads, in its order. -/
def collectionRows (op : String) : Stored → Option (List Row)
  | .list items =>
    if op = "LRANGE" then some (items.map fun item => valueRow (normalizeText item)) else none
  | .zset members => if op = "ZRANGE" then some (members.map scoreRow) else none
  | .set members =>
    if op = "SMEMBERS" then
      some ((members.insertionSort (· ≤ ·)).map fun item => valueRow (normalizeText item))
    else none
  | .hash fields =>
    if op = "HGETALL" then some ((fields.insertionSort fun a b => a.1 ≤ b.1).map memberRow) else none
  | .string _ => none

theorem isKey_text {key : Value} (h : RedisCompiler.isKey key = true) : ∃ text, key = .str text := by
  cases key with
  | str text => exact ⟨text, rfl⟩
  | _ => cases h

/-- The keys that the filters leave are texts. -/
theorem addKeys_text {keys keys' : Option (List Value)} {item : Contracts.PlanFilter}
    (h : RedisCompiler.addKeys plan keys item = .ok keys') :
    ∀ values ∈ keys', ∀ key ∈ values, ∃ text, key = .str text := by
  unfold RedisCompiler.addKeys at h
  split at h
  · cases h
  · dsimp only at h
    split at h
    · cases h
    · split at h
      · cases h
      · next values _ hvalid =>
        cases h
        intro values' hvalues key hkey
        obtain rfl := Option.mem_some_iff.mp hvalues
        refine isKey_text ?_
        by_contra hnot
        refine hvalid (.inr (.inr (List.any_eq_true.mpr ⟨key, hkey, decide_eq_true hnot⟩)))

theorem foldlM_addKeys_text {filters : List Contracts.PlanFilter} {keys keys' : Option (List Value)}
    (hkeys : ∀ values ∈ keys, ∀ key ∈ values, ∃ text, key = .str text)
    (h : filters.foldlM (RedisCompiler.addKeys plan) keys = .ok keys') :
    ∀ values ∈ keys', ∀ key ∈ values, ∃ text, key = .str text := by
  induction filters generalizing keys with
  | nil =>
    cases h
    exact hkeys
  | cons item filters ih =>
    rw [List.foldlM_cons] at h
    obtain ⟨next, hnext, h⟩ := bind_ok h
    exact ih (addKeys_text hnext) h

theorem lookup_command (name : String) (args : List Value) :
    (RedisCompiler.command name args).lookup "command" = some (.str name) := rfl

theorem readMetadata_other {kind selected : String} {keys : List Value}
    (h : RedisCompiler.readMetadata kind selected keys = .ok command) :
    ∃ name, name ∉ collectionReads ∧ command = RedisCompiler.command name keys := by
  unfold RedisCompiler.readMetadata at h
  split at h
  · cases h
  split at h
  · split at h
    · cases h
      exact ⟨"SCARD", by decide, rfl⟩
    · split at h
      · cases h
        exact ⟨"ZCARD", by decide, rfl⟩
      · cases h
  · cases h
    exact ⟨"EXISTS", by decide, rfl⟩
  · cases h
    exact ⟨"TYPE", by decide, rfl⟩
  · cases h
    exact ⟨"TTL", by decide, rfl⟩
  · cases h

theorem readValue_collection {kind operation : String} {keys : List Value}
    (h : RedisCompiler.readValue plan kind operation keys = .ok command)
    (hop : command.lookup "command" = some (.str op)) (hread : op ∈ collectionReads) :
    ∃ key ∈ keys, command =
      RedisCompiler.command op (key :: if IsRange op then [.int 0, .int (plan.limit - 1)] else []) := by
  unfold RedisCompiler.readValue at h
  split at h
  · cases h
    rw [lookup_command] at hop
    obtain rfl := Value.str.inj (Option.some.inj hop)
    exact absurd hread (by decide)
  · split at h
    · next key _ =>
      split at h
      · next hrange =>
        cases h
        rw [lookup_command] at hop
        obtain rfl := Value.str.inj (Option.some.inj hop)
        exact ⟨key, List.mem_singleton_self key, by rw [if_pos (show IsRange operation from hrange)]⟩
      · next hrange =>
        cases h
        rw [lookup_command] at hop
        obtain rfl := Value.str.inj (Option.some.inj hop)
        exact ⟨key, List.mem_singleton_self key, by rw [if_neg (show ¬IsRange operation from hrange)]⟩
    · cases h

/-- A compiled command that reads a collection has one key, and the limit of the plan when it reads a range. -/
theorem compiled_collection (hcompile : RedisCompiler.compile t plan = .ok q)
    (hcommand : q.command = .document command) (hop : command.lookup "command" = some (.str op))
    (hread : op ∈ collectionReads) : q.parameters = [] ∧ ∃ key, command =
      RedisCompiler.command op (.str key :: if IsRange op then [.int 0, .int (plan.limit - 1)] else []) := by
  unfold RedisCompiler.compile at hcompile
  split at hcompile
  · cases hcompile
  split at hcompile
  · cases hcompile
  split at hcompile
  · cases hcompile
  split at hcompile
  · cases hcompile
  obtain ⟨keys, hkeys, hcompile⟩ := bind_ok hcompile
  obtain ⟨command', hof, hcompile⟩ := bind_ok hcompile
  obtain rfl := Except.ok.inj hcompile
  obtain rfl := Command.document.inj hcommand
  refine ⟨rfl, ?_⟩
  have htexts := foldlM_addKeys_text (fun _ h => absurd h (by simp)) hkeys
  unfold RedisCompiler.commandOf at hof
  split at hof
  · split at hof
    · cases hof
    · cases hof
      obtain rfl := Value.str.inj (Option.some.inj hop)
      exact absurd hread (by decide)
  · next values =>
    unfold RedisCompiler.readKeys at hof
    split at hof
    · split at hof
      · cases hof
      · split at hof
        · obtain ⟨key, hkey, heq⟩ := readValue_collection hof hop hread
          obtain ⟨text, rfl⟩ := htexts values rfl key hkey
          exact ⟨text, heq⟩
        · obtain ⟨name, hname, rfl⟩ := readMetadata_other hof
          rw [lookup_command] at hop
          obtain rfl := Value.str.inj (Option.some.inj hop)
          exact absurd hread hname
    · cases hof

/-- What the adapter runs of a collection read. -/
theorem executeNative_collection (args : List Value) (hmax : 1 ≤ maxRows) (hread : op ∈ collectionReads) :
    executeNative client (.document (RedisCompiler.command op args)) [] maxRows =
      some <$> readCommand client op args maxRows.toNat := by
  have hshape : hasShape (RedisCompiler.command op args) ["command", "args"] = true := rfl
  have hargs : (RedisCompiler.command op args).lookup "args" = some (.list args) := rfl
  have hallowed : op ∈ readCommands ∧ op ≠ "SCAN" := by
    have hall : ∀ op ∈ collectionReads, op ∈ readCommands ∧ op ≠ "SCAN" := by decide
    exact hall op hread
  unfold executeNative
  dsimp only
  rw [if_neg (not_or.mpr ⟨fun h => h rfl, Int.not_lt.mpr hmax⟩), lookup_command, hargs]
  dsimp only
  rw [if_neg (not_not.mpr hallowed.1), if_neg hallowed.2, if_neg (not_not.mpr hshape)]

/-- What is left of the first `n` rows of a collection: a prefix, which is reported as one unless `n` is a
bound of its own. -/
theorem bounded_take (columns : List String) (rows : List Row) (n m : Nat) :
    (bounded columns (rows.take n) m).rows <+: rows ∧ (bounded columns (rows.take n) m).rows.length ≤ m ∧
      (((bounded columns (rows.take n) m).truncated = false → (bounded columns (rows.take n) m).rows = rows) ↔
        rows.length ≤ n ∨ m < n) := by
  have htake : (bounded columns (rows.take n) m).rows = rows.take (min m n) := List.take_take
  have htruncated : (bounded columns (rows.take n) m).truncated = false ↔ ¬m < min n rows.length := by
    rw [← List.length_take]
    exact decide_eq_false_iff_not
  have hall : rows.take (min m n) = rows ↔ rows.length ≤ min m n := by
    constructor
    · intro h
      rw [← h, List.length_take]
      omega
    · exact List.take_of_length_le
  rw [htake, htruncated, hall]
  refine ⟨List.take_prefix _ _, ?_, ?_⟩
  · rw [List.length_take]
    omega
  · omega

/-- The rows that a collection read keeps of the collection. -/
def kept (op : String) (limit maxRows : Nat) : Nat :=
  if IsRange op then min (limit - 1) maxRows + 1 else maxRows + 1

/-- A collection read returns the first rows of the collection. -/
theorem readCommand_collection {stored : Stored} {rows : List Row} {key : String}
    (hstored : client.stored key = some stored) (hrows : collectionRows op stored = some rows)
    (hlimit : 1 ≤ plan.limit ∧ plan.limit ≤ 1000) (m : Nat) :
    ∃ columns, readCommand client op
      (.str key :: if IsRange op then [.int 0, .int (plan.limit - 1)] else []) m =
        .ok (bounded columns (rows.take (kept op plan.limit.toNat m)) m) := by
  have hstop : rangeStop [.str key, .int 0, .int (plan.limit - 1)] =
      .ok (.str key, (plan.limit - 1).toNat) :=
    if_pos ⟨rfl, by omega, by omega⟩
  have hnat : (plan.limit - 1).toNat = plan.limit.toNat - 1 := by omega
  have hmin : min (m + 1) (min (plan.limit.toNat - 1) m + 1) = min (plan.limit.toNat - 1) m + 1 := by omega
  cases stored with
  | string value => cases hrows
  | list items =>
    simp only [collectionRows] at hrows
    split at hrows
    · next hop =>
      subst hop
      cases hrows
      have hrange : IsRange "LRANGE" := .inl rfl
      have hkept : kept "LRANGE" plan.limit.toNat m = min (plan.limit.toNat - 1) m + 1 := if_pos hrange
      have hread : client.lrange (.str key) (min (plan.limit.toNat - 1) m) =
          .ok (items.take (min (plan.limit.toNat - 1) m + 1)) := by
        simp only [Client.lrange, Client.read, hstored]
      refine ⟨["value"], ?_⟩
      rw [if_pos hrange, readCommand, if_neg (by decide), if_pos rfl, hstop, hkept]
      simp only [bind, Except.bind, hnat, hread, List.take_take, hmin, ← List.map_take]
      rfl
    · cases hrows
  | zset members =>
    simp only [collectionRows] at hrows
    split at hrows
    · next hop =>
      subst hop
      cases hrows
      have hrange : IsRange "ZRANGE" := .inr rfl
      have hkept : kept "ZRANGE" plan.limit.toNat m = min (plan.limit.toNat - 1) m + 1 := if_pos hrange
      have hread : client.zrange (.str key) (min (plan.limit.toNat - 1) m) =
          .ok (members.take (min (plan.limit.toNat - 1) m + 1)) := by
        simp only [Client.zrange, Client.read, hstored]
      refine ⟨["value"], ?_⟩
      rw [if_pos hrange, readCommand, if_pos rfl, hstop, hkept]
      simp only [bind, Except.bind, hnat, hread, List.take_take, hmin, ← List.map_take]
      rfl
    · cases hrows
  | set members =>
    simp only [collectionRows] at hrows
    split at hrows
    · next hop =>
      subst hop
      cases hrows
      have hrange : ¬IsRange "SMEMBERS" := by decide
      have hkept : kept "SMEMBERS" plan.limit.toNat m = m + 1 := if_neg hrange
      have hread : client.smembers (.str key) = .ok members := by
        simp only [Client.smembers, Client.read, hstored]
      refine ⟨["value"], ?_⟩
      rw [if_neg hrange, readCommand, if_neg (by decide), if_neg (by decide), if_neg (by decide), hkept]
      simp only [bind, Except.bind, exactKey, hread, ← List.map_take]
      rfl
    · cases hrows
  | hash fields =>
    simp only [collectionRows] at hrows
    split at hrows
    · next hop =>
      subst hop
      cases hrows
      have hrange : ¬IsRange "HGETALL" := by decide
      have hkept : kept "HGETALL" plan.limit.toNat m = m + 1 := if_neg hrange
      have hread : client.hgetall (.str key) = .ok fields := by
        simp only [Client.hgetall, Client.read, hstored]
      refine ⟨["member", "value"], ?_⟩
      rw [if_neg hrange, readCommand, if_neg (by decide), if_neg (by decide), if_neg (by decide), hkept]
      simp only [bind, Except.bind, exactKey, hread, ← List.map_take]
      rfl
    · cases hrows

end Collections

/-! ## A list that is longer than the limit of the plan -/

section Queue

def queueField (path : String) (h : 1 ≤ path.length) : Contracts.GroundedFieldRef where
  datasourceId := "cache"
  dataObjectId := "queue"
  fieldPath := path
  datasourceId_length := by decide
  dataObjectId_length := by decide
  fieldPath_length := h

/-- The first two values of a list. -/
def queuePlan : GroundedQueryPlan where
  planId := "plan"
  workspaceId := "w"
  datasourceId := "cache"
  dataObjectIds := ["queue"]
  dataObjects := [("queue", { datasourceId := "cache", dataObjectId := "queue", objectKind := some "list"
                              datasourceId_length := by decide, dataObjectId_length := by decide
                              name_length := fun _ h => absurd h (Option.not_mem_none _) })]
  selectedFields := [queueField "value" (by decide)]
  filters := [{ field := queueField "key" (by decide), operator := .equals, value := .str "jobs" }]
  limit := 2
  expectedResultType := .keyValue
  planId_length := Contracts.length_plan
  dataObjectIds_length := by decide
  limit_range := by decide
  time_together := Contracts.TimeRange.none_together
  output := .inr (List.cons_ne_nil _ _)
  dataObjectIds_unique := List.nodup_singleton _
  join_required := fun h => absurd h (by decide)
  groupBy_selected := fun _ h => absurd h List.not_mem_nil
  dataObjects_keys := by
    intro entry h
    obtain rfl := List.mem_singleton.mp h
    exact ⟨rfl, rfl⟩

def plainTexts : Querying.Texts where
  str _ := ""
  isoformat _ := ""
  escape s := s
  dumps _ := ""
  repr _ := ""
  reprLanguage _ := ""

def queueClient : Client where
  stored key := if key = "jobs" then some (.list ["a", "b", "c"]) else none
  pages := []
  reply _ _ := .error .refused

def queueQuery : NativeQuery where
  datasourceId := "cache"
  planId := "plan"
  queryLanguage := .redisJson
  command := .document (RedisCompiler.command "LRANGE" [.str "jobs", .int 0, .int 1])
  displayCommand := ""

theorem queue_compiled : RedisCompiler.compile plainTexts queuePlan = .ok queueQuery := rfl

end Queue

end Adapters.RedisAdapter
