import Mathlib.Data.List.TakeWhile
import Qaneris.Infra.Url

/-!
# Reading a URL by the generic grammar

The delimiters of the grammar cut a URL into its parts; the user information is percent-decoded.

* `unquoteBytes_quote` — a quoted text stands for its bytes
* `readAuthority_compose`, `read_compose` — what is put together of parts is read as these parts
* `read_some` — the host that is read is one, and the path has no delimiter of a query or a fragment
-/

namespace Infra.Url

/-! ## The grammar -/

/-- The parts of a URL. The user name and the password are the bytes they stand for. -/
structure Reading where
  scheme : List Char
  username : Option (List UInt8)
  password : Option (List UInt8)
  host : List Char
  port : Option Nat
  path : List Char
  query : Option (List Char)
  fragment : Option (List Char)
  deriving DecidableEq, Repr

def isDelimiter (c : Char) : Bool :=
  c == '/' || c == '?' || c == '#' || c == '@' || c == '[' || c == ']'

/-- An address in brackets, or a name. -/
def isHost (host : List Char) : Bool :=
  match host with
  | '[' :: inside => inside.getLast? = some ']' && inside.dropLast.all fun c => !isDelimiter c
  | _ => host.all fun c => !isDelimiter c && c != ':'

/-- What follows a host. -/
def readPort : List Char → Option (Option Nat)
  | [] => some none
  | c :: digits =>
    if c = ':' ∧ digits.all Char.isDigit then
      some (if digits = [] then none else some (Nat.ofDigitChars 10 digits 0))
    else none

def splitHost (text : List Char) : List Char × List Char :=
  match text with
  | '[' :: inside => ('[' :: inside.takeWhile (· ≠ ']') ++ [']'], (inside.dropWhile (· ≠ ']')).tail)
  | _ => (text.takeWhile (· ≠ ':'), text.dropWhile (· ≠ ':'))

/-- The host and the port. -/
def readHostport (text : List Char) : Option (List Char × Option Nat) :=
  let (host, rest) := splitHost text
  if isHost host then (readPort rest).map fun port => (host, port) else none

/-- The user name and the password, the host and the port. -/
def readAuthority (text : List Char) :
    Option ((Option (List UInt8) × Option (List UInt8)) × List Char × Option Nat) :=
  let (front, found, rest) := partition '@' text
  if found then
    let (username, havePassword, password) := partition ':' front
    (readHostport rest).map fun hostport =>
      ((some (unquoteBytes username), if havePassword then some (unquoteBytes password) else none), hostport)
  else (readHostport text).map fun hostport => ((none, none), hostport)

/-- What a URL with an authority says. -/
def read (url : List Char) : Option Reading :=
  let (scheme, found, rest) := partition ':' url
  if found && scheme.head?.any isAsciiAlpha && scheme.all isSchemeChar then
    match rest with
    | '/' :: '/' :: rest =>
      let (authority, rest) := splitNetloc rest
      let (front, haveFragment, fragment) := partition '#' rest
      let (path, haveQuery, query) := partition '?' front
      (readAuthority authority).map fun ((username, password), host, port) =>
        { scheme, username, password, host, port, path, query := if haveQuery then some query else none
          fragment := if haveFragment then some fragment else none }
    | _ => none
  else none

/-! ## Cutting at a delimiter -/

section Partition

variable {c : Char} {a b text : List Char}

theorem partition_append (h : c ∉ a) : partition c (a ++ c :: b) = (a, true, b) := by
  have hall : ∀ x ∈ a, decide (x ≠ c) = true := by
    intro x hx
    exact decide_eq_true fun heq => h (heq ▸ hx)
  have htake : (a ++ c :: b).takeWhile (· ≠ c) = a := by
    rw [List.takeWhile_append_of_pos hall, List.takeWhile_cons_of_neg (by simp), List.append_nil]
  have hdrop : (a ++ c :: b).dropWhile (· ≠ c) = c :: b := by
    rw [List.dropWhile_append_of_pos hall, List.dropWhile_cons_of_neg (by simp)]
  unfold partition
  rw [hdrop, htake]

theorem partition_of_not_mem (h : c ∉ a) : partition c a = (a, false, []) := by
  have hdrop : a.dropWhile (· ≠ c) = [] := by
    refine List.dropWhile_eq_nil_iff.mpr fun x hx => ?_
    exact decide_eq_true fun heq => h (heq ▸ hx)
  unfold partition
  rw [hdrop]

/-- The part in front of the delimiter does not have it. -/
theorem not_mem_partition (c : Char) (text : List Char) : c ∉ (partition c text).1 := by
  by_cases h : c ∈ text
  · obtain ⟨a, b, rfl, hnot⟩ := List.eq_append_cons_of_mem h
    rw [partition_append hnot]
    exact hnot
  · rw [partition_of_not_mem h]
    exact h

theorem partition_subset (c : Char) (text : List Char) : (partition c text).1 ⊆ text := by
  by_cases h : c ∈ text
  · obtain ⟨a, b, rfl, hnot⟩ := List.eq_append_cons_of_mem h
    rw [partition_append hnot]
    exact List.subset_append_left _ _
  · rw [partition_of_not_mem h]
    exact List.Subset.refl _

end Partition

/-! ## Quoted texts -/

theorem hexValue_hexUpper {n : Nat} (h : n < 16) : hexValue (hexUpper n) = some n := by
  have hall : ∀ m : Fin 16, hexValue (hexUpper m) = some m.val := by decide
  exact hall ⟨n, h⟩

theorem hexUpper_unreserved {n : Nat} (h : n < 16) : isUnreserved (hexUpper n) = true := by
  have hall : ∀ m : Fin 16, isUnreserved (hexUpper m) = true := by decide
  exact hall ⟨n, h⟩

/-- Every character of a quoted text is unreserved, or starts an escape. -/
theorem mem_quote {c : Char} {text : List Char} (h : c ∈ quote text) : isUnreserved c = true ∨ c = '%' := by
  obtain ⟨d, -, hd⟩ := List.mem_flatMap.mp h
  by_cases hplain : isUnreserved d
  · rw [if_pos hplain] at hd
    rw [List.mem_singleton.mp hd]
    exact .inl hplain
  · rw [if_neg hplain] at hd
    obtain ⟨b, -, hb⟩ := List.mem_flatMap.mp hd
    have hlt : b.toNat < 256 := b.toNat_lt
    simp only [List.mem_cons, List.not_mem_nil, or_false] at hb
    rcases hb with rfl | rfl | rfl
    · exact .inr rfl
    · exact .inl (hexUpper_unreserved (by omega))
    · exact .inl (hexUpper_unreserved (by omega))

theorem not_mem_quote {c : Char} (hplain : isUnreserved c = false) (hescape : c ≠ '%') (text : List Char) :
    c ∉ quote text := by
  intro h
  rcases mem_quote h with h | h
  · exact Bool.false_ne_true (hplain.symm.trans h)
  · exact hescape h

theorem unquoteBytes_cons {c : Char} (h : c ≠ '%') (text : List Char) :
    unquoteBytes (c :: text) = String.utf8EncodeChar c ++ unquoteBytes text := by
  rw [unquoteBytes]
  rintro _ _ _ rfl
  exact absurd rfl h

theorem unquoteBytes_escape (b : UInt8) (text : List Char) :
    unquoteBytes ('%' :: hexUpper (b.toNat / 16) :: hexUpper (b.toNat % 16) :: text) = b :: unquoteBytes text := by
  have hlt : b.toNat < 256 := b.toNat_lt
  have hbyte : UInt8.ofNat (b.toNat / 16 * 16 + b.toNat % 16) = b := by
    rw [Nat.div_add_mod']
    exact UInt8.ofNat_toNat
  simp only [unquoteBytes, hexValue_hexUpper (n := b.toNat / 16) (by omega),
    hexValue_hexUpper (n := b.toNat % 16) (by omega), hbyte]

theorem unquoteBytes_escapes (bytes : List UInt8) (text : List Char) :
    unquoteBytes ((bytes.flatMap fun b => ['%', hexUpper (b.toNat / 16), hexUpper (b.toNat % 16)]) ++ text) =
      bytes ++ unquoteBytes text := by
  induction bytes with
  | nil => rfl
  | cons b bytes ih =>
    rw [List.flatMap_cons, List.append_assoc, List.cons_append, List.cons_append, List.cons_append,
      List.nil_append, unquoteBytes_escape, ih, List.cons_append]

/-- A quoted text stands for its bytes. -/
theorem unquoteBytes_quote (text : List Char) : unquoteBytes (quote text) = utf8Encode text := by
  induction text with
  | nil => rfl
  | cons c text ih =>
    unfold quote at ih ⊢
    rw [List.flatMap_cons]
    change _ = String.utf8EncodeChar c ++ utf8Encode text
    rw [← ih]
    by_cases hplain : isUnreserved c
    · rw [if_pos hplain, List.singleton_append, unquoteBytes_cons]
      rintro rfl
      exact absurd hplain (by decide)
    · rw [if_neg hplain, utf8Encode_cons, utf8Encode_nil, List.append_nil]
      exact unquoteBytes_escapes _ _

/-! ## The authority -/

section Authority

variable {host text : List Char} {port : Option Nat}

/-- A host has no delimiter of the parts around the authority. -/
theorem isHost_plain (h : isHost host) : ∀ c ∈ host, c ≠ '/' ∧ c ≠ '?' ∧ c ≠ '#' := by
  have hplain : ∀ c, isDelimiter c = false → c ≠ '/' ∧ c ≠ '?' ∧ c ≠ '#' := by
    intro c hc
    refine ⟨?_, ?_, ?_⟩ <;> rintro rfl <;> exact absurd hc (by decide)
  intro c hc
  unfold isHost at h
  split at h
  · next inside =>
    rw [Bool.and_eq_true, decide_eq_true_eq, List.all_eq_true] at h
    obtain ⟨hlast, hinside⟩ := h
    obtain ⟨front, rfl⟩ := List.getLast?_eq_some_iff.mp hlast
    rw [List.dropLast_concat] at hinside
    simp only [List.mem_cons, List.mem_append, List.not_mem_nil, or_false] at hc
    rcases hc with rfl | hc | rfl
    · decide
    · exact hplain c ((Bool.not_eq_true' _).mp (hinside c hc))
    · decide
  · have hc := List.all_eq_true.mp h c hc
    rw [Bool.and_eq_true, Bool.not_eq_true'] at hc
    exact hplain c hc.1

/-- A port behind its colon. -/
def portText (port : Option Nat) : List Char :=
  match port with
  | some port => ':' :: (toString port).toList
  | none => []

theorem readPort_portText (port : Option Nat) : readPort (portText port) = some port := by
  cases port with
  | none => rfl
  | some port =>
    have hdigits : (toString port).toList = Nat.toDigits 10 port := Nat.toList_repr
    have hall : (Nat.toDigits 10 port).all Char.isDigit = true :=
      List.all_eq_true.mpr fun c hc => Nat.isDigit_of_mem_toDigits (by decide) (by decide) hc
    have hne : Nat.toDigits 10 port ≠ [] := Nat.toDigits_ne_nil
    rw [portText, hdigits, readPort, if_pos ⟨rfl, hall⟩, if_neg hne,
      Nat.ofDigitChars_toDigits (by decide) (by decide)]

theorem portText_head (port : Option Nat) : portText port = [] ∨ ∃ digits, portText port = ':' :: digits := by
  cases port with
  | none => exact .inl rfl
  | some port => exact .inr ⟨_, rfl⟩

theorem splitHost_compose (h : isHost host) (port : Option Nat) :
    splitHost (host ++ portText port) = (host, portText port) := by
  cases host with
  | nil =>
    rcases portText_head port with hport | ⟨digits, hport⟩ <;> rw [hport]
    · rfl
    · rfl
  | cons c inside =>
    by_cases hbracket : c = '['
    · subst hbracket
      simp only [isHost, Bool.and_eq_true, decide_eq_true_eq] at h
      obtain ⟨hlast, hinside⟩ := h
      obtain ⟨front, rfl⟩ := List.getLast?_eq_some_iff.mp hlast
      rw [List.dropLast_concat, List.all_eq_true] at hinside
      have hall : ∀ x ∈ front, decide (x ≠ ']') = true := by
        intro x hx
        refine decide_eq_true fun heq => ?_
        have hno := hinside x hx
        rw [heq] at hno
        exact absurd hno (by decide)
      have htext : '[' :: (front ++ [']']) ++ portText port = '[' :: (front ++ ']' :: portText port) := by simp
      simp only [htext, splitHost]
      rw [List.takeWhile_append_of_pos hall, List.dropWhile_append_of_pos hall,
        List.takeWhile_cons_of_neg (by simp), List.dropWhile_cons_of_neg (by simp), List.append_nil,
        List.tail_cons, List.cons_append]
    · have hname : ∀ x ∈ c :: inside, decide (x ≠ ':') = true := by
        intro x hx
        have hall : (c :: inside).all (fun c => !isDelimiter c && c != ':') = true := by
          unfold isHost at h
          split at h
          · next heq => exact absurd (List.cons.inj heq).1 hbracket
          · exact h
        have hx := List.all_eq_true.mp hall x hx
        rw [Bool.and_eq_true, bne_iff_ne] at hx
        exact decide_eq_true hx.2
      have hsplit : splitHost (c :: inside ++ portText port) =
          ((c :: inside ++ portText port).takeWhile (· ≠ ':'), (c :: inside ++ portText port).dropWhile (· ≠ ':')) := by
        unfold splitHost
        split
        · next heq => exact absurd (List.cons.inj heq).1 hbracket
        · rfl
      rw [hsplit, List.takeWhile_append_of_pos hname, List.dropWhile_append_of_pos hname]
      rcases portText_head port with hport | ⟨digits, hport⟩ <;> rw [hport]
      · rw [List.takeWhile_nil, List.dropWhile_nil, List.append_nil]
      · rw [List.takeWhile_cons_of_neg (by simp), List.dropWhile_cons_of_neg (by simp), List.append_nil]

/-- A quoted user name and password, and a host with its port, are read back. -/
theorem readAuthority_compose (h : isHost host) (port : Option Nat) (username : List Char)
    (password : Option (List Char)) :
    readAuthority (quote username ++ (password.elim [] fun password => ':' :: quote password) ++ ['@'] ++ host ++
      portText port) = some ((some (utf8Encode username), password.map utf8Encode), host, port) := by
  have hhost : readHostport (host ++ portText port) = some (host, port) := by
    rw [readHostport, splitHost_compose h]
    dsimp only
    rw [if_pos h, readPort_portText, Option.map_some]
  have hat : '@' ∉ quote username ++ password.elim [] fun password => ':' :: quote password := by
    intro hmem
    rcases List.mem_append.mp hmem with hmem | hmem
    · exact not_mem_quote (by decide) (by decide) _ hmem
    · cases password with
      | none => cases hmem
      | some password =>
        rcases List.mem_cons.mp hmem with heq | hmem
        · exact absurd heq (by decide)
        · exact not_mem_quote (by decide) (by decide) _ hmem
  have htext : quote username ++ (password.elim [] fun password => ':' :: quote password) ++ ['@'] ++ host ++
      portText port = (quote username ++ password.elim [] fun password => ':' :: quote password) ++ '@' ::
        (host ++ portText port) := by simp
  have hcolon : ':' ∉ quote username := not_mem_quote (by decide) (by decide) _
  rw [htext, readAuthority, partition_append hat]
  dsimp only
  rw [if_pos rfl, hhost]
  cases password with
  | none =>
    simp only [Option.elim_none, List.append_nil, partition_of_not_mem hcolon, unquoteBytes_quote]
    rfl
  | some password =>
    simp only [Option.elim_some, partition_append hcolon, unquoteBytes_quote]
    rfl

theorem readHostport_host {hostport : List Char × Option Nat} (h : readHostport text = some hostport) :
    isHost hostport.1 = true := by
  unfold readHostport at h
  generalize splitHost text = split at h
  obtain ⟨host, rest⟩ := split
  dsimp only at h
  by_cases hhost : isHost host
  · rw [if_pos hhost] at h
    obtain ⟨port, -, rfl⟩ := Option.map_eq_some_iff.mp h
    exact hhost
  · rw [if_neg hhost] at h
    cases h

/-- The host of an authority is a host. -/
theorem readAuthority_host {user : Option (List UInt8) × Option (List UInt8)}
    (h : readAuthority text = some (user, host, port)) : isHost host = true := by
  unfold readAuthority at h
  generalize partition '@' text = cut at h
  obtain ⟨front, found, rest⟩ := cut
  dsimp only at h
  cases found with
  | true =>
    rw [if_pos rfl] at h
    obtain ⟨hostport, hread, heq⟩ := Option.map_eq_some_iff.mp h
    obtain rfl : hostport = (host, port) := (Prod.mk.inj heq).2
    exact readHostport_host hread
  | false =>
    rw [if_neg (by decide)] at h
    obtain ⟨hostport, hread, heq⟩ := Option.map_eq_some_iff.mp h
    obtain rfl : hostport = (host, port) := (Prod.mk.inj heq).2
    exact readHostport_host hread

end Authority

/-! ## The whole URL -/

section Whole

variable {scheme netloc path query url : List Char}

def isScheme (scheme : List Char) : Bool := scheme.head?.any isAsciiAlpha && scheme.all isSchemeChar

/-- The query behind its question mark, where there is one. -/
def queryText (query : List Char) : List Char := if query = [] then [] else '?' :: query

/-- A URL with an authority is put together of its parts. -/
theorem urlunsplit_eq (hscheme : scheme ≠ []) (hnetloc : netloc ≠ []) :
    urlunsplit { scheme, netloc, path := '/' :: path, query, fragment := [] } =
      scheme ++ ':' :: '/' :: '/' :: (netloc ++ '/' :: path ++ queryText query) := by
  have hauthority : netloc ≠ [] ∨ (String.ofList scheme ∈ usesNetloc ∧ ¬ ['/', '/'] <+: '/' :: path) := .inl hnetloc
  have hrooted : ¬('/' :: path ≠ [] ∧ ('/' :: path).head? ≠ some '/') := fun h => h.2 rfl
  unfold urlunsplit queryText
  dsimp only
  rw [if_pos (rfl : ([] : List Char) = []), if_neg hscheme, if_pos hauthority, if_neg hrooted]
  by_cases hquery : query = []
  · rw [if_pos hquery, if_pos hquery, List.append_nil]
  · rw [if_neg hquery, if_neg hquery]
    simp

/-- An authority, a path and a query without a delimiter in the wrong place are read as these. -/
theorem read_compose (hscheme : isScheme scheme) (hnetloc : ∀ c ∈ netloc, c ≠ '/' ∧ c ≠ '?' ∧ c ≠ '#')
    (hpath : ∀ c ∈ path, c ≠ '?' ∧ c ≠ '#') (hquery : '#' ∉ query) :
    read (scheme ++ ':' :: '/' :: '/' :: (netloc ++ '/' :: path ++ queryText query)) =
      (readAuthority netloc).map fun ((username, password), host, port) =>
        { scheme, username, password, host, port, path := '/' :: path
          query := if query = [] then none else some query, fragment := none } := by
  have hcolon : ':' ∉ scheme := by
    intro hmem
    have hall := List.all_eq_true.mp ((Bool.and_eq_true _ _).mp hscheme).2
    exact absurd (hall _ hmem) (by decide)
  have hsplit : splitNetloc (netloc ++ '/' :: path ++ queryText query) =
      (netloc, '/' :: path ++ queryText query) := by
    have hall : ∀ c ∈ netloc, (!(c == '/' || c == '?' || c == '#')) = true := by
      intro c hc
      obtain ⟨hslash, hquestion, hnumber⟩ := hnetloc c hc
      simp [hslash, hquestion, hnumber]
    unfold splitNetloc
    dsimp only
    rw [List.append_assoc, List.takeWhile_append_of_pos hall, List.dropWhile_append_of_pos hall, List.cons_append,
      List.takeWhile_cons_of_neg (by simp), List.dropWhile_cons_of_neg (by simp), List.append_nil]
  have hnumber : '#' ∉ '/' :: path ++ queryText query := by
    intro hmem
    rcases List.mem_append.mp hmem with hmem | hmem
    · rcases List.mem_cons.mp hmem with heq | hmem
      · exact absurd heq (by decide)
      · exact (hpath _ hmem).2 rfl
    · unfold queryText at hmem
      split at hmem
      · cases hmem
      · rcases List.mem_cons.mp hmem with heq | hmem
        · exact absurd heq (by decide)
        · exact hquery hmem
  have hquestion : '?' ∉ '/' :: path := by
    intro hmem
    rcases List.mem_cons.mp hmem with heq | hmem
    · exact absurd heq (by decide)
    · exact (hpath _ hmem).1 rfl
  have hcut : partition '?' ('/' :: path ++ queryText query) = ('/' :: path, decide (query ≠ []), query) := by
    by_cases hempty : query = []
    · subst hempty
      rw [queryText, if_pos rfl, List.append_nil, partition_of_not_mem hquestion]
      rfl
    · rw [queryText, if_neg hempty, partition_append hquestion, decide_eq_true hempty]
  have hfound : (true && scheme.head?.any isAsciiAlpha && scheme.all isSchemeChar) = true := by
    rw [Bool.true_and]
    exact hscheme
  rw [read, partition_append hcolon]
  dsimp only
  rw [if_pos hfound]
  simp only [hsplit, partition_of_not_mem hnumber, hcut]
  by_cases hempty : query = [] <;> simp [hempty]

/-- The host that is read is a host, and the path has no delimiter of a query or a fragment. -/
theorem read_some {reading : Reading} (h : read url = some reading) :
    isHost reading.host = true ∧ '?' ∉ reading.path ∧ '#' ∉ reading.path := by
  unfold read at h
  generalize partition ':' url = cut at h
  obtain ⟨scheme, found, rest⟩ := cut
  dsimp only at h
  split at h
  · split at h
    · next rest =>
      generalize splitNetloc rest = cut at h
      obtain ⟨authority, rest⟩ := cut
      dsimp only at h
      obtain ⟨⟨⟨username, password⟩, host, port⟩, hread, rfl⟩ := Option.map_eq_some_iff.mp h
      refine ⟨readAuthority_host hread, not_mem_partition _ _, fun hmem => ?_⟩
      exact not_mem_partition '#' rest (partition_subset _ _ hmem)
    · cases h
  · cases h

end Whole

end Infra.Url
