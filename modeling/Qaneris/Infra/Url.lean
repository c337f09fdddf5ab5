import Qaneris.Infra.Utf8

/-!
# Splitting and quoting URLs

`urllib.parse`: a URL is cut into five parts and put together again, query parameters are read and
written, text is percent-encoded. Three things are parameters: which network locations are refused, the
lower case of a host name, and what bytes that are no UTF-8 are decoded to.
-/

namespace Infra.Url

structure Rules where
  /-- What `_checknetloc` and `_check_bracketed_netloc` let through. -/
  acceptsNetloc : List Char → Bool
  /-- `str.lower` -/
  lower : List Char → List Char
  lower_ascii : ∀ text : List Char, (∀ c ∈ text, c.toNat < 0x80) → lower text = text.map Char.toLower
  /-- `bytes.decode("utf-8", "replace")` -/
  decode : List UInt8 → List Char

structure SplitResult where
  scheme : List Char
  netloc : List Char
  path : List Char
  query : List Char
  fragment : List Char
  deriving DecidableEq, Repr

/-- `text.partition(separator)`, with whether the separator was there. -/
def partition (separator : Char) (text : List Char) : List Char × Bool × List Char :=
  match text.dropWhile (· ≠ separator) with
  | [] => (text, false, [])
  | _ :: rest => (text.takeWhile (· ≠ separator), true, rest)

/-- `text.rpartition(separator)` -/
def rpartition (separator : Char) (text : List Char) : List Char × Bool × List Char :=
  let (tail, found, head) := partition separator text.reverse
  if found then (head.reverse, true, tail.reverse) else ([], false, text)

def isAsciiAlpha (c : Char) : Bool := ('a' ≤ c && c ≤ 'z') || ('A' ≤ c && c ≤ 'Z')

def isSchemeChar (c : Char) : Bool :=
  isAsciiAlpha c || ('0' ≤ c && c ≤ '9') || c == '+' || c == '-' || c == '.'

/-- The scheme in front of a colon, in lower case, and what follows it. -/
def splitScheme (url : List Char) : List Char × List Char :=
  let (front, found, rest) := partition ':' url
  if found && front.head?.any isAsciiAlpha && front.all isSchemeChar then
    (front.map Char.toLower, rest)
  else ([], url)

/-- `_splitnetloc`: everything up to a slash, a question mark or a number sign. -/
def splitNetloc (rest : List Char) : List Char × List Char :=
  let isEnd (c : Char) : Bool := c == '/' || c == '?' || c == '#'
  (rest.takeWhile (!isEnd ·), rest.dropWhile (!isEnd ·))

/-- Leading control characters and blanks go, and tabs and line breaks anywhere. -/
def cleanUrl (url : List Char) : List Char :=
  (url.dropWhile fun c => decide (c.toNat ≤ 0x20)).filter fun c => c ≠ '\t' ∧ c ≠ '\r' ∧ c ≠ '\n'

def brackets (netloc : List Char) : Bool := netloc.contains '[' == netloc.contains ']'

/-- `urlsplit(url)`; none where it raises `ValueError`. -/
def urlsplit (rules : Rules) (url : List Char) : Option SplitResult :=
  let (scheme, rest) := splitScheme (cleanUrl url)
  let (netloc, rest) :=
    match rest with
    | '/' :: '/' :: rest => splitNetloc rest
    | _ => ([], rest)
  let (rest, _, fragment) := partition '#' rest
  let (path, _, query) := partition '?' rest
  if brackets netloc && rules.acceptsNetloc netloc then
    some { scheme, netloc, path, query, fragment }
  else none

/-- `uses_netloc`, without the empty scheme. -/
def usesNetloc : List String :=
  ["ftp", "http", "gopher", "nntp", "telnet", "imap", "wais", "file", "mms", "https", "shttp", "snews",
    "prospero", "rtsp", "rtsps", "rtspu", "rsync", "svn", "svn+ssh", "sftp", "nfs", "git", "git+ssh", "ws",
    "wss", "itms-services"]

/-- `urlunsplit(parts)` -/
def urlunsplit (parts : SplitResult) : List Char :=
  let authority := parts.netloc ≠ [] ∨
    (String.ofList parts.scheme ∈ usesNetloc ∧ ¬ ['/', '/'] <+: parts.path)
  let rooted := if parts.path ≠ [] ∧ parts.path.head? ≠ some '/' then '/' :: parts.path else parts.path
  let url := if authority then '/' :: '/' :: (parts.netloc ++ rooted) else parts.path
  let url := if parts.scheme = [] then url else parts.scheme ++ ':' :: url
  let url := if parts.query = [] then url else url ++ '?' :: parts.query
  if parts.fragment = [] then url else url ++ '#' :: parts.fragment

namespace SplitResult

variable (parts : SplitResult)

/-- `_userinfo`: the user name and the password in front of the last `@`. -/
def userinfo : Option (List Char × Option (List Char)) :=
  let (info, found, _) := rpartition '@' parts.netloc
  if found then
    let (username, havePassword, password) := partition ':' info
    some (username, if havePassword then some password else none)
  else none

def password : Option (List Char) := parts.userinfo.bind Prod.snd

/-- `_hostinfo`: the host name and the port, as texts. -/
def hostinfo : List Char × Option (List Char) :=
  let (_, _, hostinfo) := rpartition '@' parts.netloc
  let (_, bracketed, inside) := partition '[' hostinfo
  let (hostname, port) :=
    if bracketed then
      let (hostname, _, behind) := partition ']' inside
      let (_, _, port) := partition ':' behind
      (hostname, port)
    else
      let (hostname, _, port) := partition ':' hostinfo
      (hostname, port)
  (hostname, if port = [] then none else some port)

/-- `.hostname`; the zone of an address keeps its case. -/
def hostname (rules : Rules) : Option (List Char) :=
  let host := parts.hostinfo.1
  if host = [] then none
  else
    let (name, zoned, zone) := partition '%' host
    some (if zoned then rules.lower name ++ '%' :: zone else rules.lower name)

/-- `.port`; an error is a port that is no number up to 65535. -/
def port : Except Unit (Option Nat) :=
  match parts.hostinfo.2 with
  | none => .ok none
  | some digits =>
    if digits.all Char.isDigit then
      let port := Nat.ofDigitChars 10 digits 0
      if port ≤ 65535 then .ok (some port) else .error ()
    else .error ()

end SplitResult

/-! ## Quoting -/

def isUnreserved (c : Char) : Bool :=
  isAsciiAlpha c || ('0' ≤ c && c ≤ '9') || c == '_' || c == '.' || c == '-' || c == '~'

def hexUpper (n : Nat) : Char := (Nat.digitChar n).toUpper

/-- `quote(text, safe="")` -/
def quote (text : List Char) : List Char :=
  text.flatMap fun c =>
    if isUnreserved c then [c]
    else (utf8Encode [c]).flatMap fun b =>
      ['%', hexUpper (b.toNat / 16), hexUpper (b.toNat % 16)]

/-- `quote_plus(text)` -/
def quotePlus (text : List Char) : List Char :=
  text.flatMap fun c => if c = ' ' then ['+'] else quote [c]

/-- `urlencode(parameters)` -/
def urlencode (parameters : List (List Char × List Char)) : List Char :=
  ['&'].intercalate (parameters.map fun p => quotePlus p.1 ++ '=' :: quotePlus p.2)

def hexValue (c : Char) : Option Nat :=
  if '0' ≤ c ∧ c ≤ '9' then some (c.toNat - '0'.toNat)
  else if 'a' ≤ c ∧ c ≤ 'f' then some (c.toNat - 'a'.toNat + 10)
  else if 'A' ≤ c ∧ c ≤ 'F' then some (c.toNat - 'A'.toNat + 10)
  else none

/-- The bytes of a text in which `%xx` stands for a byte. -/
def unquoteBytes : List Char → List UInt8
  | '%' :: a :: b :: text =>
    match hexValue a, hexValue b with
    | some high, some low => UInt8.ofNat (high * 16 + low) :: unquoteBytes text
    | _, _ => String.utf8EncodeChar '%' ++ unquoteBytes (a :: b :: text)
  | c :: text => String.utf8EncodeChar c ++ unquoteBytes text
  | [] => []

/-- `unquote(text.replace("+", " "))` -/
def unquotePlus (rules : Rules) (text : List Char) : List Char :=
  rules.decode (unquoteBytes (text.map fun c => if c = '+' then ' ' else c))

/-- `parse_qsl(query, keep_blank_values=True)` -/
def parseQsl (rules : Rules) (query : List Char) : List (List Char × List Char) :=
  (query.splitOnP (· == '&')).filterMap fun item =>
    if item = [] then none
    else
      let (name, _, value) := partition '=' item
      some (unquotePlus rules name, unquotePlus rules value)

end Infra.Url
