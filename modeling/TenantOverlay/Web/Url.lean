import TenantOverlay.Text.Blank
import TenantOverlay.Text.Digits
import TenantOverlay.Text.Split
import TenantOverlay.Web.Percent

/-!
# URLs

`Url.parse?` reads an absolute URL by the rules that browsers share: blanks around it and line ends
in it do not count, schemes of the web have a host, dot segments are resolved while the path is
read, and what may not stand in a part is percent-encoded. `Url.follow?` goes from a URL to a
relative path, `Url.withFields` adds to the query, and `Url.render` writes a URL.
-/

namespace TenantOverlay.Web

/-- The machine that a URL names. -/
inductive Host where
  | domain (name : String)
  | v4 (address : Nat)
  /-- Eight groups of 16 bits. -/
  | v6 (groups : List Nat)
  /-- The host of a scheme that gives its hosts a meaning of its own. -/
  | verbatim (text : String)
  deriving DecidableEq, Repr

structure Authority where
  user : String := ""
  password : Option String := none
  host : Host
  port : Option Nat := none
  deriving DecidableEq, Repr

/-- The path of a URL. -/
inductive UrlPath where
  | segments (names : List String)
  /-- A text without structure, from which no relative path leads on. -/
  | verbatim (text : String)
  deriving DecidableEq, Repr

structure Url where
  scheme : String
  authority : Option Authority
  path : UrlPath
  query : Option String
  fragment : Option String
  deriving DecidableEq, Repr

namespace Url

/-! ### Characters -/

/-- Whether a character is a visible one of ASCII. -/
def isVisible (c : Char) : Bool := 0x20 < c.toNat && c.toNat < 0x7F

def plainInFragment (c : Char) : Bool := isVisible c && ['"', '<', '>', '\x60'].all (· != c)
def plainInQuery (c : Char) : Bool := isVisible c && ['"', '<', '>', '#'].all (· != c)
def plainInWebQuery (c : Char) : Bool := plainInQuery c && c != '\''
def plainInPath (c : Char) : Bool := plainInFragment c && ['#', '?', '{', '}'].all (· != c)
def plainInUser (c : Char) : Bool :=
  plainInPath c && ['/', ':', ';', '=', '@', '[', '\\', ']', '^', '|'].all (· != c)

/-- The characters that no domain has. -/
def forbiddenInDomain (c : Char) : Bool :=
  c.toNat ≤ 0x20 || c.toNat == 0x7F ||
    ['#', '%', '/', ':', '<', '>', '?', '@', '[', '\\', ']', '^', '|'].contains c

/-! ### Schemes -/

/-- The schemes of the web, with their usual ports. -/
def webPorts : List (String × Nat) := [("http", 80), ("https", 443), ("ws", 80), ("wss", 443), ("ftp", 21)]

/-- Whether URLs of a scheme name a host and a path. -/
def isSpecial (scheme : String) : Bool := scheme == "file" || webPorts.any fun p => p.1 == scheme

def usualPort? (scheme : String) : Option Nat :=
  (webPorts.find? fun p => p.1 == scheme).map (·.2)

/-- A scheme, and what follows its colon. -/
def scheme? (cs : List Char) : Option (String × List Char) :=
  match Text.cut ':' cs with
  | some (c :: r, rest) =>
    if c.isAlpha && r.all fun d => d.isAlphanum || d == '+' || d == '-' || d == '.' then
      some ((String.ofList (c :: r)).toLower, rest)
    else none
  | _ => none

/-! ### Hosts -/

/-- A decimal, octal or hexadecimal number in an address. -/
def addressPart? (cs : List Char) : Option Nat :=
  let value (radix : Nat) (ds : List Char) : Option Nat :=
    ds.foldlM (fun n c => (Percent.digitValue? c).bind fun d =>
      if d < radix then some (n * radix + d) else none) 0
  match cs with
  | [] => none
  | '0' :: x :: r => if x = 'x' ∨ x = 'X' then value 16 r else value 8 (x :: r)
  | _ => value 10 cs

/-- The parts of an address, without an empty last one. -/
def addressParts (cs : List Char) : List (List Char) :=
  let parts := Text.splitOn '.' cs
  if parts.length > 1 && parts.getLast? == some [] then parts.dropLast else parts

/-- Whether a host has the form of an address: its last part is a number. -/
def endsInNumber (cs : List Char) : Bool :=
  match (addressParts cs).getLast? with
  | some last => !last.isEmpty && last.all Char.isDigit || (addressPart? last).isSome
  | none => false

/-- An address of up to four parts, each below 256 but the last, which fills what is left. -/
def addressV4? (cs : List Char) : Option Nat := do
  let parts ← (addressParts cs).mapM addressPart?
  if parts.length > 4 then none
  let last ← parts.getLast?
  let front := parts.dropLast
  if front.any (· > 255) ∨ last ≥ Nat.pow 256 (5 - parts.length) then none
  return (front.foldl (fun n p => n * 256 + p) 0) * Nat.pow 256 (5 - parts.length) + last

/-- A group of an address: one to four hexadecimal digits. -/
def group? (cs : List Char) : Option Nat :=
  if cs.isEmpty ∨ cs.length > 4 then none
  else cs.foldlM (fun n c => (Percent.digitValue? c).map (n * 16 + ·)) 0

/-- Groups with colons between them; the last may be four decimal numbers in the place of two
groups. -/
def groups? (cs : List Char) : Option (List Nat) :=
  if cs.isEmpty then some [] else
  let parts := Text.splitOn ':' cs
  match parts.getLast? with
  | some last =>
    if last.contains '.' then do
      let front ← parts.dropLast.mapM group?
      let ns ← (Text.splitOn '.' last).mapM fun p =>
        if p.length > 1 ∧ p.head? = some '0' then none
        else (Text.natural? p).bind fun n => if n < 256 then some n else none
      match ns with
      | [a, b, c, d] => return front ++ [a * 256 + b, c * 256 + d]
      | _ => none
    else parts.mapM group?
  | none => none

/-- What stands before and after the first pair of colons. -/
def cutAtPair : List Char → Option (List Char × List Char)
  | ':' :: ':' :: r => some ([], r)
  | c :: r => (cutAtPair r).map fun (a, b) => (c :: a, b)
  | [] => none

/-- An address of eight groups, where a pair of colons stands for one or more groups of zeros. -/
def addressV6? (cs : List Char) : Option (List Nat) := do
  match cutAtPair cs with
  | some (a, b) =>
    if a.contains '.' then none
    let front ← groups? a
    let back ← groups? b
    if front.length + back.length > 7 then none
    return front ++ List.replicate (8 - front.length - back.length) 0 ++ back
  | none =>
    let all ← groups? cs
    if all.length = 8 then some all else none

/-- The host that a text names. -/
def host? (scheme : String) (cs : List Char) : Option Host :=
  match cs with
  | '[' :: r =>
    if r.getLast? = some ']' then (addressV6? r.dropLast).map .v6 else none
  | _ =>
    if isSpecial scheme then
      let name := (Percent.decodeAscii cs).map Char.toLower
      if name.isEmpty ∨ name.any forbiddenInDomain then none
      else if endsInNumber name then (addressV4? name).map .v4
      else some (.domain (String.ofList name))
    else if cs.any fun c => c != '%' && forbiddenInDomain c then none
    else some (.verbatim (String.ofList (Percent.encode (fun c => isVisible c) cs)))

/-- A port below 65536; the usual one of the scheme, and a missing one, are not kept. -/
def port? (scheme : String) (cs : List Char) : Option (Option Nat) :=
  if cs.isEmpty then some none else
  match Text.natural? cs with
  | some n => if n < 65536 then some (if usualPort? scheme = some n then none else some n) else none
  | none => none

/-- The host and what follows its colon; a colon in brackets belongs to the host. -/
def hostAndPort (cs : List Char) : List Char × List Char :=
  let inside := match cs with
    | '[' :: _ => cs.takeWhile (· != ']')
    | _ => []
  match Text.cut ':' (cs.drop inside.length) with
  | some (a, b) => (inside ++ a, b)
  | none => (cs, [])

/-- What stands before and after the last at sign. -/
def cutAtLast (cs : List Char) : Option (List Char × List Char) :=
  let back := cs.reverse.takeWhile (· != '@')
  if back.length = cs.length then none
  else some (cs.take (cs.length - back.length - 1), back.reverse)

/-- The user, password, host and port that a text names. -/
def authority? (scheme : String) (cs : List Char) : Option Authority := do
  let (login, rest) := (cutAtLast cs).getD ([], cs)
  let (hostText, portText) := hostAndPort rest
  if hostText.isEmpty ∧ ¬ (cs.isEmpty ∧ ¬ isSpecial scheme) then none
  let host ← if hostText.isEmpty then some (.verbatim "") else host? scheme hostText
  let port ← port? scheme portText
  let encode (t : List Char) := String.ofList (Percent.encode plainInUser t)
  return match Text.cut ':' login with
    | some (user, password) =>
      ⟨encode user, if password.isEmpty then none else some (encode password), host, port⟩
    | none => ⟨encode login, none, host, port⟩

/-! ### Paths, queries and fragments -/

/-- Whether a character ends a segment of a path. -/
def endsSegment (scheme : String) (c : Char) : Bool := c == '/' || c == '\\' && isSpecial scheme

/-- A text of dots, each as itself or encoded. -/
def isDots (n : Nat) (cs : List Char) : Bool :=
  Percent.decodeAscii cs == List.replicate n '.'

/-- Continues a path with further segments: a single dot stays where it is, two dots go up, and
after either of them at the end stands an empty segment. -/
def resolve : List String → List (List Char) → List String
  | path, [] => path
  | path, s :: r =>
    if isDots 2 s then resolve (if r.isEmpty then path.dropLast ++ [""] else path.dropLast) r
    else if isDots 1 s then resolve (if r.isEmpty then path ++ [""] else path) r
    else resolve (path ++ [String.ofList (Percent.encode plainInPath s)]) r

/-- The segments of a path. -/
def segmentsOf (scheme : String) (cs : List Char) : List (List Char) :=
  Text.splitOn '/' (cs.map fun c => if endsSegment scheme c then '/' else c)

/-- The parts of a text around its first number sign and the first question mark before it. -/
def parts (cs : List Char) : List Char × Option (List Char) × Option (List Char) :=
  let (main, fragment) := match Text.cut '#' cs with
    | some (a, b) => (a, some b)
    | none => (cs, none)
  match Text.cut '?' main with
  | some (a, b) => (a, some b, fragment)
  | none => (main, none, fragment)

def encodeQuery (scheme : String) (cs : List Char) : String :=
  String.ofList (Percent.encode (if isSpecial scheme then plainInWebQuery else plainInQuery) cs)

def encodeFragment (cs : List Char) : String := String.ofList (Percent.encode plainInFragment cs)

/-- A text without the blanks at its ends and the line ends and tabs in it. -/
def clean (s : String) : List Char :=
  (Text.trimBy (fun c => c.toNat ≤ 0x20) s.toList).filter fun c =>
    c != '\t' && c != '\n' && c != '\r'

/-- The path after an authority. -/
def pathAfterHost (scheme : String) (cs : List Char) : UrlPath :=
  match cs with
  | [] => .segments (if isSpecial scheme then [""] else [])
  | c :: r =>
    .segments (resolve [] (segmentsOf scheme (if endsSegment scheme c then r else cs)))

/-- Reads an absolute URL. -/
def parse? (s : String) : Option Url := do
  let (scheme, rest) ← scheme? (clean s)
  let (main, query, fragment) := parts rest
  let build (authority : Option Authority) (path : UrlPath) : Url :=
    ⟨scheme, authority, path, query.map (encodeQuery scheme), fragment.map encodeFragment⟩
  let afterSlashes (cs : List Char) : Option Url := do
    let name := cs.takeWhile fun c => !endsSegment scheme c
    let authority ← authority? scheme name
    return build (some authority) (pathAfterHost scheme (cs.drop name.length))
  if scheme = "file" then
    match main with
    | c :: d :: r =>
      if endsSegment scheme c && endsSegment scheme d then
        let name := r.takeWhile fun c => !endsSegment scheme c
        let host ← if name.isEmpty then some none else (host? scheme name).map some
        return build (host.map fun h => { host := h }) (pathAfterHost scheme (r.drop name.length))
      else return build none (pathAfterHost scheme main)
    | _ => return build none (pathAfterHost scheme main)
  else if isSpecial scheme then afterSlashes (main.dropWhile (endsSegment scheme))
  else match main with
    | '/' :: '/' :: r => afterSlashes r
    | '/' :: r => return build none (.segments (resolve [] (segmentsOf scheme r)))
    | _ => return build none (.verbatim (String.ofList (Percent.encode isVisible main)))

/-- The URL that a relative path leads to, which begins with a segment and may bring its own query
and fragment. It stands in the place of the last segment of the path. -/
def follow? (u : Url) (path : String) : Option Url :=
  match u.path with
  | .verbatim _ => none
  | .segments names =>
    let (main, query, fragment) := parts (clean path)
    some { u with
      path := .segments (resolve names.dropLast (segmentsOf u.scheme main))
      query := query.map (encodeQuery u.scheme)
      fragment := fragment.map encodeFragment }

/-- A URL with further fields in its query; an empty query is none. -/
def withFields (u : Url) (fields : List (String × String)) : Url :=
  let given := u.query.getD ""
  let added := Percent.form fields
  let query := if given = "" then added else if added = "" then given else given ++ "&" ++ added
  { u with query := if query = "" then none else some query }

/-! ### Writing -/

def renderHost : Host → String
  | .domain name => name
  | .v4 address => ".".intercalate ([3, 2, 1, 0].map fun i => toString (address / Nat.pow 256 i % 256))
  | .v6 groups => "[" ++ ":".intercalate (groups.map fun g => String.ofList (Nat.toDigits 16 g)) ++ "]"
  | .verbatim text => text

def Authority.render (a : Authority) : String :=
  let login := a.user ++ (match a.password with
    | some p => ":" ++ p
    | none => "")
  (if login = "" then "" else login ++ "@") ++ renderHost a.host ++
    match a.port with
    | some p => ":" ++ toString p
    | none => ""

/-- The path as it is sent. -/
def pathText (u : Url) : String :=
  match u.path with
  | .segments names => String.join (names.map ("/" ++ ·))
  | .verbatim text => text

def render (u : Url) : String :=
  u.scheme ++ ":" ++ (match u.authority with
    | some a => "//" ++ Authority.render a
    | none => if u.scheme = "file" then "//" else "") ++ u.pathText ++
    (match u.query with
    | some q => "?" ++ q
    | none => "") ++
    match u.fragment with
    | some f => "#" ++ f
    | none => ""

end Url

end TenantOverlay.Web
