import Schemata.Url.Host

/-!
# URLs

A scheme, where there is one an authority behind two slashes, a path, a query and a fragment. Blanks and
controls around a URL do not belong to it, and neither do tabs and line breaks within it. What its
scheme leaves open is kept as it is written; a text is refused when it has no scheme or when the
authority is none: a port that is no number, a host that cannot be one, or no host where one is needed.

A URL says which database is opened (`Sqlite.Location`). The results about databases begin with one that
is open, so none of them is about URLs.
-/

namespace Schemata

/-- Who is addressed at which host. Credentials that are empty are none. -/
structure Authority where
  credentials : List Char
  /-- The host as it is written. -/
  hostText : List Char
  host : Url.Host
  port : Option Nat
deriving Repr, DecidableEq

/-- A URL in its parts. The scheme is in lower case. -/
structure Url where
  scheme : String
  authority : Option Authority
  path : List Char
  query : Option (List Char)
  fragment : Option (List Char)
deriving Repr, DecidableEq

/-- The authority as it stands between its slashes and the path. -/
def Authority.written (a : Authority) : List Char :=
  (if a.credentials.isEmpty then [] else a.credentials ++ ['@']) ++ a.hostText
    ++ (match a.port with
      | none => []
      | some port => ':' :: Nat.toDigits 10 port)

namespace Url

/-- How the text behind a scheme is read. -/
inductive SchemeKind where
  /-- A scheme of the web: a host is always there, and backslashes are slashes. -/
  | web
  /-- The scheme of local files, whose host may be missing. -/
  | file
  | other
deriving Repr, DecidableEq

def kindOf (scheme : String) : SchemeKind :=
  if scheme = "file" then .file
  else if ["http", "https", "ws", "wss", "ftp"].contains scheme then .web
  else .other

/-- A text without the blanks and controls around it and the tabs and line breaks within it. -/
def stripped (cs : List Char) : List Char :=
  let isOutside (c : Char) := decide (c.toNat ≤ 32)
  let trimmed := ((cs.dropWhile isOutside).reverse.dropWhile isOutside).reverse
  trimmed.filter fun c => !(c == '\t' || c == '\n' || c == '\r')

def isSchemePart (c : Char) : Bool :=
  c.isAlphanum || c == '+' || c == '-' || c == '.'

/-- Takes the scheme and its colon off a text. A scheme begins with a letter. -/
def readScheme? (cs : List Char) : Option (String × List Char) :=
  let name := cs.takeWhile isSchemePart
  match cs.dropWhile isSchemePart with
  | ':' :: rest =>
    if name.head?.any Char.isAlpha then some (String.ofList (name.map Char.toLower), rest) else none
  | _ => none

/-! ## The authority -/

/-- The characters that end an authority. -/
def endsAuthority (kind : SchemeKind) (c : Char) : Bool :=
  c == '/' || c == '?' || c == '#' || (kind != .other && c == '\\')

/-- Takes the credentials and their last `@` off an authority, if it has them. -/
def readCredentials? (kind : SchemeKind) (cs : List Char) : Option (List Char × List Char) :=
  match Text.splitFirst ['@'] (cs.takeWhile fun c => !endsAuthority kind c).reverse with
  | none => some ([], cs)
  | some (_, before) =>
    let credentials := before.reverse
    let rest := cs.drop (credentials.length + 1)
    if credentials.isEmpty ∧ rest.head?.any (endsAuthority kind) then none
    else if credentials = [':'] then some ([], rest)
    else some (credentials, rest)

/-- Takes the text of a host off an authority. A colon between brackets does not end it. -/
def splitHost (kind : SchemeKind) (isBracketed : Bool) : List Char → List Char × List Char
  | [] => ([], [])
  | c :: cs =>
    if endsAuthority kind c || (c == ':' && !isBracketed) then ([], c :: cs)
    else
      let (host, rest) := splitHost kind (c == '[' || (isBracketed && c != ']')) cs
      (c :: host, rest)

/-- Takes a port and its colon off an authority, if it has them. A port without digits is none. -/
def readPort? : List Char → Option (Option Nat × List Char)
  | ':' :: cs =>
    let digits := cs.takeWhile Char.isDigit
    let rest := cs.dropWhile Char.isDigit
    let port := Text.numberOf 10 (digits.filterMap (Text.digitValue? 10))
    if 65535 < port || rest.head?.any (fun c => !endsAuthority .web c) then none
    else some (if digits.isEmpty then none else some port, rest)
  | cs => some (none, cs)

/-- Takes an authority off the text behind its slashes. -/
def readAuthority? (kind : SchemeKind) (cs : List Char) : Option (Authority × List Char) := do
  let (credentials, rest) ← readCredentials? kind cs
  let (text, rest) := splitHost kind false rest
  let host ← if kind = .other then Host.ofText? text else Host.ofDomain? text
  if host.isEmpty ∧ (rest.head? = some ':' ∨ credentials ≠ []) then none
  let (port, rest) ← readPort? rest
  return (⟨credentials, text, host, port⟩, rest)

/-! ## Files -/

def isSlash (c : Char) : Bool :=
  c == '/' || c == '\\'

/-- A letter of a drive, which stands where a host might. -/
def isDrive : List Char → Bool
  | [c, mark] => c.isAlpha && (mark == ':' || mark == '|')
  | _ => false

/-- Takes the host of a file off a text, if it names one. -/
def readFileHost? : List Char → Option (Option Authority × List Char)
  | a :: b :: cs =>
    if isSlash a ∧ isSlash b then
      let text := cs.takeWhile fun c => !endsAuthority .file c
      if text.isEmpty ∨ isDrive text then some (none, cs)
      else (Host.ofDomain? text).map fun host =>
        (some ⟨[], text, host, none⟩, cs.drop text.length)
    else some (none, a :: b :: cs)
  | cs => some (none, cs)

/-! ## The whole -/

/-- Takes off a text what stands between the scheme and the path. -/
def readLocation? (kind : SchemeKind) (cs : List Char) : Option (Option Authority × List Char) :=
  let addressed (cs : List Char) :=
    (readAuthority? kind cs).map fun (authority, rest) => (some authority, rest)
  match kind with
  | .web => addressed (cs.dropWhile isSlash)
  | .file => readFileHost? cs
  | .other => if ['/', '/'].isPrefixOf cs then addressed (cs.drop 2) else some (none, cs)

/-- The text before the first occurrence of a mark, and behind it if there is one. -/
def splitAt (mark : Char) (cs : List Char) : List Char × Option (List Char) :=
  match Text.splitFirst [mark] cs with
  | none => (cs, none)
  | some (before, behind) => (before, some behind)

/-- The URL that a text spells. -/
def ofText? (text : String) : Option Url := do
  let (scheme, rest) ← readScheme? (stripped text.toList)
  let (authority, rest) ← readLocation? (kindOf scheme) rest
  let (rest, fragment) := splitAt '#' rest
  let (path, query) := splitAt '?' rest
  return { scheme, authority, path, query, fragment }

/-- What stands behind the scheme, without the slashes before an authority. -/
def behindScheme (u : Url) : List Char :=
  (u.authority.map Authority.written).getD [] ++ u.path
    ++ (u.query.map fun q => '?' :: q).getD [] ++ (u.fragment.map fun f => '#' :: f).getD []

/-- The name-value pairs of a query in the form of a submitted form. Pairs that are no text are none. -/
def formPair? (cs : List Char) : Option (List Char × List Char) := do
  let decoded? (cs : List Char) := percentDecodedText? (cs.map fun c => if c = '+' then ' ' else c)
  let (name, value) := splitAt '=' cs
  return (← decoded? name, ← decoded? (value.getD []))

def formPairs? (query : List Char) : Option (List (List Char × List Char)) :=
  ((Text.splitAll '&' query).filter fun pair => !pair.isEmpty).mapM formPair?

end Url

end Schemata
