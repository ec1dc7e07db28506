import StartOrder.Url.Host
import StartOrder.Url.Form

/-!
# Addresses

Addresses of resources, read by the rules that web browsers follow, so that every spelling of an
address has one normal form: the scheme and the host in lower case, the default port left out, steps
up and around removed from the path, and each part encoded as it is written.

The schemes with rules for hosts and paths of their own are special, and among them files are more
so, because of drives. `Url.join` reads an address that may be relative to another, where the text
is what decides how much of the other is kept.
-/

namespace StartOrder

/-- The path of an address: names behind slashes, or a text without structure. -/
inductive UrlPath where
  | names (segments : List String)
  | plain (text : String)
  deriving DecidableEq, Repr

/-- An address. All parts are encoded as they are written. -/
structure Url where
  scheme : String
  username : String := ""
  password : Option String := none
  host : Option Url.Host := none
  port : Option Nat := none
  path : UrlPath
  query : Option String := none
  fragment : Option String := none
  deriving DecidableEq, Repr

namespace Url

/-! ## Schemes -/

/-- The port that a special scheme uses unless another is given. -/
def defaultPort? (scheme : String) : Option Nat :=
  [("http", 80), ("https", 443), ("ws", 80), ("wss", 443), ("ftp", 21)].lookup scheme

/-- Whether a scheme has rules for hosts and paths. -/
def isSpecial (scheme : String) : Bool := (defaultPort? scheme).isSome || scheme == "file"

/-- A slash; under a special scheme a backslash counts as one. -/
def isSlash (special : Bool) (c : Char) : Bool := c = '/' || (special && c = '\\')

/-- Whether a character ends the path of an address. -/
def endsPath (c : Char) : Bool := c = '?' || c = '#'

/-- A letter of ASCII. -/
def isLetter (c : Char) : Bool := ('a' ≤ c && c ≤ 'z') || ('A' ≤ c && c ≤ 'Z')

/-- The scheme at the front of a text, in lower case, and what is behind its colon. -/
def splitScheme? (cs : List Char) : Option (String × List Char) :=
  let inScheme (c : Char) : Bool := isLetter c || c.isDigit || c = '+' || c = '-' || c = '.'
  match cs with
  | c :: _ =>
    if isLetter c then
      match cs.dropWhile inScheme with
      | ':' :: rest => some (String.ofList ((cs.takeWhile inScheme).map Char.toLower), rest)
      | _ => none
    else none
  | [] => none

/-! ## Paths -/

/-- A name that stands for the directory itself. -/
def isHere (name : String) : Bool := name == "." || name == "%2e" || name == "%2E"

/-- A name that stands for the directory above. -/
def isAbove (name : String) : Bool :=
  let low := String.ofList (name.toList.map Char.toLower)
  low == ".." || low == ".%2e" || low == "%2e." || low == "%2e%2e"

/-- Whether a name is that of a drive: a letter and a colon. -/
def isDrive (name : String) : Bool :=
  match name.toList with
  | [c, x] => isLetter c && (x = ':' || x = '|')
  | _ => false

/-- Names without the last of them; the name of a drive is kept. -/
def shorten (names : List String) : List String :=
  if names.getLast?.any isDrive then names else names.dropLast

/-- Put a name behind others, or go where it says. The first name of a file may be that of a drive,
which is written with a colon. -/
def addName (file : Bool) (names : List String) (name : String) (isLast : Bool) : List String :=
  if isAbove name then
    let names := shorten names
    if isLast then names ++ [""] else names
  else if isHere name then
    if isLast then names ++ [""] else names
  else if file && names.isEmpty && isDrive name then
    names ++ [String.ofList (name.toList.take 1 ++ [':'])]
  else names ++ [name]

/-- Put several names behind others. -/
def addNames (file : Bool) (names : List String) : List String → List String
  | [] => names
  | [name] => addName file names name true
  | name :: rest => addNames file (addName file names name false) rest

/-- The parts of a text between its slashes. -/
def splitSlashes (special : Bool) (cs : List Char) : List (List Char) :=
  cs.splitOnP (isSlash special)

/-- The names of a path that begins behind a slash and follows some others. -/
def readNames (scheme : String) (names : List String) (cs : List Char) : List String :=
  addNames (scheme == "file") names
    ((splitSlashes (isSpecial scheme) cs).map fun name => String.ofList (percentEncode inPath name))

/-- The path of an address with a host, which begins where the host ends. -/
def readPath (scheme : String) (cs : List Char) : UrlPath :=
  match cs with
  | [] => .names (if isSpecial scheme then [""] else [])
  | c :: rest =>
    .names (readNames scheme [] (if isSlash (isSpecial scheme) c then rest else cs))

/-! ## The tail of an address -/

/-- The query and the fragment behind a path. -/
structure Tail where
  query : Option String := none
  fragment : Option String := none

/-- A text up to a character, and what is behind that if it is there. -/
def splitAt (c : Char) (cs : List Char) : List Char × Option (List Char) :=
  match cs.dropWhile (· ≠ c) with
  | _ :: rest => (cs.takeWhile (· ≠ c), some rest)
  | [] => (cs, none)

/-- The query and the fragment that stand behind a path. -/
def readTail (special : Bool) (cs : List Char) : Tail :=
  let (before, fragment) := splitAt '#' cs
  let query := match before with
    | '?' :: query => some query
    | _ => none
  { query := query.map fun q =>
      String.ofList (percentEncode (if special then inSpecialQuery else inQuery) q)
    fragment := fragment.map fun f => String.ofList (percentEncode inFragment f) }

/-- A text up to its query or fragment, and the rest. -/
def splitTail (cs : List Char) : List Char × List Char :=
  (cs.takeWhile (!endsPath ·), cs.dropWhile (!endsPath ·))

/-! ## Authorities -/

/-- The part of a text before its last `@`, and the part behind it. -/
def splitUserinfo (cs : List Char) : Option (List Char) × List Char :=
  let behind := (cs.reverse.takeWhile (· ≠ '@')).reverse
  if behind.length = cs.length then (none, cs)
  else (some (cs.take (cs.length - behind.length - 1)), behind)

/-- The length of a host, which ends at a colon outside square brackets. -/
def hostLength (inside : Bool) : List Char → Nat
  | [] => 0
  | c :: rest =>
    if c = ':' && !inside then 0
    else hostLength (c = '[' || (inside && c ≠ ']')) rest + 1

/-- Read a port, which is dropped where it is the default of the scheme. -/
def readPort (scheme : String) (cs : List Char) : Except Problem (Option Nat) :=
  if cs.isEmpty then .ok none
  else match Number.ofDigits? 10 cs with
    | some n =>
      if n < UInt16.size then .ok (if defaultPort? scheme = some n then none else some n)
      else .error .badPort
    | none => .error .badPort

/-- Who is asked, and where. -/
structure Authority where
  username : String := ""
  password : Option String := none
  host : Host
  port : Option Nat := none

/-- Read the part of an address between `//` and the path, given whether anything is behind it.
Gives also what is left of it behind the port, which ends at a backslash. There is no user without
a host, but a colon or a sign that no user stands before is dropped. -/
def readAuthority (scheme : String) (isFollowed : Bool) (cs : List Char) :
    Except Problem (Authority × List Char) := do
  let (userinfo, place) := splitUserinfo cs
  let special := isSpecial scheme
  let n := hostLength false place
  let name := place.take n
  let (user, password) := splitAt ':' (userinfo.getD [])
  let password := password.filter (!·.isEmpty)
  let hasUser := !user.isEmpty || password.isSome || (userinfo = some [] && isFollowed)
  if name.isEmpty && (special || hasUser || n < place.length) then throw .emptyHost
  let host ← if special then Host.ofText name else Host.ofUnchecked name
  let behind := (place.drop n).tail
  let port ← readPort scheme (behind.takeWhile (· ≠ '\\'))
  let encode (part : List Char) : String := String.ofList (percentEncode inUserinfo part)
  return ({ username := encode user, password := password.map encode, host, port },
    behind.dropWhile (· ≠ '\\'))

/-- Read an address from behind `//`. -/
def readWithAuthority (scheme : String) (cs : List Char) : Except Problem Url := do
  let special := isSpecial scheme
  let inAuthority (c : Char) : Bool := !isSlash special c && !endsPath c
  let rest := cs.dropWhile inAuthority
  let (a, behind) ← readAuthority scheme (!rest.isEmpty) (cs.takeWhile inAuthority)
  let (path, tail) := splitTail (behind ++ rest)
  let tail := readTail special tail
  return {
    scheme, username := a.username, password := a.password, host := some a.host, port := a.port
    path := readPath scheme path, query := tail.query, fragment := tail.fragment }

/-! ## Whole addresses -/

/-- Read what stands behind a base: a path, a query or a fragment in place of its own. -/
def readRelative (base : Url) (segments : List String) (cs : List Char) : Except Problem Url :=
  let special := isSpecial base.scheme
  let (path, tailText) := splitTail cs
  let tail := readTail special tailText
  match path with
  | c :: d :: _ =>
    if isSlash special c && isSlash special d then
      readWithAuthority base.scheme
        (if c = '/' && d = '/' then cs.drop 2 else cs.dropWhile (isSlash special))
    else if isSlash special c then
      .ok { base with
        path := .names (readNames base.scheme [] path.tail)
        query := tail.query, fragment := tail.fragment }
    else
      .ok { base with
        path := .names (readNames base.scheme segments.dropLast path)
        query := tail.query, fragment := tail.fragment }
  | [c] =>
    .ok { base with
      path := .names (
        if isSlash special c then readNames base.scheme [] []
        else readNames base.scheme segments.dropLast path)
      query := tail.query, fragment := tail.fragment }
  | [] =>
    let query := if tailText.head? = some '?' then tail.query else base.query
    .ok { base with query, fragment := tail.fragment }

/-- Read the host of a file, from behind `//`. The local host and the name of a drive are none.
Gives also what is behind the host. -/
def readFileHost (cs : List Char) : Except Problem (Option Host × List Char) := do
  let inHost (c : Char) : Bool := !isSlash true c && !endsPath c
  let name := cs.takeWhile inHost
  if name.isEmpty || isDrive (String.ofList name) then return (none, cs)
  else
    let host ← Host.ofText name
    return (if host = .domain "localhost" then none else some host, cs.dropWhile inHost)

/-- The names of a file that some names say: empty ones do not stand at the front. -/
def fileNames (names : List String) : List String :=
  match names.dropWhile String.isEmpty with
  | [] => [""]
  | rest => rest

/-- Read the address of a file. A drive is on no host. -/
def readFile (cs : List Char) : Except Problem Url := do
  let isSlash := isSlash true
  let afterSlash (cs : List Char) : List Char := if cs.head?.any isSlash then cs.tail else cs
  let (host, rest) ←
    if cs.head?.any isSlash && cs.tail.head?.any isSlash then
      (fun (host, rest) => (host, if host.isSome then afterSlash rest else rest)) <$>
        readFileHost (cs.drop 2)
    else pure (none, afterSlash cs)
  let (path, tail) := splitTail rest
  let tail := readTail true tail
  let names := readNames "file" [] path
  let host := host.filter fun _ => !names.head?.any isDrive
  return {
    scheme := "file", host := some (host.getD (.unchecked ""))
    path := .names (fileNames names), query := tail.query, fragment := tail.fragment }

/-- Read an address of a scheme without rules, from behind the colon. -/
def readGeneric (scheme : String) (cs : List Char) : Except Problem Url :=
  match cs with
  | '/' :: '/' :: rest => readWithAuthority scheme rest
  | _ =>
    let (path, tail) := splitTail cs
    let tail := readTail false tail
    .ok {
      scheme
      path := match path with
        | '/' :: names => .names (readNames scheme [] names)
        | _ => .plain (String.ofList (percentEncode isControl path))
      query := tail.query, fragment := tail.fragment }

/-- A text without the blanks and controls at its ends, and without tabs and breaks. -/
def clean (text : String) : List Char :=
  let isEdge (c : Char) : Bool := c.toNat ≤ 0x20
  let cs := ((text.toList.dropWhile isEdge).reverse.dropWhile isEdge).reverse
  cs.filter fun c => c ≠ '\t' && c ≠ '\n' && c ≠ '\r'

/-- Read an address that stands for itself, from behind its scheme. -/
def readAbsolute (scheme : String) (cs : List Char) : Except Problem Url :=
  if scheme = "file" then readFile cs
  else if isSpecial scheme then readWithAuthority scheme (cs.dropWhile (isSlash true))
  else readGeneric scheme cs

/-- Read an address. -/
def ofText (text : String) : Except Problem Url :=
  match splitScheme? (clean text) with
  | some (scheme, rest) => readAbsolute scheme rest
  | none => .error .noScheme

/-- Read an address that may be relative to a base. -/
def join (base : Url) (text : String) : Except Problem Url :=
  let cs := clean text
  match splitScheme? cs with
  | some (scheme, rest) =>
    let slashes := (rest.takeWhile (isSlash true)).length
    match base.path with
    | .names segments =>
      if scheme = base.scheme && isSpecial scheme && slashes < 2 then
        readRelative base segments rest
      else readAbsolute scheme rest
    | .plain _ => readAbsolute scheme rest
  | none =>
    match base.path, cs with
    | _, '#' :: rest =>
      .ok { base with fragment := some (String.ofList (percentEncode inFragment rest)) }
    | .names segments, _ => readRelative base segments cs
    | .plain _, _ => .error .opaqueBase

/-! ## Texts -/

/-- The host of an address, if it has one. -/
def host? (u : Url) : Option Host := u.host.filter (!·.isEmpty)

/-- A user as text, with the sign behind it. -/
def userText (u : Url) : String :=
  if u.username.isEmpty && u.password.isNone then ""
  else u.username ++ (u.password.elim "" (":" ++ ·)) ++ "@"

/-- The part of an address between the scheme and the path. -/
def authorityText (u : Url) : String :=
  match u.host with
  | some host => "//" ++ u.userText ++ host.text ++ u.port.elim "" fun n => s!":{n}"
  | none => match u.path with
    | .names ("" :: _ :: _) => "/."
    | _ => ""

/-- The path of an address as text. -/
def pathText (u : Url) : String :=
  match u.path with
  | .names segments => String.join (segments.map ("/" ++ ·))
  | .plain text => text

/-- An address as text. -/
def text (u : Url) : String :=
  u.scheme ++ ":" ++ u.authorityText ++ u.pathText ++ (u.query.elim "" ("?" ++ ·)) ++
    (u.fragment.elim "" ("#" ++ ·))

/-- An address with one more pair in its query. -/
def appendPair (u : Url) (name value : String) : Url :=
  let query := (u.query.getD "").toList
  { u with query := some (String.ofList (Form.append query name.toList value.toList)) }

/-- Whether an address is one of the web. -/
def isWeb (u : Url) : Bool := u.scheme == "http" || u.scheme == "https"

end Url

end StartOrder
