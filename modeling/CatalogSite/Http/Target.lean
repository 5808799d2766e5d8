import CatalogSite.Text.Substring

namespace CatalogSite.Http

/-!
# Request targets

The target of a request is a path with a query on the asked host, a whole
address, or a bare authority. Only some characters may stand in each part; a
fragment is dropped unread. An authority may hold one colon for its port,
brackets around its host, and percent signs only in its user part.
-/

/-- What a request asks for. -/
inductive RequestTarget where
  | origin (path : String)
  | absolute (address : String)
  | authority (text : String)
  deriving Repr, DecidableEq

/-- Whether a character may stand in a path. -/
def isPathChar (c : Char) : Bool :=
  0x21 ≤ c.toNat && c.toNat != 0x60 && c != '<' && c != '>'

/-- Whether a character may stand in a query. -/
def isQueryChar (c : Char) : Bool :=
  0x21 ≤ c.toNat && c != '"' && c != '<' && c != '>'

/-- Whether a character ends an authority. -/
def endsAuthority (c : Char) : Bool :=
  c == '/' || c == '?' || c == '#'

/-- Whether a character may stand in an authority. -/
def isAuthorityChar (c : Char) : Bool :=
  c.isAlphanum || c == '!' || c == '$' || c == '%' || c == '&' ||
    c == '\'' || c == '(' || c == ')' || c == '*' || c == '+' ||
    c == ',' || c == '-' || c == '.' || c == ':' ||
    c == ';' || c == '=' || c == '@' || c == '[' || c == ']' || c == '_' || c == '~'

/-- Whether a character may stand in a scheme. -/
def isSchemeChar (c : Char) : Bool :=
  c.isAlphanum || c == '+' || c == '-' || c == '.' || c == '~'

/-- What has been seen of an authority. -/
structure AuthorityScan where
  colons : Nat := 0
  opened : Bool := false
  closed : Bool := false
  percent : Bool := false

/-- Read one more character of an authority, unless it must not stand there. -/
def AuthorityScan.step?
    (scan : AuthorityScan)
    (c : Char) :
    Option AuthorityScan :=
  if !isAuthorityChar c then none
  else if c = ':' then
    if scan.colons < 8 then some { scan with colons := scan.colons + 1 } else none
  else if c = '[' then
    if scan.percent || scan.opened then none else some { scan with opened := true }
  else if c = ']' then
    if !scan.opened || scan.closed then none
    else some { scan with closed := true, colons := 0, percent := false }
  else if c = '@' then some { scan with colons := 0, percent := false }
  else if c = '%' then some { scan with percent := true }
  else some scan

/-- Whether a text is an authority. -/
def isAuthority (text : List Char) : Bool :=
  match text.foldlM AuthorityScan.step? {} with
  | none => false
  | some scan =>
      scan.opened == scan.closed && scan.colons ≤ 1 &&
        text.getLast? != some '@' && !scan.percent

/-- Read a path with its query, without the fragment behind them. -/
def pathAndQuery? (text : List Char) : Option (List Char × Option (List Char)) :=
  let path := text.takeWhile fun c => c != '?' && c != '#'
  if !path.all isPathChar then none
  else
    match text.drop path.length with
    | '?' :: rest =>
        let query := rest.takeWhile (· != '#')
        if query.all isQueryChar then some (path, some query) else none
    | _ => some (path, none)

/--
The scheme before `://`, in lower case if it is one of the web, and what follows.
-/
def splitScheme? (text : List Char) : Option (List Char × List Char) :=
  let scheme := text.takeWhile isSchemeChar
  match Text.dropPrefix? [':', '/', '/'] (text.drop scheme.length) with
  | none => none
  | some rest =>
      let lower := scheme.map Char.toLower
      if lower = "http".toList ∨ lower = "https".toList then some (lower, rest)
      else some (scheme, rest)

/-- The text of a query behind its mark. -/
def markedQuery : Option (List Char) → List Char
  | none => []
  | some query => '?' :: query

namespace RequestTarget

/-- Read what follows the scheme of a whole address. -/
def ofAddress? (scheme rest : List Char) : Option RequestTarget :=
  let authority := rest.takeWhile (!endsAuthority ·)
  if 64 < scheme.length ∨ authority.isEmpty ∨ !isAuthority authority then none
  else do
    let (path, query) ← pathAndQuery? (rest.drop authority.length)
    let path := if path.isEmpty then ['/'] else path
    some (.absolute (String.ofList
      (scheme ++ [':', '/', '/'] ++ authority ++ path ++ markedQuery query)))

/-- Read a target. -/
def ofText? (text : String) : Option RequestTarget :=
  if text.isEmpty ∨ 65534 < text.utf8ByteSize then none
  else
    match text.toList with
    | ['*'] => some (.origin "*")
    | '/' :: rest => do
        let (path, query) ← pathAndQuery? ('/' :: rest)
        some (.origin (String.ofList (path ++ markedQuery query)))
    | chars =>
        match splitScheme? chars with
        | some (scheme, rest) => ofAddress? scheme rest
        | none => if isAuthority chars then some (.authority text) else none

/-- The address that a target stands for on a host. -/
def address
    (target : RequestTarget)
    (host : String) :
    String :=
  match target with
  | .origin path => "http://" ++ host ++ path
  | .absolute address => address
  | .authority _ => "http://" ++ host ++ "/"

end RequestTarget

end CatalogSite.Http
