import CatalogSite.Text.Blank
import CatalogSite.Url.Basic
import CatalogSite.Url.Domain

namespace CatalogSite.Url

/-!
# Parsing URLs

A text is read from left to right: scheme, authority, path, query, fragment. The
schemes of the web read a backslash as a slash and always have a host; file URLs
may leave the host empty; any other scheme may go without slashes, and its path
then has no structure. A text without a scheme is read relative to a base.
-/

/-- How a scheme is read. -/
inductive SchemeKind where
  | web
  | file
  | other
  deriving Repr, DecidableEq

namespace SchemeKind

/-- The kind of a scheme in lower case. -/
def ofScheme (scheme : List Char) : SchemeKind :=
  if ["http", "https", "ws", "wss", "ftp"].any (·.toList = scheme) then .web
  else if scheme = "file".toList then .file
  else .other

/-- Whether a kind of scheme has rules of its own. -/
def isSpecial : SchemeKind → Bool
  | .web | .file => true
  | .other => false

/-- Whether a character separates path segments. -/
def isSlash
    (kind : SchemeKind)
    (c : Char) :
    Bool :=
  c == '/' || (kind.isSpecial && c == '\\')

/-- Whether a character ends an authority. -/
def endsAuthority
    (kind : SchemeKind)
    (c : Char) :
    Bool :=
  kind.isSlash c || c == '?' || c == '#'

end SchemeKind

/-- The port that a scheme uses when none is written. -/
def defaultPort? (scheme : List Char) : Option Nat :=
  if scheme = "http".toList ∨ scheme = "ws".toList then some 80
  else if scheme = "https".toList ∨ scheme = "wss".toList then some 443
  else if scheme = "ftp".toList then some 21
  else none

/-- Leave out what surrounds a URL, and the tabs and line breaks inside it. -/
def cleaned (text : List Char) : List Char :=
  let isEdge (c : Char) : Bool := c.toNat ≤ 0x20
  (Text.dropEndWhile isEdge (text.dropWhile isEdge)).filter fun c =>
    c != '\t' && c != '\n' && c != '\r'

/-- Whether a character may stand in a scheme behind its first letter. -/
def isSchemeChar (c : Char) : Bool :=
  c.isAlphanum || c == '+' || c == '-' || c == '.'

/-- The scheme in lower case and the text behind its colon. -/
def splitScheme? (text : List Char) : Option (List Char × List Char) :=
  match text with
  | first :: _ =>
      if first.isAlpha then
        match text.dropWhile isSchemeChar with
        | ':' :: rest => some ((text.takeWhile isSchemeChar).map Char.toLower, rest)
        | _ => none
      else
        none
  | [] => none

/-! ## Path -/

/-- Whether a written segment stands for the directory itself. -/
def isSingleDot (segment : List Char) : Bool :=
  ["." , "%2e", "%2E"].any (·.toList = segment)

/-- Whether a written segment stands for the directory above. -/
def isDoubleDot (segment : List Char) : Bool :=
  ["..", "%2e%2e", "%2e%2E", "%2E%2e", "%2E%2E", "%2e.", "%2E.", ".%2e", ".%2E"].any
    (·.toList = segment)

/-- Whether a segment is a letter and a colon or a bar, as drives are named. -/
def isDrive : List Char → Bool
  | [letter, mark] => letter.isAlpha && (mark == ':' || mark == '|')
  | _ => false

/-- Go to the directory above; a drive has none. -/
def popSegment (names : List (List Char)) : List (List Char) :=
  match names.getLast? with
  | some last => if isDrive last then names else names.dropLast
  | none => []

/-- The names that a written segment adds; in a file URL a drive comes first. -/
def segmentNames
    (kind : SchemeKind)
    (names : List (List Char))
    (segment : List Char) :
    List (List Char) :=
  match kind, names, segment with
  | .file, [], letter :: mark :: rest =>
      if isDrive [letter, mark] then
        if rest.isEmpty then [[letter, ':']]
        else if mark = ':' then [[letter, ':'], percentEncode encodedInPath rest]
        else [percentEncode encodedInPath segment]
      else
        [percentEncode encodedInPath segment]
  | _, _, _ => [percentEncode encodedInPath segment]

/--
Walk along written segments from a directory; the last one is not a directory.
-/
def walkSegments
    (kind : SchemeKind) :
    List (List Char) → List (List Char) → List (List Char)
  | names, [] => names
  | names, [last] =>
      if isDoubleDot last then popSegment names ++ [[]]
      else if isSingleDot last then names ++ [[]]
      else names ++ segmentNames kind names last
  | names, segment :: rest =>
      if isDoubleDot segment then walkSegments kind (popSegment names) rest
      else if isSingleDot segment then walkSegments kind names rest
      else walkSegments kind (names ++ segmentNames kind names segment) rest

/-- Whether a path starts with a drive. -/
def startsWithDrive : List (List Char) → Bool
  | first :: _ => isDrive first
  | [] => false

/-- The segments of a path text behind its first slash, from a directory. -/
def pathNames
    (kind : SchemeKind)
    (directory : List (List Char))
    (text : List Char) :
    List (List Char) :=
  walkSegments kind directory (text.splitOnP kind.isSlash)

/-- The segments of a file path, which has no empty ones in front. -/
def withoutLeadingSlashes (names : List (List Char)) : List (List Char) :=
  match names.dropWhile List.isEmpty with
  | [] => [[]]
  | kept => kept

/-! ## Query and fragment -/

/--
The path text, the query text and the fragment text of what follows an authority.
-/
def splitTail
    (text : List Char) :
    List Char × Option (List Char) × Option (List Char) :=
  let (beforeFragment, fragment) := Text.splitFirst '#' text
  let (path, query) := Text.splitFirst '?' beforeFragment
  (path, query, fragment)

/-- The written form of a query. -/
def encodeQuery
    (kind : SchemeKind)
    (query : List Char) :
    List Char :=
  percentEncode
    (if kind.isSpecial then encodedInSpecialQuery else encodedInQuery) query

/-- The written form of a fragment. -/
def encodeFragment (fragment : List Char) : List Char :=
  percentEncode encodedInFragment fragment

/-! ## Host -/

/-- Read a host in brackets. -/
def parseBracketed (text : List Char) : Except UrlError Host :=
  if text.getLast? = some ']' then
    (parseIpv6 (text.drop 1).dropLast).map .ipv6
  else
    .error .invalidIpv6

/-- Read the host of a scheme with rules. -/
def parseSpecialHost (text : List Char) : Except UrlError Host :=
  if text.head? = some '[' then
    parseBracketed text
  else
    match (Text.decode? (percentDecode (Text.utf8 text))).bind domainToAscii? with
    | none => .error .invalidDomain
    | some domain =>
        if domain.isEmpty then .error .emptyHost
        else if endsInNumber domain then (parseIpv4 domain).map .ipv4
        else .ok (.domain domain)

/-- The characters that no host may hold, whatever its scheme. -/
def isForbiddenInHost (c : Char) : Bool :=
  c == Char.ofNat 0 || c == '\t' || c == '\n' || c == '\r' || c == ' ' ||
    c == '#' || c == '/' || c == ':' || c == '<' || c == '>' || c == '?' ||
    c == '@' || c == '[' || c == '\\' || c == ']' || c == '^' || c == '|'

/-- Read the host of any other scheme. -/
def parseOtherHost (text : List Char) : Except UrlError Host :=
  if text.isEmpty then .ok .empty
  else if text.head? = some '[' then parseBracketed text
  else if text.any isForbiddenInHost then .error .invalidHostCharacter
  else .ok (.domain (percentEncode isControl text))

/-- The host text, up to a colon outside brackets, and the text behind it. -/
def splitHost (insideBrackets : Bool) : List Char → List Char × List Char
  | [] => ([], [])
  | c :: rest =>
      if c = ':' ∧ insideBrackets = false then
        ([], c :: rest)
      else
        let inside :=
          if c = '[' then true else if c = ']' then false else insideBrackets
        let (host, after) := splitHost inside rest
        (c :: host, after)

/-- Read the digits of a port. -/
def parsePort (scheme text : List Char) : Except UrlError (Option Nat) :=
  if text.all Char.isDigit then
    let port := digitsValue text
    if 65535 < port then .error .invalidPort
    else if text.isEmpty ∨ defaultPort? scheme = some port then .ok none
    else .ok (some port)
  else
    .error .invalidPort

/-! ## Authority -/

/-- The text before the last `@`, if there is one, and the text behind it. -/
def splitUserinfo (text : List Char) : Option (List Char) × List Char :=
  let host := (text.reverse.takeWhile (· ≠ '@')).reverse
  if host.length = text.length then (none, text)
  else (some (text.take (text.length - host.length - 1)), host)

/-- The written name and password of a user. -/
def parseUserinfo (text : List Char) : List Char × List Char :=
  let (name, password) := Text.splitFirst ':' text
  (percentEncode encodedInUserinfo name,
    percentEncode encodedInUserinfo (password.getD []))

/--
Read an authority.

The second text is what is left of the URL behind it. In a scheme without rules a
backslash still ends a port.
-/
def parseAuthority
    (kind : SchemeKind)
    (scheme text : List Char) :
    Except UrlError (Authority × List Char) := do
  let zone := text.takeWhile (!kind.endsAuthority ·)
  let tail := text.dropWhile (!kind.endsAuthority ·)
  let (userinfo, server) := splitUserinfo zone
  if userinfo = some [] ∧ server.isEmpty ∧ ¬tail.isEmpty then
    throw .emptyHost
  let (username, password) := parseUserinfo (userinfo.getD [])
  let (hostText, rest) := splitHost false server
  if kind = .web ∧ hostText.isEmpty then
    throw .emptyHost
  let host ←
    if kind.isSpecial then parseSpecialHost hostText
    else parseOtherHost hostText
  if host = .empty ∧ ¬rest.isEmpty then
    throw .emptyHost
  let (portText, tail) :=
    match rest with
    | [] => ([], tail)
    | _ :: digits =>
        (digits.takeWhile (· ≠ '\\'), digits.dropWhile (· ≠ '\\') ++ tail)
  let port ← parsePort scheme portText
  let authority : Authority := { username, password, host, port }
  if host = .empty ∧ ¬authority.userinfo.isEmpty then
    throw .emptyHost
  return (authority, tail)

/-- The path behind an authority: a scheme with rules always has one. -/
def pathAfterAuthority
    (kind : SchemeKind)
    (text : List Char) :
    UrlPath :=
  match text with
  | [] => if kind.isSpecial then .segments [[]] else .segments []
  | first :: rest =>
      .segments (pathNames kind [] (if kind.isSlash first then rest else text))

/-- Read what follows the two slashes of an authority. -/
def parseAfterSlashes
    (kind : SchemeKind)
    (scheme text : List Char) :
    Except UrlError Url := do
  let (authority, tail) ← parseAuthority kind scheme text
  let (path, query, fragment) := splitTail tail
  return {
    scheme
    authority := some authority
    path := pathAfterAuthority kind path
    query := query.map (encodeQuery kind)
    fragment := fragment.map encodeFragment
  }

/-! ## File URLs -/

/-- The host of a file URL; the local one is left out, and a drive is no host. -/
def parseFileHost (text : List Char) : Except UrlError (Host × List Char) := do
  let host := text.takeWhile (!SchemeKind.endsAuthority .file ·)
  let tail := text.dropWhile (!SchemeKind.endsAuthority .file ·)
  if isDrive host then
    return (.empty, text)
  else if host.isEmpty then
    return (.empty, tail)
  else
    let parsed ← parseSpecialHost host
    return (if parsed = .domain "localhost".toList then .empty else parsed, tail)

/-- The URL of a file. -/
def fileUrl
    (host : Host)
    (text : List Char) :
    Url :=
  let (path, query, fragment) := splitTail text
  let written :=
    match path with
    | [] => []
    | first :: rest => if SchemeKind.isSlash .file first then rest else path
  let names := pathNames .file [] written
  {
    scheme := "file".toList
    authority := some (.ofHost (if startsWithDrive names then .empty else host))
    path := .segments (withoutLeadingSlashes names)
    query := query.map (encodeQuery .file)
    fragment := fragment.map encodeFragment
  }

/-- Read what follows the scheme of a file URL. -/
def parseFile (text : List Char) : Except UrlError Url :=
  match text with
  | first :: second :: rest =>
      if SchemeKind.isSlash .file first ∧ SchemeKind.isSlash .file second then do
        let (host, tail) ← parseFileHost rest
        return fileUrl host tail
      else
        .ok (fileUrl .empty text)
  | _ => .ok (fileUrl .empty text)

/-! ## Other schemes -/

/-- Read what follows a scheme without rules. -/
def parseOther (scheme text : List Char) : Except UrlError Url :=
  match Text.dropPrefix? ['/', '/'] text with
  | some rest => parseAfterSlashes .other scheme rest
  | none =>
      let (path, query, fragment) := splitTail text
      .ok {
        scheme
        authority := none
        path :=
          match path with
          | '/' :: rest => .segments (pathNames .other [] rest)
          | _ => .opaqueText (percentEncode isControl path)
        query := query.map (encodeQuery .other)
        fragment := fragment.map encodeFragment
      }

/-! ## Relative texts -/

/-- The segments of a path that has any. -/
def segmentsOf (url : Url) : List (List Char) :=
  match url.path with
  | .segments names => names
  | .opaqueText _ => []

/-- Read a text without a scheme, relative to a base whose path has segments. -/
def resolveRelative
    (base : Url)
    (text : List Char) :
    Except UrlError Url :=
  let kind := SchemeKind.ofScheme base.scheme
  let (path, query, fragment) := splitTail text
  let query := query.map (encodeQuery kind)
  let fragment := fragment.map encodeFragment
  match path with
  | [] =>
      .ok
        { base with
          query := if query.isSome then query else base.query
          fragment }
  | first :: rest =>
      if kind.isSlash first then
        if (rest.head?.map kind.isSlash).getD false then
          if kind = .file then parseFile text else
          match Text.dropPrefix? ['/', '/'] text with
          | some after => parseAfterSlashes kind base.scheme after
          | none => parseAfterSlashes kind base.scheme (text.dropWhile kind.isSlash)
        else
          .ok
            { base with
              path := .segments (pathNames kind [] rest)
              query
              fragment }
      else
        let names := pathNames kind (segmentsOf base).dropLast path
        .ok { base with path := .segments names, query, fragment }

/-- Read a text without a scheme, relative to a base if there is one. -/
def parseWithoutScheme
    (base : Option Url)
    (text : List Char) :
    Except UrlError Url :=
  match base with
  | none => .error .relativeWithoutBase
  | some base =>
      match base.path with
      | .segments _ => resolveRelative base text
      | .opaqueText _ =>
          match text with
          | '#' :: fragment =>
              .ok { base with fragment := some (encodeFragment fragment) }
          | _ => .error .relativeToOpaqueBase

/-- Read a URL, relative to a base if it has no scheme of its own. -/
def parseChars
    (base : Option Url)
    (text : List Char) :
    Except UrlError Url :=
  let text := cleaned text
  match splitScheme? text with
  | none => parseWithoutScheme base text
  | some (scheme, rest) =>
      match SchemeKind.ofScheme scheme with
      | .file => parseFile rest
      | .other => parseOther scheme rest
      | .web =>
          let slashes := rest.takeWhile (SchemeKind.isSlash .web)
          match base with
          | some base =>
              if slashes.length < 2 ∧ base.scheme = scheme then
                resolveRelative base rest
              else
                parseAfterSlashes .web scheme
                  (rest.dropWhile (SchemeKind.isSlash .web))
          | none =>
              parseAfterSlashes .web scheme
                (rest.dropWhile (SchemeKind.isSlash .web))

/-- Read a URL. -/
def parse (text : String) : Except UrlError Url :=
  parseChars none text.toList

/-- Read a URL relative to a base. -/
def join
    (base : Url)
    (text : String) :
    Except UrlError Url :=
  parseChars (some base) text.toList

end CatalogSite.Url
