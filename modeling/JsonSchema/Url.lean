import JsonSchema.Idna
import JsonSchema.Text.Percent
import JsonSchema.Url.Address

/-!
# Absolute URLs

A `Url` is an absolute locator in the one form in which locators are compared: scheme and host in
lower case, default ports left out, dot segments resolved, and characters that a part may not hold
escaped. `Url.parse` brings any text to that form or says why it has none, `Url.join` resolves a
reference against a URL, and `Url.toChars` writes the form.

The schemes `http`, `https`, `ws`, `wss`, `ftp` and `file` are special: they always have an
authority and a path, a backslash is a slash to them, and their hosts are domain names or addresses.
-/

namespace JsonSchema

/-- The authority of a URL. -/
structure Url.Authority where
  /-- User and password with the `@` after them, or nothing. -/
  credentials : List Char
  host : List Char
  port : Option Nat
  deriving DecidableEq

/-- An absolute URL. -/
structure Url where
  scheme : List Char
  authority : Option Url.Authority
  path : List Char
  query : Option (List Char)
  fragment : Option (List Char)
  deriving DecidableEq

namespace Url

/-- Reasons why a text is no URL. -/
inductive Refusal
  | relativeWithoutBase | relativeToOpaque | emptyHost | badDomain | badDomainCharacter | badIpv4
  | badIpv6 | badPort
  deriving DecidableEq

/-- What is said about a refusal. -/
def Refusal.text : Refusal → String
  | .relativeWithoutBase => "relative URL without a base"
  | .relativeToOpaque => "relative URL with a cannot-be-a-base base"
  | .emptyHost => "empty host"
  | .badDomain => "invalid international domain name"
  | .badDomainCharacter => "invalid domain character"
  | .badIpv4 => "invalid IPv4 address"
  | .badIpv6 => "invalid IPv6 address"
  | .badPort => "invalid port number"

/-- The kinds of schemes. -/
inductive SchemeKind
  | file | special | plain
  deriving DecidableEq

/-- The special schemes other than `file`, with their default ports. -/
def specialSchemes : List (List Char × Nat) :=
  [("http".toList, 80), ("https".toList, 443), ("ws".toList, 80), ("wss".toList, 443),
    ("ftp".toList, 21)]

/-- The scheme of local files. -/
def fileScheme : List Char := "file".toList

/-- The kind of a scheme. -/
def SchemeKind.of (scheme : List Char) : SchemeKind :=
  if scheme = fileScheme then .file
  else if specialSchemes.any fun s => s.1 = scheme then .special
  else .plain

/-- Whether schemes of a kind are special. -/
def SchemeKind.isSpecial (k : SchemeKind) : Bool :=
  k != .plain

/-! ### Characters that a part of a URL escapes -/

/-- Escaped everywhere. -/
def isControl (c : Char) : Bool :=
  c.toNat < 0x20 || c.toNat = 0x7F

/-- Escaped in a fragment. -/
def escapedInFragment (c : Char) : Bool :=
  isControl c || [' ', '"', '<', '>', '\x60'].contains c

/-- Escaped in a query. -/
def escapedInQuery (special : Bool) (c : Char) : Bool :=
  isControl c || [' ', '"', '#', '<', '>'].contains c || (special && c = '\'')

/-- Escaped in a path. -/
def escapedInPath (c : Char) : Bool :=
  escapedInFragment c || ['#', '?', '^', '\x7b', '\x7d'].contains c

/-- Escaped in user and password. -/
def escapedInCredentials (c : Char) : Bool :=
  escapedInPath c || ['/', ':', ';', '=', '@', '[', '\\', ']', '^', '|'].contains c

/-- Escaped in a segment that comes from a file name. -/
def escapedInFileName (c : Char) : Bool :=
  escapedInFragment c || ['#', '?', '^', '\x7b', '\x7d', '/', '%', '\\'].contains c

/-! ### Paths -/

/-- Whether a character separates segments. -/
def isSlash (special : Bool) (c : Char) : Bool :=
  c = '/' || (special && c = '\\')

/-- Whether a character ends a path. -/
def endsPath (c : Char) : Bool :=
  c = '?' || c = '#'

/-- The segments of a path without its first slash. -/
def segments (special : Bool) (path : List Char) : List (List Char) :=
  Text.split '/' (path.map fun c => if isSlash special c then '/' else c)

/-- The number of dots of a segment that has nothing but dots, escaped or not. -/
def dots? : List Char → Option Nat
  | [] => some 0
  | '.' :: rest => (dots? rest).map (· + 1)
  | '%' :: '2' :: e :: rest => if e = 'e' ∨ e = 'E' then (dots? rest).map (· + 1) else none
  | _ => none

/-- Whether a segment is `.`, in any spelling. -/
def isDot (segment : List Char) : Bool :=
  dots? segment = some 1

/-- Whether a segment is `..`, in any spelling. -/
def isDotDot (segment : List Char) : Bool :=
  dots? segment = some 2

/-- Whether a segment is a drive: a letter and a colon or bar. -/
def isDrive : List Char → Bool
  | [c, d] => CharClass.isAsciiLetter c && (d = ':' || d = '|')
  | _ => false

/-- Whether a segment is a drive with a colon. -/
def isColonDrive (segment : List Char) : Bool :=
  isDrive segment && segment.getLast? = some ':'

/-- Whether a text starts with a drive segment. -/
def startsWithDrive (special : Bool) (text : List Char) : Bool :=
  isDrive (text.takeWhile fun c => !isSlash special c && !endsPath c)

/-- The segments kept, last first, without the last one; drives stay. -/
def dropSegment : List (List Char) → List (List Char)
  | top :: below => if isDrive top then top :: below else below
  | [] => []

/-- A drive at the start of the path of a file gets a colon. -/
def keepSegment (file : Bool) (kept : List (List Char)) (segment : List Char) : List Char :=
  if file && kept = [] && isDrive segment then segment.take 1 ++ [':'] else segment

/-- The path that `kept`, last segment first, and the segments `more` make. -/
def pathFrom (file : Bool) (kept : List (List Char)) : List (List Char) → List (List Char)
  | [] => kept.reverse
  | [last] =>
    if isDotDot last then (dropSegment kept).reverse ++ [[]]
    else if isDot last then kept.reverse ++ [[]]
    else kept.reverse ++ [keepSegment file kept last]
  | segment :: next :: more =>
    if isDotDot segment then pathFrom file (dropSegment kept) (next :: more)
    else if isDot segment then pathFrom file kept (next :: more)
    else pathFrom file (keepSegment file kept segment :: kept) (next :: more)

/-- The segments of a file path without the empty ones in front. -/
def trimFilePath (file : Bool) (segments : List (List Char)) : List (List Char) :=
  if file then
    match segments.dropWhile (· = []) with
    | [] => [[]]
    | trimmed => trimmed
  else segments

/-- The path below `kept` that a text without leading slash writes. -/
def buildPath (kind : SchemeKind) (kept : List (List Char)) (text : List Char) : List Char :=
  let file := kind = .file
  let encoded := (segments kind.isSpecial text).map (Percent.encode escapedInPath)
  '/' :: Text.join '/' (trimFilePath file (pathFrom file kept encoded))

/-- A text without one leading slash. -/
def dropSlash (special : Bool) : List Char → List Char
  | c :: rest => if isSlash special c then rest else c :: rest
  | [] => []

/-! ### Authorities -/

/-- Splits a text before the `@` that ends user and password, if there is one. -/
def splitCredentials (text : List Char) : Option (List Char) × List Char :=
  match text.reverse.span (· ≠ '@') with
  | (_, []) => (none, text)
  | (after, _ :: before) => (some before.reverse, after.reverse)

/-- User and password as written in a URL. Empty ones leave no trace. -/
def credentialsText (text : List Char) : List Char :=
  let (user, password) := text.span (· ≠ ':')
  let password := password.drop 1
  let user := Percent.encode escapedInCredentials user
  let password := Percent.encode escapedInCredentials password
  if user = [] ∧ password = [] then []
  else user ++ (if password = [] then [] else ':' :: password) ++ ['@']

/-- The host of a text in brackets. -/
def bracketHost (text : List Char) : Except Refusal (List Char) :=
  if text.getLast? = some ']' then
    match ipv6? (text.drop 1).dropLast with
    | some groups => .ok ('[' :: ipv6Text groups ++ [']'])
    | none => .error .badIpv6
  else .error .badIpv6

/-- The host of a special scheme: a domain name or an address. -/
def domainHost (text : List Char) : Except Refusal (List Char) :=
  if text.head? = some '[' then bracketHost text
  else
    match Idna.toAscii? (Percent.decode text) with
    | none => .error .badDomain
    | some [] => .error .emptyHost
    | some domain =>
      if endsInNumber domain then
        match ipv4? domain with
        | some n => .ok (ipv4Text n)
        | none => .error .badIpv4
      else .ok domain

/-- The host of a scheme that is not special. -/
def plainHost (text : List Char) : Except Refusal (List Char) :=
  if text.head? = some '[' then bracketHost text
  else if text.any fun c =>
      ['\x00', '\t', '\n', '\r', ' ', '#', '/', ':', '<', '>', '?', '@', '[', '\\', ']', '^',
        '|'].contains c then
    .error .badDomainCharacter
  else .ok (Percent.encode isControl text)

/-- Splits host and port, at the first colon outside brackets. -/
def splitPort (bracketed : Bool) : List Char → List Char × Option (List Char)
  | [] => ([], none)
  | c :: rest =>
    if c = ':' && !bracketed then ([], some rest)
    else
      let (host, port) := splitPort (if c = '[' then true else if c = ']' then false else bracketed)
        rest
      (c :: host, port)

/-- A port; none if there are no digits or it is the default one. -/
def portOf (scheme : List Char) (digits : List Char) : Except Refusal (Option Nat) :=
  if digits = [] then .ok none
  else
    match CharClass.decimal? digits with
    | none => .error .badPort
    | some n =>
      if 0xFFFF < n then .error .badPort
      else if specialSchemes.any fun s => s.1 = scheme && s.2 = n then .ok none
      else .ok (some n)

/-- The authority that a text without slashes writes; `more` tells whether the URL goes on. -/
def authorityOf (scheme : List Char) (text : List Char) (more : Bool) :
    Except Refusal Authority := do
  let kind := SchemeKind.of scheme
  let (credentials, address) := splitCredentials text
  let written := credentialsText (credentials.getD [])
  let (host, port) := splitPort false address
  if host = [] then
    if kind.isSpecial || port.isSome || written ≠ [] || (more && credentials = some []) then
      throw .emptyHost
    return ⟨written, [], none⟩
  let host ← if kind.isSpecial then domainHost host else plainHost host
  let port ← portOf scheme (port.getD [])
  return ⟨written, host, port⟩

/-! ### Whole URLs -/

/-- Reads query and fragment, which `rest` starts with if it is not empty. -/
def withRest (u : Url) (rest : List Char) : Url :=
  let special := (SchemeKind.of u.scheme).isSpecial
  let (query, fragment) :=
    match rest with
    | '?' :: more =>
      (some (more.takeWhile (· ≠ '#')),
        match more.dropWhile (· ≠ '#') with
        | _ :: f => some f
        | [] => none)
    | _ :: f => (none, some f)
    | [] => (none, none)
  { u with
    query := query.map (Percent.encode (escapedInQuery special))
    fragment := fragment.map (Percent.encode escapedInFragment) }

/-- The URL without query and fragment whose text goes on with `text` after `//`. -/
def afterSlashes (scheme : List Char) (text : List Char) : Except Refusal Url := do
  let kind := SchemeKind.of scheme
  let ends (c : Char) : Bool := isSlash kind.isSpecial c || endsPath c
  let tail := text.dropWhile (!ends ·)
  let authority ← authorityOf scheme (text.takeWhile (!ends ·)) (tail ≠ [])
  let written := tail.takeWhile (!endsPath ·)
  let path :=
    if kind.isSpecial || written ≠ [] then
      buildPath kind [] (dropSlash kind.isSpecial written)
    else []
  return withRest ⟨scheme, some authority, path, none, none⟩ (tail.dropWhile (!endsPath ·))

/-- The kept segments, last first, of a path whose last segment is replaced. -/
def parentSegments (kind : SchemeKind) (path : List Char) : List (List Char) :=
  let kept := (Text.split '/' (path.drop 1)).reverse
  match kept with
  | top :: below => if kind = .file && isColonDrive top then kept else below
  | [] => []

/-- The URL of a scheme without authority whose text goes on with `text`. -/
def withoutAuthority (scheme : List Char) (text : List Char) : Url :=
  let written := text.takeWhile (!endsPath ·)
  let path :=
    match written with
    | '/' :: rest => buildPath .plain [] rest
    | _ => Percent.encode isControl written
  withRest ⟨scheme, none, path, none, none⟩ (text.dropWhile (!endsPath ·))

/-- Whether a URL has neither authority nor a path that starts with a slash. -/
def isOpaque (u : Url) : Bool :=
  u.authority.isNone && u.path.head? != some '/'

/-- The URL with another fragment, read from text. -/
def withFragmentText (u : Url) (text : List Char) : Url :=
  { u with fragment := some (Percent.encode escapedInFragment text) }

/-- A path below the one of `base`, in place of its last segment. -/
def relativePath (base : Url) (kept : List (List Char)) (text : List Char) : Url :=
  let kind := SchemeKind.of base.scheme
  let written := text.takeWhile (!endsPath ·)
  withRest { base with path := buildPath kind kept (dropSlash kind.isSpecial written) }
    (text.dropWhile (!endsPath ·))

/-- A file URL whose host may be `localhost`, which is left out, and whose path may start with a
drive, which leaves the host out. -/
def fileWithHost (text : List Char) : Except Refusal Url := do
  let ends (c : Char) : Bool := isSlash true c || endsPath c
  let name := text.takeWhile (!ends ·)
  let hasDrive := isDrive name
  let host ← if name = [] || hasDrive then .ok [] else domainHost name
  let tail := if hasDrive then text else text.dropWhile (!ends ·)
  let written := tail.takeWhile (!endsPath ·)
  let path := buildPath .file [] (dropSlash true written)
  let firstSegment := (path.drop 1).takeWhile (· ≠ '/')
  let host := if host = "localhost".toList || isColonDrive firstSegment then [] else host
  return withRest ⟨fileScheme, some ⟨[], host, none⟩, path, none, none⟩
    (tail.dropWhile (!endsPath ·))

/-- A file URL, given the text after `file:`. -/
def fileUrl (base : Option Url) (text : List Char) : Except Refusal Url :=
  let fresh : Url := ⟨fileScheme, some ⟨[], [], none⟩, [], none, none⟩
  match text with
  | c :: rest =>
    if isSlash true c then
      match rest with
      | d :: more =>
        if isSlash true d then fileWithHost more else .ok (fileAfterSlash fresh rest)
      | [] => .ok (fileAfterSlash fresh rest)
    else
      match base with
      | none => .ok (relativePath fresh [] text)
      | some b =>
        if c = '?' then .ok (withRest b text)
        else if c = '#' then .ok (withFragmentText b rest)
        else if startsWithDrive true text then .ok (relativePath fresh [] text)
        else .ok (relativePath b (parentSegments .file b.path) text)
  | [] =>
    match base with
    | none => .ok (relativePath fresh [] [])
    | some b => .ok { b with fragment := none }
where
  /-- After a single slash, a drive or host comes from the base. -/
  fileAfterSlash (fresh : Url) (rest : List Char) : Url :=
    match base with
    | some b =>
      let drive := (b.path.drop 1).takeWhile (· ≠ '/')
      if startsWithDrive true rest then relativePath fresh [] rest
      else if isColonDrive drive then relativePath fresh [drive] rest
      else relativePath { fresh with authority := b.authority } [] rest
    | none => relativePath fresh [] rest

/-- Resolves a text without scheme against a URL that is neither opaque nor a file. -/
def relativeTo (base : Url) (text : List Char) : Except Refusal Url :=
  match text with
  | [] => .ok { base with fragment := none }
  | '?' :: _ => .ok (withRest base text)
  | '#' :: rest => .ok (withFragmentText base rest)
  | c :: rest =>
    if c = '/' ∨ c = '\\' then
      let slashes := text.takeWhile (isSlash true)
      if 2 ≤ slashes.length then
        let after :=
          if text.take 2 = ['/', '/'] then text.drop 2 else text.drop slashes.length
        afterSlashes base.scheme after
      else
        let kind := SchemeKind.of base.scheme
        .ok (withRest { base with path := buildPath kind [] (rest.takeWhile (!endsPath ·)) }
          (rest.dropWhile (!endsPath ·)))
    else
      .ok (relativePath base (parentSegments (SchemeKind.of base.scheme) base.path) text)

/-- Splits a text into a scheme in lower case and what follows its colon. -/
def splitScheme (text : List Char) : Option (List Char × List Char) :=
  let name := text.takeWhile fun c =>
    CharClass.isAsciiAlphanumeric c || c = '+' || c = '-' || c = '.'
  match text.drop name.length with
  | ':' :: rest =>
    if name.head?.any CharClass.isAsciiLetter then some (name.map CharClass.toAsciiLower, rest)
    else none
  | _ => none

/-- A text without blanks and controls at its ends and without line breaks and tabs. -/
def clean (text : List Char) : List Char :=
  let blank (c : Char) : Bool := c.toNat ≤ 0x20
  let text := ((text.dropWhile blank).reverse.dropWhile blank).reverse
  text.filter fun c => c ≠ '\t' ∧ c ≠ '\n' ∧ c ≠ '\r'

/-- Reads a URL, relative to a base if there is one. -/
def parseWith (base : Option Url) (text : List Char) : Except Refusal Url :=
  let text := clean text
  match splitScheme text with
  | some (scheme, rest) =>
    match SchemeKind.of scheme with
    | .file => fileUrl (base.filter fun b => b.scheme = fileScheme) rest
    | .special =>
      let slashes := rest.takeWhile (isSlash true)
      match base.filter fun b => b.scheme = scheme && slashes.length < 2 with
      | some b => relativeTo b rest
      | none => afterSlashes scheme (rest.drop slashes.length)
    | .plain =>
      if rest.take 2 = ['/', '/'] then afterSlashes scheme (rest.drop 2)
      else .ok (withoutAuthority scheme rest)
  | none =>
    match base with
    | none => .error .relativeWithoutBase
    | some b =>
      match text with
      | '#' :: rest => .ok (withFragmentText b rest)
      | _ =>
        if b.isOpaque then .error .relativeToOpaque
        else if b.scheme = fileScheme then fileUrl (some b) text
        else relativeTo b text

/-- Reads a URL. -/
def parse (text : List Char) : Except Refusal Url :=
  parseWith none text

/-- Resolves a reference against a URL. -/
def join (base : Url) (text : List Char) : Except Refusal Url :=
  parseWith (some base) text

/-- An authority as text. -/
def Authority.toChars (a : Authority) : List Char :=
  a.credentials ++ a.host ++
    match a.port with
    | none => []
    | some n => ':' :: Nat.toDigits 10 n

/-- A URL as text. A path that starts with two slashes and follows no authority gets `/.` in
front, so that it is not taken for one. -/
def toChars (u : Url) : List Char :=
  let authority :=
    match u.authority with
    | some a => '/' :: '/' :: a.toChars
    | none => if u.path.take 2 = ['/', '/'] then ['/', '.'] else []
  let query := u.query.elim [] ('?' :: ·)
  let fragment := u.fragment.elim [] ('#' :: ·)
  u.scheme ++ ':' :: authority ++ u.path ++ query ++ fragment

/-- The path of a local file as bytes: host `localhost` or none, escapes decoded. -/
def toFilePath? (u : Url) : Option (List UInt8) :=
  match u.authority with
  | some a =>
    if u.path.head? = some '/' && (a.host = [] || a.host = "localhost".toList) then
      let bytes := Percent.decodeBytes u.path
      let ends := (bytes.reverse.take 2).map fun b => Char.ofNat b.toNat
      if 2 < bytes.length && isDrive ends.reverse then some (bytes ++ [0x2F]) else some bytes
    else none
  | none => none

/-- The URL of an absolute file path, given by its segments. -/
def ofFilePath (segments : List (List Char)) : Url :=
  let encoded := segments.map (Percent.encode escapedInFileName)
  ⟨fileScheme, some ⟨[], [], none⟩, '/' :: Text.join '/' encoded, none, none⟩

end Url

end JsonSchema
