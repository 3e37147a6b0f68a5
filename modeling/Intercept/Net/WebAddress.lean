/-
# Addresses of web resources

A location that starts with `http://` or `https://` is brought into the one form that is
requested and shown in messages: without user information and default number, the host in small
letters and numeric hosts in their usual spelling, without dot segments in the path, and with
characters that cannot be written as they are spelled out byte by byte.

Hosts that are no ASCII names have no such form here.
-/
import Intercept.Net.SocketAddress
import Intercept.Text.Utf8

namespace Intercept

/-- The parts of an address that matter for a request. -/
structure WebAddress where
  scheme : String
  host : String
  /-- The number, unless it is the scheme's own. -/
  number : Option Nat
  path : String
  query : Option String
  fragment : Option String
deriving DecidableEq, Repr, Inhabited

namespace WebAddress

/-- Whether a character stands for itself in no part of an address. -/
def isNeverPlain (c : Char) : Bool :=
  c.toNat ≤ 0x20 || 0x7f ≤ c.toNat || c == '"' || c == '<' || c == '>'

/-- Whether a character is spelled out in a fragment. -/
def isSpelledInFragment (c : Char) : Bool := isNeverPlain c || c.toNat == 0x60

/-- Whether a character is spelled out in a query. -/
def isSpelledInQuery (c : Char) : Bool := isNeverPlain c || c == '#' || c == '\''

/-- Whether a character is spelled out in a path. -/
def isSpelledInPath (c : Char) : Bool :=
  isSpelledInFragment c || c == '#' || c == '?' || c == '\x7b' || c == '\x7d'

/-- A byte spelled out: `%` and two hexadecimal digits. -/
def spelledByte (b : UInt8) : List Char :=
  ['%', (Bytes.hexDigit (b.toNat / 16)).toUpper, (Bytes.hexDigit (b.toNat % 16)).toUpper]

/-- A text with the characters that satisfy `spelled` spelled out. -/
def encoded (spelled : Char → Bool) (text : List Char) : String :=
  String.ofList (text.flatMap fun c =>
    if spelled c then (Utf8.encode c.toString).flatMap spelledByte else [c])

/-- Bytes with spelled-out bytes put in. -/
def decodedBytes : Bytes → Bytes
  | 37 :: a :: b :: rest =>
    match Bytes.hexValue? a, Bytes.hexValue? b with
    | some high, some low => UInt8.ofNat (16 * high + low) :: decodedBytes rest
    | _, _ => 37 :: decodedBytes (a :: b :: rest)
  | b :: rest => b :: decodedBytes rest
  | [] => []

/-- A text cut at the characters that satisfy `p`. -/
def splitAt (p : Char → Bool) : List Char → List (List Char)
  | [] => [[]]
  | c :: rest =>
    match splitAt p rest with
    | first :: more => if p c then [] :: first :: more else (c :: first) :: more
    | [] => [[c]]

/-- The number that a part of a numeric host writes: octal behind a zero, hexadecimal behind
`0x`. -/
def hostNumber? (part : List Char) : Option Nat :=
  let read (base : Nat) (digits : List Char) : Option Nat :=
    if digits.isEmpty then some 0
    else (digits.mapM (SocketAddress.digit? base)).map fun values =>
      values.foldl (fun n d => base * n + d) 0
  match part with
  | [] => none
  | ['0'] => some 0
  | '0' :: 'x' :: digits => read 16 digits
  | '0' :: digits => read 8 digits
  | digits => read 10 digits

/-- Whether the last part of a host makes it numeric. -/
def isNumeric (parts : List (List Char)) : Bool :=
  match (if parts.getLast? = some [] then parts.dropLast else parts).getLast? with
  | some part => !part.isEmpty && (part.all Char.isDigit || (hostNumber? part).isSome)
  | none => false

/-- The usual spelling of a numeric host: its last part fills what the other parts leave. -/
def fourParts? (parts : List (List Char)) : Option String := do
  let parts := if parts.getLast? = some [] ∧ 1 < parts.length then parts.dropLast else parts
  let numbers ← parts.mapM hostNumber?
  let last ← numbers.getLast?
  let first := numbers.dropLast
  if 3 < first.length ∨ first.any (255 < ·) ∨ Nat.pow 256 (4 - first.length) ≤ last then none else
  let value := first.zipIdx.foldl (fun sum (n, i) => sum + n * Nat.pow 256 (3 - i)) last
  pure (String.intercalate "." ([3, 2, 1, 0].map fun i => toString (value / Nat.pow 256 i % 256)))

/-- The place and length of the first longest run of zeros, where `place` is the place of the first
group and `run` the number of zeros just before it. -/
def longestZeros : Nat → Nat → Nat × Nat → List Nat → Nat × Nat
  | _, _, best, [] => best
  | place, run, best, group :: rest =>
    let run := if group = 0 then run + 1 else 0
    let best := if best.2 < run then (place + 1 - run, run) else best
    longestZeros (place + 1) run best rest

/-- Groups joined by colons. -/
def joinedGroups (groups : List Nat) : String :=
  String.intercalate ":" (groups.map fun group => String.ofList (Nat.toDigits 16 group))

/-- The usual spelling of an IPv6 host, where two colons stand for the longest run of zeros. -/
def sixText (groups : List Nat) : String :=
  let (place, run) := longestZeros 0 0 (0, 0) groups
  if run < 2 then joinedGroups groups
  else joinedGroups (groups.take place) ++ "::" ++ joinedGroups (groups.drop (place + run))

/-- Whether a character cannot stand in the name of a host. -/
def isForbiddenInHost (c : Char) : Bool :=
  c.toNat ≤ 0x20 || 0x7f ≤ c.toNat || "#/:<>?@[\\]^|%".toList.contains c

/-- The host that is meant by a text. -/
def host? (input : List Char) : Option String :=
  match input with
  | '[' :: rest =>
    match SocketAddress.six? rest with
    | some (groups, [']']) => some ("[" ++ sixText groups ++ "]")
    | _ => none
  | _ => do
    let name ← Utf8.decode? (decodedBytes (Utf8.encode (String.ofList input)))
    let name := name.toList.map Char.toLower
    if name.isEmpty ∨ name.any isForbiddenInHost then none else
    let parts := splitAt (· = '.') name
    if isNumeric parts then fourParts? parts else some (String.ofList name)

/-- The number behind a colon, unless it is `standard`; it may be left out. -/
def number? (standard : Nat) (digits : List Char) : Option (Option Nat) :=
  if digits.isEmpty then some none
  else if ¬ digits.all Char.isDigit then none
  else
    let n := digits.foldl (fun n c => 10 * n + (c.toNat - 48)) 0
    if 65535 < n then none else some (if n = standard then none else some n)

/-- A host and a number, cut at the last colon that is not between brackets. -/
def hostAndNumber (input : List Char) : List Char × List Char :=
  let behind := (input.reverse.takeWhile fun c => c ≠ ':' ∧ c ≠ ']').reverse
  if behind.length < input.length ∧ input[input.length - behind.length - 1]? = some ':' then
    (input.take (input.length - behind.length - 1), behind)
  else (input, [])

/-- Whether a path segment means the place where it stands. -/
def isHere (segment : String) : Bool := segment = "." || segment.map Char.toLower = "%2e"

/-- Whether a path segment means the place above. -/
def isAbove (segment : String) : Bool :=
  [".." , ".%2e", "%2e.", "%2e%2e"].contains (segment.map Char.toLower)

/-- The segments without dot segments, where `done` are those before, the last one first. -/
def withoutDots : List String → List String → List String
  | done, [] => done.reverse
  | done, segment :: rest =>
    if isAbove segment then
      let done := done.drop 1
      if rest.isEmpty then ("" :: done).reverse else withoutDots done rest
    else if isHere segment then
      if rest.isEmpty then ("" :: done).reverse else withoutDots done rest
    else withoutDots (segment :: done) rest

/-- The path that is meant by a text. -/
def pathOf (input : List Char) : String :=
  let segments := (splitAt (fun c => c = '/' || c = '\\') input).map (encoded isSpelledInPath)
  let segments := if input.isEmpty then [""] else segments.drop 1
  "/" ++ String.intercalate "/" (withoutDots [] segments)

/-- The address that a location means. -/
def parse? (location : String) : Option WebAddress := do
  let isEdge (c : Char) : Bool := c.toNat ≤ 0x20
  let input := ((location.toList.dropWhile isEdge).reverse.dropWhile isEdge).reverse
  let input := input.filter fun c => c ≠ '\t' ∧ c ≠ '\n' ∧ c ≠ '\r'
  let scheme := String.ofList (input.takeWhile (· ≠ ':'))
  let rest := input.drop (scheme.length + 1)
  let rest := rest.dropWhile fun c => c = '/' || c = '\\'
  let ends (c : Char) : Bool := c = '/' || c = '\\' || c = '?' || c = '#'
  let authority := rest.takeWhile fun c => !ends c
  let rest := rest.drop authority.length
  let server := (authority.reverse.takeWhile (· ≠ '@')).reverse
  let (host, digits) := hostAndNumber server
  let host ← host? host
  let number ← number? (if scheme = "https" then 443 else 80) digits
  let path := rest.takeWhile fun c => c ≠ '?' ∧ c ≠ '#'
  let rest := rest.drop path.length
  let query := (rest.takeWhile (· ≠ '#'))
  let fragment := rest.drop query.length
  pure {
    scheme, host, number
    path := pathOf path
    query := if query.isEmpty then none else some (encoded isSpelledInQuery (query.drop 1))
    fragment := if fragment.isEmpty then none
      else some (encoded isSpelledInFragment (fragment.drop 1)) }

/-- The text of an address. -/
def text (address : WebAddress) : String :=
  address.scheme ++ "://" ++ address.host
    ++ (match address.number with | some n => ":" ++ toString n | none => "")
    ++ address.path
    ++ (match address.query with | some query => "?" ++ query | none => "")
    ++ (match address.fragment with | some fragment => "#" ++ fragment | none => "")

/-- Whether a text starts with a scheme and a colon. -/
def hasScheme (text : List Char) : Bool :=
  let scheme := text.takeWhile fun c => c.isAlphanum || c == '+' || c == '-' || c == '.'
  (scheme.head?.any Char.isAlpha) && (text.drop scheme.length).head? == some ':'

/-- The address that a reference in a resource at `address` means. -/
def resolve? (address : WebAddress) (reference : String) : Option WebAddress :=
  let input := reference.toList
  let server := address.scheme ++ "://" ++ address.host
    ++ (match address.number with | some n => ":" ++ toString n | none => "")
  let query := match address.query with | some query => "?" ++ query | none => ""
  let folder := String.ofList (address.path.toList.reverse.dropWhile (· ≠ '/')).reverse
  if hasScheme input then
    let scheme := (String.ofList (input.takeWhile (· ≠ ':'))).map Char.toLower
    if scheme = "http" ∨ scheme = "https" then
      (parse? reference).map fun address => { address with scheme }
    else none
  else
    match input with
    | '/' :: '/' :: _ => parse? (address.scheme ++ ":" ++ reference)
    | '/' :: _ => parse? (server ++ reference)
    | '?' :: _ => parse? (server ++ address.path ++ reference)
    | '#' :: _ => parse? (server ++ address.path ++ query ++ reference)
    | [] => parse? (server ++ address.path ++ query)
    | _ => parse? (server ++ folder ++ reference)

end WebAddress

end Intercept
