/-
# Targets of requests

The target of a request is a path with an optional query, possibly behind a scheme and an
authority, or an authority alone, or `*`.  Nothing is normalised, but a fragment is dropped.
`Uri.retarget` directs a target to another authority and leaves its path and query alone.
-/

namespace Intercept

/-- The target of a request. -/
structure Uri where
  scheme : Option String
  authority : Option String
  /-- The path; it is empty if the target is an authority alone. -/
  path : String
  /-- What is behind the question mark, if there is one. -/
  query : Option String
deriving DecidableEq, Repr, Inhabited

namespace Uri

/-- The number of bytes that a target has less than. -/
def maxLength : Nat := 65535

/-- Whether a character may stand in a path. -/
def isPathChar (c : Char) : Bool :=
  '!' ≤ c && c != '#' && c != '?' && c != '<' && c != '>' && c != '\\' && c != '^' && c.toNat != 0x60

/-- Whether a character may stand in a query. -/
def isQueryChar (c : Char) : Bool := '!' ≤ c && c != '#' && c != '<' && c != '>'

/-- Whether a character may stand in a scheme. -/
def isSchemeChar (c : Char) : Bool := c.isAlphanum || c == '+' || c == '-' || c == '.' || c == '~'

/-- Whether a character that has no meaning of its own may stand in an authority. -/
def isAuthorityChar (c : Char) : Bool := c.isAlphanum || "!$&'()*+,-.;=_~".toList.contains c

/-- A path and a query up to the end or the fragment. -/
def pathAndQuery? (input : List Char) : Option (String × Option String) :=
  let path := input.takeWhile isPathChar
  match input.dropWhile isPathChar with
  | [] => some (String.ofList path, none)
  | '#' :: _ => some (String.ofList path, none)
  | '?' :: rest =>
    let query := rest.takeWhile isQueryChar
    match rest.dropWhile isQueryChar with
    | [] | '#' :: _ => some (String.ofList path, some (String.ofList query))
    | _ => none
  | _ => none

/-- What has been seen of an authority. -/
structure Seen where
  colons : Nat := 0
  openBracket : Bool := false
  closeBracket : Bool := false
  percent : Bool := false
  /-- Whether the last character was `@`. -/
  atEnd : Bool := false
deriving Inhabited

/-- What has been seen after one more character; nothing if it cannot stand there. -/
def Seen.next? (seen : Seen) (c : Char) : Option Seen :=
  let seen := { seen with atEnd := false }
  if c = ':' then if 8 ≤ seen.colons then none else some { seen with colons := seen.colons + 1 }
  else if c = '[' then
    if seen.percent ∨ seen.openBracket then none else some { seen with openBracket := true }
  else if c = ']' then
    if ¬ seen.openBracket ∨ seen.closeBracket then none
    else some { seen with closeBracket := true, colons := 0, percent := false }
  else if c = '@' then some { seen with colons := 0, percent := false, atEnd := true }
  else if c = '%' then some { seen with percent := true }
  else if isAuthorityChar c then some seen
  else none

/-- Whether an authority may end here. -/
def Seen.isComplete (seen : Seen) : Bool :=
  seen.openBracket == seen.closeBracket && decide (seen.colons ≤ 1) && !seen.atEnd && !seen.percent

/-- Whether a character ends an authority. -/
def endsAuthority (c : Char) : Bool := c == '/' || c == '?' || c == '#'

/-- An authority, which may be empty, and what is behind it. -/
def authority? (input : List Char) : Option (List Char × List Char) :=
  let found := input.takeWhile fun c => !endsAuthority c
  match found.foldlM Seen.next? {} with
  | some seen => if seen.isComplete then some (found, input.drop found.length) else none
  | none => none

/-- A text that is an authority and nothing else. -/
def authorityAlone? (text : String) : Option String :=
  match authority? text.toList with
  | some (found, []) => if found.isEmpty then none else some text
  | _ => none

/-- The length of the longest scheme. -/
def maxScheme : Nat := 64

/-- A scheme and what is behind `://`.  The outer option is empty if the scheme is too long, the
inner one if there is none. -/
def scheme? (input : List Char) : Option (Option (String × List Char)) :=
  let found := input.takeWhile isSchemeChar
  match input.dropWhile isSchemeChar with
  | ':' :: '/' :: '/' :: rest =>
    let text := String.ofList found
    let lower := text.map Char.toLower
    if lower = "http" ∨ lower = "https" then some (some (lower, rest))
    else if input.length ≤ 3 then some none
    else if maxScheme < found.length then none
    else some (some (text, rest))
  | _ => some none

/-- The target that a text writes. -/
def parse? (text : String) : Option Uri :=
  let input := text.toList
  if maxLength ≤ text.utf8ByteSize ∨ input.isEmpty then none
  else if input = ['*'] then some ⟨none, none, "*", none⟩
  else if input.head? = some '/' then
    (pathAndQuery? input).map fun (path, query) => ⟨none, none, path, query⟩
  else do
    let scheme ← scheme? input
    match scheme with
    | none => (authorityAlone? text).map fun authority => ⟨none, some authority, "", none⟩
    | some (scheme, rest) =>
      let (authority, rest) ← authority? rest
      if authority.isEmpty then none else
      let (path, query) ← pathAndQuery? rest
      let path := if path.isEmpty then "/" else path
      pure ⟨some scheme, some (String.ofList authority), path, query⟩

/-- The target directed to `authority`, with the same path and query. -/
def retarget (authority : String) (uri : Uri) : Uri :=
  ⟨some "http", some authority, if uri.path.isEmpty then "/" else uri.path, uri.query⟩

/-- The text of a target. -/
def text (uri : Uri) : String :=
  (match uri.scheme with | some scheme => scheme ++ "://" | none => "")
    ++ uri.authority.getD "" ++ uri.path
    ++ (match uri.query with | some query => "?" ++ query | none => "")

end Uri

end Intercept
