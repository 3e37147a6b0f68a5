/-
# Strings and keys of TOML

Strings stand between double quotes, with escapes, or between single quotes, without; each kind
also in triple quotes, over several lines.  A key is a bare word or a string on one line, and
dots join keys.

Every reader takes the characters that are left and gives what it read with the characters
behind it.
-/

namespace Intercept.Toml

/-- Whether a character is a blank within a line. -/
def isBlank (c : Char) : Bool := c == ' ' || c == '\t'

/-- What is left behind blanks. -/
def skipBlanks (input : List Char) : List Char := input.dropWhile isBlank

/-- What is left behind the end of a line. -/
def lineEnd? : List Char → Option (List Char)
  | '\n' :: rest => some rest
  | '\r' :: '\n' :: rest => some rest
  | _ => none

/-- Whether a character may stand in a comment, and in a string without escapes. -/
def isPlain (c : Char) : Bool := c == '\t' || (0x20 ≤ c.toNat && c.toNat ≠ 0x7f)

/-- The value of a hexadecimal digit. -/
def hexValue? (c : Char) : Option Nat :=
  if '0' ≤ c ∧ c ≤ '9' then some (c.toNat - 48)
  else if 'a' ≤ c ∧ c ≤ 'f' then some (c.toNat - 87)
  else if 'A' ≤ c ∧ c ≤ 'F' then some (c.toNat - 55)
  else none

/-- The character with a code point, if it is one. -/
def scalar? (n : Nat) : Option Char :=
  if n < 0xd800 ∨ (0xe000 ≤ n ∧ n < 0x110000) then some (Char.ofNat n) else none

/-- The character whose code point is written in `n` hexadecimal digits. -/
def codePoint? (n : Nat) (input : List Char) : Option (Char × List Char) := do
  let digits := input.take n
  if digits.length < n then none else
  let values ← digits.mapM hexValue?
  let c ← scalar? (values.foldl (fun m d => 16 * m + d) 0)
  pure (c, input.drop n)

/-- An escape, behind its backslash. -/
def escape? : List Char → Option (Char × List Char)
  | 'b' :: rest => some ('\x08', rest)
  | 't' :: rest => some ('\t', rest)
  | 'n' :: rest => some ('\n', rest)
  | 'f' :: rest => some ('\x0c', rest)
  | 'r' :: rest => some ('\r', rest)
  | '"' :: rest => some ('"', rest)
  | '\\' :: rest => some ('\\', rest)
  | 'u' :: rest => codePoint? 4 rest
  | 'U' :: rest => codePoint? 8 rest
  | _ => none

/-- A string on one line, behind its opening quote `quote`; `done` is what was read, the last
character first.  Only between double quotes a backslash starts an escape. -/
def lineLoop (quote : Char) : Nat → List Char → List Char → Option (String × List Char)
  | 0, _, _ => none
  | fuel + 1, done, input =>
    match input with
    | [] => none
    | c :: rest =>
      if c = quote then some (String.ofList done.reverse, rest)
      else if c = '\\' ∧ quote = '"' then
        match escape? rest with
        | some (c, rest) => lineLoop quote fuel (c :: done) rest
        | none => none
      else if isPlain c then lineLoop quote fuel (c :: done) rest
      else none

/-- A string on one line, behind its opening quote. -/
def lineString? (quote : Char) (input : List Char) : Option (String × List Char) :=
  lineLoop quote (input.length + 1) [] input

/-- What is left behind blanks and line ends; `fuel` is at least the number of characters. -/
def skipLines : Nat → List Char → List Char
  | 0, input => input
  | fuel + 1, input =>
    match lineEnd? input with
    | some rest => skipLines fuel rest
    | none =>
      match input with
      | c :: rest => if isBlank c then skipLines fuel rest else input
      | [] => []

/-- A string over several lines, behind its opening quotes.  Up to two of the quotes before the
closing ones belong to it.  Between double quotes a backslash at the end of a line skips the
blanks and line ends up to the next character. -/
def linesLoop (quote : Char) : Nat → List Char → List Char → Option (String × List Char)
  | 0, _, _ => none
  | fuel + 1, done, input =>
    match lineEnd? input with
    | some rest => linesLoop quote fuel ('\n' :: done) rest
    | none =>
      match input with
      | [] => none
      | c :: rest =>
        if c = quote then
          let n := (input.takeWhile (· = quote)).length
          let inside := if n < 3 then n else min (n - 3) 2
          let done := List.replicate inside quote ++ done
          if n < 3 then linesLoop quote fuel done (input.drop n)
          else some (String.ofList done.reverse, input.drop (inside + 3))
        else if c = '\\' ∧ quote = '"' then
          match lineEnd? (skipBlanks rest) with
          | some rest => linesLoop quote fuel done (skipLines rest.length rest)
          | none =>
            match escape? rest with
            | some (c, rest) => linesLoop quote fuel (c :: done) rest
            | none => none
        else if isPlain c then linesLoop quote fuel (c :: done) rest
        else none

/-- A string over several lines, behind its opening quotes and the line end that may follow
them. -/
def linesString? (quote : Char) (input : List Char) : Option (String × List Char) :=
  linesLoop quote (input.length + 1) [] ((lineEnd? input).getD input)

/-- A string of any kind. -/
def string? : List Char → Option (String × List Char)
  | '"' :: '"' :: '"' :: rest => linesString? '"' rest
  | '\'' :: '\'' :: '\'' :: rest => linesString? '\'' rest
  | '"' :: rest => lineString? '"' rest
  | '\'' :: rest => lineString? '\'' rest
  | _ => none

/-- Whether a character may stand in a bare key. -/
def isBare (c : Char) : Bool := c.isAlphanum || c == '-' || c == '_'

/-- One part of a key. -/
def keyPart? : List Char → Option (String × List Char)
  | '"' :: rest => lineString? '"' rest
  | '\'' :: rest => lineString? '\'' rest
  | input =>
    match input.takeWhile isBare with
    | [] => none
    | bare => some (String.ofList bare, input.dropWhile isBare)

/-- The longest key that is read, in parts. -/
def maxKeyParts : Nat := 79

/-- A key of at most as many parts as `fuel`, with the blanks around its parts. -/
def keyLoop : Nat → List Char → Option (List String × List Char)
  | 0, _ => none
  | fuel + 1, input =>
    match keyPart? (skipBlanks input) with
    | none => none
    | some (part, rest) =>
      match skipBlanks rest with
      | '.' :: rest => (keyLoop fuel rest).map fun (parts, rest) => (part :: parts, rest)
      | rest => some ([part], rest)

/-- A key, with the blanks around its parts. -/
def key? (input : List Char) : Option (List String × List Char) := keyLoop maxKeyParts input

end Intercept.Toml
