/-
# Reading TOML

`Toml.parse?` reads a document line by line: a header turns to a table, and a member is added to
the table last turned to.  The recursion over nested values runs on the depth that is still
allowed.
-/
import Intercept.Toml.Number
import Intercept.Toml.Value

namespace Intercept.Toml

/-- What is left behind a comment, which may be missing. -/
def skipComment : List Char → List Char
  | '#' :: rest => rest.dropWhile isPlain
  | input => input

/-- What is left behind blanks, comments and line ends; `fuel` is at least the number of
characters. -/
def skipFiller : Nat → List Char → List Char
  | 0, input => input
  | fuel + 1, input =>
    let rest := skipBlanks input
    match lineEnd? (skipComment rest) with
    | some rest => skipFiller fuel rest
    | none => rest

/-- What is left behind everything between two items of an array. -/
def skipBetween (input : List Char) : List Char := skipFiller (input.length + 1) input

/-- How deep values may be nested. -/
def maxDepth : Nat := 80

/-- A value without parts. -/
def scalarValue? (input : List Char) : Option (Toml × List Char) :=
  match input with
  | 't' :: 'r' :: 'u' :: 'e' :: rest => some (.boolean true, rest)
  | 'f' :: 'a' :: 'l' :: 's' :: 'e' :: rest => some (.boolean false, rest)
  | '"' :: _ | '\'' :: _ => (string? input).map fun (content, rest) => (.text content, rest)
  | _ =>
    match moment? input with
    | some found => some found
    | none =>
      match float? input with
      | some found => some found
      | none => integer? input

/-- The items of an array, behind its opening bracket; `item?` reads one of them. -/
def items? (item? : List Char → Option (Toml × List Char)) :
    Nat → List Char → Option (List Toml × List Char)
  | 0, _ => none
  | fuel + 1, input =>
    match skipBetween input with
    | ']' :: rest => some ([], rest)
    | input =>
      match item? input with
      | none => none
      | some (item, rest) =>
        match skipBetween rest with
        | ']' :: rest => some ([item], rest)
        | ',' :: rest => (items? item? fuel rest).map fun (items, rest) => (item :: items, rest)
        | _ => none

/-- One member: a key, a value behind `=`, and the blanks behind it. -/
def member? (value? : List Char → Option (Toml × List Char)) (input : List Char) :
    Option ((List String × Toml) × List Char) :=
  match key? input with
  | some (key, '=' :: rest) =>
    (value? (skipBlanks rest)).map fun (value, rest) => ((key, value), skipBlanks rest)
  | _ => none

/-- The members of an inline table, behind its opening brace, where `done` are those before. -/
def members? (value? : List Char → Option (Toml × List Char)) :
    Nat → Members → List Char → Option (Members × List Char)
  | 0, _, _ => none
  | fuel + 1, done, input =>
    match member? value? input with
    | none => none
    | some ((key, value), rest) =>
      match insertAt key.dropLast (key.getLastD "") value .inline done with
      | none => none
      | some done =>
        match rest with
        | '\x7d' :: rest => some (done, rest)
        | ',' :: rest => members? value? fuel done rest
        | _ => none

/-- A value nested at most as deep as the number says. -/
def value? : Nat → List Char → Option (Toml × List Char)
  | 0, _ => none
  | depth + 1, input =>
    match input with
    | '[' :: rest =>
      if depth = 0 then none
      else (items? (value? depth) (rest.length + 1) rest).map fun (items, rest) =>
        (.array items, rest)
    | '\x7b' :: rest =>
      if depth = 0 then none else
      match skipBlanks rest with
      | '\x7d' :: rest => some (.table .inline [], rest)
      | rest => (members? (value? depth) (rest.length + 1) [] rest).map fun (members, rest) =>
          (.table .inline members, rest)
    | _ => scalarValue? input

/-- A document as far as it has been read: its members, and the path of the header last read. -/
structure Draft where
  members : Members
  current : List String
deriving Inhabited

/-- One line of a document, blanks before it skipped, and what is behind it. -/
def line? (draft : Draft) (input : List Char) : Option (Draft × List Char) :=
  match input with
  | [] | '\n' :: _ | '\r' :: _ | '#' :: _ => some (draft, input)
  | '[' :: '[' :: rest =>
    match key? rest with
    | some (key, ']' :: ']' :: rest) =>
      (changeAt .implied (fun _ => openNext (key.getLastD "")) key.dropLast .header
        draft.members).map fun members => (⟨members, key⟩, rest)
    | _ => none
  | '[' :: rest =>
    match key? rest with
    | some (key, ']' :: rest) =>
      (changeAt .implied (fun _ => openTable (key.getLastD "")) key.dropLast .header
        draft.members).map fun members => (⟨members, key⟩, rest)
    | _ => none
  | _ =>
    match member? (value? maxDepth) input with
    | some ((key, value), rest) =>
      (changeAt .implied (insertAt key.dropLast (key.getLastD "") value) draft.current .header
        draft.members).map fun members => (⟨members, draft.current⟩, rest)
    | none => none

/-- The lines of a document; there are fewer than `fuel`. -/
def linesFrom? : Nat → Draft → List Char → Option Members
  | 0, _, _ => none
  | fuel + 1, draft, input =>
    match line? draft (skipBlanks input) with
    | none => none
    | some (draft, rest) =>
      match skipComment (skipBlanks rest) with
      | [] => some draft.members
      | rest =>
        match lineEnd? rest with
        | some rest => linesFrom? fuel draft rest
        | none => none

/-- The members of the document that a text is.  A byte order mark may stand before it. -/
def parse? (text : String) : Option Members :=
  let input := match text.toList with
    | '\ufeff' :: rest => rest
    | input => input
  linesFrom? (input.length + 1) ⟨[], []⟩ input

end Intercept.Toml
