/-
# Reading JSON

`Json.parse?` reads one value, between blanks, from the bytes of a document.  The grammar is
checked in full, but whether strings are well-formed text is left to whoever uses them.

The functions take the bytes that are left and give what they read together with the bytes
behind it.  The recursion over nested values runs on a number that is at least the number of
bytes left.
-/
import Intercept.Json.Value

namespace Intercept.Json

/-- Whether a byte separates tokens. -/
def isSpace (b : UInt8) : Bool := b == 32 || b == 10 || b == 13 || b == 9

/-- What is left behind blanks. -/
def skipSpace (input : Bytes) : Bytes := input.dropWhile isSpace

/-- Whether a byte is a decimal digit. -/
def isDigit (b : UInt8) : Bool := 48 ≤ b && b ≤ 57

/-- The bytes of the code unit `n`; a surrogate gets the three bytes of its own. -/
def unitBytes (n : Nat) : Bytes :=
  if n < 0x80 then [UInt8.ofNat n]
  else if n < 0x800 then [UInt8.ofNat (0xc0 + n / 64), UInt8.ofNat (0x80 + n % 64)]
  else if n < 0x10000 then
    [UInt8.ofNat (0xe0 + n / 4096), UInt8.ofNat (0x80 + n / 64 % 64), UInt8.ofNat (0x80 + n % 64)]
  else
    [UInt8.ofNat (0xf0 + n / 262144), UInt8.ofNat (0x80 + n / 4096 % 64),
      UInt8.ofNat (0x80 + n / 64 % 64), UInt8.ofNat (0x80 + n % 64)]

/-- The number that four hexadecimal digits write. -/
def hex4? (a b c d : UInt8) : Option Nat := do
  let a ← Bytes.hexValue? a
  let b ← Bytes.hexValue? b
  let c ← Bytes.hexValue? c
  let d ← Bytes.hexValue? d
  pure (((a * 16 + b) * 16 + c) * 16 + d)

/-- The byte that a letter behind a backslash stands for. -/
def shortEscape? (letter : UInt8) : Option UInt8 :=
  if letter = 34 ∨ letter = 92 ∨ letter = 47 then some letter
  else if letter = 98 then some 8
  else if letter = 102 then some 12
  else if letter = 110 then some 10
  else if letter = 114 then some 13
  else if letter = 116 then some 9
  else none

/-- A string behind its opening quote, with the bytes behind the closing one.  `done` holds the
content read so far, reversed, and `high` the leading surrogate of the escape just read. -/
def stringLoop : Nat → Bytes → Option Nat → Bytes → Option (Bytes × Bytes)
  | 0, _, _, _ => none
  | fuel + 1, done, high, input =>
    let pending := match high with
      | some h => (unitBytes h).reverse
      | none => []
    match input with
    | 92 :: 117 :: a :: b :: c :: d :: rest =>
      match hex4? a b c d with
      | none => none
      | some n =>
        match high with
        | some h =>
          if 0xdc00 ≤ n ∧ n < 0xe000 then
            let whole := 0x10000 + (h - 0xd800) * 1024 + (n - 0xdc00)
            stringLoop fuel ((unitBytes whole).reverse ++ done) none rest
          else if 0xd800 ≤ n ∧ n < 0xdc00 then
            stringLoop fuel (pending ++ done) (some n) rest
          else stringLoop fuel ((unitBytes n).reverse ++ (pending ++ done)) none rest
        | none =>
          if 0xd800 ≤ n ∧ n < 0xdc00 then stringLoop fuel done (some n) rest
          else stringLoop fuel ((unitBytes n).reverse ++ done) none rest
    | 92 :: letter :: rest =>
      match shortEscape? letter with
      | some b => stringLoop fuel (b :: (pending ++ done)) none rest
      | none => none
    | 34 :: rest => some ((pending ++ done).reverse, rest)
    | b :: rest => if b < 32 ∨ b = 92 then none else stringLoop fuel (b :: (pending ++ done)) none rest
    | [] => none

/-- A string behind its opening quote. -/
def stringRest? (input : Bytes) : Option (Bytes × Bytes) :=
  stringLoop (input.length + 1) [] none input

/-- A run of at least one digit. -/
def digits? (input : Bytes) : Option (Bytes × Bytes) :=
  match input.takeWhile isDigit with
  | [] => none
  | run => some (run, input.dropWhile isDigit)

/-- The whole part of a number: a zero, or digits without a leading zero. -/
def wholePart? : Bytes → Option (Bytes × Bytes)
  | 48 :: rest => some ([48], rest)
  | input => digits? input

/-- The fraction of a number, which may be missing. -/
def fraction? : Bytes → Option (Bytes × Bytes)
  | 46 :: rest => (digits? rest).map fun (run, rest) => (46 :: run, rest)
  | input => some ([], input)

/-- The exponent of a number, which may be missing. -/
def exponent? : Bytes → Option (Bytes × Bytes)
  | e :: rest =>
    if e = 101 ∨ e = 69 then
      match rest with
      | sign :: more =>
        if sign = 43 ∨ sign = 45 then
          (digits? more).map fun (run, rest) => (e :: sign :: run, rest)
        else (digits? rest).map fun (run, rest) => (e :: run, rest)
      | [] => none
    else some ([], e :: rest)
  | [] => some ([], [])

/-- A number. -/
def number? (input : Bytes) : Option (Bytes × Bytes) := do
  let (sign, rest) : Bytes × Bytes := match input with
    | 45 :: rest => ([45], rest)
    | _ => ([], input)
  let (whole, rest) ← wholePart? rest
  let (fraction, rest) ← fraction? rest
  let (exponent, rest) ← exponent? rest
  pure (sign ++ whole ++ fraction ++ exponent, rest)

mutual

/-- One value, blanks before it allowed. -/
def value? : Nat → Bytes → Option (Json × Bytes)
  | 0, _ => none
  | fuel + 1, input =>
    match skipSpace input with
    | 123 :: rest =>
      match skipSpace rest with
      | 125 :: rest => some (.object [], rest)
      | rest => (members? fuel rest).map fun (found, rest) => (.object found, rest)
    | 91 :: rest =>
      match skipSpace rest with
      | 93 :: rest => some (.array [], rest)
      | rest => (items? fuel rest).map fun (found, rest) => (.array found, rest)
    | 34 :: rest => (stringRest? rest).map fun (content, rest) => (.string content, rest)
    | 116 :: 114 :: 117 :: 101 :: rest => some (.bool true, rest)
    | 102 :: 97 :: 108 :: 115 :: 101 :: rest => some (.bool false, rest)
    | 110 :: 117 :: 108 :: 108 :: rest => some (.null, rest)
    | rest => (number? rest).map fun (literal, rest) => (.number literal, rest)

/-- The items of an array, up to and with the closing bracket. -/
def items? : Nat → Bytes → Option (List Json × Bytes)
  | 0, _ => none
  | fuel + 1, input =>
    match value? fuel input with
    | none => none
    | some (first, rest) =>
      match skipSpace rest with
      | 44 :: rest => (items? fuel rest).map fun (found, rest) => (first :: found, rest)
      | 93 :: rest => some ([first], rest)
      | _ => none

/-- The members of an object, up to and with the closing brace. -/
def members? : Nat → Bytes → Option (List (Bytes × Json) × Bytes)
  | 0, _ => none
  | fuel + 1, input =>
    match skipSpace input with
    | 34 :: rest =>
      match stringRest? rest with
      | none => none
      | some (key, rest) =>
        match skipSpace rest with
        | 58 :: rest =>
          match value? fuel rest with
          | none => none
          | some (first, rest) =>
            match skipSpace rest with
            | 44 :: rest =>
              (members? fuel rest).map fun (found, rest) => ((key, first) :: found, rest)
            | 125 :: rest => some ([(key, first)], rest)
            | _ => none
        | _ => none
    | _ => none

end

/-- The value that a document holds; only blanks may surround it. -/
def parse? (document : Bytes) : Option Json :=
  match value? (document.length + 1) document with
  | some (value, rest) => if (skipSpace rest).isEmpty then some value else none
  | none => none

end Intercept.Json
