/-
# Socket addresses

The written form of an address to listen on or to connect to: an IPv4 address, or an IPv6 address
between brackets, and a number behind a colon.
-/

namespace Intercept

/-- The host of a socket address. -/
inductive SocketAddress.Host where
  /-- Four numbers below 256. -/
  | four (parts : List Nat)
  /-- Eight groups of sixteen bits, and the number of a zone. -/
  | six (groups : List Nat) (zone : Nat)
deriving DecidableEq, Repr, Inhabited

/-- An address of a socket. -/
structure SocketAddress where
  host : SocketAddress.Host
  number : Nat
deriving DecidableEq, Repr, Inhabited

namespace SocketAddress

/-- The value of a digit in bases up to sixteen. -/
def digit? (base : Nat) (c : Char) : Option Nat :=
  let n := c.toNat
  let value :=
    if 48 ≤ n ∧ n ≤ 57 then some (n - 48)
    else if 97 ≤ n ∧ n ≤ 102 then some (n - 87)
    else if 65 ≤ n ∧ n ≤ 70 then some (n - 55)
    else none
  value.filter (· < base)

/-- The number that the digits in front write, if it is at most `limit`, and what is behind it. -/
def number? (base limit : Nat) (input : List Char) : Option (Nat × List Char) :=
  let digits := input.takeWhile fun c => (digit? base c).isSome
  let value := digits.foldl (fun n c => base * n + (digit? base c).getD 0) 0
  if digits.isEmpty ∨ limit < value then none else some (value, input.drop digits.length)

/-- A part of an IPv4 address: at most three digits without a leading zero. -/
def part? (input : List Char) : Option (Nat × List Char) :=
  let digits := input.takeWhile Char.isDigit
  if 3 < digits.length ∨ (digits.head? = some '0' ∧ digits.length ≠ 1) then none
  else number? 10 255 input

/-- `n` further parts of an IPv4 address, each behind a dot. -/
def moreParts? : Nat → List Char → Option (List Nat × List Char)
  | 0, input => some ([], input)
  | n + 1, '.' :: input => do
    let (part, rest) ← part? input
    let (parts, rest) ← moreParts? n rest
    pure (part :: parts, rest)
  | _ + 1, _ => none

/-- An IPv4 address. -/
def four? (input : List Char) : Option (List Nat × List Char) := do
  let (part, rest) ← part? input
  let (parts, rest) ← moreParts? 3 rest
  pure (part :: parts, rest)

/-- What is left behind the colon that separates a group from the one before it. -/
def separated? (first : Bool) : List Char → Option (List Char)
  | ':' :: rest => if first then some (':' :: rest) else some rest
  | input => if first then some input else none

/-- A group of an IPv6 address: one to four hexadecimal digits. -/
def group? (input : List Char) : Option (Nat × List Char) :=
  let digits := input.takeWhile fun c => (digit? 16 c).isSome
  if 4 < digits.length then none else number? 16 0xffff input

/-- Up to `room` groups, where an IPv4 address may stand for the last two of them.  The flag
says whether one did. -/
def groups (first : Bool) : Nat → List Char → List Nat × Bool × List Char
  | 0, input => ([], false, input)
  | room + 1, input =>
    let embedded := if room = 0 then none else (separated? first input).bind four?
    match embedded with
    | some ([a, b, c, d], rest) => ([256 * a + b, 256 * c + d], true, rest)
    | _ =>
      match (separated? first input).bind group? with
      | some (group, rest) =>
        let (more, embedded, rest) := groups false room rest
        (group :: more, embedded, rest)
      | none => ([], false, input)

/-- An IPv6 address.  Two colons stand for at least one group of zeros. -/
def six? (input : List Char) : Option (List Nat × List Char) :=
  let (head, embedded, rest) := groups true 8 input
  if head.length = 8 then some (head, rest)
  else if embedded then none
  else
    match rest with
    | ':' :: ':' :: rest =>
      let (tail, _, rest) := groups true (7 - head.length) rest
      some (head ++ List.replicate (8 - head.length - tail.length) 0 ++ tail, rest)
    | _ => none

/-- The number of a zone, behind `%`; it may be missing. -/
def zone? : List Char → Option (Nat × List Char)
  | '%' :: rest => number? 10 0xffffffff rest
  | input => some (0, input)

/-- The number behind a colon, up to the end. -/
def ending? : List Char → Option Nat
  | ':' :: rest =>
    match number? 10 0xffff rest with
    | some (number, []) => some number
    | _ => none
  | _ => none

/-- The address that a text writes. -/
def parse? (text : String) : Option SocketAddress :=
  match text.toList with
  | '[' :: rest => do
    let (groups, rest) ← six? rest
    let (zone, rest) ← zone? rest
    match rest with
    | ']' :: rest => (ending? rest).map fun number => ⟨.six groups zone, number⟩
    | _ => none
  | input => do
    let (parts, rest) ← four? input
    let number ← ending? rest
    pure ⟨.four parts, number⟩

/-- Whether a text writes an address. -/
def isWritten (text : String) : Bool := (parse? text).isSome

end SocketAddress

end Intercept
