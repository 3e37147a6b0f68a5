/-
# Numbers and moments of TOML

Integers are read exactly and must fit into sixty-four bits.  Of floats and of dates and times
only the form matters, since no setting has them as a value.
-/
import Intercept.Toml.Text
import Intercept.Toml.Value

namespace Intercept.Toml

/-- Whether a character is a decimal digit. -/
def isDigit (c : Char) : Bool := '0' ≤ c && c ≤ '9'

/-- Digits that satisfy `p`, where a single `_` may stand between two of them; the first has been
read. -/
def moreDigits (p : Char → Bool) : List Char → List Char × List Char
  | '_' :: c :: rest =>
    if p c then
      let (digits, rest) := moreDigits p rest
      (c :: digits, rest)
    else ([], '_' :: c :: rest)
  | c :: rest =>
    if p c then
      let (digits, rest) := moreDigits p rest
      (c :: digits, rest)
    else ([], c :: rest)
  | [] => ([], [])

/-- At least one digit. -/
def digits? (p : Char → Bool) : List Char → Option (List Char × List Char)
  | c :: rest =>
    if p c then
      let (digits, rest) := moreDigits p rest
      some (c :: digits, rest)
    else none
  | [] => none

/-- Decimal digits without a leading zero. -/
def wholePart? : List Char → Option (List Char × List Char)
  | '0' :: rest => some (['0'], rest)
  | input => digits? isDigit input

/-- A sign, which may be missing; true stands for minus. -/
def sign : List Char → Bool × List Char
  | '-' :: rest => (true, rest)
  | '+' :: rest => (false, rest)
  | input => (false, input)

/-- The number that digits write in a base. -/
def numeral (base : Nat) (digits : List Char) : Nat :=
  digits.foldl (fun n c => base * n + (hexValue? c).getD 0) 0

/-- An integer that fits into sixty-four bits. -/
def fitting? (negative : Bool) (n : Nat) : Option Toml :=
  if negative then if n ≤ Nat.pow 2 63 then some (.integer (-(n : Int))) else none
  else if n < Nat.pow 2 63 then some (.integer n) else none

/-- Whether a character is a digit of a base up to sixteen. -/
def isDigitOf (base : Nat) (c : Char) : Bool := (hexValue? c).any (· < base)

/-- An integer. -/
def integer? (input : List Char) : Option (Toml × List Char) :=
  let based (base : Nat) (rest : List Char) : Option (Toml × List Char) := do
    let (digits, rest) ← digits? (isDigitOf base) rest
    let value ← fitting? false (numeral base digits)
    pure (value, rest)
  match input with
  | '0' :: 'x' :: rest => based 16 rest
  | '0' :: 'o' :: rest => based 8 rest
  | '0' :: 'b' :: rest => based 2 rest
  | _ => do
    let (negative, rest) := sign input
    let (digits, rest) ← wholePart? rest
    let value ← fitting? negative (numeral 10 digits)
    pure (value, rest)

/-- The exponent of a float, behind its letter. -/
def exponent? (input : List Char) : Option (Int × List Char) :=
  let (negative, rest) := sign input
  (digits? isDigit rest).map fun (digits, rest) =>
    let n : Int := numeral 10 digits
    (if negative then -n else n, rest)

/-- Whether the positive decimal `digits · 10 ^ exponent` rounds to a finite binary fraction. -/
def isFinite (digits : Nat) (exponent : Int) : Bool :=
  let limit := Nat.pow 2 1024 - Nat.pow 2 970
  if digits = 0 then true
  else if exponent < 0 then
    decide (digits < limit * Nat.pow 10 (min (-exponent).toNat (Nat.log2 digits + 1)))
  else decide (exponent ≤ 400) && decide (digits * Nat.pow 10 exponent.toNat < limit)

/-- A fraction behind its point; it may be missing. -/
def fraction? : List Char → Option (List Char × List Char)
  | '.' :: rest => digits? isDigit rest
  | input => some ([], input)

/-- An exponent with its letter; it may be missing. -/
def scale? : List Char → Option (Option Int × List Char)
  | c :: rest =>
    if c = 'e' ∨ c = 'E' then (exponent? rest).map fun (n, rest) => (some n, rest)
    else some (none, c :: rest)
  | [] => some (none, [])

/-- A float with digits: it has a fraction, an exponent, or both. -/
def decimalFloat? (input : List Char) : Option (Toml × List Char) := do
  let (negative, rest) := sign input
  let (whole, rest) ← wholePart? rest
  let (fraction, rest) ← fraction? rest
  let (scale, rest) ← scale? rest
  let exponent := scale.getD 0 - fraction.length
  if fraction = [] ∧ scale = none then none
  else if ¬ negative ∧ ¬ isFinite (numeral 10 (whole ++ fraction)) exponent then none
  else some (.float, rest)

/-- A float. -/
def float? (input : List Char) : Option (Toml × List Char) :=
  match decimalFloat? input with
  | some found => some found
  | none =>
    match (sign input).2 with
    | 'i' :: 'n' :: 'f' :: rest => some (.float, rest)
    | 'n' :: 'a' :: 'n' :: rest => some (.float, rest)
    | _ => none

/-- A number of exactly `n` decimal digits. -/
def fixed? (n : Nat) (input : List Char) : Option (Nat × List Char) :=
  let digits := input.take n
  if digits.length = n ∧ digits.all isDigit then some (numeral 10 digits, input.drop n) else none

/-- How many days a month has. -/
def daysIn (year month : Nat) : Nat :=
  if month = 2 then
    if year % 4 = 0 ∧ (year % 100 ≠ 0 ∨ year % 400 = 0) then 29 else 28
  else if month = 4 ∨ month = 6 ∨ month = 9 ∨ month = 11 then 30
  else 31

/-- What is left behind a day of the calendar. -/
def date? (input : List Char) : Option (List Char) := do
  let (year, rest) ← fixed? 4 input
  let '-' :: rest := rest | none
  let (month, rest) ← fixed? 2 rest
  let '-' :: rest := rest | none
  let (day, rest) ← fixed? 2 rest
  if 1 ≤ month ∧ month ≤ 12 ∧ 1 ≤ day ∧ day ≤ daysIn year month then some rest else none

/-- What is left behind an hour and a minute. -/
def hourMinute? (input : List Char) : Option (List Char) := do
  let (hour, rest) ← fixed? 2 input
  let ':' :: rest := rest | none
  let (minute, rest) ← fixed? 2 rest
  if hour < 24 ∧ minute < 60 then some rest else none

/-- What is left behind a time of the day, where a minute may have a sixty-first second. -/
def time? (input : List Char) : Option (List Char) := do
  let rest ← hourMinute? input
  let ':' :: rest := rest | none
  let (second, rest) ← fixed? 2 rest
  if 60 < second then none else
  match rest with
  | '.' :: c :: more => if isDigit c then some (more.dropWhile isDigit) else some rest
  | _ => some rest

/-- What is left behind a distance from universal time, which may be missing. -/
def offset? : List Char → Option (List Char)
  | 'Z' :: rest | 'z' :: rest => some rest
  | '+' :: rest | '-' :: rest => hourMinute? rest
  | rest => some rest

/-- A date, a time, or both. -/
def moment? (input : List Char) : Option (Toml × List Char) :=
  match date? input with
  | none => (time? input).map fun rest => (.moment, rest)
  | some rest =>
    let whole := match rest with
      | c :: more => if c = 'T' ∨ c = 't' ∨ c = ' ' then (time? more).bind offset? else none
      | [] => none
    some (.moment, whole.getD rest)

end Intercept.Toml
