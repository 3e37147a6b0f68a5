/-
# Shortest decimals

A binary fraction with a mantissa of 53 bits is shown by the fewest decimal digits that read
back as the same fraction; of two candidates the nearer one is taken, and the larger one if both
are equally near.  The text is positional, without an exponent.

All arithmetic is exact, on quotients of natural numbers.
-/

namespace Intercept.Decimal

/-- The fraction `mantissa * 2 ^ up / 2 ^ down`, of which at most one exponent is not zero. -/
structure Binary where
  mantissa : Nat
  up : Nat
  down : Nat
deriving DecidableEq, Repr

namespace Binary

/-- The numerator of a fraction. -/
def num (x : Binary) : Nat := x.mantissa * Nat.pow 2 x.up

/-- The denominator of a fraction. -/
def den (x : Binary) : Nat := Nat.pow 2 x.down

/-- `num / den` rounded to the nearest integer, a half to the even neighbour. -/
def roundDiv (num den : Nat) : Nat :=
  let q := num / den
  let r := 2 * (num % den)
  if den < r ∨ (r = den ∧ q % 2 = 1) then q + 1 else q

/-- The nearest fraction with a mantissa of 53 bits, for a quotient of normal size. -/
def ofRatio (num den : Nat) : Binary :=
  if num = 0 then ⟨0, 0, 0⟩
  else
    -- the quotient lies in [2 ^ (e - 1), 2 ^ (e + 1)) for e the difference of the widths
    let (wide, narrow) := (num.log2 + 1, den.log2 + 1)
    let shift (up down : Nat) : Binary :=
      ⟨roundDiv (num * Nat.pow 2 down) (den * Nat.pow 2 up), up, down⟩
    -- scale the quotient to at least 2 ^ 52 and below 2 ^ 54, then once more if it is too wide
    let up := wide - narrow - 53
    let down := 53 + narrow - wide
    if num * Nat.pow 2 down / (den * Nat.pow 2 up) < Nat.pow 2 53 then shift up down
    else if down = 0 then shift (up + 1) 0
    else shift up (down - 1)

/-- The sum of two fractions, rounded. -/
def add (x y : Binary) : Binary := ofRatio (x.num * y.den + y.num * x.den) (x.den * y.den)

/-- Whether `digits * 10 ^ e` (or `digits / 10 ^ e'`) lies among the quotients that round to `x`;
the decimal is given as a quotient. -/
def readsBack (x : Binary) (num den : Nat) : Bool :=
  let y := ofRatio num den
  y.num * x.den == x.num * y.den

end Binary

/-- The number of decimal digits of `n`, and one for zero. -/
def width (n : Nat) : Nat := (Nat.toDigits 10 n).length

/-- The power of ten, as a quotient, that is one step of the grid on which `num / den` has
`count` digits: `10 ^ (e - count)` where `10 ^ (e - 1) ≤ num / den < 10 ^ e`. -/
def leadingExponent (num den : Nat) : Int :=
  if den ≤ num then Int.ofNat (width (num / den))
  else
    -- the quotient is below one: count the zeros behind the point
    let scaled := den / num
    let zeros := width scaled - 1
    if den ≤ num * Nat.pow 10 zeros then 1 - Int.ofNat zeros else -Int.ofNat zeros

/-- The digits and the exponent of the shortest decimal that reads back as `x`, looked for on
grids of `count`, `count + 1`, … digits; `fuel` bounds the number of grids. -/
def shortestFrom (x : Binary) (lead : Int) : Nat → Nat → Nat × Int
  | 0, _ => (x.num, 0)
  | fuel + 1, count =>
    let e := lead - Int.ofNat count
    let (gridNum, gridDen) := if 0 ≤ e then (Nat.pow 10 e.toNat, 1) else (1, Nat.pow 10 (-e).toNat)
    let below := x.num * gridDen / (x.den * gridNum)
    let rest := x.num * gridDen % (x.den * gridNum)
    let fits (d : Nat) : Bool := x.readsBack (d * gridNum) gridDen
    let nearerBelow := 2 * rest < x.den * gridNum
    match fits below, fits (below + 1) with
    | true, true => (if nearerBelow then below else below + 1, e)
    | true, false => (below, e)
    | false, true => (below + 1, e)
    | false, false => shortestFrom x lead fuel (count + 1)

/-- The digits `d` and the exponent `e` of the shortest decimal `d * 10 ^ e`. -/
def shortest (x : Binary) : Nat × Int := shortestFrom x (leadingExponent x.num x.den) 18 1

/-- `digits * 10 ^ e` in positional notation, without zeros at the end of the fraction. -/
def positional (digits : Nat) (e : Int) : String :=
  let text := Nat.toDigits 10 digits
  if 0 ≤ e then String.ofList (text ++ List.replicate e.toNat '0')
  else
    let places := (-e).toNat
    let text := List.replicate (places + 1 - text.length) '0' ++ text
    let whole := text.take (text.length - places)
    let fraction := (text.drop (text.length - places)).reverse.dropWhile (· = '0') |>.reverse
    String.ofList (if fraction.isEmpty then whole else whole ++ '.' :: fraction)

/-- The text of a binary fraction. -/
def Binary.text (x : Binary) : String :=
  if x.mantissa = 0 then "0" else
    let (digits, e) := shortest x
    positional digits e

end Intercept.Decimal

namespace Intercept

/-- A span of time, in whole seconds and nanoseconds below one second. -/
structure Duration where
  seconds : Nat
  nanoseconds : Nat
deriving DecidableEq, Repr, Inhabited

/-- The span in seconds as a binary fraction: the sum of the two parts, each rounded. -/
def Duration.inSeconds (d : Duration) : Decimal.Binary :=
  (Decimal.Binary.ofRatio d.seconds 1).add (Decimal.Binary.ofRatio d.nanoseconds 1000000000)

/-- The span in seconds, written as a decimal. -/
def Duration.text (d : Duration) : String := d.inSeconds.text

end Intercept
