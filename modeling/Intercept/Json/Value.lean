/-
# JSON values

A value keeps what its text says and no more: numbers stay as they were written, members stay in
order and may repeat a key, and a string is the list of bytes it stands for.  A lone surrogate in
an escape becomes the three bytes that would encode it, which are not well formed, so that such a
string reads as no text.
-/
import Intercept.Text.Utf8

namespace Intercept

/-- A JSON value. -/
inductive Json where
  | null
  | bool (value : Bool)
  | number (literal : Bytes)
  | string (content : Bytes)
  | array (items : List Json)
  | object (members : List (Bytes × Json))
deriving Repr, Inhabited

namespace Json

/-- The string that holds a text. -/
def text (s : String) : Json := .string (Utf8.encode s)

/-- The number `n`. -/
def nat (n : Nat) : Json := .number (Utf8.encode (toString n))

/-- The text of a string value, if it is one and is well formed. -/
def text? : Json → Option String
  | .string content => Utf8.decode? content
  | _ => none

/-- The number of a value written as a whole number without sign, fraction or exponent. -/
def nat? : Json → Option Nat
  | .number literal => Bytes.decimal? literal
  | _ => none

/-- The truth value of a value that is one. -/
def bool? : Json → Option Bool
  | .bool value => some value
  | _ => none

end Json

end Intercept
