/-
# Quoted texts

Messages and log fields show a text between double quotes.  Quotes and backslashes in it are
written with a backslash, the common controls by their letter, every other hidden character by
its code point, and all else as it is.
-/
import Intercept.Text.Hidden

namespace Intercept.Text

/-- The hexadecimal digits of a number, without leading zeros. -/
def hexDigits (n : Nat) : List Char := Nat.toDigits 16 n

/-- One character as it stands between the quotes. -/
def quotedChar (c : Char) : List Char :=
  if c = '"' then ['\\', '"']
  else if c = '\\' then ['\\', '\\']
  else if c = '\n' then ['\\', 'n']
  else if c = '\r' then ['\\', 'r']
  else if c = '\t' then ['\\', 't']
  else if c.toNat = 0 then ['\\', '0']
  else if isHidden c then ['\\', 'u', '\x7b'] ++ hexDigits c.toNat ++ ['\x7d']
  else [c]

/-- A text between double quotes. -/
def quoted (text : String) : String :=
  String.ofList ('"' :: text.toList.flatMap quotedChar ++ ['"'])

/-- An optional number the way log fields show it: `Some(10)`, or `None`. -/
def shownOption : Option Nat → String
  | some n => "Some(" ++ toString n ++ ")"
  | none => "None"

end Intercept.Text
