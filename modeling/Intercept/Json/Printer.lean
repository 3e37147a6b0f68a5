/-
# Writing JSON

The compact spelling: no blanks, members in the order of the value, and in strings the fewest
escapes.
-/
import Intercept.Json.Value

namespace Intercept.Json

/-- One byte of a string as it is written. -/
def escapeByte (b : UInt8) : Bytes :=
  if b = 34 then [92, 34]
  else if b = 92 then [92, 92]
  else if b = 8 then [92, 98]
  else if b = 12 then [92, 102]
  else if b = 10 then [92, 110]
  else if b = 13 then [92, 114]
  else if b = 9 then [92, 116]
  else if b < 32 then
    [92, 117, 48, 48] ++ [b.toNat / 16, b.toNat % 16].map fun n => UInt8.ofNat (Bytes.hexDigit n).toNat
  else [b]

/-- A string between its quotes. -/
def renderString (content : Bytes) : Bytes := 34 :: content.flatMap escapeByte ++ [34]

mutual

/-- The bytes of a value. -/
def render : Json → Bytes
  | .null => [110, 117, 108, 108]
  | .bool true => [116, 114, 117, 101]
  | .bool false => [102, 97, 108, 115, 101]
  | .number literal => literal
  | .string content => renderString content
  | .array [] => [91, 93]
  | .array (first :: rest) => 91 :: (render first ++ (renderItems rest ++ [93]))
  | .object [] => [123, 125]
  | .object ((key, first) :: rest) =>
    123 :: (renderString key ++ 58 :: (render first ++ (renderMembers rest ++ [125])))

/-- The further items of an array, each behind a comma. -/
def renderItems : List Json → Bytes
  | [] => []
  | item :: rest => 44 :: (render item ++ renderItems rest)

/-- The further members of an object, each behind a comma. -/
def renderMembers : List (Bytes × Json) → Bytes
  | [] => []
  | (key, value) :: rest => 44 :: (renderString key ++ 58 :: (render value ++ renderMembers rest))

end

end Intercept.Json
