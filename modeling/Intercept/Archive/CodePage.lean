/-
# Names in code page 437

An archive entry whose name is not marked as Unicode text is named in the code page of the
first personal computers: ASCII, and a table for the bytes above it.
-/
import Intercept.Bytes

namespace Intercept.CodePage

/-- The characters of the bytes from 128 on. -/
def upperHalf : Array Char := (
  "ÇüéâäàåçêëèïîìÄÅÉæÆôöòûùÿÖÜ¢£¥₧ƒáíóúñÑªº¿⌐¬½¼¡«»" ++
  "░▒▓│┤╡╢╖╕╣║╗╝╜╛┐└┴┬├─┼╞╟╚╔╩╦╠═╬╧╨╤╥╙╘╒╓╫╪┘┌█▄▌▐▀" ++
  "αßΓπΣσµτΦΘΩδ∞φε∩≡±≥≤⌠⌡÷≈°∙·√ⁿ²■\u00a0").toList.toArray

/-- The character of a byte. -/
def char (b : UInt8) : Char :=
  if b < 128 then Char.ofNat b.toNat else upperHalf.getD (b.toNat - 128) '?'

/-- The text of bytes. -/
def decode (bytes : Bytes) : String := String.ofList (bytes.map char)

end Intercept.CodePage
