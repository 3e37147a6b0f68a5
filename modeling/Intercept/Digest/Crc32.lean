/-
# The CRC-32 checksum

The checksum that zip archives keep of their entries: the remainder of the message under the
reflected polynomial `0xedb88320`, begun and ended with all bits turned over.
-/
import Intercept.Bytes

namespace Intercept.Crc32

/-- The remainder after `n` more bits, taken from the low end. -/
def shift : Nat → UInt32 → UInt32
  | 0, r => r
  | n + 1, r => shift n (if r &&& 1 = 1 then (r >>> 1) ^^^ 0xedb88320 else r >>> 1)

/-- The remainder after one more byte. -/
def step (r : UInt32) (b : UInt8) : UInt32 := shift 8 (r ^^^ b.toUInt32)

/-- The checksum of a message. -/
def checksum (message : Bytes) : UInt32 := ~~~(message.foldl step 0xffffffff)

end Intercept.Crc32
