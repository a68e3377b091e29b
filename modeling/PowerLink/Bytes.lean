/-!
# Byte strings

Everything on the line is a list of bytes, and every word wider than a byte is
sent with its high byte first.
-/

namespace PowerLink

abbrev Bytes := List UInt8

namespace Bytes

/-- The two bytes of a 16 bit word, high byte first. -/
def ofWord (word : UInt16) : Bytes :=
  [(word >>> 8).toUInt8, word.toUInt8]

/-- The 16 bit word with the given high and low byte. -/
def toWord (high low : UInt8) : UInt16 :=
  (high.toUInt16 <<< 8) ||| low.toUInt16

/-- The four bytes of a 32 bit word, high byte first. -/
def ofDoubleWord (word : UInt32) : Bytes :=
  [(word >>> 24).toUInt8, (word >>> 16).toUInt8, (word >>> 8).toUInt8, word.toUInt8]

def toDoubleWord (a b c d : UInt8) : UInt32 :=
  (a.toUInt32 <<< 24) ||| (b.toUInt32 <<< 16) ||| (c.toUInt32 <<< 8) ||| d.toUInt32

/-- The sum of the bytes as a natural number. -/
def sum (bytes : Bytes) : Nat :=
  bytes.foldl (fun total byte => total + byte.toNat) 0

end Bytes

end PowerLink
