import Iconsmith.Bytes

/-!
The two checksums of compressed image data: a cyclic redundancy check over 32 bits and the Adler
sum.
-/

namespace Iconsmith.Checksum

/-- One bit of the cyclic redundancy check, with the bits in reversed order. -/
def crcBit (c : UInt32) : UInt32 :=
  if c &&& 1 == 1 then (0xEDB88320 : UInt32) ^^^ (c >>> 1) else c >>> 1

def crcEntry (n : Nat) : UInt32 :=
  crcBit (crcBit (crcBit (crcBit (crcBit (crcBit (crcBit (crcBit n.toUInt32)))))))

def crcTable : Array UInt32 := (Array.range 256).map crcEntry

def crcStep (c : UInt32) (b : UInt8) : UInt32 :=
  (crcTable[((c ^^^ b.toUInt32) &&& 0xFF).toNat]?).getD 0 ^^^ (c >>> 8)

/-- The cyclic redundancy check of a row of bytes. -/
def crc (bytes : ByteArray) : UInt32 := bytes.foldl crcStep 0xFFFFFFFF ^^^ 0xFFFFFFFF

def adlerStep (s : Nat × Nat) (b : UInt8) : Nat × Nat :=
  let low := (s.1 + b.toNat) % 65521
  (low, (s.2 + low) % 65521)

/-- The Adler sum of a row of bytes. -/
def adler (bytes : ByteArray) : Nat :=
  let (low, high) := bytes.foldl adlerStep (1, 0)
  high * 65536 + low

end Iconsmith.Checksum
