import Iconsmith.Checksum

/-!
Writing a zlib stream of stored blocks. Nothing is made smaller, and nothing can be lost.
-/

namespace Iconsmith.Deflate

def maxStored : Nat := 65535

def storedBlock (last : Bool) (data : ByteArray) : ByteArray :=
  Bytes.ofList ((if last then 1 else 0) :: Bytes.putLe16 data.size ++
    Bytes.putLe16 (65535 - data.size)) ++ data

/-- The data from `start` on in stored blocks, of which there are at most `steps + 1`. -/
def storedBlocks (data : ByteArray) (start : Nat) : Nat → ByteArray
  | 0 => storedBlock true (data.extract start data.size)
  | steps + 1 =>
    if data.size ≤ start + maxStored then storedBlock true (data.extract start data.size)
    else
      storedBlock false (data.extract start (start + maxStored)) ++
        storedBlocks data (start + maxStored) steps

/-- A zlib stream of stored blocks, with its checksum. -/
def store (data : ByteArray) : ByteArray :=
  Bytes.ofList [0x78, 0x01] ++ storedBlocks data 0 (data.size / maxStored) ++
    Bytes.ofList (Bytes.putBe32 (Checksum.adler data))

end Iconsmith.Deflate
