import Iconsmith.Checksum
import Iconsmith.Deflate.Inflate

/-!
Compressed files that hold one stream: a header with optional fields, the stream, a check of the data and
its length. What follows is not looked at.
-/

namespace Iconsmith.Deflate

def isGzip (b : ByteArray) : Bool := Bytes.hasAt b 0 [0x1F, 0x8B]

/-- The position behind the next zero byte. -/
def behindZero (b : ByteArray) : Nat → Nat → Option Nat
  | 0, _ => none
  | fuel + 1, i =>
    if b.size ≤ i then none
    else if Bytes.byte b i == 0 then some (i + 1)
    else behindZero b fuel (i + 1)

def gzipBody? (b : ByteArray) : Option Nat := do
  if b.size < 10 || Bytes.byte b 2 != 8 then none
  let flags := Bytes.nat b 3
  if flags ≥ 32 then none
  let i : Nat := 10
  let i ← if flags / 4 % 2 = 0 then some i
    else if b.size < i + 2 then none
    else
      let next := i + 2 + Bytes.le16 b i
      if b.size < next then none else some next
  let i ← if flags / 8 % 2 = 0 then some i else behindZero b b.size i
  let i ← if flags / 16 % 2 = 0 then some i else behindZero b b.size i
  if flags / 2 % 2 = 0 then return i
  else if b.size < i + 2 then none
  else if (Checksum.crc (b.extract 0 i)).toNat % 65536 != Bytes.le16 b i then none
  else return i + 2

def gunzip? (b : ByteArray) : Option ByteArray := do
  let start ← gzipBody? b
  match inflateRaw b start with
  | .error _ => none
  | .ok (data, stop) =>
    if b.size < stop + 8 then none
    else if (Checksum.crc data).toNat != Bytes.le32 b stop then none
    else if data.size % (1 <<< 32) != Bytes.le32 b (stop + 4) then none
    else return data

end Iconsmith.Deflate
