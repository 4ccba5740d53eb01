import Iconsmith.Codec.Reader
import Iconsmith.Size

/-!
Reading farbfeld files: a mark, two sides, and four samples of two bytes for each pixel.
-/

namespace Iconsmith.Farbfeld

open Codec

def malformed (detail : String) : Fault := .malformed .farbfeld detail

def hexByte (v : UInt8) : String :=
  String.ofList (Nat.toDigits 16 (v.toNat / 16) ++ Nat.toDigits 16 (v.toNat % 16))

def readHeader : Reading Size := do
  let mark ← Reading.take 8
  if mark.toList ≠ Bytes.ascii "farbfeld" then
    throw (malformed ("Invalid magic: [" ++ ", ".intercalate (mark.toList.map hexByte) ++ "]"))
  let width ← Reading.be32
  let height ← Reading.be32
  return ⟨width.toUInt32, height.toUInt32⟩

/-- The sides of the image in a file. A header that is not whole breaks the rules of the format,
and the samples of an image must be countable in 64 bits. -/
def dimensions (b : ByteArray) : Except Fault Size :=
  match readHeader.result b 0 with
  | .error (.input reason) => .error (malformed reason)
  | .error f => .error f
  | .ok size =>
    if 1 <<< 64 ≤ 8 * size.area then
      .error (.feature .farbfeld ("Image dimensions (" ++ size.text ++ ") are too large"))
    else .ok size

/-- The pixels of the image in a file, row by row from the top. -/
def pixels (b : ByteArray) : Except Fault (Array Pixel) := do
  let size ← dimensions b
  checkMemory (8 * size.area)
  if b.size < 16 + 8 * size.area then throw .shortRead
  return Array.ofFn (n := size.area) fun i =>
    let part (c : Nat) := byteOf16 (Bytes.be16 b (16 + 8 * i.val + 2 * c))
    ⟨part 0, part 1, part 2, part 3⟩

end Iconsmith.Farbfeld
