import Iconsmith.Checksum
import Iconsmith.Codec.Reader
import Iconsmith.Size

/-!
The parts of a PNG file: its signature, its chunks and the header of the image.
-/

namespace Iconsmith.Png

open Codec

def signature : List UInt8 := [0x89, 0x50, 0x4E, 0x47, 0x0D, 0x0A, 0x1A, 0x0A]

def malformed (detail : String) : Fault := .malformed .png detail

/-- The kind of a chunk: four letters, whose case carries flags. -/
abbrev Kind := List UInt8

namespace Kind

def ofText (s : String) : Kind := Bytes.ascii s

def header : Kind := ofText "IHDR"

def palette : Kind := ofText "PLTE"

def transparency : Kind := ofText "tRNS"

def data : Kind := ofText "IDAT"

def imageEnd : Kind := ofText "IEND"

/-- The bit that makes a letter a small one. -/
def isSmall (b : UInt8) : Bool := b &&& 32 != 0

/-- A reader that does not know the chunk cannot go on. -/
def isCritical (k : Kind) : Bool := !isSmall (k.getD 0 0)

/-- A letter in a message; what is no letter is shown by its code. -/
def letter (b : UInt8) : String :=
  if 0x20 ≤ b && b < 0x7F then String.singleton (Char.ofNat b.toNat)
  else "\\x" ++ String.ofList (let ds := Nat.toDigits 16 b.toNat; if ds.length < 2 then '0' :: ds else ds)

def describe (k : Kind) : String :=
  let flag (b : Bool) := if b then "true" else "false"
  "ChunkType \x7b type: " ++ String.join (k.map letter) ++
    ", critical: " ++ flag (isCritical k) ++
    ", private: " ++ flag (isSmall (k.getD 1 0)) ++
    ", reserved: " ++ flag (isSmall (k.getD 2 0)) ++
    ", safecopy: " ++ flag (isSmall (k.getD 3 0)) ++ " \x7d"

end Kind

/-- A chunk found in a file: its kind, the position of its data, and their length. -/
structure Chunk where
  kind : Kind
  start : Nat
  length : Nat

namespace Chunk

/-- The chunk whose length stands at a position. -/
def read (b : ByteArray) (pos : Nat) : Except Fault Chunk :=
  if b.size < pos + 8 then .error .unexpectedEnd
  else
    .ok ⟨[Bytes.byte b (pos + 4), Bytes.byte b (pos + 5), Bytes.byte b (pos + 6),
      Bytes.byte b (pos + 7)], pos + 8, Bytes.be32 b pos⟩

/-- The position behind a chunk and its check. -/
def stop (c : Chunk) : Nat := c.start + c.length + 4

def isWhole (c : Chunk) (b : ByteArray) : Bool := c.stop ≤ b.size

def content (c : Chunk) (b : ByteArray) : ByteArray := Bytes.slice b c.start c.length

def computedCheck (c : Chunk) (b : ByteArray) : Nat :=
  (Checksum.crc (Bytes.slice b (c.start - 4) (c.length + 4))).toNat

def storedCheck (c : Chunk) (b : ByteArray) : Nat := Bytes.be32 b (c.start + c.length)

def hex (n : Nat) : String := "0x" ++ String.ofList (Nat.toDigits 16 n)

def badCheck (c : Chunk) (b : ByteArray) : Fault :=
  malformed ("CRC error: expected " ++ hex (c.storedCheck b) ++ " have " ++
    hex (c.computedCheck b) ++ " while decoding " ++ Kind.describe c.kind ++ " chunk.")

def checks (c : Chunk) (b : ByteArray) : Bool := c.storedCheck b == c.computedCheck b

end Chunk

inductive ColourKind where
  | gray
  | rgb
  | indexed
  | grayAlpha
  | rgba
deriving DecidableEq, Repr

namespace ColourKind

def ofCode? : Nat → Option ColourKind
  | 0 => some gray
  | 2 => some rgb
  | 3 => some indexed
  | 4 => some grayAlpha
  | 6 => some rgba
  | _ => none

def name : ColourKind → String
  | gray => "Grayscale"
  | rgb => "Rgb"
  | indexed => "Indexed"
  | grayAlpha => "GrayscaleAlpha"
  | rgba => "Rgba"

def channels : ColourKind → Nat
  | gray => 1
  | rgb => 3
  | indexed => 1
  | grayAlpha => 2
  | rgba => 4

def allows : ColourKind → Nat → Bool
  | gray, _ => true
  | indexed, d => d ≤ 8
  | _, d => 8 ≤ d

end ColourKind

structure Header where
  width : UInt32
  height : UInt32
  depth : Nat
  kind : ColourKind
  interlaced : Bool
deriving DecidableEq, Repr

namespace Header

def size (h : Header) : Size := ⟨h.width, h.height⟩

def pixelBits (h : Header) : Nat := h.kind.channels * h.depth

/-- Number of bytes of a row of `width` pixels, without its filter byte. -/
def rowBytes (h : Header) (width : Nat) : Nat := (width * h.pixelBits + 7) / 8

def depthName : Nat → String
  | 1 => "One"
  | 2 => "Two"
  | 4 => "Four"
  | 8 => "Eight"
  | _ => "Sixteen"

/-- The header in the 13 bytes from `pos` on. Its fields are judged in file order, except that the
kind of colour is judged together with the number of bits. -/
def read (b : ByteArray) (pos : Nat) : Except Fault Header := do
  let width := Bytes.be32 b pos
  let height := Bytes.be32 b (pos + 4)
  if width = 0 ∨ height = 0 then throw (malformed "Invalid image dimensions")
  let depth := Bytes.nat b (pos + 8)
  if depth ∉ [1, 2, 4, 8, 16] then
    throw (malformed ("Invalid bit depth " ++ Decimal.text depth ++ "."))
  let code := Bytes.nat b (pos + 9)
  match ColourKind.ofCode? code with
  | none => throw (malformed ("Invalid color type " ++ Decimal.text code ++ "."))
  | some kind =>
    if !kind.allows depth then
      throw (malformed ("Invalid color/depth combination in header: " ++ kind.name ++ "/" ++
        depthName depth))
    let compression := Bytes.nat b (pos + 10)
    if compression ≠ 0 then
      throw (malformed ("Unknown compression method " ++ Decimal.text compression ++ "."))
    let filtering := Bytes.nat b (pos + 11)
    if filtering ≠ 0 then
      throw (malformed ("Unknown filter method " ++ Decimal.text filtering ++ "."))
    let interlace := Bytes.nat b (pos + 12)
    if 1 < interlace then
      throw (malformed ("Unknown interlace method " ++ Decimal.text interlace ++ "."))
    return ⟨width.toUInt32, height.toUInt32, depth, kind, interlace = 1⟩

def length : Nat := 13

def ofFile (b : ByteArray) : Except Fault Header := do
  if b.size < 4 then throw .unexpectedEnd
  if !Bytes.hasAt b 0 (signature.take 4) then throw (malformed "Invalid PNG signature.")
  if b.size < 8 then throw .unexpectedEnd
  if !Bytes.hasAt b 0 signature then throw (malformed "Invalid PNG signature.")
  let c ← Chunk.read b 8
  if c.kind ≠ Kind.header then
    throw (malformed (Kind.describe c.kind ++ " chunk appeared before IHDR chunk"))
  if !c.isWhole b then throw .unexpectedEnd
  if !c.checks b then throw (c.badCheck b)
  if c.length ≠ length then
    throw (malformed ("Chunk length wrong: " ++ Kind.describe c.kind))
  read b c.start

def stop : Nat := 8 + 12 + length

end Header
end Iconsmith.Png
