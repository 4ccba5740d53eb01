import Iconsmith.Codec.Reader
import Iconsmith.Tga.Header

/-!
Reading TGA files: packets are unpacked, indices are resolved, and the rows and columns are brought
into order.
-/

namespace Iconsmith.Tga

open Codec

/-- Unpack `total` bytes of pixels of `step` bytes. A packet repeats one pixel or holds several.
Every packet adds a pixel, so that `steps` is bounded by their number. -/
def unpack (step total : Nat) : Nat → ByteArray → Reading ByteArray
  | 0, acc => pure acc
  | steps + 1, acc => do
    if total ≤ acc.size then return acc
    let head ← Reading.byte
    let count := head % 128 + 1
    if 128 ≤ head then
      let pixel ← Reading.take step
      unpack step total steps ((List.range count).foldl (fun acc _ => acc ++ pixel) acc)
    else
      let bytes ← Reading.take (min (count * step) (total - acc.size))
      unpack step total steps (acc ++ bytes)

/-- The bytes of all pixels or indices in the order of the file. -/
def readRaw (h : Header) : Reading ByteArray :=
  let count := h.size.width.toNat * h.size.height.toNat
  if h.isPacked then unpack h.rawBytes (count * h.rawBytes) (count + 1) .empty
  else Reading.take (count * h.rawBytes)

def entryAt? (p : Preamble) (index : Nat) : Option Nat :=
  let start := p.header.entryBytes * (index - p.header.mapOrigin)
  if p.header.mapOrigin ≤ index ∧ start + p.header.entryBytes ≤ p.colourMap.size then some start
  else none

def Colour.pixel (c : Colour) (b : ByteArray) (i : Nat) : Pixel :=
  let byte (k : Nat) := Bytes.byte b (i + k)
  match c with
  | .bgra => ⟨byte 2, byte 1, byte 0, byte 3⟩
  | .bgr => ⟨byte 2, byte 1, byte 0, 255⟩
  | .fiveBits =>
    let word := Bytes.le16 b i
    let part (shift : Nat) := byteOfRange (word >>> shift % 32) 31
    ⟨part 10, part 5, part 0, 255⟩
  | .grayAlpha => ⟨byte 0, byte 0, byte 0, byte 1⟩
  | .gray => .gray (byte 0)

def pixelNumber (p : Preamble) (raw : ByteArray) (i : Nat) : Except Fault Pixel :=
  if p.header.isMapped then
    let index := if p.header.rawBytes = 1 then Bytes.nat raw i else Bytes.le16 raw (2 * i)
    match entryAt? p index with
    | some start => .ok (p.colour.pixel p.colourMap start)
    | none => .error (malformed "Invalid color map index")
  else .ok (p.colour.pixel raw (i * p.header.rawBytes))

/-- The number in the file of the pixel that stands at a place. -/
def Header.numberOf (h : Header) (x y : Nat) : Nat :=
  let width := h.size.width.toNat
  let x := if h.fromRight then width - 1 - x else x
  let y := if h.fromBottom then h.size.height.toNat - 1 - y else y
  y * width + x

/-- The pixels of the image in a file, row by row from the top. -/
def pixels (b : ByteArray) : Except Fault (Array Pixel) := do
  let p ← readPreamble.result b 0
  let raw ← (readRaw p.header).result b p.dataAt
  let width := p.header.size.width.toNat
  (Array.range (width * p.header.size.height.toNat)).mapM fun i =>
    pixelNumber p raw (p.header.numberOf (i % width) (i / width))

end Iconsmith.Tga
