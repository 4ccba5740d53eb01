import Iconsmith.Codec.Reader
import Iconsmith.Decimal
import Iconsmith.Size

/-!
The header of TGA files. A header has no mark of its own; it is told from its sides, its image type
and its numbers of bits only.
-/

namespace Iconsmith.Tga

open Codec

structure Header where
  identLength : Nat
  mapType : Nat
  imageType : Nat
  mapOrigin : Nat
  mapLength : Nat
  mapBits : Nat
  size : Size
  depth : Nat
  flags : Nat
deriving Repr

namespace Header

/-- Pixels are runs and literals. -/
def isPacked (h : Header) : Bool := h.imageType ∈ [9, 10, 11]

/-- Pixels are indices into a colour map. -/
def isMapped (h : Header) : Bool := h.imageType ∈ [1, 9]

def isColour (h : Header) : Bool := h.imageType ∈ [1, 2, 9, 10]

/-- The last row comes first. -/
def fromBottom (h : Header) : Bool := h.flags / 32 % 2 == 0

/-- The last column comes first. -/
def fromRight (h : Header) : Bool := h.flags / 16 % 2 == 1

def alphaBits (h : Header) : Nat := h.flags % 16

/-- Bits of a pixel, once indices are resolved. -/
def pixelBits (h : Header) : Nat := if h.mapType = 1 then h.mapBits else h.depth

def rawBytes (h : Header) : Nat := (h.depth + 7) / 8

def entryBytes (h : Header) : Nat := (h.mapBits + 7) / 8

end Header

inductive Colour where
  | bgra
  | bgr
  /-- Five bits each of red, green and blue. -/
  | fiveBits
  | grayAlpha
  /-- Gray, or alpha alone, which is taken for gray. -/
  | gray
deriving DecidableEq, Repr

/-- The kinds of pixel that are supported, by bits of alpha, other bits, and whether there are
colours. -/
def Colour.of? : Nat → Nat → Bool → Option Colour
  | 0, 32, true | 8, 24, true => some .bgra
  | 0, 24, true => some .bgr
  | 1, 15, true | 0, 15, true | 0, 16, true => some .fiveBits
  | 8, 8, false => some .grayAlpha
  | 0, 8, false | 8, 0, false => some .gray
  | _, _, _ => none

def malformed (detail : String) : Fault := .malformed .tga detail

def readFixed : Reading Header := do
  let identLength ← Reading.byte
  let mapType ← Reading.byte
  let imageType ← Reading.byte
  let mapOrigin ← Reading.le16
  let mapLength ← Reading.le16
  let mapBits ← Reading.byte
  Reading.skipWords 1
  let width ← Reading.le16
  let height ← Reading.le16
  let depth ← Reading.byte
  let flags ← Reading.byte
  return ⟨identLength, mapType, imageType, mapOrigin, mapLength, mapBits,
    ⟨width.toUInt32, height.toUInt32⟩, depth, flags⟩

/-- The kind of pixel that a header asks for. An image has pixels, and one with a colour map has
indices that are not longer than its colours. -/
def Header.colour (h : Header) : Except Fault Colour := do
  if h.size.width = 0 ∨ h.size.height = 0 then throw (malformed "Invalid empty image")
  if h.isMapped then
    if h.mapType ≠ 1 then throw (malformed "Color map type must be 1 for color mapped images")
    if h.depth ∉ [8, 16] then throw (malformed "Color map must use 1 or 2 byte indexes")
    if h.mapBits < h.depth then throw (malformed "Indices larger than pixel values")
  if h.pixelBits < h.alphaBits then throw (malformed "More alpha bits than pixel bits")
  match Colour.of? h.alphaBits (h.pixelBits - h.alphaBits) h.isColour with
  | some c => return c
  | none => throw (.colour .tga ("Unknown(" ++ Decimal.text h.depth ++ ")"))

structure Preamble where
  header : Header
  colour : Colour
  colourMap : ByteArray
  dataAt : Nat

def readPreamble : Reading Preamble := do
  let h ← readFixed
  let c ← h.colour
  let _ ← Reading.advance h.identLength
  if h.mapType ≠ 1 then return ⟨h, c, .empty, ← Reading.position⟩
  if h.entryBytes ∉ [2, 3, 4] then throw (malformed "Unsupported color map entry size")
  let colourMap ← Reading.take (h.entryBytes * h.mapLength)
  return ⟨h, c, colourMap, ← Reading.position⟩

def dimensions (b : ByteArray) : Except Fault Size :=
  (readPreamble.result b 0).map fun p => p.header.size

end Iconsmith.Tga
