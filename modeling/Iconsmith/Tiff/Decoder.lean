import Iconsmith.Bitmap
import Iconsmith.Codec.Reader
import Iconsmith.Deflate.Inflate
import Iconsmith.Lzw
import Iconsmith.Size
import Iconsmith.Tiff.Directory

/-!
Reading the first image of a TIFF file, which is stored in pieces: strips of rows, or tiles. Every
piece is unpacked on its own.
-/

namespace Iconsmith.Tiff

open Codec

inductive Colour where
  | gray
  | grayAlpha
  | rgb
  | rgba
  | cmyk
deriving DecidableEq, Repr

namespace Colour

def channels : Colour → Nat
  | gray => 1
  | grayAlpha => 2
  | rgb => 3
  | rgba | cmyk => 4

end Colour

/-- What the samples of a row are differences to. -/
inductive Predictor where
  | none
  /-- The samples of the pixel on the left. -/
  | left
  /-- The bytes on the left, where the first bytes of all samples come first, then the second ones. -/
  | bytes
deriving DecidableEq, Repr

/-- The pieces of an image: their sides, how many of them make up a row, and the position and the
length of each. -/
structure Pieces where
  width : Nat
  height : Nat
  across : Nat
  places : List (Nat × Nat)

structure Header where
  size : Size
  colour : Colour
  order : Order
  /-- Bits of a sample: 1, 8, 16, or 32 for a floating-point number. -/
  bits : Nat
  /-- Zero stands for white. -/
  inverted : Bool
  compression : Nat
  predictor : Predictor
  pieces : Pieces

def feature (detail : String) : Fault := .feature .tiff detail

def unknownColour (bits : Nat) : Fault :=
  .colour .tiff ("Unknown(" ++ Decimal.text (min bits 255) ++ ")")

def listText (l : List Nat) : String := "[" ++ ", ".intercalate (l.map Decimal.text) ++ "]"

def photometricName : Nat → String
  | 0 => "WhiteIsZero"
  | 1 => "BlackIsZero"
  | 2 => "RGB"
  | 3 => "RGBPalette"
  | 4 => "TransparencyMask"
  | 5 => "CMYK"
  | 6 => "YCbCr"
  | _ => "CIELab"

/-- The samples of a pixel before it is known whether they can be read. -/
inductive Samples where
  | gray
  | grayAlpha
  | palette
  | rgb
  | rgba
  | cmyk
  | cmykAlpha
  | ycc
  | other (count : Nat)

namespace Samples

/-- The samples of an image by its kind of colour, their number and whether the last one of them is
alpha. -/
def ofKind? (photometric count : Nat) (hasAlpha : Bool) : Option Samples :=
  match photometric, count with
  | 0, 1 => some gray
  | 1, 1 => some gray
  | 0, n => some (if n = 2 ∧ hasAlpha then grayAlpha else other n)
  | 1, n => some (if n = 2 ∧ hasAlpha then grayAlpha else other n)
  | 2, 3 => some rgb
  | 2, 4 => some rgba
  | 3, 1 => some palette
  | 5, 4 => some cmyk
  | 5, 5 => some cmykAlpha
  | 6, 3 => some ycc
  | _, _ => none

/-- Samples that have no place in an image of numbers, in messages. -/
def strange? (s : Samples) (bits : Nat) : Option String :=
  let d := Decimal.text bits
  match s with
  | palette => some ("Palette(" ++ d ++ ") for " ++ d ++ " bits")
  | ycc => some ("YCbCr(" ++ d ++ ") for " ++ d ++ " bits")
  | cmykAlpha => some ("CMYKA(" ++ d ++ ")")
  | other n => some ("Multiband \x7b bit_depth: " ++ d ++ ", num_samples: " ++ Decimal.text n ++ " \x7d")
  | _ => none

def colour (s : Samples) (bits : Nat) : Except Fault Colour :=
  match s with
  | gray => if bits ∈ [1, 8, 16] then .ok .gray else .error (unknownColour bits)
  | grayAlpha => if bits ∈ [8, 16] then .ok .grayAlpha else .error (unknownColour (bits * 2))
  | rgb => if bits ∈ [8, 16, 32] then .ok .rgb else .error (unknownColour (bits * 3))
  | rgba => if bits ∈ [8, 16, 32] then .ok .rgba else .error (unknownColour (bits * 4))
  | cmyk => if bits ∈ [8, 16] then .ok .cmyk else .error (unknownColour (bits * 4))
  | palette => .error (unknownColour bits)
  | ycc => .error (unknownColour (bits * 3))
  | cmykAlpha => .error (unknownColour 0)
  | other n => .error (unknownColour (bits * n))

end Samples

def wrongSamples (photometric bits count : Nat) : Fault :=
  feature (photometricName photometric ++ " with " ++ listText (List.replicate count bits) ++
    " bits per sample is unsupported")

/-- Samples must be whole numbers of up to 16 bits, or floating-point numbers of 32. The format is only
looked at where the directory has one. -/
def checkFormat (s : Samples) (bits format : Nat) : Except Fault Unit :=
  match s.strange? bits with
  | some name => .error (feature ("Unhandled TIFF color type " ++ name))
  | none =>
    let refused (name : String) : Except Fault Unit :=
      .error (feature ("Unhandled TIFF sample format " ++ name ++ " for " ++ Decimal.text bits ++
        " bits"))
    match format with
    | 1 => if bits ≤ 16 then .ok () else refused "Uint"
    | 2 => refused "Int"
    | 3 => if bits = 32 then .ok () else refused "IEEEFP"
    | 4 => refused "Void"
    | _ => .error (feature "Unhandled TIFF sample format")

def inconsistent : Fault := malformed "inconsistent sizes encountered"

def readTileSide (d : Directory) (b : ByteArray) (tag : Nat) (name : String) : Except Fault Nat := do
  let n ← d.require b tag name
  if n = 0 then throw (malformed ("tag `" ++ name ++ "` did not have the expected value type"))
  return n

/-- The pieces of an image whose samples are stored in a number of planes. -/
def readPieces (d : Directory) (b : ByteArray) (width height planes : Nat) : Except Fault Pieces := do
  let list (tag : Nat) : Except Fault (List Nat) := do return (← d.values? b tag).getD []
  match d.has 279, d.has 273, d.has 325, d.has 324 with
  | true, true, false, false =>
    let offsets ← list 273
    let lengths ← list 279
    let rows ← d.first b 278 height
    if rows = 0 ∨ offsets.length ≠ lengths.length ∨
        offsets.length ≠ ((height - 1) / rows + 1) * planes then
      throw inconsistent
    return ⟨width, rows, 1, offsets.zip lengths⟩
  | false, false, true, true =>
    let tileWidth ← readTileSide d b 322 "TileWidth"
    let tileHeight ← readTileSide d b 323 "TileLength"
    let offsets ← list 324
    let lengths ← list 325
    let across := (width + tileWidth - 1) / tileWidth
    let down := (height + tileHeight - 1) / tileHeight
    if offsets.length ≠ lengths.length ∨ offsets.length ≠ across * down * planes then
      throw inconsistent
    return ⟨tileWidth, tileHeight, across, offsets.zip lengths⟩
  | _, _, _, _ =>
    throw (malformed ("file should contain either (StripByteCounts and StripOffsets) or " ++
      "(TileByteCounts and TileOffsets), other combination was found"))

def readHeader (b : ByteArray) : Except Fault Header := do
  let d ← Directory.readFirst.result b 0
  let width ← d.require b 256 "ImageWidth"
  let height ← d.require b 257 "ImageLength"
  let size : Size := ⟨width.toUInt32, height.toUInt32⟩
  if width = 0 ∨ height = 0 then throw (malformed ("invalid dimensions: " ++ size.text))
  let photometric ← d.first b 262 99
  if photometric ∉ [0, 1, 2, 3, 4, 5, 6, 8] then
    throw (feature "the image is using an unknown photometric interpretation")
  let compression ← d.first b 259 1
  let count ← d.first b 277 1
  if count = 0 then throw (malformed "samples per pixel is zero")
  let formats ← d.values? b 339
  let allBits := (← d.values? b 258).getD [1]
  let bits := allBits.headD 0
  if allBits.length ≠ count ∧ allBits.length ≠ 1 then throw inconsistent
  if bits = 0 ∨ allBits.any (· ≠ bits) then
    throw (feature ("inconsistent bits per sample: " ++ listText allBits))
  let predictor ← match ← d.first b 317 1 with
    | 1 => pure Predictor.none
    | 2 => pure Predictor.left
    | 3 => pure Predictor.bytes
    | n => throw (malformed ("unknown predictor “" ++ Decimal.text n ++ "” encountered"))
  let arrangement ← d.first b 284 1
  if arrangement ≠ 1 ∧ arrangement ≠ 2 then
    throw (malformed ("unknown planar configuration “" ++ Decimal.text arrangement ++ "” encountered"))
  let pieces ← readPieces d b width height (if arrangement = 2 then count else 1)
  let extra := (← d.values? b 338).getD []
  let some samples := Samples.ofKind? photometric count (extra.any fun e => e = 1 ∨ e = 2)
    | throw (wrongSamples photometric bits count)
  (formats.getD []).forM (checkFormat samples bits)
  if arrangement = 2 then throw (feature "PlanarConfiguration = 2")
  let colour ← samples.colour bits
  return ⟨size, colour, d.order, bits, photometric = 0, compression, predictor, pieces⟩

namespace Header

def rowBytes (h : Header) : Nat := (h.pieces.width * h.colour.channels * h.bits + 7) / 8

/-- Number of rows of a piece that belong to the image. -/
def rowsOf (h : Header) (piece : Nat) : Nat :=
  min h.pieces.height (h.size.height.toNat - piece / h.pieces.across * h.pieces.height)

end Header

/-- The names of the ways of packing that are known but not supported. -/
def compressionName : Nat → String
  | 2 => "Huffman"
  | 3 => "Fax3"
  | 4 => "Fax4"
  | 6 => "JPEG"
  | 7 => "ModernJPEG"
  | 0xC350 => "ZSTD"
  | n => "Unknown(" ++ Decimal.text n ++ ")"

/-- Unpack runs of bytes: literal ones, or one that is repeated. Every run takes a byte at least, so
that `steps` is bounded by their number. -/
def unpackRuns (b : ByteArray) (wanted : Nat) : Nat → Nat → ByteArray → ByteArray
  | 0, _, out => out
  | steps + 1, pos, out =>
    if wanted ≤ out.size ∨ b.size ≤ pos then out
    else
      let n := Bytes.nat b pos
      if n < 128 then unpackRuns b wanted steps (pos + 2 + n) (out ++ Bytes.slice b (pos + 1) (n + 1))
      else if n = 128 then unpackRuns b wanted steps (pos + 1) out
      else
        let run := List.replicate (257 - n) (Bytes.byte b (pos + 1))
        unpackRuns b wanted steps (pos + 2) (run.foldl ByteArray.push out)

def unpack (compression : Nat) (packed : ByteArray) (wanted : Nat) : Except Fault ByteArray := do
  let out ← match compression with
    | 1 => pure packed
    | 5 =>
      match Lzw.expand ⟨8, true, true⟩ packed wanted with
      | (_, .invalid) => throw (.input "invalid code in LZW stream")
      | (out, _) => pure out
    | 8 | 0x80B2 =>
      match Deflate.inflate packed with
      | .ok out => pure out
      | .error .insufficientInput => throw .shortRead
      | .error _ => throw (.input "corrupt deflate stream")
    | 0x8005 => pure (unpackRuns packed wanted packed.size 0 .empty)
    | other => throw (feature ("compression method " ++ compressionName other ++ " is unsupported"))
  if out.size < wanted then throw .shortRead
  return out.extract 0 wanted

/-- Add up differences to what lies a distance back. `top` is one more than the greatest number. -/
def accumulate (top back : Nat) (row : Array Nat) : Array Nat :=
  (List.range row.size).foldl (fun row i =>
    if i < back then row
    else row.setIfInBounds i
      (((row[i]?).getD 0 + (row[i - back]?).getD 0) % top)) row

def readRow (h : Header) (rows : ByteArray) (start : Nat) : Array Nat :=
  let count := h.pieces.width * h.colour.channels
  match h.predictor with
  | .bytes =>
    let bytes := accumulate 256 h.colour.channels
      ((Array.range (4 * count)).map fun i => Bytes.nat rows (start + i))
    let byte (i : Nat) : Nat := (bytes[i]?).getD 0
    (Array.range count).map fun i =>
      ((byte i * 256 + byte (count + i)) * 256 + byte (2 * count + i)) * 256 + byte (3 * count + i)
  | p =>
    let row := (Array.range count).map fun i =>
      match h.bits with
      | 1 => (Bytes.nat rows (start + i / 8) >>> (7 - i % 8)) % 2
      | 8 => Bytes.nat rows (start + i)
      | 16 => h.order.word rows (start + 2 * i)
      | _ => h.order.long rows (start + 4 * i)
    if p = .left then accumulate (1 <<< h.bits) h.colour.channels row else row

def readAll (h : Header) (b : ByteArray) :
    List ((Nat × Nat) × Nat) → Array (Array (Array Nat)) → Except Fault (Array (Array (Array Nat)))
  | [], all => .ok all
  | ((offset, length), i) :: rest, all => do
    let count := h.rowsOf i
    let rows ← unpack h.compression (Bytes.slice b offset length) (count * h.rowBytes)
    readAll h b rest (all.push ((Array.range count).map fun y => readRow h rows (y * h.rowBytes)))

def sampleByte (h : Header) (v : Nat) : UInt8 :=
  match h.bits with
  | 1 => if (v = 1) != h.inverted then 255 else 0
  | 8 => (if h.inverted then 255 - v else v).toUInt8
  | 16 => byteOf16 (if h.inverted then 65535 - v else v)
  | _ => byteOfUnit (Float32.ofBits v.toUInt32)

/-- Part of a colour that is left by an ink and by black, of samples up to `top`. -/
def inkLeft (top : Nat) (ink black : Nat) : UInt8 :=
  let most := top.toFloat32
  let left := (most - ink.toFloat32) * (1 - black.toFloat32 / most)
  if top = 255 then left.toUInt8 else byteOf16 left.toUInt16.toNat

def pixelAt (h : Header) (row : Array Nat) (i : Nat) : Pixel :=
  let raw (c : Nat) : Nat := (row[i + c]?).getD 0
  let part (c : Nat) : UInt8 := sampleByte h (raw c)
  match h.colour with
  | .gray => .gray (part 0)
  | .grayAlpha => ⟨part 0, part 0, part 0, part 1⟩
  | .rgb => ⟨part 0, part 1, part 2, 255⟩
  | .rgba => ⟨part 0, part 1, part 2, part 3⟩
  | .cmyk =>
    let left (c : Nat) : UInt8 := inkLeft (1 <<< h.bits - 1) (raw c) (raw 3)
    ⟨left 0, left 1, left 2, 255⟩

def dimensions (b : ByteArray) : Except Fault Size := (readHeader b).map Header.size

/-- The pixels of the image in a file, row by row from the top. -/
def pixels (b : ByteArray) : Except Fault (Array Pixel) := do
  let h ← readHeader b
  checkMemory (h.size.area * h.colour.channels * max 1 (h.bits / 8))
  if h.predictor = .bytes ∧ h.bits ≠ 32 then
    throw (feature "floating point predictor for whole numbers is unsupported")
  let all ← readAll h b h.pieces.places.zipIdx #[]
  let width := h.size.width.toNat
  return Array.ofFn (n := h.size.area) fun i =>
    let x := i.val % width
    let y := i.val / width
    let piece := (all[y / h.pieces.height * h.pieces.across + x / h.pieces.width]?).getD #[]
    pixelAt h ((piece[y % h.pieces.height]?).getD #[]) (x % h.pieces.width * h.colour.channels)

end Iconsmith.Tiff
