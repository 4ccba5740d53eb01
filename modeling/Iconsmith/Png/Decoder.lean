import Iconsmith.Bitmap
import Iconsmith.Codec.Reader
import Iconsmith.Deflate.Inflate
import Iconsmith.Png.Header
import Iconsmith.Png.Scanline

/-!
Reading PNG files. The header alone decides the sides of an image; the chunks up to the first image
data decide whether its dimensions can be told at all.
-/

namespace Iconsmith.Png

open Codec

structure Preamble where
  header : Header
  palette : Option ByteArray
  transparency : Option ByteArray
  dataAt : Nat

/-- Chunks that are known to have no influence on the pixels or are handled elsewhere. -/
def knownCritical : List Kind := [Kind.palette, Kind.data, Kind.imageEnd]

/-- Read the chunks from `pos` on up to the first image data. There are at most `steps` of them. A
chunk with a wrong check is passed over unless it is critical. -/
def readPreamble (b : ByteArray) : Nat → Preamble → Nat → Except Fault Preamble
  | 0, _, _ => .error .unexpectedEnd
  | steps + 1, p, pos => do
    let c ← Chunk.read b pos
    if c.kind = Kind.data then return { p with dataAt := pos }
    if !c.isWhole b then throw .unexpectedEnd
    if !c.checks b then
      if Kind.isCritical c.kind then throw (c.badCheck b)
      readPreamble b steps p c.stop
    else if c.kind = Kind.imageEnd then throw (malformed "IDAT or fdAT chunk is missing.")
    else if c.kind = Kind.palette then
      readPreamble b steps { p with palette := some (c.content b) } c.stop
    else if c.kind = Kind.transparency then
      readPreamble b steps { p with transparency := some (c.content b) } c.stop
    else if Kind.isCritical c.kind && c.kind ∉ knownCritical then
      throw (malformed ("Unrecognized critical chunk: " ++ Kind.describe c.kind))
    else readPreamble b steps p c.stop

/-- All that comes before the image data of a file. A row of the image must fit into the room that
there is. -/
def preambleWithin (room : Nat) (b : ByteArray) : Except Fault Preamble := do
  let h ← Header.ofFile b
  checkRoom room (h.rowBytes h.width.toNat)
  readPreamble b b.size ⟨h, none, none, 0⟩ Header.stop

def preamble (b : ByteArray) : Except Fault Preamble := preambleWithin maxMemory b

def dimensions (b : ByteArray) : Except Fault Size := do return (← preamble b).header.size

/-- The image data of consecutive chunks from `pos` on, and what went wrong behind them. -/
def gatherData (b : ByteArray) : Nat → Nat → ByteArray → ByteArray × Option Fault
  | 0, _, acc => (acc, some .unexpectedEnd)
  | steps + 1, pos, acc =>
    match Chunk.read b pos with
    | .error f => (acc, some f)
    | .ok c =>
      if c.kind ≠ Kind.data then (acc, none)
      else
        let acc := acc ++ c.content b
        if !c.isWhole b then (acc, some .unexpectedEnd)
        else if !c.checks b then (acc, some (c.badCheck b))
        else gatherData b steps c.stop acc

/-- A pass of an interlaced image: the first pixel and the steps in both directions. -/
structure Pass where
  left : Nat
  top : Nat
  stepX : Nat
  stepY : Nat

namespace Pass

def interlaced : List Pass :=
  [⟨0, 0, 8, 8⟩, ⟨4, 0, 8, 8⟩, ⟨0, 4, 4, 8⟩, ⟨2, 0, 4, 4⟩, ⟨0, 2, 2, 4⟩, ⟨1, 0, 2, 2⟩, ⟨0, 1, 1, 2⟩]

def whole : Pass := ⟨0, 0, 1, 1⟩

def count (side first step : Nat) : Nat := (side - first + step - 1) / step

def columns (p : Pass) (h : Header) : Nat := count h.width.toNat p.left p.stepX

/-- Rows of a pass in an image; a pass without columns has no rows. -/
def rows (p : Pass) (h : Header) : Nat :=
  if p.columns h = 0 then 0 else count h.height.toNat p.top p.stepY

/-- Bytes of a pass with its filter bytes. -/
def bytes (p : Pass) (h : Header) : Nat := p.rows h * (1 + h.rowBytes (p.columns h))

end Pass

def passes (h : Header) : List Pass := if h.interlaced then Pass.interlaced else [.whole]

def unfilterPasses (h : Header) (data : ByteArray) :
    List Pass → Nat → Except Nat (List (Pass × Array ByteArray))
  | [], _ => .ok []
  | p :: ps, start => do
    let step := max 1 (h.pixelBits / 8)
    let rows ← unfilterRows data (h.rowBytes (p.columns h)) step (p.rows h) start .empty #[]
    return (p, rows) :: (← unfilterPasses h data ps (start + p.bytes h))

def sample (depth : Nat) (row : ByteArray) (i : Nat) : Nat :=
  if depth = 8 then Bytes.nat row i
  else if depth = 16 then Bytes.be16 row (2 * i)
  else
    let perByte := 8 / depth
    Bytes.nat row (i / perByte) >>> (8 - depth - depth * (i % perByte)) % (1 <<< depth)

/-- Pixel number `x` of a row. `narrow` makes bytes of samples of 16 bits. -/
def pixelOf (narrow : Nat → UInt8) (p : Preamble) (row : ByteArray) (x : Nat) : Pixel :=
  let depth := p.header.depth
  let channels := p.header.kind.channels
  let raw (c : Nat) := sample depth row (channels * x + c)
  let byte (c : Nat) : UInt8 :=
    if depth = 16 then narrow (raw c) else if depth = 8 then (raw c).toUInt8
    else byteOfBits (raw c) depth
  let key (t : ByteArray) (c : Nat) : Bool := raw c == Bytes.be16 t (2 * c) % (1 <<< depth)
  match p.header.kind with
  | .gray =>
    let v := byte 0
    let hidden := match p.transparency with
      | some t => 2 ≤ t.size && key t 0
      | none => false
    ⟨v, v, v, if hidden then 0 else 255⟩
  | .rgb =>
    let hidden := match p.transparency with
      | some t => 6 ≤ t.size && key t 0 && key t 1 && key t 2
      | none => false
    ⟨byte 0, byte 1, byte 2, if hidden then 0 else 255⟩
  | .indexed =>
    let i := raw 0
    let pal := p.palette.getD .empty
    let alpha := match p.transparency with
      | some t => if i < t.size then Bytes.byte t i else 255
      | none => 255
    if 3 * i + 2 < pal.size then
      ⟨Bytes.byte pal (3 * i), Bytes.byte pal (3 * i + 1), Bytes.byte pal (3 * i + 2), alpha⟩
    else ⟨0, 0, 0, alpha⟩
  | .grayAlpha =>
    let v := byte 0
    ⟨v, v, v, byte 1⟩
  | .rgba => ⟨byte 0, byte 1, byte 2, byte 3⟩

/-- Put the pixels of a pass into an image of `width` columns. -/
def scatter (narrow : Nat → UInt8) (p : Preamble) (width : Nat) (image : Array Pixel) (pass : Pass)
    (rows : Array ByteArray) : Array Pixel :=
  let columns := pass.columns p.header
  rows.toList.zipIdx.foldl (fun image (row, j) =>
    (List.range columns).foldl (fun image i =>
      image.setIfInBounds ((pass.top + j * pass.stepY) * width + pass.left + i * pass.stepX)
        (pixelOf narrow p row i)) image) image

def assemble (narrow : Nat → UInt8) (p : Preamble) (parts : List (Pass × Array ByteArray)) : Bitmap :=
  let h := p.header
  if h.interlaced then
    let blank := Array.replicate (h.width.toNat * h.height.toNat) Pixel.clear
    .ofPixels h.width h.height
      (parts.foldl (fun image (pass, rows) => scatter narrow p h.width.toNat image pass rows) blank)
  else
    let rows := match parts with
      | (_, rows) :: _ => rows
      | [] => #[]
    .ofFn h.width h.height fun x y => pixelOf narrow p ((rows[y]?).getD .empty) x

/-- Transparency counts only where the kind of colour has none of its own. -/
def Preamble.hasTransparency (p : Preamble) : Bool :=
  p.transparency.isSome && p.header.kind ≠ .grayAlpha && p.header.kind ≠ .rgba

/-- Number of samples of a pixel once an image is expanded. -/
def Preamble.channels (p : Preamble) : Nat :=
  let base := if p.header.kind = .indexed then 3 else p.header.kind.channels
  if p.hasTransparency then base + 1 else base

/-- An image as it was read, with its samples before they are brought to bytes. -/
structure Image where
  preamble : Preamble
  bitmap : Bitmap

/-- The kind and number of samples of an image once it is expanded: letters for gray, colour and
alpha, then the bits of a sample. -/
def Image.colourName (i : Image) : String :=
  let letters := match i.preamble.channels with
    | 1 => "L"
    | 2 => "La"
    | 3 => "Rgb"
    | _ => "Rgba"
  letters ++ (if i.preamble.header.depth = 16 then "16" else "8")

/-- Read a file whose samples fit into the room that there is. `narrow` makes bytes of samples of 16
bits. -/
def decodeWithin (room : Nat) (narrow : Nat → UInt8) (b : ByteArray) : Except Fault Image := do
  let p ← preambleWithin room b
  let h := p.header
  checkRoom room (h.width.toNat * h.height.toNat * p.channels * (if h.depth = 16 then 2 else 1))
  if h.kind = .indexed ∧ p.palette = none then
    throw (malformed "Missing palette of indexed image.")
  let (packed, stopped) := gatherData b b.size p.dataAt .empty
  let corrupt (f : Deflate.Fault) := malformed ("Corrupt deflate stream. " ++ f.name)
  let data ← match Deflate.inflate packed, stopped with
    | .ok data, none => pure data
    | .ok _, some f => throw f
    | .error .insufficientInput, some f => throw f
    | .error f, _ => throw (corrupt f)
  let needed := (passes h).foldl (fun n pass => n + pass.bytes h) 0
  if data.size < needed then
    throw (malformed "IDAT or fdAT chunk does not have enough data for image.")
  match unfilterPasses h data (passes h) 0 with
  | .error code => throw (malformed ("Unknown filter method " ++ Decimal.text code ++ "."))
  | .ok parts => return ⟨p, assemble narrow p parts⟩

/-- Read a file. `narrow` makes bytes of samples of 16 bits. -/
def decodeWith (narrow : Nat → UInt8) (b : ByteArray) : Except Fault Image :=
  decodeWithin maxMemory narrow b

/-- Read a file. Samples of 16 bits are rounded to bytes. -/
def decode (b : ByteArray) : Except Fault Image := decodeWith byteOf16 b

end Iconsmith.Png
