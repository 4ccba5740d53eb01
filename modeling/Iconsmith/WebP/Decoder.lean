import Iconsmith.WebP.Lossy.Frame
import Iconsmith.WebP.Transform

/-!
Reading WebP files: plain images, images with an opacity of their own, and the first frames of
animations on an empty canvas. The opacity of a lossy image is stored on its own: plainly or as the
green samples of a lossless image, and perhaps as differences to neighbours.
-/

namespace Iconsmith.WebP

open Codec

namespace Alpha

/-- What the stored numbers are differences to. -/
inductive Guess where
  | nothing
  | left
  | above
  /-- Left plus above minus corner, brought into range. -/
  | plane

/-- The guess for the next number of rows of `width` numbers. At the edges it falls back on the
neighbour that there is. -/
def Guess.next (g : Guess) (width : Nat) (known : Array UInt8) : UInt8 :=
  let i := known.size
  let back (n : Nat) : UInt8 := (known[i - n]?).getD 0
  match g with
  | nothing => 0
  | left => if i = 0 then 0 else if i % width = 0 then back width else back 1
  | above => if i = 0 then 0 else if i < width then back 1 else back width
  | plane =>
    if i = 0 then 0
    else if i % width = 0 then back width
    else if i < width then back 1
    else
      let n : Int := (back 1).toNat + (back width).toNat - (back (width + 1)).toNat
      (max 0 (min 255 n)).toNat.toUInt8

def read (size : Size) (b : ByteArray) : Except Fault (Array UInt8) := do
  if b.size = 0 then throw .shortRead
  let info := Bytes.nat b 0
  if 1 < info / 16 % 4 then throw (malformed "Alpha chunk preprocessing flag invalid")
  let guess : Guess := match info / 4 % 4 with
    | 0 => .nothing
    | 1 => .left
    | 2 => .above
    | _ => .plane
  let stored ←
    match info % 4 with
    | 0 =>
      if b.size < 1 + size.area then throw .shortRead
      pure (Bytes.slice b 1 size.area).toList.toArray
    | 1 =>
      let pixels ← (readPixelsOf size).run' ⟨b, 8⟩
      pure (pixels.map Pixel.g)
    | _ => throw (malformed "Invalid compression method")
  return stored.foldl (fun known v => known.push (guess.next size.width.toNat known + v)) #[]

end Alpha

def Chunk.bytes (c : Chunk) (b : ByteArray) : ByteArray := Bytes.slice b c.start c.length

/-- Read a lossy image whose sides must be these. -/
def readLossy (size : Size) (b : ByteArray) : Except Fault (Array Pixel) := do
  let (found, planes) ← Lossy.readFrame b
  if found ≠ size then throw badSides
  return planes.pixels size

def readTranslucent (size : Size) (data alpha : ByteArray) : Except Fault (Array Pixel) := do
  let opaques ← readLossy size data
  let opacities ← Alpha.read size alpha
  return (opaques.zip opacities).map fun (p, a) => { p with a := a }

/-- A frame of an animation: where it lies on the canvas, whether what is clear in it shows the canvas,
and its image with the knowledge of whether that has opacities. -/
structure Frame where
  x : Nat
  y : Nat
  size : Size
  blends : Bool
  hasAlpha : Bool
  pixels : Array Pixel

def readFrame (canvas : Size) (c : Chunk) : Reading Frame := do
  let b ← Reading.file
  if c.length < 32 then throw (badChunk (Bytes.ascii "ANMF"))
  Reading.goTo c.start
  let x := 2 * (← readTriple)
  let y := 2 * (← readTriple)
  let width := (← readTriple) + 1
  let height := (← readTriple) + 1
  if 16384 < width ∨ 16384 < height then throw (malformed "Image too large")
  if canvas.width.toNat < x + width ∨ canvas.height.toNat < y + height then
    throw (malformed "Frame outside image")
  let _ ← readTriple
  let flags ← Reading.byte
  let size : Size := ⟨width.toUInt32, height.toUInt32⟩
  let make (hasAlpha : Bool) (pixels : Array Pixel) : Frame :=
    ⟨x, y, size, flags &&& 2 = 0, hasAlpha, pixels⟩
  let (name, data) ← readChunk
  if c.length < data.stop - data.start + 24 then throw (badChunk name)
  if name = Bytes.ascii "VP8 " then return make false (← readLossy size (data.bytes b))
  else if name = Bytes.ascii "VP8L" then return make true (← readLossless size (data.bytes b))
  else if name = Bytes.ascii "ALPH" then
    if c.length < data.stop - data.start + 32 then throw (badChunk name)
    Reading.goTo data.stop
    let (name, inner) ← readChunk
    if c.length < data.length + inner.length + 32 then throw (badChunk name)
    return make true (← readTranslucent size (inner.bytes b) (data.bytes b))
  else throw (badChunk name)

/-- The pixel of a frame at a place of its canvas, which is clear elsewhere. -/
def Frame.pixel (f : Frame) (x y : Nat) : Pixel :=
  let w := f.size.width.toNat
  if x < f.x ∨ y < f.y ∨ f.x + w ≤ x ∨ f.y + f.size.height.toNat ≤ y then .clear
  else
    let p := (f.pixels[(y - f.y) * w + (x - f.x)]?).getD .clear
    if f.hasAlpha && f.blends && p.a = 0 then .clear else p

/-- The pixels of the image in a file, row by row from the top. -/
def pixels (b : ByteArray) : Except Fault (Array Pixel) := do
  let h ← readHeader.result b 0
  checkMemory (h.size.area * if h.hasAlpha then 4 else 3)
  let all ← match h.content with
    | .lossless data => readLossless h.size (data.bytes b)
    | .lossy data alpha =>
      if h.hasAlpha then
        match alpha with
        | some a => readTranslucent h.size (data.bytes b) (a.bytes b)
        | none => do
          let _ ← readLossy h.size (data.bytes b)
          throw missing
      else readLossy h.size (data.bytes b)
    | .animation first => do
      let f ← (readFrame h.size first).result b 0
      let width := h.size.width.toNat
      pure (Array.ofFn (n := h.size.area) fun i => f.pixel (i.val % width) (i.val / width))
  return if h.hasAlpha then all else all.map fun p => { p with a := 255 }

end Iconsmith.WebP
