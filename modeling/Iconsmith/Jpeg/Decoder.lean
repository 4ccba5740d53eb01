import Iconsmith.Bitmap
import Iconsmith.Jpeg.Progress

/-!
Reading JPEG files: planes of samples for each component, and the colours that the planes make up.
-/

namespace Iconsmith.Jpeg

open Codec

/-- The samples of a component in whole blocks. -/
structure Plane where
  width : Nat
  samples : Array UInt8

namespace Plane

def put (p : Plane) (bx bY : Nat) (block : Array UInt8) : Plane :=
  { p with samples := (List.range 64).foldl (fun s i =>
      s.setIfInBounds ((8 * bY + i / 8) * p.width + 8 * bx + i % 8) ((block[i]?).getD 0)) p.samples }

/-- The plane of a component: its blocks, of which `stride` make up a row. -/
def ofCoefficients (stride : Nat) (a : Coefficients) (table : Array Nat) : Plane :=
  (List.range (a.size / 64)).foldl (fun p i =>
    p.put (i % stride) (i / stride) (Jpeg.samples a (64 * i) table))
    ⟨8 * stride, Array.replicate a.size 0⟩

def sample (p : Plane) (x y : Nat) : Nat := ((p.samples[y * p.width + x]?).getD 0).toNat

/-- The sample of a plane of `w` columns and `h` rows at a place of an image that has `fx` columns
and `fy` rows for each of them. For two of them the nearer one counts three times as much as the
other. -/
def stretched (p : Plane) (w h fx fy x y : Nat) : Nat :=
  let near (f side i : Nat) : Nat × Nat :=
    let c := i / f
    if f ≠ 2 then (c, c) else if i % 2 = 0 then (c, c - 1) else (c, min (c + 1) (side - 1))
  let (cx, nx) := near fx w x
  let (cy, ny) := near fy h y
  let column (cx : Nat) : Nat :=
    if cy = ny then p.sample cx cy else (3 * p.sample cx cy + p.sample cx ny + 2) / 4
  if cx = nx then column cx else (3 * column cx + column nx + 2) / 4

end Plane

/-- Red, green and blue of a brightness and two colour differences, in arithmetic with 14 places. -/
def colour (y cb cr : Nat) : Pixel :=
  let base : Int := y * 16384 + 8191
  let cb := (cb : Int) - 128
  let cr := (cr : Int) - 128
  ⟨clampSample ((base + cr * 22970).fdiv 16384),
    clampSample ((base - cr * 11700 - cb * 5638).fdiv 16384),
    clampSample ((base + cb * 29032).fdiv 16384), 255⟩

/-- Red, green and blue of three inks and black, all of them as the amount of paper left. -/
def printed (c m y k : Nat) : Pixel :=
  let through (ink : Nat) : UInt8 :=
    let t := ink * k + 128
    ((t + t / 256) / 256).toUInt8
  ⟨through c, through m, through y, 255⟩

def ColorModel.pixel (m : ColorModel) (sample : Nat → Nat) : Pixel :=
  match m with
  | luma => .gray (sample 0).toUInt8
  | rgb => ⟨(sample 0).toUInt8, (sample 1).toUInt8, (sample 2).toUInt8, 255⟩
  | ycc => colour (sample 0) (sample 1) (sample 2)
  | cmyk => printed (sample 0) (sample 1) (sample 2) (sample 3)
  | ycck =>
    let p := colour (sample 0) (sample 1) (sample 2)
    printed (255 - p.r.toNat) (255 - p.g.toNat) (255 - p.b.toNat) (sample 3)

def tables (h : Header) (f : Frame) : Except Fault (List (Array Nat)) :=
  f.components.zipIdx.mapM fun (c, k) =>
    match lookUp h.quantization c.table with
    | some t => .ok t.toArray
    | none =>
      .error (malformed ("Error parsing DQT segment. Reason:No quantization table for component " ++
        componentName k))

/-- The pixels of the image in a file, row by row from the top. -/
def pixels (b : ByteArray) : Except Fault (Array Pixel) := do
  let h ← readHeader.result b 0
  let some f := h.frame | throw (quoted "Image contains no frame")
  let isThree := f.components.length = 3
  let model : ColorModel := if isThree ∧ h.model = .cmyk then .rgb else h.model
  checkMemory (h.size.area * if model = .luma then 1 else 3)
  let _ ← tables h f
  if !f.progressive then
    let _ ← sources h false
  if f.components.length < model.components then
    throw (quoted (" Expected " ++ Decimal.text model.components ++
      " number of components but found " ++ Decimal.text f.components.length))
  let components := (match f.components with
    | [c] => [{ c with across := 1, down := 1 }]
    | all => all).toArray
  let across := components.foldl (fun n c => max n c.across) 1
  let down := components.foldl (fun n c => max n c.down) 1
  let width := h.size.width.toNat
  let height := h.size.height.toNat
  let count (n d : Nat) : Nat := (n + d - 1) / d
  let columns := count width (8 * across)
  let rows := count height (8 * down)
  let grids := components.map fun c =>
    (⟨c.across, c.down, columns * c.across, count (count (width * c.across) across) 8,
      count (count (height * c.down) down) 8⟩ : Grid)
  let stores := components.map fun c =>
    Array.replicate (64 * columns * c.across * rows * c.down) (0 : Int)
  let (h, stores) ← readScans b f ⟨columns, rows, grids⟩ b.size [] h stores
  let quantization := (← tables h f).toArray
  let planes := stores.mapIdx fun k a =>
    Plane.ofCoefficients (((grids[k]?).map Grid.stride).getD 1) a ((quantization[k]?).getD #[])
  let sample (x y k : Nat) : Nat :=
    match planes[k]?, components[k]? with
    | some p, some c =>
      let fx := across / c.across
      let fy := down / c.down
      p.stretched (count width fx) (count height fy) fx fy x y
    | _, _ => 0
  return Array.ofFn (n := h.size.area) fun i => model.pixel (sample (i.val % width) (i.val / width))

end Iconsmith.Jpeg
