import Iconsmith.Geometry.Transform
import Iconsmith.Raster.Layer

/-!
Colours that are taken from another layer.
-/

namespace Iconsmith.Raster

open Iconsmith.Geometry

/-- How a colour between the centres of pixels is found. -/
inductive Quality where
  | nearest
  | bilinear
  | bicubic
deriving DecidableEq, Repr

/-- A layer as a source of colours. -/
structure Texture where
  layer : Layer
  /-- The layer fills the plane again and again; else its border is continued. -/
  repeats : Bool
  quality : Quality
  opacity : Float32
  /-- From the layer to the picture. -/
  place : Transform

structure ReadyTexture where
  layer : Layer
  repeats : Bool
  quality : Quality
  /-- From the picture to the layer. -/
  back : Transform

/-- Prepare a texture for drawing. Colours between pixels are not needed if it only moves. -/
def Texture.ready? (t : Texture) : Option ReadyTexture :=
  t.place.inverse?.map fun back =>
    ⟨t.layer, t.repeats, if back.isShift then .nearest else t.quality, back⟩

namespace ReadyTexture

/-- The greatest number below a positive one. -/
def below (x : Float32) : Float32 := .ofBits (x.toBits - 1)

@[inline]
def wrap (repeats : Bool) (size : Nat) (v : Float32) : Float32 :=
  if repeats then
    let limit := Float32.ofNat size
    v - (v * (1 / limit)).floor * limit
  else v

/-- The pixel at a point of the layer; outside of it the nearest one. -/
@[inline]
def sample (t : ReadyTexture) (x y : Float32) : Rgba :=
  let x := wrap t.repeats t.layer.width x
  let y := wrap t.repeats t.layer.height y
  let x := min (max x 0) (below (Float32.ofNat t.layer.width))
  let y := min (max y 0) (below (Float32.ofNat t.layer.height))
  t.layer.rgba x.toUInt32.toNat y.toUInt32.toNat

@[inline]
def fraction (x : Float32) : Float32 := x - x.floor

def near (t : Float32) : Float32 := t * (t * (-21 / 18 * t + 27 / 18) + 9 / 18) + 1 / 18

def far (t : Float32) : Float32 := t * t * (t * (7 / 18) + -6 / 18)

/-- The weighted sum of the pixels on a square grid of points that starts at `(x, y)`. -/
def weigh (t : ReadyTexture) (x y : Float32) (wx wy : List Float32) : Rgba :=
  let step := fun (sum : Rgba) (wy y : Float32) =>
    (wx.foldl (fun (acc : Rgba × Float32) wx =>
      let (sum, x) := acc
      let w := wx * wy
      (Rgba.zip (fun s v => w * v + s) sum (t.sample x y), x + 1)) (sum, x)).1
  (wy.foldl (fun (acc : Rgba × Float32) wy =>
    let (sum, y) := acc
    (step sum wy y, y + 1)) (Rgba.clear, y)).1

def rgba (t : ReadyTexture) (x y : Nat) : Rgba :=
  let px := Float32.ofNat x + 0.5
  let py := Float32.ofNat y + 0.5
  let m := t.back
  let u := px * m.sx + (py * m.kx + m.tx)
  let v := px * m.ky + (py * m.sy + m.ty)
  match t.quality with
  | .nearest => t.sample u v
  | .bilinear =>
    let fx := fraction (u + 0.5)
    let fy := fraction (v + 0.5)
    t.weigh (u - 0.5) (v - 0.5) [1 - fx, fx] [1 - fy, fy]
  | .bicubic =>
    let weights := fun f : Float32 => [far (1 - f), near (1 - f), near f, far f]
    let c := t.weigh (u - 1.5) (v - 1.5) (weights (fraction (u + 0.5))) (weights (fraction (v + 0.5)))
    c.map fun part => min (max part 0) 1

end ReadyTexture
end Iconsmith.Raster
